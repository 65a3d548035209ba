/-!
# Log records and the console logger

Every part of the loader reports what it does as records: a level, the
component that speaks, and a message. A logger lets a record through when the
record's level is at most the logger's own, and prints it as one console line.
-/

set_option autoImplicit false

namespace Bootloader.Log

/-- How important a record is, the most urgent level first. -/
inductive Level where
  | error
  | warn
  | info
  | debug
  | trace
  deriving DecidableEq, Repr, Inhabited

namespace Level

/-- All levels, the most urgent first. -/
def all : List Level :=
  [error, warn, info, debug, trace]

/-- Position of a level, the most urgent at one; zero is left for a logger that is silent. -/
def rank : Level → Nat
  | error => 1
  | warn => 2
  | info => 3
  | debug => 4
  | trace => 5

/-- The word printed in front of a record of this level. -/
def label : Level → String
  | error => "ERROR"
  | warn => "WARN"
  | info => "INFO"
  | debug => "DEBUG"
  | trace => "TRACE"

end Level

/-- The parts of the loader that write records. -/
inductive Component where
  | context
  | commands
  | programs
  | blobs
  | kernels
  | placement
  | page
  | devices
  | files
  | link
  | digests
  | signatures
  deriving DecidableEq, Repr, Inhabited

/-- The name under which a component appears on the console. -/
def Component.path : Component → String
  | .context => "plo::context"
  | .commands => "plo::cmd"
  | .programs => "plo::cmd::app"
  | .blobs => "plo::cmd::blob"
  | .kernels => "plo::cmd::kernel"
  | .placement => "plo::loader"
  | .page => "plo_syspage::syspage"
  | .devices => "plo_phfs::device"
  | .files => "plo_phfs::phfs"
  | .link => "plo_phfs::phoenixd"
  | .digests => "plo_secure::hash"
  | .signatures => "plo_secure::ecdsa"

/-- One thing that was reported. -/
structure Record where
  level : Level
  target : String
  message : String
  deriving DecidableEq, Repr, Inhabited

/-- The record of a component. -/
def Component.report (component : Component) (level : Level) (message : String) : Record :=
  ⟨level, component.path, message⟩

/-- A record as a console line. -/
def Record.render (record : Record) : String :=
  "[" ++ record.level.label ++ "] " ++ record.target ++ ": " ++ record.message ++ "\n"

/-- A logger prints the records up to its maximum level; without one it is silent. -/
structure Logger where
  maximum : Option Level
  deriving DecidableEq, Repr, Inhabited

namespace Logger

/-- Whether records of a level are printed. -/
def enabled (logger : Logger) (level : Level) : Bool :=
  match logger.maximum with
  | none => false
  | some maximum => level.rank ≤ maximum.rank

/-- What one record adds to the console. -/
def print (logger : Logger) (record : Record) : String :=
  if logger.enabled record.level then record.render else ""

/-- What a list of records adds to the console. -/
def printAll (logger : Logger) (records : List Record) : String :=
  String.join (records.map logger.print)

end Logger

end Bootloader.Log
