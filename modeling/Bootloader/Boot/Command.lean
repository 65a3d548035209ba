import Bootloader.Boot.Kernel
import Bootloader.Boot.Programs
import Bootloader.Boot.Registry

/-!
# Commands and scripts

A command line is split into words at blanks; the first names the command. Blank
lines and lines that start with a hash do nothing. What goes wrong is reported,
shown on the console with its status code, and makes the line fail. A script
ends with its first line that fails.
-/

set_option autoImplicit false

namespace Bootloader

/-- The commands of the loader. -/
inductive Command where
  | app
  | appSecure
  | blob
  | blobSecure
  | file
  | go
  | help
  | kernel
  | kernelSecure
  | map
  | part
  | aliases
  | sched
  | page
  deriving DecidableEq, Repr, Inhabited

namespace Command

/-- All commands, in the order in which they are listed. -/
def all : List Command :=
  [app, appSecure, blob, blobSecure, file, go, help, kernel, kernelSecure, map, part, aliases,
    sched, page]

/-- The word that calls a command. -/
def name : Command → String
  | app => "app"
  | appSecure => "app-secure"
  | blob => "blob"
  | blobSecure => "blob-secure"
  | file => "file"
  | go => "go!"
  | help => "help"
  | kernel => "kernel"
  | kernelSecure => "kernel-sec"
  | map => "map"
  | part => "part"
  | aliases => "phfs"
  | sched => "sched"
  | page => "syspage"

/-- What is said about a command in the list of commands. -/
def summary : Command → String
  | app => "[<dev>] [-x] <name>[;argv][(offs:size)] <imaps> [dmaps]"
  | appSecure => "<dev> [-x|-xn] <name>[;argv] <imaps> <dmaps> <hash> <base64 digest>"
  | blob => "[<dev> <name> <map>]"
  | blobSecure => "<dev> <name> <map> <hash> <base64 digest>"
  | file => "<alias> <address> <size>"
  | go => "start the loaded kernel"
  | help => "list commands"
  | kernel => "[<dev>]"
  | kernelSecure => "<dev> <name> <curve> <hash> <base64 pubkey>"
  | map => "[<name> <start> <end> <attributes>]"
  | part => "[<name> <alloc maps> <access maps>]"
  | aliases => "[<alias> <major.minor> [protocol]]"
  | sched => "<size0;size1;...>"
  | page => "[<address>]"

/-- The command that a word calls. -/
def ofName? (word : String) : Option Command :=
  all.find? fun command => command.name = word

/-- The list of commands. -/
def listing : String :=
  String.join (all.map fun command =>
    Text.padRight 12 command.name ++ " " ++ command.summary ++ "\n")

end Command

/-- Whether a line or a script succeeded. -/
inductive Exit where
  | success
  | failure
  deriving DecidableEq, Repr, Inhabited

namespace Loader

variable {ω μ : Type} [Hardware ω] [PhysicalMemory μ]

/-- Start the kernel. -/
def go (arguments : List String) : BootAct ω μ Unit := do
  Act.require arguments.isEmpty (.usage "go!")
  launch

/-- Run a command. -/
def runCommand (command : Command) (arguments : List String) : BootAct ω μ Unit :=
  match command with
  | .app => app arguments
  | .appSecure => appSecure arguments
  | .blob => blob arguments
  | .blobSecure => blobSecure arguments
  | .file => addFile arguments
  | .go => go arguments
  | .help => print Command.listing
  | .kernel => kernel arguments
  | .kernelSecure => kernelSecure arguments
  | .map => addMap arguments
  | .part => addPartition arguments
  | .aliases => addAlias arguments
  | .sched => addWindows arguments
  | .page => movePage arguments

/-- Run the command that a word calls. -/
def runNamed (name : String) (arguments : List String) : BootAct ω μ Unit := do
  let command ← Act.ofOption .unknownCommand (Command.ofName? name)
  runCommand command arguments

/-- Run a command and turn an error into a report. -/
def runReported (name : String) (arguments : List String) : BootAct ω μ Exit := do
  match ← Act.attempt (runNamed name arguments) with
  | .done _ => return .success
  | .failed error => do
      let text := name ++ ": " ++ BootError.message error
      report .commands .error text
      print (text ++ " (" ++ toString (BootError.code error) ++ ")\n")
      return .failure
  | .crashed => Act.crash
  | .stalled => Act.stall

/-- Run a command line. -/
def execute (line : String) : BootAct ω μ Exit := do
  match Text.words line.toList with
  | [] => return .success
  | name :: arguments =>
      if name.head? = some '#' then return .success
      else runReported (String.ofList name) (arguments.map String.ofList)

/-- Run lines up to the first that fails. -/
def executeLines : List String → BootAct ω μ Exit
  | [] => pure .success
  | line :: rest => do
      match ← execute line with
      | .success => executeLines rest
      | .failure => return .failure

/-- Run a script line by line. -/
def runScript (script : String) : BootAct ω μ Exit :=
  executeLines ((Text.lines script.toList).map String.ofList)

end Loader

end Bootloader
