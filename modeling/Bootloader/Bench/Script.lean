import Bootloader.Device.Basic

/-!
# Scripted devices

A scripted device answers each kind of request from a list of results, whichever
instance is asked, and falls back to a plain answer when its list is used up.
What a read yields beyond the asked length stays for the next read.
-/

set_option autoImplicit false

namespace Bootloader.Bench

/-- A request as a device saw it. -/
inductive Call where
  | init
  | done
  | read (offset length timeout : Nat)
  | write (offset : Nat) (data : Bytes)
  | erase (offset length flags : Nat)
  | sync
  | map (request : MapRequest)
  | message (type : UInt16) (payload : Bytes)
  deriving DecidableEq, Repr

/-- A request with the instance that it was made to. -/
structure Entry where
  minor : Nat
  call : Call
  deriving DecidableEq, Repr

/-- The results a device will give, by the kind of request. A write without a number takes
everything. -/
structure Script where
  init : List (Except FileError Unit)
  done : List (Except FileError Unit)
  read : List (Except FileError Bytes)
  write : List (Except FileError (Option Nat))
  erase : List (Except FileError Nat)
  sync : List (Except FileError Unit)
  map : List (Except FileError Address)

namespace Script

/-- The next of a list of results, or a fallback. -/
def next {α : Type} (fallback : Except FileError α) :
    List (Except FileError α) → Except FileError α × List (Except FileError α)
  | [] => (fallback, [])
  | result :: rest => (result, rest)

/-- Bring an instance up. -/
def onInit (script : Script) : Reply Script Unit :=
  let (result, rest) := next (.ok ()) script.init
  { result, world := { script with init := rest } }

/-- Release an instance. -/
def onDone (script : Script) : Reply Script Unit :=
  let (result, rest) := next (.ok ()) script.done
  { result, world := { script with done := rest } }

/-- Flush an instance. -/
def onSync (script : Script) : Reply Script Unit :=
  let (result, rest) := next (.ok ()) script.sync
  { result, world := { script with sync := rest } }

/-- Read at most `length` bytes. -/
def onRead (script : Script) (length : Nat) : Reply Script Bytes :=
  match script.read with
  | [] => .ok script []
  | .error error :: rest => .error { script with read := rest } error
  | .ok bytes :: rest =>
      let left := bytes.drop length
      let remaining := if left.isEmpty then rest else .ok left :: rest
      .ok { script with read := remaining } (bytes.take length)

/-- Write bytes. -/
def onWrite (script : Script) (data : Bytes) : Reply Script Nat :=
  let (result, rest) := next (.ok none) script.write
  { result := result.map fun count? => count?.getD data.length,
    world := { script with write := rest } }

/-- Erase a range. -/
def onErase (script : Script) : Reply Script Nat :=
  let (result, rest) := next (.error .unsupported) script.erase
  { result, world := { script with erase := rest } }

/-- Ask whether a range can be used in place. -/
def onMap (script : Script) : Reply Script Mapping :=
  match script.map with
  | [] => .ok script .notMappable
  | result :: rest => { result := result.map Mapping.mappable, world := { script with map := rest } }

end Script

end Bootloader.Bench
