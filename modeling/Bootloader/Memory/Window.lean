import Bootloader.Memory

/-!
# Memory made of windows

Some stretches of the address space are backed by bytes, each stretch a window.
An access has to lie in a single window; of several windows that hold the whole
range the first is used. Successful writes are counted.
-/

set_option autoImplicit false

namespace Bootloader

/-- A stretch of backed memory. -/
structure Window where
  base : Address
  bytes : Bytes
  deriving DecidableEq, Repr

namespace Window

/-- A window of zeros. -/
def zeros (base : Address) (length : Nat) : Window :=
  ⟨base, List.replicate length 0⟩

/-- Where in the window a range starts, if the window holds all of it. -/
def offset? (window : Window) (address : Address) (length : Nat) : Option Nat :=
  if window.base.toNat ≤ address.toNat ∧
      address.toNat - window.base.toNat + length ≤ window.bytes.length then
    some (address.toNat - window.base.toNat)
  else none

/-- The bytes of a range, if the window holds all of it. -/
def read? (window : Window) (address : Address) (length : Nat) : Option Bytes :=
  (window.offset? address length).map fun offset => window.bytes.slice offset length

/-- The window after a write, if it holds the whole range. -/
def write? (window : Window) (address : Address) (data : Bytes) : Option Window :=
  (window.offset? address data.length).map fun offset =>
    { window with bytes := window.bytes.overlay offset data }

end Window

/-- Memory backed by windows, with the number of writes that succeeded. -/
structure WindowMemory where
  windows : List Window
  writes : Nat
  deriving DecidableEq, Repr

namespace WindowMemory

/-- Fresh memory of zeros. -/
def ofRanges (ranges : List (Address × Nat)) : WindowMemory :=
  ⟨ranges.map fun range => Window.zeros range.1 range.2, 0⟩

/-- The windows after a write into the first that holds the range. -/
def writeFirst? (address : Address) (data : Bytes) : List Window → Option (List Window)
  | [] => none
  | window :: rest =>
      match window.write? address data with
      | some written => some (written :: rest)
      | none => (writeFirst? address data rest).map (window :: ·)

/-- The bytes of a range, from the first window that holds it. -/
def read? (memory : WindowMemory) (address : Address) (length : Nat) : Option Bytes :=
  memory.windows.findSome? fun window => window.read? address length

/-- The memory after a write, if one window holds the whole range. -/
def write? (memory : WindowMemory) (address : Address) (data : Bytes) : Option WindowMemory :=
  (writeFirst? address data memory.windows).map fun windows => ⟨windows, memory.writes + 1⟩

instance : PhysicalMemory WindowMemory where
  write memory address data :=
    match memory.write? address data with
    | some written => .ok written
    | none => .error (.outOfRange address data.length)
  read memory address length :=
    match memory.read? address length with
    | some bytes => .ok bytes
    | none => .error (.outOfRange address length)

end WindowMemory

end Bootloader
