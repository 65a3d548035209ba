import Bootloader.Address
import Bootloader.Bytes

/-!
# Physical memory

The loader touches memory only by writing byte strings to addresses and reading
them back. An access either covers its whole range or fails, and a failing write
leaves the memory as it was: it returns an error and no memory.
-/

set_option autoImplicit false

namespace Bootloader

/-- Why memory refuses an access. -/
inductive MemoryError where
  | outOfRange (address : Address) (length : Nat)
  deriving DecidableEq, Repr

/-- The text of a refusal. -/
def MemoryError.message : MemoryError → String
  | .outOfRange address length =>
      "The range " ++ address.render ++ "+" ++ Text.hex length ++
        " is not backed by accessible memory"

/-- Byte-granular access to physical memory. -/
class PhysicalMemory (μ : Type) where
  write : μ → Address → Bytes → Except MemoryError μ
  read : μ → Address → Nat → Except MemoryError Bytes

end Bootloader
