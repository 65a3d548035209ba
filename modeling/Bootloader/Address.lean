import Bootloader.Text.Number

/-!
# Physical addresses

An address is a 64-bit number kept apart from plain sizes and offsets. Addresses
are compared as natural numbers. Moving an address forward and rounding it up
are partial, because the result may lie beyond the address space; rounding is
done to a power of two.
-/

set_option autoImplicit false

namespace Bootloader

/-- A physical address. -/
structure Address where
  value : UInt64
  deriving DecidableEq, Repr, Inhabited

namespace Address

/-- The number of an address. -/
def toNat (address : Address) : Nat :=
  address.value.toNat

/-- The address of a number, modulo the size of the address space. -/
def ofNat (number : Nat) : Address :=
  ⟨UInt64.ofNat number⟩

/-- The lowest address, which also stands for a place that was not reported. -/
def zero : Address := ⟨0⟩

/-- Whether an address is the lowest one. -/
def isZero (address : Address) : Bool :=
  address.value == 0

instance : LE Address := ⟨fun first second => first.toNat ≤ second.toNat⟩

instance : LT Address := ⟨fun first second => first.toNat < second.toNat⟩

instance (first second : Address) : Decidable (first ≤ second) :=
  inferInstanceAs (Decidable (first.toNat ≤ second.toNat))

instance (first second : Address) : Decidable (first < second) :=
  inferInstanceAs (Decidable (first.toNat < second.toNat))

instance : Min Address := ⟨fun first second => if first ≤ second then first else second⟩

instance : Max Address := ⟨fun first second => if first ≤ second then second else first⟩

theorem le_def {first second : Address} : first ≤ second ↔ first.toNat ≤ second.toNat :=
  Iff.rfl

theorem lt_def {first second : Address} : first < second ↔ first.toNat < second.toNat :=
  Iff.rfl

theorem toNat_lt (address : Address) : address.toNat < UInt64.size :=
  address.value.toNat_lt

theorem toNat_inj {first second : Address} : first.toNat = second.toNat ↔ first = second := by
  obtain ⟨first⟩ := first
  obtain ⟨second⟩ := second
  simp only [toNat, UInt64.toNat_inj, mk.injEq]

theorem toNat_ofNat_of_lt {number : Nat} (fits : number < UInt64.size) :
    (ofNat number).toNat = number :=
  UInt64.toNat_ofNat_of_lt fits

theorem toNat_min (first second : Address) :
    (min first second).toNat = min first.toNat second.toNat := by
  show (if first ≤ second then first else second).toNat = _
  split <;> simp only [le_def] at * <;> omega

theorem toNat_max (first second : Address) :
    (max first second).toNat = max first.toNat second.toNat := by
  show (if first ≤ second then second else first).toNat = _
  split <;> simp only [le_def] at * <;> omega

/-- The address of a number, if it lies in the address space. -/
def ofNat? (number : Nat) : Option Address :=
  if number < UInt64.size then some (ofNat number) else none

/-- The address `count` bytes further, if there is one. -/
def advance? (address : Address) (count : Nat) : Option Address :=
  ofNat? (address.toNat + count)

/-- The number of bytes from `base` up to the address, if it does not lie below. -/
def distance? (address base : Address) : Option UInt64 :=
  if base ≤ address then some (address.value - base.value) else none

/-- The address moved on by a displacement, around the end of the address space. -/
def displace (address : Address) (displacement : UInt64) : Address :=
  ⟨address.value + displacement⟩

/-- A power of two that addresses are rounded to. -/
structure Alignment where
  exponent : Nat
  exponent_lt : exponent < 64
  deriving DecidableEq, Repr

/-- The size of the blocks of an alignment. -/
def Alignment.size (alignment : Alignment) : Nat :=
  1 <<< alignment.exponent

/-- The alignment of a given size, if that is a power of two. -/
def Alignment.ofSize? (size : UInt64) : Option Alignment :=
  let exponent := size.toNat.log2
  if fits : exponent < 64 then
    if 1 <<< exponent = size.toNat then some ⟨exponent, fits⟩ else none
  else none

/-- The start of the block an address lies in. -/
def alignDown (address : Address) (alignment : Alignment) : Address :=
  ofNat (address.toNat / alignment.size * alignment.size)

/-- The lowest start of a block that does not lie below the address, if there is one. -/
def alignUp? (address : Address) (alignment : Alignment) : Option Address :=
  (address.advance? (alignment.size - 1)).map (·.alignDown alignment)

/-- Whether no bit below the alignment is set. -/
def isAligned (address : Address) (alignment : UInt64) : Bool :=
  address.value &&& (alignment - 1) == 0

/-- An address in text: hexadecimal, with at least eight digits. -/
def render (address : Address) : String :=
  Text.paddedHex 8 address.toNat

end Address

/-- The address with its kind in front. -/
def Address.describe (address : Address) : String :=
  "PA(" ++ address.render ++ ")"

end Bootloader
