import Bootloader.Address

/-!
# Moving addresses

Moving forward and rounding are partial; where they give a result, the result is the
expected number. What a caller needs of either is stated once here, in terms of numbers.
-/

set_option autoImplicit false

namespace Bootloader.Address

/-- Moving forward gives the address of the sum, if there is one. -/
theorem advance?_eq_some_iff {address place : Address} {count : Nat} :
    address.advance? count = some place ↔ place.toNat = address.toNat + count := by
  unfold advance? ofNat?
  split
  case isTrue fits =>
    rw [Option.some.injEq, ← toNat_inj, toNat_ofNat_of_lt fits]
    exact eq_comm
  case isFalse large =>
    have small := place.toNat_lt
    constructor
    · intro impossible
      cases impossible
    · intro reached
      exact absurd (reached ▸ small) large

theorem Alignment.size_pos (alignment : Alignment) : 0 < alignment.size := by
  rw [size, Nat.one_shiftLeft]
  exact Nat.two_pow_pos _

theorem toNat_alignDown (address : Address) (alignment : Alignment) :
    (address.alignDown alignment).toNat =
      address.toNat / alignment.size * alignment.size :=
  toNat_ofNat_of_lt (Nat.lt_of_le_of_lt (Nat.div_mul_le_self _ _) address.toNat_lt)

/-- Rounding up does not lead below the address. -/
theorem le_alignUp {address aligned : Address} {alignment : Alignment}
    (rounded : address.alignUp? alignment = some aligned) : address ≤ aligned := by
  obtain ⟨place, reached, rfl⟩ := Option.map_eq_some_iff.mp rounded
  rw [le_def, toNat_alignDown, advance?_eq_some_iff.mp reached]
  have positive := alignment.size_pos
  have split := Nat.div_add_mod (address.toNat + (alignment.size - 1)) alignment.size
  have rest := Nat.mod_lt (address.toNat + (alignment.size - 1)) positive
  rw [Nat.mul_comm]
  omega

/-- Rounding up leads to the start of a block. -/
theorem alignUp_aligned {address aligned : Address} {alignment : Alignment}
    (rounded : address.alignUp? alignment = some aligned) :
    aligned.toNat % alignment.size = 0 := by
  obtain ⟨place, _, rfl⟩ := Option.map_eq_some_iff.mp rounded
  rw [toNat_alignDown]
  exact Nat.mul_mod_left _ _

/-- Rounding up does not lead past a block that starts no lower, and then always leads
somewhere. -/
theorem alignUp_le {address place : Address} {alignment : Alignment} (above : address ≤ place)
    (aligned : place.toNat % alignment.size = 0) :
    ∃ lowest, address.alignUp? alignment = some lowest ∧ lowest ≤ place := by
  rw [le_def] at above
  have bound := place.toNat_lt
  have whole : UInt64.size = alignment.size * 2 ^ (64 - alignment.exponent) := by
    have small := alignment.exponent_lt
    have exponents : alignment.exponent + (64 - alignment.exponent) = 64 := by omega
    rw [Alignment.size, Nat.one_shiftLeft, ← Nat.pow_add, exponents]
  have positive := alignment.size_pos
  obtain ⟨block, same⟩ := Nat.dvd_of_mod_eq_zero aligned
  -- The last block of the address space is whole, so rounding up stays inside.
  have room : place.toNat + alignment.size ≤ UInt64.size := by
    rw [same, whole] at bound
    rw [same, whole, ← Nat.mul_succ]
    exact Nat.mul_le_mul_left _ (Nat.lt_of_mul_lt_mul_left bound)
  have fits : address.toNat + (alignment.size - 1) < UInt64.size := by omega
  obtain ⟨raised, reached⟩ : ∃ raised, address.advance? (alignment.size - 1) = some raised :=
    ⟨ofNat _, if_pos fits⟩
  refine ⟨raised.alignDown alignment, ?_, ?_⟩
  · rw [alignUp?, reached, Option.map_some]
  · rw [le_def, toNat_alignDown, advance?_eq_some_iff.mp reached, same, Nat.mul_comm]
    refine Nat.mul_le_mul_left _ (Nat.lt_succ_iff.mp ((Nat.div_lt_iff_lt_mul positive).mpr ?_))
    rw [Nat.succ_mul, Nat.mul_comm block]
    omega

end Bootloader.Address
