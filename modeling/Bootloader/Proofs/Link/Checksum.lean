import Bootloader.Link.Frame
import Bootloader.Proofs.Canonical
import Mathlib.Algebra.Group.Nat.Defs
import Mathlib.Logic.Function.Iterate

/-!
# What the checksum tells apart

The checksum is collected in a register of 32 bits. Shifting a bit out of the register is linear
in exclusive or (`crcBit_xor`) and loses nothing (`crcBit_injective`), so registers that differ
still differ after any bytes (`register_injective`). The bits of up to four bytes fit the register
side by side, and taking the bytes one by one is adding them all and then shifting as often
(`register_short`). Therefore up to four bytes in a row can be told apart by the checksum, whatever
stands before and behind them (`crc32_ne_of_burst`).
-/

set_option autoImplicit false

namespace Bootloader.Link

/-! ## One bit -/

/-- What is taken off the register when a one falls out of it. -/
def feedback (crc : UInt32) : UInt32 :=
  if crc &&& 1 = 1 then 0xedb88320 else 0

theorem lowBit_iff (crc : UInt32) : crc &&& 1 = 1 ↔ crc.toNat % 2 = 1 := by
  rw [← UInt32.toNat_inj, UInt32.toNat_and]
  exact Nat.and_one_is_mod crc.toNat ▸ Iff.rfl

theorem crcBit_eq (crc : UInt32) : crcBit crc = (crc >>> 1) ^^^ feedback crc := by
  unfold crcBit feedback
  split
  · rfl
  · exact UInt32.xor_zero.symm

theorem feedback_xor (first second : UInt32) :
    feedback (first ^^^ second) = feedback first ^^^ feedback second := by
  have low : (first ^^^ second).toNat % 2 = first.toNat % 2 ^^^ second.toNat % 2 := by
    rw [UInt32.toNat_xor]
    exact Nat.xor_mod_two_pow (n := 1)
  unfold feedback
  simp only [lowBit_iff, low]
  rcases Nat.mod_two_eq_zero_or_one first.toNat with even | odd <;>
    rcases Nat.mod_two_eq_zero_or_one second.toNat with even' | odd' <;>
    simp [*]

/-- **A bit is linear**: the register of a sum is the sum of the registers. -/
theorem crcBit_xor (first second : UInt32) :
    crcBit (first ^^^ second) = crcBit first ^^^ crcBit second := by
  rw [crcBit_eq, crcBit_eq, crcBit_eq, UInt32.shiftRight_xor, feedback_xor]
  ac_rfl

/-- A zero that falls out of the register leaves its other bits, moved down. -/
theorem toNat_crcBit_of_even {crc : UInt32} (even : crc.toNat % 2 = 0) :
    (crcBit crc).toNat = crc.toNat / 2 := by
  have zero : ¬ crc &&& 1 = 1 := by
    rw [lowBit_iff]
    omega
  rw [crcBit, if_neg zero, UInt32.toNat_shiftRight]
  exact Nat.shiftRight_eq_div_pow crc.toNat 1

/-- Only an empty register is emptied: what is taken off for a one has its highest bit set. -/
theorem eq_zero_of_crcBit {crc : UInt32} (emptied : crcBit crc = 0) : crc = 0 := by
  rcases Nat.mod_two_eq_zero_or_one crc.toNat with even | odd
  · have half := toNat_crcBit_of_even even
    rw [emptied, UInt32.toNat_zero] at half
    rw [← UInt32.toNat_inj, UInt32.toNat_zero]
    omega
  · rw [crcBit, if_pos ((lowBit_iff crc).mpr odd), UInt32.xor_eq_zero_iff] at emptied
    have high := congrArg UInt32.toNat emptied
    rw [UInt32.toNat_shiftRight] at high
    have below := crc.toNat_lt
    change crc.toNat >>> 1 = 3988292384 at high
    rw [Nat.shiftRight_eq_div_pow] at high
    omega

/-- **A bit loses nothing.** -/
theorem crcBit_injective : Function.Injective crcBit := by
  intro first second same
  rw [← UInt32.xor_eq_zero_iff] at same ⊢
  rw [← crcBit_xor] at same
  exact eq_zero_of_crcBit same

theorem iterate_crcBit_xor (count : Nat) (first second : UInt32) :
    crcBit^[count] (first ^^^ second) = crcBit^[count] first ^^^ crcBit^[count] second := by
  induction count generalizing first second with
  | zero => rfl
  | succ count ih => simp only [Function.iterate_succ_apply, crcBit_xor, ih]

/-- Zeros that fall out of the register one after the other leave the rest, moved down. -/
theorem toNat_iterate_crcBit {crc : UInt32} {count number : Nat}
    (shifted : crc.toNat = 2 ^ count * number) : (crcBit^[count] crc).toNat = number := by
  induction count generalizing crc with
  | zero => rw [Function.iterate_zero_apply, shifted, Nat.pow_zero, Nat.one_mul]
  | succ count ih =>
      have twice : crc.toNat = 2 * (2 ^ count * number) := by
        rw [shifted, Nat.pow_succ', Nat.mul_assoc]
      have half : (crcBit crc).toNat = 2 ^ count * number := by
        rw [toNat_crcBit_of_even (by omega)]
        omega
      rw [Function.iterate_succ_apply, ih half]

/-! ## Bytes -/

/-- The register behind bytes. -/
def register (crc : UInt32) (bytes : Bytes) : UInt32 :=
  bytes.foldl crcByte crc

theorem register_append (crc : UInt32) (first second : Bytes) :
    register crc (first ++ second) = register (register crc first) second :=
  List.foldl_append

/-- Whatever bytes follow, different registers stay different. -/
theorem register_injective (bytes : Bytes) : Function.Injective (register · bytes) := by
  induction bytes with
  | nil => exact fun _ _ => id
  | cons byte rest ih =>
      intro first second same
      exact (UInt32.xor_left_inj _).mp (crcBit_injective.iterate 8 (ih same))

/-- Bytes as bits of the register, those of the first byte lowest. -/
def packed (bytes : Bytes) : UInt32 :=
  UInt32.ofNat (Bytes.toNat bytes)

theorem toNat_packed (bytes : Bytes) (short : bytes.length ≤ 4) :
    (packed bytes).toNat = Bytes.toNat bytes := by
  have room : 1 <<< (8 * bytes.length) ≤ 1 <<< (8 * 4) := by
    rw [Nat.one_shiftLeft, Nat.one_shiftLeft]
    exact Nat.pow_le_pow_right (by decide) (by omega)
  exact UInt32.toNat_ofNat_of_lt' (Nat.lt_of_lt_of_le bytes.toNat_lt room)

/-- Bytes that are packed can be told apart. -/
theorem eq_of_packed {first second : Bytes} (short : first.length ≤ 4)
    (equal : first.length = second.length) (same : packed first = packed second) :
    first = second := by
  have numbers := congrArg UInt32.toNat same
  rw [toNat_packed first short, toNat_packed second (equal ▸ short)] at numbers
  rw [← Bytes.ofNat_toNat first, ← Bytes.ofNat_toNat second, numbers, equal]

/-- A byte is packed below those that follow it. -/
theorem packed_cons (byte : UInt8) {rest : Bytes} (short : rest.length < 4) :
    packed (byte :: rest) = byte.toUInt32 ^^^ packed (0 :: rest) := by
  have small := byte.toNat_lt
  have low : (byte.toNat ^^^ 256 * Bytes.toNat rest) % 2 ^ 8 = byte.toNat := by
    rw [Nat.xor_mod_two_pow, Nat.mul_mod_right, Nat.xor_zero, Nat.mod_eq_of_lt small]
  have high : (byte.toNat ^^^ 256 * Bytes.toNat rest) / 2 ^ 8 = Bytes.toNat rest := by
    rw [Nat.xor_div_two_pow, Nat.div_eq_of_lt small, Nat.zero_xor,
      Nat.mul_div_cancel_left _ (by decide)]
  rw [← UInt32.toNat_inj, UInt32.toNat_xor, toNat_packed (byte :: rest) short,
    toNat_packed (0 :: rest) short,
    UInt8.toNat_toUInt32, Bytes.toNat, Bytes.toNat, UInt8.toNat_zero, Nat.zero_add]
  omega

/-- **Up to four bytes act on the register as one number.** Their bits are added to it, and then
as many bits fall out. -/
theorem register_short (crc : UInt32) {bytes : Bytes} (short : bytes.length ≤ 4) :
    register crc bytes = crcBit^[8 * bytes.length] (crc ^^^ packed bytes) := by
  induction bytes generalizing crc with
  | nil => exact UInt32.xor_zero.symm
  | cons byte rest ih =>
      have shifted : crcBit^[8] (packed (0 :: rest)) = packed rest := by
        have number : (packed (0 :: rest)).toNat = 2 ^ 8 * Bytes.toNat rest :=
          (toNat_packed (0 :: rest) short).trans (Nat.zero_add _)
        rw [← UInt32.toNat_inj, toNat_iterate_crcBit number,
          toNat_packed rest (Nat.le_of_succ_le short)]
      calc register crc (byte :: rest)
        _ = register (crcBit^[8] (crc ^^^ byte.toUInt32)) rest := rfl
        _ = crcBit^[8 * rest.length]
              (crcBit^[8] (crc ^^^ byte.toUInt32) ^^^ crcBit^[8] (packed (0 :: rest))) := by
            rw [ih _ (Nat.le_of_succ_le short), shifted]
        _ = crcBit^[8 * rest.length] (crcBit^[8] (crc ^^^ packed (byte :: rest))) := by
            rw [← iterate_crcBit_xor, UInt32.xor_assoc, ← packed_cons byte short]
        _ = crcBit^[8 * (byte :: rest).length] (crc ^^^ packed (byte :: rest)) := by
            rw [← Function.iterate_add_apply, List.length_cons, Nat.mul_succ]

/-- Up to four bytes can be told apart by the register that they leave. -/
theorem eq_of_register {crc : UInt32} {first second : Bytes} (short : first.length ≤ 4)
    (equal : first.length = second.length) (same : register crc first = register crc second) :
    first = second := by
  rw [register_short crc short, register_short crc (equal ▸ short), equal] at same
  have bits := crcBit_injective.iterate _ same
  exact eq_of_packed short equal ((UInt32.xor_right_inj crc).mp bits)

/-- **Bursts change the checksum**: what differs in four bytes in a row at most, whatever stands
before and behind them, has different checksums. -/
theorem crc32_ne_of_burst {before first second after : Bytes} (short : first.length ≤ 4)
    (equal : first.length = second.length) (differ : first ≠ second) :
    crc32 (before ++ (first ++ after)) ≠ crc32 (before ++ (second ++ after)) := by
  intro same
  have registers : register (register (register 0xffffffff before) first) after =
      register (register (register 0xffffffff before) second) after := by
    rw [← register_append, ← register_append, ← register_append, ← register_append]
    exact (UInt32.xor_left_inj _).mp same
  exact differ (eq_of_register short equal (register_injective after registers))

end Bootloader.Link
