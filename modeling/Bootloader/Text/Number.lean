import Bootloader.Text.Blank

/-!
# Numbers in text

A number is written in decimal, or in hexadecimal behind `0x` or `0X`. Blanks
around it are dropped, one plus sign may precede its digits, and it is refused
when it does not fit 64 bits. Numbers are printed in hexadecimal with a `0x`,
padded with zeros where a width is asked for.
-/

set_option autoImplicit false

namespace Bootloader.Text

/-- The value of a digit in a base of at most sixteen. -/
def digitValue? (base : Nat) (character : Char) : Option Nat :=
  let code := character.toNat
  let value? :=
    if 48 ≤ code ∧ code ≤ 57 then some (code - 48)
    else if 97 ≤ code ∧ code ≤ 102 then some (code - 87)
    else if 65 ≤ code ∧ code ≤ 70 then some (code - 55)
    else none
  value?.filter (· < base)

/-- The number that a string of digits writes, continued from the digits before it. -/
def digitsFrom? (base : Nat) (value : Nat) : List Char → Option Nat
  | [] => some value
  | character :: rest =>
      match digitValue? base character with
      | some digit => digitsFrom? base (value * base + digit) rest
      | none => none

/-- An optional plus sign and at least one digit. -/
def unsigned? (base : Nat) (characters : List Char) : Option Nat :=
  let digits :=
    match characters with
    | '+' :: rest => rest
    | other => other
  if digits.isEmpty then none else digitsFrom? base 0 digits

/-- A decimal number, or a hexadecimal one behind `0x`. -/
def numeral? (characters : List Char) : Option Nat :=
  match characters with
  | '0' :: 'x' :: digits => unsigned? 16 digits
  | '0' :: 'X' :: digits => unsigned? 16 digits
  | digits => unsigned? 10 digits

/-- Only numbers that fit 64 bits are kept. -/
def fitting? (number : Nat) : Option UInt64 :=
  if number < UInt64.size then some (UInt64.ofNat number) else none

/-- A number is kept as the word that stands for it. -/
theorem fitting?_eq_some_iff {number : Nat} {word : UInt64} :
    fitting? number = some word ↔ word.toNat = number := by
  unfold fitting?
  split
  case isTrue small =>
    rw [Option.some_inj, ← UInt64.toNat_inj, UInt64.toNat_ofNat_of_lt' small]
    exact eq_comm
  case isFalse large =>
    have bound := word.toNat_lt_size
    exact ⟨nofun, fun same => absurd (same ▸ bound) large⟩

theorem fitting?_eq_none_iff {number : Nat} :
    fitting? number = none ↔ UInt64.size ≤ number := by
  unfold fitting?
  split
  case isTrue small => exact ⟨nofun, fun large => absurd small (Nat.not_lt_of_le large)⟩
  case isFalse large => exact ⟨fun _ => Nat.le_of_not_lt large, fun _ => rfl⟩

/-- The 64-bit number that a text writes, blanks around it aside. -/
def number? (text : String) : Option UInt64 :=
  (numeral? (trim text.toList)).bind fitting?

/-- The hexadecimal digits of a number, in lower case. -/
def hexDigits (number : Nat) : List Char :=
  Nat.toDigits 16 number

/-- A number in hexadecimal behind `0x`. -/
def hex (number : Nat) : String :=
  String.ofList ('0' :: 'x' :: hexDigits number)

/-- A number in hexadecimal behind `0x`, with at least `width` digits. -/
def paddedHex (width number : Nat) : String :=
  let digits := hexDigits number
  String.ofList ('0' :: 'x' :: (List.replicate (width - digits.length) '0' ++ digits))

end Bootloader.Text
