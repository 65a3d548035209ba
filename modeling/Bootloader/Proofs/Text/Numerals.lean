import Bootloader.Proofs.Text.Words
import Bootloader.Text.Number
import Mathlib.Data.List.Forall2
import Mathlib.Data.Nat.Digits.Defs
import Mathlib.Tactic.IntervalCases
import Mathlib.Tactic.Ring

/-!
# Numerals

What is read as a number is told by a grammar: digits of a base in a row write the number that
their places give (`Writes`), and a numeral is decimal digits, or hexadecimal ones behind a marker,
with a plus sign in front of them or without (`Numeral`). The reader accepts exactly the numerals
(`numeral?_eq_some_iff`), and refuses those whose number does not fit 64 bits. It makes no
difference whether that is looked at in the end, or at each digit in words of 64 bits
(`wordFrom?_eq`), since what is read only grows. Printed numbers are numerals, whatever zeros they
are padded with (`numeral_decimal`, `numeral_hexadecimal`).
-/

set_option autoImplicit false

namespace Bootloader.Text

/-! ## Digits -/

/-- The digits of a base, in lower case and in upper case. -/
def Digit (base : Nat) (character : Char) (value : Nat) : Prop :=
  value < base ∧ ("0123456789abcdef".toList[value]? = some character ∨
    "0123456789ABCDEF".toList[value]? = some character)

/-- A digit is read as its value, and nothing else is read. -/
theorem digitValue?_eq_some_iff {base value : Nat} {character : Char} :
    digitValue? base character = some value ↔ Digit base character value := by
  unfold digitValue? Digit
  constructor
  · intro found
    obtain ⟨read, small⟩ := Option.filter_eq_some_iff.mp found
    refine ⟨of_decide_eq_true small, ?_⟩
    have whole := Char.ofNat_toNat character
    generalize character.toNat = code at read whole
    subst whole
    split_ifs at read with decimal lower upper
    · obtain ⟨first, last⟩ := decimal
      cases read
      interval_cases code <;> exact .inl rfl
    · obtain ⟨first, last⟩ := lower
      cases read
      interval_cases code <;> exact .inl rfl
    · obtain ⟨first, last⟩ := upper
      cases read
      interval_cases code <;> exact .inr rfl
  · rintro ⟨small, listed⟩
    have few : value < 16 := by
      rcases listed with lower | upper
      · exact (List.getElem?_eq_some_iff.mp lower).1
      · exact (List.getElem?_eq_some_iff.mp upper).1
    refine Option.filter_eq_some_iff.mpr ⟨?_, decide_eq_true small⟩
    interval_cases value <;> rcases listed with same | same <;> cases same <;> rfl

/-- The digit that a value is printed as. -/
theorem digit_digitChar {base value : Nat} (small : value < base) (hexadecimal : base ≤ 16) :
    Digit base (Nat.digitChar value) value := by
  refine ⟨small, .inl ?_⟩
  have few : value < 16 := by omega
  interval_cases value <;> rfl

/-! ## Digits in a row -/

/-- Digits write the number that they give by their places, the last one counting once. -/
def Writes (base : Nat) (characters : List Char) (number : Nat) : Prop :=
  characters ≠ [] ∧ ∃ values, List.Forall₂ (Digit base) characters values ∧
    number = Nat.ofDigits base values.reverse

/-- Reading goes on from a number by moving it up as many places as there are digits. -/
theorem digitsFrom?_eq_some_iff {base start number : Nat} {characters : List Char} :
    digitsFrom? base start characters = some number ↔
      ∃ values, List.Forall₂ (Digit base) characters values ∧
        number = start * base ^ values.length + Nat.ofDigits base values.reverse := by
  induction characters generalizing start with
  | nil =>
      simp only [digitsFrom?, Option.some.injEq, List.forall₂_nil_left_iff, exists_eq_left,
        List.length_nil, Nat.pow_zero, Nat.mul_one, List.reverse_nil, Nat.ofDigits_nil,
        Nat.add_zero, eq_comm]
  | cons character rest ih =>
      have moved (value : Nat) (values : List Nat) :
          start * base ^ (value :: values).length + Nat.ofDigits base (value :: values).reverse =
            (start * base + value) * base ^ values.length + Nat.ofDigits base values.reverse := by
        rw [List.reverse_cons, Nat.ofDigits_append, Nat.ofDigits_singleton, List.length_reverse,
          List.length_cons, Nat.pow_succ]
        ring
      constructor
      · intro read
        rw [digitsFrom?] at read
        split at read
        case h_1 value found =>
          obtain ⟨values, digits, rfl⟩ := ih.mp read
          exact ⟨value :: values, .cons (digitValue?_eq_some_iff.mp found) digits,
            (moved value values).symm⟩
        case h_2 => cases read
      · rintro ⟨values, digits, rfl⟩
        cases digits with
        | @cons _ value _ values digit digits =>
            rw [digitsFrom?, digitValue?_eq_some_iff.mpr digit]
            exact ih.mpr ⟨values, digits, moved value values⟩

theorem digitsFrom?_zero {base number : Nat} {characters : List Char} (filled : characters ≠ []) :
    digitsFrom? base 0 characters = some number ↔ Writes base characters number := by
  rw [digitsFrom?_eq_some_iff, Writes]
  simp only [Nat.zero_mul, Nat.zero_add, filled, ne_eq, not_false_eq_true, true_and]

/-- One more digit behind digits. -/
theorem Writes.snoc {base number value : Nat} {characters : List Char} {character : Char}
    (digits : Writes base characters number) (digit : Digit base character value) :
    Writes base (characters ++ [character]) (number * base + value) := by
  obtain ⟨_, values, all, rfl⟩ := digits
  refine ⟨List.append_ne_nil_of_right_ne_nil _ (List.cons_ne_nil _ _), values ++ [value],
    List.rel_append all (.cons digit .nil), ?_⟩
  rw [List.reverse_append, List.reverse_singleton, List.singleton_append, Nat.ofDigits_cons]
  ring

/-- Zeros in front of digits do not count. -/
theorem Writes.zeros {base number : Nat} {characters : List Char}
    (digits : Writes base characters number) (positive : 0 < base) (count : Nat) :
    Writes base (List.replicate count '0' ++ characters) number := by
  induction count with
  | zero => exact digits
  | succ count ih =>
      obtain ⟨_, values, all, same⟩ := ih
      refine ⟨List.cons_ne_nil _ _, 0 :: values, .cons ⟨positive, .inl rfl⟩ all, ?_⟩
      rw [List.reverse_cons, Nat.ofDigits_append_zero, same]

/-- A printed number is written by its digits. -/
theorem writes_toDigits (base : Nat) (several : 1 < base) (hexadecimal : base ≤ 16)
    (number : Nat) : Writes base (Nat.toDigits base number) number := by
  induction number using Nat.strongRecOn with
  | ind number ih =>
      rw [Nat.toDigits_eq_if several]
      split
      case isTrue small =>
        exact ⟨List.cons_ne_nil _ _, [number], .cons (digit_digitChar small hexadecimal) .nil,
          Nat.ofDigits_singleton.symm⟩
      case isFalse large =>
        have less : number / base < number :=
          Nat.div_lt_self (by omega) several
        have last := digit_digitChar (Nat.mod_lt number (by omega)) hexadecimal
        have written := (ih _ less).snoc last
        rwa [Nat.div_add_mod'] at written

/-! ## Numerals -/

/-- What may precede digits. -/
def IsSign (sign : List Char) : Prop :=
  sign = [] ∨ sign = ['+']

/-- The characters write a number: digits behind an optional plus sign, decimal, or hexadecimal
behind a marker in either case. -/
inductive Numeral : List Char → Nat → Prop
  | decimal {sign digits : List Char} {number : Nat} (signed : IsSign sign)
      (written : Writes 10 digits number) : Numeral (sign ++ digits) number
  | hexadecimal {marker : Char} {sign digits : List Char} {number : Nat}
      (marked : marker = 'x' ∨ marker = 'X') (signed : IsSign sign)
      (written : Writes 16 digits number) :
      Numeral ('0' :: marker :: (sign ++ digits)) number

/-- All characters that are digits of some base. -/
def digitCharacters : List Char :=
  "0123456789abcdefABCDEF".toList

theorem Digit.mem {base value : Nat} {character : Char} (digit : Digit base character value) :
    character ∈ digitCharacters := by
  have lower : "0123456789abcdef".toList ⊆ digitCharacters := by decide
  have upper : "0123456789ABCDEF".toList ⊆ digitCharacters := by decide
  rcases digit.2 with listed | listed
  · exact lower (List.mem_of_getElem? listed)
  · exact upper (List.mem_of_getElem? listed)

theorem Writes.mem {base number : Nat} {characters : List Char}
    (written : Writes base characters number) :
    ∀ character ∈ characters, character ∈ digitCharacters := by
  obtain ⟨-, values, all, -⟩ := written
  induction all with
  | nil => nofun
  | cons digit _ ih => exact List.forall_mem_cons.mpr ⟨digit.mem, ih⟩

/-- An optional plus sign in front of digits is passed over. -/
theorem unsigned?_eq_some_iff {base number : Nat} {characters : List Char} :
    unsigned? base characters = some number ↔
      ∃ sign digits, IsSign sign ∧ Writes base digits number ∧ characters = sign ++ digits := by
  have read (digits : List Char) :
      (if digits.isEmpty then none else digitsFrom? base 0 digits) = some number ↔
        Writes base digits number := by
    by_cases empty : digits = []
    · rw [empty]
      exact ⟨nofun, fun written => absurd rfl written.1⟩
    · rw [if_neg (by rwa [List.isEmpty_iff]), digitsFrom?_zero empty]
  unfold unsigned?
  dsimp only
  split
  case h_1 rest =>
    rw [read]
    constructor
    · exact fun written => ⟨['+'], rest, .inr rfl, written, rfl⟩
    · rintro ⟨sign, digits, rfl | rfl, written, same⟩
      · rw [List.nil_append] at same
        subst same
        exact absurd (written.mem '+' List.mem_cons_self) (by decide)
      · cases same
        exact written
  case h_2 plain =>
    rw [read]
    constructor
    · exact fun written => ⟨[], characters, .inl rfl, written, rfl⟩
    · rintro ⟨sign, digits, rfl | rfl, written, rfl⟩
      · exact written
      · exact absurd rfl (plain digits)

/-- **What is read as a number is a numeral, and any numeral is read as its number.** -/
theorem numeral?_eq_some_iff {characters : List Char} {number : Nat} :
    numeral? characters = some number ↔ Numeral characters number := by
  constructor
  · intro found
    unfold numeral? at found
    split at found
    case h_1 =>
      obtain ⟨sign, digits, signed, written, rfl⟩ := unsigned?_eq_some_iff.mp found
      exact .hexadecimal (.inl rfl) signed written
    case h_2 =>
      obtain ⟨sign, digits, signed, written, rfl⟩ := unsigned?_eq_some_iff.mp found
      exact .hexadecimal (.inr rfl) signed written
    case h_3 =>
      obtain ⟨sign, digits, signed, written, rfl⟩ := unsigned?_eq_some_iff.mp found
      exact .decimal signed written
  · intro numeral
    cases numeral with
    | @hexadecimal marker sign digits _ marked signed written =>
        have read := unsigned?_eq_some_iff.mpr ⟨sign, digits, signed, written, rfl⟩
        rcases marked with rfl | rfl
        · exact read
        · exact read
    | @decimal sign digits _ signed written =>
        have read := unsigned?_eq_some_iff.mpr ⟨sign, digits, signed, written, rfl⟩
        have unmarked {marker : Char} (strange : marker ∉ digitCharacters) (rest : List Char) :
            sign ++ digits ≠ '0' :: marker :: rest := by
          intro same
          rcases signed with rfl | rfl
          · rw [List.nil_append] at same
            subst same
            exact strange (written.mem marker (List.mem_cons_of_mem _ List.mem_cons_self))
          · cases same
        -- A marker is no digit, so the first two patterns do not apply.
        unfold numeral?
        split
        case h_1 rest same => exact absurd same (unmarked (by decide) rest)
        case h_2 rest same => exact absurd same (unmarked (by decide) rest)
        case h_3 => exact read

/-- A numeral has no characters but digits, a plus sign and a marker. -/
theorem Numeral.mem {characters : List Char} {number : Nat} (numeral : Numeral characters number) :
    ∀ character ∈ characters, character ∈ '+' :: 'x' :: 'X' :: digitCharacters := by
  have among {base : Nat} {sign digits : List Char} (signed : IsSign sign)
      (written : Writes base digits number) :
      ∀ character ∈ sign ++ digits, character ∈ '+' :: 'x' :: 'X' :: digitCharacters := by
    intro character member
    rcases List.mem_append.mp member with front | digit
    · rcases signed with rfl | rfl
      · cases front
      · rw [List.mem_singleton.mp front]
        exact List.mem_cons_self
    · simp only [List.mem_cons, written.mem character digit, or_true]
  cases numeral with
  | decimal signed written => exact among signed written
  | hexadecimal marked signed written =>
      refine List.forall_mem_cons.mpr ⟨by decide, ?_⟩
      refine List.forall_mem_cons.mpr ⟨?_, among signed written⟩
      rcases marked with rfl | rfl <;> decide

/-! ## Numbers of 64 bits -/

/-- Digits collected in a 64-bit word, which is given up as soon as it overflows. -/
def wordFrom? (base : Nat) (word : UInt64) : List Char → Option UInt64
  | [] => some word
  | character :: rest => do
      let digit ← digitValue? base character
      let moved ← fitting? (word.toNat * base)
      let next ← fitting? (moved.toNat + digit)
      wordFrom? base next rest

/-- What digits are read as is at least what the digits in front of them were read as. -/
theorem le_of_digitsFrom? {base start number : Nat} {characters : List Char} (positive : 0 < base)
    (read : digitsFrom? base start characters = some number) : start ≤ number := by
  obtain ⟨values, -, rfl⟩ := digitsFrom?_eq_some_iff.mp read
  exact Nat.le_add_right_of_le (Nat.le_mul_of_pos_right start (Nat.pow_pos positive))

/-- **A word overflows on the way exactly if the number does not fit in the end.** -/
theorem wordFrom?_eq {base : Nat} (positive : 0 < base) (word : UInt64)
    (characters : List Char) :
    wordFrom? base word characters = (digitsFrom? base word.toNat characters).bind fitting? := by
  induction characters generalizing word with
  | nil => exact (fitting?_eq_some_iff.mpr rfl).symm
  | cons character rest ih =>
      rw [wordFrom?, digitsFrom?]
      cases digitValue? base character with
      | none => rfl
      | some digit =>
          rcases Nat.lt_or_ge (word.toNat * base + digit) UInt64.size with small | large
          · have moved : fitting? (word.toNat * base) = some (UInt64.ofNat (word.toNat * base)) :=
              if_pos (by omega)
            have next : fitting? (word.toNat * base + digit) =
                some (UInt64.ofNat (word.toNat * base + digit)) := if_pos small
            have number := fitting?_eq_some_iff.mp next
            simp only [Option.bind_eq_bind, Option.bind_some, moved,
              fitting?_eq_some_iff.mp moved, next, ih, number]
          · have late :
                (digitsFrom? base (word.toNat * base + digit) rest).bind fitting? = none := by
              refine Option.bind_eq_none_iff.mpr fun number read => ?_
              exact fitting?_eq_none_iff.mpr (Nat.le_trans large (le_of_digitsFrom? positive read))
            rw [late]
            cases moved : fitting? (word.toNat * base) with
            | none => rfl
            | some product =>
                have overflow := fitting?_eq_none_iff.mpr large
                rw [← fitting?_eq_some_iff.mp moved] at overflow
                simp only [Option.bind_eq_bind, Option.bind_some, overflow, Option.bind_none]

theorem number?_eq_some_iff {text : String} {word : UInt64} :
    number? text = some word ↔ Numeral (trim text.toList) word.toNat := by
  rw [number?, Option.bind_eq_some_iff]
  simp only [numeral?_eq_some_iff, fitting?_eq_some_iff]
  constructor
  · rintro ⟨number, numeral, rfl⟩
    exact numeral
  · exact fun numeral => ⟨_, numeral, rfl⟩

theorem number?_eq_none_iff {text : String} :
    number? text = none ↔ ∀ number, Numeral (trim text.toList) number → UInt64.size ≤ number := by
  rw [number?, Option.bind_eq_none_iff]
  simp only [numeral?_eq_some_iff, fitting?_eq_none_iff]

/-- A numeral without blanks around it. -/
theorem number?_of_numeral {characters : List Char} {word : UInt64}
    (numeral : Numeral characters word.toNat) :
    number? (String.ofList characters) = some word := by
  have solid : ('+' :: 'x' :: 'X' :: digitCharacters).any isBlank = false := by decide
  have trimmed : trim characters = characters := by
    refine trim_of_solid fun character member => ?_
    exact Bool.eq_false_iff.mpr
      (List.any_eq_false.mp solid character (numeral.mem character member))
  rw [number?_eq_some_iff, String.toList_ofList, trimmed]
  exact numeral

theorem numeral_decimal (zeros number : Nat) :
    Numeral (List.replicate zeros '0' ++ Nat.toDigits 10 number) number :=
  @Numeral.decimal [] _ _ (.inl rfl)
    ((writes_toDigits 10 (by decide) (by decide) number).zeros (by decide) zeros)

theorem numeral_hexadecimal (zeros number : Nat) :
    Numeral ('0' :: 'x' :: (List.replicate zeros '0' ++ hexDigits number)) number :=
  @Numeral.hexadecimal 'x' [] _ _ (.inl rfl) (.inl rfl)
    ((writes_toDigits 16 (by decide) (by decide) number).zeros (by decide) zeros)

/-- The text is the number as it is printed, in decimal or in hexadecimal. -/
def Prints (text : String) (word : UInt64) : Prop :=
  text = toString word.toNat ∨ text = hex word.toNat

/-- A printed number is read back. -/
theorem Prints.number?_eq {text : String} {word : UInt64} (printed : Prints text word) :
    number? text = some word := by
  rcases printed with rfl | rfl
  · exact number?_of_numeral (numeral_decimal 0 word.toNat)
  · exact number?_of_numeral (numeral_hexadecimal 0 word.toNat)

end Bootloader.Text
