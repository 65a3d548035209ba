import Bootloader.Proofs.Text.Encoding
import Mathlib.Data.List.Forall2
import Mathlib.Tactic.SplitIfs

/-!
# Well-formed text

Which bytes are a text is told by a table. A row of it has the range of every byte of a code
(`shapes`). Each byte behind the first one carries six bits of a number; where the second byte is
confined to fewer values, the others would write a number that has a shorter code, a surrogate, or
a number above that of the last character. The bytes that fit a row are the codes of the characters,
and nothing else is (`isCode_iff`), so codes in a row are exactly what texts are encoded to
(`wellFormed_iff`).
-/

set_option autoImplicit false

namespace Bootloader.Text

/-- The bytes from the least to the greatest, both included. -/
structure ByteRange where
  least : UInt8
  greatest : UInt8

/-- A byte is in the range. -/
def ByteRange.Has (range : ByteRange) (byte : UInt8) : Prop :=
  range.least ≤ byte ∧ byte ≤ range.greatest

/-- The bytes that carry six bits behind the first one. -/
def trailing : ByteRange :=
  ⟨0x80, 0xBF⟩

/-- The shapes that a code can have: the ranges of its bytes. -/
def shapes : List (List ByteRange) :=
  [[⟨0x00, 0x7F⟩],
   [⟨0xC2, 0xDF⟩, trailing],
   [⟨0xE0, 0xE0⟩, ⟨0xA0, 0xBF⟩, trailing],
   [⟨0xE1, 0xEC⟩, trailing, trailing],
   [⟨0xED, 0xED⟩, ⟨0x80, 0x9F⟩, trailing],
   [⟨0xEE, 0xEF⟩, trailing, trailing],
   [⟨0xF0, 0xF0⟩, ⟨0x90, 0xBF⟩, trailing, trailing],
   [⟨0xF1, 0xF3⟩, trailing, trailing, trailing],
   [⟨0xF4, 0xF4⟩, ⟨0x80, 0x8F⟩, trailing, trailing]]

/-- The bytes have one of the shapes. -/
def IsCode (bytes : Bytes) : Prop :=
  ∃ shape ∈ shapes, List.Forall₂ ByteRange.Has shape bytes

/-- Codes in a row. -/
inductive WellFormed : Bytes → Prop where
  | nil : WellFormed []
  | append {code rest : Bytes} (first : IsCode code) (others : WellFormed rest) :
      WellFormed (code ++ rest)

/-! ## The table in numbers -/

variable {one two three four : UInt8}

theorem isCode_one : IsCode [one] ↔ one.toNat ≤ 0x7F := by
  simp [IsCode, shapes, trailing, ByteRange.Has, UInt8.le_iff_toNat_le]

theorem isCode_two : IsCode [one, two] ↔
    (0xC2 ≤ one.toNat ∧ one.toNat ≤ 0xDF) ∧ 0x80 ≤ two.toNat ∧ two.toNat ≤ 0xBF := by
  simp [IsCode, shapes, trailing, ByteRange.Has, UInt8.le_iff_toNat_le]

/-- Of the codes of three bytes those are missing that write a number below `0x800` or a
surrogate. -/
theorem isCode_three : IsCode [one, two, three] ↔
    (0xE0 ≤ one.toNat ∧ one.toNat ≤ 0xEF) ∧ (0x80 ≤ two.toNat ∧ two.toNat ≤ 0xBF) ∧
      (0x80 ≤ three.toNat ∧ three.toNat ≤ 0xBF) ∧
      (one.toNat = 0xE0 → 0xA0 ≤ two.toNat) ∧ (one.toNat = 0xED → two.toNat ≤ 0x9F) := by
  simp only [IsCode, shapes, trailing, List.mem_cons, List.not_mem_nil, or_false, exists_eq_or_imp,
    List.forall₂_cons, ByteRange.Has, UInt8.le_iff_toNat_le, UInt8.toNat_zero, Nat.zero_le,
    UInt8.reduceToNat, true_and, List.forall₂_nil_left_iff, reduceCtorEq, and_false,
    List.cons_ne_self, List.forall₂_nil_right_iff, and_true, ↓existsAndEq, or_self, false_or]
  omega

/-- Of the codes of four bytes those are missing that write a number below `0x10000`, or from
`0x110000` on. -/
theorem isCode_four : IsCode [one, two, three, four] ↔
    (0xF0 ≤ one.toNat ∧ one.toNat ≤ 0xF4) ∧ (0x80 ≤ two.toNat ∧ two.toNat ≤ 0xBF) ∧
      (0x80 ≤ three.toNat ∧ three.toNat ≤ 0xBF) ∧ (0x80 ≤ four.toNat ∧ four.toNat ≤ 0xBF) ∧
      (one.toNat = 0xF0 → 0x90 ≤ two.toNat) ∧ (one.toNat = 0xF4 → two.toNat ≤ 0x8F) := by
  simp only [IsCode, shapes, trailing, List.mem_cons, List.not_mem_nil, or_false, exists_eq_or_imp,
    List.forall₂_cons, ByteRange.Has, UInt8.le_iff_toNat_le, UInt8.toNat_zero, Nat.zero_le,
    UInt8.reduceToNat, true_and, List.forall₂_nil_left_iff, reduceCtorEq, and_false,
    List.cons_ne_self, List.forall₂_nil_right_iff, and_true, ↓existsAndEq, false_or]
  omega

theorem IsCode.length_bounds {code : Bytes} (isCode : IsCode code) :
    1 ≤ code.length ∧ code.length ≤ 4 := by
  obtain ⟨shape, member, fits⟩ := isCode
  have bounds : ∀ shape ∈ shapes, 1 ≤ shape.length ∧ shape.length ≤ 4 := by decide
  rw [← fits.length_eq]
  exact bounds shape member

/-! ## The codes of characters -/

/-- The code of a character has one of the shapes. -/
theorem isCode_utf8EncodeChar (character : Char) : IsCode (String.utf8EncodeChar character) := by
  have valid : character.val.toNat < 0xD800 ∨
      0xDFFF < character.val.toNat ∧ character.val.toNat < 0x110000 := character.valid
  unfold String.utf8EncodeChar
  dsimp only
  split_ifs
  · rw [isCode_one, UInt8.toNat_ofNat']
    omega
  · simp only [isCode_two, UInt8.toNat_ofNat']
    omega
  · simp only [isCode_three, UInt8.toNat_ofNat']
    omega
  · simp only [isCode_four, UInt8.toNat_ofNat']
    omega

/-- A number that is no surrogate and not too large is that of a character. -/
theorem exists_character (number : Nat)
    (valid : number < 0xD800 ∨ 0xDFFF < number ∧ number < 0x110000) :
    ∃ character : Char, character.val.toNat = number :=
  ⟨Char.ofNatAux number valid, rfl⟩

theorem ofNat_eq (byte : UInt8) {number : Nat} (same : number % 256 = byte.toNat) :
    UInt8.ofNat number = byte :=
  UInt8.toNat_inj.mp (UInt8.toNat_ofNat'.trans same)

/-! Codes of each length have a character: the number that their bytes carry, each less the least
byte of its kind. -/

theorem exists_of_isCode_one (isCode : IsCode [one]) :
    ∃ character, String.utf8EncodeChar character = [one] := by
  have small := isCode_one.mp isCode
  obtain ⟨character, number⟩ := exists_character one.toNat (by omega)
  refine ⟨character, ?_⟩
  unfold String.utf8EncodeChar
  dsimp only
  rw [number, if_pos small, UInt8.ofNat_toNat]

theorem exists_of_isCode_two (isCode : IsCode [one, two]) :
    ∃ character, String.utf8EncodeChar character = [one, two] := by
  have ranges := isCode_two.mp isCode
  obtain ⟨character, number⟩ := exists_character
    ((one.toNat - 0xC0) * 64 + (two.toNat - 0x80)) (by omega)
  refine ⟨character, ?_⟩
  unfold String.utf8EncodeChar
  dsimp only
  rw [number, if_neg (by omega), if_pos (by omega), ofNat_eq one (by omega),
    ofNat_eq two (by omega)]

theorem exists_of_isCode_three (isCode : IsCode [one, two, three]) :
    ∃ character, String.utf8EncodeChar character = [one, two, three] := by
  have ranges := isCode_three.mp isCode
  obtain ⟨character, number⟩ := exists_character
    ((one.toNat - 0xE0) * 4096 + (two.toNat - 0x80) * 64 + (three.toNat - 0x80)) (by omega)
  refine ⟨character, ?_⟩
  unfold String.utf8EncodeChar
  dsimp only
  rw [number, if_neg (by omega), if_neg (by omega), if_pos (by omega), ofNat_eq one (by omega),
    ofNat_eq two (by omega), ofNat_eq three (by omega)]

theorem exists_of_isCode_four (isCode : IsCode [one, two, three, four]) :
    ∃ character, String.utf8EncodeChar character = [one, two, three, four] := by
  have ranges := isCode_four.mp isCode
  obtain ⟨character, number⟩ := exists_character
    ((one.toNat - 0xF0) * 262144 + (two.toNat - 0x80) * 4096 +
      (three.toNat - 0x80) * 64 + (four.toNat - 0x80)) (by omega)
  refine ⟨character, ?_⟩
  unfold String.utf8EncodeChar
  dsimp only
  rw [number, if_neg (by omega), if_neg (by omega), if_neg (by omega), ofNat_eq one (by omega),
    ofNat_eq two (by omega), ofNat_eq three (by omega), ofNat_eq four (by omega)]

/-- **The shapes are those of the characters.** -/
theorem isCode_iff {code : Bytes} :
    IsCode code ↔ ∃ character, String.utf8EncodeChar character = code := by
  constructor
  · intro isCode
    have bounds := isCode.length_bounds
    match code with
    | [one] => exact exists_of_isCode_one isCode
    | [one, two] => exact exists_of_isCode_two isCode
    | [one, two, three] => exact exists_of_isCode_three isCode
    | [one, two, three, four] => exact exists_of_isCode_four isCode
    | [] => exact absurd bounds.1 (by decide)
    | _ :: _ :: _ :: _ :: _ :: rest =>
        simp only [List.length_cons] at bounds
        omega
  · rintro ⟨character, rfl⟩
    exact isCode_utf8EncodeChar character

/-- **What is well-formed is what texts are encoded to.** -/
theorem wellFormed_iff {bytes : Bytes} : WellFormed bytes ↔ ∃ text, encode text = bytes := by
  constructor
  · intro wellFormed
    induction wellFormed with
    | nil => exact ⟨"", encode_eq ""⟩
    | append first others ih =>
        obtain ⟨character, rfl⟩ := isCode_iff.mp first
        obtain ⟨text, rfl⟩ := ih
        refine ⟨String.ofList (character :: text.toList), ?_⟩
        rw [encode_eq, encode_eq, String.toList_ofList]
        exact List.flatMap_cons
  · rintro ⟨text, rfl⟩
    rw [encode_eq]
    induction text.toList with
    | nil => exact .nil
    | cons character rest ih => exact .append (isCode_utf8EncodeChar character) ih

end Bootloader.Text
