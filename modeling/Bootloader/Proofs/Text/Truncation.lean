import Bootloader.Proofs.Text.WellFormed
import Bootloader.Proofs.Text.Words
import Mathlib.Data.Nat.Find

/-!
# Texts that are cut

A text is cut to the size of its field byte by byte, which may split a character, and a field is
read up to its first zero and only as far as the bytes are well-formed. No code of a character is
the beginning of another one, so what is read is told by a law: characters begin it exactly if their
codes begin the bytes (`begins_validCharacters_iff`). The law says what comes back from a field in
which a text was cut (`begins_ofField_toField_iff`), and that no longer text begins any bytes than
the one that is read (`longest_validPrefix`).

A check that accepts or refuses bytes as a whole, and tells in its error how many of them are a
text, leads to the same text when these are checked once more (`recovered_eq`).
-/

set_option autoImplicit false

namespace Bootloader.Text

variable {bytes : Bytes} {characters others : List Char}

/-! ## Characters at the beginning -/

/-- A character is read where its code is. -/
theorem leadingCharacter?_eq_some_iff {character : Char} :
    leadingCharacter? bytes = some character ↔ String.utf8EncodeChar character <+: bytes := by
  constructor
  · intro leading
    obtain ⟨others, same⟩ := ByteArray.exists_of_utf8DecodeChar?_eq_some leading
    have code : bytes.take 4 = String.utf8EncodeChar character ++ others.data.toList := by
      simpa using congrArg (fun array : ByteArray => array.data.toList) same
    exact (List.prefix_append _ _).trans (code ▸ List.take_prefix 4 bytes)
  · rintro ⟨rest, rfl⟩
    exact leadingCharacter?_encode character rest

/-- No character is read, or its code is in front. -/
theorem validCharacters_eq_nil_or (bytes : Bytes) :
    validCharacters bytes = [] ∨
      ∃ character rest, bytes = String.utf8EncodeChar character ++ rest := by
  cases bytes with
  | nil => exact .inl (by rw [validCharacters])
  | cons first others =>
      rw [validCharacters]
      cases leading : leadingCharacter? (first :: others) with
      | none => exact .inl rfl
      | some character =>
          obtain ⟨rest, same⟩ := leadingCharacter?_eq_some_iff.mp leading
          exact .inr ⟨character, rest, same.symm⟩

/-- **Characters begin what is read exactly if their codes begin the bytes.** -/
theorem begins_validCharacters_iff :
    characters <+: validCharacters bytes ↔ encodeCharacters characters <+: bytes := by
  induction characters generalizing bytes with
  | nil => exact ⟨fun _ => List.nil_prefix, fun _ => List.nil_prefix⟩
  | cons character characters ih =>
      rw [encodeCharacters_cons]
      constructor
      · intro read
        -- what is read has a first character, so its code is in front of the bytes
        rcases validCharacters_eq_nil_or bytes with none | ⟨first, rest, rfl⟩
        · rw [none] at read
          cases List.prefix_nil.mp read
        · rw [validCharacters_append, List.cons_prefix_cons] at read
          obtain ⟨rfl, read⟩ := read
          exact (List.prefix_append_right_inj _).mpr (ih.mp read)
      · rintro ⟨rest, rfl⟩
        rw [List.append_assoc, validCharacters_append, List.cons_prefix_cons]
        exact ⟨rfl, ih.mpr (List.prefix_append _ _)⟩

/-- Codes begin each other as the characters do. -/
theorem encodeCharacters_begins_iff :
    encodeCharacters characters <+: encodeCharacters others ↔ characters <+: others := by
  rw [← begins_validCharacters_iff, validCharacters_encode]

theorem encode_validPrefix (bytes : Bytes) :
    encode (validPrefix bytes) = encodeCharacters (validCharacters bytes) := by
  rw [encode_eq, validPrefix, String.toList_ofList]

/-! ## What comes back from a field -/

/-- Only the character zero has a zero in its code. -/
theorem zero_mem_encodeCharacters_iff :
    0 ∈ encodeCharacters characters ↔ '\x00' ∈ characters := by
  rw [mem_encodeCharacters]
  constructor
  · rintro ⟨character, member, zero⟩
    have number : character.toNat = 0 := eq_of_mem_utf8EncodeChar zero (by decide)
    have same : character = '\x00' := Char.toNat_inj.mp number
    exact same ▸ member
  · exact fun member => ⟨'\x00', member, by decide⟩

/-- Bytes without a zero begin what is before the first zero. -/
theorem begins_beforeZero_iff {kept : Bytes} :
    kept <+: beforeZero bytes ↔ kept <+: bytes ∧ 0 ∉ kept := by
  constructor
  · intro front
    refine ⟨front.trans (List.takeWhile_prefix _), fun zero => ?_⟩
    have nonzero := List.mem_takeWhile_imp (front.subset zero)
    exact absurd nonzero (by decide)
  · rintro ⟨⟨rest, rfl⟩, nonzero⟩
    rw [beforeZero_append_of_not_mem nonzero]
    exact List.prefix_append _ _

/-- **Characters begin what comes back from a field** exactly if they begin the text that was put
into it, leave room for a zero, and are not zero themselves. -/
theorem begins_ofField_toField_iff {size : Nat} {text : String} :
    characters <+: (ofField (toField size text).bytes).toList ↔
      characters <+: text.toList ∧ (encodeCharacters characters).length ≤ size - 1 ∧
        '\x00' ∉ characters := by
  -- characters are turned into codes, which the zeros and the cut are told of, and back
  rw [ofField, validPrefix, String.toList_ofList, begins_validCharacters_iff, bytes_toField,
    beforeZero_zeros, begins_beforeZero_iff, zero_mem_encodeCharacters_iff, List.prefix_take_iff,
    encode_eq, encodeCharacters_begins_iff, and_assoc]

/-- The longest of the lists that are allowed: all others are beginnings of it. -/
structure Longest {α : Type} (Allowed : List α → Prop) (longest : List α) : Prop where
  allowed : Allowed longest
  begins : ∀ other, Allowed other → other <+: longest

/-- **No longer text begins the bytes than the one that is read.** -/
theorem longest_validPrefix (bytes : Bytes) :
    Longest (fun kept => WellFormed kept ∧ kept <+: bytes) (encode (validPrefix bytes)) where
  allowed := by
    refine ⟨wellFormed_iff.mpr ⟨_, rfl⟩, ?_⟩
    rw [encode_validPrefix]
    exact begins_validCharacters_iff.mp List.prefix_rfl
  begins := by
    rintro other ⟨wellFormed, front⟩
    obtain ⟨text, rfl⟩ := wellFormed_iff.mp wellFormed
    rw [encode_eq] at front
    rw [encode_eq, encode_validPrefix]
    exact encodeCharacters_begins_iff.mpr (begins_validCharacters_iff.mpr front)

/-! ## Reading by way of an error -/

/-- The text of the bytes, or else how many of them are one: the largest number that is accepted. -/
def checked (bytes : Bytes) : Except Nat String :=
  match String.fromUTF8? bytes.toByteArray with
  | some text => .ok text
  | none => .error (Nat.findGreatest
      (fun count => (String.fromUTF8? (bytes.take count).toByteArray).isSome) bytes.length)

/-- The text of a field from checks: of what is before the first zero, and, where that is refused,
of as much of it as the error tells. -/
def recovered (field : Bytes) : String :=
  let kept := field.take (field.findIdx (· == 0))
  match checked kept with
  | .ok text => text
  | .error count => (checked (kept.take count)).toOption.getD ""

theorem toByteArray_eq_iff {text : String} :
    text.toByteArray = bytes.toByteArray ↔ encode text = bytes := by
  rw [encode, toList_eq, String.toUTF8_eq_toByteArray]
  constructor
  · intro same
    rw [same, List.toList_data_toByteArray]
  · rintro rfl
    exact ByteArray.ext (by simp)

theorem fromUTF8?_eq_some_iff {text : String} :
    String.fromUTF8? bytes.toByteArray = some text ↔ encode text = bytes := by
  rw [← toByteArray_eq_iff, String.fromUTF8?]
  constructor
  · intro found
    split at found
    case isTrue valid => exact (congrArg String.toByteArray (Option.some_inj.mp found)).symm
    case isFalse => cases found
  · intro same
    rw [dif_pos (same ▸ text.isValidUTF8), Option.some_inj]
    exact String.toByteArray_inj.mp same.symm

theorem checked_encode (text : String) : checked (encode text) = .ok text := by
  rw [checked, fromUTF8?_eq_some_iff.mpr rfl]

/-- The error of a check tells how long the text is that is read. -/
theorem checked_eq_error (refused : ∀ text, encode text ≠ bytes) :
    checked bytes = .error (encode (validPrefix bytes)).length := by
  have none : String.fromUTF8? bytes.toByteArray = none :=
    Option.eq_none_iff_forall_ne_some.mpr fun text found =>
      refused text (fromUTF8?_eq_some_iff.mp found)
  have longest := longest_validPrefix bytes
  have front := longest.allowed.2
  rw [checked, none]
  refine congrArg Except.error (Nat.findGreatest_eq_iff.mpr ⟨front.length_le, fun _ => ?_, ?_⟩)
  · rw [← List.prefix_iff_eq_take.mp front, fromUTF8?_eq_some_iff.mpr rfl]
    rfl
  · intro count more within accepted
    obtain ⟨text, found⟩ := Option.isSome_iff_exists.mp accepted
    have code := fromUTF8?_eq_some_iff.mp found
    have begins := longest.begins (encode text)
      ⟨wellFormed_iff.mpr ⟨text, rfl⟩, code ▸ List.take_prefix count bytes⟩
    have short := begins.length_le
    rw [code, List.length_take, Nat.min_eq_left within] at short
    exact absurd more (Nat.not_lt.mpr short)

/-- **The error of a check leads to the text that is read.** -/
theorem recovered_eq (field : Bytes) : recovered field = ofField field := by
  rw [recovered, ofField, beforeZero_eq_take]
  generalize field.take (field.findIdx (· == 0)) = kept
  by_cases whole : ∃ text, encode text = kept
  · obtain ⟨text, rfl⟩ := whole
    simp only [checked_encode, validPrefix_encode]
  · have front := (longest_validPrefix kept).allowed.2
    simp only [checked_eq_error (not_exists.mp whole), ← List.prefix_iff_eq_take.mp front,
      checked_encode]
    rfl

/-! ## Fields -/

/-- **Fields keep whole characters.** A field holds the bytes of a text as far as they leave room
for a zero, and only zeros behind them. What is read from it is the longest beginning of the text
that leaves this room and has no zero. From any bytes the longest well-formed beginning is read of
what is before the first zero; it makes no difference to check that as a whole, and then once more
as far as the error says that it is good. -/
theorem fields_keep_characters :
    (∀ (size : Nat) (text : String), 1 ≤ size →
      (∃ zeros, 1 ≤ zeros ∧ (toField size text).bytes =
        (encode text).take (min (encode text).length (size - 1)) ++ List.replicate zeros 0) ∧
      Longest (fun kept => kept <+: text.toList ∧
          (encodeCharacters kept).length ≤ size - 1 ∧ '\x00' ∉ kept)
        (ofField (toField size text).bytes).toList) ∧
    ∀ field : Bytes,
      Longest (fun kept => WellFormed kept ∧ kept <+: field.take (field.findIdx (· == 0)))
        (encode (ofField field)) ∧
      recovered field = ofField field := by
  refine ⟨fun size text room => ⟨?_, ?_⟩, fun field => ⟨?_, recovered_eq field⟩⟩
  · have cut : (encode text).take (size - 1) =
        (encode text).take (min (encode text).length (size - 1)) := by
      rw [List.take_eq_take_min, Nat.min_comm]
    exact ⟨size - min (size - 1) (encode text).length, by omega, cut ▸ bytes_toField size text⟩
  · exact ⟨begins_ofField_toField_iff.mp List.prefix_rfl,
      fun other => begins_ofField_toField_iff.mpr⟩
  · rw [ofField, beforeZero_eq_take]
    exact longest_validPrefix _

/-- The last character of a text is cut after its first byte and is not read; a surrogate is no
character, so nothing is read from there on. -/
theorem fields_keep_characters_split :
    1 ≤ 5 ∧ (toField 5 "aé€").bytes = [0x61, 0xC3, 0xA9, 0xE2, 0x00] ∧
      Longest (fun kept => kept <+: "aé€".toList ∧
        (encodeCharacters kept).length ≤ 4 ∧ '\x00' ∉ kept) ['a', 'é'] ∧
      Longest (fun kept => WellFormed kept ∧ kept <+: [0x61, 0xED, 0xA0, 0x80, 0x62]) [0x61] := by
  obtain ⟨stored, read⟩ := fields_keep_characters
  obtain ⟨-, kept⟩ := stored 5 "aé€" (by decide)
  obtain ⟨begun, -⟩ := read [0x61, 0xED, 0xA0, 0x80, 0x62, 0x00, 0x63]
  have back : (ofField (toField 5 "aé€").bytes).toList = ['a', 'é'] := by decide +kernel
  have first : encode (ofField [0x61, 0xED, 0xA0, 0x80, 0x62, 0x00, 0x63]) = [0x61] := by
    decide +kernel
  rw [back] at kept
  rw [first] at begun
  exact ⟨by decide, by decide +kernel, kept, begun⟩

end Bootloader.Text
