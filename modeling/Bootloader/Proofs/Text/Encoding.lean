import Bootloader.Text.Field

/-!
# Text that survives its encoding

A text is encoded character by character (`encode_eq`), and the reader takes one character
after the other from the front of the bytes, so it gets back what was written
(`validPrefix_encode`). A field has the bytes of a text that leave room for a zero, and zeros behind
them (`bytes_toField`). The text comes back whole if it is short enough and has no zero byte in it,
which the reader would take for the end (`ofField_toField`).
-/

set_option autoImplicit false

namespace Bootloader.Text

/-- Listing bytes from an index on puts them behind what was listed before. -/
theorem toList_loop (bytes : ByteArray) (index : Nat) (listed : Bytes) :
    ByteArray.toList.loop bytes index listed = listed.reverse ++ bytes.data.toList.drop index := by
  fun_induction ByteArray.toList.loop bytes index listed with
  | case1 index listed inside ih =>
      have bound : index < bytes.data.toList.length := inside
      have here : bytes.get! index = bytes.data.toList[index] := by
        rw [ByteArray.get!, getElem!_pos bytes.data index inside, Array.getElem_toList]
      rw [ih, List.reverse_cons, List.append_assoc, here, List.singleton_append,
        List.getElem_cons_drop]
  | case2 index listed outside =>
      have past : bytes.data.toList.length ≤ index := Nat.not_lt.mp outside
      rw [List.drop_eq_nil_of_le past, List.append_nil]

theorem toList_eq (bytes : ByteArray) : bytes.toList = bytes.data.toList := by
  rw [ByteArray.toList, toList_loop]
  rfl

/-- A text is encoded character by character. -/
theorem encode_eq (text : String) : encode text = encodeCharacters text.toList := by
  rw [encode, toList_eq, String.toUTF8_eq_toByteArray, ← String.utf8Encode_toList,
    List.utf8Encode, List.toList_data_toByteArray]
  rfl

theorem length_encode (text : String) : (encode text).length = text.utf8ByteSize := by
  rw [encode, toList_eq]
  exact Array.length_toList

/-! ## Reading back -/

/-- The character at the start of the bytes is the one that was encoded there. -/
theorem leadingCharacter?_encode (character : Char) (rest : Bytes) :
    leadingCharacter? (String.utf8EncodeChar character ++ rest) = some character := by
  have short : (String.utf8EncodeChar character).length ≤ 4 := by
    rw [String.length_utf8EncodeChar]
    exact character.utf8Size_le_four
  rw [leadingCharacter?, List.take_append, List.take_of_length_le short, List.toByteArray_append]
  exact ByteArray.utf8DecodeChar?_utf8EncodeChar_append

theorem encodeCharacters_cons (character : Char) (characters : List Char) :
    encodeCharacters (character :: characters) =
      String.utf8EncodeChar character ++ encodeCharacters characters :=
  List.flatMap_cons

/-- The reader goes on behind the code of a character. -/
theorem validCharacters_append (character : Char) (rest : Bytes) :
    validCharacters (String.utf8EncodeChar character ++ rest) =
      character :: validCharacters rest := by
  obtain ⟨first, others, split⟩ := List.exists_cons_of_ne_nil
    (String.utf8EncodeChar_ne_nil (c := character))
  have leading := leadingCharacter?_encode character rest
  have size : others.length = character.utf8Size - 1 := by
    rw [← String.length_utf8EncodeChar, split, List.length_cons, Nat.add_sub_cancel]
  rw [split, List.cons_append] at leading ⊢
  rw [validCharacters]
  simp only [leading]
  rw [← size, List.drop_left]

theorem validCharacters_encode (characters : List Char) :
    validCharacters (encodeCharacters characters) = characters := by
  induction characters with
  | nil => rw [encodeCharacters, List.flatMap_nil, validCharacters]
  | cons character rest ih => rw [encodeCharacters_cons, validCharacters_append, ih]

/-- **An encoded text is read back.** -/
theorem validPrefix_encode (text : String) : validPrefix (encode text) = text := by
  rw [validPrefix, encode_eq, validCharacters_encode, String.ofList_toList]

/-! ## Fields -/

/-- Bytes without a zero are before the first zero. -/
theorem beforeZero_append_of_not_mem {bytes : Bytes} (nonzero : (0 : UInt8) ∉ bytes)
    (rest : Bytes) : beforeZero (bytes ++ rest) = bytes ++ beforeZero rest := by
  refine List.takeWhile_append_of_pos fun byte member => ?_
  rw [bne_iff_ne]
  intro zero
  exact nonzero (zero ▸ member)

/-- What comes before the first zero, where a zero follows bytes without one. -/
theorem beforeZero_append {bytes : Bytes} (nonzero : (0 : UInt8) ∉ bytes) (rest : Bytes) :
    beforeZero (bytes ++ 0 :: rest) = bytes :=
  (beforeZero_append_of_not_mem nonzero _).trans (List.append_nil bytes)

/-- What comes before the first zero, by the place of the zero. -/
theorem beforeZero_eq_take (bytes : Bytes) :
    beforeZero bytes = bytes.take (bytes.findIdx (· == 0)) := by
  rw [beforeZero, List.takeWhile_eq_take_findIdx_not]
  simp only [bne, Bool.not_not]

/-- Zeros at the end do not matter. -/
theorem beforeZero_zeros (bytes : Bytes) (count : Nat) :
    beforeZero (bytes ++ List.replicate count 0) = beforeZero bytes := by
  induction bytes with
  | nil => cases count <;> rfl
  | cons byte rest ih =>
      simp only [beforeZero, List.cons_append, List.takeWhile_cons] at ih ⊢
      rw [ih]

/-- A text in its field: cut to leave room for a zero, and filled up with zeros. -/
theorem bytes_toField (size : Nat) (text : String) :
    (toField size text).bytes = (encode text).take (size - 1) ++
      List.replicate (size - min (size - 1) (encode text).length) 0 := by
  have short : ((encode text).take (size - 1)).length ≤ size := by
    rw [List.length_take]
    omega
  rw [toField, Field.ofBytes]
  dsimp only
  rw [Bytes.resize, List.take_of_length_le short, List.length_take]

/-- **A text without a zero that leaves room for one is read back from its field.** -/
theorem ofField_toField {size : Nat} {text : String} (short : text.utf8ByteSize < size)
    (nonzero : (0 : UInt8) ∉ encode text) : ofField (toField size text).bytes = text := by
  have length := length_encode text
  have whole : (encode text).take (size - 1) = encode text :=
    List.take_of_length_le (by omega)
  have before : beforeZero (encode text) = encode text :=
    (beforeZero_zeros _ 1).symm.trans (beforeZero_append nonzero [])
  rw [bytes_toField, whole, ofField, beforeZero_zeros, before, validPrefix_encode]

end Bootloader.Text
