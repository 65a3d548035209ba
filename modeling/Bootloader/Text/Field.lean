import Bootloader.Bytes

/-!
# Text in fixed fields

A text is stored in a field of fixed size with at least one zero behind it: its
UTF-8 bytes are cut to one less than the size. Reading takes the bytes before
the first zero and keeps the longest prefix of them that is valid UTF-8, so a
character that was cut in two disappears.
-/

set_option autoImplicit false

namespace Bootloader.Text

/-- The UTF-8 bytes of a text. -/
def encode (text : String) : Bytes :=
  text.toUTF8.toList

/-- The UTF-8 bytes of a list of characters. -/
def encodeCharacters (characters : List Char) : Bytes :=
  characters.flatMap String.utf8EncodeChar

/-- The character at the start of the bytes; none is longer than four bytes. -/
def leadingCharacter? (bytes : Bytes) : Option Char :=
  (bytes.take 4).toByteArray.utf8DecodeChar? 0

/-- The characters of the longest prefix that is valid UTF-8. -/
def validCharacters : Bytes → List Char
  | [] => []
  | byte :: rest =>
      match leadingCharacter? (byte :: rest) with
      | none => []
      | some character => character :: validCharacters (rest.drop (character.utf8Size - 1))
termination_by bytes => bytes.length
decreasing_by
  simp only [List.length_drop, List.length_cons]
  omega

/-- The longest prefix that is valid UTF-8, as a text. -/
def validPrefix (bytes : Bytes) : String :=
  String.ofList (validCharacters bytes)

/-- A text in a field, cut so that at least one zero follows it. -/
def toField (size : Nat) (text : String) : Field size :=
  Field.ofBytes size ((encode text).take (size - 1))

/-- The bytes before the first zero. -/
def beforeZero (bytes : Bytes) : Bytes :=
  bytes.takeWhile (· != 0)

/-- The text of a field. -/
def ofField (bytes : Bytes) : String :=
  validPrefix (beforeZero bytes)

end Bootloader.Text
