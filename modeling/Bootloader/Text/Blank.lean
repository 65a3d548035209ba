/-!
# Blanks, words and pieces of text

A blank is a character of the Unicode property `White_Space`. Texts are taken
apart as lists of characters: trimmed of the blanks at both ends, split into
words at runs of blanks, cut at the first occurrence of a separator, or split
into pieces at every occurrence.
-/

set_option autoImplicit false

namespace Bootloader.Text

/-- The characters with the Unicode property `White_Space`. -/
def isBlank (character : Char) : Bool :=
  let code := character.toNat
  (0x9 ≤ code && code ≤ 0xd) || code == 0x20 || code == 0x85 || code == 0xa0 ||
    code == 0x1680 || (0x2000 ≤ code && code ≤ 0x200a) || code == 0x2028 || code == 0x2029 ||
    code == 0x202f || code == 0x205f || code == 0x3000

/-- What remains after the blanks at both ends are taken away. -/
def trim (characters : List Char) : List Char :=
  ((characters.dropWhile isBlank).reverse.dropWhile isBlank).reverse

/-- The text up to the first separator and the text behind it. -/
def cut (separator : Char) : List Char → Option (List Char × List Char)
  | [] => none
  | character :: rest =>
      if character = separator then some ([], rest)
      else (cut separator rest).map fun parts => (character :: parts.1, parts.2)

/-- The pieces between the characters that satisfy `separates`; there is one more of them
than such characters. -/
def splitWhere (separates : Char → Bool) : List Char → List (List Char)
  | [] => [[]]
  | character :: rest =>
      if separates character then [] :: splitWhere separates rest
      else
        match splitWhere separates rest with
        | [] => [[character]]
        | piece :: others => (character :: piece) :: others

/-- The pieces between the occurrences of a separator. -/
def pieces (separator : Char) (characters : List Char) : List (List Char) :=
  splitWhere (· == separator) characters

/-- The maximal runs of characters that are not blank. -/
def words (characters : List Char) : List (List Char) :=
  (splitWhere isBlank characters).filter fun word => !word.isEmpty

/-- A line without the carriage return at its end. -/
def dropCarriageReturn (line : List Char) : List Char :=
  if line.getLast? = some '\r' then line.dropLast else line

/-- The lines of a text. A line ends with a line feed, which a carriage return may precede;
what stands behind the last line feed is a line as it is, unless it is empty. -/
def lines (characters : List Char) : List (List Char) :=
  let parts := pieces '\n' characters
  let unfinished := (parts.getLast?.getD [])
  parts.dropLast.map dropCarriageReturn ++ if unfinished.isEmpty then [] else [unfinished]

/-- A text trimmed of the blanks at both ends. -/
def trimmed (text : String) : String :=
  String.ofList (trim text.toList)

/-- The trimmed pieces between semicolons, without the empty ones. -/
def listItems (text : String) : List String :=
  (((pieces ';' text.toList).map trim).filter fun item => !item.isEmpty).map String.ofList

end Bootloader.Text
