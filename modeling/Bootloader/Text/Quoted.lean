import Bootloader.Text.Number
import Bootloader.Text.Shapeless

/-!
# Quoted text

A text between double quotes, on one line. A quote or a backslash inside has a
backslash in front, a few controls are written by a letter, and what has no
shape of its own by its number.
-/

set_option autoImplicit false

namespace Bootloader.Text.Quoted

/-- A character by its number, in hexadecimal between braces. -/
def byNumber (character : Char) : List Char :=
  '\\' :: 'u' :: '\x7b' :: (hexDigits character.toNat ++ ['\x7d'])

/-- How a character is written between the quotes. -/
def escape (character : Char) : List Char :=
  match character with
  | '\x00' => ['\\', '0']
  | '\t' => ['\\', 't']
  | '\n' => ['\\', 'n']
  | '\r' => ['\\', 'r']
  | '"' => ['\\', '"']
  | '\\' => ['\\', '\\']
  | other => if isShapeless other then byNumber other else [other]

/-- A text between quotes. -/
def encode (text : String) : String :=
  String.ofList ('"' :: (text.toList.flatMap escape ++ ['"']))

end Bootloader.Text.Quoted
