import Bootloader.Text.Blank
import Bootloader.Trust.Digest

/-!
# Base64 arguments

Keys and digests are written in base64: the standard alphabet, groups of four
characters for three bytes, and padding that is required and canonical, so the
bits that a padded group leaves over are zero. Blanks around an argument are
dropped. An argument of more than 128 bytes is refused before its length is
compared with the expected one.
-/

set_option autoImplicit false

namespace Bootloader.Trust.Base64

/-- The six bits of a character of the alphabet. -/
def sextet? (character : Char) : Option Nat :=
  let code := character.toNat
  if 65 ≤ code ∧ code ≤ 90 then some (code - 65)
  else if 97 ≤ code ∧ code ≤ 122 then some (code - 71)
  else if 48 ≤ code ∧ code ≤ 57 then some (code + 4)
  else if character = '+' then some 62
  else if character = '/' then some 63
  else none

/-- The character of six bits. -/
def letter (sextet : Nat) : Char :=
  if sextet < 26 then Char.ofNat (sextet + 65)
  else if sextet < 52 then Char.ofNat (sextet + 71)
  else if sextet < 62 then Char.ofNat (sextet - 4)
  else if sextet = 62 then '+'
  else '/'

/-- The characters of bytes, the last group padded to four. -/
def encode : Bytes → List Char
  | [] => []
  | [first] => [letter (first.toNat / 4), letter (first.toNat % 4 * 16), '=', '=']
  | [first, second] =>
      [letter (first.toNat / 4), letter (first.toNat % 4 * 16 + second.toNat / 16),
        letter (second.toNat % 16 * 4), '=']
  | first :: second :: third :: rest =>
      letter (first.toNat / 4) :: letter (first.toNat % 4 * 16 + second.toNat / 16) ::
        letter (second.toNat % 16 * 4 + third.toNat / 64) :: letter (third.toNat % 64) ::
          encode rest

/-- Three bytes from four sextets. -/
def triple (first second third fourth : Nat) : Bytes :=
  [UInt8.ofNat (first * 4 + second / 16), UInt8.ofNat (second % 16 * 16 + third / 4),
    UInt8.ofNat (third % 4 * 64 + fourth)]

/-- The bytes of a text of whole groups, the last of which may be padded. -/
def decode? : List Char → Option Bytes
  | [] => some []
  | [first, second, '=', '='] => do
      let first ← sextet? first
      let second ← sextet? second
      if second % 16 = 0 then some ((triple first second 0 0).take 1) else none
  | [first, second, third, '='] => do
      let first ← sextet? first
      let second ← sextet? second
      let third ← sextet? third
      if third % 4 = 0 then some ((triple first second third 0).take 2) else none
  | first :: second :: third :: fourth :: rest => do
      let first ← sextet? first
      let second ← sextet? second
      let third ← sextet? third
      let fourth ← sextet? fourth
      let others ← decode? rest
      some (triple first second third fourth ++ others)
  | _ => none

/-- The most bytes that an argument may have. -/
def maximum : Nat := 128

/-- The bytes of an argument, of which there have to be exactly `length`. -/
def decodeExact (argument : String) (length : Nat) : Except Error Bytes :=
  match decode? (Text.trim argument.toList) with
  | none => .error .badEncoding
  | some bytes =>
      if maximum < bytes.length then .error .badEncoding
      else if bytes.length ≠ length then .error (.badLength length bytes.length)
      else .ok bytes

/-- The digest that an argument gives. -/
def decodeDigest (algorithm : Algorithm) (argument : String) : Except Error Digest := do
  let bytes ← decodeExact argument algorithm.digestLength
  Digest.ofBytes bytes

end Bootloader.Trust.Base64
