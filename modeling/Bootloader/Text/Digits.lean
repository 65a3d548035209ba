import Bootloader.Bytes
import Bootloader.Text.Number

/-!
# Bytes in hexadecimal

Bytes are printed with two digits each, in lower case, and read back from digits
of either case.
-/

set_option autoImplicit false

namespace Bootloader.Text

/-- The digits of bytes. -/
def hexOfBytes (bytes : Bytes) : String :=
  String.ofList (bytes.flatMap fun byte =>
    [Nat.digitChar (byte.toNat / 16), Nat.digitChar (byte.toNat % 16)])

/-- The bytes of digits, of which there are two for each byte. -/
def bytesOfHex? : List Char → Option Bytes
  | [] => some []
  | high :: low :: rest => do
      let high ← digitValue? 16 high
      let low ← digitValue? 16 low
      let bytes ← bytesOfHex? rest
      return UInt8.ofNat (high * 16 + low) :: bytes
  | [_] => none

end Bootloader.Text
