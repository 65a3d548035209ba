import Bootloader.Image.Header
import Bootloader.Signing.FileTree
import Bootloader.Text.Quoted
import Bootloader.Trust.Error
import Bootloader.Trust.Signature

/-!
# Why the signing tool refuses

A refusal is printed as one line: a fault of the file system with its number,
kind and text, anything else as invalid input with its cause. A cause is a word
if it has one, and otherwise a quoted text.
-/

set_option autoImplicit false

namespace Bootloader

/-- The word for an error of an image. -/
def ImageError.word : ImageError → String
  | tooShort => "TooShort"
  | badMagic => "BadMagic"
  | badClass => "BadClass"
  | badHeader => "BadHeader"
  | outOfBounds => "OutOfBounds"

/-- The word for an error of a key or a digest. -/
def Trust.Error.word : Trust.Error → String
  | unknownAlgorithm => "UnknownAlgorithm"
  | unknownCurve => "UnknownCurve"
  | badEncoding => "BadEncoding"
  | badLength _ _ => "BadLength"
  | digestMismatch => "DigestMismatch"
  | badKey => "BadKey"
  | badSignature => "BadSignature"
  | verifyFailed => "VerifyFailed"

namespace Signing

/-- Why the tool does not do what it was asked. -/
inductive Refusal where
  | usage
  | path (fault : PathFault)
  | keySize (path : String)
  | noSignature
  | signatureSize
  | image (error : ImageError)
  | trust (error : Trust.Error)
  deriving DecidableEq, Repr

namespace Refusal

/-- A line of named parts in braces. -/
def braced (head : String) (parts : List (String × String)) : String :=
  head ++ " \x7b " ++ String.intercalate ", " (parts.map fun part => part.1 ++ ": " ++ part.2) ++
    " \x7d"

/-- A fault of the file system. -/
def renderFault (fault : PathFault) : String :=
  braced "Os" [("code", toString fault.number), ("kind", fault.kind),
    ("message", Text.Quoted.encode fault.message)]

/-- Invalid input, with its cause. -/
def invalidInput (cause : String) : String :=
  braced "Custom" [("kind", "InvalidInput"), ("error", cause)]

/-- A refusal without the line around it. -/
def describe : Refusal → String
  | path fault => renderFault fault
  | image error => invalidInput error.word
  | trust (.badLength expected actual) =>
      invalidInput (braced "BadLength"
        [("expected", toString expected), ("actual", toString actual)])
  | trust error => invalidInput error.word
  | usage => invalidInput (Text.Quoted.encode "usage: plo-sign digest|pubkey|sign ...")
  | keySize file =>
      invalidInput (Text.Quoted.encode (file ++ ": expected a " ++
        toString Trust.scalarLength ++ "-byte key"))
  | noSignature => invalidInput (Text.Quoted.encode "the image has no .signature section")
  | signatureSize =>
      invalidInput (Text.Quoted.encode (".signature must be " ++
        toString Trust.signatureLength ++ " bytes"))

/-- A refusal as the line that is printed. -/
def render (refusal : Refusal) : String :=
  "Error: " ++ refusal.describe ++ "\n"

end Refusal

end Signing

end Bootloader
