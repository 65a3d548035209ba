import Bootloader.Status

/-!
# Why an image or a key is not trusted
-/

set_option autoImplicit false

namespace Bootloader.Trust

/-- What can be wrong with an algorithm, an encoded value, a digest or a signature. -/
inductive Error where
  | unknownAlgorithm
  | unknownCurve
  | badEncoding
  | badLength (expected actual : Nat)
  | digestMismatch
  | badKey
  | badSignature
  | verifyFailed
  deriving DecidableEq, Repr

namespace Error

/-- The text of an error. -/
def message : Error → String
  | unknownAlgorithm => "Unsupported hash algorithm"
  | unknownCurve => "Unsupported curve"
  | badEncoding => "Invalid base64 encoding"
  | badLength expected actual =>
      "Expected " ++ toString expected ++ " bytes, got " ++ toString actual
  | digestMismatch => "Digest mismatch"
  | badKey => "Invalid public key"
  | badSignature => "Malformed signature"
  | verifyFailed => "Signature verification failed"

/-- The status code of an error: bad arguments, or a value that does not match. -/
def code : Error → Int
  | unknownAlgorithm => Status.argument
  | unknownCurve => Status.argument
  | badEncoding => Status.argument
  | badLength _ _ => Status.argument
  | digestMismatch => Status.mismatch
  | badKey => Status.mismatch
  | badSignature => Status.mismatch
  | verifyFailed => Status.mismatch

end Error

end Bootloader.Trust
