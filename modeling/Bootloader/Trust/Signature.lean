import Bootloader.Act
import Bootloader.Trust.Base64
import Bootloader.Trust.Error
import Bootloader.Trust.Nonce
import Bootloader.Trust.P256

/-!
# Signatures over P-256

A signature is a pair of scalars, a public key a pair of coordinates. Outside of
this module each of these numbers is thirty-two bytes, lowest byte first. Signing
and checking take the digest of an image, of which the first thirty-two bytes
count; a shorter digest counts as a smaller number, one of less than sixteen
bytes is refused.
-/

set_option autoImplicit false

namespace Bootloader.Trust

/-- The supported curves. -/
inductive Curve where
  | secp256r1
  deriving DecidableEq, Repr, Inhabited

namespace Curve

/-- The curve of a word. -/
def ofName (word : String) : Except Error Curve :=
  if word = "secp256r1" then .ok secp256r1 else .error .unknownCurve

/-- Bits of a key. -/
def keyBits : Curve → Nat
  | secp256r1 => 256

end Curve

/-- Bytes of a scalar or a coordinate. -/
def scalarLength : Nat := 32

/-- A scalar or a coordinate, lowest byte first. -/
abbrev Scalar := Field scalarLength

namespace Scalar

/-- The number of a scalar. -/
def toNat (scalar : Scalar) : Nat :=
  Bytes.toNat scalar.bytes

/-- The scalar of a number, modulo 2 to the 256. -/
def ofNat (number : Nat) : Scalar :=
  ⟨Bytes.ofNat scalarLength number, Bytes.length_ofNat scalarLength number⟩

/-- Whether a number may be a private key or part of a signature. -/
def isValid (number : Nat) : Bool :=
  0 < number && number < P256.order

end Scalar

/-- Two scalars side by side: a signature, or the coordinates of a key. -/
structure ScalarPair where
  first : Scalar
  second : Scalar
  deriving DecidableEq, Repr

/-- Bytes of a signature. -/
def signatureLength : Nat := 2 * scalarLength

namespace ScalarPair

/-- The bytes of a pair. -/
def toBytes (pair : ScalarPair) : Bytes :=
  pair.first.bytes ++ pair.second.bytes

/-- Two scalars from exactly as many bytes as they need. -/
def ofBytes (bytes : Bytes) : Except Error ScalarPair :=
  if bytes.length = signatureLength then
    .ok ⟨Field.ofBytes scalarLength bytes, Field.ofBytes scalarLength (bytes.drop scalarLength)⟩
  else .error (.badLength signatureLength bytes.length)

/-- The pair that a base64 argument gives. -/
def ofBase64 (argument : String) : Except Error ScalarPair := do
  let bytes ← Base64.decodeExact argument signatureLength
  ofBytes bytes

end ScalarPair

/-- The number that a digest counts as, in thirty-two bytes with the highest first. -/
def digestNumber? (digest : Bytes) : Option Bytes :=
  if digest.length < scalarLength / 2 then none
  else
    let leading := digest.take scalarLength
    some (List.replicate (scalarLength - leading.length) 0 ++ leading)

/-- The point that is the public key of a private one. -/
def publicPoint? (privateKey : Scalar) : Option P256.Point :=
  if Scalar.isValid privateKey.toNat then some (P256.generator.multiply privateKey.toNat) else none

/-- The public key of a private key. -/
def publicKey (privateKey : Scalar) : Except Error ScalarPair :=
  match publicPoint? privateKey with
  | some (.affine x y) => .ok ⟨Scalar.ofNat x, Scalar.ofNat y⟩
  | _ => .error .badKey

/-- The two numbers of a signature made with a given nonce, if neither is zero. -/
def signWith? (privateKey digest nonce : Nat) : Option (Nat × Nat) := do
  let x ← (P256.generator.multiply nonce).x?
  let r := x % P256.order
  let s := P256.inverse nonce P256.order * (digest + r * privateKey) % P256.order
  if r = 0 ∨ s = 0 then none else some (r, s)

/-- Sign a digest. -/
def sign (digest : Bytes) (privateKey : Scalar) : Except Error ScalarPair :=
  if Scalar.isValid privateKey.toNat then
    let signature? := do
      let number ← digestNumber? digest
      let nonce ← Nonce.derive? privateKey.bytes.reverse number
      signWith? privateKey.toNat (ofBigEndian number) nonce
    match signature? with
    | some (r, s) => .ok ⟨Scalar.ofNat r, Scalar.ofNat s⟩
    | none => .error .badSignature
  else .error .badKey

/-- Whether a signature belongs to a digest and a public key. -/
def matchesKey (r s digest x y : Nat) : Bool :=
  let factor := P256.inverse s P256.order
  let fromDigest := P256.generator.multiply (digest * factor % P256.order)
  let fromKey := (P256.Point.affine x y).multiply (r * factor % P256.order)
  match (fromDigest.add fromKey).x? with
  | some first => first % P256.order == r
  | none => false

/-- Check a signature over a digest with a public key of a number of bits. -/
def verifySignature {σ : Type} (signature : ScalarPair) (digest : Bytes) (key : ScalarPair)
    (bits : Nat) : Act σ Error Unit := do
  Act.require (bits = Curve.secp256r1.keyBits) .unknownCurve
  let x := key.first.toNat
  let y := key.second.toNat
  if !P256.Point.onCurve x y then
    Act.note (Log.Component.signatures.report .warn "public key is not a point on the curve")
    Act.fail .badKey
  let r := signature.first.toNat
  let s := signature.second.toNat
  Act.require (Scalar.isValid r && Scalar.isValid s) .badSignature
  let accepted :=
    match digestNumber? digest with
    | some number => matchesKey r s (ofBigEndian number) x y
    | none => false
  if accepted then
    Act.note (Log.Component.signatures.report .debug "ECDSA signature verified")
  else
    Act.note (Log.Component.signatures.report .warn
      "ECDSA signature does not match the public key")
    Act.fail .verifyFailed

end Bootloader.Trust
