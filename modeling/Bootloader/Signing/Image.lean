import Bootloader.Image.Reader
import Bootloader.Trust.Digest
import Bootloader.Trust.Signature
import Bootloader.Signing.Refusal

/-!
# Signing an image

The signature of an image is made over the digest of the contents of its loaded
segments, in the order of their headers, which is what a loader copies. It is
written into a section that the image provides for it, so signing again changes
nothing but that section.
-/

set_option autoImplicit false

namespace Bootloader.Signing

open Trust (Algorithm Hasher Scalar ScalarPair)

/-- What is done to an image in memory. -/
abbrev ImageAct (α : Type) := Act Unit Refusal α

/-- Feed the contents of segments to a digest. -/
def feedSegments (source : Image.Source Unit ImageError) (hasher : Hasher) :
    List Image.ProgramHeader → Act Unit ImageError Hasher
  | [] => pure hasher
  | segment :: rest => do
      let contents ← source.read segment.offset.toNat segment.fileSize.toNat
      feedSegments source (hasher.feed contents) rest

/-- The digest of the loaded segments of an image. -/
def segmentDigest (image : Bytes) (algorithm : Algorithm) : Act Unit ImageError Bytes := do
  let source := Image.Source.ofBytes image
  let header ← Image.openImage source
  let segments ← Image.programHeaders source header
  let hasher ← feedSegments source (Hasher.start algorithm)
    (segments.filter Image.ProgramHeader.isLoad)
  return hasher.finish.bytes

/-- The section of an image that holds a signature. -/
def findSignature (image : Bytes) : Act Unit ImageError (Option Image.SectionHeader) := do
  let source := Image.Source.ofBytes image
  let header ← Image.openImage source
  Image.sectionNamed? source header Image.signatureSection

/-- The image with a signature at an offset, if there is room. -/
def placeSignature? (image : Bytes) (offset : Nat) (signature : ScalarPair) : Option Bytes :=
  if offset + Trust.signatureLength ≤ image.length then
    some (image.overlay offset signature.toBytes)
  else none

/-- Sign an image: its bytes with the signature filled in. -/
def signImage (image : Bytes) (algorithm : Algorithm) (key : Scalar) : ImageAct Bytes := do
  let digest ← Act.mapError .image (segmentDigest image algorithm)
  let found ← Act.mapError .image (findSignature image)
  let place ← Act.ofOption .noSignature found
  Act.require (place.size.toNat = Trust.signatureLength) .signatureSize
  let signature ← Act.mapError .trust (Act.ofExcept (Trust.sign digest key))
  Act.orCrash (placeSignature? image place.offset.toNat signature)

end Bootloader.Signing
