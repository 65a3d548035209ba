import Bootloader.Boot.Placement
import Bootloader.Image.Reader
import Bootloader.Trust.Signature

/-!
# Loading a kernel

A kernel is an image whose segments are copied to the places they ask for. The
former kernel is forgotten first, so a load that fails leaves nothing to launch.
A signed kernel has a section with the signature of the digest of exactly the
bytes that were copied. A kernel that is accepted is described in the system
page, and its segments are reserved.
-/

set_option autoImplicit false

namespace Bootloader.Loader

open Trust (Algorithm Curve Hasher ScalarPair)

/-- What a signed kernel is checked with. -/
structure KernelKey where
  curve : Curve
  algorithm : Algorithm
  key : ScalarPair

variable {ω μ : Type} [Hardware ω] [PhysicalMemory μ]

/-- An open file as the source of an image. -/
def sourceOf (handle : Handle) : Image.Source (Loader ω μ) BootError where
  read offset length := onFiles (Files.readExact handle offset length)
  refuse := .image

/-- The signature in the section that holds it. -/
def readSignature (source : Image.Source (Loader ω μ) BootError) (header : Image.FileHeader) :
    BootAct ω μ ScalarPair := do
  let found ← Image.sectionNamed? source header Image.signatureSection
  let place ← Act.ofOption .noSignature found
  let length := place.size.toNat
  Act.require (length = Trust.signatureLength)
    (.trust (.badLength Trust.signatureLength length))
  let bytes ← source.read place.offset.toNat Trust.signatureLength
  Act.mapError .trust (Act.ofExcept (ScalarPair.ofBytes bytes))

/-- What was found in an image and copied from it. -/
structure Copied where
  header : Image.FileHeader
  segments : List Image.ProgramHeader
  bss : Option Image.SectionHeader
  signature : Option ScalarPair
  hasher : Option Hasher

/-- Read the tables of an image and copy its segments. -/
def copyImage (handle : Handle) (key : Option KernelKey) : BootAct ω μ Copied := do
  let source : Image.Source (Loader ω μ) BootError := sourceOf handle
  let header ← Image.openImage source
  let all ← Image.programHeaders source header
  let segments := all.filter Image.ProgramHeader.isLoad
  Act.require (!segments.isEmpty) .emptyImage
  let bss ← Image.bss? source header
  let signature ←
    match key with
    | some _ => do
        let signature ← readSignature source header
        pure (some signature)
    | none => pure none
  let hasher ← copySegments handle (key.map fun key => Hasher.start key.algorithm) segments
  return { header, segments, bss, signature, hasher }

/-- Check the signature of a signed kernel. -/
def checkSignature (key : Option KernelKey) (copied : Copied) : BootAct ω μ Unit := do
  match key, copied.signature, copied.hasher with
  | some key, some signature, some hasher => do
      Act.mapError .trust
        (Trust.verifySignature signature hasher.finish.bytes key.key key.curve.keyBits)
      report .kernels .info ("kernel signature verified (" ++ key.algorithm.name ++ ")")
  | _, _, _ => pure ()

/-- Reserve the memory of segments. -/
def reserveSegments : List Image.ProgramHeader → BootAct ω μ Unit
  | [] => pure ()
  | segment :: rest => do
      if segment.memorySize ≠ 0 then
        let loader ← Act.read
        onPage (SystemPage.reserve (loader.board.kernelAddress segment)
          segment.memorySize.toNat)
      reserveSegments rest

/-- The region of a section. -/
def regionOf (section_ : Image.SectionHeader) : SystemPage.Region :=
  ⟨Address.ofNat section_.address.toNat, section_.size.toUInt64⟩

/-- What the kernel is told about an image that was copied. -/
def describe (board : Board) (copied : Copied) : SystemPage.KernelDescriptor :=
  let (start, stop) :=
    (Image.textRange? copied.segments board.kernelAddress).getD (Address.zero, Address.zero)
  { text := ⟨start, stop.value - start.value⟩
    data := ⟨Address.zero, 0⟩
    bss := (copied.bss.map regionOf).getD ⟨Address.zero, 0⟩
    entry := Address.ofNat copied.header.entry.toNat }

/-- Describe an image that was accepted, reserve its memory, and take it for the kernel. -/
def acceptKernel (device : String) (copied : Copied) : BootAct ω μ Unit := do
  let loader ← Act.read
  let kernel := describe loader.board copied
  onPage (SystemPage.setKernel kernel)
  reserveSegments copied.segments
  Act.update fun loader => { loader with kernelLoaded := true }
  let start := kernel.text.address.toNat
  report .kernels .info ("kernel from " ++ device ++ ": text " ++ Text.hex start ++ ".." ++
    Text.hex (start + kernel.text.size.toNat) ++ ", entry " ++ kernel.entry.render)

/-- Load a kernel from a file of a device, checked with a key if there is one. -/
def loadKernel (device : String) (name : Option String) (key : Option KernelKey) :
    BootAct ω μ Unit := do
  forgetKernel
  let copied ← withFile (Files.openFile device name 0) fun handle => copyImage handle key
  checkSignature key copied
  acceptKernel device copied

/-- Load a kernel from a device: the whole of a raw one, the board's file of a framed one. -/
def kernel (arguments : List String) : BootAct ω μ Unit := do
  let device ←
    match arguments with
    | [] => device
    | [device] => pure device
    | _ => Act.fail (.usage "kernel [<dev>]")
  let loader ← Act.read
  let protocol ← Act.mapError .file (Act.ofExcept (loader.files.protocol device))
  let name :=
    match protocol with
    | .raw => none
    | .framed => some loader.board.kernelName
  loadKernel device name none

/-- Load a signed kernel. -/
def kernelSecure (arguments : List String) : BootAct ω μ Unit := do
  match arguments with
  | [device, name, curve, algorithm, key] => do
      let key ← Act.mapError .trust do
        let key ← Act.ofExcept (ScalarPair.ofBase64 key)
        let curve ← Act.ofExcept (Curve.ofName curve)
        let algorithm ← Act.ofExcept (Algorithm.ofName algorithm)
        return { curve, algorithm, key : KernelKey }
      loadKernel device (some name) (some key)
  | _ => Act.fail (.usage "kernel-sec <dev> <name> <curve> <hash> <base64 pubkey>")

end Bootloader.Loader
