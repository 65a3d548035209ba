import Bootloader.Proofs.Boot.Fidelity
import Bootloader.Proofs.Signing.Stability

/-!
# What is signed is what is checked

A loader and the tool that signs images read an image in different ways: the loader from a file in
chunks, of which each is copied and hashed, the tool whole segments from bytes at hand. If the
device serves the same image at every read, then the digest that a load checks is that of the
contents of the loaded segments, which is what the tool signs, and the signature is read from
where the tool writes one (`kernelSecure_concurs`). There is one exception. A segment without
contents is never read by the loader, but the tool reads its contents, none as they are, and
refuses the image if they are said to lie behind its end; such an image can be loaded and not be
signed (`kernelSecure_concurs_unless_strays`).
-/

set_option autoImplicit false

namespace Bootloader

open Act

namespace Loader

open Trust (Algorithm Hasher ScalarPair)

variable {ω μ : Type} [Hardware ω] {handle : Handle} {image : Bytes}

/-! ## What is read -/

/-- What was copied of segments from a file that reads the same every time are their contents; and
those that have any lie in the file. -/
theorem SegmentsCopied.contents {place : Image.ProgramHeader → Address}
    {segments : List Image.ProgramHeader} {chunks : List (List Chunk)} {files left : Files ω}
    (steady : Files.Steady handle image files)
    (copied : SegmentsCopied handle place segments chunks files left) :
    Chunk.contents chunks.flatten = Image.contentsOf image segments ∧
      ∀ segment ∈ segments, segment.fileSize.toNat ≠ 0 →
        segment.offset.toNat + segment.fileSize.toNat ≤ image.length := by
  induction copied with
  | done files => exact ⟨rfl, nofun⟩
  | @segment segment rest chunks others files middle left served length contiguous later ih =>
      obtain ⟨same, inside⟩ := ih (Files.Always.of_serves steady served)
      have front := steady.prefix_of_serves served
      have short := front.length_le
      rw [List.length_drop, length] at short
      refine ⟨?_, List.forall_mem_cons.mpr ⟨fun filled => by omega, inside⟩⟩
      have here : Chunk.contents chunks = segment.part.of image := by
        rw [Image.Part.of, Bytes.slice]
        show Chunk.contents chunks = (image.drop segment.offset.toNat).take segment.fileSize.toNat
        rw [← length]
        exact List.prefix_iff_eq_take.mp front
      rw [List.flatten_cons, Chunk.contents, List.flatMap_append, Image.contentsOf,
        List.flatMap_cons]
      exact congrArg₂ _ here same

variable [PhysicalMemory μ] {before after closed : Loader ω μ}

omit [PhysicalMemory μ] in
/-- The signature that is read is what the image has in its section for one. -/
theorem readSignature_agrees {header : Image.FileHeader} {signature : ScalarPair}
    (steady : Files.Steady handle image before.files)
    (ends : (readSignature (sourceOf handle) header : BootAct ω μ ScalarPair).Ends before
      (.done signature) after) :
    Files.Steady handle image after.files ∧ ∃ place,
      (Image.sectionNamed? (Image.Source.ofBytes image) header Image.signatureSection).Ends ()
        (.done (some place)) () ∧
      place.size.toNat = Trust.signatureLength ∧ place.part.of image = signature.toBytes := by
  obtain ⟨place, raw, named, locating, size, reading, scalars⟩ := readSignature_steps ends
  obtain ⟨here, located⟩ :=
    Image.sectionNamed?_agrees (sourceOf_agrees (μ := μ)) steady (by decide +kernel) locating
  obtain ⟨there, total, front⟩ := sourceOf_agrees (μ := μ) _ _ _ _ _ here reading
  refine ⟨there, place, located, size, ?_⟩
  rw [ScalarPair.toBytes_of_ofBytes scalars, Image.Part.of, Image.SectionHeader.part, size,
    Bytes.slice, ← total]
  exact (List.prefix_iff_eq_take.mp front).symm

/-! ## What is checked -/

/-- A segment without contents is said to lie behind the end of the image. -/
def Strays (image : Bytes) (segments : List Image.ProgramHeader) : Prop :=
  ∃ segment ∈ segments, segment.fileSize.toNat = 0 ∧ image.length < segment.offset.toNat

instance (image : Bytes) (segments : List Image.ProgramHeader) :
    Decidable (Strays image segments) :=
  inferInstanceAs (Decidable (∃ segment ∈ segments, _ ∧ _))

/-- Where all segments with contents lie in the image, the others are in the way if they stray. -/
theorem contained_iff {segments : List Image.ProgramHeader}
    (inside : ∀ segment ∈ segments, segment.fileSize.toNat ≠ 0 →
      segment.offset.toNat + segment.fileSize.toNat ≤ image.length) :
    Signing.Contained image segments ↔ ¬ Strays image segments := by
  constructor
  · rintro contained ⟨segment, member, empty, behind⟩
    have within := contained segment member
    omega
  · intro kept segment member
    by_cases empty : segment.fileSize.toNat = 0
    · refine Nat.le_of_not_lt fun behind => kept ⟨segment, member, empty, ?_⟩
      omega
    · exact inside segment member empty

/-- A signature and a digest are what the tool makes of an image: the digest is the one that it
signs, and the signature is where it writes one. The tool has no digest for an image of which a
segment strays. -/
structure Concurs (image : Bytes) (algorithm : Algorithm) (signature : ScalarPair) (digest : Bytes)
    (header : Image.FileHeader) (programs : List Image.ProgramHeader)
    (place : Image.SectionHeader) : Prop where
  opens : (Image.openImage (Image.Source.ofBytes image)).Ends () (.done header) ()
  lists : (Image.programHeaders (Image.Source.ofBytes image) header).Ends () (.done programs) ()
  hashed : digest = (Trust.digestOf algorithm
    (Image.contentsOf image (programs.filter Image.ProgramHeader.isLoad))).bytes
  digested : ¬ Strays image (programs.filter Image.ProgramHeader.isLoad) →
    (Signing.segmentDigest image algorithm).Ends () (.done digest) ()
  undigested : Strays image (programs.filter Image.ProgramHeader.isLoad) →
    (Signing.segmentDigest image algorithm).Ends () (.failed .outOfBounds) ()
  located : (Signing.findSignature image).Ends () (.done (some place)) ()
  sized : place.size.toNat = Trust.signatureLength
  read : place.part.of image = signature.toBytes
  written : ∀ key signed, (Signing.signImage image algorithm key).Ends () (.done signed) () →
    ∃ pair, Trust.sign digest key = .ok pair ∧
      signed = image.overlay place.offset.toNat pair.toBytes

/-- What is copied of an image that reads the same every time is what the tool makes of it. -/
theorem copyImage_concurs {key : KernelKey} {copied : Copied}
    (steady : Files.Steady handle image before.files)
    (ends : (copyImage handle (some key) : BootAct ω μ Copied).Ends before (.done copied) after) :
    ∃ signature hasher header programs place, copied.signature = some signature ∧
      copied.hasher = some hasher ∧
      Concurs image key.algorithm signature hasher.finish.bytes header programs place := by
  obtain ⟨header, programs, bss, signature, hasher, headed, listed, scanned, signed, opening,
    listing, scanning, signing, copying, rfl⟩ := copyImage_steps ends
  have agrees : (sourceOf handle : Image.Source (Loader ω μ) BootError).Agrees image
      fun loader => Files.Steady handle image loader.files := sourceOf_agrees
  obtain ⟨here, opens⟩ := Image.openImage_agrees agrees steady opening
  obtain ⟨here, lists⟩ := Image.readTable_agrees agrees here listing
  obtain ⟨sections, _, sectioning, _, rfl⟩ := ends_bind_done.mp scanning
  obtain ⟨here, _⟩ := Image.readTable_agrees agrees here sectioning
  obtain ⟨here, place, located, sized, read⟩ := readSignature_agrees here signing
  obtain ⟨chunks, segments, _, fed⟩ := copySegments_ends copying
  obtain ⟨contents, inside⟩ := segments.contents here
  have hashed : ((chunks.flatten.map Chunk.bytes).foldl Hasher.feed
      (Hasher.start key.algorithm)).finish.bytes = (Trust.digestOf key.algorithm
        (Image.contentsOf image (programs.filter Image.ProgramHeader.isLoad))).bytes := by
    rw [Hasher.finish_foldl_feed, ← contents, Chunk.contents, List.flatMap_def]
  have contained := contained_iff inside
  refine ⟨signature, _, header, programs, place, rfl, fed,
    ⟨opens, lists, hashed, fun kept => ?digested, fun strays => ?undigested, ?located, sized, read,
      fun secret made signing => ?written⟩⟩
  case digested =>
    exact Signing.segmentDigest_done_iff.mpr
      ⟨header, programs, opens, lists, contained.mpr kept, hashed⟩
  case undigested =>
    exact Signing.segmentDigest_stray opens lists fun all => contained.mp all strays
  case located => exact (Signing.findSignature_ends_iff opens).mpr located
  case written =>
    obtain ⟨_, _, _, _, _, pair, way⟩ := Signing.signImage_done_iff.mp signing
    obtain ⟨_, _, opens', lists', _, hashed'⟩ := Signing.segmentDigest_done_iff.mp way.digested
    cases (opens.unique opens').1
    cases (lists.unique lists').1
    cases (((Signing.findSignature_ends_iff opens).mpr located).unique way.located).1
    refine ⟨pair, ?_, way.laid⟩
    rw [hashed, ← hashed']
    exact way.made

/-- So is what a load copies, if its file reads the same every time. -/
theorem copying_concurs {device : String} {name : Option String} {key : KernelKey}
    {copied : Copied} (served : LoadCall.ServedAs ⟨device, name, some key⟩ image before)
    (reaches : (withFile (Files.openFile device name 0) fun handle => copyImage handle (some key) :
      BootAct ω μ Copied).Ends before.withoutKernel (.done copied) closed) :
    ∃ signature hasher header programs place, copied.signature = some signature ∧
      copied.hasher = some hasher ∧
      Concurs image key.algorithm signature hasher.finish.bytes header programs place := by
  rcases withFile_ends reaches with ⟨handle, opened, _, _, opening, inside, _, yields⟩ |
    ⟨_, refused⟩
  · rw [yields copied rfl] at inside
    exact copyImage_concurs (served handle opened opening) inside
  · exact absurd rfl (refused copied)

omit [Hardware ω] [PhysicalMemory μ] in
/-- A signed load that arguments ask for has a file and a key. -/
theorem secureCall_ok {arguments : List String} {call : LoadCall}
    (asked : secureCall arguments = .ok call) :
    ∃ device name key, call = ⟨device, some name, some key⟩ ∧
      AsksFor arguments device name key := by
  unfold secureCall at asked
  split at asked
  case h_1 device name curve algorithm text =>
    cases decoded : ScalarPair.ofBase64 text with
    | error =>
        rw [decoded] at asked
        cases asked
    | ok pair =>
        cases named : Trust.Curve.ofName curve with
        | error =>
            rw [decoded, named] at asked
            cases asked
        | ok curve' =>
            cases hash : Algorithm.ofName algorithm with
            | error =>
                rw [decoded, named, hash] at asked
                cases asked
            | ok algorithm' =>
                rw [decoded, named, hash] at asked
                cases asked
                exact ⟨device, name, _, rfl, curve, algorithm, text, rfl, decoded, named, hash⟩
  case h_2 => cases asked

/-- **What a signed load checks is what the tool signs.** If the device serves the same image at
every read, then a load that comes to its check goes on with the check of the signature and the
digest that the tool makes of this image. -/
theorem kernelSecure_concurs {arguments : List String} {call : LoadCall} {copied : Copied}
    (asked : secureCall arguments = .ok call) (served : call.ServedAs image before)
    (reaches : (withFile (Files.openFile call.device call.name 0) fun handle =>
      copyImage handle call.key : BootAct ω μ Copied).Ends before.withoutKernel (.done copied)
        closed) :
    ∃ key signature digest header programs place, call.key = some key ∧
      Concurs image key.algorithm signature digest header programs place ∧
      ∀ outcome after, (kernelSecure arguments : BootAct ω μ Unit).Ends before outcome after ↔
        (do
          Act.mapError .trust
            (Trust.verifySignature signature digest key.key key.curve.keyBits)
          report .kernels .info ("kernel signature verified (" ++ key.algorithm.name ++ ")")
          acceptKernel call.device copied : BootAct ω μ Unit).Ends closed outcome after := by
  obtain ⟨device, name, key, rfl, _⟩ := secureCall_ok asked
  obtain ⟨signature, hasher, header, programs, place, found, hashed, concurs⟩ :=
    copying_concurs served reaches
  refine ⟨key, signature, _, header, programs, place, rfl, concurs, fun outcome after => ?_⟩
  rw [kernelSecure_eq, asked]
  show (loadKernel device (some name) (some key) : BootAct ω μ Unit).Ends before outcome after ↔ _
  rw [loadKernel, ends_forgetKernel_bind]
  refine (ends_bind_of_done reaches).trans ?_
  unfold checkSignature
  rw [found, hashed]
  dsimp only
  rw [bind_assoc]

/-! ## Images on a bench -/

/-- The files of a bench with one region of memory, all of which is the file "kernel". -/
def cabinet (image : Bytes) (file : Option OpenFile) : Files Bench.World :=
  { shelf image file with files := [⟨"kernel", ⟨0, image.length⟩⟩] }

/-- The file of the bench, opened. -/
def cabinetFile (image : Bytes) : OpenFile :=
  ⟨⟨"disk", ⟨.ram, 0⟩, .raw⟩, .raw (some ⟨0, image.length⟩)⟩

/-- It reads the same every time. -/
theorem cabinet_steady (image : Bytes) :
    Files.Steady ⟨0, 0⟩ image (cabinet image (some (cabinetFile image))) := by
  refine ⟨fun files => files = cabinet image (some (cabinetFile image)), rfl, ?_⟩
  rintro _ after offset length outcome rfl ends
  -- The window decides what is asked of the device, and where.
  change (Files.withDevice (⟨.ram, 0⟩ : DeviceId) fun _ =>
    let plan := Files.clamp (some ⟨0, image.length⟩) offset length
    if plan.2 = 0 then pure [] else
      DeviceId.read ⟨.ram, 0⟩ plan.1 plan.2 Capacity.readTimeout).Ends _ outcome after at ends
  have planned : (Files.clamp (some ⟨0, image.length⟩) offset length).2 = 0 ∨
      (Files.clamp (some ⟨0, image.length⟩) offset length).1 = offset := by
    rw [Files.clamp, FileWindow.clamp]
    split
    · exact .inl rfl
    · exact .inr (Nat.zero_add _)
  generalize Files.clamp (some ⟨0, image.length⟩) offset length = plan at ends planned
  obtain ⟨place, count⟩ := plan
  cases count with
  | zero =>
      obtain ⟨done, rfl⟩ := ends
      refine ⟨rfl, ?_⟩
      rintro bytes rfl
      cases done
      exact List.nil_prefix
  | succ count =>
      obtain rfl : place = offset := planned.resolve_left (Nat.succ_ne_zero count)
      obtain ⟨done, rfl⟩ := ends
      refine ⟨rfl, ?_⟩
      rintro bytes rfl
      cases done
      exact (List.take_prefix _ _).trans (List.take_prefix _ _)

/-- A loader with this file on its bench. -/
def archived (image : Bytes) : Loader Bench.World IdentityMemory :=
  { ofParts Board.standard (shelf image none).devices IdentityMemory.zeros 0 with
    files := cabinet image none }

/-- A load of this file is served the image. -/
theorem archived_served (image : Bytes) (key : Option KernelKey) :
    LoadCall.ServedAs ⟨"disk", some "kernel", key⟩ image (archived image) := by
  intro handle opened opening
  have known : (onFiles (Files.openFile "disk" (some "kernel") 0)).Ends
      (archived image).withoutKernel (.done ⟨0, 0⟩) { (archived image).withoutKernel with
        files := cabinet image (some (cabinetFile image)) } := ⟨rfl, rfl⟩
  obtain ⟨same, rfl⟩ := known.unique opening
  cases same
  exact cabinet_steady image

/-- A request for a signed load of this file, with zeros for the key. -/
def zeroRequest : List String :=
  ["disk", "kernel", "secp256r1", "sha256", String.ofList (List.replicate 86 'A') ++ "=="]

/-- The key of the request. -/
def zeroKey : KernelKey :=
  ⟨.secp256r1, .sha256, ⟨Trust.Scalar.ofNat 0, Trust.Scalar.ofNat 0⟩⟩

theorem secureCall_zero :
    secureCall zeroRequest = .ok ⟨"disk", some "kernel", some zeroKey⟩ := by
  rfl

/-- A load of an image that was not signed comes to its check, with the digest that the tool would
sign. -/
theorem kernelSecure_concurs_blank :
    ∃ signature digest header programs place,
      Concurs Signing.blank.build .sha256 signature digest header programs place ∧
      (Signing.segmentDigest Signing.blank.build .sha256).Ends () (.done digest) () := by
  obtain ⟨copied, reaches⟩ : ∃ copied, (withFile (Files.openFile "disk" (some "kernel") 0)
      fun handle => copyImage handle (some zeroKey)).Ends
        (archived Signing.blank.build).withoutKernel (.done copied) _ :=
    ends_of_isDone (by decide +kernel)
  obtain ⟨_, signature, digest, header, programs, place, ⟨⟩, concurs, _⟩ :=
    kernelSecure_concurs secureCall_zero (archived_served Signing.blank.build _) reaches
  have opens : (Image.openImage (Image.Source.ofBytes Signing.blank.build)).Ends ()
      (.done Signing.blank.fileHeader) () := ⟨by decide +kernel, rfl⟩
  have lists : (Image.programHeaders (Image.Source.ofBytes Signing.blank.build)
      Signing.blank.fileHeader).Ends () (.done Signing.blank.segmentHeaders) () :=
    ⟨by decide +kernel, rfl⟩
  refine ⟨signature, digest, header, programs, place, concurs, concurs.digested ?_⟩
  cases (opens.unique concurs.opens).1
  cases (lists.unique concurs.lists).1
  decide +kernel

/-- An image of which the second segment has no contents, and is said to lie far behind the
end. -/
def strayed : Bytes :=
  let blueprint := { Signing.blank with
    segments := Signing.blank.segments ++ [Image.Segment.readWrite 0x11000 [] 0x10] }
  blueprint.build.overlay 88 [0, 0, 1, 0]

/-- A load of this image comes to its check, with a signature and a digest; the tool has no digest
for it. -/
theorem kernelSecure_concurs_unless_strays :
    secureCall zeroRequest = .ok ⟨"disk", some "kernel", some zeroKey⟩ ∧
      LoadCall.ServedAs ⟨"disk", some "kernel", some zeroKey⟩ strayed (archived strayed) ∧
      (∃ copied closed, (withFile (Files.openFile "disk" (some "kernel") 0) fun handle =>
          copyImage handle (some zeroKey)).Ends (archived strayed).withoutKernel (.done copied)
            closed ∧
        copied.signature.isSome ∧ copied.hasher.isSome) ∧
      (Signing.segmentDigest strayed .sha256).Ends () (.failed .outOfBounds) () := by
  have served := archived_served strayed (some zeroKey)
  obtain ⟨copied, reaches⟩ : ∃ copied, (withFile (Files.openFile "disk" (some "kernel") 0)
      fun handle => copyImage handle (some zeroKey)).Ends (archived strayed).withoutKernel
        (.done copied) _ :=
    ends_of_isDone (by decide +kernel)
  obtain ⟨signature, hasher, _, _, _, found, hashed, _⟩ := copying_concurs served reaches
  exact ⟨secureCall_zero, served,
    ⟨copied, _, reaches, Option.isSome_iff_exists.mpr ⟨signature, found⟩,
      Option.isSome_iff_exists.mpr ⟨hasher, hashed⟩⟩, by decide +kernel, rfl⟩

end Loader

end Bootloader
