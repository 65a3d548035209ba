import Bootloader.Image.Builder
import Bootloader.Proofs.Image.Patching
import Bootloader.Proofs.Signing.Digests
import Bootloader.Proofs.Trust.Signatures

/-!
# Signing an image that was signed

A signature is laid over the section that the image has for it, and over nothing else. The tool
does not ask what else the image keeps there. If that section is apart from everything that is
consulted to sign the image, which is its header, its tables, the names of its sections and the
contents of its loaded segments, then the signed image has the digest that it was signed for, and
its signature where it was looked for; and signing it again leaves it as it is
(`signImage_settles`). A section for the signature that lies in a loaded segment becomes part of
what it signs: the digest is another one afterwards, and the signature belongs to no image
(`signImage_unsettled`).
-/

set_option autoImplicit false

namespace Bootloader.Signing

open Act
open Trust (Algorithm Scalar ScalarPair)

variable {image signed : Bytes} {algorithm : Algorithm} {key : Scalar}
  {header : Image.FileHeader} {programs : List Image.ProgramHeader}
  {names place : Image.SectionHeader} {digest : Bytes} {signature : ScalarPair}

/-- How an image was signed: with the signature of its digest, in its section for one. -/
structure SignedWith (image : Bytes) (algorithm : Algorithm) (key : Scalar) (signed : Bytes)
    (header : Image.FileHeader) (programs : List Image.ProgramHeader)
    (names place : Image.SectionHeader) (digest : Bytes) (signature : ScalarPair) : Prop where
  opens : (Image.openImage (Image.Source.ofBytes image)).Ends () (.done header) ()
  lists : (Image.programHeaders (Image.Source.ofBytes image) header).Ends () (.done programs) ()
  named : ∃ sections, (Image.sectionHeaders (Image.Source.ofBytes image) header).Ends ()
      (.done sections) () ∧ sections[header.nameSection.toNat]? = some names
  digested : (segmentDigest image algorithm).Ends () (.done digest) ()
  located : (findSignature image).Ends () (.done (some place)) ()
  sized : place.size.toNat = Trust.signatureLength
  inside : place.offset.toNat + Trust.signatureLength ≤ image.length
  made : Trust.sign digest key = .ok signature
  laid : signed = image.overlay place.offset.toNat signature.toBytes

/-- The parts of an image that are looked at when it is signed. -/
def consulted (header : Image.FileHeader) (programs : List Image.ProgramHeader)
    (names : Image.SectionHeader) : List Image.Part :=
  ⟨0, Image.FileHeader.layout.size⟩ :: header.programs.part :: header.sections.part ::
    names.part :: (programs.filter Image.ProgramHeader.isLoad).map Image.ProgramHeader.part

/-- The section for the signature is looked for in an image that opens. -/
theorem findSignature_ends_iff
    (opens : (Image.openImage (Image.Source.ofBytes image)).Ends () (.done header) ())
    {found : Option Image.SectionHeader} :
    (findSignature image).Ends () (.done found) () ↔
      (Image.sectionNamed? (Image.Source.ofBytes image) header Image.signatureSection).Ends ()
        (.done found) () :=
  ends_bind_of_done opens

/-- What it takes for an image to be signed. -/
theorem signImage_done_iff :
    (signImage image algorithm key).Ends () (.done signed) () ↔
      ∃ header programs names place digest signature,
        SignedWith image algorithm key signed header programs names place digest signature := by
  constructor
  · intro ends
    obtain ⟨digest, ⟨⟩, digested, ends⟩ := ends_bind_done.mp ends
    rw [ends_mapError_done] at digested
    obtain ⟨found, ⟨⟩, located, ends⟩ := ends_bind_done.mp ends
    rw [ends_mapError_done] at located
    rcases ends_ofOption_bind.mp ends with ⟨place, rfl, ends⟩ | ⟨_, failed, _⟩
    · rcases ends_require_bind.mp ends with ⟨size, ends⟩ | ⟨_, failed, _⟩
      · obtain ⟨signature, ⟨⟩, making, placing⟩ := ends_bind_done.mp ends
        obtain ⟨made, _⟩ := ends_ofExcept_done.mp (ends_mapError_done.mp making)
        obtain ⟨header, programs, opens, lists, _, _⟩ := segmentDigest_done_iff.mp digested
        obtain ⟨sections, names, _, ⟨⟩, listed, named, _⟩ :=
          Image.sectionNamed?_ends.mp ((findSignature_ends_iff opens).mp located)
        unfold placeSignature? at placing
        split at placing
        case isTrue inside =>
          exact ⟨header, programs, names, place, digest, signature, opens, lists,
            ⟨sections, listed, named⟩, digested, located, by simpa using size, inside, made,
            (Outcome.done.inj placing.1).symm⟩
        case isFalse => cases placing.1
      · cases failed
    · cases failed
  · rintro ⟨header, programs, names, place, digest, signature, way⟩
    refine (ends_bind_of_done (ends_mapError_done.mpr way.digested)).mpr ?_
    refine (ends_bind_of_done (ends_mapError_done.mpr way.located)).mpr ?_
    refine ends_ofOption_bind.mpr (.inl ⟨place, rfl, ?_⟩)
    refine ends_require_bind.mpr (.inl ⟨by simpa using way.sized, ?_⟩)
    rw [way.made]
    refine ends_ofExcept_bind.mpr (.inl ⟨signature, rfl, ?_⟩)
    rw [placeSignature?, if_pos way.inside, ← way.laid]
    exact ⟨rfl, rfl⟩

namespace SignedWith

variable (way : SignedWith image algorithm key signed header programs names place digest signature)

include way

/-- The signature takes the place that was found for it. -/
theorem part_eq : place.part = ⟨place.offset.toNat, signature.toBytes.length⟩ := by
  rw [Image.SectionHeader.part, way.sized, ScalarPair.length_toBytes]

theorem room : place.offset.toNat + signature.toBytes.length ≤ image.length := by
  rw [ScalarPair.length_toBytes]
  exact way.inside

theorem length_eq : signed.length = image.length := by
  rw [way.laid, Bytes.length_overlay way.room]

/-- The signature is where it was looked for. -/
theorem holds : place.part.of signed = signature.toBytes := by
  rw [way.part_eq, way.laid, Image.Part.of]
  exact Bytes.slice_overlay_self way.room

/-- Whatever is apart from the signature is as it was. -/
theorem spares {part : Image.Part} (apart : part.Apart place.part) :
    part.of signed = part.of image := by
  rw [way.part_eq] at apart
  rw [way.laid]
  exact Image.Part.of_overlay way.room apart

omit way in
/-- An image is signed in one way only. -/
theorem unique {headers : List Image.ProgramHeader} {other : Image.FileHeader}
    {table section_ : Image.SectionHeader} {bytes : Bytes} {pair : ScalarPair}
    (way : SignedWith image algorithm key signed header programs names place digest signature)
    (again : SignedWith image algorithm key signed other headers table section_ bytes pair) :
    header = other ∧ programs = headers ∧ names = table ∧ place = section_ := by
  obtain ⟨sections, sectioning, named⟩ := way.named
  obtain ⟨_, sectioning', named'⟩ := again.named
  cases (way.opens.unique again.opens).1
  cases (way.lists.unique again.lists).1
  cases (sectioning.unique sectioning').1
  cases named.symm.trans named'
  cases (way.located.unique again.located).1
  exact ⟨rfl, rfl, rfl, rfl⟩

/-- What was signed is signed in the same way, if nothing that is consulted was written over. -/
theorem again (apart : ∀ part ∈ consulted header programs names, part.Apart place.part) :
    SignedWith signed algorithm key signed header programs names place digest signature := by
  rw [consulted, way.part_eq, List.forall_mem_cons, List.forall_mem_cons, List.forall_mem_cons,
    List.forall_mem_cons] at apart
  obtain ⟨first, listed, sectioned, called, loaded⟩ := apart
  obtain ⟨sections, sectioning, named⟩ := way.named
  obtain ⟨_, _, opens, lists, contained, same⟩ := segmentDigest_done_iff.mp way.digested
  cases (way.opens.unique opens).1
  cases (way.lists.unique lists).1
  have contents : Image.contentsOf signed (programs.filter Image.ProgramHeader.isLoad) =
      Image.contentsOf image (programs.filter Image.ProgramHeader.isLoad) := by
    refine List.flatMap_congr fun segment member => way.spares ?_
    rw [way.part_eq]
    exact loaded _ (List.mem_map_of_mem member)
  have reopens : (Image.openImage (Image.Source.ofBytes signed)).Ends () (.done header) () := by
    rw [way.laid, Image.openImage_overlay way.room first]
    exact opens
  have relists : (Image.programHeaders (Image.Source.ofBytes signed) header).Ends ()
      (.done programs) () := by
    rw [way.laid, Image.programHeaders, Image.readTable_overlay way.room listed]
    exact lists
  refine ⟨reopens, relists, ⟨sections, ?_, named⟩, ?_, ?_, way.sized, ?_, way.made, ?_⟩
  · rw [way.laid, Image.sectionHeaders, Image.readTable_overlay way.room sectioned]
    exact sectioning
  · refine segmentDigest_done_iff.mpr ⟨header, programs, reopens, relists, ?_, ?_⟩
    · rw [Contained, way.length_eq]
      exact contained
    · rw [contents]
      exact same
  · rw [findSignature_ends_iff reopens, way.laid]
    exact Image.sectionNamed?_overlay way.room sectioning named sectioned called
      ((findSignature_ends_iff opens).mp way.located)
  · rw [way.length_eq]
    exact way.inside
  · rw [way.laid, Bytes.overlay_overlay way.room]

end SignedWith

/-- **Signing an image settles it, unless the signature is laid over what it is made from.** The
signature of the digest goes to the section for it, and nothing else of the image changes; and if
that section is apart from what is consulted, then the digest, the section and the signature are
the same for the signed image, and signing it again changes nothing. -/
theorem signImage_settles (ends : (signImage image algorithm key).Ends () (.done signed) ()) :
    ∃ header programs names place digest signature,
      SignedWith image algorithm key signed header programs names place digest signature ∧
      signed.length = image.length ∧ place.part.of signed = signature.toBytes ∧
      (∀ part : Image.Part, part.Apart place.part → part.of signed = part.of image) ∧
      ((∀ part ∈ consulted header programs names, part.Apart place.part) →
        SignedWith signed algorithm key signed header programs names place digest signature ∧
        (signImage signed algorithm key).Ends () (.done signed) ()) := by
  obtain ⟨header, programs, names, place, digest, signature, way⟩ := signImage_done_iff.mp ends
  refine ⟨header, programs, names, place, digest, signature, way, way.length_eq, way.holds,
    fun _ => way.spares, fun apart => ⟨way.again apart, ?_⟩⟩
  exact signImage_done_iff.mpr ⟨_, _, _, _, _, _, way.again apart⟩

/-! ## Images of zeros -/

/-- An image of one segment of zeros, with a section for the signature behind it. -/
def blank : Image.Blueprint where
  entry := 0x10000
  segments := [.readExecute 0x10000 (List.replicate 64 0)]
  sections := [(Image.signatureSection, List.replicate 64 0)]

/-- The section for the signature of the image. -/
def blankPlace : Image.SectionHeader :=
  Image.plainSection 6 Image.contentsKind 0 0 148 64

/-- The digest of the zeros. -/
def blankDigest : Bytes :=
  [245, 165, 253, 66, 209, 106, 32, 48, 39, 152, 239, 110, 211, 9, 151, 155,
    67, 0, 61, 35, 32, 217, 240, 232, 234, 152, 49, 169, 39, 89, 251, 75]

/-- A private key. -/
def sampleKey : Scalar :=
  ⟨List.replicate 32 0x42, rfl⟩

/-- The signature of the digest of the zeros with this key. -/
def blankSignature : ScalarPair where
  first := ⟨[4, 152, 157, 125, 94, 7, 58, 17, 194, 158, 89, 146, 137, 196, 215, 221,
    108, 132, 141, 127, 40, 103, 76, 184, 247, 112, 38, 254, 53, 188, 107, 142], rfl⟩
  second := ⟨[214, 213, 78, 75, 241, 99, 47, 174, 223, 182, 113, 183, 129, 107, 163, 174,
    186, 245, 46, 78, 79, 69, 155, 202, 10, 69, 38, 177, 162, 23, 213, 12], rfl⟩

theorem digestOf_blank :
    (Trust.digestOf .sha256 (List.replicate 64 0)).bytes = blankDigest := by
  decide +kernel

theorem sign_blank : Trust.sign blankDigest sampleKey = .ok blankSignature := by
  have made : (Trust.sign blankDigest sampleKey).toOption = some blankSignature := by
    decide +kernel
  cases result : Trust.sign blankDigest sampleKey with
  | ok signature =>
      rw [result] at made
      exact congrArg _ (Option.some.inj made)
  | error error =>
      rw [result] at made
      cases made

/-- An image with these headers whose loaded contents are zeros is signed for them. -/
theorem signedWith_blank (image : Bytes) (programs : List Image.ProgramHeader)
    (opens : (Image.openImage (Image.Source.ofBytes image)).Ends () (.done blank.fileHeader) ())
    (lists : (Image.programHeaders (Image.Source.ofBytes image) blank.fileHeader).Ends ()
      (.done programs) ())
    (sections : (Image.sectionHeaders (Image.Source.ofBytes image) blank.fileHeader).Ends ()
      (.done blank.sectionHeaders) ())
    (located : (findSignature image).Ends () (.done (some blankPlace)) ())
    (contained : Contained image (programs.filter Image.ProgramHeader.isLoad))
    (contents : Image.contentsOf image (programs.filter Image.ProgramHeader.isLoad) =
      List.replicate 64 0)
    (inside : 212 ≤ image.length) :
    SignedWith image .sha256 sampleKey (image.overlay 148 blankSignature.toBytes) blank.fileHeader
      programs blank.namesHeader blankPlace blankDigest blankSignature := by
  refine ⟨opens, lists, ⟨_, sections, by decide +kernel⟩, ?_, located, by decide, inside, sign_blank, rfl⟩
  refine segmentDigest_done_iff.mpr ⟨_, _, opens, lists, contained, ?_⟩
  rw [contents, digestOf_blank]

/-- The image is signed in its section for the signature, and its segment is as it was. -/
theorem signImage_settles_blank :
    ∃ signed, (signImage blank.build .sha256 sampleKey).Ends () (.done signed) () ∧
      signed ≠ blank.build ∧ (signImage signed .sha256 sampleKey).Ends () (.done signed) () := by
  have way := signedWith_blank blank.build blank.segmentHeaders
    ⟨by decide +kernel, rfl⟩ ⟨by decide +kernel, rfl⟩ ⟨by decide +kernel, rfl⟩
    ⟨by decide +kernel, rfl⟩ (by decide +kernel) (by decide +kernel) (by decide +kernel)
  have ends := signImage_done_iff.mpr ⟨_, _, _, _, _, _, way⟩
  obtain ⟨_, _, _, _, _, _, other, _, _, _, settles⟩ := signImage_settles ends
  obtain ⟨rfl, rfl, rfl, rfl⟩ := way.unique other
  exact ⟨_, ends, by decide +kernel, (settles (by decide +kernel)).2⟩

/-- The same image, but for the segment, whose contents are said to be where the section for the
signature is. -/
def swallowed : Bytes :=
  blank.build.overlay 56 [148]

/-- The header of its segment. -/
def swallowedHeaders : List Image.ProgramHeader :=
  [Image.Segment.header (.readExecute 0x10000 (List.replicate 64 0)) 148]

/-- The image is signed, and after that its digest is not the one that was signed. -/
theorem signImage_unsettled :
    ∃ signed, (signImage swallowed .sha256 sampleKey).Ends () (.done signed) () ∧
      (segmentDigest swallowed .sha256).Ends () (.done blankDigest) () ∧
      ¬ (segmentDigest signed .sha256).Ends () (.done blankDigest) () := by
  have way := signedWith_blank swallowed swallowedHeaders
    ⟨by decide +kernel, rfl⟩ ⟨by decide +kernel, rfl⟩ ⟨by decide +kernel, rfl⟩
    ⟨by decide +kernel, rfl⟩ (by decide +kernel) (by decide +kernel) (by decide +kernel)
  refine ⟨_, signImage_done_iff.mpr ⟨_, _, _, _, _, _, way⟩, way.digested, fun same => ?_⟩
  have opens : (Image.openImage (Image.Source.ofBytes
      (swallowed.overlay 148 blankSignature.toBytes))).Ends () (.done blank.fileHeader) () :=
    ⟨by decide +kernel, rfl⟩
  have lists : (Image.programHeaders (Image.Source.ofBytes
      (swallowed.overlay 148 blankSignature.toBytes)) blank.fileHeader).Ends ()
      (.done swallowedHeaders) () := ⟨by decide +kernel, rfl⟩
  obtain ⟨_, _, opens', lists', _, differs⟩ := segmentDigest_done_iff.mp same
  cases (opens.unique opens').1
  cases (lists.unique lists').1
  revert differs
  decide +kernel

end Bootloader.Signing
