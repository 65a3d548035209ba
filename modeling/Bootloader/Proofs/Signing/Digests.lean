import Bootloader.Proofs.Image.Contents
import Bootloader.Proofs.Trust.Streaming
import Bootloader.Signing.Image

/-!
# The digest that a signature is made over

The digest of an image is that of the contents of its loaded segments, one after the other in the
order of their headers (`segmentDigest_done_iff`). There is none if a segment does not lie in the
image (`segmentDigest_stray`), which may be one without contents too, if it starts behind the end.
-/

set_option autoImplicit false

namespace Bootloader.Signing

open Act
open Trust (Algorithm Hasher)

variable {image : Bytes} {segments programs : List Image.ProgramHeader} {header : Image.FileHeader}
  {algorithm : Algorithm} {digest : Bytes}

/-- Every one of some segments lies in the image. -/
def Contained (image : Bytes) (segments : List Image.ProgramHeader) : Prop :=
  ∀ segment ∈ segments, segment.offset.toNat + segment.fileSize.toNat ≤ image.length

instance (image : Bytes) (segments : List Image.ProgramHeader) :
    Decidable (Contained image segments) :=
  inferInstanceAs (Decidable (∀ segment ∈ segments, _))

/-- Segments are fed one by one, up to one that does not lie in the image. -/
theorem feedSegments_eq (image : Bytes) (hasher : Hasher) (segments : List Image.ProgramHeader) :
    feedSegments (Image.Source.ofBytes image) hasher segments =
      if Contained image segments then
        pure ((segments.map fun segment => segment.part.of image).foldl Hasher.feed hasher)
      else fail .outOfBounds := by
  induction segments generalizing hasher with
  | nil => rw [if_pos nofun, List.map_nil, List.foldl_nil, feedSegments]
  | cons segment rest ih =>
      have both : Contained image (segment :: rest) ↔
          segment.offset.toNat + segment.fileSize.toNat ≤ image.length ∧ Contained image rest :=
        List.forall_mem_cons
      rw [feedSegments, funext fun contents => ih (hasher.feed contents)]
      by_cases inside : segment.offset.toNat + segment.fileSize.toNat ≤ image.length
      · simp only [Image.Source.ofBytes, both, inside, true_and]
        rfl
      · simp only [Image.Source.ofBytes, both, inside, false_and, if_false]
        rfl

/-- What its headers make of the digest of an image. -/
theorem segmentDigest_of_headers
    (opens : (Image.openImage (Image.Source.ofBytes image)).Ends () (.done header) ())
    (lists : (Image.programHeaders (Image.Source.ofBytes image) header).Ends () (.done programs)
      ()) :
    (segmentDigest image algorithm).Ends ()
      (if Contained image (programs.filter Image.ProgramHeader.isLoad) then
        .done (Trust.digestOf algorithm
          (Image.contentsOf image (programs.filter Image.ProgramHeader.isLoad))).bytes
      else .failed .outOfBounds) () := by
  unfold segmentDigest
  dsimp only
  refine (ends_bind_of_done opens).mpr ((ends_bind_of_done lists).mpr ?_)
  rw [feedSegments_eq]
  split
  · refine ends_pure_bind.mpr ?_
    rw [Hasher.finish_foldl_feed, Image.contentsOf, List.flatMap_def]
    exact ⟨rfl, rfl⟩
  · exact ends_fail_bind.mpr ⟨rfl, rfl⟩

/-- **The digest of an image is that of the contents of its loaded segments**, which all lie in
the image. -/
theorem segmentDigest_done_iff :
    (segmentDigest image algorithm).Ends () (.done digest) () ↔
      ∃ header programs, (Image.openImage (Image.Source.ofBytes image)).Ends () (.done header) () ∧
        (Image.programHeaders (Image.Source.ofBytes image) header).Ends () (.done programs) () ∧
        Contained image (programs.filter Image.ProgramHeader.isLoad) ∧
        digest = (Trust.digestOf algorithm
          (Image.contentsOf image (programs.filter Image.ProgramHeader.isLoad))).bytes := by
  constructor
  · intro ends
    obtain ⟨header, ⟨⟩, opens, rest⟩ := ends_bind_done.mp ends
    obtain ⟨programs, ⟨⟩, lists, _⟩ := ends_bind_done.mp rest
    have known := (ends.unique (segmentDigest_of_headers opens lists)).1
    split at known
    · next contained =>
        exact ⟨header, programs, opens, lists, contained, Outcome.done.inj known⟩
    · cases known
  · rintro ⟨header, programs, opens, lists, contained, rfl⟩
    have ends : (segmentDigest image algorithm).Ends () _ () := segmentDigest_of_headers opens lists
    rwa [if_pos contained] at ends

/-- There is no digest if a segment does not lie in the image. -/
theorem segmentDigest_stray
    (opens : (Image.openImage (Image.Source.ofBytes image)).Ends () (.done header) ())
    (lists : (Image.programHeaders (Image.Source.ofBytes image) header).Ends () (.done programs)
      ())
    (stray : ¬ Contained image (programs.filter Image.ProgramHeader.isLoad)) :
    (segmentDigest image algorithm).Ends () (.failed .outOfBounds) () := by
  have ends : (segmentDigest image algorithm).Ends () _ () := segmentDigest_of_headers opens lists
  rwa [if_neg stray] at ends

end Bootloader.Signing
