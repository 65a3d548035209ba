import Bootloader.Proofs.SystemPage.Block
import Bootloader.Proofs.SystemPage.Coverage
import Bootloader.Proofs.SystemPage.Frames

/-!
# What a save leaves

A save writes the block of the page to its address and seals the page. Room for the block is
reserved before, which does not change the block; so what was written is the block of the page
that the save leaves. The save is refused where the block would cover a byte of a program or
of the text of the kernel (`save_settles`).
-/

set_option autoImplicit false

namespace Bootloader.SystemPage

open Act

section

variable {page : SystemPage} {start stop textStop : Address}

/-- The range from `low` to `high` has no place in common with the images on the page: with a
program, or with the text of the kernel. -/
def ClearOf (page : SystemPage) (low high : Nat) : Prop :=
  ∀ place, low ≤ place → place < high →
    (∀ program ∈ page.programs,
      ¬ (program.start.toNat ≤ place ∧ place < program.stop.toNat)) ∧
    ¬ (page.kernel.text.address.toNat ≤ place ∧
      place < page.kernel.text.address.toNat + page.kernel.text.size.toNat)

/-- A range that was found to cover no image is clear of all of them. -/
theorem clearOf_of_covers (free : page.coversImage textStop start stop = false)
    (text : page.kernel.text.address.advance? page.kernel.text.size.toNat = some textStop) :
    page.ClearOf start.toNat stop.toNat := by
  have reached := Address.advance?_eq_some_iff.mp text
  rw [coversImage, Bool.or_eq_false_iff, Bool.and_eq_false_iff, List.any_eq_false] at free
  obtain ⟨texts, programs⟩ := free
  intro place above below
  constructor
  · intro program member inside
    have missed := programs program member
    rw [Reservation.intersects_iff] at missed
    simp only [Address.lt_def] at missed
    omega
  · intro inside
    rcases texts with empty | missed
    · have zero : page.kernel.text.size = 0 := by simpa using empty
      rw [zero] at inside
      exact absurd inside.2 (Nat.not_lt.mpr inside.1)
    · rw [← Bool.not_eq_true, Reservation.intersects_iff] at missed
      simp only [Address.lt_def] at missed
      omega

end

variable {μ : Type} [PhysicalMemory μ]

/-- What a save that is granted leaves: a sealed page, and its block in memory at the address
that the save yields, clear of all images. -/
structure SavedAt (address : Address) (before after : SystemPage × μ) : Prop where
  pending : before.1.isSaved = false
  sealed : after.1.isSaved = true
  kernel : after.1.kernel = before.1.kernel
  written : PhysicalMemory.write before.2 address after.1.serialize = .ok after.2
  inside : address.toNat + after.1.serialize.length < UInt64.size
  clear : after.1.ClearOf address.toNat (address.toNat + after.1.serialize.length)

/-- A save that is refused leaves the memory and the description of the kernel alone, and no
sealed page is opened by it. -/
theorem save_settles {before after : SystemPage × μ} {outcome : Outcome PageError Address}
    (ends : (save : StoreAct μ Address).Ends before outcome after) :
    ((∀ address, outcome ≠ .done address) ∧ after.2 = before.2 ∧
        after.1.standing.2 = before.1.standing.2) ∨
      ∃ address, outcome = .done address ∧ SavedAt address before after := by
  obtain ⟨page, memory⟩ := before
  obtain ⟨left, written⟩ := after
  rcases save_ends ends with ⟨rfl, rfl, refused, _⟩ |
    ⟨address, stop, textStop, reserved, pending, placed, reached, text, free, room, ends⟩
  · exact .inl ⟨refused, rfl, rfl⟩
  · have kept : reserved.standing = page.standing := reserve_standing.ends room
    have block : reserved.serialize = page.serialize := reserve_serialize.ends room
    rcases ends with ⟨error, _, rfl, rfl, rfl⟩ | ⟨rfl, wrote, rfl⟩
    · exact .inl ⟨nofun, rfl, congrArg Prod.snd kept⟩
    · have sealedBlock : { reserved with isSaved := true }.serialize = page.serialize := block
      have kernel : reserved.kernel = page.kernel := congrArg (fun parts => parts.2.1) kept
      have stopped := Address.advance?_eq_some_iff.mp reached
      refine .inr ⟨address, rfl, pending, rfl, kernel, ?_, ?_, ?_⟩
      · rw [sealedBlock]
        exact wrote
      · rw [sealedBlock, ← stopped]
        exact stop.toNat_lt
      · rw [sealedBlock, ← stopped]
        rcases reserve_ends room with ⟨⟨_, failed⟩, _⟩ | ⟨_, _, _, _, _, _, rfl⟩
        · cases failed
        · exact clearOf_of_covers free text

end Bootloader.SystemPage
