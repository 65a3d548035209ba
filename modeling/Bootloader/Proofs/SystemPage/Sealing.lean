import Bootloader.Proofs.SystemPage.Block
import Bootloader.Proofs.SystemPage.History
import Bootloader.Proofs.SystemPage.Saving

/-!
# Sealed pages

A save seals the page. After that every request is refused that registers something, and so is
another save; only the description of the kernel can still be set. So whatever changes a sealed
page undergoes, nothing but that description is different (`Changes.of_sealed`). The description
is a part of the block, so the block of a sealed page is still the one that was written exactly
if the kernel is described as it was then (`serialize_eq_iff`).
-/

set_option autoImplicit false

namespace Bootloader.SystemPage

open Act

variable {page after : SystemPage}

/-- Nothing but the description of the kernel is different. -/
def OnlyKernel (page after : SystemPage) : Prop :=
  after = { page with kernel := after.kernel }

theorem OnlyKernel.trans {first second third : SystemPage} (earlier : OnlyKernel first second)
    (later : OnlyKernel second third) : OnlyKernel first third := by
  unfold OnlyKernel at *
  rw [later, earlier]

theorem OnlyKernel.isSaved (only : OnlyKernel page after) : after.isSaved = page.isSaved := by
  rw [only]

theorem OnlyKernel.eq_of_kernel (only : OnlyKernel page after)
    (same : after.kernel = page.kernel) : after = page := by
  rw [only, same]

/-- The block says how the kernel is described. -/
theorem OnlyKernel.serialize_eq_iff (only : OnlyKernel page after) :
    after.serialize = page.serialize ↔ after.kernel = page.kernel := by
  constructor
  · intro same
    have header : after.header = page.header := by
      rw [← read_header after [], ← read_header page [], same]
    exact congrArg Header.kernel header
  · exact fun same => congrArg SystemPage.serialize (only.eq_of_kernel same)

/-! ## Changes of a sealed page -/

/-- All changes but a description of the kernel need a page that is not sealed. -/
theorem Change.of_sealed (change : Change page after) (sealed : page.isSaved = true) :
    OnlyKernel page after := by
  have refused : page.isSaved ≠ false := by simp [sealed]
  cases change with
  | kernel kernel => rfl
  | map | reservation | top | program | partition | window | address | sealed =>
      exact absurd ‹page.isSaved = false› refused

theorem Changes.of_sealed (changes : Changes page after) (sealed : page.isSaved = true) :
    OnlyKernel page after := by
  induction changes with
  | refl => rfl
  | tail _ change ih => exact ih.trans (change.of_sealed (ih.isSaved.trans sealed))

/-- Nothing is registered on a sealed page. -/
theorem Registered.of_sealed (registered : Registered page after) (sealed : page.isSaved = true) :
    after = page :=
  (registered.changes.of_sealed sealed).eq_of_kernel (congrArg Prod.fst registered.standing)

/-! ## Requests to a sealed page -/

variable {μ : Type} [PhysicalMemory μ] {store left : SystemPage × μ}

/-- A sealed page is not saved again. -/
theorem save_of_sealed {outcome : Outcome PageError Address} (sealed : store.1.isSaved = true)
    (ends : (save : StoreAct μ Address).Ends store outcome left) : left = store := by
  rcases save_ends ends with ⟨memory, page, _⟩ | ⟨_, _, _, _, pending, _⟩
  · exact Prod.ext page memory
  · exact absurd (pending.symm.trans sealed) Bool.false_ne_true

/-- A save that seals the page writes its block to its address. -/
theorem save_seals {outcome : Outcome PageError Address} (pending : store.1.isSaved = false)
    (sealed : left.1.isSaved = true)
    (ends : (save : StoreAct μ Address).Ends store outcome left) :
    ∃ address, left.1.address = some address ∧
      PhysicalMemory.write store.2 address left.1.serialize = .ok left.2 := by
  rcases save_settles ends with ⟨_, _, kept⟩ | ⟨address, rfl, saved⟩
  · have same : left.1.isSaved = store.1.isSaved := congrArg Prod.snd kept
    cases sealed.symm.trans (same.trans pending)
  · refine ⟨address, ?_, saved.written⟩
    rcases save_ends ends with ⟨_, _, refused, _⟩ | ⟨_, _, _, reserved, _, placed, _, _, _, room,
      ends⟩
    · exact absurd rfl (refused address)
    · rcases ends with ⟨_, _, failed, _⟩ | ⟨done, _, same⟩
      · cases failed
      · cases done
        rw [same]
        rcases reserve_ends room with ⟨⟨_, failed⟩, _⟩ | ⟨_, _, _, _, _, _, rfl⟩
        · cases failed
        · exact placed

/-- A request to a sealed page describes the kernel, or changes nothing. -/
theorem Performs.of_sealed {request : Request} (performs : Performs request store left)
    (sealed : store.1.isSaved = true) :
    OnlyKernel store.1 left.1 ∧
      ((∀ part, request ≠ .setKernel part) → left.1 = store.1) := by
  cases performs with
  | registers registered =>
      have same := registered.of_sealed sealed
      exact ⟨registered.changes.of_sealed sealed, fun _ => same⟩
  | describes part asked same =>
      subst same
      exact ⟨rfl, fun other => absurd asked (other part)⟩
  | saves outcome asked ends =>
      have same := congrArg Prod.fst (save_of_sealed sealed ends)
      exact ⟨(save_changes ends).of_sealed sealed, fun _ => same⟩

end Bootloader.SystemPage
