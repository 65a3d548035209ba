import Bootloader.Proofs.Boot.Session
import Bootloader.Proofs.SystemPage.Sealing

/-!
# Loaders with a sealed page

A page is sealed by a save, which a request or a launch may make. From then on the loader may be
given further requests and further command lines, in any order. They leave the sealed page as it
is, except for the description of the kernel, which can still be set and is forgotten and set
by loads. So the page stays the one whose block was written exactly as long as the kernel is
described as it was (`sealed_page_stays`).
-/

set_option autoImplicit false

namespace Bootloader.Loader

open Act
open SystemPage (OnlyKernel Request)

variable {ω μ : Type}

/-! ## Operations -/

/-- Something that is done to a loader: a request to its page, or a command line. -/
inductive Operation where
  | request (request : Request)
  | line (line : String)

/-- Whether an operation describes the kernel: it does so directly, or loads one. -/
def Operation.Describes (operation : Operation) (loader : Loader ω μ) : Prop :=
  match operation with
  | .request asked => ∃ part, asked = .setKernel part
  | .line text => ∃ call, loadCall? text loader = some call

variable [Hardware ω] [PhysicalMemory μ]

/-- The loader after an operation. -/
def afterOperation (loader : Loader ω μ) : Operation → Loader ω μ
  | .request request =>
      let visit := request.visit (loader.page, loader.memory)
      { loader with page := visit.after.1, memory := visit.after.2 }
  | .line line => ((execute line).run loader).state

/-- The loader after operations that follow each other. -/
def afterOperations : List Operation → Loader ω μ → Loader ω μ
  | [], loader => loader
  | operation :: rest, loader => afterOperations rest (loader.afterOperation operation)

/-- None of the operations describes the kernel. -/
def Undescribed : List Operation → Loader ω μ → Prop
  | [], _ => True
  | operation :: rest, loader =>
      ¬ operation.Describes loader ∧ Undescribed rest (loader.afterOperation operation)

/-! ## Lines -/

section

variable {before after : Loader ω μ} {line : String}

/-- A line that loads no kernel leaves a sealed page as it is. -/
theorem Does.of_sealed (does : Does line before after) (sealed : before.page.isSaved = true)
    (unasked : loadCall? line before = none) : after.page = before.page := by
  cases does with
  | prepares _ prepared => exact prepared.registered.of_sealed sealed
  | loads call outcome left console asked => cases unasked.symm.trans asked
  | launches arguments outcome left console called ends same =>
      subst same
      rcases go_saves ends with ⟨page, _⟩ | ⟨_, saving⟩
      · exact page
      · exact congrArg Prod.fst (SystemPage.save_of_sealed sealed saving)

/-- A line that seals the page wrote its block to its address. -/
theorem Does.seals (does : Does line before after) (pending : before.page.isSaved = false)
    (sealed : after.page.isSaved = true) :
    ∃ address, after.page.address = some address ∧
      PhysicalMemory.write before.memory address after.page.serialize = .ok after.memory := by
  cases does with
  | prepares _ prepared =>
      cases sealed.symm.trans (prepared.keeps.isSaved.trans pending)
  | loads call outcome left console asked ends same =>
      subst same
      have kept : left.page.isSaved = before.page.isSaved :=
        congrArg Prod.snd (LoadCall.run_settles ends).1.same
      cases sealed.symm.trans (kept.trans pending)
  | launches arguments outcome left console called ends same =>
      subst same
      rcases go_saves ends with ⟨page, _⟩ | ⟨_, saving⟩
      · cases sealed.symm.trans ((congrArg SystemPage.isSaved page).trans pending)
      · exact SystemPage.save_seals pending sealed saving

end

/-! ## Operations on a sealed page -/

section

variable {loader : Loader ω μ} {operation : Operation}

theorem afterOperation_of_sealed (operation : Operation)
    (sealed : loader.page.isSaved = true) :
    OnlyKernel loader.page (loader.afterOperation operation).page ∧
      (¬ operation.Describes loader →
        (loader.afterOperation operation).page = loader.page) := by
  cases operation with
  | request request =>
      have performs := SystemPage.perform_performs
        (SystemPage.visit_ends request (loader.page, loader.memory))
      obtain ⟨only, same⟩ := performs.of_sealed sealed
      exact ⟨only, fun plain => same fun part asked => plain ⟨part, asked⟩⟩
  | line line =>
      have does := execute_does (ends_run (execute line : BootAct ω μ Exit) loader)
      refine ⟨does.changes.of_sealed sealed, fun plain => does.of_sealed sealed ?_⟩
      exact Option.eq_none_iff_forall_ne_some.mpr fun call asked => plain ⟨call, asked⟩

theorem afterOperation_seals (pending : loader.page.isSaved = false)
    (sealed : (loader.afterOperation operation).page.isSaved = true) :
    ∃ address, (loader.afterOperation operation).page.address = some address ∧
      PhysicalMemory.write loader.memory address (loader.afterOperation operation).page.serialize =
        .ok (loader.afterOperation operation).memory := by
  cases operation with
  | request request =>
      have performs := SystemPage.perform_performs
        (SystemPage.visit_ends request (loader.page, loader.memory))
      cases performs with
      | registers registered =>
          have kept := congrArg Prod.snd registered.standing
          cases sealed.symm.trans (kept.trans pending)
      | describes part asked same =>
          have kept := congrArg (fun store => store.1.isSaved) same
          cases sealed.symm.trans (kept.trans pending)
      | saves outcome asked ends => exact SystemPage.save_seals pending sealed ends
  | line line =>
      exact (execute_does (ends_run (execute line : BootAct ω μ Exit) loader)).seals pending sealed

theorem afterOperations_of_sealed (operations : List Operation)
    (sealed : loader.page.isSaved = true) :
    OnlyKernel loader.page (afterOperations operations loader).page ∧
      (Undescribed operations loader →
        (afterOperations operations loader).page = loader.page) := by
  induction operations generalizing loader with
  | nil => exact ⟨rfl, fun _ => rfl⟩
  | cons operation rest ih =>
      obtain ⟨only, same⟩ := afterOperation_of_sealed operation sealed
      obtain ⟨further, others⟩ := ih (only.isSaved.trans sealed)
      refine ⟨only.trans further, ?_⟩
      rintro ⟨plain, undescribed⟩
      exact (others undescribed).trans (same plain)

end

/-- A page that was sealed, and the page at a later time: the block of the former was written to
its address, nothing but the description of the kernel is different in the latter, and its block
is the one that was written exactly if the description is the same. -/
structure StaysSealed (before sealed left : Loader ω μ) : Prop where
  written : ∃ address, sealed.page.address = some address ∧
    PhysicalMemory.write before.memory address sealed.page.serialize = .ok sealed.memory
  only : OnlyKernel sealed.page left.page
  block : left.page.serialize = sealed.page.serialize ↔ left.page.kernel = sealed.page.kernel

/-- **A sealed page stays as it is but for the description of the kernel.** This holds from the
operation on that seals it, a request or a launch, and whatever operations follow; and if none of
them describes the kernel, the page stays as it is. -/
theorem sealed_page_stays {loader : Loader ω μ} {operation : Operation}
    (pending : loader.page.isSaved = false)
    (sealed : (loader.afterOperation operation).page.isSaved = true) (later : List Operation) :
    let after := loader.afterOperation operation
    let left := afterOperations later after
    StaysSealed loader after left ∧ (Undescribed later after → left.page = after.page) := by
  obtain ⟨only, same⟩ := afterOperations_of_sealed later sealed
  exact ⟨⟨afterOperation_seals pending sealed, only, only.serialize_eq_iff⟩, same⟩

/-- A loader with a kernel, ready to be launched. -/
def launchReady : Loader Bench.World IdentityMemory :=
  let commands : BootAct Bench.World IdentityMemory Exit := do
    start
    executeLines ["phfs disk 4.0", "kernel disk", "syspage 0x20000"]
  (commands.run (ofParts Board.standard imageBench IdentityMemory.zeros 0)).state

/-- After a launch a map, another address and another launch are refused, and the page is still
the one that was written. -/
theorem sealed_page_stays_launched :
    let launched := launchReady.afterOperation (.line "go!")
    let later := [Operation.line "map ram 0 0x1000 rwx", .request (.setAddress ⟨0x30000⟩),
      .line "go!"]
    launchReady.page.isSaved = false ∧ launched.page.isSaved = true ∧
      Undescribed later launched ∧ StaysSealed launchReady launched (afterOperations later launched) ∧
      (afterOperations later launched).page = launched.page := by
  intro launched later
  have pending : launchReady.page.isSaved = false := by decide +kernel
  have sealed : launched.page.isSaved = true := by decide +kernel
  have undescribed : Undescribed later launched := by
    have unasked : ∀ (line : String) (loader : Loader Bench.World IdentityMemory),
        loadCall? line loader = none → ¬ (Operation.line line).Describes loader := by
      rintro line loader none ⟨call, asked⟩
      cases none.symm.trans asked
    exact ⟨unasked _ _ rfl, nofun, unasked _ _ rfl, trivial⟩
  obtain ⟨stays, same⟩ := sealed_page_stays pending sealed later
  exact ⟨pending, sealed, undescribed, stays, same undescribed⟩

/-- An entry that is described after a save is taken over into the sealed page. Its block is not
the one any more that was written. -/
theorem sealed_page_redescribed :
    let loader : Loader Bench.World IdentityMemory :=
      (ofParts Board.standard imageBench IdentityMemory.zeros 0).afterOperation
        (.request (.setAddress ⟨0x1000⟩))
    let saved := loader.afterOperation (.request .save)
    let left := saved.afterOperation (.request (.setKernel (.entry ⟨1⟩)))
    loader.page.isSaved = false ∧ saved.page.isSaved = true ∧ left.page ≠ saved.page ∧
      left.page.serialize ≠ saved.page.serialize := by
  decide +kernel

end Bootloader.Loader
