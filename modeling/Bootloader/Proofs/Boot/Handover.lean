import Bootloader.Proofs.Boot.Loading
import Bootloader.Proofs.SystemPage.Saving

/-!
# The jump to a kernel

A launch asks for a kernel, saves the page, releases the devices, and then jumps. Each of these
steps can refuse, and then there is no jump; a save that went before stays. What holds when the
jump is made is taken together in one structure (`Handover`), and every attempt to launch ends
with that or leaves the launches and the kernel as they are (`launch_ends`).
-/

set_option autoImplicit false

namespace Bootloader.Loader

open Act

variable {ω μ : Type}

section

variable [Hardware ω]

/-! ## Releasing the devices -/

/-- A release leaves no instance in use. -/
theorem doneAll_ends {before after : Devices ω}
    (ends : (Devices.doneAll : ManagerAct ω Unit).Ends before (.done ()) after) :
    ∀ backend ∈ after.backends, ∀ probed ∈ backend.probed, probed = false := by
  obtain ⟨_, middle, released, ends⟩ := ends_bind_done.mp (ends_read_bind.mp ends)
  obtain ⟨_, rfl⟩ := ends_update.mp ends
  intro backend member probed used
  obtain ⟨former, _, rfl⟩ := List.mem_map.mp member
  obtain ⟨_, _, same⟩ := List.mem_map.mp used
  exact same.symm

/-! ## Launching -/

/-- What holds when a launch is made. There is a kernel, and the page was not saved before.
Now it is, and its address is handed over with the entry of the kernel; the last that happened
to memory is that the page was written there. No device is in use. -/
structure Handover [PhysicalMemory μ] (before after : Loader ω μ) (launch : Launch) : Prop where
  loaded : before.kernelLoaded = true
  saved : SystemPage.SavedAt launch.page (before.page, before.memory) (after.page, after.memory)
  entry : launch.entry = after.page.kernel.entry
  launches : after.launches = before.launches ++ [launch]
  released : ∀ backend ∈ after.files.devices.backends, ∀ probed ∈ backend.probed, probed = false

variable [PhysicalMemory μ] {before after : Loader ω μ}

/-- What an attempt to launch leaves alone in any case: the launches before it, whether a
kernel is loaded, and what is said about it. -/
def launchable (loader : Loader ω μ) : List Launch × Bool × SystemPage.KernelDescriptor :=
  (loader.launches, loader.kernelLoaded, loader.page.kernel)

omit [PhysicalMemory μ] in
/-- What follows a save in a launch: the devices are released, and then it is made. -/
def jump (target : Launch) : BootAct ω μ Unit := do
  onFiles (Files.inDevices Devices.doneAll)
  report .context .info ("plo: jumping to " ++ target.entry.render ++ ", syspage at " ++
    target.page.render)
  Act.update fun loader => { loader with launches := loader.launches ++ [target] }

omit [PhysicalMemory μ] in
theorem jump_ends {target : Launch} {outcome : Outcome BootError Unit}
    (ends : (jump target : BootAct ω μ Unit).Ends before outcome after) :
    (outcome ≠ .done () ∧ OnlyFiles before after) ∨
    (outcome = .done () ∧
      after = { before with files := after.files, launches := before.launches ++ [target] } ∧
      ∀ backend ∈ after.files.devices.backends, ∀ probed ∈ backend.probed, probed = false) := by
  rcases ends_bind.mp ends with ⟨_, middle, here, ends⟩ | ⟨halt, here, halts⟩
  · obtain ⟨inside, only⟩ := onFiles_done here
    obtain ⟨devices, released, files⟩ := ends_zoom.mp inside
    obtain ⟨done, left⟩ := ends_note_bind.mp ends
    refine .inr ⟨done.symm, ?_, ?_⟩
    · rw [← left]
      rw [only]
      rfl
    · have same : middle.files.devices = devices := by rw [← files]
      rw [← left]
      show ∀ backend ∈ middle.files.devices.backends, _
      rw [same]
      exact doneAll_ends released
  · exact .inl ⟨halts.ne_done (), respects_onFiles.ends here⟩

/-- A launch asks for a kernel and saves the page. If there is one and the save is granted, it
jumps. -/
theorem launch_steps {outcome : Outcome BootError Unit}
    (ends : (launch : BootAct ω μ Unit).Ends before outcome after) :
    (outcome ≠ .done () ∧ after = before) ∨
    ∃ ending page memory, before.kernelLoaded = true ∧
      (SystemPage.save : StoreAct μ Address).Ends (before.page, before.memory) ending
        (page, memory) ∧
      ((outcome ≠ .done () ∧ (∀ address, ending ≠ .done address) ∧
          after = { before with page, memory }) ∨
        ∃ address, ending = .done address ∧
          (jump ⟨page.kernel.entry, address⟩ : BootAct ω μ Unit).Ends
            { before with page, memory } outcome after) := by
  rw [launch, ends_read_bind] at ends
  rcases ends_require_bind.mp ends with ⟨loaded, ends⟩ | ⟨_, rfl, rfl⟩
  · rcases ends_bind.mp ends with ⟨address, saved, here, ends⟩ | ⟨halt, here, halts⟩
    · obtain ⟨ending, page, memory, inside, renamed, rfl⟩ := ends_onStore.mp here
      refine .inr ⟨ending, page, memory, loaded, inside,
        .inr ⟨address, mapError_eq_done.mp renamed, ?_⟩⟩
      have ends := ends_read_bind.mp ends
      dsimp only at ends
      split at ends
      · exact ends_note_bind.mp ends
      · exact ends
    · obtain ⟨ending, page, memory, inside, renamed, rfl⟩ := ends_onStore.mp here
      refine .inr ⟨ending, page, memory, loaded, inside, .inl ⟨halts.ne_done (), ?_, rfl⟩⟩
      rintro address rfl
      subst renamed
      cases halts
  · exact .inl ⟨nofun, rfl⟩

/-- A launch changes the page and the memory by a save at most. -/
theorem launch_saves {outcome : Outcome BootError Unit}
    (ends : (launch : BootAct ω μ Unit).Ends before outcome after) :
    (after.page = before.page ∧ after.memory = before.memory) ∨
    ∃ ending, (SystemPage.save : StoreAct μ Address).Ends (before.page, before.memory) ending
      (after.page, after.memory) := by
  rcases launch_steps ends with ⟨_, rfl⟩ | ⟨ending, page, memory, _, saving, rest⟩
  · exact .inl ⟨rfl, rfl⟩
  · refine .inr ⟨ending, ?_⟩
    rcases rest with ⟨_, _, rfl⟩ | ⟨_, _, jumps⟩
    · exact saving
    · rcases jump_ends jumps with ⟨_, only⟩ | ⟨_, rest, _⟩
      · rw [only]
        exact saving
      · rw [rest]
        exact saving

/-- A launch that is refused makes none, and opens no sealed page; any other is a handover. -/
theorem launch_ends {outcome : Outcome BootError Unit}
    (ends : (launch : BootAct ω μ Unit).Ends before outcome after) :
    (outcome ≠ .done () ∧ Keeps launchable before after ∧
      (before.page.isSaved = true → after.page.isSaved = true)) ∨
    (outcome = .done () ∧ ∃ launch, Handover before after launch) := by
  rcases launch_steps ends with ⟨refused, rfl⟩ | ⟨ending, page, memory, loaded, saving, rest⟩
  · exact .inl ⟨refused, .refl _, id⟩
  · rcases SystemPage.save_settles saving with ⟨unsaved, unwritten, kept⟩ |
      ⟨address, rfl, savedAt⟩
    · rcases rest with ⟨refused, _, rfl⟩ | ⟨address, done, _⟩
      · refine .inl ⟨refused, ⟨?_, [], congrArg Except.ok unwritten.symm⟩, ?_⟩
        · exact congrArg (fun parts => (before.launches, before.kernelLoaded, parts.1)) kept
        · exact fun sealed => (congrArg Prod.snd kept).trans sealed
      · exact absurd done (unsaved address)
    · rcases rest with ⟨_, unsaved, _⟩ | ⟨place, same, jumps⟩
      · exact absurd rfl (unsaved address)
      · cases same
        rcases jump_ends jumps with ⟨refused, only⟩ | ⟨done, rest, released⟩
        · refine .inl ⟨refused, ⟨?_, [⟨address, page.serialize⟩], ?_⟩, ?_⟩
          · rw [launchable, only]
            exact congrArg (fun kernel => (before.launches, before.kernelLoaded, kernel))
              savedAt.kernel
          · rw [only.memory]
            exact writeChunks_cons.mpr ⟨_, savedAt.written, rfl⟩
          · rw [only.page]
            exact fun _ => savedAt.sealed
        · refine .inr ⟨done, ⟨page.kernel.entry, address⟩, loaded, ?_, ?_, ?_, released⟩
          · rw [rest]
            exact savedAt
          · rw [rest]
          · rw [rest]

theorem go_ends {arguments : List String} {outcome : Outcome BootError Unit}
    (ends : (go arguments : BootAct ω μ Unit).Ends before outcome after) :
    (outcome ≠ .done () ∧ Keeps launchable before after ∧
      (before.page.isSaved = true → after.page.isSaved = true)) ∨
    (arguments = [] ∧ outcome = .done () ∧ ∃ launch, Handover before after launch) := by
  rcases ends_require_bind.mp ends with ⟨empty, ends⟩ | ⟨_, rfl, rfl⟩
  · rcases launch_ends ends with refused | ⟨done, made⟩
    · exact .inl refused
    · exact .inr ⟨List.isEmpty_iff.mp empty, done, made⟩
  · exact .inl ⟨nofun, .refl _, id⟩

/-- On the page and in memory an attempt to launch does no more than a save. -/
theorem go_saves {arguments : List String} {outcome : Outcome BootError Unit}
    (ends : (go arguments : BootAct ω μ Unit).Ends before outcome after) :
    (after.page = before.page ∧ after.memory = before.memory) ∨
    ∃ ending, (SystemPage.save : StoreAct μ Address).Ends (before.page, before.memory) ending
      (after.page, after.memory) := by
  rcases ends_require_bind.mp ends with ⟨_, ends⟩ | ⟨_, _, rfl⟩
  · exact launch_saves ends
  · exact .inl ⟨rfl, rfl⟩

/-! ## Lines -/

variable {line : String}

/-- Whatever a line is, the page moves by changes. -/
theorem Does.changes (does : Does line before after) :
    SystemPage.Changes before.page after.page := by
  cases does with
  | prepares unasked prepared => exact prepared.registered.changes
  | loads call outcome left console asked ends same =>
      subst same
      show SystemPage.Changes before.page left.page
      exact LoadCall.run_changes ends
  | launches arguments outcome left console called ends same =>
      subst same
      show SystemPage.Changes before.page left.page
      rcases go_saves ends with ⟨page, _⟩ | ⟨_, saving⟩
      · rw [page]
      · exact SystemPage.save_changes saving

/-- Whatever a line is, memory is different by chunks that were written to it at most. -/
theorem Does.written (does : Does line before after) :
    ∃ chunks, writeChunks before.memory chunks = .ok after.memory := by
  cases does with
  | prepares _ prepared => exact prepared.keeps.written
  | loads call outcome left console asked ends same =>
      rw [same]
      exact (LoadCall.run_settles ends).1.written
  | launches arguments outcome left console called ends same =>
      rw [same]
      rcases go_ends ends with ⟨_, keeps, _⟩ | ⟨_, _, launch, handover⟩
      · exact keeps.written
      · exact ⟨[⟨launch.page, left.page.serialize⟩],
          writeChunks_cons.mpr ⟨_, handover.saved.written, rfl⟩⟩

end

end Bootloader.Loader
