import Bootloader.Boot.Context
import Bootloader.Proofs.Act.Frame
import Bootloader.Proofs.Files.Serving

/-!
# What the parts of a loader leave alone

A command turns to the files, to the page, or to the page and the memory, and leaves the
rest of the loader as it is. Most of what a command does before it decides is reading:
then only the files change (`OnlyFiles`). The use of an open file is taken apart here into
opening, body and closing (`withFile_ends`).
-/

set_option autoImplicit false

namespace Bootloader.Loader

open Act

variable {ω μ α β : Type}

/-- Nothing but the files is different. -/
def OnlyFiles (before after : Loader ω μ) : Prop :=
  after = { before with files := after.files }

theorem OnlyFiles.refl (loader : Loader ω μ) : OnlyFiles loader loader := rfl

theorem OnlyFiles.trans {first second third : Loader ω μ} (earlier : OnlyFiles first second)
    (later : OnlyFiles second third) : OnlyFiles first third := by
  unfold OnlyFiles at *
  rw [later, earlier]

instance : IsPreorder (Loader ω μ) OnlyFiles where
  refl := .refl
  trans _ _ _ := .trans

section

variable {before after : Loader ω μ} (only : OnlyFiles before after)

include only

theorem OnlyFiles.board : after.board = before.board := by rw [only]

theorem OnlyFiles.page : after.page = before.page := by rw [only]

theorem OnlyFiles.memory : after.memory = before.memory := by rw [only]

end

/-! ## Turning to a part -/

variable {before after : Loader ω μ}

theorem ends_onFiles {request : FileAct ω α} {outcome : Outcome BootError α} :
    (onFiles request : BootAct ω μ α).Ends before outcome after ↔
      ∃ ending files, request.Ends before.files ending files ∧
        ending.mapError .file = outcome ∧ { before with files } = after := by
  rw [onFiles, ends_mapError]
  constructor
  · rintro ⟨ending, inside, same⟩
    obtain ⟨files, ends, left⟩ := ends_zoom.mp inside
    exact ⟨ending, files, ends, same, left⟩
  · rintro ⟨ending, files, ends, same, left⟩
    exact ⟨ending, ends_zoom.mpr ⟨files, ends, left⟩, same⟩

/-- What the files yielded is what their request yielded. -/
theorem onFiles_done {request : FileAct ω α} {value : α}
    (ends : (onFiles request : BootAct ω μ α).Ends before (.done value) after) :
    request.Ends before.files (.done value) after.files ∧ OnlyFiles before after := by
  obtain ⟨ending, files, inside, same, rfl⟩ := ends_onFiles.mp ends
  refine ⟨?_, rfl⟩
  cases ending with
  | done other =>
      cases same
      exact inside
  | failed | crashed | stalled => cases same

theorem respects_onFiles {request : FileAct ω α} :
    (onFiles request : BootAct ω μ α).Respects OnlyFiles := by
  apply respects_of_ends
  intro before outcome after ends
  obtain ⟨_, files, _, _, rfl⟩ := ends_onFiles.mp ends
  rfl

theorem ends_onPage {request : PageAct α} {outcome : Outcome BootError α} :
    (onPage request : BootAct ω μ α).Ends before outcome after ↔
      ∃ ending page, request.Ends before.page ending page ∧
        ending.mapError .page = outcome ∧ { before with page } = after := by
  rw [onPage, ends_mapError]
  constructor
  · rintro ⟨ending, inside, same⟩
    obtain ⟨page, ends, left⟩ := ends_zoom.mp inside
    exact ⟨ending, page, ends, same, left⟩
  · rintro ⟨ending, page, ends, same, left⟩
    exact ⟨ending, ends_zoom.mpr ⟨page, ends, left⟩, same⟩

theorem ends_onStore {request : StoreAct μ α} {outcome : Outcome BootError α} :
    (onStore request : BootAct ω μ α).Ends before outcome after ↔
      ∃ ending page memory, request.Ends (before.page, before.memory) ending (page, memory) ∧
        ending.mapError .page = outcome ∧ { before with page, memory } = after := by
  rw [onStore, ends_mapError]
  constructor
  · rintro ⟨ending, inside, same⟩
    obtain ⟨⟨page, memory⟩, ends, left⟩ := ends_zoom.mp inside
    exact ⟨ending, page, memory, ends, same, left⟩
  · rintro ⟨ending, page, memory, ends, same, left⟩
    exact ⟨ending, ends_zoom.mpr ⟨(page, memory), ends, left⟩, same⟩

theorem ends_report {component : Log.Component} {level : Log.Level} {message : String}
    {outcome : Outcome BootError Unit} :
    (report component level message : BootAct ω μ Unit).Ends before outcome after ↔
      .done () = outcome ∧ before = after :=
  ends_note

/-- Forgetting the kernel changes what is known of it, and nothing else. -/
theorem ends_forgetKernel_bind {next : Unit → BootAct ω μ α} {outcome : Outcome BootError α} :
    (forgetKernel >>= next).Ends before outcome after ↔
      (next ()).Ends { before with
        kernelLoaded := false
        page := { before.page with kernel := SystemPage.KernelDescriptor.unknown } }
        outcome after := by
  unfold forgetKernel
  rw [bind_assoc, ends_read_bind]
  cases before.kernelLoaded with
  | true => exact Iff.rfl
  | false => exact Iff.rfl

/-! ## Open files -/

section

variable [Hardware ω]

/-- The use of a file goes through its opening, its body and its closing. It yields what the
body yields; after the body only the files change. -/
theorem withFile_ends {opening : FileAct ω Handle} {body : Handle → BootAct ω μ α}
    {outcome : Outcome BootError α} (ends : (withFile opening body).Ends before outcome after) :
    (∃ handle opened ending middle,
      (onFiles opening).Ends before (.done handle) opened ∧
      (body handle).Ends opened ending middle ∧ OnlyFiles middle after ∧
      ∀ value, outcome = .done value → ending = .done value) ∨
    (OnlyFiles before after ∧ ∀ value, outcome ≠ .done value) := by
  rcases ends_bind.mp ends with ⟨handle, opened, here, ends⟩ | ⟨halt, here, halts⟩
  · obtain ⟨ending, middle, inside, yields, closing⟩ := bracket_ends ends
    refine .inl ⟨handle, opened, ending, middle, here, inside, ?_, yields⟩
    rcases closing with ⟨_, closing⟩ | ⟨_, closing⟩ | ⟨_, same⟩
    · exact respects_onFiles.ends closing
    · exact respects_onFiles.ends closing
    · exact same ▸ .refl middle
  · exact .inr ⟨respects_onFiles.ends here, halts.ne_done⟩

/-- The use of a file yields what its body yields. -/
theorem yields_withFile {opening : FileAct ω Handle} {body : Handle → BootAct ω μ α}
    {fact : α → Prop} (inside : ∀ handle, (body handle).Yields fact) :
    (withFile opening body).Yields fact := by
  intro before value after ends
  rcases withFile_ends ends with ⟨handle, _, _, _, _, ends, _, yields⟩ | ⟨_, refused⟩
  · rw [yields value rfl] at ends
    exact inside handle _ _ _ ends
  · exact absurd rfl (refused value)

/-- What reading files and the body respect, the use of a file respects. -/
theorem respects_withFile {relation : Loader ω μ → Loader ω μ → Prop}
    [IsPreorder (Loader ω μ) relation] {opening : FileAct ω Handle}
    {body : Handle → BootAct ω μ α}
    (files : ∀ before after, OnlyFiles before after → relation before after)
    (inside : ∀ handle, (body handle).Respects relation) :
    (withFile opening body).Respects relation := by
  refine (respects_onFiles.mono files).bind ?_
  intro handle
  exact (inside handle).bracket (respects_onFiles.mono files) (respects_onFiles.mono files)

end

end Bootloader.Loader
