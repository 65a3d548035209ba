import Bootloader.Proofs.Boot.Handover
import Bootloader.Proofs.Device.Instances
import Bootloader.Proofs.Files.Lending

/-!
# How commands treat the files

A command that does not launch asks only instances that are in use, and gives back what it opens
(`conducts_ordinary`). It opens a file at most for the time of a body that reads it
(`conducts_withFile`); everything else that it does either leaves the files alone or registers an
alias. A run that stalls is still in its body, so what it gives back is said only of runs that
return. A start brings the devices up (`start_files`), a launch that is made releases them, and one
that is refused leaves the files alone (`go_files`).
-/

set_option autoImplicit false

namespace Bootloader.Loader

open Act
open Trust (Algorithm Hasher)

variable {ω μ : Type}

/-- What is said of the files before and after. -/
def OfFiles (relation : Files ω → Files ω → Prop) (before after : Loader ω μ) : Prop :=
  relation before.files after.files

section

variable {relation : Files ω → Files ω → Prop} [IsPreorder (Files ω) relation]

instance : IsPreorder (Loader ω μ) (OfFiles relation) where
  refl loader := refl_of relation loader.files
  trans _ _ _ earlier later := trans_of relation earlier later

omit [IsPreorder (Files ω) relation] in
theorem respects_ofFiles {α : Type} {request : FileAct ω α} (respects : request.Respects relation) :
    (onFiles request : BootAct ω μ α).Respects (OfFiles relation) :=
  Respects.mapError (respects.zoom fun _ _ related => related)

/-- What leaves the files alone is fine with every relation of theirs. -/
theorem respects_of_idle {α : Type} {action : BootAct ω μ α}
    (idle : action.Respects (Same Loader.files)) : action.Respects (OfFiles relation) := by
  refine idle.mono fun before after same => ?_
  rw [OfFiles, same]
  exact refl_of relation _

end

/-! ## What leaves the files alone -/

section

variable {α : Type}

theorem idle_onPage {request : PageAct α} :
    (onPage request : BootAct ω μ α).Respects (Same Loader.files) := by
  refine respects_of_ends fun ends => ?_
  obtain ⟨_, _, _, _, rfl⟩ := ends_onPage.mp ends
  rfl

theorem idle_onStore {request : StoreAct μ α} :
    (onStore request : BootAct ω μ α).Respects (Same Loader.files) := by
  refine respects_of_ends fun ends => ?_
  obtain ⟨_, _, _, _, _, rfl⟩ := ends_onStore.mp ends
  rfl

theorem idle_update {change : Loader ω μ → Loader ω μ}
    (same : ∀ loader, (change loader).files = loader.files) :
    (Act.update change : BootAct ω μ Unit).Respects (Same Loader.files) :=
  respects_update same

theorem idle_print {text : String} : (print text : BootAct ω μ Unit).Respects (Same Loader.files) :=
  idle_update fun _ => rfl

theorem idle_showPrograms : (showPrograms : BootAct ω μ Unit).Respects (Same Loader.files) :=
  respects_read.bind fun _ => idle_print

theorem idle_register {settled : Settled} {size : Nat}
    {instructionMaps dataMaps commandLine : String} {flags : ProgramFlags} :
    (register settled size instructionMaps dataMaps commandLine flags :
      BootAct ω μ Unit).Respects (Same Loader.files) := by
  refine idle_onPage.bind fun _ => ?_
  split
  · exact idle_onPage
  · exact respects_pure

theorem idle_forgetKernel : (forgetKernel : BootAct ω μ Unit).Respects (Same Loader.files) :=
  respects_forgetKernel_of fun _ => rfl

theorem idle_acceptKernel {device : String} {copied : Copied} :
    (acceptKernel device copied : BootAct ω μ Unit).Respects (Same Loader.files) :=
  respects_acceptKernel_of (fun _ _ => idle_onPage) (fun _ => idle_onPage) fun _ => rfl

theorem idle_writeMemory [PhysicalMemory μ] {address : Address} {data : Bytes} :
    (writeMemory address data : BootAct ω μ Unit).Respects (Same Loader.files) := by
  refine respects_of_ends fun ends => ?_
  rcases writeMemory_ends ends with ⟨_, _, _, rfl⟩ | ⟨_, _, rfl⟩
  · rfl
  · rfl

end

/-! ## What uses an open file -/

section

variable [Hardware ω] {handle : Handle}

theorem peeks_uses : Peeks (μ := μ) handle (OfFiles (ω := ω) Files.Uses) :=
  ⟨respects_ofFiles Files.respects_stat, fun _ => respects_ofFiles Files.respects_map,
    fun _ _ => respects_ofFiles Files.respects_readExact⟩

variable [PhysicalMemory μ]

theorem uses_copyToMap {map : String} {offset size : Nat} {algorithm : Option Algorithm} :
    (copyToMap handle offset size map algorithm : BootAct ω μ Placed).Respects
      (OfFiles Files.Uses) :=
  respects_copyToMap_of peeks_uses.read (fun _ => respects_of_idle idle_onStore)
    (respects_of_idle idle_onPage)

theorem uses_copyImage {key : Option KernelKey} :
    (copyImage handle key : BootAct ω μ Copied).Respects (OfFiles Files.Uses) :=
  respects_copyImage_of peeks_uses.read fun _ _ => respects_of_idle idle_writeMemory

end

/-! ## Commands -/

section

variable [Hardware ω] {α β : Type}

/-- Every run asks only instances that are in use, and one that returns has given back what it
opened. -/
structure Conducts (action : BootAct ω μ α) : Prop where
  talks : action.Respects (OfFiles Files.Talks)
  returns : action.RespectsOnReturn (OfFiles Files.SameOpen)

theorem conducts_of_orderly {action : BootAct ω μ α}
    (orderly : action.Respects (OfFiles Files.Orderly)) : Conducts action where
  talks := orderly.mono fun _ _ => Files.Orderly.talks
  returns := (orderly.mono fun _ _ => Files.Orderly.sameOpen).onReturn

theorem conducts_of_idle {action : BootAct ω μ α} (idle : action.Respects (Same Loader.files)) :
    Conducts action :=
  conducts_of_orderly (respects_of_idle idle)

theorem Conducts.bind {action : BootAct ω μ α} {next : α → BootAct ω μ β}
    (first : Conducts action) (later : ∀ value, Conducts (next value)) :
    Conducts (action >>= next) where
  talks := first.talks.bind fun value => (later value).talks
  returns := first.returns.bind fun value => (later value).returns

/-- What opens a file ends with nothing opened, or with the first free slot filled. -/
def IsOpening (opening : FileAct ω Handle) : Prop :=
  ∀ before outcome after, opening.Ends before outcome after →
    ∃ opens, Files.Opening opens before outcome after

theorem isOpening_openFile {device : String} {name : Option String} {flags : Nat} :
    IsOpening (Files.openFile device name flags : FileAct ω Handle) :=
  fun _ _ _ ends => ⟨_, Files.openFile_ends ends⟩

theorem isOpening_openImage {device : String} {image : ImageName} :
    IsOpening (openImage device image : FileAct ω Handle) := by
  intro before outcome after ends
  unfold openImage at ends
  split at ends
  · exact ⟨_, Files.openWindow_ends ends⟩
  · exact ⟨_, Files.openFile_ends ends⟩

/-- **The use of a file gives back its handle**, by the closing after its body or on the way out
of a body that did not come to its end, whether or not the device goes along with it. -/
theorem conducts_withFile {opening : FileAct ω Handle} {body : Handle → BootAct ω μ α}
    (opens : IsOpening opening)
    (inside : ∀ handle, (body handle).Respects (OfFiles Files.Uses)) :
    Conducts (withFile opening body) := by
  have settles : ∀ before outcome after, (withFile opening body).Ends before outcome after →
      OfFiles Files.Talks before after ∧
        (outcome ≠ .stalled → OfFiles Files.SameOpen before after) := by
    intro before outcome after ends
    rcases ends_bind.mp ends with ⟨handle, opened, here, ends⟩ | ⟨halt, here, halts⟩
    · obtain ⟨_, given⟩ := opens _ _ _ (onFiles_done here).1
      obtain ⟨_, middle, usage, _, closing⟩ := bracket_ends ends
      have uses : Files.Uses opened.files middle.files := (inside handle).ends usage
      -- both closings are the closing of the handle
      have closed : ∀ {ending}, (Files.close handle).Ends middle.files ending after.files →
          OfFiles Files.Talks before after ∧ OfFiles Files.SameOpen before after :=
        fun closing => ⟨trans_of Files.Talks (trans_of Files.Talks given.talks uses.talks)
          (Files.respects_close.ends closing), Files.sameOpen_of_lent given uses closing⟩
      rcases closing with ⟨_, closing⟩ | ⟨_, closing⟩ | ⟨stalled, rfl⟩
      · obtain ⟨_, files, inside, _, rfl⟩ := ends_onFiles.mp closing
        exact ⟨(closed inside).1, fun _ => (closed inside).2⟩
      · obtain ⟨_, files, inside, _, rfl⟩ := ends_onFiles.mp closing
        obtain ⟨_, inside⟩ := Files.abandon_ends inside
        exact ⟨(closed inside).1, fun _ => (closed inside).2⟩
      · exact ⟨trans_of Files.Talks given.talks uses.talks, fun returns => absurd stalled returns⟩
    · obtain ⟨ending, files, inside, renamed, rfl⟩ := ends_onFiles.mp here
      obtain ⟨_, given⟩ := opens _ _ _ inside
      refine ⟨given.talks, fun _ => ?_⟩
      cases given with
      | refused uses => exact uses.sameOpen
      | granted =>
          cases renamed
          cases halts
  exact ⟨respects_of_ends fun ends => (settles _ _ _ ends).1,
    fun before outcome after ends => (settles _ _ _ ends).2⟩

variable [PhysicalMemory μ]

theorem conducts_app (arguments : List String) :
    Conducts (app arguments : BootAct ω μ Unit) := by
  unfold app
  split
  · exact conducts_of_idle idle_showPrograms
  · refine (conducts_of_idle respects_splitDevice).bind fun given => ?_
    dsimp only
    split
    case h_3 => exact conducts_of_idle fun loader => refl_of (Same Loader.files) loader
    all_goals
      refine (conducts_of_idle respects_pure).bind fun parts =>
        (conducts_of_idle respects_ofExcept).bind fun image =>
        (conducts_of_idle respects_ofOption).bind fun map =>
        (conducts_of_idle (respects_same respects_checkLists)).bind fun _ => ?_
      refine (conducts_withFile isOpening_openImage fun handle => ?_).bind fun found =>
        conducts_of_idle (respects_note.bind fun _ => idle_register)
      refine peeks_uses.stat.bind fun size => peeks_uses.mapInPlace.bind fun shown => ?_
      cases shown with
      | some address =>
          exact (respects_orCrash.bind fun _ => respects_pure).bind fun _ => respects_pure
      | none => exact uses_copyToMap.bind fun placed => respects_pure

theorem conducts_blob (arguments : List String) :
    Conducts (blob arguments : BootAct ω μ Unit) := by
  unfold blob
  split
  case h_1 device name map =>
    refine (conducts_of_idle respects_ofExcept).bind fun image =>
      (conducts_of_idle (respects_same respects_checkMap)).bind fun _ => ?_
    refine (conducts_withFile isOpening_openImage fun handle => ?_).bind fun found =>
      conducts_of_idle (respects_note.bind fun _ => idle_register)
    exact peeks_uses.stat.bind fun size => uses_copyToMap.bind fun placed => respects_pure
  case h_2 => exact conducts_of_idle idle_showPrograms
  case h_3 => exact conducts_of_idle respects_fail

theorem conducts_placeVerified (request : SecureRequest) :
    Conducts (placeVerified request : BootAct ω μ Unit) :=
  (conducts_withFile isOpening_openImage fun _ =>
    peeks_uses.settleVerified fun _ _ _ => uses_copyToMap).bind fun _ =>
      conducts_of_idle (respects_note.bind fun _ => idle_register)

theorem conducts_loadKernel {device : String} {name : Option String} {key : Option KernelKey} :
    Conducts (loadKernel device name key : BootAct ω μ Unit) :=
  (conducts_of_idle idle_forgetKernel).bind fun _ =>
    (conducts_withFile isOpening_openFile fun _ => uses_copyImage).bind fun _ =>
      (conducts_of_idle (respects_same respects_checkSignature)).bind fun _ =>
        conducts_of_idle idle_acceptKernel

theorem conducts_call (asked : Except BootError LoadCall) :
    Conducts (Act.ofExcept asked >>= LoadCall.run : BootAct ω μ Unit) :=
  (conducts_of_idle respects_ofExcept).bind fun _ => conducts_loadKernel

theorem conducts_kernel (arguments : List String) :
    Conducts (kernel arguments : BootAct ω μ Unit) where
  talks := respects_of_ends fun ends => (conducts_call _).talks.ends (kernel_ends.mp ends)
  returns _ _ _ ends := (conducts_call _).returns _ _ _ (kernel_ends.mp ends)

omit [PhysicalMemory μ] in
theorem admits_registries_orderly :
    AdmitsRegistries (ω := ω) (μ := μ) (OfFiles Files.Orderly) where
  print _ := respects_of_idle idle_print
  named _ _ := refl_of Files.Orderly _
  page _ _ := respects_of_idle idle_onPage
  registerDevice _ _ _ := respects_ofFiles Files.respects_registerDevice
  registerFile _ _ := respects_ofFiles Files.respects_registerFile

/-- **A command that does not launch asks only instances in use, and leaves no file open.** -/
theorem conducts_ordinary {command : Command} {arguments : List String} (launch : command ≠ .go) :
    Conducts (runCommand command arguments : BootAct ω μ Unit) := by
  cases command with
  | app => exact conducts_app arguments
  | appSecure =>
      exact (conducts_of_idle (respects_same respects_secureProgram)).bind conducts_placeVerified
  | blob => exact conducts_blob arguments
  | blobSecure =>
      exact (conducts_of_idle (respects_same respects_secureBlob)).bind conducts_placeVerified
  | file => exact conducts_of_orderly admits_registries_orderly.addFile
  | go => exact absurd rfl launch
  | help => exact conducts_of_idle idle_print
  | kernel => exact conducts_kernel arguments
  | kernelSecure =>
      rw [runCommand, kernelSecure_eq]
      exact conducts_call _
  | map => exact conducts_of_orderly admits_registries_orderly.addMap
  | part => exact conducts_of_orderly admits_registries_orderly.addPartition
  | aliases => exact conducts_of_orderly admits_registries_orderly.addAlias
  | sched => exact conducts_of_orderly admits_registries_orderly.addWindows
  | page => exact conducts_of_orderly admits_registries_orderly.movePage

/-! ## Starting and launching -/

omit [PhysicalMemory μ] in
/-- A start brings the devices up, and does nothing else to the files. -/
theorem start_files {before after : Loader ω μ} {outcome : Outcome BootError Unit}
    (ends : (start : BootAct ω μ Unit).Ends before outcome after) :
    ∃ ending devices,
      (Devices.initAll : ManagerAct ω Nat).Ends before.files.devices ending devices ∧
      after.files = { before.files with devices } := by
  have probes : ∀ {ending middle},
      (onFiles (Files.inDevices Devices.initAll) : BootAct ω μ Nat).Ends before ending middle →
      ∃ ending devices,
        (Devices.initAll : ManagerAct ω Nat).Ends before.files.devices ending devices ∧
        middle.files = { before.files with devices } := by
    intro ending middle here
    obtain ⟨_, _, inside, _, rfl⟩ := ends_onFiles.mp here
    obtain ⟨devices, probing, same⟩ := ends_zoom.mp inside
    exact ⟨_, devices, probing, same.symm⟩
  rcases ends_bind.mp ends with ⟨up, middle, here, ends⟩ | ⟨halt, here, _⟩
  · obtain ⟨ending, devices, probing, same⟩ := probes here
    refine ⟨ending, devices, probing,
      Eq.trans (Respects.ends (?_ : Respects (Same Loader.files) _) ends) same⟩
    refine respects_note.bind fun _ => respects_read.bind fun loader => ?_
    dsimp only
    split
    · refine idle_onPage.bind fun _ => ?_
      split
      · exact idle_onPage
      · exact respects_pure
    · split
      · exact idle_onPage
      · exact respects_pure
  · exact probes here

/-- A launch releases the devices if it is made, and does nothing to the files otherwise. -/
theorem go_files {arguments : List String} {before after : Loader ω μ}
    {outcome : Outcome BootError Unit}
    (ends : (go arguments : BootAct ω μ Unit).Ends before outcome after) :
    (outcome ≠ .done () ∧ after.files = before.files) ∨
    (outcome = .done () ∧ ∃ devices,
      (Devices.doneAll : ManagerAct ω Unit).Ends before.files.devices (.done ()) devices ∧
      after.files = { before.files with devices }) := by
  rcases ends_require_bind.mp ends with ⟨_, ends⟩ | ⟨_, rfl, rfl⟩
  · rcases launch_steps ends with ⟨refused, rfl⟩ | ⟨_, page, memory, _, _, rest⟩
    · exact .inl ⟨refused, rfl⟩
    · rcases rest with ⟨refused, _, rfl⟩ | ⟨address, _, jumps⟩
      · exact .inl ⟨refused, rfl⟩
      · rcases ends_bind.mp jumps with ⟨_, middle, here, ends⟩ | ⟨halt, here, halts⟩
        · obtain ⟨devices, released, files⟩ := ends_zoom.mp (onFiles_done here).1
          obtain ⟨rfl, rfl⟩ := ends_note_bind.mp ends
          exact .inr ⟨rfl, devices, released, files.symm⟩
        · obtain ⟨_, _, inside, rfl, _⟩ := ends_onFiles.mp here
          obtain ⟨devices, released, _⟩ := ends_zoom.mp inside
          obtain ⟨rfl, _⟩ := Devices.doneAll_releases released
          cases halts
  · exact .inl ⟨nofun, rfl⟩

/-! ## Lines -/

omit [Hardware ω] [PhysicalMemory μ] in
/-- A line that ended in this way launched: it asks for that, and succeeded. -/
def Launched (line : String) (outcome : Outcome BootError Exit) : Prop :=
  (∃ arguments, Command.ofLine? line = some (.go, arguments)) ∧ outcome = .done .success

section

variable {line : String} {before after : Loader ω μ} {outcome : Outcome BootError Exit}
  (ends : (execute line : BootAct ω μ Exit).Ends before outcome after)

include ends

/-- A line that does not launch asks only instances in use, and leaves no file open. -/
theorem execute_conducts (quiet : ¬ Launched line outcome) :
    Files.Talks before.files after.files ∧
      (outcome ≠ .stalled → Files.SameOpen before.files after.files) := by
  rcases execute_ends ends with ⟨_, console, rfl⟩ |
    ⟨command, arguments, ending, left, console, called, inside, rfl, rfl, _⟩
  · exact ⟨refl_of Files.Talks _, fun _ => refl_of Files.SameOpen _⟩
  · by_cases launch : command = .go
    · subst launch
      rcases go_files inside with ⟨_, same⟩ | ⟨rfl, _⟩
      · show Files.Talks before.files left.files ∧ (_ → Files.SameOpen before.files left.files)
        rw [same]
        exact ⟨refl_of Files.Talks _, fun _ => refl_of Files.SameOpen _⟩
      · exact absurd ⟨⟨arguments, called⟩, rfl⟩ quiet
    · have conducts : Conducts (runCommand command arguments : BootAct ω μ Unit) :=
        conducts_ordinary launch
      have returns : exitOf ending ≠ .stalled → Files.SameOpen before.files left.files := by
        intro returned
        refine conducts.returns _ _ _ inside ?_
        rintro rfl
        exact returned rfl
      have talks : Files.Talks before.files left.files := conducts.talks.ends inside
      exact ⟨talks, returns⟩

/-- A line that launches does nothing to the files but to release the devices. -/
theorem execute_releases (launched : Launched line outcome) :
    ∃ devices, (Devices.doneAll : ManagerAct ω Unit).Ends before.files.devices (.done ()) devices ∧
      after.files = { before.files with devices } := by
  obtain ⟨⟨arguments, asked⟩, succeeded⟩ := launched
  rcases execute_ends ends with ⟨idle, _⟩ |
    ⟨command, arguments, ending, left, console, called, inside, same, rfl, _⟩
  · cases asked.symm.trans idle
  · cases asked.symm.trans called
    rcases go_files inside with ⟨refused, _⟩ | ⟨_, released⟩
    · -- a command that was refused makes its line fail
      rw [succeeded] at same
      cases ending with
      | done => exact absurd rfl refused
      | failed | crashed | stalled => cases same
    · exact released

end

end

end Bootloader.Loader
