import Bootloader.Boot.Command
import Bootloader.Proofs.Boot.Registering
import Bootloader.Proofs.Boot.SignedKernel
import Bootloader.Proofs.SystemPage.Frames

/-!
# What commands do

A command line calls one command at most, and does no more beside it than to write to the
console (`execute_ends`). A command that neither loads a kernel nor launches one works in steps
of a few kinds (`Prepares`): it turns to the files, writes to the console, names the device to use
where none is named, registers something, or fills a map (`prepared_ordinary`). So it leaves alone
what decides whether there is a kernel to launch, and whether one was launched (`standing`).
The commands that only register something are run through once, for every relation that their
steps respect (`AdmitsRegistries`).
-/

set_option autoImplicit false

namespace Bootloader

/-- The command that a line calls, with its arguments. -/
def Command.ofLine? (line : String) : Option (Command × List String) :=
  match Text.words line.toList with
  | [] => none
  | name :: arguments =>
      if name.head? = some '#' then none
      else (Command.ofName? (String.ofList name)).map fun command =>
        (command, arguments.map String.ofList)

namespace Loader

open Act

variable {ω μ : Type}

/-- The launches made, whether a kernel is loaded, what is said about it, and whether the page
is saved. -/
def standing (loader : Loader ω μ) :
    List Launch × Bool × SystemPage.KernelDescriptor × Bool :=
  (loader.launches, loader.kernelLoaded, loader.page.standing.2)

/-- A view of the loader is what it was, and memory is different by chunks that were written
to it at most. -/
structure Keeps [PhysicalMemory μ] {π : Type} (view : Loader ω μ → π)
    (before after : Loader ω μ) : Prop where
  same : view after = view before
  written : ∃ chunks, writeChunks before.memory chunks = .ok after.memory

section

variable [PhysicalMemory μ] {π : Type} {view : Loader ω μ → π} {α : Type}
  {before after : Loader ω μ}

theorem Keeps.refl (loader : Loader ω μ) : Keeps view loader loader :=
  ⟨rfl, [], rfl⟩

theorem Keeps.trans {first second third : Loader ω μ} (earlier : Keeps view first second)
    (later : Keeps view second third) : Keeps view first third := by
  obtain ⟨chunks, wrote⟩ := earlier.written
  obtain ⟨others, further⟩ := later.written
  exact ⟨later.same.trans earlier.same, chunks ++ others,
    writeChunks_append.mpr ⟨_, wrote, further⟩⟩

theorem keeps_of_memory (same : view after = view before) (memory : after.memory = before.memory) :
    Keeps view before after :=
  ⟨same, [], congrArg Except.ok memory.symm⟩

theorem Keeps.launches (keeps : Keeps standing before after) : after.launches = before.launches :=
  congrArg (fun parts => parts.1) keeps.same

theorem Keeps.kernelLoaded (keeps : Keeps standing before after) :
    after.kernelLoaded = before.kernelLoaded :=
  congrArg (fun parts => parts.2.1) keeps.same

theorem Keeps.kernel (keeps : Keeps standing before after) :
    after.page.kernel = before.page.kernel :=
  congrArg (fun parts => parts.2.2.1) keeps.same

theorem Keeps.isSaved (keeps : Keeps standing before after) :
    after.page.isSaved = before.page.isSaved :=
  congrArg (fun parts => parts.2.2.2) keeps.same

/-- One step of a command that neither loads a kernel nor launches one. A map is filled at its
top, where there is room and no reservation in the way. -/
inductive Prepares (before : Loader ω μ) : Loader ω μ → Prop where
  | files (files : Files ω) : Prepares before { before with files }
  | console (console : String) : Prepares before { before with console }
  | device (device : Option String) : Prepares before { before with defaultDevice := device }
  | page (page : SystemPage) (registers : SystemPage.Registers before.page page) :
      Prepares before { before with page }
  | fill (map : SystemPage.MemoryMap) (stop : Address) (data : Bytes) (memory : μ)
      (pending : before.page.isSaved = false) (found : before.page.map? map.name = some map)
      (fits : data.length ≤ map.freeSize) (reached : map.top.advance? data.length = some stop)
      (free : map.collision? map.top stop = none)
      (wrote : PhysicalMemory.write before.memory map.top data = .ok memory) :
      Prepares before { before with
        page := before.page.changeMap map.name fun map => { map with top := stop }
        memory }

/-- Steps of this kind, one after the other. -/
abbrev Prepared : Loader ω μ → Loader ω μ → Prop :=
  Relation.ReflTransGen Prepares

instance : IsPreorder (Loader ω μ) Prepared where
  refl _ := Relation.ReflTransGen.refl
  trans _ _ _ := Relation.ReflTransGen.trans

theorem Prepares.prepared (prepares : Prepares before after) : Prepared before after :=
  Relation.ReflTransGen.single prepares

theorem Prepares.keeps (prepares : Prepares before after) : Keeps standing before after := by
  cases prepares with
  | files | console | device => exact keeps_of_memory rfl rfl
  | page page registers =>
      exact keeps_of_memory (congrArg (fun part => (_, _, part)) registers.standing) rfl
  | fill map stop data memory pending found fits reached free wrote =>
      exact ⟨rfl, [⟨map.top, data⟩], writeChunks_cons.mpr ⟨memory, wrote, rfl⟩⟩

theorem Prepared.keeps (prepared : Prepared before after) : Keeps standing before after := by
  induction prepared with
  | refl => exact .refl _
  | tail _ last ih => exact ih.trans last.keeps

/-- On the page the steps register something, or nothing. -/
theorem Prepared.registered (prepared : Prepared before after) :
    SystemPage.Registered before.page after.page := by
  induction prepared with
  | refl => exact Relation.ReflTransGen.refl
  | tail _ last ih =>
      cases last with
      | files | console | device => exact ih
      | page page registers => exact ih.tail registers
      | fill map stop data memory pending found fits reached free wrote =>
          exact ih.trans ((SystemPage.Change.top map.name map _ pending found
            (.fill data.length stop fits reached free)).registered rfl)

/-- A page that registers one thing after the other does so in as many steps. -/
theorem prepared_of_registered {page : SystemPage}
    (registered : SystemPage.Registered before.page page) :
    Prepared before { before with page } := by
  induction registered with
  | refl => exact Relation.ReflTransGen.refl
  | tail _ last ih => exact ih.tail (.page _ last)

theorem OnlyFiles.prepared (only : OnlyFiles before after) : Prepared before after := by
  rw [only]
  exact (Prepares.files after.files).prepared

theorem prepared_onFiles {request : FileAct ω α} :
    (onFiles request : BootAct ω μ α).Respects Prepared :=
  respects_onFiles.mono fun _ _ => OnlyFiles.prepared

theorem prepared_onPage {request : PageAct α} (registers : request.Respects SystemPage.Registered) :
    (onPage request : BootAct ω μ α).Respects Prepared := by
  apply respects_of_ends
  intro before outcome after ends
  obtain ⟨_, page, inside, _, rfl⟩ := ends_onPage.mp ends
  exact prepared_of_registered (registers.ends inside)

theorem prepared_print {text : String} : (print text : BootAct ω μ Unit).Respects Prepared :=
  respects_update fun _ => (Prepares.console _).prepared

theorem prepared_writeToMap {map : String} {data : Bytes} :
    (onStore (SystemPage.writeToMap map data) : BootAct ω μ Address).Respects Prepared := by
  apply respects_of_ends
  intro before outcome after ends
  obtain ⟨_, page, memory, inside, _, rfl⟩ := ends_onStore.mp ends
  rcases SystemPage.writeToMap_ends inside with ⟨rfl, rfl, _⟩ |
    ⟨found, stop, entry, rfl, pending, there, _, hit, _, rfl⟩ |
    ⟨found, stop, _, pending, there, fits, reached, free, wrote, rfl⟩
  · exact Relation.ReflTransGen.refl
  · exact prepared_of_registered ((SystemPage.Change.top map found _ pending there
      (.pass stop entry hit)).registered rfl)
  · obtain rfl : found.name = map := by simpa using List.find?_some there
    exact (Prepares.fill found stop data memory pending there fits reached free wrote).prepared

end

/-! ## Registries -/

section

/-- Writing to the console, naming a device, registering on the page what is no program, and
registering aliases respect a relation. -/
structure AdmitsRegistries (relation : Loader ω μ → Loader ω μ → Prop) : Prop where
  print : ∀ text, (print text : BootAct ω μ Unit).Respects relation
  named : ∀ (loader : Loader ω μ) device, relation loader { loader with defaultDevice := device }
  page : ∀ {α : Type} {request : PageAct α}, request.Respects SystemPage.Registered →
    request.Respects (Same SystemPage.standing) →
    (onPage request : BootAct ω μ α).Respects relation
  registerDevice : ∀ aliasName device protocol,
    (onFiles (Files.registerDevice aliasName device protocol) : BootAct ω μ Unit).Respects relation
  registerFile : ∀ aliasName window,
    (onFiles (Files.registerFile aliasName window) : BootAct ω μ Unit).Respects relation

variable {relation : Loader ω μ → Loader ω μ → Prop} [IsPreorder (Loader ω μ) relation]
  {arguments : List String} (admits : AdmitsRegistries relation)

include admits

theorem AdmitsRegistries.showPage : (showPage : BootAct ω μ Unit).Respects relation :=
  respects_read.bind fun _ => admits.print _

theorem AdmitsRegistries.addMap : (addMap arguments : BootAct ω μ Unit).Respects relation := by
  unfold Loader.addMap
  split
  · exact admits.showPage
  · exact respects_ofOption.bind fun start => respects_ofOption.bind fun stop =>
      respects_read.bind fun loader => respects_ofOption.bind fun attributes =>
        (admits.page SystemPage.addMap_registers SystemPage.addMap_standing).bind
          fun _ => respects_pure
  · exact respects_fail

theorem AdmitsRegistries.movePage : (movePage arguments : BootAct ω μ Unit).Respects relation := by
  unfold Loader.movePage
  split
  · exact admits.showPage
  · exact respects_ofOption.bind fun address =>
      admits.page SystemPage.setAddress_registers SystemPage.setAddress_standing
  · exact respects_fail

theorem AdmitsRegistries.addPartition :
    (addPartition arguments : BootAct ω μ Unit).Respects relation := by
  unfold Loader.addPartition
  split
  · exact respects_read.bind fun _ => admits.print _
  · exact admits.page SystemPage.addPartition_registers SystemPage.addPartition_standing
  · exact respects_fail

theorem AdmitsRegistries.addWindows :
    (addWindows arguments : BootAct ω μ Unit).Respects relation := by
  unfold Loader.addWindows
  split
  · exact admits.page SystemPage.addWindows_registers SystemPage.addWindows_standing
  · exact respects_fail

omit admits in
theorem respects_deviceNumber {argument : String} :
    (deviceNumber argument : BootAct ω μ DeviceId).Respects relation := by
  unfold deviceNumber
  exact respects_ofOption.bind fun parts => respects_ofOption.bind fun major =>
    respects_ofOption.bind fun major => respects_ofOption.bind fun minor =>
      respects_require.bind fun _ => respects_pure

theorem AdmitsRegistries.addAlias : (addAlias arguments : BootAct ω μ Unit).Respects relation := by
  have adds : ∀ (aliasName device : String) (protocol : Protocol),
      (addAlias.add aliasName device protocol : BootAct ω μ Unit).Respects relation := by
    intro aliasName device protocol
    refine respects_deviceNumber.bind fun _ => (admits.registerDevice _ _ _).bind fun _ => ?_
    exact (respects_update fun loader => admits.named loader _).bind fun _ => admits.print _
  unfold Loader.addAlias
  split
  · exact respects_read.bind fun _ => admits.print _
  · exact adds _ _ _
  · exact respects_ofOption.bind fun _ => adds _ _ _
  · exact respects_fail

theorem AdmitsRegistries.addFile : (addFile arguments : BootAct ω μ Unit).Respects relation := by
  unfold Loader.addFile
  split
  · exact respects_ofOption.bind fun start => respects_ofOption.bind fun size =>
      admits.registerFile _ _
  · exact respects_fail

end

section

variable [PhysicalMemory μ] {before after : Loader ω μ}

theorem admits_registries_prepared : AdmitsRegistries (ω := ω) (μ := μ) Prepared where
  print _ := prepared_print
  named _ _ := (Prepares.device _).prepared
  page registers _ := prepared_onPage registers
  registerDevice _ _ _ := prepared_onFiles
  registerFile _ _ := prepared_onFiles

/-! ## Images -/

variable [Hardware ω]

theorem admits_prepared : Admits (ω := ω) (μ := μ) Prepared where
  files _ _ := OnlyFiles.prepared
  copies _ _ _ _ := respects_copyToMap_of (fun _ _ => prepared_onFiles) (fun _ => prepared_writeToMap)
    (prepared_onPage SystemPage.alignMapTop_registers)
  console _ _ := (Prepares.console _).prepared

omit [Hardware ω] in
theorem prepared_registration {arguments : List String} {inPlace : Prop}
    {action : BootAct ω μ Unit} (registers : RegistersImage arguments inPlace action) :
    action.Respects Prepared := by
  obtain ⟨settled, size, _, _, _, _, _, _, _, rfl⟩ := registers
  refine (prepared_onPage SystemPage.addProgram_registers).bind fun _ => ?_
  split
  · exact prepared_onPage SystemPage.reserve_registers
  · exact respects_pure

/-- **A command that neither loads a kernel nor launches one works in steps of few kinds.** -/
theorem prepared_ordinary {command : Command} {arguments : List String} (load : command ≠ .kernel)
    (secureLoad : command ≠ .kernelSecure) (launch : command ≠ .go) :
    (runCommand command arguments : BootAct ω μ Unit).Respects Prepared := by
  cases command with
  | app => exact (app_upTo admits_prepared arguments).respects fun _ => prepared_registration
  | appSecure =>
      exact (appSecure_upTo admits_prepared arguments).respects fun _ => prepared_registration
  | blob => exact (blob_upTo admits_prepared arguments).respects fun _ => prepared_registration
  | blobSecure =>
      exact (blobSecure_upTo admits_prepared arguments).respects fun _ => prepared_registration
  | file => exact admits_registries_prepared.addFile
  | go => exact absurd rfl launch
  | help => exact prepared_print
  | kernel => exact absurd rfl load
  | kernelSecure => exact absurd rfl secureLoad
  | map => exact admits_registries_prepared.addMap
  | part => exact admits_registries_prepared.addPartition
  | aliases => exact admits_registries_prepared.addAlias
  | sched => exact admits_registries_prepared.addWindows
  | page => exact admits_registries_prepared.movePage

/-! ## Lines -/

omit [Hardware ω] [PhysicalMemory μ] in
/-- How a line ends whose command ends in a certain way. -/
def exitOf : Outcome BootError Unit → Outcome BootError Exit
  | .done () => .done .success
  | .failed _ => .done .failure
  | .crashed => .crashed
  | .stalled => .stalled

/-- A report of an error goes to the console, and changes nothing else. -/
theorem runReported_ends {name : String} {arguments : List String}
    {outcome : Outcome BootError Exit}
    (ends : (runReported name arguments : BootAct ω μ Exit).Ends before outcome after) :
    ∃ ending left console, (runNamed name arguments : BootAct ω μ Unit).Ends before ending left ∧
      outcome = exitOf ending ∧ after = { left with console } ∧
      (ending = .done () → after = left) := by
  obtain ⟨ending, left, inside, ends⟩ := ends_attempt_bind.mp ends
  cases ending with
  | done value =>
      exact ⟨_, left, left.console, inside, ends.1.symm, ends.2.symm, fun _ => ends.2.symm⟩
  | failed error => exact ⟨_, left, _, inside, ends.1.symm, ends.2.symm, nofun⟩
  | crashed => exact ⟨_, left, left.console, inside, ends.1.symm, ends.2.symm, nofun⟩
  | stalled => exact ⟨_, left, left.console, inside, ends.1.symm, ends.2.symm, nofun⟩

/-- A line without a command writes to the console at most. One that calls a command does
what the command does, and writes to the console if that did not end as it should. -/
theorem execute_ends {line : String} {outcome : Outcome BootError Exit}
    (ends : (execute line : BootAct ω μ Exit).Ends before outcome after) :
    (Command.ofLine? line = none ∧ ∃ console, after = { before with console }) ∨
    ∃ command arguments ending left console, Command.ofLine? line = some (command, arguments) ∧
      (runCommand command arguments : BootAct ω μ Unit).Ends before ending left ∧
      outcome = exitOf ending ∧ after = { left with console } ∧
      (ending = .done () → after = left) := by
  unfold execute at ends
  rw [Command.ofLine?]
  cases words : Text.words line.toList with
  | nil =>
      rw [words] at ends
      exact .inl ⟨rfl, before.console, ends.2.symm⟩
  | cons name arguments =>
      rw [words] at ends
      dsimp only at ends ⊢
      by_cases comment : name.head? = some '#'
      · rw [if_pos comment] at ends ⊢
        exact .inl ⟨rfl, before.console, ends.2.symm⟩
      · rw [if_neg comment] at ends ⊢
        obtain ⟨ending, left, console, inside, reported, same, silent⟩ := runReported_ends ends
        rcases ends_ofOption_bind.mp inside with ⟨command, named, inside⟩ | ⟨unknown, _, rfl⟩
        · rw [named]
          exact .inr ⟨command, _, ending, left, console, rfl, inside, reported, same, silent⟩
        · rw [unknown]
          exact .inl ⟨rfl, console, same⟩

/-- A line that succeeds does what its command does, if it has one. -/
theorem execute_succeeds {line : String}
    (ends : (execute line : BootAct ω μ Exit).Ends before (.done .success) after) :
    (Command.ofLine? line = none ∧ ∃ console, after = { before with console }) ∨
    ∃ command arguments, Command.ofLine? line = some (command, arguments) ∧
      (runCommand command arguments : BootAct ω μ Unit).Ends before (.done ()) after := by
  rcases execute_ends ends with idle | ⟨command, arguments, ending, left, console, called, inside,
    exits, _, silent⟩
  · exact .inl idle
  · have done : ending = .done () := by
      cases ending <;> cases exits
      rfl
    subst done
    exact .inr ⟨command, arguments, called, silent rfl ▸ inside⟩

end

end Loader

end Bootloader
