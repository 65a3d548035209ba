import Bootloader.Bench.World
import Bootloader.Boot.Command
import Bootloader.Memory.Identity
import Bootloader.Proofs.Boot.SecureImages

/-!
# Commands that register images

The four commands that load a program or an opaque file do the same two things: they prepare the
image, by reading files and copying to a map, and register it in their last step. So whatever
the preparation respects holds up to that step (`app_upTo` and the others). The step consists
of two requests to the page. If the first of them is refused nothing is registered; if the
second one is, which reserves the range of an image that is used in place, the program stays on
the page without a reservation (`Stranded`). Whether a command that fails left something behind
is a matter of that alone (`failed_images_register`).
-/

set_option autoImplicit false

namespace Bootloader.Loader

open Act
open Trust (Algorithm)

variable {ω μ : Type}

instance : IsPreorder (Loader ω μ) Untouched where
  refl _ := ⟨rfl, rfl, rfl⟩
  trans _ _ _ earlier later := ⟨later.programs.trans earlier.programs,
    later.arguments.trans earlier.arguments, later.reservations.trans earlier.reservations⟩

/-! ## The last step -/

/-- An image that is used in place ends where its size says. -/
def Settled.Measures (settled : Settled) (size : Nat) : Prop :=
  settled.inPlace = true → settled.start.advance? size = some settled.stop

/-- The step that registers an image which was prepared, under the name that one of some
arguments gives it. Some commands never use an image in place. -/
def RegistersImage (arguments : List String) (inPlace : Prop) (action : BootAct ω μ Unit) :
    Prop :=
  ∃ (settled : Settled) (size : Nat) (instructionMaps dataMaps : String) (flags : ProgramFlags)
    (image : ImageName), (∃ argument ∈ arguments, ImageName.parse argument = .ok image) ∧
    settled.Measures size ∧ (settled.inPlace = true → inPlace) ∧
    action = register settled size instructionMaps dataMaps image.commandLine flags

/-- A program that stayed on the page after its range could not be reserved: the range is empty,
or the list of reservations is full. -/
structure Stranded (program : Program) (error : BootError) (before after : Loader ω μ) :
    Prop where
  programs : after.page.programs = before.page.programs ++ [program]
  arguments : ∃ commandLine,
    program.commandLine = Text.toField Capacity.commandLine commandLine ∧
    SystemPage.appendArguments? before.page.arguments commandLine = some after.page.arguments
  reservations : after.page.reservations = before.page.reservations
  refused : error = .page .badRange ∧ program.start = program.stop ∨
    error = .page .full ∧ Capacity.reservations ≤ before.page.reservations.length

section

variable {before middle after : Loader ω μ}

theorem Stranded.not_untouched {program : Program} {error : BootError}
    (stranded : Stranded program error before after) : ¬ Untouched before after := by
  intro untouched
  have longer := congrArg List.length (stranded.programs.symm.trans untouched.programs)
  rw [List.length_append, List.length_singleton] at longer
  omega

/-- What is stranded later is stranded on the same lists, as long as they are untouched. -/
theorem Stranded.of_untouched {program : Program} {error : BootError}
    (stranded : Stranded program error middle after) (untouched : Untouched before middle) :
    Stranded program error before after := by
  obtain ⟨programs, arguments, reservations, refused⟩ := stranded
  rw [untouched.programs] at programs
  rw [untouched.arguments] at arguments
  rw [untouched.reservations] at reservations refused
  exact ⟨programs, arguments, reservations, refused⟩

/-- A registration that fails leaves everything as it was, or a program without a reservation
for its range. -/
theorem register_fails {settled : Settled} {size : Nat} (measures : settled.Measures size)
    {instructionMaps dataMaps commandLine : String} {flags : ProgramFlags} {error : BootError}
    (ends : (register settled size instructionMaps dataMaps commandLine flags :
      BootAct ω μ Unit).Ends before (.failed error) after) :
    Untouched before after ∨
      settled.inPlace = true ∧ ∃ program, Stranded program error before after := by
  rcases register_steps ends with ⟨rfl, _⟩ | ⟨_, _, _, pending, _, extended, ends⟩
  · exact .inl ⟨rfl, rfl, rfl⟩
  split at ends
  case isFalse => cases ends.1
  case isTrue inPlace =>
    obtain ⟨ending, left, inside, failed, rfl⟩ := ends_onPage.mp ends
    rcases SystemPage.reserve_ends inside with ⟨⟨reason, rfl⟩, rfl⟩ | ⟨rfl, _⟩
    · cases failed
      refine .inr ⟨inPlace, _, rfl, ⟨commandLine, rfl, extended⟩, rfl, ?_⟩
      rcases SystemPage.reserve_fails inside with ⟨_, sealed⟩ | ⟨rfl, _, unreached⟩ |
        ⟨rfl, _, full⟩
      · exact absurd (pending.symm.trans sealed) Bool.false_ne_true
      · refine .inl ⟨rfl, ?_⟩
        have reached := measures inPlace
        rcases unreached with rfl | none
        · rw [← Address.toNat_inj, Address.advance?_eq_some_iff.mp reached]
          rfl
        · cases none.symm.trans reached
      · exact .inr ⟨rfl, full⟩
    · cases failed

/-- An image that is used in place and has a size. -/
theorem settleInPlace_yields {address : Address} {size : Nat} :
    (do
      let settled ← settleInPlace address size
      return (settled, size) : BootAct ω μ (Settled × Nat)).Yields
        fun found => found.1.Measures found.2 := by
  intro before found after ends
  obtain ⟨settled, _, here, done, _⟩ := ends_bind_done.mp ends
  cases done
  rcases ends_orCrash_bind.mp here with ⟨stop, reached, done, _⟩ | ⟨_, crashed, _⟩
  · cases done
    exact fun _ => reached
  · cases crashed

end

/-! ## The preparation -/

section

variable [Hardware ω] [PhysicalMemory μ]

/-- Reading files, copying to maps and writing to the console respect a relation. -/
structure Admits (relation : Loader ω μ → Loader ω μ → Prop) : Prop where
  files : ∀ before after, OnlyFiles before after → relation before after
  copies : ∀ (handle : Handle) (map : String) (size : Nat) (algorithm : Option Algorithm),
    (copyToMap handle 0 size map algorithm : BootAct ω μ Placed).Respects relation
  console : ∀ (loader : Loader ω μ) (console : String), relation loader { loader with console }

theorem admits_untouched : Admits (ω := ω) (μ := μ) Untouched where
  files _ _ only := only.copies.untouched
  copies _ _ _ _ := respects_copyToMap.mono fun _ _ => Copies.untouched
  console _ _ := ⟨rfl, rfl, rfl⟩

variable {relation : Loader ω μ → Loader ω μ → Prop} [IsPreorder (Loader ω μ) relation]

omit [Hardware ω] [PhysicalMemory μ] in
/-- What leaves the loader as it is respects every relation of this kind. -/
theorem respects_same {α : Type} {action : BootAct ω μ α} (same : action.Respects (Same id)) :
    action.Respects relation := by
  refine same.mono fun before after unchanged => ?_
  obtain rfl : after = before := unchanged
  exact refl_of relation _

omit [Hardware ω] [PhysicalMemory μ] in
theorem respects_splitDevice {arguments : List String} :
    (splitDevice arguments : BootAct ω μ (String × List String)).Respects relation := by
  refine respects_read.bind fun loader => ?_
  dsimp only
  split
  · exact respects_pure
  · exact (respects_read.bind fun _ => respects_ofOption).bind fun _ => respects_pure

variable (admits : Admits relation)

include admits

omit [IsPreorder (Loader ω μ) relation] in
theorem Admits.print {text : String} : (print text : BootAct ω μ Unit).Respects relation :=
  respects_update fun loader => admits.console loader _

theorem Admits.showPrograms : (showPrograms : BootAct ω μ Unit).Respects relation :=
  respects_read.bind fun _ => admits.print

omit admits [IsPreorder (Loader ω μ) relation] [Hardware ω] [PhysicalMemory μ] in
/-- What is left of the arguments behind a device is some of them. -/
theorem yields_splitDevice {arguments : List String} :
    (splitDevice arguments : BootAct ω μ (String × List String)).Yields
      fun given => ∀ argument ∈ given.2, argument ∈ arguments := by
  intro before given after ends
  have ends := ends_read_bind.mp ends
  dsimp only at ends
  split at ends
  · cases ends.1
    exact fun argument => List.mem_of_mem_tail
  · obtain ⟨_, _, _, done, _⟩ := ends_bind_done.mp ends
    cases done
    exact fun argument => id

omit admits [IsPreorder (Loader ω μ) relation] [Hardware ω] [PhysicalMemory μ] in
/-- What is asked for about a program concerns an image that the arguments name. -/
theorem yields_secureProgram {arguments : List String} :
    (secureProgram arguments : BootAct ω μ SecureRequest).Yields fun request =>
      ∃ argument ∈ arguments, ImageName.parse argument = .ok request.image := by
  intro before request after ends
  cases arguments with
  | nil => cases ends.1
  | cons device rest =>
      have ends := ends_pure_bind.mp ends
      dsimp only at ends
      split at ends
      case h_1 name instructionMaps dataMaps algorithm digest given =>
        obtain ⟨_, _, _, ends⟩ := ends_bind_done.mp ends
        obtain ⟨image, _, parsing, ends⟩ := ends_bind_done.mp ends
        obtain ⟨_, _, _, ends⟩ := ends_bind_done.mp ends
        obtain ⟨_, _, _, done, _⟩ := ends_bind_done.mp ends
        cases done
        -- a flag in front of the name is the only argument that is passed over
        have among : ∀ argument ∈ [name, instructionMaps, dataMaps, algorithm, digest],
            argument ∈ rest := by
          rw [← given]
          split
          · exact fun argument => List.mem_cons_of_mem _
          · exact fun argument => List.mem_cons_of_mem _
          · exact fun argument => id
        exact ⟨name, List.mem_cons_of_mem _ (among name List.mem_cons_self),
          yields_ofExcept _ _ _ parsing⟩
      case h_2 => cases ends.1

omit admits [IsPreorder (Loader ω μ) relation] [Hardware ω] [PhysicalMemory μ] in
/-- What is asked for about an opaque file concerns an image that the arguments name. -/
theorem yields_secureBlob {arguments : List String} :
    (secureBlob arguments : BootAct ω μ SecureRequest).Yields fun request =>
      ∃ argument ∈ arguments, ImageName.parse argument = .ok request.image := by
  intro before request after ends
  unfold secureBlob at ends
  split at ends
  case h_1 device name map algorithm digest =>
    obtain ⟨_, _, _, ends⟩ := ends_bind_done.mp ends
    obtain ⟨image, _, parsing, ends⟩ := ends_bind_done.mp ends
    obtain ⟨_, _, _, done, _⟩ := ends_bind_done.mp ends
    cases done
    exact ⟨name, by simp, yields_ofExcept _ _ _ parsing⟩
  case h_2 => cases ends.1

/-- A program is copied, or used in place where the device shows it. -/
theorem app_upTo (arguments : List String) :
    (app arguments : BootAct ω μ Unit).RespectsUpTo relation (RegistersImage arguments True) := by
  unfold app
  split
  · exact admits.showPrograms.upTo
  · refine respects_splitDevice.bind_upTo _ yields_splitDevice fun given among => ?_
    dsimp only
    split
    case h_3 => exact Respects.upTo fun before => refl_of relation before
    -- with one list of maps or with two, the image is loaded in the same way
    all_goals
      rename_i parts
      refine Respects.bind_upTo (fun parts => parts.1 ∈ given.2) respects_pure (yields_pure ?_)
        fun parts named => ?_
      · split at parts
        case h_1 rest flagged =>
          obtain rfl : rest = _ := parts
          rw [flagged]
          exact List.mem_cons_of_mem _ List.mem_cons_self
        case h_2 =>
          rw [show given.2 = _ from parts]
          exact List.mem_cons_self
      refine Respects.bind_upTo _ respects_ofExcept yields_ofExcept fun image parsed =>
        respects_ofOption.then_upTo fun map =>
        (respects_same respects_checkLists).then_upTo fun _ => ?_
      refine Respects.bind_upTo (fun found => found.1.Measures found.2) ?_ ?_
        fun found measures => respects_note.then_upTo fun _ =>
          respectsUpTo_last ⟨found.1, found.2, _, _, _, image, ⟨_, among _ named, parsed⟩,
            measures, fun _ => trivial, rfl⟩
      · refine respects_withFile admits.files fun handle => ?_
        refine (respects_onFiles.mono admits.files).bind fun size =>
          (respects_mapInPlace.mono admits.files).bind fun shown => ?_
        cases shown with
        | some address =>
            exact (respects_orCrash.bind fun _ => respects_pure).bind fun _ => respects_pure
        | none => exact (admits.copies _ _ _ _).bind fun placed => respects_pure
      · refine yields_withFile fun handle => yields_bind fun size => yields_bind fun shown => ?_
        cases shown with
        | some address => exact settleInPlace_yields
        | none => exact yields_bind fun placed => yields_pure nofun

/-- An opaque file is copied. -/
theorem blob_upTo (arguments : List String) :
    (blob arguments : BootAct ω μ Unit).RespectsUpTo relation (RegistersImage arguments False) := by
  unfold blob
  split
  case h_1 device name map =>
    refine Respects.bind_upTo _ respects_ofExcept yields_ofExcept fun image parsed =>
      (respects_same respects_checkMap).then_upTo fun _ => ?_
    have named : ∃ argument ∈ [device, name, map], ImageName.parse argument = .ok image :=
      ⟨name, by simp, parsed⟩
    refine Respects.bind_upTo (fun found => found.1.inPlace = false) ?_ ?_
      fun found copied => respects_note.then_upTo fun _ => respectsUpTo_last
        ⟨found.1, found.2, _, _, _, image, named, fun inPlace => ?_, fun inPlace => ?_, rfl⟩
    · refine respects_withFile admits.files fun handle => ?_
      exact (respects_onFiles.mono admits.files).bind fun size =>
        (admits.copies _ _ _ _).bind fun placed => respects_pure
    · exact yields_withFile fun handle => yields_bind fun size => yields_bind fun placed =>
        yields_pure rfl
    all_goals exact absurd (copied.symm.trans inPlace) Bool.false_ne_true
  case h_2 => exact admits.showPrograms.upTo
  case h_3 => exact respects_fail.upTo

/-- An image whose digest has to be the expected one is measured before it is registered. -/
theorem placeVerified_upTo {arguments : List String} {request : SecureRequest}
    (named : ∃ argument ∈ arguments, ImageName.parse argument = .ok request.image) :
    (placeVerified request : BootAct ω μ Unit).RespectsUpTo relation
      (RegistersImage arguments True) := by
  refine Respects.bind_upTo (fun found => found.1.Measures found.2) ?_ ?_
    fun found measures => respects_note.then_upTo fun _ =>
      respectsUpTo_last ⟨found.1, found.2, _, _, _, _, named, measures, fun _ => trivial, rfl⟩
  · exact respects_withFile admits.files fun handle =>
      (peeks_of_onlyFiles admits.files).settleVerified fun map size algorithm =>
        admits.copies _ map size _
  · refine yields_withFile fun handle before found after ends _ => ?_
    obtain ⟨digest, measuring, _⟩ := settleVerified_ends ends
    obtain ⟨contents, measured⟩ := measureImage_ends measuring
    exact measured.stop.symm

theorem appSecure_upTo (arguments : List String) :
    (appSecure arguments : BootAct ω μ Unit).RespectsUpTo relation
      (RegistersImage arguments True) :=
  (respects_same respects_secureProgram).bind_upTo _ yields_secureProgram
    fun _ => placeVerified_upTo admits

theorem blobSecure_upTo (arguments : List String) :
    (blobSecure arguments : BootAct ω μ Unit).RespectsUpTo relation
      (RegistersImage arguments True) :=
  (respects_same respects_secureBlob).bind_upTo _ yields_secureBlob
    fun _ => placeVerified_upTo admits

end

/-! ## Commands that fail -/

section

variable [Hardware ω] [PhysicalMemory μ]

/-- What a command that registers an image leaves when it fails with an error: no reservation in
any case, and nothing else either, exactly if no program is stranded. Some commands never leave
a program stranded. -/
structure FailsClean (strands : Prop) (command : BootAct ω μ Unit) (loader : Loader ω μ) :
    Prop where
  reservations : ∀ error after, command.Ends loader (.failed error) after →
    after.page.reservations = loader.page.reservations
  registered : ∀ error after, command.Ends loader (.failed error) after →
    (Untouched loader after ↔ ¬ ∃ program, Stranded program error loader after)
  stranded : ∀ error after program, command.Ends loader (.failed error) after →
    Stranded program error loader after → strands

omit [Hardware ω] [PhysicalMemory μ] in
theorem failsClean_of_upTo {arguments : List String} {strands : Prop}
    {command : BootAct ω μ Unit}
    (upTo : command.RespectsUpTo Untouched (RegistersImage arguments strands))
    (loader : Loader ω μ) : FailsClean strands command loader := by
  have settles : ∀ error after, command.Ends loader (.failed error) after →
      Untouched loader after ∨ strands ∧ ∃ program, Stranded program error loader after := by
    intro error after ends
    rcases upTo _ _ _ ends with untouched | ⟨_, middle, ⟨settled, size, _, _, _, _, _,
      measures, shown, rfl⟩, prepared, ends⟩
    · exact .inl untouched
    · rcases register_fails measures ends with untouched | ⟨inPlace, program, stranded⟩
      · exact .inl (trans_of Untouched prepared untouched)
      · exact .inr ⟨shown inPlace, program, stranded.of_untouched prepared⟩
  refine ⟨?_, ?_, ?_⟩
  · intro error after ends
    rcases settles error after ends with untouched | ⟨_, program, stranded⟩
    · exact untouched.reservations
    · exact stranded.reservations
  · intro error after ends
    constructor
    · rintro untouched ⟨program, stranded⟩
      exact stranded.not_untouched untouched
    · intro none
      rcases settles error after ends with untouched | ⟨_, stranded⟩
      · exact untouched
      · exact absurd stranded none
  · intro error after program ends stranded
    rcases settles error after ends with untouched | ⟨may, _⟩
    · exact absurd untouched stranded.not_untouched
    · exact may

/-- **A command that loads an image and fails leaves no more behind than a stranded program.**
This holds of programs and of opaque files, with and without an expected digest, of every
argument line, and whatever the devices answer. An opaque file without an expected digest is
always copied, and leaves nothing at all. -/
theorem failed_images_register (arguments : List String) (loader : Loader ω μ) :
    FailsClean True (app arguments) loader ∧ FailsClean True (appSecure arguments) loader ∧
      FailsClean False (blob arguments) loader ∧
      FailsClean True (blobSecure arguments) loader :=
  ⟨failsClean_of_upTo (app_upTo admits_untouched arguments) loader,
    failsClean_of_upTo (appSecure_upTo admits_untouched arguments) loader,
    failsClean_of_upTo (blob_upTo admits_untouched arguments) loader,
    failsClean_of_upTo (blobSecure_upTo admits_untouched arguments) loader⟩

end

/-- A loader that was started on a device whose contents can be used in place, and that was told
of a map over them. -/
def shownInPlace : Loader Bench.World IdentityMemory :=
  let devices : Devices Bench.World :=
    ⟨[⟨.ram, [false]⟩], ⟨[(.ram, .ram ⟨[⟨⟨0x8000000⟩, .readExec, [1, 2, 3, 4]⟩], 0⟩)], []⟩⟩
  let commands : BootAct Bench.World IdentityMemory Exit := do
    start
    executeLines ["map rom 0x8000000 0x8001000 rx", "phfs disk 4.0"]
  (commands.run (ofParts Board.standard devices IdentityMemory.zeros 0)).state

/-- An empty window of the device is used in place. It is registered, and then its empty range
cannot be reserved: the command fails, and leaves the program and its command line behind. -/
theorem app_strands_empty :
    ∃ after, (app ["disk", "x(0:0)", "rom"]).Ends shownInPlace (.failed (.page .badRange)) after ∧
      shownInPlace.page.programs = [] ∧ after.page.programs.length = 1 ∧
      shownInPlace.page.arguments = [] ∧ after.page.arguments = [1, 0x78, 0x20] ∧
      ¬ Untouched shownInPlace after := by
  have before : shownInPlace.page.programs = [] := by decide +kernel
  have after : ((app ["disk", "x(0:0)", "rom"] : BootAct Bench.World IdentityMemory Unit).run
      shownInPlace).state.page.programs.length = 1 := by decide +kernel
  refine ⟨_, ⟨by decide +kernel, rfl⟩, before, after, by decide +kernel, by decide +kernel, ?_⟩
  intro untouched
  rw [untouched.programs, before] at after
  cases after

end Bootloader.Loader
