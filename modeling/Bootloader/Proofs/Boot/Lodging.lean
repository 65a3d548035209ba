import Bootloader.Proofs.Act.Triples
import Bootloader.Proofs.Boot.Guarding
import Bootloader.Proofs.Boot.Placing
import Bootloader.Proofs.Boot.ProgramList

/-!
# Where programs lie

A command that registers an image and succeeds adds one program to the list. If the image is used
in place, its range was reserved; if it was copied, it rests in a map below the top, from a place
on where an image may begin, and nothing was reserved (`register_adds`). All other commands leave
the list of programs alone. So of each line it is known what it adds, if it succeeds
(`execute_adds`), and the places of what it adds are guarded: nothing is copied there any more
(`execute_lodges`). A line that fails may add a program whose range could not be reserved.
-/

set_option autoImplicit false

namespace Bootloader.Loader

open Act
open Trust (Algorithm)

variable {ω μ : Type} {base before after : Loader ω μ}

/-! ## Images on their way -/

/-- The places from a start to a stop are guarded. -/
def GuardsRange (start stop : Address) (loader : Loader ω μ) : Prop :=
  ∀ place, start ≤ place → place < stop → loader.Guarded place

/-- A loader adds programs to the list of another one, all of them where they are guarded. -/
def Lodges (base loader : Loader ω μ) : Prop :=
  ∃ added, loader.page.programs = base.page.programs ++ added ∧
    ∀ program ∈ added, GuardsRange program.start program.stop loader

/-- A range lies in a map below the top, and begins where an image may begin. -/
def RestsIn (page : SystemPage) (start stop : Address) : Prop :=
  ∃ map ∈ page.maps, map.start ≤ start ∧ stop ≤ map.top ∧ map.ImageStart start

/-- An image that is to be registered rests in a map, or is used in place. -/
structure Settled.Lies (settled : Settled) (size : Nat) (loader : Loader ω μ) : Prop where
  measures : settled.Measures size
  copied : settled.inPlace = false → RestsIn loader.page settled.start settled.stop

/-- What a loader adds to the programs of another one: none; or one that is used in place, and a
reservation of its range; or one that rests in a map, and no reservation. -/
inductive Adds (base loader : Loader ω μ) : Prop where
  | nothing (programs : loader.page.programs = base.page.programs)
  | inPlace (program : Program) (programs : loader.page.programs = base.page.programs ++ [program])
      (reservations : loader.page.reservations =
        base.page.reservations ++ [⟨program.start, program.stop⟩])
  | copied (program : Program) (programs : loader.page.programs = base.page.programs ++ [program])
      (reservations : loader.page.reservations = base.page.reservations)
      (rests : RestsIn loader.page program.start program.stop)

/-- What is reserved, or rests in a map, is guarded. -/
theorem Adds.lodges (adds : Adds before after) : Lodges before after := by
  cases adds with
  | nothing programs => exact ⟨[], by rw [programs, List.append_nil], nofun⟩
  | inPlace program programs reservations =>
      refine ⟨[program], programs, List.forall_mem_singleton.mpr fun place low high => .inl ?_⟩
      rw [reservations]
      exact ⟨_, List.mem_append_right _ List.mem_cons_self,
        SystemPage.Reservation.contains_iff.mpr ⟨low, high⟩⟩
  | copied program programs _ rests =>
      obtain ⟨map, member, bottom, top, _⟩ := rests
      refine ⟨[program], programs, List.forall_mem_singleton.mpr fun place low high => .inr ?_⟩
      exact ⟨map, member, Nat.le_trans bottom low, Nat.lt_of_lt_of_le high top⟩

section

variable [PhysicalMemory μ] [LawfulMemory μ]

/-- A loader on which a command prepares what it is going to register. -/
structure Preparing (base loader : Loader ω μ) : Prop where
  steady : Steady loader
  programs : loader.page.programs = base.page.programs
  reservations : loader.page.reservations = base.page.reservations

theorem Preparing.of_onlyFiles (preparing : Preparing base before) (only : OnlyFiles before after) :
    Preparing base after where
  steady := (preparing.steady.prepared only.prepared).1
  programs := by rw [only.page, preparing.programs]
  reservations := by rw [only.page, preparing.reservations]

/-- **A program that is registered is used in place and reserved, or rests in a map.** -/
theorem register_adds {settled : Settled} {size : Nat}
    {instructionMaps dataMaps commandLine : String} {flags : ProgramFlags} :
    Triple (fun loader => Preparing base loader ∧ settled.Lies size loader)
      (register settled size instructionMaps dataMaps commandLine flags : BootAct ω μ Unit)
      fun _ => Adds base := by
  rintro before ⟨⟩ after ⟨⟨_, programs, reservations⟩, lies⟩ ends
  rcases register_steps ends with ⟨_, refused⟩ |
    ⟨instructionIds, dataIds, arguments, _, _, _, ends⟩
  · exact absurd rfl refused
  split at ends
  case isTrue inPlace =>
    obtain ⟨_, _, inside, done, rfl⟩ := ends_onPage.mp ends
    rw [mapError_eq_done.mp done] at inside
    rcases SystemPage.reserve_ends inside with ⟨⟨_, failed⟩, _⟩ | ⟨_, stop, _, _, reached, _, rfl⟩
    · cases failed
    · obtain rfl := Option.some.inj ((lies.measures inPlace).symm.trans reached)
      exact .inPlace _ (congrArg (· ++ [_]) programs) (congrArg (· ++ [_]) reservations)
  case isFalse copied =>
    obtain ⟨_, rfl⟩ := ends
    exact .copied _ (congrArg (· ++ [_]) programs) reservations
      (lies.copied (Bool.eq_false_iff.mpr copied))

variable [Hardware ω] {handle : Handle} {size : Nat} {map : String} {algorithm : Option Algorithm}

omit [LawfulMemory μ] in
theorem GivenUp.prepared {count : Nat}
    (attempts : GivenUp handle 0 size map algorithm count before after) :
    Prepared before after := by
  induction attempts with
  | none loader => exact refl_of Prepared loader
  | attempt tried others ih =>
      have prepared : (copyOnce handle 0 size map algorithm : BootAct ω μ Placed).Respects
          Prepared :=
        respects_copyOnce_of (fun _ _ => prepared_onFiles) (fun _ => prepared_writeToMap)
          (prepared_onPage SystemPage.alignMapTop_registers)
      exact trans_of Prepared (prepared.ends tried) ih

/-- A copy rests in its map. -/
theorem copyToMap_rests :
    Triple (Preparing base) (copyToMap handle 0 size map algorithm : BootAct ω μ Placed)
      fun placed loader =>
        Preparing base loader ∧ RestsIn loader.page placed.start placed.stop := by
  intro before placed after preparing ends
  obtain ⟨count, last, earlier, final⟩ := copyToMap_attempts ends
  obtain ⟨steady, _⟩ := preparing.steady.prepared earlier.prepared
  obtain ⟨target, later, found, there, raised, begins, rfl⟩ :=
    copyOnce_imageStart steady.consistent (copyToMap_nonempty ends) final
  have prepared := (admits_prepared.copies handle map size algorithm).ends ends
  have untouched := (respects_copyToMap.ends ends).untouched
  refine ⟨⟨(preparing.steady.prepared prepared).1, untouched.programs.trans preparing.programs,
    untouched.reservations.trans preparing.reservations⟩, _, (SystemPage.map?_mem there).1, ?_,
    Nat.le_refl _, begins.congr rfl⟩
  exact Nat.le_trans (steady.consistent.bounded target (SystemPage.map?_mem found).1).1 raised

/-- An image that was copied is to be registered where it lies. -/
theorem copied_lies :
    Triple (Preparing base)
      (copyToMap handle 0 size map algorithm >>= fun placed =>
        pure ((⟨placed.start, placed.stop, false⟩ : Settled), size) : BootAct ω μ (Settled × Nat))
      fun found loader => Preparing base loader ∧ found.1.Lies found.2 loader :=
  copyToMap_rests.bind fun _ => triple_pure fun _ ⟨preparing, rests⟩ =>
    ⟨preparing, nofun, fun _ => rests⟩

omit [Hardware ω] in
/-- An image that the device shows is to be registered in place. -/
theorem shown_lies {address : Address} :
    Triple (Preparing base)
      (settleInPlace address size >>= fun settled => pure (settled, size) :
        BootAct ω μ (Settled × Nat))
      fun found loader => Preparing base loader ∧ found.1.Lies found.2 loader := by
  have reaches : Triple (Preparing base) (orCrash (address.advance? size) : BootAct ω μ Address)
      fun stop loader => address.advance? size = some stop ∧ Preparing base loader :=
    triple_orCrash fun stop loader reached preparing => ⟨reached, preparing⟩
  have settles : Triple (Preparing base) (settleInPlace address size : BootAct ω μ Settled)
      fun settled loader => Preparing base loader ∧ settled.Lies size loader :=
    reaches.bind fun stop => triple_pure fun loader ⟨reached, preparing⟩ =>
      ⟨preparing, fun _ => reached, nofun⟩
  exact settles.bind fun settled => triple_pure fun _ lies => lies

/-- What is established in the use of a file, and is a matter of the page, outlasts the closing. -/
theorem withFile_lies {opening : FileAct ω Handle} {body : Handle → BootAct ω μ (Settled × Nat)}
    (inside : ∀ handle, Triple (Preparing base) (body handle)
      fun found loader => Preparing base loader ∧ found.1.Lies found.2 loader) :
    Triple (Preparing base) (withFile opening body)
      fun found loader => Preparing base loader ∧ found.1.Lies found.2 loader := by
  intro before found after preparing ends
  rcases withFile_ends ends with ⟨handle, opened, _, middle, here, used, only, yields⟩ |
    ⟨_, refused⟩
  · rw [yields found rfl] at used
    have reached := preparing.of_onlyFiles (respects_onFiles.ends here)
    obtain ⟨preparing, measures, copied⟩ := inside handle opened found middle reached used
    exact ⟨preparing.of_onlyFiles only, measures, fun moved => only.page ▸ copied moved⟩
  · exact absurd rfl (refused found)

/-! ## The commands -/

omit [Hardware ω] in
/-- What turns to the files only keeps the preparation. -/
theorem prepares_of_onlyFiles {α : Type} {action : BootAct ω μ α}
    (only : action.Respects OnlyFiles) :
    Triple (Preparing base) action fun _ => Preparing base :=
  only.triple fun _ _ only preparing => preparing.of_onlyFiles only

omit [Hardware ω] in
/-- What leaves programs as they are adds none. -/
theorem adds_of_untouched {action : BootAct ω μ Unit} (untouched : action.Respects Untouched) :
    Triple (Preparing base) action fun _ => Adds base :=
  fun _ _ _ preparing ends =>
    .nothing ((untouched.ends ends).programs.trans preparing.programs)

theorem app_adds (arguments : List String) :
    Triple (Preparing base) (app arguments : BootAct ω μ Unit) fun _ => Adds base := by
  unfold app
  split
  · exact adds_of_untouched admits_untouched.showPrograms
  · refine Respects.then_triple respects_splitDevice fun given => ?_
    dsimp only
    split
    case h_3 => rintro _ _ _ _ ⟨⟨⟩, _⟩
    -- with one list of maps or with two, the image is loaded in the same way
    all_goals
      refine Respects.then_triple respects_pure fun parts => ?_
      refine Respects.then_triple respects_ofExcept fun image => ?_
      refine Respects.then_triple respects_ofOption fun map => ?_
      refine Respects.then_triple respects_checkLists fun _ => ?_
      refine Triple.bind (withFile_lies fun handle => ?_) fun found =>
        Respects.then_triple respects_note fun _ => register_adds
      refine (prepares_of_onlyFiles respects_onFiles).bind fun size => ?_
      refine (prepares_of_onlyFiles respects_mapInPlace).bind fun shown => ?_
      cases shown with
      | some address => exact shown_lies
      | none => exact copied_lies

theorem blob_adds (arguments : List String) :
    Triple (Preparing base) (blob arguments : BootAct ω μ Unit) fun _ => Adds base := by
  unfold blob
  split
  case h_1 device name map =>
    refine Respects.then_triple respects_ofExcept fun image => ?_
    refine Respects.then_triple respects_checkMap fun _ => ?_
    refine Triple.bind (withFile_lies fun handle => ?_) fun found =>
      Respects.then_triple respects_note fun _ => register_adds
    exact (prepares_of_onlyFiles respects_onFiles).bind fun size => copied_lies
  case h_2 => exact adds_of_untouched admits_untouched.showPrograms
  case h_3 => exact triple_fail

/-- What is measured is copied, or shown by the device. -/
theorem measureAt_lies {algorithm : Algorithm} (shown : Option Address) :
    Triple (Preparing base) (measureAt handle size map algorithm shown : BootAct ω μ Measured)
      fun measured loader => Preparing base loader ∧ ∀ stop, measured.stop = some stop →
        (⟨measured.start, stop, measured.inPlace⟩ : Settled).Lies measured.size loader := by
  cases shown with
  | some address =>
      exact (prepares_of_onlyFiles respects_hashOnly).bind fun digest =>
        triple_pure fun loader preparing =>
          ⟨preparing, fun stop reached => ⟨fun _ => reached, nofun⟩⟩
  | none =>
      refine copyToMap_rests.bind fun placed => ?_
      rintro before measured after ⟨preparing, rests⟩ ends
      rcases ends_ofOption_bind.mp ends with ⟨digest, _, done, rfl⟩ | ⟨_, failed, _⟩
      · cases done
        refine ⟨preparing, ?_⟩
        rintro stop ⟨⟩
        exact ⟨nofun, fun _ => rests⟩
      · cases failed

theorem settleVerified_lies {request : SecureRequest} :
    Triple (Preparing base) (settleVerified request handle : BootAct ω μ (Settled × Nat))
      fun found loader => Preparing base loader ∧ found.1.Lies found.2 loader := by
  rintro before ⟨settled, size⟩ after preparing ends
  obtain ⟨digest, measuring, _⟩ := settleVerified_ends ends
  have measures : Triple (Preparing base) (measureImage handle request.map request.mode
      request.algorithm : BootAct ω μ Measured) fun measured loader => Preparing base loader ∧
        ∀ stop, measured.stop = some stop →
          (⟨measured.start, stop, measured.inPlace⟩ : Settled).Lies measured.size loader := by
    refine (prepares_of_onlyFiles respects_onFiles).bind fun size => ?_
    cases request.mode with
    | some mode => exact (prepares_of_onlyFiles respects_mapInPlace).bind measureAt_lies
    | none => exact Respects.then_triple respects_pure measureAt_lies
  obtain ⟨reached, lies⟩ := measures _ _ _ preparing measuring
  exact ⟨reached, lies settled.stop rfl⟩

theorem placeVerified_adds {request : SecureRequest} :
    Triple (Preparing base) (placeVerified request : BootAct ω μ Unit) fun _ => Adds base :=
  Triple.bind (withFile_lies fun _ => settleVerified_lies) fun _ =>
    Respects.then_triple respects_note fun _ => register_adds

/-- **What a command adds to the programs, if it succeeds.** -/
theorem command_adds (command : Command) (arguments : List String) :
    Triple (Preparing base) (runCommand command arguments : BootAct ω μ Unit)
      fun _ => Adds base := by
  cases command with
  | app => exact app_adds arguments
  | appSecure => exact Respects.then_triple respects_secureProgram fun _ => placeVerified_adds
  | blob => exact blob_adds arguments
  | blobSecure => exact Respects.then_triple respects_secureBlob fun _ => placeVerified_adds
  | _ =>
      intro before _ after preparing ends
      have same := (listed_command arguments (by decide)).ends ends
      exact .nothing ((SystemPage.same_listed_iff.mp same).2.trans preparing.programs)

/-- **What a line adds to the programs, if it succeeds.** -/
theorem execute_adds {line : String} (steady : Steady before)
    (ends : (execute line : BootAct ω μ Exit).Ends before (.done .success) after) :
    Adds before after := by
  rcases execute_succeeds ends with ⟨_, console, rfl⟩ | ⟨command, arguments, _, inside⟩
  · exact .nothing rfl
  · exact command_adds command arguments before () after ⟨steady, rfl, rfl⟩ inside

/-- **A line that succeeds leaves its programs where they are guarded.** -/
theorem execute_lodges {line : String} (steady : Steady before)
    (ends : (execute line : BootAct ω μ Exit).Ends before (.done .success) after) :
    Lodges before after :=
  (execute_adds steady ends).lodges

end

end Bootloader.Loader
