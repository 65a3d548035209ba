import Bootloader.Bench.World
import Bootloader.Image.Builder
import Bootloader.Proofs.Boot.Handover
import Bootloader.Proofs.Memory.Lawful

/-!
# Sessions

A session is a list of command lines that are executed one after the other, each whether or
not those before it succeeded. Whatever the lines are and whatever the devices answer, at most
one launch is made, by a line that asks for it, and only if the last load of a kernel ended as
it should; what is handed over then is the page as it stands, and no device is in use any more
(`session_launches`). A line that crashes ends a session in earnest. That changes nothing here,
since every beginning of a session is one.
-/

set_option autoImplicit false

namespace Bootloader.Loader

open Act

variable {ω μ : Type} [Hardware ω] [PhysicalMemory μ]

/-- A line, what it met, how it ended, and what it left. -/
structure Turn (ω μ : Type) where
  line : String
  before : Loader ω μ
  outcome : Outcome BootError Exit
  after : Loader ω μ

/-- Execute a line where the loader stands. -/
def turnOf (line : String) (loader : Loader ω μ) : Turn ω μ where
  line := line
  before := loader
  outcome := ((execute line).run loader).outcome
  after := ((execute line).run loader).state

/-- The turns of lines that are executed one after the other. -/
def session : List String → Loader ω μ → List (Turn ω μ)
  | [], _ => []
  | line :: rest, loader => turnOf line loader :: session rest (turnOf line loader).after

omit [Hardware ω] [PhysicalMemory μ] in
/-- The load of a kernel that was called in a turn, if there was one. -/
def Turn.load? (turn : Turn ω μ) : Option LoadCall :=
  loadCall? turn.line turn.before

omit [Hardware ω] [PhysicalMemory μ] in
/-- A turn after which no kernel was loaded any more. -/
def Latest (turns : List (Turn ω μ)) (turn : Turn ω μ) : Prop :=
  ∃ earlier later, turns = earlier ++ turn :: later ∧ ∀ other ∈ later, other.load? = none

/-- The most recent load in some turns ended as it should, and the image that it read has a
given entry. -/
def LatestLoad (turns : List (Turn ω μ)) (entry : Address) : Prop :=
  ∃ earlier turn later call header, turns = earlier ++ turn :: later ∧
    (∀ other ∈ later, other.load? = none) ∧ turn.load? = some call ∧
    (call.run : BootAct ω μ Unit).Ends turn.before (.done ()) turn.after ∧
    call.Reads turn.before header ∧ entry = Address.ofNat header.entry.toNat

/-- A turn makes the one launch of a session, after earlier turns. What is launched is the
kernel that was loaded last, and the page is sealed; its block, as it stands, is what memory
holds at the address that is handed over, and it is clear of all images. No instance of a
device is in use. -/
structure Launches (earlier : List (Turn ω μ)) (turn : Turn ω μ) (launch : Launch) : Prop where
  commanded : Command.ofLine? turn.line = some (.go, [])
  first : turn.before.launches = []
  made : turn.after.launches = [launch]
  loaded : LatestLoad earlier launch.entry
  sealed : turn.after.page.isSaved = true
  written : bytesAt? turn.after.memory launch.page.toNat turn.after.page.serialize.length =
    some turn.after.page.serialize
  clear : turn.after.page.ClearOf launch.page.toNat
    (launch.page.toNat + turn.after.page.serialize.length)
  released : ∀ backend ∈ turn.after.files.devices.backends, ∀ probed ∈ backend.probed,
    probed = false

/-! ## One turn -/

section

variable {turns : List (Turn ω μ)} {turn last : Turn ω μ} {entry : Address}

omit [Hardware ω] [PhysicalMemory μ] in
theorem Latest.append (latest : Latest turns turn) (unasked : last.load? = none) :
    Latest (turns ++ [last]) turn := by
  obtain ⟨earlier, later, rfl, others⟩ := latest
  refine ⟨earlier, later ++ [last], ?_, ?_⟩
  · rw [List.append_assoc, List.cons_append]
  · intro other member
    rcases List.mem_append.mp member with member | member
    · exact others other member
    · rw [List.mem_singleton.mp member]
      exact unasked

theorem LatestLoad.append (latest : LatestLoad turns entry) (unasked : last.load? = none) :
    LatestLoad (turns ++ [last]) entry := by
  obtain ⟨earlier, turn, later, call, header, split, others, rest⟩ := latest
  obtain ⟨front, back, joined, none⟩ := Latest.append ⟨earlier, later, split, others⟩ unasked
  exact ⟨front, turn, back, call, header, joined, none, rest⟩

end

variable [LawfulMemory μ]

/-- How a loader stands after some turns. A launch was made only with the page sealed, and only
one; and a kernel that is loaded is the one of the most recent load. -/
structure Stands (turns : List (Turn ω μ)) (loader : Loader ω μ) : Prop where
  once : loader.launches = [] ∨ loader.page.isSaved = true ∧ loader.launches.length = 1
  sound : LawfulMemory.Sound loader.memory
  loaded : loader.kernelLoaded = true → LatestLoad turns loader.page.kernel.entry

variable {turns : List (Turn ω μ)} {loader left : Loader ω μ}

/-- A turn without a launch, which opens no sealed page. -/
theorem Stands.next {turn : Turn ω μ} (stands : Stands turns turn.before)
    (launches : turn.after.launches = turn.before.launches)
    (saved : turn.before.page.isSaved = true → turn.after.page.isSaved = true)
    (written : ∃ chunks, writeChunks turn.before.memory chunks = .ok turn.after.memory)
    (loaded : turn.after.kernelLoaded = true →
      LatestLoad (turns ++ [turn]) turn.after.page.kernel.entry) :
    Stands (turns ++ [turn]) turn.after := by
  obtain ⟨chunks, wrote⟩ := written
  refine ⟨?_, LawfulMemory.sound_writeChunks stands.sound wrote, loaded⟩
  rw [launches]
  exact stands.once.imp_right fun once => ⟨saved once.1, once.2⟩

/-- A handover where a loader stands is the one launch, of the kernel that was loaded last. -/
theorem Handover.launches_of {turn : Turn ω μ} {launch : Launch}
    (handover : Handover turn.before turn.after launch) (stands : Stands turns turn.before)
    (commanded : Command.ofLine? turn.line = some (.go, [])) : Launches turns turn launch := by
  have saved := handover.saved
  have first : turn.before.launches = [] := by
    rcases stands.once with none | ⟨sealed, _⟩
    · exact none
    · exact absurd (saved.pending.symm.trans sealed) Bool.false_ne_true
  have deposited : Deposited turn.before.memory turn.after.memory launch.page.toNat
      turn.after.page.serialize :=
    ⟨[], [⟨launch.page, turn.after.page.serialize⟩], ⟨rfl, trivial⟩, List.append_nil _,
      writeChunks_cons.mpr ⟨_, saved.written, rfl⟩⟩
  refine ⟨commanded, first, ?_, ?_, saved.sealed, ?_, saved.clear, handover.released⟩
  · rw [handover.launches, first]
    rfl
  · rw [handover.entry, saved.kernel]
    exact stands.loaded handover.loaded
  · exact LawfulMemory.bytesAt?_of_deposited stands.sound deposited (Nat.le_of_lt saved.inside)

/-- **One turn keeps how the loader stands**, and makes a launch only as it should. -/
theorem turn_stands (turn : Turn ω μ) (does : Does turn.line turn.before turn.after)
    (stands : Stands turns turn.before) :
    Stands (turns ++ [turn]) turn.after ∧
      (turn.after.launches = turn.before.launches ∨ ∃ launch, Launches turns turn launch) := by
  cases does with
  | prepares unasked prepared =>
      have keeps := prepared.keeps
      refine ⟨stands.next keeps.launches ?_ keeps.written ?_, .inl keeps.launches⟩
      · exact fun sealed => keeps.isSaved.trans sealed
      · intro loaded
        rw [keeps.kernelLoaded] at loaded
        rw [keeps.kernel]
        exact (stands.loaded loaded).append unasked
  | loads call outcome left console asked ends same silent =>
      obtain ⟨keeps, settled⟩ := LoadCall.run_settles ends
      have launches : turn.after.launches = turn.before.launches := by
        rw [same]
        exact congrArg Prod.fst keeps.same
      refine ⟨stands.next launches ?_ ?_ ?_, .inl launches⟩
      · rw [same]
        exact fun sealed => (congrArg Prod.snd keeps.same).trans sealed
      · rw [same]
        exact keeps.written
      · intro loaded
        rcases settled with ⟨done, _, header, reads, entry⟩ | ⟨_, unloaded⟩
        · have whole := silent done
          subst done
          rw [← whole] at ends entry
          exact ⟨turns, turn, [], call, header, rfl,
            fun _ member => absurd member List.not_mem_nil, asked, ends, reads, entry⟩
        · rw [same] at loaded
          exact absurd (unloaded.symm.trans loaded) Bool.false_ne_true
  | launches arguments outcome left console called ends same silent =>
      have unasked : turn.load? = none := by
        rw [Turn.load?, loadCall?, called]
      rcases go_ends ends with ⟨_, keeps, stays⟩ | ⟨rfl, rfl, launch, handover⟩
      · have launches : turn.after.launches = turn.before.launches := by
          rw [same]
          exact congrArg Prod.fst keeps.same
        refine ⟨stands.next launches ?_ ?_ ?_, .inl launches⟩
        · rw [same]
          exact stays
        · rw [same]
          exact keeps.written
        · have kernelLoaded := congrArg (fun parts => parts.2.1) keeps.same
          have kernel := congrArg (fun parts => parts.2.2.entry) keeps.same
          rw [same]
          intro loaded
          have latest := stands.loaded (kernelLoaded.symm.trans loaded)
          exact kernel ▸ latest.append unasked
      · rw [← silent rfl] at handover
        have made := handover.launches_of stands called
        refine ⟨⟨.inr ⟨made.sealed, congrArg List.length made.made⟩, ?_, ?_⟩, .inr ⟨launch, made⟩⟩
        · exact LawfulMemory.sound_write stands.sound handover.saved.written
        · intro _
          rw [← handover.entry]
          exact made.loaded.append unasked

omit [PhysicalMemory μ] [LawfulMemory μ] in
/-- A start turns to the files, and asks the page for room and for its address. -/
theorem respects_start_of {relation : Loader ω μ → Loader ω μ → Prop}
    [IsPreorder (Loader ω μ) relation]
    (files : ∀ before after, OnlyFiles before after → relation before after)
    (reserves : ∀ address size,
      (onPage (SystemPage.reserve address size) : BootAct ω μ Unit).Respects relation)
    (places : ∀ address,
      (onPage (SystemPage.setAddress address) : BootAct ω μ Unit).Respects relation) :
    (start : BootAct ω μ Unit).Respects relation := by
  refine (respects_onFiles.mono files).bind fun up => respects_note.bind fun _ => ?_
  refine respects_read.bind fun loader => ?_
  dsimp only
  split
  · refine (reserves _ _).bind fun _ => ?_
    split
    · exact places _
    · exact respects_pure
  · split
    · exact places _
    · exact respects_pure

omit [LawfulMemory μ] in
theorem prepared_start : (start : BootAct ω μ Unit).Respects Prepared :=
  respects_start_of (fun _ _ => OnlyFiles.prepared)
    (fun _ _ => prepared_onPage SystemPage.reserve_registers)
    fun _ => prepared_onPage SystemPage.setAddress_registers

/-- A loader that was just started has nothing to launch. -/
theorem start_stands {board : Board} {devices : Devices ω} {memory : μ} {patience : Nat}
    (sound : LawfulMemory.Sound memory) {outcome : Outcome BootError Unit}
    (started : (start : BootAct ω μ Unit).Ends (ofParts board devices memory patience) outcome
      loader) : Stands [] loader := by
  have kept := (prepared_start.ends started).keeps
  obtain ⟨chunks, wrote⟩ := kept.written
  refine ⟨.inl kept.launches, LawfulMemory.sound_writeChunks sound wrote, ?_⟩
  intro loaded
  rw [kept.kernelLoaded] at loaded
  cases loaded

/-! ## All turns -/

omit [LawfulMemory μ] in
/-- Each turn of a session is that of its line, and what every turn keeps, about the loader and
the turns before it, holds when it begins if it holds at the start. -/
theorem session_turns (holds : List (Turn ω μ) → Loader ω μ → Prop)
    (keeps : ∀ turns line loader, holds turns loader →
      holds (turns ++ [turnOf line loader]) (turnOf line loader).after)
    (start : holds turns loader) {lines : List String} {earlier later : List (Turn ω μ)}
    {turn : Turn ω μ} (taken : session lines loader = earlier ++ turn :: later) :
    turn = turnOf turn.line turn.before ∧ holds (turns ++ earlier) turn.before := by
  induction lines generalizing turns loader earlier with
  | nil => cases earlier <;> cases taken
  | cons line rest ih =>
      cases earlier with
      | nil =>
          obtain ⟨rfl, _⟩ := List.cons.inj taken
          rw [List.append_nil]
          exact ⟨rfl, start⟩
      | cons head others =>
          obtain ⟨rfl, others⟩ := List.cons.inj taken
          rw [← List.singleton_append, ← List.append_assoc]
          exact ih (keeps _ line loader start) others

omit [LawfulMemory μ] in
/-- What every turn keeps by what its line does holds in every turn of a session if it holds at
the start. -/
theorem session_keeps (holds : List (Turn ω μ) → Loader ω μ → Prop)
    (keeps : ∀ turns (turn : Turn ω μ), Does turn.line turn.before turn.after →
      holds turns turn.before → holds (turns ++ [turn]) turn.after)
    (start : holds turns loader) {lines : List String} {earlier later : List (Turn ω μ)}
    {turn : Turn ω μ} (taken : session lines loader = earlier ++ turn :: later) :
    Does turn.line turn.before turn.after ∧ holds (turns ++ earlier) turn.before := by
  have does : ∀ line (loader : Loader ω μ), Does line loader (turnOf line loader).after :=
    fun line loader => execute_does (ends_run (execute line : BootAct ω μ Exit) loader)
  obtain ⟨same, here⟩ := session_turns holds
    (fun turns line loader => keeps turns (turnOf line loader) (does line loader)) start taken
  refine ⟨?_, here⟩
  rw [same]
  exact does turn.line turn.before

theorem session_stands (stands : Stands turns loader) {lines : List String}
    {earlier later : List (Turn ω μ)} {turn : Turn ω μ}
    (taken : session lines loader = earlier ++ turn :: later) :
    Stands (turns ++ earlier ++ [turn]) turn.after ∧
      (turn.after.launches = turn.before.launches ∨
        ∃ launch, Launches (turns ++ earlier) turn launch) := by
  obtain ⟨does, here⟩ := session_keeps Stands
    (fun _ turn does stands => (turn_stands turn does stands).1) stands taken
  exact turn_stands turn does here

/-- **A session makes at most one launch, and only a safe one.** -/
theorem session_launches (board : Board) (devices : Devices ω) (memory : μ) (patience : Nat)
    (sound : LawfulMemory.Sound memory)
    (started : (start : BootAct ω μ Unit).Ends (ofParts board devices memory patience) (.done ())
      loader) (lines : List String) {earlier later : List (Turn ω μ)} {turn : Turn ω μ}
    (taken : session lines loader = earlier ++ turn :: later) :
    turn.after.launches.length ≤ 1 ∧
      (turn.after.launches = turn.before.launches ∨ ∃ launch, Launches earlier turn launch) := by
  obtain ⟨stands, made⟩ := session_stands (start_stands sound started) taken
  refine ⟨?_, made⟩
  rcases stands.once with none | ⟨_, one⟩
  · rw [none]
    exact Nat.zero_le _
  · exact Nat.le_of_eq one

/-- A bench with one device in memory, which holds an image of one segment. -/
def imageBench : Devices Bench.World :=
  let image := Image.Blueprint.build
    { entry := 0x10000, segments := [.readExecute 0x10000 [1, 2, 3, 4]] }
  ⟨[⟨.ram, [false]⟩], ⟨[(.ram, .ram ⟨[⟨⟨0x8000000⟩, .readExec, image⟩], 0⟩)], []⟩⟩

/-- The first attempt to launch is refused for want of an address, and the second one is the
launch; the kernel is that of the load before both. -/
theorem session_launches_second :
    ∃ (loader : Loader Bench.World IdentityMemory) (earlier later : List (Turn _ _))
      (turn : Turn Bench.World IdentityMemory),
      (start : BootAct Bench.World IdentityMemory Unit).Ends
        (ofParts Board.standard imageBench IdentityMemory.zeros 0) (.done ()) loader ∧
      session ["phfs disk 4.0", "kernel disk", "go!", "syspage 0x20000", "go!", "go!"] loader =
        earlier ++ turn :: later ∧
      Launches earlier turn ⟨⟨0x10000⟩, ⟨0x20000⟩⟩ := by
  let loader := ((start : BootAct Bench.World IdentityMemory Unit).run
    (ofParts Board.standard imageBench IdentityMemory.zeros 0)).state
  let named := turnOf "phfs disk 4.0" loader
  let load := turnOf "kernel disk" named.after
  let refused := turnOf "go!" load.after
  let place := turnOf "syspage 0x20000" refused.after
  let launching := turnOf "go!" place.after
  have started : (start : BootAct Bench.World IdentityMemory Unit).Ends
      (ofParts Board.standard imageBench IdentityMemory.zeros 0) (.done ()) loader :=
    ⟨by decide +kernel, rfl⟩
  have taken : session ["phfs disk 4.0", "kernel disk", "go!", "syspage 0x20000", "go!", "go!"]
      loader = [named, load, refused, place] ++ launching :: [turnOf "go!" launching.after] := rfl
  have before : launching.before.launches = [] := by decide +kernel
  have after : launching.after.launches = [⟨⟨0x10000⟩, ⟨0x20000⟩⟩] := by decide +kernel
  obtain ⟨_, made⟩ := session_launches Board.standard imageBench IdentityMemory.zeros 0 trivial
    started _ taken
  rcases made with none | ⟨launch, launches⟩
  · rw [before, after] at none
    cases none
  · obtain rfl : launch = ⟨⟨0x10000⟩, ⟨0x20000⟩⟩ := by
      have same := launches.made.symm.trans after
      exact (List.cons.inj same).1
    exact ⟨loader, _, _, launching, started, taken, launches⟩

end Bootloader.Loader
