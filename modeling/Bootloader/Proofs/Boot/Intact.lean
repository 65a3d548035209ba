import Bootloader.Bench.World
import Bootloader.Image.Builder
import Bootloader.Proofs.Boot.Lodging
import Bootloader.Proofs.Memory.Lawful

/-!
# Programs that stay intact

A program that was registered lies where nothing is copied any more, and the block of the page is
never saved over it. What may still write there is a load of a kernel: a segment is copied to the
place that its image asks for, whatever lies there. So a program is intact when it is launched, up
to the places that a segment of a kernel was loaded to (`session_spares_programs`); and the same is
true of what the loader itself occupies, which the block may cover too. No load is refused for
this (`load_destroys_program`).
-/

set_option autoImplicit false

namespace Bootloader.Loader

open Act
open LawfulMemory (Sound)
open SystemPage.Reservation (Covers)

variable {ω μ : Type} [Hardware ω] [PhysicalMemory μ] {before after : Loader ω μ}
  {place : Address} {line : String}

/-! ## What is written where a program lies -/

/-- In a turn a kernel is loaded of which a segment belongs at an address. -/
def Turn.LoadsOver (turn : Turn ω μ) (place : Address) : Prop :=
  ∃ call, turn.load? = some call ∧ call.Copies turn.before place

/-- The block of the page is not saved over a program. -/
theorem Overwrites.loads_over {turn : Turn ω μ} {program : Program}
    (overwrites : Overwrites turn.line turn.before turn.after place)
    (listed : program ∈ turn.after.page.programs)
    (inside : program.start ≤ place ∧ place < program.stop) : turn.LoadsOver place := by
  cases overwrites with
  | segment call asked copies => exact ⟨call, asked, copies⟩
  | block arguments address called saved covers =>
      exact absurd inside ((saved.clear place.toNat covers.1 covers.2).1 program listed)

/-- A line that loads a kernel writes where segments of its image are loaded. -/
theorem Does.writes (does : Does line before after) {call : LoadCall}
    (asked : loadCall? line before = some call) :
    WritesWithin (call.Copies before) before.memory after.memory := by
  cases does with
  | prepares unasked => cases unasked.symm.trans asked
  | loads other outcome left console asked' ends same =>
      obtain rfl := Option.some.inj (asked'.symm.trans asked)
      have writes := LoadCall.run_writes ends
      rw [same]
      exact writes
  | launches arguments outcome left console called =>
      rw [loadCall?, called] at asked
      cases asked

/-! ## What the loader occupies -/

omit [PhysicalMemory μ] in
/-- What a loader occupies is reserved when it is started. -/
theorem start_covers {board : Board} {devices : Devices ω} {memory : μ} {patience : Nat}
    {loader : Loader ω μ} {address : Address} {size : Nat}
    (started : (start : BootAct ω μ Unit).Ends (ofParts board devices memory patience) (.done ())
      loader) (footprint : board.footprint = some (address, size))
    (inside : address.toNat ≤ place.toNat ∧ place.toNat < address.toNat + size) :
    Covers loader.page.reservations place := by
  obtain ⟨up, probed, probing, ends⟩ := ends_bind_done.mp started
  have ends := ends_note_bind.mp ends
  have ends := ends_read_bind.mp ends
  have board : probed.board = board := (respects_onFiles.ends probing).board
  dsimp only at ends
  rw [board, footprint] at ends
  obtain ⟨_, reserved, reserving, ends⟩ := ends_bind_done.mp ends
  obtain ⟨_, page, granted, done, rfl⟩ := ends_onPage.mp reserving
  rw [mapError_eq_done.mp done] at granted
  rcases SystemPage.reserve_ends granted with ⟨⟨_, failed⟩, _⟩ | ⟨_, stop, _, _, reached, _, rfl⟩
  · cases failed
  have here : (⟨address, stop⟩ : SystemPage.Reservation).contains place := by
    refine SystemPage.Reservation.contains_iff.mpr ⟨inside.1, ?_⟩
    rw [Address.lt_def, Address.advance?_eq_some_iff.mp reached]
    exact inside.2
  have covers : Covers (probed.page.reservations ++ [⟨address, stop⟩]) place :=
    ⟨_, List.mem_append_right _ List.mem_cons_self, here⟩
  split at ends
  · obtain ⟨_, last, placing, _, rfl⟩ := ends_onPage.mp ends
    rcases SystemPage.setAddress_ends placing with ⟨_, rfl⟩ | ⟨_, _, rfl⟩
    · exact covers
    · exact covers
  · obtain ⟨_, rfl⟩ := ends
    exact covers

/-! ## Sessions -/

variable [LawfulMemory μ]

/-- What becomes of the byte of a program in turns of which one is the last: it is what it was,
unless a kernel was loaded over it. -/
def LastsUnlessLoaded (place : Address) (byte : Option UInt8) (turns : List (Turn ω μ))
    (last : Turn ω μ) : Prop :=
  byteAt? last.after.memory place = byte ∨ ∃ turn ∈ turns ++ [last], turn.LoadsOver place

/-- A program that is on the page where it is guarded lasts unless a kernel is loaded over it. -/
theorem session_spares {loader : Loader ω μ} {program : Program} (steady : Steady loader)
    (listed : program ∈ loader.page.programs)
    (inside : program.start ≤ place ∧ place < program.stop) (guarded : loader.Guarded place)
    {lines : List String} {earlier later : List (Turn ω μ)} {turn : Turn ω μ}
    (taken : session lines loader = earlier ++ turn :: later) :
    LastsUnlessLoaded place (byteAt? loader.memory place) earlier turn := by
  refine (session_guards steady guarded taken).kept.imp_right ?_
  rintro ⟨other, member, overwrites⟩
  refine ⟨other, member, overwrites.loads_over ?_ inside⟩
  -- programs stay on the page, so this one is there when the other turn ends
  have among : other ∈ session lines loader := by
    rw [taken, List.append_cons]
    exact List.mem_append_left _ member
  obtain ⟨front, back, split⟩ := List.append_of_mem among
  obtain ⟨does, there⟩ := session_invariant (fun loader => program ∈ loader.page.programs)
    (fun _ does there => does.changes.programs_prefix.subset there) listed split
  exact does.changes.programs_prefix.subset there

/-- **A program is intact at any later time, up to what a kernel was loaded over.** In a session
every load of a kernel, however it ends, writes only where segments of its image are loaded. What
the loader occupies is as it was at the start, unless a kernel was loaded there or the page was
saved there. What a line registered that succeeded is as it was registered, at the launch too,
unless a kernel was loaded there. -/
theorem session_spares_programs (board : Board) (devices : Devices ω) (memory : μ)
    (patience : Nat) (sound : Sound memory) {loader : Loader ω μ}
    (started : (start : BootAct ω μ Unit).Ends (ofParts board devices memory patience) (.done ())
      loader) (lines : List String) {earlier later : List (Turn ω μ)} {turn : Turn ω μ}
    (taken : session lines loader = earlier ++ turn :: later) :
    (∀ call, turn.load? = some call →
      WritesWithin (call.Copies turn.before) turn.before.memory turn.after.memory) ∧
    (∀ address size place, board.footprint = some (address, size) →
      address.toNat ≤ place.toNat ∧ place.toNat < address.toNat + size →
      Outlasts place (byteAt? loader.memory place) earlier turn) ∧
    (turn.outcome = .done .success → ∀ added,
      turn.after.page.programs = turn.before.page.programs ++ added →
      ∀ program ∈ added, ∀ place, program.start ≤ place ∧ place < program.stop →
      ∀ between next rest, later = between ++ next :: rest →
        LastsUnlessLoaded place (byteAt? turn.after.memory place) between next) := by
  have first : Steady loader := (start_carries sound started).steady
  obtain ⟨ends, others, followed⟩ := session_split taken
  obtain ⟨does, steady⟩ := session_invariant Steady (fun _ does => does.steady) first taken
  refine ⟨fun call asked => does.writes asked, ?_, ?_⟩
  · intro address size place footprint inside
    exact session_guards first (.inl (start_covers started footprint inside)) taken
  · intro succeeded added registered program member place inside between next rest split
    rw [succeeded] at ends
    obtain ⟨more, recorded, guards⟩ := execute_lodges steady ends
    obtain rfl : added = more := List.append_cancel_left (registered.symm.trans recorded)
    have listed : program ∈ turn.after.page.programs :=
      registered ▸ List.mem_append_right _ member
    exact session_spares (does.steady steady) listed inside
      (guards program member place inside.1 inside.2) (followed.symm.trans split)

/-- A board on which the loader occupies memory. -/
def sharedBoard : Board :=
  { Board.standard with footprint := some (⟨0x20000⟩, 0x100) }

/-- A bench with two regions of memory. One holds a program, and the other one an image with two
segments: one goes where the program will lie, and the other one where the loader is. -/
def sharedBench : Devices Bench.World :=
  let image := Image.Blueprint.build
    { entry := 0x11008
      segments := [.readExecute 0x11008 [1, 2, 3, 4], .readWrite 0x20000 [5, 6] 2] }
  ⟨[⟨.ram, [false, false]⟩], ⟨[(.ram, .ram ⟨[⟨⟨0x8000000⟩, .readExec, image⟩,
    ⟨⟨0x9000000⟩, .readExec, List.replicate 0x10 9⟩], 0⟩)], []⟩⟩

/-- The loader that was started on it. -/
def sharedLoader : Loader Bench.World IdentityMemory :=
  ((start : BootAct Bench.World IdentityMemory Unit).run
    (ofParts sharedBoard sharedBench IdentityMemory.zeros 0)).state

/-- The loader that was given a map, and names for both. -/
def sharedNamed : Loader Bench.World IdentityMemory :=
  (turnOf "phfs disk 4.1" (turnOf "phfs kern 4.0"
    (turnOf "map ram 0x11000 0x12000 rwx" sharedLoader).after).after).after

/-- With the program registered first, the load succeeds all the same. It writes over the program
and over the loader. -/
theorem load_destroys_program :
    let register := turnOf "app disk x(0x0:0x10) ram ram" sharedNamed
    let load := turnOf "kernel kern" register.after
    register.outcome = .done .success ∧ load.outcome = .done .success ∧
      (load.before.page.programs.map fun program => (program.start, program.stop)) =
        [(⟨0x11000⟩, ⟨0x11010⟩)] ∧
      byteAt? load.before.memory ⟨0x11008⟩ = some 9 ∧
      byteAt? load.after.memory ⟨0x11008⟩ = some 1 ∧
      byteAt? load.before.memory ⟨0x20000⟩ = some 0 ∧
      byteAt? load.after.memory ⟨0x20000⟩ = some 5 := by
  decide +kernel

/-- The rest of the program is intact at the launch. -/
theorem session_spares_programs_shared :
    let register := turnOf "app disk x(0x0:0x10) ram ram" sharedNamed
    let load := turnOf "kernel kern" register.after
    let placing := turnOf "syspage 0x30000" load.after
    let launching := turnOf "go!" placing.after
    (start : BootAct Bench.World IdentityMemory Unit).Ends
        (ofParts sharedBoard sharedBench IdentityMemory.zeros 0) (.done ()) sharedLoader ∧
      launching.after.launches = [⟨⟨0x11008⟩, ⟨0x30000⟩⟩] ∧
      LastsUnlessLoaded ⟨0x11000⟩ (some 9) [load, placing] launching := by
  intro register load placing launching
  have started : (start : BootAct Bench.World IdentityMemory Unit).Ends
      (ofParts sharedBoard sharedBench IdentityMemory.zeros 0) (.done ()) sharedLoader :=
    ⟨by decide +kernel, rfl⟩
  have taken : session ["map ram 0x11000 0x12000 rwx", "phfs kern 4.0", "phfs disk 4.1",
      "app disk x(0x0:0x10) ram ram", "kernel kern", "syspage 0x30000", "go!"] sharedLoader =
      [_, _, _] ++ register :: [load, placing, launching] := rfl
  obtain ⟨_, _, spares⟩ := session_spares_programs sharedBoard sharedBench IdentityMemory.zeros 0
    trivial started _ taken
  have byte : byteAt? register.after.memory ⟨0x11000⟩ = some 9 := by decide +kernel
  have registered : register.after.page.programs = register.before.page.programs ++
      [⟨⟨0x11000⟩, ⟨0x11010⟩, [0], [0], Text.toField Capacity.commandLine "x",
        ProgramFlags.of false false⟩] := by
    decide +kernel
  refine ⟨started, by decide +kernel, ?_⟩
  rw [← byte]
  exact spares (by decide +kernel) _ registered _ List.mem_cons_self ⟨0x11000⟩ (by decide)
    [load, placing] launching [] rfl

end Bootloader.Loader
