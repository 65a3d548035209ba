import Bootloader.Bench.World
import Bootloader.Image.Builder
import Bootloader.Proofs.Boot.Guarding
import Bootloader.Proofs.Memory.Lawful

/-!
# What of a kernel is protected

A load copies as many bytes of a segment as it has in the file, and reserves as many as it is to
have in memory. Whatever is reserved stays as it was loaded until another kernel is loaded or the
page is saved over it; no program is ever copied there. So a kernel is protected as far as its
segments have room in memory for what is copied (`session_protects_kernel`). The contents of a
segment that has less room spill over, and a program may be copied over them
(`spilled_contents_lost`).
-/

set_option autoImplicit false

namespace Bootloader

/-- An address lies in the memory that a segment asks for. -/
def Board.Occupies (board : Board) (segment : Image.ProgramHeader) (place : Address) : Prop :=
  (board.kernelAddress segment).toNat ≤ place.toNat ∧
    place.toNat < (board.kernelAddress segment).toNat + segment.memorySize.toNat

namespace Loader

open Act
open LawfulMemory (Sound)
open SystemPage.Reservation (Covers)

variable {ω μ : Type} [Hardware ω] [PhysicalMemory μ] {before after : Loader ω μ}

/-- The memory that a segment asks for is in the range that is reserved for it. -/
theorem contains_of_occupies {board : Board} {segment : Image.ProgramHeader} {place : Address}
    {range : SystemPage.Reservation} (occupies : board.Occupies segment place)
    (ranged : board.rangeOf? segment = some range) : range.contains place := by
  obtain ⟨last, reached, rfl⟩ := Option.map_eq_some_iff.mp ranged
  have stop := Address.advance?_eq_some_iff.mp reached
  refine SystemPage.Reservation.contains_iff.mpr ⟨occupies.1, ?_⟩
  show place.toNat < last.toNat
  rw [stop]
  exact occupies.2

/-- A call reads an image of which a segment is copied to an address beyond the memory that it
asks for. -/
def LoadCall.Spills (call : LoadCall) (before : Loader ω μ) (place : Address) : Prop :=
  ∃ header all segment, call.Lists before header all ∧ segment ∈ all ∧ segment.isLoad = true ∧
    before.board.Fills segment place ∧ ¬ before.board.Occupies segment place

/-- What a load wrote and what it reserved: it wrote where segments of its image are loaded, and
reserved the memory that they ask for. So what it wrote is reserved, unless it was spilled. -/
structure LoadCall.Protects (call : LoadCall) (before after : Loader ω μ) : Prop where
  writes : WritesWithin (call.Copies before) before.memory after.memory
  reserves : ∃ header all, call.Lists before header all ∧ ∀ segment ∈ all,
    segment.isLoad = true → ∀ place, before.board.Occupies segment place →
      Covers after.page.reservations place
  covers : ∀ place, call.Copies before place →
    Covers after.page.reservations place ∨ call.Spills before place

theorem LoadCall.run_protects {call : LoadCall}
    (ends : (call.run : BootAct ω μ Unit).Ends before (.done ()) after) :
    call.Protects before after := by
  obtain ⟨handle, opened, copied, loaded⟩ := LoadCall.run_loads ends
  obtain ⟨all, lists, taken⟩ := loaded.lists
  obtain ⟨reserved, recorded, ranges⟩ := loaded.reservations
  have reserves : ∀ segment ∈ all, segment.isLoad = true → ∀ place,
      before.board.Occupies segment place → Covers after.page.reservations place := by
    intro segment member load place occupies
    have filled : segment.memorySize ≠ 0 := by
      intro none
      obtain ⟨low, high⟩ := occupies
      rw [none] at high
      exact absurd high (Nat.not_lt.mpr low)
    have occupied : segment ∈ Image.occupied copied.segments :=
      Image.mem_occupied.mpr ⟨taken ▸ List.mem_filter.mpr ⟨member, load⟩, filled⟩
    have listed : before.board.rangeOf? segment ∈ reserved.map some :=
      ranges ▸ List.mem_map_of_mem occupied
    obtain ⟨range, there, ranged⟩ := List.mem_map.mp listed
    exact ⟨range, recorded ▸ List.mem_append_right _ there,
      contains_of_occupies occupies ranged.symm⟩
  refine ⟨LoadCall.run_writes ends, ⟨copied.header, all, lists, reserves⟩, ?_⟩
  rintro place ⟨header, others, segment, lists', member, load, fills⟩
  obtain ⟨_, rfl⟩ := lists.unique lists'
  by_cases occupies : before.board.Occupies segment place
  · exact .inl (reserves segment member load place occupies)
  · exact .inr ⟨header, all, segment, lists', member, load, fills, occupies⟩

/-- A line that calls a load and succeeds has made the load. -/
theorem LoadCall.run_of_success {call : LoadCall} {line : String}
    (asked : loadCall? line before = some call)
    (ends : (execute line : BootAct ω μ Exit).Ends before (.done .success) after) :
    (call.run : BootAct ω μ Unit).Ends before (.done ()) after := by
  have made : ∀ {calls : Except BootError LoadCall}, calls.toOption = some call →
      (ofExcept calls >>= LoadCall.run : BootAct ω μ Unit).Ends before (.done ()) after →
      (call.run : BootAct ω μ Unit).Ends before (.done ()) after := by
    intro calls found ends
    cases calls with
    | error => cases found
    | ok other =>
        cases found
        exact ends
  rcases execute_succeeds ends with ⟨idle, _⟩ | ⟨command, arguments, called, inside⟩
  · rw [loadCall?, idle] at asked
    cases asked
  · rw [loadCall?, called] at asked
    cases command
    case kernel => exact made asked (kernel_ends.mp inside)
    case kernelSecure =>
      refine made asked ?_
      rw [← kernelSecure_eq]
      exact inside
    all_goals cases asked

variable [LawfulMemory μ]

/-- **A kernel is protected as far as its segments have room in memory.** In a session, a load that
succeeds wrote to places that it reserved, or that a segment was spilled to. What it reserved is as
it was loaded after any later line, unless a kernel was loaded there or the page was saved there in
the meantime; all other lines leave it alone. -/
theorem session_protects_kernel (board : Board) (devices : Devices ω) (memory : μ)
    (patience : Nat) (sound : Sound memory) {loader : Loader ω μ}
    (started : (start : BootAct ω μ Unit).Ends (ofParts board devices memory patience) (.done ())
      loader) (lines : List String) {earlier later : List (Turn ω μ)} {turn : Turn ω μ}
    (taken : session lines loader = earlier ++ turn :: later) {call : LoadCall}
    (asked : turn.load? = some call) (succeeded : turn.outcome = .done .success) :
    call.Protects turn.before turn.after ∧
      ∀ place, Covers turn.after.page.reservations place →
        ∀ between next rest, later = between ++ next :: rest →
          Outlasts place (byteAt? turn.after.memory place) between next := by
  obtain ⟨ends, lines, followed⟩ := session_split taken
  rw [succeeded] at ends
  refine ⟨LoadCall.run_protects (LoadCall.run_of_success asked ends), ?_⟩
  intro place covers between next rest split
  obtain ⟨does, steady⟩ := session_invariant Steady (fun _ does => does.steady)
    (start_carries sound started).steady taken
  exact session_guards (does.steady steady) (.inl covers) (followed.symm.trans split)

/-- A bench with two regions of memory. One holds an image of a segment that has more contents
than memory, and the other one a program. -/
def spillBench : Devices Bench.World :=
  let image := Image.Blueprint.build
    { entry := 0x10ff0, segments := [.readWrite 0x10ff0 (List.replicate 0x20 7) 8] }
  ⟨[⟨.ram, [false, false]⟩], ⟨[(.ram, .ram ⟨[⟨⟨0x8000000⟩, .readExec, image⟩,
    ⟨⟨0x9000000⟩, .readExec, List.replicate 0x10 9⟩], 0⟩)], []⟩⟩

/-- The loader that was started on it. -/
def spillLoader : Loader Bench.World IdentityMemory :=
  ((start : BootAct Bench.World IdentityMemory Unit).run
    (ofParts Board.standard spillBench IdentityMemory.zeros 0)).state

/-- The loader that was given a map, and names for both. -/
def spillNamed : Loader Bench.World IdentityMemory :=
  (turnOf "phfs disk 4.1" (turnOf "phfs kern 4.0"
    (turnOf "map ram 0x11000 0x12000 rwx" spillLoader).after).after).after

/-- With the image loaded and then the program, both succeed; but what the load wrote beyond the
memory of the segment is not reserved, and the program lies there. -/
theorem spilled_contents_lost :
    let load := turnOf "kernel kern" spillNamed
    let copy := turnOf "app disk x(0x0:0x10) ram ram" load.after
    load.outcome = .done .success ∧ copy.outcome = .done .success ∧
      byteAt? load.before.memory ⟨0x11000⟩ = some 0 ∧
      byteAt? load.after.memory ⟨0x11000⟩ = some 7 ∧
      (∀ entry ∈ load.after.page.reservations, ¬ entry.contains ⟨0x11000⟩) ∧
      byteAt? copy.after.memory ⟨0x11000⟩ = some 9 := by
  decide +kernel

/-- What has room in memory outlasts the program. -/
theorem session_protects_kernel_spilling :
    let load := turnOf "kernel kern" spillNamed
    let copy := turnOf "app disk x(0x0:0x10) ram ram" load.after
    (start : BootAct Bench.World IdentityMemory Unit).Ends
        (ofParts Board.standard spillBench IdentityMemory.zeros 0) (.done ()) spillLoader ∧
      (∃ call, load.load? = some call ∧ call.Protects load.before load.after) ∧
      Outlasts ⟨0x10ff0⟩ (some 7) [] copy := by
  intro load copy
  have started : (start : BootAct Bench.World IdentityMemory Unit).Ends
      (ofParts Board.standard spillBench IdentityMemory.zeros 0) (.done ()) spillLoader :=
    ⟨by decide +kernel, rfl⟩
  have taken : session ["map ram 0x11000 0x12000 rwx", "phfs kern 4.0", "phfs disk 4.1",
      "kernel kern", "app disk x(0x0:0x10) ram ram"] spillLoader =
      [_, _, _] ++ load :: [copy] := rfl
  obtain ⟨call, asked⟩ := Option.isSome_iff_exists.mp (by decide +kernel : load.load?.isSome = true)
  have covers : Covers load.after.page.reservations ⟨0x10ff0⟩ :=
    ⟨⟨⟨0x10ff0⟩, ⟨0x10ff8⟩⟩, by decide +kernel, by decide⟩
  have loaded : byteAt? load.after.memory ⟨0x10ff0⟩ = some 7 := by decide +kernel
  obtain ⟨protects, outlasts⟩ := session_protects_kernel Board.standard spillBench
    IdentityMemory.zeros 0 trivial started _ taken asked (by decide +kernel)
  exact ⟨started, ⟨call, asked, protects⟩, loaded ▸ outlasts _ covers [] copy [] rfl⟩

end Loader

end Bootloader
