import Bootloader.Proofs.Boot.Lodging

/-!
# Whether images begin with a page

A copy rounds the top of its map up to a page before it begins, and then leaves the reservation
that covers the start of this page, if there is one. So a copy begins with a page, or right behind
such a reservation, which may end anywhere (`copies_begin`): then the image is not aligned
(`program_off_page`). Where all reservations of a map end with a page, all its images begin with
one.
-/

set_option autoImplicit false

namespace Bootloader.Loader

open LawfulMemory (Sound)
open SystemPage (MemoryMap)
open Trust (Algorithm)

variable {ω μ : Type} [Hardware ω] [PhysicalMemory μ] [LawfulMemory μ]

/-- **A copy begins with a page, or behind a reservation that covers the start of a page.** On a
page that is built by requests, this is said of a copy to a map, whatever the devices answer. In a
session, it is said of the programs that a line adds which succeeds and reserves nothing, so that
the image was copied. -/
theorem copies_begin :
    (∀ (requests : List SystemPage.Request) (fresh : μ) (before after : Loader ω μ)
      (handle : Handle) (offset size : Nat) (name : String) (algorithm : Option Algorithm)
      (placed : Placed) (map : MemoryMap),
      before.page = (SystemPage.afterAll requests (SystemPage.empty, fresh)).1 →
      before.page.map? name = some map →
      (copyToMap handle offset size name algorithm : BootAct ω μ Placed).Ends before (.done placed)
        after →
      map.top ≤ placed.start ∧ map.ImageStart placed.start ∧
        ((∀ entry ∈ map.reserved, entry.stop.StartsPage) → placed.start.StartsPage)) ∧
    ∀ (board : Board) (devices : Devices ω) (memory : μ) (patience : Nat) (loader : Loader ω μ)
      (lines : List String), Sound memory →
      (start : BootAct ω μ Unit).Ends (ofParts board devices memory patience) (.done ()) loader →
      ∀ turn ∈ session lines loader, turn.outcome = .done .success →
      turn.after.page.reservations = turn.before.page.reservations →
      ∀ added, turn.after.page.programs = turn.before.page.programs ++ added →
      ∀ program ∈ added, ∃ map ∈ turn.after.page.maps, map.ImageStart program.start ∧
        ((∀ entry ∈ map.reserved, entry.stop.StartsPage) → program.start.StartsPage) := by
  refine ⟨?copies, ?programs⟩
  case copies =>
    intro requests fresh before after handle offset size name algorithm placed map reached found
      ends
    have consistent : before.page.Consistent := by
      rw [reached]
      exact SystemPage.consistent_afterAll fresh requests
    obtain ⟨raised, begins⟩ := copyToMap_imageStart consistent found ends
    exact ⟨raised, begins, begins.startsPage⟩
  case programs =>
    intro board devices memory patience loader lines sound started turn member succeeded unreserved
      added registered program among
    obtain ⟨earlier, later, taken⟩ := List.append_of_mem member
    obtain ⟨ends, _, _⟩ := session_split taken
    obtain ⟨_, steady⟩ := session_invariant Steady (fun _ does => does.steady)
      (start_carries sound started).steady taken
    rw [succeeded] at ends
    cases execute_adds steady ends with
    | nothing programs =>
        rw [registered, List.append_right_eq_self] at programs
        subst programs
        cases among
    | inPlace other programs reservations =>
        rw [unreserved, List.self_eq_append_right] at reservations
        cases reservations
    | copied other programs _ rests =>
        obtain rfl : added = [other] := List.append_cancel_left (registered.symm.trans programs)
        obtain rfl := List.mem_singleton.mp among
        obtain ⟨map, there, _, _, begins⟩ := rests
        exact ⟨map, there, begins, begins.startsPage⟩

/-- A board on which the loader occupies the start of a page and a part of the page. -/
def spreadBoard : Board :=
  { Board.standard with footprint := some (⟨0x11000⟩, 0x1345) }

/-- A bench with a region of memory that holds an image. -/
def spreadBench : Devices Bench.World :=
  ⟨[⟨.ram, [false]⟩], ⟨[(.ram, .ram ⟨[⟨⟨0x9000000⟩, .readExec, List.replicate 0x10 9⟩], 0⟩)], []⟩⟩

/-- The loader that was started on it. -/
def spreadLoader : Loader Bench.World IdentityMemory :=
  ((start : BootAct Bench.World IdentityMemory Unit).run
    (ofParts spreadBoard spreadBench IdentityMemory.zeros 0)).state

/-- The lines that load the image twice. -/
def spreadLines : List String :=
  ["map ram 0x10000 0x20000 rwx", "phfs disk 4.0", "app disk x(0x0:0x10) ram ram",
    "app disk y(0x0:0x10) ram ram"]

/-- The second image is copied right behind the loader, in the middle of a page. -/
theorem program_off_page :
    ∃ turn ∈ session spreadLines spreadLoader, turn.outcome = .done .success ∧
      turn.after.page.reservations = turn.before.page.reservations ∧
      turn.before.page.programs.map Program.start = [⟨0x10000⟩] ∧
      turn.after.page.programs.map Program.start = [⟨0x10000⟩, ⟨0x12345⟩] ∧
      ¬ (⟨0x12345⟩ : Address).StartsPage := by
  refine ⟨(session spreadLines spreadLoader)[3], List.getElem_mem _, ?_⟩
  decide +kernel

/-- A copy that collides and begins with the next page, and the program that lies behind the
loader. -/
theorem copies_begin_spread :
    (start : BootAct Bench.World IdentityMemory Unit).Ends
        (ofParts spreadBoard spreadBench IdentityMemory.zeros 0) (.done ()) spreadLoader ∧
      (∃ after placed, ∃ map : MemoryMap, interrupted.page.map? "ram" = some map ∧
        (copyToMap ⟨0, 0⟩ 0 0x402 "ram" none).Ends interrupted (.done placed) after ∧
        placed.start = ⟨0x2000⟩ ∧ map.ImageStart ⟨0x2000⟩) ∧
      ∃ turn ∈ session spreadLines spreadLoader, ∃ map ∈ turn.after.page.maps,
        map.reserved = [⟨⟨0x11000⟩, ⟨0x12345⟩⟩] ∧ map.ImageStart ⟨0x12345⟩ := by
  have started : (start : BootAct Bench.World IdentityMemory Unit).Ends
      (ofParts spreadBoard spreadBench IdentityMemory.zeros 0) (.done ()) spreadLoader :=
    ⟨by decide +kernel, rfl⟩
  obtain ⟨copies, programs⟩ := @copies_begin Bench.World IdentityMemory _ _ _
  refine ⟨started, ?copied, ?registered⟩
  case copied =>
    have ends : (copyToMap ⟨0, 0⟩ 0 0x402 "ram" none).Ends interrupted
        (.done ⟨⟨0x2000⟩, ⟨0x2402⟩, none⟩) _ :=
      ⟨by decide +kernel, rfl⟩
    have found : interrupted.page.map? "ram" = some ⟨"ram", 0, ⟨0x1000⟩, ⟨0x5000⟩, default,
        ⟨0x1000⟩, [⟨⟨0x1401⟩, ⟨0x1411⟩⟩]⟩ := by
      decide +kernel
    obtain ⟨_, begins, _⟩ := copies _ IdentityMemory.zeros _ _ _ _ _ _ _ _ _ rfl found ends
    exact ⟨_, _, _, found, ends, rfl, begins⟩
  case registered =>
    let turn := (session spreadLines spreadLoader)[3]
    have member : turn ∈ session spreadLines spreadLoader := List.getElem_mem _
    have registered : turn.after.page.programs = turn.before.page.programs ++
        [⟨⟨0x12345⟩, ⟨0x12355⟩, [0], [0], Text.toField Capacity.commandLine "y",
          ProgramFlags.of false false⟩] := by
      decide +kernel
    have maps : ∀ map ∈ turn.after.page.maps, map.reserved = [⟨⟨0x11000⟩, ⟨0x12345⟩⟩] := by
      decide +kernel
    obtain ⟨map, there, begins, _⟩ := programs spreadBoard spreadBench IdentityMemory.zeros 0
      spreadLoader spreadLines trivial started turn member (by decide +kernel) (by decide +kernel) _
      registered _ (List.mem_singleton_self _)
    exact ⟨turn, member, map, there, maps map there, begins⟩

end Bootloader.Loader
