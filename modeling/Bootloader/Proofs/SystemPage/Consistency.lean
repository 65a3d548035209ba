import Bootloader.Memory.Identity
import Bootloader.Proofs.Address
import Bootloader.Proofs.SystemPage.History
import Bootloader.Proofs.SystemPage.Reflection

/-!
# The maps of a page that is built by requests

Four things hold of the maps of the empty page and are kept by every change: each map keeps
the canonical form of the reservations, its top lies in its range, no two maps share an
address, and no two have the same name (`Consistent`). From a consistent page on, maps only
join, tops only rise, and reservations are only added (`Grows`).
-/

set_option autoImplicit false

namespace Bootloader.SystemPage

open Reservation

/-- What holds of the maps of a page at all times. -/
structure Consistent (page : SystemPage) : Prop where
  reflected : ∀ map ∈ page.maps, map.Reflects page.reservations
  bounded : ∀ map ∈ page.maps, map.start ≤ map.top ∧ map.top ≤ map.stop
  disjoint : page.maps.Pairwise fun first second =>
    first.stop ≤ second.start ∨ second.stop ≤ first.start
  named : page.maps.Pairwise fun first second => first.name ≠ second.name

/-- A map at a later time: the same range under the same name, with a top that is no lower. -/
structure Continues (map later : MemoryMap) : Prop where
  name : later.name = map.name
  start : later.start = map.start
  stop : later.stop = map.stop
  top : map.top ≤ later.top

/-- A page at a later time. -/
structure Grows (page later : SystemPage) : Prop where
  maps : ∀ map ∈ page.maps, ∃ other ∈ later.maps, Continues map other
  reservations : page.reservations <+: later.reservations

theorem Continues.refl (map : MemoryMap) : Continues map map :=
  ⟨rfl, rfl, rfl, Nat.le_refl _⟩

theorem Continues.trans {first second third : MemoryMap} (earlier : Continues first second)
    (later : Continues second third) : Continues first third :=
  ⟨later.name.trans earlier.name, later.start.trans earlier.start, later.stop.trans earlier.stop,
    Nat.le_trans earlier.top later.top⟩

theorem Grows.refl (page : SystemPage) : Grows page page :=
  ⟨fun map member => ⟨map, member, .refl map⟩, List.prefix_refl _⟩

theorem Grows.trans {first second third : SystemPage} (earlier : Grows first second)
    (later : Grows second third) : Grows first third where
  maps map member := by
    obtain ⟨other, there, continues⟩ := earlier.maps map member
    obtain ⟨last, here, further⟩ := later.maps other there
    exact ⟨last, here, continues.trans further⟩
  reservations := earlier.reservations.trans later.reservations

theorem consistent_empty : Consistent empty where
  reflected _ member := by cases member
  bounded _ member := by cases member
  disjoint := List.Pairwise.nil
  named := List.Pairwise.nil

variable {page after : SystemPage}

/-- Changes of other registries concern neither maps nor reservations. -/
theorem Consistent.congr (consistent : page.Consistent) (maps : after.maps = page.maps)
    (reservations : after.reservations = page.reservations) : after.Consistent where
  reflected := by rw [maps, reservations]; exact consistent.reflected
  bounded := by rw [maps]; exact consistent.bounded
  disjoint := by rw [maps]; exact consistent.disjoint
  named := by rw [maps]; exact consistent.named

theorem grows_of_eq (maps : after.maps = page.maps)
    (reservations : after.reservations = page.reservations) : Grows page after where
  maps map member := ⟨map, maps ▸ member, .refl map⟩
  reservations := reservations ▸ List.prefix_refl _

/-! ## The map of a name -/

theorem map?_mem {name : String} {map : MemoryMap} (found : page.map? name = some map) :
    map ∈ page.maps ∧ map.name = name := by
  refine ⟨List.mem_of_find?_eq_some found, ?_⟩
  simpa using List.find?_some found

/-- With names apart, a map is found under its name. -/
theorem map?_eq_of_mem {maps : List MemoryMap}
    (named : maps.Pairwise fun first second => first.name ≠ second.name) {map : MemoryMap}
    (member : map ∈ maps) : (maps.find? fun other => other.name = map.name) = some map := by
  induction maps with
  | nil => cases member
  | cons first rest ih =>
      obtain ⟨others, named⟩ := List.pairwise_cons.mp named
      rcases List.mem_cons.mp member with rfl | member
      · simp
      · rw [List.find?_cons_of_neg (by simpa using others map member)]
        exact ih named member

theorem Consistent.map?_eq (consistent : page.Consistent) {map : MemoryMap}
    (member : map ∈ page.maps) : page.map? map.name = some map :=
  map?_eq_of_mem consistent.named member

/-! ## Tops -/

/-- Whatever moves the top of a map leaves its range and its list alone; the top does not
fall, and does not leave the map. -/
theorem TopMove.keeps {map : MemoryMap} {move : MemoryMap → MemoryMap} (moves : TopMove map move)
    (within : ∀ entry ∈ map.reserved, entry.stop ≤ map.stop) (below : map.top ≤ map.stop) :
    Continues map (move map) ∧ (move map).reserved = map.reserved ∧
      (move map).top ≤ map.stop := by
  cases moves with
  | fill length stop fits reached free =>
      have moved := Address.advance?_eq_some_iff.mp reached
      have inside : stop ≤ map.stop := by
        rw [Address.le_def] at below ⊢
        rw [MemoryMap.freeSize] at fits
        omega
      refine ⟨⟨rfl, rfl, rfl, ?_⟩, rfl, inside⟩
      exact Nat.le_trans (Nat.le_add_right _ length) (Nat.le_of_eq moved.symm)
  | pass stop entry hit =>
      have meets : entry.intersects map.top stop := by simpa using List.find?_some hit
      have behind := (intersects_iff.mp meets).2
      have landing : min entry.stop map.stop ≤ map.stop := by
        rw [Address.le_def, Address.toNat_min]
        exact Nat.min_le_right _ _
      refine ⟨⟨rfl, rfl, rfl, ?_⟩, rfl, skip_le within landing⟩
      refine Nat.le_trans ?_ (le_skip map.reserved (min entry.stop map.stop))
      rw [Address.toNat_min]
      exact Nat.le_min.mpr ⟨Nat.le_of_lt behind, below⟩
  | align =>
      have landing : min ((map.top.alignUp? Capacity.pageAlignment).getD map.stop) map.stop ≤
          map.stop := by
        rw [Address.le_def, Address.toNat_min]
        exact Nat.min_le_right _ _
      refine ⟨⟨rfl, rfl, rfl, ?_⟩, rfl, skip_le within landing⟩
      refine Nat.le_trans ?_ (le_skip map.reserved _)
      rw [Address.toNat_min]
      refine Nat.le_min.mpr ⟨?_, below⟩
      cases aligned : map.top.alignUp? Capacity.pageAlignment with
      | none => exact below
      | some address => exact Address.le_alignUp aligned
  | raise address inside =>
      have landing : max map.top address ≤ map.stop := by
        rw [Address.le_def, Address.toNat_max]
        exact Nat.max_le.mpr ⟨below, inside⟩
      refine ⟨⟨rfl, rfl, rfl, ?_⟩, rfl, skip_le within landing⟩
      refine Nat.le_trans ?_ (le_skip map.reserved _)
      rw [Address.toNat_max]
      exact Nat.le_max_left _ _

/-- Taking a reservation over moves the top out of it, and at most to the end of the map. -/
theorem absorb_keeps {map : MemoryMap} {reservations : List Reservation}
    (reflects : map.Reflects reservations) (below : map.top ≤ map.stop) (entry : Reservation) :
    Continues map (map.absorb entry) ∧ (map.absorb entry).top ≤ (map.absorb entry).stop := by
  obtain ⟨name, _, start, stop, _⟩ := MemoryMap.absorb_range map entry
  by_cases filled : (map.clip entry).Filled
  · have top := MemoryMap.absorb_top filled
    refine ⟨⟨name, start, stop, top ▸ le_skip _ _⟩, top ▸ skip_le ?_ (stop ▸ below)⟩
    exact fun other member => ((reflects.absorb entry).inside other member).2
  · rw [MemoryMap.absorb_of_clip_empty filled]
    exact ⟨.refl map, below⟩

theorem absorbAll_keeps {map : MemoryMap} {reservations : List Reservation}
    (reflects : map.Reflects reservations) (below : map.top ≤ map.stop)
    (entries : List Reservation) :
    Continues map (entries.foldl MemoryMap.absorb map) ∧
      (entries.foldl MemoryMap.absorb map).top ≤ (entries.foldl MemoryMap.absorb map).stop := by
  induction entries generalizing map reservations with
  | nil => exact ⟨.refl map, below⟩
  | cons entry rest ih =>
      obtain ⟨continues, below⟩ := absorb_keeps reflects below entry
      obtain ⟨further, inside⟩ := ih (reflects.absorb entry) below
      exact ⟨continues.trans further, inside⟩

/-! ## Changes -/

/-- A page whose maps are changed one by one, each within its range. -/
theorem Consistent.of_map (consistent : page.Consistent) {change : MemoryMap → MemoryMap}
    (maps : after.maps = page.maps.map change)
    (continues : ∀ map ∈ page.maps, Continues map (change map))
    (bounded : ∀ map ∈ page.maps, (change map).top ≤ (change map).stop)
    (reflected : ∀ map ∈ page.maps, (change map).Reflects after.reservations) :
    after.Consistent where
  reflected map member := by
    rw [maps] at member
    obtain ⟨earlier, there, rfl⟩ := List.mem_map.mp member
    exact reflected earlier there
  bounded map member := by
    rw [maps] at member
    obtain ⟨earlier, there, rfl⟩ := List.mem_map.mp member
    have low := (consistent.bounded earlier there).1
    have kept := continues earlier there
    exact ⟨kept.start ▸ Nat.le_trans low kept.top, bounded earlier there⟩
  disjoint := by
    rw [maps, List.pairwise_map]
    refine consistent.disjoint.imp_of_mem ?_
    intro first second here there apart
    have kept := continues first here
    have other := continues second there
    rw [kept.start, kept.stop, other.start, other.stop]
    exact apart
  named := by
    rw [maps, List.pairwise_map]
    refine consistent.named.imp_of_mem ?_
    intro first second here there apart
    rw [(continues first here).name, (continues second there).name]
    exact apart

theorem grows_of_map {change : MemoryMap → MemoryMap} (maps : after.maps = page.maps.map change)
    (continues : ∀ map ∈ page.maps, Continues map (change map))
    (reservations : page.reservations <+: after.reservations) : Grows page after where
  maps map member := by
    rw [maps]
    exact ⟨change map, List.mem_map_of_mem member, continues map member⟩
  reservations := reservations

/-- A map that joins has nothing in common with those that are there. -/
theorem Consistent.join (consistent : page.Consistent) {map : MemoryMap}
    (maps : after.maps = page.maps ++ [map]) (reservations : after.reservations = page.reservations)
    (reflects : map.Reflects page.reservations) (bounded : map.start ≤ map.top ∧ map.top ≤ map.stop)
    (apart : ∀ other ∈ page.maps, other.stop ≤ map.start ∨ map.stop ≤ other.start)
    (fresh : ∀ other ∈ page.maps, other.name ≠ map.name) : after.Consistent where
  reflected other member := by
    rw [maps, List.mem_append, List.mem_singleton] at member
    rw [reservations]
    rcases member with member | rfl
    · exact consistent.reflected other member
    · exact reflects
  bounded other member := by
    rw [maps, List.mem_append, List.mem_singleton] at member
    rcases member with member | rfl
    · exact consistent.bounded other member
    · exact bounded
  disjoint := by
    rw [maps, List.pairwise_append]
    refine ⟨consistent.disjoint, List.pairwise_singleton _ _, ?_⟩
    intro other member last here
    rw [List.mem_singleton.mp here]
    exact apart other member
  named := by
    rw [maps, List.pairwise_append]
    refine ⟨consistent.named, List.pairwise_singleton _ _, ?_⟩
    intro other member last here
    rw [List.mem_singleton.mp here]
    exact fresh other member

/-- **Every change keeps the maps consistent, and lets them grow.** -/
theorem Change.keeps (change : Change page after) (consistent : page.Consistent) :
    after.Consistent ∧ Grows page after := by
  cases change with
  | map name start stop attributes pending named filled fresh free room =>
      let map := MemoryMap.fresh name (UInt8.ofNat page.maps.length) start stop attributes
      have empty := MemoryMap.reflects_fresh name (UInt8.ofNat page.maps.length) start stop
        attributes
      have reflects := empty.absorbAll page.reservations
      have ordered : start ≤ stop := Nat.le_of_lt filled
      obtain ⟨kept, below⟩ := absorbAll_keeps empty ordered page.reservations
      refine ⟨consistent.join rfl rfl reflects ⟨?_, below⟩ ?_ ?_, ?_, List.prefix_refl _⟩
      · exact kept.start ▸ kept.top
      · intro other member
        rw [kept.start, kept.stop]
        have missed := free other member
        rw [MemoryMap.overlaps, Bool.and_eq_true, decide_eq_true_eq, decide_eq_true_eq] at missed
        show other.stop ≤ start ∨ stop ≤ other.start
        simp only [Address.le_def, Address.lt_def] at *
        omega
      · intro other member same
        rw [kept.name] at same
        refine fresh other member ?_
        rw [same]
        exact List.isPrefixOf_iff_prefix.mpr (List.prefix_refl _)
      · exact fun other member => ⟨other, List.mem_append_left _ member, .refl other⟩
  | reservation start stop size pending filled reached room =>
      have each : ∀ map ∈ page.maps, Continues map (map.absorb ⟨start, stop⟩) ∧
          (map.absorb ⟨start, stop⟩).top ≤ (map.absorb ⟨start, stop⟩).stop :=
        fun map member => absorb_keeps (consistent.reflected map member)
          (consistent.bounded map member).2 _
      refine ⟨consistent.of_map rfl (fun map member => (each map member).1)
        (fun map member => (each map member).2) ?_, ?_⟩
      · exact fun map member => (consistent.reflected map member).absorb _
      · exact grows_of_map rfl (fun map member => (each map member).1) (List.prefix_append _ _)
  | top name map move pending found moves =>
      have each : ∀ other ∈ page.maps, ∃ kept,
          (if other.name = name then move other else other) = kept ∧ Continues other kept ∧
          kept.reserved = other.reserved ∧ kept.top ≤ kept.stop := by
        intro other member
        refine ⟨_, rfl, ?_⟩
        split
        case isTrue same =>
          obtain rfl : other = map := by
            have there := consistent.map?_eq member
            rw [same, found] at there
            exact (Option.some.inj there).symm
          obtain ⟨kept, reserved, below⟩ := moves.keeps
            (fun entry member' => ((consistent.reflected other member).inside entry member').2)
            (consistent.bounded other member).2
          exact ⟨kept, reserved, kept.stop ▸ below⟩
        case isFalse _ =>
          exact ⟨.refl other, rfl, (consistent.bounded other member).2⟩
      refine ⟨consistent.of_map rfl ?_ ?_ ?_, grows_of_map rfl ?_ (List.prefix_refl _)⟩
      all_goals
        intro other member
        obtain ⟨kept, same, continues, reserved, below⟩ := each other member
        rw [same]
      · exact continues
      · exact below
      · exact (consistent.reflected other member).congr continues.start continues.stop reserved
      · exact continues
  | program | partition | window | address | kernel | sealed =>
      exact ⟨consistent.congr rfl rfl, grows_of_eq rfl rfl⟩

theorem Changes.keeps (changes : Changes page after) (consistent : page.Consistent) :
    after.Consistent ∧ Grows page after := by
  induction changes with
  | refl => exact ⟨consistent, .refl page⟩
  | tail _ change ih =>
      obtain ⟨consistent, grows⟩ := ih
      obtain ⟨further, more⟩ := change.keeps consistent
      exact ⟨further, grows.trans more⟩

/-- Whatever moves a top moves nothing else of a map. -/
theorem TopMove.eq_with_top {map : MemoryMap} {move : MemoryMap → MemoryMap}
    (moves : TopMove map move) (other : MemoryMap) : ∃ top, move other = { other with top } := by
  cases moves <;> exact ⟨_, rfl⟩

/-- A map whose top was moved is found under its name, with the range and the reservations
that it had. -/
theorem Consistent.moveTop (consistent : page.Consistent) (pending : page.isSaved = false)
    {name : String} {map : MemoryMap} {move : MemoryMap → MemoryMap}
    (found : page.map? name = some map) (moves : TopMove map move) :
    (page.changeMap name move).Consistent ∧
      (page.changeMap name move).map? name = some (move map) ∧ Continues map (move map) ∧
      (move map).reserved = map.reserved := by
  obtain ⟨member, _⟩ := map?_mem found
  obtain ⟨continues, reserved, _⟩ := moves.keeps
    (fun entry listed => ((consistent.reflected map member).inside entry listed).2)
    (consistent.bounded map member).2
  refine ⟨((Change.top name map move pending found moves).keeps consistent).1,
    map?_changeMap found ?_, continues, reserved⟩
  intro other
  obtain ⟨top, same⟩ := moves.eq_with_top other
  rw [same]

/-- Rounding the top of a map up does not lead below it. -/
theorem Consistent.le_alignTop (consistent : page.Consistent) {name : String} {map : MemoryMap}
    (found : page.map? name = some map) : map.top ≤ map.alignTop.top := by
  obtain ⟨member, _⟩ := map?_mem found
  exact (TopMove.align.keeps
    (fun entry listed => ((consistent.reflected map member).inside entry listed).2)
    (consistent.bounded map member).2).1.top

/-- What no reservation of a map covers is covered by no reservation at all. -/
theorem Consistent.not_covers (consistent : page.Consistent) {name : String} {map : MemoryMap}
    (found : page.map? name = some map) {place : Address} (low : map.top ≤ place)
    (high : place < map.stop) (free : ¬ Covers map.reserved place) :
    ¬ Covers page.reservations place := by
  obtain ⟨member, _⟩ := map?_mem found
  have above := (consistent.bounded map member).1
  have within : map.contains place :=
    MemoryMap.contains_iff.mpr ⟨Nat.le_trans above low, high⟩
  rwa [← (consistent.reflected map member).covers place within]

/-! ## Histories -/

section

variable {μ : Type} [PhysicalMemory μ]

theorem consistent_afterAll (memory : μ) (requests : List Request) :
    (afterAll requests (empty, memory)).1.Consistent :=
  ((afterAll_changes requests (empty, memory)).keeps consistent_empty).1

theorem consistent_before {memory : μ} {requests : List Request} {visit : Visit μ}
    (member : visit ∈ history requests (empty, memory)) : visit.before.1.Consistent :=
  ((history_changes member).2.keeps consistent_empty).1

/-- **Whatever is requested of an empty page, the reservations of its maps stay canonical.**
No reservation is ever lost, and the list of each map consists of non-empty ranges inside
the map, in order and with gaps in between, which cover an address of the map exactly if
some reservation covers it, one from before the map was added or a later one. -/
theorem reserved_is_canonical (memory : μ) (earlier later : List Request) :
    (afterAll earlier (empty, memory)).1.reservations <+:
        (afterAll (earlier ++ later) (empty, memory)).1.reservations ∧
      ∀ map ∈ (afterAll (earlier ++ later) (empty, memory)).1.maps,
        map.Reflects (afterAll (earlier ++ later) (empty, memory)).1.reservations := by
  refine ⟨?_, (consistent_afterAll memory (earlier ++ later)).reflected⟩
  rw [afterAll_append]
  have changes := afterAll_changes later (afterAll earlier (empty, memory))
  exact (changes.keeps (consistent_afterAll memory earlier)).2.reservations

end

/-- One reservation from before the map and two that touch: two entries remain, the second
of them joined. -/
theorem reserved_is_canonical_joined :
    ∃ map, (afterAll
        [.reserve ⟨0x800⟩ 0x900, .addMap "ram" ⟨0x1000⟩ ⟨0x5000⟩ default,
          .reserve ⟨0x3000⟩ 0x100, .reserve ⟨0x3100⟩ 0x100]
        (empty, IdentityMemory.zeros)).1.maps = [map] ∧
      map.reserved = [⟨⟨0x1000⟩, ⟨0x1100⟩⟩, ⟨⟨0x3000⟩, ⟨0x3200⟩⟩] ∧
      map.Reflects [⟨⟨0x800⟩, ⟨0x1100⟩⟩, ⟨⟨0x3000⟩, ⟨0x3100⟩⟩, ⟨⟨0x3100⟩, ⟨0x3200⟩⟩] := by
  let requests : List Request :=
    [.reserve ⟨0x800⟩ 0x900, .addMap "ram" ⟨0x1000⟩ ⟨0x5000⟩ default,
      .reserve ⟨0x3000⟩ 0x100, .reserve ⟨0x3100⟩ 0x100]
  let left := MemoryMap.mk "ram" 0 ⟨0x1000⟩ ⟨0x5000⟩ default ⟨0x1100⟩
    [⟨⟨0x1000⟩, ⟨0x1100⟩⟩, ⟨⟨0x3000⟩, ⟨0x3200⟩⟩]
  have maps : (afterAll requests (empty, IdentityMemory.zeros)).1.maps = [left] := by
    decide +kernel
  have reservations : (afterAll requests (empty, IdentityMemory.zeros)).1.reservations =
      [⟨⟨0x800⟩, ⟨0x1100⟩⟩, ⟨⟨0x3000⟩, ⟨0x3100⟩⟩, ⟨⟨0x3100⟩, ⟨0x3200⟩⟩] := by
    decide +kernel
  refine ⟨left, maps, rfl, ?_⟩
  rw [← reservations]
  exact (reserved_is_canonical IdentityMemory.zeros requests []).2 left
    (maps ▸ List.mem_singleton_self left)

end Bootloader.SystemPage
