import Bootloader.Proofs.SystemPage.Consistency
import Mathlib.Data.List.Pairwise

/-!
# Bytes that are copied to maps

A granted write copies its bytes to the top of a map. Over a whole history the copies share
no address with each other, and none with a reservation that was there before
(`copies_keep_apart`): the top of a map only rises, maps have no address in common, the
list of a map covers what the reservations cover, and no entry of the list is in the way
when bytes are copied.
-/

set_option autoImplicit false

namespace Bootloader.SystemPage

open Reservation

/-- Bytes that were copied to a map. -/
structure Copy where
  map : String
  place : Address
  data : Bytes
  deriving DecidableEq, Repr

/-- Whether an address holds one of the bytes. -/
def Copy.Holds (copy : Copy) (address : Address) : Prop :=
  copy.place ≤ address ∧ address.toNat < copy.place.toNat + copy.data.length

/-- The bytes that a visit copied, if it was a write and was granted. -/
def Visit.copy? {μ : Type} (visit : Visit μ) : Option Copy :=
  match visit.request, visit.outcome with
  | .write map data, .done (some place) => some ⟨map, place, data⟩
  | _, _ => none

theorem Visit.copy?_eq_some {μ : Type} {visit : Visit μ} {copy : Copy}
    (copied : visit.copy? = some copy) :
    visit.request = .write copy.map copy.data ∧ visit.outcome = .done (some copy.place) := by
  obtain ⟨request, before, outcome, after⟩ := visit
  unfold Visit.copy? at copied
  split at copied
  case h_1 asked granted =>
    cases copied
    exact ⟨asked, granted⟩
  case h_2 => cases copied

section

variable {μ : Type} [PhysicalMemory μ]

/-- What holds of a copy where it was made: its bytes lie in the map it names, they are what
was written to the memory, and none of them lies in a reservation. -/
structure Copy.Sound (copy : Copy) (before after : SystemPage × μ) : Prop where
  inside : ∃ map, before.1.map? copy.map = some map ∧ map.start ≤ copy.place ∧
    copy.place.toNat + copy.data.length ≤ map.stop.toNat
  written : PhysicalMemory.write before.2 copy.place copy.data = .ok after.2
  free : ∀ entry ∈ before.1.reservations, ∀ address, copy.Holds address →
    ¬ entry.contains address

omit [PhysicalMemory μ] in
/-- Two maps of different names share no address. -/
theorem Consistent.apart {page : SystemPage} (consistent : page.Consistent)
    {first second : MemoryMap} (here : first ∈ page.maps) (there : second ∈ page.maps)
    (different : first.name ≠ second.name) :
    first.stop ≤ second.start ∨ second.stop ≤ first.start := by
  have symmetric : Std.Symm fun first second : MemoryMap =>
      first.stop ≤ second.start ∨ second.stop ≤ first.start := ⟨fun _ _ => Or.symm⟩
  exact consistent.disjoint.forall here there fun same =>
    different (congrArg MemoryMap.name same)

/-- What a granted write does. -/
theorem copied_ends {store left : SystemPage × μ} {name : String} {data : Bytes}
    {outcome : Outcome PageError (Option Address)}
    (ends : (Request.write name data).perform.Ends store outcome left) :
    (left.2 = store.2 ∧ ∀ place, outcome ≠ .done (some place)) ∨
    (∃ map stop, outcome = .done (some map.top) ∧ store.1.map? name = some map ∧
      data.length ≤ map.freeSize ∧ map.top.advance? data.length = some stop ∧
      map.collision? map.top stop = none ∧
      PhysicalMemory.write store.2 map.top data = .ok left.2 ∧
      left.1 = store.1.changeMap name fun map => { map with top := stop }) := by
  rcases Act.ends_bind.mp ends with ⟨place, middle, here, done, same⟩ | ⟨halt, here, halts⟩
  · subst same
    rcases writeToMap_ends here with ⟨_, _, refused, _⟩ | ⟨_, _, _, _, _, _, _, _, refused, _⟩ |
      ⟨map, stop, granted, _, found, fits, reached, free, wrote, same⟩
    · exact absurd rfl (refused place)
    · cases refused
    · cases granted
      exact .inr ⟨map, stop, done.symm, found, fits, reached, free, wrote, same⟩
  · have refused : ∀ place, outcome ≠ .done (some place) :=
      fun place => halts.ne_done (some place)
    rcases writeToMap_ends here with ⟨same, _, _⟩ | ⟨_, _, _, same, _⟩ |
      ⟨map, stop, granted, _⟩
    · exact .inl ⟨same, refused⟩
    · exact .inl ⟨same, refused⟩
    · subst granted
      cases halts

/-- A granted write is sound wherever the maps are consistent. The collision scan looks at
the list of the map, which covers what the reservations cover. -/
theorem copied_sound {store left : SystemPage × μ} {map : MemoryMap} {stop : Address}
    {data : Bytes} (consistent : store.1.Consistent) (found : store.1.map? map.name = some map)
    (fits : data.length ≤ map.freeSize) (reached : map.top.advance? data.length = some stop)
    (free : map.collision? map.top stop = none)
    (wrote : PhysicalMemory.write store.2 map.top data = .ok left.2) :
    (Copy.mk map.name map.top data).Sound store left := by
  obtain ⟨member, _⟩ := map?_mem found
  obtain ⟨low, high⟩ := consistent.bounded map member
  have stays : map.top.toNat + data.length ≤ map.stop.toNat := by
    rw [Address.le_def] at high
    rw [MemoryMap.freeSize] at fits
    omega
  refine ⟨⟨map, found, low, stays⟩, wrote, ?_⟩
  intro entry recorded address holds reserved
  obtain ⟨after, before⟩ := holds
  have below : address.toNat < map.top.toNat + data.length := before
  have within : address < map.stop := by
    rw [Address.lt_def]
    omega
  have uncovered : ¬ Covers map.reserved address := by
    refine MemoryMap.not_covers_of_collision?_eq_none free after ?_
    rwa [Address.lt_def, Address.advance?_eq_some_iff.mp reached]
  exact consistent.not_covers found after within uncovered ⟨entry, recorded, reserved⟩

/-- What a visit copied, and what it did to the map it copied to. -/
theorem copied_visit {memory : μ} {requests : List Request} {visit : Visit μ} {copy : Copy}
    (member : visit ∈ history requests (empty, memory)) (copied : visit.copy? = some copy) :
    copy.Sound visit.before visit.after ∧ ∃ map stop,
      visit.before.1.map? copy.map = some map ∧ copy.place = map.top ∧
      map.top.advance? copy.data.length = some stop ∧
      visit.after.1 = visit.before.1.changeMap copy.map fun map => { map with top := stop } := by
  obtain ⟨asked, granted⟩ := Visit.copy?_eq_some copied
  obtain ⟨same, _⟩ := history_changes member
  have ends := visit_ends visit.request visit.before
  rw [← same, granted, asked] at ends
  rcases copied_ends ends with ⟨_, refused⟩ | ⟨map, stop, done, found, fits, reached, free,
    wrote, left⟩
  · exact absurd rfl (refused copy.place)
  · have place : copy.place = map.top := Option.some.inj (Outcome.done.inj done)
    refine ⟨?_, map, stop, found, place, reached, left⟩
    have named := (map?_mem found).2
    rw [← named] at found
    have sound := copied_sound (consistent_before member) found fits reached free wrote
    rwa [named, ← place] at sound

/-- Where two copies of a history lie: the first one below the top that its map has when the
second one is made. -/
theorem copies_apart {page : SystemPage} (consistent : page.Consistent)
    {first second : MemoryMap} (here : first ∈ page.maps) (there : second ∈ page.maps)
    {address : Address} (inside : first.start ≤ address ∧ address < first.stop)
    (below : address < first.top) (other : second.start ≤ address ∧ address < second.stop) :
    address < second.top := by
  by_cases same : first.name = second.name
  · have found := consistent.map?_eq here
    rw [same, consistent.map?_eq there] at found
    rwa [← Option.some.inj found] at below
  · have apart := consistent.apart here there same
    simp only [Address.le_def, Address.lt_def] at *
    omega

/-- **No byte that was copied to a map is ever copied over.** In a history that starts from
the empty page, every granted write puts its bytes into the map it names and outside of
every reservation made before; every other write leaves the memory alone; and no two
granted writes share an address. -/
theorem copies_keep_apart (memory : μ) (requests : List Request) :
    (∀ visit ∈ history requests (empty, memory),
      (∀ copy, visit.copy? = some copy → copy.Sound visit.before visit.after) ∧
      ∀ map data, visit.request = .write map data → visit.copy? = none →
        visit.after.2 = visit.before.2) ∧
    (history requests (empty, memory)).Pairwise fun first second =>
      ∀ one, first.copy? = some one → ∀ other, second.copy? = some other →
        ∀ address, ¬ (one.Holds address ∧ other.Holds address) := by
  refine ⟨fun visit member => ⟨fun copy copied => (copied_visit member copied).1, ?_⟩, ?_⟩
  · intro map data asked nothing
    obtain ⟨same, _⟩ := history_changes member
    have ends := visit_ends visit.request visit.before
    rw [← same, asked] at ends
    rcases copied_ends ends with ⟨kept, _⟩ | ⟨_, _, granted, _⟩
    · exact kept
    · rw [Visit.copy?, asked, granted] at nothing
      cases nothing
  · refine (history_pairwise requests (empty, memory)).imp_of_mem ?_
    rintro first second here there changes one copied other copied' address ⟨holds, holds'⟩
    obtain ⟨⟨⟨map, found, low, high⟩, _, _⟩, _, stop, found', place, reached, left⟩ :=
      copied_visit here copied
    cases found.symm.trans found'
    obtain ⟨present, named⟩ := map?_mem found
    -- The first copy raised the top of its map over its bytes, and the map is still there.
    have raised : { map with top := stop } ∈ first.after.1.maps := by
      rw [left]
      exact List.mem_map.mpr ⟨map, present, if_pos named⟩
    have settled : first.after.1.Consistent := by
      rw [(history_changes here).1]
      exact ((visit_changes first.request first.before).keeps (consistent_before here)).1
    obtain ⟨later, listed, continues⟩ := (changes.keeps settled).2.maps _ raised
    obtain ⟨⟨⟨target, found, low', high'⟩, _, _⟩, _, _, found', place', _, _⟩ :=
      copied_visit there copied'
    cases found.symm.trans found'
    obtain ⟨after, before⟩ := holds
    obtain ⟨after', before'⟩ := holds'
    have end_stop := Address.advance?_eq_some_iff.mp reached
    have inside : later.start ≤ address ∧ address < later.stop := by
      rw [continues.start, continues.stop]
      simp only [Address.le_def, Address.lt_def] at *
      omega
    have below : address < later.top := by
      refine Nat.lt_of_lt_of_le ?_ continues.top
      rw [place] at before
      exact Nat.lt_of_lt_of_eq before end_stop.symm
    have within : target.start ≤ address ∧ address < target.stop :=
      ⟨Nat.le_trans low' after', Nat.lt_of_lt_of_le before' high'⟩
    have missed := copies_apart (consistent_before there) listed (map?_mem found).1 inside below
      within
    exact Nat.not_lt.mpr (place' ▸ after') missed

end

/-- A reservation gets in the way of the second write, which is made again behind it: two
copies, and both are there in the end. -/
theorem copies_keep_apart_resumed :
    ∃ visits, visits = history
        [.addMap "ram" ⟨0x1000⟩ ⟨0x5000⟩ default, .write "ram" [1, 2], .reserve ⟨0x1003⟩ 0x10,
          .write "ram" [3, 4], .write "ram" [3, 4]]
        (empty, IdentityMemory.zeros) ∧
      visits.filterMap Visit.copy? = [⟨"ram", ⟨0x1000⟩, [1, 2]⟩, ⟨"ram", ⟨0x1013⟩, [3, 4]⟩] ∧
      (∀ visit ∈ visits, ∀ copy, visit.copy? = some copy →
        copy.Sound visit.before visit.after) ∧
      visits.Pairwise fun first second =>
        ∀ one, first.copy? = some one → ∀ other, second.copy? = some other →
          ∀ address, ¬ (one.Holds address ∧ other.Holds address) := by
  refine ⟨_, rfl, by decide +kernel, ?_, ?_⟩
  · exact fun visit member => ((copies_keep_apart IdentityMemory.zeros _).1 visit member).1
  · exact (copies_keep_apart IdentityMemory.zeros _).2

end Bootloader.SystemPage
