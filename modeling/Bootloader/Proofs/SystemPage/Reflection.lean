import Bootloader.Proofs.SystemPage.Coverage

/-!
# What a map keeps of the reservations

Reservations are recorded once for the whole page, in the order of the requests and however
they overlap. A map keeps of them what concerns it, in one form: non-empty ranges inside the
map, in the order of their addresses and with gaps in between, that cover the addresses of
the map which any reservation covers (`MemoryMap.Reflects`). A map that is added late takes
the reservations over one after the other, by the same operation.
-/

set_option autoImplicit false

namespace Bootloader.SystemPage

open Reservation

namespace MemoryMap

/-- The list of a map is the canonical form of a list of reservations, cut to the map. -/
structure Reflects (map : MemoryMap) (reservations : List Reservation) : Prop where
  filled : ∀ entry ∈ map.reserved, entry.Filled
  inside : ∀ entry ∈ map.reserved, map.start ≤ entry.start ∧ entry.stop ≤ map.stop
  separated : Separated map.reserved
  covers : ∀ address, map.contains address →
    (Covers map.reserved address ↔ Covers reservations address)

theorem contains_iff {map : MemoryMap} {address : Address} :
    map.contains address ↔ map.start ≤ address ∧ address < map.stop := by
  simp only [contains, Bool.and_eq_true, decide_eq_true_eq]

variable {map : MemoryMap} {reservations : List Reservation}

/-- Where no reservation of the map is in the way, none covers an address. -/
theorem not_covers_of_collision?_eq_none {start stop address : Address}
    (clear : map.collision? start stop = none) (low : start ≤ address) (high : address < stop) :
    ¬ Covers map.reserved address := by
  rintro ⟨entry, listed, covered⟩
  obtain ⟨first, last⟩ := Reservation.contains_iff.mp covered
  refine List.find?_eq_none.mp clear entry listed (intersects_iff.mpr ?_)
  exact ⟨Nat.lt_of_le_of_lt first high, Nat.lt_of_le_of_lt low last⟩

/-- Only the range of the map and its list count. -/
theorem Reflects.congr (reflects : map.Reflects reservations) {other : MemoryMap}
    (start : other.start = map.start) (stop : other.stop = map.stop)
    (reserved : other.reserved = map.reserved) : other.Reflects reservations where
  filled := reserved ▸ reflects.filled
  inside := by rw [reserved, start, stop]; exact reflects.inside
  separated := reserved ▸ reflects.separated
  covers address inside := by
    rw [contains_iff, start, stop] at inside
    rw [reserved]
    exact reflects.covers address (contains_iff.mpr inside)

theorem reflects_fresh (name : String) (id : UInt8) (start stop : Address)
    (attributes : Attributes) : (fresh name id start stop attributes).Reflects [] where
  filled _ member := by cases member
  inside _ member := by cases member
  separated := List.Pairwise.nil
  covers _ _ := Iff.rfl

/-- The part of a reservation that falls into the map. -/
def clip (map : MemoryMap) (entry : Reservation) : Reservation :=
  ⟨max entry.start map.start, min entry.stop map.stop⟩

theorem clip_contains {entry : Reservation} {address : Address} (inside : map.contains address) :
    (map.clip entry).contains address ↔ entry.contains address := by
  simp only [contains_iff, Reservation.contains_iff, clip, Address.le_def, Address.lt_def,
    Address.toNat_max, Address.toNat_min] at *
  omega

/-- A reservation that does not reach into the map changes nothing. -/
theorem absorb_of_clip_empty {entry : Reservation} (outside : ¬ (map.clip entry).Filled) :
    map.absorb entry = map :=
  if_neg outside

/-- What a map keeps of its range when it takes a reservation over. -/
theorem absorb_range (map : MemoryMap) (entry : Reservation) :
    (map.absorb entry).name = map.name ∧ (map.absorb entry).id = map.id ∧
      (map.absorb entry).start = map.start ∧ (map.absorb entry).stop = map.stop ∧
      (map.absorb entry).attributes = map.attributes := by
  unfold absorb
  dsimp only
  split <;> exact ⟨rfl, rfl, rfl, rfl, rfl⟩

/-- Only the top and the list of a map change. -/
theorem absorb_eq (map : MemoryMap) (entry : Reservation) :
    map.absorb entry =
      { map with top := (map.absorb entry).top, reserved := (map.absorb entry).reserved } := by
  unfold absorb
  dsimp only
  split <;> rfl

theorem absorb_reserved {entry : Reservation} (filled : (map.clip entry).Filled) :
    (map.absorb entry).reserved =
      ((map.clip entry).join map.reserved).1.insertSorted
        ((map.clip entry).join map.reserved).2 := by
  unfold absorb
  exact congrArg MemoryMap.reserved (if_pos filled)

theorem absorb_top {entry : Reservation} (filled : (map.clip entry).Filled) :
    (map.absorb entry).top = skip (map.absorb entry).reserved map.top := by
  rw [absorb_reserved filled]
  unfold absorb
  exact congrArg MemoryMap.top (if_pos filled)

/-- Taking a reservation over keeps the list canonical. -/
theorem Reflects.absorb (reflects : map.Reflects reservations) (entry : Reservation) :
    (map.absorb entry).Reflects (reservations ++ [entry]) := by
  obtain ⟨_, _, start, stop, _⟩ := absorb_range map entry
  by_cases filled : (map.clip entry).Filled
  · have reserved := absorb_reserved filled
    have part := join_sublist (map.clip entry) map.reserved
    have encloses := join_encloses (map.clip entry) map.reserved
    have joined : ((map.clip entry).join map.reserved).1.Filled := by
      simp only [Filled, Address.lt_def, Address.le_def] at *
      omega
    have left : ∀ other ∈ ((map.clip entry).join map.reserved).2, other.Filled :=
      fun other member => reflects.filled other (part.subset member)
    refine ⟨?filled, ?inside, ?separated, ?covers⟩
    case filled =>
      rw [reserved]
      intro other member
      rcases mem_insertSorted.mp member with rfl | member
      · exact joined
      · exact left other member
    case inside =>
      rw [reserved, start, stop]
      intro other member
      rcases mem_insertSorted.mp member with rfl | member
      · have low : map.start.toNat ≤ (map.clip entry).start.toNat := by
          rw [clip, Address.toNat_max]
          exact Nat.le_max_right _ _
        have high : (map.clip entry).stop.toNat ≤ map.stop.toNat := by
          rw [clip, Address.toNat_min]
          exact Nat.min_le_right _ _
        exact ⟨le_start_join low fun other member => (reflects.inside other member).1,
          stop_join_le high fun other member => (reflects.inside other member).2⟩
      · exact reflects.inside other (part.subset member)
    case separated =>
      rw [reserved]
      exact separated_insertSorted (reflects.separated.sublist part) left joined
        fun other member => apart_of_mem_join reflects.separated reflects.filled member
    case covers =>
      intro address inside
      rw [contains_iff, start, stop, ← contains_iff] at inside
      rw [reserved, covers_insertSorted, covers_join, clip_contains inside,
        reflects.covers address inside, covers_append, covers_cons, or_comm]
      simp
  · rw [absorb_of_clip_empty filled]
    refine { reflects with covers := ?_ }
    intro address inside
    have missed : ¬ entry.contains address := by
      rw [← clip_contains inside, Reservation.contains_iff]
      simp only [Filled, Address.lt_def, Address.le_def] at *
      omega
    rw [reflects.covers address inside, covers_append, covers_cons]
    simp [missed]

/-- A map that is added late keeps what it would keep of the same reservations made later. -/
theorem Reflects.absorbAll (reflects : map.Reflects reservations) (entries : List Reservation) :
    (entries.foldl MemoryMap.absorb map).Reflects (reservations ++ entries) := by
  induction entries generalizing map reservations with
  | nil => simpa using reflects
  | cons entry rest ih => simpa using ih (reflects.absorb entry)

/-- What the list of a map covers lies in the map. -/
theorem Reflects.covers_iff (reflects : map.Reflects reservations) {address : Address} :
    Covers map.reserved address ↔ map.contains address ∧ Covers reservations address := by
  refine ⟨fun covered => ?_, fun covered => (reflects.covers address covered.1).mpr covered.2⟩
  obtain ⟨entry, member, inside⟩ := covered
  obtain ⟨first, last⟩ := Reservation.contains_iff.mp inside
  obtain ⟨low, high⟩ := reflects.inside entry member
  have within : map.contains address :=
    contains_iff.mpr ⟨Nat.le_trans low first, Nat.lt_of_lt_of_le last high⟩
  exact ⟨within, (reflects.covers address within).mp ⟨entry, member, inside⟩⟩

/-- **The list of a map is determined by its range and by what is reserved at all.** -/
theorem Reflects.reserved_eq (reflects : map.Reflects reservations) {other : MemoryMap}
    {others : List Reservation} (mirrors : other.Reflects others) (start : other.start = map.start)
    (stop : other.stop = map.stop)
    (same : ∀ address, map.contains address →
      (Covers reservations address ↔ Covers others address)) :
    other.reserved = map.reserved := by
  refine eq_of_covers mirrors.separated mirrors.filled reflects.separated reflects.filled ?_
  intro address
  rw [mirrors.covers_iff, reflects.covers_iff, contains_iff, contains_iff, start, stop,
    ← contains_iff]
  exact and_congr_right fun inside => (same address inside).symm

/-- Taking over what is reserved already changes nothing, if the top is free. -/
theorem Reflects.absorb_of_covered (reflects : map.Reflects reservations) {entry : Reservation}
    (covered : ∀ address, map.contains address → entry.contains address →
      Covers reservations address)
    (free : ¬ Covers map.reserved map.top) : map.absorb entry = map := by
  by_cases filled : (map.clip entry).Filled
  · obtain ⟨_, _, start, stop, _⟩ := absorb_range map entry
    have reserved : (map.absorb entry).reserved = map.reserved := by
      refine reflects.reserved_eq (reflects.absorb entry) start stop fun address inside => ?_
      rw [covers_append, covers_cons, or_iff_left (not_covers_nil address)]
      exact ⟨.inl, (·.elim (fun known => known) (covered address inside))⟩
    have top : (map.absorb entry).top = map.top := by
      rw [absorb_top filled, reserved, skip_of_not_covers free]
    rw [absorb_eq, top, reserved]
  · exact absorb_of_clip_empty filled

/-- What is reserved already moves no top that was moved out of it. -/
theorem Reflects.absorb_absorb (reflects : map.Reflects reservations) (entry : Reservation) :
    (map.absorb entry).absorb entry = map.absorb entry := by
  by_cases filled : (map.clip entry).Filled
  · refine (reflects.absorb entry).absorb_of_covered (fun address _ inside => ?_) ?_
    · exact ⟨entry, List.mem_append_right _ (List.mem_singleton_self entry), inside⟩
    · rw [absorb_top filled]
      exact not_covers_skip _ _
  · rw [absorb_of_clip_empty filled, absorb_of_clip_empty filled]

end MemoryMap

end Bootloader.SystemPage
