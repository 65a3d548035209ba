import Bootloader.Proofs.SystemPage.Capacities
import Bootloader.Proofs.SystemPage.Writes

/-!
# The registry of maps

A map gets its name, its id, its range and its attributes when it is registered, and keeps them:
later only its top and its reservations change. So what is said about the maps of a page is a
list that only grows at its end (`Changes.labels`).

No map is registered under a name that begins with the name of an earlier one, or in a range
that shares an address with another one. A shorter name may follow a longer one. So no two maps
have the same name or an address in common, and every question about a map, by its name, by its
id or by one of its addresses, is answered with that map, from its registration on
(`maps_told_apart`).
-/

set_option autoImplicit false

namespace Bootloader.SystemPage

open Reservation

/-- What is said about a map when it is registered. -/
structure MapLabel where
  name : String
  id : UInt8
  start : Address
  stop : Address
  attributes : Attributes
  deriving DecidableEq, Repr

/-- Everything about a map but its top and its reservations. -/
def MemoryMap.label (map : MemoryMap) : MapLabel where
  name := map.name
  id := map.id
  start := map.start
  stop := map.stop
  attributes := map.attributes

/-- What is said about the maps of a page, in the order of their registration. -/
def labels (page : SystemPage) : List MapLabel :=
  page.maps.map MemoryMap.label

/-- Every map has an address, and no name begins with the name of an earlier map. -/
structure Distinct (labels : List MapLabel) : Prop where
  filled : ∀ label ∈ labels, label.start < label.stop
  prefixFree : labels.Pairwise fun first second => ¬ first.name.toList <+: second.name.toList

/-! ## What keeps the labels -/

theorem label_absorb (map : MemoryMap) (entry : Reservation) :
    (map.absorb entry).label = map.label := by
  obtain ⟨name, id, start, stop, attributes⟩ := MemoryMap.absorb_range map entry
  rw [MemoryMap.label, name, id, start, stop, attributes]
  rfl

theorem label_absorbAll (map : MemoryMap) (entries : List Reservation) :
    (entries.foldl MemoryMap.absorb map).label = map.label := by
  induction entries generalizing map with
  | nil => rfl
  | cons entry rest ih => exact (ih (map.absorb entry)).trans (label_absorb map entry)

theorem TopMove.label {map : MemoryMap} {move : MemoryMap → MemoryMap} (moves : TopMove map move)
    (other : MemoryMap) : (move other).label = other.label := by
  obtain ⟨top, same⟩ := moves.eq_with_top other
  rw [same]
  rfl

variable {page after : SystemPage}

/-- Maps that are changed one by one keep what is said about them. -/
theorem labels_of_map {change : MemoryMap → MemoryMap} (maps : after.maps = page.maps.map change)
    (kept : ∀ map, (change map).label = map.label) : after.labels = page.labels := by
  rw [labels, maps, List.map_map, labels]
  exact List.map_congr_left fun map _ => kept map

/-- A change keeps what is said about the maps, or adds a map whose name begins with none of
theirs. -/
theorem Change.labels_cases (change : Change page after) :
    after.labels = page.labels ∨ ∃ label, after.labels = page.labels ++ [label] ∧
      label.start < label.stop ∧
      ∀ other ∈ page.labels, ¬ other.name.toList <+: label.name.toList := by
  cases change with
  | map name start stop attributes pending named filled fresh free room =>
      refine .inr ⟨⟨name, UInt8.ofNat page.maps.length, start, stop, attributes⟩, ?_, filled, ?_⟩
      · rw [labels, List.map_append, List.map_singleton, label_absorbAll]
        rfl
      · intro other member begins
        obtain ⟨map, there, rfl⟩ := List.mem_map.mp member
        exact fresh map there (List.isPrefixOf_iff_prefix.mpr begins)
  | reservation start stop size pending filled reached room =>
      exact .inl (labels_of_map rfl fun map => label_absorb map _)
  | top name map move pending found moves =>
      refine .inl (labels_of_map rfl fun other => ?_)
      split
      · exact moves.label other
      · rfl
  | program | partition | window | address | kernel | sealed => exact .inl rfl

theorem Change.distinct (change : Change page after) (distinct : Distinct page.labels) :
    Distinct after.labels := by
  rcases change.labels_cases with same | ⟨label, added, filled, fresh⟩
  · rw [same]
    exact distinct
  · rw [added]
    refine ⟨List.forall_mem_append.mpr ⟨distinct.filled, List.forall_mem_singleton.mpr filled⟩,
      List.pairwise_append.mpr ⟨distinct.prefixFree, List.pairwise_singleton _ _, ?_⟩⟩
    intro other member last here
    rw [List.mem_singleton.mp here]
    exact fresh other member

theorem Changes.distinct (changes : Changes page after) (distinct : Distinct page.labels) :
    Distinct after.labels := by
  induction changes with
  | refl => exact distinct
  | tail _ change ih => exact change.distinct ih

/-- **What is said about a map is never changed**, and maps join at the end. -/
theorem Changes.labels (changes : Changes page after) : page.labels <+: after.labels := by
  induction changes with
  | refl => exact List.prefix_refl _
  | tail _ change ih =>
      rcases change.labels_cases with same | ⟨label, added, _⟩
      · rwa [same]
      · rw [added]
        exact ih.trans (List.prefix_append _ _)

theorem getElem?_labels (page : SystemPage) (index : Nat) :
    page.labels[index]? = page.maps[index]?.map MemoryMap.label :=
  List.getElem?_map

/-- A map stays at its place in the list. -/
theorem Changes.map_stays (changes : Changes page after) {index : Nat} {map : MemoryMap}
    (listed : page.maps[index]? = some map) :
    ∃ later, after.maps[index]? = some later ∧ later.label = map.label := by
  obtain ⟨joined, grown⟩ := changes.labels
  have here : page.labels[index]? = some map.label := by rw [getElem?_labels, listed]; rfl
  have there : after.labels[index]? = some map.label := by
    rw [← grown, List.getElem?_append_left (List.getElem?_eq_some_iff.mp here).1, here]
  rw [getElem?_labels] at there
  exact Option.map_eq_some_iff.mp there

/-! ## Questions about maps -/

/-- The maps of a page can be told apart. They are few, and their ids count them; each has a name
that fits its field, and a range that holds an address; no two ranges share one; and no name
begins with the name of an earlier map. -/
structure MapsApart (page : SystemPage) : Prop where
  room : page.maps.length ≤ Capacity.maps
  filled : ∀ map ∈ page.maps, map.start < map.stop
  named : ∀ map ∈ page.maps, FieldName map.name
  numbered : ∀ (index : Nat) (map : MemoryMap), page.maps[index]? = some map →
    map.id.toNat = index
  disjoint : page.maps.Pairwise fun first second =>
    first.stop ≤ second.start ∨ second.stop ≤ first.start
  prefixFree : page.maps.Pairwise fun first second => ¬ first.name.toList <+: second.name.toList

/-- Whatever a page is asked about a map, it answers with what was said when the map was
registered. -/
structure AnswersFor (page : SystemPage) (label : MapLabel) : Prop where
  id : page.mapId label.name = .ok label.id
  attributes : page.mapAttributes label.name = .ok label.attributes
  range : page.mapRange label.name = .ok (label.start, label.stop)
  attributesOf : page.attributesOf label.id = .ok label.attributes
  holder : ∀ address, label.start ≤ address → address < label.stop →
    (page.mapContaining? address).map MemoryMap.label = some label

/-- Ids count the maps, and do not wrap around. -/
theorem Bounded.toNat_id (bounded : page.Bounded) {index : Nat} {map : MemoryMap}
    (listed : page.maps[index]? = some map) : map.id.toNat = index := by
  have inside : index < page.maps.length := (List.getElem?_eq_some_iff.mp listed).1
  have room : index < 2 ^ 8 := by
    have few : Capacity.maps = 16 := rfl
    have most := bounded.maps
    omega
  rw [bounded.mapIds index map listed]
  exact UInt8.toNat_ofNat_of_lt' room

theorem mapsApart_of (consistent : page.Consistent) (bounded : page.Bounded)
    (distinct : Distinct page.labels) : page.MapsApart where
  room := bounded.maps
  filled map member := distinct.filled map.label (List.mem_map_of_mem member)
  named := bounded.mapNames
  numbered _ _ listed := bounded.toNat_id listed
  disjoint := consistent.disjoint
  prefixFree := List.pairwise_map.mp distinct.prefixFree

/-- Only one map holds an address. -/
theorem Consistent.eq_of_contains (consistent : page.Consistent) {first second : MemoryMap}
    (here : first ∈ page.maps) (there : second ∈ page.maps) {address : Address}
    (inside : first.contains address) (within : second.contains address) : first = second := by
  by_cases same : first.name = second.name
  · have found := consistent.map?_eq here
    rw [same, consistent.map?_eq there] at found
    exact (Option.some.inj found).symm
  · have apart := consistent.apart here there same
    rw [MemoryMap.contains_iff] at inside within
    simp only [Address.le_def, Address.lt_def] at *
    omega

theorem of_mapContaining? {address : Address} {map : MemoryMap}
    (found : page.mapContaining? address = some map) : map ∈ page.maps ∧ map.contains address := by
  have inside := List.find?_some found
  exact ⟨List.mem_of_find?_eq_some found, inside⟩

/-- The map that is found for an address is the one that holds it. -/
theorem Consistent.mapContaining?_eq_some_iff (consistent : page.Consistent) {address : Address}
    {map : MemoryMap} :
    page.mapContaining? address = some map ↔ map ∈ page.maps ∧ map.contains address := by
  refine ⟨of_mapContaining?, ?_⟩
  rintro ⟨member, inside⟩
  cases found : page.mapContaining? address with
  | none => exact absurd inside (List.find?_eq_none.mp found map member)
  | some other =>
      obtain ⟨listed, within⟩ := of_mapContaining? found
      rw [consistent.eq_of_contains listed member within inside]

theorem Consistent.answersFor (consistent : page.Consistent) (bounded : page.Bounded)
    {index : Nat} {map : MemoryMap} (here : page.maps[index]? = some map) :
    page.AnswersFor map.label := by
  have member : map ∈ page.maps := List.mem_of_getElem? here
  have found : page.findMap map.name = .ok map := findMap_ok_iff.mpr (consistent.map?_eq member)
  refine ⟨?id, ?attributes, ?range, ?attributesOf, ?holder⟩
  case id => exact congrArg (Except.map MemoryMap.id) found
  case attributes => exact congrArg (Except.map MemoryMap.attributes) found
  case range => exact congrArg (Except.map fun map => (map.start, map.stop)) found
  case attributesOf =>
    have counted : map.label.id.toNat = index := bounded.toNat_id here
    rw [attributesOf, counted, here]
    rfl
  case holder =>
    intro address low high
    rw [consistent.mapContaining?_eq_some_iff.mpr ⟨member, MemoryMap.contains_iff.mpr ⟨low, high⟩⟩]
    rfl

section

variable {μ : Type} [PhysicalMemory μ]

theorem distinct_afterAll (memory : μ) (requests : List Request) :
    Distinct (afterAll requests (empty, memory)).1.labels :=
  (afterAll_changes requests (empty, memory)).distinct ⟨nofun, List.Pairwise.nil⟩

/-- **Whatever is requested of an empty page, its maps can be told apart**, each of its addresses
is held by one map, and each question about a map is answered with that map, then and after
all further requests. -/
theorem maps_told_apart (memory : μ) (requests later : List Request) :
    let page := (afterAll requests (empty, memory)).1
    let afterwards := (afterAll (requests ++ later) (empty, memory)).1
    page.MapsApart ∧
    (∀ address map, page.mapContaining? address = some map ↔
      map ∈ page.maps ∧ map.contains address) ∧
    ∀ (index : Nat) (map : MemoryMap), page.maps[index]? = some map →
      page.AnswersFor map.label ∧ afterwards.AnswersFor map.label ∧
        afterwards.maps[index]?.map MemoryMap.label = some map.label := by
  intro page afterwards
  have consistent := consistent_afterAll memory requests
  have bounded := bounded_afterAll memory requests
  refine ⟨mapsApart_of consistent bounded (distinct_afterAll memory requests),
    fun address map => consistent.mapContaining?_eq_some_iff, fun index map listed => ?_⟩
  have changes : Changes page afterwards := by
    show Changes page (afterAll (requests ++ later) (empty, memory)).1
    rw [afterAll_append]
    exact afterAll_changes later _
  obtain ⟨other, there, same⟩ := changes.map_stays listed
  refine ⟨consistent.answersFor bounded listed, ?_, ?_⟩
  · rw [← same]
    exact (consistent_afterAll memory _).answersFor (bounded_afterAll memory _) there
  · rw [there, Option.map_some, same]

end

/-- A longer name and a range that reaches into another map are refused; a shorter name joins,
and its map answers for it whatever then happens to the map before it. -/
theorem maps_told_apart_shorter :
    ∃ requests later page afterwards map,
      requests = [.addMap "ram" ⟨0x1000⟩ ⟨0x5000⟩ default,
        .addMap "ramdisk" ⟨0x8000⟩ ⟨0x9000⟩ default, .addMap "rom" ⟨0x4fff⟩ ⟨0x6000⟩ default,
        .addMap "ra" ⟨0x5000⟩ ⟨0x6000⟩ default] ∧
      later = [.reserve ⟨0x4000⟩ 0x2000, .write "ram" [1, 2], .addMap "r" ⟨0⟩ ⟨0x1000⟩ default] ∧
      page = (afterAll requests (empty, IdentityMemory.zeros)).1 ∧
      page.maps.map MemoryMap.name = ["ram", "ra"] ∧
      page.MapsApart ∧
      page.maps[1]? = some map ∧
      afterwards = (afterAll (requests ++ later) (empty, IdentityMemory.zeros)).1 ∧
      afterwards.maps.map MemoryMap.name = ["ram", "ra", "r"] ∧
      afterwards.AnswersFor map.label := by
  refine ⟨_, _, _, _, ⟨"ra", 1, ⟨0x5000⟩, ⟨0x6000⟩, default, ⟨0x5000⟩, []⟩, rfl, rfl, rfl,
    by decide +kernel, (maps_told_apart IdentityMemory.zeros _ []).1, ?_, rfl, by decide +kernel,
    ((maps_told_apart IdentityMemory.zeros _ _).2.2 1 _ ?_).2.1⟩
  all_goals decide +kernel

end Bootloader.SystemPage
