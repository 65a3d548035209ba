import Bootloader.Proofs.SystemPage.Consistency
import Bootloader.Proofs.Text.Encoding

/-!
# The sizes of the registries

Every registry of the page has a capacity, and a request that would exceed it is refused
before anything is changed. So no page that is reached by requests has more maps, programs,
partitions, windows or reservations than there is room for, no list of map ids is longer than
its field, and every name fits its own (`Bounded`). A map keeps no more reservations than were
made, since what is joined or cut away only makes its list shorter.
-/

set_option autoImplicit false

namespace Bootloader.SystemPage

open Reservation

/-- Everything on the page has room in the tables that the kernel receives. -/
structure Bounded (page : SystemPage) : Prop where
  maps : page.maps.length ≤ Capacity.maps
  mapNames : ∀ map ∈ page.maps, FieldName map.name
  mapIds : ∀ (index : Nat) (map : MemoryMap), page.maps[index]? = some map →
    map.id = UInt8.ofNat index
  reserved : ∀ map ∈ page.maps, map.reserved.length ≤ page.reservations.length
  reservations : page.reservations.length ≤ Capacity.reservations
  programs : page.programs.length ≤ Capacity.programs
  programMaps : ∀ program ∈ page.programs, program.instructionMaps.length ≤ Capacity.programMaps ∧
    program.dataMaps.length ≤ Capacity.programMaps
  partitions : page.partitions.length ≤ Capacity.partitions
  partitionNames : ∀ partition ∈ page.partitions, FieldName partition.name
  partitionMaps : ∀ partition ∈ page.partitions, partition.allocation.length ≤ Capacity.maps ∧
    partition.access.length ≤ Capacity.maps
  windows : page.windows.length ≤ Capacity.windows
  arguments : page.arguments.length < Capacity.arguments

theorem bounded_empty : Bounded empty where
  maps := Nat.zero_le _
  mapNames _ member := by cases member
  mapIds _ _ found := by cases found
  reserved _ member := by cases member
  reservations := Nat.zero_le _
  programs := Nat.zero_le _
  programMaps _ member := by cases member
  partitions := Nat.zero_le _
  partitionNames _ member := by cases member
  partitionMaps _ member := by cases member
  windows := Nat.zero_le _
  arguments := by decide

/-! ## What a granted request adds -/

theorem length_insertSorted (entry : Reservation) (entries : List Reservation) :
    (entry.insertSorted entries).length = entries.length + 1 := by
  induction entries with
  | nil => rfl
  | cons other rest ih =>
      rw [insertSorted]
      split
      · rfl
      · rw [List.length_cons, ih, List.length_cons]

/-- A map that takes a reservation over has one entry more at most. -/
theorem length_absorb_le (map : MemoryMap) (entry : Reservation) :
    (map.absorb entry).reserved.length ≤ map.reserved.length + 1 := by
  by_cases filled : (map.clip entry).Filled
  · rw [MemoryMap.absorb_reserved filled, length_insertSorted]
    exact Nat.succ_le_succ (join_sublist _ _).length_le
  · rw [MemoryMap.absorb_of_clip_empty filled]
    exact Nat.le_succ _

theorem length_absorbAll_le (map : MemoryMap) (entries : List Reservation) :
    (entries.foldl MemoryMap.absorb map).reserved.length ≤
      map.reserved.length + entries.length := by
  induction entries generalizing map with
  | nil => exact Nat.le_refl _
  | cons entry rest ih =>
      have first := length_absorb_le map entry
      have others := ih (map.absorb entry)
      rw [List.foldl_cons, List.length_cons]
      omega

theorem absorbAll_name_id (map : MemoryMap) (entries : List Reservation) :
    (entries.foldl MemoryMap.absorb map).name = map.name ∧
      (entries.foldl MemoryMap.absorb map).id = map.id := by
  induction entries generalizing map with
  | nil => exact ⟨rfl, rfl⟩
  | cons entry rest ih =>
      obtain ⟨name, id, _⟩ := MemoryMap.absorb_range map entry
      obtain ⟨names, ids⟩ := ih (map.absorb entry)
      exact ⟨names.trans name, ids.trans id⟩

/-- The names of a list are looked up one by one. -/
theorem resolveNames_cons {page : SystemPage} {limit : Nat} {name : String} {rest : List String}
    {ids : List UInt8} (found : page.resolveNames limit (name :: rest) = .ok ids) :
    ∃ left id others, limit = left + 1 ∧ page.mapId name = .ok id ∧
      page.resolveNames left rest = .ok others ∧ ids = id :: others := by
  cases limit with
  | zero => cases found
  | succ left =>
      cases first : page.mapId name with
      | error error =>
          rw [resolveNames, first] at found
          cases found
      | ok id =>
          cases more : page.resolveNames left rest with
          | error error =>
              rw [resolveNames, first, more] at found
              cases found
          | ok others =>
              rw [resolveNames, first, more] at found
              exact ⟨left, id, others, rfl, rfl, more, (Except.ok.inj found).symm⟩

/-- No more ids are found than were asked for at most. -/
theorem resolveNames_length {page : SystemPage} {limit : Nat} {names : List String}
    {ids : List UInt8} (found : page.resolveNames limit names = .ok ids) : ids.length ≤ limit := by
  induction names generalizing limit ids with
  | nil =>
      rw [resolveNames] at found
      cases found
      exact Nat.zero_le _
  | cons name rest ih =>
      obtain ⟨left, id, others, rfl, _, more, rfl⟩ := resolveNames_cons found
      exact Nat.succ_le_succ (ih more)

theorem appendArguments?_length {arguments extended : Bytes} {commandLine : String}
    (fits : appendArguments? arguments commandLine = some extended) :
    extended.length < Capacity.arguments := by
  unfold appendArguments? at fits
  dsimp only at fits
  generalize (if arguments.isEmpty then [argumentsMark] else arguments) = start at fits
  split at fits
  case isTrue room =>
    cases fits
    simp only [List.length_append, List.length_singleton, Text.length_encode]
    exact room
  case isFalse => cases fits

section

variable {page after : SystemPage}

/-- A map is added behind the others, under the next id. -/
theorem Bounded.addMap (bounded : page.Bounded) {map : MemoryMap} (named : FieldName map.name)
    (numbered : map.id = UInt8.ofNat page.maps.length)
    (reserved : map.reserved.length ≤ page.reservations.length)
    (room : page.maps.length < Capacity.maps) :
    Bounded { page with maps := page.maps ++ [map] } := by
  refine { bounded with maps := ?maps, mapNames := ?names, mapIds := ?ids, reserved := ?reserved }
  case maps =>
    rw [List.length_append]
    exact room
  case names =>
    exact List.forall_mem_append.mpr ⟨bounded.mapNames, List.forall_mem_singleton.mpr named⟩
  case ids =>
    intro index other found
    by_cases old : index < page.maps.length
    · rw [List.getElem?_append_left old] at found
      exact bounded.mapIds index other found
    · rw [List.getElem?_append_right (Nat.not_lt.mp old), List.getElem?_singleton] at found
      split at found
      case isTrue here =>
        cases found
        obtain rfl : index = page.maps.length := by omega
        exact numbered
      case isFalse => cases found
  case reserved =>
    exact List.forall_mem_append.mpr ⟨bounded.reserved, List.forall_mem_singleton.mpr reserved⟩

/-- The maps keep their names and ids, and no map has more reservations than the page. -/
theorem Bounded.changeMaps (bounded : page.Bounded) {change : MemoryMap → MemoryMap}
    {reservations : List Reservation} (names : ∀ map, (change map).name = map.name)
    (ids : ∀ map, (change map).id = map.id)
    (reserved : ∀ map ∈ page.maps, (change map).reserved.length ≤ reservations.length)
    (room : reservations.length ≤ Capacity.reservations) :
    Bounded { page with maps := page.maps.map change, reservations } := by
  refine { bounded with
    maps := ?maps, mapNames := ?names, mapIds := ?ids, reserved := ?reserved, reservations := room }
  case maps =>
    rw [List.length_map]
    exact bounded.maps
  case names =>
    intro other member
    obtain ⟨map, there, rfl⟩ := List.mem_map.mp member
    rw [names]
    exact bounded.mapNames map there
  case ids =>
    intro index other found
    rw [List.getElem?_map] at found
    obtain ⟨map, there, rfl⟩ := Option.map_eq_some_iff.mp found
    rw [ids]
    exact bounded.mapIds index map there
  case reserved =>
    intro other member
    obtain ⟨map, there, rfl⟩ := List.mem_map.mp member
    exact reserved map there

/-- **Every change keeps within the capacities.** -/
theorem Change.bounded (change : Change page after) (bounded : page.Bounded) : after.Bounded := by
  cases change with
  | map name start stop attributes pending named filled fresh free room =>
      let map := MemoryMap.fresh name (UInt8.ofNat page.maps.length) start stop attributes
      obtain ⟨name_eq, id_eq⟩ := absorbAll_name_id map page.reservations
      refine bounded.addMap (name_eq ▸ named) id_eq ?_ room
      refine Nat.le_trans (length_absorbAll_le map page.reservations) ?_
      exact Nat.le_of_eq (Nat.zero_add _)
  | reservation start stop size pending filled reached room =>
      have length : (page.reservations ++ [(⟨start, stop⟩ : Reservation)]).length =
          page.reservations.length + 1 := List.length_append
      refine bounded.changeMaps (fun map => (MemoryMap.absorb_range map _).1)
        (fun map => (MemoryMap.absorb_range map _).2.1) ?_ (length ▸ room)
      intro map there
      rw [length]
      exact Nat.le_trans (length_absorb_le map _) (Nat.succ_le_succ (bounded.reserved map there))
  | top name map move pending found moves =>
      have each : ∀ other : MemoryMap, ∃ top,
          (if other.name = name then move other else other) = { other with top } := by
        intro other
        split
        · exact moves.eq_with_top other
        · exact ⟨other.top, rfl⟩
      refine bounded.changeMaps (fun other => ?_) (fun other => ?_) (fun other there => ?_)
        bounded.reservations
      all_goals
        obtain ⟨top, same⟩ := each other
        rw [same]
      exact bounded.reserved other there
  | program start stop instructionMaps dataMaps commandLine flags instructionIds dataIds arguments
      pending ordered instructions data some room extended =>
      refine { bounded with
        programs := ?programs, programMaps := ?maps,
        arguments := appendArguments?_length extended }
      case programs =>
        rw [List.length_append]
        exact room
      case maps =>
        have added := And.intro (resolveNames_length instructions) (resolveNames_length data)
        exact List.forall_mem_append.mpr
          ⟨bounded.programMaps, List.forall_mem_singleton.mpr added⟩
  | partition name allocation access allocationIds accessIds pending named fresh room allocated
      accessed =>
      refine { bounded with
        partitions := ?partitions, partitionNames := ?names, partitionMaps := ?maps }
      case partitions =>
        rw [List.length_append]
        exact room
      case names =>
        exact List.forall_mem_append.mpr
          ⟨bounded.partitionNames, List.forall_mem_singleton.mpr named⟩
      case maps =>
        have added := And.intro (resolveNames_length allocated) (resolveNames_length accessed)
        exact List.forall_mem_append.mpr
          ⟨bounded.partitionMaps, List.forall_mem_singleton.mpr added⟩
  | window size stop pending filled reached room =>
      refine { bounded with windows := ?_ }
      rw [List.length_append]
      exact room
  | address | kernel | sealed => exact { bounded with }

end

theorem Changes.bounded {page after : SystemPage} (changes : Changes page after)
    (bounded : page.Bounded) : after.Bounded := by
  induction changes with
  | refl => exact bounded
  | tail _ change ih => exact change.bounded ih

theorem bounded_afterAll {μ : Type} [PhysicalMemory μ] (memory : μ) (requests : List Request) :
    (afterAll requests (empty, memory)).1.Bounded :=
  (afterAll_changes requests (empty, memory)).bounded bounded_empty

end Bootloader.SystemPage
