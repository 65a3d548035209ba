import Bootloader.Proofs.Act.Safe
import Bootloader.Proofs.SystemPage.MapRegistry

/-!
# The tops of maps

A top is moved in many ways: over bytes that were copied, behind a reservation that was in the
way, to the next page, to a given address, and out of a reservation that was made later, which
may be the one of the page itself. In all of them it only rises, stays in its map, and does not
come to rest inside a reservation of the map (`Change.clear`). What is found free above it is
therefore counted without falling below zero, and a length that fits is added to it without
leaving the address space, wherever the map lies (`MemoryMap.TopInPlace`). So no request that
moves tops can crash (`perform_returns`); the only request that can is a save, which adds up
what it was told of the text of the kernel.
-/

set_option autoImplicit false

namespace Bootloader.SystemPage

open Act Reservation

/-! ## Leaving reservations -/

/-- No reservation starts below the top and ends above it. -/
def MemoryMap.Clear (map : MemoryMap) : Prop :=
  ∀ entry ∈ map.reserved, ¬ (entry.start < map.top ∧ map.top < entry.stop)

namespace MemoryMap

theorem clear_skipReserved (map : MemoryMap) : map.skipReserved.Clear := by
  rintro entry member ⟨below, above⟩
  refine not_covers_skip map.reserved map.top ⟨entry, member, ?_⟩
  exact Reservation.contains_iff.mpr ⟨Nat.le_of_lt below, above⟩

/-- Behind bytes for which no reservation was in the way there is none around the top. -/
theorem clear_of_collision?_eq_none {map : MemoryMap} {stop : Address} (reached : map.top ≤ stop)
    (free : map.collision? map.top stop = none) : { map with top := stop }.Clear := by
  rintro entry member ⟨below, above⟩
  refine List.find?_eq_none.mp free entry member (intersects_iff.mpr ⟨below, ?_⟩)
  exact Nat.lt_of_le_of_lt reached above

theorem Clear.absorb {map : MemoryMap} (clear : map.Clear) (entry : Reservation) :
    (map.absorb entry).Clear := by
  unfold MemoryMap.absorb
  dsimp only
  split
  · exact clear_skipReserved _
  · exact clear

theorem Clear.absorbAll {map : MemoryMap} (clear : map.Clear) (entries : List Reservation) :
    (entries.foldl MemoryMap.absorb map).Clear := by
  induction entries generalizing map with
  | nil => exact clear
  | cons entry rest ih => exact ih (clear.absorb entry)

end MemoryMap

theorem TopMove.clear {map : MemoryMap} {move : MemoryMap → MemoryMap} (moves : TopMove map move) :
    (move map).Clear := by
  cases moves with
  | fill length stop fits reached free =>
      refine MemoryMap.clear_of_collision?_eq_none ?_ free
      exact Nat.le_trans (Nat.le_add_right _ length)
        (Nat.le_of_eq (Address.advance?_eq_some_iff.mp reached).symm)
  | pass | align | raise => exact MemoryMap.clear_skipReserved _

variable {page after : SystemPage}

/-- No change leaves a top inside a reservation of its map. -/
theorem Change.clear (change : Change page after) (consistent : page.Consistent)
    (clear : ∀ map ∈ page.maps, map.Clear) : ∀ map ∈ after.maps, map.Clear := by
  cases change with
  | map name start stop attributes pending named filled fresh free room =>
      have empty : (MemoryMap.fresh name (UInt8.ofNat page.maps.length) start stop
        attributes).Clear := nofun
      exact List.forall_mem_append.mpr
        ⟨clear, List.forall_mem_singleton.mpr (empty.absorbAll page.reservations)⟩
  | reservation start stop size pending filled reached room =>
      exact List.forall_mem_map.mpr fun map member => (clear map member).absorb _
  | top name map move pending found moves =>
      refine List.forall_mem_map.mpr fun other member => ?_
      split
      case isTrue same =>
        have there := consistent.map?_eq member
        rw [same, found] at there
        exact Option.some.inj there ▸ moves.clear
      case isFalse => exact clear other member
  | program | partition | window | address | kernel | sealed => exact clear

theorem Changes.clear (changes : Changes page after) (consistent : page.Consistent)
    (clear : ∀ map ∈ page.maps, map.Clear) : ∀ map ∈ after.maps, map.Clear := by
  induction changes with
  | refl => exact clear
  | tail earlier change ih => exact change.clear (Changes.keeps earlier consistent).1 ih

/-! ## Tops in their places -/

/-- The top of a map lies in its range, and around it there is no reservation. The number of
free bytes is what lies above it; and every length that is free leads to an address of the
map, or to its end. -/
structure MemoryMap.TopInPlace (map : MemoryMap) : Prop where
  low : map.start ≤ map.top
  high : map.top ≤ map.stop
  clear : ∀ entry ∈ map.reserved, ¬ (entry.start < map.top ∧ map.top < entry.stop)
  free : (map.stop.distance? map.top).map UInt64.toNat = some map.freeSize
  reach : ∀ length ≤ map.freeSize, ∃ stop, map.top.advance? length = some stop ∧
    map.top ≤ stop ∧ stop ≤ map.stop

/-- What is free above a top that lies below the end fits above it. -/
theorem MemoryMap.advance?_of_le_freeSize {map : MemoryMap} (below : map.top ≤ map.stop)
    {length : Nat} (fits : length ≤ map.freeSize) :
    ∃ stop, map.top.advance? length = some stop ∧ map.top ≤ stop ∧ stop ≤ map.stop := by
  have inside : map.top.toNat + length ≤ map.stop.toNat := by
    rw [Address.le_def] at below
    rw [freeSize] at fits
    omega
  have bounded : map.top.toNat + length < UInt64.size :=
    Nat.lt_of_le_of_lt inside map.stop.toNat_lt
  have reached : (Address.ofNat (map.top.toNat + length)).toNat = map.top.toNat + length :=
    Address.toNat_ofNat_of_lt bounded
  refine ⟨Address.ofNat (map.top.toNat + length), if_pos bounded, ?_, ?_⟩
  · rw [Address.le_def, reached]
    exact Nat.le_add_right _ _
  · rwa [Address.le_def, reached]

/-- The distance from the top to the end is not cut off at zero. -/
theorem MemoryMap.distance?_top {map : MemoryMap} (below : map.top ≤ map.stop) :
    (map.stop.distance? map.top).map UInt64.toNat = some map.freeSize := by
  rw [Address.distance?, if_pos below]
  exact congrArg some (UInt64.toNat_sub_of_le _ _ (UInt64.le_iff_toNat_le.mpr below))

theorem Consistent.topInPlace (consistent : page.Consistent) {map : MemoryMap}
    (member : map ∈ page.maps) (clear : map.Clear) : map.TopInPlace where
  low := (consistent.bounded map member).1
  high := (consistent.bounded map member).2
  clear := clear
  free := MemoryMap.distance?_top (consistent.bounded map member).2
  reach _ fits := MemoryMap.advance?_of_le_freeSize (consistent.bounded map member).2 fits

/-- A map stays at its place in the list, and its top does not fall. -/
theorem Changes.top_le (changes : Changes page after) (consistent : page.Consistent) {index : Nat}
    {map : MemoryMap} (listed : page.maps[index]? = some map) :
    ∃ later, after.maps[index]? = some later ∧ later.label = map.label ∧ map.top ≤ later.top := by
  obtain ⟨settled, grows⟩ := changes.keeps consistent
  obtain ⟨later, here, same⟩ := changes.map_stays listed
  refine ⟨later, here, same, ?_⟩
  -- The map that continues this one has its name, so it is the one at its place.
  obtain ⟨other, member, continues⟩ := grows.maps map (List.mem_of_getElem? listed)
  have found := settled.map?_eq (List.mem_of_getElem? here)
  have named : later.name = other.name := (congrArg MapLabel.name same).trans continues.name.symm
  rw [named, settled.map?_eq member] at found
  exact Option.some.inj found ▸ continues.top

/-! ## Requests that do not crash -/

theorem requireOpen_harmless : requireOpen.Harmless :=
  safe_read.bind fun _ => safe_require

theorem addMap_harmless {name : String} {start stop : Address} {attributes : Attributes} :
    (addMap name start stop attributes).Harmless := by
  refine harmless_of_ends fun ends => ?_
  rcases addMap_ends ends with ⟨⟨_, rfl⟩, _⟩ | ⟨rfl, _⟩
  all_goals nofun

theorem reserve_harmless {start : Address} {size : Nat} : (reserve start size).Harmless :=
  requireOpen_harmless.bind fun _ => safe_ofOption.bind fun _ => safe_read.bind fun _ =>
    safe_require.bind fun _ => safe_note.bind fun _ => update_harmless

theorem alignMapTop_harmless {name : String} : (alignMapTop name).Harmless :=
  requireOpen_harmless.bind fun _ => safe_read.bind fun _ => safe_ofExcept.bind fun _ =>
    update_harmless.bind fun _ => safe_pure

theorem advanceMapTop_harmless {name : String} {address : Address} :
    (advanceMapTop name address).Harmless :=
  requireOpen_harmless.bind fun _ => safe_read.bind fun _ => safe_ofExcept.bind fun _ =>
    safe_require.bind fun _ => update_harmless

theorem addProgram_harmless {start stop : Address} {instructionMaps dataMaps commandLine : String}
    {flags : ProgramFlags} :
    (addProgram start stop instructionMaps dataMaps commandLine flags).Harmless :=
  requireOpen_harmless.bind fun _ => safe_require.bind fun _ => safe_read.bind fun _ =>
    safe_ofExcept.bind fun _ => safe_ofExcept.bind fun _ => safe_require.bind fun _ =>
    safe_require.bind fun _ => safe_ofOption.bind fun _ => safe_note.bind fun _ => update_harmless

theorem addPartition_harmless {name allocation access : String} :
    (addPartition name allocation access).Harmless :=
  requireOpen_harmless.bind fun _ => safe_require.bind fun _ => safe_read.bind fun _ =>
    safe_require.bind fun _ => safe_require.bind fun _ => safe_ofExcept.bind fun _ =>
    safe_ofExcept.bind fun _ => safe_note.bind fun _ => update_harmless

theorem pushWindows_harmless (sizes : List UInt64) (start : UInt64) :
    (pushWindows start sizes).Harmless := by
  induction sizes generalizing start with
  | nil => exact safe_pure
  | cons size rest ih =>
      exact safe_ofOption.bind fun stop => update_harmless.bind fun _ => ih stop

theorem addWindows_harmless {sizes : String} : (addWindows sizes).Harmless :=
  requireOpen_harmless.bind fun _ => safe_ofOption.bind fun _ => safe_require.bind fun _ =>
    safe_read.bind fun _ => safe_require.bind fun _ => pushWindows_harmless _ _

theorem setAddress_harmless {address : Address} : (setAddress address).Harmless :=
  requireOpen_harmless.bind fun _ => update_harmless

section

variable {μ : Type} [PhysicalMemory μ]

/-- A copy to the top of a map does not crash where the maps are consistent. -/
theorem writeToMap_safe {name : String} {data : Bytes} :
    (writeToMap name data : StoreAct μ Address).Safe fun store => store.1.Consistent := by
  rintro ⟨page, memory⟩ outcome ⟨after, written⟩ consistent ends
  refine ⟨?_, ((writeToMap_registers ends).changes.keeps consistent).1⟩
  rintro rfl
  simp only [writeToMap, ends_onPage_requireOpen_bind, ends_read_bind, ends_ofExcept_bind,
    ends_require_bind, ends_orCrash_bind, reduceCtorEq, false_and, and_false, exists_false,
    or_false, findMap_ok_iff, decide_eq_true_eq, true_and] at ends
  obtain ⟨_, map, found, fits, ⟨stop, reached, ends⟩ | ⟨unreached, _⟩⟩ := ends
  · split at ends
    case h_1 => cases ends.1
    case h_2 =>
      rcases ends_store_bind.mp ends with ⟨_, _, done, _⟩ | ⟨_, _, failed, _⟩
      · cases done
      · cases failed
  · obtain ⟨stop, reached, _⟩ := MemoryMap.advance?_of_le_freeSize
      (consistent.bounded map (map?_mem found).1).2 fits
    cases unreached.symm.trans reached

/-- **No request crashes but a save**, which may if the text of the kernel was said to end beyond
the address space. -/
theorem perform_returns {request : Request} {store left : SystemPage × μ}
    {outcome : Outcome PageError (Option Address)} (consistent : store.1.Consistent)
    (other : request ≠ .save) (ends : request.perform.Ends store outcome left) :
    outcome ≠ .crashed := by
  have answered : ∀ {α : Type} {action : PageAct α} {answer : α → Option Address},
      action.Harmless →
        (onPage action >>= fun value => pure (answer value) : StoreAct μ _).Harmless :=
    fun harmless => harmless.zoom.bind fun _ => safe_pure
  cases request with
  | addMap => exact (answered addMap_harmless _ _ _ trivial ends).1
  | reserve => exact (answered reserve_harmless _ _ _ trivial ends).1
  | write => exact (writeToMap_safe.bind (fun _ => safe_pure) _ _ _ consistent ends).1
  | alignTop => exact (answered alignMapTop_harmless _ _ _ trivial ends).1
  | raiseTop => exact (answered advanceMapTop_harmless _ _ _ trivial ends).1
  | addProgram => exact (answered addProgram_harmless _ _ _ trivial ends).1
  | addPartition => exact (answered addPartition_harmless _ _ _ trivial ends).1
  | addWindows => exact (answered addWindows_harmless _ _ _ trivial ends).1
  | setAddress => exact (answered setAddress_harmless _ _ _ trivial ends).1
  | setKernel part =>
      exact (safe_read.bind (fun _ => answered update_harmless) _ _ _ trivial ends).1
  | save => exact absurd rfl other

end

end Bootloader.SystemPage
