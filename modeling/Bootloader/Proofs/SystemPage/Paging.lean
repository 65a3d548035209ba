import Bootloader.Proofs.SystemPage.Consistency

/-!
# Where images begin

Before an image is copied to a map, the top is rounded up to a page, and then leaves the
reservation that it meets there, if there is one. It is not rounded again. So an image begins at
the start of a page, or right behind a reservation that covers the start of a page, wherever that
reservation ends (`MemoryMap.ImageStart`).
-/

set_option autoImplicit false

namespace Bootloader

/-- The address is the first one of a page. -/
def Address.StartsPage (address : Address) : Prop :=
  address.toNat % Capacity.pageAlignment.size = 0

instance (address : Address) : Decidable address.StartsPage :=
  inferInstanceAs (Decidable (_ = _))

namespace SystemPage.MemoryMap

open Reservation

/-- An image may begin at the start of a page, or behind a reservation that covers the start of
a page. -/
inductive ImageStart (map : MemoryMap) : Address → Prop where
  | page {start : Address} (aligned : start.StartsPage) : ImageStart map start
  | behind {entry : Reservation} {boundary : Address} (listed : entry ∈ map.reserved)
      (aligned : boundary.StartsPage) (covered : entry.contains boundary) :
      ImageStart map entry.stop

variable {map : MemoryMap} {reservations : List Reservation} {start : Address}

/-- Only the list of the map counts. -/
theorem ImageStart.congr (begins : map.ImageStart start) {other : MemoryMap}
    (reserved : other.reserved = map.reserved) : other.ImageStart start := by
  cases begins with
  | page aligned => exact .page aligned
  | behind listed aligned covered => exact .behind (reserved ▸ listed) aligned covered

/-- Where reservations end with pages, images begin with pages. -/
theorem ImageStart.startsPage (begins : map.ImageStart start)
    (paged : ∀ entry ∈ map.reserved, entry.stop.StartsPage) : start.StartsPage := by
  cases begins with
  | page aligned => exact aligned
  | behind listed => exact paged _ listed

theorem alignTop_top (map : MemoryMap) : map.alignTop.top =
    skip map.reserved (min ((map.top.alignUp? Capacity.pageAlignment).getD map.stop) map.stop) :=
  rfl

/-- **The top that is rounded up is a place where an image may begin**, unless the map is full. -/
theorem Reflects.imageStart_alignTop (reflects : map.Reflects reservations)
    (room : map.alignTop.top < map.stop) : map.ImageStart map.alignTop.top := by
  rw [alignTop_top] at room ⊢
  have reached := Nat.lt_of_le_of_lt (le_skip map.reserved _) room
  -- The next page starts before the end of the map: otherwise the top would have gone there.
  obtain ⟨boundary, rounded, low⟩ : ∃ boundary,
      map.top.alignUp? Capacity.pageAlignment = some boundary ∧
        min boundary map.stop = boundary := by
    cases rounded : map.top.alignUp? Capacity.pageAlignment with
    | none =>
        rw [rounded, Address.toNat_min, Option.getD_none] at reached
        omega
    | some boundary =>
        rw [rounded, Address.toNat_min, Option.getD_some] at reached
        refine ⟨boundary, rfl, Address.toNat_inj.mp ?_⟩
        rw [Address.toNat_min]
        omega
  have aligned : boundary.StartsPage := Address.alignUp_aligned rounded
  rw [rounded, Option.getD_some, low]
  by_cases covered : Covers map.reserved boundary
  · obtain ⟨entry, listed, inside⟩ := covered
    rw [skip_of_contains reflects.separated reflects.filled listed inside]
    exact .behind listed aligned inside
  · rw [skip_of_not_covers covered]
    exact .page aligned

end SystemPage.MemoryMap

end Bootloader
