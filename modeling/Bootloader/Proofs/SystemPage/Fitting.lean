import Bootloader.Proofs.SystemPage.Consistency

/-!
# Where bytes and images would fit

Bytes are put above the top of a map, where no reservation is (`Vacant`), and an image moreover
at the start of a page (`Fits`). The moves that a copy makes on its way never carry the top
past such a place: rounding up stops at the first page, and a reservation that is left was in
the way of everything before its end. Each reservation that is left lies behind the top for
good, so the number of those that still end above it is a bound on how often that happens
(`ahead`).
-/

set_option autoImplicit false

namespace Bootloader.SystemPage

open Reservation

/-- A place for bytes in a map: no lower than the top, with room for them before the end of
the map, and free of reservations. -/
structure Vacant (reservations : List Reservation) (map : MemoryMap) (size : Nat)
    (place : Address) : Prop where
  above : map.top ≤ place
  inside : place.toNat + size ≤ map.stop.toNat
  free : ∀ address, place ≤ address → address.toNat < place.toNat + size →
    ¬ Covers reservations address

/-- A place for an image in a map: the start of a page, no lower than the top, with room for
the image before the end of the map, and free of reservations. -/
structure Fits (reservations : List Reservation) (map : MemoryMap) (size : Nat)
    (place : Address) : Prop where
  aligned : place.toNat % Capacity.pageAlignment.size = 0
  above : map.top ≤ place
  inside : place.toNat + size ≤ map.stop.toNat
  free : ∀ address, place ≤ address → address.toNat < place.toNat + size →
    ¬ Covers reservations address

variable {reservations : List Reservation} {map later : MemoryMap} {size : Nat} {place : Address}

/-! ## Places for bytes -/

/-- Only the list of the map counts, wherever the maps are consistent. -/
theorem vacant_reserved_iff {page : SystemPage} {name : String} (consistent : page.Consistent)
    (found : page.map? name = some map) :
    Vacant map.reserved map size place ↔ Vacant page.reservations map size place := by
  obtain ⟨member, _⟩ := map?_mem found
  have bounded := (consistent.bounded map member).1
  have same : map.top ≤ place → place.toNat + size ≤ map.stop.toNat →
      ∀ address, place ≤ address → address.toNat < place.toNat + size →
        (Covers map.reserved address ↔ Covers page.reservations address) := by
    intro start room address low high
    refine (consistent.reflected map member).covers address (MemoryMap.contains_iff.mpr ?_)
    simp only [Address.le_def, Address.lt_def] at *
    omega
  constructor
  · rintro ⟨start, room, free⟩
    refine ⟨start, room, fun address low high => ?_⟩
    exact mt (same start room address low high).mpr (free address low high)
  · rintro ⟨start, room, free⟩
    refine ⟨start, room, fun address low high => ?_⟩
    exact mt (same start room address low high).mp (free address low high)

/-- A place stays one as long as the top does not pass it. -/
theorem Vacant.of_top_le (vacant : Vacant map.reserved map size place)
    (reserved : later.reserved = map.reserved) (stop : later.stop = map.stop)
    (top : later.top ≤ place) : Vacant later.reserved later size place where
  above := top
  inside := stop ▸ vacant.inside
  free := reserved ▸ vacant.free

theorem Vacant.not_covers (vacant : Vacant map.reserved map size place) (nonempty : size ≠ 0) :
    ¬ Covers map.reserved place :=
  vacant.free place (Nat.le_refl _) (by omega)

/-- Whatever begins in the bytes at the top lies before every place for them. -/
theorem Vacant.stop_le (vacant : Vacant map.reserved map size place) (nonempty : size ≠ 0)
    {entry : Reservation} (listed : entry ∈ map.reserved) (filled : entry.Filled)
    (begins : entry.start.toNat < map.top.toNat + size) : entry.stop ≤ place := by
  rw [Address.le_def]
  refine Nat.le_of_not_lt fun inside => ?_
  -- Otherwise the reservation and the bytes at that place have an address in common.
  have number := Address.toNat_max place entry.start
  have above := vacant.above
  refine vacant.free (max place entry.start) ?_ ?_ ⟨entry, listed, contains_iff.mpr ⟨?_, ?_⟩⟩
  all_goals
    simp only [Filled, Address.le_def, Address.lt_def] at *
    omega

/-- Leaving a reservation that is in the way does not lead past a place for the bytes. -/
theorem Vacant.passReservation (vacant : Vacant map.reserved map size place) (nonempty : size ≠ 0)
    {entry : Reservation} (listed : entry ∈ map.reserved) (filled : entry.Filled)
    (begins : entry.start.toNat < map.top.toNat + size) :
    Vacant (map.passReservation entry).reserved (map.passReservation entry) size place := by
  refine vacant.of_top_le rfl rfl (skip_le_of_not_covers (vacant.not_covers nonempty) ?_)
  rw [Address.le_def, Address.toNat_min]
  exact Nat.le_trans (Nat.min_le_left _ _) (vacant.stop_le nonempty listed filled begins)

/-! ## Places for images -/

/-- A place for an image is a place for its bytes at the start of a page. -/
theorem fits_iff : Fits reservations map size place ↔
    place.toNat % Capacity.pageAlignment.size = 0 ∧ Vacant reservations map size place :=
  ⟨fun fits => ⟨fits.aligned, fits.above, fits.inside, fits.free⟩,
    fun ⟨aligned, above, inside, free⟩ => ⟨aligned, above, inside, free⟩⟩

/-- Only the list of the map counts, wherever the maps are consistent. -/
theorem Fits.reserved {page : SystemPage} {name : String}
    (fits : Fits page.reservations map size place) (consistent : page.Consistent)
    (found : page.map? name = some map) : Fits map.reserved map size place :=
  fits_iff.mpr ⟨fits.aligned, (vacant_reserved_iff consistent found).mpr (fits_iff.mp fits).2⟩

/-- Rounding the top up does not lead past a place for an image. -/
theorem Fits.alignTop (fits : Fits map.reserved map size place) (nonempty : size ≠ 0) :
    Fits map.alignTop.reserved map.alignTop size place := by
  obtain ⟨aligned, vacant⟩ := fits_iff.mp fits
  refine fits_iff.mpr ⟨aligned, vacant.of_top_le rfl rfl
    (skip_le_of_not_covers (vacant.not_covers nonempty) ?_)⟩
  obtain ⟨lowest, rounded, below⟩ := Address.alignUp_le fits.above fits.aligned
  rw [rounded, Option.getD_some, Address.le_def, Address.toNat_min]
  exact Nat.le_trans (Nat.min_le_left _ _) below

/-- Leaving a reservation that is in the way of an image does not lead past a place for it. -/
theorem Fits.passReservation (fits : Fits map.reserved map size place) (nonempty : size ≠ 0)
    {entry : Reservation} (listed : entry ∈ map.reserved) (filled : entry.Filled)
    (begins : entry.start.toNat < map.top.toNat + size) :
    Fits (map.passReservation entry).reserved (map.passReservation entry) size place := by
  obtain ⟨aligned, vacant⟩ := fits_iff.mp fits
  exact fits_iff.mpr ⟨aligned, vacant.passReservation nonempty listed filled begins⟩

/-! ## Reservations ahead -/

namespace MemoryMap

/-- How many reservations of the map end above its top. -/
def ahead (map : MemoryMap) : Nat :=
  map.reserved.countP fun entry => map.top < entry.stop

theorem ahead_le (map : MemoryMap) : map.ahead ≤ map.reserved.length :=
  List.countP_le_length

/-- Behind a reservation that was ahead, there is one less ahead. -/
theorem ahead_lt (reserved : later.reserved = map.reserved) (raised : map.top ≤ later.top)
    {entry : Reservation} (listed : entry ∈ map.reserved) (before : map.top < entry.stop)
    (behind : entry.stop ≤ later.top) : later.ahead < map.ahead := by
  have fewer : ∀ entries : List Reservation,
      (entries.countP fun entry => later.top < entry.stop) ≤
        entries.countP fun entry => map.top < entry.stop := by
    intro entries
    refine List.countP_mono_left fun other _ beyond => ?_
    rw [decide_eq_true_eq] at beyond ⊢
    exact Nat.lt_of_le_of_lt raised beyond
  obtain ⟨first, rest, split⟩ := List.append_of_mem listed
  have left : ¬ later.top < entry.stop := Nat.not_lt.mpr behind
  have here := fewer first
  have there := fewer rest
  rw [ahead, ahead, reserved, split, List.countP_append, List.countP_append,
    List.countP_cons_of_neg (by simpa using left), List.countP_cons_of_pos (by simpa using before)]
  omega

end MemoryMap

end Bootloader.SystemPage
