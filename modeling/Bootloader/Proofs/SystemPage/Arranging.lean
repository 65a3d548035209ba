import Bootloader.Proofs.SystemPage.MapRegistry

/-!
# Maps and reservations in any order

A page is arranged by requests that add maps and make reservations. As long as nothing else is
requested, nothing lies in a map, and its top is the first address of the map that is not
reserved (`MemoryMap.Unused`): each reservation that covers the top moves it on, and a map
that is added late starts behind all those that cover its start.

So both the list of a map and its top are determined by the range of the map and by the
addresses that are reserved at all. Granted requests say which these are, whatever their order
(`Arranged`). In another order they give every name the same map, up to its id, which counts the
maps as they come; and what is reserved already may be reserved again without any effect on a
map (`arranged_in_any_order`).
-/

set_option autoImplicit false

namespace Bootloader.SystemPage

open Act Reservation

/-! ## Unused maps -/

/-- Nothing was copied to the map: its top is the first address that is not reserved. -/
structure MemoryMap.Unused (map : MemoryMap) : Prop where
  low : map.start ≤ map.top
  behind : ∀ place, map.start ≤ place → place < map.top → Covers map.reserved place
  free : ¬ Covers map.reserved map.top

namespace MemoryMap

theorem unused_fresh (name : String) (id : UInt8) (start stop : Address)
    (attributes : Attributes) : (fresh name id start stop attributes).Unused where
  low := Nat.le_refl _
  behind _ low high := absurd high (Nat.not_lt.mpr low)
  free := not_covers_nil _

variable {map : MemoryMap} {reservations : List Reservation}

/-- The top leaves a reservation at the next address that is not reserved. -/
theorem Unused.absorb (unused : map.Unused) (reflects : map.Reflects reservations)
    (entry : Reservation) : (map.absorb entry).Unused := by
  by_cases filled : (map.clip entry).Filled
  · have top := absorb_top filled
    have after := reflects.absorb entry
    obtain ⟨_, _, start, stop, _⟩ := absorb_range map entry
    have kept : ∀ place, Covers map.reserved place → Covers (map.absorb entry).reserved place := by
      intro place covered
      obtain ⟨inside, reserved⟩ := reflects.covers_iff.mp covered
      rw [after.covers_iff, contains_iff, start, stop, ← contains_iff, covers_append]
      exact ⟨inside, .inl reserved⟩
    refine ⟨?low, ?behind, ?free⟩
    case low =>
      rw [start, top]
      exact Nat.le_trans unused.low (le_skip _ _)
    case behind =>
      intro place low high
      rw [start] at low
      rw [top] at high
      by_cases passed : place < map.top
      · exact kept place (unused.behind place low passed)
      · -- The top moves past no address that is not reserved.
        refine Classical.byContradiction fun free => ?_
        exact absurd high (Nat.not_lt.mpr (skip_le_of_not_covers free (Nat.le_of_not_lt passed)))
    case free =>
      rw [top]
      exact not_covers_skip _ _
  · rwa [absorb_of_clip_empty filled]

theorem Unused.absorbAll (unused : map.Unused) (reflects : map.Reflects reservations)
    (entries : List Reservation) : (entries.foldl MemoryMap.absorb map).Unused := by
  induction entries generalizing map reservations with
  | nil => exact unused
  | cons entry rest ih => exact ih (unused.absorb reflects entry) (reflects.absorb entry)

/-- Where the same addresses are reserved, the top of one map is no higher than that of the
other. -/
theorem Unused.top_le (unused : map.Unused) {other : MemoryMap} (vacant : other.Unused)
    (start : other.start = map.start) (reserved : other.reserved = map.reserved) :
    map.top ≤ other.top := by
  refine Nat.le_of_not_lt fun below => vacant.free ?_
  rw [reserved]
  exact unused.behind other.top (start ▸ vacant.low) below

end MemoryMap

/-! ## Requests that arrange a page -/

/-- The request adds a map or makes a reservation. -/
def Request.arranges : Request → Bool
  | .addMap .. | .reserve .. => true
  | _ => false

/-- The range that a request reserves. -/
def Request.reservation? : Request → Option Reservation
  | .reserve start size => (start.advance? size.toNat).map fun stop => ⟨start, stop⟩
  | _ => none

/-- What a request says about the map that it adds, with no id yet. -/
def Request.mapLabel? : Request → Option MapLabel
  | .addMap name start stop attributes => some ⟨name, 0, start, stop, attributes⟩
  | _ => none

/-- The request of a visit was granted. -/
def Visit.isGranted {μ : Type} (visit : Visit μ) : Bool :=
  match visit.outcome with
  | .done _ => true
  | _ => false

theorem Visit.isGranted_iff {μ : Type} {visit : Visit μ} :
    visit.isGranted ↔ ∃ answer, visit.outcome = .done answer := by
  unfold Visit.isGranted
  cases visit.outcome <;> simp

/-- A map without its id, which counts the maps as they come. -/
def MemoryMap.unnumbered (map : MemoryMap) : MemoryMap :=
  { map with id := 0 }

/-- A map is what is said about it, its top and its reservations. -/
theorem MemoryMap.eq_of_label {map other : MemoryMap} (label : other.label = map.label)
    (top : other.top = map.top) (reserved : other.reserved = map.reserved) : other = map := by
  obtain ⟨_, _, _, _, _, _, _⟩ := map
  obtain ⟨_, _, _, _, _, _, _⟩ := other
  cases label
  cases top
  cases reserved
  rfl

theorem MemoryMap.label_unnumbered (map : MemoryMap) :
    map.unnumbered.label = { map.label with id := 0 } :=
  rfl

/-- The page holds what the requests ask for, and nothing lies in its maps. -/
structure Arranged (requests : List Request) (page : SystemPage) : Prop where
  consistent : page.Consistent
  reservations : page.reservations = requests.filterMap Request.reservation?
  labels : page.maps.map (fun map => map.unnumbered.label) = requests.filterMap Request.mapLabel?
  unused : ∀ map ∈ page.maps, map.Unused

theorem arranged_empty : Arranged [] empty :=
  ⟨consistent_empty, rfl, rfl, nofun⟩

section

variable {μ : Type} [PhysicalMemory μ] {requests : List Request} {request : Request}

theorem Arranged.visit {store : SystemPage × μ} (arranged : Arranged requests store.1)
    (arranges : request.arranges) (granted : (request.visit store).isGranted) :
    Arranged (requests ++ [request]) (request.visit store).after.1 := by
  have consistent := ((visit_changes request store).keeps arranged.consistent).1
  have ends := visit_ends request store
  obtain ⟨answer, done⟩ := Visit.isGranted_iff.mp granted
  rw [done] at ends
  generalize (request.visit store).after = left at *
  cases request with
  | addMap name start stop attributes =>
      obtain ⟨_, here⟩ := onPage_granted ends
      rcases addMap_ends here with ⟨⟨_, failed⟩, _⟩ | ⟨_, _, _, _, _, _, _, same⟩
      · cases failed
      rw [same] at consistent ⊢
      refine ⟨consistent, ?reservations, ?labels, ?unused⟩
      case reservations =>
        rw [List.filterMap_append, ← arranged.reservations]
        exact (List.append_nil _).symm
      case labels =>
        rw [List.map_append, List.map_singleton, List.filterMap_append, ← arranged.labels,
          MemoryMap.label_unnumbered, label_absorbAll]
        rfl
      case unused =>
        refine List.forall_mem_append.mpr ⟨arranged.unused, List.forall_mem_singleton.mpr ?_⟩
        exact (MemoryMap.unused_fresh ..).absorbAll (MemoryMap.reflects_fresh ..) _
  | reserve start size =>
      obtain ⟨_, here⟩ := onPage_granted ends
      rcases reserve_ends here with ⟨⟨_, failed⟩, _⟩ | ⟨_, stop, _, _, reached, _, same⟩
      · cases failed
      rw [same] at consistent ⊢
      refine ⟨consistent, ?reservations, ?labels, ?unused⟩
      case reservations =>
        have asked : (Request.reserve start size).reservation? = some ⟨start, stop⟩ := by
          rw [Request.reservation?, reached, Option.map_some]
        rw [List.filterMap_append, ← arranged.reservations, List.filterMap_cons_some asked]
        rfl
      case labels =>
        rw [List.filterMap_append, ← arranged.labels, List.map_map]
        refine (List.map_congr_left fun map _ => ?_).trans (List.append_nil _).symm
        rw [Function.comp_apply, MemoryMap.label_unnumbered, label_absorb]
        rfl
      case unused =>
        refine List.forall_mem_map.mpr fun map member => ?_
        exact (arranged.unused map member).absorb (arranged.consistent.reflected map member) _
  | _ => cases arranges

/-- What granted requests arrange, one after the other. -/
theorem Arranged.afterAll {store : SystemPage × μ} {earlier : List Request}
    (arranged : Arranged earlier store.1) (arranges : ∀ request ∈ requests, request.arranges)
    (granted : ∀ visit ∈ history requests store, visit.isGranted) :
    Arranged (earlier ++ requests) (afterAll requests store).1 := by
  induction requests generalizing earlier store with
  | nil => rwa [List.append_nil]
  | cons request rest ih =>
      have first := arranged.visit (arranges request List.mem_cons_self)
        (granted _ List.mem_cons_self)
      have all := ih first (fun other member => arranges other (List.mem_cons_of_mem _ member))
        (fun visit member => granted visit (List.mem_cons_of_mem _ member))
      rwa [List.append_assoc] at all

theorem arranged_afterAll {memory : μ} (arranges : ∀ request ∈ requests, request.arranges)
    (granted : ∀ visit ∈ history requests (empty, memory), visit.isGranted) :
    Arranged requests (SystemPage.afterAll requests (empty, memory)).1 :=
  List.nil_append requests ▸ arranged_empty.afterAll arranges granted

end

/-! ## Another order -/

variable {page after : SystemPage} {requests others : List Request}

/-- What was reserved in one order is reserved in another. -/
theorem Arranged.covers_iff (arranged : Arranged requests page) (shuffled : Arranged others after)
    (order : requests.Perm others) (address : Address) :
    Covers page.reservations address ↔ Covers after.reservations address := by
  have same : page.reservations.Perm after.reservations := by
    rw [arranged.reservations, shuffled.reservations]
    exact order.filterMap _
  exact exists_congr fun entry => and_congr_left' same.mem_iff

/-- A map that is arranged in one order is arranged in another, up to its id. -/
theorem Arranged.map?_of_perm (arranged : Arranged requests page)
    (shuffled : Arranged others after) (order : requests.Perm others) {name : String}
    {map : MemoryMap} (found : page.map? name = some map) :
    (after.map? name).map MemoryMap.unnumbered = some map.unnumbered := by
  obtain ⟨member, named⟩ := map?_mem found
  have asked : map.unnumbered.label ∈ others.filterMap Request.mapLabel? := by
    rw [← (order.filterMap _).mem_iff, ← arranged.labels]
    exact List.mem_map_of_mem member
  rw [← shuffled.labels] at asked
  obtain ⟨other, there, same⟩ := List.mem_map.mp asked
  have called : other.name = map.name := congrArg MapLabel.name same
  have start : other.start = map.start := congrArg MapLabel.start same
  have stop : other.stop = map.stop := congrArg MapLabel.stop same
  have reserved : other.reserved = map.reserved :=
    (arranged.consistent.reflected map member).reserved_eq
      (shuffled.consistent.reflected other there) start stop
      fun address _ => arranged.covers_iff shuffled order address
  have unused := arranged.unused map member
  have vacant := shuffled.unused other there
  have top : other.top = map.top :=
    Address.toNat_inj.mp (Nat.le_antisymm (vacant.top_le unused start.symm reserved.symm)
      (unused.top_le vacant start reserved))
  have known : after.map? name = some other := by
    rw [← named, ← called]
    exact shuffled.consistent.map?_eq there
  rw [known, Option.map_some, MemoryMap.eq_of_label same top reserved]

/-- Reserving what is reserved already changes no map, granted or not. -/
theorem Arranged.reserve_covered (arranged : Arranged requests page) {start : Address} {size : Nat}
    (covered : ∀ address, start ≤ address → address.toNat < start.toNat + size →
      Covers page.reservations address)
    {outcome : Outcome PageError Unit} (ends : (reserve start size).Ends page outcome after) :
    after.maps = page.maps := by
  rcases reserve_ends ends with ⟨_, rfl⟩ | ⟨_, stop, _, _, reached, _, rfl⟩
  · rfl
  · refine (List.map_congr_left fun map member => ?_).trans (List.map_id _)
    refine (arranged.consistent.reflected map member).absorb_of_covered
      (fun address _ inside => ?_) (arranged.unused map member).free
    obtain ⟨low, high⟩ := Reservation.contains_iff.mp inside
    exact covered address low (Address.advance?_eq_some_iff.mp reached ▸ high)

section

variable {μ : Type} [PhysicalMemory μ]

/-- **The order in which maps are added and reservations are made does not matter**, as long as
all of them are granted: of every name the page holds the same map, with the same reservations
and the same top. Only the ids count the maps as they come. And a reservation of addresses that
are all reserved already has no effect on any map. -/
theorem arranged_in_any_order (memory : μ) (requests : List Request)
    (arranges : ∀ request ∈ requests, request.arranges)
    (granted : ∀ visit ∈ history requests (empty, memory), visit.isGranted) :
    let page := (afterAll requests (empty, memory)).1
    (∀ others : List Request, requests.Perm others →
      (∀ visit ∈ history others (empty, memory), visit.isGranted) →
      ∀ name, ((afterAll others (empty, memory)).1.map? name).map MemoryMap.unnumbered =
        (page.map? name).map MemoryMap.unnumbered) ∧
    ∀ (start : Address) (size : UInt64),
      (∀ address, start ≤ address → address.toNat < start.toNat + size.toNat →
        Covers page.reservations address) →
      ((Request.reserve start size).visit (afterAll requests (empty, memory))).after.1.maps =
        page.maps := by
  intro page
  have arranged : Arranged requests page := arranged_afterAll arranges granted
  refine ⟨?order, ?again⟩
  case order =>
    intro others order welcome name
    have shuffled : Arranged others (afterAll others (empty, memory)).1 :=
      arranged_afterAll (fun request member => arranges request (order.mem_iff.mpr member)) welcome
    cases here : page.map? name with
    | some map => exact arranged.map?_of_perm shuffled order here
    | none =>
        cases there : (afterAll others (empty, memory)).1.map? name with
        | none => rfl
        | some other =>
            have found := shuffled.map?_of_perm arranged order.symm there
            rw [here] at found
            cases found
  case again =>
    intro start size covered
    have ends := visit_ends (.reserve start size) (afterAll requests (empty, memory))
    generalize ((Request.reserve start size).visit (afterAll requests (empty, memory))).after = left
      at *
    rcases ends_onPage_bind.mp ends with ⟨_, _, here, _, rfl⟩ | ⟨_, _, here, _, rfl⟩
    all_goals exact arranged.reserve_covered covered here

end

/-- One reservation before the map and one behind it, and another order; what is reserved again
lies partly in the one and partly in the other. -/
theorem arranged_in_any_order_shuffled :
    ∃ requests others page map,
      requests = [.reserve ⟨0x800⟩ 0x900, .addMap "ram" ⟨0x1000⟩ ⟨0x5000⟩ default,
        .reserve ⟨0x1100⟩ 0x100, .addMap "rom" ⟨0x8000⟩ ⟨0x9000⟩ default] ∧
      others = [.addMap "rom" ⟨0x8000⟩ ⟨0x9000⟩ default, .reserve ⟨0x1100⟩ 0x100,
        .addMap "ram" ⟨0x1000⟩ ⟨0x5000⟩ default, .reserve ⟨0x800⟩ 0x900] ∧
      page = (afterAll requests (empty, IdentityMemory.zeros)).1 ∧
      page.map? "ram" = some map ∧ map.top = ⟨0x1200⟩ ∧ map.id = 0 ∧
      ((afterAll others (empty, IdentityMemory.zeros)).1.map? "ram").map MemoryMap.id = some 1 ∧
      ((afterAll others (empty, IdentityMemory.zeros)).1.map? "ram").map MemoryMap.unnumbered =
        some map.unnumbered ∧
      ((Request.reserve ⟨0x900⟩ 0x880).visit
        (afterAll requests (empty, IdentityMemory.zeros))).after.1.maps = page.maps := by
  let requests : List Request := [.reserve ⟨0x800⟩ 0x900,
    .addMap "ram" ⟨0x1000⟩ ⟨0x5000⟩ default, .reserve ⟨0x1100⟩ 0x100,
    .addMap "rom" ⟨0x8000⟩ ⟨0x9000⟩ default]
  obtain ⟨order, again⟩ := arranged_in_any_order IdentityMemory.zeros requests (by decide)
    (by decide +kernel)
  have found : (afterAll requests (empty, IdentityMemory.zeros)).1.map? "ram" =
      some ⟨"ram", 0, ⟨0x1000⟩, ⟨0x5000⟩, default, ⟨0x1200⟩, [⟨⟨0x1000⟩, ⟨0x1200⟩⟩]⟩ := by
    decide +kernel
  have reservations : (afterAll requests (empty, IdentityMemory.zeros)).1.reservations =
      [⟨⟨0x800⟩, ⟨0x1100⟩⟩, ⟨⟨0x1100⟩, ⟨0x1200⟩⟩] := by
    decide +kernel
  refine ⟨requests, _, _, _, rfl, rfl, rfl, found, rfl, rfl, by decide +kernel, ?_, ?_⟩
  · rw [order _ (by decide) (by decide +kernel), found]
    rfl
  · refine again _ _ fun address low high => ?_
    rw [reservations]
    simp only [covers_cons, not_covers_nil, or_false, Reservation.contains_iff, Address.le_def,
      Address.lt_def, Address.toNat, UInt64.reduceToNat] at low high ⊢
    omega

end Bootloader.SystemPage
