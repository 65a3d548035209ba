import Bootloader.Proofs.Memory.Lawful
import Bootloader.Proofs.SystemPage.Cursor
import Bootloader.Proofs.SystemPage.Fitting

/-!
# Writes that are made again

A write that meets a reservation moves the top of its map behind it and asks to be made again.
Nothing but the top changes; it rises, and does not pass a place where the bytes would fit; and
the reservation that was met is not ahead any more (`Overtakes`). So a write that is made again
whenever it asks for it ends, after no more attempts than there were reservations ahead of the
top, and then the bytes are at the lowest place where they fit; it is refused for lack of room
just where they fit nowhere (`writeToMap_firstFit`). The top may stand at the first address of
a reservation, behind bytes that were copied up to it: the next write begins in the reservation
and leaves it like any other.
-/

set_option autoImplicit false

namespace Bootloader.SystemPage

open Act Reservation

variable {μ : Type} [PhysicalMemory μ] {name : String} {data : Bytes} {map : MemoryMap}
  {before middle after : SystemPage × μ}

/-! ## One attempt -/

/-- A page that takes writes to a map: it is not sealed, the map has a name on it, and no top
is inside a reservation of its map. -/
structure Accessible (name : String) (map : MemoryMap) (store : SystemPage × μ) : Prop where
  consistent : store.1.Consistent
  pending : store.1.isSaved = false
  clear : ∀ map ∈ store.1.maps, map.Clear
  found : store.1.map? name = some map

omit [PhysicalMemory μ] in
/-- A map that is found under its name can be written to, once its top has been moved. -/
theorem Accessible.moveTop (accessible : Accessible name map before)
    {move : MemoryMap → MemoryMap} (moves : TopMove map move) :
    Accessible name (move map) (before.1.changeMap name move, before.2) := by
  obtain ⟨consistent, found, _⟩ :=
    accessible.consistent.moveTop accessible.pending accessible.found moves
  have change := Change.top name map move accessible.pending accessible.found moves
  exact ⟨consistent, accessible.pending, change.clear accessible.consistent accessible.clear, found⟩

/-- How one attempt to write ends, and what it leaves: there is too little room; or a reservation
is in the way and only the top moves; or the memory refuses the bytes; or they are written and
the top moves over them. -/
inductive Attempt (name : String) (data : Bytes) (map : MemoryMap) (store : SystemPage × μ) :
    Outcome PageError Address → SystemPage × μ → Prop where
  | lacking (large : map.freeSize < data.length) :
      Attempt name data map store (.failed .noSpace) store
  | obstructed (stop : Address) (entry : Reservation)
      (reached : map.top.advance? data.length = some stop)
      (hit : map.collision? map.top stop = some entry) :
      Attempt name data map store (.failed (.again (map.passReservation entry).top))
        (store.1.changeMap name fun map => map.passReservation entry, store.2)
  | refused (stop : Address) (error : MemoryError) (fits : data.length ≤ map.freeSize)
      (reached : map.top.advance? data.length = some stop)
      (free : map.collision? map.top stop = none)
      (unwritten : PhysicalMemory.write store.2 map.top data = .error error) :
      Attempt name data map store (.failed (.memory error)) store
  | granted (stop : Address) (memory : μ) (fits : data.length ≤ map.freeSize)
      (reached : map.top.advance? data.length = some stop)
      (free : map.collision? map.top stop = none)
      (wrote : PhysicalMemory.write store.2 map.top data = .ok memory) :
      Attempt name data map store (.done map.top)
        (store.1.changeMap name fun map => { map with top := stop }, memory)

theorem Accessible.attempt (accessible : Accessible name map before)
    {outcome : Outcome PageError Address}
    (ends : (writeToMap name data).Ends before outcome after) :
    Attempt name data map before outcome after := by
  obtain ⟨page, memory⟩ := before
  have known : page.findMap name = .ok map := findMap_ok_iff.mpr accessible.found
  have pending : page.isSaved = false := accessible.pending
  simp only [writeToMap, ends_onPage_requireOpen_bind, pending, true_and, Bool.false_eq_true,
    false_and, or_false, ends_read_bind, ends_ofExcept_bind, known, Except.ok.injEq,
    exists_eq_left', reduceCtorEq, exists_false, ends_require_bind, decide_eq_true_eq,
    decide_eq_false_iff_not, ends_orCrash_bind] at ends
  rcases ends with ⟨fits, ⟨stop, reached, ends⟩ | ⟨outside, _⟩⟩ | ⟨large, rfl, rfl⟩
  · split at ends
    case h_1 entry hit =>
      obtain ⟨rfl, rfl⟩ := ends
      exact .obstructed stop entry reached hit
    case h_2 free =>
      rcases ends_store_bind.mp ends with ⟨written, wrote, rfl, rfl⟩ | ⟨error, unwritten, rfl, rfl⟩
      · exact .granted stop written fits reached free wrote
      · exact .refused stop error fits reached free unwritten
  · have bounded := accessible.consistent.bounded map (map?_mem accessible.found).1
    obtain ⟨stop, reached, _⟩ := MemoryMap.advance?_of_le_freeSize bounded.2 fits
    cases outside.symm.trans reached
  · exact .lacking (Nat.lt_of_not_le large)

/-! ## Attempts that are put off -/

/-- How a map is left by a write of a number of bytes that is to be made again. -/
structure Overtakes (map later : MemoryMap) (size : Nat) : Prop where
  raised : map.top < later.top
  fewer : later.ahead < map.ahead
  places : ∀ place, Vacant later.reserved later size place ↔ Vacant map.reserved map size place

omit [PhysicalMemory μ] in
/-- Behind a reservation that was in the way, the top is higher, and a reservation less is ahead;
and the bytes fit where they did before. -/
theorem Accessible.overtakes (accessible : Accessible name map before) {entry : Reservation}
    {stop : Address} (reached : map.top.advance? data.length = some stop)
    (hit : map.collision? map.top stop = some entry) :
    Overtakes map (map.passReservation entry) data.length := by
  obtain ⟨member, _⟩ := map?_mem accessible.found
  have reflected := accessible.consistent.reflected map member
  have listed : entry ∈ map.reserved := List.mem_of_find?_eq_some hit
  obtain ⟨begins, ends⟩ : entry.start < stop ∧ map.top < entry.stop :=
    intersects_iff.mp (by simpa using List.find?_some hit)
  rw [Address.lt_def, Address.advance?_eq_some_iff.mp reached] at begins
  have behind : entry.stop ≤ (map.passReservation entry).top := by
    refine Nat.le_trans ?_ (le_skip _ _)
    rw [Address.toNat_min]
    exact Nat.le_min.mpr ⟨Nat.le_refl _, (reflected.inside entry listed).2⟩
  have raised : map.top < (map.passReservation entry).top := Nat.lt_of_lt_of_le ends behind
  -- Nothing is in the way of no bytes: the top is not inside the reservation.
  have nonempty : data.length ≠ 0 := fun empty =>
    accessible.clear map member entry listed ⟨by rw [Address.lt_def]; omega, ends⟩
  refine ⟨raised, MemoryMap.ahead_lt rfl (Nat.le_of_lt raised) listed ends behind,
    fun place => ⟨fun vacant => ?_, fun vacant => ?_⟩⟩
  · exact vacant.of_top_le rfl rfl (Nat.le_trans (Nat.le_of_lt raised) vacant.above)
  · exact vacant.passReservation nonempty listed (reflected.filled entry listed) begins

/-- Attempts in a row to write the same bytes to a map that were all put off. -/
inductive PutOff (name : String) (data : Bytes) : Nat → SystemPage × μ → SystemPage × μ → Prop
  | none (store : SystemPage × μ) : PutOff name data 0 store store
  | attempt {count : Nat} {before middle after : SystemPage × μ} {top : Address}
      (tried : (writeToMap name data).Ends before (.failed (.again top)) middle)
      (others : PutOff name data count middle after) : PutOff name data (count + 1) before after

/-- Attempts that are put off leave the memory alone and the places for the bytes as they were,
and for each of them there is a reservation less ahead. -/
theorem PutOff.passes {count : Nat} (attempts : PutOff name data count before after)
    (accessible : Accessible name map before) :
    ∃ later, Accessible name later after ∧ after.2 = before.2 ∧
      count + later.ahead ≤ map.ahead ∧
      ∀ place, Vacant later.reserved later data.length place ↔
        Vacant map.reserved map data.length place := by
  induction attempts generalizing map with
  | none store => exact ⟨map, accessible, rfl, Nat.le_of_eq (Nat.zero_add _), fun _ => Iff.rfl⟩
  | attempt tried others ih =>
      cases accessible.attempt tried with
      | obstructed stop entry reached hit =>
          have passed := accessible.overtakes reached hit
          obtain ⟨later, settled, memory, fewer, places⟩ :=
            ih (accessible.moveTop (.pass stop entry hit))
          have less := passed.fewer
          exact ⟨later, settled, memory, by omega,
            fun place => (places place).trans (passed.places place)⟩

theorem PutOff.concat {count : Nat} {top : Address} (attempts : PutOff name data count before middle)
    (tried : (writeToMap name data).Ends middle (.failed (.again top)) after) :
    PutOff name data (count + 1) before after := by
  induction attempts with
  | none store => exact .attempt tried (.none after)
  | attempt earlier others ih => exact .attempt earlier (ih tried)

/-- Not every attempt is put off. -/
theorem Accessible.settles (accessible : Accessible name map before) :
    ∃ count middle outcome after, PutOff name data count before middle ∧
      (writeToMap name data).Ends middle outcome after ∧ ∀ top, outcome ≠ .failed (.again top) := by
  by_contra unsettled
  have unbounded : ∀ count, ∃ middle, PutOff name data count before middle := by
    intro count
    induction count with
    | zero => exact ⟨before, .none before⟩
    | succ count ih =>
        obtain ⟨middle, attempts⟩ := ih
        have ends := ends_run (writeToMap name data) middle
        by_cases again : ∃ top, ((writeToMap name data).run middle).outcome = .failed (.again top)
        · obtain ⟨top, again⟩ := again
          exact ⟨_, attempts.concat (again ▸ ends)⟩
        · exact absurd ⟨_, _, _, _, attempts, ends, not_exists.mp again⟩ unsettled
  obtain ⟨middle, attempts⟩ := unbounded (map.ahead + 1)
  obtain ⟨later, _, _, fewer, _⟩ := attempts.passes accessible
  omega

/-! ## All attempts -/

/-- What a write that is made again is good for: each attempt that is put off raises the top to
the address that it names and does nothing else; no more of them in a row are put off than there
are reservations that end above the top, and so one is not; and that one puts the bytes at the
lowest place where they fit, or lacks room, and they fit nowhere. -/
structure FirstFit (name : String) (data : Bytes) (map : MemoryMap) (before : SystemPage × μ) :
    Prop where
  raises : ∀ {count : Nat} {middle after : SystemPage × μ} {top : Address},
    PutOff name data count before middle →
    (writeToMap name data).Ends middle (.failed (.again top)) after →
    ∃ later, middle.1.map? name = some later ∧ later.top < top ∧
      after = (middle.1.changeMap name fun map => { map with top }, middle.2)
  bounded : ∀ {count : Nat} {after : SystemPage × μ},
    PutOff name data count before after → count ≤ map.ahead
  settles : ∃ count middle outcome after, PutOff name data count before middle ∧
    (writeToMap name data).Ends middle outcome after ∧ ∀ top, outcome ≠ .failed (.again top)
  lowest : ∀ {count : Nat} {middle after : SystemPage × μ} {outcome : Outcome PageError Address},
    PutOff name data count before middle → (writeToMap name data).Ends middle outcome after →
    (∀ top, outcome ≠ .failed (.again top)) →
    (∃ place, outcome = .done place ∧ PhysicalMemory.write before.2 place data = .ok after.2 ∧
      Vacant before.1.reservations map data.length place ∧
      ∀ other, Vacant before.1.reservations map data.length other → place ≤ other) ∨
    (outcome = .failed .noSpace ∧ after = middle ∧
      ∀ place, ¬ Vacant before.1.reservations map data.length place)

/-- Where maps have different names, a change of one is told by what becomes of that one. -/
theorem Consistent.changeMap_congr {page : SystemPage} (consistent : page.Consistent)
    (found : page.map? name = some map) {move other : MemoryMap → MemoryMap}
    (same : move map = other map) : page.changeMap name move = page.changeMap name other := by
  have each : ∀ entry ∈ page.maps, (if entry.name = name then move entry else entry) =
      if entry.name = name then other entry else entry := by
    intro entry member
    split
    case isTrue named =>
      have here := consistent.map?_eq member
      rw [named, found] at here
      cases here
      exact same
    case isFalse => rfl
  rw [changeMap, changeMap, List.map_congr_left each]

/-- The top is a place for bytes where nothing is in their way. -/
theorem vacant_top {stop : Address} {size : Nat} (below : map.top ≤ map.stop)
    (fits : size ≤ map.freeSize) (reached : map.top.advance? size = some stop)
    (free : map.collision? map.top stop = none) : Vacant map.reserved map size map.top where
  above := Nat.le_refl _
  inside := by
    rw [Address.le_def] at below
    rw [MemoryMap.freeSize] at fits
    omega
  free address low high := by
    refine MemoryMap.not_covers_of_collision?_eq_none free low ?_
    rwa [Address.lt_def, Address.advance?_eq_some_iff.mp reached]

/-- **A write that is made again as long as it asks for it finds the first place that fits**, and
asks for it no more often than there are reservations ahead, whatever the page was asked for
before. -/
theorem writeToMap_firstFit {requests : List Request} {fresh : μ}
    (reached : before.1 = (afterAll requests (empty, fresh)).1) (pending : before.1.isSaved = false)
    (found : before.1.map? name = some map)
    (writes : ∀ place, Vacant before.1.reservations map data.length place →
      ∃ written, PhysicalMemory.write before.2 place data = .ok written) :
    FirstFit name data map before := by
  have accessible : Accessible name map before := by
    refine ⟨?_, pending, ?_, found⟩
    · rw [reached]
      exact consistent_afterAll fresh requests
    · rw [reached]
      exact (afterAll_changes requests (empty, fresh)).clear consistent_empty nofun
  refine ⟨?raises, ?bounded, accessible.settles, ?lowest⟩
  case raises =>
    intro count middle after top attempts tried
    obtain ⟨later, settled, _⟩ := attempts.passes accessible
    cases settled.attempt tried with
    | obstructed stop entry reached hit =>
        refine ⟨later, settled.found, (settled.overtakes reached hit).raised, ?_⟩
        exact congrArg (·, middle.2) (settled.consistent.changeMap_congr settled.found rfl)
  case bounded =>
    intro count after attempts
    obtain ⟨later, _, _, fewer, _⟩ := attempts.passes accessible
    omega
  case lowest =>
    intro count middle after outcome attempts tried settles
    obtain ⟨later, settled, memory, _, places⟩ := attempts.passes accessible
    have same : ∀ place, Vacant later.reserved later data.length place ↔
        Vacant before.1.reservations map data.length place := fun place =>
      (places place).trans (vacant_reserved_iff accessible.consistent found)
    have below := (settled.consistent.bounded later (map?_mem settled.found).1).2
    cases settled.attempt tried with
    | lacking large =>
        refine .inr ⟨rfl, rfl, fun place vacant => ?_⟩
        obtain ⟨above, inside, _⟩ := (same place).mpr vacant
        rw [MemoryMap.freeSize] at large
        rw [Address.le_def] at above
        omega
    | obstructed => exact absurd rfl (settles _)
    | refused stop error fits reached free unwritten =>
        obtain ⟨written, wrote⟩ := writes _ ((same _).mp (vacant_top below fits reached free))
        cases (memory ▸ unwritten).symm.trans wrote
    | granted stop written fits reached free wrote =>
        exact .inl ⟨_, rfl, memory ▸ wrote, (same _).mp (vacant_top below fits reached free),
          fun other vacant => ((same other).mpr vacant).above⟩

/-- A page whose map was filled up to the first address of a reservation, with another one
behind it. -/
def cornered : SystemPage × IdentityMemory :=
  afterAll [.addMap "ram" ⟨0x1000⟩ ⟨0x5000⟩ default, .reserve ⟨0x1008⟩ 8, .reserve ⟨0x1014⟩ 12,
    .write "ram" (List.replicate 8 1)] (empty, IdentityMemory.zeros)

/-- The map of the page. -/
def corneredMap : MemoryMap :=
  ⟨"ram", 0, ⟨0x1000⟩, ⟨0x5000⟩, default, ⟨0x1008⟩,
    [⟨⟨0x1008⟩, ⟨0x1010⟩⟩, ⟨⟨0x1014⟩, ⟨0x1020⟩⟩]⟩

/-- Eight bytes to be written to the map. -/
def eightMore : Bytes := List.replicate 8 2

/-- Both reservations are left one after the other, and the bytes go behind the second one. -/
theorem writeToMap_firstFit_cornered :
    cornered.1.map? "ram" = some corneredMap ∧ corneredMap.ahead = 2 ∧
      FirstFit "ram" eightMore corneredMap cornered ∧
      ∃ middle after, PutOff "ram" eightMore 2 cornered middle ∧
        (writeToMap "ram" eightMore).Ends middle (.done ⟨0x1020⟩) after := by
  have found : cornered.1.map? "ram" = some corneredMap := by decide +kernel
  have pending : cornered.1.isSaved = false := by decide +kernel
  have works : Writable corneredMap.top.toNat corneredMap.stop.toNat cornered.2 :=
    IdentityMemory.writable _ (by decide)
  have first : (writeToMap "ram" eightMore).Ends cornered (.failed (.again ⟨0x1010⟩)) _ :=
    ⟨by decide +kernel, rfl⟩
  have second : (writeToMap "ram" eightMore).Ends ((writeToMap "ram" eightMore).run cornered).state
      (.failed (.again ⟨0x1020⟩)) _ := ⟨by decide +kernel, rfl⟩
  refine ⟨found, by decide, ?_, _, ((writeToMap "ram" eightMore).run _).state,
    .attempt first (.attempt second (.none _)), by decide +kernel, rfl⟩
  exact writeToMap_firstFit rfl pending found fun _ vacant => works.write vacant.above vacant.inside

end Bootloader.SystemPage
