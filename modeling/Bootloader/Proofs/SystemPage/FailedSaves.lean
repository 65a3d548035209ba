import Bootloader.Memory.Window
import Bootloader.Proofs.SystemPage.Block
import Bootloader.Proofs.SystemPage.Consistency

/-!
# Saves that fail

A save checks whether the block may lie at its address, reserves room for it, writes it, and seals
the page. If it fails before the block is to be written, nothing has happened. If the memory
refuses the block, the page is not sealed and the memory is as before, but the reservation stays,
and with it the tops that it moved (`failed_save_leaves`).

The block does not say what is reserved, so a save that is repeated tries the same again. It moves
no top any further, since the room is reserved already, but it records one more reservation, until
there is no room for another; then it fails for lack of that (`saves_run_out`).
-/

set_option autoImplicit false

namespace Bootloader.SystemPage

open Act Reservation

/-- The page with one more reservation. -/
def reserving (page : SystemPage) (entry : Reservation) : SystemPage :=
  { page with
    reservations := page.reservations ++ [entry]
    maps := page.maps.map fun map => map.absorb entry }

variable {page : SystemPage}

section

variable {μ : Type} [PhysicalMemory μ] {memory : μ}

/-- **What a save leaves that fails.** Memory is as before, and the page is not sealed by it. The
page is as before too, unless the memory refused the block: then the room for the block is
reserved, and nothing else has changed. -/
theorem failed_save_leaves {store left : SystemPage × μ} {error : PageError}
    (ends : (save : StoreAct μ Address).Ends store (.failed error) left) :
    left.2 = store.2 ∧ left.1.isSaved = store.1.isSaved ∧
    ((∀ reason, error ≠ .memory reason) → left = store) ∧
    ∀ reason, error = .memory reason → store.1.isSaved = false ∧ ∃ address stop,
      store.1.address = some address ∧
      address.advance? store.1.serialize.length = some stop ∧
      PhysicalMemory.write store.2 address store.1.serialize = .error reason ∧
      left.1 = store.1.reserving ⟨address, stop⟩ := by
  rcases save_ends ends with ⟨memory, page, _, other⟩ |
    ⟨address, stop, textStop, reserved, pending, placed, reached, _, _, room, ends⟩
  · have same : left = store := Prod.ext page memory
    refine ⟨memory, congrArg SystemPage.isSaved page, fun _ => same, ?_⟩
    rintro reason rfl
    exact absurd rfl (other reason)
  · rcases ends with ⟨reason, refused, failed, rfl, memory⟩ | ⟨done, _⟩
    · cases failed
      rcases reserve_ends room with ⟨⟨_, failed⟩, _⟩ | ⟨_, last, _, _, reached', _, kept⟩
      · cases failed
      obtain rfl := Option.some.inj (reached.symm.trans reached')
      refine ⟨memory, by rw [kept], fun other => absurd rfl (other reason), ?_⟩
      rintro _ ⟨⟩
      exact ⟨pending, address, stop, placed, reached, refused, kept⟩
    · cases done

end

/-- A page that is to be saved where there is no memory. -/
def unwritable : SystemPage × WindowMemory :=
  afterAll [.addMap "ram" ⟨0x1000⟩ ⟨0x4000⟩ default, .setAddress ⟨0x1000⟩]
    (empty, WindowMemory.ofRanges [(⟨0x2000⟩, 0x2000)])

/-- The save fails, and leaves a reservation and a top that moved. -/
theorem failed_save_reserves :
    let visit := Request.save.visit unwritable
    visit.outcome = .failed (.memory (.outOfRange ⟨0x1000⟩ 0x90)) ∧
      visit.after.1.isSaved = false ∧
      visit.before.1.reservations = [] ∧ visit.before.1.maps.map MemoryMap.top = [⟨0x1000⟩] ∧
      visit.after.1.reservations = [⟨⟨0x1000⟩, ⟨0x1090⟩⟩] ∧
      visit.after.1.maps.map MemoryMap.top = [⟨0x1090⟩] := by
  decide +kernel

/-- What remains of the save is told by its reservation; without an address nothing remains. -/
theorem failed_save_leaves_unwritable :
    (∃ left, (save : StoreAct WindowMemory Address).Ends unwritable
        (.failed (.memory (.outOfRange ⟨0x1000⟩ 0x90))) left ∧
      left.1 = unwritable.1.reserving ⟨⟨0x1000⟩, ⟨0x1090⟩⟩) ∧
    (save : StoreAct WindowMemory Address).Ends (empty, unwritable.2) (.failed .noAddress)
      (empty, unwritable.2) := by
  refine ⟨?refused, ?nowhere⟩
  case refused =>
    have ends : (save : StoreAct WindowMemory Address).Ends unwritable
        (.failed (.memory (.outOfRange ⟨0x1000⟩ 0x90))) _ :=
      ⟨by decide +kernel, rfl⟩
    refine ⟨_, ends, ?_⟩
    obtain ⟨_, address, stop, placed, reached, _, left⟩ := (failed_save_leaves ends).2.2.2 _ rfl
    have here : unwritable.1.address = some ⟨0x1000⟩ := by decide +kernel
    obtain rfl := Option.some.inj (here.symm.trans placed)
    have there : (⟨0x1000⟩ : Address).advance? unwritable.1.serialize.length =
        some ⟨0x1090⟩ := by
      decide +kernel
    obtain rfl := Option.some.inj (there.symm.trans reached)
    exact left
  case nowhere =>
    have ends : (save : StoreAct WindowMemory Address).Ends (empty, unwritable.2)
        (.failed .noAddress) _ :=
      ⟨by decide +kernel, rfl⟩
    have same := (failed_save_leaves ends).2.2.1 nofun
    exact same ▸ ends

/-! ## Saves that are repeated -/

/-- The page after a number of saves that the memory refused. -/
def leftover (page : SystemPage) (entry : Reservation) (count : Nat) : SystemPage :=
  { page with
    reservations := page.reservations ++ List.replicate count entry
    maps := page.maps.map fun map => map.absorb entry }

/-- One more save leaves one more reservation. -/
theorem Consistent.reserving_leftover (consistent : page.Consistent) (entry : Reservation)
    (count : Nat) :
    (page.leftover entry count).reserving entry = page.leftover entry (count + 1) := by
  have maps : (page.maps.map fun map => map.absorb entry).map (fun map => map.absorb entry) =
      page.maps.map fun map => map.absorb entry := by
    rw [List.map_map]
    refine List.map_congr_left fun map member => ?_
    exact (consistent.reflected map member).absorb_absorb entry
  rw [reserving, leftover, leftover, maps, List.replicate_succ', List.append_assoc]

theorem serialize_leftover (page : SystemPage) (entry : Reservation) (count : Nat) :
    (page.leftover entry count).serialize = page.serialize :=
  serialize_absorb page entry _

/-- The block of the page can be written to its address: no image lies there. -/
structure Ready (page : SystemPage) (address stop textStop : Address) : Prop where
  pending : page.isSaved = false
  placed : page.address = some address
  reached : address.advance? page.serialize.length = some stop
  nonempty : page.serialize.length ≠ 0
  text : page.kernel.text.address.advance? page.kernel.text.size.toNat = some textStop
  free : page.coversImage textStop address stop = false

theorem Ready.leftover {address stop textStop : Address} (ready : page.Ready address stop textStop)
    (entry : Reservation) (count : Nat) :
    (page.leftover entry count).Ready address stop textStop :=
  { ready with
    reached := by rw [serialize_leftover]; exact ready.reached
    nonempty := by rw [serialize_leftover]; exact ready.nonempty }

section

variable {μ : Type} [PhysicalMemory μ] {memory : μ} {address stop textStop : Address}
  {reason : MemoryError}

/-- After its checks a save reserves room, writes the block, and goes on from there. -/
theorem Ready.save_begins (ready : page.Ready address stop textStop) (memory : μ) :
    ∃ rest : Unit → StoreAct μ Address, ∀ {outcome : Outcome PageError Address} {left},
      (onPage (reserve address page.serialize.length) >>= fun _ =>
        store address page.serialize >>= rest).Ends (page, memory) outcome left →
      (save : StoreAct μ Address).Ends (page, memory) outcome left := by
  apply Exists.intro
  intro outcome left ends
  refine ends_onPage_requireOpen_bind.mpr (.inl ⟨ready.pending, ends_read_bind.mpr ?_⟩)
  refine ends_ofOption_bind.mpr (.inl ⟨address, ready.placed, ?_⟩)
  refine ends_ofOption_bind.mpr (.inl ⟨stop, ready.reached, ?_⟩)
  refine ends_orCrash_bind.mpr (.inl ⟨textStop, ready.text, ?_⟩)
  exact ends_require_bind.mpr (.inl ⟨by simpa using ready.free, ends⟩)

/-- Where the memory refuses the block, a save records one more reservation, or finds that there
is no room for it. -/
theorem Ready.save_fails (ready : page.Ready address stop textStop)
    (refused : PhysicalMemory.write memory address page.serialize = .error reason) :
    if page.reservations.length < Capacity.reservations then
      (save : StoreAct μ Address).Ends (page, memory) (.failed (.memory reason))
        (page.reserving ⟨address, stop⟩, memory)
    else (save : StoreAct μ Address).Ends (page, memory) (.failed .full) (page, memory) := by
  obtain ⟨rest, begins⟩ := ready.save_begins memory
  have reserves := reserve_settles ready.pending ready.nonempty ready.reached
  split at reserves
  case isTrue room =>
    rw [if_pos room]
    refine begins (ends_onPage_bind.mpr (.inl ⟨(), _, reserves, ?_⟩))
    exact ends_store_bind.mpr (.inr ⟨reason, refused, rfl, rfl⟩)
  case isFalse full =>
    rw [if_neg full]
    exact begins (ends_onPage_bind.mpr (.inr ⟨_, _, reserves, .failed _, rfl⟩))

/-- A save that fails is a visit of the page. -/
theorem visit_of_failed_save {before left : SystemPage × μ} {error : PageError}
    (ends : (save : StoreAct μ Address).Ends before (.failed error) left) :
    Request.save.visit before = ⟨.save, before, .failed error, left⟩ := by
  have performed : (Request.save.perform : StoreAct μ _).Ends before (.failed error) left :=
    ends_bind.mpr (.inr ⟨_, ends, .failed error⟩)
  obtain ⟨outcome, after⟩ := (visit_ends .save before).unique performed
  rw [← outcome, ← after]
  rfl

/-- Saves that are repeated are refused by the memory as long as there is room for reservations,
and by the page from then on. -/
theorem Ready.saves_leftover (consistent : page.Consistent)
    (ready : page.Ready address stop textStop)
    (refused : PhysicalMemory.write memory address page.serialize = .error reason) (count : Nat)
    {kept room : Nat} (total : page.reservations.length + kept + room = Capacity.reservations) :
    (history (List.replicate count .save) (page.leftover ⟨address, stop⟩ kept, memory)).map
        Visit.outcome =
      List.replicate (min count room) (.failed (.memory reason)) ++
        List.replicate (count - room) (.failed .full) ∧
    afterAll (List.replicate count .save) (page.leftover ⟨address, stop⟩ kept, memory) =
      (page.leftover ⟨address, stop⟩ (kept + min count room), memory) := by
  induction count generalizing kept room with
  | zero => simp [history, afterAll]
  | succ count ih =>
      rw [← serialize_leftover page ⟨address, stop⟩ kept] at refused
      have fails := (ready.leftover ⟨address, stop⟩ kept).save_fails refused
      have length : (page.leftover ⟨address, stop⟩ kept).reservations.length =
          page.reservations.length + kept := by
        rw [SystemPage.leftover, List.length_append, List.length_replicate]
      rw [length, consistent.reserving_leftover] at fails
      rw [List.replicate_succ, history, afterAll, List.map_cons]
      cases room with
      | zero =>
          rw [if_neg (by omega)] at fails
          obtain ⟨outcomes, left⟩ := ih total
          rw [visit_of_failed_save fails, outcomes, left]
          simp [List.replicate_succ]
      | succ room =>
          rw [if_pos (by omega)] at fails
          have less : page.reservations.length + (kept + 1) + room = Capacity.reservations := by
            omega
          obtain ⟨outcomes, left⟩ := ih less
          rw [visit_of_failed_save fails, outcomes, left, Nat.succ_min_succ, Nat.succ_sub_succ,
            List.replicate_succ, Nat.succ_eq_add_one, Nat.add_right_comm, Nat.add_assoc]
          exact ⟨rfl, rfl⟩

/-- **A save that the memory refused fails in the same way when it is repeated**, until the list of
reservations is full; then it fails for lack of room. The tops of the maps are moved by the first
attempt only, and each attempt leaves one more reservation. -/
theorem saves_run_out (consistent : page.Consistent)
    (failed : (Request.save.visit (page, memory)).outcome = .failed (.memory reason))
    (count : Nat) :
    ∃ entry room, page.reservations.length + room = Capacity.reservations ∧ room ≠ 0 ∧
      (history (List.replicate (count + 1) .save) (page, memory)).map Visit.outcome =
        List.replicate (min (count + 1) room) (.failed (.memory reason)) ++
          List.replicate (count + 1 - room) (.failed .full) ∧
      afterAll (List.replicate (count + 1) .save) (page, memory) =
        (page.leftover entry (min (count + 1) room), memory) := by
  have ends := visit_ends .save (page, memory)
  rw [failed] at ends
  rcases ends_bind.mp ends with ⟨_, _, _, done, _⟩ | ⟨_, saving, halts⟩
  · cases done
  cases halts
  rcases save_ends saving with ⟨_, _, _, other⟩ |
    ⟨address, stop, textStop, _, pending, placed, reached, text, free, reserving, ends⟩
  · exact absurd rfl (other reason)
  rcases ends with ⟨_, refused, same, _⟩ | ⟨done, _⟩
  · cases same
    rcases reserve_ends reserving with ⟨⟨_, failed⟩, _⟩ | ⟨_, _, _, filled, _, few, _⟩
    · cases failed
    have ready : page.Ready address stop textStop := ⟨pending, placed, reached, filled, text, free⟩
    have fails := ready.save_fails refused
    rw [if_pos few] at fails
    obtain ⟨room, total⟩ := Nat.exists_eq_add_of_lt few
    have more : page.reservations.length + 1 + room = Capacity.reservations := by omega
    obtain ⟨outcomes, left⟩ := ready.saves_leftover consistent refused count more
    refine ⟨⟨address, stop⟩, room + 1, by omega, Nat.succ_ne_zero room, ?_, ?_⟩
    · rw [List.replicate_succ, history, List.map_cons, visit_of_failed_save fails,
        Nat.succ_min_succ, Nat.succ_sub_succ, List.replicate_succ]
      exact congrArg (_ :: ·) outcomes
    · rw [List.replicate_succ, afterAll, visit_of_failed_save fails, Nat.succ_min_succ,
        Nat.succ_eq_add_one, Nat.add_comm _ 1]
      exact left
  · cases done

end

/-- Two saves that fail, and one that is granted at another address: three reservations. -/
example : (afterAll [.save, .save, .setAddress ⟨0x2000⟩, .save] unwritable).1.reservations =
    [⟨⟨0x1000⟩, ⟨0x1090⟩⟩, ⟨⟨0x1000⟩, ⟨0x1090⟩⟩, ⟨⟨0x2000⟩, ⟨0x2090⟩⟩] := by
  decide +kernel

end Bootloader.SystemPage
