import Bootloader.Bench.World
import Bootloader.Proofs.Files.Recording
import Bootloader.Proofs.Files.Relaying
import Bootloader.Proofs.Files.Requests
import Mathlib.Data.List.Induction
import Mathlib.Data.List.Nodup
import Mathlib.Data.List.Perm.Subperm

/-!
# Handles

A handle that was handed out is live until it is given back. Which handles are live is told
from the visits alone (`leases`), without a look at the slots; the slots keep the same account
(`Ledger`): every live handle stands for what it was opened for, no two are the same, and
nothing is open but through a live handle. So there are never more of them than slots, and a
request is told that none is left only if all slots are taken, or if a framed device answered
the last read or write that the request made to it with that error (`openFile_exhausted`).

The generation of a slot counts how often it was freed (`generation?_afterAll`). It has 16 bits,
so a handle that was given back is refused by every request until its slot has been freed
65535 times more.
-/

set_option autoImplicit false

namespace Bootloader

open Act

variable {ω : Type}

namespace Files

/-! ## Handles and slots -/

section

variable {files : Files ω} {handle other : Handle} {file : OpenFile} {index : Nat} {slot : Slot}

/-- What a handle stands for is told from the slot it names. -/
theorem resolve?_of_slot (found : files.slots[handle.slot]? = some slot) :
    files.resolve? handle = if slot.generation = handle.generation then slot.file else none := by
  rw [resolve?, found]
  rfl

/-- What handles stand for is a matter of the slots. -/
theorem resolve?_congr {before after : Files ω} (same : after.slots = before.slots)
    (handle : Handle) : after.resolve? handle = before.resolve? handle := by
  rw [resolve?, same, resolve?]

/-- A handle stands for a file that its slot holds in the same generation. -/
theorem resolve?_eq_some : files.resolve? handle = some file ↔
    files.slots[handle.slot]? = some ⟨handle.generation, some file⟩ := by
  constructor
  · intro resolved
    cases found : files.slots[handle.slot]? with
    | none =>
        rw [resolve?, found] at resolved
        cases resolved
    | some slot =>
        rw [resolve?_of_slot found] at resolved
        split at resolved
        case isTrue same =>
          obtain ⟨generation, content⟩ := slot
          cases same
          cases resolved
          rfl
        case isFalse => cases resolved
  · intro found
    rw [resolve?_of_slot found, if_pos rfl]

/-- The slot that is free holds nothing. -/
theorem freeSlot?_eq_some (free : files.freeSlot? = some index)
    (found : files.slots[index]? = some slot) : slot.file = none := by
  obtain ⟨bound, empty, _⟩ := List.findIdx?_eq_some_iff_getElem.mp free
  obtain ⟨_, rfl⟩ := List.getElem?_eq_some_iff.mp found
  exact Option.isNone_iff_eq_none.mp empty

/-- Where no slot is free, every slot holds a file. -/
theorem freeSlot?_eq_none (full : files.freeSlot? = none)
    (found : files.slots[index]? = some slot) : ∃ file, slot.file = some file := by
  have taken := List.findIdx?_eq_none_iff.mp full slot (List.mem_of_getElem? found)
  apply Option.ne_none_iff_exists'.mp
  intro empty
  rw [empty] at taken
  cases taken

/-- Filling an empty slot makes one more handle stand for a file. -/
theorem resolve?_setSlot (found : files.slots[index]? = some slot) (empty : slot.file = none) :
    (files.setSlot index ⟨slot.generation, some file⟩).resolve? handle =
      if handle = ⟨index, slot.generation⟩ then some file else files.resolve? handle := by
  obtain ⟨place, generation⟩ := handle
  have bound := (List.getElem?_eq_some_iff.mp found).1
  by_cases here : place = index
  · subst here
    have filled : (files.setSlot place ⟨slot.generation, some file⟩).slots[place]? =
        some ⟨slot.generation, some file⟩ := List.getElem?_set_self bound
    rw [resolve?_of_slot filled, resolve?_of_slot found, empty, ite_self]
    by_cases same : slot.generation = generation
    · rw [if_pos same, if_pos (congrArg (Handle.mk place) same.symm)]
    · rw [if_neg same, if_neg fun equal => same (Handle.mk.inj equal).2.symm]
  · rw [if_neg fun equal => here (Handle.mk.inj equal).1, resolve?, setSlot,
      List.getElem?_set_ne (Ne.symm here)]
    rfl

/-- What is opened in the free slot is the only news, where the slots were kept until then. -/
theorem resolve?_opened {middle : Files ω} (same : middle.slots = files.slots)
    (free : files.freeSlot? = some index) (found : files.slots[index]? = some slot) :
    (middle.setSlot index ⟨slot.generation, some file⟩).resolve? handle =
      if handle = ⟨index, slot.generation⟩ then some file else files.resolve? handle := by
  rw [resolve?_setSlot (same ▸ found) (freeSlot?_eq_some free found), resolve?_congr same]

/-- The handle that the free slot will be known by stands for nothing yet. -/
theorem resolve?_free_slot (free : files.freeSlot? = some index)
    (found : files.slots[index]? = some slot) :
    files.resolve? ⟨index, slot.generation⟩ = none := by
  rw [resolve?_of_slot found, if_pos rfl, freeSlot?_eq_some free found]

/-- Freeing the slot of a handle leaves this handle alone without a file. -/
theorem resolve?_free (live : files.resolve? other = some file) :
    (files.free other).resolve? handle =
      if handle = other then none else files.resolve? handle := by
  have found := resolve?_eq_some.mp live
  by_cases here : handle.slot = other.slot
  · have emptied : (files.free other).slots[handle.slot]? = some ⟨other.generation + 1, none⟩ := by
      rw [Files.free, here, List.getElem?_modify_eq, found]
      rfl
    rw [← here] at found
    rw [resolve?_of_slot emptied, resolve?_of_slot found, ite_self]
    by_cases same : other.generation = handle.generation
    · have equal : handle = other := by
        obtain ⟨_, _⟩ := handle
        obtain ⟨_, _⟩ := other
        cases here
        cases same
        rfl
      rw [if_pos equal]
    · rw [if_neg same, ite_self]
  · have differs : handle ≠ other := fun equal => here (congrArg Handle.slot equal)
    rw [if_neg differs, resolve?, Files.free, List.getElem?_modify_ne _ _ (Ne.symm here)]
    rfl

end

/-! ## The account of live handles -/

/-- A handle that was handed out, and the visit that opened it. -/
structure Lease (ω : Type) where
  handle : Handle
  visit : Visit ω

/-- The live handles after a visit: the one that it gave back is no longer among them, whatever
came of it, and the one that it handed out is. -/
def Visit.settle (visit : Visit ω) (leases : List (Lease ω)) : List (Lease ω) :=
  let kept := leases.filter fun lease => visit.request ≠ .close lease.handle
  match visit.outcome with
  | .done (.opened handle) => ⟨handle, visit⟩ :: kept
  | _ => kept

/-- The live handles after visits. -/
def leases (visits : List (Visit ω)) : List (Lease ω) :=
  visits.foldl (fun leases visit => visit.settle leases) []

theorem leases_concat (visits : List (Visit ω)) (visit : Visit ω) :
    leases (visits ++ [visit]) = visit.settle (leases visits) :=
  List.foldl_concat ..

/-- A live handle was handed out in one of the visits. -/
theorem visit_of_mem_leases {visits : List (Visit ω)} {lease : Lease ω}
    (member : lease ∈ leases visits) :
    lease.visit ∈ visits ∧ lease.visit.outcome = .done (.opened lease.handle) := by
  induction visits using List.reverseRecOn with
  | nil => cases member
  | append_singleton earlier visit ih =>
      rw [leases_concat, Visit.settle] at member
      have kept (member : lease ∈ (leases earlier).filter fun lease =>
          visit.request ≠ .close lease.handle) := ih (List.mem_filter.mp member).1
      split at member
      · next handle handed =>
          rcases List.mem_cons.mp member with rfl | member
          · exact ⟨List.mem_append_right _ List.mem_cons_self, handed⟩
          · exact ⟨List.mem_append_left _ (kept member).1, (kept member).2⟩
      · exact ⟨List.mem_append_left _ (kept member).1, (kept member).2⟩

variable [Hardware ω]

/-- The slots agree with the account of live handles. -/
structure Ledger (files : Files ω) (leases : List (Lease ω)) : Prop where
  distinct : (leases.map Lease.handle).Nodup
  opened : ∀ lease ∈ leases, ∃ file, Opens lease.visit.before lease.visit.request file ∧
    files.resolve? lease.handle = some file
  complete : ∀ handle, (files.resolve? handle).isSome → ∃ lease ∈ leases, lease.handle = handle

namespace Ledger

variable {files before after : Files ω} {live : List (Lease ω)} {request : Request}

omit [Hardware ω] in
/-- A visit that hands out nothing only takes handles away. -/
theorem settle_plain {outcome : Outcome FileError Answer}
    (plain : ∀ handle, outcome ≠ .done (.opened handle)) :
    (Visit.mk request before outcome after).settle live =
      live.filter fun lease => request ≠ .close lease.handle := by
  unfold Visit.settle
  split
  · next handle same => exact absurd same (plain handle)
  · rfl

/-- No live handle is given back by a request that closes none. -/
theorem filter_idle (ledger : Ledger files live)
    (idle : ∀ handle, request = .close handle → files.resolve? handle = none) :
    (live.filter fun lease => request ≠ .close lease.handle) = live := by
  apply List.filter_eq_self.mpr
  intro lease member
  obtain ⟨file, _, resolved⟩ := ledger.opened lease member
  apply decide_eq_true
  intro asked
  rw [idle _ asked] at resolved
  cases resolved

/-- What leaves every handle with what it stands for leaves the account in order. -/
theorem of_resolve? (ledger : Ledger before live)
    (same : ∀ handle, after.resolve? handle = before.resolve? handle) : Ledger after live where
  distinct := ledger.distinct
  opened lease member := by
    rw [same]
    exact ledger.opened lease member
  complete handle resolved := by
    rw [same] at resolved
    exact ledger.complete handle resolved

/-- A handle that stood for nothing, and was handed out, is one more. -/
theorem handed_out (ledger : Ledger before live) {handed : Handle} {file : OpenFile}
    {visit : Visit ω} (opens : Opens visit.before visit.request file)
    (vacant : before.resolve? handed = none)
    (resolves : ∀ handle, after.resolve? handle =
      if handle = handed then some file else before.resolve? handle) :
    Ledger after (⟨handed, visit⟩ :: live) := by
  refine ⟨?_, fun lease member => ?_, fun handle resolved => ?_⟩
  · refine List.nodup_cons.mpr ⟨fun member => ?_, ledger.distinct⟩
    obtain ⟨lease, here, same⟩ := List.mem_map.mp member
    obtain ⟨_, _, resolved⟩ := ledger.opened lease here
    rw [same, vacant] at resolved
    cases resolved
  · rcases List.mem_cons.mp member with rfl | member
    · exact ⟨file, opens, (resolves _).trans (if_pos rfl)⟩
    · obtain ⟨other, opens, resolved⟩ := ledger.opened lease member
      refine ⟨other, opens, (resolves _).trans ?_⟩
      rw [if_neg, resolved]
      intro same
      rw [same, vacant] at resolved
      cases resolved
  · rw [resolves] at resolved
    split at resolved
    case isTrue same => exact ⟨_, List.mem_cons_self, same.symm⟩
    case isFalse =>
      obtain ⟨lease, member, same⟩ := ledger.complete handle resolved
      exact ⟨lease, List.mem_cons_of_mem _ member, same⟩

/-- A handle that stands for nothing any more is the only one that is taken away. -/
theorem given_back (ledger : Ledger before live) {closed : Handle}
    (resolves : ∀ handle, after.resolve? handle =
      if handle = closed then none else before.resolve? handle) :
    Ledger after (live.filter fun lease => Request.close closed ≠ .close lease.handle) := by
  have kept : ∀ lease, lease ∈ live.filter (fun lease =>
      Request.close closed ≠ .close lease.handle) ↔ lease ∈ live ∧ lease.handle ≠ closed := by
    intro lease
    rw [List.mem_filter, decide_eq_true_eq]
    exact and_congr_right fun _ => not_congr ⟨fun same => (Request.close.inj same).symm,
      fun same => congrArg Request.close same.symm⟩
  refine ⟨?_, fun lease member => ?_, fun handle resolved => ?_⟩
  · exact (List.filter_sublist.map Lease.handle).nodup ledger.distinct
  · obtain ⟨member, other⟩ := (kept lease).mp member
    rw [resolves, if_neg other]
    exact ledger.opened lease member
  · rw [resolves] at resolved
    split at resolved
    case isTrue => cases resolved
    case isFalse other =>
      obtain ⟨lease, member, same⟩ := ledger.complete handle resolved
      exact ⟨lease, (kept lease).mpr ⟨member, same ▸ other⟩, same⟩

/-- Every request keeps the account in order. -/
theorem performs {outcome : Outcome FileError Answer} (ledger : Ledger before live)
    (performs : Performs request before outcome after) :
    Ledger after ((Visit.mk request before outcome after).settle live) := by
  cases performs with
  | uses idle uses plain =>
      rw [settle_plain plain, ledger.filter_idle idle]
      exact ledger.of_resolve? (resolve?_congr uses.slots)
  | aliased asked _ _ plain =>
      rw [settle_plain plain, ledger.filter_idle (by rw [asked]; nofun)]
      exact ledger.of_resolve? fun handle => rfl
  | named asked _ _ plain =>
      rw [settle_plain plain, ledger.filter_idle (by rw [asked]; nofun)]
      exact ledger.of_resolve? fun handle => rfl
  | opens uses opened free found =>
      have idle : ∀ handle, request = .close handle → before.resolve? handle = none := by
        rintro handle rfl
        cases opened
      unfold Visit.settle
      rw [ledger.filter_idle idle]
      exact ledger.handed_out opened (resolve?_free_slot free found) fun handle =>
        resolve?_opened uses.slots free found
  | closes asked found uses plain =>
      rw [settle_plain plain, asked]
      exact ledger.given_back fun handle =>
        (resolve?_congr uses.slots handle).trans (resolve?_free found)

/-- The slot of a live handle holds a file in the generation of the handle. -/
theorem held (ledger : Ledger files live) {handle : Handle}
    (member : handle ∈ live.map Lease.handle) :
    ∃ file, files.slots[handle.slot]? = some ⟨handle.generation, some file⟩ := by
  obtain ⟨lease, here, rfl⟩ := List.mem_map.mp member
  obtain ⟨file, _, resolved⟩ := ledger.opened lease here
  exact ⟨file, resolve?_eq_some.mp resolved⟩

/-- No two live handles share a slot. -/
theorem slots_nodup (ledger : Ledger files live) :
    ((live.map Lease.handle).map Handle.slot).Nodup := by
  refine List.Nodup.map_on ?_ ledger.distinct
  intro first here second there same
  obtain ⟨_, found⟩ := ledger.held here
  obtain ⟨_, again⟩ := ledger.held there
  rw [← same, found] at again
  obtain ⟨place, generation⟩ := first
  cases same
  exact congrArg (Handle.mk second.slot) (Slot.mk.inj (Option.some.inj again)).1

/-- There are no more live handles than slots. -/
theorem length_le (ledger : Ledger files live) : live.length ≤ files.slots.length := by
  have inside : (live.map Lease.handle).map Handle.slot ⊆ List.range files.slots.length := by
    intro index member
    obtain ⟨handle, here, rfl⟩ := List.mem_map.mp member
    obtain ⟨_, found⟩ := ledger.held here
    exact List.mem_range.mpr (List.getElem?_eq_some_iff.mp found).1
  have fewer := (ledger.slots_nodup.subperm inside).length_le
  rwa [List.length_map, List.length_map, List.length_range] at fewer

/-- Where no slot is free, there is a live handle for each of them. -/
theorem length_of_full (ledger : Ledger files live) (full : files.freeSlot? = none) :
    live.length = files.slots.length := by
  have all : List.range files.slots.length ⊆ (live.map Lease.handle).map Handle.slot := by
    intro index bound
    obtain ⟨slot, found⟩ : ∃ slot, files.slots[index]? = some slot :=
      ⟨_, List.getElem?_eq_getElem (List.mem_range.mp bound)⟩
    obtain ⟨file, filled⟩ := freeSlot?_eq_none full found
    have resolved : files.resolve? ⟨index, slot.generation⟩ = some file := by
      rw [resolve?_of_slot found, if_pos rfl, filled]
    obtain ⟨lease, member, same⟩ := ledger.complete _ (Option.isSome_of_eq_some resolved)
    exact List.mem_map.mpr ⟨lease.handle, List.mem_map_of_mem member, congrArg Handle.slot same⟩
  have more := (List.nodup_range.subperm all).length_le
  rw [List.length_map, List.length_map, List.length_range] at more
  exact Nat.le_antisymm ledger.length_le more

end Ledger

omit [Hardware ω] in
theorem resolve?_ofDevices (devices : Devices ω) (patience : Nat) (handle : Handle) :
    (ofDevices devices patience).resolve? handle = none := by
  apply Option.eq_none_iff_forall_ne_some.mpr
  intro file resolved
  have member := List.mem_of_getElem? (resolve?_eq_some.mp resolved)
  cases (Slot.mk.inj (List.eq_of_mem_replicate member)).2

theorem ledger_ofDevices (devices : Devices ω) (patience : Nat) :
    Ledger (ofDevices devices patience) ([] : List (Lease ω)) where
  distinct := List.nodup_nil
  opened _ member := absurd member List.not_mem_nil
  complete handle resolved := by
    rw [resolve?_ofDevices] at resolved
    cases resolved

/-- Whatever the requests, the slots agree with the account of the handles. -/
theorem ledger_afterAll (devices : Devices ω) (patience : Nat) (requests : List Request) :
    Ledger (afterAll requests (ofDevices devices patience))
      (leases (history requests (ofDevices devices patience))) := by
  induction requests using List.reverseRecOn with
  | nil => exact ledger_ofDevices devices patience
  | append_singleton earlier request ih =>
      rw [afterAll_append, history_append, history, history, leases_concat]
      exact ih.performs (visit_performs request _)

/-! ## Generations -/

/-- Whether a visit frees a slot: it gives back a handle that stands for a file there. -/
def Visit.frees (index : Nat) (visit : Visit ω) : Bool :=
  match visit.request with
  | .close handle => handle.slot = index && (visit.before.resolve? handle).isSome
  | _ => false

/-- How often a slot was freed in visits. -/
def frees (index : Nat) (visits : List (Visit ω)) : Nat :=
  visits.countP (Visit.frees index)

/-- The generation of a slot. -/
def generation? (files : Files ω) (index : Nat) : Option UInt16 :=
  (files.slots[index]?).map Slot.generation

section

variable {files before after : Files ω} {request : Request} {handle : Handle} {index : Nat}

omit [Hardware ω] in
theorem frees_idle {outcome : Outcome FileError Answer}
    (idle : ∀ handle, request = .close handle → before.resolve? handle = none) :
    (Visit.mk request before outcome after).frees index = false := by
  unfold Visit.frees
  split
  · next handle asked =>
      rw [show before.resolve? handle = none from idle handle asked]
      exact Bool.and_false _
  · rfl

/-- A request adds one to the generation of the slot that it frees. -/
theorem Performs.generation? {outcome : Outcome FileError Answer} {generation : UInt16}
    (performs : Performs request before outcome after)
    (found : before.generation? index = some generation) :
    after.generation? index = some (generation +
      if (Visit.mk request before outcome after).frees index then 1 else 0) := by
  have unfreed (idle : ∀ handle, request = .close handle → before.resolve? handle = none) :
      some (generation + if (Visit.mk request before outcome after).frees index then 1 else 0) =
        before.generation? index := by
    rw [frees_idle idle, found]
    exact congrArg some (UInt16.add_zero generation)
  cases performs with
  | uses idle uses plain =>
      rw [unfreed idle, Files.generation?, uses.slots]
      rfl
  | aliased asked _ _ plain => exact (unfreed (by rw [asked]; nofun)).symm
  | named asked _ _ plain => exact (unfreed (by rw [asked]; nofun)).symm
  | @opens middle file place slot uses opened free vacant =>
      rw [unfreed (by rintro _ rfl; cases opened), Files.generation?, setSlot, uses.slots]
      by_cases here : place = index
      · subst here
        rw [Files.generation?, List.getElem?_set_self (List.getElem?_eq_some_iff.mp vacant).1,
          vacant]
        rfl
      · rw [List.getElem?_set_ne here]
        rfl
  | @closes _ _ closed file asked resolved uses plain =>
      have freed : (Visit.mk request before outcome after).frees index =
          decide (closed.slot = index) := by
        simp only [Visit.frees, asked, resolved, Option.isSome_some, Bool.and_true]
      obtain ⟨slot, held, rfl⟩ := Option.map_eq_some_iff.mp found
      rw [freed, Files.generation?, uses.slots, Files.free]
      by_cases here : closed.slot = index
      · rw [here, List.getElem?_modify_eq, held, decide_eq_true rfl]
        rfl
      · rw [List.getElem?_modify_ne _ _ here, held, decide_eq_false here]
        exact congrArg some (UInt16.add_zero slot.generation).symm

theorem visit_generation? (request : Request) {files : Files ω} {generation : UInt16}
    (found : files.generation? index = some generation) :
    (request.visit files).after.generation? index =
      some (generation + if (request.visit files).frees index then 1 else 0) :=
  (visit_performs request files).generation? found

/-- Over requests, the generation of a slot grows by as much as the slot was freed. -/
theorem generation?_afterAll (requests : List Request) {files : Files ω} {generation : UInt16}
    (found : files.generation? index = some generation) :
    (afterAll requests files).generation? index =
      some (generation + UInt16.ofNat (frees index (history requests files))) := by
  induction requests generalizing files generation with
  | nil => exact found.trans (congrArg some (UInt16.add_zero generation).symm)
  | cons request rest ih =>
      have step := ih (visit_generation? request found)
      rw [afterAll, step, history, frees, frees, List.countP_cons, UInt16.ofNat_add,
        UInt16.add_assoc, UInt16.add_comm (UInt16.ofNat _)]
      congr 3
      exact (apply_ite UInt16.ofNat ..).symm

/-- What is asked through a handle that stands for nothing is refused, and nothing happens. -/
theorem perform_stale (asked : request.handle? = some handle)
    (stale : before.resolve? handle = none) :
    request.perform.Ends before (.failed .invalidHandle) before := by
  have refused : (resolve handle : FileAct ω OpenFile).Ends before (.failed .invalidHandle)
      before := by
    rw [resolve, ends_read_bind, stale]
    exact ⟨rfl, rfl⟩
  have halted {α β : Type} {next : OpenFile → FileAct ω α} {answer : α → FileAct ω β} :
      ((resolve handle >>= next) >>= answer).Ends before (.failed .invalidHandle) before :=
    ends_bind.mpr (.inr ⟨_, ends_bind.mpr (.inr ⟨_, refused, .failed _⟩), .failed _⟩)
  cases request with
  | registerDevice | registerFile | openFile | openWindow => cases asked
  | close | read | write | erase | map | stat =>
      cases asked
      exact halted

omit [Hardware ω] in
theorem generation?_of_resolve? {file : OpenFile} (live : files.resolve? handle = some file) :
    files.generation? handle.slot = some handle.generation := by
  rw [generation?, resolve?_eq_some.mp live]
  rfl

/-- The generation of a slot tells how often it was freed since a handle to it was given back. -/
theorem generation?_given {file : OpenFile} (live : files.resolve? handle = some file)
    (later : List Request) :
    (afterAll (.close handle :: later) files).generation? handle.slot =
      some (handle.generation + 1 + UInt16.ofNat (frees handle.slot
        (history later ((Request.close handle).visit files).after))) := by
  have freed : ((Request.close handle).visit files).frees handle.slot = true := by
    simp only [Request.visit, Visit.frees, live, decide_true, Option.isSome_some, Bool.and_true]
  have given := visit_generation? (.close handle) (generation?_of_resolve? live)
  rw [freed, if_pos rfl] at given
  exact generation?_afterAll later given

/-- A handle that was given back stands for nothing, whatever happens then, until its slot was
freed so often that the generation comes round. -/
theorem resolve?_given {file : OpenFile} (live : files.resolve? handle = some file)
    {later : List Request}
    (few : frees handle.slot (history later ((Request.close handle).visit files).after) + 1 <
      UInt16.size) : (afterAll (.close handle :: later) files).resolve? handle = none := by
  apply Option.eq_none_iff_forall_ne_some.mpr
  intro other resolved
  have again := generation?_of_resolve? resolved
  rw [generation?_given live, UInt16.add_assoc] at again
  have wrapped := congrArg UInt16.toNat (Option.some.inj again)
  simp only [UInt16.toNat_add, UInt16.toNat_ofNat', UInt16.toNat_one, UInt16.size] at wrapped few
  have bound := handle.generation.toNat_lt
  omega

end

/-! ## Why no handle is left -/

section

variable {before after : Files ω} {aliasName : String}

omit [Hardware ω] in
theorem allocate_exhausted {file : OpenFile}
    (ends : (allocate file).Ends before (.failed .handlesExhausted) after) :
    before.freeSlot? = none := by
  rw [allocate, ends_read_bind] at ends
  rcases ends_ofOption_bind.mp ends with ⟨index, free, ends⟩ | ⟨full, _⟩
  · rcases ends_ofOption_bind.mp ends with ⟨slot, _, failed, _⟩ | ⟨missing, _⟩
    · cases failed
    · have bound := (List.findIdx?_eq_some_iff_getElem.mp free).1
      exact absurd bound (Nat.not_lt.mpr (List.getElem?_eq_none_iff.mp missing))
  · exact full

omit [Hardware ω] in
/-- A window is refused for want of a handle only if every slot is taken. -/
theorem openWindow_exhausted {window : FileWindow}
    (ends : (openWindow aliasName window).Ends before (.failed .handlesExhausted) after) :
    before.freeSlot? = none := by
  rw [openWindow, ends_read_bind] at ends
  rcases ends_ofExcept_bind.mp ends with ⟨entry, _, ends⟩ | ⟨_, missing, failed, _⟩
  · rcases ends_require_bind.mp ends with ⟨_, ends⟩ | ⟨_, failed, _⟩
    · rcases ends_require_bind.mp ends with ⟨_, ends⟩ | ⟨_, failed, _⟩
      · exact allocate_exhausted ends
      · cases failed
    · cases failed
  · cases findAlias_error missing
    cases failed

/-- What opens a name fails for want of a handle only if the device is a framed one, granted what
was asked of it up to the last call, and answered that one with this error. -/
theorem openTarget_exhausted {entry : DeviceAlias} {name : Option String} {flags : Nat}
    (ends : (openTarget entry name flags).Ends before (.failed .handlesExhausted) after) :
    entry.protocol = .framed ∧ ∃ calls,
      entry.device.Raised .handlesExhausted calls before.devices.world after.devices.world := by
  rw [openTarget, ends_read_bind] at ends
  split at ends
  case h_1 => cases ends.1
  case h_2 => rcases ends_ofOption_bind.mp ends with ⟨_, _, failed, _⟩ | ⟨_, failed, _⟩ <;> cases failed
  case h_3 => cases ends.1
  case h_4 file framed =>
    refine ⟨framed, ?_⟩
    rcases ends_bind.mp ends with ⟨_, _, _, failed, _⟩ | ⟨_, here, halts⟩
    · cases failed
    · cases halts
      rcases withDevice_cases here with ⟨_, failed, _⟩ | ⟨_, world, asked, rfl⟩
      · cases failed
      · exact (Link.relays_openFile (by decide) _ flags).raised asked

theorem openFile_raised {name : Option String} {flags : Nat}
    (ends : (openFile aliasName name flags).Ends before (.failed .handlesExhausted) after) :
    before.freeSlot? = none ∨ ∃ entry calls, before.alias? aliasName = some entry ∧
      entry.protocol = .framed ∧
      entry.device.Raised .handlesExhausted calls before.devices.world after.devices.world := by
  rw [openFile, ends_read_bind] at ends
  rcases ends_ofExcept_bind.mp ends with ⟨entry, found, ends⟩ | ⟨_, missing, failed, _⟩
  · rcases ends_require_bind.mp ends with ⟨_, ends⟩ | ⟨full, _⟩
    · rcases ends_bind.mp ends with ⟨target, middle, here, ends⟩ | ⟨_, here, halts⟩
      · refine .inl ((congrArg (List.findIdx? _) ?_).trans
          (allocate_exhausted (ends_note_bind.mp ends)))
        exact (respects_openTarget.ends here).slots.symm
      · cases halts
        obtain ⟨framed, calls, raised⟩ := openTarget_exhausted here
        exact .inr ⟨entry, calls, findAlias_ok found, framed, raised⟩
    · exact .inl (Option.isSome_eq_false_iff.mp full |> Option.isNone_iff_eq_none.mp)
  · cases findAlias_error missing
    cases failed

/-- Opening a name comes to nothing through the device, which speaks frames: of the calls that
opening makes, the device grants all but the last one, a read or a write, and answers that one
with the error. -/
def OpeningRefused (files : Files ω) (aliasName : String) (name : Option String) (flags : Nat)
    (error : FileError) : Prop :=
  ∃ entry, files.alias? aliasName = some entry ∧ entry.protocol = .framed ∧
    entry.device.Raised error (files.openingCalls aliasName name flags) files.devices.world
      ((openFile aliasName name flags).run files).state.devices.world

/-- A name is refused for want of a handle only if every slot is taken, or if the device is a
framed one and answered the last call that was made to open the name with that error. -/
theorem openFile_exhausted {files : Files ω} {name : Option String} {flags : Nat}
    (exhausted : ((openFile aliasName name flags).run files).outcome =
      .failed .handlesExhausted) :
    files.freeSlot? = none ∨ files.OpeningRefused aliasName name flags .handlesExhausted := by
  -- In a world without a record the calls are not determined, so the run on record is looked at.
  have plain : (openFile aliasName name flags).Ends files.watched.unwatched
      (.failed .handlesExhausted) ((openFile aliasName name flags).run files).state :=
    ⟨exhausted, rfl⟩
  obtain ⟨left, ends, seen⟩ := (mirrors_openFile aliasName name flags).ends plain
  rcases openFile_raised ends with full | ⟨entry, calls, named, framed, raised⟩
  · exact .inl full
  · have recorded : files.openingCalls aliasName name flags = calls := by
      rw [openingCalls, ends.2]
      exact Watched.recorder.entries_of_makes raised.makes
    refine .inr ⟨entry, named, framed, ?_⟩
    rw [recorded, ← seen]
    exact raised.unwatched

end

/-! ## Whatever is asked for -/

/-- **However files are asked for, given back and used, with whatever failures: no more handles
are live than there are slots, and no two are the same. Each stands for what it was opened for,
on the device that its alias still names, and nothing else is open. None is left only if all
slots are taken, unless a framed device answered the last read or write of the request itself
with that error. Once a handle was given back, all that is asked through it is refused and does
nothing, until its slot has been freed so often that the generation comes round.** -/
theorem handles_kept_and_refused (devices : Devices ω) (patience : Nat)
    (requests : List Request) :
    let fresh := ofDevices devices patience
    let files := afterAll requests fresh
    let live := leases (history requests fresh)
    (live.length ≤ Capacity.handles ∧ (live.map Lease.handle).Nodup) ∧
    (∀ lease ∈ live, lease.visit ∈ history requests fresh ∧
      lease.visit.outcome = .done (.opened lease.handle) ∧
      ∃ file, Opens lease.visit.before lease.visit.request file ∧
        files.resolve? lease.handle = some file ∧
        files.alias? file.device.name = some file.device) ∧
    (∀ handle, (files.resolve? handle).isSome → ∃ lease ∈ live, lease.handle = handle) ∧
    (∀ aliasName window,
      ((Request.openWindow aliasName window).visit files).outcome = .failed .handlesExhausted →
      live.length = Capacity.handles) ∧
    (∀ aliasName name flags,
      ((Request.openFile aliasName name flags).visit files).outcome = .failed .handlesExhausted →
      live.length = Capacity.handles ∨
      files.OpeningRefused aliasName name flags .handlesExhausted) ∧
    ∀ lease ∈ live, ∀ later,
      let left := afterAll (.close lease.handle :: later) files
      let freed := frees lease.handle.slot
        (history later ((Request.close lease.handle).visit files).after)
      left.generation? lease.handle.slot =
        some (lease.handle.generation + 1 + UInt16.ofNat freed) ∧
      (freed + 1 < UInt16.size → ∀ request : Request, request.handle? = some lease.handle →
        request.perform.Ends left (.failed .invalidHandle) left) := by
  intro fresh files live
  have ledger : Ledger files live := ledger_afterAll devices patience requests
  have sound : files.Sound := (sound_ofDevices devices patience).afterAll requests
  have full (none : files.freeSlot? = none) : live.length = Capacity.handles :=
    (ledger.length_of_full none).trans sound.room
  refine ⟨⟨sound.room ▸ ledger.length_le, ledger.distinct⟩, fun lease member => ?_,
    ledger.complete, fun aliasName window exhausted => ?_,
    fun aliasName name flags exhausted => ?_, fun lease member later => ?_⟩
  · obtain ⟨visited, handed⟩ := visit_of_mem_leases member
    obtain ⟨file, opens, resolved⟩ := ledger.opened lease member
    exact ⟨visited, handed, file, opens, resolved, (sound.resolved resolved).registered⟩
  · obtain ⟨ending, here, failed⟩ := ends_bind_pure.mp
      (ends_run (Request.openWindow aliasName window).perform files)
    cases Outcome.failed_of_map (failed.trans exhausted)
    exact full (openWindow_exhausted here)
  · obtain ⟨ending, here, failed⟩ := ends_bind_pure.mp
      (ends_run (Request.openFile aliasName name flags).perform files)
    have refused := here.1.trans (Outcome.failed_of_map (failed.trans exhausted))
    exact (openFile_exhausted refused).imp_left full
  · obtain ⟨file, _, resolved⟩ := ledger.opened lease member
    refine ⟨generation?_given resolved later, fun few request asked => ?_⟩
    exact perform_stale asked (resolve?_given resolved few)

/-- A bench with a serial line that fails when it is flushed. -/
def failingLine : Devices Bench.World :=
  ⟨[⟨.uart, [true]⟩], ⟨[(.uart, .script ⟨[], [], [], [], [], [.error .device], []⟩)], []⟩⟩

/-- Requests that take all handles, by the name of a window and without. -/
def taking : List Request :=
  [.registerDevice "line" ⟨.uart, 0⟩ .raw, .registerFile "part" ⟨16, 32⟩, .openFile "line" none 0,
    .openFile "line" (some "part") 0, .openWindow "line" ⟨0, 4⟩, .openFile "line" none 0]

theorem handles_kept_and_refused_line :
    let files := afterAll taking (ofDevices failingLine 1)
    let live := leases (history taking (ofDevices failingLine 1))
    let close := Request.close ⟨1, 0⟩
    let left := afterAll [close, .openWindow "line" ⟨0, 4⟩] files
    ((Request.openWindow "line" ⟨0, 4⟩).visit files).outcome = .failed .handlesExhausted ∧
      live.length = Capacity.handles ∧ (close.visit files).outcome = .failed .device ∧
      left.openCount = Capacity.handles ∧
      (Request.read ⟨1, 0⟩ 0 4).perform.Ends left (.failed .invalidHandle) left := by
  intro files live close left
  have kept := handles_kept_and_refused failingLine 1 taking
  have exhausted : ((Request.openWindow "line" ⟨0, 4⟩).visit files).outcome =
      .failed .handlesExhausted := by decide +kernel
  have resolved : (files.resolve? ⟨1, 0⟩).isSome := by decide +kernel
  obtain ⟨lease, member, same⟩ := kept.2.2.1 _ resolved
  have refused := (kept.2.2.2.2.2 lease member [.openWindow "line" ⟨0, 4⟩]).2
  rw [same] at refused
  exact ⟨exhausted, kept.2.2.2.1 _ _ exhausted, by decide +kernel, by decide +kernel,
    refused (by decide +kernel) (.read ⟨1, 0⟩ 0 4) rfl⟩

/-- A bench with a serial line that answers that no handle is left. -/
def boastfulLine : Devices Bench.World :=
  ⟨[⟨.uart, [true]⟩],
    ⟨[(.uart, .script ⟨[], [], [], [.error .handlesExhausted], [], [], []⟩)], []⟩⟩

/-- No handle is live, and yet a name is refused because no handle is left. -/
theorem exhausted_with_all_slots_free :
    leases (history [.registerDevice "line" ⟨.uart, 0⟩ .framed] (ofDevices boastfulLine 1)) = [] ∧
      ((Request.openFile "line" (some "file") 0).visit
        (afterAll [.registerDevice "line" ⟨.uart, 0⟩ .framed]
          (ofDevices boastfulLine 1))).outcome = .failed .handlesExhausted := by
  refine ⟨rfl, by decide +kernel⟩

/-- The one call that was made to open the name is the write that was answered so. -/
example :
    ((afterAll [.registerDevice "line" ⟨.uart, 0⟩ .framed]
      (ofDevices boastfulLine 1)).openingCalls "line" (some "file") 0).map DeviceEntry.granted =
        [false] := by
  decide +kernel

end Files

end Bootloader
