import Bootloader.Bench.World
import Bootloader.Proofs.Device.Calls

/-!
# Storage in memory, as a device of a world

A class of devices of a world can be storage in memory (`RamHost`): what its instances answer
and what becomes of their bytes is what the storage says, and calls to other classes leave it
alone. On a bench, every class where storage is plugged in is one (`Bench.World.ramHost`).

Of such a class one instance is looked at by itself: reads, writes, erasures and questions
about use in place are about its region, and nothing else changes it (`RamHost.region_others`).
-/

set_option autoImplicit false

namespace Bootloader

/-! ## Regions -/

/-- Laying nothing over bytes leaves them alone. -/
@[simp] theorem Bytes.overlay_nil (bytes : Bytes) (offset : Nat) : bytes.overlay offset [] = bytes := by
  rw [overlay, List.append_nil, List.length_nil, Nat.add_zero, List.take_append_drop]

namespace RamRegion

/-- A read of a region brings what the region has there. -/
theorem read_eq (region : RamRegion) (offset length : Nat) :
    region.read offset length =
      region.bytes.slice offset (region.available offset length) := by
  rw [read, Bytes.slice, Bytes.slice, List.take_eq_take_min, List.length_drop]
  rfl

/-- A write lays over as much as there is room for, which may be nothing. -/
theorem write_eq (region : RamRegion) (offset : Nat) (data : Bytes) :
    region.write offset data = { region with
      bytes := region.bytes.overlay offset (data.take (region.available offset data.length)) } := by
  unfold write
  split
  · rfl
  · next beyond =>
      have none : region.available offset data.length = 0 := by
        unfold available
        omega
      rw [none, List.take_zero, Bytes.overlay_nil]

theorem erase_eq (region : RamRegion) (offset length : Nat) :
    region.erase offset length = { region with
      bytes := region.bytes.overlay offset
        (List.replicate (region.available offset length) 0xff) } := by
  have whole : region.available offset (region.available offset length) =
      region.available offset length := by
    unfold available
    omega
  rw [erase, write_eq, List.length_replicate, whole, List.take_of_length_le (by simp)]

end RamRegion

/-! ## Storage of a world -/

variable {ω : Type}

/-- An answer of a world is the answer of the storage that it holds. -/
def Follows {α : Type} (storage? : ω → Option RamStorage) (reply : Reply ω α)
    (answer : Reply RamStorage α) : Prop :=
  reply.result = answer.result ∧ storage? reply.world = some answer.world

/-- A class of devices of a world that is storage in memory. -/
structure RamHost (ω : Type) [Hardware ω] (major : Major) where
  storage? : ω → Option RamStorage
  read : ∀ {world : ω} {storage : RamStorage}, storage? world = some storage →
    ∀ minor offset length timeout,
      Follows storage? (Hardware.read world ⟨major, minor⟩ offset length timeout)
        (storage.read minor offset length)
  write : ∀ {world : ω} {storage : RamStorage}, storage? world = some storage →
    ∀ minor offset data, Follows storage? (Hardware.write world ⟨major, minor⟩ offset data)
      (storage.write minor offset data)
  erase : ∀ {world : ω} {storage : RamStorage}, storage? world = some storage →
    ∀ minor offset length flags,
      Follows storage? (Hardware.erase world ⟨major, minor⟩ offset length flags)
        (storage.erase minor offset length)
  map : ∀ {world : ω} {storage : RamStorage}, storage? world = some storage →
    ∀ minor request, Follows storage? (Hardware.map world ⟨major, minor⟩ request)
      (storage.map minor request)
  others : ∀ (call : DeviceCall) (world : ω), call.device.major ≠ major →
    storage? (call.make world).2 = storage? world

namespace RamHost

variable [Hardware ω] {major : Major} (host : RamHost ω major)

/-- The region of an instance. -/
def region? (minor : Nat) (world : ω) : Option RamRegion :=
  (host.storage? world).bind fun storage => storage.regions[minor]?

variable {host} {minor : Nat} {world : ω} {region : RamRegion}

/-- An instance with a region belongs to storage that has the region. -/
theorem storage_of_region (here : host.region? minor world = some region) :
    ∃ storage, host.storage? world = some storage ∧ storage.regions[minor]? = some region :=
  Option.bind_eq_some_iff.mp here

theorem region_of_follows {α : Type} {reply : Reply ω α} {answer : Reply RamStorage α}
    (follows : Follows host.storage? reply answer)
    (there : answer.world.regions[minor]? = some region) :
    host.region? minor reply.world = some region := by
  rw [region?, follows.2]
  exact there

theorem region_read (here : host.region? minor world = some region)
    (offset length timeout : Nat) :
    (Hardware.read world ⟨major, minor⟩ offset length timeout).result =
      .ok (region.read offset length) ∧
    host.region? minor (Hardware.read world ⟨major, minor⟩ offset length timeout).world =
      some region := by
  obtain ⟨storage, held, found⟩ := storage_of_region here
  have follows := host.read held minor offset length timeout
  rw [RamStorage.read, RamStorage.answer, found] at follows
  exact ⟨follows.1, region_of_follows follows found⟩

theorem region_map (here : host.region? minor world = some region) (request : MapRequest) :
    (Hardware.map world ⟨major, minor⟩ request).result = region.map request ∧
    host.region? minor (Hardware.map world ⟨major, minor⟩ request).world = some region := by
  obtain ⟨storage, held, found⟩ := storage_of_region here
  have follows := host.map held minor request
  rw [RamStorage.map, RamStorage.answer, found] at follows
  exact ⟨follows.1, region_of_follows follows found⟩

theorem region_write (here : host.region? minor world = some region) (offset : Nat)
    (data : Bytes) :
    (Hardware.write world ⟨major, minor⟩ offset data).result =
      .ok (region.available offset data.length) ∧
    host.region? minor (Hardware.write world ⟨major, minor⟩ offset data).world =
      some (region.write offset data) := by
  obtain ⟨storage, held, found⟩ := storage_of_region here
  have follows := host.write held minor offset data
  rw [RamStorage.write, found] at follows
  exact ⟨follows.1, region_of_follows follows
    (List.getElem?_set_self (List.getElem?_eq_some_iff.mp found).1)⟩

theorem region_erase (here : host.region? minor world = some region)
    (offset length flags : Nat) :
    (Hardware.erase world ⟨major, minor⟩ offset length flags).result =
      .ok (region.available offset length) ∧
    host.region? minor (Hardware.erase world ⟨major, minor⟩ offset length flags).world =
      some (region.erase offset length) := by
  obtain ⟨storage, held, found⟩ := storage_of_region here
  have follows := host.erase held minor offset length flags
  rw [RamStorage.erase, found] at follows
  exact ⟨follows.1, region_of_follows follows
    (List.getElem?_set_self (List.getElem?_eq_some_iff.mp found).1)⟩

/-- What is read, written, erased or asked for elsewhere leaves a region alone. -/
theorem region_others (here : host.region? minor world = some region) {call : DeviceCall}
    (elsewhere : call.device ≠ ⟨major, minor⟩) (ranged : call.request.range?.isSome) :
    host.region? minor (call.make world).2 = some region := by
  obtain ⟨⟨other, place⟩, request⟩ := call
  by_cases same : other = major
  · subst same
    have apart : place ≠ minor := fun same => elsewhere (congrArg (DeviceId.mk other) same)
    obtain ⟨storage, held, found⟩ := storage_of_region here
    have kept (changed : RamRegion) : (storage.regions.set place changed)[minor]? = some region :=
      (List.getElem?_set_ne apart).trans found
    cases request with
    | init | done | sync => cases ranged
    | read offset length timeout =>
        refine region_of_follows (host.read held place offset length timeout) ?_
        unfold RamStorage.read RamStorage.answer
        split <;> exact found
    | write offset data =>
        refine region_of_follows (host.write held place offset data) ?_
        unfold RamStorage.write
        split
        · exact kept _
        · exact found
    | erase offset length flags =>
        refine region_of_follows (host.erase held place offset length flags) ?_
        unfold RamStorage.erase
        split
        · exact kept _
        · exact found
    | map request =>
        refine region_of_follows (host.map held place request) ?_
        unfold RamStorage.map RamStorage.answer
        split <;> exact found
  · rw [region?, host.others ⟨⟨other, place⟩, request⟩ world same]
    exact here

end RamHost

/-- Storage in a world whose calls are put on record. -/
def RamHost.watched [Hardware ω] {major : Major} (host : RamHost ω major) :
    RamHost (Watched ω) major where
  storage? watched := host.storage? watched.world
  read held minor offset length timeout := host.read held minor offset length timeout
  write held minor offset data := host.write held minor offset data
  erase held minor offset length flags := host.erase held minor offset length flags
  map held minor request := host.map held minor request
  others call watched elsewhere := by
    rw [Watched.make_eq]
    exact host.others call watched.world elsewhere

/-! ## Storage on a bench -/

namespace Bench.World

/-- The storage that is plugged in for a class. -/
def storage? (major : Major) (world : World) : Option RamStorage :=
  match world.gadget? major with
  | some (.ram storage) => some storage
  | _ => none

variable {world : World} {major other : Major} {gadget : Gadget}

theorem gadget?_replace : (world.replace major gadget).gadget? other =
    (world.gadget? other).map fun old => if other = major then gadget else old := by
  have same : (fun entry : Major × Gadget => decide
      ((if entry.1 = major then (major, gadget) else entry).1 = other)) =
      fun entry => decide (entry.1 = other) := by
    funext entry
    split
    · next here => rw [here]
    · rfl
  unfold gadget? replace
  rw [List.find?_map, Function.comp_def, same, Option.map_map, Option.map_map]
  cases found : world.gadgets.find? fun entry => decide (entry.1 = other) with
  | none => rfl
  | some entry =>
      have named := List.find?_some found
      obtain rfl : entry.1 = other := of_decide_eq_true named
      refine congrArg some ?_
      show Prod.snd (if entry.1 = major then (major, gadget) else entry) = _
      split <;> rfl

/-- A device that is plugged in can be replaced. -/
theorem gadget?_replace_self {old : Gadget} (plugged : world.gadget? major = some old) :
    (world.replace major gadget).gadget? major = some gadget := by
  rw [gadget?_replace, plugged]
  exact congrArg some (if_pos rfl)

theorem gadget?_replace_ne (differs : other ≠ major) :
    (world.replace major gadget).gadget? other = world.gadget? other := by
  rw [gadget?_replace]
  simp only [if_neg differs, Option.map_id_fun', id_eq]

theorem gadget?_foldl_record {α : Type} (calls : List α) (device : DeviceId) (call : α → Call) :
    (calls.foldl (fun world each => world.record device (call each)) world).gadget? other =
      world.gadget? other := by
  induction calls generalizing world with
  | nil => rfl
  | cons each rest ih => exact ih

/-- A call leaves the devices of other classes alone. -/
theorem gadget?_make (call : DeviceCall) (world : World) (elsewhere : call.device.major ≠ major) :
    (call.make world).2.gadget? major = world.gadget? major := by
  obtain ⟨device, request⟩ := call
  have kept {start : World} (same : start.gadget? major = world.gadget? major) (gadget : Gadget) :
      (start.replace device.major gadget).gadget? major = world.gadget? major :=
    (gadget?_replace_ne (Ne.symm elsewhere)).trans same
  cases request with
  | write offset data =>
      simp only [DeviceCall.make, Hardware.write, write, Reply.settled]
      split
      · exact kept rfl _
      · exact kept rfl _
      · exact kept (gadget?_foldl_record _ _ _) _
      · rfl
  | init | done | read | erase | sync | map =>
      simp only [DeviceCall.make, Hardware.init, init, Hardware.done, done, Hardware.read, read,
        Hardware.erase, erase, Hardware.sync, sync, Hardware.map, map, Reply.settled]
      split
      all_goals first | exact kept rfl _ | rfl

/-- What storage that is plugged in answers is given to the world. -/
theorem follows_ofRam {α : Type} {device : DeviceId} {old : Gadget} {reply : Reply RamStorage α}
    (plugged : world.gadget? device.major = some old) :
    Follows (storage? device.major) (world.ofRam device reply) reply := by
  refine ⟨rfl, ?_⟩
  rw [storage?, ofRam, gadget?_replace_self plugged]

theorem gadget_of_storage? {storage : RamStorage} (held : world.storage? major = some storage) :
    world.gadget? major = some (.ram storage) := by
  unfold storage? at held
  split at held
  · next found => exact found.trans (congrArg (some ∘ Gadget.ram) (Option.some.inj held))
  · cases held

/-- Storage that is plugged in for a class is what the class of the bench is. -/
def ramHost (major : Major) : RamHost World major where
  storage? := storage? major
  read held minor offset length timeout := by
    have plugged := gadget_of_storage? held
    simp only [Hardware.read, World.read, plugged]
    exact follows_ofRam plugged
  write held minor offset data := by
    have plugged := gadget_of_storage? held
    simp only [Hardware.write, World.write, plugged]
    exact follows_ofRam plugged
  erase held minor offset length flags := by
    have plugged := gadget_of_storage? held
    simp only [Hardware.erase, World.erase, plugged]
    exact follows_ofRam plugged
  map held minor request := by
    have plugged := gadget_of_storage? held
    simp only [Hardware.map, World.map, plugged]
    exact follows_ofRam plugged
  others call world elsewhere := by
    rw [storage?, storage?, gadget?_make call world elsewhere]

end Bench.World

end Bootloader
