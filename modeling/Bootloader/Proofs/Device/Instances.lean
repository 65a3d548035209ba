import Bootloader.Device.Manager
import Bootloader.Proofs.Device.Calls
import Mathlib.Data.List.Nodup

/-!
# Instances of devices

The instances of all backends are listed in the order of registration, each with whether it is in
use. Bringing them up asks every one of them once, in this order, and nothing else; afterwards
those are in use that granted it (`initAll_ends`). Releasing them asks those in use once each, in
this order, and nothing else; afterwards none is in use (`doneAll_releases`).

Backends as they are after registration have different classes, so no instance is listed twice,
and none of them is in use (`Unprobed.register`).
-/

set_option autoImplicit false

namespace Bootloader

open Act

/-- The instances of a class from a number on, and which of them are in use. -/
def Major.instancesFrom (major : Major) (minor : Nat) : List Bool → List (DeviceId × Bool)
  | [] => []
  | used :: rest => (⟨major, minor⟩, used) :: major.instancesFrom (minor + 1) rest

/-- The instances of a backend, and which of them are in use. -/
def Backend.instances (backend : Backend) : List (DeviceId × Bool) :=
  backend.major.instancesFrom 0 backend.probed

/-- Instances that are asked to come up, and whether they do. -/
def initEntries (instances : List (DeviceId × Bool)) : List DeviceEntry :=
  instances.map fun entry => ⟨⟨entry.1, .init⟩, entry.2⟩

/-- The releases of those instances that are in use. -/
def doneCalls (instances : List (DeviceId × Bool)) : List DeviceCall :=
  (instances.filter Prod.snd).map fun entry => ⟨entry.1, .done⟩

namespace Devices

variable {ω : Type} {devices : Devices ω} {device : DeviceId}

/-- All instances in the order of registration, and which of them are in use. -/
def instances (devices : Devices ω) : List (DeviceId × Bool) :=
  devices.backends.flatMap Backend.instances

/-- All instances in the order of registration. -/
def ids (devices : Devices ω) : List DeviceId :=
  devices.instances.map Prod.fst

/-! ## Which instances there are -/

/-- Which instances a class has is a matter of their number. -/
theorem instancesFrom_ids (major : Major) (minor : Nat) (probed : List Bool) :
    (major.instancesFrom minor probed).map Prod.fst =
      (List.range' minor probed.length).map fun minor => ⟨major, minor⟩ := by
  induction probed generalizing minor with
  | nil => rfl
  | cons used rest ih => exact congrArg _ (ih (minor + 1))

theorem mem_instancesFrom {major : Major} {start index : Nat} {probed : List Bool} {used : Bool}
    (found : probed[index]? = some used) :
    (⟨major, start + index⟩, used) ∈ major.instancesFrom start probed := by
  induction probed generalizing start index with
  | nil => cases found
  | cons first rest ih =>
      cases index with
      | zero =>
          cases found
          exact List.mem_cons_self
      | succ index =>
          have later := @ih (start + 1) index found
          rw [Nat.add_right_comm] at later
          exact List.mem_cons_of_mem _ later

/-- An instance that can be asked is listed as one in use. -/
theorem mem_instances_of_isUp (up : devices.isUp device = true) :
    (device, true) ∈ devices.instances := by
  unfold isUp backend? at up
  split at up
  case h_1 backend found =>
    have major : backend.major = device.major := by simpa using List.find?_some found
    refine List.mem_flatMap.mpr ⟨backend, List.mem_of_find?_eq_some found, ?_⟩
    have used : backend.probed[device.minor]? = some true := by
      rw [List.getD_eq_getElem?_getD] at up
      cases there : backend.probed[device.minor]? with
      | none =>
          rw [there] at up
          cases up
      | some used =>
          rw [there] at up
          exact congrArg some up
    have listed := @mem_instancesFrom backend.major 0 _ _ _ used
    rw [Nat.zero_add, major] at listed
    rw [Backend.instances, major]
    exact listed
  case h_2 => cases up

/-- Where nothing is in use, nothing can be asked. -/
theorem isUp_eq_false (down : ∀ entry ∈ devices.instances, entry.2 = false) (device : DeviceId) :
    devices.isUp device = false := by
  cases up : devices.isUp device with
  | false => rfl
  | true => exact down _ (mem_instances_of_isUp up)

/-! ## Before anything was probed -/

/-- Every class has one backend at most, and no instance is in use. -/
structure Unprobed (devices : Devices ω) : Prop where
  distinct : (devices.backends.map Backend.major).Nodup
  down : ∀ backend ∈ devices.backends, ∀ used ∈ backend.probed, used = false

/-- Registering backends leaves them unprobed. -/
theorem Unprobed.register {before after : Devices ω} (unprobed : before.Unprobed) {major : Major}
    {minors : Nat} {plug : ω → ω} {outcome : Outcome FileError Unit}
    (ends : (register major minors plug).Ends before outcome after) : after.Unprobed := by
  rw [Devices.register, ends_read_bind] at ends
  rcases ends_require_bind.mp ends with ⟨fresh, ends⟩ | ⟨_, _, rfl⟩
  · obtain ⟨_, rfl⟩ := ends_put.mp ends
    refine ⟨?_, fun backend member => ?_⟩
    · rw [List.map_append]
      refine List.nodup_append'.mpr ⟨unprobed.distinct, List.nodup_singleton _, ?_⟩
      rw [List.map_singleton, List.disjoint_singleton]
      intro taken
      obtain ⟨backend, member, same⟩ := List.mem_map.mp taken
      have missing := List.find?_eq_none.mp (Option.isNone_iff_eq_none.mp fresh) backend member
      exact missing (decide_eq_true same)
    · rcases List.mem_append.mp member with member | member
      · exact unprobed.down backend member
      · rw [List.mem_singleton.mp member]
        exact fun used among => List.eq_of_mem_replicate among
  · exact unprobed

/-- No instance is listed twice. -/
theorem Unprobed.ids_nodup (unprobed : devices.Unprobed) : devices.ids.Nodup := by
  rw [ids, instances, List.map_flatMap, List.nodup_flatMap]
  refine ⟨fun backend _ => ?_, ?_⟩
  · rw [Backend.instances, instancesFrom_ids]
    exact List.Nodup.map (fun _ _ same => (DeviceId.mk.inj same).2) List.nodup_range'
  · refine (List.pairwise_map.mp unprobed.distinct).imp fun {first second} differs => ?_
    have majors : ∀ (backend : Backend), ∀ device ∈ backend.instances.map Prod.fst,
        device.major = backend.major := by
      intro backend device member
      rw [Backend.instances, instancesFrom_ids] at member
      obtain ⟨_, _, rfl⟩ := List.mem_map.mp member
      rfl
    exact fun device one other => differs
      ((majors first device one).symm.trans (majors second device other))

/-! ## Bringing instances up -/

section

variable [Hardware ω]

/-- To probe an instance is to ask it once. -/
theorem probe_runs (device : DeviceId) (world : ω) :
    (probe device).Ends world (.done ((⟨device, .init⟩ : DeviceCall).make world).1)
      ((⟨device, .init⟩ : DeviceCall).make world).2 := by
  have asked : (device.init : DeviceAct ω Unit).Ends world
      (Outcome.ofExcept (Hardware.init world device).result) (Hardware.init world device).world :=
    ⟨rfl, rfl⟩
  refine ends_attempt_bind.mpr ⟨_, _, asked, ?_⟩
  show Ends _ _ (.done (Hardware.init world device).result.isOk) (Hardware.init world device).world
  cases (Hardware.init world device).result with
  | ok granted => exact ⟨rfl, rfl⟩
  | error error => exact ⟨rfl, rfl⟩

theorem probeFrom_runs (major : Major) {probed : List Bool} (down : ∀ used ∈ probed, used = false)
    (minor : Nat) (before : ω) :
    ∃ granted count after,
      (probeFrom major minor probed).Ends before (.done (granted, count)) after ∧
      granted.length = probed.length ∧
      Makes (initEntries (major.instancesFrom minor granted)) before after := by
  induction probed generalizing minor before with
  | nil => exact ⟨[], 0, before, ⟨rfl, rfl⟩, rfl, .nothing before⟩
  | cons used rest ih =>
      obtain rfl := down used List.mem_cons_self
      have here := probe_runs ⟨major, minor⟩ before
      obtain ⟨others, count, after, there, length, makes⟩ :=
        ih (fun used member => down used (List.mem_cons_of_mem _ member)) (minor + 1) _
      exact ⟨_ :: others, _, after,
        ends_bind_done.mpr ⟨_, _, here, ends_bind_done.mpr ⟨_, _, there, rfl, rfl⟩⟩,
        congrArg (· + 1) length, .call _ makes⟩

theorem probeBackends_runs {backends : List Backend}
    (down : ∀ backend ∈ backends, ∀ used ∈ backend.probed, used = false) (before : ω) :
    ∃ others count after, (probeBackends backends).Ends before (.done (others, count)) after ∧
      (others.flatMap Backend.instances).map Prod.fst =
        (backends.flatMap Backend.instances).map Prod.fst ∧
      Makes (initEntries (others.flatMap Backend.instances)) before after := by
  induction backends generalizing before with
  | nil => exact ⟨[], 0, before, ⟨rfl, rfl⟩, rfl, .nothing before⟩
  | cons backend rest ih =>
      obtain ⟨probed, up, middle, here, length, makes⟩ :=
        probeFrom_runs backend.major (down backend List.mem_cons_self) 0 before
      obtain ⟨others, count, after, there, known, further⟩ :=
        ih (fun backend member => down backend (List.mem_cons_of_mem _ member)) middle
      refine ⟨{ backend with probed } :: others, _, after,
        ends_bind_done.mpr ⟨_, _, here, ends_bind_done.mpr ⟨_, _, there, rfl, rfl⟩⟩, ?_, ?_⟩
      · rw [List.flatMap_cons, List.flatMap_cons, List.map_append, List.map_append, known,
          Backend.instances, Backend.instances, instancesFrom_ids, instancesFrom_ids, length]
      · rw [List.flatMap_cons, initEntries, List.map_append]
        exact makes.append further

/-- **Every instance is asked to come up once, in order, and those are in use that did.** -/
theorem initAll_ends {before after : Devices ω} (unprobed : before.Unprobed)
    {outcome : Outcome FileError Nat} (ends : (initAll).Ends before outcome after) :
    (∃ count, outcome = .done count) ∧ after.ids = before.ids ∧
      Makes (initEntries after.instances) before.world after.world := by
  obtain ⟨backends, count, world, probing, known, makes⟩ :=
    probeBackends_runs unprobed.down before.world
  have runs : (initAll).Ends before (.done count) { before with backends, world } :=
    ends_read_bind.mpr (ends_bind_done.mpr ⟨_, _, ends_zoom.mpr ⟨_, probing, rfl⟩, rfl, rfl⟩)
  obtain ⟨rfl, rfl⟩ := ends.unique runs
  exact ⟨⟨count, rfl⟩, known, makes⟩

/-! ## Releasing instances -/

/-- To release an instance is to ask it once; a refusal is only reported. -/
theorem release_runs (device : DeviceId) (world : ω) :
    (release device).Ends world (.done ()) ((⟨device, .done⟩ : DeviceCall).make world).2 := by
  have asked : (device.done : DeviceAct ω Unit).Ends world
      (Outcome.ofExcept (Hardware.done world device).result) (Hardware.done world device).world :=
    ⟨rfl, rfl⟩
  refine ends_attempt_bind.mpr ⟨_, _, asked, ?_⟩
  show Ends _ _ (.done ()) (Hardware.done world device).world
  cases (Hardware.done world device).result with
  | ok granted => exact ⟨rfl, rfl⟩
  | error error => exact ⟨rfl, rfl⟩

theorem releaseFrom_runs (major : Major) (minor : Nat) (probed : List Bool) (before : ω) :
    ∃ entries after, (releaseFrom major minor probed).Ends before (.done ()) after ∧
      Makes entries before after ∧
      entries.map DeviceEntry.call = doneCalls (major.instancesFrom minor probed) := by
  induction probed generalizing minor before with
  | nil => exact ⟨[], before, ⟨rfl, rfl⟩, .nothing before, rfl⟩
  | cons used rest ih =>
      cases used with
      | false => exact ih (minor + 1) before
      | true =>
          have here := release_runs ⟨major, minor⟩ before
          obtain ⟨entries, after, there, makes, calls⟩ := ih (minor + 1) _
          exact ⟨_ :: entries, after, ends_bind_done.mpr ⟨_, _, here, there⟩, .call _ makes,
            congrArg (List.cons _) calls⟩

theorem releaseBackends_runs (backends : List Backend) (before : ω) :
    ∃ entries after, (releaseBackends backends).Ends before (.done ()) after ∧
      Makes entries before after ∧
      entries.map DeviceEntry.call = doneCalls (backends.flatMap Backend.instances) := by
  induction backends generalizing before with
  | nil => exact ⟨[], before, ⟨rfl, rfl⟩, .nothing before, rfl⟩
  | cons backend rest ih =>
      obtain ⟨entries, middle, here, makes, calls⟩ :=
        releaseFrom_runs backend.major 0 backend.probed before
      obtain ⟨others, after, there, further, later⟩ := ih middle
      refine ⟨entries ++ others, after, ends_bind_done.mpr ⟨_, _, here, there⟩,
        makes.append further, ?_⟩
      rw [List.map_append, calls, later, List.flatMap_cons, doneCalls, doneCalls, doneCalls,
        List.filter_append, List.map_append]
      rfl

/-- Where all marks are taken away, no instance is in use. -/
theorem instancesFrom_released (major : Major) (minor : Nat) (probed : List Bool) :
    ∀ entry ∈ major.instancesFrom minor (probed.map fun _ => false), entry.2 = false := by
  induction probed generalizing minor with
  | nil => exact fun _ member => absurd member List.not_mem_nil
  | cons used rest ih =>
      intro entry member
      rcases List.mem_cons.mp member with rfl | member
      · rfl
      · exact ih (minor + 1) entry member

/-- **Every instance in use is released once, in order, and none is in use any more.** -/
theorem doneAll_releases {before after : Devices ω} {outcome : Outcome FileError Unit}
    (ends : (doneAll).Ends before outcome after) :
    outcome = .done () ∧ (∃ entries, Makes entries before.world after.world ∧
      entries.map DeviceEntry.call = doneCalls before.instances) ∧
      ∀ entry ∈ after.instances, entry.2 = false := by
  obtain ⟨entries, world, releasing, makes, calls⟩ :=
    releaseBackends_runs before.backends before.world
  have runs : (doneAll).Ends before (.done ()) { before with
      backends := before.backends.map fun backend =>
        { backend with probed := backend.probed.map fun _ => false }
      world } :=
    ends_read_bind.mpr (ends_bind_done.mpr ⟨_, _, ends_zoom.mpr ⟨_, releasing, rfl⟩, rfl, rfl⟩)
  obtain ⟨rfl, rfl⟩ := ends.unique runs
  refine ⟨rfl, ⟨entries, makes, calls⟩, fun entry member => ?_⟩
  obtain ⟨backend, among, listed⟩ := List.mem_flatMap.mp member
  obtain ⟨former, _, rfl⟩ := List.mem_map.mp among
  exact instancesFrom_released former.major 0 former.probed entry listed

end

end Devices

end Bootloader
