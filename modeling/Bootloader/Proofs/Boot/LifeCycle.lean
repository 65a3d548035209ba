import Bootloader.Proofs.Boot.Conduct
import Bootloader.Proofs.Boot.Session

/-!
# The life of devices

A loader is started on devices that were not probed before. Then it is given command lines, and
its files are given requests, in any order and with any outcome (`Event`). All calls that are
made to devices in the meantime are on record. They come in three parts: first every instance is
asked to come up, once; then those that came up are used; and the first launch that is made
releases these, once each. After it there are no further calls, whatever files are still open
and whatever is asked (`devices_live_once`).
-/

set_option autoImplicit false

namespace Bootloader

open Act

variable {ω μ : Type}

/-- Whether an instance came up when it was asked to. -/
def cameUp (inits : List DeviceEntry) (device : DeviceId) : Bool :=
  ⟨⟨device, .init⟩, true⟩ ∈ inits

section

variable {instances : List (DeviceId × Bool)} {device : DeviceId}

/-- Where instances are in use exactly if they came up, those came up that are listed so. -/
theorem cameUp_iff : cameUp (initEntries instances) device = true ↔ (device, true) ∈ instances := by
  rw [cameUp, decide_eq_true_iff, initEntries, List.mem_map]
  constructor
  · rintro ⟨⟨_, _⟩, member, same⟩
    cases same
    exact member
  · exact fun member => ⟨_, member, rfl⟩

/-- The instances to release are those that came up. -/
theorem doneCalls_eq (distinct : (instances.map Prod.fst).Nodup) :
    doneCalls instances =
      ((instances.map Prod.fst).filter (cameUp (initEntries instances))).map
        fun device => ⟨device, .done⟩ := by
  have used : ∀ entry ∈ instances,
      entry.2 = (cameUp (initEntries instances) ∘ Prod.fst) entry := by
    rintro ⟨device, used⟩ member
    cases used with
    | true => exact (cameUp_iff.mpr member).symm
    | false =>
        refine (Bool.eq_false_iff.mpr fun up => ?_).symm
        have same := List.inj_on_of_nodup_map distinct member (cameUp_iff.mp up) rfl
        cases same
  rw [doneCalls, List.filter_map, List.map_map, List.filter_congr used]
  rfl

end

namespace Loader

/-- What a loader is given: a command line, or a request to its files. -/
inductive Event where
  | line (text : String)
  | ask (request : Files.Request)
  deriving DecidableEq, Repr

variable [Hardware ω] [PhysicalMemory μ]

/-- The loader after an event. -/
def Event.apply (event : Event) (loader : Loader ω μ) : Loader ω μ :=
  match event with
  | .line text => ((execute text).run loader).state
  | .ask request => { loader with files := (request.visit loader.files).after }

/-- The loader after events that come one after the other. -/
def afterEvents : List Event → Loader ω μ → Loader ω μ
  | [], loader => loader
  | event :: rest, loader => afterEvents rest (event.apply loader)

/-- An event that launches where the loader stands: a line that calls for it, and succeeds. -/
def Event.Launches (event : Event) (loader : Loader ω μ) : Prop :=
  ∃ text, event = .line text ∧ Launched text ((execute text).run loader).outcome

/-- One of the events launches where the loader stands when it comes. -/
def HandsOff : List Event → Loader ω μ → Prop
  | [], _ => False
  | event :: rest, loader => event.Launches loader ∨ HandsOff rest (event.apply loader)

/-! ## One event -/

variable {loader : Loader ω μ} {event : Event}

theorem event_talks (quiet : ¬ event.Launches loader) :
    Files.Talks loader.files (event.apply loader).files := by
  cases event with
  | line text =>
      have ends := ends_run (execute text : BootAct ω μ Exit) loader
      exact (execute_conducts ends fun launched => quiet ⟨text, rfl, launched⟩).1
  | ask request => exact (Files.visit_performs request loader.files).talks

theorem event_releases (launches : event.Launches loader) :
    (Devices.doneAll : ManagerAct ω Unit).Ends loader.files.devices (.done ())
      (event.apply loader).files.devices := by
  obtain ⟨text, rfl, launched⟩ := launches
  have ends := ends_run (execute text : BootAct ω μ Exit) loader
  obtain ⟨devices, released, same⟩ := execute_releases ends launched
  show (Devices.doneAll : ManagerAct ω Unit).Ends _ _
    ((execute text).run loader).state.files.devices
  rw [same]
  exact released

/-! ## After the release -/

/-- No instance is in use. -/
def Released (loader : Loader ω μ) : Prop :=
  ∀ entry ∈ loader.files.devices.instances, entry.2 = false

/-- Once the devices are released, nothing is asked of them any more. -/
theorem Released.after (released : Released loader) (event : Event) :
    (event.apply loader).files.devices.world = loader.files.devices.world ∧
      Released (event.apply loader) := by
  by_cases launches : event.Launches loader
  · obtain ⟨_, ⟨entries, makes, calls⟩, out⟩ := Devices.doneAll_releases (event_releases launches)
    have none : doneCalls loader.files.devices.instances = [] := by
      rw [doneCalls, List.filter_eq_nil_iff.mpr fun entry member used =>
        Bool.false_ne_true ((released entry member).symm.trans used)]
      rfl
    obtain rfl := List.map_eq_nil_iff.mp (calls.trans none)
    exact ⟨makes.eq_of_nil, out⟩
  · have talks := event_talks launches
    obtain ⟨entries, makes, permitted⟩ := talks.chats
    refine ⟨?_, fun entry member => ?_⟩
    · cases entries with
      | nil => exact makes.eq_of_nil
      | cons entry rest =>
          have up := (permitted entry List.mem_cons_self).2
          cases up.symm.trans (Devices.isUp_eq_false released _)
    · rw [Devices.instances, talks.backends] at member
      exact released entry member

theorem Released.afterEvents (released : Released loader) (events : List Event) :
    (afterEvents events loader).files.devices.world = loader.files.devices.world ∧
      Released (Loader.afterEvents events loader) := by
  induction events generalizing loader with
  | nil => exact ⟨rfl, released⟩
  | cons event rest ih =>
      obtain ⟨same, out⟩ := released.after event
      obtain ⟨later, still⟩ := ih out
      exact ⟨later.trans same, still⟩

/-! ## From the start on -/

/-- The calls that events lead to: uses of what is in use, and then, if one of them launches, the
releases of that. -/
structure Calls (recorder : Recorder ω) (events : List Event) (loader : Loader ω μ)
    (uses releases : List DeviceEntry) : Prop where
  record : recorder.entries (afterEvents events loader).files.devices.world =
    recorder.entries loader.files.devices.world ++ (uses ++ releases)
  permitted : ∀ entry ∈ uses, loader.files.devices.Permits entry.call
  kept : ¬ HandsOff events loader → releases = []
  released : HandsOff events loader →
    releases.map DeviceEntry.call = doneCalls loader.files.devices.instances ∧
      Released (afterEvents events loader)

/-- **Events only use what is in use, up to the first that launches**, which releases it and is
the last that is heard of. -/
theorem afterEvents_calls (recorder : Recorder ω) (events : List Event) (loader : Loader ω μ) :
    ∃ uses releases, Calls recorder events loader uses releases := by
  induction events generalizing loader with
  | nil =>
      exact ⟨[], [], (List.append_nil _).symm, fun _ member => absurd member List.not_mem_nil,
        fun _ => rfl, False.elim⟩
  | cons event rest ih =>
      by_cases launches : event.Launches loader
      · obtain ⟨_, ⟨releases, makes, calls⟩, out⟩ :=
          Devices.doneAll_releases (event_releases launches)
        obtain ⟨silent, still⟩ := Released.afterEvents out rest
        refine ⟨[], releases, ?_, fun _ member => absurd member List.not_mem_nil,
          fun kept => absurd (.inl launches) kept, fun _ => ⟨calls, still⟩⟩
        rw [afterEvents, silent]
        exact recorder.entries_of_makes makes
      · have talks := event_talks launches
        obtain ⟨first, makes, permitted⟩ := talks.chats
        obtain ⟨uses, releases, calls⟩ := ih (event.apply loader)
        have later : HandsOff (event :: rest) loader → HandsOff rest (event.apply loader) :=
          fun handsOff => handsOff.resolve_left launches
        refine ⟨first ++ uses, releases, ?_, ?_, fun kept => calls.kept fun off => kept (.inr off),
          fun off => ?_⟩
        · rw [afterEvents, calls.record, recorder.entries_of_makes makes, List.append_assoc,
            List.append_assoc]
        · intro entry member
          rcases List.mem_append.mp member with member | member
          · exact permitted entry member
          · exact Files.permits_congr talks.backends ▸ calls.permitted entry member
        · obtain ⟨released, still⟩ := calls.released (later off)
          rw [Devices.instances, talks.backends] at released
          exact ⟨released, still⟩

theorem afterEvents_append (earlier later : List Event) (loader : Loader ω μ) :
    afterEvents (earlier ++ later) loader = afterEvents later (afterEvents earlier loader) := by
  induction earlier generalizing loader with
  | nil => rfl
  | cons event rest ih => exact ih _

/-- **Every instance comes up once before it is used, and is released once, by the launch.** On
devices that were not probed, every instance is asked to come up once, before all other calls.
Whatever events follow, only instances that came up are used. As long as none of the events
launches, nothing is released; if one does, those that came up are released once each, and after
that there is no call any more, whatever comes later. -/
theorem devices_live_once (recorder : Recorder ω) (board : Board) {devices : Devices ω}
    (unprobed : devices.Unprobed) (memory : μ) (patience : Nat) :
    let fresh := ((start : BootAct ω μ Unit).run (ofParts board devices memory patience)).state
    let record := fun events => recorder.entries (afterEvents events fresh).files.devices.world
    devices.ids.Nodup ∧
    ∃ inits : List DeviceEntry,
      inits.map DeviceEntry.call = devices.ids.map (fun device => ⟨device, .init⟩) ∧
      ∀ events, ∃ uses releases : List DeviceEntry,
        record events = recorder.entries devices.world ++ (inits ++ (uses ++ releases)) ∧
        (∀ entry ∈ uses,
          entry.call.request.isUse = true ∧ cameUp inits entry.call.device = true) ∧
        (¬ HandsOff events fresh → releases = []) ∧
        (HandsOff events fresh →
          releases.map DeviceEntry.call =
            (devices.ids.filter (cameUp inits)).map (fun device => ⟨device, .done⟩) ∧
          ∀ later, record (events ++ later) = record events) := by
  intro fresh record
  obtain ⟨_, probed, probing, same⟩ :=
    start_files (ends_run (start : BootAct ω μ Unit) (ofParts board devices memory patience))
  obtain ⟨_, ids, makes⟩ := Devices.initAll_ends unprobed probing
  have standing : fresh.files.devices = probed := by rw [same]
  refine ⟨unprobed.ids_nodup, initEntries probed.instances, ?_, fun events => ?_⟩
  · rw [← show probed.ids = devices.ids from ids, initEntries, Devices.ids, List.map_map,
      List.map_map]
    rfl
  · obtain ⟨uses, releases, calls⟩ := afterEvents_calls recorder events fresh
    refine ⟨uses, releases, ?_, fun entry member => ?_, calls.kept, fun off => ?_⟩
    · show recorder.entries _ = _
      rw [calls.record, standing, recorder.entries_of_makes makes, List.append_assoc]
    · obtain ⟨use, up⟩ := calls.permitted entry member
      rw [standing] at up
      exact ⟨use, cameUp_iff.mpr (Devices.mem_instances_of_isUp up)⟩
    · obtain ⟨released, out⟩ := calls.released off
      refine ⟨?_, fun later => ?_⟩
      · have distinct : (probed.instances.map Prod.fst).Nodup := by
          show probed.ids.Nodup
          rw [show probed.ids = devices.ids from ids]
          exact unprobed.ids_nodup
        rw [released, standing, doneCalls_eq distinct]
        exact congrArg (fun ids : List DeviceId => (ids.filter _).map _) ids
      · show recorder.entries _ = recorder.entries _
        rw [afterEvents_append, (out.afterEvents later).1]

/-- A device in memory that holds an image, and two serial lines of which the first does not come
up; the calls are put on record. -/
def linesAndImage : Devices (Watched Bench.World) :=
  ⟨[⟨.ram, [false]⟩, ⟨.uart, [false, false]⟩],
    ⟨⟨imageBench.world.gadgets ++
        [(.uart, .script ⟨[.error .device, .ok ()], [], [], [], [], [], []⟩)], []⟩, []⟩⟩

/-- A launch that is refused, and one that is not, with a file left open. -/
def twoLaunches : List Event :=
  [.line "phfs disk 4.0", .line "kernel disk", .line "go!", .ask (.openWindow "disk" ⟨0, 8⟩),
    .line "syspage 0x20000", .line "go!"]

/-- What is tried after the launch. -/
def afterLaunch : List Event :=
  [.ask (.read ⟨0, 0⟩ 0 8), .ask (.close ⟨0, 0⟩), .line "kernel disk", .line "go!"]

theorem devices_live_once_lines :
    let fresh := ((start : BootAct (Watched Bench.World) IdentityMemory Unit).run
      (ofParts Board.standard linesAndImage IdentityMemory.zeros 0)).state
    let inits : List DeviceEntry :=
      [⟨⟨⟨.ram, 0⟩, .init⟩, true⟩, ⟨⟨⟨.uart, 0⟩, .init⟩, false⟩, ⟨⟨⟨.uart, 1⟩, .init⟩, true⟩]
    HandsOff twoLaunches fresh ∧
      ∃ uses releases : List DeviceEntry,
        Watched.recorder.entries
            (afterEvents (twoLaunches ++ afterLaunch) fresh).files.devices.world =
          inits ++ (uses ++ releases) ∧
        (∀ entry ∈ uses,
          entry.call.request.isUse = true ∧ cameUp inits entry.call.device = true) ∧
        releases.map DeviceEntry.call = [⟨⟨.ram, 0⟩, .done⟩, ⟨⟨.uart, 1⟩, .done⟩] := by
  intro fresh inits
  have unprobed : linesAndImage.Unprobed := ⟨by decide, by decide⟩
  have handsOff : HandsOff twoLaunches fresh :=
    .inr (.inr (.inr (.inr (.inr (.inl ⟨_, rfl, ⟨[], by decide +kernel⟩, by decide +kernel⟩)))))
  obtain ⟨_, inits', asked, live⟩ := devices_live_once Watched.recorder Board.standard unprobed
    IdentityMemory.zeros 0
  have same : inits' = inits := by
    obtain ⟨uses, releases, record, _⟩ := live []
    have three : inits'.length = inits.length := by
      rw [← List.length_map DeviceEntry.call, asked]
      decide
    have recorded : inits = inits' ++ (uses ++ releases) := by
      refine Eq.trans ?_ record
      decide +kernel
    exact (List.append_inj ((List.append_nil inits).trans recorded) three.symm).1.symm
  subst same
  obtain ⟨uses, releases, record, used, _, handed⟩ := live twoLaunches
  obtain ⟨released, silent⟩ := handed handsOff
  have unrecorded : Watched.recorder.entries linesAndImage.world = [] := rfl
  rw [unrecorded, List.nil_append] at record
  -- the start is spelled out, so that nothing of it is run to compare the two records
  subst fresh
  refine ⟨handsOff, uses, releases, (silent afterLaunch).trans record, used, released.trans ?_⟩
  decide

end Loader

end Bootloader
