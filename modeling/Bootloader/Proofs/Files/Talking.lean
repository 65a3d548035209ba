import Bootloader.Proofs.Device.Calls
import Bootloader.Proofs.Files.HostFiles

/-!
# What files ask of devices

Whatever is done with files, a device is asked only through the manager, and the manager lets a
request pass only to an instance that is in use. So the calls that requests to files make use
instances that are in use, and none of them brings an instance up or releases one (`Talks`).
What is done with a file that is open, other than to close it, changes nothing but the world
behind the devices (`Uses`).
-/

set_option autoImplicit false

namespace Bootloader

open Act

variable {ω : Type} [Hardware ω]

/-! ## Talking to a host -/

namespace Link

section

variable {relation : ω → ω → Prop} [IsPreorder ω relation] {device : DeviceId} {patience : Nat}
  (reads : (device.read 0 receiveChunk Capacity.readTimeout : DeviceAct ω Bytes).Respects relation)

include reads

theorem respects_receive (decoder : Decoder) (count : Nat) :
    (receive device decoder count : DeviceAct ω (Option Message)).Respects relation := by
  induction count generalizing decoder with
  | zero => exact respects_stall
  | succ count ih =>
      refine reads.bind fun bytes => ?_
      split
      · exact respects_pure
      · refine respects_noteAll.bind fun _ => ?_
        split
        · exact respects_pure
        · exact ih _

variable (writes : ∀ frame, (device.write 0 frame : DeviceAct ω Nat).Respects relation)

include writes

theorem respects_sendUntilAnswered (type : UInt16) (frame : Bytes) (left : Nat) :
    (sendUntilAnswered device patience type frame left : DeviceAct ω Bytes).Respects relation := by
  induction left with
  | zero => exact respects_fail
  | succ left ih =>
      refine (writes frame).bind fun sent => respects_require.bind fun _ => ?_
      refine (respects_receive reads Decoder.start patience).bind fun answer? => ?_
      cases answer? with
      | some answer => exact respects_require.bind fun _ => respects_pure
      | none => exact respects_note.bind fun _ => ih

/-- What the reads and the writes of frames respect, a request to the host respects. -/
theorem respects_transact (request : Request) (payload : Bytes) :
    (transact device patience request payload : DeviceAct ω Bytes).Respects relation :=
  respects_ofOption.bind fun _ => respects_sendUntilAnswered reads writes _ _ _

omit [Hardware ω] reads writes in
theorem respects_count {payload : Bytes} {offset : Nat} :
    (count payload offset : Act ω FileError Nat).Respects relation :=
  respects_ofOption.bind fun _ => respects_require.bind fun _ => respects_pure

theorem respects_openFile (name : Bytes) (flags : Nat) :
    (openFile device patience name flags : DeviceAct ω Nat).Respects relation :=
  (respects_transact reads writes _ _).bind fun _ => respects_count

theorem respects_closeFile (descriptor : Nat) :
    (closeFile device patience descriptor : DeviceAct ω Unit).Respects relation :=
  (respects_transact reads writes _ _).bind fun _ => respects_count.bind fun _ => respects_pure

theorem respects_statFile (descriptor : Nat) :
    (statFile device patience descriptor : DeviceAct ω Nat).Respects relation :=
  (respects_transact reads writes _ _).bind fun _ => respects_count.bind fun _ =>
    respects_ofOption.bind fun _ => respects_pure

theorem respects_readFile (descriptor position length : Nat) :
    (readFile device patience descriptor position length : DeviceAct ω Bytes).Respects relation :=
  (respects_require.bind fun _ => respects_pure).bind fun _ =>
    (respects_transact reads writes _ _).bind fun _ => respects_count.bind fun _ =>
      respects_require.bind fun _ => respects_pure

theorem respects_writeFile (descriptor position : Nat) (data : Bytes) :
    (writeFile device patience descriptor position data : DeviceAct ω Nat).Respects relation :=
  (respects_require.bind fun _ => respects_pure).bind fun _ =>
    (respects_transact reads writes _ _).bind fun _ => respects_count.bind fun _ =>
      respects_require.bind fun _ => respects_pure

theorem respects_readAll (descriptor position length : Nat) :
    (readAll device patience descriptor position length : DeviceAct ω Bytes).Respects relation := by
  induction length using Nat.strongRecOn generalizing position with
  | ind length ih =>
      rw [readAll]
      split
      case isTrue => exact respects_pure
      case isFalse more =>
        refine (respects_readFile reads writes descriptor position length).bind fun bytes => ?_
        split
        case isTrue => exact respects_pure
        case isFalse some => exact (ih _ (by omega) _).bind fun _ => respects_pure

theorem respects_writeAll (descriptor position : Nat) (data : Bytes) :
    (writeAll device patience descriptor position data : DeviceAct ω Nat).Respects relation := by
  induction length : data.length using Nat.strongRecOn generalizing position data with
  | ind total ih =>
      rw [writeAll]
      split
      case isTrue => exact respects_pure
      case isFalse more =>
        refine (respects_writeFile reads writes descriptor position data).bind fun written => ?_
        split
        case isTrue => exact respects_pure
        case isFalse some =>
          have shorter : (data.drop written).length < total := by
            rw [List.length_drop]
            omega
          exact (ih _ shorter _ _ rfl).bind fun _ => respects_pure

end

end Link

/-! ## Calls to an instance in use -/

/-- A call that uses a certain instance. -/
def DeviceCall.Engages (device : DeviceId) (call : DeviceCall) : Prop :=
  call.device = device ∧ call.request.isUse = true

namespace DeviceId

variable {device : DeviceId}

/-- The uses of an instance, over a link too, are calls to it. -/
abbrev Busy (device : DeviceId) : ω → ω → Prop :=
  Chats (DeviceCall.Engages device)

theorem respects_read {offset length timeout : Nat} :
    (device.read offset length timeout : DeviceAct ω Bytes).Respects device.Busy := by
  refine respects_of_ends fun ends => ?_
  rw [(read_ends ends).1]
  exact DeviceCall.chats ⟨rfl, rfl⟩ _

theorem respects_write {offset : Nat} {data : Bytes} :
    (device.write offset data : DeviceAct ω Nat).Respects device.Busy := by
  refine respects_of_ends fun ends => ?_
  rw [(write_ends ends).1]
  exact DeviceCall.chats ⟨rfl, rfl⟩ _

theorem respects_erase {offset length flags : Nat} :
    (device.erase offset length flags : DeviceAct ω Nat).Respects device.Busy := by
  refine respects_of_ends fun ends => ?_
  rw [(erase_ends ends).1]
  exact DeviceCall.chats ⟨rfl, rfl⟩ _

theorem respects_sync : (device.sync : DeviceAct ω Unit).Respects device.Busy := by
  refine respects_of_ends fun ends => ?_
  rw [sync_ends ends]
  exact DeviceCall.chats ⟨rfl, rfl⟩ _

theorem respects_map {request : MapRequest} :
    (device.map request : DeviceAct ω Mapping).Respects device.Busy := by
  refine respects_of_ends fun ends => ?_
  rw [(map_ends ends).1]
  exact DeviceCall.chats ⟨rfl, rfl⟩ _

end DeviceId

/-- A call that the manager lets pass: one that uses an instance that is in use. -/
def Devices.Permits (devices : Devices ω) (call : DeviceCall) : Prop :=
  call.request.isUse = true ∧ devices.isUp call.device = true

namespace Files

/-- The backends are as they were, and the calls that were made use instances in use. -/
structure Talks (before after : Files ω) : Prop where
  backends : after.devices.backends = before.devices.backends
  chats : Chats before.devices.Permits before.devices.world after.devices.world

/-- Nothing but the world behind the devices is different, by calls that use instances in use. -/
structure Uses (before after : Files ω) : Prop where
  rest : after = before.withWorld after.devices.world
  chats : Chats before.devices.Permits before.devices.world after.devices.world

section

variable {before middle after : Files ω}

omit [Hardware ω] in
/-- Which instances are in use is a matter of the backends. -/
theorem isUp_congr {devices others : Devices ω} (same : devices.backends = others.backends)
    (device : DeviceId) : devices.isUp device = others.isUp device := by
  unfold Devices.isUp Devices.backend?
  rw [same]

theorem Uses.backends (uses : Uses before after) :
    after.devices.backends = before.devices.backends := by
  rw [uses.rest]
  rfl

theorem Uses.slots (uses : Uses before after) : after.slots = before.slots := by
  rw [uses.rest]
  rfl

theorem Uses.talks (uses : Uses before after) : Talks before after :=
  ⟨uses.backends, uses.chats⟩

omit [Hardware ω] in
/-- What calls are let pass is a matter of the backends. -/
theorem permits_congr {devices others : Devices ω} (same : devices.backends = others.backends) :
    devices.Permits = others.Permits := by
  funext call
  rw [Devices.Permits, Devices.Permits, isUp_congr same]

instance : IsPreorder (Files ω) Talks where
  refl _ := ⟨rfl, refl_of (Chats _) _⟩
  trans _ _ _ earlier later :=
    ⟨later.backends.trans earlier.backends,
      trans_of (Chats _) earlier.chats (permits_congr earlier.backends ▸ later.chats)⟩

instance : IsPreorder (Files ω) Uses where
  refl _ := ⟨rfl, refl_of (Chats _) _⟩
  trans _ _ _ earlier later := by
    refine ⟨?_, trans_of (Chats _) earlier.chats
      (permits_congr earlier.backends ▸ later.chats)⟩
    have rest := later.rest
    rw [earlier.rest] at rest
    exact rest

end

/-! ## Turning to an instance -/

section

variable {α : Type} {before after : Files ω} {device : DeviceId} {handle : Handle}
  {request : Nat → DeviceAct ω α}

omit [Hardware ω] in
/-- An instance is asked only if it is in use. -/
theorem withDevice_cases {outcome : Outcome FileError α}
    (ends : (withDevice device request).Ends before outcome after) :
    (before.devices.isUp device = false ∧ outcome = .failed (.noDevice device) ∧
      after = before) ∨
    (before.devices.isUp device = true ∧ ∃ world,
      (request before.patience).Ends before.devices.world outcome world ∧
      after = before.withWorld world) := by
  cases up : before.devices.isUp device with
  | false =>
      obtain ⟨rfl, rfl⟩ := ends.unique (withDevice_ends_of_down up)
      exact .inl ⟨rfl, rfl, rfl⟩
  | true =>
      have answered := ends_run (request before.patience) before.devices.world
      obtain ⟨rfl, rfl⟩ := ends.unique (withDevice_ends_of_up up answered)
      exact .inr ⟨rfl, _, answered, rfl⟩

/-- A request that only makes calls to its instance uses it. -/
theorem respects_withDevice (busy : ∀ patience, (request patience).Respects device.Busy) :
    (withDevice device request).Respects Uses := by
  apply respects_of_ends
  intro before outcome after ends
  rcases withDevice_cases ends with ⟨_, _, rfl⟩ | ⟨up, world, answered, rfl⟩
  · exact refl_of Uses _
  · refine ⟨rfl, ?_⟩
    obtain ⟨entries, makes, kind⟩ := (busy _).ends answered
    refine ⟨entries, makes, fun entry member => ?_⟩
    obtain ⟨same, use⟩ := kind entry member
    exact ⟨use, same ▸ up⟩

omit [Hardware ω] in
/-- What is asked through a handle that stands for a file is asked of the file. -/
theorem ends_resolve_bind {next : OpenFile → FileAct ω α} {file : OpenFile}
    {outcome : Outcome FileError α} (found : before.resolve? handle = some file) :
    (resolve handle >>= next).Ends before outcome after ↔ (next file).Ends before outcome after := by
  have resolved : (resolve handle).Ends before (.done file) before := by
    rw [resolve, ends_read_bind, found]
    exact ⟨rfl, rfl⟩
  exact ends_bind_of_done resolved

omit [Hardware ω] in
theorem respects_resolve {relation : Files ω → Files ω → Prop} [IsPreorder (Files ω) relation] :
    (resolve handle : FileAct ω OpenFile).Respects relation :=
  respects_read.bind fun _ => respects_ofOption

end

/-! ## Requests -/

section

variable {handle : Handle}

theorem respects_readBytes {offset length : Nat} :
    (read handle offset length : FileAct ω Bytes).Respects Uses := by
  refine respects_resolve.bind fun file => respects_withDevice fun patience => ?_
  split
  · dsimp only
    split
    · exact respects_pure
    · exact DeviceId.respects_read
  · exact Link.respects_readAll DeviceId.respects_read (fun _ => DeviceId.respects_write) _ _ _

theorem respects_writeBytes {offset : Nat} {data : Bytes} :
    (write handle offset data : FileAct ω Nat).Respects Uses := by
  refine respects_resolve.bind fun file => respects_withDevice fun patience => ?_
  split
  · dsimp only
    split
    · exact respects_pure
    · exact DeviceId.respects_write
  · exact Link.respects_writeAll DeviceId.respects_read (fun _ => DeviceId.respects_write) _ _ _

theorem respects_erase {offset length flags : Nat} :
    (erase handle offset length flags : FileAct ω Nat).Respects Uses := by
  refine respects_resolve.bind fun file => ?_
  split
  · exact respects_withDevice fun _ => DeviceId.respects_erase
  · exact respects_fail

theorem respects_map {request : MapRequest} :
    (map handle request : FileAct ω Mapping).Respects Uses := by
  refine respects_resolve.bind fun file => ?_
  split
  · dsimp only
    split
    · exact respects_pure
    · exact respects_withDevice fun _ => DeviceId.respects_map
  · exact respects_pure

theorem respects_stat : (stat handle : FileAct ω Nat).Respects Uses := by
  refine respects_resolve.bind fun file => ?_
  split
  · exact respects_pure
  · exact respects_fail
  · exact respects_withDevice fun _ =>
      Link.respects_statFile DeviceId.respects_read (fun _ => DeviceId.respects_write) _

theorem respects_readExact {offset length : Nat} :
    (readExact handle offset length : FileAct ω Bytes).Respects Uses := by
  induction length using Nat.strongRecOn generalizing offset with
  | ind length ih =>
      rw [readExact]
      split
      case isTrue => exact respects_pure
      case isFalse more =>
        refine respects_readBytes.bind fun bytes => ?_
        split
        case isTrue => exact respects_fail
        case isFalse some => exact (ih _ (by omega)).bind fun _ => respects_pure

theorem respects_openTarget {entry : DeviceAlias} {name : Option String} {flags : Nat} :
    (openTarget entry name flags : FileAct ω OpenTarget).Respects Uses := by
  refine respects_read.bind fun files => ?_
  split
  · exact respects_pure
  · exact respects_ofOption.bind fun _ => respects_pure
  · exact respects_fail
  · refine (respects_withDevice fun _ => ?_).bind fun _ => respects_pure
    exact Link.respects_openFile DeviceId.respects_read (fun _ => DeviceId.respects_write) _ _

/-- Finishing with a file makes calls to its instance only. -/
theorem respects_finish {file : OpenFile} {patience : Nat} :
    (finish file patience : DeviceAct ω Unit).Respects file.device.device.Busy := by
  refine Respects.bind (Respects.attempt ?_) fun closed => ?_
  · split
    · exact Link.respects_closeFile DeviceId.respects_read (fun _ => DeviceId.respects_write) _
    · exact respects_pure
  · split
    · exact respects_crash
    · exact respects_stall
    · refine DeviceId.respects_sync.attempt.bind fun synced => ?_
      dsimp only
      split
      · refine respects_note.bind fun _ => ?_
        split
        · exact respects_conclude
        · exact respects_conclude
      · split
        · exact respects_conclude
        · exact respects_conclude

end

end Files

end Bootloader
