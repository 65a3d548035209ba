import Bootloader.Device.Basic
import Bootloader.Proofs.Act.Frame

/-!
# What devices are asked

Every request to an instance of a device is a call, and is granted or refused. The calls that
lead from one world to another are listed in the order in which they were made (`Makes`). A
world that keeps a list of the calls made to it shows exactly these (`Recorder`), and every world
can be given such a list (`Watched`): so what is proved of recorded calls holds whatever the
devices answer.
-/

set_option autoImplicit false

namespace Bootloader

open Act

/-- What an instance of a device is asked for. -/
inductive DeviceRequest where
  | init
  | done
  | read (offset length timeout : Nat)
  | write (offset : Nat) (data : Bytes)
  | erase (offset length flags : Nat)
  | sync
  | map (request : MapRequest)
  deriving DecidableEq, Repr

namespace DeviceRequest

/-- The requests that use an instance, other than to bring it up or to release it. -/
def isUse : DeviceRequest → Bool
  | init | done => false
  | _ => true

/-- The range of a device that a request is about, as its offset and its length. -/
def range? : DeviceRequest → Option (Nat × Nat)
  | read offset length _ => some (offset, length)
  | write offset data => some (offset, data.length)
  | erase offset length _ => some (offset, length)
  | map request => some (request.offset, request.size)
  | init | done | sync => none

end DeviceRequest

/-- A request to an instance. -/
structure DeviceCall where
  device : DeviceId
  request : DeviceRequest
  deriving DecidableEq, Repr

/-- A call that was made, and whether it was granted. -/
structure DeviceEntry where
  call : DeviceCall
  granted : Bool
  deriving DecidableEq, Repr

/-- Whether an answer is a value, and the world after it. -/
def Reply.settled {ω α : Type} (reply : Reply ω α) : Bool × ω :=
  (reply.result.isOk, reply.world)

variable {ω : Type} [Hardware ω]

/-- Make a call: whether it is granted, and the world after it. -/
def DeviceCall.make (call : DeviceCall) (world : ω) : Bool × ω :=
  match call.request with
  | .init => (Hardware.init world call.device).settled
  | .done => (Hardware.done world call.device).settled
  | .read offset length timeout =>
      (Hardware.read world call.device offset length timeout).settled
  | .write offset data => (Hardware.write world call.device offset data).settled
  | .erase offset length flags => (Hardware.erase world call.device offset length flags).settled
  | .sync => (Hardware.sync world call.device).settled
  | .map request => (Hardware.map world call.device request).settled

/-- The calls that were made one after the other on the way from one world to another. -/
inductive Makes : List DeviceEntry → ω → ω → Prop where
  | nothing (world : ω) : Makes [] world world
  | call (call : DeviceCall) {rest : List DeviceEntry} {before after : ω}
      (later : Makes rest (call.make before).2 after) :
      Makes (⟨call, (call.make before).1⟩ :: rest) before after

theorem Makes.append {first second : List DeviceEntry} {before middle after : ω}
    (earlier : Makes first before middle) (later : Makes second middle after) :
    Makes (first ++ second) before after := by
  induction earlier with
  | nothing => exact later
  | call call _ ih => exact .call call (ih later)

/-- Without a call a world stays what it is. -/
theorem Makes.eq_of_nil {before after : ω} (makes : Makes [] before after) : after = before := by
  cases makes
  rfl

/-- One call by itself. -/
theorem DeviceCall.makes (call : DeviceCall) (world : ω) :
    Makes [⟨call, (call.make world).1⟩] world (call.make world).2 :=
  .call call (.nothing _)

/-! ## Recorded calls -/

/-- A way to read off a world what calls were made to its devices. -/
structure Recorder (ω : Type) [Hardware ω] where
  entries : ω → List DeviceEntry
  records : ∀ (call : DeviceCall) (world : ω),
    entries (call.make world).2 = entries world ++ [⟨call, (call.make world).1⟩]

/-- The calls that were made are the ones that were recorded. -/
theorem Recorder.entries_of_makes (recorder : Recorder ω) {entries : List DeviceEntry}
    {before after : ω} (makes : Makes entries before after) :
    recorder.entries after = recorder.entries before ++ entries := by
  induction makes with
  | nothing => exact (List.append_nil _).symm
  | call call _ ih => rw [ih, recorder.records, List.append_assoc, List.singleton_append]

/-- A world, and the calls that were made to its devices. -/
structure Watched (ω : Type) where
  world : ω
  entries : List DeviceEntry

namespace Watched

/-- The answer of a device, put on record. -/
def record {α : Type} (watched : Watched ω) (call : DeviceCall) (reply : Reply ω α) :
    Reply (Watched ω) α where
  result := reply.result
  world := ⟨reply.world, watched.entries ++ [⟨call, reply.result.isOk⟩]⟩
  records := reply.records

instance : Hardware (Watched ω) where
  init watched device := watched.record ⟨device, .init⟩ (Hardware.init watched.world device)
  done watched device := watched.record ⟨device, .done⟩ (Hardware.done watched.world device)
  read watched device offset length timeout :=
    watched.record ⟨device, .read offset length timeout⟩
      (Hardware.read watched.world device offset length timeout)
  write watched device offset data :=
    watched.record ⟨device, .write offset data⟩ (Hardware.write watched.world device offset data)
  erase watched device offset length flags :=
    watched.record ⟨device, .erase offset length flags⟩
      (Hardware.erase watched.world device offset length flags)
  sync watched device := watched.record ⟨device, .sync⟩ (Hardware.sync watched.world device)
  map watched device request :=
    watched.record ⟨device, .map request⟩ (Hardware.map watched.world device request)

/-- A call is granted as it would be without the record. -/
theorem make_eq (call : DeviceCall) (watched : Watched ω) :
    call.make watched = ((call.make watched.world).1,
      ⟨(call.make watched.world).2, watched.entries ++ [⟨call, (call.make watched.world).1⟩]⟩) := by
  obtain ⟨device, request⟩ := call
  cases request <;> rfl

/-- The record of a watched world. -/
def recorder : Recorder (Watched ω) where
  entries := Watched.entries
  records call watched := by rw [make_eq]

end Watched

/-- What leads from one watched world to another leads from world to world. -/
theorem Makes.unwatched {entries : List DeviceEntry} {before after : Watched ω}
    (makes : Makes entries before after) : Makes entries before.world after.world := by
  induction makes with
  | nothing watched => exact .nothing watched.world
  | call call _ ih =>
      rw [Watched.make_eq] at ih ⊢
      exact .call call ih

/-! ## Calls of a kind -/

/-- All calls on the way from one world to another are of a kind. -/
def Chats (permitted : DeviceCall → Prop) (before after : ω) : Prop :=
  ∃ entries, Makes entries before after ∧ ∀ entry ∈ entries, permitted entry.call

variable {permitted : DeviceCall → Prop}

instance : IsPreorder ω (Chats permitted) where
  refl world := ⟨[], .nothing world, nofun⟩
  trans _ _ _ := by
    rintro ⟨first, earlier, kind⟩ ⟨second, later, others⟩
    refine ⟨first ++ second, earlier.append later, ?_⟩
    intro entry member
    exact (List.mem_append.mp member).elim (kind entry) (others entry)

/-- One call of the kind. -/
theorem DeviceCall.chats {call : DeviceCall} (kind : permitted call) (world : ω) :
    Chats permitted world (call.make world).2 := by
  refine ⟨_, call.makes world, ?_⟩
  intro entry member
  obtain rfl := List.mem_singleton.mp member
  exact kind

namespace DeviceId

variable {device : DeviceId} {before after : ω}

/-! ## What the requests to an instance do -/

/-- A read is one call. Of what the device answers no more is taken than was asked for. -/
theorem read_ends {offset length timeout : Nat} {outcome : Outcome FileError Bytes}
    (ends : (device.read offset length timeout : DeviceAct ω Bytes).Ends before outcome after) :
    after = ((⟨device, .read offset length timeout⟩ : DeviceCall).make before).2 ∧
      outcome = (Outcome.ofExcept (Hardware.read before device offset length timeout).result).map
        (List.take length) := by
  obtain ⟨ending, asked, rfl⟩ := ends_bind_pure.mp ends
  exact ⟨asked.2.symm, congrArg (Outcome.map (List.take length)) asked.1.symm⟩

theorem write_ends {offset : Nat} {data : Bytes} {outcome : Outcome FileError Nat}
    (ends : (device.write offset data : DeviceAct ω Nat).Ends before outcome after) :
    after = ((⟨device, .write offset data⟩ : DeviceCall).make before).2 ∧
      outcome = Outcome.ofExcept (Hardware.write before device offset data).result :=
  ⟨ends.2.symm, ends.1.symm⟩

theorem erase_ends {offset length flags : Nat} {outcome : Outcome FileError Nat}
    (ends : (device.erase offset length flags : DeviceAct ω Nat).Ends before outcome after) :
    after = ((⟨device, .erase offset length flags⟩ : DeviceCall).make before).2 ∧
      outcome = Outcome.ofExcept (Hardware.erase before device offset length flags).result :=
  ⟨ends.2.symm, ends.1.symm⟩

theorem sync_ends {outcome : Outcome FileError Unit}
    (ends : (device.sync : DeviceAct ω Unit).Ends before outcome after) :
    after = ((⟨device, .sync⟩ : DeviceCall).make before).2 :=
  ends.2.symm

theorem map_ends {request : MapRequest} {outcome : Outcome FileError Mapping}
    (ends : (device.map request : DeviceAct ω Mapping).Ends before outcome after) :
    after = ((⟨device, .map request⟩ : DeviceCall).make before).2 ∧
      outcome = Outcome.ofExcept (Hardware.map before device request).result :=
  ⟨ends.2.symm, ends.1.symm⟩

end DeviceId

end Bootloader
