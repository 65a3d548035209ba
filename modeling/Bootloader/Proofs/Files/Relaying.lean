import Bootloader.Proofs.Files.Talking

/-!
# Errors that come from devices

The client of a link fails with errors of its own: no answer came in time, the device took a
part of a frame only, or the answer was not what it should be (`Link.ownErrors`). With any
other error it fails only if the device granted the calls that were made to it up to the last
one, a read or a write, and answered that one with the error (`Link.relays_openFile`).
-/

set_option autoImplicit false

namespace Bootloader

open Act

variable {ω : Type} [Hardware ω]

namespace DeviceId

/-- In a world an instance answers a request, a read or a write, with an error. -/
inductive Refuses (device : DeviceId) (error : FileError) (world : ω) : DeviceRequest → Prop where
  | read {offset length timeout : Nat}
      (answer : (Hardware.read world device offset length timeout).result = .error error) :
      Refuses device error world (.read offset length timeout)
  | write {offset : Nat} {data : Bytes}
      (answer : (Hardware.write world device offset data).result = .error error) :
      Refuses device error world (.write offset data)

/-- The calls on the way from one world to another use an instance, and all were granted. -/
structure Grants (device : DeviceId) (entries : List DeviceEntry) (before after : ω) : Prop where
  makes : Makes entries before after
  granted : ∀ entry ∈ entries, entry.granted = true ∧ entry.call.Engages device

/-- The calls on the way from one world to another use an instance. All were granted but the
last one, a read or a write, which the instance answered with an error. -/
inductive Raised (device : DeviceId) (error : FileError) : List DeviceEntry → ω → ω → Prop where
  | last {earlier : List DeviceEntry} {request : DeviceRequest} {before world : ω}
      (grants : device.Grants earlier before world) (refuses : device.Refuses error world request) :
      Raised device error (earlier ++ [⟨⟨device, request⟩, false⟩]) before
        ((⟨device, request⟩ : DeviceCall).make world).2

section

variable {device : DeviceId} {error : FileError} {first second : List DeviceEntry}
  {request : DeviceRequest} {before middle after : ω}

theorem Refuses.make_fst (refuses : device.Refuses error before request) :
    ((⟨device, request⟩ : DeviceCall).make before).1 = false := by
  cases refuses with
  | read answer => exact congrArg Except.isOk answer
  | write answer => exact congrArg Except.isOk answer

theorem grants_nothing : device.Grants [] before before :=
  ⟨.nothing before, fun _ member => absurd member List.not_mem_nil⟩

/-- One use of an instance, which was granted. -/
theorem grants_one (use : request.isUse = true)
    (granted : ((⟨device, request⟩ : DeviceCall).make before).1 = true) :
    device.Grants [⟨⟨device, request⟩, true⟩] before
      ((⟨device, request⟩ : DeviceCall).make before).2 where
  makes := granted ▸ (⟨device, request⟩ : DeviceCall).makes before
  granted entry member := by
    obtain rfl := List.mem_singleton.mp member
    exact ⟨rfl, rfl, use⟩

theorem Grants.append (earlier : device.Grants first before middle)
    (later : device.Grants second middle after) : device.Grants (first ++ second) before after where
  makes := earlier.makes.append later.makes
  granted entry member :=
    (List.mem_append.mp member).elim (earlier.granted entry) (later.granted entry)

/-- What an instance refused is the last of the calls, whatever it granted before. -/
theorem Raised.prepend (earlier : device.Grants first before middle)
    (raised : device.Raised error second middle after) :
    device.Raised error (first ++ second) before after := by
  obtain ⟨grants, refuses⟩ := raised
  rw [← List.append_assoc]
  exact .last (earlier.append grants) refuses

theorem Raised.makes (raised : device.Raised error first before after) :
    Makes first before after := by
  obtain @⟨_, request, _, world, grants, refuses⟩ := raised
  refine grants.makes.append ?_
  have made := (⟨device, request⟩ : DeviceCall).makes world
  rwa [refuses.make_fst] at made

/-- The record of the calls has no part in them. -/
theorem Raised.unwatched {before after : Watched ω}
    (raised : device.Raised error first before after) :
    device.Raised error first before.world after.world := by
  obtain @⟨_, request, _, world, grants, refuses⟩ := raised
  have refused : device.Refuses error world.world request := by
    cases refuses with
    | read answer => exact .read answer
    | write answer => exact .write answer
  rw [Watched.make_eq]
  exact .last ⟨grants.makes.unwatched, grants.granted⟩ refused

end

/-- What is asked of an instance is only passed on: what yields a value had all its calls
granted, and what fails with the error had it from the instance. -/
structure Relays {α : Type} (device : DeviceId) (error : FileError) (action : DeviceAct ω α) :
    Prop where
  grants : ∀ {before value after}, action.Ends before (.done value) after →
    ∃ entries, device.Grants entries before after
  raised : ∀ {before after}, action.Ends before (.failed error) after →
    ∃ entries, device.Raised error entries before after

section

variable {α β : Type} {device : DeviceId} {error other : FileError}

theorem Relays.bind {action : DeviceAct ω α} {next : α → DeviceAct ω β}
    (first : device.Relays error action) (later : ∀ value, device.Relays error (next value)) :
    device.Relays error (action >>= next) where
  grants ends := by
    obtain ⟨value, middle, here, there⟩ := ends_bind_done.mp ends
    obtain ⟨earlier, granted⟩ := first.grants here
    obtain ⟨rest, others⟩ := (later value).grants there
    exact ⟨_, granted.append others⟩
  raised ends := by
    rcases ends_bind.mp ends with ⟨value, middle, here, there⟩ | ⟨halt, here, halts⟩
    · obtain ⟨earlier, granted⟩ := first.grants here
      obtain ⟨rest, raised⟩ := (later value).raised there
      exact ⟨_, raised.prepend granted⟩
    · cases halts
      exact first.raised here

theorem relays_pure {value : α} : device.Relays error (pure value : DeviceAct ω α) where
  grants ends := ⟨[], ends.2 ▸ grants_nothing⟩
  raised ends := nomatch ends.1

theorem relays_noteAll {records : List Log.Record} :
    device.Relays error (noteAll records : DeviceAct ω Unit) where
  grants ends := ⟨[], ends.2 ▸ grants_nothing⟩
  raised ends := nomatch ends.1

theorem relays_stall : device.Relays error (stall : DeviceAct ω α) where
  grants ends := nomatch ends.1
  raised ends := nomatch ends.1

theorem relays_fail (differs : other ≠ error) :
    device.Relays error (fail other : DeviceAct ω α) where
  grants ends := nomatch ends.1
  raised ends := absurd (Outcome.failed.inj ends.1) differs

theorem relays_require {condition : Bool} (differs : other ≠ error) :
    device.Relays error (require condition other : DeviceAct ω Unit) := by
  cases condition with
  | true => exact relays_pure
  | false => exact relays_fail differs

theorem relays_ofOption {value? : Option α} (differs : other ≠ error) :
    device.Relays error (ofOption other value? : DeviceAct ω α) := by
  cases value? with
  | some value => exact relays_pure
  | none => exact relays_fail differs

/-- An answer of the instance, be it a value or an error, is passed on. -/
theorem relays_ask {request : DeviceRequest} {answer : ω → Reply ω α}
    (use : request.isUse = true)
    (settles : ∀ world, (⟨device, request⟩ : DeviceCall).make world = (answer world).settled)
    (refuses : ∀ world, (answer world).result = .error error →
      device.Refuses error world request) : device.Relays error (ask answer) where
  grants {before value after} ends := by
    obtain ⟨done, rfl⟩ := ends
    have granted : ((⟨device, request⟩ : DeviceCall).make before).1 = true := by
      rw [settles, Reply.settled, Outcome.ofExcept_eq_done.mp done]
      rfl
    have grants := grants_one use granted
    rw [settles] at grants
    exact ⟨_, grants⟩
  raised {before after} ends := by
    obtain ⟨failed, rfl⟩ := ends
    have raised := Raised.last grants_nothing
      (refuses before (Outcome.ofExcept_eq_failed.mp failed))
    rw [settles] at raised
    exact ⟨_, raised⟩

theorem relays_read {offset length timeout : Nat} :
    device.Relays error (device.read offset length timeout : DeviceAct ω Bytes) := by
  have refuses : ∀ world : ω, (Hardware.read world device offset length timeout).result =
      .error error → device.Refuses error world (.read offset length timeout) :=
    fun _ => .read
  exact (relays_ask rfl (fun _ => rfl) refuses).bind fun _ => relays_pure

theorem relays_write {offset : Nat} {data : Bytes} :
    device.Relays error (device.write offset data : DeviceAct ω Nat) := by
  have refuses : ∀ world : ω, (Hardware.write world device offset data).result =
      .error error → device.Refuses error world (.write offset data) :=
    fun _ => .write
  exact relays_ask rfl (fun _ => rfl) refuses

end

end DeviceId

namespace Link

open DeviceId

/-- The errors that a request to a host fails with by itself. -/
def ownErrors : List FileError := [.timeout, .device, .protocol]

variable {device : DeviceId} {patience : Nat} {error : FileError}

theorem relays_receive (decoder : Decoder) (reads : Nat) :
    device.Relays error (receive device decoder reads : DeviceAct ω (Option Message)) := by
  induction reads generalizing decoder with
  | zero => exact relays_stall
  | succ reads ih =>
      refine relays_read.bind fun bytes => ?_
      split
      · exact relays_pure
      · refine relays_noteAll.bind fun _ => ?_
        split
        · exact relays_pure
        · exact ih _

section

variable (foreign : error ∉ ownErrors)

include foreign

theorem relays_sendUntilAnswered (type : UInt16) (frame : Bytes) (left : Nat) :
    device.Relays error
      (sendUntilAnswered device patience type frame left : DeviceAct ω Bytes) := by
  induction left with
  | zero => exact relays_fail (ne_of_mem_of_not_mem (by decide) foreign)
  | succ left ih =>
      refine relays_write.bind fun sent => ?_
      refine (relays_require (ne_of_mem_of_not_mem (by decide) foreign)).bind fun _ => ?_
      refine (relays_receive Decoder.start patience).bind fun answer? => ?_
      cases answer? with
      | some answer =>
          exact (relays_require (ne_of_mem_of_not_mem (by decide) foreign)).bind fun _ =>
            relays_pure
      | none => exact relays_noteAll.bind fun _ => ih

theorem relays_transact (request : Request) (payload : Bytes) :
    device.Relays error (transact device patience request payload : DeviceAct ω Bytes) :=
  (relays_ofOption (ne_of_mem_of_not_mem (by decide) foreign)).bind fun _ =>
    relays_sendUntilAnswered foreign _ _ _

/-- Opening a file of a host fails with a foreign error only if the last call that it makes is
answered with it. -/
theorem relays_openFile (name : Bytes) (flags : Nat) :
    device.Relays error (openFile device patience name flags : DeviceAct ω Nat) := by
  refine (relays_transact foreign .openFile _).bind fun answer => ?_
  refine (relays_ofOption (ne_of_mem_of_not_mem (by decide) foreign)).bind fun number => ?_
  refine (relays_require (ne_of_mem_of_not_mem (by decide) foreign)).bind fun _ => ?_
  exact relays_pure

end

end Link

end Bootloader
