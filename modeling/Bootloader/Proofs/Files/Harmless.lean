import Bootloader.Files.Access
import Bootloader.Proofs.Act.Safe

/-!
# Reading a file does not crash

Whatever the devices answer, a read from them ends with bytes or with an error, or waits for a
device that never falls silent. So it is with everything that is built from reads and writes:
the exchange of messages with a host, and the transfers of a file in pieces
(`Files.readExact_harmless`).
-/

set_option autoImplicit false

namespace Bootloader

open Act

variable {ω : Type}

theorem ask_harmless {α : Type} {request : ω → Reply ω α} : (ask request).Harmless := by
  apply harmless_of_ends
  rintro before outcome after ⟨answer, _⟩ rfl
  cases result : (request before).result with
  | ok value => cases (congrArg Outcome.ofExcept result).symm.trans answer
  | error error => cases (congrArg Outcome.ofExcept result).symm.trans answer

variable [Hardware ω]

namespace DeviceId

theorem read_harmless {device : DeviceId} {offset length timeout : Nat} :
    (device.read offset length timeout : DeviceAct ω Bytes).Harmless :=
  ask_harmless.bind fun _ => safe_pure

theorem write_harmless {device : DeviceId} {offset : Nat} {data : Bytes} :
    (device.write offset data : DeviceAct ω Nat).Harmless :=
  ask_harmless

end DeviceId

namespace Link

theorem count_harmless {σ : Type} {payload : Bytes} {offset : Nat} :
    (count payload offset : Act σ FileError Nat).Harmless :=
  safe_ofOption.bind fun _ => safe_require.bind fun _ => safe_pure

theorem transfer_harmless {σ : Type} {descriptor position length : Nat} :
    (transfer descriptor position length : Act σ FileError Bytes).Harmless :=
  safe_require.bind fun _ => safe_pure

variable {device : DeviceId} {patience : Nat}

theorem receive_harmless {decoder : Decoder} {reads : Nat} :
    (receive device decoder reads : DeviceAct ω (Option Message)).Harmless := by
  induction reads generalizing decoder with
  | zero => exact safe_stall
  | succ reads ih =>
      refine DeviceId.read_harmless.bind fun bytes => ?_
      split
      case isTrue => exact safe_pure
      case isFalse =>
        refine safe_noteAll.bind fun _ => ?_
        split
        case h_1 => exact safe_pure
        case h_2 => exact ih

theorem sendUntilAnswered_harmless {type : UInt16} {frame : Bytes} {left : Nat} :
    (sendUntilAnswered device patience type frame left : DeviceAct ω Bytes).Harmless := by
  induction left with
  | zero => exact safe_fail
  | succ left ih =>
      refine DeviceId.write_harmless.bind fun sent => safe_require.bind fun _ =>
        receive_harmless.bind fun answer? => ?_
      cases answer? with
      | some answer => exact safe_require.bind fun _ => safe_pure
      | none => exact safe_note.bind fun _ => ih

theorem transact_harmless {request : Request} {payload : Bytes} :
    (transact device patience request payload : DeviceAct ω Bytes).Harmless :=
  safe_ofOption.bind fun _ => sendUntilAnswered_harmless

theorem readFile_harmless {descriptor position length : Nat} :
    (readFile device patience descriptor position length : DeviceAct ω Bytes).Harmless :=
  transfer_harmless.bind fun _ => transact_harmless.bind fun _ => count_harmless.bind fun _ =>
    safe_require.bind fun _ => safe_pure

theorem readAll_harmless {descriptor position length : Nat} :
    (readAll device patience descriptor position length : DeviceAct ω Bytes).Harmless := by
  induction length using Nat.strongRecOn generalizing position with
  | ind length ih =>
      rw [readAll]
      split
      case isTrue => exact safe_pure
      case isFalse more =>
        refine readFile_harmless.bind fun bytes => ?_
        split
        case isTrue => exact safe_pure
        case isFalse some => exact (ih _ (by omega)).bind fun _ => safe_pure

end Link

namespace Files

omit [Hardware ω] in
theorem resolve_harmless {handle : Handle} : (resolve handle : FileAct ω OpenFile).Harmless :=
  safe_read.bind fun _ => safe_ofOption

omit [Hardware ω] in
/-- A request to an instance in use is harmless if the instance takes it so. -/
theorem withDevice_harmless {α : Type} {device : DeviceId}
    {request : (patience : Nat) → DeviceAct ω α}
    (harmless : ∀ patience, (request patience).Harmless) :
    (withDevice device request : FileAct ω α).Harmless := by
  refine safe_read.bind fun files => Harmless.zoom ?_
  exact safe_read.bind fun devices => safe_require.bind fun _ => (harmless files.patience).zoom

theorem read_harmless {handle : Handle} {offset length : Nat} :
    (read handle offset length : FileAct ω Bytes).Harmless := by
  refine resolve_harmless.bind fun file => withDevice_harmless fun patience => ?_
  split
  case h_1 window =>
    dsimp only
    split
    case isTrue => exact safe_pure
    case isFalse => exact DeviceId.read_harmless
  case h_2 => exact Link.readAll_harmless

theorem readExact_harmless {handle : Handle} {offset length : Nat} :
    (readExact handle offset length : FileAct ω Bytes).Harmless := by
  induction length using Nat.strongRecOn generalizing offset with
  | ind length ih =>
      rw [readExact]
      split
      case isTrue => exact safe_pure
      case isFalse more =>
        refine read_harmless.bind fun bytes => ?_
        split
        case isTrue => exact safe_fail
        case isFalse some => exact (ih _ (by omega)).bind fun _ => safe_pure

end Files

end Bootloader
