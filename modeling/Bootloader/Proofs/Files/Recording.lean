import Bootloader.Files.Access
import Bootloader.Proofs.Act.Mirrors
import Bootloader.Proofs.Device.Calls

/-!
# Opening on record

From the worlds before and after a request it cannot be told what was asked of the devices. So
the devices are watched while a name is opened: their world keeps a record of the calls. Opening
goes as it does without the record, whatever the devices answer (`mirrors_openFile`), so what is
on record afterwards are the calls that opening the name makes (`Files.openingCalls`).
-/

set_option autoImplicit false

namespace Bootloader

open Act

variable {ω : Type} [Hardware ω]

/-! ## Watched devices -/

namespace DeviceId

variable {device : DeviceId}

theorem mirrors_read {offset length timeout : Nat} :
    Mirrors Watched.world (device.read offset length timeout : DeviceAct (Watched ω) Bytes)
      (device.read offset length timeout) :=
  Mirrors.bind (fun _ => rfl) fun _ => mirrors_pure

theorem mirrors_write {offset : Nat} {data : Bytes} :
    Mirrors Watched.world (device.write offset data : DeviceAct (Watched ω) Nat)
      (device.write offset data) :=
  fun _ => rfl

end DeviceId

namespace Link

variable {device : DeviceId} {patience : Nat}

theorem mirrors_receive (decoder : Decoder) (reads : Nat) :
    Mirrors Watched.world (receive device decoder reads : DeviceAct (Watched ω) (Option Message))
      (receive device decoder reads) := by
  induction reads generalizing decoder with
  | zero => exact mirrors_conclude
  | succ reads ih =>
      refine DeviceId.mirrors_read.bind fun bytes => ?_
      split
      · exact mirrors_pure
      · refine mirrors_noteAll.bind fun _ => ?_
        split
        · exact mirrors_pure
        · exact ih _

theorem mirrors_sendUntilAnswered (type : UInt16) (frame : Bytes) (left : Nat) :
    Mirrors Watched.world
      (sendUntilAnswered device patience type frame left : DeviceAct (Watched ω) Bytes)
      (sendUntilAnswered device patience type frame left) := by
  induction left with
  | zero => exact mirrors_conclude
  | succ left ih =>
      refine DeviceId.mirrors_write.bind fun sent => mirrors_require.bind fun _ => ?_
      refine (mirrors_receive Decoder.start patience).bind fun answer? => ?_
      cases answer? with
      | some answer => exact mirrors_require.bind fun _ => mirrors_pure
      | none => exact mirrors_noteAll.bind fun _ => ih

theorem mirrors_openFile (name : Bytes) (flags : Nat) :
    Mirrors Watched.world (openFile device patience name flags : DeviceAct (Watched ω) Nat)
      (openFile device patience name flags) := by
  have transact : Mirrors Watched.world
      (transact device patience .openFile (word flags ++ name ++ [0]) : DeviceAct (Watched ω) Bytes)
      (transact device patience .openFile (word flags ++ name ++ [0])) :=
    mirrors_ofOption.bind fun frame => mirrors_sendUntilAnswered _ frame attempts
  refine transact.bind fun answer => ?_
  exact mirrors_ofOption.bind fun number => mirrors_require.bind fun _ => mirrors_pure

end Link

/-! ## Watched files -/

namespace Files

/-- The files with a record of the calls that are made from now on. -/
def watched (files : Files ω) : Files (Watched ω) where
  devices := ⟨files.devices.backends, ⟨files.devices.world, []⟩⟩
  aliases := files.aliases
  files := files.files
  slots := files.slots
  patience := files.patience

/-- The files without the record. -/
def unwatched (files : Files (Watched ω)) : Files ω where
  devices := ⟨files.devices.backends, files.devices.world.world⟩
  aliases := files.aliases
  files := files.files
  slots := files.slots
  patience := files.patience

omit [Hardware ω] in
theorem mirrors_withDevice {α : Type} {device : DeviceId}
    {request : Nat → DeviceAct (Watched ω) α} {plain : Nat → DeviceAct ω α}
    (mirrors : ∀ patience, Mirrors Watched.world (request patience) (plain patience)) :
    Mirrors unwatched (withDevice device request) (withDevice device plain) := by
  refine mirrors_read_bind fun files => ?_
  have manager : Mirrors (fun devices => ⟨devices.backends, devices.world.world⟩)
      (Devices.withDevice device (request files.patience))
      (Devices.withDevice device (plain files.patience)) := by
    refine mirrors_read_bind fun devices => mirrors_require.bind fun _ => ?_
    exact (mirrors files.patience).zoom (fun _ => rfl) fun _ _ => rfl
  exact manager.zoom (fun _ => rfl) fun _ _ => rfl

theorem mirrors_openTarget (entry : DeviceAlias) (name : Option String) (flags : Nat) :
    Mirrors unwatched (openTarget entry name flags : FileAct (Watched ω) OpenTarget)
      (openTarget entry name flags) := by
  refine mirrors_read_bind fun files => ?_
  split
  · exact mirrors_pure
  · exact mirrors_ofOption.bind fun window => mirrors_pure
  · exact mirrors_conclude
  · exact (mirrors_withDevice fun patience => Link.mirrors_openFile _ flags).bind fun descriptor =>
      mirrors_pure

omit [Hardware ω] in
theorem mirrors_allocate (file : OpenFile) :
    Mirrors unwatched (allocate file : FileAct (Watched ω) Handle) (allocate file) := by
  refine mirrors_read_bind fun files => mirrors_ofOption.bind fun index => ?_
  exact mirrors_ofOption.bind fun slot => mirrors_put.bind fun _ => mirrors_pure

/-- **Opening a name goes as it does without a record of its calls.** -/
theorem mirrors_openFile (aliasName : String) (name : Option String) (flags : Nat) :
    Mirrors unwatched (openFile aliasName name flags : FileAct (Watched ω) Handle)
      (openFile aliasName name flags) := by
  refine mirrors_read_bind fun files => mirrors_conclude.bind fun entry => ?_
  refine mirrors_require.bind fun _ => (mirrors_openTarget entry name flags).bind fun target => ?_
  exact mirrors_noteAll.bind fun _ => mirrors_allocate ⟨entry, target⟩

/-- The calls that opening a name makes, in the order in which it makes them, and which of them
are granted. -/
def openingCalls (files : Files ω) (aliasName : String) (name : Option String) (flags : Nat) :
    List DeviceEntry :=
  ((openFile aliasName name flags).run files.watched).state.devices.world.entries

end Files

end Bootloader
