import Bootloader.Device.Basic

/-!
# The device manager

Backends are registered for a class with a number of instances. Probing brings
every instance up in the order of registration and remembers which ones came up;
only those can be used. Releasing takes them out of use again.
-/

set_option autoImplicit false

namespace Bootloader

/-- The backend of a class, and which of its instances are in use. -/
structure Backend where
  major : Major
  probed : List Bool
  deriving DecidableEq, Repr

/-- The registered backends and the world their devices live in. -/
structure Devices (ω : Type) where
  backends : List Backend
  world : ω

/-- A request to the device manager. -/
abbrev ManagerAct (ω α : Type) := Act (Devices ω) FileError α

namespace Devices

variable {ω α : Type}

/-- Report what happened to a device. -/
def report {σ ε : Type} (level : Log.Level) (message : String) : Act σ ε Unit :=
  Act.note (Log.Component.devices.report level message)

/-- No backend was registered. -/
def empty (world : ω) : Devices ω := ⟨[], world⟩

/-- The backend of a class. -/
def backend? (devices : Devices ω) (major : Major) : Option Backend :=
  devices.backends.find? fun backend => backend.major = major

/-- Whether an instance is in use. -/
def isUp (devices : Devices ω) (device : DeviceId) : Bool :=
  match devices.backend? device.major with
  | some backend => backend.probed.getD device.minor false
  | none => false

/-- Register a backend, which is plugged into the world. -/
def register (major : Major) (minors : Nat) (plug : ω → ω) : ManagerAct ω Unit := do
  let devices ← Act.read
  Act.require (devices.backend? major).isNone (.majorTaken major)
  Act.put ⟨devices.backends ++ [⟨major, List.replicate minors false⟩], plug devices.world⟩

/-- Turn to the world. -/
def inWorld (request : DeviceAct ω α) : ManagerAct ω α :=
  Act.zoom Devices.world (fun world devices => { devices with world }) request

/-- Turn to an instance that is in use. -/
def withDevice (device : DeviceId) (request : DeviceAct ω α) : ManagerAct ω α := do
  let devices ← Act.read
  Act.require (devices.isUp device) (.noDevice device)
  inWorld request

variable [Hardware ω]

/-- Bring one instance up and yield whether that succeeded. -/
def probe (device : DeviceId) : DeviceAct ω Bool := do
  match ← Act.attempt device.init with
  | .done _ => do
      report .debug ("device " ++ device.render ++ " initialized")
      return true
  | .failed error => do
      report .warn ("device " ++ device.render ++ " not available: " ++ FileError.message error)
      return false
  | .crashed => Act.crash
  | .stalled => Act.stall

/-- Bring the instances of a class up from `minor` on; yield which are in use afterwards,
and how many came up. An instance that does not come up again stays in use. -/
def probeFrom (major : Major) (minor : Nat) : List Bool → DeviceAct ω (List Bool × Nat)
  | [] => pure ([], 0)
  | before :: rest => do
      let up ← probe ⟨major, minor⟩
      let (others, count) ← probeFrom major (minor + 1) rest
      return ((before || up) :: others, count + if up then 1 else 0)

/-- Bring the instances of backends up. -/
def probeBackends : List Backend → DeviceAct ω (List Backend × Nat)
  | [] => pure ([], 0)
  | backend :: rest => do
      let (probed, up) ← probeFrom backend.major 0 backend.probed
      let (others, count) ← probeBackends rest
      return ({ backend with probed } :: others, up + count)

/-- Bring every instance up and yield how many came up. -/
def initAll : ManagerAct ω Nat := do
  let devices ← Act.read
  let (backends, count) ← inWorld (probeBackends devices.backends)
  Act.update fun devices => { devices with backends }
  return count

/-- Release one instance; a failure is only reported. -/
def release (device : DeviceId) : DeviceAct ω Unit := do
  match ← Act.attempt device.done with
  | .done _ => pure ()
  | .failed error =>
      report .warn ("device " ++ device.render ++ " release failed: " ++ FileError.message error)
  | .crashed => Act.crash
  | .stalled => Act.stall

/-- Release the instances of a class that are in use, from `minor` on. -/
def releaseFrom (major : Major) (minor : Nat) : List Bool → DeviceAct ω Unit
  | [] => pure ()
  | used :: rest => do
      if used then release ⟨major, minor⟩
      releaseFrom major (minor + 1) rest

/-- Release the instances of backends. -/
def releaseBackends : List Backend → DeviceAct ω Unit
  | [] => pure ()
  | backend :: rest => do
      releaseFrom backend.major 0 backend.probed
      releaseBackends rest

/-- Release every instance that is in use. -/
def doneAll : ManagerAct ω Unit := do
  let devices ← Act.read
  inWorld (releaseBackends devices.backends)
  Act.update fun devices => { devices with
    backends := devices.backends.map fun backend =>
      { backend with probed := backend.probed.map fun _ => false } }

end Devices

end Bootloader
