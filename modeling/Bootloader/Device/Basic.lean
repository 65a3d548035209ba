import Bootloader.Act
import Bootloader.Attributes
import Bootloader.Address
import Bootloader.Bytes
import Bootloader.Status

/-!
# Devices

A device is addressed by its class and the number of an instance. It can be
brought up and released, read, written, erased, flushed, and asked whether a
range of its bytes can be used where it lies. Devices answer as they like: all
that is fixed is that each request gives one answer and leaves a new state of
the outside world behind.
-/

set_option autoImplicit false

namespace Bootloader

/-- Classes of devices. -/
inductive Major where
  | uart
  | usb
  | storage
  | tty
  | ram
  | nandData
  | nandMeta
  | nandRaw
  deriving DecidableEq, Repr, Inhabited

namespace Major

/-- All classes, in the order of their numbers. -/
def all : List Major :=
  [uart, usb, storage, tty, ram, nandData, nandMeta, nandRaw]

/-- The number of a class. -/
def number : Major → Nat
  | uart => 0
  | usb => 1
  | storage => 2
  | tty => 3
  | ram => 4
  | nandData => 5
  | nandMeta => 6
  | nandRaw => 7

/-- The name of a class. -/
def name : Major → String
  | uart => "Uart"
  | usb => "Usb"
  | storage => "Storage"
  | tty => "Tty"
  | ram => "Ram"
  | nandData => "NandData"
  | nandMeta => "NandMeta"
  | nandRaw => "NandRaw"

/-- The class of a number. -/
def ofNumber? (number : Nat) : Option Major :=
  all[number]?

end Major

/-- An instance of a class of devices. -/
structure DeviceId where
  major : Major
  minor : Nat
  deriving DecidableEq, Repr, Inhabited

/-- The class and the number of an instance. -/
def DeviceId.render (device : DeviceId) : String :=
  device.major.name ++ "." ++ toString device.minor

/-- Why a request to a device or a file fails. -/
inductive FileError where
  | unknownAlias
  | aliasTaken
  | badAlias
  | registryFull
  | noDevice (device : DeviceId)
  | majorTaken (major : Major)
  | unknownFile
  | handlesExhausted
  | invalidHandle
  | incompatibleMode
  | unsupported
  | timeout
  | device
  | protocol
  deriving DecidableEq, Repr

namespace FileError

/-- The text of an error. -/
def message : FileError → String
  | unknownAlias => "Unknown device alias"
  | aliasTaken => "The alias is already registered"
  | badAlias => "The alias is empty or too long"
  | registryFull => "The registry is full"
  | noDevice missing => "No initialized device " ++ missing.render
  | majorTaken major => "A backend is already registered for " ++ major.name
  | unknownFile => "Unknown file alias"
  | handlesExhausted => "All PHFS handles are in use"
  | invalidHandle => "The handle is stale or was never opened"
  | incompatibleMode => "The requested mapping mode is not allowed"
  | unsupported => "The operation is not supported by this device or protocol"
  | timeout => "The device did not answer in time"
  | device => "Device I/O failed"
  | protocol => "Unexpected protocol response"

/-- The status code of an error. -/
def code : FileError → Int
  | device => Status.device
  | timeout => Status.device
  | unsupported => Status.device
  | protocol => Status.protocol
  | _ => Status.argument

end FileError

/-- A range of a device that is to be used in place, what for, and the memory map that it
would have to lie in. -/
structure MapRequest where
  offset : Nat
  size : Nat
  mode : Attributes
  mapStart : Address
  mapSize : Nat
  mapAttributes : Attributes
  deriving DecidableEq, Repr

/-- Whether a range can be used in place. -/
inductive Mapping where
  | mappable (address : Address)
  | notMappable
  deriving DecidableEq, Repr

/-- The answer to one request: its result, the world after it, and what was reported. -/
structure Reply (ω α : Type) where
  result : Except FileError α
  world : ω
  records : List Log.Record := []

namespace Reply

variable {ω α : Type}

/-- An answer that is a value. -/
def ok (world : ω) (value : α) : Reply ω α :=
  { result := .ok value, world }

/-- An answer that is an error. -/
def error (world : ω) (error : FileError) : Reply ω α :=
  { result := .error error, world }

end Reply

/-- A world with devices in it. A read yields at most the bytes asked for. -/
class Hardware (ω : Type) where
  init : ω → DeviceId → Reply ω Unit
  done : ω → DeviceId → Reply ω Unit
  read : ω → DeviceId → (offset length timeout : Nat) → Reply ω Bytes
  write : ω → DeviceId → (offset : Nat) → Bytes → Reply ω Nat
  erase : ω → DeviceId → (offset length flags : Nat) → Reply ω Nat
  sync : ω → DeviceId → Reply ω Unit
  map : ω → DeviceId → MapRequest → Reply ω Mapping

/-- A request to the devices of a world. -/
abbrev DeviceAct (ω α : Type) := Act ω FileError α

/-- Ask the world. -/
def ask {ω α : Type} (request : ω → Reply ω α) : DeviceAct ω α where
  run world :=
    let reply := request world
    { outcome := Outcome.ofExcept reply.result, state := reply.world, records := reply.records }

namespace DeviceId

variable {ω : Type} [Hardware ω] (device : DeviceId)

/-- Bring an instance up. -/
def init : DeviceAct ω Unit :=
  ask fun world => Hardware.init world device

/-- Release an instance. -/
def done : DeviceAct ω Unit :=
  ask fun world => Hardware.done world device

/-- Read at most `length` bytes. -/
def read (offset length timeout : Nat) : DeviceAct ω Bytes := do
  let bytes ← ask fun world => Hardware.read world device offset length timeout
  return bytes.take length

/-- Write bytes and yield how many were taken. -/
def write (offset : Nat) (data : Bytes) : DeviceAct ω Nat :=
  ask fun world => Hardware.write world device offset data

/-- Erase a range and yield how much of it was erased. -/
def erase (offset length flags : Nat) : DeviceAct ω Nat :=
  ask fun world => Hardware.erase world device offset length flags

/-- Flush what was written. -/
def sync : DeviceAct ω Unit :=
  ask fun world => Hardware.sync world device

/-- Ask whether a range can be used in place. -/
def map (request : MapRequest) : DeviceAct ω Mapping :=
  ask fun world => Hardware.map world device request

end DeviceId

end Bootloader
