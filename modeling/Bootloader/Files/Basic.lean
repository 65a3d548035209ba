import Bootloader.Capacity
import Bootloader.Device.Manager
import Bootloader.Link.Client

/-!
# Files on devices

Files are reached through aliases. A device alias names an instance that is in
use and says how it is spoken to: raw, where offsets go straight to the device,
or framed, where a host serves files by name. A file alias names a window of a
raw device.

An open file is held by a handle, of which there are few. A handle names a slot
and the generation of the slot, which grows when the slot is closed, so a handle
that was closed is not mistaken for a later one in the same slot.
-/

set_option autoImplicit false

namespace Bootloader

/-- How a device is spoken to. -/
inductive Protocol where
  | raw
  | framed
  deriving DecidableEq, Repr, Inhabited

namespace Protocol

/-- The word that selects a protocol. -/
def name : Protocol → String
  | raw => "raw"
  | framed => "phoenixd"

/-- The protocol of a word. -/
def ofName? (word : String) : Option Protocol :=
  if word = raw.name then some raw
  else if word = framed.name then some framed
  else none

end Protocol

/-- A range of bytes of a raw device. -/
structure FileWindow where
  start : Nat
  size : Nat
  deriving DecidableEq, Repr, Inhabited

namespace FileWindow

/-- Whether every offset of the window, its end included, fits 64 bits. -/
def fits (window : FileWindow) : Bool :=
  window.start + window.size < UInt64.size

/-- Where on the device a range of the window lies, and how much of it is inside. -/
def clamp (window : FileWindow) (offset length : Nat) : Nat × Nat :=
  if window.size ≤ offset then (window.start + window.size, 0)
  else (window.start + offset, min length (window.size - offset))

end FileWindow

/-- A name for an instance of a device and the protocol spoken with it. -/
structure DeviceAlias where
  name : String
  device : DeviceId
  protocol : Protocol
  deriving DecidableEq, Repr

/-- A name for a window of a raw device. -/
structure FileAlias where
  name : String
  window : FileWindow
  deriving DecidableEq, Repr

/-- What is open: a raw device or a window of it, or a file of a host. -/
inductive OpenTarget where
  | raw (window : Option FileWindow)
  | remote (descriptor : Nat)
  deriving DecidableEq, Repr

/-- An open file: the alias it was opened on, and what is open there. -/
structure OpenFile where
  device : DeviceAlias
  target : OpenTarget
  deriving DecidableEq, Repr

/-- A place for an open file. -/
structure Slot where
  generation : UInt16
  file : Option OpenFile
  deriving DecidableEq, Repr

/-- The right to use an open file. -/
structure Handle where
  slot : Nat
  generation : UInt16
  deriving DecidableEq, Repr, Inhabited

/-- Devices, aliases and open files. -/
structure Files (ω : Type) where
  devices : Devices ω
  aliases : List DeviceAlias
  files : List FileAlias
  slots : List Slot
  patience : Nat

/-- A request to the files. -/
abbrev FileAct (ω α : Type) := Act (Files ω) FileError α

namespace Files

variable {ω α : Type}

/-- Report what was done to a file. -/
def report {σ ε : Type} (level : Log.Level) (message : String) : Act σ ε Unit :=
  Act.note (Log.Component.files.report level message)

/-- No alias is registered and no file is open. -/
def ofDevices (devices : Devices ω) (patience : Nat) : Files ω where
  devices := devices
  aliases := []
  files := []
  slots := List.replicate Capacity.handles ⟨0, none⟩
  patience := patience

/-! ## Aliases -/

/-- The device of an alias. -/
def alias? (files : Files ω) (aliasName : String) : Option DeviceAlias :=
  files.aliases.find? fun entry => entry.name = aliasName

/-- The device of an alias, or an error. -/
def findAlias (files : Files ω) (aliasName : String) : Except FileError DeviceAlias :=
  match files.alias? aliasName with
  | some entry => .ok entry
  | none => .error .unknownAlias

/-- The protocol spoken with the device of an alias. -/
def protocol (files : Files ω) (aliasName : String) : Except FileError Protocol :=
  (files.findAlias aliasName).map DeviceAlias.protocol

/-- The window that a file alias names. -/
def window? (files : Files ω) (aliasName : String) : Option FileWindow :=
  (files.files.find? fun entry => entry.name = aliasName).map FileAlias.window

/-- An alias has at least one byte and not too many. -/
def checkAlias (aliasName : String) : FileAct ω Unit :=
  Act.require (0 < aliasName.utf8ByteSize && aliasName.utf8ByteSize ≤ Capacity.aliasBytes) .badAlias

/-- Register an alias for an instance that is in use. -/
def registerDevice (aliasName : String) (device : DeviceId) (protocol : Protocol) :
    FileAct ω Unit := do
  checkAlias aliasName
  let files ← Act.read
  Act.require (files.alias? aliasName).isNone .aliasTaken
  Act.require (files.aliases.length < Capacity.devices) .registryFull
  Act.require (files.devices.isUp device) (.noDevice device)
  report .info ("phfs: " ++ aliasName ++ " -> " ++ device.render ++ " (" ++ protocol.name ++ ")")
  Act.put { files with aliases := files.aliases ++ [⟨aliasName, device, protocol⟩] }

/-- Register an alias for a window of a raw device. -/
def registerFile (aliasName : String) (window : FileWindow) : FileAct ω Unit := do
  checkAlias aliasName
  let files ← Act.read
  Act.require (files.window? aliasName).isNone .aliasTaken
  Act.require (files.files.length < Capacity.files) .registryFull
  Act.require window.fits .badAlias
  report .debug ("phfs: file " ++ aliasName ++ " at " ++ Text.hex window.start ++ "+" ++
    Text.hex window.size)
  Act.put { files with files := files.files ++ [⟨aliasName, window⟩] }

/-! ## Slots -/

/-- The number of open files. -/
def openCount (files : Files ω) : Nat :=
  (files.slots.filter fun slot => slot.file.isSome).length

/-- The first slot that is free. -/
def freeSlot? (files : Files ω) : Option Nat :=
  files.slots.findIdx? fun slot => slot.file.isNone

/-- Put an open file into the first free slot. -/
def allocate (file : OpenFile) : FileAct ω Handle := do
  let files ← Act.read
  let index ← Act.ofOption .handlesExhausted files.freeSlot?
  let slot ← Act.ofOption .handlesExhausted files.slots[index]?
  Act.put { files with slots := files.slots.set index { slot with file := some file } }
  return ⟨index, slot.generation⟩

/-- The open file of a handle. -/
def resolve? (files : Files ω) (handle : Handle) : Option OpenFile := do
  let slot ← files.slots[handle.slot]?
  if slot.generation = handle.generation then slot.file else none

/-- The open file of a handle, or an error. -/
def resolve (handle : Handle) : FileAct ω OpenFile := do
  let files ← Act.read
  Act.ofOption .invalidHandle (files.resolve? handle)

/-- Free the slot of a handle. -/
def free (files : Files ω) (handle : Handle) : Files ω :=
  { files with
    slots := files.slots.modify handle.slot fun slot => ⟨slot.generation + 1, none⟩ }

/-! ## Turning to the devices -/

/-- Turn to the device manager. -/
def inDevices (request : ManagerAct ω α) : FileAct ω α :=
  Act.zoom Files.devices (fun devices files => { files with devices }) request

/-- Turn to an instance that is in use. -/
def withDevice (device : DeviceId) (request : (patience : Nat) → DeviceAct ω α) :
    FileAct ω α := do
  let files ← Act.read
  inDevices (Devices.withDevice device (request files.patience))

end Files

end Bootloader
