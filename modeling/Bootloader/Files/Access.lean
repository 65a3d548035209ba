import Bootloader.Files.Basic
import Bootloader.Text.Field

/-!
# Opening and using files

On a raw device a file is the whole device, a registered window, or a window
given on the spot; transfers are cut at the end of the window. On a framed
device the name is sent to the host, and long transfers are made in pieces.
Closing frees the handle whatever happens, and flushes the device.
-/

set_option autoImplicit false

namespace Bootloader.Files

variable {ω : Type} [Hardware ω]

/-- What opening a name on the device of an alias gives. -/
def openTarget (entry : DeviceAlias) (name : Option String) (flags : Nat) :
    FileAct ω OpenTarget := do
  let files ← Act.read
  match entry.protocol, name with
  | .raw, none => return .raw none
  | .raw, some file => do
      let window ← Act.ofOption .unknownFile (files.window? file)
      return .raw (some window)
  | .framed, none => Act.fail .unknownFile
  | .framed, some file => do
      let descriptor ← withDevice entry.device fun patience =>
        Link.openFile entry.device patience (Text.encode file) flags
      return .remote descriptor

/-- Open a name, or the whole of a raw device. -/
def openFile (aliasName : String) (name : Option String) (flags : Nat) : FileAct ω Handle := do
  let files ← Act.read
  let entry ← Act.ofExcept (files.findAlias aliasName)
  Act.require files.freeSlot?.isSome .handlesExhausted
  let target ← openTarget entry name flags
  report .debug ("phfs: open " ++ aliasName ++ ":" ++ name.getD "<raw>")
  allocate ⟨entry, target⟩

/-- Open a window of a raw device that has no alias. -/
def openWindow (aliasName : String) (window : FileWindow) : FileAct ω Handle := do
  let files ← Act.read
  let entry ← Act.ofExcept (files.findAlias aliasName)
  Act.require (entry.protocol = .raw) .unsupported
  Act.require window.fits .badAlias
  allocate ⟨entry, .raw (some window)⟩

/-- Where on a raw device a range lies, and how much of it may be used. -/
def clamp (window : Option FileWindow) (offset length : Nat) : Nat × Nat :=
  match window with
  | some window => window.clamp offset length
  | none => (offset, length)

/-- Read at most `length` bytes. -/
def read (handle : Handle) (offset length : Nat) : FileAct ω Bytes := do
  let file ← resolve handle
  let device := file.device.device
  withDevice device fun patience =>
    match file.target with
    | .raw window =>
        let (place, usable) := clamp window offset length
        if usable = 0 then pure [] else device.read place usable Capacity.readTimeout
    | .remote descriptor => Link.readAll device patience descriptor offset length

/-- Write bytes and yield how many were taken. -/
def write (handle : Handle) (offset : Nat) (data : Bytes) : FileAct ω Nat := do
  let file ← resolve handle
  let device := file.device.device
  withDevice device fun patience =>
    match file.target with
    | .raw window =>
        let (place, usable) := clamp window offset data.length
        if usable = 0 then pure 0 else device.write place (data.take usable)
    | .remote descriptor => Link.writeAll device patience descriptor offset data

/-- Erase a range of a raw device and yield how much of it was erased. -/
def erase (handle : Handle) (offset length flags : Nat) : FileAct ω Nat := do
  let file ← resolve handle
  match file.target with
  | .raw window =>
      let (place, usable) := clamp window offset length
      withDevice file.device.device fun _ => file.device.device.erase place usable flags
  | .remote _ => Act.fail .unsupported

/-- Ask whether a range can be used in place; its offset is one of the file. -/
def map (handle : Handle) (request : MapRequest) : FileAct ω Mapping := do
  let file ← resolve handle
  match file.target with
  | .raw window =>
      let (place, usable) := clamp window request.offset request.size
      if usable < request.size then
        return .notMappable
      else
        withDevice file.device.device fun _ =>
          file.device.device.map { request with offset := place }
  | .remote _ => return .notMappable

/-- The size of a file; a whole raw device has none. -/
def stat (handle : Handle) : FileAct ω Nat := do
  let file ← resolve handle
  match file.target with
  | .raw (some window) => return window.size
  | .raw none => Act.fail .unsupported
  | .remote descriptor =>
      withDevice file.device.device fun patience =>
        Link.statFile file.device.device patience descriptor

/-- Close what is open on a device and flush it. Both are done; of two failures the first
is the one that counts. -/
def finish (file : OpenFile) (patience : Nat) : DeviceAct ω Unit := do
  let device := file.device.device
  let closed ← Act.attempt
    (match file.target with
    | .remote descriptor => Link.closeFile device patience descriptor
    | .raw _ => pure ())
  match closed with
  | .crashed => Act.crash
  | .stalled => Act.stall
  | closed => do
      let synced ← Act.attempt device.sync
      if let .failed error := synced then
        report .warn ("phfs: sync of " ++ file.device.name ++ " failed: " ++ error.message)
      if closed.isDone then Act.conclude synced else Act.conclude closed

/-- Give a handle back; its slot is free afterwards, also if the device reports a failure. -/
def close (handle : Handle) : FileAct ω Unit := do
  let file ← resolve handle
  Act.update fun files => files.free handle
  withDevice file.device.device fun patience => finish file patience

/-- Give a handle back on the way out; a failure is only reported. -/
def abandon (handle : Handle) : FileAct ω Unit := do
  match ← Act.attempt (close handle) with
  | .done _ => pure ()
  | .failed error => report .warn ("phfs: close on drop failed: " ++ FileError.message error)
  | .crashed => Act.crash
  | .stalled => Act.stall

/-- Read exactly `length` bytes; a file that ends before is an error. -/
def readExact (handle : Handle) (offset length : Nat) : FileAct ω Bytes := do
  if length = 0 then
    return []
  else
    let bytes ← read handle offset length
    if _last : bytes.length = 0 then
      Act.fail .device
    else
      let others ← readExact handle (offset + bytes.length) (length - bytes.length)
      return bytes ++ others
termination_by length
decreasing_by omega

end Bootloader.Files
