import Bootloader.Device.Basic
import Bootloader.Link.Frame

/-!
# Files of a host

A host serves files over a byte stream. Every request is a framed message, which
the host answers by one message of the same type. An answer that does not come
in time makes the client send the request again, three times in all. Numbers in
messages are 32 bits wide with the lowest byte first; answers are signed.

A device may go on sending bytes that never make up a message. The client waits
for such a device without end; `patience` bounds how many reads are looked at
before that is said.
-/

set_option autoImplicit false

namespace Bootloader.Link

/-- What is asked of the host. -/
inductive Request where
  | openFile
  | read
  | write
  | close
  | stat
  deriving DecidableEq, Repr, Inhabited

/-- The message type of a request. -/
def Request.type : Request → UInt16
  | .openFile => 1
  | .read => 2
  | .write => 3
  | .close => 4
  | .stat => 6

/-- Bytes in front of the data of a transfer: handle, position and length. -/
def transferHeader : Nat := 12

/-- The most bytes that one transfer carries. -/
def maximumTransfer : Nat := Capacity.message - transferHeader

/-- Bytes taken from the device at a time. -/
def receiveChunk : Nat := 64

/-- How often a request is sent. -/
def attempts : Nat := 3

/-- Report what happened on the link. -/
def report {σ ε : Type} (level : Log.Level) (message : String) : Act σ ε Unit :=
  Act.note (Log.Component.link.report level message)

/-- The records of complaints about dropped frames. -/
def complaintRecords (complaints : List String) : List Log.Record :=
  complaints.map fun complaint => Log.Component.link.report .warn complaint

/-- A signed 32-bit number of an answer. -/
def signed? (payload : Bytes) (offset : Nat) : Option Int :=
  if offset + 4 ≤ payload.length then
    let number := Bytes.toNat (payload.slice offset 4)
    some (Int.bmod number UInt32.size)
  else none

/-- An unsigned 32-bit number in a message. -/
def word (number : Nat) : Bytes :=
  Bytes.ofNat 4 number

/-- A part of an answer that says how many bytes, or that something failed. -/
def count {σ : Type} (payload : Bytes) (offset : Nat) : Act σ FileError Nat := do
  let number ← Act.ofOption .protocol (signed? payload offset)
  Act.require (0 ≤ number) .device
  return number.toNat

/-- The header of a transfer; a position of more than 32 bits cannot be asked for. -/
def transfer {σ : Type} (descriptor position length : Nat) : Act σ FileError Bytes := do
  Act.require (position < UInt32.size) .unsupported
  return word descriptor ++ word position ++ word length

section

variable {ω : Type} [Hardware ω] (device : DeviceId) (patience : Nat)

/-- Read from the device until a message is complete or nothing more comes in time. -/
def receive (decoder : Decoder) : (reads : Nat) → DeviceAct ω (Option Message)
  | 0 => Act.stall
  | reads + 1 => do
      let bytes ← device.read 0 receiveChunk Capacity.readTimeout
      if bytes.isEmpty then
        return none
      else
        let (next, message?, complaints) := decoder.feedUntilMessage bytes
        Act.noteAll (complaintRecords complaints)
        match message? with
        | some message => return some message
        | none => receive next reads

/-- Send a frame until it is answered, at most `left` times more. -/
def sendUntilAnswered (type : UInt16) (frame : Bytes) : (left : Nat) → DeviceAct ω Bytes
  | 0 => Act.fail .timeout
  | left + 1 => do
      let sent ← device.write 0 frame
      Act.require (sent = frame.length) .device
      match ← receive device Decoder.start patience with
      | some answer => do
          Act.require (answer.type = type) .protocol
          return answer.payload
      | none => do
          report .debug ("phoenixd: no answer to message " ++ toString type.toNat ++
            ", attempt " ++ toString (attempts - left))
          sendUntilAnswered type frame left

/-- Send a request and yield the payload of its answer. -/
def transact (request : Request) (payload : Bytes) : DeviceAct ω Bytes := do
  let frame ← Act.ofOption .protocol (encodeFrame? ⟨request.type, payload⟩)
  sendUntilAnswered device patience request.type frame attempts

/-- Open a file of the host and yield its descriptor. -/
def openFile (name : Bytes) (flags : Nat) : DeviceAct ω Nat := do
  let answer ← transact device patience .openFile (word flags ++ name ++ [0])
  count answer 0

/-- Read at most `length` bytes, and no more than one transfer carries. -/
def readFile (descriptor position length : Nat) : DeviceAct ω Bytes := do
  let wanted := min length maximumTransfer
  let request ← transfer descriptor position wanted
  let answer ← transact device patience .read request
  let given ← count answer 8
  Act.require (given ≤ wanted && answer.length = transferHeader + given) .protocol
  return answer.drop transferHeader

/-- Write data, no more than one transfer carries, and yield how much was written. -/
def writeFile (descriptor position : Nat) (data : Bytes) : DeviceAct ω Nat := do
  let length := min data.length maximumTransfer
  let header ← transfer descriptor position length
  let answer ← transact device patience .write (header ++ data.take length)
  let written ← count answer 8
  Act.require (written ≤ length) .protocol
  return written

/-- Close a file of the host. -/
def closeFile (descriptor : Nat) : DeviceAct ω Unit := do
  let answer ← transact device patience .close (word descriptor)
  let _ ← count answer 0

/-- The size of a file of the host. -/
def statFile (descriptor : Nat) : DeviceAct ω Nat := do
  let answer ← transact device patience .stat (word descriptor)
  let _ ← count answer 0
  let _ ← Act.ofOption .protocol (signed? answer 4)
  return Bytes.toNat (answer.slice 4 4)

/-- Read `length` bytes in as many transfers as that takes, or up to the end of the file. -/
def readAll (descriptor position length : Nat) : DeviceAct ω Bytes := do
  if length = 0 then
    return []
  else
    let bytes ← readFile device patience descriptor position length
    if _last : bytes.length = 0 then
      return []
    else
      let others ← readAll descriptor (position + bytes.length) (length - bytes.length)
      return bytes ++ others
termination_by length
decreasing_by omega

/-- Write data in as many transfers as that takes, until nothing more is taken; yield how
much was written. -/
def writeAll (descriptor position : Nat) (data : Bytes) : DeviceAct ω Nat := do
  if data.length = 0 then
    return 0
  else
    let written ← writeFile device patience descriptor position data
    if _last : written = 0 then
      return 0
    else
      let others ← writeAll descriptor (position + written) (data.drop written)
      return written + others
termination_by data.length
decreasing_by
  simp only [List.length_drop]
  omega

end

end Bootloader.Link
