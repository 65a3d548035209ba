import Bootloader.Bytes
import Bootloader.Capacity

/-!
# Frames on a byte stream

Messages to and from a host travel in frames. A frame starts with a mark, a byte
that appears nowhere else: where the contents hold it, or the escape byte, they
hold the escape byte and the changed byte instead. The contents are a checksum,
the type and the length of the message, and its payload.

A decoder takes a stream byte by byte. After a mark it collects contents until
the frame is complete or cannot be one, and then waits for the next mark.
-/

set_option autoImplicit false

namespace Bootloader.Link

/-- The byte that starts a frame. -/
def mark : UInt8 := 0x7e

/-- The byte in front of a changed byte. -/
def escape : UInt8 := 0x7d

/-- How an escaped byte is changed, and changed back. -/
def disguise (byte : UInt8) : UInt8 :=
  byte ^^^ 0x20

/-- One bit of the checksum. -/
def crcBit (crc : UInt32) : UInt32 :=
  if crc &&& 1 = 1 then (crc >>> 1) ^^^ 0xedb88320 else crc >>> 1

/-- One byte of the checksum. -/
def crcByte (crc : UInt32) (byte : UInt8) : UInt32 :=
  (crcBit ∘ crcBit ∘ crcBit ∘ crcBit ∘ crcBit ∘ crcBit ∘ crcBit ∘ crcBit) (crc ^^^ byte.toUInt32)

/-- The checksum: the reflected cyclic code of 32 bits that Ethernet uses. -/
def crc32 (bytes : Bytes) : UInt32 :=
  bytes.foldl crcByte 0xffffffff ^^^ 0xffffffff

/-- A message. -/
structure Message where
  type : UInt16
  payload : Bytes
  deriving DecidableEq, Repr

namespace Message

/-- Type, length and payload: what the checksum covers. -/
def body (message : Message) : Bytes :=
  Bytes.ofNat 2 message.type.toNat ++ Bytes.ofNat 2 message.payload.length ++ message.payload

/-- The contents of a frame before bytes are escaped. -/
def contents (message : Message) : Bytes :=
  Bytes.ofNat 4 (crc32 message.body).toNat ++ message.body

end Message

/-- Contents with marks and escapes disguised. -/
def stuff : Bytes → Bytes
  | [] => []
  | byte :: rest =>
      if byte = mark ∨ byte = escape then escape :: disguise byte :: stuff rest
      else byte :: stuff rest

/-- The frame of a message; there is none for a payload that is too long. -/
def encodeFrame? (message : Message) : Option Bytes :=
  if message.payload.length ≤ Capacity.message then some (mark :: stuff message.contents)
  else none

/-- Bytes in front of the payload. -/
def headerSize : Nat := 8

/-- The length that the contents of a frame announce. -/
def announcedLength (contents : Bytes) : Nat :=
  Bytes.toNat (contents.slice 6 2)

/-- The type that the contents of a frame give. -/
def announcedType (contents : Bytes) : UInt16 :=
  UInt16.ofNat (Bytes.toNat (contents.slice 4 2))

/-- What a decoder has to say about a byte. -/
inductive Event where
  | nothing
  | message (message : Message)
  | oversized
  | badChecksum
  deriving DecidableEq, Repr

namespace Event

/-- The message that a byte completed. -/
def message? : Event → Option Message
  | .message found => some found
  | _ => none

/-- What is reported about a frame that is dropped. -/
def complaint? : Event → Option String
  | .oversized => some "phoenixd: oversized frame dropped"
  | .badChecksum => some "phoenixd: frame checksum mismatch"
  | _ => none

end Event

/-- A decoder: the contents collected so far, whether it is inside a frame, and whether the
last byte was an escape. -/
structure Decoder where
  contents : Bytes
  inFrame : Bool
  escaped : Bool
  deriving DecidableEq, Repr

namespace Decoder

/-- A decoder that waits for a mark. -/
def start : Decoder := ⟨[], false, false⟩

instance : Inhabited Decoder := ⟨start⟩

/-- Judge the contents after one more byte of them. -/
def judge (contents : Bytes) : Decoder × Event :=
  let waiting : Decoder := ⟨contents, true, false⟩
  let finished : Decoder := ⟨contents, false, false⟩
  if contents.length < headerSize then (waiting, .nothing)
  else
    let length := announcedLength contents
    if Capacity.message < length then (finished, .oversized)
    else if contents.length < headerSize + length then (waiting, .nothing)
    else if Bytes.toNat (contents.take 4) = (crc32 (contents.drop 4)).toNat then
      (finished, .message ⟨announcedType contents, contents.drop headerSize⟩)
    else (finished, .badChecksum)

/-- Take one byte of the stream. -/
def push (decoder : Decoder) (byte : UInt8) : Decoder × Event :=
  if byte = mark then (⟨[], true, false⟩, .nothing)
  else if !decoder.inFrame then (decoder, .nothing)
  else if decoder.escaped then judge (decoder.contents ++ [disguise byte])
  else if byte = escape then ({ decoder with escaped := true }, .nothing)
  else judge (decoder.contents ++ [byte])

/-- Take bytes of the stream, and say what came of each. -/
def feed (decoder : Decoder) : Bytes → Decoder × List Event
  | [] => (decoder, [])
  | byte :: rest =>
      let (next, event) := decoder.push byte
      let (last, events) := next.feed rest
      (last, event :: events)

/-- Take bytes of the stream up to the first message. -/
def feedUntilMessage (decoder : Decoder) : Bytes → Decoder × Option Message × List String
  | [] => (decoder, none, [])
  | byte :: rest =>
      let (next, event) := decoder.push byte
      match event with
      | .message message => (next, some message, [])
      | other =>
          let (last, message?, complaints) := next.feedUntilMessage rest
          (last, message?, other.complaint?.toList ++ complaints)

end Decoder

end Bootloader.Link
