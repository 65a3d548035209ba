import Bootloader.Bench.Script
import Bootloader.Link.Client

/-!
# A host that serves files

The host at the other end of the link decodes what is written to it and answers
every message, except the first few if it is told to stay silent. Its answers
wait in a queue until they are read. Files grow with zeros when they are written
behind their end, and descriptors stay valid after they were closed.
-/

set_option autoImplicit false

namespace Bootloader.Bench

/-- A host: its files by name, the file of each descriptor, the decoder of what it receives,
the answers that were not read yet, and how many messages it still ignores. -/
structure Host where
  files : List (Bytes × Bytes)
  opened : List Nat
  decoder : Link.Decoder
  queue : Bytes
  silent : Nat

namespace Host

/-- The answer to a request for a descriptor or a file that does not exist. -/
def badDescriptor : Int := -9

/-- The answer to an unknown name. -/
def noSuchFile : Int := -2

/-- A signed number in 32 bits. -/
def signedWord (number : Int) : Bytes :=
  Link.word (number % UInt32.size).toNat

/-- A number in a request. -/
def field (payload : Bytes) (offset : Nat) : Nat :=
  Bytes.toNat (payload.slice offset 4)

/-- The file of a descriptor, with its place in the list. -/
def file? (host : Host) (descriptor : Nat) : Option (Nat × Bytes) := do
  let index ← host.opened[descriptor]?
  let (_, contents) ← host.files[index]?
  return (index, contents)

/-- The name in a request, without the zero byte that ends it. -/
def requestedName (payload : Bytes) : Bytes :=
  let name := payload.drop 4
  if name.getLast? = some 0 then name.dropLast else name

/-- Open a file by name. -/
def onOpen (host : Host) (payload : Bytes) : Host × Bytes :=
  let name := requestedName payload
  match host.files.findIdx? fun entry => entry.1 = name with
  | some index =>
      ({ host with opened := host.opened ++ [index] }, signedWord host.opened.length)
  | none => (host, signedWord noSuchFile)

/-- Read a range of a file, as far as there is one. -/
def onRead (host : Host) (payload : Bytes) : Bytes :=
  match host.file? (field payload 0) with
  | some (_, contents) =>
      let data := contents.slice (field payload 4) (field payload 8)
      payload.take 8 ++ Link.word data.length ++ data
  | none => payload.take 8 ++ signedWord badDescriptor

/-- Write into a file. -/
def onWrite (host : Host) (payload : Bytes) : Host × Bytes :=
  match host.file? (field payload 0) with
  | some (index, contents) =>
      let position := field payload 4
      let data := (payload.drop Link.transferHeader).take (field payload 8)
      let grown := contents.resize (max contents.length (position + data.length))
      let written := grown.overlay position data
      ({ host with files := host.files.modify index fun entry => (entry.1, written) },
        payload.take 8 ++ Link.word data.length)
  | none => (host, payload.take 8 ++ signedWord badDescriptor)

/-- The size of a file. -/
def onStat (host : Host) (payload : Bytes) : Bytes :=
  match host.file? (field payload 0) with
  | some (_, contents) => signedWord 0 ++ Link.word contents.length
  | none => signedWord badDescriptor ++ Link.word 0

/-- What a message is answered with. -/
def answer (host : Host) (message : Link.Message) : Host × Bytes :=
  if message.type = Link.Request.openFile.type then host.onOpen message.payload
  else if message.type = Link.Request.read.type then (host, host.onRead message.payload)
  else if message.type = Link.Request.write.type then host.onWrite message.payload
  else if message.type = Link.Request.close.type then (host, signedWord 0)
  else if message.type = Link.Request.stat.type then (host, host.onStat message.payload)
  else (host, [])

/-- Take a message: ignore it, or put the frame of its answer into the queue. -/
def accept (host : Host) (message : Link.Message) : Host :=
  if 0 < host.silent then { host with silent := host.silent - 1 }
  else
    let (next, payload) := host.answer message
    let frame := (Link.encodeFrame? ⟨message.type, payload⟩).getD []
    { next with queue := next.queue ++ frame }

/-- Take the bytes of a write; yield the messages and the complaints among them. -/
def receive (host : Host) : Bytes → Host × List Link.Message × List String
  | [] => (host, [], [])
  | byte :: rest =>
      let (decoder, event) := host.decoder.push byte
      let host := { host with decoder }
      match event with
      | .message message =>
          let (last, messages, complaints) := (host.accept message).receive rest
          (last, message :: messages, complaints)
      | other =>
          let (last, messages, complaints) := host.receive rest
          (last, messages, other.complaint?.toList ++ complaints)

/-- Take at most `length` bytes from the queue. -/
def take (host : Host) (length : Nat) : Host × Bytes :=
  ({ host with queue := host.queue.drop length }, host.queue.take length)

end Host

end Bootloader.Bench
