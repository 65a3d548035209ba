import Bootloader.Bench.Host
import Bootloader.Bench.Script
import Bootloader.Device.Manager
import Bootloader.Device.Ram

/-!
# A test bench

A bench holds at most one device for each class: storage in memory, a script, or
a host behind a link. What scripts and hosts are asked is kept in a journal.
-/

set_option autoImplicit false

namespace Bootloader.Bench

/-- A device on the bench. -/
inductive Gadget where
  | ram (storage : RamStorage)
  | script (script : Script)
  | host (host : Host)

/-- The devices by class, and what they were asked. -/
structure World where
  gadgets : List (Major × Gadget)
  journal : List Entry

namespace World

/-- A bench without devices. -/
def empty : World := ⟨[], []⟩

/-- The bench with one device more. -/
def plug (major : Major) (gadget : Gadget) (world : World) : World :=
  { world with gadgets := world.gadgets ++ [(major, gadget)] }

/-- The device of a class. -/
def gadget? (world : World) (major : Major) : Option Gadget :=
  (world.gadgets.find? fun entry => entry.1 = major).map Prod.snd

/-- Replace the device of a class. -/
def replace (world : World) (major : Major) (gadget : Gadget) : World :=
  { world with gadgets := world.gadgets.map fun entry =>
      if entry.1 = major then (major, gadget) else entry }

/-- Put a request into the journal. -/
def record (world : World) (device : DeviceId) (call : Call) : World :=
  { world with journal := world.journal ++ [⟨device.minor, call⟩] }

/-- The answer of storage, given to the world. -/
def ofRam {α : Type} (world : World) (device : DeviceId) (reply : Reply RamStorage α) :
    Reply World α :=
  { result := reply.result, world := world.replace device.major (.ram reply.world),
    records := reply.records }

/-- The answer of a script, given to the world, with the request in the journal. -/
def ofScript {α : Type} (world : World) (device : DeviceId) (call : Call)
    (reply : Reply Script α) : Reply World α :=
  { result := reply.result,
    world := (world.record device call).replace device.major (.script reply.world),
    records := reply.records }

/-- The answer where there is no device. -/
def absent {α : Type} (world : World) : Reply World α :=
  .error world .device

/-- Bring an instance up. -/
def init (world : World) (device : DeviceId) : Reply World Unit :=
  match world.gadget? device.major with
  | some (.ram storage) => world.ofRam device (storage.init device.minor)
  | some (.script script) => world.ofScript device .init script.onInit
  | some (.host _) => .ok world ()
  | none => world.absent

/-- Release an instance. -/
def done (world : World) (device : DeviceId) : Reply World Unit :=
  match world.gadget? device.major with
  | some (.ram storage) => world.ofRam device storage.done
  | some (.script script) => world.ofScript device .done script.onDone
  | some (.host _) => .ok (world.record device .done) ()
  | none => world.absent

/-- Read at most `length` bytes. -/
def read (world : World) (device : DeviceId) (offset length timeout : Nat) :
    Reply World Bytes :=
  match world.gadget? device.major with
  | some (.ram storage) => world.ofRam device (storage.read device.minor offset length)
  | some (.script script) =>
      world.ofScript device (.read offset length timeout) (script.onRead length)
  | some (.host host) =>
      let (next, bytes) := host.take length
      .ok (world.replace device.major (.host next)) bytes
  | none => world.absent

/-- Write bytes. A host takes all of them and answers the messages among them. -/
def write (world : World) (device : DeviceId) (offset : Nat) (data : Bytes) : Reply World Nat :=
  match world.gadget? device.major with
  | some (.ram storage) => world.ofRam device (storage.write device.minor offset data)
  | some (.script script) => world.ofScript device (.write offset data) (script.onWrite data)
  | some (.host host) =>
      let (next, messages, complaints) := host.receive data
      let asked := messages.foldl
        (fun world message => world.record device (.message message.type message.payload)) world
      { result := .ok data.length, world := asked.replace device.major (.host next),
        records := Link.complaintRecords complaints }
  | none => world.absent

/-- Erase a range. -/
def erase (world : World) (device : DeviceId) (offset length flags : Nat) : Reply World Nat :=
  match world.gadget? device.major with
  | some (.ram storage) => world.ofRam device (storage.erase device.minor offset length)
  | some (.script script) =>
      world.ofScript device (.erase offset length flags) script.onErase
  | some (.host _) => .error world .unsupported
  | none => world.absent

/-- Flush an instance. -/
def sync (world : World) (device : DeviceId) : Reply World Unit :=
  match world.gadget? device.major with
  | some (.ram storage) => world.ofRam device (storage.sync device.minor)
  | some (.script script) => world.ofScript device .sync script.onSync
  | some (.host _) => .ok (world.record device .sync) ()
  | none => world.absent

/-- Ask whether a range can be used in place. -/
def map (world : World) (device : DeviceId) (request : MapRequest) : Reply World Mapping :=
  match world.gadget? device.major with
  | some (.ram storage) => world.ofRam device (storage.map device.minor request)
  | some (.script script) => world.ofScript device (.map request) script.onMap
  | some (.host _) => .ok world .notMappable
  | none => world.absent

instance : Hardware World where
  init := init
  done := done
  read := read
  write := write
  erase := erase
  sync := sync
  map := map

end World

end Bootloader.Bench
