import Bootloader.Device.Basic

/-!
# Storage in memory

Each instance is a region of bytes that the processor sees at a base address
with certain attributes. Reads, writes and erasures are cut at the end of the
region. A range can be used in place if it lies in the region and in the memory
map, and if region and map allow the requested mode.
-/

set_option autoImplicit false

namespace Bootloader

/-- The bytes of one instance. -/
structure RamRegion where
  base : Address
  attributes : Attributes
  bytes : Bytes
  deriving DecidableEq, Repr

/-- Regions by the number of their instance, and how often one was flushed. -/
structure RamStorage where
  regions : List RamRegion
  syncs : Nat
  deriving DecidableEq, Repr

namespace RamRegion

/-- How many bytes of a range lie in the region. -/
def available (region : RamRegion) (offset length : Nat) : Nat :=
  min length (region.bytes.length - offset)

/-- The bytes of a range, as far as it lies in the region. -/
def read (region : RamRegion) (offset length : Nat) : Bytes :=
  region.bytes.slice offset length

/-- The region after a write, as far as it lies inside. -/
def write (region : RamRegion) (offset : Nat) (data : Bytes) : RamRegion :=
  if offset < region.bytes.length then
    { region with
      bytes := region.bytes.overlay offset (data.take (region.available offset data.length)) }
  else region

/-- The region after a range was filled with ones, as far as it lies inside. -/
def erase (region : RamRegion) (offset length : Nat) : RamRegion :=
  region.write offset (List.replicate (region.available offset length) 0xff)

/-- The answer to a request to use a range in place. -/
def map (region : RamRegion) (request : MapRequest) : Except FileError Mapping :=
  if !request.mode.isSubset region.attributes || !request.mode.isSubset request.mapAttributes then
    .error .incompatibleMode
  else
    match region.base.advance? request.offset with
    | none => .ok .notMappable
    | some address =>
        let inRegion := request.offset + request.size ≤ region.bytes.length
        let inMap := request.mapStart ≤ address ∧
          address.toNat - request.mapStart.toNat + request.size ≤ request.mapSize
        if inRegion ∧ inMap then .ok (.mappable address) else .ok .notMappable

end RamRegion

namespace RamStorage

/-- Storage without regions. -/
def empty : RamStorage := ⟨[], 0⟩

/-- An answer that changes nothing, for an instance that exists. -/
def answer {α : Type} (storage : RamStorage) (minor : Nat)
    (result : RamRegion → Except FileError α) : Reply RamStorage α :=
  match storage.regions[minor]? with
  | some region => { result := result region, world := storage }
  | none => .error storage .device

/-- Bring an instance up, which succeeds if it exists. -/
def init (storage : RamStorage) (minor : Nat) : Reply RamStorage Unit :=
  storage.answer minor fun _ => .ok ()

/-- Release an instance. -/
def done (storage : RamStorage) : Reply RamStorage Unit :=
  .ok storage ()

/-- Read a range. -/
def read (storage : RamStorage) (minor offset length : Nat) : Reply RamStorage Bytes :=
  storage.answer minor fun region => .ok (region.read offset length)

/-- Write bytes. -/
def write (storage : RamStorage) (minor offset : Nat) (data : Bytes) : Reply RamStorage Nat :=
  match storage.regions[minor]? with
  | some region =>
      .ok { storage with regions := storage.regions.set minor (region.write offset data) }
        (region.available offset data.length)
  | none => .error storage .device

/-- Erase a range. -/
def erase (storage : RamStorage) (minor offset length : Nat) : Reply RamStorage Nat :=
  match storage.regions[minor]? with
  | some region =>
      .ok { storage with regions := storage.regions.set minor (region.erase offset length) }
        (region.available offset length)
  | none => .error storage .device

/-- Flush an instance. -/
def sync (storage : RamStorage) (minor : Nat) : Reply RamStorage Unit :=
  match storage.regions[minor]? with
  | some _ => .ok { storage with syncs := storage.syncs + 1 } ()
  | none => .error storage .device

/-- Ask whether a range can be used in place. -/
def map (storage : RamStorage) (minor : Nat) (request : MapRequest) : Reply RamStorage Mapping :=
  storage.answer minor fun region => region.map request

end RamStorage

end Bootloader
