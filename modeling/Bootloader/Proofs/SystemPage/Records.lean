import Bootloader.Proofs.Canonical
import Bootloader.Proofs.SystemPage.Block

/-!
# Encoders and decoders of the records

The kernel's side of the system page knows each record by a pair of routines, which put the
parts of the record at offsets of their own into a buffer and take them from there. The offsets
stand in both routines, and are repeated here as they are known there; the layouts of the records
have none. Both routines of a record agree with its layout, the layouts are canonical, and so the
five pairs are codecs, with the padding of each record as its gaps (`record_codecs`).
-/

set_option autoImplicit false

namespace Bootloader.SystemPage

open Layout

/-! ## The layouts are canonical -/

theorem canonical_address : addressLayout.Canonical [] :=
  canonical_word64.through (fun _ => rfl) fun _ => rfl

theorem canonical_region : Region.layout.Canonical [] :=
  (canonical_address.both canonical_word64).through (fun _ => rfl) fun _ => rfl

theorem canonical_kernel : KernelDescriptor.layout.Canonical [] :=
  (canonical_region.both (canonical_region.both (canonical_region.both
    canonical_address))).through (fun _ => rfl) fun _ => rfl

theorem canonical_reference : TableReference.layout.Canonical [] :=
  (canonical_word32.both canonical_word32).through (fun _ => rfl) fun _ => rfl

theorem canonical_header : Header.layout.Canonical [] :=
  (canonical_word32.both (canonical_word32.both (canonical_kernel.both (canonical_reference.both
    (canonical_reference.both (canonical_reference.both (canonical_reference.both
      canonical_reference))))))).through (fun _ => rfl) fun _ => rfl

theorem canonical_map : MapRecord.layout.Canonical [⟨29, 3⟩] :=
  (canonical_address.both (canonical_address.both (canonical_word32.both (canonical_byte.both
    ((canonical_field _).both (canonical_padding 3)))))).through (fun _ => rfl) fun _ => rfl

theorem canonical_program : ProgramRecord.layout.Canonical [⟨22, 2⟩] :=
  (canonical_address.both (canonical_address.both (canonical_word32.both (canonical_byte.both
    (canonical_byte.both ((canonical_padding 2).both ((canonical_field _).both
      ((canonical_field _).both (canonical_field _))))))))).through (fun _ => rfl) fun _ => rfl

theorem canonical_partition : PartitionRecord.layout.Canonical [⟨10, 6⟩] :=
  ((canonical_field _).both (canonical_byte.both (canonical_byte.both ((canonical_padding 6).both
    ((canonical_field _).both (canonical_field _)))))).through (fun _ => rfl) fun _ => rfl

theorem canonical_window : WindowRecord.layout.Canonical [⟨17, 7⟩] :=
  (canonical_word64.both (canonical_word64.both (canonical_byte.both
    (canonical_padding 7)))).through (fun _ => rfl) fun _ => rfl

/-! ## Parts of the header -/

/-- Put a region at an offset of a buffer. -/
def Region.putAt? (offset : Nat) (region : Region) (buffer : Bytes) : Option Bytes := do
  let buffer ← addressLayout.writeAt? offset region.address buffer
  word64.writeAt? (offset + 8) region.size buffer

/-- Take a region from an offset of the bytes. -/
def Region.takeAt? (offset : Nat) (bytes : Bytes) : Option Region := do
  let address ← addressLayout.readAt? offset bytes
  let size ← word64.readAt? (offset + 8) bytes
  return { address, size }

/-- Put the place of a table at an offset of a buffer. -/
def TableReference.putAt? (offset : Nat) (table : TableReference) (buffer : Bytes) :
    Option Bytes := do
  let buffer ← word32.writeAt? offset table.offset buffer
  word32.writeAt? (offset + 4) table.count buffer

/-- Take the place of a table from an offset of the bytes. -/
def TableReference.takeAt? (place : Nat) (bytes : Bytes) : Option TableReference := do
  let offset ← word32.readAt? place bytes
  let count ← word32.readAt? (place + 4) bytes
  return { offset, count }

theorem Region.putAt?_eq (offset : Nat) (region : Region) (buffer : Bytes) :
    region.putAt? offset buffer = Region.layout.writeAt? offset region buffer := by
  rw [Region.layout, writeAt?_through, writeAt?_both exact_address]
  rfl

theorem Region.takeAt?_eq (offset : Nat) (bytes : Bytes) :
    Region.takeAt? offset bytes = Region.layout.readAt? offset bytes := by
  rw [Region.layout, readAt?_through, readAt?_both_bind (by decide)]
  rfl

theorem TableReference.putAt?_eq (offset : Nat) (table : TableReference) (buffer : Bytes) :
    table.putAt? offset buffer = TableReference.layout.writeAt? offset table buffer := by
  rw [TableReference.layout, writeAt?_through, writeAt?_both exact_word32]
  rfl

theorem TableReference.takeAt?_eq (offset : Nat) (bytes : Bytes) :
    TableReference.takeAt? offset bytes = TableReference.layout.readAt? offset bytes := by
  rw [TableReference.layout, readAt?_through, readAt?_both_bind (by decide)]
  rfl

/-! ## Encoders -/

/-- Write a header over the first bytes of a buffer. -/
def Header.encode? (header : Header) (buffer : Bytes) : Option Bytes := do
  let buffer ← word32.writeAt? 0 header.magic buffer
  let buffer ← word32.writeAt? 4 header.size buffer
  let buffer ← header.kernel.text.putAt? 8 buffer
  let buffer ← header.kernel.data.putAt? 24 buffer
  let buffer ← header.kernel.bss.putAt? 40 buffer
  let buffer ← addressLayout.writeAt? 56 header.kernel.entry buffer
  let buffer ← header.maps.putAt? 64 buffer
  let buffer ← header.programs.putAt? 72 buffer
  let buffer ← header.partitions.putAt? 80 buffer
  let buffer ← header.windows.putAt? 88 buffer
  header.arguments.putAt? 96 buffer

/-- Write a map over the first bytes of a buffer. -/
def MapRecord.encode? (record : MapRecord) (buffer : Bytes) : Option Bytes := do
  let buffer ← addressLayout.writeAt? 0 record.start buffer
  let buffer ← addressLayout.writeAt? 8 record.stop buffer
  let buffer ← word32.writeAt? 16 record.attributes buffer
  let buffer ← byte.writeAt? 20 record.id buffer
  let buffer ← (field Capacity.mapName).writeAt? 21 record.name buffer
  (padding 3).writeAt? 29 () buffer

/-- Write a program over the first bytes of a buffer. -/
def ProgramRecord.encode? (record : ProgramRecord) (buffer : Bytes) : Option Bytes := do
  let buffer ← addressLayout.writeAt? 0 record.start buffer
  let buffer ← addressLayout.writeAt? 8 record.stop buffer
  let buffer ← word32.writeAt? 16 record.flags buffer
  let buffer ← byte.writeAt? 20 record.instructionCount buffer
  let buffer ← byte.writeAt? 21 record.dataCount buffer
  let buffer ← (padding 2).writeAt? 22 () buffer
  let buffer ← (field Capacity.programMaps).writeAt? 24 record.instructionMaps buffer
  let buffer ← (field Capacity.programMaps).writeAt? 28 record.dataMaps buffer
  (field Capacity.commandLine).writeAt? 32 record.commandLine buffer

/-- Write a partition over the first bytes of a buffer. -/
def PartitionRecord.encode? (record : PartitionRecord) (buffer : Bytes) : Option Bytes := do
  let buffer ← (field Capacity.mapName).writeAt? 0 record.name buffer
  let buffer ← byte.writeAt? 8 record.allocationCount buffer
  let buffer ← byte.writeAt? 9 record.accessCount buffer
  let buffer ← (padding 6).writeAt? 10 () buffer
  let buffer ← (field Capacity.maps).writeAt? 16 record.allocation buffer
  (field Capacity.maps).writeAt? 32 record.access buffer

/-- Write a scheduler window over the first bytes of a buffer. -/
def WindowRecord.encode? (record : WindowRecord) (buffer : Bytes) : Option Bytes := do
  let buffer ← word64.writeAt? 0 record.start buffer
  let buffer ← word64.writeAt? 8 record.stop buffer
  let buffer ← byte.writeAt? 16 record.index buffer
  (padding 7).writeAt? 17 () buffer

/-! ## Decoders -/

/-- Read a header from the first bytes. -/
def Header.decode? (bytes : Bytes) : Option Header := do
  let magic ← word32.readAt? 0 bytes
  let size ← word32.readAt? 4 bytes
  let text ← Region.takeAt? 8 bytes
  let data ← Region.takeAt? 24 bytes
  let bss ← Region.takeAt? 40 bytes
  let entry ← addressLayout.readAt? 56 bytes
  let maps ← TableReference.takeAt? 64 bytes
  let programs ← TableReference.takeAt? 72 bytes
  let partitions ← TableReference.takeAt? 80 bytes
  let windows ← TableReference.takeAt? 88 bytes
  let arguments ← TableReference.takeAt? 96 bytes
  return { magic, size, kernel := ⟨text, data, bss, entry⟩, maps, programs, partitions, windows,
           arguments }

/-- Read a map from the first bytes. -/
def MapRecord.decode? (bytes : Bytes) : Option MapRecord := do
  let start ← addressLayout.readAt? 0 bytes
  let stop ← addressLayout.readAt? 8 bytes
  let attributes ← word32.readAt? 16 bytes
  let id ← byte.readAt? 20 bytes
  let name ← (field Capacity.mapName).readAt? 21 bytes
  return { start, stop, attributes, id, name }

/-- Read a program from the first bytes. -/
def ProgramRecord.decode? (bytes : Bytes) : Option ProgramRecord := do
  let start ← addressLayout.readAt? 0 bytes
  let stop ← addressLayout.readAt? 8 bytes
  let flags ← word32.readAt? 16 bytes
  let instructionCount ← byte.readAt? 20 bytes
  let dataCount ← byte.readAt? 21 bytes
  let instructionMaps ← (field Capacity.programMaps).readAt? 24 bytes
  let dataMaps ← (field Capacity.programMaps).readAt? 28 bytes
  let commandLine ← (field Capacity.commandLine).readAt? 32 bytes
  return { start, stop, flags, instructionCount, dataCount, instructionMaps, dataMaps,
           commandLine }

/-- Read a partition from the first bytes. -/
def PartitionRecord.decode? (bytes : Bytes) : Option PartitionRecord := do
  let name ← (field Capacity.mapName).readAt? 0 bytes
  let allocationCount ← byte.readAt? 8 bytes
  let accessCount ← byte.readAt? 9 bytes
  let allocation ← (field Capacity.maps).readAt? 16 bytes
  let access ← (field Capacity.maps).readAt? 32 bytes
  return { name, allocationCount, accessCount, allocation, access }

/-- Read a scheduler window from the first bytes. -/
def WindowRecord.decode? (bytes : Bytes) : Option WindowRecord := do
  let start ← word64.readAt? 0 bytes
  let stop ← word64.readAt? 8 bytes
  let index ← byte.readAt? 16 bytes
  return { start, stop, index }

/-! ## Both agree with the layout -/

theorem writeAt?_kernel (offset : Nat) (kernel : KernelDescriptor) (buffer : Bytes) :
    KernelDescriptor.layout.writeAt? offset kernel buffer =
      (kernel.text.putAt? offset buffer).bind fun buffer =>
        (kernel.data.putAt? (offset + 16) buffer).bind fun buffer =>
          (kernel.bss.putAt? (offset + 32) buffer).bind fun buffer =>
            addressLayout.writeAt? (offset + 48) kernel.entry buffer := by
  simp only [KernelDescriptor.layout, Region.putAt?_eq, writeAt?_through, writeAt?_both,
    exact_region]
  rfl

theorem readAt?_kernel (offset : Nat) (bytes : Bytes) :
    KernelDescriptor.layout.readAt? offset bytes =
      (Region.takeAt? offset bytes).bind fun text =>
        (Region.takeAt? (offset + 16) bytes).bind fun data =>
          (Region.takeAt? (offset + 32) bytes).bind fun bss =>
            (addressLayout.readAt? (offset + 48) bytes).bind fun entry =>
              some ⟨text, data, bss, entry⟩ := by
  simp only [KernelDescriptor.layout, Region.takeAt?_eq, readAt?_through, readAt?_both_bind,
    canonical_region.reach_le]
  rfl

theorem Header.encode?_eq (header : Header) (buffer : Bytes) :
    header.encode? buffer = Header.layout.writeAt? 0 header buffer := by
  simp only [Header.layout, writeAt?_through, writeAt?_both, exact_word32, exact_kernel,
    exact_reference, writeAt?_kernel, ← TableReference.putAt?_eq, Option.bind_assoc]
  rfl

theorem MapRecord.encode?_eq (record : MapRecord) (buffer : Bytes) :
    record.encode? buffer = MapRecord.layout.writeAt? 0 record buffer := by
  simp only [MapRecord.layout, writeAt?_through, writeAt?_both, exact_address, exact_word32,
    exact_byte, exact_field]
  rfl

theorem ProgramRecord.encode?_eq (record : ProgramRecord) (buffer : Bytes) :
    record.encode? buffer = ProgramRecord.layout.writeAt? 0 record buffer := by
  simp only [ProgramRecord.layout, writeAt?_through, writeAt?_both, exact_address, exact_word32,
    exact_byte, exact_field, exact_padding]
  rfl

theorem PartitionRecord.encode?_eq (record : PartitionRecord) (buffer : Bytes) :
    record.encode? buffer = PartitionRecord.layout.writeAt? 0 record buffer := by
  simp only [PartitionRecord.layout, writeAt?_through, writeAt?_both, exact_byte, exact_field,
    exact_padding]
  rfl

theorem WindowRecord.encode?_eq (record : WindowRecord) (buffer : Bytes) :
    record.encode? buffer = WindowRecord.layout.writeAt? 0 record buffer := by
  simp only [WindowRecord.layout, writeAt?_through, writeAt?_both, exact_word64, exact_byte]
  rfl

theorem Header.decode?_eq (bytes : Bytes) :
    Header.decode? bytes = Header.layout.readAt? 0 bytes := by
  simp only [Header.layout, readAt?_through, readAt?_both_bind, canonical_word32.reach_le,
    canonical_kernel.reach_le, canonical_reference.reach_le, readAt?_kernel,
    ← TableReference.takeAt?_eq, Option.bind_assoc, Option.bind_some]
  rfl

theorem MapRecord.decode?_eq (bytes : Bytes) :
    MapRecord.decode? bytes = MapRecord.layout.readAt? 0 bytes := by
  simp only [MapRecord.layout, readAt?_through, readAt?_both_bind, canonical_address.reach_le,
    canonical_word32.reach_le, canonical_byte.reach_le, (canonical_field _).reach_le,
    readAt?_padding, Option.bind_some]
  rfl

theorem ProgramRecord.decode?_eq (bytes : Bytes) :
    ProgramRecord.decode? bytes = ProgramRecord.layout.readAt? 0 bytes := by
  simp only [ProgramRecord.layout, readAt?_through, readAt?_both_bind,
    canonical_address.reach_le, canonical_word32.reach_le, canonical_byte.reach_le,
    (canonical_field _).reach_le, (canonical_padding _).reach_le, readAt?_padding,
    Option.bind_some]
  rfl

theorem PartitionRecord.decode?_eq (bytes : Bytes) :
    PartitionRecord.decode? bytes = PartitionRecord.layout.readAt? 0 bytes := by
  simp only [PartitionRecord.layout, readAt?_through, readAt?_both_bind, canonical_byte.reach_le,
    (canonical_field _).reach_le, (canonical_padding _).reach_le, readAt?_padding,
    Option.bind_some]
  rfl

theorem WindowRecord.decode?_eq (bytes : Bytes) :
    WindowRecord.decode? bytes = WindowRecord.layout.readAt? 0 bytes := by
  simp only [WindowRecord.layout, readAt?_through, readAt?_both_bind, canonical_word64.reach_le,
    canonical_byte.reach_le, readAt?_padding, Option.bind_some]
  rfl

theorem codec_header : Codec Header.layout [] Header.encode? Header.decode? :=
  canonical_header.codec Header.encode?_eq Header.decode?_eq

theorem codec_map : Codec MapRecord.layout [⟨29, 3⟩] MapRecord.encode? MapRecord.decode? :=
  canonical_map.codec MapRecord.encode?_eq MapRecord.decode?_eq

theorem codec_program :
    Codec ProgramRecord.layout [⟨22, 2⟩] ProgramRecord.encode? ProgramRecord.decode? :=
  canonical_program.codec ProgramRecord.encode?_eq ProgramRecord.decode?_eq

theorem codec_partition :
    Codec PartitionRecord.layout [⟨10, 6⟩] PartitionRecord.encode? PartitionRecord.decode? :=
  canonical_partition.codec PartitionRecord.encode?_eq PartitionRecord.decode?_eq

theorem codec_window :
    Codec WindowRecord.layout [⟨17, 7⟩] WindowRecord.encode? WindowRecord.decode? :=
  canonical_window.codec WindowRecord.encode?_eq WindowRecord.decode?_eq

/-- **The encoder and the decoder of each record undo one another**: what was encoded is decoded
again, and bytes with zeros for padding are encoded from what is decoded from them. The bytes
that are written depend on the record alone, and those behind them stay. -/
theorem record_codecs :
    Codec Header.layout [] Header.encode? Header.decode? ∧
      Codec MapRecord.layout [⟨29, 3⟩] MapRecord.encode? MapRecord.decode? ∧
      Codec ProgramRecord.layout [⟨22, 2⟩] ProgramRecord.encode? ProgramRecord.decode? ∧
      Codec PartitionRecord.layout [⟨10, 6⟩] PartitionRecord.encode? PartitionRecord.decode? ∧
      Codec WindowRecord.layout [⟨17, 7⟩] WindowRecord.encode? WindowRecord.decode? :=
  ⟨codec_header, codec_map, codec_program, codec_partition, codec_window⟩

end Bootloader.SystemPage
