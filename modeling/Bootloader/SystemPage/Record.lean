import Bootloader.Address
import Bootloader.Bytes
import Bootloader.Capacity
import Bootloader.Text.Field

/-!
# Records of the system page

The system page is handed to the kernel as a block of bytes: a header, four
tables of records and an argument string. Each kind of record has a layout of
its own, little endian and padded to a multiple of eight bytes. The header
describes the kernel image and says where each table lies.
-/

set_option autoImplicit false

namespace Bootloader.SystemPage

/-- A part of the kernel image; address and size zero mean that it was not reported. -/
structure Region where
  address : Address
  size : UInt64
  deriving DecidableEq, Repr, Inhabited

/-- What the kernel is told about its own image. -/
structure KernelDescriptor where
  text : Region
  data : Region
  bss : Region
  entry : Address
  deriving DecidableEq, Repr, Inhabited

/-- The descriptor that reports nothing. -/
def KernelDescriptor.unknown : KernelDescriptor :=
  ⟨⟨⟨0⟩, 0⟩, ⟨⟨0⟩, 0⟩, ⟨⟨0⟩, 0⟩, ⟨0⟩⟩

/-- Where a table lies: its offset, and how many records it has. -/
structure TableReference where
  offset : UInt32
  count : UInt32
  deriving DecidableEq, Repr, Inhabited

/-- The head of the system page; the count of the argument string is in bytes. -/
structure Header where
  magic : UInt32
  size : UInt32
  kernel : KernelDescriptor
  maps : TableReference
  programs : TableReference
  partitions : TableReference
  windows : TableReference
  arguments : TableReference
  deriving DecidableEq, Repr, Inhabited

/-- A memory map. -/
structure MapRecord where
  start : Address
  stop : Address
  attributes : UInt32
  id : UInt8
  name : Field Capacity.mapName
  deriving DecidableEq, Repr, Inhabited

/-- A program: its range, flags, map lists and the start of its command line. -/
structure ProgramRecord where
  start : Address
  stop : Address
  flags : UInt32
  instructionCount : UInt8
  dataCount : UInt8
  instructionMaps : Field Capacity.programMaps
  dataMaps : Field Capacity.programMaps
  commandLine : Field Capacity.commandLine
  deriving DecidableEq, Repr, Inhabited

/-- A partition: its name, and the maps it allocates from and has access to. -/
structure PartitionRecord where
  name : Field Capacity.mapName
  allocationCount : UInt8
  accessCount : UInt8
  allocation : Field Capacity.maps
  access : Field Capacity.maps
  deriving DecidableEq, Repr, Inhabited

/-- A scheduler window from a start time to a stop time. -/
structure WindowRecord where
  start : UInt64
  stop : UInt64
  index : UInt8
  deriving DecidableEq, Repr, Inhabited

/-- The number every system page starts with. -/
def magic : UInt32 := 0x50534c50

/-- The first byte of a non-empty argument string. -/
def argumentsMark : UInt8 := 1

/-- Tables start at multiples of this many bytes. -/
def tableAlignment : Nat := 8

/-- The lowest place for a table that does not lie below `offset`. -/
def alignTable (offset : Nat) : Nat :=
  (offset + (tableAlignment - 1)) / tableAlignment * tableAlignment

/-- The first instruction map of a program. -/
def ProgramRecord.firstInstructionMap (record : ProgramRecord) : UInt8 :=
  record.instructionMaps.bytes.headD 0

/-- The first data map of a program. -/
def ProgramRecord.firstDataMap (record : ProgramRecord) : UInt8 :=
  record.dataMaps.bytes.headD 0

/-! ## Layouts -/

open Layout

/-- An address takes eight bytes. -/
def addressLayout : Layout Address :=
  word64.through Address.mk Address.value

/-- Address before size. -/
def Region.layout : Layout Region :=
  (addressLayout.both word64).through (fun parts => ⟨parts.1, parts.2⟩)
    (fun region => (region.address, region.size))

/-- Text, data and bss, then the entry point. -/
def KernelDescriptor.layout : Layout KernelDescriptor :=
  (Region.layout.both (Region.layout.both (Region.layout.both addressLayout))).through
    (fun (text, data, bss, entry) => ⟨text, data, bss, entry⟩)
    (fun kernel => (kernel.text, kernel.data, kernel.bss, kernel.entry))

/-- Offset before count. -/
def TableReference.layout : Layout TableReference :=
  (word32.both word32).through (fun parts => ⟨parts.1, parts.2⟩)
    (fun table => (table.offset, table.count))

/-- The header takes 104 bytes. -/
def Header.layout : Layout Header :=
  (word32.both (word32.both (KernelDescriptor.layout.both
    (TableReference.layout.both (TableReference.layout.both (TableReference.layout.both
      (TableReference.layout.both TableReference.layout))))))).through
    (fun (magic, size, kernel, maps, programs, partitions, windows, arguments) =>
      { magic, size, kernel, maps, programs, partitions, windows, arguments })
    (fun header => (header.magic, header.size, header.kernel, header.maps, header.programs,
      header.partitions, header.windows, header.arguments))

/-- A map takes 32 bytes, the last three of them padding. -/
def MapRecord.layout : Layout MapRecord :=
  (addressLayout.both (addressLayout.both (word32.both (byte.both
    ((field Capacity.mapName).both (padding 3)))))).through
    (fun (start, stop, attributes, id, name, _) => { start, stop, attributes, id, name })
    (fun record => (record.start, record.stop, record.attributes, record.id, record.name, ()))

/-- A program takes 48 bytes, with two bytes of padding behind the counts. -/
def ProgramRecord.layout : Layout ProgramRecord :=
  (addressLayout.both (addressLayout.both (word32.both (byte.both (byte.both ((padding 2).both
    ((field Capacity.programMaps).both ((field Capacity.programMaps).both
      (field Capacity.commandLine))))))))).through
    (fun (start, stop, flags, instructionCount, dataCount, _, instructionMaps, dataMaps,
        commandLine) =>
      { start, stop, flags, instructionCount, dataCount, instructionMaps, dataMaps, commandLine })
    (fun record => (record.start, record.stop, record.flags, record.instructionCount,
      record.dataCount, (), record.instructionMaps, record.dataMaps, record.commandLine))

/-- A partition takes 48 bytes, with six bytes of padding behind the counts. -/
def PartitionRecord.layout : Layout PartitionRecord :=
  ((field Capacity.mapName).both (byte.both (byte.both ((padding 6).both
    ((field Capacity.maps).both (field Capacity.maps)))))).through
    (fun (name, allocationCount, accessCount, _, allocation, access) =>
      { name, allocationCount, accessCount, allocation, access })
    (fun record => (record.name, record.allocationCount, record.accessCount, (),
      record.allocation, record.access))

/-- A scheduler window takes 24 bytes, the last seven of them padding. -/
def WindowRecord.layout : Layout WindowRecord :=
  (word64.both (word64.both (byte.both (padding 7)))).through
    (fun (start, stop, index, _) => { start, stop, index })
    (fun record => (record.start, record.stop, record.index, ()))

example : Header.layout.size = 104 ∧ MapRecord.layout.size = 32 ∧
    ProgramRecord.layout.size = 48 ∧ PartitionRecord.layout.size = 48 ∧
    WindowRecord.layout.size = 24 := by decide

end Bootloader.SystemPage
