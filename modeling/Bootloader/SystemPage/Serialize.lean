import Bootloader.SystemPage.Basic

/-!
# The system page as bytes

The header is followed by the tables of maps, programs, partitions and scheduler
windows and by the argument string with its final zero. All records are
multiples of eight bytes long, so the tables need no padding between them; zeros
fill the block to a multiple of eight.
-/

set_option autoImplicit false

namespace Bootloader

open SystemPage

/-- A map as a record. -/
def SystemPage.MemoryMap.toRecord (map : MemoryMap) : MapRecord where
  start := map.start
  stop := map.stop
  attributes := map.attributes.bits
  id := map.id
  name := Text.toField Capacity.mapName map.name

/-- A program as a record. -/
def Program.toRecord (program : Program) : ProgramRecord where
  start := program.start
  stop := program.stop
  flags := program.flags.bits
  instructionCount := UInt8.ofNat program.instructionMaps.length
  dataCount := UInt8.ofNat program.dataMaps.length
  instructionMaps := Field.ofBytes Capacity.programMaps program.instructionMaps
  dataMaps := Field.ofBytes Capacity.programMaps program.dataMaps
  commandLine := program.commandLine

/-- A partition as a record. -/
def Partition.toRecord (partition : Partition) : PartitionRecord where
  name := Text.toField Capacity.mapName partition.name
  allocationCount := UInt8.ofNat partition.allocation.length
  accessCount := UInt8.ofNat partition.access.length
  allocation := Field.ofBytes Capacity.maps partition.allocation
  access := Field.ofBytes Capacity.maps partition.access

namespace SystemPage

/-- A table at an offset. -/
def tableAt (offset count : Nat) : TableReference :=
  ⟨UInt32.ofNat offset, UInt32.ofNat count⟩

/-- Where the program table starts. -/
def programsOffset (page : SystemPage) : Nat :=
  alignTable (Header.layout.size + page.maps.length * MapRecord.layout.size)

/-- Where the partition table starts. -/
def partitionsOffset (page : SystemPage) : Nat :=
  alignTable (page.programsOffset + page.programs.length * ProgramRecord.layout.size)

/-- Where the table of scheduler windows starts. -/
def windowsOffset (page : SystemPage) : Nat :=
  alignTable (page.partitionsOffset + page.partitions.length * PartitionRecord.layout.size)

/-- Where the argument string starts. -/
def argumentsOffset (page : SystemPage) : Nat :=
  alignTable (page.windowsOffset + page.windows.length * WindowRecord.layout.size)

/-- Bytes of the whole block. -/
def blockSize (page : SystemPage) : Nat :=
  alignTable (page.argumentsOffset + page.arguments.length + 1)

/-- The header of the block. -/
def header (page : SystemPage) : Header where
  magic := magic
  size := UInt32.ofNat page.blockSize
  kernel := page.kernel
  maps := tableAt (alignTable Header.layout.size) page.maps.length
  programs := tableAt page.programsOffset page.programs.length
  partitions := tableAt page.partitionsOffset page.partitions.length
  windows := tableAt page.windowsOffset page.windows.length
  arguments := tableAt page.argumentsOffset (page.arguments.length + 1)

/-- The block of bytes that is handed to the kernel. -/
def serialize (page : SystemPage) : Bytes :=
  Bytes.resize
    (Header.layout.write page.header ++
      MapRecord.layout.writeMany (page.maps.map MemoryMap.toRecord) ++
      ProgramRecord.layout.writeMany (page.programs.map Program.toRecord) ++
      PartitionRecord.layout.writeMany (page.partitions.map Partition.toRecord) ++
      WindowRecord.layout.writeMany page.windows ++
      page.arguments)
    page.blockSize

end SystemPage

end Bootloader
