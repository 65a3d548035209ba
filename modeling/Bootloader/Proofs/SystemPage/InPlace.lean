import Bootloader.Proofs.SystemPage.Block

/-!
# Writing the block in place

The block can be laid out in a buffer of its own size: zeros first, then the header, every
record at its offset, and the argument string. A list of map ids that is too long for its
field, or a record that would end behind the buffer, leaves no block at all; a number that is
too large for its place is replaced by another. With the registries bounded none of that
happens, and the bytes are those of the parts side by side (`Bounded.serializeInPlace?_eq`).
-/

set_option autoImplicit false

namespace Bootloader.SystemPage

open Layout

variable {page : SystemPage}

/-- A count in one byte; it is zero if the byte cannot hold it. -/
def countByte (count : Nat) : UInt8 :=
  if count < UInt8.size then UInt8.ofNat count else 0

/-- A number in 32 bits; it is the largest one if they cannot hold it. -/
def cappedWord (number : Nat) : UInt32 :=
  if number < UInt32.size then UInt32.ofNat number else 0xffffffff

theorem countByte_eq {count : Nat} (small : count ≤ Capacity.maps) :
    countByte count = UInt8.ofNat count := by
  rw [Capacity.maps] at small
  exact if_pos (Nat.lt_of_le_of_lt small (by decide))

theorem cappedWord_eq {number : Nat} (fits : number < UInt32.size) :
    cappedWord number = UInt32.ofNat number :=
  if_pos fits

/-- The header with its numbers capped. -/
def cappedHeader (page : SystemPage) : Header where
  magic := magic
  size := cappedWord page.blockSize
  kernel := page.kernel
  maps := ⟨cappedWord (alignTable Header.layout.size), cappedWord page.maps.length⟩
  programs := ⟨cappedWord page.programsOffset, cappedWord page.programs.length⟩
  partitions := ⟨cappedWord page.partitionsOffset, cappedWord page.partitions.length⟩
  windows := ⟨cappedWord page.windowsOffset, cappedWord page.windows.length⟩
  arguments := ⟨cappedWord page.argumentsOffset, cappedWord (page.arguments.length + 1)⟩

/-- A program as a record; its lists of maps have to fit their fields. -/
def recordProgram? (program : Program) : Option ProgramRecord := do
  let instructionMaps ← Field.fill? Capacity.programMaps program.instructionMaps
  let dataMaps ← Field.fill? Capacity.programMaps program.dataMaps
  return { program.toRecord with
    instructionCount := countByte program.instructionMaps.length
    dataCount := countByte program.dataMaps.length
    instructionMaps, dataMaps }

/-- A partition as a record; its lists of maps have to fit their fields. -/
def recordPartition? (partition : Partition) : Option PartitionRecord := do
  let allocation ← Field.fill? Capacity.maps partition.allocation
  let access ← Field.fill? Capacity.maps partition.access
  return { partition.toRecord with
    allocationCount := countByte partition.allocation.length
    accessCount := countByte partition.access.length
    allocation, access }

/-- The block of a page, written in place: zeros first, and then the header, each record and
the argument string at their offsets. There is none as soon as something would be written
outside of the block or of its field. -/
def serializeInPlace? (page : SystemPage) : Option Bytes := do
  let zeros : Bytes := List.replicate page.blockSize 0
  let buffer ← Header.layout.writeAt? 0 page.cappedHeader zeros
  let buffer ← MapRecord.layout.writeTable? (alignTable Header.layout.size) buffer
    (page.maps.map MemoryMap.toRecord)
  let programs ← page.programs.mapM recordProgram?
  let buffer ← ProgramRecord.layout.writeTable? page.programsOffset buffer programs
  let partitions ← page.partitions.mapM recordPartition?
  let buffer ← PartitionRecord.layout.writeTable? page.partitionsOffset buffer partitions
  let buffer ← WindowRecord.layout.writeTable? page.windowsOffset buffer page.windows
  buffer.overlay? page.argumentsOffset page.arguments

theorem Bounded.cappedHeader_eq (bounded : page.Bounded) : page.cappedHeader = page.header := by
  have large := bounded.blockSize_lt
  have room := (blockSize_bounds page).1
  have programs := programsOffset_eq page
  have partitions := partitionsOffset_eq page
  have windows := windowsOffset_eq page
  have arguments := argumentsOffset_eq page
  have first : alignTable Header.layout.size = 104 := rfl
  rw [cappedHeader, cappedWord_eq large, cappedWord_eq (by omega), cappedWord_eq (by omega),
    cappedWord_eq (by omega), cappedWord_eq (by omega), cappedWord_eq (by omega),
    cappedWord_eq (by omega), cappedWord_eq (by omega), cappedWord_eq (by omega),
    cappedWord_eq (by omega), cappedWord_eq (by omega)]
  rfl

theorem recordProgram?_eq {program : Program}
    (instructions : program.instructionMaps.length ≤ Capacity.programMaps)
    (data : program.dataMaps.length ≤ Capacity.programMaps) :
    recordProgram? program = some program.toRecord := by
  rw [recordProgram?, Field.fill?_eq instructions, Field.fill?_eq data,
    countByte_eq (Nat.le_trans instructions (by decide)),
    countByte_eq (Nat.le_trans data (by decide))]
  rfl

theorem recordPartition?_eq {partition : Partition}
    (allocation : partition.allocation.length ≤ Capacity.maps)
    (access : partition.access.length ≤ Capacity.maps) :
    recordPartition? partition = some partition.toRecord := by
  rw [recordPartition?, Field.fill?_eq allocation, Field.fill?_eq access, countByte_eq allocation,
    countByte_eq access]
  rfl

/-- Where each element has its own result, all of them have one. -/
theorem mapM_eq_some_map {α β : Type} {perhaps : α → Option β} {total : α → β} {elements : List α}
    (each : ∀ element ∈ elements, perhaps element = some (total element)) :
    elements.mapM perhaps = some (elements.map total) := by
  induction elements with
  | nil => rfl
  | cons first rest ih =>
      rw [List.mapM_cons, each first List.mem_cons_self,
        ih fun element member => each element (List.mem_cons_of_mem _ member)]
      rfl

theorem Bounded.programRecords? (bounded : page.Bounded) :
    page.programs.mapM recordProgram? = some (page.programs.map Program.toRecord) :=
  mapM_eq_some_map fun program member =>
    recordProgram?_eq (bounded.programMaps program member).1 (bounded.programMaps program member).2

theorem Bounded.partitionRecords? (bounded : page.Bounded) :
    page.partitions.mapM recordPartition? = some (page.partitions.map Partition.toRecord) :=
  mapM_eq_some_map fun partition member =>
    recordPartition?_eq (bounded.partitionMaps partition member).1
      (bounded.partitionMaps partition member).2

/-- **A bounded page is written without leaving its block**, and gives the same bytes. -/
theorem Bounded.serializeInPlace?_eq (bounded : page.Bounded) :
    page.serializeInPlace? = some page.serialize := by
  have room := (blockSize_bounds page).1
  have start : alignTable Header.layout.size = 104 := rfl
  have header := page.length_header
  have maps := page.length_mapBytes
  have programs := page.length_programBytes
  have partitions := page.length_partitionBytes
  have windows := page.length_windowBytes
  have second := programsOffset_eq page
  have third := partitionsOffset_eq page
  have fourth := windowsOffset_eq page
  have fifth := argumentsOffset_eq page
  -- each table is written behind everything that was written before it
  have writeHeader : Header.layout.writeAt? 0 page.header (List.replicate page.blockSize 0) =
      some ((Header.layout.write page.header).resize page.blockSize) :=
    exact_header.writeAt?_eq page.header (by omega : 104 ≤ page.blockSize)
  have writeMaps : MapRecord.layout.writeTable? (alignTable Header.layout.size)
      ((Header.layout.write page.header).resize page.blockSize)
      (page.maps.map MemoryMap.toRecord) =
      some ((Header.layout.write page.header ++ page.mapBytes).resize page.blockSize) :=
    exact_map.writeTable?_eq header (by omega : 104 + page.mapBytes.length ≤ page.blockSize)
  have writePrograms : ProgramRecord.layout.writeTable? page.programsOffset
      ((Header.layout.write page.header ++ page.mapBytes).resize page.blockSize)
      (page.programs.map Program.toRecord) =
      some ((Header.layout.write page.header ++ page.mapBytes ++ page.programBytes).resize
        page.blockSize) :=
    exact_program.writeTable?_eq (by rw [List.length_append]; omega)
      (by omega : page.programsOffset + page.programBytes.length ≤ page.blockSize)
  have writePartitions : PartitionRecord.layout.writeTable? page.partitionsOffset
      ((Header.layout.write page.header ++ page.mapBytes ++ page.programBytes).resize
        page.blockSize) (page.partitions.map Partition.toRecord) =
      some ((Header.layout.write page.header ++ page.mapBytes ++ page.programBytes ++
        page.partitionBytes).resize page.blockSize) :=
    exact_partition.writeTable?_eq (by rw [List.length_append, List.length_append]; omega)
      (by omega : page.partitionsOffset + page.partitionBytes.length ≤ page.blockSize)
  have writeWindows : WindowRecord.layout.writeTable? page.windowsOffset
      ((Header.layout.write page.header ++ page.mapBytes ++ page.programBytes ++
        page.partitionBytes).resize page.blockSize) page.windows =
      some (page.tableBytes.resize page.blockSize) :=
    exact_window.writeTable?_eq
      (by rw [List.length_append, List.length_append, List.length_append]; omega)
      (by omega : page.windowsOffset + page.windowBytes.length ≤ page.blockSize)
  have writeArguments : (page.tableBytes.resize page.blockSize).overlay? page.argumentsOffset
      page.arguments = some page.serialize := by
    rw [← length_tableBytes]
    exact Bytes.overlay?_resize _ _ (by rw [length_tableBytes]; omega)
  rw [serializeInPlace?, bounded.cappedHeader_eq, bounded.programRecords?,
    bounded.partitionRecords?]
  simp only [Option.bind_eq_bind, writeHeader, writeMaps, writePrograms, writePartitions,
    writeWindows, Option.bind_some, writeArguments]

end Bootloader.SystemPage
