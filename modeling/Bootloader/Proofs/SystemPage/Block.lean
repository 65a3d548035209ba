import Bootloader.Proofs.Layout
import Bootloader.Proofs.Act.Frame
import Bootloader.Proofs.SystemPage.Capacities
import Bootloader.SystemPage.Serialize

/-!
# The block of a page, part by part

The records of the block all have exact layouts, and each of them is a multiple of eight bytes
long. So no table needs padding in front of it (`programsOffset_eq` and the others), and the
block is the header, the four tables and the argument string side by side, with at least one
zero behind them (`serialize_eq`). Since the registries of the page are bounded, every offset
and every count fits its field in the header (`Bounded.tables`).
-/

set_option autoImplicit false

namespace Bootloader.SystemPage

open Act Layout

/-! ## Records -/

theorem exact_address : addressLayout.Exact :=
  exact_word64.through fun _ => rfl

theorem exact_region : Region.layout.Exact :=
  (exact_address.both exact_word64).through fun _ => rfl

theorem exact_kernel : KernelDescriptor.layout.Exact :=
  (exact_region.both (exact_region.both (exact_region.both exact_address))).through fun _ => rfl

theorem exact_reference : TableReference.layout.Exact :=
  (exact_word32.both exact_word32).through fun _ => rfl

theorem exact_header : Header.layout.Exact :=
  (exact_word32.both (exact_word32.both (exact_kernel.both (exact_reference.both
    (exact_reference.both (exact_reference.both (exact_reference.both
      exact_reference))))))).through fun _ => rfl

theorem exact_map : MapRecord.layout.Exact :=
  (exact_address.both (exact_address.both (exact_word32.both (exact_byte.both
    ((exact_field _).both (exact_padding 3)))))).through fun _ => rfl

theorem exact_program : ProgramRecord.layout.Exact :=
  (exact_address.both (exact_address.both (exact_word32.both (exact_byte.both (exact_byte.both
    ((exact_padding 2).both ((exact_field _).both ((exact_field _).both
      (exact_field _))))))))).through fun _ => rfl

theorem exact_partition : PartitionRecord.layout.Exact :=
  ((exact_field _).both (exact_byte.both (exact_byte.both ((exact_padding 6).both
    ((exact_field _).both (exact_field _)))))).through fun _ => rfl

theorem exact_window : WindowRecord.layout.Exact :=
  (exact_word64.both (exact_word64.both (exact_byte.both (exact_padding 7)))).through fun _ => rfl

/-! ## Where the tables lie -/

variable {page : SystemPage}

theorem alignTable_of_dvd {offset : Nat} (whole : offset % tableAlignment = 0) :
    alignTable offset = offset := by
  simp only [alignTable, tableAlignment] at *
  omega

theorem programsOffset_eq (page : SystemPage) :
    page.programsOffset = 104 + page.maps.length * 32 := by
  have whole : (104 + page.maps.length * 32) % tableAlignment = 0 := by
    rw [tableAlignment]
    omega
  exact alignTable_of_dvd whole

theorem partitionsOffset_eq (page : SystemPage) :
    page.partitionsOffset = page.programsOffset + page.programs.length * 48 := by
  have whole : (page.programsOffset + page.programs.length * 48) % tableAlignment = 0 := by
    rw [programsOffset_eq, tableAlignment]
    omega
  exact alignTable_of_dvd whole

theorem windowsOffset_eq (page : SystemPage) :
    page.windowsOffset = page.partitionsOffset + page.partitions.length * 48 := by
  have whole : (page.partitionsOffset + page.partitions.length * 48) % tableAlignment = 0 := by
    rw [partitionsOffset_eq, programsOffset_eq, tableAlignment]
    omega
  exact alignTable_of_dvd whole

theorem argumentsOffset_eq (page : SystemPage) :
    page.argumentsOffset = page.windowsOffset + page.windows.length * 24 := by
  have whole : (page.windowsOffset + page.windows.length * 24) % tableAlignment = 0 := by
    rw [windowsOffset_eq, partitionsOffset_eq, programsOffset_eq, tableAlignment]
    omega
  exact alignTable_of_dvd whole

/-- The block has room for everything and for one zero behind it, and is not much longer. -/
theorem blockSize_bounds (page : SystemPage) :
    page.argumentsOffset + page.arguments.length + 1 ≤ page.blockSize ∧
      page.blockSize < page.argumentsOffset + page.arguments.length + 9 := by
  simp only [blockSize, alignTable, tableAlignment]
  omega

/-- The size of a block fits its field in the header by far. -/
theorem Bounded.blockSize_lt (bounded : page.Bounded) : page.blockSize < UInt32.size := by
  have maps := bounded.maps
  have programs := bounded.programs
  have partitions := bounded.partitions
  have windows := bounded.windows
  have arguments := bounded.arguments
  have size := (blockSize_bounds page).2
  rw [argumentsOffset_eq, windowsOffset_eq, partitionsOffset_eq, programsOffset_eq] at size
  simp only [Capacity.maps, Capacity.programs, Capacity.partitions, Capacity.windows,
    Capacity.arguments] at maps programs partitions windows arguments
  rw [UInt32.size]
  omega

/-! ## The block -/

/-- The records of the maps, side by side. -/
def mapBytes (page : SystemPage) : Bytes :=
  MapRecord.layout.writeMany (page.maps.map MemoryMap.toRecord)

/-- The records of the programs, side by side. -/
def programBytes (page : SystemPage) : Bytes :=
  ProgramRecord.layout.writeMany (page.programs.map Program.toRecord)

/-- The records of the partitions, side by side. -/
def partitionBytes (page : SystemPage) : Bytes :=
  PartitionRecord.layout.writeMany (page.partitions.map Partition.toRecord)

/-- The records of the scheduler windows, side by side. -/
def windowBytes (page : SystemPage) : Bytes :=
  WindowRecord.layout.writeMany page.windows

theorem length_header : (Header.layout.write page.header).length = 104 :=
  exact_header.length_write page.header

theorem length_mapBytes : page.mapBytes.length = page.maps.length * 32 := by
  rw [mapBytes, exact_map.length_writeMany, List.length_map]
  rfl

theorem length_programBytes : page.programBytes.length = page.programs.length * 48 := by
  rw [programBytes, exact_program.length_writeMany, List.length_map]
  rfl

theorem length_partitionBytes : page.partitionBytes.length = page.partitions.length * 48 := by
  rw [partitionBytes, exact_partition.length_writeMany, List.length_map]
  rfl

theorem length_windowBytes : page.windowBytes.length = page.windows.length * 24 := by
  rw [windowBytes, exact_window.length_writeMany]
  rfl

/-- What the block holds in front of the argument string. -/
def tableBytes (page : SystemPage) : Bytes :=
  Header.layout.write page.header ++ page.mapBytes ++ page.programBytes ++ page.partitionBytes ++
    page.windowBytes

theorem length_tableBytes : page.tableBytes.length = page.argumentsOffset := by
  rw [tableBytes, List.length_append, List.length_append, List.length_append, List.length_append,
    length_header, length_mapBytes, length_programBytes, length_partitionBytes,
    length_windowBytes, argumentsOffset_eq, windowsOffset_eq, partitionsOffset_eq,
    programsOffset_eq]

/-- Zeros at the end of the block. -/
def spareBytes (page : SystemPage) : Bytes :=
  List.replicate (page.blockSize - (page.argumentsOffset + page.arguments.length)) 0

theorem serialize_eq (page : SystemPage) :
    page.serialize = page.tableBytes ++ page.arguments ++ page.spareBytes := by
  have room := (blockSize_bounds page).1
  have length : (page.tableBytes ++ page.arguments).length =
      page.argumentsOffset + page.arguments.length := by
    rw [List.length_append, length_tableBytes]
  have whole : page.serialize = Bytes.resize (page.tableBytes ++ page.arguments) page.blockSize :=
    rfl
  rw [whole, Bytes.resize_of_length_le (by omega), length, spareBytes]

theorem length_serialize : page.serialize.length = page.blockSize :=
  Bytes.length_resize _ _

/-! ## The header -/

/-- The block begins with its header, whatever follows the block. -/
theorem read_header (page : SystemPage) (trailing : Bytes) :
    Header.layout.read (page.serialize ++ trailing) = page.header := by
  rw [serialize_eq, tableBytes]
  simp only [List.append_assoc]
  exact exact_header.read_write _ _

/-- A table of the header is as it was noted there. -/
theorem tableAt_eq {offset count : Nat} (place : offset < UInt32.size)
    (number : count < UInt32.size) :
    (tableAt offset count).offset.toNat = offset ∧ (tableAt offset count).count.toNat = count :=
  ⟨UInt32.toNat_ofNat_of_lt place, UInt32.toNat_ofNat_of_lt number⟩

/-- What the header of a bounded page says about the tables of the block. -/
structure Tables (page : SystemPage) : Prop where
  size : page.header.size.toNat = page.blockSize
  maps : page.header.maps.offset.toNat = 104 ∧
    page.header.maps.count.toNat = page.maps.length
  programs : page.header.programs.offset.toNat = page.programsOffset ∧
    page.header.programs.count.toNat = page.programs.length
  partitions : page.header.partitions.offset.toNat = page.partitionsOffset ∧
    page.header.partitions.count.toNat = page.partitions.length
  windows : page.header.windows.offset.toNat = page.windowsOffset ∧
    page.header.windows.count.toNat = page.windows.length
  arguments : page.header.arguments.offset.toNat = page.argumentsOffset ∧
    page.header.arguments.count.toNat = page.arguments.length + 1

theorem Bounded.tables (bounded : page.Bounded) : page.Tables := by
  have large := bounded.blockSize_lt
  have room := (blockSize_bounds page).1
  have programs := programsOffset_eq page
  have partitions := partitionsOffset_eq page
  have windows := windowsOffset_eq page
  have arguments := argumentsOffset_eq page
  have first : alignTable Header.layout.size = 104 := rfl
  refine ⟨UInt32.toNat_ofNat_of_lt large, first ▸ tableAt_eq ?_ ?_, tableAt_eq ?_ ?_,
    tableAt_eq ?_ ?_, tableAt_eq ?_ ?_, tableAt_eq ?_ ?_⟩
  all_goals omega

/-! ## What the block leaves out -/

/-- Reservations, tops of maps, the address of the page and whether it is saved are not in the
block. -/
theorem serialize_congr {other : SystemPage}
    (maps : page.maps.map MemoryMap.toRecord = other.maps.map MemoryMap.toRecord)
    (programs : page.programs = other.programs) (partitions : page.partitions = other.partitions)
    (windows : page.windows = other.windows) (arguments : page.arguments = other.arguments)
    (kernel : page.kernel = other.kernel) : page.serialize = other.serialize := by
  have count : page.maps.length = other.maps.length := by
    simpa only [List.length_map] using congrArg List.length maps
  simp only [serialize, header, blockSize, argumentsOffset, windowsOffset, partitionsOffset,
    programsOffset, maps, count, programs, partitions, windows, arguments, kernel]

theorem serialize_absorb (page : SystemPage) (entry : Reservation)
    (reservations : List Reservation) :
    { page with
      reservations
      maps := page.maps.map fun (map : MemoryMap) => map.absorb entry }.serialize =
      page.serialize := by
  refine serialize_congr ?_ rfl rfl rfl rfl rfl
  rw [List.map_map]
  refine List.map_congr_left fun map _ => ?_
  obtain ⟨name, id, first, last, attributes⟩ := MemoryMap.absorb_range map entry
  simp only [Function.comp, MemoryMap.toRecord, name, id, first, last, attributes]

theorem reserve_serialize {start : Address} {size : Nat} :
    (reserve start size).Respects (Same serialize) := by
  apply respects_of_ends
  intro before outcome after ends
  rcases reserve_ends ends with ⟨_, rfl⟩ | ⟨_, stop, _, _, _, _, rfl⟩
  · rfl
  · exact serialize_absorb before ⟨start, stop⟩ _

end Bootloader.SystemPage
