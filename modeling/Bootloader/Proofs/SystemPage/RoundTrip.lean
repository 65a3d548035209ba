import Bootloader.Proofs.SystemPage.CommandLines
import Bootloader.Proofs.SystemPage.InPlace
import Bootloader.SystemPage.View

/-!
# A page that is read back from its bytes

The kernel does not receive the page but a block of bytes, and reads it with a view of its own.
Whatever was requested of the page before, the view accepts the block and shows what the page
holds: each registry in order, what is said about the kernel, the argument string, and under
each id the map that was numbered with it (`serialize_round_trip`). Texts end at their first
zero for the reader, so this asks that there are none in the names and the command lines.
-/

set_option autoImplicit false

namespace Bootloader.SystemPage

open Layout

variable {page : SystemPage}

/-! ## Reading the block -/

/-- A table is read back from where it lies. -/
theorem records_eq {α : Type} {layout : Layout α} (exact : layout.Exact) {view : View}
    {table : TableReference} {values : List α} {front rest : Bytes}
    (bytes : view.bytes = front ++ (layout.writeMany values ++ rest))
    (offset : table.offset.toNat = front.length) (count : table.count.toNat = values.length) :
    view.records table layout = values := by
  rw [View.records, bytes, offset, count, List.drop_left, exact.readMany_writeMany]

theorem checkTable_eq_ok {length size offset count : Nat} {table : TableReference}
    (here : table.offset.toNat = offset ∧ table.count.toNat = count)
    (whole : offset % 8 = 0) (inside : offset + count * size ≤ length) :
    View.checkTable length table size = .ok () := by
  rw [View.checkTable, here.1, here.2, tableAlignment, if_neg (not_not_intro whole),
    if_neg (Nat.not_lt.mpr inside)]

/-- **The block of a bounded page is accepted**, whatever follows it. -/
theorem parse_serialize (bounded : page.Bounded) (trailing : Bytes) :
    View.parse (page.serialize ++ trailing) = .ok ⟨page.serialize, page.header⟩ := by
  have tables := bounded.tables
  have room := (blockSize_bounds page).1
  have programs := programsOffset_eq page
  have partitions := partitionsOffset_eq page
  have windows := windowsOffset_eq page
  have arguments := argumentsOffset_eq page
  have header := read_header page trailing
  have length : (page.serialize ++ trailing).length = page.blockSize + trailing.length := by
    rw [List.length_append, length_serialize]
  have least : Header.layout.size = 104 := rfl
  have maps : View.checkTable page.blockSize page.header.maps 32 = .ok () :=
    checkTable_eq_ok tables.maps (by omega) (by omega)
  have progs : View.checkTable page.blockSize page.header.programs 48 = .ok () :=
    checkTable_eq_ok tables.programs (by omega) (by omega)
  have parts : View.checkTable page.blockSize page.header.partitions 48 = .ok () :=
    checkTable_eq_ok tables.partitions (by omega) (by omega)
  have slots : View.checkTable page.blockSize page.header.windows 24 = .ok () :=
    checkTable_eq_ok tables.windows (by omega) (by omega)
  have whole : (page.serialize ++ trailing).take page.blockSize = page.serialize := by
    rw [← length_serialize, List.take_left]
  rw [View.parse]
  dsimp only
  rw [header, tables.size, length, least, if_neg (by omega), if_neg (by simp [SystemPage.header]),
    if_neg (by omega)]
  change (View.checkTable page.blockSize page.header.maps 32 >>= fun _ =>
    View.checkTable page.blockSize page.header.programs 48 >>= fun _ =>
    View.checkTable page.blockSize page.header.partitions 48 >>= fun _ =>
    View.checkTable page.blockSize page.header.windows 24 >>= fun _ => _) = _
  rw [maps, progs, parts, slots]
  change (if page.blockSize < page.header.arguments.offset.toNat +
    page.header.arguments.count.toNat then _ else _) = _
  rw [tables.arguments.1, tables.arguments.2, if_neg (by omega), whole]
  rfl

/-! ## What the view shows -/

/-- The record under an id, where the records are numbered from a first id on. -/
theorem find?_of_numbered {maps : List MemoryMap} {first : Nat}
    (numbered : ∀ (index : Nat) (map : MemoryMap), maps[index]? = some map →
      map.id = UInt8.ofNat (first + index)) (room : first + maps.length ≤ UInt8.size) (id : UInt8)
    (above : first ≤ id.toNat) :
    (maps.map MemoryMap.toRecord).find? (fun record => record.id = id) =
      maps[id.toNat - first]?.map MemoryMap.toRecord := by
  induction maps generalizing first with
  | nil => rfl
  | cons map rest ih =>
      rw [List.length_cons] at room
      have here : map.id = UInt8.ofNat first := numbered 0 map rfl
      have number : map.id.toNat = first := by
        rw [here]
        exact UInt8.toNat_ofNat_of_lt (by omega)
      by_cases same : map.id = id
      · have picked : decide (map.toRecord.id = id) = true := decide_eq_true same
        rw [List.map_cons, List.find?_cons, picked, ← same, number, Nat.sub_self]
        rfl
      · have passed : decide (map.toRecord.id = id) = false := decide_eq_false same
        have next : first + 1 ≤ id.toNat := by
          rcases Nat.lt_or_eq_of_le above with larger | equal
          · exact larger
          · exact absurd (UInt8.toNat_inj.mp (number.trans equal)) same
        have later : ∀ (index : Nat) (map : MemoryMap), rest[index]? = some map →
            map.id = UInt8.ofNat (first + 1 + index) := by
          intro index map found
          rw [Nat.add_assoc, Nat.add_comm 1]
          exact numbered (index + 1) map found
        have place : id.toNat - first = id.toNat - (first + 1) + 1 := by omega
        rw [List.map_cons, List.find?_cons, passed]
        rw [ih later (by omega) next, place, List.getElem?_cons_succ]

/-- What a view shows is what the page holds. -/
structure View.Shows (view : View) (page : SystemPage) : Prop where
  kernel : view.header.kernel = page.kernel
  maps : view.maps.map (fun record =>
      (record.start, record.stop, record.attributes, record.id, Text.ofField record.name.bytes)) =
    page.maps.map fun map => (map.start, map.stop, map.attributes.bits, map.id, map.name)
  programs : view.programs.map (fun record =>
      (record.start, record.stop, record.flags,
        record.instructionMaps.bytes.take record.instructionCount.toNat,
        record.dataMaps.bytes.take record.dataCount.toNat, record.commandLine)) =
    page.programs.map fun program => (program.start, program.stop, program.flags.bits,
      program.instructionMaps, program.dataMaps, program.commandLine)
  partitions : view.partitions.map (fun record =>
      (Text.ofField record.name.bytes,
        record.allocation.bytes.take record.allocationCount.toNat,
        record.access.bytes.take record.accessCount.toNat)) =
    page.partitions.map fun partition => (partition.name, partition.allocation, partition.access)
  windows : view.windows = page.windows
  arguments : view.arguments = page.arguments
  lookup : ∀ id, view.map? id = page.maps[id.toNat]?.map MemoryMap.toRecord

theorem Bounded.mapRecords (bounded : page.Bounded) :
    View.maps ⟨page.serialize, page.header⟩ = page.maps.map MemoryMap.toRecord := by
  have tables := bounded.tables.maps
  have bytes : page.serialize = Header.layout.write page.header ++ (page.mapBytes ++
      (page.programBytes ++ (page.partitionBytes ++ (page.windowBytes ++
        (page.arguments ++ page.spareBytes))))) := by
    rw [serialize_eq, tableBytes]
    simp only [List.append_assoc]
  refine records_eq exact_map bytes ?_ ?_
  · rw [length_header]
    exact tables.1
  · rw [List.length_map]
    exact tables.2

theorem Bounded.programRecords (bounded : page.Bounded) :
    View.programs ⟨page.serialize, page.header⟩ = page.programs.map Program.toRecord := by
  have tables := bounded.tables.programs
  have bytes : page.serialize = (Header.layout.write page.header ++ page.mapBytes) ++
      (page.programBytes ++ (page.partitionBytes ++ (page.windowBytes ++
        (page.arguments ++ page.spareBytes)))) := by
    rw [serialize_eq, tableBytes]
    simp only [List.append_assoc]
  refine records_eq exact_program bytes ?_ ?_
  · rw [List.length_append, length_header, length_mapBytes, ← programsOffset_eq]
    exact tables.1
  · rw [List.length_map]
    exact tables.2

theorem Bounded.partitionRecords (bounded : page.Bounded) :
    View.partitions ⟨page.serialize, page.header⟩ = page.partitions.map Partition.toRecord := by
  have tables := bounded.tables.partitions
  have bytes : page.serialize =
      (Header.layout.write page.header ++ page.mapBytes ++ page.programBytes) ++
      (page.partitionBytes ++ (page.windowBytes ++ (page.arguments ++ page.spareBytes))) := by
    rw [serialize_eq, tableBytes]
    simp only [List.append_assoc]
  refine records_eq exact_partition bytes ?_ ?_
  · rw [List.length_append, List.length_append, length_header, length_mapBytes,
      length_programBytes, ← programsOffset_eq, ← partitionsOffset_eq]
    exact tables.1
  · rw [List.length_map]
    exact tables.2

theorem Bounded.windowRecords (bounded : page.Bounded) :
    View.windows ⟨page.serialize, page.header⟩ = page.windows := by
  have tables := bounded.tables.windows
  have bytes : page.serialize = (Header.layout.write page.header ++ page.mapBytes ++
      page.programBytes ++ page.partitionBytes) ++
      (page.windowBytes ++ (page.arguments ++ page.spareBytes)) := by
    rw [serialize_eq, tableBytes]
    simp only [List.append_assoc]
  refine records_eq exact_window bytes ?_ tables.2
  rw [List.length_append, List.length_append, List.length_append, length_header, length_mapBytes,
    length_programBytes, length_partitionBytes, ← programsOffset_eq, ← partitionsOffset_eq,
    ← windowsOffset_eq]
  exact tables.1

/-- The argument string ends at the zero behind it. -/
theorem Bounded.argumentString (bounded : page.Bounded) (nonzero : (0 : UInt8) ∉ page.arguments) :
    View.arguments ⟨page.serialize, page.header⟩ = page.arguments := by
  have tables := bounded.tables.arguments
  have room := (blockSize_bounds page).1
  have spare : page.spareBytes = 0 ::
      List.replicate (page.blockSize - (page.argumentsOffset + page.arguments.length) - 1) 0 := by
    rw [spareBytes, ← List.replicate_succ]
    congr 1
    omega
  have ended : (page.arguments ++ page.spareBytes).take (page.arguments.length + 1) =
      page.arguments ++ 0 :: [] := by
    rw [spare, List.take_length_add_append]
    rfl
  rw [View.arguments, tables.1, tables.2, Bytes.slice, serialize_eq, List.append_assoc,
    ← length_tableBytes, List.drop_left, ended, Text.beforeZero_append nonzero]

theorem toNat_count {count : Nat} (small : count ≤ Capacity.maps) :
    (UInt8.ofNat count).toNat = count := by
  rw [Capacity.maps] at small
  exact UInt8.toNat_ofNat_of_lt (Nat.lt_of_le_of_lt small (by decide))

/-- A bounded page without zeros in its texts is what its block shows. -/
theorem Bounded.shows (bounded : page.Bounded)
    (mapNames : ∀ map ∈ page.maps, (0 : UInt8) ∉ Text.encode map.name)
    (partitionNames : ∀ partition ∈ page.partitions, (0 : UInt8) ∉ Text.encode partition.name)
    (nonzero : (0 : UInt8) ∉ page.arguments) :
    View.Shows ⟨page.serialize, page.header⟩ page where
  kernel := rfl
  maps := by
    rw [bounded.mapRecords, List.map_map]
    refine List.map_congr_left fun map member => ?_
    have name := Text.ofField_toField (bounded.mapNames map member).2 (mapNames map member)
    show (_, _, _, _, Text.ofField (Text.toField Capacity.mapName map.name).bytes) = _
    rw [name]
    rfl
  programs := by
    rw [bounded.programRecords, List.map_map]
    refine List.map_congr_left fun program member => ?_
    obtain ⟨instructions, data⟩ := bounded.programMaps program member
    have first := toNat_count (Nat.le_trans instructions (by decide))
    have second := toNat_count (Nat.le_trans data (by decide))
    show (_, _, _, (Field.ofBytes _ program.instructionMaps).bytes.take (UInt8.ofNat _).toNat,
      (Field.ofBytes _ program.dataMaps).bytes.take (UInt8.ofNat _).toNat, _) = _
    rw [first, second, Field.take_ofBytes instructions, Field.take_ofBytes data]
    rfl
  partitions := by
    rw [bounded.partitionRecords, List.map_map]
    refine List.map_congr_left fun partition member => ?_
    obtain ⟨allocation, access⟩ := bounded.partitionMaps partition member
    have name := Text.ofField_toField (bounded.partitionNames partition member).2
      (partitionNames partition member)
    show (Text.ofField (Text.toField Capacity.mapName partition.name).bytes,
      (Field.ofBytes _ partition.allocation).bytes.take (UInt8.ofNat _).toNat,
      (Field.ofBytes _ partition.access).bytes.take (UInt8.ofNat _).toNat) = _
    rw [name, toNat_count allocation, toNat_count access, Field.take_ofBytes allocation,
      Field.take_ofBytes access]
  windows := bounded.windowRecords
  arguments := bounded.argumentString nonzero
  lookup id := by
    have few := bounded.maps
    have numbered : ∀ (index : Nat) (map : MemoryMap), page.maps[index]? = some map →
        map.id = UInt8.ofNat (0 + index) := by
      intro index map found
      rw [Nat.zero_add]
      exact bounded.mapIds index map found
    rw [View.map?, bounded.mapRecords, find?_of_numbered numbered ?_ id (Nat.zero_le _),
      Nat.sub_zero]
    rw [Nat.zero_add]
    exact Nat.le_trans few (by decide)

/-! ## Every page that is reached -/

section

variable {μ : Type} [PhysicalMemory μ]

/-- **A page that was reached by requests is read back from its block**, whatever follows the
block in memory, and the block is written without an access outside of its buffer. Names and
command lines with a zero in them are the only ones that do not survive. -/
theorem serialize_round_trip (memory : μ) (requests : List Request) {page : SystemPage}
    (reached : (afterAll requests (empty, memory)).1 = page)
    (mapNames : ∀ map ∈ page.maps, (0 : UInt8) ∉ Text.encode map.name)
    (partitionNames : ∀ partition ∈ page.partitions, (0 : UInt8) ∉ Text.encode partition.name)
    (lines : ∀ line ∈ commandLines requests (empty, memory), (0 : UInt8) ∉ Text.encode line)
    (trailing : Bytes) :
    (∃ view, View.parse (page.serialize ++ trailing) = .ok view ∧ view.Shows page) ∧
      page.serializeInPlace? = some page.serialize := by
  have bounded : page.Bounded := reached ▸ bounded_afterAll memory requests
  have nonzero : (0 : UInt8) ∉ page.arguments := by
    rw [← reached, arguments_afterAll]
    exact zero_not_mem_withLines List.not_mem_nil lines
  have shows' := bounded.shows mapNames partitionNames nonzero
  exact ⟨⟨_, parse_serialize bounded trailing, shows'⟩, bounded.serializeInPlace?_eq⟩

/-- Requests that fill every registry; the second name of the program is no map. -/
def fillings : List Request :=
  [.addMap "ram" ⟨0x1000⟩ ⟨0x5000⟩ default, .addMap "flash" ⟨0x8000⟩ ⟨0x9000⟩ default,
    .addProgram ⟨0x1000⟩ ⟨0x1234⟩ "ram;flash" "ram" "app;one" default,
    .addProgram ⟨0x2000⟩ ⟨0x2100⟩ "rom" "ram" "app;two" default,
    .addPartition "main" "ram" "ram;flash", .addWindows "10;20", .setKernel (.entry ⟨0x2000⟩)]

end

/-- Every registry is filled, one program was refused, and other bytes follow the block. -/
theorem serialize_round_trip_filled :
    ∃ page view, (afterAll fillings (empty, IdentityMemory.zeros)).1 = page ∧
      View.parse (page.serialize ++ [1, 2, 3]) = .ok view ∧ view.Shows page ∧
      view.arguments = argumentsMark :: Text.encode "app;one " := by
  let page := (afterAll fillings (empty, IdentityMemory.zeros)).1
  have mapNames : ∀ map ∈ page.maps, (0 : UInt8) ∉ Text.encode map.name := by decide +kernel
  have partitionNames : ∀ partition ∈ page.partitions,
      (0 : UInt8) ∉ Text.encode partition.name := by decide +kernel
  have lines : ∀ line ∈ commandLines fillings (empty, IdentityMemory.zeros),
      (0 : UInt8) ∉ Text.encode line := by decide +kernel
  have arguments : page.arguments = argumentsMark :: Text.encode "app;one " := by decide +kernel
  obtain ⟨⟨view, parsed, shows'⟩, _⟩ :=
    serialize_round_trip IdentityMemory.zeros fillings rfl mapNames partitionNames lines [1, 2, 3]
  exact ⟨page, view, rfl, parsed, shows', shows'.arguments.trans arguments⟩

end Bootloader.SystemPage
