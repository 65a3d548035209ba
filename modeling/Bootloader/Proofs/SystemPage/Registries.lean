import Bootloader.Memory.Identity
import Bootloader.Proofs.SystemPage.Orders
import Mathlib.Data.List.Chain

/-!
# The registries of the page

What is written to the block of the page is taken from its registries without further checks:
lists of ids are copied to fields of fixed sizes, counts are cut to bytes, and the windows of the
scheduler are numbered and not named. All of this rests on what holds of the registries of every
page that is reached by requests (`registries_in_order`). Each has room in its table; a program
has some maps of both kinds and not too many, and ends no lower than it starts; the ids of maps
are ids of maps that there are, those that were named in the order, one by one; partitions have
names of their own; and the windows follow each other without a gap.
-/

set_option autoImplicit false

namespace Bootloader.SystemPage

/-! ## Windows -/

/-- The windows are numbered from zero, none is empty, the first starts at zero, and each of the
others starts where the one before it stops. -/
structure WindowsInRow (windows : List WindowRecord) : Prop where
  numbered : ∀ (index : Nat) (window : WindowRecord), windows[index]? = some window →
    window.index.toNat = index
  filled : ∀ window ∈ windows, window.start < window.stop
  first : ∀ window, windows.head? = some window → window.start = 0
  follows : windows.IsChain fun earlier later => later.start = earlier.stop

theorem windowsInRow_nil : WindowsInRow [] where
  numbered _ _ listed := by cases listed
  filled _ member := by cases member
  first _ found := by cases found
  follows := .nil

/-- A window that starts where the last one stops lengthens the row. -/
theorem WindowsInRow.append {windows : List WindowRecord} (row : WindowsInRow windows)
    (room : windows.length < Capacity.windows) {stop : UInt64}
    (filled : (windows.getLast?.map WindowRecord.stop).getD 0 < stop) :
    WindowsInRow (windows ++ [⟨(windows.getLast?.map WindowRecord.stop).getD 0, stop,
      UInt8.ofNat windows.length⟩]) := by
  refine ⟨?numbered, ?filled, ?first, ?follows⟩
  case numbered =>
    intro index window listed
    by_cases old : index < windows.length
    · rw [List.getElem?_append_left old] at listed
      exact row.numbered index window listed
    · rw [List.getElem?_append_right (Nat.not_lt.mp old), List.getElem?_singleton] at listed
      split at listed
      case isTrue here =>
        cases listed
        obtain rfl : index = windows.length := by omega
        have few : Capacity.windows < UInt8.size := by decide
        exact UInt8.toNat_ofNat_of_lt' (Nat.lt_trans room few)
      case isFalse => cases listed
  case filled =>
    exact List.forall_mem_append.mpr ⟨row.filled, List.forall_mem_singleton.mpr filled⟩
  case first =>
    intro window found
    cases windows with
    | nil =>
        cases found
        rfl
    | cons earliest rest => exact row.first window found
  case follows =>
    refine List.isChain_append.mpr ⟨row.follows, List.isChain_singleton _, ?_⟩
    intro earlier last later here
    cases here
    rw [Option.mem_def.mp last]
    rfl

/-- A window that has a size and ends in the range of times is not empty. -/
theorem lt_of_fitting? {start size stop : UInt64} (filled : size ≠ 0)
    (reached : Text.fitting? (start.toNat + size.toNat) = some stop) : start < stop := by
  have positive : 0 < size.toNat := Nat.pos_of_ne_zero fun zero =>
    filled (UInt64.toNat_inj.mp zero)
  rw [UInt64.lt_iff_toNat_lt, Text.fitting?_eq_some_iff.mp reached]
  omega

/-! ## What changes keep -/

variable {page after : SystemPage}

/-- What holds of the registries of a page beside the sizes of their lists. -/
structure Settled (page : SystemPage) : Prop where
  programs : ∀ program ∈ page.programs, program.start ≤ program.stop ∧
    program.instructionMaps ≠ [] ∧ program.dataMaps ≠ []
  partitions : page.partitions.Pairwise fun first second => first.name ≠ second.name
  windows : WindowsInRow page.windows

theorem settled_empty : Settled empty where
  programs _ member := by cases member
  partitions := .nil
  windows := windowsInRow_nil

theorem Change.settled (change : Change page after) (settled : page.Settled) : after.Settled := by
  cases change with
  | program start stop instructionMaps dataMaps commandLine flags instructionIds dataIds arguments
      pending ordered instructions data some room extended =>
      have added : start ≤ stop ∧ instructionIds ≠ [] ∧ dataIds ≠ [] := ⟨ordered, some⟩
      exact { settled with
        programs := List.forall_mem_append.mpr
          ⟨settled.programs, List.forall_mem_singleton.mpr added⟩ }
  | partition name allocation access allocationIds accessIds pending named fresh room allocated
      accessed =>
      refine { settled with partitions := ?_ }
      refine List.pairwise_append.mpr ⟨settled.partitions, List.pairwise_singleton _ _, ?_⟩
      intro other member last here
      rw [List.mem_singleton.mp here]
      exact fresh other member
  | window size stop pending filled reached room =>
      exact { settled with windows := settled.windows.append room (lt_of_fitting? filled reached) }
  | map | reservation | top | address | kernel | sealed => exact { settled with }

theorem Changes.settled (changes : Changes page after) (settled : page.Settled) :
    after.Settled := by
  induction changes with
  | refl => exact settled
  | tail _ change ih => exact change.settled ih

/-! ## Registries in order -/

/-- Ids of maps that there are, and no more than fit their field. -/
structure IdList (page : SystemPage) (limit : Nat) (ids : List UInt8) : Prop where
  length : ids.length ≤ limit
  valid : ∀ id ∈ ids, id.toNat < page.maps.length

/-- A program ends no lower than it starts, and has some maps of both kinds. -/
structure ProgramInOrder (page : SystemPage) (program : Program) : Prop where
  ordered : program.start ≤ program.stop
  instructionMaps : page.IdList Capacity.programMaps program.instructionMaps
  instructionMap : 1 ≤ program.instructionMaps.length
  dataMaps : page.IdList Capacity.programMaps program.dataMaps
  dataMap : 1 ≤ program.dataMaps.length

/-- A partition has a name that fits its field, and lists of maps that there are. -/
structure PartitionInOrder (page : SystemPage) (partition : Partition) : Prop where
  named : FieldName partition.name
  allocation : page.IdList Capacity.maps partition.allocation
  access : page.IdList Capacity.maps partition.access

/-- All registries of a page are in order. -/
structure InOrder (page : SystemPage) : Prop where
  maps : page.maps.length ≤ Capacity.maps
  reservations : page.reservations.length ≤ Capacity.reservations
  programs : page.programs.length ≤ Capacity.programs
  partitions : page.partitions.length ≤ Capacity.partitions
  windows : page.windows.length ≤ Capacity.windows
  arguments : page.arguments.length < Capacity.arguments
  program : ∀ program ∈ page.programs, page.ProgramInOrder program
  partition : ∀ partition ∈ page.partitions, page.PartitionInOrder partition
  distinct : page.partitions.Pairwise fun first second => first.name ≠ second.name
  row : WindowsInRow page.windows

theorem Lists.valid {ids : List UInt8} {list : String} (lists : page.Lists ids list) :
    ∀ id ∈ ids, id.toNat < page.maps.length := by
  unfold Lists at lists
  generalize Text.listItems list = names at lists
  induction lists with
  | nil => nofun
  | cons first _ ih => exact List.forall_mem_cons.mpr ⟨first.valid, ih⟩

/-- Each of some entries answers one of the orders. -/
theorem exists_order {Entry Order : Type} {Records : Entry → Order → Prop} {entries : List Entry}
    {orders : List Order} (records : List.Forall₂ Records entries orders) {entry : Entry}
    (member : entry ∈ entries) : ∃ order, Records entry order := by
  induction records with
  | nil => cases member
  | cons first _ ih =>
      rcases List.mem_cons.mp member with rfl | later
      · exact ⟨_, first⟩
      · exact ih later

section

variable {μ : Type} [PhysicalMemory μ]

/-- **Whatever is requested of an empty page, its registries are in order**, and its programs and
partitions are those that were ordered, with the maps that were named in their lists. -/
theorem registries_in_order (memory : μ) (requests : List Request) :
    let page := (afterAll requests (empty, memory)).1
    page.InOrder ∧
    List.Forall₂ page.RecordsProgram page.programs (programOrders requests (empty, memory)) ∧
    List.Forall₂ page.RecordsPartition page.partitions
      (partitionOrders requests (empty, memory)) := by
  intro page
  have bounded : page.Bounded := bounded_afterAll memory requests
  have settled : page.Settled := (afterAll_changes requests (empty, memory)).settled settled_empty
  have programs := programs_afterAll memory requests
  have partitions := partitions_afterAll memory requests
  refine ⟨{ bounded with
    program := ?program, partition := ?partition, distinct := settled.partitions,
    row := settled.windows }, programs, partitions⟩
  case program =>
    intro program member
    obtain ⟨order, records⟩ := exists_order programs member
    obtain ⟨ordered, instruction, data⟩ := settled.programs program member
    obtain ⟨few, less⟩ := bounded.programMaps program member
    exact ⟨ordered, ⟨few, records.instructionMaps.valid⟩, List.length_pos_of_ne_nil instruction,
      ⟨less, records.dataMaps.valid⟩, List.length_pos_of_ne_nil data⟩
  case partition =>
    intro partition member
    obtain ⟨order, records⟩ := exists_order partitions member
    obtain ⟨few, less⟩ := bounded.partitionMaps partition member
    exact ⟨bounded.partitionNames partition member, ⟨few, records.allocation.valid⟩,
      ⟨less, records.access.valid⟩⟩

end

/-- Lists may have empty items and name a map twice, and windows may be added in turns; a second
partition of one name is refused. -/
theorem registries_in_order_twice :
    ∃ (requests : List Request) (page : SystemPage),
      requests = [.addMap "rom" ⟨0x1000⟩ ⟨0x2000⟩ default, .addMap "ram" ⟨0x4000⟩ ⟨0x8000⟩ default,
        .addProgram ⟨0x1000⟩ ⟨0x1000⟩ "ram;; rom ;ram" "ram" "app" default,
        .addPartition "one" "" "rom;rom", .addPartition "one" "ram" "ram",
        .addWindows "10;20", .addWindows "5;0", .addWindows "5"] ∧
      page = (afterAll requests (empty, IdentityMemory.zeros)).1 ∧ page.InOrder ∧
      page.programs.map Program.instructionMaps = [[1, 0, 1]] ∧
      page.partitions = [⟨"one", [], [0, 0]⟩] ∧
      page.windows.map (fun window => (window.start, window.stop)) =
        [(0, 10), (10, 30), (30, 35)] := by
  obtain ⟨requests, asked⟩ : ∃ requests : List Request, requests =
      [.addMap "rom" ⟨0x1000⟩ ⟨0x2000⟩ default, .addMap "ram" ⟨0x4000⟩ ⟨0x8000⟩ default,
        .addProgram ⟨0x1000⟩ ⟨0x1000⟩ "ram;; rom ;ram" "ram" "app" default,
        .addPartition "one" "" "rom;rom", .addPartition "one" "ram" "ram",
        .addWindows "10;20", .addWindows "5;0", .addWindows "5"] := ⟨_, rfl⟩
  obtain ⟨ordered, _⟩ := registries_in_order IdentityMemory.zeros requests
  refine ⟨requests, _, asked, rfl, ordered, ?_, ?_, ?_⟩
  all_goals
    rw [asked]
    decide +kernel

end Bootloader.SystemPage
