import Bootloader.Proofs.SystemPage.CommandLines
import Bootloader.Proofs.SystemPage.MapRegistry
import Mathlib.Data.List.Forall2

/-!
# Programs and partitions as they were ordered

Programs and partitions are registered by requests that name maps. What is recorded of such an
order is the order itself, with the ids of the maps in place of their names; and since maps keep
their ids, the records stay true to the orders whatever happens later. So the programs of a page
answer the orders that were granted, one by one and in their order (`programs_afterAll`), and so
do its partitions (`partitions_afterAll`). All other requests leave both lists alone.
-/

set_option autoImplicit false

namespace Bootloader.SystemPage

open Act

/-- What is asked for when a program is to be registered. -/
structure ProgramOrder where
  start : Address
  stop : Address
  instructionMaps : String
  dataMaps : String
  commandLine : String
  flags : ProgramFlags
  deriving DecidableEq, Repr

/-- What is asked for when a partition is to be registered. -/
structure PartitionOrder where
  name : String
  allocation : String
  access : String
  deriving DecidableEq, Repr

/-- The order of a visit that registered a program. -/
def Visit.programOrder? {μ : Type} (visit : Visit μ) : Option ProgramOrder :=
  match visit.request, visit.outcome with
  | .addProgram start stop instructionMaps dataMaps commandLine flags, .done _ =>
      some ⟨start, stop, instructionMaps, dataMaps, commandLine, flags⟩
  | _, _ => none

/-- The order of a visit that registered a partition. -/
def Visit.partitionOrder? {μ : Type} (visit : Visit μ) : Option PartitionOrder :=
  match visit.request, visit.outcome with
  | .addPartition name allocation access, .done _ => some ⟨name, allocation, access⟩
  | _, _ => none

/-! ## Maps in lists -/

/-- The id is that of the map with the name. -/
def Names (page : SystemPage) (id : UInt8) (name : String) : Prop :=
  ∃ map, page.maps[id.toNat]? = some map ∧ map.name = name

/-- The ids are those of the maps that a list names, in its order. -/
def Lists (page : SystemPage) (ids : List UInt8) (list : String) : Prop :=
  List.Forall₂ page.Names ids (Text.listItems list)

variable {page after : SystemPage}

theorem Names.kept (changes : Changes page after) {id : UInt8} {name : String}
    (names : page.Names id name) : after.Names id name := by
  obtain ⟨map, listed, rfl⟩ := names
  obtain ⟨later, there, same⟩ := changes.map_stays listed
  exact ⟨later, there, congrArg MapLabel.name same⟩

theorem Lists.kept (changes : Changes page after) {ids : List UInt8} {list : String}
    (lists : page.Lists ids list) : after.Lists ids list :=
  lists.imp fun _ _ => Names.kept changes

theorem Names.valid {id : UInt8} {name : String} (names : page.Names id name) :
    id.toNat < page.maps.length := by
  obtain ⟨map, listed, _⟩ := names
  exact (List.getElem?_eq_some_iff.mp listed).1

/-- The id that is found for a name is that of the map with the name. -/
theorem Bounded.names_of_mapId (bounded : page.Bounded) {name : String} {id : UInt8}
    (found : page.mapId name = .ok id) : page.Names id name := by
  cases known : page.findMap name with
  | error error =>
      rw [mapId, known] at found
      cases found
  | ok map =>
      rw [mapId, known] at found
      obtain rfl : map.id = id := Except.ok.inj found
      obtain ⟨member, named⟩ := map?_mem (findMap_ok_iff.mp known)
      obtain ⟨index, listed⟩ := List.getElem?_of_mem member
      exact ⟨map, (bounded.toNat_id listed).symm ▸ listed, named⟩

theorem Bounded.resolveNames (bounded : page.Bounded) {limit : Nat} {names : List String}
    {ids : List UInt8} (found : page.resolveNames limit names = .ok ids) :
    List.Forall₂ page.Names ids names := by
  induction names generalizing limit ids with
  | nil =>
      rw [SystemPage.resolveNames] at found
      cases found
      exact .nil
  | cons name rest ih =>
      obtain ⟨left, id, others, _, first, more, rfl⟩ := resolveNames_cons found
      exact .cons (bounded.names_of_mapId first) (ih more)

/-! ## Records of orders -/

/-- A record of a program that was ordered. -/
structure RecordsProgram (page : SystemPage) (program : Program) (order : ProgramOrder) : Prop where
  start : program.start = order.start
  stop : program.stop = order.stop
  instructionMaps : page.Lists program.instructionMaps order.instructionMaps
  dataMaps : page.Lists program.dataMaps order.dataMaps
  commandLine : program.commandLine = Text.toField Capacity.commandLine order.commandLine
  flags : program.flags = order.flags

/-- A record of a partition that was ordered. -/
structure RecordsPartition (page : SystemPage) (partition : Partition)
    (order : PartitionOrder) : Prop where
  name : partition.name = order.name
  allocation : page.Lists partition.allocation order.allocation
  access : page.Lists partition.access order.access

theorem RecordsProgram.kept (changes : Changes page after) {program : Program}
    {order : ProgramOrder} (records : page.RecordsProgram program order) :
    after.RecordsProgram program order :=
  { records with
    instructionMaps := records.instructionMaps.kept changes
    dataMaps := records.dataMaps.kept changes }

theorem RecordsPartition.kept (changes : Changes page after) {partition : Partition}
    {order : PartitionOrder} (records : page.RecordsPartition partition order) :
    after.RecordsPartition partition order :=
  { records with
    allocation := records.allocation.kept changes
    access := records.access.kept changes }

/-- A change that does not lengthen the argument string registers no program. -/
theorem Change.programs_cases (change : Change page after) :
    (after.arguments = page.arguments ∧ after.programs = page.programs) ∨
      page.arguments.length < after.arguments.length := by
  cases change with
  | program start stop instructionMaps dataMaps commandLine flags instructionIds dataIds arguments
      pending ordered instructions data some room extended =>
      refine .inr ?_
      rw [appendArguments?_eq_some extended]
      exact length_withLine page.arguments commandLine
  | map | reservation | top | partition | window | address | kernel | sealed =>
      exact .inl ⟨rfl, rfl⟩

theorem Changes.programs_cases (changes : Changes page after) :
    (after.arguments = page.arguments ∧ after.programs = page.programs) ∨
      page.arguments.length < after.arguments.length := by
  induction changes with
  | refl => exact .inl ⟨rfl, rfl⟩
  | tail _ change ih =>
      rcases change.programs_cases with ⟨last, more⟩ | grown
      · rw [last, more]
        exact ih
      · rcases ih with ⟨kept, _⟩ | longer
        · exact .inr (kept ▸ grown)
        · exact .inr (Nat.lt_trans longer grown)

/-- Programs are only added. -/
theorem Changes.programs_prefix (changes : Changes page after) :
    page.programs <+: after.programs := by
  induction changes with
  | refl => exact List.prefix_refl _
  | tail _ change ih =>
      refine ih.trans ?_
      cases change with
      | program => exact List.prefix_append _ _
      | map | reservation | top | partition | window | address | kernel | sealed =>
          exact List.prefix_refl _

section

variable {μ : Type} [PhysicalMemory μ]

omit [PhysicalMemory μ] in
theorem Visit.commandLine?_eq (visit : Visit μ) :
    visit.commandLine? = visit.programOrder?.map ProgramOrder.commandLine := by
  obtain ⟨request, before, outcome, after⟩ := visit
  cases request with
  | addProgram => cases outcome <;> rfl
  | _ => rfl

omit [PhysicalMemory μ] in
theorem Visit.programOrder?_eq_some {visit : Visit μ} {order : ProgramOrder}
    (ordered : visit.programOrder? = some order) :
    visit.request = .addProgram order.start order.stop order.instructionMaps order.dataMaps
        order.commandLine order.flags ∧ ∃ answer, visit.outcome = .done answer := by
  obtain ⟨request, before, outcome, after⟩ := visit
  unfold Visit.programOrder? at ordered
  split at ordered
  case h_1 asked done =>
    cases ordered
    exact ⟨asked, _, done⟩
  case h_2 => cases ordered

omit [PhysicalMemory μ] in
theorem Visit.partitionOrder?_eq_some {visit : Visit μ} {order : PartitionOrder}
    (ordered : visit.partitionOrder? = some order) :
    visit.request = .addPartition order.name order.allocation order.access ∧
      ∃ answer, visit.outcome = .done answer := by
  obtain ⟨request, before, outcome, after⟩ := visit
  unfold Visit.partitionOrder? at ordered
  split at ordered
  case h_1 asked done =>
    cases ordered
    exact ⟨asked, _, done⟩
  case h_2 => cases ordered

/-- A visit adds the program that was ordered, if it was granted, and no other. -/
theorem visit_programs (request : Request) (store : SystemPage × μ) (bounded : store.1.Bounded) :
    ∃ added, (request.visit store).after.1.programs = store.1.programs ++ added ∧
      List.Forall₂ (request.visit store).after.1.RecordsProgram added
        (request.visit store).programOrder?.toList := by
  have ends := visit_ends request store
  cases ordered : (request.visit store).programOrder? with
  | none =>
      have arguments := perform_arguments ends
      have silent : (request.visit store).commandLine? = none := by
        rw [Visit.commandLine?_eq, ordered]
        rfl
      change _ = (request.visit store).commandLine?.toList.foldl withLine _ at arguments
      rw [silent] at arguments
      refine ⟨[], ?_, .nil⟩
      rw [List.append_nil]
      rcases (visit_changes request store).programs_cases with ⟨_, same⟩ | longer
      · exact same
      · rw [arguments] at longer
        exact absurd longer (Nat.lt_irrefl _)
  | some order =>
      obtain ⟨asked, answer, done⟩ := Visit.programOrder?_eq_some ordered
      generalize (request.visit store).after = left at *
      change request = _ at asked
      rw [done, asked] at ends
      obtain ⟨_, here⟩ := onPage_granted ends
      rcases addProgram_ends here with ⟨⟨_, failed⟩, _⟩ | ⟨_, instructionIds, dataIds, arguments,
        pending, sorted, instructions, data, some, room, extended, same⟩
      · cases failed
      have change : Change store.1 left.1 := same ▸ .program order.start order.stop
        order.instructionMaps order.dataMaps order.commandLine order.flags instructionIds dataIds
        arguments pending sorted instructions data some room extended
      refine ⟨_, congrArg SystemPage.programs same, .cons ⟨rfl, rfl, ?_, ?_, rfl, rfl⟩ .nil⟩
      · exact Lists.kept change.changes (bounded.resolveNames instructions)
      · exact Lists.kept change.changes (bounded.resolveNames data)

omit [PhysicalMemory μ] in
/-- A request to the page that keeps the partitions keeps them, with or without an answer. -/
theorem partitions_of_page {α : Type} {action : PageAct α} {answer : α → Option Address}
    (keeps : action.Respects (Same SystemPage.partitions)) :
    (onPage action >>= fun value => pure (answer value) : StoreAct μ _).Respects
      (Same fun store => store.1.partitions) :=
  (onPage_standing keeps).bind fun _ => respects_pure

/-- A request that registers no partition keeps those that there are. -/
theorem perform_partitions {request : Request} {store left : SystemPage × μ}
    {outcome : Outcome PageError (Option Address)}
    (ends : request.perform.Ends store outcome left)
    (other : (Visit.mk request store outcome left).partitionOrder? = none) :
    left.1.partitions = store.1.partitions := by
  have blind : ∀ {before after : SystemPage}, Same besidesMaps before after →
      Same SystemPage.partitions before after := same_of_besides fun _ => rfl
  cases request with
  | addMap => exact (partitions_of_page (addMap_besides.mono fun _ _ => blind)).ends ends
  | reserve => exact (partitions_of_page (reserve_besides.mono fun _ _ => blind)).ends ends
  | alignTop => exact (partitions_of_page (alignMapTop_besides.mono fun _ _ => blind)).ends ends
  | raiseTop => exact (partitions_of_page (advanceMapTop_besides.mono fun _ _ => blind)).ends ends
  | write map data =>
      have keeps : (writeToMap map data : StoreAct μ Address).Respects
          (Same fun store => store.1.partitions) := writeToMap_besides.mono fun _ _ => blind
      exact (keeps.bind fun _ => respects_pure).ends ends
  | addProgram =>
      refine (partitions_of_page (respects_of_ends fun ends => ?_)).ends ends
      rcases addProgram_ends ends with ⟨_, rfl⟩ | ⟨_, _, _, _, _, _, _, _, _, _, _, rfl⟩ <;> rfl
  | addPartition =>
      rcases ends_onPage_bind.mp ends with ⟨_, _, _, rfl, _⟩ | ⟨_, _, here, halts, rfl⟩
      · cases other
      · rcases addPartition_ends here with ⟨_, rfl⟩ | ⟨rfl, _⟩
        · rfl
        · cases halts
  | addWindows => exact (partitions_of_page (addWindows_keeps fun _ _ => rfl)).ends ends
  | setKernel =>
      have keeps : ∀ kernel, (setKernel kernel).Respects (Same SystemPage.partitions) :=
        fun _ => respects_update fun _ => rfl
      exact ((onPage_standing (keeps _)).bind fun _ => respects_pure).ends ends
  | setAddress =>
      refine (partitions_of_page (respects_of_ends fun ends => ?_)).ends ends
      rcases setAddress_ends ends with ⟨_, rfl⟩ | ⟨_, _, rfl⟩ <;> rfl
  | save => exact ((save_besides fun _ => rfl).bind fun _ => respects_pure).ends ends

/-- A visit adds the partition that was ordered, if it was granted, and no other. -/
theorem visit_partitions (request : Request) (store : SystemPage × μ) (bounded : store.1.Bounded) :
    ∃ added, (request.visit store).after.1.partitions = store.1.partitions ++ added ∧
      List.Forall₂ (request.visit store).after.1.RecordsPartition added
        (request.visit store).partitionOrder?.toList := by
  have ends := visit_ends request store
  cases ordered : (request.visit store).partitionOrder? with
  | none =>
      refine ⟨[], ?_, .nil⟩
      rw [List.append_nil]
      exact perform_partitions ends ordered
  | some order =>
      obtain ⟨asked, answer, done⟩ := Visit.partitionOrder?_eq_some ordered
      generalize (request.visit store).after = left at *
      change request = _ at asked
      rw [done, asked] at ends
      obtain ⟨_, here⟩ := onPage_granted ends
      rcases addPartition_ends here with ⟨⟨_, failed⟩, _⟩ | ⟨_, allocationIds, accessIds, pending,
        named, fresh, room, allocated, accessed, same⟩
      · cases failed
      have change : Change store.1 left.1 := same ▸ .partition order.name order.allocation
        order.access allocationIds accessIds pending named fresh room allocated accessed
      refine ⟨_, congrArg SystemPage.partitions same, .cons ⟨rfl, ?_, ?_⟩ .nil⟩
      · exact Lists.kept change.changes (bounded.resolveNames allocated)
      · exact Lists.kept change.changes (bounded.resolveNames accessed)

/-! ## Histories of orders -/

/-- The orders of programs that were granted, one after the other. -/
def programOrders (requests : List Request) (store : SystemPage × μ) : List ProgramOrder :=
  (history requests store).filterMap Visit.programOrder?

/-- The orders of partitions that were granted, one after the other. -/
def partitionOrders (requests : List Request) (store : SystemPage × μ) : List PartitionOrder :=
  (history requests store).filterMap Visit.partitionOrder?

/-- If every visit adds records of what was ordered in it, and no change makes a record untrue,
all that is recorded in a history answers to what was ordered. -/
theorem recorded_afterAll {Entry Order : Type} (entries : SystemPage → List Entry)
    (order? : Visit μ → Option Order) (Records : SystemPage → Entry → Order → Prop)
    (kept : ∀ {page after : SystemPage}, Changes page after → ∀ {entry order},
      Records page entry order → Records after entry order)
    (visited : ∀ (request : Request) (store : SystemPage × μ), store.1.Bounded →
      ∃ added, entries (request.visit store).after.1 = entries store.1 ++ added ∧
        List.Forall₂ (Records (request.visit store).after.1) added
          (order? (request.visit store)).toList)
    (requests : List Request) (store : SystemPage × μ) (bounded : store.1.Bounded) :
    ∃ added, entries (afterAll requests store).1 = entries store.1 ++ added ∧
      List.Forall₂ (Records (afterAll requests store).1) added
        ((history requests store).filterMap order?) := by
  induction requests generalizing store with
  | nil => exact ⟨[], (List.append_nil _).symm, .nil⟩
  | cons request rest ih =>
      obtain ⟨first, here, records⟩ := visited request store bounded
      obtain ⟨others, later, more⟩ :=
        ih (request.visit store).after ((visit_changes request store).bounded bounded)
      have changes := afterAll_changes rest (request.visit store).after
      refine ⟨first ++ others, ?_, ?_⟩
      · rw [afterAll, later, here, List.append_assoc]
      · have whole := List.rel_append (records.imp fun _ _ => kept changes) more
        rw [history, List.filterMap_cons]
        cases ordered : order? (request.visit store) with
        | none => rwa [ordered] at whole
        | some order => rwa [ordered] at whole

/-- **The programs of a page answer the orders that were granted**, one by one. -/
theorem programs_afterAll (memory : μ) (requests : List Request) :
    List.Forall₂ (afterAll requests (empty, memory)).1.RecordsProgram
      (afterAll requests (empty, memory)).1.programs (programOrders requests (empty, memory)) := by
  obtain ⟨added, same, records⟩ := recorded_afterAll SystemPage.programs Visit.programOrder?
    RecordsProgram RecordsProgram.kept visit_programs requests (empty, memory) bounded_empty
  rwa [same]

/-- **The partitions of a page answer the orders that were granted**, one by one. -/
theorem partitions_afterAll (memory : μ) (requests : List Request) :
    List.Forall₂ (afterAll requests (empty, memory)).1.RecordsPartition
      (afterAll requests (empty, memory)).1.partitions
      (partitionOrders requests (empty, memory)) := by
  obtain ⟨added, same, records⟩ := recorded_afterAll SystemPage.partitions Visit.partitionOrder?
    RecordsPartition RecordsPartition.kept visit_partitions requests (empty, memory) bounded_empty
  rwa [same]

/-- The command lines of the orders are those of the argument string. -/
theorem commandLines_eq (requests : List Request) (store : SystemPage × μ) :
    commandLines requests store =
      (programOrders requests store).map ProgramOrder.commandLine := by
  rw [commandLines, programOrders, List.map_filterMap]
  exact List.filterMap_congr fun visit _ => Visit.commandLine?_eq visit

end

end Bootloader.SystemPage
