import Bootloader.Proofs.Act.Ends
import Bootloader.SystemPage.Update
import Mathlib.Logic.Relation

/-!
# What requests do to the system page

A request is either refused, or granted and then makes one change. The changes are listed
once, with everything that was checked before them (`Change`); a list of scheduler windows
and a save make several, one after the other. For each request there is one statement that
takes its ending apart, and one that says that it leads from page to page by changes
(`Changes`). Invariants of the page are proved change by change.
-/

set_option autoImplicit false

namespace Bootloader.SystemPage

open Act

/-- How the top of a map moves: over bytes that were copied to it, behind a reservation that
was in the way of such bytes, to the next page, or to a given address. -/
inductive TopMove (map : MemoryMap) : (MemoryMap → MemoryMap) → Prop where
  | fill (length : Nat) (stop : Address) (fits : length ≤ map.freeSize)
      (reached : map.top.advance? length = some stop)
      (free : map.collision? map.top stop = none) :
      TopMove map fun map => { map with top := stop }
  | pass (stop : Address) (entry : Reservation)
      (hit : map.collision? map.top stop = some entry) :
      TopMove map fun map => map.passReservation entry
  | align : TopMove map MemoryMap.alignTop
  | raise (address : Address) (inside : address ≤ map.stop) :
      TopMove map fun map => map.raiseTop address

/-- A name is not empty and leaves room for a final zero in its field. -/
def FieldName (name : String) : Prop :=
  0 < name.utf8ByteSize ∧ name.utf8ByteSize < Capacity.mapName

/-- One change of the page, with everything that was checked before it. -/
inductive Change (page : SystemPage) : SystemPage → Prop where
  | map (name : String) (start stop : Address) (attributes : Attributes)
      (pending : page.isSaved = false) (named : FieldName name) (filled : start < stop)
      (fresh : ∀ map ∈ page.maps, ¬ map.name.toList.isPrefixOf name.toList)
      (free : ∀ map ∈ page.maps, ¬ map.overlaps start stop)
      (room : page.maps.length < Capacity.maps) :
      Change page { page with
        maps := page.maps ++ [page.reservations.foldl MemoryMap.absorb
          (MemoryMap.fresh name (UInt8.ofNat page.maps.length) start stop attributes)] }
  | reservation (start stop : Address) (size : Nat) (pending : page.isSaved = false)
      (filled : size ≠ 0) (reached : start.advance? size = some stop)
      (room : page.reservations.length < Capacity.reservations) :
      Change page { page with
        reservations := page.reservations ++ [⟨start, stop⟩]
        maps := page.maps.map fun map => map.absorb ⟨start, stop⟩ }
  | top (name : String) (map : MemoryMap) (move : MemoryMap → MemoryMap)
      (pending : page.isSaved = false) (found : page.map? name = some map)
      (moves : TopMove map move) :
      Change page (page.changeMap name move)
  | program (start stop : Address) (instructionMaps dataMaps commandLine : String)
      (flags : ProgramFlags) (instructionIds dataIds : List UInt8) (arguments : Bytes)
      (pending : page.isSaved = false) (ordered : start ≤ stop)
      (instructions : page.resolveList instructionMaps Capacity.programMaps = .ok instructionIds)
      (data : page.resolveList dataMaps Capacity.programMaps = .ok dataIds)
      (some : instructionIds ≠ [] ∧ dataIds ≠ [])
      (room : page.programs.length < Capacity.programs)
      (extended : appendArguments? page.arguments commandLine = .some arguments) :
      Change page { page with
        arguments
        programs := page.programs ++ [⟨start, stop, instructionIds, dataIds,
          Text.toField Capacity.commandLine commandLine, flags⟩] }
  | partition (name allocation access : String) (allocationIds accessIds : List UInt8)
      (pending : page.isSaved = false) (named : FieldName name)
      (fresh : ∀ partition ∈ page.partitions, partition.name ≠ name)
      (room : page.partitions.length < Capacity.partitions)
      (allocated : page.resolveList allocation Capacity.maps = .ok allocationIds)
      (accessed : page.resolveList access Capacity.maps = .ok accessIds) :
      Change page { page with
        partitions := page.partitions ++ [⟨name, allocationIds, accessIds⟩] }
  | window (size stop : UInt64) (pending : page.isSaved = false) (filled : size ≠ 0)
      (reached : Text.fitting?
        (((page.windows.getLast?.map WindowRecord.stop).getD 0).toNat + size.toNat) = some stop)
      (room : page.windows.length < Capacity.windows) :
      Change page { page with
        windows := page.windows ++ [⟨(page.windows.getLast?.map WindowRecord.stop).getD 0, stop,
          UInt8.ofNat page.windows.length⟩] }
  | address (address : Address) (pending : page.isSaved = false) :
      Change page { page with address := some address }
  | kernel (kernel : KernelDescriptor) :
      Change page { page with kernel }
  | sealed (pending : page.isSaved = false) :
      Change page { page with isSaved := true }

/-- Changes one after the other. -/
abbrev Changes : SystemPage → SystemPage → Prop :=
  Relation.ReflTransGen Change

theorem Change.changes {page after : SystemPage} (change : Change page after) :
    Changes page after :=
  Relation.ReflTransGen.single change

variable {page after : SystemPage}

/-! ## Guards -/

theorem ends_requireOpen_bind {α : Type} {next : Unit → PageAct α}
    {outcome : Outcome PageError α} :
    (requireOpen >>= next).Ends page outcome after ↔
      (page.isSaved = false ∧ (next ()).Ends page outcome after) ∨
      (page.isSaved = true ∧ .failed .alreadySaved = outcome ∧ page = after) := by
  rw [requireOpen, bind_assoc, ends_read_bind, ends_require_bind]
  simp only [Bool.not_eq_eq_eq_not, Bool.not_true, Bool.not_false]

theorem ends_checkName_bind {α : Type} {name : String} {next : Unit → PageAct α}
    {outcome : Outcome PageError α} :
    (checkName name >>= next).Ends page outcome after ↔
      (FieldName name ∧ (next ()).Ends page outcome after) ∨
      (¬ FieldName name ∧ .failed .badName = outcome ∧ page = after) := by
  rw [checkName, ends_require_bind]
  simp only [FieldName, Bool.and_eq_true, Bool.and_eq_false_iff, decide_eq_true_eq,
    decide_eq_false_iff_not, Decidable.not_and_iff_not_or_not]

theorem findMap_ok_iff {name : String} {map : MemoryMap} :
    page.findMap name = .ok map ↔ page.map? name = some map := by
  unfold findMap
  split
  case h_1 found => rw [found, Except.ok.injEq, Option.some.injEq]
  case h_2 missing => simp [missing]

theorem findMap_error {name : String} {error : PageError}
    (missing : page.findMap name = .error error) :
    error = .unknownMap := by
  unfold findMap at missing
  split at missing
  case h_1 => cases missing
  case h_2 => exact (Except.error.inj missing).symm

/-- A change of the maps of one name is seen under the name. -/
theorem map?_changeMap {page : SystemPage} {name : String} {map : MemoryMap}
    {move : MemoryMap → MemoryMap} (found : page.map? name = some map)
    (kept : ∀ other, (move other).name = other.name) :
    (page.changeMap name move).map? name = some (move map) := by
  unfold map? changeMap at *
  dsimp only
  generalize page.maps = maps at *
  induction maps with
  | nil => cases found
  | cons first rest ih =>
      by_cases same : first.name = name
      · rw [List.find?_cons_of_pos (by simpa using same), Option.some.injEq] at found
        rw [List.map_cons, if_pos same,
          List.find?_cons_of_pos (by simpa using (kept first).trans same), found]
      · rw [List.find?_cons_of_neg (by simpa using same)] at found
        rw [List.map_cons, if_neg same, List.find?_cons_of_neg (by simpa using same)]
        exact ih found

/-! ## Requests -/

/-- A refused request leaves the page alone. -/
def Refused {α : Type} (page after : SystemPage) (outcome : Outcome PageError α) : Prop :=
  (∃ error, outcome = .failed error) ∧ after = page

theorem refused_of {α : Type} {error : PageError} {outcome : Outcome PageError α}
    (failed : .failed error = outcome) (same : page = after) : Refused page after outcome :=
  ⟨⟨error, failed.symm⟩, same.symm⟩

/-- A new map comes last, under the next id, with the reservations that concern it. -/
theorem addMap_ends {name : String} {start stop : Address} {attributes : Attributes}
    {outcome : Outcome PageError UInt8}
    (ends : (addMap name start stop attributes).Ends page outcome after) :
    Refused page after outcome ∨
      outcome = .done (UInt8.ofNat page.maps.length) ∧
      page.isSaved = false ∧ FieldName name ∧ start < stop ∧
      (∀ map ∈ page.maps, ¬ map.name.toList.isPrefixOf name.toList) ∧
      (∀ map ∈ page.maps, ¬ map.overlaps start stop) ∧
      page.maps.length < Capacity.maps ∧
      after = { page with
        maps := page.maps ++ [page.reservations.foldl MemoryMap.absorb
          (MemoryMap.fresh name (UInt8.ofNat page.maps.length) start stop attributes)] } := by
  simp only [addMap, report, ends_requireOpen_bind, ends_checkName_bind, ends_require_bind,
    ends_read_bind] at ends
  rcases ends with ⟨pending, ⟨named, ⟨filled, ⟨fresh, ends⟩ | ⟨_, failed, same⟩⟩ |
    ⟨_, failed, same⟩⟩ | ⟨_, failed, same⟩⟩ | ⟨_, failed, same⟩
  · split at ends
    case h_1 other _ =>
      simp only [ends_note_bind, ends_fail_bind] at ends
      exact .inl (refused_of ends.1 ends.2)
    case h_2 free =>
      simp only [ends_require_bind, ends_note_bind, ends_put_bind, ends_pure] at ends
      rcases ends with ⟨room, done, same⟩ | ⟨_, failed, same⟩
      · refine .inr ⟨done.symm, pending, named, by simpa using filled, by simpa using fresh, ?_,
          by simpa using room, same.symm⟩
        exact fun map => List.find?_eq_none.mp (Option.eq_none_iff_forall_ne_some.mpr free) map
      · exact .inl (refused_of failed same)
  all_goals exact .inl (refused_of failed same)

/-- A reservation is recorded last, and in every map. -/
theorem reserve_ends {start : Address} {size : Nat} {outcome : Outcome PageError Unit}
    (ends : (reserve start size).Ends page outcome after) :
    Refused page after outcome ∨ outcome = .done () ∧ ∃ stop,
      page.isSaved = false ∧ size ≠ 0 ∧ start.advance? size = some stop ∧
      page.reservations.length < Capacity.reservations ∧
      after = { page with
        reservations := page.reservations ++ [⟨start, stop⟩]
        maps := page.maps.map fun map => map.absorb ⟨start, stop⟩ } := by
  simp only [reserve, report, ends_requireOpen_bind, ends_ofOption_bind, ends_note_bind,
    ends_require_bind, ends_read_bind, ends_put] at ends
  rcases ends with ⟨pending, ⟨stop, reached, ⟨room, done, same⟩ | ⟨_, failed, same⟩⟩ |
    ⟨_, failed, same⟩⟩ | ⟨_, failed, same⟩
  · split at reached
    · cases reached
    · case isFalse filled =>
        exact .inr ⟨done.symm, stop, pending, filled, reached, by simpa using room, same.symm⟩
  all_goals exact .inl (refused_of failed same)

/-- Why a reservation is refused: the page is sealed, the range is empty or wraps around, or the
list is full. -/
theorem reserve_fails {start : Address} {size : Nat} {error : PageError}
    (ends : (reserve start size).Ends page (.failed error) after) :
    (error = .alreadySaved ∧ page.isSaved = true) ∨
    (error = .badRange ∧ page.isSaved = false ∧ (size = 0 ∨ start.advance? size = none)) ∨
    (error = .full ∧ page.isSaved = false ∧
      Capacity.reservations ≤ page.reservations.length) := by
  simp only [reserve, report, ends_requireOpen_bind, ends_ofOption_bind, ends_note_bind,
    ends_require_bind, ends_read_bind, ends_put, reduceCtorEq, false_and, and_false, false_or,
    Outcome.failed.injEq] at ends
  rcases ends with ⟨pending, ⟨stop, reached, full, failed, _⟩ | ⟨unreached, failed, _⟩⟩ |
    ⟨sealed, failed, _⟩
  · exact .inr (.inr ⟨failed.symm, pending, by simpa using full⟩)
  · split at unreached
    case isTrue empty => exact .inr (.inl ⟨failed.symm, pending, .inl empty⟩)
    case isFalse => exact .inr (.inl ⟨failed.symm, pending, .inr unreached⟩)
  · exact .inl ⟨failed.symm, sealed⟩

/-- A range that does not wrap around is reserved as long as there is room in the list. -/
theorem reserve_settles {start stop : Address} {size : Nat} (pending : page.isSaved = false)
    (filled : size ≠ 0) (reached : start.advance? size = some stop) :
    if page.reservations.length < Capacity.reservations then
      (reserve start size).Ends page (.done ()) { page with
        reservations := page.reservations ++ [⟨start, stop⟩]
        maps := page.maps.map fun map => map.absorb ⟨start, stop⟩ }
    else (reserve start size).Ends page (.failed .full) page := by
  have known : (if size = 0 then none else start.advance? size) = some stop := by
    rw [if_neg filled, reached]
  split
  case isTrue room =>
    refine ends_requireOpen_bind.mpr (.inl ⟨pending, ?_⟩)
    refine ends_ofOption_bind.mpr (.inl ⟨stop, known, ?_⟩)
    refine ends_read_bind.mpr (ends_require_bind.mpr (.inl ⟨by simpa using room, ?_⟩))
    exact ends_note_bind.mpr ⟨rfl, rfl⟩
  case isFalse full =>
    refine ends_requireOpen_bind.mpr (.inl ⟨pending, ?_⟩)
    refine ends_ofOption_bind.mpr (.inl ⟨stop, known, ?_⟩)
    exact ends_read_bind.mpr (ends_require_bind.mpr (.inr ⟨by simpa using full, rfl, rfl⟩))

theorem alignMapTop_ends {name : String} {outcome : Outcome PageError Address}
    (ends : (alignMapTop name).Ends page outcome after) :
    Refused page after outcome ∨ ∃ map, outcome = .done map.alignTop.top ∧
      page.isSaved = false ∧ page.map? name = some map ∧
      after = page.changeMap name MemoryMap.alignTop := by
  simp only [alignMapTop, ends_requireOpen_bind, ends_read_bind, ends_ofExcept_bind,
    ends_put_bind, ends_pure, findMap_ok_iff] at ends
  rcases ends with ⟨pending, ⟨map, found, done, same⟩ | ⟨_, _, failed, same⟩⟩ | ⟨_, failed, same⟩
  · exact .inr ⟨map, done.symm, pending, found, same.symm⟩
  all_goals exact .inl (refused_of failed same)

/-- As long as the page is not saved, the top of each of its maps can be rounded up. -/
theorem alignMapTop_granted {name : String} {map : MemoryMap} (pending : page.isSaved = false)
    (found : page.map? name = some map) :
    (alignMapTop name).Ends page (.done map.alignTop.top)
      (page.changeMap name MemoryMap.alignTop) := by
  refine ends_requireOpen_bind.mpr (.inl ⟨pending, ?_⟩)
  refine ends_ofExcept_bind.mpr (.inl ⟨map, findMap_ok_iff.mpr found, rfl, rfl⟩)

theorem advanceMapTop_ends {name : String} {address : Address} {outcome : Outcome PageError Unit}
    (ends : (advanceMapTop name address).Ends page outcome after) :
    Refused page after outcome ∨ outcome = .done () ∧ ∃ map, page.isSaved = false ∧
      page.map? name = some map ∧ address ≤ map.stop ∧
      after = page.changeMap name fun map => map.raiseTop address := by
  simp only [advanceMapTop, ends_requireOpen_bind, ends_read_bind, ends_ofExcept_bind,
    ends_require_bind, ends_put, findMap_ok_iff] at ends
  rcases ends with ⟨pending, ⟨map, found, ⟨inside, done, same⟩ | ⟨_, failed, same⟩⟩ |
    ⟨_, _, failed, same⟩⟩ | ⟨_, failed, same⟩
  · exact .inr ⟨done.symm, map, pending, found, by simpa using inside, same.symm⟩
  all_goals exact .inl (refused_of failed same)

theorem addProgram_ends {start stop : Address} {instructionMaps dataMaps commandLine : String}
    {flags : ProgramFlags} {outcome : Outcome PageError Unit}
    (ends : (addProgram start stop instructionMaps dataMaps commandLine flags).Ends
      page outcome after) :
    Refused page after outcome ∨ outcome = .done () ∧ ∃ instructionIds dataIds arguments,
      page.isSaved = false ∧ start ≤ stop ∧
      page.resolveList instructionMaps Capacity.programMaps = .ok instructionIds ∧
      page.resolveList dataMaps Capacity.programMaps = .ok dataIds ∧
      (instructionIds ≠ [] ∧ dataIds ≠ []) ∧
      page.programs.length < Capacity.programs ∧
      appendArguments? page.arguments commandLine = some arguments ∧
      after = { page with
        arguments
        programs := page.programs ++ [⟨start, stop, instructionIds, dataIds,
          Text.toField Capacity.commandLine commandLine, flags⟩] } := by
  simp only [addProgram, report, ends_requireOpen_bind, ends_require_bind, ends_read_bind,
    ends_ofExcept_bind, ends_ofOption_bind, ends_note_bind, ends_put] at ends
  rcases ends with ⟨pending, ⟨ordered, ⟨instructionIds, instructions, ⟨dataIds, data,
    ⟨some, ⟨room, ⟨arguments, extended, done, same⟩ | ⟨_, failed, same⟩⟩ | ⟨_, failed, same⟩⟩ |
    ⟨_, failed, same⟩⟩ | ⟨_, _, failed, same⟩⟩ | ⟨_, _, failed, same⟩⟩ | ⟨_, failed, same⟩⟩ |
    ⟨_, failed, same⟩
  · refine .inr ⟨done.symm, instructionIds, dataIds, arguments, pending, by simpa using ordered,
      instructions, data, by simpa using some, by simpa using room, extended, same.symm⟩
  all_goals exact .inl (refused_of failed same)

theorem addPartition_ends {name allocation access : String} {outcome : Outcome PageError Unit}
    (ends : (addPartition name allocation access).Ends page outcome after) :
    Refused page after outcome ∨ outcome = .done () ∧ ∃ allocationIds accessIds,
      page.isSaved = false ∧ FieldName name ∧
      (∀ partition ∈ page.partitions, partition.name ≠ name) ∧
      page.partitions.length < Capacity.partitions ∧
      page.resolveList allocation Capacity.maps = .ok allocationIds ∧
      page.resolveList access Capacity.maps = .ok accessIds ∧
      after = { page with
        partitions := page.partitions ++ [⟨name, allocationIds, accessIds⟩] } := by
  simp only [addPartition, report, ends_requireOpen_bind, ends_checkName_bind, ends_require_bind,
    ends_read_bind, ends_ofExcept_bind, ends_note_bind, ends_put] at ends
  rcases ends with ⟨pending, ⟨named, ⟨fresh, ⟨room, ⟨allocationIds, allocated, ⟨accessIds,
    accessed, done, same⟩ | ⟨_, _, failed, same⟩⟩ | ⟨_, _, failed, same⟩⟩ | ⟨_, failed, same⟩⟩ |
    ⟨_, failed, same⟩⟩ | ⟨_, failed, same⟩⟩ | ⟨_, failed, same⟩
  · exact .inr ⟨done.symm, allocationIds, accessIds, pending, named, by simpa using fresh,
      by simpa using room, allocated, accessed, same.symm⟩
  all_goals exact .inl (refused_of failed same)

theorem setAddress_ends {address : Address} {outcome : Outcome PageError Unit}
    (ends : (setAddress address).Ends page outcome after) :
    Refused page after outcome ∨ outcome = .done () ∧ page.isSaved = false ∧
      after = { page with address := some address } := by
  simp only [setAddress, ends_requireOpen_bind, ends_update] at ends
  rcases ends with ⟨pending, done, same⟩ | ⟨_, failed, same⟩
  · exact .inr ⟨done.symm, pending, same.symm⟩
  · exact .inl (refused_of failed same)

theorem addWindows_ends {sizes : String} {outcome : Outcome PageError Unit}
    (ends : (addWindows sizes).Ends page outcome after) :
    Refused page after outcome ∨ ∃ numbers, page.isSaved = false ∧
      (Text.listItems sizes).mapM Text.number? = some numbers ∧ numbers ≠ [] ∧
      (∀ number ∈ numbers, number ≠ 0) ∧
      page.windows.length + numbers.length ≤ Capacity.windows ∧
      (pushWindows ((page.windows.getLast?.map WindowRecord.stop).getD 0) numbers).Ends
        page outcome after := by
  simp only [addWindows, ends_requireOpen_bind, ends_ofOption_bind, ends_require_bind,
    ends_read_bind] at ends
  rcases ends with ⟨pending, ⟨numbers, parsed, ⟨filled, ⟨room, ends⟩ | ⟨_, failed, same⟩⟩ |
    ⟨_, failed, same⟩⟩ | ⟨_, failed, same⟩⟩ | ⟨_, failed, same⟩
  · simp only [Bool.and_eq_true, Bool.not_eq_true', List.isEmpty_eq_false_iff, List.all_eq_true,
      bne_iff_ne] at filled
    exact .inr ⟨numbers, pending, parsed, filled.1, filled.2, by simpa using room, ends⟩
  all_goals exact .inl (refused_of failed same)

/-! ## Requests that write memory -/

section

variable {μ : Type} {memory written : μ}

theorem ends_onPage_bind {α β : Type} {request : PageAct α} {next : α → StoreAct μ β}
    {outcome : Outcome PageError β} {left : SystemPage × μ} :
    (onPage request >>= next).Ends (page, memory) outcome left ↔
      (∃ value middle, request.Ends page (.done value) middle ∧
        (next value).Ends (middle, memory) outcome left) ∨
      (∃ halt middle, request.Ends page halt middle ∧ halt.Halts outcome ∧
        (middle, memory) = left) := by
  rw [ends_bind]
  constructor
  · rintro (⟨value, _, here, there⟩ | ⟨halt, here, halts⟩)
    · obtain ⟨middle, inside, rfl⟩ := ends_zoom.mp here
      exact .inl ⟨value, middle, inside, there⟩
    · obtain ⟨middle, inside, same⟩ := ends_zoom.mp here
      exact .inr ⟨halt, middle, inside, halts, same⟩
  · rintro (⟨value, middle, inside, there⟩ | ⟨halt, middle, inside, halts, same⟩)
    · exact .inl ⟨value, _, ends_zoom.mpr ⟨middle, inside, rfl⟩, there⟩
    · exact .inr ⟨halt, ends_zoom.mpr ⟨middle, inside, same⟩, halts⟩

/-- A request to the page that is granted was granted by the page. -/
theorem onPage_granted {α β : Type} {action : PageAct α} {answer : α → β} {result : β}
    {store left : SystemPage × μ}
    (ends : (onPage action >>= fun value => pure (answer value)).Ends store (.done result) left) :
    ∃ value, action.Ends store.1 (.done value) left.1 := by
  rcases ends_onPage_bind.mp ends with ⟨value, _, here, _, rfl⟩ | ⟨_, _, _, halts, _⟩
  · exact ⟨value, here⟩
  · cases halts

/-- A request to the page that fails was refused by the page, and memory is as before. -/
theorem onPage_fails {α β : Type} {action : PageAct α} {answer : α → β} {error : PageError}
    {store left : SystemPage × μ}
    (ends : (onPage action >>= fun value => pure (answer value)).Ends store (.failed error) left) :
    action.Ends store.1 (.failed error) left.1 ∧ left.2 = store.2 := by
  rcases ends_onPage_bind.mp ends with ⟨_, _, _, failed, _⟩ | ⟨_, _, here, halts, rfl⟩
  · cases failed
  · cases halts
    exact ⟨here, rfl⟩

theorem ends_onPage_requireOpen_bind {α : Type} {next : Unit → StoreAct μ α}
    {outcome : Outcome PageError α} {left : SystemPage × μ} :
    (onPage requireOpen >>= next).Ends (page, memory) outcome left ↔
      (page.isSaved = false ∧ (next ()).Ends (page, memory) outcome left) ∨
      (page.isSaved = true ∧ .failed .alreadySaved = outcome ∧ (page, memory) = left) := by
  obtain ⟨_, _, _, _, _, _, _, _, isSaved⟩ := page
  cases isSaved with
  | false =>
      show (next ()).Ends (⟨_, _, _, _, _, _, _, _, false⟩, memory) outcome left ↔ _
      simp only [true_and, Bool.false_eq_true, false_and, or_false]
  | true =>
      show .failed .alreadySaved = outcome ∧ (⟨_, _, _, _, _, _, _, _, true⟩, memory) = left ↔ _
      simp only [Bool.true_eq_false, false_and, false_or, true_and]

variable [PhysicalMemory μ]

theorem ends_store_bind {α : Type} {address : Address} {data : Bytes}
    {next : Unit → StoreAct μ α} {outcome : Outcome PageError α} {left : SystemPage × μ} :
    (store address data >>= next).Ends (page, memory) outcome left ↔
      (∃ written, PhysicalMemory.write memory address data = .ok written ∧
        (next ()).Ends (page, written) outcome left) ∨
      (∃ error, PhysicalMemory.write memory address data = .error error ∧
        .failed (.memory error) = outcome ∧ (page, memory) = left) := by
  rw [store, bind_assoc, ends_read_bind]
  cases stored : PhysicalMemory.write memory address data with
  | ok written =>
      simp only [stored, ends_put_bind, Except.ok.injEq, exists_eq_left', reduceCtorEq, false_and,
        exists_false, or_false]
  | error error =>
      simp only [stored, ends_fail_bind, Except.error.injEq, exists_eq_left', reduceCtorEq,
        false_and, exists_false, false_or]

/-- What a copy to the top of a map does. It is refused and changes nothing; or a reservation
is in the way and only the top moves; or the bytes are written, and the top moves over them. -/
theorem writeToMap_ends {name : String} {data : Bytes} {outcome : Outcome PageError Address}
    (ends : (writeToMap name data).Ends (page, memory) outcome (after, written)) :
    (written = memory ∧ after = page ∧ (∀ place, outcome ≠ .done place) ∧
      ∀ top, outcome ≠ .failed (.again top)) ∨
    (∃ map stop entry, written = memory ∧ page.isSaved = false ∧ page.map? name = some map ∧
      map.top.advance? data.length = some stop ∧ map.collision? map.top stop = some entry ∧
      outcome = .failed (.again (map.passReservation entry).top) ∧
      after = page.changeMap name fun map => map.passReservation entry) ∨
    (∃ map stop, outcome = .done map.top ∧ page.isSaved = false ∧ page.map? name = some map ∧
      data.length ≤ map.freeSize ∧ map.top.advance? data.length = some stop ∧
      map.collision? map.top stop = none ∧
      PhysicalMemory.write memory map.top data = .ok written ∧
      after = page.changeMap name fun map => { map with top := stop }) := by
  simp only [writeToMap, ends_onPage_requireOpen_bind, ends_read_bind, ends_ofExcept_bind,
    ends_require_bind, ends_orCrash_bind, findMap_ok_iff] at ends
  rcases ends with ⟨pending, ⟨map, found, ⟨fits, ⟨stop, reached, ends⟩ | ⟨_, halted, same⟩⟩ |
    ⟨_, halted, same⟩⟩ | ⟨_, missing, halted, same⟩⟩ | ⟨_, halted, same⟩
  · split at ends
    case h_1 entry hit =>
      obtain ⟨halted, same⟩ := ends
      cases same
      exact .inr (.inl ⟨map, stop, entry, rfl, pending, found, reached, hit, halted.symm, rfl⟩)
    case h_2 free =>
      rw [ends_store_bind] at ends
      rcases ends with ⟨stored, wrote, done, same⟩ | ⟨_, _, halted, same⟩
      · cases same
        exact .inr (.inr ⟨map, stop, done.symm, pending, found, by simpa using fits, reached,
          free, wrote, rfl⟩)
      · cases same
        exact .inl ⟨rfl, rfl, fun place done => (nomatch halted.trans done),
          fun top again => (nomatch halted.trans again)⟩
  case inl.inr =>
    obtain rfl := findMap_error missing
    cases same
    exact .inl ⟨rfl, rfl, fun place done => (nomatch halted.trans done),
      fun top again => (nomatch halted.trans again)⟩
  all_goals
    cases same
    exact .inl ⟨rfl, rfl, fun place done => (nomatch halted.trans done),
      fun top again => (nomatch halted.trans again)⟩

/-- Where the bytes fit, a copy to the top of a map is granted, or a reservation is in the way,
or the memory refuses the write. -/
theorem writeToMap_settles {name : String} {data : Bytes} {map : MemoryMap} {stop : Address}
    {outcome : Outcome PageError Address} {left : SystemPage × μ} (pending : page.isSaved = false)
    (found : page.map? name = some map) (fits : data.length ≤ map.freeSize)
    (reached : map.top.advance? data.length = some stop)
    (ends : (writeToMap name data).Ends (page, memory) outcome left) :
    (∃ place, outcome = .done place) ∨ (∃ top, outcome = .failed (.again top)) ∨
    ∃ error, outcome = .failed (.memory error) ∧
      PhysicalMemory.write memory map.top data = .error error := by
  have known : page.findMap name = .ok map := findMap_ok_iff.mpr found
  simp only [writeToMap, ends_onPage_requireOpen_bind, pending, true_and, Bool.false_eq_true,
    false_and, or_false, ends_read_bind, ends_ofExcept_bind, known, Except.ok.injEq,
    exists_eq_left', reduceCtorEq, exists_false, ends_require_bind, fits, decide_true,
    Bool.true_eq_false, ends_orCrash_bind, reached, Option.some.injEq] at ends
  split at ends
  case h_1 entry hit => exact .inr (.inl ⟨_, ends.1.symm⟩)
  case h_2 free =>
    rcases ends_store_bind.mp ends with ⟨stored, wrote, done, _⟩ | ⟨error, refused, failed, _⟩
    · exact .inl ⟨_, done.symm⟩
    · exact .inr (.inr ⟨error, failed.symm, refused⟩)

/-- What a save does. It ends before anything was changed, with another error than those of the
memory; or room is reserved, and then the block is written and the page sealed, or the memory
refuses the block. -/
theorem save_ends {outcome : Outcome PageError Address}
    (ends : (save : StoreAct μ Address).Ends (page, memory) outcome (after, written)) :
    (written = memory ∧ after = page ∧ (∀ place, outcome ≠ .done place) ∧
      ∀ reason, outcome ≠ .failed (.memory reason)) ∨
    ∃ address stop textStop reserved, page.isSaved = false ∧ page.address = some address ∧
      address.advance? page.serialize.length = some stop ∧
      page.kernel.text.address.advance? page.kernel.text.size.toNat = some textStop ∧
      page.coversImage textStop address stop = false ∧
      (reserve address page.serialize.length).Ends page (.done ()) reserved ∧
      ((∃ error, PhysicalMemory.write memory address page.serialize = .error error ∧
          outcome = .failed (.memory error) ∧ after = reserved ∧ written = memory) ∨
        (outcome = .done address ∧
          PhysicalMemory.write memory address page.serialize = .ok written ∧
          after = { reserved with isSaved := true })) := by
  simp only [save, ends_onPage_requireOpen_bind, ends_read_bind, ends_ofOption_bind,
    ends_require_bind, ends_orCrash_bind, report] at ends
  rcases ends with ⟨pending, ⟨address, placed, ⟨stop, reached, ⟨textStop, textReached,
    ⟨free, ends⟩ | ⟨_, halted, same⟩⟩ | ⟨_, halted, same⟩⟩ | ⟨_, halted, same⟩⟩ |
    ⟨_, halted, same⟩⟩ | ⟨_, halted, same⟩
  · rcases ends_onPage_bind.mp ends with ⟨_, reserved, room, ends⟩ | ⟨halt, middle, refused,
      halts, same⟩
    · refine .inr ⟨address, stop, textStop, reserved, pending, placed, reached, textReached,
        by simpa using free, room, ?_⟩
      rcases ends_store_bind.mp ends with ⟨stored, wrote, ends⟩ | ⟨error, wrote, failed, same⟩
      · obtain ⟨done, same⟩ := ends
        cases same
        exact .inr ⟨done.symm, wrote, rfl⟩
      · cases same
        exact .inl ⟨error, wrote, failed.symm, rfl, rfl⟩
    · cases same
      rcases reserve_ends refused with ⟨⟨error, rfl⟩, same⟩ | ⟨done, _⟩
      · cases halts
        refine .inl ⟨rfl, same, nofun, ?_⟩
        rintro reason ⟨⟩
        rcases reserve_fails refused with ⟨other, _⟩ | ⟨other, _⟩ | ⟨other, _⟩ <;> cases other
      · subst done
        cases halts
  all_goals
    cases same
    exact .inl ⟨rfl, rfl, fun place done => (nomatch halted.trans done),
      fun reason failed => (nomatch halted.trans failed)⟩

end

end Bootloader.SystemPage
