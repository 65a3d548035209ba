import Bootloader.Proofs.SystemPage.Frames

/-!
# Histories of the system page

A history is a list of requests made to one page and one memory, each whether or not those
before it were granted. What every request met, how it ended and what it left is kept in a
list of visits. Whatever the requests, the page moves by changes only
(`history_changes`), between any two visits too (`history_pairwise`); so what a change keeps
holds of every page that is ever reached.
-/

set_option autoImplicit false

namespace Bootloader.SystemPage

open Act

/-- One part of what the kernel is told about its image. -/
inductive KernelPart where
  | text (region : Region)
  | data (region : Region)
  | bss (region : Region)
  | entry (address : Address)
  deriving DecidableEq, Repr

/-- A description of the kernel with one part replaced. -/
def KernelDescriptor.replace (kernel : KernelDescriptor) : KernelPart → KernelDescriptor
  | .text region => { kernel with text := region }
  | .data region => { kernel with data := region }
  | .bss region => { kernel with bss := region }
  | .entry address => { kernel with entry := address }

/-- A request to the page, with its arguments. -/
inductive Request where
  | addMap (name : String) (start stop : Address) (attributes : Attributes)
  | reserve (start : Address) (size : UInt64)
  | write (map : String) (data : Bytes)
  | alignTop (map : String)
  | raiseTop (map : String) (address : Address)
  | addProgram (start stop : Address) (instructionMaps dataMaps commandLine : String)
      (flags : ProgramFlags)
  | addPartition (name allocation access : String)
  | addWindows (sizes : String)
  | setKernel (part : KernelPart)
  | setAddress (address : Address)
  | save
  deriving DecidableEq, Repr

section

variable {μ : Type} [PhysicalMemory μ]

/-- Make a request; a write that is granted yields the address of its first byte. -/
def Request.perform : Request → StoreAct μ (Option Address)
  | .addMap name start stop attributes => do
      let _ ← onPage (SystemPage.addMap name start stop attributes)
      return none
  | .reserve start size => do
      onPage (SystemPage.reserve start size.toNat)
      return none
  | .write map data => do
      let place ← writeToMap map data
      return some place
  | .alignTop map => do
      let _ ← onPage (alignMapTop map)
      return none
  | .raiseTop map address => do
      onPage (advanceMapTop map address)
      return none
  | .addProgram start stop instructionMaps dataMaps commandLine flags => do
      onPage (SystemPage.addProgram start stop instructionMaps dataMaps commandLine flags)
      return none
  | .addPartition name allocation access => do
      onPage (SystemPage.addPartition name allocation access)
      return none
  | .addWindows sizes => do
      onPage (SystemPage.addWindows sizes)
      return none
  | .setKernel part => do
      let (page, _) ← Act.read
      onPage (SystemPage.setKernel (page.kernel.replace part))
      return none
  | .setAddress address => do
      onPage (SystemPage.setAddress address)
      return none
  | .save => do
      let _ ← SystemPage.save
      return none

/-- A request, what it met, how it ended, and what it left. -/
structure Visit (μ : Type) where
  request : Request
  before : SystemPage × μ
  outcome : Outcome PageError (Option Address)
  after : SystemPage × μ

/-- Make a request where things stand. -/
def Request.visit (request : Request) (store : SystemPage × μ) : Visit μ where
  request := request
  before := store
  outcome := (request.perform.run store).outcome
  after := (request.perform.run store).state

/-- The visits of requests that are made one after the other. -/
def history : List Request → SystemPage × μ → List (Visit μ)
  | [], _ => []
  | request :: rest, store => request.visit store :: history rest (request.visit store).after

/-- The page and the memory after requests that are made one after the other. -/
def afterAll : List Request → SystemPage × μ → SystemPage × μ
  | [], store => store
  | request :: rest, store => afterAll rest (request.visit store).after

theorem afterAll_append {earlier later : List Request} (store : SystemPage × μ) :
    afterAll (earlier ++ later) store = afterAll later (afterAll earlier store) := by
  induction earlier generalizing store with
  | nil => rfl
  | cons request rest ih => exact ih _

theorem visit_ends (request : Request) (store : SystemPage × μ) :
    request.perform.Ends store (request.visit store).outcome (request.visit store).after :=
  ends_run request.perform store

/-! ## Requests make changes -/

/-- Copying to a map registers no more than a top that moved. -/
theorem writeToMap_registers {store left : SystemPage × μ} {name : String} {data : Bytes}
    {outcome : Outcome PageError Address} (ends : (writeToMap name data).Ends store outcome left) :
    Registered store.1 left.1 := by
  rcases writeToMap_ends ends with ⟨_, same, _⟩ |
    ⟨map, stop, entry, _, pending, found, _, hit, _, same⟩ |
    ⟨map, stop, _, pending, found, fits, reached, free, _, same⟩
  · exact same ▸ Relation.ReflTransGen.refl
  · exact same ▸ (Change.top name map _ pending found (.pass stop entry hit)).registered rfl
  · exact same ▸ (Change.top name map _ pending found (.fill data.length stop fits reached
      free)).registered rfl

theorem save_changes {store left : SystemPage × μ} {outcome : Outcome PageError Address}
    (ends : (save : StoreAct μ Address).Ends store outcome left) : Changes store.1 left.1 := by
  rcases save_ends ends with ⟨_, same, _⟩ | ⟨_, _, _, reserved, pending, _, _, _, _, room, ends⟩
  · exact same ▸ Relation.ReflTransGen.refl
  · have first := (reserve_registers.ends room).changes
    rcases ends with ⟨_, _, _, same, _⟩ | ⟨_, _, same⟩
    · exact same ▸ first
    · rcases reserve_ends room with ⟨⟨_, failed⟩, _⟩ | ⟨_, _, _, _, _, _, left⟩
      · cases failed
      · refine same ▸ first.tail (.sealed ?_)
        rw [left]
        exact pending

/-- What a request does: it registers something, describes the kernel, or saves the page. -/
inductive Performs (request : Request) (store left : SystemPage × μ) : Prop where
  | registers (registered : Registered store.1 left.1)
  | describes (part : KernelPart) (asked : request = .setKernel part)
      (same : left = ({ store.1 with kernel := store.1.kernel.replace part }, store.2))
  | saves (outcome : Outcome PageError Address) (asked : request = .save)
      (ends : (save : StoreAct μ Address).Ends store outcome left)

omit [PhysicalMemory μ] in
/-- A request that registers something in the page beside a memory. -/
theorem onPage_registers {α : Type} {request : PageAct α}
    (registers : request.Respects Registered) {store left : SystemPage × μ}
    {outcome : Outcome PageError (Option Address)} {answer : α → Option Address}
    (ends : (onPage request >>= fun value => pure (answer value)).Ends store outcome left) :
    Registered store.1 left.1 := by
  rcases ends_onPage_bind.mp ends with ⟨_, middle, here, _, same⟩ | ⟨_, middle, here, _, same⟩
  all_goals exact same ▸ registers.ends here

theorem perform_performs {request : Request} {store left : SystemPage × μ}
    {outcome : Outcome PageError (Option Address)}
    (ends : request.perform.Ends store outcome left) : Performs request store left := by
  cases request with
  | addMap => exact .registers (onPage_registers addMap_registers ends)
  | reserve => exact .registers (onPage_registers reserve_registers ends)
  | write map data =>
      rcases ends_bind.mp ends with ⟨place, middle, here, _, same⟩ | ⟨halt, here, _⟩
      · exact .registers (same ▸ writeToMap_registers here)
      · exact .registers (writeToMap_registers here)
  | alignTop => exact .registers (onPage_registers alignMapTop_registers ends)
  | raiseTop => exact .registers (onPage_registers advanceMapTop_registers ends)
  | addProgram => exact .registers (onPage_registers addProgram_registers ends)
  | addPartition => exact .registers (onPage_registers addPartition_registers ends)
  | addWindows => exact .registers (onPage_registers addWindows_registers ends)
  | setKernel part =>
      obtain ⟨page, memory⟩ := store
      rcases ends_onPage_bind.mp (ends_read_bind.mp ends) with ⟨_, _, here, _, rfl⟩ |
        ⟨_, _, here, _, rfl⟩
      all_goals exact .describes part rfl (congrArg (·, memory) (ends_update.mp here).2.symm)
  | setAddress => exact .registers (onPage_registers setAddress_registers ends)
  | save =>
      rcases ends_bind.mp ends with ⟨place, middle, here, _, same⟩ | ⟨halt, here, _⟩
      · obtain rfl : middle = left := same
        exact .saves _ rfl here
      · exact .saves _ rfl here

/-- Whatever a request is and however it ends, the page moves by changes. -/
theorem perform_changes {request : Request} {store left : SystemPage × μ}
    {outcome : Outcome PageError (Option Address)}
    (ends : request.perform.Ends store outcome left) : Changes store.1 left.1 := by
  cases perform_performs ends with
  | registers registered => exact registered.changes
  | describes part asked same => exact same ▸ (Change.kernel _).changes
  | saves outcome asked ends => exact save_changes ends

theorem visit_changes (request : Request) (store : SystemPage × μ) :
    Changes store.1 (request.visit store).after.1 :=
  perform_changes (visit_ends request store)

theorem afterAll_changes (requests : List Request) (store : SystemPage × μ) :
    Changes store.1 (afterAll requests store).1 := by
  induction requests generalizing store with
  | nil => exact Relation.ReflTransGen.refl
  | cons request rest ih => exact (visit_changes request store).trans (ih _)

/-- Every visit of a history is the visit of a request that met what the changes so far
had led to. -/
theorem history_changes {requests : List Request} {store : SystemPage × μ} {visit : Visit μ}
    (member : visit ∈ history requests store) :
    visit = visit.request.visit visit.before ∧ Changes store.1 visit.before.1 := by
  induction requests generalizing store with
  | nil => cases member
  | cons request rest ih =>
      rcases List.mem_cons.mp member with rfl | member
      · exact ⟨rfl, Relation.ReflTransGen.refl⟩
      · obtain ⟨same, changes⟩ := ih member
        exact ⟨same, (visit_changes request store).trans changes⟩

/-- From what one visit left to what a later visit met there are only changes. -/
theorem history_pairwise (requests : List Request) (store : SystemPage × μ) :
    (history requests store).Pairwise fun first second =>
      Changes first.after.1 second.before.1 := by
  induction requests generalizing store with
  | nil => exact List.Pairwise.nil
  | cons request rest ih =>
      exact List.pairwise_cons.mpr ⟨fun visit member => (history_changes member).2, ih _⟩

end

end Bootloader.SystemPage
