import Bootloader.Proofs.Act.Frame
import Bootloader.Proofs.SystemPage.Requests

/-!
# What requests leave alone

Most requests concern maps, reservations and lists of records. The argument string grows only
with the programs, the description of the kernel is set only as such, and only a save marks
the page as saved. Everything else leaves these three alone (`standing`), granted or not.

A request that neither describes the kernel nor seals the page is nothing but a row of changes
that do neither (`Registered`).
-/

set_option autoImplicit false

namespace Bootloader.SystemPage

open Act

/-- The argument string, the description of the kernel, and whether the page is saved. -/
def standing (page : SystemPage) : Bytes × KernelDescriptor × Bool :=
  (page.arguments, page.kernel, page.isSaved)

/-- One change that leaves the description of the kernel alone, and whether the page is
saved. -/
structure Registers (page after : SystemPage) : Prop where
  change : Change page after
  standing : after.standing.2 = page.standing.2

/-- Such changes one after the other. -/
abbrev Registered : SystemPage → SystemPage → Prop :=
  Relation.ReflTransGen Registers

variable {name : String} {page after : SystemPage}

theorem Change.registered (change : Change page after)
    (standing : after.standing.2 = page.standing.2) : Registered page after :=
  Relation.ReflTransGen.single ⟨change, standing⟩

theorem Registered.changes (registered : Registered page after) : Changes page after :=
  Relation.ReflTransGen.mono (fun _ _ => Registers.change) _ _ registered

theorem Registered.standing (registered : Registered page after) :
    after.standing.2 = page.standing.2 := by
  induction registered with
  | refl => rfl
  | tail _ last ih => exact last.standing.trans ih

theorem registered_of_refused {α : Type} {outcome : Outcome PageError α}
    (refused : Refused page after outcome) : Registered page after :=
  refused.2 ▸ Relation.ReflTransGen.refl

theorem standing_of_refused {α : Type} {outcome : Outcome PageError α}
    (refused : Refused page after outcome) : Same standing page after :=
  congrArg SystemPage.standing refused.2

/-! ## Requests that register something -/

theorem addMap_registers {start stop : Address} {attributes : Attributes} :
    (addMap name start stop attributes).Respects Registered := by
  apply respects_of_ends
  intro before outcome after ends
  rcases addMap_ends ends with refused | ⟨_, pending, named, filled, fresh, free, room, rfl⟩
  · exact registered_of_refused refused
  · exact (Change.map name start stop attributes pending named filled fresh free room).registered
      rfl

theorem reserve_registers {start : Address} {size : Nat} :
    (reserve start size).Respects Registered := by
  apply respects_of_ends
  intro before outcome after ends
  rcases reserve_ends ends with refused | ⟨_, stop, pending, filled, reached, room, rfl⟩
  · exact registered_of_refused refused
  · exact (Change.reservation start stop size pending filled reached room).registered rfl

theorem alignMapTop_registers : (alignMapTop name).Respects Registered := by
  apply respects_of_ends
  intro before outcome after ends
  rcases alignMapTop_ends ends with refused | ⟨map, _, pending, found, rfl⟩
  · exact registered_of_refused refused
  · exact (Change.top name map _ pending found .align).registered rfl

theorem advanceMapTop_registers {address : Address} :
    (advanceMapTop name address).Respects Registered := by
  apply respects_of_ends
  intro before outcome after ends
  rcases advanceMapTop_ends ends with refused | ⟨_, map, pending, found, inside, rfl⟩
  · exact registered_of_refused refused
  · exact (Change.top name map _ pending found (.raise address inside)).registered rfl

theorem addProgram_registers {start stop : Address} {instructionMaps dataMaps commandLine : String}
    {flags : ProgramFlags} :
    (addProgram start stop instructionMaps dataMaps commandLine flags).Respects Registered := by
  apply respects_of_ends
  intro before outcome after ends
  rcases addProgram_ends ends with refused | ⟨_, instructionIds, dataIds, arguments, pending,
    ordered, instructions, data, some, room, extended, rfl⟩
  · exact registered_of_refused refused
  · exact (Change.program start stop instructionMaps dataMaps commandLine flags instructionIds
      dataIds arguments pending ordered instructions data some room extended).registered rfl

theorem addPartition_registers {allocation access : String} :
    (addPartition name allocation access).Respects Registered := by
  apply respects_of_ends
  intro before outcome after ends
  rcases addPartition_ends ends with refused | ⟨_, allocationIds, accessIds, pending, named,
    fresh, room, allocated, accessed, rfl⟩
  · exact registered_of_refused refused
  · exact (Change.partition name allocation access allocationIds accessIds pending named fresh
      room allocated accessed).registered rfl

/-- Windows are appended one by one; with one that would end too late the others stay. -/
theorem pushWindows_registers {start : UInt64} {sizes : List UInt64}
    {outcome : Outcome PageError Unit} (pending : page.isSaved = false)
    (filled : ∀ size ∈ sizes, size ≠ 0)
    (room : page.windows.length + sizes.length ≤ Capacity.windows)
    (continued : start = (page.windows.getLast?.map WindowRecord.stop).getD 0)
    (ends : (pushWindows start sizes).Ends page outcome after) :
    Registered page after := by
  induction sizes generalizing start page with
  | nil =>
      simp only [pushWindows, ends_pure] at ends
      exact ends.2 ▸ Relation.ReflTransGen.refl
  | cons size rest ih =>
      simp only [pushWindows, ends_ofOption_bind, ends_update_bind] at ends
      rcases ends with ⟨stop, reached, ends⟩ | ⟨_, _, same⟩
      · rw [List.length_cons] at room
        subst continued
        have first : Change page _ :=
          .window size stop pending (filled size List.mem_cons_self) reached (by omega)
        refine (first.registered rfl).trans (ih ?_ ?_ ?_ ?_ ends)
        · exact pending
        · exact fun size member => filled size (List.mem_cons_of_mem _ member)
        · simp only [List.length_append, List.length_singleton]
          omega
        · simp
      · exact same ▸ Relation.ReflTransGen.refl

theorem addWindows_registers {sizes : String} : (addWindows sizes).Respects Registered := by
  apply respects_of_ends
  intro before outcome after ends
  rcases addWindows_ends ends with refused | ⟨numbers, pending, _, _, filled, room, ends⟩
  · exact registered_of_refused refused
  · exact pushWindows_registers pending filled room rfl ends

theorem setAddress_registers {address : Address} :
    (setAddress address).Respects Registered := by
  apply respects_of_ends
  intro before outcome after ends
  rcases setAddress_ends ends with refused | ⟨_, pending, rfl⟩
  · exact registered_of_refused refused
  · exact (Change.address address pending).registered rfl

/-! ## Requests about maps -/

/-- Everything but the maps and the reservations. -/
def besidesMaps (page : SystemPage) : SystemPage :=
  { page with maps := [], reservations := [] }

/-- Everything but the maps and the reservations, and whether the page is saved. -/
def besidesSaving (page : SystemPage) : SystemPage :=
  { page.besidesMaps with isSaved := false }

theorem addMap_besides {start stop : Address} {attributes : Attributes} :
    (addMap name start stop attributes).Respects (Same besidesMaps) := by
  apply respects_of_ends
  intro before outcome after ends
  rcases addMap_ends ends with refused | ⟨_, _, _, _, _, _, _, rfl⟩
  · exact congrArg besidesMaps refused.2
  · rfl

theorem reserve_besides {start : Address} {size : Nat} :
    (reserve start size).Respects (Same besidesMaps) := by
  apply respects_of_ends
  intro before outcome after ends
  rcases reserve_ends ends with refused | ⟨_, _, _, _, _, _, rfl⟩
  · exact congrArg besidesMaps refused.2
  · rfl

theorem alignMapTop_besides : (alignMapTop name).Respects (Same besidesMaps) := by
  apply respects_of_ends
  intro before outcome after ends
  rcases alignMapTop_ends ends with refused | ⟨_, _, _, _, rfl⟩
  · exact congrArg besidesMaps refused.2
  · rfl

theorem advanceMapTop_besides {address : Address} :
    (advanceMapTop name address).Respects (Same besidesMaps) := by
  apply respects_of_ends
  intro before outcome after ends
  rcases advanceMapTop_ends ends with refused | ⟨_, _, _, _, _, rfl⟩
  · exact congrArg besidesMaps refused.2
  · rfl

/-! ## Requests that are no programs -/

/-- What does not depend on the maps is kept where everything besides them is. -/
theorem same_of_besides {β : Type} {view : SystemPage → β}
    (blind : ∀ page : SystemPage, view page.besidesMaps = view page) {before after : SystemPage}
    (same : Same besidesMaps before after) : Same view before after :=
  (blind after).symm.trans ((congrArg view same).trans (blind before))

theorem addMap_standing {start stop : Address} {attributes : Attributes} :
    (addMap name start stop attributes).Respects (Same standing) :=
  addMap_besides.mono fun _ _ => same_of_besides fun _ => rfl

theorem reserve_standing {start : Address} {size : Nat} :
    (reserve start size).Respects (Same standing) :=
  reserve_besides.mono fun _ _ => same_of_besides fun _ => rfl

theorem alignMapTop_standing : (alignMapTop name).Respects (Same standing) :=
  alignMapTop_besides.mono fun _ _ => same_of_besides fun _ => rfl

theorem advanceMapTop_standing {address : Address} :
    (advanceMapTop name address).Respects (Same standing) :=
  advanceMapTop_besides.mono fun _ _ => same_of_besides fun _ => rfl

theorem addPartition_standing {allocation access : String} :
    (addPartition name allocation access).Respects (Same standing) := by
  apply respects_of_ends
  intro before outcome after ends
  rcases addPartition_ends ends with refused | ⟨_, _, _, _, _, _, _, _, _, rfl⟩
  · exact standing_of_refused refused
  · rfl

theorem pushWindows_keeps {β : Type} {view : SystemPage → β}
    (blind : ∀ (page : SystemPage) windows, view { page with windows } = view page)
    (sizes : List UInt64) (start : UInt64) : (pushWindows start sizes).Respects (Same view) := by
  induction sizes generalizing start with
  | nil => exact respects_pure
  | cons size rest ih =>
      refine respects_ofOption.bind fun stop => (respects_update ?_).bind fun _ => ih stop
      exact fun page => blind page _

/-- What does not depend on the windows is kept where windows are added. -/
theorem addWindows_keeps {β : Type} {view : SystemPage → β}
    (blind : ∀ (page : SystemPage) windows, view { page with windows } = view page)
    {sizes : String} : (addWindows sizes).Respects (Same view) := by
  apply respects_of_ends
  intro before outcome after ends
  rcases addWindows_ends ends with refused | ⟨_, _, _, _, _, _, ends⟩
  · exact congrArg view refused.2
  · exact (pushWindows_keeps blind _ _).ends ends

theorem addWindows_standing {sizes : String} : (addWindows sizes).Respects (Same standing) :=
  addWindows_keeps fun _ _ => rfl

theorem setAddress_standing {address : Address} :
    (setAddress address).Respects (Same standing) := by
  apply respects_of_ends
  intro before outcome after ends
  rcases setAddress_ends ends with refused | ⟨_, _, rfl⟩
  · exact standing_of_refused refused
  · rfl

section

variable {μ : Type} [PhysicalMemory μ]

omit [PhysicalMemory μ] in
/-- What a request to the page keeps is kept where the page stands beside a memory. -/
theorem onPage_standing {α β : Type} {view : SystemPage → β} {request : PageAct α}
    (keeps : request.Respects (Same view)) :
    (onPage request : StoreAct μ α).Respects (Same fun store => view store.1) :=
  keeps.zoom fun _ _ => id

theorem writeToMap_besides {data : Bytes} :
    (writeToMap name data : StoreAct μ Address).Respects
      (Same fun store => store.1.besidesMaps) := by
  apply respects_of_ends
  rintro ⟨page, memory⟩ outcome ⟨after, written⟩ ends
  rcases writeToMap_ends ends with ⟨_, rfl, _⟩ | ⟨_, _, _, _, _, _, _, _, _, rfl⟩ |
    ⟨_, _, _, _, _, _, _, _, _, rfl⟩
  all_goals rfl

theorem writeToMap_standing {data : Bytes} :
    (writeToMap name data : StoreAct μ Address).Respects (Same fun store => store.1.standing) :=
  writeToMap_besides.mono fun _ _ => same_of_besides fun _ => rfl

/-- A save reserves room for the page and marks it; what depends on neither is kept. -/
theorem save_besides {β : Type} {view : SystemPage → β}
    (blind : ∀ page : SystemPage, view page.besidesSaving = view page) :
    (save : StoreAct μ Address).Respects (Same fun store => view store.1) := by
  apply respects_of_ends
  rintro ⟨page, memory⟩ outcome ⟨after, written⟩ ends
  rcases save_ends ends with ⟨_, rfl, _⟩ | ⟨_, _, _, reserved, _, _, _, _, _, room, ends⟩
  · rfl
  · have room : reserved.besidesMaps = page.besidesMaps := reserve_besides.ends room
    have kept : reserved.besidesSaving = page.besidesSaving := by
      rw [besidesSaving, room, besidesSaving]
    have sealed : ({ reserved with isSaved := true } : SystemPage).besidesSaving =
      reserved.besidesSaving := rfl
    rcases ends with ⟨_, _, _, rfl, _⟩ | ⟨_, _, rfl⟩
    · exact (blind _).symm.trans ((congrArg view kept).trans (blind page))
    · exact (blind _).symm.trans ((congrArg view (sealed.trans kept)).trans (blind page))

end

end Bootloader.SystemPage
