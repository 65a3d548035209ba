import Bootloader.Proofs.SystemPage.Frames
import Bootloader.Proofs.SystemPage.History
import Bootloader.Proofs.Text.Encoding

/-!
# The argument string as a list of command lines

The argument string collects the command lines of the programs that were registered, each with
a space behind it and all of them behind one mark (`arguments_afterAll`). No other request
touches it, and a program that is refused adds nothing. So the string has a zero byte in it
only if a command line has one.
-/

set_option autoImplicit false

namespace Bootloader.SystemPage

open Act

/-- The argument string with one more command line. -/
def withLine (arguments : Bytes) (commandLine : String) : Bytes :=
  (if arguments.isEmpty then [argumentsMark] else arguments) ++ Text.encode commandLine ++ [0x20]

theorem appendArguments?_eq_some {arguments extended : Bytes} {commandLine : String}
    (fits : appendArguments? arguments commandLine = some extended) :
    extended = withLine arguments commandLine := by
  unfold appendArguments? at fits
  dsimp only at fits
  rw [withLine]
  generalize (if arguments.isEmpty then [argumentsMark] else arguments) = start at fits ⊢
  split at fits
  case isTrue => exact (Option.some.inj fits).symm
  case isFalse => cases fits

/-- A command line makes the argument string longer, if only by the space behind it. -/
theorem length_withLine (arguments : Bytes) (commandLine : String) :
    arguments.length < (withLine arguments commandLine).length := by
  rw [withLine, List.length_append, List.length_append, List.length_singleton]
  split
  case isTrue none => rw [List.isEmpty_iff.mp none]; exact Nat.succ_pos _
  case isFalse => omega

/-- Where no command line has a zero in it, neither has the argument string. -/
theorem zero_not_mem_withLines {arguments : Bytes} {lines : List String}
    (start : (0 : UInt8) ∉ arguments) (nonzero : ∀ line ∈ lines, (0 : UInt8) ∉ Text.encode line) :
    (0 : UInt8) ∉ lines.foldl withLine arguments := by
  induction lines generalizing arguments with
  | nil => exact start
  | cons line rest ih =>
      have first := nonzero line List.mem_cons_self
      refine ih ?_ fun other member => nonzero other (List.mem_cons_of_mem _ member)
      rw [withLine, List.mem_append, List.mem_append]
      rintro ((zero | zero) | zero)
      · split at zero
        · exact absurd (List.mem_singleton.mp zero) (by decide)
        · exact start zero
      · exact first zero
      · exact absurd (List.mem_singleton.mp zero) (by decide)

section

variable {μ : Type} [PhysicalMemory μ]

omit [PhysicalMemory μ] in
/-- The command line of a program that a visit registered. -/
def Visit.commandLine? (visit : Visit μ) : Option String :=
  match visit.request, visit.outcome with
  | .addProgram _ _ _ _ commandLine _, .done _ => some commandLine
  | _, _ => none

/-- The command lines of the programs that requests registered, in order. -/
def commandLines (requests : List Request) (store : SystemPage × μ) : List String :=
  (history requests store).filterMap Visit.commandLine?

omit [PhysicalMemory μ] in
/-- A request that keeps what stands keeps the argument string, with or without an answer. -/
theorem arguments_of_standing {α : Type} {action : StoreAct μ α} {answer : α → Option Address}
    (keeps : action.Respects (Same fun store => store.1.standing)) :
    (action >>= fun value => pure (answer value)).Respects
      (Same fun store => store.1.arguments) := by
  have weaker : action.Respects (Same fun store => store.1.arguments) :=
    keeps.mono fun _ _ same => congrArg Prod.fst same
  exact weaker.bind fun _ => respects_pure

omit [PhysicalMemory μ] in
theorem setKernel_arguments {kernel : KernelDescriptor} :
    (onPage (setKernel kernel) : StoreAct μ Unit).Respects (Same fun store => store.1.arguments) :=
  onPage_standing (respects_update fun _ => rfl)

/-- A request adds the command line of the program that it registered, if any. -/
theorem perform_arguments {request : Request} {store left : SystemPage × μ}
    {outcome : Outcome PageError (Option Address)}
    (ends : request.perform.Ends store outcome left) :
    left.1.arguments =
      (Visit.mk request store outcome left).commandLine?.toList.foldl withLine
        store.1.arguments := by
  cases request with
  | addProgram start stop instructionMaps dataMaps commandLine flags =>
      rcases ends_onPage_bind.mp ends with ⟨_, middle, here, done, same⟩ |
        ⟨halt, middle, here, halts, same⟩
      · subst done
        subst same
        rcases addProgram_ends here with ⟨⟨_, failed⟩, _⟩ |
          ⟨_, _, _, arguments, _, _, _, _, _, _, extended, rfl⟩
        · cases failed
        · exact appendArguments?_eq_some extended
      · subst same
        rcases addProgram_ends here with ⟨⟨error, rfl⟩, rfl⟩ | ⟨rfl, _⟩
        · cases halts
          rfl
        · cases halts
  | addMap => exact (arguments_of_standing (onPage_standing addMap_standing)).ends ends
  | reserve => exact (arguments_of_standing (onPage_standing reserve_standing)).ends ends
  | write => exact (arguments_of_standing writeToMap_standing).ends ends
  | alignTop => exact (arguments_of_standing (onPage_standing alignMapTop_standing)).ends ends
  | raiseTop => exact (arguments_of_standing (onPage_standing advanceMapTop_standing)).ends ends
  | addPartition => exact (arguments_of_standing (onPage_standing addPartition_standing)).ends ends
  | addWindows => exact (arguments_of_standing (onPage_standing addWindows_standing)).ends ends
  | setAddress => exact (arguments_of_standing (onPage_standing setAddress_standing)).ends ends
  | setKernel part => exact (setKernel_arguments.bind fun _ => respects_pure).ends ends
  | save => exact ((save_besides fun _ => rfl).bind fun _ => respects_pure).ends ends

/-- The command lines of registered programs follow each other in the argument string. -/
theorem arguments_afterAll (requests : List Request) (store : SystemPage × μ) :
    (afterAll requests store).1.arguments =
      (commandLines requests store).foldl withLine store.1.arguments := by
  induction requests generalizing store with
  | nil => rfl
  | cons request rest ih =>
      have first := perform_arguments (visit_ends request store)
      rw [afterAll, ih, first, commandLines, commandLines, history, List.filterMap_cons]
      show List.foldl withLine (List.foldl withLine _ (request.visit store).commandLine?.toList) _ =
        _
      cases (request.visit store).commandLine? with
      | none => rfl
      | some line => rfl

end

end Bootloader.SystemPage
