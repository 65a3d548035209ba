import Bootloader.Proofs.Act.Ends

/-!
# Runs beside each other

An action whose state holds more than that of another one may still run as the other does: its
outcome and its reports are the same, and so is what is seen of its state (`Mirrors`). What is
told of the one is then told of the other (`Mirrors.ends`). Actions that are built in the same
way from actions that mirror each other mirror each other.
-/

set_option autoImplicit false

namespace Bootloader

variable {σ τ ε α β : Type}

/-- What is seen of a step whose state holds more. -/
def Step.seen (view : τ → σ) (step : Step τ ε α) : Step σ ε α :=
  ⟨step.outcome, view step.state, step.records⟩

namespace Act

/-- The runs of an action are, as far as they are seen, those of a plain one. -/
def Mirrors (view : τ → σ) (action : Act τ ε α) (plain : Act σ ε α) : Prop :=
  ∀ before, plain.run (view before) = (action.run before).seen view

variable {view : τ → σ}

/-- However the plain action ends, the one that mirrors it ends so too. -/
theorem Mirrors.ends {action : Act τ ε α} {plain : Act σ ε α} (mirrors : Mirrors view action plain)
    {before : τ} {outcome : Outcome ε α} {after : σ}
    (ends : plain.Ends (view before) outcome after) :
    ∃ left, action.Ends before outcome left ∧ view left = after := by
  refine ⟨(action.run before).state, ⟨?_, rfl⟩, ?_⟩
  · exact (congrArg Step.outcome (mirrors before)).symm.trans ends.1
  · exact (congrArg Step.state (mirrors before)).symm.trans ends.2

theorem mirrors_pure {value : α} : Mirrors view (pure value : Act τ ε α) (pure value) :=
  fun _ => rfl

theorem mirrors_conclude {ending : Outcome ε α} :
    Mirrors view (conclude ending : Act τ ε α) (conclude ending) :=
  fun _ => rfl

theorem mirrors_noteAll {records : List Log.Record} :
    Mirrors view (noteAll records : Act τ ε Unit) (noteAll records) :=
  fun _ => rfl

theorem mirrors_put {state : τ} :
    Mirrors view (put state : Act τ ε Unit) (put (view state)) :=
  fun _ => rfl

theorem mirrors_ofOption {error : ε} {value? : Option α} :
    Mirrors view (ofOption error value? : Act τ ε α) (ofOption error value?) := by
  cases value? with
  | some value => exact mirrors_pure
  | none => exact mirrors_conclude

theorem mirrors_require {condition : Bool} {error : ε} :
    Mirrors view (require condition error : Act τ ε Unit) (require condition error) := by
  cases condition with
  | true => exact mirrors_pure
  | false => exact mirrors_conclude

theorem Mirrors.bind {action : Act τ ε α} {plain : Act σ ε α} {next : α → Act τ ε β}
    {plainNext : α → Act σ ε β} (first : Mirrors view action plain)
    (later : ∀ value, Mirrors view (next value) (plainNext value)) :
    Mirrors view (action >>= next) (plain >>= plainNext) := by
  intro before
  rw [run_bind, run_bind, first before]
  obtain ⟨outcome, middle, records⟩ := action.run before
  cases outcome with
  | done value =>
      rw [Step.seen, proceed_done, proceed_done, later value middle]
      rfl
  | failed | crashed | stalled => rfl

/-- What follows on the state may differ by what is not seen of it. -/
theorem mirrors_read_bind {next : τ → Act τ ε β} {plainNext : σ → Act σ ε β}
    (later : ∀ state, Mirrors view (next state) (plainNext (view state))) :
    Mirrors view (read >>= next) (read >>= plainNext) := by
  intro before
  exact later before before

/-- Actions on parts mirror each other on the whole if the parts are seen as parts. -/
theorem Mirrors.zoom {π ρ : Type} {inner : π → ρ} {action : Act π ε α} {plain : Act ρ ε α}
    {part : τ → π} {replace : π → τ → τ} {plainPart : σ → ρ} {plainReplace : ρ → σ → σ}
    (mirrors : Mirrors inner action plain)
    (parts : ∀ state, plainPart (view state) = inner (part state))
    (replaces : ∀ left state, plainReplace (inner left) (view state) = view (replace left state)) :
    Mirrors view (zoom part replace action) (zoom plainPart plainReplace plain) := by
  intro before
  simp only [Act.zoom, Step.seen, parts, mirrors (part before), replaces]

end Act

end Bootloader
