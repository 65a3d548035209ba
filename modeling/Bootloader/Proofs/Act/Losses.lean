import Bootloader.Proofs.Act.Frame
import Bootloader.Proofs.Act.Safe

/-!
# Runs that are lost

An action that neither yields a value nor reports an error is lost: it stops the program, or it
waits without end. An action avoids one of the two under an invariant if no run of it is lost in
that way that starts where the invariant holds, and if the invariant holds again afterwards
(`Avoids`). To avoid a crash is to be safe (`safe_iff_avoids`). Where an action may be lost after
all, the loss is traced to the part in which it happens (`Avoids.bind_lost`).
-/

set_option autoImplicit false

namespace Bootloader

/-- How a run is lost: the program stops, or it waits for ever. -/
inductive Loss where
  | crash
  | stall
  deriving DecidableEq, Repr

/-- How a run was lost that ended in this way, if it was. -/
def Outcome.loss? {ε α : Type} : Outcome ε α → Option Loss
  | .done _ => none
  | .failed _ => none
  | .crashed => some .crash
  | .stalled => some .stall

namespace Outcome

variable {ε δ α β : Type} {loss : Loss}

@[simp] theorem loss?_done (value : α) : (done value : Outcome ε α).loss? = none := rfl

@[simp] theorem loss?_failed (error : ε) : (failed error : Outcome ε α).loss? = none := rfl

@[simp] theorem loss?_crashed : (crashed : Outcome ε α).loss? = some .crash := rfl

@[simp] theorem loss?_stalled : (stalled : Outcome ε α).loss? = some .stall := rfl

@[simp] theorem loss?_mapError (rename : ε → δ) (outcome : Outcome ε α) :
    (outcome.mapError rename).loss? = outcome.loss? := by
  cases outcome <;> rfl

@[simp] theorem loss?_map (change : α → β) (outcome : Outcome ε α) :
    (outcome.map change).loss? = outcome.loss? := by
  cases outcome <;> rfl

theorem Halts.loss? {ending : Outcome ε α} {outcome : Outcome ε β} (halts : ending.Halts outcome) :
    outcome.loss? = ending.loss? := by
  cases halts <;> rfl

/-- What was not lost is a value or an error. -/
theorem loss?_eq_none {outcome : Outcome ε α} :
    outcome.loss? = none ↔ (∃ value, outcome = .done value) ∨ ∃ error, outcome = .failed error := by
  cases outcome <;> simp

theorem loss?_eq_crash {outcome : Outcome ε α} :
    outcome.loss? = some .crash ↔ outcome = .crashed := by
  cases outcome <;> simp

theorem loss?_eq_stall {outcome : Outcome ε α} :
    outcome.loss? = some .stall ↔ outcome = .stalled := by
  cases outcome <;> simp

end Outcome

namespace Act

variable {σ τ ε δ α β : Type} {loss : Loss} {holds : σ → Prop}

/-- Where the invariant holds, no run is lost in a certain way, and each keeps the invariant. -/
def Avoids (loss : Loss) (holds : σ → Prop) (action : Act σ ε α) : Prop :=
  ∀ before outcome after, holds before → action.Ends before outcome after →
    outcome.loss? ≠ some loss ∧ holds after

/-- Every run yields a value or reports an error. -/
def Returns (action : Act σ ε α) : Prop :=
  ∀ before outcome after, action.Ends before outcome after → outcome.loss? = none

theorem safe_iff_avoids {action : Act σ ε α} : action.Safe holds ↔ action.Avoids .crash holds := by
  simp only [Safe, Avoids, ne_eq, Outcome.loss?_eq_crash]

theorem Returns.avoids {action : Act σ ε α} (returns : action.Returns) :
    action.Avoids loss fun _ => True := by
  intro before outcome after _ ends
  rw [returns _ _ _ ends]
  exact ⟨nofun, trivial⟩

theorem avoids_conclude {ending : Outcome ε α} (apart : ending.loss? ≠ some loss) :
    (conclude ending : Act σ ε α).Avoids loss holds := by
  rintro before outcome after here ⟨rfl, rfl⟩
  exact ⟨apart, here⟩

theorem avoids_pure {value : α} : (pure value : Act σ ε α).Avoids loss holds :=
  avoids_conclude nofun

theorem avoids_fail {error : ε} : (fail error : Act σ ε α).Avoids loss holds :=
  avoids_conclude nofun

theorem avoids_read : (read : Act σ ε σ).Avoids loss holds := by
  rintro before outcome after here ⟨rfl, rfl⟩
  exact ⟨nofun, here⟩

theorem avoids_put {state : σ} (kept : holds state) :
    (put state : Act σ ε Unit).Avoids loss holds := by
  rintro before outcome after _ ⟨rfl, rfl⟩
  exact ⟨nofun, kept⟩

theorem avoids_note {record : Log.Record} : (note record : Act σ ε Unit).Avoids loss holds := by
  rintro before outcome after here ⟨rfl, rfl⟩
  exact ⟨nofun, here⟩

theorem avoids_ofExcept {result : Except ε α} :
    (ofExcept result : Act σ ε α).Avoids loss holds := by
  cases result <;> exact avoids_conclude nofun

theorem avoids_ofOption {error : ε} {value? : Option α} :
    (ofOption error value? : Act σ ε α).Avoids loss holds := by
  cases value? with
  | some value => exact avoids_pure
  | none => exact avoids_fail

theorem avoids_require {condition : Bool} {error : ε} :
    (require condition error : Act σ ε Unit).Avoids loss holds := by
  cases condition with
  | true => exact avoids_pure
  | false => exact avoids_fail

/-- If the first part and every continuation avoid a loss, the sequence does. -/
theorem Avoids.bind {action : Act σ ε α} {next : α → Act σ ε β}
    (first : action.Avoids loss holds) (later : ∀ value, (next value).Avoids loss holds) :
    (action >>= next).Avoids loss holds := by
  intro before outcome after here ends
  rcases ends_bind.mp ends with ⟨value, middle, inside, there⟩ | ⟨halt, inside, halts⟩
  · exact later value _ _ _ (first _ _ _ here inside).2 there
  · obtain ⟨apart, kept⟩ := first _ _ _ here inside
    exact ⟨halts.loss? ▸ apart, kept⟩

/-- A sequence whose first part avoids a loss meets it in the rest. -/
theorem Avoids.bind_lost {action : Act σ ε α} {next : α → Act σ ε β} {before after : σ}
    {outcome : Outcome ε β} (first : action.Avoids loss holds) (here : holds before)
    (ends : (action >>= next).Ends before outcome after) (lost : outcome.loss? = some loss) :
    ∃ value middle, action.Ends before (.done value) middle ∧ holds middle ∧
      (next value).Ends middle outcome after := by
  rcases ends_bind.mp ends with ⟨value, middle, inside, there⟩ | ⟨halt, inside, halts⟩
  · exact ⟨value, middle, inside, (first _ _ _ here inside).2, there⟩
  · exact absurd (halts.loss? ▸ lost) (first _ _ _ here inside).1

theorem Avoids.mapError {rename : ε → δ} {action : Act σ ε α} (avoids : action.Avoids loss holds) :
    (mapError rename action).Avoids loss holds := by
  intro before outcome after here ends
  obtain ⟨ending, inside, rfl⟩ := ends_mapError.mp ends
  obtain ⟨apart, kept⟩ := avoids _ _ _ here inside
  exact ⟨(Outcome.loss?_mapError rename ending).symm ▸ apart, kept⟩

/-- What an action respects holds besides the invariant. -/
theorem Avoids.and_respects {relation : σ → σ → Prop} [IsPreorder σ relation] {action : Act σ ε α}
    (avoids : action.Avoids loss holds) (respects : action.Respects relation) (origin : σ) :
    action.Avoids loss fun state => holds state ∧ relation origin state := by
  rintro before outcome after ⟨here, related⟩ ends
  obtain ⟨apart, kept⟩ := avoids _ _ _ here ends
  exact ⟨apart, kept, trans_of relation related (respects.ends ends)⟩

/-- What an action on a part avoids, it avoids on the whole. -/
theorem Avoids.zoom {part : σ → τ} {replace : τ → σ → σ} {inner : τ → Prop} {action : Act τ ε α}
    (avoids : action.Avoids loss inner) (given : ∀ state, holds state → inner (part state))
    (lift : ∀ state left, holds state → inner left → holds (replace left state)) :
    (zoom part replace action).Avoids loss holds := by
  intro before outcome after here ends
  obtain ⟨left, inside, rfl⟩ := ends_zoom.mp ends
  obtain ⟨apart, kept⟩ := avoids _ _ _ (given before here) inside
  exact ⟨apart, lift before left here kept⟩

/-- A body and its closing are lost only if the body is, or the closing that follows it. -/
theorem bracket_lost {body : Act σ ε α} {onSuccess otherwise : Act σ ε Unit} {before after : σ}
    {outcome : Outcome ε α} (ends : (bracket body onSuccess otherwise).Ends before outcome after)
    (lost : outcome.loss? = some loss) :
    ∃ ending middle, body.Ends before ending middle ∧
      (ending.loss? = some loss ∨
        ∃ closed, (onSuccess.Ends middle closed after ∨ otherwise.Ends middle closed after) ∧
          closed.loss? = some loss) := by
  obtain ⟨ending, middle, tried, ends⟩ := ends_attempt_bind.mp ends
  refine ⟨ending, middle, tried, ?_⟩
  cases ending with
  | done value =>
      rcases ends_bind.mp ends with ⟨_, _, closing, rfl, _⟩ | ⟨closed, closing, halts⟩
      · cases lost
      · exact .inr ⟨closed, .inl closing, halts.loss? ▸ lost⟩
  | failed error =>
      rcases ends_bind.mp ends with ⟨_, _, closing, rfl, _⟩ | ⟨closed, closing, halts⟩
      · cases lost
      · exact .inr ⟨closed, .inr closing, halts.loss? ▸ lost⟩
  | crashed =>
      rcases ends_bind.mp ends with ⟨_, _, closing, rfl, _⟩ | ⟨closed, closing, halts⟩
      · exact .inl lost
      · exact .inr ⟨closed, .inr closing, halts.loss? ▸ lost⟩
  | stalled =>
      obtain ⟨rfl, _⟩ := ends
      exact .inl lost

end Act

end Bootloader
