import Bootloader.Proofs.Act.Ends

/-!
# Runs that do not crash

An action is safe under an invariant if no run of it crashes that starts where the invariant
holds, and if the invariant holds again however such a run ends (`Safe`). Safe parts make safe
wholes, so that only the steps remain at which the program could stop: those that take a value
for granted. Under an invariant that always holds nothing is said of the state, and an action is
safe wherever it starts (`Harmless`).
-/

set_option autoImplicit false

namespace Bootloader.Act

variable {σ τ ε δ α β : Type}

/-- Where the invariant holds, no run crashes, and each keeps the invariant. -/
def Safe (invariant : σ → Prop) (action : Act σ ε α) : Prop :=
  ∀ before outcome after, invariant before → action.Ends before outcome after →
    outcome ≠ .crashed ∧ invariant after

/-- No run crashes. -/
abbrev Harmless (action : Act σ ε α) : Prop :=
  action.Safe fun _ => True

theorem harmless_of_ends {action : Act σ ε α}
    (ending : ∀ {before outcome after}, action.Ends before outcome after → outcome ≠ .crashed) :
    action.Harmless :=
  fun _ _ _ _ ends => ⟨ending ends, trivial⟩

variable {invariant : σ → Prop}

theorem safe_conclude {ending : Outcome ε α} (returns : ending ≠ .crashed) :
    (conclude ending : Act σ ε α).Safe invariant := by
  rintro before outcome after holds ⟨rfl, rfl⟩
  exact ⟨returns, holds⟩

theorem safe_pure {value : α} : (pure value : Act σ ε α).Safe invariant :=
  safe_conclude nofun

theorem safe_fail {error : ε} : (fail error : Act σ ε α).Safe invariant :=
  safe_conclude nofun

theorem safe_stall : (stall : Act σ ε α).Safe invariant :=
  safe_conclude nofun

theorem safe_read : (read : Act σ ε σ).Safe invariant := by
  rintro before outcome after holds ⟨rfl, rfl⟩
  exact ⟨nofun, holds⟩

theorem safe_update {change : σ → σ} (keeps : ∀ state, invariant state → invariant (change state)) :
    (update change : Act σ ε Unit).Safe invariant := by
  rintro before outcome after holds ⟨rfl, rfl⟩
  exact ⟨nofun, keeps before holds⟩

theorem safe_noteAll {records : List Log.Record} :
    (noteAll records : Act σ ε Unit).Safe invariant := by
  rintro before outcome after holds ⟨rfl, rfl⟩
  exact ⟨nofun, holds⟩

theorem safe_note {record : Log.Record} : (note record : Act σ ε Unit).Safe invariant :=
  safe_noteAll

theorem safe_ofExcept {result : Except ε α} : (ofExcept result : Act σ ε α).Safe invariant := by
  cases result <;> exact safe_conclude nofun

theorem safe_ofOption {error : ε} {value? : Option α} :
    (ofOption error value? : Act σ ε α).Safe invariant := by
  cases value? with
  | some value => exact safe_pure
  | none => exact safe_fail

theorem safe_require {condition : Bool} {error : ε} :
    (require condition error : Act σ ε Unit).Safe invariant := by
  cases condition with
  | true => exact safe_pure
  | false => exact safe_fail

/-- If the first part and every continuation are safe, the sequence is. -/
theorem Safe.bind {action : Act σ ε α} {next : α → Act σ ε β} (first : action.Safe invariant)
    (later : ∀ value, (next value).Safe invariant) : (action >>= next).Safe invariant := by
  intro before outcome after holds ends
  rcases ends_bind.mp ends with ⟨value, middle, here, there⟩ | ⟨halt, here, halts⟩
  · exact later value _ _ _ (first _ _ _ holds here).2 there
  · obtain ⟨returns, kept⟩ := first _ _ _ holds here
    exact ⟨halts.ne_crashed returns, kept⟩

theorem Safe.mapError {rename : ε → δ} {action : Act σ ε α} (safe : action.Safe invariant) :
    (mapError rename action).Safe invariant := by
  intro before outcome after holds ends
  obtain ⟨ending, here, rfl⟩ := ends_mapError.mp ends
  obtain ⟨returns, kept⟩ := safe _ _ _ holds here
  cases ending with
  | done | failed | stalled => exact ⟨nofun, kept⟩
  | crashed => exact absurd rfl returns

/-- An action that is safe on a part is safe on the whole. -/
theorem Safe.zoom {part : σ → τ} {replace : τ → σ → σ} {inner : τ → Prop} {action : Act τ ε α}
    (safe : action.Safe inner) (given : ∀ state, invariant state → inner (part state))
    (lift : ∀ state left, invariant state → inner left → invariant (replace left state)) :
    (zoom part replace action).Safe invariant := by
  intro before outcome after holds ends
  obtain ⟨left, here, rfl⟩ := ends_zoom.mp ends
  obtain ⟨returns, kept⟩ := safe _ _ _ (given before holds) here
  exact ⟨returns, lift before left holds kept⟩

theorem update_harmless {change : σ → σ} : (update change : Act σ ε Unit).Harmless :=
  safe_update fun _ _ => trivial

theorem Harmless.zoom {part : σ → τ} {replace : τ → σ → σ} {action : Act τ ε α}
    (harmless : action.Harmless) : (zoom part replace action).Harmless :=
  Safe.zoom harmless (fun _ _ => trivial) fun _ _ _ _ => trivial

end Bootloader.Act
