import Bootloader.Act

/-!
# How a run ends

`Ends action before outcome after` says that the action, run from the state `before`, ends
with `outcome` and leaves the state `after`; what it reported is left out. The action is a
function of the state it starts from, so the ending is unique (`Ends.unique`).

Each way of building actions has a rule that takes the ending of the whole apart into
endings of its parts. A sequence either goes through its first part, or halts in it
(`ends_bind`); a guard in front of a sequence either lets it pass, or ends it without a
change (`ends_require_bind`). Rewriting with these rules turns the statement that a request
ended in a certain way into the list of everything that it did.
-/

set_option autoImplicit false

namespace Bootloader

/-- A part of a sequence that ended without a value, and the ending it gives the whole. -/
inductive Outcome.Halts {ε α β : Type} : Outcome ε α → Outcome ε β → Prop where
  | failed (error : ε) : Halts (.failed error) (.failed error)
  | crashed : Halts .crashed .crashed
  | stalled : Halts .stalled .stalled

/-- What does not end with a value gives any sequence it begins an ending. -/
theorem Outcome.done_or_halts {ε α : Type} (β : Type) (ending : Outcome ε α) :
    (∃ value, ending = .done value) ∨ ∃ outcome : Outcome ε β, ending.Halts outcome := by
  cases ending with
  | done value => exact .inl ⟨value, rfl⟩
  | failed error => exact .inr ⟨_, .failed error⟩
  | crashed => exact .inr ⟨_, .crashed⟩
  | stalled => exact .inr ⟨_, .stalled⟩

/-- What halts a sequence keeps it from yielding a value. -/
theorem Outcome.Halts.ne_done {ε α β : Type} {ending : Outcome ε α} {outcome : Outcome ε β}
    (halts : ending.Halts outcome) (value : β) : outcome ≠ .done value := by
  intro done
  rw [done] at halts
  cases halts

theorem Outcome.Halts.ne_crashed {ε α β : Type} {ending : Outcome ε α} {outcome : Outcome ε β}
    (halts : ending.Halts outcome) (returns : ending ≠ .crashed) : outcome ≠ .crashed := by
  rintro rfl
  cases halts
  exact returns rfl

theorem Outcome.Halts.unique {ε α β : Type} {ending : Outcome ε α} {outcome other : Outcome ε β}
    (first : ending.Halts outcome) (second : ending.Halts other) : outcome = other := by
  cases first <;> cases second <;> rfl

/-- A computation that only succeeds or fails ends with a value if it has this value. -/
theorem Outcome.ofExcept_eq_done {ε α : Type} {result : Except ε α} {value : α} :
    ofExcept result = .done value ↔ result = .ok value := by
  cases result <;> simp [ofExcept]

theorem Outcome.ofExcept_eq_failed {ε α : Type} {result : Except ε α} {error : ε} :
    ofExcept result = .failed error ↔ result = .error error := by
  cases result <;> simp [ofExcept]

namespace Act

variable {σ τ ε δ α β : Type}

/-- Run from `before`, the action ends with `outcome` and leaves `after`. -/
def Ends (action : Act σ ε α) (before : σ) (outcome : Outcome ε α) (after : σ) : Prop :=
  (action.run before).outcome = outcome ∧ (action.run before).state = after

theorem ends_run (action : Act σ ε α) (before : σ) :
    action.Ends before (action.run before).outcome (action.run before).state :=
  ⟨rfl, rfl⟩

/-- An action ends in one way only. -/
theorem Ends.unique {action : Act σ ε α} {before after other : σ} {outcome ending : Outcome ε α}
    (first : action.Ends before outcome after) (second : action.Ends before ending other) :
    outcome = ending ∧ after = other :=
  ⟨first.1.symm.trans second.1, first.2.symm.trans second.2⟩

/-- An action that is known to end as it should does so with a value. -/
theorem ends_of_isDone {action : Act σ ε α} {before : σ}
    (finished : (action.run before).outcome.isDone = true) :
    ∃ value, action.Ends before (.done value) (action.run before).state := by
  cases ended : (action.run before).outcome with
  | done value => exact ⟨value, ended, rfl⟩
  | failed | crashed | stalled =>
      rw [ended] at finished
      cases finished

/-! ## Endings of sequences -/

variable {before after : σ}

theorem proceed_of_halts {first : Step σ ε α} {outcome : Outcome ε β}
    (halts : first.outcome.Halts outcome) (next : α → Act σ ε β) :
    proceed first next = ⟨outcome, first.state, first.records⟩ := by
  obtain ⟨ending, state, records⟩ := first
  cases halts <;> rfl

/-- A sequence goes on after a value of its first part, and halts where that halts. -/
theorem ends_bind {action : Act σ ε α} {next : α → Act σ ε β} {outcome : Outcome ε β} :
    (action >>= next).Ends before outcome after ↔
      (∃ value middle, action.Ends before (.done value) middle ∧
        (next value).Ends middle outcome after) ∨
      (∃ halt, action.Ends before halt after ∧ halt.Halts outcome) := by
  unfold Ends
  rw [run_bind]
  generalize action.run before = first
  rcases Outcome.done_or_halts β first.outcome with ⟨value, done⟩ | ⟨ending, halts⟩
  · obtain ⟨_, middle, records⟩ := first
    cases done
    rw [proceed_done]
    constructor
    · intro ends
      exact .inl ⟨value, middle, ⟨rfl, rfl⟩, ends⟩
    · rintro (⟨other, state, ⟨same, here⟩, ends⟩ | ⟨halt, ⟨same, _⟩, halts⟩)
      · cases same
        cases here
        exact ends
      · cases same
        cases halts
  · rw [proceed_of_halts halts]
    constructor
    · rintro ⟨rfl, here⟩
      exact .inr ⟨_, ⟨rfl, here⟩, halts⟩
    · rintro (⟨value, _, ⟨same, _⟩, _⟩ | ⟨halt, ⟨same, here⟩, others⟩)
      · rw [same] at halts
        cases halts
      · rw [same] at halts
        exact ⟨halts.unique others, here⟩

/-- A sequence that yields a value went through both of its parts. -/
theorem ends_bind_done {action : Act σ ε α} {next : α → Act σ ε β} {result : β} :
    (action >>= next).Ends before (.done result) after ↔
      ∃ value middle, action.Ends before (.done value) middle ∧
        (next value).Ends middle (.done result) after := by
  rw [ends_bind]
  constructor
  · rintro (through | ⟨halt, _, halts⟩)
    · exact through
    · cases halts
  · exact .inl

/-- A sequence whose first part yields a value ends like the rest of it. -/
theorem ends_bind_of_done {action : Act σ ε α} {next : α → Act σ ε β} {outcome : Outcome ε β}
    {value : α} {middle : σ} (first : action.Ends before (.done value) middle) :
    (action >>= next).Ends before outcome after ↔ (next value).Ends middle outcome after := by
  rw [ends_bind]
  constructor
  · rintro (⟨other, state, here, there⟩ | ⟨halt, here, halts⟩)
    · obtain ⟨same, rfl⟩ := first.unique here
      cases same
      exact there
    · obtain ⟨rfl, _⟩ := first.unique here
      cases halts
  · exact fun there => .inl ⟨value, middle, first, there⟩

/-- A sequence that only changes the value of its first part ends like that part. -/
theorem ends_bind_pure {action : Act σ ε α} {change : α → β} {outcome : Outcome ε β} :
    (action >>= fun value => pure (change value)).Ends before outcome after ↔
      ∃ ending, action.Ends before ending after ∧ ending.map change = outcome := by
  rw [ends_bind]
  constructor
  · rintro (⟨value, middle, here, done, rfl⟩ | ⟨halt, here, halts⟩)
    · exact ⟨.done value, here, done⟩
    · refine ⟨halt, here, ?_⟩
      cases halts <;> rfl
  · rintro ⟨ending, here, rfl⟩
    cases ending with
    | done value => exact .inl ⟨value, after, here, rfl, rfl⟩
    | failed error => exact .inr ⟨_, here, .failed error⟩
    | crashed => exact .inr ⟨_, here, .crashed⟩
    | stalled => exact .inr ⟨_, here, .stalled⟩

/-! ## Properties of results -/

/-- Whatever value the action ends with, it has a property. -/
def Yields (action : Act σ ε α) (fact : α → Prop) : Prop :=
  ∀ before value after, action.Ends before (.done value) after → fact value

theorem yields_pure {value : α} {fact : α → Prop} (holds : fact value) :
    (pure value : Act σ ε α).Yields fact := by
  intro before other after ends
  cases ends.1
  exact holds

/-- A computation that only succeeds or fails yields its result. -/
theorem yields_ofExcept {result : Except ε α} :
    (ofExcept result : Act σ ε α).Yields fun value => result = .ok value := by
  rintro before value after ⟨done, _⟩
  cases result with
  | ok other => cases done; rfl
  | error error => cases done

theorem yields_ofOption {error : ε} {value? : Option α} :
    (ofOption error value? : Act σ ε α).Yields fun value => value? = some value := by
  rintro before value after ⟨done, _⟩
  cases value? with
  | some other => cases done; rfl
  | none => cases done

/-- A sequence yields what each of its continuations yields. -/
theorem yields_bind {action : Act σ ε α} {next : α → Act σ ε β} {fact : β → Prop}
    (later : ∀ value, (next value).Yields fact) : (action >>= next).Yields fact := by
  intro before result after ends
  obtain ⟨value, middle, _, there⟩ := ends_bind_done.mp ends
  exact later value _ _ _ there

/-! ## Endings of single actions -/

@[simp] theorem ends_pure {value : α} {outcome : Outcome ε α} :
    (pure value : Act σ ε α).Ends before outcome after ↔ .done value = outcome ∧ before = after :=
  Iff.rfl

@[simp] theorem ends_conclude {ending outcome : Outcome ε α} :
    (conclude ending : Act σ ε α).Ends before outcome after ↔ ending = outcome ∧ before = after :=
  Iff.rfl

@[simp] theorem ends_fail {error : ε} {outcome : Outcome ε α} :
    (fail error : Act σ ε α).Ends before outcome after ↔ .failed error = outcome ∧ before = after :=
  Iff.rfl

@[simp] theorem ends_crash {outcome : Outcome ε α} :
    (crash : Act σ ε α).Ends before outcome after ↔ .crashed = outcome ∧ before = after :=
  Iff.rfl

@[simp] theorem ends_stall {outcome : Outcome ε α} :
    (stall : Act σ ε α).Ends before outcome after ↔ .stalled = outcome ∧ before = after :=
  Iff.rfl

@[simp] theorem ends_read {outcome : Outcome ε σ} :
    (read : Act σ ε σ).Ends before outcome after ↔ .done before = outcome ∧ before = after :=
  Iff.rfl

@[simp] theorem ends_update {change : σ → σ} {outcome : Outcome ε Unit} :
    (update change : Act σ ε Unit).Ends before outcome after ↔
      .done () = outcome ∧ change before = after :=
  Iff.rfl

@[simp] theorem ends_put {state : σ} {outcome : Outcome ε Unit} :
    (put state : Act σ ε Unit).Ends before outcome after ↔ .done () = outcome ∧ state = after :=
  Iff.rfl

@[simp] theorem ends_note {record : Log.Record} {outcome : Outcome ε Unit} :
    (note record : Act σ ε Unit).Ends before outcome after ↔
      .done () = outcome ∧ before = after :=
  Iff.rfl

@[simp] theorem ends_ofExcept {result : Except ε α} {outcome : Outcome ε α} :
    (ofExcept result : Act σ ε α).Ends before outcome after ↔
      Outcome.ofExcept result = outcome ∧ before = after :=
  Iff.rfl

theorem ends_ofExcept_done {result : Except ε α} {value : α} :
    (ofExcept result : Act σ ε α).Ends before (.done value) after ↔
      result = .ok value ∧ before = after := by
  rw [ends_ofExcept, Outcome.ofExcept_eq_done]

@[simp] theorem ends_attempt {action : Act σ ε α} {outcome : Outcome δ (Outcome ε α)} :
    (attempt action : Act σ δ (Outcome ε α)).Ends before outcome after ↔
      ∃ ending, action.Ends before ending after ∧ .done ending = outcome := by
  constructor
  · rintro ⟨same, here⟩
    exact ⟨_, ⟨rfl, here⟩, same⟩
  · rintro ⟨_, ⟨rfl, here⟩, same⟩
    exact ⟨same, here⟩

@[simp] theorem ends_mapError {action : Act σ ε α} {rename : ε → δ} {outcome : Outcome δ α} :
    (mapError rename action).Ends before outcome after ↔
      ∃ ending, action.Ends before ending after ∧ ending.mapError rename = outcome := by
  constructor
  · rintro ⟨same, here⟩
    exact ⟨_, ⟨rfl, here⟩, same⟩
  · rintro ⟨_, ⟨rfl, here⟩, same⟩
    exact ⟨same, here⟩

theorem mapError_eq_done {rename : ε → δ} {ending : Outcome ε α} {value : α} :
    ending.mapError rename = .done value ↔ ending = .done value := by
  cases ending <;> simp [Outcome.mapError]

/-- Renaming its errors does not change what an action yields. -/
theorem ends_mapError_done {action : Act σ ε α} {rename : ε → δ} {value : α} :
    (mapError rename action).Ends before (.done value) after ↔
      action.Ends before (.done value) after := by
  rw [ends_mapError]
  constructor
  · rintro ⟨ending, ends, same⟩
    rwa [mapError_eq_done.mp same] at ends
  · intro ends
    exact ⟨_, ends, rfl⟩

@[simp] theorem ends_zoom {part : σ → τ} {replace : τ → σ → σ} {action : Act τ ε α}
    {outcome : Outcome ε α} :
    (zoom part replace action).Ends before outcome after ↔
      ∃ left, action.Ends (part before) outcome left ∧ replace left before = after := by
  constructor
  · rintro ⟨same, here⟩
    exact ⟨_, ⟨same, rfl⟩, here⟩
  · rintro ⟨_, ⟨same, rfl⟩, here⟩
    exact ⟨same, here⟩

/-! ## Guards in front of a sequence -/

variable {outcome : Outcome ε β}

theorem ends_pure_bind {value : α} {next : α → Act σ ε β} :
    (pure value >>= next).Ends before outcome after ↔ (next value).Ends before outcome after := by
  rw [pure_bind]

theorem ends_read_bind {next : σ → Act σ ε β} :
    (read >>= next).Ends before outcome after ↔ (next before).Ends before outcome after :=
  Iff.rfl

theorem ends_update_bind {change : σ → σ} {next : Unit → Act σ ε β} :
    (update change >>= next).Ends before outcome after ↔
      (next ()).Ends (change before) outcome after :=
  Iff.rfl

theorem ends_put_bind {state : σ} {next : Unit → Act σ ε β} :
    (put state >>= next).Ends before outcome after ↔ (next ()).Ends state outcome after :=
  Iff.rfl

theorem ends_note_bind {record : Log.Record} {next : Unit → Act σ ε β} :
    (note record >>= next).Ends before outcome after ↔ (next ()).Ends before outcome after :=
  Iff.rfl

theorem ends_fail_bind {error : ε} {next : α → Act σ ε β} :
    (fail error >>= next).Ends before outcome after ↔ .failed error = outcome ∧ before = after :=
  Iff.rfl

theorem ends_require_bind {condition : Bool} {error : ε} {next : Unit → Act σ ε β} :
    (require condition error >>= next).Ends before outcome after ↔
      (condition = true ∧ (next ()).Ends before outcome after) ∨
      (condition = false ∧ .failed error = outcome ∧ before = after) := by
  cases condition with
  | true =>
      show (next ()).Ends before outcome after ↔ _
      simp
  | false =>
      show (fail error >>= next).Ends before outcome after ↔ _
      simp [ends_fail_bind]

theorem ends_ofOption_bind {error : ε} {value? : Option α} {next : α → Act σ ε β} :
    (ofOption error value? >>= next).Ends before outcome after ↔
      (∃ value, value? = some value ∧ (next value).Ends before outcome after) ∨
      (value? = none ∧ .failed error = outcome ∧ before = after) := by
  cases value? with
  | some value =>
      show (next value).Ends before outcome after ↔ _
      simp
  | none =>
      show (fail error >>= next).Ends before outcome after ↔ _
      simp [ends_fail_bind]

theorem ends_ofExcept_bind {result : Except ε α} {next : α → Act σ ε β} :
    (ofExcept result >>= next).Ends before outcome after ↔
      (∃ value, result = .ok value ∧ (next value).Ends before outcome after) ∨
      (∃ error, result = .error error ∧ .failed error = outcome ∧ before = after) := by
  cases result with
  | ok value =>
      show (next value).Ends before outcome after ↔ _
      simp
  | error error =>
      show (fail error >>= next).Ends before outcome after ↔ _
      simp [ends_fail_bind]

theorem ends_orCrash_bind {value? : Option α} {next : α → Act σ ε β} :
    (orCrash value? >>= next).Ends before outcome after ↔
      (∃ value, value? = some value ∧ (next value).Ends before outcome after) ∨
      (value? = none ∧ .crashed = outcome ∧ before = after) := by
  cases value? with
  | some value =>
      show (next value).Ends before outcome after ↔ _
      simp
  | none =>
      show .crashed = outcome ∧ before = after ↔ _
      simp

/-! ## Results in sequence -/

/-- A guard in front of a computation lets it pass, or the whole fails. -/
theorem guarded_eq_ok {condition : Prop} [Decidable condition] {error : ε}
    {next : PUnit → Except ε α} {value : α} :
    (if condition then throw error >>= next else next ⟨⟩) = .ok value ↔
      ¬ condition ∧ next ⟨⟩ = .ok value := by
  split
  case isTrue refused => exact ⟨nofun, fun passed => absurd refused passed.1⟩
  case isFalse passed => exact ⟨fun rest => ⟨passed, rest⟩, fun both => both.2⟩

theorem ofExcept_pure {value : α} : (ofExcept (pure value) : Act σ ε α) = pure value := rfl

/-- Results follow each other like the actions that yield them. -/
theorem ofExcept_bind {result : Except ε α} {next : α → Except ε β} :
    (ofExcept (result >>= next) : Act σ ε β) =
      ofExcept result >>= fun value => ofExcept (next value) := by
  cases result <;> rfl

theorem mapError_ofExcept {rename : ε → δ} {result : Except ε α} :
    mapError rename (ofExcept result : Act σ ε α) = ofExcept (result.mapError rename) := by
  cases result <;> rfl

/-! ## Attempts -/

/-- After an attempt the sequence goes on with the ending. -/
theorem ends_attempt_bind {action : Act σ δ α} {next : Outcome δ α → Act σ ε β} :
    (attempt action >>= next).Ends before outcome after ↔
      ∃ ending middle, action.Ends before ending middle ∧
        (next ending).Ends middle outcome after := by
  constructor
  · intro ends
    exact ⟨_, _, ends_run action before, ends⟩
  · rintro ⟨_, _, ⟨rfl, rfl⟩, ends⟩
    exact ends

/-- A body between an opening and a closing yields what it yields by itself, and is followed
by one closing action, unless it stalls. -/
theorem bracket_ends {body : Act σ ε β} {onSuccess otherwise : Act σ ε Unit}
    (ends : (bracket body onSuccess otherwise).Ends before outcome after) :
    ∃ ending middle, body.Ends before ending middle ∧
      (∀ value, outcome = .done value → ending = .done value) ∧
      ((∃ closed, onSuccess.Ends middle closed after) ∨
        (∃ closed, otherwise.Ends middle closed after) ∨
        (outcome = .stalled ∧ middle = after)) := by
  obtain ⟨ending, middle, inside, ends⟩ := ends_attempt_bind.mp ends
  refine ⟨ending, middle, inside, ?_⟩
  cases ending with
  | done value =>
      rcases ends_bind.mp ends with ⟨_, _, closing, done, rfl⟩ | ⟨_, closing, halts⟩
      · exact ⟨fun other same => done.trans same, .inl ⟨_, closing⟩⟩
      · exact ⟨fun other same => absurd same (halts.ne_done other), .inl ⟨_, closing⟩⟩
  | failed error =>
      rcases ends_bind.mp ends with ⟨_, _, closing, failed, rfl⟩ | ⟨_, closing, halts⟩
      · exact ⟨fun other same => (nomatch failed.trans same), .inr (.inl ⟨_, closing⟩)⟩
      · exact ⟨fun other same => absurd same (halts.ne_done other), .inr (.inl ⟨_, closing⟩)⟩
  | crashed =>
      rcases ends_bind.mp ends with ⟨_, _, closing, crashed, rfl⟩ | ⟨_, closing, halts⟩
      · exact ⟨fun other same => (nomatch crashed.trans same), .inr (.inl ⟨_, closing⟩)⟩
      · exact ⟨fun other same => absurd same (halts.ne_done other), .inr (.inl ⟨_, closing⟩)⟩
  | stalled =>
      obtain ⟨stalled, same⟩ := ends
      exact ⟨fun other done => (nomatch stalled.trans done), .inr (.inr ⟨stalled.symm, same⟩)⟩

end Act

end Bootloader
