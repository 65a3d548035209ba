import Bootloader.Log

/-!
# Actions

An action takes a state, may change it, may write log records, and ends in one
of four ways: it is done with a value, it fails with an error, it crashes (the
program itself would stop), or it stalls on a device that never falls silent.

The state and the records written so far survive every ending. So what a failed
operation left behind can be stated, and it is part of what an operation means.
-/

set_option autoImplicit false

namespace Bootloader

/-- How an action ends. -/
inductive Outcome (ε α : Type) where
  | done (value : α)
  | failed (error : ε)
  | crashed
  | stalled
  deriving DecidableEq, Repr

namespace Outcome

variable {ε δ α β : Type}

/-- The outcome of a computation that only succeeds or fails. -/
def ofExcept : Except ε α → Outcome ε α
  | .ok value => .done value
  | .error error => .failed error

/-- Rename the error. -/
def mapError (rename : ε → δ) : Outcome ε α → Outcome δ α
  | done value => done value
  | failed error => failed (rename error)
  | crashed => crashed
  | stalled => stalled

/-- Change the value. -/
def map (change : α → β) : Outcome ε α → Outcome ε β
  | done value => done (change value)
  | failed error => failed error
  | crashed => crashed
  | stalled => stalled

/-- Whether the action reached its end with a value. -/
def isDone : Outcome ε α → Bool
  | done _ => true
  | _ => false

end Outcome

/-- What running an action gives: its ending, the state it leaves, the records it wrote. -/
structure Step (σ ε α : Type) where
  outcome : Outcome ε α
  state : σ
  records : List Log.Record := []

/-- An action on a state of type `σ` that yields an `α` or fails with an `ε`. -/
structure Act (σ ε α : Type) where
  run : σ → Step σ ε α

namespace Act

variable {σ τ ε δ α β γ : Type}

/-- Yield a value and change nothing. -/
protected def pure (value : α) : Act σ ε α where
  run state := { outcome := .done value, state }

/-- Continue after an action: with its value if it has one, and not at all otherwise. -/
def proceed (first : Step σ ε α) (next : α → Act σ ε β) : Step σ ε β :=
  match first.outcome with
  | .done value =>
      let second := (next value).run first.state
      { second with records := first.records ++ second.records }
  | .failed error => { outcome := .failed error, state := first.state, records := first.records }
  | .crashed => { outcome := .crashed, state := first.state, records := first.records }
  | .stalled => { outcome := .stalled, state := first.state, records := first.records }

/-- Continue with the value of the first action, if it has one. -/
protected def bind (action : Act σ ε α) (next : α → Act σ ε β) : Act σ ε β where
  run state := Act.proceed (action.run state) next

instance : Monad (Act σ ε) where
  pure := Act.pure
  bind := Act.bind

/-- End in a given way. -/
def conclude (outcome : Outcome ε α) : Act σ ε α where
  run state := { outcome, state }

/-- Fail. -/
def fail (error : ε) : Act σ ε α :=
  conclude (.failed error)

/-- Stop the program. -/
def crash : Act σ ε α :=
  conclude .crashed

/-- Never answer. -/
def stall : Act σ ε α :=
  conclude .stalled

/-- The state. -/
def read : Act σ ε σ where
  run state := { outcome := .done state, state }

/-- Change the state. -/
def update (change : σ → σ) : Act σ ε Unit where
  run state := { outcome := .done (), state := change state }

/-- Replace the state. -/
def put (state : σ) : Act σ ε Unit :=
  update fun _ => state

/-- Write records. -/
def noteAll (records : List Log.Record) : Act σ ε Unit where
  run state := { outcome := .done (), state, records }

/-- Write one record. -/
def note (record : Log.Record) : Act σ ε Unit :=
  noteAll [record]

/-- Run an action and yield how it ended, with its state and records kept. -/
def attempt (action : Act σ ε α) : Act σ δ (Outcome ε α) where
  run state :=
    let first := action.run state
    { outcome := .done first.outcome, state := first.state, records := first.records }

/-- Yield the value of a computation that only succeeds or fails. -/
def ofExcept (result : Except ε α) : Act σ ε α :=
  conclude (Outcome.ofExcept result)

/-- Yield the value if there is one, and fail otherwise. -/
def ofOption (error : ε) : Option α → Act σ ε α
  | some value => Act.pure value
  | none => fail error

/-- Yield the value if there is one, and crash otherwise. -/
def orCrash : Option α → Act σ ε α
  | some value => Act.pure value
  | none => crash

/-- Go on only where a condition holds. -/
def require (condition : Bool) (error : ε) : Act σ ε Unit :=
  if condition then Act.pure () else fail error

/-- Rename the error of an action. -/
def mapError (rename : ε → δ) (action : Act σ ε α) : Act σ δ α where
  run state :=
    let first := action.run state
    { outcome := first.outcome.mapError rename, state := first.state, records := first.records }

/-- Run an action on a part of the state. -/
def zoom (part : σ → τ) (replace : τ → σ → σ) (action : Act τ ε α) : Act σ ε α where
  run state :=
    let first := action.run (part state)
    { outcome := first.outcome, state := replace first.state state, records := first.records }

/-- Run a body, then one closing action after success and another one after a failure or a
crash, which stays what it is. -/
def bracket (body : Act σ ε α) (onSuccess otherwise : Act σ ε Unit) : Act σ ε α := do
  match ← attempt body with
  | .done value => do
      onSuccess
      return value
  | .failed error => do
      otherwise
      fail error
  | .crashed => do
      otherwise
      crash
  | .stalled => stall

/-! ## How an action unfolds -/

@[simp] theorem run_pure (value : α) (state : σ) :
    (pure value : Act σ ε α).run state = { outcome := .done value, state } := rfl

theorem run_bind (action : Act σ ε α) (next : α → Act σ ε β) (state : σ) :
    (action >>= next).run state = Act.proceed (action.run state) next := rfl

/-- What a continued action gives after a value. -/
theorem proceed_done (value : α) (state : σ) (records : List Log.Record)
    (next : α → Act σ ε β) :
    Act.proceed ⟨.done value, state, records⟩ next =
      { (next value).run state with records := records ++ ((next value).run state).records } :=
  rfl

@[simp] theorem proceed_failed (error : ε) (state : σ) (records : List Log.Record)
    (next : α → Act σ ε β) :
    Act.proceed ⟨.failed error, state, records⟩ next = ⟨.failed error, state, records⟩ := rfl

@[simp] theorem proceed_crashed (state : σ) (records : List Log.Record) (next : α → Act σ ε β) :
    Act.proceed ⟨.crashed, state, records⟩ next = ⟨.crashed, state, records⟩ := rfl

@[simp] theorem proceed_stalled (state : σ) (records : List Log.Record) (next : α → Act σ ε β) :
    Act.proceed ⟨.stalled, state, records⟩ next = ⟨.stalled, state, records⟩ := rfl

/-- Continuing twice is continuing with the rest. -/
theorem proceed_proceed (first : Step σ ε α) (next : α → Act σ ε β) (last : β → Act σ ε γ) :
    Act.proceed (Act.proceed first next) last =
      Act.proceed first fun value => next value >>= last := by
  obtain ⟨outcome, state, records⟩ := first
  cases outcome with
  | done value =>
      simp only [proceed_done, run_bind]
      cases step : (next value).run state with
      | mk outcome state others =>
        cases outcome <;> simp [proceed_done, List.append_assoc]
  | failed error => rfl
  | crashed => rfl
  | stalled => rfl

instance : LawfulMonad (Act σ ε) :=
  LawfulMonad.mk' _
    (by
      intro α action
      have same : ∀ state, Act.proceed (action.run state) Act.pure = action.run state := by
        intro state
        cases step : action.run state with
        | mk outcome state records =>
          cases outcome <;> simp [Act.proceed, Act.pure]
      cases action with
      | mk run =>
        show Act.mk _ = Act.mk _
        congr 1
        funext state
        exact same state)
    (by
      intro α β value next
      show Act.mk (fun state => Act.proceed ⟨.done value, state, []⟩ next) = next value
      simp only [proceed_done, List.nil_append])
    (by
      intro α β γ action next last
      show Act.mk _ = Act.mk _
      congr 1
      funext state
      exact proceed_proceed (action.run state) next last)

end Act

end Bootloader
