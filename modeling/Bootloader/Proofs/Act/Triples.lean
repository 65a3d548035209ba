import Bootloader.Proofs.Act.Frame

/-!
# What completed runs establish

A triple of an action says what holds of the result and of the state that is left, whenever the
action is run where its precondition holds, and is completed (`Triple`). Nothing is said of runs
that end otherwise. The rules follow the parts of an action; what an action respects is a triple
of every precondition that the relation keeps (`Respects.triple`).

Where the last step of an action alone has an effect that counts, what is told of the action is
in which state it comes to this step, if it does (`LeadsTo`).
-/

set_option autoImplicit false

namespace Bootloader.Act

variable {σ ε α β : Type}

/-- Where the precondition holds, every run that is completed establishes the postcondition. -/
def Triple (pre : σ → Prop) (action : Act σ ε α) (post : α → σ → Prop) : Prop :=
  ∀ before value after, pre before → action.Ends before (.done value) after → post value after

variable {pre : σ → Prop} {post : α → σ → Prop}

theorem triple_pure {value : α} (holds : ∀ state, pre state → post value state) :
    Triple pre (pure value : Act σ ε α) post := by
  rintro before _ _ here ⟨⟨⟩, rfl⟩
  exact holds before here

theorem triple_fail {error : ε} : Triple pre (fail error : Act σ ε α) post := by
  rintro _ _ _ _ ⟨⟨⟩, _⟩

/-- What the first part establishes, the second part starts from. -/
theorem Triple.bind {last : β → σ → Prop} {action : Act σ ε α} {next : α → Act σ ε β}
    (first : Triple pre action post) (later : ∀ value, Triple (post value) (next value) last) :
    Triple pre (action >>= next) last := by
  intro before result after here ends
  obtain ⟨value, middle, inside, ends⟩ := ends_bind_done.mp ends
  exact later value middle result after (first before value middle here inside) ends

/-- The value that is yielded is found in place. -/
theorem triple_orCrash {value? : Option α}
    (holds : ∀ value state, value? = some value → pre state → post value state) :
    Triple pre (orCrash value? : Act σ ε α) post := by
  cases value? with
  | none => rintro _ _ _ _ ⟨⟨⟩, _⟩
  | some value => exact triple_pure fun state => holds value state rfl

/-- What is kept by all that an action does is established by it. -/
theorem Respects.triple {relation : σ → σ → Prop} {action : Act σ ε α}
    (respects : action.Respects relation)
    (keeps : ∀ before after, relation before after → pre before → pre after) :
    Triple pre action fun _ => pre :=
  fun before _ after here ends => keeps before after (respects.ends ends) here

/-- An action that leaves the state alone may be put in front of any other. -/
theorem Respects.then_triple {last : β → σ → Prop} {action : Act σ ε α} {next : α → Act σ ε β}
    (same : action.Respects (Same id)) (later : ∀ value, Triple pre (next value) last) :
    Triple pre (action >>= next) last := by
  refine (same.triple fun before after unchanged here => ?_).bind later
  obtain rfl : after = before := unchanged
  exact here

/-! ## Up to a last step -/

/-- A run from `before` leaves a state that is idle, or comes to a last step that is ready. -/
def LeadsTo (before : σ) (idle : σ → Prop) (ready : Act σ ε α → σ → Prop)
    (action : Act σ ε α) : Prop :=
  ∀ outcome after, action.Ends before outcome after →
    idle after ∨ ∃ final middle, ready final middle ∧ final.Ends middle outcome after

variable {before : σ} {idle : σ → Prop} {ready : Act σ ε β → σ → Prop}

theorem leadsTo_last {action : Act σ ε β} (last : ready action before) :
    LeadsTo before idle ready action :=
  fun _ _ ends => .inr ⟨action, before, last, ends⟩

theorem leadsTo_idle {action : Act σ ε β}
    (stays : ∀ outcome after, action.Ends before outcome after → idle after) :
    LeadsTo before idle ready action :=
  fun outcome after ends => .inl (stays outcome after ends)

/-- What goes before the last step may halt where that leaves the state idle. -/
theorem leadsTo_bind {action : Act σ ε α} {next : α → Act σ ε β}
    (stays : ∀ outcome after, action.Ends before outcome after → idle after)
    (later : ∀ value middle, action.Ends before (.done value) middle →
      LeadsTo middle idle ready (next value)) :
    LeadsTo before idle ready (action >>= next) := by
  intro outcome after ends
  rcases ends_bind.mp ends with ⟨value, middle, here, there⟩ | ⟨halt, here, _⟩
  · exact later value middle here outcome after there
  · exact .inl (stays halt after here)

/-- What leaves the state alone may go before the last step wherever the state is idle. -/
theorem Respects.then_leadsTo {action : Act σ ε α} {next : α → Act σ ε β}
    (same : action.Respects (Same id)) (still : idle before)
    (later : ∀ value, action.Ends before (.done value) before →
      LeadsTo before idle ready (next value)) :
    LeadsTo before idle ready (action >>= next) := by
  refine leadsTo_bind (fun outcome after ends => ?_) fun value middle ends => ?_
  · obtain rfl : after = before := same.ends ends
    exact still
  · obtain rfl : middle = before := same.ends ends
    exact later value ends

end Bootloader.Act
