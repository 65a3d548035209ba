import Bootloader.Proofs.Act.Ends
import Mathlib.Order.Defs.Unbundled

/-!
# What every run keeps

An action respects a relation when every run of it, however it ends, relates the state it
started from to the state it leaves. Relations that are reflexive and transitive pass from
the parts of an action to the whole. The one that is used most says that a part of the state
stays what it is (`Same`). Where only the last step of an action does more than that, the
relation holds up to this step (`RespectsUpTo`). What is put right on the way out holds only
of runs that find the way out, which are those that do not stall (`RespectsOnReturn`).
-/

set_option autoImplicit false

namespace Bootloader.Act

variable {σ τ ε δ α β : Type}

/-- Every run relates the state before it to the state after it. -/
def Respects (relation : σ → σ → Prop) (action : Act σ ε α) : Prop :=
  ∀ before, relation before (action.run before).state

/-- Every run that does not stall relates the state before it to the state after it. -/
def RespectsOnReturn (relation : σ → σ → Prop) (action : Act σ ε α) : Prop :=
  ∀ before outcome after, action.Ends before outcome after → outcome ≠ .stalled →
    relation before after

/-- A part of the state is the same after as before. -/
def Same {π : Type} (view : σ → π) (before after : σ) : Prop :=
  view after = view before

instance {π : Type} (view : σ → π) : IsPreorder σ (Same view) where
  refl _ := rfl
  trans _ _ _ first second := second.trans first

variable {relation : σ → σ → Prop}

theorem Respects.ends {action : Act σ ε α} (respects : action.Respects relation)
    {before after : σ} {outcome : Outcome ε α} (ends : action.Ends before outcome after) :
    relation before after :=
  ends.2 ▸ respects before

theorem respects_of_ends {action : Act σ ε α}
    (related : ∀ {before outcome after}, action.Ends before outcome after →
      relation before after) : action.Respects relation :=
  fun before => related (ends_run action before)

/-- What a stronger relation relates, a weaker one relates too. -/
theorem Respects.mono {weaker : σ → σ → Prop} {action : Act σ ε α}
    (respects : action.Respects relation)
    (weaken : ∀ before after, relation before after → weaker before after) :
    action.Respects weaker :=
  fun before => weaken _ _ (respects before)

theorem Respects.attempt {action : Act σ ε α} (respects : action.Respects relation) :
    (attempt action : Act σ δ (Outcome ε α)).Respects relation :=
  respects

theorem Respects.mapError {rename : ε → δ} {action : Act σ ε α}
    (respects : action.Respects relation) : (mapError rename action).Respects relation :=
  respects

theorem respects_update {change : σ → σ} (related : ∀ state, relation state (change state)) :
    (update change : Act σ ε Unit).Respects relation :=
  related

/-- What an action on a part respects there, it respects on the whole. -/
theorem Respects.zoom {part : σ → τ} {replace : τ → σ → σ} {inner : τ → τ → Prop}
    {action : Act τ ε α} (respects : action.Respects inner)
    (lift : ∀ before left, inner (part before) left → relation before (replace left before)) :
    (zoom part replace action).Respects relation :=
  fun before => lift _ _ (respects (part before))

section

variable [IsPreorder σ relation]

theorem respects_pure {value : α} : (pure value : Act σ ε α).Respects relation :=
  fun _ => refl_of relation _

theorem respects_conclude {ending : Outcome ε α} :
    (conclude ending : Act σ ε α).Respects relation :=
  fun _ => refl_of relation _

theorem respects_fail {error : ε} : (fail error : Act σ ε α).Respects relation :=
  respects_conclude

theorem respects_crash : (crash : Act σ ε α).Respects relation :=
  respects_conclude

theorem respects_stall : (stall : Act σ ε α).Respects relation :=
  respects_conclude

theorem respects_read : (read : Act σ ε σ).Respects relation :=
  fun _ => refl_of relation _

theorem respects_noteAll {records : List Log.Record} :
    (noteAll records : Act σ ε Unit).Respects relation :=
  fun _ => refl_of relation _

theorem respects_note {record : Log.Record} : (note record : Act σ ε Unit).Respects relation :=
  respects_noteAll

theorem respects_ofExcept {result : Except ε α} :
    (ofExcept result : Act σ ε α).Respects relation :=
  respects_conclude

theorem respects_ofOption {error : ε} {value? : Option α} :
    (ofOption error value? : Act σ ε α).Respects relation := by
  cases value? with
  | some value => exact respects_pure
  | none => exact respects_fail

theorem respects_orCrash {value? : Option α} :
    (orCrash value? : Act σ ε α).Respects relation := by
  cases value? with
  | some value => exact respects_pure
  | none => exact respects_crash

theorem respects_require {condition : Bool} {error : ε} :
    (require condition error : Act σ ε Unit).Respects relation := by
  cases condition with
  | true => exact respects_pure
  | false => exact respects_fail

/-- What the first part and every continuation respect, the sequence respects. -/
theorem Respects.bind {action : Act σ ε α} {next : α → Act σ ε β}
    (first : action.Respects relation) (later : ∀ value, (next value).Respects relation) :
    (action >>= next).Respects relation := by
  apply respects_of_ends
  intro before outcome after ends
  rcases ends_bind.mp ends with ⟨value, middle, here, there⟩ | ⟨halt, here, _⟩
  · exact trans_of relation (first.ends here) ((later value).ends there)
  · exact first.ends here

theorem Respects.bracket {body : Act σ ε α} {onSuccess otherwise : Act σ ε Unit}
    (inside : body.Respects relation) (success : onSuccess.Respects relation)
    (failure : otherwise.Respects relation) :
    (bracket body onSuccess otherwise).Respects relation := by
  refine inside.attempt.bind ?_
  intro ending
  cases ending with
  | done value => exact success.bind fun _ => respects_pure
  | failed error => exact failure.bind fun _ => respects_fail
  | crashed => exact failure.bind fun _ => respects_crash
  | stalled => exact respects_stall

/-! ## Up to a last step -/

/-- Every run respects the relation to its end, or up to a last step of a certain kind. -/
def RespectsUpTo (relation : σ → σ → Prop) (last : Act σ ε α → Prop) (action : Act σ ε α) :
    Prop :=
  ∀ before outcome after, action.Ends before outcome after →
    relation before after ∨
    ∃ final middle, last final ∧ relation before middle ∧ final.Ends middle outcome after

variable {last : Act σ ε β → Prop}

theorem respectsUpTo_last {action : Act σ ε β} (final : last action) :
    action.RespectsUpTo relation last :=
  fun _ _ _ ends => .inr ⟨action, _, final, refl_of relation _, ends⟩

omit [IsPreorder σ relation] in
theorem Respects.upTo {action : Act σ ε β} (respects : action.Respects relation) :
    action.RespectsUpTo relation last :=
  fun _ _ _ ends => .inl (respects.ends ends)

/-- What goes before the last step may yield a value with a certain property. -/
theorem Respects.bind_upTo (fact : α → Prop) {action : Act σ ε α} {next : α → Act σ ε β}
    (first : action.Respects relation) (yields : action.Yields fact)
    (later : ∀ value, fact value → (next value).RespectsUpTo relation last) :
    (action >>= next).RespectsUpTo relation last := by
  intro before outcome after ends
  rcases ends_bind.mp ends with ⟨value, middle, here, there⟩ | ⟨halt, here, _⟩
  · rcases later value (yields _ _ _ here) _ _ _ there with respected |
      ⟨final, reached, kind, respected, ends⟩
    · exact .inl (trans_of relation (first.ends here) respected)
    · exact .inr ⟨final, reached, kind, trans_of relation (first.ends here) respected, ends⟩
  · exact .inl (first.ends here)

theorem Respects.then_upTo {action : Act σ ε α} {next : α → Act σ ε β}
    (first : action.Respects relation)
    (later : ∀ value, (next value).RespectsUpTo relation last) :
    (action >>= next).RespectsUpTo relation last :=
  first.bind_upTo (fun _ => True) (fun _ _ _ _ => trivial) fun value _ => later value

/-- If the last step respects the relation too, the whole does. -/
theorem RespectsUpTo.respects {action : Act σ ε β} (upTo : action.RespectsUpTo relation last)
    (closing : ∀ final, last final → final.Respects relation) : action.Respects relation := by
  apply respects_of_ends
  intro before outcome after ends
  rcases upTo _ _ _ ends with respected | ⟨final, middle, kind, respected, ends⟩
  · exact respected
  · exact trans_of relation respected ((closing final kind).ends ends)

/-! ## Runs that return -/

omit [IsPreorder σ relation] in
theorem Respects.onReturn {action : Act σ ε α} (respects : action.Respects relation) :
    action.RespectsOnReturn relation :=
  fun _ _ _ ends _ => respects.ends ends

/-- A sequence returns only if the part in which it ends does. -/
theorem RespectsOnReturn.bind {action : Act σ ε α} {next : α → Act σ ε β}
    (first : action.RespectsOnReturn relation)
    (later : ∀ value, (next value).RespectsOnReturn relation) :
    (action >>= next).RespectsOnReturn relation := by
  intro before outcome after ends returns
  rcases ends_bind.mp ends with ⟨value, middle, here, there⟩ | ⟨halt, here, halts⟩
  · exact trans_of relation (first _ _ _ here nofun) (later value _ _ _ there returns)
  · refine first _ _ _ here ?_
    rintro rfl
    cases halts
    exact returns rfl

end

end Bootloader.Act
