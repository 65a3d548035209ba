import Bootloader.Proofs.Boot.Segments
import Bootloader.Proofs.Boot.Surviving

/-!
# Places that copies leave alone

A place is guarded if it lies in a reservation, or in a map below the top. A map is filled from its
top on and clear of its reservations, and it lies apart from all other maps; so nothing is copied
to a guarded place, and what is guarded stays so. A line changes a byte there in two cases only: it
loads a kernel of which a segment belongs there, or it saves the page there (`Does.guards`). In a
session a guarded byte is therefore what it was, until there is such a line (`session_guards`).
-/

set_option autoImplicit false

namespace Bootloader.Loader

open Act
open LawfulMemory (Sound)
open SystemPage.Reservation (Covers)

variable {ω μ : Type} {before after : Loader ω μ} {place : Address}

/-- A place in a reservation, or in a map below the top. -/
def Guarded (loader : Loader ω μ) (place : Address) : Prop :=
  Covers loader.page.reservations place ∨
    ∃ map ∈ loader.page.maps, map.start ≤ place ∧ place < map.top

/-- Maps and reservations grow only. -/
theorem Guarded.of_grows (guarded : before.Guarded place)
    (grows : SystemPage.Grows before.page after.page) : after.Guarded place := by
  rcases guarded with ⟨entry, member, inside⟩ | ⟨map, member, low, high⟩
  · exact .inl ⟨entry, grows.reservations.subset member, inside⟩
  · obtain ⟨later, there, continues⟩ := grows.maps map member
    exact .inr ⟨later, there, continues.start ▸ low, Nat.lt_of_lt_of_le high continues.top⟩

variable [PhysicalMemory μ] [LawfulMemory μ]

/-- A map is filled at no guarded place. -/
theorem Steady.prepares_guarded (steady : Steady before) (prepares : Prepares before after)
    (guarded : before.Guarded place) :
    byteAt? after.memory place = byteAt? before.memory place := by
  cases prepares with
  | files | console | device | page => rfl
  | fill map stop data memory pending found fits reached free wrote =>
      have sound : (SystemPage.Copy.mk map.name map.top data).Sound (before.page, before.memory)
          (before.page, memory) :=
        SystemPage.copied_sound steady.consistent found fits reached free wrote
      rw [LawfulMemory.byteAt_write steady.sound wrote place]
      refine if_neg fun holds => ?_
      rcases guarded with ⟨entry, member, inside⟩ | ⟨other, there, low, high⟩
      · exact sound.free entry member place holds inside
      · -- below one top is below every top, but what is written starts at one
        obtain ⟨here, _⟩ := SystemPage.map?_mem found
        obtain ⟨first, last⟩ := holds
        have within : place < map.stop := by
          obtain ⟨_, bound, _, stays⟩ := sound.inside
          obtain rfl := Option.some.inj (found.symm.trans bound)
          exact Nat.lt_of_lt_of_le last stays
        have below := SystemPage.copies_apart steady.consistent there here
          ⟨low, Nat.lt_of_lt_of_le high (steady.consistent.bounded other there).2⟩ high
          ⟨Nat.le_trans (steady.consistent.bounded map here).1 first, within⟩
        exact Nat.not_lt.mpr first below

theorem Steady.grows_of_changes (steady : Steady before)
    (changes : SystemPage.Changes before.page after.page) :
    SystemPage.Grows before.page after.page :=
  (changes.keeps steady.consistent).2

theorem Steady.prepared_guarded (steady : Steady before) (prepared : Prepared before after)
    (guarded : before.Guarded place) :
    byteAt? after.memory place = byteAt? before.memory place := by
  induction prepared with
  | refl => rfl
  | tail earlier last ih =>
      have here := guarded.of_grows (steady.grows_of_changes (Prepared.registered earlier).changes)
      exact ((steady.prepared earlier).1.prepares_guarded last here).trans ih

/-! ## Lines -/

variable [Hardware ω]

/-- The two ways in which a line may write at a place whatever is there: it loads a kernel of
which a segment is to be there, or it saves the page so that its block is there. -/
inductive Overwrites (line : String) (before after : Loader ω μ) (place : Address) : Prop where
  | segment (call : LoadCall) (asked : loadCall? line before = some call)
      (copies : call.Copies before place)
  | block (arguments : List String) (address : Address)
      (called : Command.ofLine? line = some (.go, arguments))
      (saved : SystemPage.SavedAt address (before.page, before.memory) (after.page, after.memory))
      (covers : address.toNat ≤ place.toNat ∧
        place.toNat < address.toNat + after.page.serialize.length)

variable {line : String}

/-- **A line leaves a guarded place alone, or it writes there whatever is there.** -/
theorem Does.guards (does : Does line before after) (steady : Steady before)
    (guarded : before.Guarded place) :
    byteAt? after.memory place = byteAt? before.memory place ∨
      Overwrites line before after place := by
  cases does with
  | prepares _ prepared => exact .inl (steady.prepared_guarded prepared guarded)
  | loads call outcome left console asked ends same silent =>
      by_cases copies : call.Copies before place
      · exact .inr (.segment call asked copies)
      · refine .inl ?_
        rw [same]
        exact (LoadCall.run_writes ends).byteAt_eq steady.sound copies
  | launches arguments outcome left console called ends same silent =>
      have settles : byteAt? left.memory place = byteAt? before.memory place ∨
          Overwrites line before left place := by
        rcases go_saves ends with ⟨_, memory⟩ | ⟨ending, saving⟩
        · exact .inl (by rw [memory])
        · rcases SystemPage.save_settles saving with ⟨_, memory, _⟩ | ⟨address, _, saved⟩
          · exact .inl (congrArg (byteAt? · place) memory)
          · by_cases covers : address.toNat ≤ place.toNat ∧
                place.toNat < address.toNat + left.page.serialize.length
            · exact .inr (.block arguments address called saved covers)
            · refine .inl ?_
              rw [LawfulMemory.byteAt_write steady.sound saved.written place]
              exact if_neg covers
      subst same
      refine settles.imp_right fun overwrites => ?_
      cases overwrites with
      | segment call asked copies => exact .segment call asked copies
      | block arguments address called saved covers =>
          exact .block arguments address called saved covers

omit [LawfulMemory μ] in
/-- Only lines that load a kernel or launch overwrite. -/
theorem Overwrites.called (overwrites : Overwrites line before after place) :
    ∃ command arguments, Command.ofLine? line = some (command, arguments) ∧
      command ∈ [.kernel, .kernelSecure, .go] := by
  cases overwrites with
  | block arguments address called => exact ⟨.go, arguments, called, by simp⟩
  | segment call asked =>
      unfold loadCall? at asked
      split at asked
      case h_1 arguments called => exact ⟨.kernel, arguments, called, by simp⟩
      case h_2 arguments called => exact ⟨.kernelSecure, arguments, called, by simp⟩
      case h_3 => cases asked

/-! ## Sessions -/

omit [LawfulMemory μ] in
/-- What every line keeps of a loader holds in every turn of a session. -/
theorem session_invariant (holds : Loader ω μ → Prop)
    (keeps : ∀ turn : Turn ω μ, Does turn.line turn.before turn.after → holds turn.before →
      holds turn.after)
    {loader : Loader ω μ} (start : holds loader) {lines : List String}
    {earlier later : List (Turn ω μ)} {turn : Turn ω μ}
    (taken : session lines loader = earlier ++ turn :: later) :
    Does turn.line turn.before turn.after ∧ holds turn.before :=
  @session_keeps ω μ _ _ [] loader (fun _ => holds) (fun _ => keeps) start lines earlier later turn
    taken

/-- What becomes of a byte in turns of which one is the last: it is what it was, unless it was
overwritten; and if the last turn calls for something other than a kernel or a launch, it is what
it was before that turn. -/
structure Outlasts (place : Address) (byte : Option UInt8) (turns : List (Turn ω μ))
    (last : Turn ω μ) : Prop where
  kept : byteAt? last.after.memory place = byte ∨
    ∃ turn ∈ turns ++ [last], Overwrites turn.line turn.before turn.after place
  spared : ∀ command arguments, Command.ofLine? last.line = some (command, arguments) →
    command ∉ [.kernel, .kernelSecure, .go] →
    byteAt? last.after.memory place = byteAt? last.before.memory place

/-- A guarded place after some turns: it has a certain byte, unless one of them overwrote it. -/
structure Watches (place : Address) (byte : Option UInt8) (turns : List (Turn ω μ))
    (loader : Loader ω μ) : Prop where
  steady : Steady loader
  guarded : loader.Guarded place
  kept : byteAt? loader.memory place = byte ∨
    ∃ turn ∈ turns, Overwrites turn.line turn.before turn.after place

variable {byte : Option UInt8} {turns : List (Turn ω μ)} {turn : Turn ω μ}

theorem Watches.outlasts (watches : Watches place byte turns turn.before)
    (does : Does turn.line turn.before turn.after) : Outlasts place byte turns turn := by
  have guards := does.guards watches.steady watches.guarded
  constructor
  · rcases watches.kept with kept | ⟨other, member, overwrites⟩
    · rcases guards with same | overwrites
      · exact .inl (same.trans kept)
      · exact .inr ⟨turn, List.mem_append_right _ List.mem_cons_self, overwrites⟩
    · exact .inr ⟨other, List.mem_append_left _ member, overwrites⟩
  · intro command arguments called ordinary
    refine guards.resolve_right fun overwrites => ?_
    obtain ⟨_, _, called', either⟩ := overwrites.called
    cases called.symm.trans called'
    exact ordinary either

theorem Watches.next (watches : Watches place byte turns turn.before)
    (does : Does turn.line turn.before turn.after) :
    Watches place byte (turns ++ [turn]) turn.after where
  steady := does.steady watches.steady
  guarded := watches.guarded.of_grows (watches.steady.grows_of_changes does.changes)
  kept := (watches.outlasts does).kept

/-- **A guarded byte stays what it is until a line overwrites it.** -/
theorem session_guards {loader : Loader ω μ} (steady : Steady loader)
    (guarded : loader.Guarded place) {lines : List String} {earlier later : List (Turn ω μ)}
    (taken : session lines loader = earlier ++ turn :: later) :
    Outlasts place (byteAt? loader.memory place) earlier turn := by
  have start : Watches place (byteAt? loader.memory place) [] loader :=
    ⟨steady, guarded, .inl rfl⟩
  obtain ⟨does, watches⟩ := session_keeps (Watches place (byteAt? loader.memory place))
    (fun _ _ does watches => watches.next does) start taken
  exact watches.outlasts does

omit [LawfulMemory μ] in
/-- A turn of a session ends like its line, and what follows is a session from there. -/
theorem session_split {loader : Loader ω μ} {lines : List String} {earlier later : List (Turn ω μ)}
    (taken : session lines loader = earlier ++ turn :: later) :
    (execute turn.line : BootAct ω μ Exit).Ends turn.before turn.outcome turn.after ∧
      ∃ rest, later = session rest turn.after := by
  induction lines generalizing loader earlier with
  | nil => cases earlier <;> cases taken
  | cons line rest ih =>
      cases earlier with
      | nil =>
          obtain ⟨rfl, same⟩ := List.cons.inj taken
          exact ⟨ends_run _ _, rest, same.symm⟩
      | cons head others => exact ih (List.cons.inj taken).2

end Bootloader.Loader
