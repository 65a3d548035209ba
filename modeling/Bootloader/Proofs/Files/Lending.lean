import Bootloader.Proofs.Files.Handles

/-!
# Handles that are lent

A handle that was opened, used and given back leaves the slots as they were to everyone else:
each holds what it held, and every handle stands for what it stood for (`SameOpen`). Its slot is
of a later generation, and this is all that is left of it (`sameOpen_of_lent`). Closing counts as
giving back also where it fails, since the slot is freed before the device is asked.
-/

set_option autoImplicit false

namespace Bootloader.Files

open Act

variable {ω : Type}

/-- What is open is what was open, in the same slots and under the same handles. -/
structure SameOpen (before after : Files ω) : Prop where
  contents : after.slots.map Slot.file = before.slots.map Slot.file
  handles : ∀ handle, after.resolve? handle = before.resolve? handle

instance : IsPreorder (Files ω) SameOpen where
  refl _ := ⟨rfl, fun _ => rfl⟩
  trans _ _ _ earlier later :=
    ⟨later.contents.trans earlier.contents,
      fun handle => (later.handles handle).trans (earlier.handles handle)⟩

section

variable {before after : Files ω}

theorem SameOpen.openCount (same : SameOpen before after) :
    after.openCount = before.openCount := by
  have counted : ∀ files : Files ω, files.openCount =
      (files.slots.map Slot.file).countP Option.isSome := by
    intro files
    rw [Files.openCount, ← List.countP_eq_length_filter, List.countP_map]
    rfl
  rw [counted, counted, same.contents]

theorem SameOpen.freeSlot? (same : SameOpen before after) :
    after.freeSlot? = before.freeSlot? := by
  have found : ∀ files : Files ω, files.freeSlot? =
      (files.slots.map Slot.file).findIdx? Option.isNone := by
    intro files
    rw [Files.freeSlot?, List.findIdx?_map]
    rfl
  rw [found, found, same.contents]

theorem sameOpen_of_slots (same : after.slots = before.slots) : SameOpen before after where
  contents := congrArg _ same
  handles := resolve?_congr same

variable [Hardware ω]

theorem Uses.sameOpen (uses : Uses before after) : SameOpen before after :=
  sameOpen_of_slots uses.slots

/-- What is open is what was open, and the calls that were made use instances in use. -/
structure Orderly (before after : Files ω) : Prop where
  talks : Talks before after
  sameOpen : SameOpen before after

instance : IsPreorder (Files ω) Orderly where
  refl _ := ⟨refl_of Talks _, refl_of SameOpen _⟩
  trans _ _ _ earlier later :=
    ⟨trans_of Talks earlier.talks later.talks, trans_of SameOpen earlier.sameOpen later.sameOpen⟩

/-- Registering an alias opens nothing and asks no device. -/
theorem respects_registerDevice {aliasName : String} {device : DeviceId} {protocol : Protocol} :
    (registerDevice aliasName device protocol : FileAct ω Unit).Respects Orderly := by
  refine respects_of_ends fun ends => ?_
  rcases registerDevice_ends ends with rfl | ⟨_, _, rfl⟩
  · exact refl_of Orderly _
  · exact ⟨⟨rfl, refl_of (Chats _) _⟩, sameOpen_of_slots rfl⟩

theorem respects_registerFile {aliasName : String} {window : FileWindow} :
    (registerFile aliasName window : FileAct ω Unit).Respects Orderly := by
  refine respects_of_ends fun ends => ?_
  rcases registerFile_ends ends with rfl | ⟨_, _, rfl⟩
  · exact refl_of Orderly _
  · exact ⟨⟨rfl, refl_of (Chats _) _⟩, sameOpen_of_slots rfl⟩

/-! ## Opening and giving back -/

theorem Opening.talks {opens : OpenFile → Prop} {outcome : Outcome FileError Handle}
    (opening : Opening opens before outcome after) : Talks before after := by
  cases opening with
  | refused uses => exact uses.talks
  | granted uses => exact ⟨uses.backends, uses.chats⟩

theorem respects_close {handle : Handle} :
    (close handle : FileAct ω Unit).Respects Talks := by
  refine respects_of_ends fun ends => ?_
  rcases close_ends ends with ⟨_, _, rfl⟩ | ⟨_, _, uses⟩
  · exact refl_of Talks _
  · exact ⟨uses.backends, uses.chats⟩

/-- To abandon a handle is to close it, whatever comes of that. -/
theorem abandon_ends {handle : Handle} {outcome : Outcome FileError Unit}
    (ends : (abandon handle).Ends before outcome after) :
    ∃ ending, (close handle).Ends before ending after := by
  obtain ⟨ending, middle, closing, ends⟩ := ends_attempt_bind.mp ends
  refine ⟨ending, ?_⟩
  cases ending with
  | done value | failed error | crashed | stalled => exact ends.2 ▸ closing

section

variable {opened used : Files ω} {file : OpenFile} {index : Nat} {slot : Slot}
  (opening : Uses before opened) (free : before.freeSlot? = some index)
  (found : before.slots[index]? = some slot)
  (usage : Uses (opened.setSlot index ⟨slot.generation, some file⟩) used)

include opening free found usage

/-- While a handle is lent, one more handle stands for a file. -/
theorem resolve?_lent (handle : Handle) :
    used.resolve? handle =
      if handle = ⟨index, slot.generation⟩ then some file else before.resolve? handle := by
  rw [resolve?_congr usage.slots, resolve?_opened opening.slots free found]

/-- What was opened in a free slot, used and given back is not open any more, and nothing else
is different. -/
theorem sameOpen_of_freed (closing : Uses (used.free ⟨index, slot.generation⟩) after) :
    SameOpen before after := by
  have empty := freeSlot?_eq_some free found
  have lent := resolve?_lent opening free found usage
  refine ⟨?_, fun handle => ?_⟩
  · rw [closing.slots, Files.free, usage.slots, setSlot, opening.slots]
    apply List.ext_getElem?
    intro place
    rw [List.getElem?_map, List.getElem?_modify, List.getElem?_set, List.getElem?_map]
    dsimp only
    by_cases here : index = place
    · subst here
      have bound := (List.getElem?_eq_some_iff.mp found).1
      simp only [if_pos bound, found, reduceIte]
      exact congrArg some empty.symm
    · simp only [if_neg here, id_map']
  · rw [closing.sameOpen.handles, resolve?_free ((lent _).trans (if_pos rfl)), lent]
    split
    case isTrue same => rw [same, resolve?_free_slot free found]
    case isFalse => rfl

end

/-- **What was opened, used and given back leaves what is open as it was.** -/
theorem sameOpen_of_lent {opens : OpenFile → Prop} {opened used : Files ω} {handle : Handle}
    {ending : Outcome FileError Unit} (opening : Opening opens before (.done handle) opened)
    (usage : Uses opened used) (closing : (close handle).Ends used ending after) :
    SameOpen before after := by
  cases opening with
  | refused _ halted => exact absurd rfl (halted handle)
  | granted uses _ free found =>
      rcases close_ends closing with ⟨stale, _⟩ | ⟨_, _, freed⟩
      · rw [resolve?_lent uses free found usage, if_pos rfl] at stale
        cases stale
      · exact sameOpen_of_freed uses free found usage freed

end

end Bootloader.Files
