import Bootloader.Proofs.Address
import Bootloader.Proofs.Files.Handles
import Bootloader.Proofs.Files.Windows

/-!
# What storage shows in place

Storage in memory is asked at which address a range of it can be used in place. It refuses a mode
that the region or the memory map does not allow, and otherwise shows the range, or does not
(`RamRegion.map_answers`); it shows it exactly if the range lies in the region, and its address
does not overflow and lies in the map with the whole range behind it (`RamRegion.map_eq_mappable`).
A window passes a question on with its own start added, unless it is too small for the range. So
what is shown through a handle on a window is told by window and region together
(`Files.map_window`).

No device is asked to open a window (`Files.openFile_devices`), and nothing but a window is both
measured and shown (`Files.shown_window`).
-/

set_option autoImplicit false

namespace Bootloader

open Act

/-- Every bit of a set is one of another set. -/
def Attributes.Within (attributes other : Attributes) : Prop :=
  ∀ bit, attributes.bits.toNat.testBit bit = true → other.bits.toNat.testBit bit = true

theorem Attributes.isSubset_iff {attributes other : Attributes} :
    attributes.isSubset other = true ↔ attributes.Within other := by
  rw [isSubset, beq_iff_eq, ← UInt32.toBitVec_inj, UInt32.toBitVec_and, UInt32.toBitVec_not,
    UInt32.toBitVec_zero]
  constructor
  · intro empty bit here
    have small : bit < 32 := BitVec.lt_of_getLsbD (x := attributes.bits.toBitVec) here
    have set : attributes.bits.toBitVec.getLsbD bit = true := here
    have left := congrArg (BitVec.getLsbD · bit) empty
    show other.bits.toBitVec.getLsbD bit = true
    simpa [set, small] using left
  · intro within
    refine BitVec.eq_of_getLsbD_eq fun bit small => ?_
    have passes : attributes.bits.toBitVec.getLsbD bit = true →
        other.bits.toBitVec.getLsbD bit = true := within bit
    cases here : attributes.bits.toBitVec.getLsbD bit with
    | true => simp [passes here]
    | false => simp [here]

namespace RamRegion

variable {region : RamRegion} {request : MapRequest}

/-- A question about a range has three answers. -/
theorem map_answers (region : RamRegion) (request : MapRequest) :
    region.map request = .error .incompatibleMode ∨ region.map request = .ok .notMappable ∨
      ∃ address, region.map request = .ok (.mappable address) := by
  unfold map
  split
  · exact .inl rfl
  · split
    · exact .inr (.inl rfl)
    · dsimp only
      split
      · exact .inr (.inr ⟨_, rfl⟩)
      · exact .inr (.inl rfl)

/-- **A range is shown exactly if it is allowed, lies in the region, and lies in the map.** -/
theorem map_eq_mappable {address : Address} :
    region.map request = .ok (.mappable address) ↔
      request.mode.Within region.attributes ∧ request.mode.Within request.mapAttributes ∧
        request.offset + request.size ≤ region.bytes.length ∧
        address.toNat = region.base.toNat + request.offset ∧ request.mapStart ≤ address ∧
        address.toNat - request.mapStart.toNat + request.size ≤ request.mapSize := by
  rw [← Attributes.isSubset_iff, ← Attributes.isSubset_iff]
  unfold map
  by_cases refused : (!request.mode.isSubset region.attributes ||
      !request.mode.isSubset request.mapAttributes) = true
  · rw [if_pos refused]
    refine ⟨nofun, fun ⟨device, map, _⟩ => ?_⟩
    rw [device, map] at refused
    cases refused
  rw [if_neg refused]
  obtain ⟨device, map⟩ : request.mode.isSubset region.attributes = true ∧
      request.mode.isSubset request.mapAttributes = true := by
    simpa using refused
  have reached : region.base.advance? request.offset = some address ↔
      address.toNat = region.base.toNat + request.offset := Address.advance?_eq_some_iff
  cases advanced : region.base.advance? request.offset with
  | none =>
      refine ⟨nofun, fun ⟨_, _, _, place, _⟩ => ?_⟩
      cases advanced.symm.trans (reached.mpr place)
  | some place =>
      rw [advanced, Option.some_inj] at reached
      dsimp only
      by_cases inside : request.offset + request.size ≤ region.bytes.length ∧
          request.mapStart ≤ place ∧
          place.toNat - request.mapStart.toNat + request.size ≤ request.mapSize
      · rw [if_pos inside]
        constructor
        · rintro ⟨⟩
          exact ⟨device, map, inside.1, reached.mp rfl, inside.2⟩
        · rintro ⟨_, _, _, same, _⟩
          rw [reached.mpr same]
      · rw [if_neg inside]
        refine ⟨nofun, fun ⟨_, _, bytes, same, range⟩ => ?_⟩
        obtain rfl := reached.mpr same
        exact absurd ⟨bytes, range⟩ inside

end RamRegion

/-- A change of values that tells values apart tells endings apart. -/
theorem Outcome.map_injective {ε α β : Type} {change : α → β}
    (apart : Function.Injective change) :
    Function.Injective (Outcome.map change : Outcome ε α → Outcome ε β) := by
  intro first second same
  cases first with
  | done value =>
      cases second with
      | done other => exact congrArg Outcome.done (apart (Outcome.done.inj same))
      | failed | crashed | stalled => cases same
  | failed error =>
      cases second with
      | failed other => exact congrArg Outcome.failed (Outcome.failed.inj same)
      | done | crashed | stalled => cases same
  | crashed => cases second <;> first | rfl | cases same
  | stalled => cases second <;> first | rfl | cases same

namespace Files

variable {ω : Type} [Hardware ω] {files before after : Files ω} {handle : Handle}
  {device : DeviceId} {window : FileWindow}

/-- **What a window of storage answers to the question where it is shown.** -/
theorem map_window {host : RamHost ω device.major} {region : RamRegion}
    (opened : files.openOn? handle = some (device, window))
    (up : files.devices.isUp device = true)
    (here : host.region? device.minor files.devices.world = some region) (request : MapRequest) :
    ∃ after, host.region? device.minor after.devices.world = some region ∧
      (map handle request).Ends files
        (if request.size ≤ window.size - request.offset then
          Outcome.ofExcept (region.map { request with
            offset := window.start + min request.offset window.size })
        else .done .notMappable) after := by
  have ends := ends_run ((Access.map request).request handle).perform files
  obtain ⟨ending, asked, answered⟩ := ends_bind_pure.mp ends
  obtain ⟨world, there, same⟩ := perform_access opened up ends
  obtain ⟨answer, kept⟩ := act_region here there
  rw [same] at asked
  refine ⟨files.withWorld world, kept, ?_⟩
  have mapping : ending.map Answer.mapping = (if request.size ≤ window.size - request.offset then
      Outcome.ofExcept (region.map { request with
        offset := window.start + min request.offset window.size })
      else .done .notMappable : Outcome FileError Mapping).map Answer.mapping := by
    rw [answered, answer, Access.answer, apply_ite (Outcome.map Answer.mapping)]
    rfl
  rwa [Outcome.map_injective (fun _ _ => Answer.mapping.inj) mapping] at asked

/-! ## Windows that are shown -/

omit [Hardware ω] in
/-- What is put into a slot is what the handle stands for. -/
theorem allocate_done {file : OpenFile}
    (ends : (allocate file).Ends before (.done handle) after) :
    after.resolve? handle = some file ∧ after.devices = before.devices := by
  rw [allocate, ends_read_bind] at ends
  rcases ends_ofOption_bind.mp ends with ⟨index, free, ends⟩ | ⟨_, failed, _⟩
  · rcases ends_ofOption_bind.mp ends with ⟨slot, found, done, rfl⟩ | ⟨_, failed, _⟩
    · cases done
      exact ⟨(resolve?_opened rfl free found).trans (if_pos rfl), rfl⟩
    · cases failed
  · cases failed

/-- No device is asked to open a window. -/
theorem openTarget_raw {entry : DeviceAlias} {name : Option String} {flags : Nat}
    {target : Option FileWindow}
    (ends : (openTarget entry name flags).Ends before (.done (.raw target)) after) :
    after = before := by
  rw [openTarget, ends_read_bind] at ends
  split at ends
  case h_1 => exact ends.2.symm
  case h_2 file _ =>
    rcases ends_ofOption_bind.mp ends with ⟨_, _, _, same⟩ | ⟨_, failed, _⟩
    · exact same.symm
    · cases failed
  case h_3 => cases ends.1
  case h_4 file _ =>
    obtain ⟨_, _, _, done, _⟩ := ends_bind_done.mp ends
    cases done

omit [Hardware ω] in
theorem openOn?_of_resolve? {entry : DeviceAlias} {target : OpenTarget}
    (found : files.resolve? handle = some ⟨entry, target⟩)
    (opened : files.openOn? handle = some (device, window)) : target = .raw (some window) := by
  obtain ⟨other, same, _⟩ := openOn?_eq_some.mp opened
  rw [found] at same
  exact congrArg OpenFile.target (Option.some.inj same)

/-- The devices are left alone when a window is opened, by its name or on the spot. -/
theorem openFile_devices {aliasName : String} {name : Option String} {flags : Nat}
    (ends : (openFile aliasName name flags).Ends before (.done handle) after)
    (opened : after.openOn? handle = some (device, window)) : after.devices = before.devices := by
  rw [openFile, ends_read_bind] at ends
  obtain ⟨entry, _, here, ends⟩ := ends_bind_done.mp ends
  obtain ⟨_, rfl⟩ := ends_ofExcept_done.mp here
  rcases ends_require_bind.mp ends with ⟨_, ends⟩ | ⟨_, failed, _⟩
  · obtain ⟨target, middle, here, ends⟩ := ends_bind_done.mp ends
    obtain ⟨found, kept⟩ := allocate_done (ends_note_bind.mp ends)
    rw [openOn?_of_resolve? found opened] at here
    rw [kept, openTarget_raw here]
  · cases failed

omit [Hardware ω] in
theorem openWindow_devices {aliasName : String} {range : FileWindow}
    (ends : (openWindow aliasName range).Ends before (.done handle) after) :
    after.devices = before.devices := by
  rw [openWindow, ends_read_bind] at ends
  obtain ⟨entry, _, here, ends⟩ := ends_bind_done.mp ends
  obtain ⟨_, rfl⟩ := ends_ofExcept_done.mp here
  rcases ends_require_bind.mp ends with ⟨_, ends⟩ | ⟨_, failed, _⟩
  · rcases ends_require_bind.mp ends with ⟨_, ends⟩ | ⟨_, failed, _⟩
    · exact (allocate_done ends).2
    · cases failed
  · cases failed

/-- Only a raw device that is in use shows anything. -/
theorem map_shown {request : MapRequest} {address : Address}
    (shown : (map handle request).Ends before (.done (.mappable address)) after) :
    ∃ entry target, before.resolve? handle = some ⟨entry, .raw target⟩ ∧
      before.devices.isUp entry.device = true := by
  obtain ⟨⟨entry, target⟩, _, here, shown⟩ := ends_bind_done.mp shown
  obtain ⟨found, rfl⟩ := resolve_ends here
  cases target with
  | raw target =>
      dsimp only at shown
      split at shown
      case isTrue => cases shown.1
      case isFalse =>
        rcases withDevice_cases shown with ⟨_, failed, _⟩ | ⟨up, _⟩
        · cases failed
        · exact ⟨entry, target, found, up⟩
  | remote descriptor => cases shown.1

/-- What has a size and is shown is a window of a device that is in use. -/
theorem shown_window {middle : Files ω} {request : MapRequest} {size : Nat} {address : Address}
    (sized : (stat handle).Ends before (.done size) middle)
    (shown : (map handle request).Ends middle (.done (.mappable address)) after) :
    middle = before ∧ ∃ device window, before.openOn? handle = some (device, window) ∧
      window.size = size ∧ before.devices.isUp device = true := by
  have slots := (respects_stat.ends sized).slots
  obtain ⟨entry, target, found, up⟩ := map_shown shown
  rw [resolve?_congr slots] at found
  have sized := (ends_resolve_bind found).mp sized
  cases target with
  | none => cases sized.1
  | some window =>
      obtain ⟨done, rfl⟩ := sized
      cases done
      exact ⟨rfl, entry.device, window, openOn?_eq_some.mpr ⟨entry, found, rfl⟩, rfl, up⟩

end Files

end Bootloader
