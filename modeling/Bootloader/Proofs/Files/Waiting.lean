import Bootloader.Proofs.Act.Losses
import Bootloader.Proofs.Files.Handles
import Bootloader.Proofs.Files.Harmless

/-!
# Files that keep no one waiting

No request to the files crashes that a load of an image makes. One that waits without end waits
for a message of a host: a raw device answers every request at once. So a file of a raw device is
opened, read and closed without a loss of any kind, and a file of a host without a crash
(`openFile_avoids`, `readExact_avoids`, `close_avoids`).
-/

set_option autoImplicit false

namespace Bootloader

open Act

variable {ω : Type}

/-- Every request to a device is answered. -/
theorem ask_returns {α : Type} {request : ω → Reply ω α} : (ask request).Returns := by
  rintro before outcome after ⟨rfl, _⟩
  show (Outcome.ofExcept (request before).result).loss? = none
  cases (request before).result <;> rfl

variable [Hardware ω]

namespace Link

variable {device : DeviceId} {patience : Nat}

theorem openFile_harmless {name : Bytes} {flags : Nat} :
    (openFile device patience name flags : DeviceAct ω Nat).Harmless :=
  transact_harmless.bind fun _ => count_harmless

theorem closeFile_harmless {descriptor : Nat} :
    (closeFile device patience descriptor : DeviceAct ω Unit).Harmless :=
  transact_harmless.bind fun _ => count_harmless.bind fun _ => safe_pure

end Link

namespace Files

variable {loss : Loss} {handle : Handle} {before after : Files ω}

/-- A handle does not stand for a file of a host, as far as that matters for a loss. -/
def Prompt (loss : Loss) (handle : Handle) (files : Files ω) : Prop :=
  loss = .stall → ∃ file window, files.resolve? handle = some file ∧ file.target = .raw window

omit [Hardware ω] in
theorem Prompt.of_slots (prompt : Prompt loss handle before) (same : after.slots = before.slots) :
    Prompt loss handle after := by
  intro stall
  obtain ⟨file, window, found, raw⟩ := prompt stall
  exact ⟨file, window, (resolve?_congr same handle).trans found, raw⟩

omit [Hardware ω] in
/-- What an instance avoids, a request to it avoids. -/
theorem withDevice_avoids {α : Type} {device : DeviceId} {request : Nat → DeviceAct ω α}
    (avoids : ∀ patience, (request patience).Avoids loss fun _ => True) :
    (withDevice device request : FileAct ω α).Avoids loss fun _ => True := by
  intro before outcome after _ ends
  rcases withDevice_cases ends with ⟨_, rfl, _⟩ | ⟨_, world, answered, _⟩
  · exact ⟨nofun, trivial⟩
  · exact ⟨(avoids _ _ _ _ trivial answered).1, trivial⟩

/-! ## Reading -/

theorem read_avoids {offset length : Nat} :
    (read handle offset length : FileAct ω Bytes).Avoids loss (Prompt loss handle) := by
  intro before outcome after prompt ends
  have kept := prompt.of_slots (respects_readBytes.ends ends).slots
  cases loss with
  | crash => exact ⟨(safe_iff_avoids.mp read_harmless _ _ _ trivial ends).1, kept⟩
  | stall =>
      obtain ⟨file, window, found, raw⟩ := prompt rfl
      have answered := (ends_resolve_bind found).mp ends
      refine ⟨(withDevice_avoids (fun patience => ?_) _ _ _ trivial answered).1, kept⟩
      rw [raw]
      dsimp only
      split
      · exact avoids_pure
      · exact ask_returns.avoids.bind fun _ => avoids_pure

theorem readExact_avoids {offset length : Nat} :
    (readExact handle offset length : FileAct ω Bytes).Avoids loss (Prompt loss handle) := by
  induction length using Nat.strongRecOn generalizing offset with
  | ind length ih =>
      rw [readExact]
      split
      case isTrue => exact avoids_pure
      case isFalse more =>
        refine read_avoids.bind fun bytes => ?_
        split
        case isTrue => exact avoids_fail
        case isFalse some => exact (ih _ (by omega)).bind fun _ => avoids_pure

/-! ## Opening -/

theorem openTarget_avoids {entry : DeviceAlias} {name : Option String} {flags : Nat}
    (raw : loss = .stall → entry.protocol = .raw) :
    (openTarget entry name flags : FileAct ω OpenTarget).Avoids loss fun _ => True := by
  refine avoids_read.bind fun files => ?_
  split
  case h_1 => exact avoids_pure
  case h_2 => exact avoids_ofOption.bind fun _ => avoids_pure
  case h_3 => exact avoids_fail
  case h_4 file framed =>
    have crash : loss = .crash := by
      cases loss with
      | crash => rfl
      | stall => cases framed.symm.trans (raw rfl)
    rw [crash]
    exact (withDevice_avoids fun _ => safe_iff_avoids.mp Link.openFile_harmless).bind fun _ =>
      avoids_pure

omit [Hardware ω] in
theorem findAlias_of_alias? {aliasName : String} {entry : DeviceAlias}
    (found : before.alias? aliasName = some entry) : before.findAlias aliasName = .ok entry := by
  rw [findAlias, found]

/-- Opening a file does not crash, and what is opened on a raw device is raw. -/
theorem openFile_avoids {aliasName : String} {name : Option String} {flags : Nat}
    {outcome : Outcome FileError Handle}
    (raw : loss = .stall → ∀ entry, before.findAlias aliasName = .ok entry → entry.protocol = .raw)
    (ends : (openFile aliasName name flags).Ends before outcome after) :
    outcome.loss? ≠ some loss ∧ ∀ handle, outcome = .done handle → Prompt loss handle after := by
  constructor
  · rw [openFile, ends_read_bind] at ends
    rcases ends_ofExcept_bind.mp ends with ⟨entry, found, ends⟩ | ⟨_, _, rfl, _⟩
    · have settled : (require before.freeSlot?.isSome .handlesExhausted >>= fun _ =>
          openTarget entry name flags >>= fun target =>
            report .debug ("phfs: open " ++ aliasName ++ ":" ++ name.getD "<raw>") >>= fun _ =>
              allocate ⟨entry, target⟩ : FileAct ω Handle).Avoids loss fun _ => True := by
        refine avoids_require.bind fun _ => ?_
        refine (openTarget_avoids fun stall => raw stall entry found).bind fun target => ?_
        refine avoids_note.bind fun _ => ?_
        refine avoids_read.bind fun files => avoids_ofOption.bind fun index => ?_
        refine avoids_ofOption.bind fun slot => ?_
        exact (avoids_put trivial).bind fun _ => avoids_pure
      exact (settled _ _ _ trivial ends).1
    · simp
  · rintro handle rfl stall
    cases openFile_ends ends with
    | refused uses halted => exact absurd rfl (halted handle)
    | @granted middle file index slot uses opened free found =>
        have held : (middle.setSlot index ⟨slot.generation, some file⟩).resolve?
            ⟨index, slot.generation⟩ = some file :=
          (resolve?_opened uses.slots free found).trans (if_pos rfl)
        have target : ∃ window, file.target = .raw window := by
          cases opened with
          | whole => exact ⟨_, rfl⟩
          | named => exact ⟨_, rfl⟩
          | remote found framed _ =>
              have spoken := raw stall _ (findAlias_of_alias? found)
              cases framed.symm.trans spoken
        obtain ⟨window, direct⟩ := target
        exact ⟨file, window, held, direct⟩

/-! ## Closing -/

theorem finish_avoids {file : OpenFile} {patience : Nat}
    (raw : loss = .stall → ∃ window, file.target = .raw window) :
    (finish file patience : DeviceAct ω Unit).Avoids loss fun _ => True := by
  intro before outcome after _ ends
  refine ⟨?_, trivial⟩
  obtain ⟨closed, middle, tried, ends⟩ := ends_attempt_bind.mp ends
  have apart : closed.loss? ≠ some loss := by
    split at tried
    case h_1 descriptor remote =>
      cases loss with
      | crash => exact (safe_iff_avoids.mp Link.closeFile_harmless _ _ _ trivial tried).1
      | stall =>
          obtain ⟨window, direct⟩ := raw rfl
          cases remote.symm.trans direct
    case h_2 => simp [← tried.1]
  split at ends
  case h_1 => exact ends.1 ▸ apart
  case h_2 => exact ends.1 ▸ apart
  case h_3 =>
    obtain ⟨synced, left, flushed, ends⟩ := ends_attempt_bind.mp ends
    have prompt : synced.loss? ≠ some loss := by
      simp [ask_returns _ _ _ flushed]
    have settles : (if closed.isDone = true then conclude synced
        else conclude closed : DeviceAct ω Unit).Avoids loss fun _ => True := by
      split
      · exact avoids_conclude prompt
      · exact avoids_conclude apart
    dsimp only at ends
    split at ends
    · exact ((avoids_note.bind fun _ => settles) _ _ _ trivial ends).1
    · exact (settles _ _ _ trivial ends).1

/-- Closing a file does not crash, and a raw one is closed at once. -/
theorem close_avoids {outcome : Outcome FileError Unit} (prompt : Prompt loss handle before)
    (ends : (close handle).Ends before outcome after) : outcome.loss? ≠ some loss := by
  rw [close, resolve, bind_assoc, ends_read_bind] at ends
  rcases ends_ofOption_bind.mp ends with ⟨file, found, ends⟩ | ⟨_, rfl, _⟩
  · have raw : loss = .stall → ∃ window, file.target = .raw window := by
      intro stall
      obtain ⟨other, window, resolved, raw⟩ := prompt stall
      cases found.symm.trans resolved
      exact ⟨window, raw⟩
    exact (withDevice_avoids (fun _ => finish_avoids raw) _ _ _ trivial
      (ends_update_bind.mp ends)).1
  · simp

theorem abandon_avoids {outcome : Outcome FileError Unit} (prompt : Prompt loss handle before)
    (ends : (abandon handle).Ends before outcome after) : outcome.loss? ≠ some loss := by
  obtain ⟨ending, middle, closing, ends⟩ := ends_attempt_bind.mp ends
  have apart := close_avoids prompt closing
  cases ending with
  | done | failed => exact ends.1 ▸ nofun
  | crashed | stalled => exact ends.1 ▸ apart

end Files

end Bootloader
