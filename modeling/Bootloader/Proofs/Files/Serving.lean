import Bootloader.Files.Access
import Bootloader.Proofs.Act.Ends

/-!
# What a device serves of a file

Nothing is assumed of devices: the same range may read differently each time. So what is
read of a file is the answers to the reads that were made, one after the other and each at
the offset where the one before it ended (`Serves`). No answer is longer than what was asked
for, and an exact read takes its bytes from such answers (`readExact_ends`).

What is to be expected of a device is said of all reads from some moment on (`Always`), since
a read may change the device: that they are parts of one file (`Steady`), or that those in a
range bring some bytes (`Readable`).
-/

set_option autoImplicit false

namespace Bootloader

open Act

variable {ω : Type} [Hardware ω]

namespace Link

variable {device : DeviceId} {patience descriptor : Nat}

/-- One transfer brings no more than was asked for. -/
theorem readFile_length {position length : Nat} {before after : ω} {bytes : Bytes}
    (ends : (readFile device patience descriptor position length).Ends before (.done bytes)
      after) : bytes.length ≤ length := by
  obtain ⟨request, _, _, ends⟩ := ends_bind_done.mp ends
  obtain ⟨answer, _, _, ends⟩ := ends_bind_done.mp ends
  obtain ⟨given, _, _, ends⟩ := ends_bind_done.mp ends
  rcases ends_require_bind.mp ends with ⟨checked, done, _⟩ | ⟨_, failed, _⟩
  · cases done
    simp only [Bool.and_eq_true, decide_eq_true_eq] at checked
    rw [List.length_drop]
    omega
  · cases failed

/-- Several transfers bring no more than was asked for. -/
theorem readAll_length {position length : Nat} {before after : ω} {bytes : Bytes}
    (ends : (readAll device patience descriptor position length).Ends before (.done bytes)
      after) : bytes.length ≤ length := by
  induction length using Nat.strongRecOn generalizing position before after bytes with
  | ind length ih =>
      rw [readAll] at ends
      split at ends
      · obtain ⟨done, _⟩ := ends
        cases done
        exact Nat.zero_le _
      · obtain ⟨first, middle, here, ends⟩ := ends_bind_done.mp ends
        have short := readFile_length here
        split at ends
        · obtain ⟨done, _⟩ := ends
          cases done
          exact Nat.zero_le _
        · obtain ⟨others, _, there, done, _⟩ := ends_bind_done.mp ends
          cases done
          have rest := ih (length - first.length) (by omega) there
          rw [List.length_append]
          omega

end Link

namespace Files

variable {handle : Handle} {offset length : Nat} {before middle after : Files ω} {bytes : Bytes}

omit [Hardware ω] in
/-- What an instance that is in use answers comes from the world. -/
theorem withDevice_ends {α : Type} {device : DeviceId} {request : Nat → DeviceAct ω α}
    {value : α} (ends : (withDevice device request).Ends before (.done value) after) :
    (request before.patience).Ends before.devices.world (.done value) after.devices.world := by
  rw [withDevice, ends_read_bind, inDevices, ends_zoom] at ends
  obtain ⟨_, inside, rfl⟩ := ends
  rw [Devices.withDevice, ends_read_bind, ends_require_bind] at inside
  rcases inside with ⟨_, inside⟩ | ⟨_, failed, _⟩
  · rw [Devices.inWorld, ends_zoom] at inside
    obtain ⟨left, answered, rfl⟩ := inside
    exact answered
  · cases failed

omit [Hardware ω] in
/-- A handle that is taken up is that of an open file. -/
theorem resolve_ends {file : OpenFile}
    (ends : (resolve handle).Ends before (.done file) after) :
    before.resolve? handle = some file ∧ before = after := by
  rw [resolve, ends_read_bind] at ends
  cases found : before.resolve? handle with
  | some other =>
      rw [found] at ends
      obtain ⟨done, same⟩ := ends
      exact ⟨congrArg some (Outcome.done.inj done), same⟩
  | none =>
      rw [found] at ends
      cases ends.1

/-- Where a file can be used in place, its device said so in answer to the request. -/
theorem map_ends {request : MapRequest} {address : Address}
    (ends : (map handle request).Ends before (.done (.mappable address)) after) :
    ∃ file place, before.resolve? handle = some file ∧
      (file.device.device.map { request with offset := place }).Ends before.devices.world
        (.done (.mappable address)) after.devices.world := by
  obtain ⟨file, middle, here, ends⟩ := ends_bind_done.mp ends
  obtain ⟨found, rfl⟩ := resolve_ends here
  split at ends
  case h_1 window _ =>
    dsimp only at ends
    split at ends
    · obtain ⟨impossible, _⟩ := ends
      cases impossible
    · exact ⟨file, _, found, withDevice_ends ends⟩
  case h_2 =>
    obtain ⟨impossible, _⟩ := ends
    cases impossible

/-- A raw device is asked for no more than what is wanted. -/
theorem clamp_le (window : Option FileWindow) (offset length : Nat) :
    (clamp window offset length).2 ≤ length := by
  cases window with
  | none => exact Nat.le_refl _
  | some window =>
      unfold clamp FileWindow.clamp
      dsimp only
      split
      · exact Nat.zero_le _
      · exact Nat.min_le_left _ _

/-- A read brings no more than was asked for. -/
theorem read_length (ends : (read handle offset length).Ends before (.done bytes) after) :
    bytes.length ≤ length := by
  obtain ⟨file, _, _, ends⟩ := ends_bind_done.mp ends
  have answered := withDevice_ends ends
  dsimp only at answered
  split at answered
  case h_1 window _ =>
    have usable := clamp_le window offset length
    split at answered
    · obtain ⟨done, _⟩ := answered
      cases done
      exact Nat.zero_le _
    · obtain ⟨given, _, _, done, _⟩ := ends_bind_done.mp answered
      cases done
      rw [List.length_take]
      omega
  case h_2 descriptor _ => exact Link.readAll_length answered

/-- The bytes that an open file gives from an offset on, as answers to reads that are made
one after the other. -/
inductive Serves (handle : Handle) : Nat → Bytes → Files ω → Files ω → Prop where
  | nothing (offset : Nat) (files : Files ω) : Serves handle offset [] files files
  | answer {offset length : Nat} {bytes rest : Bytes} {before middle after : Files ω}
      (ends : (read handle offset length).Ends before (.done bytes) middle)
      (filled : bytes ≠ []) (others : Serves handle (offset + bytes.length) rest middle after) :
      Serves handle offset (bytes ++ rest) before after

theorem Serves.append {first second : Bytes} (earlier : Serves handle offset first before middle)
    (later : Serves handle (offset + first.length) second middle after) :
    Serves handle offset (first ++ second) before after := by
  induction earlier with
  | nothing offset files => exact later
  | answer ends filled others ih =>
      rw [List.append_assoc]
      refine .answer ends filled (ih ?_)
      rw [List.length_append, ← Nat.add_assoc] at later
      exact later

/-- An exact read brings exactly what was asked for, out of answers of the device. -/
theorem readExact_ends
    (ends : (readExact handle offset length).Ends before (.done bytes) after) :
    bytes.length = length ∧ Serves handle offset bytes before after := by
  induction length using Nat.strongRecOn generalizing offset before bytes with
  | ind length ih =>
      rw [readExact] at ends
      split at ends
      case isTrue empty =>
        obtain ⟨done, same⟩ := ends
        cases done
        cases same
        exact ⟨empty.symm, .nothing offset before⟩
      case isFalse more =>
        obtain ⟨first, middle, here, ends⟩ := ends_bind_done.mp ends
        have short := read_length here
        split at ends
        case isTrue _ =>
          obtain ⟨failed, _⟩ := ends
          cases failed
        case isFalse filled =>
          obtain ⟨others, _, there, done, same⟩ := ends_bind_done.mp ends
          cases done
          cases same
          obtain ⟨total, serves⟩ := ih (length - first.length) (by omega) there
          refine ⟨?_, .answer here (fun empty => filled (by rw [empty]; rfl)) serves⟩
          rw [List.length_append]
          omega

/-! ## What all reads have in common -/

/-- Every read of a file from here on, wherever it is made, ends as it should. -/
def Always (handle : Handle) (expected : (offset length : Nat) → Outcome FileError Bytes → Prop)
    (files : Files ω) : Prop :=
  ∃ holds : Files ω → Prop, holds files ∧
    ∀ {before after : Files ω} {offset length : Nat} {outcome : Outcome FileError Bytes},
      holds before → (read handle offset length).Ends before outcome after →
      holds after ∧ expected offset length outcome

section

variable {expected : (offset length : Nat) → Outcome FileError Bytes → Prop}
  {outcome : Outcome FileError Bytes}

theorem Always.read (always : Always handle expected before)
    (ends : (read handle offset length).Ends before outcome after) :
    Always handle expected after ∧ expected offset length outcome := by
  obtain ⟨holds, here, keeps⟩ := always
  obtain ⟨there, ended⟩ := keeps here ends
  exact ⟨⟨holds, there, keeps⟩, ended⟩

theorem Always.readExact (always : Always handle expected before)
    {outcome : Outcome FileError Bytes}
    (ends : (readExact handle offset length).Ends before outcome after) :
    Always handle expected after := by
  induction length using Nat.strongRecOn generalizing offset before outcome with
  | ind length ih =>
      rw [Files.readExact] at ends
      split at ends
      case isTrue =>
        obtain ⟨_, rfl⟩ := ends
        exact always
      case isFalse more =>
        rcases ends_bind.mp ends with ⟨first, middle, here, ends⟩ | ⟨_, here, _⟩
        · have kept := (always.read here).1
          split at ends
          case isTrue =>
            obtain ⟨_, rfl⟩ := ends
            exact kept
          case isFalse filled =>
            have shorter : length - first.length < length := by omega
            rcases ends_bind.mp ends with ⟨others, left, there, _, rfl⟩ | ⟨_, there, _⟩
            · exact ih _ shorter kept there
            · exact ih _ shorter kept there
        · exact (always.read here).1

/-- A weaker expectation is met too. -/
theorem Always.mono {weaker : (offset length : Nat) → Outcome FileError Bytes → Prop}
    (always : Always handle expected before)
    (weaken : ∀ offset length outcome, expected offset length outcome →
      weaker offset length outcome) : Always handle weaker before := by
  obtain ⟨holds, here, keeps⟩ := always
  refine ⟨holds, here, ?_⟩
  intro before after offset length outcome there ends
  obtain ⟨left, ended⟩ := keeps there ends
  exact ⟨left, weaken _ _ _ ended⟩

end

/-- Whatever is read from here on, in whatever order, is part of one and the same file. -/
def Steady (handle : Handle) (file : Bytes) : Files ω → Prop :=
  Always handle fun offset _ outcome => ∀ bytes, outcome = .done bytes → bytes <+: file.drop offset

/-- What is served of a file that always reads the same is part of it. -/
theorem Steady.prefix_of_serves {file : Bytes} (steady : Steady handle file before)
    (serves : Serves handle offset bytes before after) : bytes <+: file.drop offset := by
  induction serves with
  | nothing offset files => exact List.nil_prefix
  | answer ends filled others ih =>
      obtain ⟨kept, whole⟩ := Always.read steady ends
      obtain ⟨rest, first⟩ := whole _ rfl
      have later := ih kept
      rw [← List.drop_drop, ← first, List.drop_left] at later
      rw [← first]
      exact (List.prefix_append_right_inj _).mpr later

/-- Every read from here on that asks for bytes of a range brings some. -/
def Readable (handle : Handle) (start stop : Nat) : Files ω → Prop :=
  Always handle fun offset length outcome =>
    start ≤ offset → offset + length ≤ stop → length ≠ 0 →
      ∃ bytes, outcome = .done bytes ∧ bytes ≠ []

theorem Readable.mono {start stop low high : Nat} (readable : Readable handle low high before)
    (above : low ≤ start) (below : stop ≤ high) : Readable handle start stop before :=
  Always.mono readable fun _ _ _ brings first last =>
    brings (Nat.le_trans above first) (Nat.le_trans last below)

/-- An exact read of a range that can be read brings the bytes. -/
theorem Readable.readExact {start stop : Nat} (readable : Readable handle start stop before)
    (above : start ≤ offset) (below : offset + length ≤ stop) :
    ∃ bytes after, (readExact handle offset length).Ends before (.done bytes) after := by
  induction length using Nat.strongRecOn generalizing offset before with
  | ind length ih =>
      rw [Files.readExact]
      split
      case isTrue => exact ⟨[], before, rfl, rfl⟩
      case isFalse more =>
        have ends := ends_run (read handle offset length) before
        obtain ⟨kept, brings⟩ := Always.read readable ends
        obtain ⟨first, done, some⟩ := brings above below more
        rw [done] at ends
        have short := read_length ends
        have positive := List.length_pos_iff.mpr some
        have above : start ≤ offset + first.length := by omega
        have below : offset + first.length + (length - first.length) ≤ stop := by omega
        obtain ⟨others, after, there⟩ := ih (length - first.length) (by omega) kept above below
        refine ⟨first ++ others, after, ends_bind_done.mpr ⟨first, _, ends, ?_⟩⟩
        rw [dif_neg (Nat.ne_of_gt positive)]
        exact ends_bind_done.mpr ⟨others, after, there, rfl, rfl⟩

end Files

end Bootloader
