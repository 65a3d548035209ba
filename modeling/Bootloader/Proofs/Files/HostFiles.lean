import Bootloader.Proofs.Files.Serving
import Bootloader.Proofs.Link.Line

/-!
# Reading the files of a host

A long read is made in as many transfers as it takes, each of them a request that may be sent
several times, in frames that arrive in pieces. Over a line on which no answer comes late this
amounts to taking a part of the host's file (`FileHost.Prompt.readAll`, `read_equals_host_file`):
each transfer brings a part that joins the one before it, some bytes as long as the file has
any, and the loop ends when all of them are there, or the file ends, or all answers to a request
were lost.
-/

set_option autoImplicit false

namespace Bootloader

open Act Link

/-- A part that begins with certain bytes is these bytes and the part behind them. -/
theorem Bytes.slice_of_prefix {contents bytes : Bytes} {position length : Nat}
    (first : bytes <+: contents.drop position) (short : bytes.length ≤ length) :
    bytes ++ contents.slice (position + bytes.length) (length - bytes.length) =
      contents.slice position length := by
  obtain ⟨rest, whole⟩ := first
  have behind : contents.drop (position + bytes.length) = rest := by
    rw [← List.drop_drop, ← whole, List.drop_left]
  rw [slice, slice, behind, ← whole, List.take_append, List.take_of_length_le short]

variable {ω : Type} [Hardware ω]

namespace Link

variable {device : DeviceId} {host : FileHost ω device} {descriptor : UInt32} {contents : Bytes}
  {patience : Nat} {before after : ω}

/-- All answers to some request to read the file of a descriptor were lost, and nothing happened
since. -/
def FileHost.Unanswered (host : FileHost ω device) (descriptor : UInt32) (after : ω) : Prop :=
  ∃ call : ReadCall, call.descriptor = descriptor ∧ ∃ frame before,
    encodeFrame? (readRequest call.descriptor call.position call.wanted) = some frame ∧
    host.Lost frame attempts before after

/-- One transfer brings what comes first of the part, or has lost all its answers. -/
theorem FileHost.Prompt.readFile {position length : Nat} {outcome : Outcome FileError Bytes}
    (prompt : host.Prompt) (patient : longestFrame ≤ patience)
    (known : host.contents descriptor = some contents) (serving : host.serving before)
    (idle : host.underWay before = []) (inRange : position < UInt32.size)
    (ends : (readFile device patience descriptor.toNat position length).Ends before outcome after) :
    host.serving after ∧ host.underWay after = [] ∧
      ((∃ bytes, outcome = .done bytes ∧ bytes <+: contents.drop position ∧
          bytes.length ≤ length ∧ (position < contents.length → 0 < length → bytes ≠ [])) ∨
        outcome = .failed .timeout ∧ host.Unanswered descriptor after) := by
  let call : ReadCall := ⟨descriptor, position, length⟩
  obtain ⟨serves, quiet, held | lost | ⟨_, beyond⟩ | ⟨_, unknown⟩⟩ :=
    prompt.run patient serving idle (show (call.run device patience).Ends before outcome after
      from ends)
  · refine ⟨serves, quiet, .inl ?_⟩
    obtain ⟨bytes, done, file, known', part, short, filled⟩ := held
    cases known.symm.trans known'
    refine ⟨bytes, done, part, Nat.le_trans short (Nat.min_le_left _ _), ?_⟩
    intro inside wanted
    exact filled inside (Nat.lt_min.mpr ⟨wanted, by decide⟩)
  · obtain ⟨failed, frame, framed, lost⟩ := lost
    exact ⟨serves, quiet, .inr ⟨failed, call, rfl, frame, before, framed, lost⟩⟩
  · exact absurd inRange (Nat.not_lt_of_le beyond)
  · cases known.symm.trans unknown

/-- **A read in several transfers yields the part of the file, or a request has lost all its
answers.** -/
theorem FileHost.Prompt.readAll {position length : Nat} {outcome : Outcome FileError Bytes}
    (prompt : host.Prompt) (patient : longestFrame ≤ patience)
    (known : host.contents descriptor = some contents) (small : contents.length < UInt32.size)
    (serving : host.serving before) (idle : host.underWay before = [])
    (inRange : position < UInt32.size)
    (ends : (readAll device patience descriptor.toNat position length).Ends before outcome after) :
    host.serving after ∧ host.underWay after = [] ∧
      (outcome = .done (contents.slice position length) ∨
        outcome = .failed .timeout ∧ host.Unanswered descriptor after) := by
  induction length using Nat.strongRecOn generalizing position before outcome with
  | ind length ih =>
      rw [Link.readAll] at ends
      split at ends
      case isTrue nothing =>
        obtain ⟨rfl, rfl⟩ := ends_pure.mp ends
        refine ⟨serving, idle, .inl ?_⟩
        rw [nothing, Bytes.slice, List.take_zero]
      case isFalse something =>
        rcases ends_bind.mp ends with ⟨bytes, middle, here, ends⟩ | ⟨halt, here, halts⟩
        · obtain ⟨serves, quiet, ⟨_, done, first, short, filled⟩ | ⟨impossible, _⟩⟩ :=
            prompt.readFile patient known serving idle inRange here
          · cases done
            split at ends
            case isTrue last =>
              -- Nothing comes only where the file has nothing.
              have beyond : contents.length ≤ position := by
                refine Nat.le_of_not_lt fun inside => ?_
                exact filled inside (Nat.pos_of_ne_zero something) (List.length_eq_zero_iff.mp last)
              obtain ⟨rfl, rfl⟩ := ends_pure.mp ends
              refine ⟨serves, quiet, .inl ?_⟩
              rw [Bytes.slice, List.drop_eq_nil_of_le beyond, List.take_nil]
            case isFalse some =>
              -- The next position is not behind the end of the file.
              have inside : position + bytes.length < UInt32.size := by
                have part := first.length_le
                rw [List.length_drop] at part
                omega
              obtain ⟨ending, there, rfl⟩ := ends_bind_pure.mp ends
              obtain ⟨serves, quiet, rfl | ⟨rfl, lost⟩⟩ :=
                ih (length - bytes.length) (by omega) serves quiet inside there
              · refine ⟨serves, quiet, .inl ?_⟩
                rw [Outcome.map, Bytes.slice_of_prefix first short]
              · exact ⟨serves, quiet, .inr ⟨rfl, lost⟩⟩
          · cases impossible
        · obtain ⟨serves, quiet, ⟨_, rfl, _⟩ | ⟨rfl, lost⟩⟩ :=
            prompt.readFile patient known serving idle inRange here
          · cases halts
          · cases halts
            exact ⟨serves, quiet, .inr ⟨rfl, lost⟩⟩

end Link

namespace Files

variable {files : Files ω} {handle : Handle} {file : OpenFile} {offset length : Nat}

/-- The files when the world behind their devices has changed. -/
def withWorld (files : Files ω) (world : ω) : Files ω :=
  { files with devices := { files.devices with world } }

omit [Hardware ω] in
/-- A request to an instance that is in use ends as it does in the world. -/
theorem withDevice_ends_of_up {α : Type} {device : DeviceId} {request : Nat → DeviceAct ω α}
    {outcome : Outcome FileError α} {world : ω} (up : files.devices.isUp device = true)
    (ends : (request files.patience).Ends files.devices.world outcome world) :
    (withDevice device request).Ends files outcome (files.withWorld world) := by
  rw [withDevice, ends_read_bind, inDevices, ends_zoom]
  refine ⟨{ files.devices with world }, ?_, rfl⟩
  rw [Devices.withDevice, ends_read_bind, ends_require_bind]
  exact .inl ⟨up, ends_zoom.mpr ⟨world, ends, rfl⟩⟩

omit [Hardware ω] in
/-- Of an instance that is not in use nothing is asked. -/
theorem withDevice_ends_of_down {α : Type} {device : DeviceId} {request : Nat → DeviceAct ω α}
    (down : files.devices.isUp device = false) :
    (withDevice device request).Ends files (.failed (.noDevice device)) files := by
  rw [withDevice, ends_read_bind, inDevices, ends_zoom]
  refine ⟨files.devices, ?_, rfl⟩
  rw [Devices.withDevice, ends_read_bind, ends_require_bind]
  exact .inr ⟨down, rfl, rfl⟩

/-- A read of an open file of a host is made in transfers. -/
theorem read_remote {descriptor : Nat} {outcome : Outcome FileError Bytes} {after : Files ω}
    (opened : files.resolve? handle = some file) (remote : file.target = .remote descriptor) :
    (read handle offset length).Ends files outcome after ↔
      (withDevice file.device.device fun patience =>
        Link.readAll file.device.device patience descriptor offset length).Ends files outcome
          after := by
  have resolved : (resolve handle).Ends files (.done file) files := by
    rw [resolve, ends_read_bind, opened]
    exact ⟨rfl, rfl⟩
  rw [read, ends_bind_of_done resolved, remote]

/-- **Reading an open file of a host is taking a part of it.** The line is one on which no
answer comes late, and each answer arrives as a whole or not at all. While the device is in use,
a read at an offset of 32 bits yields as many bytes as the buffer takes and the file has there,
and these bytes; or it times out, and all answers to one of its requests were lost. A request
always fits a frame. -/
theorem read_equals_host_file (length : Nat) (host : FileHost ω file.device.device)
    {descriptor : UInt32} {contents : Bytes} (prompt : host.Prompt)
    (patient : longestFrame ≤ files.patience) (known : host.contents descriptor = some contents)
    (small : contents.length < UInt32.size) (opened : files.resolve? handle = some file)
    (remote : file.target = .remote descriptor.toNat) (inRange : offset < UInt32.size)
    (serving : host.serving files.devices.world) (idle : host.underWay files.devices.world = []) :
    (∃ outcome world, (read handle offset length).Ends files outcome (files.withWorld world) ∧
      host.serving world ∧ host.underWay world = [] ∧
      if files.devices.isUp file.device.device then
        (∃ bytes, outcome = .done bytes ∧ bytes.length = min length (contents.length - offset) ∧
          bytes = contents.slice offset length) ∨
        (outcome = .failed .timeout ∧ host.Unanswered descriptor world)
      else outcome = .failed (.noDevice file.device.device)) ∧
    ∀ {σ : Type} {before after : σ} (position amount : Nat) (request : Bytes),
      (transfer descriptor.toNat position amount).Ends before (.done request) after →
      ∃ frame, encodeFrame? ⟨Request.read.type, request⟩ = some frame := by
  refine ⟨?_, ?_⟩
  · cases up : files.devices.isUp file.device.device with
    | true =>
        obtain ⟨serves, quiet, result⟩ := prompt.readAll patient known small serving idle inRange
          (ends_run (Link.readAll file.device.device files.patience descriptor.toNat offset length)
            files.devices.world)
        refine ⟨_, _, (read_remote opened remote).mpr (withDevice_ends_of_up up (ends_run _ _)),
          serves, quiet, ?_⟩
        rw [if_pos rfl]
        rcases result with part | lost
        · refine .inl ⟨_, part, ?_, rfl⟩
          rw [Bytes.slice, List.length_take, List.length_drop]
        · exact .inr lost
    | false =>
        refine ⟨_, _, (read_remote opened remote).mpr (withDevice_ends_of_down up), serving, idle,
          ?_⟩
        rw [if_neg Bool.false_ne_true]
  · intro σ before after position amount request built
    obtain ⟨_, rfl, _⟩ := transfer_ends_done.mp built
    exact readRequest_framed descriptor position amount

/-- The small host's file is open. The first request is lost, and of the answer to the second
one three bytes arrive, then five, then the rest. -/
def smallFiles : Files Bench.Line where
  devices := ⟨[⟨.uart, [true]⟩], { Bench.smallHost with silent := 1 }, [1, 3, 5]⟩
  aliases := []
  files := []
  slots := [⟨0, some ⟨⟨"uart", Bench.uart, .framed⟩, .remote 0⟩⟩]
  patience := longestFrame

/-- Ten bytes are asked for, of which the file has six. -/
theorem read_small_files :
    ((read ⟨0, 0⟩ 2 10).run smallFiles).outcome = .done [0x41, 0x41, 0x42, 0x42, 0x42, 0x42] := by
  let host := Bench.Line.fileHost Bench.smallHost 1 Bench.uart
  have serving : host.serving smallFiles.devices.world := by
    refine ⟨rfl, rfl, ?_⟩
    decide
  have finished : ((read ⟨0, 0⟩ 2 10).run smallFiles).outcome.isDone = true := by decide +kernel
  obtain ⟨⟨outcome, world, ends, _, _, result⟩, _⟩ :=
    @read_equals_host_file Bench.Line _ smallFiles ⟨0, 0⟩ ⟨⟨"uart", Bench.uart, .framed⟩, .remote 0⟩
      2 10 host 0 [0x41, 0x41, 0x41, 0x41, 0x42, 0x42, 0x42, 0x42]
      (Bench.Line.prompt Bench.smallHost Nat.one_pos Bench.uart) (Nat.le_refl _) rfl (by decide) rfl
      rfl (by decide) serving rfl
  rw [ends.1] at finished ⊢
  rw [if_pos (by decide)] at result
  rcases result with ⟨bytes, rfl, _, rfl⟩ | ⟨rfl, _⟩
  · rfl
  · cases finished

end Files

end Bootloader
