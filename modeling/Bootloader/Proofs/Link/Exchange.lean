import Bootloader.Proofs.Link.FileHost

/-!
# Requests and their answers

A client waits for an answer by reading from the device until a message is complete or nothing
comes (`receive_ends`), and sends its request again after each silence
(`sendUntilAnswered_ends`). Over the line of a host two things follow.

Whatever is delayed or lost, the answer that a client takes is one that the host gave, to this
request or to an earlier one whose answer was still under way (`FileHost.run_hears`).
If no answer comes late and none is under way, it is the answer to this request, and only the
loss of all of its answers keeps a client from it (`FileHost.Prompt.run`).
-/

set_option autoImplicit false

namespace Bootloader.Link

open Act

variable {ω : Type} [Hardware ω] {device : DeviceId} {patience : Nat} {before after : ω}

/-! ## What a client does -/

/-- Bytes from the device complete a message, or leave the decoder waiting for more of them; no
bytes end the waiting. -/
theorem receive_ends {decoder : Decoder} {reads : Nat}
    {outcome : Outcome FileError (Option Message)}
    (ends : (receive device decoder (reads + 1)).Ends before outcome after) :
    (∃ bytes middle,
      (device.read 0 receiveChunk Capacity.readTimeout).Ends before (.done bytes) middle ∧
      (bytes = [] ∧ outcome = .done none ∧ middle = after ∨
        (∃ message, (decoder.feedUntilMessage bytes).2.1 = some message ∧
          outcome = .done (some message) ∧ middle = after) ∨
        bytes ≠ [] ∧ (decoder.feedUntilMessage bytes).2.1 = none ∧
          (receive device (decoder.feedUntilMessage bytes).1 reads).Ends middle outcome after)) ∨
    ∃ halt, (device.read 0 receiveChunk Capacity.readTimeout).Ends before halt after ∧
      halt.Halts outcome := by
  rw [receive, ends_bind] at ends
  rcases ends with ⟨bytes, middle, here, there⟩ | halted
  · refine .inl ⟨bytes, middle, here, ?_⟩
    cases bytes with
    | nil =>
        obtain ⟨done, same⟩ := there
        exact .inl ⟨rfl, done.symm, same⟩
    | cons byte rest =>
        refine .inr ?_
        generalize (decoder.feedUntilMessage (byte :: rest)) = taken at there ⊢
        obtain ⟨next, heard, complaints⟩ := taken
        cases heard with
        | some message =>
            obtain ⟨done, same⟩ := there
            exact .inl ⟨message, rfl, done.symm, same⟩
        | none => exact .inr ⟨List.cons_ne_nil byte rest, rfl, there⟩
  · exact .inr halted

/-- A request that is sent is answered by a message of its type, refused by one of another type,
or met with silence and sent again. -/
theorem sendUntilAnswered_ends {type : UInt16} {frame : Bytes} {left : Nat}
    {outcome : Outcome FileError Bytes}
    (ends : (sendUntilAnswered device patience type frame (left + 1)).Ends before outcome after) :
    (∃ sent heard ending, (device.write 0 frame).Ends before (.done frame.length) sent ∧
      (receive device Decoder.start patience).Ends sent ending heard ∧
      ((∃ message, ending = .done (some message) ∧ heard = after ∧
          (message.type = type ∧ outcome = .done message.payload ∨
            message.type ≠ type ∧ outcome = .failed .protocol)) ∨
        ending = .done none ∧
          (sendUntilAnswered device patience type frame left).Ends heard outcome after ∨
        ending.Halts outcome ∧ heard = after)) ∨
    ∃ written sent, (device.write 0 frame).Ends before written sent ∧
      written ≠ .done frame.length := by
  rw [sendUntilAnswered, ends_bind] at ends
  rcases ends with ⟨count, sent, wrote, ends⟩ | ⟨halt, wrote, halts⟩
  · rcases ends_require_bind.mp ends with ⟨all, ends⟩ | ⟨some, _⟩
    · have all : count = frame.length := of_decide_eq_true all
      rw [all] at wrote
      rcases ends_bind.mp ends with ⟨answer?, heard, listened, ends⟩ | ⟨halt, listened, halts⟩
      · refine .inl ⟨sent, heard, _, wrote, listened, ?_⟩
        cases answer? with
        | none => exact .inr (.inl ⟨rfl, ends⟩)
        | some message =>
            refine .inl ⟨message, rfl, ?_⟩
            rcases ends_require_bind.mp ends with ⟨fits, done, same⟩ | ⟨other, failed, same⟩
            · exact ⟨same, .inl ⟨of_decide_eq_true fits, done.symm⟩⟩
            · exact ⟨same, .inr ⟨of_decide_eq_false other, failed.symm⟩⟩
      · exact .inl ⟨sent, after, halt, wrote, listened, .inr (.inr ⟨halts, rfl⟩)⟩
    · refine .inr ⟨_, sent, wrote, ?_⟩
      intro all
      exact of_decide_eq_false some (Outcome.done.inj all)
  · refine .inr ⟨halt, after, wrote, ?_⟩
    rintro rfl
    cases halts

/-- A read of more than 32 bits asks for nothing; any other one is a request. -/
theorem readFile_asks {descriptor position length : Nat} {outcome : Outcome FileError Bytes}
    (ends : (readFile device patience descriptor position length).Ends before outcome after) :
    UInt32.size ≤ position ∧ outcome = .failed .unsupported ∧ before = after ∨
      position < UInt32.size ∧ ∃ ending,
        (transact device patience .read
          (word descriptor ++ word position ++ word (min length maximumTransfer))).Ends before
            ending after ∧
        (ending.Halts outcome ∨ ∃ answer, ending = .done answer) := by
  unfold readFile transfer at ends
  dsimp only at ends
  rw [bind_assoc] at ends
  rcases ends_require_bind.mp ends with ⟨inRange, ends⟩ | ⟨beyond, failed, same⟩
  · refine .inr ⟨of_decide_eq_true inRange, ?_⟩
    rw [ends_pure_bind] at ends
    rcases ends_bind.mp ends with ⟨answer, middle, asked, ends⟩ | ⟨halt, asked, halts⟩
    · refine ⟨.done answer, ?_, .inr ⟨answer, rfl⟩⟩
      rcases ends_bind.mp ends with ⟨given, _, counted, ends⟩ | ⟨halt, counted, _⟩
      · obtain ⟨_, rfl⟩ := count_ends_done.mp counted
        rcases ends_require_bind.mp ends with ⟨_, _, rfl⟩ | ⟨_, _, rfl⟩ <;> exact asked
      · rcases ends_ofOption_bind.mp counted with ⟨number, _, ends⟩ | ⟨_, _, rfl⟩
        · rcases ends_require_bind.mp ends with ⟨_, _, rfl⟩ | ⟨_, _, rfl⟩ <;> exact asked
        · exact asked
    · exact ⟨halt, asked, .inl halts⟩
  · exact .inl ⟨Nat.le_of_not_lt (of_decide_eq_false beyond), failed.symm, same⟩

/-- A request to read is sent in its frame. -/
theorem transact_ends {descriptor : UInt32} {position length : Nat} {frame : Bytes}
    {outcome : Outcome FileError Bytes}
    (framed : encodeFrame? (readRequest descriptor position length) = some frame) :
    (transact device patience .read (readRequest descriptor position length).payload).Ends before
        outcome after ↔
      (sendUntilAnswered device patience Request.read.type frame attempts).Ends before outcome
        after := by
  have framed : encodeFrame?
      ⟨Request.read.type, (readRequest descriptor position length).payload⟩ = some frame := framed
  rw [transact, framed]
  exact ends_pure_bind

/-! ## Lines with delays and losses -/

/-- A call to read from a file of the host. -/
structure ReadCall where
  descriptor : UInt32
  position : Nat
  length : Nat

/-- How much a call asks for at once. -/
def ReadCall.wanted (call : ReadCall) : Nat :=
  min call.length maximumTransfer

/-- The call made. -/
def ReadCall.run (call : ReadCall) (device : DeviceId) (patience : Nat) : DeviceAct ω Bytes :=
  readFile device patience call.descriptor.toNat call.position call.length

namespace FileHost

variable (host : FileHost ω device)

/-- The host's file holds these bytes where a call reads; they are no more than it wants, and
some if there are any. -/
def Holds (call : ReadCall) (bytes : Bytes) : Prop :=
  ∃ file, host.contents call.descriptor = some file ∧ bytes <+: file.drop call.position ∧
    bytes.length ≤ call.wanted ∧
    (call.position < file.length → 0 < call.wanted → bytes ≠ [])

/-- A message that answers a call. -/
def AnswersTo (call : ReadCall) (message : Message) : Prop :=
  message.type = Request.read.type ∧
    Answers host.contents call.descriptor call.position call.wanted message.payload

variable {host}

/-- What an answer has behind its numbers, if it is not a refusal, is what the file holds. -/
theorem holds_of_answers {call : ReadCall} {payload : Bytes} {given : Nat}
    (answers : Answers host.contents call.descriptor call.position call.wanted payload)
    (told : signed? payload 8 = some (given : Int)) :
    host.Holds call (payload.drop transferHeader) := by
  cases answers with
  | data known part short filled =>
      rw [drop_answer (length_echo _ _)]
      exact ⟨_, known, part, short, filled⟩
  | refusal unknown negative signed =>
      have refused := bmod_of_negative negative signed
      rw [← List.append_nil (word _ ++ word _ ++ word _), signed?_answer (length_echo _ _) signed] at told
      have same : Int.bmod _ UInt32.size = (given : Int) := Option.some.inj told
      omega

/-- Waiting on the line of a host, one takes bytes from its front. -/
theorem receive_takes {decoder : Decoder} {reads : Nat}
    {outcome : Outcome FileError (Option Message)} (serving : host.serving before)
    (ends : (receive device decoder (reads + 1)).Ends before outcome after) :
    ∃ bytes middle,
      (device.read 0 receiveChunk Capacity.readTimeout).Ends before (.done bytes) middle ∧
      host.serving middle ∧ host.underWay before = bytes ++ host.underWay middle ∧
      (bytes = [] ∧ outcome = .done none ∧ middle = after ∨
        (∃ message, (decoder.feedUntilMessage bytes).2.1 = some message ∧
          outcome = .done (some message) ∧ middle = after) ∨
        bytes ≠ [] ∧ (decoder.feedUntilMessage bytes).2.1 = none ∧
          (receive device (decoder.feedUntilMessage bytes).1 reads).Ends middle outcome after) := by
  rcases receive_ends ends with ⟨bytes, middle, read, heard⟩ | ⟨halt, read, halts⟩
  · obtain ⟨_, done, still, line⟩ := host.gives serving read
    cases done
    exact ⟨bytes, middle, read, still, line, heard⟩
  · obtain ⟨_, done, _⟩ := host.gives serving read
    cases done
    cases halts

/-- A host takes the frame of a call and sends its answer, or the answer is lost; then one waits
for a message. -/
theorem sendUntilAnswered_takes {call : ReadCall} {frame : Bytes} {left : Nat}
    {outcome : Outcome FileError Bytes} (serving : host.serving before)
    (inRange : call.position < UInt32.size)
    (framed : encodeFrame? (readRequest call.descriptor call.position call.wanted) = some frame)
    (ends : (sendUntilAnswered device patience Request.read.type frame (left + 1)).Ends before
      outcome after) :
    ∃ sent heard ending, (device.write 0 frame).Ends before (.done frame.length) sent ∧
      host.serving sent ∧
      (host.underWay sent = host.underWay before ∨ ∃ payload answer,
        Answers host.contents call.descriptor call.position call.wanted payload ∧
        encodeFrame? ⟨Request.read.type, payload⟩ = some answer ∧
        host.underWay sent = host.underWay before ++ answer) ∧
      (receive device Decoder.start patience).Ends sent ending heard ∧
      ((∃ message, ending = .done (some message) ∧ heard = after ∧
          (message.type = Request.read.type ∧ outcome = .done message.payload ∨
            message.type ≠ Request.read.type ∧ outcome = .failed .protocol)) ∨
        ending = .done none ∧
          (sendUntilAnswered device patience Request.read.type frame left).Ends heard outcome
            after ∨
        ending.Halts outcome ∧ heard = after) := by
  have few : call.wanted ≤ maximumTransfer := Nat.min_le_right _ _
  rcases sendUntilAnswered_ends ends with ⟨sent, heard, ending, wrote, listened, came⟩ |
    ⟨_, _, wrote, other⟩
  · obtain ⟨_, still, answered⟩ := host.takes serving inRange few framed wrote
    exact ⟨sent, heard, ending, wrote, still, answered, listened, came⟩
  · exact absurd (host.takes serving inRange few framed wrote).1 other

variable {fact : Message → Prop}

/-- Waiting on a line that is vouched for, one hears a message with the property or none. -/
theorem receive_hears {fed : Bytes} {reads : Nat} {outcome : Outcome FileError (Option Message)}
    (serving : host.serving before) (silent : Decoder.start.found fed = [])
    (vouched : Vouched fact (fed ++ host.underWay before))
    (ends : (receive device (Decoder.start.feed fed).1 reads).Ends before outcome after) :
    host.serving after ∧ Vouched fact (host.underWay after) ∧
      ∀ message, outcome = .done (some message) → fact message := by
  induction reads generalizing fed before with
  | zero =>
      obtain ⟨rfl, rfl⟩ := ends
      exact ⟨serving, vouched.part (List.suffix_append fed _).isInfix, nofun⟩
  | succ reads ih =>
      obtain ⟨bytes, middle, read, still, line, heard⟩ := receive_takes serving ends
      have later : host.underWay middle <:+: fed ++ host.underWay before := by
        rw [line, ← List.append_assoc]
        exact (List.suffix_append _ _).isInfix
      rcases heard with ⟨rfl, rfl, rfl⟩ | ⟨message, found, rfl, rfl⟩ | ⟨_, none, ends⟩
      · exact ⟨still, vouched.part later, nofun⟩
      · refine ⟨still, vouched.part later, ?_⟩
        rintro _ ⟨⟩
        rcases Decoder.feedUntilMessage_cases (Decoder.start.feed fed).1 bytes with
          ⟨none, _, _⟩ | ⟨other, taken, begins, found', same⟩
        · rw [none] at found
          cases found
        · cases same.symm.trans found
          refine vouched (fed ++ taken) ?_ message ?_
          · rw [line]
            exact (List.prefix_append_right_inj fed).mpr
              (begins.trans (List.prefix_append _ _)) |>.isInfix
          · rw [Decoder.found_append, silent, found']
            exact List.mem_singleton_self message
      · rcases Decoder.feedUntilMessage_cases (Decoder.start.feed fed).1 bytes with
          ⟨_, nothing, next⟩ | ⟨other, _, _, _, same⟩
        · have together := Decoder.feed_append Decoder.start fed bytes
          rw [next, ← congrArg Prod.fst together] at ends
          refine ih still ?_ ?_ ends
          · rw [Decoder.found_append, silent, nothing]
            rfl
          · rw [List.append_assoc, ← line]
            exact vouched
        · cases none.symm.trans same

/-- Sending a request on a line that is vouched for, one takes an answer with the property or
none. -/
theorem sendUntilAnswered_hears {call : ReadCall} {frame : Bytes} {left : Nat}
    {outcome : Outcome FileError Bytes} (serving : host.serving before)
    (vouched : Vouched fact (host.underWay before)) (inRange : call.position < UInt32.size)
    (own : ∀ message, host.AnswersTo call message → fact message)
    (framed : encodeFrame? (readRequest call.descriptor call.position call.wanted) = some frame)
    (ends : (sendUntilAnswered device patience Request.read.type frame left).Ends before outcome
      after) :
    host.serving after ∧ Vouched fact (host.underWay after) ∧
      ∀ payload, outcome = .done payload → fact ⟨Request.read.type, payload⟩ := by
  induction left generalizing before with
  | zero =>
      obtain ⟨rfl, rfl⟩ := ends
      exact ⟨serving, vouched, nofun⟩
  | succ left ih =>
      obtain ⟨sent, heard, ending, _, still, answered, listened, came⟩ :=
        sendUntilAnswered_takes serving inRange framed ends
      have line : Vouched fact (host.underWay sent) := by
        rcases answered with lost | ⟨payload, answer, answers, framed, joined⟩
        · rw [lost]
          exact vouched
        · rw [joined]
          exact vouched.append_frame framed (own _ ⟨rfl, answers⟩)
      have silent : Decoder.start.found [] = [] := rfl
      obtain ⟨serves, rest, fits⟩ := receive_hears still silent line listened
      rcases came with ⟨message, rfl, rfl, taken⟩ | ⟨_, ends⟩ | ⟨halts, rfl⟩
      · refine ⟨serves, rest, ?_⟩
        intro payload done
        rcases taken with ⟨type, same⟩ | ⟨_, refused⟩
        · have given := fits message rfl
          rw [same] at done
          rw [← type, ← Outcome.done.inj done]
          exact given
        · cases refused.symm.trans done
      · exact ih serves rest ends
      · exact ⟨serves, rest, fun payload done => absurd done (halts.ne_done payload)⟩

/-- **A call on a line that is vouched for yields what a message with the property says, or
nothing**, and leaves the line vouched for. -/
theorem run_hears {call : ReadCall} {outcome : Outcome FileError Bytes}
    (serving : host.serving before) (vouched : Vouched fact (host.underWay before))
    (own : ∀ message, host.AnswersTo call message → fact message)
    (ends : (call.run device patience).Ends before outcome after) :
    host.serving after ∧ Vouched fact (host.underWay after) ∧
      ∀ bytes, outcome = .done bytes → ∃ message, ∃ given : Nat, fact message ∧
        signed? message.payload 8 = some (given : Int) ∧
        message.payload.drop transferHeader = bytes ∧ bytes.length ≤ call.wanted := by
  rcases readFile_asks ends with ⟨_, rfl, rfl⟩ | ⟨inRange, ending, asked, taken⟩
  · exact ⟨serving, vouched, nofun⟩
  · obtain ⟨frame, framed⟩ := readRequest_framed call.descriptor call.position call.wanted
    obtain ⟨serves, rest, fits⟩ := sendUntilAnswered_hears serving vouched inRange own framed
      ((transact_ends framed).mp asked)
    refine ⟨serves, rest, ?_⟩
    rintro bytes rfl
    obtain ⟨_, answer, given, other, told, few, exact, rfl⟩ := readFile_ends_done.mp ends
    obtain ⟨rfl, _⟩ := asked.unique other
    refine ⟨_, given, fits answer rfl, told, rfl, ?_⟩
    rw [List.length_drop]
    have bound : given ≤ call.wanted := few
    omega

/-! ## Lines without delays -/

/-- A frame was sent a number of times, one after the other, and each time the answer was lost:
nothing joined the line, and a read brought nothing. -/
inductive Lost (host : FileHost ω device) (frame : Bytes) : Nat → ω → ω → Prop where
  | never (world : ω) : Lost host frame 0 world world
  | again {before sent silent after : ω} {count : Nat}
      (wrote : (device.write 0 frame).Ends before (.done frame.length) sent)
      (lost : host.underWay sent = host.underWay before)
      (read : (device.read 0 receiveChunk Capacity.readTimeout).Ends sent (.done []) silent)
      (others : Lost host frame count silent after) : Lost host frame (count + 1) before after

variable {message : Message} {frame : Bytes}

/-- Where nothing is under way, nothing is heard. -/
theorem receive_silent {decoder : Decoder} {outcome : Outcome FileError (Option Message)}
    (patient : 0 < patience) (serving : host.serving before) (idle : host.underWay before = [])
    (ends : (receive device decoder patience).Ends before outcome after) :
    (device.read 0 receiveChunk Capacity.readTimeout).Ends before (.done []) after ∧
      outcome = .done none ∧ host.serving after ∧ host.underWay after = [] := by
  obtain ⟨reads, rfl⟩ := Nat.exists_eq_add_one_of_ne_zero (Nat.ne_of_gt patient)
  obtain ⟨bytes, middle, read, still, line, heard⟩ := receive_takes serving ends
  rw [idle] at line
  obtain ⟨rfl, rest⟩ := List.append_eq_nil_iff.mp line.symm
  rcases heard with ⟨_, none, rfl⟩ | ⟨message, found, _⟩ | ⟨some, _⟩
  · exact ⟨read, none, still, rest⟩
  · cases found
  · exact absurd rfl some

/-- Where the rest of a frame is under way and nothing comes late, its message is heard. -/
theorem Prompt.receive {fed : Bytes} {reads : Nat}
    {outcome : Outcome FileError (Option Message)} (prompt : host.Prompt)
    (serving : host.serving before)
    (framed : encodeFrame? message = some (fed ++ host.underWay before))
    (more : host.underWay before ≠ []) (patient : (host.underWay before).length ≤ reads)
    (ends : (receive device (Decoder.start.feed fed).1 reads).Ends before outcome after) :
    outcome = .done (some message) ∧ host.serving after ∧ host.underWay after = [] := by
  induction reads generalizing fed before with
  | zero => exact absurd (List.length_eq_zero_iff.mp (Nat.le_zero.mp patient)) more
  | succ reads ih =>
      obtain ⟨bytes, middle, read, still, line, heard⟩ := receive_takes serving ends
      have some := prompt serving read more
      rw [line, ← List.append_assoc] at framed
      rcases Decoder.feedUntilMessage_frame framed some with
        ⟨further, none, next⟩ | ⟨last, complete⟩
      · rcases heard with ⟨empty, _⟩ | ⟨_, found, _⟩ | ⟨_, _, ends⟩
        · exact absurd empty some
        · cases none.symm.trans found
        · rw [next] at ends
          refine ih still framed further ?_ ends
          have shorter := List.length_pos_iff.mpr some
          rw [line, List.length_append] at patient
          omega
      · rcases heard with ⟨empty, _⟩ | ⟨_, found, rfl, rfl⟩ | ⟨_, none, _⟩
        · exact absurd empty some
        · cases found.symm.trans complete
          exact ⟨rfl, still, last⟩
        · cases none.symm.trans complete

/-- Where nothing comes late and nothing is under way, a request is answered, unless all of its
answers are lost. -/
theorem Prompt.sendUntilAnswered {call : ReadCall} {left : Nat}
    {outcome : Outcome FileError Bytes} (prompt : host.Prompt) (patient : longestFrame ≤ patience)
    (serving : host.serving before) (idle : host.underWay before = [])
    (inRange : call.position < UInt32.size)
    (framed : encodeFrame? (readRequest call.descriptor call.position call.wanted) = some frame)
    (ends : (sendUntilAnswered device patience Request.read.type frame left).Ends before outcome
      after) :
    host.serving after ∧ host.underWay after = [] ∧
      ((∃ payload, outcome = .done payload ∧
          Answers host.contents call.descriptor call.position call.wanted payload) ∨
        outcome = .failed .timeout ∧ host.Lost frame left before after) := by
  induction left generalizing before with
  | zero =>
      obtain ⟨rfl, rfl⟩ := ends
      exact ⟨serving, idle, .inr ⟨rfl, .never before⟩⟩
  | succ left ih =>
      obtain ⟨sent, heard, ending, wrote, still, lost | ⟨payload, answer, answers, coded, joined⟩,
        listened, came⟩ := sendUntilAnswered_takes serving inRange framed ends
      · have patient : 0 < patience := Nat.lt_of_lt_of_le (by decide) patient
        obtain ⟨read, rfl, serves, quiet⟩ :=
          receive_silent patient still (lost.trans idle) listened
        rcases came with ⟨_, impossible, _⟩ | ⟨_, ends⟩ | ⟨halts, _⟩
        · cases impossible
        · obtain ⟨end_, rest, result⟩ := ih serves quiet ends
          refine ⟨end_, rest, ?_⟩
          rcases result with answered | ⟨failed, others⟩
          · exact .inl answered
          · exact .inr ⟨failed, .again wrote lost read others⟩
        · cases halts
      · rw [idle, List.nil_append] at joined
        have whole : encodeFrame? ⟨Request.read.type, payload⟩ = some ([] ++ host.underWay sent) :=
          joined ▸ coded
        have enough : (host.underWay sent).length ≤ patience :=
          joined ▸ Nat.le_trans (length_frame_le coded) patient
        have some : host.underWay sent ≠ [] := by
          obtain ⟨_, rfl⟩ := encodeFrame?_eq_some.mp coded
          rw [joined]
          exact List.cons_ne_nil _ _
        obtain ⟨rfl, serves, quiet⟩ := prompt.receive still whole some enough listened
        rcases came with ⟨message, same, rfl, ⟨_, done⟩ | ⟨other, _⟩⟩ | ⟨impossible, _⟩ | ⟨halts, _⟩
        · cases same
          exact ⟨serves, quiet, .inl ⟨payload, done, answers⟩⟩
        · cases same
          exact absurd rfl other
        · cases impossible
        · cases halts

/-- **Where nothing comes late and nothing is under way, a call yields what the file holds**,
unless all answers to its request are lost, or nothing can be read there; and nothing is under
way after it. -/
theorem Prompt.run {call : ReadCall} {outcome : Outcome FileError Bytes} (prompt : host.Prompt)
    (patient : longestFrame ≤ patience) (serving : host.serving before)
    (idle : host.underWay before = []) (ends : (call.run device patience).Ends before outcome after) :
    host.serving after ∧ host.underWay after = [] ∧
      ((∃ bytes, outcome = .done bytes ∧ host.Holds call bytes) ∨
        (outcome = .failed .timeout ∧ ∃ frame,
          encodeFrame? (readRequest call.descriptor call.position call.wanted) = some frame ∧
          host.Lost frame attempts before after) ∨
        outcome = .failed .unsupported ∧ UInt32.size ≤ call.position ∨
        outcome = .failed .device ∧ host.contents call.descriptor = none) := by
  rcases readFile_asks ends with ⟨beyond, failed, rfl⟩ | ⟨inRange, ending, asked, taken⟩
  · exact ⟨serving, idle, .inr (.inr (.inl ⟨failed, beyond⟩))⟩
  · obtain ⟨frame, framed⟩ := readRequest_framed call.descriptor call.position call.wanted
    obtain ⟨serves, quiet, result⟩ := prompt.sendUntilAnswered patient serving idle inRange framed
      ((transact_ends framed).mp asked)
    refine ⟨serves, quiet, ?_⟩
    rcases result with ⟨payload, rfl, answers⟩ | ⟨rfl, lost⟩
    · rcases answers.counted (Nat.min_le_right _ _) with
        ⟨given, told, short, exact⟩ | ⟨number, told, negative, unknown⟩
      · have done := readFile_ends_done.mpr
          ⟨inRange, payload, given, asked, told, short, exact, rfl⟩
        obtain ⟨rfl, _⟩ := ends.unique done
        exact .inl ⟨_, rfl, holds_of_answers answers told⟩
      · have failed := readFile_refused inRange asked told negative
        obtain ⟨rfl, _⟩ := ends.unique failed
        exact .inr (.inr (.inr ⟨rfl, unknown⟩))
    · refine .inr (.inl ⟨?_, frame, framed, lost⟩)
      rcases taken with halts | ⟨_, impossible⟩
      · cases halts
        rfl
      · cases impossible

end FileHost

end Bootloader.Link
