import Bootloader.Proofs.Link.Line

/-!
# Answers that come late

An answer that does not come in time has its request sent again, so two answers to it are under
way, and the second one may be left on the line when the next call begins. A client does not
compare the descriptor and the position of an answer with those of its request, so that call may
take the answer that was left (`late_answer_taken`).

What a sequence of calls can rely on is said by `late_answers`: a call yields no more than it
wants, and what it yields is what the file holds where this call or an earlier one reads. It is
what the file holds where this call reads if nothing was under way when it began, which is so
if no answer ever comes late.
-/

set_option autoImplicit false

namespace Bootloader.Link

open Act Bench

variable {ω : Type} [Hardware ω] {device : DeviceId} {patience : Nat} {before after : ω}

/-- What calls to read leave behind, one after the other. -/
def afterCalls (device : DeviceId) (patience : Nat) (calls : List ReadCall) (world : ω) : ω :=
  calls.foldl (fun world call => ((call.run device patience).run world).state) world

namespace FileHost

variable {host : FileHost ω device} {calls : List ReadCall}

/-- Calls keep the line vouched for, by what vouches for the answers to each of them. -/
theorem calls_hear {fact : Message → Prop} (serving : host.serving before)
    (vouched : Vouched fact (host.underWay before))
    (own : ∀ call ∈ calls, ∀ message, host.AnswersTo call message → fact message) :
    host.serving (afterCalls device patience calls before) ∧
      Vouched fact (host.underWay (afterCalls device patience calls before)) := by
  induction calls generalizing before with
  | nil => exact ⟨serving, vouched⟩
  | cons call later ih =>
      obtain ⟨still, line, _⟩ :=
        run_hears serving vouched (own call List.mem_cons_self) (ends_run _ before)
      exact ih still line fun call listed => own call (List.mem_cons_of_mem _ listed)

/-- Where no answer comes late, calls leave nothing under way. -/
theorem Prompt.idle_afterCalls (prompt : host.Prompt) (patient : longestFrame ≤ patience)
    (serving : host.serving before) (idle : host.underWay before = []) :
    host.underWay (afterCalls device patience calls before) = [] := by
  induction calls generalizing before with
  | nil => exact idle
  | cons call later ih =>
      obtain ⟨still, quiet, _⟩ := prompt.run patient serving idle (ends_run _ before)
      exact ih still quiet

/-- A call takes an answer to one of the calls that the line is vouched for by. -/
theorem run_holds {call : ReadCall} {bytes : Bytes} (serving : host.serving before)
    (vouched : Vouched (fun message => ∃ asked ∈ calls, host.AnswersTo asked message)
      (host.underWay before))
    (listed : call ∈ calls)
    (ends : (call.run device patience).Ends before (.done bytes) after) :
    bytes.length ≤ call.wanted ∧ ∃ asked ∈ calls, host.Holds asked bytes := by
  obtain ⟨_, _, heard⟩ :=
    run_hears serving vouched (fun message answers => ⟨call, listed, answers⟩) ends
  obtain ⟨message, given, ⟨asked, among, _, answers⟩, told, rfl, few⟩ := heard bytes rfl
  exact ⟨few, asked, among, holds_of_answers answers told⟩

end FileHost

/-- **What reads and writes can rely on when answers come late.** A call to read, made after
others, yields what the file holds where one of them reads; it is what the call asks for if
nothing was under way, or no answer ever comes late. Nothing that an answer repeats of its
request is compared: reads and writes take any answer of their type that is not too long. -/
theorem late_answers (device : DeviceId) (patience : Nat) :
    (∀ (host : FileHost ω device) (calls : List ReadCall) (call : ReadCall) (bytes : Bytes)
      (before after : ω), host.serving before → host.underWay before = [] →
      (call.run device patience).Ends (afterCalls device patience calls before) (.done bytes)
        after →
      bytes.length ≤ call.wanted ∧
        (∃ asked ∈ calls ++ [call], host.Holds asked bytes) ∧
        (host.underWay (afterCalls device patience calls before) = [] → host.Holds call bytes) ∧
        (host.Prompt → longestFrame ≤ patience → host.Holds call bytes)) ∧
    (∀ (call : ReadCall) (echo : Field 8) (bytes : Bytes) (before after : ω),
      call.position < UInt32.size → bytes.length ≤ call.wanted →
      (transact device patience .read
        (readRequest call.descriptor call.position call.wanted).payload).Ends before
          (.done (echo.bytes ++ word bytes.length ++ bytes)) after →
      (call.run device patience).Ends before (.done bytes) after) ∧
    ∀ (descriptor position written : Nat) (data rest : Bytes) (echo : Field 8)
      (before after : ω), position < UInt32.size → written ≤ min data.length maximumTransfer →
      (transact device patience .write
        (word descriptor ++ word position ++ word (min data.length maximumTransfer) ++
          data.take (min data.length maximumTransfer))).Ends before
            (.done (echo.bytes ++ word written ++ rest)) after →
      (writeFile device patience descriptor position data).Ends before (.done written) after := by
  refine ⟨?_, ?_, ?_⟩
  · intro host calls call bytes before after serving idle ends
    -- All calls vouch for the line, since any of their answers may still be under way.
    have silent : Vouched
        (fun message => ∃ asked ∈ calls ++ [call], host.AnswersTo asked message)
        (host.underWay before) := idle ▸ vouched_nil
    obtain ⟨still, line⟩ := FileHost.calls_hear serving silent
      fun asked among message answers => ⟨asked, List.mem_append_left [call] among, answers⟩
    obtain ⟨few, held⟩ := FileHost.run_holds still line
      (List.mem_append_right calls (List.mem_singleton_self call)) ends
    -- An empty line is vouched for by this call alone.
    have own : host.underWay (afterCalls device patience calls before) = [] →
        host.Holds call bytes := by
      intro quiet
      obtain ⟨_, asked, among, holds⟩ := FileHost.run_holds still (quiet ▸ vouched_nil)
        (List.mem_singleton_self call) ends
      exact List.mem_singleton.mp among ▸ holds
    exact ⟨few, held, own, fun prompt patient => own (prompt.idle_afterCalls patient serving idle)⟩
  · intro call echo bytes before after inRange few heard
    exact readFile_takes echo inRange few heard
  · intro descriptor position written data rest echo before after inRange few heard
    exact writeFile_takes echo inRange few heard

/-! ## An answer that is left on the line -/

/-- No answer is lost, but the first one comes late, and at the next read as many bytes arrive as
are given. -/
def slowLine (arrived : Nat) : Line :=
  ⟨smallHost, [0, arrived]⟩

/-- Calls that read the file in two halves. -/
def firstHalf : ReadCall := ⟨0, 0, 4⟩

def secondHalf : ReadCall := ⟨0, 4, 4⟩

theorem slowLine_serving (arrived : Nat) :
    (Line.fileHost smallHost 0 uart).serving (slowLine arrived) :=
  ⟨rfl, rfl, fun _ _ => Nat.zero_le _⟩

/-- Late answers to a read and to a write are taken by the next ones; what the read yields is
what one of the two reads asked for. -/
theorem late_answers_slow_line :
    let between := afterCalls uart 64 [firstHalf] (slowLine 25)
    let written := ((writeFile uart 64 0 0 [1, 2]).run (slowLine 21)).state
    (∃ asked ∈ [firstHalf, secondHalf],
      (Line.fileHost smallHost 0 uart).Holds asked [0x41, 0x41, 0x41, 0x41]) ∧
    ∃ after later, (secondHalf.run uart 64).Ends between (.done [0x41, 0x41, 0x41, 0x41]) after ∧
      (writeFile uart 64 0 4 [3, 4, 5, 6]).Ends written (.done 2) later := by
  intro between written
  obtain ⟨calls, reads, writes⟩ := @late_answers Line _ uart 64
  have read := reads secondHalf (Field.zero 8) [0x41, 0x41, 0x41, 0x41] between _ (by decide)
    (by decide) ⟨by decide +kernel, rfl⟩
  have wrote := writes 0 4 2 [3, 4, 5, 6] [] (Field.zero 8) written _ (by decide) (by decide)
    ⟨by decide +kernel, rfl⟩
  obtain ⟨_, held, _⟩ := calls (Line.fileHost smallHost 0 uart) [firstHalf] secondHalf _ _ _
    (slowLine_serving 25) rfl read
  exact ⟨held, _, _, read, wrote⟩

/-- **A late answer is taken for another one.** The second half of the file is read after the
first one, whose answer came late and was asked for twice; the call yields the first half again,
from the answer that was left, which says that it is the first half. -/
theorem late_answer_taken :
    let host := Line.fileHost smallHost 0 uart
    let between := afterCalls uart 64 [firstHalf] (slowLine 25)
    host.serving (slowLine 25) ∧ host.underWay (slowLine 25) = [] ∧
      ((firstHalf.run uart 64).run (slowLine 25)).outcome = .done [0x41, 0x41, 0x41, 0x41] ∧
      encodeFrame? ⟨Request.read.type, word 0 ++ word 0 ++ word 4 ++ [0x41, 0x41, 0x41, 0x41]⟩ =
        some (host.underWay between) ∧
      ((secondHalf.run uart 64).run between).outcome = .done [0x41, 0x41, 0x41, 0x41] ∧
      ¬ host.Holds secondHalf [0x41, 0x41, 0x41, 0x41] := by
  intro host between
  refine ⟨slowLine_serving 25, rfl, by decide +kernel, by decide +kernel, by decide +kernel, ?_⟩
  rintro ⟨file, known, part, _, _⟩
  cases known
  revert part
  decide

end Bootloader.Link
