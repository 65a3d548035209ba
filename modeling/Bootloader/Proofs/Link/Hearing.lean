import Bootloader.Link.Client
import Bootloader.Proofs.Act.Ends
import Bootloader.Proofs.Link.Framing

/-!
# What can be heard on a line

Whoever waits for an answer listens to some part of the bytes on a line: not from their
beginning, since earlier bytes were taken before, and not to their end. A line is vouched for
when no part of it holds a message without a certain property (`Vouched`). This stays true when
bytes are taken from its front, and when the frame of a message with the property joins its end
(`Vouched.append_frame`): a part that covers the frame in half does not hold a message from it.
-/

set_option autoImplicit false

namespace Bootloader.Link

namespace Decoder

variable {decoder : Decoder} {bytes : Bytes}

/-- Bytes are taken up to the first message, or all of them where there is none. -/
theorem feedUntilMessage_cases (decoder : Decoder) (bytes : Bytes) :
    ((decoder.feedUntilMessage bytes).2.1 = none ∧ decoder.found bytes = [] ∧
      (decoder.feedUntilMessage bytes).1 = (decoder.feed bytes).1) ∨
    ∃ message taken, taken <+: bytes ∧ decoder.found taken = [message] ∧
      (decoder.feedUntilMessage bytes).2.1 = some message := by
  induction bytes generalizing decoder with
  | nil => exact .inl ⟨rfl, rfl, rfl⟩
  | cons byte rest ih =>
      rw [feedUntilMessage, found_cons, feed_cons]
      generalize taken : decoder.push byte = result
      obtain ⟨next, event⟩ := result
      have further : event.message? = none →
          ((next.feedUntilMessage rest).2.1 = none ∧ event.message?.toList ++ next.found rest = [] ∧
            (next.feedUntilMessage rest).1 = (next.feed rest).1) ∨
          ∃ message taken, taken <+: byte :: rest ∧ decoder.found taken = [message] ∧
            (next.feedUntilMessage rest).2.1 = some message := by
        intro silent
        rw [silent]
        rcases ih next with none | ⟨message, others, first, heard, same⟩
        · exact .inl none
        · refine .inr ⟨message, byte :: others, List.cons_prefix_cons.mpr ⟨rfl, first⟩, ?_, same⟩
          rw [found_cons, taken, silent, heard]
          rfl
      cases event with
      | message message =>
          refine .inr ⟨message, [byte], List.cons_prefix_cons.mpr ⟨rfl, List.nil_prefix⟩, ?_, rfl⟩
          rw [found_cons, taken]
          rfl
      | nothing => exact further rfl
      | oversized => exact further rfl
      | badChecksum => exact further rfl

/-- Of a frame that arrives in pieces, the last piece completes the message, and those before it
leave the decoder waiting. -/
theorem feedUntilMessage_frame {message : Message} {fed rest : Bytes}
    (framed : encodeFrame? message = some (fed ++ bytes ++ rest)) (filled : bytes ≠ []) :
    let taken := (start.feed fed).1.feedUntilMessage bytes
    (rest ≠ [] ∧ taken.2.1 = none ∧ taken.1 = (start.feed (fed ++ bytes)).1) ∨
      (rest = [] ∧ taken.2.1 = some message) := by
  have silent : start.found fed = [] := by
    rw [List.append_assoc] at framed
    exact start.found_beginning framed fun empty => filled (List.append_eq_nil_iff.mp empty).1
  rcases feedUntilMessage_cases (start.feed fed).1 bytes with
    ⟨none, nothing, next⟩ | ⟨other, taken, ⟨left, rfl⟩, found, same⟩
  · refine .inl ⟨?_, none, ?_⟩
    · rintro rfl
      have all := start.found_frame framed
      rw [List.append_nil, found_append, silent, nothing] at all
      cases all
    · rw [next, feed_append]
  · -- No message is complete before the last byte of the frame.
    have complete : start.found (fed ++ taken) = [other] := by
      rw [found_append, silent, found]
      rfl
    rw [← List.append_assoc fed, List.append_assoc _ left] at framed
    have last : left ++ rest = [] := by
      refine Classical.byContradiction fun behind => ?_
      cases complete.symm.trans (start.found_beginning framed behind)
    obtain ⟨_, rfl⟩ := List.append_eq_nil_iff.mp last
    rw [last, List.append_nil] at framed
    cases complete.symm.trans (start.found_frame framed)
    exact .inr ⟨rfl, same⟩

end Decoder

/-- No part of the bytes holds a message without the property, wherever it begins and ends. -/
def Vouched (fact : Message → Prop) (line : Bytes) : Prop :=
  ∀ part, part <:+: line → ∀ message ∈ Decoder.start.found part, fact message

variable {fact : Message → Prop} {line : Bytes}

theorem vouched_nil : Vouched fact [] := by
  intro part inside message listed
  rw [List.infix_nil.mp inside] at listed
  cases listed

theorem Vouched.part {part : Bytes} (vouched : Vouched fact line) (inside : part <:+: line) :
    Vouched fact part :=
  fun smaller within => vouched smaller (within.trans inside)

/-- What begins a frame gives its message or none. -/
theorem fact_of_found_prefix {decoder : Decoder} {message heard : Message} {frame first : Bytes}
    (framed : encodeFrame? message = some frame) (holds : fact message) (begins : first <+: frame)
    (listed : heard ∈ decoder.found first) : fact heard := by
  obtain ⟨rest, rfl⟩ := begins
  have all := decoder.found_frame framed
  rw [Decoder.found_append] at all
  have among : heard ∈ [message] := all ▸ List.mem_append_left _ listed
  rwa [List.mem_singleton.mp among]

/-- **The frame of a message with the property may join the line.** -/
theorem Vouched.append_frame {message : Message} {frame : Bytes} (vouched : Vouched fact line)
    (framed : encodeFrame? message = some frame) (holds : fact message) :
    Vouched fact (line ++ frame) := by
  rintro part ⟨earlier, later, whole⟩ heard listed
  rcases List.append_eq_append_iff.mp whole with ⟨tail, before, _⟩ | ⟨first, after, cut⟩
  · -- The part ends before the frame begins.
    refine vouched part ⟨earlier, tail, ?_⟩ heard listed
    rw [before]
  · rcases List.append_eq_append_iff.mp after with ⟨tail, before, rfl⟩ | ⟨missed, rfl, rest⟩
    · -- The part begins on the line and ends in the frame.
      rw [Decoder.found_append] at listed
      rcases List.mem_append.mp listed with listed | listed
      · exact vouched tail (before ▸ (List.suffix_append earlier tail).isInfix) heard listed
      · exact fact_of_found_prefix framed holds ⟨later, cut.symm⟩ listed
    · cases missed with
      | nil =>
          rw [List.nil_append] at rest
          exact fact_of_found_prefix framed holds ⟨later, rest ▸ cut.symm⟩ listed
      | cons byte others =>
          -- The part begins behind the mark of the frame, so a decoder passes over it.
          obtain ⟨_, rfl⟩ := encodeFrame?_eq_some.mp framed
          rw [rest, List.append_assoc] at cut
          obtain ⟨_, stuffed⟩ := List.cons_eq_cons.mp cut
          have unmarked : mark ∉ part := by
            intro among
            refine mark_not_mem_stuff message.contents ?_
            rw [stuffed]
            exact List.mem_append_right _ (List.mem_append_left _ among)
          rw [Decoder.found_outside rfl unmarked] at listed
          cases listed

end Bootloader.Link
