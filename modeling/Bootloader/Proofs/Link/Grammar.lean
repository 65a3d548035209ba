import Bootloader.Proofs.Link.Framing

/-!
# What a stream says

A stream is cut at its marks (`segments`). What follows a mark up to the next one has its
escape bytes taken out (`unstuff`), and holds a message if it begins with one: a header with an
allowed length, as many bytes as it announces, and the right checksum (`message?`). A decoder
finds exactly these messages (`Decoder.Steady.found_eq`), although it looks at one byte at a time
and at nothing twice.
-/

set_option autoImplicit false

namespace Bootloader.Link

/-- The parts of a stream that follow its marks, each up to the next mark. -/
def segments (stream : Bytes) : List Bytes :=
  (stream.splitOn mark).tail

/-- Bytes with every escape byte taken out and the byte behind it changed back. -/
def unstuff : Bytes → Bytes
  | [] => []
  | [byte] => if byte = escape then [] else [byte]
  | byte :: next :: rest =>
      if byte = escape then disguise next :: unstuff rest else byte :: unstuff (next :: rest)

/-- The message that contents begin with. -/
def message? (contents : Bytes) : Option Message :=
  let length := announcedLength contents
  if headerSize ≤ contents.length ∧ length ≤ Capacity.message ∧
      headerSize + length ≤ contents.length ∧
      Bytes.toNat (contents.take 4) = (crc32 (contents.slice 4 (4 + length))).toNat then
    some ⟨announcedType contents, contents.slice headerSize length⟩
  else none

/-- The messages in a stream, in order. -/
def messages (stream : Bytes) : List Message :=
  (segments stream).filterMap fun segment => message? (unstuff segment)

theorem unstuff_escaped (changed : UInt8) (rest : Bytes) :
    unstuff (escape :: changed :: rest) = disguise changed :: unstuff rest := by
  rw [unstuff, if_pos rfl]

theorem unstuff_plain {byte : UInt8} (plain : byte ≠ escape) (rest : Bytes) :
    unstuff (byte :: rest) = byte :: unstuff rest := by
  cases rest with
  | nil => exact if_neg plain
  | cons next others => rw [unstuff, if_neg plain]

variable {contents : Bytes}

/-- Contents that are still pending hold no message. -/
theorem message?_of_pending (pending : Pending contents) : message? contents = none := by
  refine if_neg ?_
  rintro ⟨headed, _, long, _⟩
  have short := ((pending_iff headed).mp pending).2
  omega

/-- Settled contents are judged for the message they hold, whatever follows them. -/
theorem message?_of_settled (settled : Settled contents) (rest : Bytes) :
    message? (contents ++ rest) = (Decoder.judge contents).2.message? := by
  have headed := settled.headed
  have longer : headerSize ≤ (contents ++ rest).length := by
    rw [List.length_append]
    omega
  unfold message?
  dsimp only
  rw [announcedLength_append headed, announcedType_append headed]
  rcases settled.ends with much | ⟨allowed, exact⟩
  · rw [Decoder.judge_of_oversized headed much]
    exact if_neg fun read => Nat.not_le_of_lt much read.2.1
  · have room : headerSize + announcedLength contents ≤ (contents ++ rest).length := by
      rw [List.length_append]
      omega
    have few : 4 ≤ contents.length := Nat.le_trans (by decide) headed
    have body : (contents ++ rest).slice 4 (4 + announcedLength contents) = contents.drop 4 := by
      rw [Bytes.slice_append rest (by rw [exact, headerSize]; omega), Bytes.slice]
      refine List.take_of_length_le ?_
      rw [List.length_drop, exact, headerSize]
      omega
    have payload : (contents ++ rest).slice headerSize (announcedLength contents) =
        contents.drop headerSize := by
      rw [Bytes.slice_append rest (Nat.le_of_eq exact.symm), Bytes.slice]
      refine List.take_of_length_le ?_
      rw [List.length_drop, exact]
      omega
    rw [body, payload, List.take_append_of_le_length few, Decoder.judge_of_complete allowed exact]
    by_cases right : Bytes.toNat (contents.take 4) = (crc32 (contents.drop 4)).toNat
    · rw [if_pos ⟨longer, allowed, room, right⟩, if_pos right]
      rfl
    · rw [if_neg fun read => right read.2.2.2, if_neg right]
      rfl

namespace Decoder

/-- The message that a decoder in a frame is about to find, if what follows up to the next mark
is `segment`. -/
def awaited? (decoder : Decoder) (segment : Bytes) : Option Message :=
  if decoder.inFrame then
    message? (decoder.contents ++ unstuff (if decoder.escaped then escape :: segment else segment))
  else none

theorem awaited?_outside {decoder : Decoder} (outside : decoder.inFrame = false)
    (segment : Bytes) : decoder.awaited? segment = none := by
  rw [awaited?, outside]
  rfl

theorem awaited?_opened (segment : Bytes) :
    awaited? ⟨[], true, false⟩ segment = message? (unstuff segment) :=
  rfl

/-- At the end of a segment nothing is awaited any more. -/
theorem Steady.awaited?_nil {decoder : Decoder} (steady : decoder.Steady) :
    decoder.awaited? [] = none := by
  obtain ⟨contents, inFrame, escaped⟩ := decoder
  cases inFrame with
  | false => rfl
  | true =>
      have pending := message?_of_pending (steady.collecting rfl)
      cases escaped <;> rwa [← List.append_nil contents] at pending

/-- Judged contents are the message that was awaited, or it is awaited further. -/
theorem judge_awaited? (pending : Pending contents) (byte : UInt8) (rest : Bytes) :
    message? (contents ++ byte :: unstuff rest) =
      ((judge (contents ++ [byte])).2.message?).or ((judge (contents ++ [byte])).1.awaited? rest) := by
  rw [List.append_cons]
  rcases pending.settles byte with still | settled
  · rw [judge_of_pending still]
    rfl
  · rw [message?_of_settled settled, (judge_of_settled settled).1]
    exact (Option.or_none ..).symm

/-- A byte that is no mark gives the message that was awaited, or it is awaited further. -/
theorem Steady.push_awaited? {decoder : Decoder} (steady : decoder.Steady) {byte : UInt8}
    (plain : byte ≠ mark) (rest : Bytes) :
    decoder.awaited? (byte :: rest) =
      ((decoder.push byte).2.message?).or ((decoder.push byte).1.awaited? rest) := by
  obtain ⟨contents, inFrame, escaped⟩ := decoder
  cases inFrame with
  | false =>
      rw [push_outside rfl plain]
      rfl
  | true =>
      have pending := steady.collecting rfl
      cases escaped with
      | true =>
          have found := judge_awaited? pending (disguise byte) rest
          rw [push_escaped contents plain, ← found, ← unstuff_escaped]
          rfl
      | false =>
          by_cases escapes : byte = escape
          · rw [escapes, push_escape]
            rfl
          · have found := judge_awaited? pending byte rest
            rw [push_plain contents plain escapes, ← found, ← unstuff_plain escapes]
            rfl

/-- A steady decoder finds the message that it awaits, and then those of the segments behind
the next marks. -/
theorem Steady.found_eq {decoder : Decoder} (steady : decoder.Steady) (stream : Bytes) :
    ∃ first others, stream.splitOn mark = first :: others ∧
      decoder.found stream = (decoder.awaited? first).toList ++
        others.filterMap fun segment => message? (unstuff segment) := by
  induction stream generalizing decoder with
  | nil =>
      refine ⟨[], [], List.splitOn_nil mark, ?_⟩
      rw [steady.awaited?_nil]
      rfl
  | cons byte rest ih =>
      obtain ⟨first, others, cut, found⟩ := ih (steady.push byte).1
      rw [found_cons, found, List.splitOn_cons_eq_if_modifyHead, cut]
      by_cases marked : byte = mark
      · refine ⟨[], first :: others, by rw [marked]; rfl, ?_⟩
        rw [marked, push_mark, steady.awaited?_nil, awaited?_opened, List.filterMap_cons]
        cases message? (unstuff first) <;> rfl
      · refine ⟨byte :: first, others, by rw [if_neg (by simpa using marked)]; rfl, ?_⟩
        rw [steady.push_awaited? marked]
        cases heard : (decoder.push byte).2.message? with
        | none => rfl
        | some message =>
            -- What is heard ends the frame, so nothing else comes of this segment.
            have ended : (decoder.push byte).2 ≠ .nothing := by
              intro silent
              rw [silent] at heard
              cases heard
            rw [awaited?_outside ((steady.push byte).2 ended)]
            rfl

end Decoder

/-- **A decoder accepts exactly the grammar.** On any stream it finds the messages that the
grammar gives, in order and each once; it never holds more than the longest message needs; and
behind a frame that is complete or rejected it passes over everything up to the next mark. -/
theorem decoder_accepts_grammar (stream : Bytes) :
    Decoder.start.found stream = messages stream ∧
      (Decoder.start.feed stream).1.contents.length ≤ headerSize + Capacity.message ∧
      ∀ earlier byte later, stream = earlier ++ byte :: later → mark ∉ later →
        let taken := (Decoder.start.feed earlier).1.push byte
        taken.2 ≠ .nothing → taken.1.feed later = (taken.1, List.replicate later.length .nothing) := by
  refine ⟨?_, (Decoder.steady_start.feed stream).bounded, ?_⟩
  · obtain ⟨first, others, cut, found⟩ := Decoder.steady_start.found_eq stream
    rw [found, Decoder.awaited?_outside rfl, messages, segments, cut]
    rfl
  · rintro earlier byte later rfl unmarked _ heard
    have outside := ((Decoder.steady_start.feed earlier).push byte).2 heard
    exact Decoder.feed_outside outside unmarked

/-- A frame without payload, two bytes that belong to nothing, a frame that breaks off behind an
escape byte, and a frame that announces too much. -/
def brokenStream : Bytes :=
  [mark, 0x4b, 0x48, 0x26, 0xae, 4, 0, 0, 0] ++ [escape, 0x55] ++ [mark, 1, 2, escape] ++
    [mark, 0, 0, 0, 0, 4, 0, 1, 4, 9]

/-- Only the first frame is a message. What follows it is passed over. -/
theorem decoder_accepts_grammar_broken :
    Decoder.start.found brokenStream = [⟨4, []⟩] ∧
      brokenStream.take 11 = [mark, 0x4b, 0x48, 0x26, 0xae, 4, 0, 0] ++ 0 :: [escape, 0x55] ∧
      mark ∉ [escape, 0x55] ∧
      let taken := (Decoder.start.feed [mark, 0x4b, 0x48, 0x26, 0xae, 4, 0, 0]).1.push 0
      taken.2 ≠ .nothing ∧ taken.1.feed [escape, 0x55] = (taken.1, List.replicate 2 .nothing) := by
  have messages : messages brokenStream = [⟨4, []⟩] := by decide +kernel
  have heard : ((Decoder.start.feed [mark, 0x4b, 0x48, 0x26, 0xae, 4, 0, 0]).1.push 0).2 ≠
      .nothing := by decide +kernel
  refine ⟨(decoder_accepts_grammar brokenStream).1.trans messages, rfl, by decide, heard, ?_⟩
  exact (decoder_accepts_grammar (brokenStream.take 11)).2.2 _ _ _ rfl (by decide) heard

end Bootloader.Link
