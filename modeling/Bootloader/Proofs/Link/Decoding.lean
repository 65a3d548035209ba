import Bootloader.Link.Frame

/-!
# Collecting the contents of a frame

Inside a frame a decoder holds contents that are `Pending`: too short to announce a length, or
announcing one that is allowed and not that long yet. One more byte keeps them pending or
settles them, and then they end exactly where they said, or announced too much
(`Pending.settles`). So the decoder never holds more than the longest message needs
(`Steady.feed`).
-/

set_option autoImplicit false

namespace Bootloader

/-- A part that lies in the first bytes does not depend on what follows them. -/
theorem Bytes.slice_append {bytes : Bytes} {offset count : Nat} (rest : Bytes)
    (inside : offset + count ≤ bytes.length) :
    (bytes ++ rest).slice offset count = bytes.slice offset count := by
  have some : offset ≤ bytes.length := by omega
  have enough : count ≤ (bytes.drop offset).length := by
    rw [List.length_drop]
    omega
  rw [slice, List.drop_append_of_le_length some, List.take_append_of_le_length enough, slice]

namespace Link

variable {contents : Bytes}

theorem announcedLength_append (headed : headerSize ≤ contents.length) (rest : Bytes) :
    announcedLength (contents ++ rest) = announcedLength contents := by
  rw [announcedLength, Bytes.slice_append rest headed, announcedLength]

theorem announcedType_append (headed : headerSize ≤ contents.length) (rest : Bytes) :
    announcedType (contents ++ rest) = announcedType contents := by
  have inside : 4 + 2 ≤ contents.length := Nat.le_trans (by decide) headed
  rw [announcedType, Bytes.slice_append rest inside, announcedType]

/-- Contents that a decoder keeps adding to. -/
def Pending (contents : Bytes) : Prop :=
  contents.length < headerSize ∨
    announcedLength contents ≤ Capacity.message ∧
      contents.length < headerSize + announcedLength contents

theorem pending_nil : Pending [] :=
  .inl (by decide)

theorem Pending.length_lt (pending : Pending contents) :
    contents.length < headerSize + Capacity.message := by
  rcases pending with short | ⟨allowed, short⟩ <;> omega

/-- Contents with a header are pending as long as they are shorter than announced. -/
theorem pending_iff (headed : headerSize ≤ contents.length) :
    Pending contents ↔ announcedLength contents ≤ Capacity.message ∧
      contents.length < headerSize + announcedLength contents := by
  unfold Pending
  constructor
  · rintro (short | announced)
    · omega
    · exact announced
  · exact .inr

/-- Contents that say where they end: behind a length that is not allowed, or here. -/
structure Settled (contents : Bytes) : Prop where
  headed : headerSize ≤ contents.length
  ends : Capacity.message < announcedLength contents ∨
    announcedLength contents ≤ Capacity.message ∧
      contents.length = headerSize + announcedLength contents

/-- One more byte keeps pending contents pending, or settles them. -/
theorem Pending.settles (pending : Pending contents) (byte : UInt8) :
    Pending (contents ++ [byte]) ∨ Settled (contents ++ [byte]) := by
  have longer : (contents ++ [byte]).length = contents.length + 1 := List.length_append
  rcases Nat.lt_or_ge (contents ++ [byte]).length headerSize with short | headed
  · exact .inl (.inl short)
  · rcases Nat.lt_or_ge Capacity.message (announcedLength (contents ++ [byte])) with much | allowed
    · exact .inr ⟨headed, .inl much⟩
    · -- The header was complete before, unless this byte is its last one.
      have reached : (contents ++ [byte]).length ≤
          headerSize + announcedLength (contents ++ [byte]) := by
        rcases Nat.lt_or_ge contents.length headerSize with short | complete
        · omega
        · have before := ((pending_iff complete).mp pending).2
          rw [announcedLength_append complete]
          omega
      rcases Nat.lt_or_eq_of_le reached with short | exact
      · exact .inl (.inr ⟨allowed, short⟩)
      · exact .inr ⟨headed, .inr ⟨allowed, exact⟩⟩

/-- Contents that are as long as they announce are pending before their last byte. -/
theorem pending_take (allowed : announcedLength contents ≤ Capacity.message)
    (exact : contents.length = headerSize + announcedLength contents) {count : Nat}
    (short : count < contents.length) : Pending (contents.take count) := by
  have length : (contents.take count).length = count := by
    rw [List.length_take]
    exact Nat.min_eq_left (Nat.le_of_lt short)
  rcases Nat.lt_or_ge count headerSize with before | headed
  · exact .inl (by rwa [length])
  · have announced : announcedLength (contents.take count) = announcedLength contents := by
      have whole := List.take_append_drop count contents
      rw [← announcedLength_append (by rwa [length]) (contents.drop count), whole]
    refine .inr ⟨announced ▸ allowed, ?_⟩
    rw [length, announced, ← exact]
    exact short

namespace Decoder

theorem judge_of_pending (pending : Pending contents) :
    judge contents = (⟨contents, true, false⟩, .nothing) := by
  unfold judge
  dsimp only
  split
  case isTrue => rfl
  case isFalse headed =>
    obtain ⟨allowed, short⟩ := (pending_iff (Nat.le_of_not_lt headed)).mp pending
    rw [if_neg (Nat.not_lt_of_le allowed), if_pos short]

theorem judge_of_oversized (headed : headerSize ≤ contents.length)
    (much : Capacity.message < announcedLength contents) :
    judge contents = (⟨contents, false, false⟩, .oversized) := by
  unfold judge
  dsimp only
  rw [if_neg (Nat.not_lt_of_le headed), if_pos much]

/-- Contents that are as long as they announce are a message if the checksum is right. -/
theorem judge_of_complete (allowed : announcedLength contents ≤ Capacity.message)
    (exact : contents.length = headerSize + announcedLength contents) :
    judge contents = (⟨contents, false, false⟩,
      if Bytes.toNat (contents.take 4) = (crc32 (contents.drop 4)).toNat then
        .message ⟨announcedType contents, contents.drop headerSize⟩
      else .badChecksum) := by
  have headed : ¬ contents.length < headerSize := by omega
  have long : ¬ contents.length < headerSize + announcedLength contents := by omega
  unfold judge
  dsimp only
  rw [if_neg headed, if_neg (Nat.not_lt_of_le allowed), if_neg long]
  split <;> rfl

/-- Settled contents end the frame. -/
theorem judge_of_settled (settled : Settled contents) :
    (judge contents).1 = ⟨contents, false, false⟩ ∧ (judge contents).2 ≠ .nothing := by
  rcases settled.ends with much | ⟨allowed, exact⟩
  · rw [judge_of_oversized settled.headed much]
    exact ⟨rfl, nofun⟩
  · rw [judge_of_complete allowed exact]
    refine ⟨rfl, ?_⟩
    dsimp only
    split <;> exact nofun

variable {decoder : Decoder} {byte : UInt8} {bytes : Bytes}

/-! ## One byte of the stream -/

theorem push_mark (decoder : Decoder) :
    decoder.push mark = (⟨[], true, false⟩, .nothing) :=
  if_pos rfl

theorem push_outside (outside : decoder.inFrame = false) (plain : byte ≠ mark) :
    decoder.push byte = (decoder, .nothing) := by
  rw [push, if_neg plain, outside]
  rfl

theorem push_escape (contents : Bytes) :
    push ⟨contents, true, false⟩ escape = (⟨contents, true, true⟩, .nothing) := by
  rw [push, if_neg (by decide)]
  rfl

theorem push_escaped (contents : Bytes) (plain : byte ≠ mark) :
    push ⟨contents, true, true⟩ byte = judge (contents ++ [disguise byte]) := by
  rw [push, if_neg plain]
  rfl

theorem push_plain (contents : Bytes) (plain : byte ≠ mark) (open_ : byte ≠ escape) :
    push ⟨contents, true, false⟩ byte = judge (contents ++ [byte]) := by
  rw [push, if_neg plain]
  exact if_neg open_

/-! ## Bytes of the stream -/

theorem feed_cons (decoder : Decoder) (byte : UInt8) (rest : Bytes) :
    decoder.feed (byte :: rest) =
      (((decoder.push byte).1.feed rest).1,
        (decoder.push byte).2 :: ((decoder.push byte).1.feed rest).2) :=
  rfl

/-- Feeding two parts is feeding one after the other. -/
theorem feed_append (decoder : Decoder) (first second : Bytes) :
    decoder.feed (first ++ second) =
      (((decoder.feed first).1.feed second).1,
        (decoder.feed first).2 ++ ((decoder.feed first).1.feed second).2) := by
  induction first generalizing decoder with
  | nil => rfl
  | cons byte rest ih => rw [List.cons_append, feed_cons, ih, feed_cons, List.cons_append]

theorem length_feed (decoder : Decoder) (bytes : Bytes) :
    (decoder.feed bytes).2.length = bytes.length := by
  induction bytes generalizing decoder with
  | nil => rfl
  | cons byte rest ih => rw [feed_cons, List.length_cons, ih, List.length_cons]

/-- Outside of frames everything up to the next mark is passed over. -/
theorem feed_outside (outside : decoder.inFrame = false) (unmarked : mark ∉ bytes) :
    decoder.feed bytes = (decoder, List.replicate bytes.length .nothing) := by
  induction bytes with
  | nil => rfl
  | cons byte rest ih =>
      have plain : byte ≠ mark := fun same => unmarked (same ▸ List.mem_cons_self)
      have others : mark ∉ rest := fun listed => unmarked (List.mem_cons_of_mem byte listed)
      rw [feed_cons, push_outside outside plain, ih others, List.length_cons,
        List.replicate_succ]

/-- The messages that a decoder finds in a stream. -/
def found (decoder : Decoder) (bytes : Bytes) : List Message :=
  (decoder.feed bytes).2.filterMap Event.message?

theorem found_cons (decoder : Decoder) (byte : UInt8) (rest : Bytes) :
    decoder.found (byte :: rest) =
      (decoder.push byte).2.message?.toList ++ (decoder.push byte).1.found rest := by
  rw [found, feed_cons, List.filterMap_cons, found]
  cases (decoder.push byte).2.message? <;> rfl

theorem found_append (decoder : Decoder) (first second : Bytes) :
    decoder.found (first ++ second) =
      decoder.found first ++ (decoder.feed first).1.found second := by
  rw [found, feed_append, List.filterMap_append, found, found]

/-- There is no message in silence. -/
theorem messages_silent (count : Nat) :
    (List.replicate count Event.nothing).filterMap Event.message? = [] := by
  rw [List.filterMap_eq_nil_iff]
  intro event listed
  rw [List.eq_of_mem_replicate listed]
  rfl

theorem found_outside (outside : decoder.inFrame = false) (unmarked : mark ∉ bytes) :
    decoder.found bytes = [] := by
  rw [found, feed_outside outside unmarked, messages_silent]

/-- A decoder that never holds more than it needs to. -/
structure Steady (decoder : Decoder) : Prop where
  bounded : decoder.contents.length ≤ headerSize + Capacity.message
  collecting : decoder.inFrame = true → Pending decoder.contents

theorem steady_start : start.Steady :=
  ⟨Nat.zero_le _, nofun⟩

/-- A byte of contents leaves a steady decoder; what is said of it ends the frame. -/
theorem steady_judge (pending : Pending contents) (byte : UInt8) :
    (judge (contents ++ [byte])).1.Steady ∧
      ((judge (contents ++ [byte])).2 ≠ .nothing →
        (judge (contents ++ [byte])).1.inFrame = false) := by
  have short := pending.length_lt
  have bounded : (contents ++ [byte]).length ≤ headerSize + Capacity.message := by
    rw [List.length_append]
    exact short
  rcases pending.settles byte with still | settled
  · rw [judge_of_pending still]
    exact ⟨⟨bounded, fun _ => still⟩, fun heard => absurd rfl heard⟩
  · rw [(judge_of_settled settled).1]
    exact ⟨⟨bounded, nofun⟩, fun _ => rfl⟩

/-- Any byte leaves a steady decoder steady; what is said of it ends the frame. -/
theorem Steady.push (steady : decoder.Steady) (byte : UInt8) :
    (decoder.push byte).1.Steady ∧
      ((decoder.push byte).2 ≠ .nothing → (decoder.push byte).1.inFrame = false) := by
  obtain ⟨contents, inFrame, escaped⟩ := decoder
  by_cases marked : byte = mark
  · rw [marked, push_mark]
    exact ⟨⟨Nat.zero_le _, fun _ => pending_nil⟩, fun heard => absurd rfl heard⟩
  · cases inFrame with
    | false =>
        rw [push_outside rfl marked]
        exact ⟨steady, fun _ => rfl⟩
    | true =>
        have pending := steady.collecting rfl
        cases escaped with
        | true =>
            rw [push_escaped contents marked]
            exact steady_judge pending _
        | false =>
            by_cases changed : byte = escape
            · rw [changed, push_escape]
              exact ⟨⟨steady.bounded, fun _ => pending⟩, fun heard => absurd rfl heard⟩
            · rw [push_plain contents marked changed]
              exact steady_judge pending _

/-- A stream leaves a steady decoder steady. -/
theorem Steady.feed (steady : decoder.Steady) (bytes : Bytes) :
    (decoder.feed bytes).1.Steady := by
  induction bytes generalizing decoder with
  | nil => exact steady
  | cons byte rest ih => exact ih (steady.push byte).1

end Decoder

end Link

end Bootloader
