import Bootloader.Proofs.Link.Decoding

/-!
# Frames are read back

A frame shows its mark only as its first byte (`mark_not_mem_stuff`). Whatever a decoder was
fed before, the mark starts it afresh; the contents of a message stay pending up to their last
byte, which settles them as that message. So a frame is silent until its last byte, and then
gives the message it was made for (`feed_frame`, `frames_round_trip`).
-/

set_option autoImplicit false

namespace Bootloader.Link

/-! ## Escaped bytes -/

theorem disguise_disguise (byte : UInt8) : disguise (disguise byte) = byte := by
  rw [disguise, disguise, UInt8.xor_assoc, UInt8.xor_self, UInt8.xor_zero]

/-- A byte that is escaped does not become a mark. -/
theorem disguise_ne_mark {byte : UInt8} (special : byte = mark ∨ byte = escape) :
    disguise byte ≠ mark := by
  rcases special with rfl | rfl <;> decide

theorem stuff_special {byte : UInt8} (special : byte = mark ∨ byte = escape) (rest : Bytes) :
    stuff (byte :: rest) = escape :: disguise byte :: stuff rest :=
  if_pos special

theorem stuff_plain {byte : UInt8} (plain : ¬ (byte = mark ∨ byte = escape)) (rest : Bytes) :
    stuff (byte :: rest) = byte :: stuff rest :=
  if_neg plain

/-- Escaped contents hold no mark. -/
theorem mark_not_mem_stuff (contents : Bytes) : mark ∉ stuff contents := by
  induction contents with
  | nil => exact List.not_mem_nil
  | cons byte rest ih =>
      by_cases special : byte = mark ∨ byte = escape
      · rw [stuff_special special]
        simp only [List.mem_cons, not_or]
        exact ⟨by decide, Ne.symm (disguise_ne_mark special), ih⟩
      · rw [stuff_plain special]
        simp only [List.mem_cons, not_or]
        exact ⟨fun same => special (.inl same.symm), ih⟩

theorem length_stuff_pos {contents : Bytes} (filled : contents ≠ []) :
    0 < (stuff contents).length := by
  obtain ⟨byte, rest, rfl⟩ := List.exists_cons_of_ne_nil filled
  by_cases special : byte = mark ∨ byte = escape
  · rw [stuff_special special]
    exact Nat.zero_lt_succ _
  · rw [stuff_plain special]
    exact Nat.zero_lt_succ _

theorem length_stuff_le (contents : Bytes) : (stuff contents).length ≤ 2 * contents.length := by
  induction contents with
  | nil => exact Nat.le_refl 0
  | cons byte rest ih =>
      by_cases special : byte = mark ∨ byte = escape
      · rw [stuff_special special, List.length_cons, List.length_cons, List.length_cons]
        omega
      · rw [stuff_plain special, List.length_cons, List.length_cons]
        omega

namespace Decoder

/-- An escaped byte of the contents is added to them like any other. -/
theorem feed_stuff_cons (contents : Bytes) (byte : UInt8) (rest : Bytes) :
    ∃ silent, (stuff (byte :: rest)).length = silent + 1 + (stuff rest).length ∧
      feed ⟨contents, true, false⟩ (stuff (byte :: rest)) =
        (((judge (contents ++ [byte])).1.feed (stuff rest)).1,
          List.replicate silent .nothing ++
            (judge (contents ++ [byte])).2 ::
              ((judge (contents ++ [byte])).1.feed (stuff rest)).2) := by
  by_cases special : byte = mark ∨ byte = escape
  · refine ⟨1, ?_, ?_⟩
    · rw [stuff_special special, List.length_cons, List.length_cons, Nat.add_comm]
      omega
    · rw [stuff_special special, feed_cons, push_escape, feed_cons,
        push_escaped _ (disguise_ne_mark special), disguise_disguise]
      rfl
  · obtain ⟨unmarked, plain⟩ := not_or.mp special
    refine ⟨0, ?_, ?_⟩
    · rw [stuff_plain special, List.length_cons, Nat.zero_add, Nat.add_comm]
    · rw [stuff_plain special, feed_cons, push_plain _ unmarked plain]
      rfl

/-- Escaped bytes that keep the contents pending up to the last of them are passed over in
silence, and then the contents are judged. -/
theorem feed_stuff {contents added : Bytes} (filled : added ≠ [])
    (pending : ∀ count, count < added.length → Pending (contents ++ added.take count)) :
    feed ⟨contents, true, false⟩ (stuff added) =
      ((judge (contents ++ added)).1,
        List.replicate ((stuff added).length - 1) .nothing ++ [(judge (contents ++ added)).2]) := by
  induction added generalizing contents with
  | nil => exact absurd rfl filled
  | cons byte rest ih =>
      obtain ⟨silent, length, fed⟩ := feed_stuff_cons contents byte rest
      rw [fed, length]
      cases rest with
      | nil => rfl
      | cons next others =>
          have further : ∀ count, count < (next :: others).length →
              Pending ((contents ++ [byte]) ++ (next :: others).take count) := by
            intro count short
            have later := pending (count + 1) (Nat.succ_lt_succ short)
            rwa [List.take_succ_cons, List.append_cons] at later
          have still : Pending (contents ++ [byte]) := pending 1 (by simp)
          have positive := length_stuff_pos (List.cons_ne_nil next others)
          have split : silent + 1 + (stuff (next :: others)).length - 1 =
              silent + (1 + ((stuff (next :: others)).length - 1)) := by omega
          rw [judge_of_pending still, ih (List.cons_ne_nil next others) further,
            ← List.append_cons, split, ← List.replicate_append_replicate,
            ← List.replicate_append_replicate, List.append_assoc, List.append_assoc]
          rfl

/-- Whatever a decoder was fed before, contents that are as long as they announce are judged at
their last byte, and nothing is said before. -/
theorem feed_complete (decoder : Decoder) {contents : Bytes}
    (allowed : announcedLength contents ≤ Capacity.message)
    (exact : contents.length = headerSize + announcedLength contents) :
    decoder.feed (mark :: stuff contents) = ((judge contents).1,
      List.replicate (stuff contents).length .nothing ++ [(judge contents).2]) := by
  have filled : contents ≠ [] := by
    rw [← List.length_pos_iff, exact]
    exact Nat.lt_of_lt_of_le (by decide) (Nat.le_add_right _ _)
  have pending : ∀ count, count < contents.length → Pending ([] ++ contents.take count) :=
    fun _ short => pending_take allowed exact short
  obtain ⟨silent, length⟩ := Nat.exists_eq_add_one.mpr (length_stuff_pos filled)
  rw [feed_cons, push_mark, feed_stuff filled pending, List.nil_append, length,
    Nat.add_sub_cancel, List.replicate_succ]
  rfl

end Decoder

/-! ## The contents of a message -/

namespace Message

/-- What goes before the payload: the checksum, the type and the length. -/
def header (message : Message) : Bytes :=
  Bytes.ofNat 4 (crc32 message.body).toNat ++
    (Bytes.ofNat 2 message.type.toNat ++ Bytes.ofNat 2 message.payload.length)

variable (message : Message)

theorem length_header : message.header.length = headerSize := by
  simp only [header, List.length_append, Bytes.length_ofNat]
  rfl

theorem contents_eq : message.contents = message.header ++ message.payload := by
  simp only [contents, header, body, List.append_assoc]

theorem length_contents : message.contents.length = headerSize + message.payload.length := by
  rw [contents_eq, List.length_append, length_header]

theorem drop_contents : message.contents.drop headerSize = message.payload := by
  rw [contents_eq, List.drop_left' message.length_header]

theorem announcedType_contents : announcedType message.contents = message.type := by
  have slice : message.header.slice 4 2 = Bytes.ofNat 2 message.type.toNat := by
    rw [header, Bytes.slice, List.drop_left' (Bytes.length_ofNat 4 _),
      List.take_left' (Bytes.length_ofNat 2 _)]
  have bound := message.type.toNat_lt
  rw [contents_eq, announcedType_append (Nat.le_of_eq message.length_header.symm), announcedType,
    slice, Bytes.toNat_ofNat, Nat.mod_eq_of_lt (by omega), UInt16.ofNat_toNat]

theorem checksum_contents :
    Bytes.toNat (message.contents.take 4) = (crc32 (message.contents.drop 4)).toNat := by
  have bound := (crc32 message.body).toNat_lt
  rw [contents, List.take_left' (Bytes.length_ofNat 4 _), List.drop_left' (Bytes.length_ofNat 4 _),
    Bytes.toNat_ofNat, Nat.mod_eq_of_lt (by omega)]

variable {message} (allowed : message.payload.length ≤ Capacity.message)

include allowed

/-- A length that is allowed fits its place in the header. -/
theorem announcedLength_contents : announcedLength message.contents = message.payload.length := by
  have slice : message.header.slice 6 2 = Bytes.ofNat 2 message.payload.length := by
    rw [header, ← List.append_assoc, Bytes.slice,
      List.drop_left' (by simp only [List.length_append, Bytes.length_ofNat]),
      List.take_of_length_le (Nat.le_of_eq (Bytes.length_ofNat 2 _))]
  have bound : message.payload.length < 65536 := Nat.lt_of_le_of_lt allowed (by decide)
  rw [contents_eq, announcedLength_append (Nat.le_of_eq message.length_header.symm),
    announcedLength, slice, Bytes.toNat_ofNat]
  exact Nat.mod_eq_of_lt bound

/-- The contents of a message are as long as they announce. -/
theorem contents_complete :
    message.contents.length = headerSize + announcedLength message.contents := by
  rw [announcedLength_contents allowed, length_contents]

/-- They are judged to be the message. -/
theorem judge_contents :
    Decoder.judge message.contents = (⟨message.contents, false, false⟩, .message message) := by
  have announced := announcedLength_contents allowed
  rw [Decoder.judge_of_complete (announced ▸ allowed) (contents_complete allowed),
    if_pos message.checksum_contents, message.announcedType_contents, message.drop_contents]

end Message

variable {message : Message} {frame : Bytes}

theorem encodeFrame?_eq_some : encodeFrame? message = some frame ↔
    message.payload.length ≤ Capacity.message ∧ frame = mark :: stuff message.contents := by
  unfold encodeFrame?
  split
  case isTrue allowed =>
    rw [Option.some_inj]
    exact ⟨fun same => ⟨allowed, same.symm⟩, fun same => same.2.symm⟩
  case isFalse long => exact ⟨nofun, fun fits => absurd fits.1 long⟩

/-- There is no frame exactly for a payload that is too long. -/
theorem encodeFrame?_eq_none :
    encodeFrame? message = none ↔ Capacity.message < message.payload.length := by
  unfold encodeFrame?
  split
  case isTrue allowed => exact ⟨nofun, fun long => absurd allowed (Nat.not_le_of_lt long)⟩
  case isFalse long => exact ⟨fun _ => Nat.lt_of_not_le long, fun _ => rfl⟩

/-- The most bytes that a frame has. -/
def longestFrame : Nat := 1 + 2 * (headerSize + Capacity.message)

theorem length_frame_le (framed : encodeFrame? message = some frame) :
    frame.length ≤ longestFrame := by
  obtain ⟨allowed, rfl⟩ := encodeFrame?_eq_some.mp framed
  have stuffed := length_stuff_le message.contents
  rw [message.length_contents] at stuffed
  rw [List.length_cons, longestFrame]
  omega

/-- **Whatever a decoder was fed before, it says nothing of a frame up to its last byte, and
then gives the message.** -/
theorem Decoder.feed_frame (decoder : Decoder) (framed : encodeFrame? message = some frame) :
    decoder.feed frame = (⟨message.contents, false, false⟩,
      List.replicate (frame.length - 1) .nothing ++ [.message message]) := by
  obtain ⟨allowed, rfl⟩ := encodeFrame?_eq_some.mp framed
  have announced := Message.announcedLength_contents allowed
  rw [decoder.feed_complete (announced ▸ allowed) (Message.contents_complete allowed),
    Message.judge_contents allowed]
  rfl

theorem Decoder.found_frame (decoder : Decoder) (framed : encodeFrame? message = some frame) :
    decoder.found frame = [message] := by
  rw [found, feed_frame decoder framed, List.filterMap_append, messages_silent]
  rfl

/-- Nothing is found before the last byte of a frame. -/
theorem Decoder.found_beginning (decoder : Decoder) {first rest : Bytes}
    (framed : encodeFrame? message = some (first ++ rest)) (more : rest ≠ []) :
    decoder.found first = [] := by
  have events := congrArg Prod.snd (decoder.feed_frame framed)
  rw [feed_append] at events
  have short : first.length ≤ (List.replicate ((first ++ rest).length - 1) Event.nothing).length := by
    have positive := List.length_pos_iff.mpr more
    rw [List.length_replicate, List.length_append]
    omega
  have early := congrArg (List.take first.length) events
  rw [← decoder.length_feed first, List.take_left, decoder.length_feed first,
    List.take_append_of_le_length short, List.take_replicate] at early
  rw [found, early, messages_silent]

/-- **A frame is read back behind anything.** There is one for every message that is not too
long, with its mark only in front; after whatever noise, a decoder says nothing about any byte
of it but the last, and of that one that it completes the message. -/
theorem frames_round_trip (noise : Bytes) (message : Message) :
    (encodeFrame? message = none ↔ Capacity.message < message.payload.length) ∧
      ∀ frame, encodeFrame? message = some frame →
        (∃ rest, frame = mark :: rest ∧ mark ∉ rest) ∧
        ((Decoder.start.feed noise).1.feed frame).2 =
          List.replicate (frame.length - 1) .nothing ++ [.message message] := by
  refine ⟨encodeFrame?_eq_none, fun frame framed => ⟨?_, ?_⟩⟩
  · obtain ⟨_, rfl⟩ := encodeFrame?_eq_some.mp framed
    exact ⟨_, rfl, mark_not_mem_stuff _⟩
  · rw [Decoder.feed_frame _ framed]

/-- The noise breaks off a frame behind an escape byte; the payload holds a mark and an escape. -/
theorem frames_round_trip_marked :
    let noise : Bytes := [0x55, mark, 0x01, 0x02, escape]
    let message : Message := ⟨2, [mark, 0x41, escape]⟩
    ∃ frame, encodeFrame? message = some frame ∧ frame.length = 14 ∧
      (∃ rest, frame = mark :: rest ∧ mark ∉ rest) ∧
      ((Decoder.start.feed noise).1.feed frame).2 =
        List.replicate 13 .nothing ++ [.message message] := by
  intro noise message
  have framed : encodeFrame? message = some (mark :: stuff message.contents) := rfl
  have length : (mark :: stuff message.contents).length = 14 := by decide +kernel
  obtain ⟨alone, events⟩ := (frames_round_trip noise message).2 _ framed
  rw [length] at events
  exact ⟨_, framed, length, alone, events⟩

end Bootloader.Link
