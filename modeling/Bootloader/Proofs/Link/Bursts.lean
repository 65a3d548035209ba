import Bootloader.Proofs.Link.Checksum
import Bootloader.Proofs.Link.Framing

/-!
# Bursts are detected

Bytes of a frame are altered in a range that spares the announced length: in the checksum, in the
type, or in four bytes in a row of the payload. The frame then still ends where it ended
(`BurstRange.announcedLength_eq`). If the checksum is spared, it is not that of the altered bytes;
if it is not, it no longer is that of the old ones (`BurstRange.checksum_ne`). So a decoder drops
the frame (`bursts_detected`).
-/

set_option autoImplicit false

namespace Bootloader.Link

/-- Bytes that are altered in a range, if anywhere: as many as they were, and the same in front of
the range and behind it. -/
structure AlteredIn (start width : Nat) (bytes altered : Bytes) : Prop where
  length : altered.length = bytes.length
  front : altered.take start = bytes.take start
  back : altered.drop (start + width) = bytes.drop (start + width)

section

variable {start width count : Nat} {bytes altered : Bytes}

theorem AlteredIn.take_eq (within : AlteredIn start width bytes altered) (before : count ≤ start) :
    altered.take count = bytes.take count := by
  have front := congrArg (List.take count) within.front
  rwa [List.take_take, List.take_take, Nat.min_eq_left before] at front

theorem AlteredIn.drop_eq (within : AlteredIn start width bytes altered)
    (behind : start + width ≤ count) : altered.drop count = bytes.drop count := by
  have back := congrArg (List.drop (count - (start + width))) within.back
  rwa [List.drop_drop, List.drop_drop, Nat.add_sub_cancel' behind] at back

/-- Altered bytes are the old ones with the range replaced. -/
theorem AlteredIn.eq_append (within : AlteredIn start width bytes altered) :
    altered = bytes.take start ++ (altered.slice start width ++ bytes.drop (start + width)) := by
  rw [← within.front, ← within.back, Bytes.slice, ← List.drop_drop, List.take_append_drop,
    List.take_append_drop]

end

/-- The ranges of a frame in which a burst does not touch its length: the checksum, the type, and
four bytes in a row behind the header. -/
inductive BurstRange : Nat → Nat → Prop
  | checksum : BurstRange 0 4
  | type : BurstRange 4 2
  | payload {start : Nat} (behind : headerSize ≤ start) : BurstRange start 4

section

variable {start width : Nat} {message : Message} {altered : Bytes}

/-- A burst spares the length. -/
theorem BurstRange.announcedLength_eq (range : BurstRange start width)
    (within : AlteredIn start width message.contents altered) :
    announcedLength altered = announcedLength message.contents := by
  have behind (early : start + width ≤ 6) :
      announcedLength altered = announcedLength message.contents := by
    rw [announcedLength, announcedLength, Bytes.slice, Bytes.slice, within.drop_eq early]
  cases range with
  | checksum => exact behind (by decide)
  | type => exact behind (by decide)
  | payload late =>
      have header : 6 + 2 ≤ headerSize := Nat.le_refl 8
      rw [announcedLength, announcedLength, ← Bytes.slice_take header, within.take_eq late,
        Bytes.slice_take header]

/-- A burst that spares the checksum changes what the checksum ought to be. -/
theorem AlteredIn.crc32_ne (within : AlteredIn start width message.contents altered)
    (changed : altered ≠ message.contents) (behind : 4 ≤ start) (short : width ≤ 4) :
    crc32 (altered.drop 4) ≠ crc32 (message.contents.drop 4) := by
  have whole : message.contents = message.contents.take start ++
      (message.contents.slice start width ++ message.contents.drop (start + width)) := by
    rw [Bytes.slice, ← List.drop_drop, List.take_append_drop, List.take_append_drop]
  have room : 4 ≤ (message.contents.take start).length := by
    rw [List.length_take, Message.length_contents, headerSize]
    omega
  have equal : (altered.slice start width).length =
      (message.contents.slice start width).length := by
    simp only [Bytes.slice, List.length_take, List.length_drop, within.length]
  have differ : altered.slice start width ≠ message.contents.slice start width := by
    intro same
    have restored := within.eq_append
    rw [same, ← whole] at restored
    exact changed restored
  rw [within.eq_append, List.drop_append_of_le_length room]
  conv => rhs; rw [whole, List.drop_append_of_le_length room]
  refine crc32_ne_of_burst ?_ equal differ
  rw [Bytes.slice, List.length_take]
  omega

/-- A burst makes the checksum wrong. -/
theorem BurstRange.checksum_ne (range : BurstRange start width)
    (within : AlteredIn start width message.contents altered)
    (changed : altered ≠ message.contents) :
    Bytes.toNat (altered.take 4) ≠ (crc32 (altered.drop 4)).toNat := by
  have right := message.checksum_contents
  have spared (behind : 4 ≤ start) (short : width ≤ 4) :
      Bytes.toNat (altered.take 4) ≠ (crc32 (altered.drop 4)).toNat := by
    rw [within.take_eq behind, right]
    exact fun same => within.crc32_ne changed behind short (UInt32.toNat_inj.mp same).symm
  cases range with
  | checksum =>
      intro same
      rw [within.drop_eq (by decide), ← right] at same
      have equal : (altered.take 4).length = (message.contents.take 4).length := by
        rw [List.length_take, List.length_take, within.length]
      have first : altered.take 4 = message.contents.take 4 := by
        rw [← Bytes.ofNat_toNat (altered.take 4), same, equal, Bytes.ofNat_toNat]
      apply changed
      rw [← List.take_append_drop 4 altered, first, within.drop_eq (by decide),
        List.take_append_drop]
  | type => exact spared (by decide) (by decide)
  | payload behind => exact spared (Nat.le_trans (by decide) behind) (by decide)

end

/-- **A burst is always detected.** Let the contents of a frame be altered in its checksum only, in
its type only, or in four bytes in a row of its payload. Then a decoder, whatever it was fed
before, finds no message in the frame that is made of them: it is silent up to the last byte, and
then reports a wrong checksum. -/
theorem bursts_detected (decoder : Decoder) {message : Message} {altered : Bytes}
    {start width : Nat} (allowed : message.payload.length ≤ Capacity.message)
    (range : BurstRange start width) (within : AlteredIn start width message.contents altered)
    (changed : altered ≠ message.contents) :
    decoder.found (mark :: stuff altered) = [] ∧
      (decoder.feed (mark :: stuff altered)).2 =
        List.replicate (stuff altered).length .nothing ++ [.badChecksum] := by
  have announced : announcedLength altered = message.payload.length := by
    rw [range.announcedLength_eq within, Message.announcedLength_contents allowed]
  have exact : altered.length = headerSize + announcedLength altered := by
    rw [announced, within.length, message.length_contents]
  have fed := decoder.feed_complete (announced ▸ allowed) exact
  rw [Decoder.judge_of_complete (announced ▸ allowed) exact,
    if_neg (range.checksum_ne within changed)] at fed
  refine ⟨?_, by rw [fed]⟩
  rw [Decoder.found, fed, List.filterMap_append, Decoder.messages_silent]
  rfl

/-- Four letters in the middle of a payload become a mark, an escape byte, a zero and a byte of
ones. -/
theorem bursts_detected_marked :
    let message : Message := ⟨2, [0x61, 0x62, 0x63, 0x64, 0x65, 0x66]⟩
    let altered := message.contents.take 9 ++ [mark, escape, 0x00, 0xff] ++ [0x66]
    message.payload.length ≤ Capacity.message ∧ BurstRange 9 4 ∧
      AlteredIn 9 4 message.contents altered ∧ altered ≠ message.contents ∧
      Decoder.start.found (mark :: stuff altered) = [] ∧
      (Decoder.start.feed (mark :: stuff altered)).2 =
        List.replicate (stuff altered).length .nothing ++ [.badChecksum] := by
  intro message altered
  have allowed : message.payload.length ≤ Capacity.message := by decide
  have range : BurstRange 9 4 := .payload (by decide)
  have within : AlteredIn 9 4 message.contents altered :=
    ⟨by decide +kernel, by decide +kernel, by decide +kernel⟩
  have changed : altered ≠ message.contents := by decide +kernel
  exact ⟨allowed, range, within, changed, bursts_detected .start allowed range within changed⟩

end Bootloader.Link
