import Bootloader.Proofs.Layout

/-!
# Canonical layouts

A layout is canonical when it is exact and its values are, the other way round, all the strings
of its size that have zeros in its gaps, the parts that its reader skips (`Layout.Canonical`).
Bytes, numbers and fields have no gaps, padding is a gap and nothing else, and layouts that are
put side by side stay canonical, with the gaps of the second one moved (`Canonical.both`).

A record is also written and read part by part, each part at an offset of its own in a buffer.
For layouts side by side this is the same as to write and read the whole (`writeAt?_both`,
`readAt?_both`), so an encoder and a decoder with offsets of their own can be compared with one
layout. If both agree with a canonical layout they are a codec: the decoder undoes the encoder,
the encoder undoes the decoder where the gaps hold zeros, and what is written depends neither on
the buffer nor reaches behind the size of the record (`Canonical.codec`).
-/

set_option autoImplicit false

namespace Bootloader

/-! ## Gaps -/

/-- A part of a record that its reader skips. -/
structure Gap where
  offset : Nat
  count : Nat
  deriving DecidableEq, Repr

/-- The gap of a record that lies behind `distance` other bytes. -/
def Gap.shift (distance : Nat) (gap : Gap) : Gap :=
  ⟨distance + gap.offset, gap.count⟩

/-- The gaps of the bytes hold zeros. -/
def Zeroed (gaps : List Gap) (bytes : Bytes) : Prop :=
  ∀ gap ∈ gaps, bytes.slice gap.offset gap.count = List.replicate gap.count 0

instance (gaps : List Gap) (bytes : Bytes) : Decidable (Zeroed gaps bytes) :=
  inferInstanceAs (Decidable (∀ gap ∈ gaps, _))

namespace Bytes

theorem slice_take {bytes : Bytes} {length offset count : Nat} (inside : offset + count ≤ length) :
    slice (bytes.take length) offset count = bytes.slice offset count := by
  rw [slice, slice, List.drop_take, List.take_take, Nat.min_eq_left (by omega)]

theorem slice_drop (bytes : Bytes) (start offset count : Nat) :
    slice (bytes.drop start) offset count = bytes.slice (start + offset) count := by
  rw [slice, slice, List.drop_drop]

/-- A part of a part. -/
theorem slice_slice {bytes : Bytes} {start length offset count : Nat}
    (inside : offset + count ≤ length) :
    slice (bytes.slice start length) offset count = bytes.slice (start + offset) count := by
  rw [slice.eq_1 bytes start length, slice_take inside, slice_drop]

/-- A number needs no more room than the bytes that it was read from. -/
theorem toNat_lt (bytes : Bytes) : bytes.toNat < 1 <<< (8 * bytes.length) := by
  have stored := toNat_ofNat bytes.length bytes.toNat
  rw [ofNat_toNat] at stored
  rw [stored]
  refine Nat.mod_lt _ ?_
  rw [Nat.shiftLeft_eq, Nat.one_mul]
  exact Nat.two_pow_pos _

end Bytes

namespace Zeroed

variable {gaps others : List Gap} {bytes : Bytes} {length : Nat}

theorem append (first : Zeroed gaps bytes) (second : Zeroed others bytes) :
    Zeroed (gaps ++ others) bytes := by
  intro gap member
  rcases List.mem_append.mp member with here | there
  · exact first gap here
  · exact second gap there

/-- Gaps that end inside the first bytes are seen in them. -/
theorem take_iff (inside : ∀ gap ∈ gaps, gap.offset + gap.count ≤ length) :
    Zeroed gaps (bytes.take length) ↔ Zeroed gaps bytes := by
  refine forall₂_congr fun gap member => ?_
  rw [Bytes.slice_take (inside gap member)]

/-- Gaps behind the first bytes are seen in what follows those. -/
theorem drop_iff :
    Zeroed gaps (bytes.drop length) ↔ Zeroed (gaps.map (Gap.shift length)) bytes := by
  simp only [Zeroed, List.forall_mem_map, Bytes.slice_drop, Gap.shift]

end Zeroed

namespace Layout

variable {α β : Type}

/-! ## Layouts whose values are all the strings with empty gaps -/

/-- A layout is canonical when it reads no further than its size, reads back what it wrote, and
writes back what it read if there were zeros in the gaps. -/
structure Canonical (layout : Layout α) (gaps : List Gap) : Prop extends layout.Exact where
  reach_le : layout.reach ≤ layout.size
  inside : ∀ gap ∈ gaps, gap.offset + gap.count ≤ layout.size
  read_append : ∀ bytes rest, bytes.length = layout.size →
    layout.read (bytes ++ rest) = layout.read bytes
  zeroed : ∀ value, Zeroed gaps (layout.write value)
  write_read : ∀ bytes, bytes.length = layout.size → Zeroed gaps bytes →
    layout.write (layout.read bytes) = bytes

private theorem no_gap {bytes : Bytes} : Zeroed [] bytes :=
  fun _ member => absurd member List.not_mem_nil

theorem canonical_byte : byte.Canonical [] where
  toExact := exact_byte
  reach_le := Nat.le_refl 1
  inside _ member := absurd member List.not_mem_nil
  read_append bytes rest length := by
    obtain ⟨single, rfl⟩ := List.length_eq_one_iff.mp length
    rfl
  zeroed _ := no_gap
  write_read bytes length _ := by
    obtain ⟨single, rfl⟩ := List.length_eq_one_iff.mp length
    rfl

/-- A number that is stored with its lowest byte first. -/
theorem canonical_number {count : Nat} {make : Nat → α} {number : α → Nat}
    (exact : Exact ⟨count, count, fun value => Bytes.ofNat count (number value),
      fun bytes => make (Bytes.toNat (bytes.take count))⟩)
    (number_make : ∀ value < 1 <<< (8 * count), number (make value) = value) :
    Canonical ⟨count, count, fun value => Bytes.ofNat count (number value),
      fun bytes => make (Bytes.toNat (bytes.take count))⟩ [] where
  toExact := exact
  reach_le := Nat.le_refl count
  inside _ member := absurd member List.not_mem_nil
  read_append bytes rest length := by
    have same : bytes.length = count := length
    simp only [← same, List.take_left, List.take_length]
  zeroed _ := no_gap
  write_read bytes length _ := by
    have same : bytes.length = count := length
    have bound := Bytes.toNat_lt bytes
    rw [same] at bound
    show Bytes.ofNat count (number (make (Bytes.toNat (bytes.take count)))) = bytes
    rw [List.take_of_length_le (Nat.le_of_eq same), number_make _ bound, ← same,
      Bytes.ofNat_toNat]

theorem canonical_word32 : word32.Canonical [] :=
  canonical_number exact_word32 fun _ small => UInt32.toNat_ofNat_of_lt small

theorem canonical_word64 : word64.Canonical [] :=
  canonical_number exact_word64 fun _ small => UInt64.toNat_ofNat_of_lt small

theorem canonical_field (count : Nat) : (field count).Canonical [] where
  toExact := exact_field count
  reach_le := Nat.le_refl count
  inside _ member := absurd member List.not_mem_nil
  read_append bytes rest length := by
    have same : bytes.length = count := length
    simp [field, Field.ofBytes, Bytes.resize, ← same]
  zeroed _ := no_gap
  write_read bytes length _ := Bytes.resize_of_length_eq length

theorem canonical_padding (count : Nat) : (padding count).Canonical [⟨0, count⟩] where
  toExact := exact_padding count
  reach_le := Nat.zero_le count
  inside gap member := by
    rw [List.mem_singleton.mp member]
    exact Nat.le_of_eq (Nat.zero_add count)
  read_append _ _ _ := rfl
  zeroed _ gap member := by
    rw [List.mem_singleton.mp member]
    simp [padding, Bytes.slice]
  write_read bytes length zeroed := by
    have same : bytes.length = count := length
    have whole := zeroed ⟨0, count⟩ (List.mem_singleton_self _)
    rw [Bytes.slice, List.drop_zero, List.take_of_length_le (Nat.le_of_eq same)] at whole
    exact whole.symm

/-- The reader looks at the first bytes only. -/
theorem Canonical.read_take {layout : Layout α} {gaps : List Gap}
    (canonical : layout.Canonical gaps) {bytes : Bytes} {count : Nat}
    (least : layout.size ≤ count) (long : layout.size ≤ bytes.length) :
    layout.read (bytes.take count) = layout.read bytes := by
  have first : ∀ bytes : Bytes, layout.size ≤ bytes.length →
      layout.read bytes = layout.read (bytes.take layout.size) := by
    intro bytes long
    have length : (bytes.take layout.size).length = layout.size := by
      rw [List.length_take, Nat.min_eq_left long]
    rw [← canonical.read_append _ (bytes.drop layout.size) length, List.take_append_drop]
  have still : layout.size ≤ (bytes.take count).length := by
    rw [List.length_take]
    omega
  rw [first _ still, List.take_take, Nat.min_eq_left least, ← first _ long]

/-- Records side by side are read slot by slot. -/
theorem Canonical.readMany_eq {layout : Layout α} {gaps : List Gap}
    (canonical : layout.Canonical gaps) {count : Nat} {bytes : Bytes}
    (room : count * layout.size ≤ bytes.length) :
    layout.readMany count bytes = (List.range count).map fun index =>
      layout.read (bytes.slice (index * layout.size) layout.size) := by
  induction count generalizing bytes with
  | zero => rfl
  | succ count ih =>
      rw [Nat.succ_mul] at room
      have first : layout.read bytes = layout.read (bytes.slice (0 * layout.size) layout.size) := by
        rw [Nat.zero_mul, Bytes.slice, List.drop_zero,
          canonical.read_take (Nat.le_refl _) (by omega)]
      have others : count * layout.size ≤ (bytes.drop layout.size).length := by
        rw [List.length_drop]
        omega
      rw [readMany, ih others, List.range_succ_eq_map, List.map_cons, List.map_map, first]
      refine congrArg _ (List.map_congr_left fun index _ => ?_)
      rw [Bytes.slice_drop, Function.comp_apply, Nat.succ_mul, Nat.add_comm]

/-- **Side by side, canonical layouts are canonical**; the gaps of the second one move. -/
theorem Canonical.both {first : Layout α} {second : Layout β} {gaps others : List Gap}
    (one : first.Canonical gaps) (other : second.Canonical others) :
    (first.both second).Canonical (gaps ++ others.map (Gap.shift first.size)) where
  toExact := one.toExact.both other.toExact
  reach_le := by
    have left := one.reach_le
    have right := other.reach_le
    show (if second.reach = 0 then first.reach else first.size + second.reach) ≤
      first.size + second.size
    split <;> omega
  inside gap member := by
    show gap.offset + gap.count ≤ first.size + second.size
    rcases List.mem_append.mp member with here | there
    · have inside := one.inside gap here
      omega
    · obtain ⟨origin, source, rfl⟩ := List.mem_map.mp there
      have inside := other.inside origin source
      simp only [Gap.shift]
      omega
  read_append bytes rest length := by
    have whole : bytes.length = first.size + second.size := length
    have front : (bytes.take first.size).length = first.size := by
      rw [List.length_take]
      omega
    have back : (bytes.drop first.size).length = second.size := by
      rw [List.length_drop]
      omega
    have split : bytes = bytes.take first.size ++ bytes.drop first.size :=
      (List.take_append_drop _ _).symm
    have left : first.read (bytes ++ rest) = first.read bytes := by
      rw [split, List.append_assoc, one.read_append _ _ front, one.read_append _ _ front]
    have right : second.read ((bytes ++ rest).drop first.size) =
        second.read (bytes.drop first.size) := by
      rw [List.drop_append_of_le_length (by omega), other.read_append _ _ back]
    show (first.read (bytes ++ rest), second.read ((bytes ++ rest).drop first.size)) = _
    rw [left, right]
    rfl
  zeroed value := by
    have length := one.length_write value.1
    have front : Zeroed gaps ((first.write value.1 ++ second.write value.2).take first.size) := by
      rw [List.take_left' length]
      exact one.zeroed value.1
    have back : Zeroed others ((first.write value.1 ++ second.write value.2).drop first.size) := by
      rw [List.drop_left' length]
      exact other.zeroed value.2
    exact ((Zeroed.take_iff one.inside).mp front).append (Zeroed.drop_iff.mp back)
  write_read bytes length zeroed := by
    have whole : bytes.length = first.size + second.size := length
    have front : (bytes.take first.size).length = first.size := by
      rw [List.length_take]
      omega
    have back : (bytes.drop first.size).length = second.size := by
      rw [List.length_drop]
      omega
    have split : bytes.take first.size ++ bytes.drop first.size = bytes :=
      List.take_append_drop _ _
    have left : first.read bytes = first.read (bytes.take first.size) := by
      rw [← one.read_append _ (bytes.drop first.size) front, split]
    have leading : Zeroed gaps (bytes.take first.size) :=
      (Zeroed.take_iff one.inside).mpr fun gap member =>
        zeroed gap (List.mem_append_left _ member)
    have trailing : Zeroed others (bytes.drop first.size) :=
      Zeroed.drop_iff.mpr fun gap member => zeroed gap (List.mem_append_right _ member)
    show first.write (first.read bytes) ++ second.write (second.read (bytes.drop first.size)) = _
    rw [left, one.write_read _ front leading, other.write_read _ back trailing, split]

theorem Canonical.through {layout : Layout α} {gaps : List Gap} (canonical : layout.Canonical gaps)
    {make : α → β} {parts : β → α} (inverse : ∀ value, make (parts value) = value)
    (undone : ∀ value, parts (make value) = value) :
    (layout.through make parts).Canonical gaps where
  toExact := canonical.toExact.through inverse
  reach_le := canonical.reach_le
  inside := canonical.inside
  read_append bytes rest length := congrArg make (canonical.read_append bytes rest length)
  zeroed value := canonical.zeroed (parts value)
  write_read bytes length zeroed := by
    show layout.write (parts (make (layout.read bytes))) = bytes
    rw [undone, canonical.write_read bytes length zeroed]

/-! ## Part by part, in a buffer -/

end Layout

/-- Two patches side by side are laid over the bytes one after the other. -/
theorem Bytes.overlay?_append (bytes first second : Bytes) (offset : Nat) :
    bytes.overlay? offset (first ++ second) =
      (bytes.overlay? offset first).bind fun buffer =>
        buffer.overlay? (offset + first.length) second := by
  by_cases fits : offset + first.length ≤ bytes.length
  · have front : (bytes.take offset ++ first).length = offset + first.length := by
      rw [List.length_append, List.length_take, Nat.min_eq_left (by omega)]
    have back : (bytes.overlay offset first).drop (offset + first.length + second.length) =
        bytes.drop (offset + (first ++ second).length) := by
      rw [Bytes.overlay, ← front, List.drop_length_add_append, List.drop_drop, front,
        List.length_append, Nat.add_assoc]
    have laid : (bytes.overlay offset first).overlay (offset + first.length) second =
        bytes.overlay offset (first ++ second) := by
      rw [Bytes.overlay, back, Bytes.overlay, Bytes.overlay, List.take_left' front,
        List.append_assoc _ first second]
    rw [Bytes.overlay?, Bytes.overlay?, if_pos fits, Option.bind_some, Bytes.overlay?,
      Bytes.length_overlay fits, laid, List.length_append, Nat.add_assoc]
  · have short : ¬offset + (first ++ second).length ≤ bytes.length := by
      rw [List.length_append]
      omega
    rw [Bytes.overlay?, Bytes.overlay?, if_neg fits, if_neg short, Option.bind_none]

namespace Layout

variable {α β γ : Type}

/-- The value at an offset of the bytes; its reader must not look behind them. -/
def readAt? (layout : Layout α) (offset : Nat) (bytes : Bytes) : Option α :=
  if layout.reach = 0 ∨ offset + layout.reach ≤ bytes.length then
    some (layout.read (bytes.drop offset))
  else none

/-- **To write two values side by side is to write them one after the other.** -/
theorem writeAt?_both {first : Layout α} (exact : first.Exact) (second : Layout β) (offset : Nat)
    (value : α × β) (buffer : Bytes) :
    (first.both second).writeAt? offset value buffer =
      (first.writeAt? offset value.1 buffer).bind fun rest =>
        second.writeAt? (offset + first.size) value.2 rest := by
  rw [writeAt?, Layout.both, Bytes.overlay?_append, exact.length_write]
  rfl

/-- **To read two values side by side is to read them one after the other.** -/
theorem readAt?_both {first : Layout α} (within : first.reach ≤ first.size) (second : Layout β)
    (offset : Nat) (bytes : Bytes) :
    (first.both second).readAt? offset bytes =
      (first.readAt? offset bytes).bind fun value =>
        (second.readAt? (offset + first.size) bytes).bind fun other => some (value, other) := by
  have reach : (first.both second).reach =
      if second.reach = 0 then first.reach else first.size + second.reach := rfl
  have read : (first.both second).read (bytes.drop offset) =
      (first.read (bytes.drop offset), second.read (bytes.drop (offset + first.size))) := by
    rw [← List.drop_drop]
    rfl
  rw [readAt?, readAt?, readAt?, reach, read]
  by_cases skipped : second.reach = 0
  · rw [if_pos skipped, if_pos (Or.inl skipped)]
    split
    · rfl
    · rfl
  · rw [if_neg skipped]
    by_cases fits : offset + first.size + second.reach ≤ bytes.length
    · rw [if_pos (Or.inr (by omega)), if_pos (Or.inr (by omega)), if_pos (Or.inr fits)]
      rfl
    · rw [if_neg (by omega), if_neg (by omega : ¬(second.reach = 0 ∨ _))]
      split
      · rfl
      · rfl

/-- The two are read one after the other, whatever is done with them. -/
theorem readAt?_both_bind {first : Layout α} (within : first.reach ≤ first.size)
    (second : Layout β) (offset : Nat) (bytes : Bytes) (next : α × β → Option γ) :
    ((first.both second).readAt? offset bytes).bind next =
      (first.readAt? offset bytes).bind fun value =>
        (second.readAt? (offset + first.size) bytes).bind fun other => next (value, other) := by
  simp only [readAt?_both within, Option.bind_assoc, Option.bind_some]

theorem writeAt?_through (layout : Layout α) (make : α → β) (parts : β → α) (offset : Nat)
    (value : β) (buffer : Bytes) :
    (layout.through make parts).writeAt? offset value buffer =
      layout.writeAt? offset (parts value) buffer :=
  rfl

theorem readAt?_through (layout : Layout α) (make : α → β) (parts : β → α) (offset : Nat)
    (bytes : Bytes) :
    (layout.through make parts).readAt? offset bytes =
      (layout.readAt? offset bytes).bind fun value => some (make value) := by
  have reach : (layout.through make parts).reach = layout.reach := rfl
  rw [readAt?, readAt?, reach]
  split
  · rfl
  · rfl

/-- The reader skips padding, wherever it lies. -/
theorem readAt?_padding (count offset : Nat) (bytes : Bytes) :
    (padding count).readAt? offset bytes = some () :=
  if_pos (Or.inl rfl)

theorem writeAt?_zero {layout : Layout α} (exact : layout.Exact) (value : α) (buffer : Bytes) :
    layout.writeAt? 0 value buffer = layout.writeInto? value buffer := by
  rw [writeAt?, Bytes.overlay?, writeInto?, Bytes.overlay, exact.length_write, Nat.zero_add,
    List.take_zero, List.nil_append]

theorem readAt?_zero (layout : Layout α) (bytes : Bytes) :
    layout.readAt? 0 bytes = layout.readFrom? bytes := by
  have condition : (layout.reach = 0 ∨ 0 + layout.reach ≤ bytes.length) ↔
      layout.reach ≤ bytes.length := by
    omega
  simp only [readAt?, readFrom?, List.drop_zero, condition]

/-! ## Codecs -/

/-- An encoder that writes into a buffer and a decoder that reads from one are a codec for
records with a given layout, the gaps of which they skip. -/
structure Codec (layout : Layout α) (gaps : List Gap) (encode? : α → Bytes → Option Bytes)
    (decode? : Bytes → Option α) : Prop where
  /-- The encoder writes the layout, over the first bytes of the buffer only. -/
  encode : ∀ value buffer, encode? value buffer = layout.writeInto? value buffer
  /-- The decoder reads the layout. -/
  decode : ∀ bytes, decode? bytes = layout.readFrom? bytes
  /-- Each value has bytes of its own, which are written into any buffer that is long enough and
  from which the value is decoded; the rest of the buffer stays. -/
  written : ∀ value, ∃ record : Bytes, record.length = layout.size ∧ Zeroed gaps record ∧
    ∀ buffer : Bytes, layout.size ≤ buffer.length →
      encode? value buffer = some (record ++ buffer.drop layout.size) ∧
        decode? (record ++ buffer.drop layout.size) = some value
  /-- Bytes with zeros in the gaps are what is written for the value that is decoded from them,
  whatever stands behind them. -/
  canonical : ∀ record : Bytes, record.length = layout.size → Zeroed gaps record →
    ∃ value, (∀ rest, decode? (record ++ rest) = some value) ∧
      ∀ buffer : Bytes, layout.size ≤ buffer.length →
        encode? value buffer = some (record ++ buffer.drop layout.size)

/-- **An encoder and a decoder that agree with a canonical layout are a codec.** -/
theorem Canonical.codec {layout : Layout α} {gaps : List Gap} (canonical : layout.Canonical gaps)
    {encode? : α → Bytes → Option Bytes} {decode? : Bytes → Option α}
    (encode : ∀ value buffer, encode? value buffer = layout.writeAt? 0 value buffer)
    (decode : ∀ bytes, decode? bytes = layout.readAt? 0 bytes) :
    Codec layout gaps encode? decode? := by
  have encoded : ∀ value (buffer : Bytes), layout.size ≤ buffer.length →
      encode? value buffer = some (layout.write value ++ buffer.drop layout.size) := by
    intro value buffer room
    rw [encode, writeAt?_zero canonical.toExact, writeInto?, if_pos room]
  have decoded : ∀ record rest : Bytes, record.length = layout.size →
      decode? (record ++ rest) = some (layout.read (record ++ rest)) := by
    intro record rest length
    have reach := canonical.reach_le
    rw [decode, readAt?_zero, readFrom?, if_pos]
    rw [List.length_append]
    omega
  refine ⟨fun value buffer => ?_, fun bytes => ?_, fun value => ?_, fun record length zeroed => ?_⟩
  · rw [encode, writeAt?_zero canonical.toExact]
  · rw [decode, readAt?_zero]
  · refine ⟨layout.write value, canonical.length_write value, canonical.zeroed value,
      fun buffer room => ⟨encoded value buffer room, ?_⟩⟩
    rw [decoded _ _ (canonical.length_write value), canonical.read_write]
  · refine ⟨layout.read record, fun rest => ?_, fun buffer room => ?_⟩
    · rw [decoded _ _ length, canonical.read_append _ _ length]
    · rw [encoded _ _ room, canonical.write_read record length zeroed]

end Layout

end Bootloader
