import Bootloader.Trust.Digest

/-!
# Digests of streams

A digest does not depend on how its bytes were cut into pieces: feeding two byte strings one
after the other is feeding them as one (`Hasher.feed_append`). For a running digest this
comes down to the block loop, which may stop anywhere and go on later with the bytes that
are left.
-/

set_option autoImplicit false

namespace Bootloader.Trust

namespace Sha2

variable {ω : Type} (variant : Variant ω) [Add ω] [XorOp ω] [AndOp ω] [Complement ω]

namespace Variant

/-- The block loop goes on where it stopped. -/
theorem absorbBlocks_add (first second : Nat) (chain : Chain ω) (bytes : Bytes) :
    variant.absorbBlocks (first + second) chain bytes =
      variant.absorbBlocks second (variant.absorbBlocks first chain bytes).1
        (variant.absorbBlocks first chain bytes).2 := by
  induction first generalizing chain bytes with
  | zero => rw [Nat.zero_add, absorbBlocks]
  | succ first ih =>
      rw [Nat.succ_add, absorbBlocks, absorbBlocks]
      exact ih _ _

/-- What the block loop leaves of the bytes. -/
theorem absorbBlocks_rest (count : Nat) (chain : Chain ω) (bytes : Bytes) :
    (variant.absorbBlocks count chain bytes).2 = bytes.drop (count * variant.blockBytes) := by
  induction count generalizing chain bytes with
  | zero => rw [Nat.zero_mul, List.drop_zero, absorbBlocks]
  | succ count ih =>
      rw [absorbBlocks, ih, List.drop_drop, Nat.succ_mul, Nat.add_comm]

/-- The block loop does not look at bytes behind its blocks. -/
theorem absorbBlocks_append {count : Nat} {bytes : Bytes} (chain : Chain ω) (more : Bytes)
    (enough : count * variant.blockBytes ≤ bytes.length) :
    variant.absorbBlocks count chain (bytes ++ more) =
      ((variant.absorbBlocks count chain bytes).1,
        (variant.absorbBlocks count chain bytes).2 ++ more) := by
  induction count generalizing chain bytes with
  | zero => rfl
  | succ count ih =>
      rw [Nat.succ_mul] at enough
      have block : variant.blockBytes ≤ bytes.length := by omega
      have rest : count * variant.blockBytes ≤ (bytes.drop variant.blockBytes).length := by
        rw [List.length_drop]
        omega
      rw [absorbBlocks, absorbBlocks, List.take_append_of_le_length block,
        List.drop_append_of_le_length block, ih _ rest]

/-- Taking all complete blocks of some bytes, and then all of what is left and more bytes, is
taking all complete blocks of both. -/
theorem absorbBlocks_resume (positive : 0 < variant.blockBytes) (chain : Chain ω)
    (bytes more : Bytes) {left : Chain ω × Bytes}
    (taken : variant.absorbBlocks (bytes.length / variant.blockBytes) chain bytes = left) :
    variant.absorbBlocks ((bytes ++ more).length / variant.blockBytes) chain (bytes ++ more) =
      variant.absorbBlocks ((left.2 ++ more).length / variant.blockBytes) left.1
        (left.2 ++ more) := by
  let blocks := bytes.length / variant.blockBytes
  have enough : blocks * variant.blockBytes ≤ bytes.length := Nat.div_mul_le_self _ _
  have rest : left.2.length = bytes.length - blocks * variant.blockBytes := by
    rw [← taken, absorbBlocks_rest, List.length_drop]
  have count : (bytes ++ more).length / variant.blockBytes =
      blocks + (left.2 ++ more).length / variant.blockBytes := by
    have split : (bytes ++ more).length =
        variant.blockBytes * blocks + (left.2 ++ more).length := by
      rw [List.length_append, List.length_append, rest, Nat.mul_comm]
      omega
    rw [split, Nat.mul_add_div positive]
  rw [count, absorbBlocks_add, variant.absorbBlocks_append chain more enough, taken]

end Variant

/-- A digest on its way goes on with the pending bytes. -/
theorem Running.feed_append (positive : 0 < variant.blockBytes) (running : Running ω)
    (first second : Bytes) :
    running.feed variant (first ++ second) =
      (running.feed variant first).feed variant second := by
  obtain ⟨chain, pending, fed⟩ := running
  have resumed := variant.absorbBlocks_resume positive chain (pending ++ first) second rfl
  rw [List.append_assoc] at resumed
  have total : fed + (first ++ second).length = fed + first.length + second.length := by
    rw [List.length_append, Nat.add_assoc]
  unfold feed
  dsimp only
  rw [resumed, total]

end Sha2

namespace Hasher

/-- **Feeding one byte string after another is feeding both as one.** -/
theorem feed_append (hasher : Hasher) (first second : Bytes) :
    hasher.feed (first ++ second) = (hasher.feed first).feed second := by
  cases hasher with
  | sha256 running =>
      exact congrArg sha256 (running.feed_append Sha2.sha256 (by decide) first second)
  | sha384 running =>
      exact congrArg sha384 (running.feed_append Sha2.sha384 (by decide) first second)

/-- Feeding pieces after some bytes is feeding all of them as one. -/
theorem foldl_feed_feed (hasher : Hasher) (bytes : Bytes) (pieces : List Bytes) :
    pieces.foldl feed (hasher.feed bytes) = hasher.feed (bytes ++ pieces.flatten) := by
  induction pieces generalizing bytes with
  | nil => rw [List.foldl_nil, List.flatten_nil, List.append_nil]
  | cons piece rest ih =>
      rw [List.foldl_cons, ← feed_append, ih, List.flatten_cons, List.append_assoc]

theorem feed_start_nil (algorithm : Algorithm) : (start algorithm).feed [] = start algorithm := by
  cases algorithm with
  | sha256 => rfl
  | sha384 => rfl

/-- **The digest of pieces that were fed one by one is the digest of all their bytes.** -/
theorem finish_foldl_feed (algorithm : Algorithm) (pieces : List Bytes) :
    (pieces.foldl feed (start algorithm)).finish = digestOf algorithm pieces.flatten := by
  have fed := foldl_feed_feed (start algorithm) [] pieces
  rw [feed_start_nil, List.nil_append] at fed
  rw [fed, digestOf]

end Hasher

end Bootloader.Trust
