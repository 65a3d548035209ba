import Mathlib.Data.List.Induction
import Bootloader.Proofs.Memory.Lawful

/-!
# Memory made of windows is an array of bytes

A memory made of windows keeps for each window a string of bytes, in which places are counted
from the base of the window. Seen from outside it is one array of bytes over all places, of
which some ranges are backed. What the array answers is told from the accesses made so far,
without any bytes being kept: an access succeeds if one range has all of its places
(`Backed`), and the byte at a place is the one of the last successful write that reached the
place, or a zero (`lastWritten`).

`Mirrors` relates the two. It holds of fresh memory, one more access is answered alike by both
and preserves it (`Mirrors.perform`), and so it holds after every sequence of accesses
(`mirrors_after`).
-/

set_option autoImplicit false

namespace Bootloader

/-- One access to memory. -/
inductive MemoryAccess where
  | write (address : Address) (data : Bytes)
  | read (address : Address) (length : Nat)
  deriving DecidableEq, Repr

/-- One of some ranges has all places from `start` on. -/
def Backed (ranges : List (Address × Nat)) (start length : Nat) : Prop :=
  ∃ range ∈ ranges, range.1.toNat ≤ start ∧ start + length ≤ range.1.toNat + range.2

instance (ranges : List (Address × Nat)) (start length : Nat) :
    Decidable (Backed ranges start length) :=
  inferInstanceAs (Decidable (∃ range ∈ ranges, _))

theorem Backed.mono {ranges : List (Address × Nat)} {start length first count : Nat}
    (backed : Backed ranges start length) (low : start ≤ first)
    (high : first + count ≤ start + length) : Backed ranges first count := by
  obtain ⟨range, member, above, below⟩ := backed
  exact ⟨range, member, by omega, by omega⟩

namespace MemoryAccess

/-- Where an access begins. -/
def address : MemoryAccess → Address
  | .write address _ => address
  | .read address _ => address

/-- How many bytes an access is about. -/
def length : MemoryAccess → Nat
  | .write _ data => data.length
  | .read _ length => length

/-- The write of a chunk. -/
def ofChunk (chunk : Chunk) : MemoryAccess :=
  .write chunk.address chunk.bytes

section

variable {μ : Type} [PhysicalMemory μ]

/-- What a memory answers to an access, with no bytes to a write, and the memory after it. -/
def perform (memory : μ) : MemoryAccess → Except MemoryError Bytes × μ
  | .write address data =>
      match PhysicalMemory.write memory address data with
      | .ok written => (.ok [], written)
      | .error error => (.error error, memory)
  | .read address length => (PhysicalMemory.read memory address length, memory)

/-- The memory after some accesses. -/
def performAll (memory : μ) (accesses : List MemoryAccess) : μ :=
  accesses.foldl (fun memory access => (access.perform memory).2) memory

theorem performAll_append (memory : μ) (earlier later : List MemoryAccess) :
    performAll memory (earlier ++ later) = performAll (performAll memory earlier) later :=
  List.foldl_append

end

/-! ## The array of bytes -/

section

variable (ranges : List (Address × Nat))

/-- Whether an access is a write that one of the ranges takes. -/
def stores : MemoryAccess → Bool
  | .write address data => Backed ranges address.toNat data.length
  | .read _ _ => false

/-- The byte that an access leaves at a place, if it is a successful write that reaches it. -/
def left? (place : Nat) : MemoryAccess → Option UInt8
  | .write address data =>
      if Backed ranges address.toNat data.length ∧ address.toNat ≤ place then
        data[place - address.toNat]?
      else none
  | .read _ _ => none

/-- The byte that was written to a place most recently, a zero if none was. -/
def lastWritten (history : List MemoryAccess) (place : Nat) : UInt8 :=
  (history.reverse.findSome? (left? ranges place)).getD 0

/-- What the array of bytes answers to an access. -/
def answer (history : List MemoryAccess) (access : MemoryAccess) : Except MemoryError Bytes :=
  if Backed ranges access.address.toNat access.length then
    match access with
    | .write _ _ => .ok []
    | .read address length =>
        .ok ((List.range length).map fun index =>
          lastWritten ranges history (address.toNat + index))
  else .error (.outOfRange access.address access.length)

end

variable {ranges : List (Address × Nat)}

theorem lastWritten_append (earlier later : List MemoryAccess) (place : Nat) :
    lastWritten ranges (earlier ++ later) place =
      (later.reverse.findSome? (left? ranges place)).getD (lastWritten ranges earlier place) := by
  rw [lastWritten, List.reverse_append, List.findSome?_append, lastWritten]
  cases later.reverse.findSome? (left? ranges place) <;> rfl

/-- An access that stores nothing leaves the bytes as they are. -/
theorem lastWritten_idle {access : MemoryAccess} (idle : ¬ access.stores ranges)
    (history : List MemoryAccess) (place : Nat) :
    lastWritten ranges (history ++ [access]) place = lastWritten ranges history place := by
  have nothing : left? ranges place access = none := by
    cases access with
    | write address data =>
        exact if_neg fun reached => idle (decide_eq_true reached.1)
    | read address length => rfl
  rw [lastWritten_append, List.reverse_singleton, List.findSome?_singleton, nothing]
  rfl

/-- A write that is backed lays its data over what was there. -/
theorem lastWritten_write {address : Address} {data : Bytes}
    (backed : Backed ranges address.toNat data.length) (history : List MemoryAccess) (place : Nat) :
    some (lastWritten ranges (history ++ [.write address data]) place) =
      laidOver address.toNat data place (some (lastWritten ranges history place)) := by
  rw [lastWritten_append, List.reverse_singleton, List.findSome?_singleton, left?, laidOver]
  by_cases low : address.toNat ≤ place
  · rw [if_pos ⟨backed, low⟩]
    by_cases high : place < address.toNat + data.length
    · rw [if_pos ⟨low, high⟩, List.getElem?_eq_getElem (by omega)]
      rfl
    · rw [if_neg fun inside => high inside.2, List.getElem?_eq_none (by omega)]
      rfl
  · rw [if_neg fun inside => low inside.2, if_neg fun inside => low inside.1]
    rfl

/-- Chunks that follow each other are laid over what was there as if they were written at one
go. -/
theorem lastWritten_chunks {chunks : List Chunk} {start : Nat}
    (contiguous : Chunk.Contiguous start chunks)
    (backed : Backed ranges start (Chunk.contents chunks).length) (history : List MemoryAccess)
    (place : Nat) :
    some (lastWritten ranges (history ++ chunks.map ofChunk) place) =
      laidOver start (Chunk.contents chunks) place (some (lastWritten ranges history place)) := by
  induction chunks generalizing start history with
  | nil =>
      rw [List.map_nil, List.append_nil, laidOver, if_neg]
      rw [Chunk.contents, List.flatMap_nil, List.length_nil]
      omega
  | cons chunk rest ih =>
      obtain ⟨here, contiguous⟩ := contiguous
      rw [Chunk.contents_cons, List.length_append] at backed
      have first : Backed ranges chunk.address.toNat chunk.bytes.length :=
        backed.mono (by omega) (by omega)
      rw [List.map_cons, List.append_cons, ih contiguous (backed.mono (by omega) (by omega)),
        ofChunk, lastWritten_write first, here, laidOver_laidOver, Chunk.contents_cons]

/-- What the array of bytes answers depends on no more than the bytes written last. -/
theorem answer_congr {first second : List MemoryAccess}
    (same : ∀ place, lastWritten ranges first place = lastWritten ranges second place)
    (access : MemoryAccess) : answer ranges first access = answer ranges second access := by
  have same : lastWritten ranges first = lastWritten ranges second := funext same
  cases access with
  | write address data => rfl
  | read address length => rw [answer, answer, same]

end MemoryAccess

/-! ## Windows and ranges -/

namespace Window

/-- The window has all places from `start` on. -/
def Holds (window : Window) (start length : Nat) : Prop :=
  window.base.toNat ≤ start ∧ start + length ≤ window.base.toNat + window.bytes.length

/-- The range of a window. -/
def range (window : Window) : Address × Nat :=
  (window.base, window.bytes.length)

section

variable {window written : Window} {address : Address} {length : Nat} {bytes data : Bytes}

theorem isSome_offset? :
    (window.offset? address length).isSome ↔ window.Holds address.toNat length := by
  rw [Option.isSome_iff_exists]
  constructor
  · rintro ⟨offset, found⟩
    obtain ⟨low, rfl, high⟩ := offset?_eq_some.mp found
    exact ⟨low, by omega⟩
  · rintro ⟨low, high⟩
    exact ⟨_, offset?_eq_some.mpr ⟨low, rfl, by omega⟩⟩

theorem isSome_read? :
    (window.read? address length).isSome ↔ window.Holds address.toNat length := by
  rw [read?, Option.isSome_map, isSome_offset?]

theorem isSome_write? :
    (window.write? address data).isSome ↔ window.Holds address.toNat data.length := by
  rw [write?, Option.isSome_map, isSome_offset?]

/-- What is read of a window are its bytes. -/
theorem read?_eq_some (found : window.read? address length = some bytes) :
    bytes.length = length ∧
      ∀ index, index < length → bytes[index]? = window.byteOf? (address.toNat + index) := by
  obtain ⟨offset, here, rfl⟩ := Option.map_eq_some_iff.mp found
  obtain ⟨low, rfl, high⟩ := offset?_eq_some.mp here
  constructor
  · rw [Bytes.slice, List.length_take, List.length_drop]
    omega
  · intro index inside
    rw [Bytes.slice, List.getElem?_take_of_lt inside, List.getElem?_drop, byteOf?,
      if_pos (by omega)]
    congr 1
    omega

theorem backs_of_byteOf? {place : Nat} {byte : UInt8} (found : window.byteOf? place = some byte) :
    window.Backs place := by
  unfold byteOf? at found
  split at found
  case isTrue low =>
    have inside := (List.getElem?_eq_some_iff.mp found).1
    exact ⟨low, by omega⟩
  case isFalse => cases found

/-- A write keeps the range of a window. -/
theorem range_of_write? (wrote : window.write? address data = some written) :
    written.range = window.range := by
  obtain ⟨offset, here, rfl⟩ := Option.map_eq_some_iff.mp wrote
  obtain ⟨low, rfl, high⟩ := offset?_eq_some.mp here
  have kept : (window.bytes.overlay (address.toNat - window.base.toNat) data).length =
      window.bytes.length := by
    simp only [Bytes.overlay, List.length_append, List.length_take, List.length_drop]
    omega
  rw [range, range, kept]

end

end Window

namespace WindowMemory

open Window

section

variable {windows written : List Window} {memory : WindowMemory} {address : Address}
  {data bytes : Bytes} {length : Nat}

theorem backed_iff {start : Nat} :
    Backed (windows.map range) start length ↔ ∃ window ∈ windows, window.Holds start length := by
  constructor
  · rintro ⟨_, member, holds⟩
    obtain ⟨window, there, rfl⟩ := List.mem_map.mp member
    exact ⟨window, there, holds⟩
  · rintro ⟨window, there, holds⟩
    exact ⟨window.range, List.mem_map_of_mem there, holds⟩

/-- A write reaches a window exactly if one of them has the whole range. -/
theorem isSome_writeFirst? :
    (writeFirst? address data windows).isSome ↔
      Backed (windows.map range) address.toNat data.length := by
  rw [backed_iff]
  simp only [← isSome_write?]
  induction windows with
  | nil =>
      simp only [writeFirst?, Option.isSome_none, Bool.false_eq_true, List.not_mem_nil, false_and,
        exists_false]
  | cons window rest ih =>
      simp only [List.mem_cons, exists_eq_or_imp]
      rw [writeFirst?]
      cases window.write? address data with
      | some changed => exact ⟨fun _ => .inl rfl, fun _ => rfl⟩
      | none =>
          rw [Option.isSome_map, ih]
          exact ⟨.inr, fun either => either.resolve_left Bool.false_ne_true⟩

/-- A read finds a window exactly if one of them has the whole range. -/
theorem isSome_read? :
    (memory.read? address length).isSome ↔
      Backed (memory.windows.map range) address.toNat length := by
  rw [read?, List.findSome?_isSome_iff, backed_iff]
  simp only [Window.isSome_read?]

/-- A write keeps the ranges of all windows. -/
theorem ranges_of_writeFirst? (wrote : writeFirst? address data windows = some written) :
    written.map range = windows.map range := by
  induction windows generalizing written with
  | nil => cases wrote
  | cons window rest ih =>
      rw [writeFirst?] at wrote
      split at wrote
      case h_1 changed here =>
        cases wrote
        rw [List.map_cons, List.map_cons, range_of_write? here]
      case h_2 =>
        obtain ⟨others, later, rfl⟩ := Option.map_eq_some_iff.mp wrote
        rw [List.map_cons, List.map_cons, ih later]

/-- A place is looked up in the window that has a byte for it. -/
theorem byteOf?_of_member (distinct : Distinct windows) {window : Window}
    (member : window ∈ windows) {place : Nat} {byte : UInt8}
    (found : window.byteOf? place = some byte) : byteOf? windows place = some byte := by
  induction windows with
  | nil => cases member
  | cons first rest ih =>
      obtain ⟨apart, distinct⟩ := List.pairwise_cons.mp distinct
      rw [byteOf?_cons]
      rcases List.mem_cons.mp member with rfl | later
      · rw [found, Option.some_or]
      · have elsewhere : ¬ first.Backs place :=
          fun shared => apart window later place ⟨shared, backs_of_byteOf? found⟩
        rw [Window.byteOf?_eq_none elsewhere, Option.none_or, ih distinct later]

/-- What is read of a memory is what its windows have for the places. -/
theorem read?_eq_some (distinct : Distinct memory.windows)
    (found : memory.read? address length = some bytes) :
    bytes.length = length ∧ ∀ index, index < length →
      bytes[index]? = byteOf? memory.windows (address.toNat + index) := by
  obtain ⟨window, member, here⟩ := List.exists_of_findSome?_eq_some found
  obtain ⟨exact, each⟩ := Window.read?_eq_some here
  refine ⟨exact, fun index inside => ?_⟩
  have present : bytes[index]? = some bytes[index] := List.getElem?_eq_getElem (by omega)
  rw [present, byteOf?_of_member distinct member ((each index inside).symm.trans present)]

end

/-! ## The two views -/

/-- A memory has the windows it started with, and in them the bytes that were written last. -/
structure Mirrors (ranges : List (Address × Nat)) (history : List MemoryAccess)
    (memory : WindowMemory) : Prop where
  shape : memory.windows.map range = ranges
  distinct : Distinct memory.windows
  bytes : ∀ place byte, byteOf? memory.windows place = some byte →
    byte = MemoryAccess.lastWritten ranges history place
  writes : memory.writes = history.countP (MemoryAccess.stores ranges)

variable {ranges : List (Address × Nat)} {history : List MemoryAccess} {memory : WindowMemory}

/-- Fresh memory has zeros everywhere. -/
theorem mirrors_ofRanges (distinct : Distinct (ofRanges ranges).windows) :
    Mirrors ranges [] (ofRanges ranges) where
  shape := by
    rw [ofRanges, List.map_map]
    refine (List.map_congr_left fun range _ => ?_).trans (List.map_id ranges)
    rw [Function.comp_apply, Window.range, zeros, List.length_replicate]
    rfl
  distinct := distinct
  bytes := by
    intro place byte found
    obtain ⟨window, member, here⟩ := List.exists_of_findSome?_eq_some found
    obtain ⟨range, -, rfl⟩ := List.mem_map.mp member
    rw [Window.byteOf?] at here
    split at here
    case isTrue => exact (List.mem_replicate.mp (List.mem_of_getElem? here)).2
    case isFalse => cases here
  writes := rfl

namespace Mirrors

/-- An access that stores nothing changes neither view. -/
theorem append_idle (mirrors : Mirrors ranges history memory) {access : MemoryAccess}
    (idle : ¬ access.stores ranges) : Mirrors ranges (history ++ [access]) memory where
  shape := mirrors.shape
  distinct := mirrors.distinct
  bytes place byte found := by
    rw [MemoryAccess.lastWritten_idle idle, mirrors.bytes place byte found]
  writes := by
    rw [List.countP_append, List.countP_singleton, if_neg idle, mirrors.writes, Nat.add_zero]

/-- Writes that are backed are made in both views. -/
theorem append_write (mirrors : Mirrors ranges history memory) {address : Address} {data : Bytes}
    (backed : Backed ranges address.toNat data.length) {windows : List Window}
    (wrote : writeFirst? address data memory.windows = some windows) :
    Mirrors ranges (history ++ [.write address data]) ⟨windows, memory.writes + 1⟩ := by
  obtain ⟨-, -, distinct, bytes⟩ := writeFirst?_eq_some wrote mirrors.distinct
  have stored : (MemoryAccess.write address data).stores ranges := decide_eq_true backed
  refine ⟨(ranges_of_writeFirst? wrote).trans mirrors.shape, distinct, ?_, ?_⟩
  · intro place byte found
    refine Option.some.inj ?_
    rw [MemoryAccess.lastWritten_write backed, ← found, bytes]
    unfold laidOver
    split
    case isTrue => rfl
    case isFalse outside =>
      rw [bytes, laidOver, if_neg outside] at found
      rw [found, mirrors.bytes place byte found]
  · rw [List.countP_append, List.countP_singleton, if_pos stored, mirrors.writes]

/-- What is read are the bytes written last. -/
theorem bytes_of_read? (mirrors : Mirrors ranges history memory) {address : Address}
    {length : Nat} {bytes : Bytes} (found : memory.read? address length = some bytes) :
    bytes = (List.range length).map fun index =>
      MemoryAccess.lastWritten ranges history (address.toNat + index) := by
  obtain ⟨exact, each⟩ := read?_eq_some mirrors.distinct found
  refine List.ext_getElem (by rw [exact, List.length_map, List.length_range]) ?_
  intro index inside _
  have here : byteOf? memory.windows (address.toNat + index) = some bytes[index] := by
    rw [← each index (exact ▸ inside), List.getElem?_eq_getElem inside]
  rw [mirrors.bytes _ _ here, List.getElem_map, List.getElem_range]

/-- **Both views answer the next access alike, and are alike after it.** -/
theorem perform (mirrors : Mirrors ranges history memory) (access : MemoryAccess) :
    (access.perform memory).1 = access.answer ranges history ∧
      Mirrors ranges (history ++ [access]) (access.perform memory).2 := by
  cases access with
  | write address data =>
      have reached : (writeFirst? address data memory.windows).isSome ↔
          Backed ranges address.toNat data.length := by
        rw [isSome_writeFirst?, mirrors.shape]
      rw [MemoryAccess.perform, MemoryAccess.answer, MemoryAccess.address, MemoryAccess.length]
      dsimp only [PhysicalMemory.write]
      rw [write?]
      cases wrote : writeFirst? address data memory.windows with
      | some windows =>
          rw [wrote] at reached
          have backed := reached.mp rfl
          rw [if_pos backed]
          exact ⟨rfl, mirrors.append_write backed wrote⟩
      | none =>
          rw [wrote] at reached
          have outside : ¬ Backed ranges address.toNat data.length :=
            fun backed => Bool.false_ne_true (reached.mpr backed)
          rw [if_neg outside]
          exact ⟨rfl, mirrors.append_idle fun stored => outside (of_decide_eq_true stored)⟩
  | read address length =>
      refine ⟨?_, mirrors.append_idle Bool.false_ne_true⟩
      have reached : (memory.read? address length).isSome ↔
          Backed ranges address.toNat length := by
        rw [isSome_read?, mirrors.shape]
      rw [MemoryAccess.perform, MemoryAccess.answer, MemoryAccess.address, MemoryAccess.length]
      dsimp only [PhysicalMemory.read]
      cases found : memory.read? address length with
      | some bytes =>
          rw [found] at reached
          rw [if_pos (reached.mp rfl), mirrors.bytes_of_read? found]
      | none =>
          rw [found] at reached
          rw [if_neg fun backed => Bool.false_ne_true (reached.mpr backed)]

end Mirrors

/-- Fresh memory with some ranges, after some accesses. -/
def after (ranges : List (Address × Nat)) (history : List MemoryAccess) : WindowMemory :=
  MemoryAccess.performAll (ofRanges ranges) history

theorem mirrors_after (distinct : Distinct (ofRanges ranges).windows)
    (history : List MemoryAccess) : Mirrors ranges history (after ranges history) := by
  induction history using List.reverseRecOn with
  | nil => exact mirrors_ofRanges distinct
  | append_singleton earlier access ih =>
      rw [after, MemoryAccess.performAll_append]
      exact (ih.perform access).2

/-- **Memory made of windows is an array of bytes.** After every sequence of accesses, to
windows that share no place, an access succeeds exactly if one window has all of its places. A
read then finds the bytes that were written last, or zeros. An access that fails changes
nothing, every write that succeeds is counted, and it makes no difference whether bytes were
written at one go or in chunks. -/
theorem accesses_exact (distinct : Distinct (ofRanges ranges).windows)
    (history : List MemoryAccess) :
    (∀ access : MemoryAccess,
      (access.perform (after ranges history)).1 = access.answer ranges history) ∧
    (∀ (access : MemoryAccess) (error : MemoryError),
      (access.perform (after ranges history)).1 = .error error →
      (access.perform (after ranges history)).2 = after ranges history) ∧
    (after ranges history).writes = history.countP (MemoryAccess.stores ranges) ∧
    ∀ (address : Address) (chunks : List Chunk), Chunk.Contiguous address.toNat chunks →
      Backed ranges address.toNat (Chunk.contents chunks).length →
      ∀ (later : List MemoryAccess) (access : MemoryAccess),
        (access.perform
          (after ranges (history ++ chunks.map MemoryAccess.ofChunk ++ later))).1 =
        (access.perform
          (after ranges (history ++ [.write address (Chunk.contents chunks)] ++ later))).1 := by
  have mirrors := mirrors_after distinct
  refine ⟨fun access => ((mirrors history).perform access).1, ?_, (mirrors history).writes, ?_⟩
  · intro access error failed
    cases access with
    | write address data =>
        rw [MemoryAccess.perform] at failed ⊢
        split at failed
        case h_1 => cases failed
        case h_2 => rfl
    | read address length => rfl
  · intro address chunks contiguous backed later access
    rw [((mirrors _).perform access).1, ((mirrors _).perform access).1]
    refine MemoryAccess.answer_congr (fun place => ?_) access
    have same := (MemoryAccess.lastWritten_chunks contiguous backed history place).trans
      (MemoryAccess.lastWritten_write backed history place).symm
    rw [MemoryAccess.lastWritten_append, MemoryAccess.lastWritten_append _ later,
      Option.some.inj same]

/-- Two windows side by side, the second one up to the last address. -/
def topmost : List (Address × Nat) :=
  [(⟨0xffffffffffffffe0⟩, 16), (⟨0xfffffffffffffff0⟩, 16)]

theorem distinct_topmost : Distinct (ofRanges topmost).windows := by
  refine List.pairwise_pair.mpr fun place ⟨first, second⟩ => ?_
  have high : place < 0xffffffffffffffe0 + 16 := first.2
  have low : 0xfffffffffffffff0 ≤ place := second.1
  omega

/-- Accesses on both sides of the border between two windows, over the border, and without
bytes below the first window. -/
theorem accesses_exact_topmost :
    Distinct (ofRanges topmost).windows ∧
      [MemoryAccess.read ⟨0xfffffffffffffff0⟩ 3, .read ⟨0xffffffffffffffee⟩ 2,
        .read ⟨0xffffffffffffffef⟩ 2, .read ⟨0xffffffffffffffdf⟩ 0].map (fun access =>
          (access.perform (after topmost
            [.write ⟨0xffffffffffffffef⟩ [7], .write ⟨0xfffffffffffffff0⟩ [1, 2, 3],
              .write ⟨0xffffffffffffffef⟩ [4, 5], .write ⟨0xfffffffffffffff1⟩ [6]])).1) =
        [.ok [1, 6, 3], .ok [0, 7], .error (.outOfRange ⟨0xffffffffffffffef⟩ 2),
          .error (.outOfRange ⟨0xffffffffffffffdf⟩ 0)] :=
  ⟨distinct_topmost,
    (List.map_congr_left fun access _ => (accesses_exact distinct_topmost _).1 access).trans
      (by decide)⟩

end WindowMemory

end Bootloader
