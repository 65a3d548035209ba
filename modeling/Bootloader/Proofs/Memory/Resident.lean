import Bootloader.Memory

/-!
# Bytes that stay in memory

Whatever the loader copies reaches memory in chunks, each by one write. Here the writes of a
run are kept as a list of chunks that can be written again (`writeChunks`). In a memory that
keeps what is written to it (`LawfulMemory`), the chunks that were written last leave all of
their bytes behind (`bytesAt?_of_deposited`).
-/

set_option autoImplicit false

namespace Bootloader

/-- Bytes that are written to an address at one go. -/
structure Chunk where
  address : Address
  bytes : Bytes
  deriving DecidableEq, Repr

namespace Chunk

/-- The bytes of chunks, one after the other. -/
def contents (chunks : List Chunk) : Bytes :=
  chunks.flatMap Chunk.bytes

/-- Chunks that follow each other in memory, the first one at a given place. -/
def Contiguous (place : Nat) : List Chunk → Prop
  | [] => True
  | chunk :: rest =>
      chunk.address.toNat = place ∧ Contiguous (place + chunk.bytes.length) rest

theorem contents_cons (chunk : Chunk) (rest : List Chunk) :
    contents (chunk :: rest) = chunk.bytes ++ contents rest :=
  List.flatMap_cons

theorem contents_append (first second : List Chunk) :
    contents (first ++ second) = contents first ++ contents second :=
  List.flatMap_append

theorem Contiguous.append {start : Nat} {first second : List Chunk}
    (earlier : Contiguous start first) (later : Contiguous (start + (contents first).length) second) :
    Contiguous start (first ++ second) := by
  induction first generalizing start with
  | nil => exact later
  | cons chunk rest ih =>
      refine ⟨earlier.1, ih earlier.2 ?_⟩
      rw [contents_cons, List.length_append, ← Nat.add_assoc] at later
      exact later

end Chunk

section

variable {μ : Type} [PhysicalMemory μ]

/-- Write chunks one after the other. -/
def writeChunks (memory : μ) : List Chunk → Except MemoryError μ
  | [] => .ok memory
  | chunk :: rest =>
      match PhysicalMemory.write memory chunk.address chunk.bytes with
      | .ok written => writeChunks written rest
      | .error error => .error error

theorem writeChunks_nil (memory : μ) : writeChunks memory [] = .ok memory := rfl

theorem writeChunks_cons {memory after : μ} {chunk : Chunk} {rest : List Chunk} :
    writeChunks memory (chunk :: rest) = .ok after ↔
      ∃ written, PhysicalMemory.write memory chunk.address chunk.bytes = .ok written ∧
        writeChunks written rest = .ok after := by
  rw [writeChunks]
  cases PhysicalMemory.write memory chunk.address chunk.bytes with
  | ok written => simp only [Except.ok.injEq, exists_eq_left']
  | error error => simp only [reduceCtorEq, false_and, exists_false]

theorem writeChunks_append {memory after : μ} {first second : List Chunk} :
    writeChunks memory (first ++ second) = .ok after ↔
      ∃ middle, writeChunks memory first = .ok middle ∧
        writeChunks middle second = .ok after := by
  induction first generalizing memory with
  | nil => simp only [List.nil_append, writeChunks_nil, Except.ok.injEq, exists_eq_left']
  | cons chunk rest ih =>
      simp only [List.cons_append, writeChunks_cons, ih]
      constructor
      · rintro ⟨written, here, middle, there, later⟩
        exact ⟨middle, ⟨written, here, there⟩, later⟩
      · rintro ⟨middle, ⟨written, here, there⟩, later⟩
        exact ⟨written, here, middle, there, later⟩

/-- The last that was written to a memory is some contents, in chunks that follow each other
from a place on. -/
def Deposited (before after : μ) (start : Nat) (contents : Bytes) : Prop :=
  ∃ earlier chunks, Chunk.Contiguous start chunks ∧ Chunk.contents chunks = contents ∧
    writeChunks before (earlier ++ chunks) = .ok after

/-- Every write into a range succeeds, now and after whatever else is written. -/
def Writable (low high : Nat) (memory : μ) : Prop :=
  ∃ holds : μ → Prop, holds memory ∧
    (∀ {memory written : μ} {address : Address} {data : Bytes}, holds memory →
      PhysicalMemory.write memory address data = .ok written → holds written) ∧
    ∀ {memory : μ} {address : Address} {data : Bytes}, holds memory → low ≤ address.toNat →
      address.toNat + data.length ≤ high →
      ∃ written, PhysicalMemory.write memory address data = .ok written

section

variable {memory written : μ} {low high : Nat} {address : Address} {data : Bytes}

theorem Writable.write (writable : Writable low high memory) (above : low ≤ address.toNat)
    (below : address.toNat + data.length ≤ high) :
    ∃ written, PhysicalMemory.write memory address data = .ok written := by
  obtain ⟨holds, here, _, succeeds⟩ := writable
  exact succeeds here above below

theorem Writable.after_write (writable : Writable low high memory)
    (wrote : PhysicalMemory.write memory address data = .ok written) :
    Writable low high written := by
  obtain ⟨holds, here, keeps, succeeds⟩ := writable
  exact ⟨holds, keeps here wrote, keeps, succeeds⟩

theorem Writable.after_writeChunks {chunks : List Chunk} (writable : Writable low high memory)
    (wrote : writeChunks memory chunks = .ok written) : Writable low high written := by
  induction chunks generalizing memory with
  | nil =>
      cases wrote
      exact writable
  | cons chunk rest ih =>
      obtain ⟨middle, first, wrote⟩ := writeChunks_cons.mp wrote
      exact ih (writable.after_write first) wrote

/-- A part of a range can be written where the whole range can. -/
theorem Writable.mono {start stop : Nat} (writable : Writable low high memory)
    (above : low ≤ start) (below : stop ≤ high) : Writable start stop memory := by
  obtain ⟨holds, here, keeps, succeeds⟩ := writable
  exact ⟨holds, here, keeps, fun there first last =>
    succeeds there (Nat.le_trans above first) (Nat.le_trans last below)⟩

end

/-- The byte at an address, if it can be read. -/
def byteAt? (memory : μ) (address : Address) : Option UInt8 :=
  match PhysicalMemory.read memory address 1 with
  | .ok [byte] => some byte
  | _ => none

/-- The bytes from a place on, if each of them can be read. -/
def bytesAt? (memory : μ) (place : Nat) : (count : Nat) → Option Bytes
  | 0 => some []
  | count + 1 => do
      let address ← Address.ofNat? place
      let byte ← byteAt? memory address
      let rest ← bytesAt? memory (place + 1) count
      return byte :: rest

/-- The bytes from a place on are those that are found one by one. -/
theorem bytesAt?_eq_some {memory : μ} {start : Nat} {bytes : Bytes}
    (fits : start + bytes.length ≤ UInt64.size)
    (each : ∀ place : Address, start ≤ place.toNat → place.toNat < start + bytes.length →
      byteAt? memory place = bytes[place.toNat - start]?) :
    bytesAt? memory start bytes.length = some bytes := by
  induction bytes generalizing start with
  | nil => rfl
  | cons byte rest ih =>
      rw [List.length_cons] at fits each
      have small : start < UInt64.size := by omega
      have number := Address.toNat_ofNat_of_lt small
      have first : byteAt? memory (Address.ofNat start) = some byte := by
        rw [each (Address.ofNat start) (by omega) (by omega), number, Nat.sub_self]
        rfl
      have others : bytesAt? memory (start + 1) rest.length = some rest := by
        refine ih (by omega) ?_
        intro place low high
        rw [each place (by omega) (by omega)]
        have next : place.toNat - start = place.toNat - (start + 1) + 1 := by omega
        rw [next, List.getElem?_cons_succ]
      rw [List.length_cons, bytesAt?, Address.ofNat?, if_pos small]
      show (byteAt? memory (Address.ofNat start)).bind _ = _
      rw [first, Option.bind_some, others]
      rfl

end

/-- What is at a place after data was laid over what was there. -/
def laidOver (start : Nat) (data : Bytes) (place : Nat) (below : Option UInt8) : Option UInt8 :=
  if start ≤ place ∧ place < start + data.length then data[place - start]? else below

/-- Data laid over what was there, and more data right behind it. -/
theorem laidOver_laidOver (start : Nat) (first second : Bytes) (place : Nat)
    (below : Option UInt8) :
    laidOver (start + first.length) second place (laidOver start first place below) =
      laidOver start (first ++ second) place below := by
  unfold laidOver
  rw [List.length_append]
  by_cases before : place < start + first.length
  · rw [if_neg (by omega)]
    by_cases inside : start ≤ place
    · rw [if_pos ⟨inside, before⟩, if_pos (by omega), List.getElem?_append_left (by omega)]
    · rw [if_neg (by omega), if_neg (by omega)]
  · by_cases inside : place < start + first.length + second.length
    · rw [if_pos (by omega), if_pos (by omega), List.getElem?_append_right (by omega)]
      congr 1
      omega
    · rw [if_neg (by omega), if_neg (by omega), if_neg (by omega)]

/-- A memory in which every byte that was written, and no other, can be read back. This holds
of memory in a sound state, and writing keeps the state sound. -/
class LawfulMemory (μ : Type) [PhysicalMemory μ] where
  Sound : μ → Prop
  sound_write : ∀ {memory written : μ} {address : Address} {data : Bytes}, Sound memory →
    PhysicalMemory.write memory address data = .ok written → Sound written
  byteAt_write : ∀ {memory written : μ} {address : Address} {data : Bytes}, Sound memory →
    PhysicalMemory.write memory address data = .ok written → ∀ place : Address,
    byteAt? written place = laidOver address.toNat data place.toNat (byteAt? memory place)

namespace LawfulMemory

variable {μ : Type} [PhysicalMemory μ] [LawfulMemory μ] {memory after : μ}

theorem sound_writeChunks {chunks : List Chunk} (sound : Sound memory)
    (wrote : writeChunks memory chunks = .ok after) : Sound after := by
  induction chunks generalizing memory with
  | nil =>
      cases wrote
      exact sound
  | cons chunk rest ih =>
      obtain ⟨written, first, wrote⟩ := writeChunks_cons.mp wrote
      exact ih (sound_write sound first) wrote

/-- Chunks that follow each other are laid over memory as if they were written at one go. -/
theorem byteAt_writeChunks {chunks : List Chunk} {start : Nat} (sound : Sound memory)
    (contiguous : Chunk.Contiguous start chunks) (wrote : writeChunks memory chunks = .ok after)
    (place : Address) :
    byteAt? after place =
      laidOver start (Chunk.contents chunks) place.toNat (byteAt? memory place) := by
  induction chunks generalizing memory start with
  | nil =>
      cases wrote
      exact (if_neg fun inside => by
        simp only [Chunk.contents, List.flatMap_nil, List.length_nil] at inside
        omega).symm
  | cons chunk rest ih =>
      obtain ⟨here, contiguous⟩ := contiguous
      obtain ⟨written, first, wrote⟩ := writeChunks_cons.mp wrote
      rw [ih (sound_write sound first) contiguous wrote, byteAt_write sound first, here,
        laidOver_laidOver, Chunk.contents_cons]

/-- **What was written last stays in memory.** -/
theorem bytesAt?_of_deposited {start : Nat} {contents : Bytes} (sound : Sound memory)
    (deposited : Deposited memory after start contents)
    (fits : start + contents.length ≤ UInt64.size) :
    bytesAt? after start contents.length = some contents := by
  obtain ⟨earlier, chunks, contiguous, rfl, wrote⟩ := deposited
  obtain ⟨middle, before, last⟩ := writeChunks_append.mp wrote
  refine bytesAt?_eq_some fits ?_
  intro place low high
  rw [byteAt_writeChunks (sound_writeChunks sound before) contiguous last place]
  exact if_pos ⟨low, high⟩

end LawfulMemory

end Bootloader
