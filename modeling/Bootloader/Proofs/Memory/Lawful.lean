import Bootloader.Memory.Identity
import Bootloader.Memory.Window
import Bootloader.Proofs.Memory.Resident

/-!
# Memories that keep what is written

Both memories of the loader can be read back. The one that backs every address always can.
The one that is made of windows can if no two windows share a place: a write goes to the
first window that holds all of it, and a byte is read from the first window that backs it,
which then is the same one.
-/

set_option autoImplicit false

namespace Bootloader

namespace IdentityMemory

theorem reaches_iff {address : Address} {length : Nat} :
    reaches address length ↔ address.toNat + length < UInt64.size := by
  unfold reaches Address.advance? Address.ofNat?
  split <;> simp_all

theorem byteAt?_eq (memory : IdentityMemory) (place : Address) :
    Bootloader.byteAt? memory place =
      if place.toNat + 1 < UInt64.size then some (memory.byteAt place) else none := by
  have same : Address.ofNat place.toNat = place :=
    Address.toNat_inj.mp (Address.toNat_ofNat_of_lt place.toNat_lt)
  by_cases reached : reaches place 1
  · have read : PhysicalMemory.read memory place 1 = .ok [memory.byteAt place] := by
      show (if reaches place 1 then _ else _) = _
      rw [if_pos reached]
      simp [load, same]
    rw [Bootloader.byteAt?, read, if_pos (reaches_iff.mp reached)]
  · have read : PhysicalMemory.read memory place 1 = .error (.outOfRange place 1) :=
      if_neg reached
    rw [Bootloader.byteAt?, read, if_neg (mt reaches_iff.mpr reached)]

theorem store_byteAt (memory : IdentityMemory) (address place : Address) (data : Bytes) :
    some ((memory.store address data).byteAt place) =
      laidOver address.toNat data place.toNat (some (memory.byteAt place)) := by
  unfold laidOver
  by_cases low : address ≤ place
  · have below : address.toNat ≤ place.toNat := low
    by_cases high : place.toNat < address.toNat + data.length
    · have inside : place.toNat - address.toNat < data.length := by omega
      rw [if_pos ⟨low, high⟩]
      simp [store, low, List.getElem?_eq_getElem inside]
    · have outside : data[place.toNat - address.toNat]? = none :=
        List.getElem?_eq_none (by omega)
      rw [if_neg fun inside => high inside.2]
      simp [store, outside]
  · rw [if_neg fun inside => low inside.1]
    simp [store, low]

/-- Memory that backs every address is always sound. -/
instance : LawfulMemory IdentityMemory where
  Sound _ := True
  sound_write _ _ := trivial
  byteAt_write {memory written address data} _ wrote place := by
    have ⟨reached, same⟩ : reaches address data.length ∧ memory.store address data = written := by
      change (if reaches address data.length then _ else _) = _ at wrote
      split at wrote
      · exact ⟨‹_›, Except.ok.inj wrote⟩
      · cases wrote
    have fits := reaches_iff.mp reached
    rw [byteAt?_eq, byteAt?_eq, ← same, store_byteAt]
    by_cases inside : place.toNat + 1 < UInt64.size
    · rw [if_pos inside, if_pos inside]
    · rw [if_neg inside, if_neg inside, laidOver, if_neg (by omega)]

/-- Every range below the last address can be written. -/
theorem writable {low high : Nat} (memory : IdentityMemory) (fits : high < UInt64.size) :
    Writable low high memory := by
  refine ⟨fun _ => True, trivial, fun _ _ => trivial, ?_⟩
  intro memory address data _ _ below
  exact ⟨_, if_pos (reaches_iff.mpr (Nat.lt_of_le_of_lt below fits))⟩

end IdentityMemory

namespace Window

/-- The byte that the window has for a place. -/
def byteOf? (window : Window) (place : Nat) : Option UInt8 :=
  if window.base.toNat ≤ place then window.bytes[place - window.base.toNat]? else none

/-- Whether the window has a byte for a place. -/
def Backs (window : Window) (place : Nat) : Prop :=
  window.base.toNat ≤ place ∧ place < window.base.toNat + window.bytes.length

/-- Windows that share no place. -/
def Distinct (windows : List Window) : Prop :=
  windows.Pairwise fun first second => ∀ place, ¬ (first.Backs place ∧ second.Backs place)

theorem byteOf?_eq_none {window : Window} {place : Nat} (outside : ¬ window.Backs place) :
    window.byteOf? place = none := by
  unfold byteOf?
  split
  case isTrue low =>
    refine List.getElem?_eq_none ?_
    rw [Backs] at outside
    omega
  case isFalse _ => rfl

theorem offset?_eq_some {window : Window} {address : Address} {length offset : Nat} :
    window.offset? address length = some offset ↔
      window.base.toNat ≤ address.toNat ∧ offset = address.toNat - window.base.toNat ∧
        offset + length ≤ window.bytes.length := by
  unfold offset?
  split
  case isTrue holds =>
    rw [Option.some.injEq]
    constructor
    · rintro rfl
      exact ⟨holds.1, rfl, holds.2⟩
    · rintro ⟨_, rfl, _⟩
      rfl
  case isFalse outside =>
    constructor
    · intro impossible
      cases impossible
    · rintro ⟨low, rfl, high⟩
      exact absurd ⟨low, high⟩ outside

/-- Reading one byte reads the byte of the place. -/
theorem read?_one (window : Window) (place : Address) :
    window.read? place 1 = (window.byteOf? place.toNat).map fun byte => [byte] := by
  unfold read?
  cases found : window.offset? place 1 with
  | some offset =>
      obtain ⟨low, rfl, high⟩ := offset?_eq_some.mp found
      have inside : place.toNat - window.base.toNat < window.bytes.length := by omega
      rw [byteOf?, if_pos low, List.getElem?_eq_getElem inside, Option.map_some, Option.map_some,
        Bytes.slice, List.drop_eq_getElem_cons inside, List.take_succ_cons, List.take_zero]
  | none =>
      have outside : ¬ window.Backs place.toNat := by
        rintro ⟨low, high⟩
        have here := offset?_eq_some.mpr ⟨low, rfl, (by omega :
          place.toNat - window.base.toNat + 1 ≤ window.bytes.length)⟩
        rw [found] at here
        cases here
      rw [byteOf?_eq_none outside]
      rfl

theorem overlay_getElem? {bytes patch : Bytes} {offset : Nat}
    (inside : offset + patch.length ≤ bytes.length) (index : Nat) :
    (bytes.overlay offset patch)[index]? = laidOver offset patch index bytes[index]? := by
  have front : (bytes.take offset).length = offset := by
    rw [List.length_take]
    omega
  unfold Bytes.overlay laidOver
  by_cases before : index < offset
  · rw [if_neg (by omega), List.append_assoc, List.getElem?_append_left (by omega),
      List.getElem?_take_of_lt before]
  · by_cases within : index < offset + patch.length
    · rw [if_pos (by omega), List.append_assoc, List.getElem?_append_right (by omega), front,
        List.getElem?_append_left (by omega)]
    · rw [if_neg (by omega), List.getElem?_append_right
        (by rw [List.length_append]; omega), List.length_append, front, List.getElem?_drop]
      congr 1
      omega

/-- What a write into a window does. -/
theorem write?_eq_some {window written : Window} {address : Address} {data : Bytes}
    (wrote : window.write? address data = some written) :
    (∀ place, address.toNat ≤ place → place < address.toNat + data.length →
      window.Backs place) ∧
    (∀ place, written.Backs place ↔ window.Backs place) ∧
    ∀ place, written.byteOf? place =
      laidOver address.toNat data place (window.byteOf? place) := by
  obtain ⟨offset, found, rfl⟩ := Option.map_eq_some_iff.mp wrote
  obtain ⟨low, rfl, high⟩ := offset?_eq_some.mp found
  have kept : (window.bytes.overlay (address.toNat - window.base.toNat) data).length =
      window.bytes.length := by
    simp only [Bytes.overlay, List.length_append, List.length_take, List.length_drop]
    omega
  refine ⟨?_, ?_, ?_⟩
  · intro place first last
    exact ⟨by omega, by omega⟩
  · intro place
    rw [Backs, Backs, kept]
  · intro place
    unfold byteOf?
    dsimp only
    rw [overlay_getElem? high]
    by_cases above : window.base.toNat ≤ place
    · rw [if_pos above, if_pos above]
      unfold laidOver
      by_cases inside : address.toNat ≤ place ∧ place < address.toNat + data.length
      · rw [if_pos inside, if_pos (by omega)]
        congr 1
        omega
      · rw [if_neg inside, if_neg (by omega)]
    · rw [if_neg above, if_neg above, laidOver, if_neg (by omega)]

end Window

/-- Laying data over the first of two layers. -/
theorem laidOver_or (start : Nat) (data : Bytes) (place : Nat) (first second : Option UInt8) :
    laidOver start data place (first.or second) =
      (laidOver start data place first).or second := by
  unfold laidOver
  split
  case isTrue inside =>
    have small : place - start < data.length := by omega
    rw [List.getElem?_eq_getElem small]
    rfl
  case isFalse _ => rfl

/-- Laying data over the second of two layers, where the first one has nothing. -/
theorem or_laidOver {start : Nat} {data : Bytes} {place : Nat} {first : Option UInt8}
    (second : Option UInt8)
    (nothing : start ≤ place → place < start + data.length → first = none) :
    laidOver start data place (first.or second) =
      first.or (laidOver start data place second) := by
  unfold laidOver
  split
  case isTrue inside =>
    rw [nothing inside.1 inside.2]
    rfl
  case isFalse _ => rfl

namespace WindowMemory

open Window

/-- The byte that the first of some windows has for a place. -/
def byteOf? (windows : List Window) (place : Nat) : Option UInt8 :=
  windows.findSome? fun window => window.byteOf? place

theorem byteOf?_cons (window : Window) (rest : List Window) (place : Nat) :
    byteOf? (window :: rest) place = (window.byteOf? place).or (byteOf? rest place) := by
  unfold byteOf?
  rw [List.findSome?_cons]
  cases window.byteOf? place <;> rfl

/-- What a write into the first window that holds the range does to windows that share no
place. -/
theorem writeFirst?_eq_some {windows written : List Window} {address : Address} {data : Bytes}
    (wrote : writeFirst? address data windows = some written) (distinct : Distinct windows) :
    (∃ window ∈ windows, ∀ place, address.toNat ≤ place → place < address.toNat + data.length →
      window.Backs place) ∧
    (∀ place, (∃ window ∈ written, window.Backs place) ↔ ∃ window ∈ windows, window.Backs place) ∧
    Distinct written ∧
    ∀ place, byteOf? written place =
      laidOver address.toNat data place (byteOf? windows place) := by
  induction windows generalizing written with
  | nil => cases wrote
  | cons window rest ih =>
      obtain ⟨apart, distinct⟩ := List.pairwise_cons.mp distinct
      rw [writeFirst?] at wrote
      split at wrote
      case h_1 changed here =>
        cases wrote
        obtain ⟨holds, backs, bytes⟩ := write?_eq_some here
        refine ⟨⟨window, List.mem_cons_self, holds⟩, ?_, ?_, ?_⟩
        · intro place
          simp only [List.mem_cons, exists_eq_or_imp, backs]
        · refine List.pairwise_cons.mpr ⟨?_, distinct⟩
          intro other member place
          rw [backs]
          exact apart other member place
        · intro place
          rw [byteOf?_cons, byteOf?_cons, laidOver_or, bytes]
      case h_2 =>
        obtain ⟨others, later, rfl⟩ := Option.map_eq_some_iff.mp wrote
        obtain ⟨⟨holder, member, holds⟩, backs, kept, bytes⟩ := ih later distinct
        refine ⟨⟨holder, List.mem_cons_of_mem _ member, holds⟩, ?_, ?_, ?_⟩
        · intro place
          simp only [List.mem_cons, exists_eq_or_imp, backs]
        · refine List.pairwise_cons.mpr ⟨?_, kept⟩
          intro other there place shared
          obtain ⟨earlier, present, covered⟩ := (backs place).mp ⟨other, there, shared.2⟩
          exact apart earlier present place ⟨shared.1, covered⟩
        · intro place
          have nothing : address.toNat ≤ place → place < address.toNat + data.length →
              window.byteOf? place = none := by
            intro low high
            exact byteOf?_eq_none fun shared => apart holder member place ⟨shared, holds place low high⟩
          rw [byteOf?_cons, byteOf?_cons, or_laidOver _ nothing, bytes]

theorem byteAt?_eq (memory : WindowMemory) (place : Address) :
    Bootloader.byteAt? memory place = byteOf? memory.windows place.toNat := by
  have found : memory.read? place 1 =
      (byteOf? memory.windows place.toNat).map fun byte => [byte] := by
    unfold read? byteOf?
    induction memory.windows with
    | nil => rfl
    | cons window rest ih =>
        rw [List.findSome?_cons, List.findSome?_cons, read?_one, ih]
        cases window.byteOf? place.toNat <;> rfl
  rw [Bootloader.byteAt?]
  dsimp only [PhysicalMemory.read]
  rw [found]
  cases byteOf? memory.windows place.toNat <;> rfl

theorem write_eq_ok {memory written : WindowMemory} {address : Address} {data : Bytes}
    (wrote : PhysicalMemory.write memory address data = .ok written) :
    ∃ windows, writeFirst? address data memory.windows = some windows ∧
      written = ⟨windows, memory.writes + 1⟩ := by
  dsimp only [PhysicalMemory.write] at wrote
  split at wrote
  case h_1 stored there =>
    cases wrote
    obtain ⟨windows, found, same⟩ := Option.map_eq_some_iff.mp there
    exact ⟨windows, found, same.symm⟩
  case h_2 => cases wrote

/-- Memory made of windows is sound if its windows share no place. -/
instance : LawfulMemory WindowMemory where
  Sound memory := Distinct memory.windows
  sound_write {memory written address data} distinct wrote := by
    obtain ⟨windows, stored, rfl⟩ := write_eq_ok wrote
    exact (writeFirst?_eq_some stored distinct).2.2.1
  byteAt_write {memory written address data} distinct wrote place := by
    obtain ⟨windows, stored, rfl⟩ := write_eq_ok wrote
    rw [byteAt?_eq, byteAt?_eq]
    exact (writeFirst?_eq_some stored distinct).2.2.2 place.toNat

end WindowMemory

end Bootloader
