/-!
# Bytes, little-endian numbers and layouts

Byte strings are lists. A number is stored with its lowest byte first. A layout
describes how values of a type occupy a fixed number of bytes: it writes a value
and reads it back, and layouts are put together side by side. Reading takes
bytes past the end of the input as zeros, so it is total; whoever must not read
a short input compares its length with `Layout.reach` first, the number of bytes
that a reader looks at. Padding at the end is written but not looked at.
-/

set_option autoImplicit false

namespace Bootloader

/-- A string of bytes. -/
abbrev Bytes := List UInt8

namespace Bytes

/-- The lowest `count` bytes of a number, the lowest first. -/
def ofNat (count : Nat) (number : Nat) : Bytes :=
  match count with
  | 0 => []
  | count + 1 => UInt8.ofNat number :: ofNat count (number / 256)

/-- The number stored with its lowest byte first. -/
def toNat : Bytes → Nat
  | [] => 0
  | byte :: rest => byte.toNat + 256 * toNat rest

/-- The part of `bytes` that starts at `offset`, at most `count` bytes long. -/
def slice (bytes : Bytes) (offset count : Nat) : Bytes :=
  (bytes.drop offset).take count

/-- Cut or extended with zeros to exactly `count` bytes. -/
def resize (bytes : Bytes) (count : Nat) : Bytes :=
  bytes.take count ++ List.replicate (count - bytes.length) 0

/-- `bytes` with `patch` laid over it at `offset`; the patch is expected to lie inside. -/
def overlay (bytes : Bytes) (offset : Nat) (patch : Bytes) : Bytes :=
  bytes.take offset ++ patch ++ bytes.drop (offset + patch.length)

@[simp] theorem length_ofNat (count number : Nat) : (ofNat count number).length = count := by
  induction count generalizing number with
  | zero => rfl
  | succ count ih => simp only [ofNat, List.length_cons, ih]

/-- Storing keeps a number up to the width of the store. -/
theorem toNat_ofNat (count number : Nat) : toNat (ofNat count number) = number % 1 <<< (8 * count) := by
  induction count generalizing number with
  | zero => simp only [ofNat, toNat, Nat.mul_zero, Nat.shiftLeft_zero, Nat.mod_one]
  | succ count ih =>
      have low : (UInt8.ofNat number).toNat = number % 256 := UInt8.toNat_ofNat'
      have width : 1 <<< (8 * (count + 1)) = 256 * 1 <<< (8 * count) := by
        rw [Nat.mul_succ, Nat.shiftLeft_add, Nat.shiftLeft_eq _ 8, Nat.mul_comm]
      rw [ofNat, toNat, ih, low, width, Nat.mod_mul]

/-- Any byte string is the store of the number it holds. -/
theorem ofNat_toNat (bytes : Bytes) : ofNat bytes.length (toNat bytes) = bytes := by
  induction bytes with
  | nil => rfl
  | cons byte rest ih =>
      have bound : byte.toNat < 256 := byte.toNat_lt
      have quotient : (byte.toNat + 256 * toNat rest) / 256 = toNat rest := by omega
      have low : UInt8.ofNat (byte.toNat + 256 * toNat rest) = byte := by
        apply UInt8.toNat_inj.mp
        rw [UInt8.toNat_ofNat']
        omega
      rw [List.length_cons, toNat, ofNat, quotient, low, ih]

@[simp] theorem length_resize (bytes : Bytes) (count : Nat) :
    (bytes.resize count).length = count := by
  simp only [resize, List.length_append, List.length_take, List.length_replicate]
  omega

/-- Bytes that already have the asked length are left alone. -/
theorem resize_of_length_eq {bytes : Bytes} {count : Nat} (same : bytes.length = count) :
    bytes.resize count = bytes := by
  subst same
  simp [resize]

end Bytes

/-- Bytes of a fixed number. -/
structure Field (size : Nat) where
  bytes : Bytes
  length_eq : bytes.length = size
  deriving DecidableEq, Repr

namespace Field

/-- A field of zeros. -/
def zero (size : Nat) : Field size :=
  ⟨List.replicate size 0, List.length_replicate⟩

instance (size : Nat) : Inhabited (Field size) := ⟨zero size⟩

/-- Bytes cut or zero-extended to the size of the field. -/
def ofBytes (size : Nat) (bytes : Bytes) : Field size :=
  ⟨bytes.resize size, Bytes.length_resize bytes size⟩

end Field

/-- How values of a type occupy a fixed number of bytes. -/
structure Layout (α : Type) where
  size : Nat
  reach : Nat
  write : α → Bytes
  read : Bytes → α

namespace Layout

variable {α β : Type}

/-- One byte. -/
def byte : Layout UInt8 where
  size := 1
  reach := 1
  write value := [value]
  read bytes := bytes.headD 0

/-- A 16-bit number. -/
def word16 : Layout UInt16 where
  size := 2
  reach := 2
  write value := Bytes.ofNat 2 value.toNat
  read bytes := UInt16.ofNat (Bytes.toNat (bytes.take 2))

/-- A 32-bit number. -/
def word32 : Layout UInt32 where
  size := 4
  reach := 4
  write value := Bytes.ofNat 4 value.toNat
  read bytes := UInt32.ofNat (Bytes.toNat (bytes.take 4))

/-- A 64-bit number. -/
def word64 : Layout UInt64 where
  size := 8
  reach := 8
  write value := Bytes.ofNat 8 value.toNat
  read bytes := UInt64.ofNat (Bytes.toNat (bytes.take 8))

/-- A field of `count` bytes. -/
def field (count : Nat) : Layout (Field count) where
  size := count
  reach := count
  write value := value.bytes
  read bytes := Field.ofBytes count bytes

/-- `count` bytes of padding, written as zeros and skipped by the reader. -/
def padding (count : Nat) : Layout Unit where
  size := count
  reach := 0
  write _ := List.replicate count 0
  read _ := ()

/-- One layout behind the other. -/
def both (first : Layout α) (second : Layout β) : Layout (α × β) where
  size := first.size + second.size
  reach := if second.reach = 0 then first.reach else first.size + second.reach
  write value := first.write value.1 ++ second.write value.2
  read bytes := (first.read bytes, second.read (bytes.drop first.size))

/-- The layout of a type whose values correspond to those of another. -/
def through (layout : Layout α) (make : α → β) (parts : β → α) : Layout β where
  size := layout.size
  reach := layout.reach
  write value := layout.write (parts value)
  read bytes := make (layout.read bytes)

/-- `count` values side by side, from the start of the bytes. -/
def readMany (layout : Layout α) (count : Nat) (bytes : Bytes) : List α :=
  match count with
  | 0 => []
  | count + 1 => layout.read bytes :: layout.readMany count (bytes.drop layout.size)

/-- Values side by side. -/
def writeMany (layout : Layout α) (values : List α) : Bytes :=
  values.flatMap layout.write

/-- A buffer whose first bytes were replaced by a value; there is none if it is too short. -/
def writeInto? (layout : Layout α) (value : α) (buffer : Bytes) : Option Bytes :=
  if layout.size ≤ buffer.length then some (layout.write value ++ buffer.drop layout.size)
  else none

/-- The value at the start of a buffer; there is none if it is too short. -/
def readFrom? (layout : Layout α) (buffer : Bytes) : Option α :=
  if layout.reach ≤ buffer.length then some (layout.read buffer) else none

/-- A layout is exact when it fills its size and reads back what it wrote. -/
structure Exact (layout : Layout α) : Prop where
  length_write : ∀ value, (layout.write value).length = layout.size
  read_write : ∀ value rest, layout.read (layout.write value ++ rest) = value

@[simp] theorem exact_byte : byte.Exact where
  length_write _ := rfl
  read_write _ _ := rfl

@[simp] theorem exact_word16 : word16.Exact where
  length_write value := Bytes.length_ofNat 2 value.toNat
  read_write value rest := by
    have bound := value.toNat_lt
    simp only [word16]
    rw [List.take_left' (Bytes.length_ofNat 2 _), Bytes.toNat_ofNat, Nat.mod_eq_of_lt (by omega),
      UInt16.ofNat_toNat]

@[simp] theorem exact_word32 : word32.Exact where
  length_write value := Bytes.length_ofNat 4 value.toNat
  read_write value rest := by
    have bound := value.toNat_lt
    simp only [word32]
    rw [List.take_left' (Bytes.length_ofNat 4 _), Bytes.toNat_ofNat, Nat.mod_eq_of_lt (by omega),
      UInt32.ofNat_toNat]

@[simp] theorem exact_word64 : word64.Exact where
  length_write value := Bytes.length_ofNat 8 value.toNat
  read_write value rest := by
    have bound := value.toNat_lt
    simp only [word64]
    rw [List.take_left' (Bytes.length_ofNat 8 _), Bytes.toNat_ofNat, Nat.mod_eq_of_lt (by omega),
      UInt64.ofNat_toNat]

@[simp] theorem exact_padding (count : Nat) : (padding count).Exact where
  length_write _ := List.length_replicate
  read_write _ _ := rfl

@[simp] theorem exact_field (count : Nat) : (field count).Exact where
  length_write value := value.length_eq
  read_write value rest := by
    obtain ⟨bytes, same⟩ := value
    subst same
    simp [field, Field.ofBytes, Bytes.resize]

theorem Exact.both {first : Layout α} {second : Layout β} (one : first.Exact)
    (other : second.Exact) : (first.both second).Exact where
  length_write value := by
    simp only [Layout.both, List.length_append, one.length_write, other.length_write]
  read_write value rest := by
    simp only [Layout.both, List.append_assoc, one.read_write,
      List.drop_left' (one.length_write value.1), other.read_write]

theorem Exact.through {layout : Layout α} (exact : layout.Exact) {make : α → β} {parts : β → α}
    (inverse : ∀ value, make (parts value) = value) : (layout.through make parts).Exact where
  length_write value := exact.length_write (parts value)
  read_write value rest := by
    simp only [Layout.through, exact.read_write, inverse]

end Layout

end Bootloader
