import Bootloader.Bytes

/-!
# Records side by side, and in place

Values of an exact layout that are written side by side are read back from the front of
whatever follows them (`readMany_writeMany`). A buffer can also be filled in place: first it
is all zeros, and then one value after the other is written over them, each at its offset and
each only if it lies in the buffer (`writeAt?`). Writing from the front to the back gives the
values side by side, with the zeros that are left behind them (`writeTable?_eq`).
-/

set_option autoImplicit false

namespace Bootloader

/-- `bytes` with `patch` laid over it at `offset`; there is none if the patch does not lie
inside. -/
def Bytes.overlay? (bytes : Bytes) (offset : Nat) (patch : Bytes) : Option Bytes :=
  if offset + patch.length ≤ bytes.length then some (bytes.overlay offset patch) else none

theorem Bytes.length_overlay {bytes patch : Bytes} {offset : Nat}
    (inside : offset + patch.length ≤ bytes.length) :
    (bytes.overlay offset patch).length = bytes.length := by
  simp only [overlay, List.length_append, List.length_take, List.length_drop]
  omega

/-- Bytes that fit are followed by zeros. -/
theorem Bytes.resize_of_length_le {bytes : Bytes} {count : Nat} (fits : bytes.length ≤ count) :
    bytes.resize count = bytes ++ List.replicate (count - bytes.length) 0 := by
  rw [Bytes.resize, List.take_of_length_le fits]

theorem Bytes.resize_nil (count : Nat) : Bytes.resize [] count = List.replicate count 0 := by
  rw [Bytes.resize, List.take_nil, List.nil_append, List.length_nil, Nat.sub_zero]

/-- A field that begins with the given bytes and is filled with zeros; there is none if they
are too many. -/
def Field.fill? (size : Nat) (bytes : Bytes) : Option (Field size) :=
  if bytes.length ≤ size then some (Field.ofBytes size bytes) else none

theorem Field.fill?_eq {size : Nat} {bytes : Bytes} (fits : bytes.length ≤ size) :
    Field.fill? size bytes = some (Field.ofBytes size bytes) :=
  if_pos fits

/-- Bytes that fit a field are its first ones. -/
theorem Field.take_ofBytes {size : Nat} {bytes : Bytes} (fits : bytes.length ≤ size) :
    (Field.ofBytes size bytes).bytes.take bytes.length = bytes := by
  show (bytes.resize size).take bytes.length = bytes
  rw [Bytes.resize_of_length_le fits, List.take_left]

/-- Laying bytes over the first zeros behind what is there. -/
theorem Bytes.overlay?_resize (written patch : Bytes) {count : Nat}
    (room : written.length + patch.length ≤ count) :
    (written.resize count).overlay? written.length patch =
      some ((written ++ patch).resize count) := by
  have both : (written ++ patch).length ≤ count := by rwa [List.length_append]
  have behind : (List.replicate (count - written.length) (0 : UInt8)).drop patch.length =
      List.replicate (count - (written ++ patch).length) 0 := by
    rw [List.drop_replicate, List.length_append, Nat.sub_sub]
  rw [Bytes.overlay?, Bytes.length_resize, if_pos room, Bytes.resize_of_length_le both,
    Bytes.resize_of_length_le (by omega), Bytes.overlay, List.take_left,
    List.drop_length_add_append, behind]

namespace Layout

variable {α : Type} {layout : Layout α}

theorem writeMany_cons (value : α) (rest : List α) :
    layout.writeMany (value :: rest) = layout.write value ++ layout.writeMany rest :=
  List.flatMap_cons

theorem Exact.length_writeMany (exact : layout.Exact) (values : List α) :
    (layout.writeMany values).length = values.length * layout.size := by
  induction values with
  | nil => rw [writeMany, List.flatMap_nil, List.length_nil, List.length_nil, Nat.zero_mul]
  | cons value rest ih =>
      rw [writeMany_cons, List.length_append, exact.length_write, ih, List.length_cons,
        Nat.succ_mul, Nat.add_comm]

/-- **Values that were written side by side are read back.** -/
theorem Exact.readMany_writeMany (exact : layout.Exact) (values : List α) (rest : Bytes) :
    layout.readMany values.length (layout.writeMany values ++ rest) = values := by
  induction values with
  | nil => rfl
  | cons value others ih =>
      rw [writeMany_cons, List.append_assoc, List.length_cons, readMany, exact.read_write,
        List.drop_left' (exact.length_write value), ih]

/-! ## Writing in place -/

/-- Write a value at an offset of a buffer; it has to lie inside. -/
def writeAt? (layout : Layout α) (offset : Nat) (value : α) (buffer : Bytes) : Option Bytes :=
  buffer.overlay? offset (layout.write value)

/-- The first value is written over zeros. -/
theorem Exact.writeAt?_eq (exact : layout.Exact) (value : α) {count : Nat}
    (room : layout.size ≤ count) :
    layout.writeAt? 0 value (List.replicate count 0) =
      some ((layout.write value).resize count) := by
  have first := Bytes.overlay?_resize [] (layout.write value)
    (by rw [exact.length_write, List.length_nil]; omega : _ ≤ count)
  rw [Bytes.resize_nil, List.length_nil, List.nil_append] at first
  exact first

/-- Write values at an offset of a buffer, one behind the other; they have to lie inside. -/
def writeTable? (layout : Layout α) (offset : Nat) (buffer : Bytes) : List α → Option Bytes
  | [] => some buffer
  | value :: rest => do
      let buffer ← layout.writeAt? offset value buffer
      layout.writeTable? (offset + layout.size) buffer rest

/-- **Written over zeros from the front on, values end up side by side.** -/
theorem Exact.writeTable?_eq (exact : layout.Exact) {values : List α} {written : Bytes}
    {offset count : Nat} (place : written.length = offset)
    (room : offset + (layout.writeMany values).length ≤ count) :
    layout.writeTable? offset (written.resize count) values =
      some ((written ++ layout.writeMany values).resize count) := by
  induction values generalizing written offset with
  | nil => rw [writeTable?, writeMany, List.flatMap_nil, List.append_nil]
  | cons value rest ih =>
      rw [writeMany_cons, List.length_append] at room
      have length := exact.length_write value
      have first : (written.resize count).overlay? offset (layout.write value) =
          some ((written ++ layout.write value).resize count) := by
        rw [← place]
        exact Bytes.overlay?_resize _ _ (by omega)
      have next : (written ++ layout.write value).length = offset + layout.size := by
        rw [List.length_append, length, place]
      rw [writeTable?, writeAt?, first]
      show layout.writeTable? _ _ rest = _
      rw [ih next (by omega), writeMany_cons, List.append_assoc]

end Layout

end Bootloader
