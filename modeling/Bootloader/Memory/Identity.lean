import Bootloader.Memory

/-!
# Memory that backs every address

On a target every address can be reached. The only access that is refused is one
whose range wraps around the end of the address space.
-/

set_option autoImplicit false

namespace Bootloader

/-- A byte at every address. -/
structure IdentityMemory where
  byteAt : Address → UInt8

namespace IdentityMemory

/-- Memory of zeros. -/
def zeros : IdentityMemory := ⟨fun _ => 0⟩

/-- Whether a range ends inside the address space. -/
def reaches (address : Address) (length : Nat) : Bool :=
  (address.advance? length).isSome

/-- The memory after a write. -/
def store (memory : IdentityMemory) (address : Address) (data : Bytes) : IdentityMemory where
  byteAt place :=
    if address ≤ place then
      match data[place.toNat - address.toNat]? with
      | some byte => byte
      | none => memory.byteAt place
    else memory.byteAt place

/-- The bytes of a range. -/
def load (memory : IdentityMemory) (address : Address) (length : Nat) : Bytes :=
  (List.range length).map fun index => memory.byteAt (Address.ofNat (address.toNat + index))

instance : PhysicalMemory IdentityMemory where
  write memory address data :=
    if reaches address data.length then .ok (memory.store address data)
    else .error (.outOfRange address data.length)
  read memory address length :=
    if reaches address length then .ok (memory.load address length)
    else .error (.outOfRange address length)

end IdentityMemory

end Bootloader
