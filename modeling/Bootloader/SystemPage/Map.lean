import Bootloader.Attributes
import Bootloader.SystemPage.Record

/-!
# Memory maps and reservations

A memory map is a named range of addresses that is filled from its start: the
bytes below its top are in use. Ranges that must not be used are reserved. A map
keeps the reservations that fall into it clipped to its range, joined where they
touch, and in the order of their addresses; and its top never rests inside one.
-/

set_option autoImplicit false

namespace Bootloader.SystemPage

/-- The addresses from `start` up to but not including `stop`. -/
structure Reservation where
  start : Address
  stop : Address
  deriving DecidableEq, Repr, Inhabited

namespace Reservation

/-- Whether the range shares an address with another one; for an empty range, whether it
lies strictly inside. -/
def intersects (reservation : Reservation) (start stop : Address) : Bool :=
  reservation.start < stop && start < reservation.stop

/-- Whether an address lies in the range. -/
def contains (reservation : Reservation) (address : Address) : Bool :=
  reservation.start ≤ address && address < reservation.stop

/-- Whether two ranges overlap or lie side by side. -/
def touches (first second : Reservation) : Bool :=
  first.start ≤ second.stop && second.start ≤ first.stop

/-- The smallest range that holds both. -/
def hull (first second : Reservation) : Reservation :=
  ⟨min first.start second.start, max first.stop second.stop⟩

/-- Join a range with everything it touches on the way through a list; the rest remains. -/
def join (merged : Reservation) : List Reservation → Reservation × List Reservation
  | [] => (merged, [])
  | entry :: rest =>
      if entry.touches merged then (merged.hull entry).join rest
      else
        let (joined, others) := merged.join rest
        (joined, entry :: others)

/-- Put a range in front of the first one that starts behind it. -/
def insertSorted (entry : Reservation) : List Reservation → List Reservation
  | [] => [entry]
  | other :: rest =>
      if entry.start < other.start then entry :: other :: rest
      else other :: entry.insertSorted rest

/-- The first address from `top` on that lies in none of the ranges, reached by leaving
one range after the other. -/
def skip (reserved : List Reservation) (top : Address) : Address :=
  match _found : reserved.find? (·.contains top) with
  | some entry => skip reserved entry.stop
  | none => top
termination_by UInt64.size - top.toNat
decreasing_by
  have inside := List.find?_some _found
  simp only [contains, Bool.and_eq_true, decide_eq_true_eq, Address.lt_def] at inside
  have := entry.stop.toNat_lt
  omega

end Reservation

/-- A named range of memory with a cursor. -/
structure MemoryMap where
  name : String
  id : UInt8
  start : Address
  stop : Address
  attributes : Attributes
  top : Address
  reserved : List Reservation
  deriving DecidableEq, Repr, Inhabited

namespace MemoryMap

/-- A map that holds nothing yet. -/
def fresh (name : String) (id : UInt8) (start stop : Address) (attributes : Attributes) :
    MemoryMap :=
  { name, id, start, stop, attributes, top := start, reserved := [] }

/-- Bytes in the map. -/
def size (map : MemoryMap) : Nat :=
  map.stop.toNat - map.start.toNat

/-- Bytes between the top and the end. -/
def freeSize (map : MemoryMap) : Nat :=
  map.stop.toNat - map.top.toNat

/-- Whether the map shares an address with a range. -/
def overlaps (map : MemoryMap) (start stop : Address) : Bool :=
  map.start < stop && start < map.stop

/-- Whether an address lies in the map. -/
def contains (map : MemoryMap) (address : Address) : Bool :=
  map.start ≤ address && address < map.stop

/-- Move the top out of the reservations. -/
def skipReserved (map : MemoryMap) : MemoryMap :=
  { map with top := Reservation.skip map.reserved map.top }

/-- Record the part of a reservation that falls into the map. -/
def absorb (map : MemoryMap) (entry : Reservation) : MemoryMap :=
  let clipped : Reservation := ⟨max entry.start map.start, min entry.stop map.stop⟩
  if clipped.start < clipped.stop then
    let (joined, others) := clipped.join map.reserved
    { map with reserved := joined.insertSorted others }.skipReserved
  else map

/-- The first reservation in the way of a range. -/
def collision? (map : MemoryMap) (start stop : Address) : Option Reservation :=
  map.reserved.find? fun entry => entry.intersects start stop

/-- Move the top behind a reservation, but not out of the map. -/
def passReservation (map : MemoryMap) (entry : Reservation) : MemoryMap :=
  { map with top := min entry.stop map.stop }.skipReserved

/-- Round the top up to a page, but not out of the map. -/
def alignTop (map : MemoryMap) : MemoryMap :=
  let aligned := (map.top.alignUp? Capacity.pageAlignment).getD map.stop
  { map with top := min aligned map.stop }.skipReserved

/-- Raise the top to an address; a higher top is left alone. -/
def raiseTop (map : MemoryMap) (address : Address) : MemoryMap :=
  { map with top := max map.top address }.skipReserved

end MemoryMap

end Bootloader.SystemPage
