import Bootloader.Address

/-!
# Capacities

The sizes of the loader's registries, of the fields in its records, and of the
pieces in which it moves data.
-/

set_option autoImplicit false

namespace Bootloader.Capacity

/-- Memory maps the system page describes. -/
def maps : Nat := 16

/-- Reservations that can be recorded. -/
def reservations : Nat := 32

/-- Device aliases that can be registered. -/
def devices : Nat := 8

/-- File aliases that can be registered. -/
def files : Nat := 16

/-- Handles that can be open at one time. -/
def handles : Nat := 4

/-- Programs the system page describes. -/
def programs : Nat := 32

/-- Partitions the system page describes. -/
def partitions : Nat := 8

/-- Scheduler windows the system page describes. -/
def windows : Nat := 8

/-- Instruction maps, and data maps, of one program. -/
def programMaps : Nat := 4

/-- Bytes of a map's name, its final zero included. -/
def mapName : Nat := 8

/-- Bytes of a program's command line in its record, the final zero included. -/
def commandLine : Nat := 16

/-- Bytes of an alias at most. -/
def aliasBytes : Nat := 16

/-- Bytes of the argument string, its final zero included. -/
def arguments : Nat := 256

/-- Images are placed at multiples of this many bytes. -/
def pageAlignment : Address.Alignment := ⟨12, by decide⟩

/-- Bytes moved by one read while an image is loaded. -/
def chunk : Nat := 0x400

/-- Bytes of a message's payload at most. -/
def message : Nat := 0x400

/-- Bytes of a header table of an image at most. -/
def headerTable : Nat := 0x4000

/-- Bytes of the section names of an image at most. -/
def nameTable : Nat := 0x1000

/-- Milliseconds that a device may take for a read. -/
def readTimeout : Nat := 500

end Bootloader.Capacity
