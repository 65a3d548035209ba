/-!
# Status codes

Every error of the loader carries a negative number that says what kind of
trouble it is.
-/

set_option autoImplicit false

namespace Bootloader.Status

/-- A bad or missing argument, an unknown name, a size that does not match. -/
def argument : Int := -1

/-- A device or its transport failed. -/
def device : Int := -2

/-- A file is malformed or cannot be read. -/
def file : Int := -3

/-- An answer of the host does not match the request. -/
def protocol : Int := -4

/-- A memory map has no room left. -/
def space : Int := -5

/-- A cursor was moved past a reservation; the request may be repeated. -/
def retry : Int := -11

/-- A signature or a digest does not match. -/
def mismatch : Int := -22

end Bootloader.Status
