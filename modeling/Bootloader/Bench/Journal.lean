import Bootloader.Bench.World
import Bootloader.Text.Digits

/-!
# The journal in text

Each request that was made to a device is a line: what was asked, of which
instance, and with which arguments. Long data is abridged to its first bytes,
its length and its checksum.
-/

set_option autoImplicit false

namespace Bootloader.Bench

open Text

/-- Bytes that are printed in full at most. -/
def longestInFull : Nat := 64

/-- Bytes that are kept of data that is abridged. -/
def abridgedHead : Nat := 16

/-- The checksum of data, with all of its eight digits. -/
def checksumDigits (data : Bytes) : List Char :=
  let digits := hexDigits (Link.crc32 data).toNat
  List.replicate (8 - digits.length) '0' ++ digits

/-- Data in hexadecimal, abridged if it is long. -/
def abridge (data : Bytes) : String :=
  if data.length ≤ longestInFull then hexOfBytes data
  else
    hexOfBytes (data.take abridgedHead) ++ ".." ++ toString data.length ++ ":" ++
      String.ofList (checksumDigits data)

/-- The word for a request, and its arguments. -/
def Call.parts : Call → String × List String
  | init => ("init", [])
  | done => ("done", [])
  | sync => ("sync", [])
  | read offset length timeout => ("read", [hex offset, toString length, toString timeout])
  | write offset data => ("write", [hex offset, abridge data])
  | erase offset length flags => ("erase", [hex offset, hex length, toString flags])
  | map request =>
      ("map", [hex request.offset, hex request.size, request.mode.render,
        hex request.mapStart.toNat, hex request.mapSize, request.mapAttributes.render])
  | message type payload => ("req", [toString type.toNat, abridge payload])

/-- A line of the journal. -/
def Entry.render (entry : Entry) : String :=
  let (word, arguments) := entry.call.parts
  String.intercalate " " (word :: toString entry.minor :: arguments)

namespace World

/-- The lines of the journal. -/
def journalLines (world : World) : List String :=
  world.journal.map Entry.render

/-- The bench with an empty journal. -/
def forget (world : World) : World :=
  { world with journal := [] }

end World

end Bootloader.Bench
