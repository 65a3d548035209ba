import Bootloader.Act
import Bootloader.Image.Header
import Bootloader.Text.Field

/-!
# Reading images piece by piece

An image need not be resident. Everything is fetched through a source, which
yields the bytes of a range or fails: the loader reads from an open file, a tool
from bytes it holds. A table whose header states entries of no size cannot be
walked, not even if it is empty.
-/

set_option autoImplicit false

namespace Bootloader.Image

/-- Access to the bytes of an image, and how its errors are reported. -/
structure Source (σ ε : Type) where
  read : (offset length : Nat) → Act σ ε Bytes
  refuse : ImageError → ε

/-- Bytes at hand as a source; a range has to lie inside. -/
def Source.ofBytes {σ : Type} (bytes : Bytes) : Source σ ImageError where
  read offset length :=
    if offset + length ≤ bytes.length then pure (bytes.slice offset length)
    else Act.fail .outOfBounds
  refuse := id

section

variable {σ ε α : Type} (source : Source σ ε)

/-- Read and check the file header. -/
def openImage : Act σ ε FileHeader := do
  let bytes ← source.read 0 FileHeader.layout.size
  match FileHeader.parse bytes with
  | .ok header => pure header
  | .error error => Act.fail (source.refuse error)

/-- Read the headers of a table. -/
def readTable (table : Table) (layout : Layout α) : Act σ ε (List α) := do
  let bytes ←
    if table.count = 0 then pure []
    else source.read table.offset.toNat (table.count.toNat * table.entrySize.toNat)
  if table.entrySize = 0 then Act.crash
  else pure (layout.readMany table.count.toNat bytes)

/-- All program headers. -/
def programHeaders (header : FileHeader) : Act σ ε (List ProgramHeader) :=
  readTable source header.programs ProgramHeader.layout

/-- All section headers. -/
def sectionHeaders (header : FileHeader) : Act σ ε (List SectionHeader) :=
  readTable source header.sections SectionHeader.layout

/-- The first section of written zeros. -/
def bss? (header : FileHeader) : Act σ ε (Option SectionHeader) := do
  let sections ← sectionHeaders source header
  return sections.find? SectionHeader.isBss

/-- The name that starts at an offset of the name table and ends before a zero. -/
def nameAt? (names : Bytes) (offset : Nat) : Option Bytes :=
  if offset ≤ names.length then some (Text.beforeZero (names.drop offset)) else none

/-- The first section of exactly the given name. -/
def sectionNamed? (header : FileHeader) (name : String) : Act σ ε (Option SectionHeader) := do
  let sections ← sectionHeaders source header
  if sections.isEmpty then return none
  let table ← Act.ofOption (source.refuse .outOfBounds) sections[header.nameSection.toNat]?
  Act.require (table.size.toNat ≤ Capacity.nameTable) (source.refuse .outOfBounds)
  let names ← source.read table.offset.toNat table.size.toNat
  return sections.find? fun section_ =>
    nameAt? names section_.name.toNat == some (Text.encode name)

end

/-- The name of the section that holds a signature. -/
def signatureSection : String := ".signature"

/-- The range of addresses that the executable segments occupy, where `place` says at which
address a segment is loaded; there is none without such a segment. A segment is taken to end
at the last address if it reaches beyond. -/
def textRange? (segments : List ProgramHeader) (place : ProgramHeader → Address) :
    Option (Address × Address) :=
  let text := segments.filter fun segment =>
    segment.isLoad && segment.flags = SegmentFlags.readExecute
  text.foldl
    (fun range? segment =>
      let start := place segment
      let stop := Address.ofNat (min (start.toNat + segment.memorySize.toNat) (UInt64.size - 1))
      match range? with
      | none => some (start, stop)
      | some (low, high) => some (min low start, max high stop))
    none

end Bootloader.Image
