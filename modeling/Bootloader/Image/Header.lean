import Bootloader.Bytes
import Bootloader.Capacity
import Bootloader.Status

/-!
# Headers of executable images

Kernels are little-endian ELF images for 32-bit machines. An image starts with
a file header, which says where the tables of program headers and section
headers lie. Each header has a layout; a file header is accepted only if it
belongs to such an image and its tables have entries of the right size.
-/

set_option autoImplicit false

namespace Bootloader

/-- Why an image is refused. -/
inductive ImageError where
  | tooShort
  | badMagic
  | badClass
  | badHeader
  | outOfBounds
  deriving DecidableEq, Repr

namespace ImageError

/-- The text of an error. -/
def message : ImageError → String
  | tooShort => "The image is shorter than an ELF header"
  | badMagic => "Invalid ELF magic"
  | badClass => "Not a 32-bit little-endian ELF image"
  | badHeader => "Malformed ELF header"
  | outOfBounds => "An ELF table or section lies outside the image"

/-- The status code of every error of an image. -/
def code (_ : ImageError) : Int := Status.file

end ImageError

namespace Image

open Layout

/-- What a segment allows: execution, writing and reading are the lowest three bits. -/
structure SegmentFlags where
  bits : UInt32
  deriving DecidableEq, Repr, Inhabited

namespace SegmentFlags

/-- Flags from the three permissions. -/
def of (execute write read : Bool) : SegmentFlags :=
  ⟨(if execute then 1 else 0) ||| (if write then 2 else 0) ||| (if read then 4 else 0)⟩

/-- The segment may be executed. -/
def execute (flags : SegmentFlags) : Bool := flags.bits &&& 1 != 0

/-- The segment may be written. -/
def write (flags : SegmentFlags) : Bool := flags.bits &&& 2 != 0

/-- The segment may be read. -/
def read (flags : SegmentFlags) : Bool := flags.bits &&& 4 != 0

/-- The flags of program text. -/
def readExecute : SegmentFlags := of true false true

end SegmentFlags

/-- Where a table of headers lies, the bytes of an entry, and how many there are. -/
structure Table where
  offset : UInt32
  entrySize : UInt16
  count : UInt16
  deriving DecidableEq, Repr, Inhabited

/-- The header at the start of an image. -/
structure FileHeader where
  identity : Field 16
  kind : UInt16
  machine : UInt16
  version : UInt32
  entry : UInt32
  flags : UInt32
  headerSize : UInt16
  programs : Table
  sections : Table
  nameSection : UInt16
  deriving DecidableEq, Repr, Inhabited

/-- A part of the image that may have to be loaded. -/
structure ProgramHeader where
  kind : UInt32
  offset : UInt32
  virtualAddress : UInt32
  physicalAddress : UInt32
  fileSize : UInt32
  memorySize : UInt32
  flags : SegmentFlags
  alignment : UInt32
  deriving DecidableEq, Repr, Inhabited

/-- A named part of the image. -/
structure SectionHeader where
  name : UInt32
  kind : UInt32
  flags : UInt32
  address : UInt32
  offset : UInt32
  size : UInt32
  link : UInt32
  info : UInt32
  alignment : UInt32
  entrySize : UInt32
  deriving DecidableEq, Repr, Inhabited

/-- The file header takes 52 bytes; the offsets of both tables stand before their sizes. -/
def FileHeader.layout : Layout FileHeader :=
  ((field 16).both (word16.both (word16.both (word32.both (word32.both (word32.both
    (word32.both (word32.both (word16.both (word16.both (word16.both (word16.both
      (word16.both word16))))))))))))).through
    (fun (identity, kind, machine, version, entry, programOffset, sectionOffset, flags,
        headerSize, programSize, programCount, sectionSize, sectionCount, nameSection) =>
      { identity, kind, machine, version, entry, flags, headerSize,
        programs := ⟨programOffset, programSize, programCount⟩,
        sections := ⟨sectionOffset, sectionSize, sectionCount⟩, nameSection })
    (fun header => (header.identity, header.kind, header.machine, header.version, header.entry,
      header.programs.offset, header.sections.offset, header.flags, header.headerSize,
      header.programs.entrySize, header.programs.count, header.sections.entrySize,
      header.sections.count, header.nameSection))

/-- A program header takes 32 bytes. -/
def ProgramHeader.layout : Layout ProgramHeader :=
  (word32.both (word32.both (word32.both (word32.both (word32.both (word32.both
    (word32.both word32))))))).through
    (fun (kind, offset, virtualAddress, physicalAddress, fileSize, memorySize, flags,
        alignment) =>
      { kind, offset, virtualAddress, physicalAddress, fileSize, memorySize, flags := ⟨flags⟩,
        alignment })
    (fun header => (header.kind, header.offset, header.virtualAddress, header.physicalAddress,
      header.fileSize, header.memorySize, header.flags.bits, header.alignment))

/-- A section header takes 40 bytes. -/
def SectionHeader.layout : Layout SectionHeader :=
  (word32.both (word32.both (word32.both (word32.both (word32.both (word32.both (word32.both
    (word32.both (word32.both word32))))))))).through
    (fun (name, kind, flags, address, offset, size, link, info, alignment, entrySize) =>
      { name, kind, flags, address, offset, size, link, info, alignment, entrySize })
    (fun header => (header.name, header.kind, header.flags, header.address, header.offset,
      header.size, header.link, header.info, header.alignment, header.entrySize))

example : FileHeader.layout.size = 52 ∧ ProgramHeader.layout.size = 32 ∧
    SectionHeader.layout.size = 40 := by decide

/-- The first four bytes of every image. -/
def magic : Bytes := [0x7f, 0x45, 0x4c, 0x46]

/-- The kind of program headers whose segments are loaded. -/
def loadKind : UInt32 := 1

/-- The kind of sections with contents. -/
def contentsKind : UInt32 := 1

/-- The kind of sections with names. -/
def namesKind : UInt32 := 3

/-- The kind of sections that occupy no bytes of the image. -/
def noBitsKind : UInt32 := 8

/-- The flag of sections that are written. -/
def writeFlag : UInt32 := 1

/-- The flag of sections that occupy memory. -/
def allocateFlag : UInt32 := 2

/-- Whether the segment is loaded. -/
def ProgramHeader.isLoad (header : ProgramHeader) : Bool :=
  header.kind = loadKind

/-- The place that the image asks for. -/
def ProgramHeader.place (header : ProgramHeader) : Address :=
  Address.ofNat header.physicalAddress.toNat

/-- Whether the section holds zeros that are written and occupy memory. -/
def SectionHeader.isBss (header : SectionHeader) : Bool :=
  let both := writeFlag ||| allocateFlag
  header.kind = noBitsKind && header.flags &&& both = both

/-- A table is acceptable if it is empty, or has entries of the given size and is not
larger than any table may be. -/
def Table.isAcceptable (table : Table) (size : Nat) : Bool :=
  table.count = 0 ||
    (table.entrySize.toNat = size &&
      table.count.toNat * table.entrySize.toNat ≤ Capacity.headerTable)

/-- Read and check the header at the start of the bytes. -/
def FileHeader.parse (bytes : Bytes) : Except ImageError FileHeader := do
  if bytes.length < FileHeader.layout.size then throw .tooShort
  let header := FileHeader.layout.read bytes
  let identity := header.identity.bytes
  if identity.take 4 ≠ magic then throw .badMagic
  if identity.slice 4 2 ≠ [1, 1] then throw .badClass
  if !header.programs.isAcceptable ProgramHeader.layout.size then throw .badHeader
  if !header.sections.isAcceptable SectionHeader.layout.size then throw .badHeader
  return header

end Image

end Bootloader
