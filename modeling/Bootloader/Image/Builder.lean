import Bootloader.Image.Header
import Bootloader.Text.Field

/-!
# Building images

An image is assembled from segments, an optional section of zeros and named
sections: the file header, the program headers, the contents of the segments,
the contents of the sections, the names, and the section headers at a multiple
of four. The first section header is empty, the last one is that of the names.
-/

set_option autoImplicit false

namespace Bootloader.Image

/-- A segment to be loaded. -/
structure Segment where
  virtualAddress : UInt32
  physicalAddress : UInt32
  contents : Bytes
  memorySize : UInt32
  flags : SegmentFlags
  deriving DecidableEq, Repr

/-- What an image is built from. -/
structure Blueprint where
  entry : UInt32
  segments : List Segment := []
  bss : Option (UInt32 × UInt32) := none
  sections : List (String × Bytes) := []
  deriving DecidableEq, Repr

/-- A number in 32 bits, or the largest such number. -/
def saturate32 (number : Nat) : UInt32 :=
  UInt32.ofNat (min number (UInt32.size - 1))

/-- A number in 16 bits, or zero if it does not fit. -/
def orZero16 (number : Nat) : UInt16 :=
  if number < UInt16.size then UInt16.ofNat number else 0

/-- The offsets of byte strings that lie one behind the other. -/
def offsetsFrom (start : Nat) : List Bytes → List Nat
  | [] => []
  | contents :: rest => start :: offsetsFrom (start + contents.length) rest

namespace Segment

/-- A segment that is read and executed and has no more memory than contents. -/
def readExecute (address : UInt32) (contents : Bytes) : Segment :=
  ⟨address, address, contents, saturate32 contents.length, SegmentFlags.readExecute⟩

/-- A segment that is read and written. -/
def readWrite (address : UInt32) (contents : Bytes) (memorySize : UInt32) : Segment :=
  ⟨address, address, contents, memorySize, SegmentFlags.of false true true⟩

/-- The header of a segment whose contents lie at an offset. -/
def header (segment : Segment) (offset : Nat) : ProgramHeader where
  kind := loadKind
  offset := saturate32 offset
  virtualAddress := segment.virtualAddress
  physicalAddress := segment.physicalAddress
  fileSize := saturate32 segment.contents.length
  memorySize := segment.memorySize
  flags := segment.flags
  alignment := 0x1000

end Segment

/-- A section header without links. -/
def plainSection (name kind flags address offset size : UInt32) : SectionHeader where
  name := name
  kind := kind
  flags := flags
  address := address
  offset := offset
  size := size
  link := 0
  info := 0
  alignment := 1
  entrySize := 0

namespace Blueprint

variable (blueprint : Blueprint)

/-- A name with the zero that ends it. -/
def terminated (name : String) : Bytes :=
  Text.encode name ++ [0]

/-- Where the contents of the segments start. -/
def contentsOffset : Nat :=
  FileHeader.layout.size + blueprint.segments.length * ProgramHeader.layout.size

/-- The contents of the segments, one behind the other. -/
def segmentBytes : Bytes :=
  blueprint.segments.flatMap Segment.contents

/-- Where the contents of the sections start. -/
def sectionsOffset : Nat :=
  blueprint.contentsOffset + blueprint.segmentBytes.length

/-- The contents of the sections, one behind the other. -/
def sectionBytes : Bytes :=
  blueprint.sections.flatMap Prod.snd

/-- The names before those of the given sections: an empty one, and that of the zeros. -/
def fixedNames : Bytes :=
  0 :: terminated ".bss"

/-- All names. -/
def nameTable : Bytes :=
  fixedNames ++ (blueprint.sections.flatMap fun entry => terminated entry.1) ++
    terminated ".shstrtab"

/-- Where the names start. -/
def namesOffset : Nat :=
  blueprint.sectionsOffset + blueprint.sectionBytes.length

/-- Where the section headers start. -/
def sectionTableOffset : Nat :=
  (blueprint.namesOffset + blueprint.nameTable.length + 3) / 4 * 4

/-- The headers of the segments. -/
def segmentHeaders : List ProgramHeader :=
  List.zipWith Segment.header blueprint.segments
    (offsetsFrom blueprint.contentsOffset (blueprint.segments.map Segment.contents))

/-- The headers of the named sections. -/
def namedHeaders : List SectionHeader :=
  let names := offsetsFrom fixedNames.length (blueprint.sections.map fun entry => terminated entry.1)
  let offsets := offsetsFrom blueprint.sectionsOffset (blueprint.sections.map Prod.snd)
  List.zipWith
    (fun (entry : String × Bytes) (place : Nat × Nat) =>
      plainSection (saturate32 place.1) contentsKind 0 0 (saturate32 place.2)
        (saturate32 entry.2.length))
    blueprint.sections (names.zip offsets)

/-- The header of the zeros, if there are any. -/
def bssHeaders : List SectionHeader :=
  match blueprint.bss with
  | some (address, size) =>
      [plainSection 1 noBitsKind (writeFlag ||| allocateFlag) address
        (saturate32 blueprint.namesOffset) size]
  | none => []

/-- The empty header in front of all others. -/
def emptySection : SectionHeader :=
  plainSection 0 0 0 0 0 0

/-- The header of the names. -/
def namesHeader : SectionHeader :=
  let tail := terminated ".shstrtab"
  plainSection (saturate32 (blueprint.nameTable.length - tail.length)) namesKind 0 0
    (saturate32 blueprint.namesOffset) (saturate32 blueprint.nameTable.length)

/-- All section headers. -/
def sectionHeaders : List SectionHeader :=
  emptySection :: (blueprint.bssHeaders ++ blueprint.namedHeaders ++ [blueprint.namesHeader])

/-- The header of the image. -/
def fileHeader : FileHeader where
  identity := Field.ofBytes 16 (magic ++ [1, 1, 1])
  kind := 2
  machine := 40
  version := 1
  entry := blueprint.entry
  flags := 0
  headerSize := orZero16 FileHeader.layout.size
  programs := ⟨saturate32 FileHeader.layout.size, orZero16 ProgramHeader.layout.size,
    orZero16 blueprint.segments.length⟩
  sections := ⟨saturate32 blueprint.sectionTableOffset, orZero16 SectionHeader.layout.size,
    orZero16 blueprint.sectionHeaders.length⟩
  nameSection := orZero16 (blueprint.sectionHeaders.length - 1)

/-- The bytes of the image. -/
def build : Bytes :=
  let front := FileHeader.layout.write blueprint.fileHeader ++
    ProgramHeader.layout.writeMany blueprint.segmentHeaders ++ blueprint.segmentBytes ++
    blueprint.sectionBytes ++ blueprint.nameTable
  front.resize blueprint.sectionTableOffset ++
    SectionHeader.layout.writeMany blueprint.sectionHeaders

end Blueprint

end Bootloader.Image
