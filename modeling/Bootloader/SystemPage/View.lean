import Bootloader.SystemPage.Record

/-!
# Reading a system page

A view is a block of bytes that was checked to be a system page: its header
fits, and every table and the argument string lie inside the size that the
header states. So the tables can be read without further checks.
-/

set_option autoImplicit false

namespace Bootloader.SystemPage

/-- Why bytes are no system page. -/
inductive ViewError where
  | tooShort
  | badMagic
  | badAlignment
  | outOfBounds
  deriving DecidableEq, Repr

/-- The text of a refusal. -/
def ViewError.message : ViewError → String
  | tooShort => "The blob is shorter than the syspage header"
  | badMagic => "The syspage magic does not match"
  | badAlignment => "A syspage table is not aligned"
  | outOfBounds => "A syspage table lies outside the blob"

/-- The bytes of a system page with their header. -/
structure View where
  bytes : Bytes
  header : Header
  deriving DecidableEq, Repr

namespace View

/-- A table has to be aligned and to end inside the block. -/
def checkTable (length : Nat) (table : TableReference) (size : Nat) : Except ViewError Unit :=
  if table.offset.toNat % tableAlignment ≠ 0 then .error .badAlignment
  else if length < table.offset.toNat + table.count.toNat * size then .error .outOfBounds
  else .ok ()

/-- Check a block of bytes; what lies behind the size stated in its header is dropped. -/
def parse (block : Bytes) : Except ViewError View := do
  if block.length < Header.layout.size then throw .tooShort
  let header := Header.layout.read block
  if header.magic ≠ magic then throw .badMagic
  let size := header.size.toNat
  if block.length < size ∨ size < Header.layout.size then throw .outOfBounds
  checkTable size header.maps MapRecord.layout.size
  checkTable size header.programs ProgramRecord.layout.size
  checkTable size header.partitions PartitionRecord.layout.size
  checkTable size header.windows WindowRecord.layout.size
  if size < header.arguments.offset.toNat + header.arguments.count.toNat then throw .outOfBounds
  return { bytes := block.take size, header }

/-- The records of a table. -/
def records {α : Type} (view : View) (table : TableReference) (layout : Layout α) : List α :=
  layout.readMany table.count.toNat (view.bytes.drop table.offset.toNat)

/-- The memory maps. -/
def maps (view : View) : List MapRecord :=
  view.records view.header.maps MapRecord.layout

/-- The programs. -/
def programs (view : View) : List ProgramRecord :=
  view.records view.header.programs ProgramRecord.layout

/-- The partitions. -/
def partitions (view : View) : List PartitionRecord :=
  view.records view.header.partitions PartitionRecord.layout

/-- The scheduler windows. -/
def windows (view : View) : List WindowRecord :=
  view.records view.header.windows WindowRecord.layout

/-- The first map with a given id. -/
def map? (view : View) (id : UInt8) : Option MapRecord :=
  view.maps.find? fun record => record.id = id

/-- The argument string, up to its first zero. -/
def arguments (view : View) : Bytes :=
  Text.beforeZero (view.bytes.slice view.header.arguments.offset.toNat
    view.header.arguments.count.toNat)

end View

end Bootloader.SystemPage
