import Bootloader.SystemPage.Serialize
import Bootloader.Text.Number

/-!
# Building the system page

Each request checks first that the page was not saved, then its arguments in a
fixed order, and changes a registry last. Bytes are copied to the top of a map
only where no reservation is in the way; otherwise the top moves past it and the
caller is asked to try again. Saving writes the serialized page to its address,
after which no request is granted any more.
-/

set_option autoImplicit false

namespace Bootloader

/-- A request to the system page. -/
abbrev PageAct (α : Type) := Act SystemPage PageError α

/-- A request to the system page that also writes memory. -/
abbrev StoreAct (μ α : Type) := Act (SystemPage × μ) PageError α

namespace SystemPage

/-- Report what was done to the page. -/
def report {σ ε : Type} (level : Log.Level) (message : String) : Act σ ε Unit :=
  Act.note (Log.Component.page.report level message)

/-- Go on only before the page was saved. -/
def requireOpen : PageAct Unit := do
  let page ← Act.read
  Act.require (!page.isSaved) .alreadySaved

/-- A name has at least one byte and leaves room for a final zero in its field. -/
def checkName (name : String) : PageAct Unit :=
  Act.require (0 < name.utf8ByteSize && name.utf8ByteSize < Capacity.mapName) .badName

/-- Register a map and yield its id. A name that starts with the name of another map is
taken. Reservations made before apply to the new map. -/
def addMap (name : String) (start stop : Address) (attributes : Attributes) : PageAct UInt8 := do
  requireOpen
  checkName name
  Act.require (start < stop) .badRange
  let page ← Act.read
  Act.require (!page.maps.any fun map => map.name.toList.isPrefixOf name.toList) .nameTaken
  if let some other := page.maps.find? fun map => map.overlaps start stop then
    report .warn ("map " ++ name ++ " overlaps map " ++ other.name)
    Act.fail .overlap
  Act.require (page.maps.length < Capacity.maps) .full
  let id := UInt8.ofNat page.maps.length
  let map := page.reservations.foldl MemoryMap.absorb
    (MemoryMap.fresh name id start stop attributes)
  report .info ("map " ++ name ++ ": " ++ start.render ++ ".." ++ stop.render ++ " (" ++
    attributes.render ++ "), top " ++ map.top.render)
  Act.put { page with maps := page.maps ++ [map] }
  return id

/-- Reserve `size` bytes in every map, also in those to come. -/
def reserve (start : Address) (size : Nat) : PageAct Unit := do
  requireOpen
  let stop ← Act.ofOption .badRange (if size = 0 then none else start.advance? size)
  let page ← Act.read
  Act.require (page.reservations.length < Capacity.reservations) .full
  report .debug ("reserved " ++ start.render ++ ".." ++ stop.render)
  let entry : Reservation := ⟨start, stop⟩
  Act.put { page with
    reservations := page.reservations ++ [entry]
    maps := page.maps.map fun map => map.absorb entry }

/-- Round the top of a map up to a page and yield it. -/
def alignMapTop (name : String) : PageAct Address := do
  requireOpen
  let page ← Act.read
  let map ← Act.ofExcept (page.findMap name)
  Act.put (page.changeMap name MemoryMap.alignTop)
  return map.alignTop.top

/-- Raise the top of a map to an address. -/
def advanceMapTop (name : String) (address : Address) : PageAct Unit := do
  requireOpen
  let page ← Act.read
  let map ← Act.ofExcept (page.findMap name)
  Act.require (address ≤ map.stop) .badRange
  Act.put (page.changeMap name fun map => map.raiseTop address)

/-- The argument string with one more command line, if it still fits. -/
def appendArguments? (arguments : Bytes) (commandLine : String) : Option Bytes :=
  let start := if arguments.isEmpty then [argumentsMark] else arguments
  if start.length + commandLine.utf8ByteSize + 1 < Capacity.arguments then
    some (start ++ Text.encode commandLine ++ [0x20])
  else none

/-- Register a program. Its command line is kept in full in the argument string, and cut
in its record. -/
def addProgram (start stop : Address) (instructionMaps dataMaps commandLine : String)
    (flags : ProgramFlags) : PageAct Unit := do
  requireOpen
  Act.require (start ≤ stop) .badRange
  let page ← Act.read
  let instructionIds ← Act.ofExcept (page.resolveList instructionMaps Capacity.programMaps)
  let dataIds ← Act.ofExcept (page.resolveList dataMaps Capacity.programMaps)
  Act.require (!instructionIds.isEmpty && !dataIds.isEmpty) .unknownMap
  Act.require (page.programs.length < Capacity.programs) .full
  let arguments ← Act.ofOption .full (appendArguments? page.arguments commandLine)
  report .info ("program " ++ commandLine ++ ": " ++ start.render ++ ".." ++ stop.render ++
    " flags " ++ Text.hex flags.bits.toNat)
  let program : Program :=
    { start, stop, instructionMaps := instructionIds, dataMaps := dataIds,
      commandLine := Text.toField Capacity.commandLine commandLine, flags }
  Act.put { page with arguments, programs := page.programs ++ [program] }

/-- Register a partition. -/
def addPartition (name allocation access : String) : PageAct Unit := do
  requireOpen
  checkName name
  let page ← Act.read
  Act.require (!page.partitions.any fun partition => partition.name = name) .nameTaken
  Act.require (page.partitions.length < Capacity.partitions) .full
  let allocationIds ← Act.ofExcept (page.resolveList allocation Capacity.maps)
  let accessIds ← Act.ofExcept (page.resolveList access Capacity.maps)
  report .info ("partition " ++ name ++ ": " ++ toString allocationIds.length ++ " alloc, " ++
    toString accessIds.length ++ " access maps")
  Act.put { page with
    partitions := page.partitions ++ [⟨name, allocationIds, accessIds⟩] }

/-- Append windows of given sizes one behind the other; those in front of a window that
would end too late stay. -/
def pushWindows (start : UInt64) : List UInt64 → PageAct Unit
  | [] => pure ()
  | size :: rest => do
      let stop ← Act.ofOption .badNumber (Text.fitting? (start.toNat + size.toNat))
      Act.update fun page => { page with
        windows := page.windows ++ [⟨start, stop, UInt8.ofNat page.windows.length⟩] }
      pushWindows stop rest

/-- Append scheduler windows, given by a list of their sizes, behind the last one. -/
def addWindows (sizes : String) : PageAct Unit := do
  requireOpen
  let numbers ← Act.ofOption .badNumber ((Text.listItems sizes).mapM Text.number?)
  Act.require (!numbers.isEmpty && numbers.all (· != 0)) .badNumber
  let page ← Act.read
  Act.require (page.windows.length + numbers.length ≤ Capacity.windows) .full
  pushWindows ((page.windows.getLast?.map WindowRecord.stop).getD 0) numbers

/-- Set the place that the page is written to. -/
def setAddress (address : Address) : PageAct Unit := do
  requireOpen
  Act.update fun page => { page with address := some address }

/-- Describe the kernel image; this is also possible after the page was saved. -/
def setKernel (kernel : KernelDescriptor) : PageAct Unit :=
  Act.update fun page => { page with kernel }

/-! ## Requests that write memory -/

section

variable {μ : Type} [PhysicalMemory μ]

/-- A request that leaves memory alone. -/
def onPage {α : Type} (request : PageAct α) : StoreAct μ α :=
  Act.zoom Prod.fst (fun page store => (page, store.2)) request

/-- Write memory. -/
def store (address : Address) (data : Bytes) : StoreAct μ Unit := do
  let (page, memory) ← Act.read
  match PhysicalMemory.write memory address data with
  | .ok written => Act.put (page, written)
  | .error error => Act.fail (.memory error)

/-- Copy bytes to the top of a map and yield where they went. With a reservation in the
way nothing is written: the top moves past it, and the request may be repeated. -/
def writeToMap (name : String) (data : Bytes) : StoreAct μ Address := do
  onPage requireOpen
  let (page, _) ← Act.read
  let map ← Act.ofExcept (page.findMap name)
  Act.require (data.length ≤ map.freeSize) .noSpace
  let stop ← Act.orCrash (map.top.advance? data.length)
  match map.collision? map.top stop with
  | some entry =>
      let moved := map.passReservation entry
      onPage (Act.put (page.changeMap name fun map => map.passReservation entry))
      report .debug ("map " ++ name ++ ": top moved past reservation to " ++ moved.top.render)
      Act.fail (.again moved.top)
  | none =>
      store map.top data
      onPage (Act.update fun page => page.changeMap name fun map => { map with top := stop })
      return map.top

/-- Whether a block would cover a program or the text of the kernel. -/
def coversImage (page : SystemPage) (textStop start stop : Address) : Bool :=
  (page.kernel.text.size != 0 &&
      (Reservation.mk page.kernel.text.address textStop).intersects start stop) ||
    page.programs.any fun program => (Reservation.mk program.start program.stop).intersects start stop

/-- Reserve room for the page at its address, write it there, and yield the address. -/
def save : StoreAct μ Address := do
  onPage requireOpen
  let (page, _) ← Act.read
  let address ← Act.ofOption .noAddress page.address
  let block := page.serialize
  let stop ← Act.ofOption .badRange (address.advance? block.length)
  let text := page.kernel.text
  let textStop ← Act.orCrash (text.address.advance? text.size.toNat)
  Act.require (!page.coversImage textStop address stop) .overlap
  onPage (reserve address block.length)
  store address block
  onPage (Act.update fun page => { page with isSaved := true })
  report .info ("syspage saved at " ++ address.render ++ " (" ++ toString block.length ++ " bytes)")
  return address

end

end SystemPage

end Bootloader
