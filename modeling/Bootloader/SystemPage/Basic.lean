import Bootloader.Act
import Bootloader.Memory
import Bootloader.Status
import Bootloader.SystemPage.Map
import Bootloader.Text.Blank

/-!
# The system page

Everything the kernel receives is collected in the system page: memory maps,
programs, partitions, scheduler windows, an argument string and a description of
the kernel image. Besides it holds the reservations that keep images apart, the
address it will be written to, and whether that was done.
-/

set_option autoImplicit false

namespace Bootloader

/-- Why the system page refuses a request. -/
inductive PageError where
  | alreadySaved
  | badName
  | nameTaken
  | badRange
  | overlap
  | full
  | unknownMap
  | tooManyMaps
  | noSpace
  | again (top : Address)
  | badNumber
  | noAddress
  | memory (error : MemoryError)
  deriving DecidableEq, Repr

namespace PageError

/-- The text of an error. -/
def message : PageError → String
  | alreadySaved => "The syspage was already saved"
  | badName => "The name is empty or too long"
  | nameTaken => "The name collides with an existing one"
  | badRange => "The address range is empty or wraps around"
  | overlap => "The range overlaps an existing map"
  | full => "The registry is full"
  | unknownMap => "Unknown map"
  | tooManyMaps => "Too many maps in one list"
  | noSpace => "Not enough space left in the map"
  | again top => "The map top was moved past a reservation ending at " ++ top.render ++ ", retry"
  | badNumber => "Invalid number"
  | noAddress => "The syspage address is not set"
  | memory error => error.message

/-- The status code of an error. -/
def code : PageError → Int
  | noSpace => Status.space
  | again _ => Status.retry
  | _ => Status.argument

end PageError

/-- What the kernel does with a program. -/
structure ProgramFlags where
  bits : UInt32
  deriving DecidableEq, Repr, Inhabited

namespace ProgramFlags

/-- Flags from their two meanings. -/
def of (exec noCopy : Bool) : ProgramFlags :=
  ⟨(if exec then 1 else 0) ||| (if noCopy then 2 else 0)⟩

/-- The program is started at boot. -/
def exec (flags : ProgramFlags) : Bool :=
  flags.bits &&& 1 != 0

/-- The image was checked where it lies, so it has to be checked again before it runs. -/
def noCopy (flags : ProgramFlags) : Bool :=
  flags.bits &&& 2 != 0

end ProgramFlags

/-- A registered program. -/
structure Program where
  start : Address
  stop : Address
  instructionMaps : List UInt8
  dataMaps : List UInt8
  commandLine : Field Capacity.commandLine
  flags : ProgramFlags
  deriving DecidableEq, Repr

/-- A registered partition. -/
structure Partition where
  name : String
  allocation : List UInt8
  access : List UInt8
  deriving DecidableEq, Repr

open SystemPage in
/-- What is collected for the kernel. -/
structure SystemPage where
  maps : List MemoryMap
  reservations : List Reservation
  programs : List Program
  partitions : List Partition
  windows : List WindowRecord
  arguments : Bytes
  kernel : KernelDescriptor
  address : Option Address
  isSaved : Bool
  deriving DecidableEq, Repr

namespace SystemPage

/-- The page before anything was collected. -/
def empty : SystemPage where
  maps := []
  reservations := []
  programs := []
  partitions := []
  windows := []
  arguments := []
  kernel := KernelDescriptor.unknown
  address := none
  isSaved := false

instance : Inhabited SystemPage := ⟨empty⟩

/-! ## Questions -/

/-- The map of a name. -/
def map? (page : SystemPage) (name : String) : Option MemoryMap :=
  page.maps.find? fun map => map.name = name

/-- The map of a name, or an error. -/
def findMap (page : SystemPage) (name : String) : Except PageError MemoryMap :=
  match page.map? name with
  | some map => .ok map
  | none => .error .unknownMap

/-- The top of a map. -/
def mapTop (page : SystemPage) (name : String) : Except PageError Address :=
  (page.findMap name).map MemoryMap.top

/-- Bytes left in a map. -/
def freeSize (page : SystemPage) (name : String) : Except PageError Nat :=
  (page.findMap name).map MemoryMap.freeSize

/-- The id of a map. -/
def mapId (page : SystemPage) (name : String) : Except PageError UInt8 :=
  (page.findMap name).map MemoryMap.id

/-- The attributes of a map. -/
def mapAttributes (page : SystemPage) (name : String) : Except PageError Attributes :=
  (page.findMap name).map MemoryMap.attributes

/-- The range of a map. -/
def mapRange (page : SystemPage) (name : String) : Except PageError (Address × Address) :=
  (page.findMap name).map fun map => (map.start, map.stop)

/-- The attributes of the map with an id. -/
def attributesOf (page : SystemPage) (id : UInt8) : Except PageError Attributes :=
  match page.maps[id.toNat]? with
  | some map => .ok map.attributes
  | none => .error .unknownMap

/-- The map that holds an address. -/
def mapContaining? (page : SystemPage) (address : Address) : Option MemoryMap :=
  page.maps.find? fun map => map.contains address

/-- The ids of maps, of which there may be at most `limit`. -/
def resolveNames (page : SystemPage) : (limit : Nat) → List String → Except PageError (List UInt8)
  | _, [] => .ok []
  | 0, _ :: _ => .error .tooManyMaps
  | limit + 1, name :: rest => do
      let id ← page.mapId name
      let ids ← page.resolveNames limit rest
      return id :: ids

/-- The ids of the maps that a list names. -/
def resolveList (page : SystemPage) (list : String) (limit : Nat) :
    Except PageError (List UInt8) :=
  page.resolveNames limit (Text.listItems list)

/-- Change the map of a name. -/
def changeMap (page : SystemPage) (name : String) (change : MemoryMap → MemoryMap) : SystemPage :=
  { page with maps := page.maps.map fun map => if map.name = name then change map else map }

end SystemPage

end Bootloader
