import Bootloader.SystemPage.Basic
import Bootloader.Text.Layout

/-!
# The system page on the console

A table of the maps with their reservations, and a table of the programs and
partitions. Names are padded to the width of their column; addresses are not.
-/

set_option autoImplicit false

namespace Bootloader

namespace SystemPage

open Text

/-- A list of ids in brackets. -/
def renderIds (ids : List UInt8) : String :=
  "[" ++ String.intercalate ", " (ids.map fun id => toString id.toNat) ++ "]"

/-- A region as its address and size. -/
def Region.render (region : Region) : String :=
  region.address.render ++ "+" ++ hex region.size.toNat

/-- The line of a map, and a line for each of its reservations. -/
def MemoryMap.render (map : MemoryMap) : String :=
  padRight 3 (toString map.id.toNat) ++ " " ++ padRight 8 map.name ++ " " ++ map.start.render ++
    " " ++ map.stop.render ++ " " ++ map.top.render ++ "  " ++ map.attributes.render ++ "\n" ++
    String.join (map.reserved.map fun entry =>
      "    reserved " ++ entry.start.render ++ ".." ++ entry.stop.render ++ "\n")

/-- The line of a program. -/
def renderProgram (program : Program) : String :=
  padRight 16 (ofField program.commandLine.bytes) ++ " " ++ program.start.render ++ " " ++
    program.stop.render ++ "  " ++ renderIds program.instructionMaps ++ "/" ++
    renderIds program.dataMaps ++ (if program.flags.exec then " exec" else "") ++ "\n"

/-- The line of a partition. -/
def renderPartition (partition : Partition) : String :=
  "partition " ++ partition.name ++ " alloc " ++ renderIds partition.allocation ++ " access " ++
    renderIds partition.access ++ "\n"

/-- Programs and partitions. -/
def renderPrograms (page : SystemPage) : String :=
  padRight 16 "PROGRAM" ++ " " ++ padLeft 10 "START" ++ " " ++ padLeft 10 "END" ++
    "  IMAPS/DMAPS\n" ++
    String.join (page.programs.map renderProgram) ++
    String.join (page.partitions.map renderPartition)

/-- The whole page. -/
def render (page : SystemPage) : String :=
  let place :=
    match page.address with
    | some address => "syspage at " ++ address.render ++ "\n"
    | none => "syspage address not set\n"
  let kernel := page.kernel
  place ++ "kernel text " ++ kernel.text.render ++ " data " ++ kernel.data.render ++ " bss " ++
    kernel.bss.render ++ " entry " ++ kernel.entry.render ++ "\n" ++
    padRight 3 "ID" ++ " " ++ padRight 8 "NAME" ++ " " ++ padLeft 10 "START" ++ " " ++
    padLeft 10 "END" ++ " " ++ padLeft 10 "TOP" ++ "  ATTR\n" ++
    String.join (page.maps.map MemoryMap.render) ++ page.renderPrograms

end SystemPage

end Bootloader
