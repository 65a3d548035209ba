import Bootloader.Signing.Command

/-!
# The command line of the signing tool

The files that the arguments may name are read first; the tool works on them in
memory, and what it changed is written back.
-/

set_option autoImplicit false

namespace Bootloader.Signing

/-- A tree with what stands at a place. -/
def addPlace (tree : FileTree) (place : Path) : IO FileTree := do
  try
    let contents ← IO.FS.readBinFile place.render
    return { tree with files := (place, contents.toList) :: tree.files }
  catch
    | .inappropriateType .. => return { tree with directories := place :: tree.directories }
    | _ => return tree

/-- The places that a route passes. -/
def placesOf (route : Route) : List Path :=
  (route.components.foldl (fun (place, passed) name =>
      let next :=
        if name = Path.here then place
        else if name = Path.parent then Path.outer place
        else place ++ [name]
      (next, passed ++ [next]))
    (route.start, [])).2

/-- What stands at the places that paths pass. -/
def loadTree (paths : List String) : IO FileTree := do
  let places := paths.flatMap fun path =>
    match Route.ofString path with
    | .ok route => placesOf route
    | .error _ => []
  places.foldlM addPlace FileTree.empty

/-- Write files. -/
def storeFiles (files : List (Path × Bytes)) : IO Unit := do
  for (place, contents) in files do
    IO.FS.writeBinFile place.render contents.toByteArray

end Bootloader.Signing

open Bootloader.Signing in
/-- Run the tool and print what it reports. -/
def main (arguments : List String) : IO UInt32 := do
  let before ← loadTree arguments
  let report := execute arguments before
  IO.print report.output
  IO.eprint report.complaint
  storeFiles (report.tree.changedSince before)
  return UInt32.ofNat report.status
