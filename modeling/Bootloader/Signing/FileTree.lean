import Bootloader.Bytes
import Bootloader.Text.Blank

/-!
# A tree of files

The files that the signing tool works on. A place is a path without detours: from
the root, or from the working directory, which is the empty path, and whose parents
are written by their component. A directory exists where it is listed or where a
file lies below it; the root and the parents of the working directory always do.

A route is a path as it is written. It is walked component by component, and all
but the last must be directories. Reading and writing fail with a fault.
-/

set_option autoImplicit false

namespace Bootloader.Signing

/-- Why a path cannot be read or written. -/
inductive PathFault where
  | notFound
  | notDirectory
  | isDirectory
  | nameTooLong
  deriving DecidableEq, Repr

namespace PathFault

/-- The number of a fault. -/
def number : PathFault → Nat
  | notFound => 2
  | notDirectory => 20
  | isDirectory => 21
  | nameTooLong => 36

/-- The kind of a fault in one word. -/
def kind : PathFault → String
  | notFound => "NotFound"
  | notDirectory => "NotADirectory"
  | isDirectory => "IsADirectory"
  | nameTooLong => "InvalidFilename"

/-- The text of a fault. -/
def message : PathFault → String
  | notFound => "No such file or directory"
  | notDirectory => "Not a directory"
  | isDirectory => "Is a directory"
  | nameTooLong => "File name too long"

end PathFault

/-- A place, by its components. -/
abbrev Path := List String

namespace Path

/-- Where an absolute path starts. -/
def root : String := "/"

/-- The component that stays in a directory. -/
def here : String := "."

/-- The component that leaves a directory. -/
def parent : String := ".."

/-- Whether a component is the root or leads to it, and not the name of anything. -/
def isAbove (component : String) : Bool :=
  component = root || component = parent

/-- The directory that a directory lies in. The root lies in itself. -/
def outer (path : Path) : Path :=
  match path.getLast? with
  | some last =>
      if last = root then path
      else if last = parent then path ++ [parent]
      else path.dropLast
  | none => [parent]

/-- Whether a place is the working directory or lies below it. -/
def isInside (path : Path) : Bool :=
  !path.any isAbove

/-- The file that is always empty, and forgets what is written into it. -/
def sink : Path := [root, "dev", "null"]

/-- A place as it is written. -/
def render (path : Path) : String :=
  match path with
  | [] => here
  | first :: rest =>
      if first = root then root ++ String.intercalate "/" rest
      else String.intercalate "/" (first :: rest)

end Path

/-- A path as it is written: where it starts, its components, and whether it ends with a slash. -/
structure Route where
  start : Path
  components : List String
  endsInSlash : Bool
  deriving DecidableEq, Repr

namespace Route

/-- Bytes of a component at most. -/
def longestName : Nat := 255

/-- Bytes of a path at most. -/
def longest : Nat := 4095

/-- What stands between the slashes of a path. -/
def names (text : String) : List String :=
  ((Text.pieces '/' text.toList).filter fun part => !part.isEmpty).map String.ofList

/-- The route of a path; there is none if it is too long, and an empty one leads nowhere. -/
def ofString (text : String) : Except PathFault Route :=
  if longest < text.utf8ByteSize then .error .nameTooLong
  else if text.isEmpty then .error .notFound
  else
    .ok {
      start := if text.toList.head? = some '/' then [Path.root] else []
      components := names text
      endsInSlash := text.toList.getLast? = some '/' }

end Route

/-- Files by their place, and the directories known besides those they lie in. -/
structure FileTree where
  files : List (Path × Bytes)
  directories : List Path
  deriving DecidableEq, Repr

namespace FileTree

/-- Directories that every system has. -/
def commonDirectories : List Path :=
  ["etc", "proc", "tmp", "usr"].map fun name => [Path.root, name]

/-- An empty working directory. -/
def empty : FileTree where
  files := []
  directories := commonDirectories

/-- The contents of a file. -/
def contents? (tree : FileTree) (path : Path) : Option Bytes :=
  if path = Path.sink then some [] else tree.files.lookup path

/-- Whether a directory exists. -/
def hasDirectory (tree : FileTree) (path : Path) : Bool :=
  path.all Path.isAbove || tree.directories.contains path || path.isPrefixOf Path.sink.dropLast ||
    tree.files.any fun entry => path.isPrefixOf entry.1.dropLast

/-- Follow components that must be directories, and yield where they lead. -/
def walk (tree : FileTree) (place : Path) : List String → Except PathFault Path
  | [] => .ok place
  | name :: rest =>
      if name = Path.here then tree.walk place rest
      else if name = Path.parent then tree.walk place.outer rest
      else if Route.longestName < name.utf8ByteSize then .error .nameTooLong
      else if (tree.contents? (place ++ [name])).isSome then .error .notDirectory
      else if tree.hasDirectory (place ++ [name]) then tree.walk (place ++ [name]) rest
      else .error .notFound

/-- Follow a route up to its last component. Yield the directory that leads to, and the
component, if that is a name. -/
def locate (tree : FileTree) (route : Route) : Except PathFault (Path × Option String) := do
  let place ← tree.walk route.start route.components.dropLast
  match route.components.getLast? with
  | some last =>
      if last = Path.here || last = Path.parent then return (place, none)
      else return (place, some last)
  | none => return (place, none)

/-- Refuse a name that is too long. -/
def checkName (name : String) : Except PathFault Unit :=
  if Route.longestName < name.utf8ByteSize then .error .nameTooLong else .ok ()

/-- The contents of a file. -/
def read (tree : FileTree) (path : String) : Except PathFault Bytes := do
  let route ← Route.ofString path
  let (place, last?) ← tree.locate route
  match last? with
  | none => throw .isDirectory
  | some last => do
      checkName last
      match tree.contents? (place ++ [last]) with
      | some contents => if route.endsInSlash then throw .notDirectory else return contents
      | none =>
          if tree.hasDirectory (place ++ [last]) then throw .isDirectory else throw .notFound

/-- The tree with a file replaced or added. -/
def insert (tree : FileTree) (path : Path) (contents : Bytes) : FileTree :=
  if path = Path.sink then tree
  else { tree with
    files := (path, contents) :: tree.files.filter fun entry => entry.1 ≠ path }

/-- Write a file, which need not exist. A path that ends with a slash is one of a directory,
whether there is anything or not. -/
def write (tree : FileTree) (path : String) (contents : Bytes) : Except PathFault FileTree := do
  let route ← Route.ofString path
  let (place, last?) ← tree.locate route
  match last? with
  | none => throw .isDirectory
  | some last => do
      if route.endsInSlash then throw .isDirectory
      checkName last
      if tree.hasDirectory (place ++ [last]) then throw .isDirectory
      return tree.insert (place ++ [last]) contents

/-- A working directory into which files were written. -/
def ofFiles (files : List (String × Bytes)) : Except PathFault FileTree :=
  files.foldlM (fun tree (name, contents) => tree.write name contents) empty

/-- The files that are new, or whose contents differ. -/
def changedSince (tree before : FileTree) : List (Path × Bytes) :=
  tree.files.filter fun entry => before.contents? entry.1 ≠ some entry.2

/-- The files of the working directory that are new, or whose contents differ. -/
def changedInside (tree before : FileTree) : List (String × Bytes) :=
  ((tree.changedSince before).filter fun entry => entry.1.isInside).map fun entry =>
    (Path.render entry.1, entry.2)

end FileTree

end Bootloader.Signing
