import Bootloader.Boot.Error
import Bootloader.Files.Basic
import Bootloader.Text.Number

/-!
# Image arguments

A program is named by a file, optional arguments behind semicolons, and an
optional window in parentheses, the offset and the size of the file on a raw
device. The command line handed to the kernel is the argument without its window.
-/

set_option autoImplicit false

namespace Bootloader

/-- The parts of an image argument. -/
structure ImageName where
  file : String
  commandLine : String
  window : Option FileWindow
  deriving DecidableEq, Repr

namespace ImageName

/-- A number inside of parentheses. -/
def number (characters : List Char) : Except BootError Nat :=
  match Text.number? (String.ofList characters) with
  | some value => .ok value.toNat
  | none => .error (.page .badNumber)

/-- The window that the text between parentheses gives: two numbers around the first colon. -/
def parseWindow (characters : List Char) : Except BootError FileWindow :=
  match Text.cut ':' characters with
  | none => .error (.badArgument "window")
  | some (offset, size) => do
      let start ← number offset
      let size ← number size
      return ⟨start, size⟩

/-- The argument without its first parentheses, and the window that they give. -/
def splitWindow (characters : List Char) : Except BootError (List Char × Option FileWindow) :=
  match Text.cut '(' characters with
  | none => .ok (characters, none)
  | some (front, inside) =>
      match Text.cut ')' inside with
      | none => .error (.badArgument "window")
      | some (window, back) => do
          let window ← parseWindow window
          return (front ++ back, some window)

/-- Whether a character ends the name of the file. -/
def endsFile (character : Char) : Bool :=
  character = ';' || character = '('

/-- The name of the file in an argument. -/
def fileName (characters : List Char) : List Char :=
  Text.trim (characters.takeWhile fun character => !endsFile character)

/-- Take an image argument apart. -/
def parse (argument : String) : Except BootError ImageName := do
  let characters := argument.toList
  let (commandLine, window) ← splitWindow characters
  let file := fileName characters
  if file.isEmpty then throw (.badArgument "name")
  return ⟨String.ofList file, String.ofList commandLine, window⟩

end ImageName

end Bootloader
