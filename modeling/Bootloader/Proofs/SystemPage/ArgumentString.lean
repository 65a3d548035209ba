import Bootloader.Proofs.SystemPage.Orders
import Bootloader.Proofs.Text.Words

/-!
# The argument string and the programs

The argument string and the list of programs tell the same: the command line of every program, in
the order of their registration. The string has them in full, behind a mark and each with a space
behind it, and is empty if there are none; the records have them cut to their fields
(`SystemPage.Enlists`). Where no command line has a space in it, the string is split at its spaces
into the command lines again (`Enlists.splitOn_arguments`).
-/

set_option autoImplicit false

namespace Bootloader.SystemPage

/-- The argument string of encoded command lines. -/
def argumentString (tokens : List Bytes) : Bytes :=
  if tokens.isEmpty then [] else argumentsMark :: tokens.flatMap fun token => token ++ [0x20]

/-- An encoded command line in its field: cut to leave room for a zero, and filled up with
zeros. -/
def commandField (token : Bytes) : Bytes :=
  token.take (Capacity.commandLine - 1) ++
    List.replicate (Capacity.commandLine - min (Capacity.commandLine - 1) token.length) 0

theorem toField_bytes (commandLine : String) :
    (Text.toField Capacity.commandLine commandLine).bytes =
      commandField (Text.encode commandLine) :=
  Text.bytes_toField Capacity.commandLine commandLine

/-- The string is empty without command lines, and begins with the mark otherwise; a further
command line comes last. -/
theorem withLine_argumentString (tokens : List Bytes) (commandLine : String) :
    withLine (argumentString tokens) commandLine =
      argumentString (tokens ++ [Text.encode commandLine]) := by
  cases tokens with
  | nil => simp [withLine, argumentString]
  | cons first rest => simp [withLine, argumentString]

/-- What lists the programs: the argument string, and their records. -/
def listed (page : SystemPage) : Bytes × List Program :=
  (page.arguments, page.programs)

/-- The argument string and the programs tell the same command lines. -/
structure Enlists (page : SystemPage) (tokens : List Bytes) : Prop where
  arguments : page.arguments = argumentString tokens
  programs : List.Forall₂ (fun program token => program.commandLine.bytes = commandField token)
    page.programs tokens

variable {page after : SystemPage} {tokens : List Bytes}

theorem same_listed_iff : Act.Same listed page after ↔
    after.arguments = page.arguments ∧ after.programs = page.programs :=
  Prod.ext_iff

theorem enlists_empty : empty.Enlists [] where
  arguments := rfl
  programs := .nil

/-- A program comes last in the string and in the list, under one command line. -/
structure AddsProgram (commandLine : String) (page after : SystemPage) : Prop where
  arguments : after.arguments = withLine page.arguments commandLine
  programs : ∃ program, after.programs = page.programs ++ [program] ∧
    program.commandLine = Text.toField Capacity.commandLine commandLine

/-- A program that is added is told last. -/
theorem Enlists.append {commandLine : String} (enlists : page.Enlists tokens)
    (adds : AddsProgram commandLine page after) :
    after.Enlists (tokens ++ [Text.encode commandLine]) where
  arguments := by rw [adds.arguments, enlists.arguments, withLine_argumentString]
  programs := by
    obtain ⟨program, programs, field⟩ := adds.programs
    rw [programs]
    refine List.rel_append enlists.programs (.cons ?_ .nil)
    rw [field, toField_bytes]

/-- Command lines without a space are the pieces of the string behind its mark. -/
theorem Enlists.splitOn_arguments (enlists : page.Enlists tokens)
    (solid : ∀ token ∈ tokens, 0x20 ∉ token) :
    (page.arguments.drop 1).splitOn 0x20 = tokens ++ [[]] := by
  rw [enlists.arguments, ← Text.splitOn_flatMap solid]
  cases tokens with
  | nil => rfl
  | cons first rest => rfl

/-- The argument string tells the programs of a page apart: split at its spaces behind the mark, it
has one piece for every program, in order. No piece is empty but the one behind the last space. -/
structure Tells (page : SystemPage) (tokens : List Bytes) : Prop where
  enlists : page.Enlists tokens
  solid : ∀ token ∈ tokens, token ≠ [] ∧ 0x20 ∉ token
  pieces : (page.arguments.drop 1).splitOn 0x20 = tokens ++ [[]]

theorem Enlists.tells (enlists : page.Enlists tokens)
    (solid : ∀ token ∈ tokens, token ≠ [] ∧ 0x20 ∉ token) : page.Tells tokens where
  enlists := enlists
  solid := solid
  pieces := enlists.splitOn_arguments fun token member => (solid token member).2

theorem tells_empty : empty.Tells [] :=
  enlists_empty.tells nofun

theorem Tells.congr (tells : page.Tells tokens) (same : Act.Same listed page after) :
    after.Tells tokens := by
  obtain ⟨arguments, programs⟩ := same_listed_iff.mp same
  obtain ⟨⟨string, records⟩, solid, pieces⟩ := tells
  rw [← arguments] at string pieces
  rw [← programs] at records
  exact ⟨⟨string, records⟩, solid, pieces⟩

/-- A program is told apart if its command line is not empty and has no space in it. -/
theorem Tells.append {commandLine : String} (tells : page.Tells tokens)
    (adds : AddsProgram commandLine page after)
    (solid : Text.encode commandLine ≠ [] ∧ 0x20 ∉ Text.encode commandLine) :
    after.Tells (tokens ++ [Text.encode commandLine]) :=
  (tells.enlists.append adds).tells (List.forall_mem_append.mpr
    ⟨tells.solid, List.forall_mem_singleton.mpr solid⟩)

section

variable {μ : Type} [PhysicalMemory μ]

/-- **The programs of a page are told by its argument string**, those and no others, in the order
in which they were registered. -/
theorem enlists_afterAll (memory : μ) (requests : List Request) :
    (afterAll requests (empty, memory)).1.Enlists
      ((commandLines requests (empty, memory)).map Text.encode) := by
  have grown : ∀ (lines : List String) (tokens : List Bytes),
      lines.foldl withLine (argumentString tokens) =
        argumentString (tokens ++ lines.map Text.encode) := by
    intro lines
    induction lines with
    | nil => exact fun tokens => by rw [List.map_nil, List.append_nil]; rfl
    | cons line rest ih =>
        intro tokens
        rw [List.foldl_cons, withLine_argumentString, ih, List.map_cons, List.append_assoc,
          List.singleton_append]
  refine ⟨(arguments_afterAll requests (empty, memory)).trans (grown _ []), ?_⟩
  rw [commandLines_eq, List.map_map, List.forall₂_map_right_iff]
  refine (programs_afterAll memory requests).imp fun program order records => ?_
  rw [records.commandLine, toField_bytes]
  rfl

end

end Bootloader.SystemPage
