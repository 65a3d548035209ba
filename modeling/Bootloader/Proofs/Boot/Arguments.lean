import Bootloader.Boot.Context
import Bootloader.Boot.ImageName
import Bootloader.Proofs.Act.Ends
import Bootloader.Proofs.Text.Numerals

/-!
# Arguments of commands

An image argument is put together from the name of a file, arguments behind semicolons, a window of
two numbers in parentheses, and a rest (`Composed`). Every argument is put together like this, or
has a fault (`composed_or_fault`): its first parenthesis is not closed, or does not hold two numbers
around its first colon, or the name is blank (`Fault`). What is put together is taken apart into the
same parts (`Composed.parse_eq`), and a fault is reported (`Fault.parse_eq`), so both tell exactly
what becomes of an argument (`arguments_exact`).

A number that is given as an argument is a numeral of 64 bits, and anything else is refused
(`numbers_exact`).
-/

set_option autoImplicit false

namespace Bootloader

namespace ImageName

/-- The name of a file and what follows it up to a parenthesis: the name ends before the first
semicolon, where the arguments begin. -/
structure Front (file arguments : String) : Prop where
  plain : ';' ∉ file.toList
  begins : arguments = "" ∨ ∃ more, arguments = ";" ++ more
  single : '(' ∉ file.toList ++ arguments.toList

/-- An argument, and the name of the file, the command line and the window that it is put together
from. -/
inductive Composed : String → String → String → Option FileWindow → Prop
  | plain {file arguments : String} (front : Front file arguments) :
      Composed (file ++ arguments) file (file ++ arguments) none
  | windowed {file arguments offset size rest : String} {start length : UInt64}
      (front : Front file arguments) (first : Text.Numeral (Text.trim offset.toList) start.toNat)
      (second : Text.Numeral (Text.trim size.toList) length.toNat) :
      Composed (file ++ arguments ++ "(" ++ offset ++ ":" ++ size ++ ")" ++ rest) file
        (file ++ arguments ++ rest) (some ⟨start.toNat, length.toNat⟩)

/-- A text that does not write a number of 64 bits. -/
def IsRefused (text : String) : Prop :=
  ∀ number, Text.Numeral (Text.trim text.toList) number → UInt64.size ≤ number

/-- What is wrong with an argument. -/
inductive Fault : String → BootError → Prop
  | unclosed {front inside : String} (opens : '(' ∉ front.toList)
      (unclosed : ')' ∉ inside.toList) :
      Fault (front ++ "(" ++ inside) (.badArgument "window")
  | undivided {front inside rest : String} (opens : '(' ∉ front.toList)
      (closes : ')' ∉ inside.toList) (single : ':' ∉ inside.toList) :
      Fault (front ++ "(" ++ inside ++ ")" ++ rest) (.badArgument "window")
  | refused {front offset size rest : String} (opens : '(' ∉ front.toList)
      (closes : ')' ∉ offset.toList ++ size.toList) (divides : ':' ∉ offset.toList)
      (bad : IsRefused offset ∨ IsRefused size) :
      Fault (front ++ "(" ++ offset ++ ":" ++ size ++ ")" ++ rest) (.page .badNumber)
  | unnamed {argument file commandLine : String} {window : Option FileWindow}
      (composed : Composed argument file commandLine window) (blank : Text.trimmed file = "") :
      Fault argument (.badArgument "name")

/-! ## Parts of an argument -/

theorem splitWindow_plain {characters : List Char} (single : '(' ∉ characters) :
    splitWindow characters = .ok (characters, none) := by
  rw [splitWindow, Text.cut_eq_none_iff.mpr single]

theorem splitWindow_unclosed {front inside : List Char} (opens : '(' ∉ front)
    (unclosed : ')' ∉ inside) :
    splitWindow (front ++ '(' :: inside) = .error (.badArgument "window") := by
  rw [splitWindow, Text.cut_eq_some_iff.mpr ⟨rfl, opens⟩]
  dsimp only
  rw [Text.cut_eq_none_iff.mpr unclosed]

/-- What the parentheses hold decides about the argument. -/
theorem splitWindow_closed {front inside rest : List Char} (opens : '(' ∉ front)
    (closes : ')' ∉ inside) :
    splitWindow (front ++ '(' :: (inside ++ ')' :: rest)) =
      (parseWindow inside).map fun window => (front ++ rest, some window) := by
  rw [splitWindow, Text.cut_eq_some_iff.mpr ⟨rfl, opens⟩]
  dsimp only
  rw [Text.cut_eq_some_iff.mpr ⟨rfl, closes⟩]
  dsimp only
  cases parseWindow inside <;> rfl

theorem parseWindow_undivided {inside : List Char} (single : ':' ∉ inside) :
    parseWindow inside = .error (.badArgument "window") := by
  rw [parseWindow, Text.cut_eq_none_iff.mpr single]

theorem parseWindow_divided {offset size : List Char} (divides : ':' ∉ offset) :
    parseWindow (offset ++ ':' :: size) =
      (do return ⟨← number offset, ← number size⟩ : Except BootError FileWindow) := by
  rw [parseWindow, Text.cut_eq_some_iff.mpr ⟨rfl, divides⟩]

theorem number_eq_ok {text : String} {word : UInt64}
    (numeral : Text.Numeral (Text.trim text.toList) word.toNat) :
    number text.toList = .ok word.toNat := by
  rw [number, String.ofList_toList, Text.number?_eq_some_iff.mpr numeral]

theorem number_eq_error {text : String} (refused : IsRefused text) :
    number text.toList = .error (.page .badNumber) := by
  rw [number, String.ofList_toList, Text.number?_eq_none_iff.mpr refused]

theorem numeral_or_refused (text : String) :
    (∃ word : UInt64, Text.Numeral (Text.trim text.toList) word.toNat) ∨ IsRefused text := by
  cases read : Text.number? text with
  | some word => exact .inl ⟨word, Text.number?_eq_some_iff.mp read⟩
  | none => exact .inr (Text.number?_eq_none_iff.mp read)

theorem not_refused {text : String} {word : UInt64}
    (numeral : Text.Numeral (Text.trim text.toList) word.toNat) : ¬ IsRefused text :=
  fun refused => Nat.not_lt_of_le (refused _ numeral) word.toNat_lt_size

/-- The name of the file goes up to what ends it. -/
theorem fileName_append {file rest : List Char}
    (name : ∀ character ∈ file, endsFile character = false)
    (ended : rest = [] ∨ ∃ first more, rest = first :: more ∧ endsFile first = true) :
    fileName (file ++ rest) = Text.trim file := by
  have stops : rest.takeWhile (fun character => !endsFile character) = [] := by
    rcases ended with rfl | ⟨first, more, rfl, ends⟩
    · rfl
    · rw [List.takeWhile_cons, ends]
      rfl
  have whole : ∀ character ∈ file, (!endsFile character) = true := by
    intro character member
    rw [name character member]
    rfl
  rw [fileName, List.takeWhile_append_of_pos whole, stops, List.append_nil]

/-- The window is looked at before the name. -/
theorem parse_eq (argument : String) :
    parse argument = (splitWindow argument.toList).bind fun parts =>
      if String.ofList (fileName argument.toList) = "" then .error (.badArgument "name")
      else .ok ⟨String.ofList (fileName argument.toList), String.ofList parts.1, parts.2⟩ := by
  have blank : String.ofList (fileName argument.toList) = "" ↔
      fileName argument.toList = [] := by
    rw [← String.toList_inj, String.toList_ofList]
    rfl
  rw [parse]
  cases splitWindow argument.toList with
  | error error => rfl
  | ok parts =>
      by_cases unnamed : fileName argument.toList = []
      · simp only [Except.bind, bind, unnamed, List.isEmpty_nil, if_true]
        rfl
      · simp only [Except.bind, bind, blank, unnamed, List.isEmpty_iff, if_false]
        rfl

/-- A separator is no part of a text that writes a number. -/
theorem not_mem_of_numeral {text : String} {number : Nat} {separator : Char}
    (numeral : Text.Numeral (Text.trim text.toList) number)
    (solid : Text.isBlank separator = false)
    (strange : separator ∉ '+' :: 'x' :: 'X' :: Text.digitCharacters) :
    separator ∉ text.toList :=
  fun member => strange (numeral.mem _ (Text.mem_trim member solid))

/-- The name that is read off the front of an argument. -/
theorem Front.fileName_eq {file arguments : String} (front : Front file arguments)
    {rest : List Char} (ended : rest = [] ∨ ∃ more, rest = '(' :: more) :
    fileName (file.toList ++ (arguments.toList ++ rest)) = Text.trim file.toList := by
  have name : ∀ character ∈ file.toList, endsFile character = false := by
    intro character member
    rw [endsFile, Bool.or_eq_false_iff, decide_eq_false_iff_not, decide_eq_false_iff_not]
    exact ⟨fun same => front.plain (same ▸ member),
      fun same => front.single (List.mem_append_left _ (same ▸ member))⟩
  refine fileName_append name ?_
  rcases front.begins with rfl | ⟨more, rfl⟩
  · rcases ended with rfl | ⟨more, rfl⟩
    · exact .inl rfl
    · exact .inr ⟨'(', more, rfl, rfl⟩
  · exact .inr ⟨';', more.toList ++ rest, by rw [String.toList_append]; rfl, rfl⟩

/-- An argument that is well put together is taken apart, unless the name is blank. -/
theorem Composed.parse_eq {argument file commandLine : String} {window : Option FileWindow}
    (composed : Composed argument file commandLine window) :
    parse argument = if Text.trimmed file = "" then .error (.badArgument "name")
      else .ok ⟨Text.trimmed file, commandLine, window⟩ := by
  cases composed with
  | @plain _ arguments front =>
      have name := front.fileName_eq (.inl rfl)
      have single := front.single
      rw [List.append_nil, ← String.toList_append] at name
      rw [← String.toList_append] at single
      rw [ImageName.parse_eq, splitWindow_plain single, name]
      rw [Except.bind, String.ofList_toList, ← Text.trimmed]
  | @windowed _ arguments offset size rest start length front first second =>
      have whole : (file ++ arguments ++ "(" ++ offset ++ ":" ++ size ++ ")" ++ rest).toList =
          (file.toList ++ arguments.toList) ++
            '(' :: ((offset.toList ++ ':' :: size.toList) ++ ')' :: rest.toList) := by
        simp [String.toList_append]
      have name := front.fileName_eq (.inr ⟨(offset.toList ++ ':' :: size.toList) ++
        ')' :: rest.toList, rfl⟩)
      have closes : ')' ∉ offset.toList ++ ':' :: size.toList := by
        rw [List.mem_append, List.mem_cons, not_or, not_or]
        exact ⟨not_mem_of_numeral first rfl (by decide), by decide,
          not_mem_of_numeral second rfl (by decide)⟩
      have divides : ':' ∉ offset.toList := not_mem_of_numeral first rfl (by decide)
      have split : splitWindow (file.toList ++ arguments.toList ++
            '(' :: ((offset.toList ++ ':' :: size.toList) ++ ')' :: rest.toList)) =
          .ok (file.toList ++ arguments.toList ++ rest.toList,
            some ⟨start.toNat, length.toNat⟩) := by
        rw [splitWindow_closed front.single closes, parseWindow_divided divides,
          number_eq_ok first, number_eq_ok second]
        rfl
      have line : String.ofList (file.toList ++ arguments.toList ++ rest.toList) =
          file ++ arguments ++ rest := by
        simp [← String.toList_inj, String.toList_append]
      rw [← List.append_assoc] at name
      rw [ImageName.parse_eq, whole, split, name]
      rw [Except.bind, line, ← Text.trimmed]

/-- A fault is what an argument is refused for. -/
theorem Fault.parse_eq {argument : String} {error : BootError} (fault : Fault argument error) :
    parse argument = .error error := by
  cases fault with
  | @unclosed front inside opens unclosed =>
      have whole : (front ++ "(" ++ inside).toList = front.toList ++ '(' :: inside.toList := by
        simp [String.toList_append]
      rw [ImageName.parse_eq, whole, splitWindow_unclosed opens unclosed]
      rfl
  | @undivided front inside rest opens closes single =>
      have whole : (front ++ "(" ++ inside ++ ")" ++ rest).toList =
          front.toList ++ '(' :: (inside.toList ++ ')' :: rest.toList) := by
        simp [String.toList_append]
      rw [ImageName.parse_eq, whole, splitWindow_closed opens closes,
        parseWindow_undivided single]
      rfl
  | @refused front offset size rest opens closes divides bad =>
      have whole : (front ++ "(" ++ offset ++ ":" ++ size ++ ")" ++ rest).toList =
          front.toList ++ '(' :: ((offset.toList ++ ':' :: size.toList) ++ ')' :: rest.toList) := by
        simp [String.toList_append]
      have inside : ')' ∉ offset.toList ++ ':' :: size.toList := by
        simpa using closes
      rw [ImageName.parse_eq, whole, splitWindow_closed opens inside, parseWindow_divided divides]
      rcases numeral_or_refused offset with ⟨start, first⟩ | first
      · rw [number_eq_ok first, number_eq_error (bad.resolve_left (not_refused first))]
        rfl
      · rw [number_eq_error first]
        rfl
  | unnamed composed blank => rw [composed.parse_eq, if_pos blank]

/-- What has no parenthesis is a name and arguments. -/
theorem exists_front {characters : List Char} (single : '(' ∉ characters) :
    ∃ file arguments, Front file arguments ∧ characters = file.toList ++ arguments.toList := by
  have whole := List.takeWhile_append_dropWhile (p := fun character => !endsFile character)
    (l := characters)
  refine ⟨String.ofList (characters.takeWhile fun character => !endsFile character),
    String.ofList (characters.dropWhile fun character => !endsFile character), ⟨?_, ?_, ?_⟩, ?_⟩
  · rw [String.toList_ofList]
    exact fun member => absurd (List.mem_takeWhile_imp member) (by decide)
  · cases behind : characters.dropWhile fun character => !endsFile character with
    | nil => exact .inl rfl
    | cons first more =>
        have present : first ∈ characters :=
          List.dropWhile_subset _ (behind ▸ List.mem_cons_self)
        have ends : endsFile first = true := by
          have head := List.head?_dropWhile_not (fun character => !endsFile character) characters
          rw [behind] at head
          simpa using head
        have semicolon : first = ';' := by
          rcases Bool.or_eq_true_iff.mp ends with same | same
          · exact of_decide_eq_true same
          · exact absurd (of_decide_eq_true same ▸ present) single
        refine .inr ⟨String.ofList more, ?_⟩
        simp [semicolon]
  · rwa [String.toList_ofList, String.toList_ofList, whole]
  · rw [String.toList_ofList, String.toList_ofList, whole]

theorem exists_toList (characters : List Char) : ∃ text : String, text.toList = characters :=
  ⟨String.ofList characters, String.toList_ofList⟩

/-- Every argument is well put together or has a fault. -/
theorem composed_or_fault (argument : String) :
    (∃ file commandLine window, Composed argument file commandLine window) ∨
      ∃ error, Fault argument error := by
  cases opened : Text.cut '(' argument.toList with
  | none =>
      obtain ⟨file, arguments, front, whole⟩ := exists_front (Text.cut_eq_none_iff.mp opened)
      rw [← String.toList_append, String.toList_inj] at whole
      subst whole
      exact .inl ⟨_, _, _, .plain front⟩
  | some parts =>
      obtain ⟨before, inside⟩ := parts
      obtain ⟨whole, opens⟩ := Text.cut_eq_some_iff.mp opened
      obtain ⟨front, rfl⟩ := exists_toList before
      cases closed : Text.cut ')' inside with
      | none =>
          obtain ⟨inside, rfl⟩ := exists_toList inside
          obtain rfl : argument = front ++ "(" ++ inside := by
            simp [← String.toList_inj, String.toList_append, whole]
          exact .inr ⟨_, .unclosed opens (Text.cut_eq_none_iff.mp closed)⟩
      | some parts =>
          obtain ⟨between, after⟩ := parts
          obtain ⟨rfl, closes⟩ := Text.cut_eq_some_iff.mp closed
          obtain ⟨rest, rfl⟩ := exists_toList after
          cases divided : Text.cut ':' between with
          | none =>
              obtain ⟨inside, rfl⟩ := exists_toList between
              obtain rfl : argument = front ++ "(" ++ inside ++ ")" ++ rest := by
                simp [← String.toList_inj, String.toList_append, whole]
              exact .inr ⟨_, .undivided opens closes (Text.cut_eq_none_iff.mp divided)⟩
          | some parts =>
              obtain ⟨first, second⟩ := parts
              obtain ⟨rfl, divides⟩ := Text.cut_eq_some_iff.mp divided
              obtain ⟨offset, rfl⟩ := exists_toList first
              obtain ⟨size, rfl⟩ := exists_toList second
              obtain rfl : argument = front ++ "(" ++ offset ++ ":" ++ size ++ ")" ++ rest := by
                simp [← String.toList_inj, String.toList_append, whole]
              have outside : ')' ∉ offset.toList ++ size.toList := by
                simpa using closes
              rcases numeral_or_refused offset with ⟨start, first⟩ | bad
              · rcases numeral_or_refused size with ⟨length, second⟩ | bad
                · obtain ⟨file, arguments, parts, named⟩ := exists_front opens
                  rw [← String.toList_append, String.toList_inj] at named
                  subst named
                  exact .inl ⟨_, _, _, .windowed parts first second⟩
                · exact .inr ⟨_, .refused opens outside divides (.inr bad)⟩
              · exact .inr ⟨_, .refused opens outside divides (.inl bad)⟩

/-- **An argument is taken apart as it was put together, and refused for its faults.** It gives an
image exactly if it is a file name and arguments, with a window in parentheses behind them or
without, and the name is not blank; the command line is all of it but the parentheses. Any other
argument has a fault, the one that is reported. In particular the numbers of a window may be printed
in decimal or in hexadecimal, and an argument without a parenthesis is the command line as it is,
and has no window. -/
theorem arguments_exact (argument : String) :
    (∀ image, parse argument = .ok image ↔
      ∃ file, Composed argument file image.commandLine image.window ∧
        image.file = Text.trimmed file ∧ image.file ≠ "") ∧
    (∀ error, parse argument = .error error ↔ Fault argument error) ∧
    (∀ (file arguments offset size rest : String) (start length : UInt64), Front file arguments →
      Text.trimmed file ≠ "" → Text.Prints offset start → Text.Prints size length →
      argument = file ++ arguments ++ "(" ++ offset ++ ":" ++ size ++ ")" ++ rest →
      parse argument = .ok ⟨Text.trimmed file, file ++ arguments ++ rest,
        some ⟨start.toNat, length.toNat⟩⟩) ∧
    ('(' ∉ argument.toList → ∃ file arguments, Front file arguments ∧
      argument = file ++ arguments ∧ parse argument =
        if Text.trimmed file = "" then .error (.badArgument "name")
        else .ok ⟨Text.trimmed file, argument, none⟩) := by
  refine ⟨fun image => ⟨?_, ?_⟩, fun error => ⟨?_, Fault.parse_eq⟩, ?_, fun single => ?_⟩
  · intro parsed
    rcases composed_or_fault argument with ⟨file, line, window, composed⟩ | ⟨error, fault⟩
    · rw [composed.parse_eq] at parsed
      split at parsed
      case isTrue => cases parsed
      case isFalse named =>
        cases parsed
        exact ⟨file, composed, rfl, named⟩
    · rw [fault.parse_eq] at parsed
      cases parsed
  · rintro ⟨file, composed, name, named⟩
    rw [composed.parse_eq, if_neg (name ▸ named), ← name]
  · intro parsed
    rcases composed_or_fault argument with ⟨file, line, window, composed⟩ | ⟨other, fault⟩
    · by_cases blank : Text.trimmed file = ""
      · rw [composed.parse_eq, if_pos blank] at parsed
        cases parsed
        exact .unnamed composed blank
      · rw [composed.parse_eq, if_neg blank] at parsed
        cases parsed
    · rw [fault.parse_eq] at parsed
      cases parsed
      exact fault
  · rintro file arguments offset size rest start length front named first second rfl
    have first := Text.number?_eq_some_iff.mp first.number?_eq
    have second := Text.number?_eq_some_iff.mp second.number?_eq
    rw [(Composed.windowed front first second).parse_eq, if_neg named]
  · obtain ⟨file, arguments, front, whole⟩ := exists_front single
    rw [← String.toList_append, String.toList_inj] at whole
    subst whole
    exact ⟨file, arguments, front, rfl, (Composed.plain front).parse_eq⟩

/-- The file has an argument, the window has a plus sign and blanks, and the rest has parentheses of
its own. -/
theorem arguments_exact_windowed :
    Composed "dummyfs;-N(0X1000: +2048 );x(y)" "dummyfs" "dummyfs;-N;x(y)" (some ⟨4096, 2048⟩) ∧
      parse "dummyfs;-N(0X1000: +2048 );x(y)" =
        .ok ⟨"dummyfs", "dummyfs;-N;x(y)", some ⟨4096, 2048⟩⟩ := by
  have front : Front "dummyfs" ";-N" :=
    ⟨by decide +kernel, .inr ⟨"-N", rfl⟩, by decide +kernel⟩
  have first : Text.Numeral (Text.trim "0X1000".toList) (4096 : UInt64).toNat :=
    Text.numeral?_eq_some_iff.mp (by decide +kernel)
  have second : Text.Numeral (Text.trim " +2048 ".toList) (2048 : UInt64).toNat :=
    Text.numeral?_eq_some_iff.mp (by decide +kernel)
  have composed : Composed "dummyfs;-N(0X1000: +2048 );x(y)" "dummyfs" "dummyfs;-N;x(y)"
      (some ⟨4096, 2048⟩) :=
    @Composed.windowed "dummyfs" ";-N" "0X1000" " +2048 " ";x(y)" 4096 2048 front first second
  exact ⟨composed, ((arguments_exact _).1 _).mpr
    ⟨"dummyfs", composed, by decide +kernel, by decide⟩⟩

end ImageName

namespace Loader

open Text

variable {ω μ : Type}

/-- A number given as an argument is used, or refused where it cannot be read. -/
theorem number_ends (argument : String) (before : Loader ω μ) :
    (number argument).Ends before (match number? argument with
      | some word => .done word
      | none => .failed (.page .badNumber)) before := by
  rw [number]
  cases number? argument with
  | some word => exact ⟨rfl, rfl⟩
  | none => exact ⟨rfl, rfl⟩

/-- **Numbers are read exactly.** A text is a number if it is a numeral, blanks around it aside, and
the number that it writes fits 64 bits. Any other text is refused as a bad number. Printed numbers
are read back, in decimal and in hexadecimal, whatever zeros they are padded with. It makes no
difference to collect the digits in a word of 64 bits and to give up when it overflows. -/
theorem numbers_exact :
    (∀ (text : String) (word : UInt64),
      number? text = some word ↔ Numeral (trim text.toList) word.toNat) ∧
    (∀ text : String, number? text = none ↔
      ∀ number, Numeral (trim text.toList) number → 2 ^ 64 ≤ number) ∧
    (∀ (text : String) (before : Loader ω μ), number? text = none →
      (number text).Ends before (.failed (.page .badNumber)) before) ∧
    (∀ word : UInt64, (∀ text, Prints text word → number? text = some word) ∧
      ∀ count,
        number? (String.ofList (List.replicate count '0') ++ toString word.toNat) = some word ∧
        number? (paddedHex count word.toNat) = some word) ∧
    ∀ (base : Nat) (digits : List Char), 0 < base →
      wordFrom? base 0 digits = (digitsFrom? base 0 digits).bind fitting? := by
  refine ⟨fun text word => number?_eq_some_iff, fun text => number?_eq_none_iff, ?_, ?_, ?_⟩
  · intro text before refused
    have ends := number_ends text before
    rwa [refused] at ends
  · intro word
    have printed : toString word.toNat = String.ofList (Nat.toDigits 10 word.toNat) := rfl
    refine ⟨fun text => Prints.number?_eq, fun count => ⟨?_, ?_⟩⟩
    · rw [printed, ← String.ofList_append]
      exact number?_of_numeral (numeral_decimal count word.toNat)
    · exact number?_of_numeral (numeral_hexadecimal _ word.toNat)
  · intro base digits positive
    exact wordFrom?_eq positive 0 digits

/-- The largest number is read between blanks, with a plus sign and a zero in front; the next one is
refused. -/
theorem numbers_exact_largest :
    number? " 0X+0FFFFffffFFFFffff\t" = some 0xffffffffffffffff ∧
      number? "18446744073709551616" = none := by
  obtain ⟨accepted, refused, -⟩ := numbers_exact (ω := Unit) (μ := Unit)
  refine ⟨(accepted _ _).mpr (numeral?_eq_some_iff.mp (by decide +kernel)),
    (refused _).mpr fun number numeral => ?_⟩
  have read : numeral? (trim "18446744073709551616".toList) = some (2 ^ 64) := by decide +kernel
  rw [numeral?_eq_some_iff.mpr numeral, Option.some_inj] at read
  exact Nat.le_of_eq read.symm

end Loader

end Bootloader
