/-!
# Map attributes

Memory maps and requests for a mapping carry a set of six attributes, stored as
the lowest bits of a 32-bit number. In text each attribute is a letter. Bits
that belong to no attribute are kept, and they count where sets are compared.
-/

set_option autoImplicit false

namespace Bootloader

/-- What a mapping allows, and how it is cached. -/
inductive Attribute where
  | read
  | write
  | exec
  | shareable
  | cacheable
  | bufferable
  deriving DecidableEq, Repr, Inhabited

namespace Attribute

/-- All attributes, in the order of their bits. -/
def all : List Attribute :=
  [read, write, exec, shareable, cacheable, bufferable]

/-- The bit of an attribute. -/
def mask : Attribute → UInt32
  | read => 1
  | write => 2
  | exec => 4
  | shareable => 8
  | cacheable => 16
  | bufferable => 32

/-- The letter of an attribute. -/
def letter : Attribute → Char
  | read => 'r'
  | write => 'w'
  | exec => 'x'
  | shareable => 's'
  | cacheable => 'c'
  | bufferable => 'b'

/-- The attribute of a letter of either case; execution has two letters. -/
def ofLetter? (character : Char) : Option Attribute :=
  match character.toLower with
  | 'r' => some read
  | 'w' => some write
  | 'x' => some exec
  | 'e' => some exec
  | 's' => some shareable
  | 'c' => some cacheable
  | 'b' => some bufferable
  | _ => none

end Attribute

/-- A set of attributes. -/
structure Attributes where
  bits : UInt32
  deriving DecidableEq, Repr, Inhabited

namespace Attributes

/-- The set without attributes. -/
def none : Attributes := ⟨0⟩

/-- Whether an attribute is in the set. -/
def has (attributes : Attributes) (member : Attribute) : Bool :=
  attributes.bits &&& member.mask != 0

/-- The set with one attribute more. -/
def insert (attributes : Attributes) (member : Attribute) : Attributes :=
  ⟨attributes.bits ||| member.mask⟩

/-- The set of a list of attributes. -/
def ofList (list : List Attribute) : Attributes :=
  list.foldl insert none

/-- What the image of a running program needs. -/
def readExec : Attributes :=
  ofList [.read, .exec]

/-- Whether every bit of the first set is also in the second. -/
def isSubset (attributes other : Attributes) : Bool :=
  attributes.bits &&& ~~~other.bits == 0

/-- The set that a text of letters names; a text without letters names none. -/
def parse? (text : String) : Option Attributes :=
  if text.isEmpty then Option.none
  else (text.toList.mapM Attribute.ofLetter?).map ofList

/-- The letters of the attributes in the set. -/
def render (attributes : Attributes) : String :=
  String.ofList ((Attribute.all.filter attributes.has).map Attribute.letter)

end Attributes

end Bootloader
