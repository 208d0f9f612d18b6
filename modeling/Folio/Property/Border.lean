import Folio.Text.Blank

/-!
# Borders

The sides of a box that get a line. A set of sides is written by the letters of its sides, in the
order left, top, right, bottom, or as `0` when it is empty; it is read from letters of either case
in any order.
-/

namespace Folio

/-- A side of a box. -/
inductive Side where
  | left
  | top
  | right
  | bottom
  deriving DecidableEq, Repr

namespace Side

/-- The sides in the order in which they are written and drawn. -/
def all : List Side := [left, top, right, bottom]

/-- The name of a side. -/
def name : Side → String
  | left => "left"
  | top => "top"
  | right => "right"
  | bottom => "bottom"

/-- The side with a name. -/
def ofName? (name : String) : Option Side :=
  all.find? (·.name == name)

/-- The letter of a side. -/
def letter : Side → Char
  | left => 'L'
  | top => 'T'
  | right => 'R'
  | bottom => 'B'

end Side

/-- A set of sides. -/
structure Sides where
  left : Bool
  top : Bool
  right : Bool
  bottom : Bool
  deriving DecidableEq, Repr

namespace Sides

/-- No side. -/
def none : Sides := ⟨false, false, false, false⟩

/-- All four sides. -/
def all : Sides := ⟨true, true, true, true⟩

/-- Whether a side is in the set. -/
def contains (sides : Sides) : Side → Bool
  | .left => sides.left
  | .top => sides.top
  | .right => sides.right
  | .bottom => sides.bottom

/-- Puts a side in or takes it out. -/
def set (sides : Sides) (side : Side) (inside : Bool) : Sides :=
  match side with
  | .left => { sides with left := inside }
  | .top => { sides with top := inside }
  | .right => { sides with right := inside }
  | .bottom => { sides with bottom := inside }

/-- The sides of the set, in order. -/
def toList (sides : Sides) : List Side :=
  Side.all.filter sides.contains

/-- Whether the set has no side. -/
def isEmpty (sides : Sides) : Bool :=
  sides = none

/-- The letters of the sides, or `0` for no side. -/
def letters (sides : Sides) : String :=
  if sides.isEmpty then "0" else String.ofList (sides.toList.map Side.letter)

/-- Adds the sides of letters to a set. -/
def addLetters? (sides : Sides) : List Char → Option Sides
  | [] => some sides
  | c :: rest =>
    if c.toUpper = '0' then addLetters? sides rest
    else match Side.all.find? (·.letter == c.toUpper) with
      | some side => addLetters? (sides.set side true) rest
      | Option.none => Option.none

/-- Reads the letters of a set of sides. No letter, like `0`, means no side. -/
def parse? (text : String) : Option Sides :=
  addLetters? none (Text.trimBlanks text.toList)

/-- Every set is read back from its letters. -/
theorem parse?_letters (sides : Sides) : parse? sides.letters = some sides := by
  obtain ⟨left, top, right, bottom⟩ := sides
  cases left <;> cases top <;> cases right <;> cases bottom <;> decide +kernel

end Sides

end Folio
