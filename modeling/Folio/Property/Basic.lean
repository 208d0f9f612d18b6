import Folio.Property.Border

/-!
# Rendering properties

What a style comes to: the typed values that layout and drawing use. A property that
no style produced is absent, and an element without any property is not drawn.
-/

namespace Folio

/-- Horizontal alignment of the text in a box. -/
inductive Align where
  | left
  | right
  | center
  | justify
  deriving DecidableEq, Repr

/-- The letter of an alignment. -/
def Align.letter : Align → String
  | .left => "L"
  | .right => "R"
  | .center => "C"
  | .justify => "J"

/-- The alignments in the order of their definition. -/
def Align.all : List Align := [.left, .right, .center, .justify]

/-- A font by family, weight, slant and size. -/
structure Font where
  family : String := "Arial"
  bold : Bool := false
  italic : Bool := false
  size : Float32 := 12
  deriving DecidableEq

/-- The letters that stand for a bold and a slanted font. -/
def Font.flags (font : Font) : String :=
  (if font.bold then "B" else "") ++ (if font.italic then "I" else "")

/-- What one element adds to a coordinate. -/
inductive Offset where
  /-- The coordinate of an absolutely placed element. -/
  | absolute (value : Float32)
  /-- Values found above a relative element, nearest first; they are added up at layout. -/
  | deferred (values : List Float32)
  deriving DecidableEq

/-- The amount of a value that is a part of a whole up to one and literal beyond. -/
def scaledUpToOne (whole value : Float32) : Float32 :=
  if value ≤ 1 then value * whole else value

/-- The coordinate that an offset comes to. -/
def Offset.amount (contentWidth : Float32) : Offset → Float32
  | .absolute value => value
  | .deferred values => values.foldl (fun sum value => sum + scaledUpToOne contentWidth value) 0

/-- Whether an offset is absolute. -/
def Offset.isAbsolute : Offset → Bool
  | .absolute _ => true
  | .deferred _ => false

/-- The properties of one element. -/
structure Properties where
  align : Option Align := none
  border : Option Sides := none
  drawColour : Option String := none
  fillColour : Option String := none
  textColour : Option String := none
  font : Option Font := none
  width : Option Float32 := none
  height : Option Float32 := none
  x : Option Offset := none
  y : Option Offset := none
  lineBreak : Option Bool := none
  deriving DecidableEq

namespace Properties

/-- No property. -/
def empty : Properties := {}

/-- Whether no property is there. -/
def isEmpty (p : Properties) : Bool :=
  p.align.isNone && p.border.isNone && p.drawColour.isNone && p.fillColour.isNone &&
    p.textColour.isNone && p.font.isNone && p.width.isNone && p.height.isNone && p.x.isNone &&
    p.y.isNone && p.lineBreak.isNone

/-- The font so far, or the one that fonts start from. -/
def currentFont (p : Properties) : Font :=
  p.font.getD {}

/-- The border so far, or none. -/
def currentBorder (p : Properties) : Sides :=
  p.border.getD .none

theorem isEmpty_iff (p : Properties) : p.isEmpty = true ↔ p = empty := by
  obtain ⟨a, b, c, d, e, f, g, h, i, j, k⟩ := p
  simp [isEmpty, empty, Option.isNone_iff_eq_none, and_assoc]

end Properties

end Folio
