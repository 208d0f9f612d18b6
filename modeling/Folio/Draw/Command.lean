import Folio.Property.Basic
import Folio.Property.Colour

/-!
# Draw commands

What layout asks of a drawing surface: to set colours and a font, to move, to draw a cell, and to go
on behind it. A `Canvas` is any state that can do these eight things. Commands are the same calls
as data: `performAll` feeds them to a canvas, and `recording` is the canvas that keeps them.
-/

namespace Folio

/-- A line of text in a box with a border and a filling. -/
structure Cell where
  width : Float32
  height : Float32
  text : String
  border : Sides
  align : Option Align
  fill : Bool
  deriving DecidableEq

/-- One call of a drawing surface. -/
inductive Command where
  | setTextColour (colour : Colour)
  | setDrawColour (colour : Colour)
  | setFillColour (colour : Colour)
  | setFont (family flags : String) (size : Float32)
  | moveTo (x y : Float32)
  | cell (cell : Cell)
  | newLine (height : Float32)
  | advance (width : Float32)
  deriving DecidableEq

/-- The calls, without what they are given. -/
inductive Call where
  | setTextColour
  | setDrawColour
  | setFillColour
  | setFont
  | moveTo
  | cell
  | newLine
  | advance
  deriving DecidableEq, Repr

/-- All calls. -/
def Call.all : List Call :=
  [setTextColour, setDrawColour, setFillColour, setFont, moveTo, cell, newLine, advance]

/-- The name of a call. -/
def Call.name : Call → String
  | setTextColour => "set_text_color"
  | setDrawColour => "set_draw_color"
  | setFillColour => "set_fill_color"
  | setFont => "set_font"
  | moveTo => "move_to"
  | cell => "cell"
  | newLine => "new_line"
  | advance => "advance_x"

/-- The call with a name. -/
def Call.ofName? (name : String) : Option Call :=
  all.find? (·.name == name)

/-- The call that a command makes. -/
def Command.call : Command → Call
  | setTextColour _ => .setTextColour
  | setDrawColour _ => .setDrawColour
  | setFillColour _ => .setFillColour
  | setFont _ _ _ => .setFont
  | moveTo _ _ => .moveTo
  | cell _ => .cell
  | newLine _ => .newLine
  | advance _ => .advance

/-- A drawing surface with a state: what each call makes of the state. -/
structure Canvas (σ : Type) where
  setTextColour : Colour → σ → σ
  setDrawColour : Colour → σ → σ
  setFillColour : Colour → σ → σ
  setFont : String → String → Float32 → σ → σ
  moveTo : Float32 → Float32 → σ → σ
  cell : Cell → σ → σ
  newLine : Float32 → σ → σ
  advance : Float32 → σ → σ

/-- Makes the call of a command. -/
def Canvas.perform {σ : Type} (canvas : Canvas σ) (state : σ) : Command → σ
  | .setTextColour colour => canvas.setTextColour colour state
  | .setDrawColour colour => canvas.setDrawColour colour state
  | .setFillColour colour => canvas.setFillColour colour state
  | .setFont family flags size => canvas.setFont family flags size state
  | .moveTo x y => canvas.moveTo x y state
  | .cell cell => canvas.cell cell state
  | .newLine height => canvas.newLine height state
  | .advance width => canvas.advance width state

/-- Makes the calls of commands one after the other. -/
def Canvas.performAll {σ : Type} (canvas : Canvas σ) (state : σ) (commands : List Command) : σ :=
  commands.foldl canvas.perform state

/-- The canvas that keeps every call as a command. -/
def recording : Canvas (Array Command) where
  setTextColour colour := (·.push (.setTextColour colour))
  setDrawColour colour := (·.push (.setDrawColour colour))
  setFillColour colour := (·.push (.setFillColour colour))
  setFont family flags size := (·.push (.setFont family flags size))
  moveTo x y := (·.push (.moveTo x y))
  cell cell := (·.push (.cell cell))
  newLine height := (·.push (.newLine height))
  advance width := (·.push (.advance width))

/-- The number of cells that commands draw. -/
def cellCount (commands : List Command) : Nat :=
  commands.countP fun command => match command with
    | .cell _ => true
    | _ => false

end Folio
