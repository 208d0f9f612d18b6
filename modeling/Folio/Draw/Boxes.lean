import Folio.Draw.Command
import Folio.Layout
import Folio.Text.Quoted

/-!
# Drawing boxes

Every drawn box makes one block of calls: the colours and the font that its properties give, a move
to its place, its cell, and then a new line or a step past the cell. A colour or font that the
properties do not give is left as the canvas has it. A colour that cannot be read is passed over
with a warning.
-/

namespace Folio

/-- Makes a call if there is a value for it. -/
def callIf {σ α : Type} (value : Option α) (call : α → σ → σ) (state : σ) : σ :=
  match value with
  | some a => call a state
  | none => state

/-- The colour of a property, if it is there and can be read. -/
def colour? (property : Option String) : Option Colour :=
  property.bind Colour.parse?

/-- The cell of a box. -/
def Box.cell (box : Box) : Cell where
  width := box.width
  height := box.height
  text := box.item.value.element.text.getD ""
  border := box.properties.currentBorder
  align := box.properties.align
  fill := (colour? box.properties.fillColour).isSome

/-- Draws one box. The origin is the place of the content area on the page. -/
def drawBox {σ : Type} (canvas : Canvas σ) (originX originY : Float32) (state : σ) (box : Box) :
    σ :=
  let p := box.properties
  let state := callIf (colour? p.textColour) canvas.setTextColour state
  let state := callIf (colour? p.drawColour) canvas.setDrawColour state
  let state := callIf (colour? p.fillColour) canvas.setFillColour state
  let state := callIf p.font
    (fun font => canvas.setFont (Text.capitalized font.family) font.flags font.size) state
  let state := canvas.moveTo (originX + box.x) (originY + box.y) state
  let state := canvas.cell box.cell state
  if box.breaksLine then canvas.newLine box.height state else canvas.advance box.width state

/-- Draws the boxes of a list that are to be drawn. -/
def drawBoxes {σ : Type} (canvas : Canvas σ) (originX originY : Float32) (boxes : List Box)
    (state : σ) : σ :=
  (boxes.filter Box.drawn).foldl (drawBox canvas originX originY) state

/-- The commands that draw the boxes of a list. -/
def boxCommands (originX originY : Float32) (boxes : List Box) : List Command :=
  (drawBoxes recording originX originY boxes #[]).toList

/-- The warning about a colour that cannot be read. -/
def colourLog (what : String) (property : Option String) : List Record :=
  match property with
  | none => []
  | some value =>
    if (Colour.parse? value).isSome then []
    else [.warn ("skipping " ++ what ++ " " ++ Text.quoted value ++ ": not a 6-digit hex colour")]

/-- What the log holds about drawing the boxes of a list. -/
def boxesLog (boxes : List Box) : List Record :=
  (boxes.filter Box.drawn).flatMap fun box =>
    colourLog "text colour" box.properties.textColour ++
      colourLog "draw colour" box.properties.drawColour ++
      colourLog "fill colour" box.properties.fillColour

end Folio
