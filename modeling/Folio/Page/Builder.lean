import Folio.Draw.Command
import Folio.Number.Notation
import Folio.Page.Font
import Folio.Page.Latin

/-!
# Building pages

The canvas that makes pages. Commands speak of points from the top left corner of one endless page;
a `Builder` cuts it into pages of a fixed height. A cell that would cross the bottom margin starts a
new page at its own place, unless it stands at the top margin already, and a cell above the page is
drawn at the top margin. What a cell draws is one group of operations: its filling, the lines of
its sides, and its text.
-/

namespace Folio

/-- The paper: its size, its margins and the title of the document. -/
structure Paper where
  title : String
  width : Float32
  height : Float32
  marginLeft : Float32
  marginTop : Float32
  marginBottom : Float32

/-- A point of a page, counted from the bottom left corner. -/
structure Point where
  x : Float32
  y : Float32
  deriving DecidableEq

/-- An operation on a page. -/
inductive PageOp where
  | fillColour (colour : Colour)
  | lineColour (colour : Colour)
  | lineThickness (thickness : Float32)
  | fillPolygon (corners : List Point)
  | strokeLine (start stop : Point)
  | startText
  | textCursor (point : Point)
  | textFont (font : StandardFont) (size : Float32)
  | showText (bytes : List UInt8)
  | endText
  deriving DecidableEq

/-- The gap between the side of a cell and its text. -/
def textGap : Float32 := 2.83

/-- The width of a glyph as a part of the font size. -/
def glyphRatio : Float32 := 0.5

/-- The thickness of the lines of a border. -/
def lineThickness : Float32 := 0.57

/-- Pages in the making: those that are finished, the operations of the current one, the cursor, and
the styles that the next cell is drawn in. `pageOrigin` is the place where the page begins on the
endless page. -/
structure Builder where
  paper : Paper
  finished : List (List PageOp)
  current : Array PageOp
  pageOrigin : Float32
  x : Float32
  y : Float32
  textColour : Colour
  drawColour : Colour
  fillColour : Colour
  font : StandardFont
  fontSize : Float32

namespace Builder

/-- An empty page with the cursor in its corner. -/
def start (paper : Paper) : Builder where
  paper := paper
  finished := []
  current := #[]
  pageOrigin := 0
  x := paper.marginLeft
  y := paper.marginTop
  textColour := .black
  drawColour := .black
  fillColour := .white
  font := .initial
  fontSize := 12

/-- The number of pages with the current one. -/
def numPages (b : Builder) : Nat :=
  b.finished.length + 1

/-- All pages with the current one. -/
def pages (b : Builder) : List (List PageOp) :=
  b.finished ++ [b.current.toList]

/-! ## Where a cell stands -/

/-- The place of the cursor below the top of the page. -/
def cursorTop (b : Builder) : Float32 :=
  b.y - b.pageOrigin

/-- Whether a cell of a height at the cursor starts a new page. -/
def overflows (b : Builder) (height : Float32) : Bool :=
  b.paper.height - b.paper.marginBottom < b.cursorTop + height && b.paper.marginTop < b.cursorTop

/-- Finishes the current page; the next begins so that the cursor stands at the top margin. -/
def turnPage (b : Builder) : Builder :=
  { b with
    finished := b.finished ++ [b.current.toList]
    current := #[]
    pageOrigin := b.y - b.paper.marginTop }

/-- Makes room for a cell of a height. -/
def withRoom (b : Builder) (height : Float32) : Builder :=
  if b.overflows height then b.turnPage else b

/-- The place of a cell below the top of the page, not above the top margin. -/
def cellTop (b : Builder) : Float32 :=
  if b.cursorTop < b.paper.marginTop then b.paper.marginTop else b.cursorTop

/-! ## What a cell draws -/

/-- The point at a place below the top of the page. -/
def pointAt (b : Builder) (x top : Float32) : Point :=
  ⟨x, b.paper.height - top⟩

/-- The filled area of a cell. -/
def fillOps (b : Builder) (top : Float32) (cell : Cell) : List PageOp :=
  let right := b.x + cell.width
  let bottom := top + cell.height
  [.fillColour b.fillColour,
   .fillPolygon [b.pointAt b.x bottom, b.pointAt right bottom, b.pointAt right top,
     b.pointAt b.x top]]

/-- The line along a side of a cell. -/
def sideOp (b : Builder) (top : Float32) (cell : Cell) (side : Side) : PageOp :=
  let right := b.x + cell.width
  let bottom := top + cell.height
  match side with
  | .left => .strokeLine (b.pointAt b.x bottom) (b.pointAt b.x top)
  | .top => .strokeLine (b.pointAt b.x top) (b.pointAt right top)
  | .right => .strokeLine (b.pointAt right top) (b.pointAt right bottom)
  | .bottom => .strokeLine (b.pointAt b.x bottom) (b.pointAt right bottom)

/-- The lines along the sides of a cell. -/
def borderOps (b : Builder) (top : Float32) (cell : Cell) : List PageOp :=
  if cell.border.isEmpty then []
  else .lineColour b.drawColour :: .lineThickness lineThickness ::
    cell.border.toList.map (b.sideOp top cell)

/-- The width of a text, taken as so many glyphs of one width. -/
def textWidth (b : Builder) (text : String) : Float32 :=
  Number.singleOfNat text.toList.length * b.fontSize * glyphRatio

/-- Where the text of a cell begins. -/
def textStart (b : Builder) (cell : Cell) : Float32 :=
  match cell.align with
  | some .right => b.x + cell.width - textGap - b.textWidth cell.text
  | some .center => b.x + (cell.width - b.textWidth cell.text) / 2
  | _ => b.x + textGap

/-- The text of a cell. -/
def textOps (b : Builder) (top : Float32) (cell : Cell) : List PageOp :=
  if cell.text.isEmpty then []
  else
    [.startText,
     .textCursor (b.pointAt (b.textStart cell) (top + cell.height / 2 + 0.3 * b.fontSize)),
     .textFont b.font b.fontSize,
     .fillColour b.textColour,
     .showText (Latin.bytes cell.text),
     .endText]

/-- All that a cell draws, on the page that has room for it. -/
def cellOps (b : Builder) (cell : Cell) : List PageOp :=
  let top := b.cellTop
  (if cell.fill then b.fillOps top cell else []) ++ b.borderOps top cell ++ b.textOps top cell

/-- Draws a cell at the cursor. -/
def drawCell (b : Builder) (cell : Cell) : Builder :=
  let b := b.withRoom cell.height
  { b with current := b.current ++ b.cellOps cell }

/-- Sets the font; a size that is not positive leaves the size as it was. -/
def withFont (b : Builder) (family flags : String) (size : Float32) : Builder :=
  { b with
    font := .ofFamily family flags
    fontSize := if 0 < size then size else b.fontSize }

/-- Pages as a canvas. -/
def canvas : Canvas Builder where
  setTextColour colour b := { b with textColour := colour }
  setDrawColour colour b := { b with drawColour := colour }
  setFillColour colour b := { b with fillColour := colour }
  setFont family flags size b := b.withFont family flags size
  moveTo x y b := { b with x := x, y := y }
  cell cell b := b.drawCell cell
  newLine height b := { b with x := b.paper.marginLeft, y := b.y + height }
  advance width b := { b with x := b.x + width }

/-! ## The log -/

/-- What the log holds about a cell. -/
def cellLog (b : Builder) (cell : Cell) : List Record :=
  let roomy := b.withRoom cell.height
  (if b.overflows cell.height then
    [.debug ("page " ++ toString roomy.numPages ++ " starts at y " ++
      Number.plainText roomy.pageOrigin)]
   else []) ++
    (if roomy.cursorTop < roomy.paper.marginTop then
      [.debug ("cell at y " ++ Number.plainText roomy.y ++ " is above page " ++
        toString roomy.numPages ++ ", pinned to the top margin")]
     else [])

/-- What the log holds about one command. -/
def commandLog (b : Builder) : Command → List Record
  | .setFont family _ _ => StandardFont.familyLog family
  | .cell cell => b.cellLog cell
  | _ => []

/-- What the log holds about commands. -/
def commandsLog (b : Builder) : List Command → List Record
  | [] => []
  | command :: rest => b.commandLog command ++ (canvas.perform b command).commandsLog rest

end Builder

end Folio
