import Folio.Item
import Folio.Number.Notation

/-!
# Layout

Every item gets a box: an offset from the corner of the content area and a size. Two models run at
once. Coordinates add up: what a node adds, and what every node above it adds. Inline siblings flow:
they stand side by side from the place of the node above, until a sibling that breaks the line ends
the row. Down the page, a box stands on the line that its row has reached, unless it or a node above
it is placed absolutely; a line break moves the line down by the tallest box of the row.

`place` runs over a level with the line as its state; boxes come in pre-order.
-/

namespace Folio

/-- The height of a box whose item has none. -/
def defaultHeight : Float32 := 5

/-- An item with its place and size. -/
structure Box where
  item : Numbered Item
  x : Float32
  y : Float32
  width : Float32
  height : Float32

/-- The properties of the item of a box. -/
def Box.properties (box : Box) : Properties :=
  box.item.value.properties

/-- Whether a property asks for a line break. -/
def Properties.breaksLine (p : Properties) : Bool :=
  p.lineBreak == some true

/-- Whether an item with these properties flows along a row. -/
def Properties.flowsInline (p : Properties) : Bool :=
  !p.isEmpty && p.lineBreak == some false

/-- Whether a line break follows a box. -/
def Box.breaksLine (box : Box) : Bool :=
  box.properties.breaksLine

/-- Whether a box is drawn: one without any property is not. -/
def Box.drawn (box : Box) : Bool :=
  !box.properties.isEmpty

/-- The line that boxes stand on, and the height of its row so far. -/
structure Line where
  top : Float32 := 0
  rowHeight : Float32 := 0

/-- The row grows to hold a box. -/
def Line.extend (line : Line) (height : Float32) : Line :=
  { line with rowHeight := Number.greater line.rowHeight height }

/-- The next row begins below this one. -/
def Line.break (line : Line) : Line :=
  ⟨line.top + line.rowHeight, 0⟩

/-! ## Geometry of one node -/

/-- What an offset adds to a coordinate; nothing if it is absent. -/
def contribution (contentWidth : Float32) (offset : Option Offset) : Float32 :=
  match offset with
  | some offset => offset.amount contentWidth
  | none => 0

/-- The sum of numbers from left to right; the sum of none is the negative zero. -/
def sum (values : List Float32) : Float32 :=
  values.foldl (· + ·) (-0.0)

/-- A coordinate: what the node adds and what all nodes above it add. -/
def accumulated (contentWidth : Float32) (pick : Properties → Option Offset) (own : Properties)
    (above : List Properties) : Float32 :=
  contribution contentWidth (pick own) +
    sum (above.map fun p => contribution contentWidth (pick p))

/-- The width of a node in a basis: a part of it up to one, and literal beyond. -/
def widthIn (basis : Float32) (width : Option Float32) : Float32 :=
  match width with
  | some width => if width ≤ 1 then basis * width else width
  | none => basis

/-- The width of a node, from the content area down through the nodes above it. -/
def nestedWidth (contentWidth : Float32) (own : Properties) (above : List Properties) : Float32 :=
  (above.reverse ++ [own]).foldl (fun basis p => widthIn basis p.width) contentWidth

/-- Whether properties place a node absolutely down the page. -/
def Properties.anchors (p : Properties) : Bool :=
  match p.y with
  | some offset => offset.isAbsolute
  | none => false

/-- The box of a node below others, where its row has reached `runningX`. -/
def boxOf (contentWidth : Float32) (above : List Properties) (runningX : Float32) (line : Line)
    (item : Numbered Item) : Box :=
  let p := item.value.properties
  let y := accumulated contentWidth Properties.y p above
  { item := item
    x := if p.flowsInline then runningX else accumulated contentWidth Properties.x p above
    y := if (p :: above).any Properties.anchors then y else line.top + y
    width := nestedWidth contentWidth p above
    height := p.height.getD defaultHeight }

/-- The line behind a box. A drawn box grows the row unless it is out of the flow, and a drawn box
that breaks the line ends the row. -/
def Box.lineAfter (box : Box) (anchored : Bool) (line : Line) : Line :=
  let grown := if box.drawn && !anchored then line.extend box.height else line
  if box.drawn && box.breaksLine then grown.break else grown

/-- Where the row goes on behind a box, in a row that starts at `baseX`. -/
def Box.runningAfter (box : Box) (baseX runningX : Float32) : Float32 :=
  if box.drawn && box.breaksLine then baseX
  else if box.properties.flowsInline then runningX + box.width
  else runningX

/-! ## Levels -/

/-- The boxes of a level and of what is below it, in pre-order, and the line behind them. The level
lies below items with the given properties, and its row starts at `baseX` and has reached
`runningX`. -/
def place (contentWidth : Float32) (above : List Properties) (baseX runningX : Float32)
    (line : Line) : Items → List Box × Line
  | .nil => ([], line)
  | .cons item below rest =>
    let p := item.value.properties
    let box := boxOf contentWidth above runningX line item
    let line := box.lineAfter ((p :: above).any Properties.anchors) line
    let inner := place contentWidth (p :: above) box.x box.x line below
    let outer := place contentWidth above baseX (box.runningAfter baseX runningX) inner.2 rest
    (box :: inner.1 ++ outer.1, outer.2)

/-- Whether boxes can be laid out in an area of a width. -/
def isContentWidth (width : Float32) : Bool :=
  width.isFinite && 0 < width

/-- The boxes of a document in an area of a width, and the line behind them. -/
def placeAll (contentWidth : Float32) (tree : Items) : List Box × Line :=
  place contentWidth [] 0 0 {} tree

/-- The boxes of a document in an area of a width; none if nothing can be laid out there. -/
def layout? (contentWidth : Float32) (tree : Items) : Option (List Box) :=
  if isContentWidth contentWidth then some (placeAll contentWidth tree).1 else none

/-! ## The log -/

/-- What the log holds about a box. -/
def Box.placeLog (box : Box) : Record :=
  .trace ("place LayoutNodeId(" ++ toString box.item.id ++ ") (" ++
    box.item.value.element.name.getD "-" ++ ") at (" ++ Number.plainText box.x ++ ", " ++
    Number.plainText box.y ++ ") width " ++ Number.plainText box.width)

/-- What the log holds about laying out a document. -/
def layoutLog (contentWidth : Float32) (tree : Items) : List Record :=
  if isContentWidth contentWidth then
    let (boxes, line) := placeAll contentWidth tree
    boxes.map Box.placeLog ++
      [.debug ("box tree: " ++ toString boxes.length ++ " box(es), content width " ++
        Number.plainText contentWidth ++ ", last line at " ++ Number.plainText line.top)]
  else []

end Folio
