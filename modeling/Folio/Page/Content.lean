import Folio.Page.Builder

/-!
# Page content

The operations of a page as the lines of its content: operands first, then the operator. Numbers are
plain text, and a text with a byte that could be misread is written in base sixteen.
-/

namespace Folio

/-- Words with blanks between them. -/
def spaced (words : List String) : String :=
  " ".intercalate words

/-- The operands of a colour. -/
def Colour.operands (colour : Colour) : List String :=
  [colour.red, colour.green, colour.blue].map fun part => Number.plainText (unit part)

/-- A point and the operator that uses it. -/
def Point.line (point : Point) (operator : String) : String :=
  spaced [Number.plainText point.x, Number.plainText point.y, operator]

/-- Whether a byte can stand for itself in a text between parentheses. -/
def isPlainByte (byte : UInt8) : Bool :=
  32 ≤ byte && byte ≤ 126 && !("()\\%".toList.map fun c => UInt8.ofNat c.toNat).contains byte

/-- A byte by two digits in upper case. -/
def hexByte (byte : UInt8) : List Char :=
  (Text.hexPadded 2 byte.toNat).map Char.toUpper

/-- The operand of a text. -/
def textOperand (bytes : List UInt8) : String :=
  if bytes.all isPlainByte then
    String.ofList ('(' :: bytes.map (fun byte => Char.ofNat byte.toNat) ++ [')'])
  else String.ofList ('<' :: bytes.flatMap hexByte ++ ['>'])

/-- The lines of a polygon through its corners. -/
def polygonLines : List Point → List String
  | [] => []
  | first :: others => first.line "m" :: others.map (·.line "l")

/-- The lines of an operation. -/
def PageOp.lines : PageOp → List String
  | .fillColour colour => [spaced (colour.operands ++ ["rg"])]
  | .lineColour colour => [spaced (colour.operands ++ ["RG"])]
  | .lineThickness thickness => [spaced [Number.plainText thickness, "w"]]
  | .fillPolygon corners => polygonLines corners ++ ["h", "f"]
  | .strokeLine start stop => [start.line "m", stop.line "l", "S"]
  | .startText => ["BT"]
  | .textCursor point => [point.line "Td"]
  | .textFont font size => [spaced ["/" ++ font.key, Number.plainText size, "Tf"]]
  | .showText bytes => [spaced [textOperand bytes, "Tj"]]
  | .endText => ["ET"]

/-- The lines of a page. -/
def contentLines (page : List PageOp) : List String :=
  page.flatMap PageOp.lines

/-- The fonts that the text of a page uses. -/
def fontsOf (page : List PageOp) : List StandardFont :=
  page.filterMap fun op => match op with
    | .textFont font _ => some font
    | _ => none

/-- The pages of a document with the title and the size of the paper. -/
structure PageSet where
  title : String
  width : Float32
  height : Float32
  pages : List (List PageOp)

/-- What a builder has made. -/
def Builder.pageSet (b : Builder) : PageSet :=
  ⟨b.paper.title, b.paper.width, b.paper.height, b.pages⟩

/-- The fonts of all pages, each once. -/
def PageSet.fonts (set : PageSet) : List StandardFont :=
  (set.pages.flatMap fontsOf).eraseDups

/-- Millimetres in a point. -/
def millimetresPerPoint : Float32 := 0.352778

/-- Points in a millimetre. -/
def pointsPerMillimetre : Float32 := 2.834646

/-- A size of the paper in whole points, measured by way of millimetres. -/
def paperSize (points : Float32) : Int :=
  Number.roundToInt64 (points * millimetresPerPoint * pointsPerMillimetre)

end Folio
