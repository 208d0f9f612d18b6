import Folio.Property.Basic
import Folio.Element
import Folio.Property.Length

/-!
# Keywords

The attributes that have a rendering property, and what a declaration of each does to the
properties of an element. `Keyword.order` is the order in which the declarations of an element
count: a shorthand before what refines it, and the height of a line before the height of the box,
so that the more specific declaration has the last word.

Values are given trimmed and in lower case. Two keywords look at the elements above when their value
is none of their own words: they inherit.
-/

namespace Folio

/-- The attributes with a rendering property. -/
inductive Keyword where
  | textAlign
  | border
  | borderColour
  | borderSide (side : Side)
  | borderSideColour (side : Side)
  | borderSideWidth (side : Side)
  | backgroundColour
  | fontFamily
  | fontSize
  | fontStyle
  | fontWeight
  | colour
  | width
  | lineHeight
  | height
  | left
  | top
  | display
  deriving DecidableEq, Repr

namespace Keyword

/-- The attribute name of a keyword. -/
def name : Keyword → String
  | textAlign => "text-align"
  | border => "border"
  | borderColour => "border-color"
  | borderSide side => "border-" ++ side.name
  | borderSideColour side => "border-" ++ side.name ++ "-color"
  | borderSideWidth side => "border-" ++ side.name ++ "-width"
  | backgroundColour => "background-color"
  | fontFamily => "font-family"
  | fontSize => "font-size"
  | fontStyle => "font-style"
  | fontWeight => "font-weight"
  | colour => "color"
  | width => "width"
  | lineHeight => "line-height"
  | height => "height"
  | left => "left"
  | top => "top"
  | display => "display"

/-- The sides in the order in which their declarations count. -/
def sides : List Side := [.top, .right, .bottom, .left]

/-- All keywords, in the order in which their declarations count. -/
def order : List Keyword :=
  [textAlign, border, borderColour] ++ sides.map borderSide ++ sides.map borderSideColour ++
    sides.map borderSideWidth ++
    [backgroundColour, fontFamily, fontSize, fontStyle, fontWeight, colour, width, lineHeight,
      height, left, top, display]

/-- The keyword with a name. -/
def ofName? (name : String) : Option Keyword :=
  order.find? (·.name == name)

end Keyword

/-- The styles that the declarations of an element can look at: its own, and those above it from
the nearest on. -/
structure StyleContext where
  own : Style
  above : List Style

/-! ## Inheritance -/

/-- How a keyword that can inherit takes a value. -/
inductive Inheritable (α : Type) where
  | value (a : α)
  | initial
  | inherit

/-- The first value among candidates, nearest first; an initial one ends the search. -/
def inherited? {α : Type} (classify : String → Inheritable α) : List String → Option α
  | [] => none
  | candidate :: others =>
    match classify (Text.lower candidate) with
    | .value a => some a
    | .initial => none
    | .inherit => inherited? classify others

/-- How an alignment is written. -/
def alignWord (value : String) : Inheritable Align :=
  if value = "left" then .value .left
  else if value = "right" then .value .right
  else if value = "center" then .value .center
  else if value = "justify" then .value .justify
  else if value = "initial" then .initial
  else .inherit

/-- How a slant is written. -/
def slantWord (value : String) : Inheritable Bool :=
  if value = "italic" ∨ value = "oblique" then .value true
  else if value = "normal" then .value false
  else if value = "initial" then .initial
  else .inherit

/-! ## Declarations -/

/-- The colour of a border shorthand: its third word, or the second of two if it looks like a
colour. -/
def borderColour? (value : String) : Option String :=
  match Text.words value with
  | [_, second] => if second.toList.head? = some '#' then some second else none
  | _ :: _ :: third :: _ => some third
  | _ => none

/-- Whether a border width is there: a length other than zero. -/
def isBorderWidth (value : String) : Bool :=
  match Length.parse? value with
  | some length => !(length.value == 0)
  | none => false

/-- Whether a font weight is bold: the word, or a number above 600. -/
def isBoldWeight (value : String) : Bool :=
  if value = "bold" then true
  else match Number.readSingle value.toList with
    | some weight => 600 < weight
    | none => false

/-- Whether an element is placed absolutely. -/
def isAbsolute (own : Style) : Bool :=
  match own.text? "position" with
  | some position => Text.lower position == "absolute"
  | none => false

/-- What an element adds to a coordinate: its own literal value if it is placed absolutely, which
must be a length; else the lengths that were written above it. -/
def offset? (context : StyleContext) (name value : String) : Option Offset :=
  if isAbsolute context.own then (Length.parse? value).map fun length => .absolute length.value
  else
    let lengths := (writtenAbove context.above name).filterMap fun style =>
      (style.text? name).bind Length.parse?
    some (.deferred (lengths.map Length.fraction))

/-- Changes the font. -/
def Properties.withFont (p : Properties) (change : Font → Font) : Properties :=
  { p with font := some (change p.currentFont) }

/-- Puts a side into the border or takes it out. -/
def Properties.withSide (p : Properties) (side : Side) (inside : Bool) : Properties :=
  { p with border := some (p.currentBorder.set side inside) }

/-- The colour that stands in for a line colour where a side has no line. -/
def noLineColour : String := "#ffffff"

/-- What a declaration does to the properties of an element. -/
def Keyword.apply (context : StyleContext) (value : String) (p : Properties) :
    Keyword → Properties
  | .textAlign =>
    match alignWord value with
    | .value align => { p with align := some align }
    | .initial => p
    | .inherit =>
      let inherited := inherited? alignWord (inheritedValues context.above "text-align")
      { p with align := some (inherited.getD .justify) }
  | .border =>
    if value = "none" then { p with border := some .none }
    else
      match borderColour? value with
      | some word => { p with drawColour := some word, border := some .all }
      | none => { p with border := some .all }
  | .borderColour => { p with drawColour := some value }
  | .borderSide side =>
    if value = "none" then
      { p.withSide side false with drawColour := some (foldName (p.drawColour.getD noLineColour)) }
    else
      let p := { p with border := some p.currentBorder }
      let p := match borderColour? value with
        | some word => { p with drawColour := some word }
        | none => p
      match Text.words value with
      | first :: _ => p.withSide side (isBorderWidth first)
      | [] => p
  | .borderSideColour _ => { p with drawColour := some value }
  | .borderSideWidth side => p.withSide side (isBorderWidth value)
  | .backgroundColour => { p with fillColour := some value }
  | .fontFamily => p.withFont fun font => { font with family := value }
  | .fontSize =>
    p.withFont fun font =>
      match Length.parse? value with
      | some size => { font with size := size.value }
      | none => font
  | .fontStyle =>
    let italic := match slantWord value with
      | .value italic => some italic
      | .initial => some false
      | .inherit => inherited? slantWord (inheritedValues context.above "font-style")
    p.withFont fun font => { font with italic := italic.getD font.italic }
  | .fontWeight => p.withFont fun font => { font with bold := isBoldWeight value }
  | .colour => { p with textColour := some value }
  | .width =>
    match Length.parse? value with
    | some length => { p with width := some length.fraction }
    | none => p
  | .lineHeight | .height =>
    match Length.parse? value with
    | some length => { p with height := some length.value }
    | none => p
  | .left =>
    match offset? context "left" value with
    | some offset => { p with x := some offset }
    | none => p
  | .top =>
    match offset? context "top" value with
    | some offset => { p with y := some offset }
    | none => p
  | .display => { p with lineBreak := some (value == "block") }

/-- Adds a declaration as it is written; none when its name is no keyword. -/
def Properties.declare? (context : StyleContext) (name value : String) (p : Properties) :
    Option Properties :=
  (Keyword.ofName? (foldName name)).map fun keyword => keyword.apply context (foldName value) p

/-- The properties that the style of an element comes to. -/
def propertiesOf (context : StyleContext) : Properties :=
  Keyword.order.foldl
    (fun p keyword =>
      match context.own.text? keyword.name with
      | some value => keyword.apply context (Text.lower value) p
      | none => p)
    .empty

end Folio
