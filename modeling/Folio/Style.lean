import Folio.Attributes
import Folio.Text.Blank
import Folio.Text.Case

/-!
# Styles

The style of one element: for every attribute a value and where it came from. What a rule declares
itself outweighs what a directive gives it, and both outweigh the defaults, which `completed` fills
in. Names are folded (trimmed and in lower case) when they are set, so that a style never holds two
spellings of one attribute.
-/

namespace Folio

/-- Where a style value came from. -/
inductive Origin where
  /-- Written on the rule itself. -/
  | declared
  /-- Given by a directive of the level. -/
  | directive
  /-- Filled in. -/
  | default
  deriving DecidableEq, Repr

/-- Whether somebody wrote the value: on the rule or on a directive. -/
def Origin.isWritten : Origin → Bool
  | .declared => true
  | .directive => true
  | .default => false

/-- The value of an attribute with its origin. -/
structure StyleValue where
  text : String
  origin : Origin
  deriving DecidableEq, Repr

/-- The style of an element. -/
abbrev Style := Attributes StyleValue

/-- The one spelling of an attribute name. -/
def foldName (name : String) : String :=
  Text.lower (Text.trim name)

namespace Style

/-- The values that every element has unless something more specific sets them. -/
def defaults : List (String × String) :=
  [("position", "relative"), ("left", "0pt"), ("top", "0pt"), ("width", "100%"),
   ("background-color", "#ffffff"), ("color", "#000000"), ("font-family", "Arial"),
   ("font-size", "10pt"), ("font-style", "normal"), ("font-weight", "normal"),
   ("border", "none"), ("text-align", "left"), ("line-height", "5pt")]

/-- The value of an attribute. -/
def text? (style : Style) (name : String) : Option String :=
  (style.get? name).map StyleValue.text

/-- The origin of an attribute. -/
def originOf? (style : Style) (name : String) : Option Origin :=
  (style.get? name).map StyleValue.origin

/-- Whether an attribute was declared or given by a directive. -/
def hasWritten (style : Style) (name : String) : Bool :=
  ((style.originOf? name).map Origin.isWritten).getD false

/-- Sets a declared value; an attribute without a name is passed over. -/
def declare (style : Style) (name text : String) : Style :=
  if foldName name = "" then style
  else style.insert (foldName name) ⟨Text.trim text, .declared⟩

/-- Whether a name is written in lower case. -/
def isFolded (name : String) : Bool :=
  Text.trim name == foldName name

/-- The style of what a rule declares. Of several spellings of a name one in lower case counts, and
of equals the last in the order of the names. -/
def ofDeclarations (declarations : Attributes String) : Style :=
  let folded := declarations.entries.filter fun (name, _) => isFolded name
  let others := declarations.entries.filter fun (name, _) => !isFolded name
  (others ++ folded).foldl (fun style (name, text) => style.declare name text) ∅

/-- Fills in the defaults of the attributes that have no value. -/
def completed (style : Style) : Style :=
  defaults.foldl
    (fun style (name, text) =>
      if style.contains name then style else style.insert name ⟨text, .default⟩)
    style

/-- Takes one value over from a directive, unless it is a default there or written here. -/
def adopt (style : Style) (name : String) (value : StyleValue) : Style :=
  if !value.origin.isWritten || style.hasWritten name then style
  else style.insert name ⟨value.text, .directive⟩

/-- Takes the written values of a directive over where there are none yet. -/
def merged (style directive : Style) : Style :=
  (directive.entries.foldl (fun style (name, value) => style.adopt name value) style).completed

end Style

end Folio
