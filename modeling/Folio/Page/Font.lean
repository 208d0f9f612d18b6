import Folio.Log
import Folio.Text.Case
import Folio.Text.Quoted

/-!
# Standard fonts

Pages use twelve of the fonts that every reader of pages has: three faces, each upright or slanted
and in two weights. A family that is not among the known ones is set in Helvetica.
-/

namespace Folio

/-- A face of the standard fonts. -/
inductive Face where
  | times
  | helvetica
  | courier
  deriving DecidableEq, Repr

/-- A standard font. -/
structure StandardFont where
  face : Face
  bold : Bool
  italic : Bool
  deriving DecidableEq, Repr

namespace StandardFont

/-- The font that a page starts with. -/
def initial : StandardFont := ⟨.helvetica, false, false⟩

/-- The name of a font on a page. -/
def key (font : StandardFont) : String :=
  match font.face, font.bold, font.italic with
  | .times, false, false => "F1"
  | .times, true, false => "F2"
  | .times, false, true => "F3"
  | .times, true, true => "F4"
  | .helvetica, false, false => "F5"
  | .helvetica, true, false => "F6"
  | .helvetica, false, true => "F7"
  | .helvetica, true, true => "F8"
  | .courier, false, false => "F9"
  | .courier, false, true => "F10"
  | .courier, true, false => "F11"
  | .courier, true, true => "F12"

/-- The full name of a font. -/
def name (font : StandardFont) : String :=
  match font.face, font.bold, font.italic with
  | .times, false, false => "Times-Roman"
  | .times, true, false => "Times-Bold"
  | .times, false, true => "Times-Italic"
  | .times, true, true => "Times-BoldItalic"
  | .helvetica, false, false => "Helvetica"
  | .helvetica, true, false => "Helvetica-Bold"
  | .helvetica, false, true => "Helvetica-Oblique"
  | .helvetica, true, true => "Helvetica-BoldOblique"
  | .courier, false, false => "Courier"
  | .courier, false, true => "Courier-Oblique"
  | .courier, true, false => "Courier-Bold"
  | .courier, true, true => "Courier-BoldOblique"

/-- The face of a family in lower case, if it is known. -/
def face? (family : String) : Option Face :=
  if family ∈ ["courier", "courier new", "monospace"] then some .courier
  else if family ∈ ["times", "times new roman", "serif"] then some .times
  else if family ∈ ["arial", "helvetica", "sans-serif"] then some .helvetica
  else none

/-- The font of a family name and the letters of its flags. -/
def ofFamily (family flags : String) : StandardFont where
  face := (face? (Text.lower family)).getD .helvetica
  bold := flags.toList.contains 'B'
  italic := flags.toList.contains 'I'

/-- The warning about a family that is not known. -/
def familyLog (family : String) : List Record :=
  let folded := Text.lower family
  if (face? folded).isSome then []
  else [.warn ("font family " ++ Text.quoted folded ++ " not available, using Helvetica")]

end StandardFont

end Folio
