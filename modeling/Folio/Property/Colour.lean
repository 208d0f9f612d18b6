import Folio.Number.Binary
import Folio.Text.Blank
import Folio.Text.Hex

/-!
# Colours

A colour is written as six hexadecimal digits; whatever stands before the last six characters of
the text is read over.
-/

namespace Folio

/-- A colour by its red, green and blue parts. -/
structure Colour where
  red : UInt8
  green : UInt8
  blue : UInt8
  deriving DecidableEq, Repr

namespace Colour

/-- White. -/
def white : Colour := ⟨255, 255, 255⟩

/-- Black. -/
def black : Colour := ⟨0, 0, 0⟩

/-- The part that two digits stand for. -/
def channel? (high low : Char) : Option UInt8 := do
  return UInt8.ofNat (16 * (← Text.hexValue? high) + (← Text.hexValue? low))

/-- Reads the last six characters of a text as a colour. -/
def parse? (text : String) : Option Colour :=
  let chars := Text.trimBlanks text.toList
  match chars.drop (chars.length - 6) with
  | [r, r', g, g', b, b'] => do
    return ⟨← channel? r r', ← channel? g g', ← channel? b b'⟩
  | _ => none

/-- A part on the scale from nought to one. -/
def unit (part : UInt8) : Float32 :=
  Number.singleOfNat part.toNat / 255

end Colour

end Folio
