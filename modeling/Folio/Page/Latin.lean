/-!
# Text on pages

The standard fonts show one glyph for every byte, in the Windows arrangement of the Latin letters.
Characters below 256 keep their number, a few typographic ones have a place of their own, and the
rest are shown as a question mark.
-/

namespace Folio.Latin

/-- The typographic characters with a byte of their own; the no-break space is shown as a space. -/
def typographic : List (Char × UInt8) :=
  [('\u20AC', 0x80), ('\u2026', 0x85), ('\u2018', 0x91), ('\u2019', 0x92), ('\u201C', 0x93),
   ('\u201D', 0x94), ('\u2022', 0x95), ('\u2013', 0x96), ('\u2014', 0x97), ('\u00A0', 0x20)]

/-- The byte of a character. -/
def byte (c : Char) : UInt8 :=
  match typographic.lookup c with
  | some byte => byte
  | none => if c.toNat < 256 then UInt8.ofNat c.toNat else 0x3F

/-- The bytes of a text. -/
def bytes (text : String) : List UInt8 :=
  text.toList.map byte

end Folio.Latin
