import Folio.Number.Reading
import Folio.Text.Blank

/-!
# Lengths

A length is a number with a unit, or a percentage. The unit is read over: all units count alike.
-/

namespace Folio

/-- A finite number, and whether a percent sign followed it. -/
structure Length where
  value : Float32
  percent : Bool
  deriving DecidableEq

/-- Whether a character is an ASCII letter, which is what units are made of. -/
def isUnitLetter (c : Char) : Bool :=
  c.isAlpha

/-- Takes one percent sign off the end. -/
def takePercent (text : List Char) : List Char × Bool :=
  if text.getLast? = some '%' then (text.dropLast, true) else (text, false)

/-- The characters of the number in front of a unit. -/
def withoutUnit (text : List Char) : List Char :=
  Text.trimBlanks (Text.dropEndWhile isUnitLetter text)

/-- Reads a length. A number that is too great for 32 bits is none. -/
def Length.parse? (text : String) : Option Length :=
  let (body, percent) := takePercent (Text.trimBlanks text.toList)
  match Number.readSingle (withoutUnit body) with
  | some value => if value.isFinite then some ⟨value, percent⟩ else none
  | none => none

/-- The number, a percentage taken as a part of one. -/
def Length.fraction (length : Length) : Float32 :=
  if length.percent then length.value / 100 else length.value

end Folio
