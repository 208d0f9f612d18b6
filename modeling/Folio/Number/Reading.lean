import Folio.Number.Binary

/-!
# Decimal numerals

Style values hold numbers as text: an optional sign, digits with an optional point among them, and
an optional exponent, or one of the words for the values that are not finite. The numeral is read
as an exact decimal and rounded once to the nearest 32-bit number.
-/

namespace Folio.Number

/-- The value of a string of digits that continues a number. -/
def digitsValue (start : Nat) (digits : List Char) : Nat :=
  digits.foldl (fun n d => 10 * n + (d.toNat - '0'.toNat)) start

/-- Takes a sign off the front; true stands for the minus sign. -/
def takeSign : List Char → Bool × List Char
  | '+' :: rest => (false, rest)
  | '-' :: rest => (true, rest)
  | rest => (false, rest)

/-- Reads what follows the digits of a numeral: nothing, or an exponent. -/
def readExponent : List Char → Option Int
  | [] => some 0
  | mark :: rest =>
    if mark = 'e' ∨ mark = 'E' then
      let (negative, digits) := takeSign rest
      if digits ≠ [] ∧ digits.all Char.isDigit then
        let size : Int := digitsValue 0 digits
        some (if negative then -size else size)
      else none
    else none

/-- Reads an unsigned numeral. Digits may be missing on one side of the point but not on both. -/
def readDecimal (text : List Char) : Option Decimal :=
  let whole := text.takeWhile Char.isDigit
  let (fraction, rest) :=
    match text.dropWhile Char.isDigit with
    | '.' :: rest => (rest.takeWhile Char.isDigit, rest.dropWhile Char.isDigit)
    | rest => ([], rest)
  if whole ++ fraction = [] then none
  else (readExponent rest).map fun exponent =>
    ⟨digitsValue 0 (whole ++ fraction), exponent - fraction.length⟩

/-- Reads one of the words for what is not a finite number, in any case of the letters. -/
def readWord (text : List Char) : Option Nat :=
  let word := String.ofList (text.map Char.toLower)
  if word = "inf" ∨ word = "infinity" then some Format.binary32.infinity
  else if word = "nan" then some (Format.binary32.infinity + 1)
  else none

/-- Reads a numeral as a 32-bit number. -/
def readSingle (text : List Char) : Option Float32 :=
  let (negative, rest) := takeSign text
  match readWord rest with
  | some magnitude => some (single negative magnitude)
  | none => (readDecimal rest).map fun x => single negative (Format.binary32.nearestDecimal x)

example : readSingle "-2.5e1".toList = some (-25.0) := by decide +kernel
example : readSingle ".5".toList = some 0.5 := by decide +kernel
example : readSingle ".".toList = none := by decide +kernel

end Folio.Number
