import Folio.Number.Shortest

/-!
# Number notation

The digits of a number are one question and their layout is another. This module lays out the
shortest digits: a `Layout` says which exponents are written in plain form, what marks a whole
number, and which way a tie between two shortest decimals goes. The library writes three notations:
plain text for messages and page content, and the two of JSON texts, for 32-bit and for 64-bit
numbers.
-/

namespace Folio.Number

/-- The layout of a decimal number. -/
structure Layout where
  /-- Whether a number whose first digit stands at this power of ten is written in plain form. -/
  plain : Int → Bool
  /-- What follows a whole number in plain form. -/
  wholeMark : List Char
  tie : Tie

/-- Plain text: never an exponent, and nothing after a whole number. -/
def Layout.message : Layout := ⟨fun _ => true, [], .awayFromZero⟩

/-- 32-bit numbers in a JSON text are plain from a millionth up to twelve zeros. -/
def Layout.jsonSingle : Layout := ⟨fun e => -6 ≤ e && e ≤ 12, ['.', '0'], .toEven⟩

/-- 64-bit numbers in a JSON text are plain from a hundred-thousandth up to fifteen zeros. -/
def Layout.jsonDouble : Layout := ⟨fun e => -5 ≤ e && e ≤ 15, ['.', '0'], .toEven⟩

/-- The digits of a number without the zeros at its end, and how many those were. -/
def withoutTrailingZeros (n : Nat) : List Char × Nat :=
  let digits := Nat.toDigits 10 n
  let kept := (digits.reverse.dropWhile (· == '0')).reverse
  (kept, digits.length - kept.length)

/-- The signed exponent after the digits; a positive one has its sign written. -/
def exponentMark (e : Int) : List Char :=
  'e' :: (if e < 0 then '-' else '+') :: Nat.toDigits 10 e.natAbs

/-- A digit string that stands for a number with its first digit at a power of ten. -/
def Layout.digits (l : Layout) (digits : List Char) (first : Int) : List Char :=
  if l.plain first then
    if first < 0 then
      '0' :: '.' :: List.replicate (-first - 1).toNat '0' ++ digits
    else
      let whole := first.toNat + 1
      if digits.length ≤ whole then
        digits ++ List.replicate (whole - digits.length) '0' ++ l.wholeMark
      else digits.take whole ++ '.' :: digits.drop whole
  else
    match digits with
    | [] => []
    | [d] => d :: exponentMark first
    | d :: others => d :: '.' :: others ++ exponentMark first

/-- A finite number of a format, by its sign and magnitude. -/
def Layout.finite (l : Layout) (f : Format) (negative : Bool) (magnitude : Nat) : List Char :=
  let sign := if negative then ['-'] else []
  if magnitude = 0 then sign ++ l.digits ['0'] 0
  else
    let decimal := f.shortest l.tie magnitude
    let (digits, dropped) := withoutTrailingZeros decimal.digits
    sign ++ l.digits digits (decimal.exponent + dropped + digits.length - 1)

/-- A finite 32-bit number. -/
def Layout.single (l : Layout) (x : Float32) : List Char :=
  l.finite .binary32 (singleNegative x) (singleMagnitude x)

/-- A finite 64-bit number. -/
def Layout.double (l : Layout) (x : Float) : List Char :=
  l.finite .binary64 (doubleNegative x) (doubleMagnitude x)

/-- A number as messages and page content write it. -/
def plainText (x : Float32) : String :=
  if x.isNaN then "NaN"
  else if x.isFinite then String.ofList (Layout.message.single x)
  else if singleNegative x then "-inf" else "inf"

example : plainText (-4.7199707) = "-4.7199707" := by decide +kernel
example : plainText 1e-7 = "0.0000001" := by decide +kernel
example : String.ofList (Layout.jsonSingle.single 1e13) = "1e+13" := by decide +kernel
example : String.ofList (Layout.jsonSingle.single (-0.0)) = "-0.0" := by decide +kernel
example : String.ofList (Layout.jsonDouble.double 1e-5) = "0.00001" := by decide +kernel

end Folio.Number
