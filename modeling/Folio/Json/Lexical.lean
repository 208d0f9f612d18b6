import Folio.Json.Fault
import Folio.Number.Reading
import Folio.Text.Hex

/-!
# The words of a JSON text

Blanks, strings, numbers and the three words. A reader takes a text and gives back what it read
with what is left of the text, which is shorter than the text: that is what the loops over a text
end by. A fault says how much of the text was left when it was found.
-/

namespace Folio.Json

-- A power of a number is the built-in one, whatever other powers are in scope.
attribute [local instance (high)] instPowNat

/-- What is left of a text after something was read from its front. -/
abbrev Rest (text : List Char) : Type :=
  { rest : List Char // rest.length < text.length }

/-- Reads a value from the front of a text. -/
abbrev Reader (α : Type) : Type :=
  (text : List Char) → Except Fault (α × Rest text)

/-- The blanks of a JSON text. -/
def isSpace (c : Char) : Bool :=
  c == ' ' || c == '\n' || c == '\t' || c == '\r'

/-- The text from its first character that is no blank. -/
def skipSpace (text : List Char) : List Char :=
  text.dropWhile isSpace

theorem length_skipSpace_le (text : List Char) : (skipSpace text).length ≤ text.length :=
  (List.dropWhile_sublist _).length_le

/-- What follows the first character that is no blank is shorter than the text. -/
theorem length_lt_of_skipSpace {text : List Char} {c : Char} {rest : List Char}
    (h : skipSpace text = c :: rest) : rest.length < text.length := by
  have := length_skipSpace_le text
  rw [h, List.length_cons] at this
  exact this

/-- Reads the given characters, which end a word whose first character was seen. -/
def readWord : (word : List Char) → (text : List Char) →
    Except Fault { rest : List Char // rest.length ≤ text.length }
  | [], text => .ok ⟨text, Nat.le_refl _⟩
  | _ :: _, [] => .error ⟨.valueUnfinished, 0⟩
  | w :: word, c :: text =>
    if c = w then
      (readWord word text).map fun ⟨rest, h⟩ => ⟨rest, Nat.le_succ_of_le h⟩
    else .error (faultAfterByte .wordExpected (c :: text))

/-! ## Strings -/

/-- Reads the four digits of an escaped code unit. Four bytes are passed before a wrong digit among
them is reported. -/
def codeUnit : Reader Nat := fun text =>
  match text with
  | a :: b :: c :: d :: rest =>
    match Text.hexNumber? [a, b, c, d] with
    | some n => .ok (n, ⟨rest, by simp; omega⟩)
    | none => .error ⟨.unknownEscape, byteLength text - 4⟩
  | _ =>
    if byteLength text < 4 then .error ⟨.stringUnfinished, 0⟩
    else .error ⟨.unknownEscape, byteLength text - 4⟩

/-- Whether a code unit is the first of a pair. -/
def isLeading (unit : Nat) : Bool :=
  0xD800 ≤ unit && unit ≤ 0xDBFF

/-- Whether a code unit is the second of a pair. -/
def isTrailing (unit : Nat) : Bool :=
  0xDC00 ≤ unit && unit ≤ 0xDFFF

/-- The character of a pair of code units. -/
def pairedChar (leading trailing : Nat) : Char :=
  Char.ofNat (0x10000 + 0x400 * (leading - 0xD800) + (trailing - 0xDC00))

/-- Reads what follows a backslash and the letter u: one code unit, or two that make a pair. -/
def unicodeEscape : Reader Char := fun text => do
  let ⟨unit, rest, h⟩ ← codeUnit text
  if isTrailing unit then
    throw (faultBefore .loneSurrogate rest)
  else if isLeading unit then
    match rest, h with
    | [], _ => throw ⟨.stringUnfinished, 0⟩
    | '\\' :: [], _ => throw ⟨.stringUnfinished, 0⟩
    | '\\' :: 'u' :: second, h => do
      let ⟨trailing, rest, h'⟩ ← codeUnit second
      if isTrailing trailing then
        return (pairedChar unit trailing, ⟨rest, by simp at h; omega⟩)
      else throw (faultBefore .loneSurrogate rest)
    | '\\' :: other, _ => throw (faultAfterByte .escapeUnfinished other)
    | other, _ => throw (faultAfterByte .escapeUnfinished other)
  else
    return (Char.ofNat unit, ⟨rest, h⟩)

/-- The character that a letter stands for behind a backslash. -/
def escapedChar? : Char → Option Char
  | '"' => some '"'
  | '\\' => some '\\'
  | '/' => some '/'
  | 'b' => some '\x08'
  | 'f' => some '\x0c'
  | 'n' => some '\n'
  | 'r' => some '\r'
  | 't' => some '\t'
  | _ => none

/-- Reads what follows a backslash. -/
def escape : Reader Char := fun text =>
  match text with
  | [] => .error ⟨.stringUnfinished, 0⟩
  | 'u' :: rest =>
    (unicodeEscape rest).map fun (c, ⟨rest, h⟩) => (c, ⟨rest, by simp; omega⟩)
  | letter :: rest =>
    match escapedChar? letter with
    | some c => .ok (c, ⟨rest, by simp⟩)
    | none => .error (faultAfterByte .unknownEscape (letter :: rest))

/-- Reads the characters of a string up to its closing quote, which is read too. -/
def stringChars (text : List Char) : Except Fault (List Char × Rest text) :=
  match text with
  | [] => .error ⟨.stringUnfinished, 0⟩
  | '"' :: rest => .ok ([], ⟨rest, by simp⟩)
  | '\\' :: rest => do
    let ⟨c, rest, _⟩ ← escape rest
    let ⟨chars, rest, _⟩ ← stringChars rest
    return (c :: chars, ⟨rest, by simp; omega⟩)
  | c :: rest =>
    if c.toNat < 0x20 then .error (faultBefore .controlCharacter rest)
    else do
      let ⟨chars, rest, _⟩ ← stringChars rest
      return (c :: chars, ⟨rest, by simp; omega⟩)
termination_by text.length
decreasing_by all_goals (simp only [List.length_cons]; omega)

/-- Reads a string whose opening quote was read. -/
def stringBody : Reader String := fun text =>
  (stringChars text).map fun (chars, rest) => (String.ofList chars, rest)

/-! ## Numbers -/

/-- The parts of a number: its digits before the point, those behind it if there is a point, and
the sign and digits of its exponent if it has one. -/
structure Numeral where
  negative : Bool
  whole : List Char
  fraction : Option (List Char)
  exponent : Option (Bool × List Char)

/-- The greatest significand that is kept. -/
def maxSignificand : Nat := 2 ^ (64 : Nat) - 1

/-- Adds digits to a significand while it can be kept; gives back how many were left out. -/
def addWhole (significand : Nat) : List Char → Nat × Nat
  | [] => (significand, 0)
  | d :: digits =>
    let next := Folio.Number.digitsValue significand [d]
    if next ≤ maxSignificand then addWhole next digits else (significand, digits.length + 1)

/-- Adds digits behind the point while they can be kept, lowering the exponent by one each; those
behind the first that cannot be kept are left out. -/
def addFraction (significand : Nat) (exponent : Int) : List Char → Nat × Int
  | [] => (significand, exponent)
  | d :: digits =>
    let next := Folio.Number.digitsValue significand [d]
    if next ≤ maxSignificand then addFraction next (exponent - 1) digits
    else (significand, exponent)

/-- The value of the digits of an exponent, or how many digits follow the first that takes it out
of 32 bits. -/
def exponentSize (size : Nat) : List Char → Except Nat Nat
  | [] => .ok size
  | d :: digits =>
    let next := Folio.Number.digitsValue size [d]
    if next ≤ 2 ^ (31 : Nat) - 1 then exponentSize next digits else .error digits.length

/-- The 64-bit number nearest to a power of ten. -/
def powerOfTen (n : Nat) : Float :=
  Folio.Number.doubleOfNat (10 ^ n)

/-- Divides by a power of ten, in steps that the 64-bit format can hold. -/
def scaleDown (x : Float) (n : Nat) : Float :=
  if n ≤ 308 then x / powerOfTen n
  else if x == 0 then x
  else scaleDown (x / powerOfTen 308) (n - 308)
termination_by n
decreasing_by omega

/-- A significand times a power of ten, computed with the 64-bit numbers nearest to both; none when
that is too great. -/
def scaled? (significand : Nat) (exponent : Int) : Option Float :=
  let x := Folio.Number.doubleOfNat significand
  if exponent < 0 then some (scaleDown x (-exponent).toNat)
  else if exponent ≤ 308 then
    let product := x * powerOfTen exponent.toNat
    if product.isInf then none else some product
  else if x == 0 then some x
  else none

/-- An integer with its sign. Zero with a minus sign is the negative zero, and a negative integer
beyond 64 bits is rounded. -/
def signedInteger (negative : Bool) (n : Nat) : Number :=
  if !negative then .natural n
  else if 0 < n ∧ n ≤ 2 ^ (63 : Nat) then .negative n
  else .real (-(Folio.Number.doubleOfNat n))

/-- The value of a numeral. When it is out of range, how many of its digits lie behind the place
where that shows. -/
def Numeral.value (x : Numeral) : Except Nat Number :=
  let signed (y : Float) : Number := .real (if x.negative then -y else y)
  let finish (significand : Nat) (exponent : Int) : Except Nat Number :=
    match scaled? significand exponent with
    | some y => .ok (signed y)
    | none => .error 0
  let (whole, leftOut) := addWhole 0 x.whole
  match x.fraction, x.exponent with
  | none, none =>
    if leftOut = 0 then .ok (signedInteger x.negative whole) else finish whole leftOut
  | fraction, exponent =>
    let (significand, shift) := addFraction whole leftOut (fraction.getD [])
    match exponent with
    | none => finish significand shift
    | some (down, digits) =>
      match exponentSize 0 digits with
      | .ok size => finish significand (if down then shift - size else shift + size)
      | .error behind =>
        if significand ≠ 0 ∧ !down then .error behind else .ok (signed 0)

/-- The digits at the front of a text and what follows them. -/
def takeDigits (text : List Char) : List Char × List Char :=
  (text.takeWhile Char.isDigit, text.dropWhile Char.isDigit)

theorem length_takeDigits_le (text : List Char) : (takeDigits text).2.length ≤ text.length :=
  (List.dropWhile_sublist _).length_le

/-- Reads the digits before the point. A zero stands alone. -/
def wholePart : Reader (List Char) := fun text =>
  match text with
  | [] => .error ⟨.valueUnfinished, 0⟩
  | c :: rest =>
    if c = '0' then
      match rest with
      | d :: more =>
        if d.isDigit then .error (faultBefore .malformedNumber more)
        else .ok (['0'], ⟨d :: more, by simp⟩)
      | [] => .ok (['0'], ⟨[], by simp⟩)
    else if c.isDigit then
      .ok (c :: (takeDigits rest).1,
        ⟨(takeDigits rest).2, Nat.lt_succ_of_le (length_takeDigits_le rest)⟩)
    else .error (faultAfterByte .malformedNumber (c :: rest))

/-- What is left of a text after an optional part, together with the part. -/
abbrev Part (α : Type) (text : List Char) : Type :=
  α × { rest : List Char // rest.length ≤ text.length }

/-- Reads the point and the digits behind it, if there is a point. -/
def fractionPart (text : List Char) : Except Fault (Part (Option (List Char)) text) :=
  match text with
  | '.' :: rest =>
    if (takeDigits rest).1 = [] then
      match rest with
      | [] => .error ⟨.valueUnfinished, 0⟩
      | _ => .error (faultAfterByte .malformedNumber rest)
    else .ok (some (takeDigits rest).1,
      ⟨(takeDigits rest).2, Nat.le_succ_of_le (length_takeDigits_le rest)⟩)
  | other => .ok (none, ⟨other, Nat.le_refl _⟩)

/-- Reads the sign of an exponent; true stands for the minus sign. -/
def exponentSign (text : List Char) : Part Bool text :=
  match text with
  | '+' :: rest => (false, ⟨rest, by simp⟩)
  | '-' :: rest => (true, ⟨rest, by simp⟩)
  | other => (false, ⟨other, Nat.le_refl _⟩)

/-- Reads the exponent, if there is one. -/
def exponentPart (text : List Char) : Except Fault (Part (Option (Bool × List Char)) text) :=
  match text with
  | [] => .ok (none, ⟨[], Nat.le_refl _⟩)
  | mark :: rest =>
    if mark = 'e' ∨ mark = 'E' then
      let (down, ⟨body, h⟩) := exponentSign rest
      if (takeDigits body).1 = [] then
        match body with
        | [] => .error ⟨.valueUnfinished, 0⟩
        | _ => .error (faultAfterByte .malformedNumber body)
      else .ok (some (down, (takeDigits body).1),
        ⟨(takeDigits body).2, Nat.le_succ_of_le (Nat.le_trans (length_takeDigits_le body) h)⟩)
    else .ok (none, ⟨mark :: rest, Nat.le_refl _⟩)

/-- Reads a number whose sign was read. -/
def number (negative : Bool) : Reader Number := fun text => do
  let ⟨whole, afterWhole, h₁⟩ ← wholePart text
  let ⟨fraction, afterFraction, h₂⟩ ← fractionPart afterWhole
  let ⟨exponent, rest, h₃⟩ ← exponentPart afterFraction
  match (Numeral.mk negative whole fraction exponent).value with
  | .ok n => return (n, ⟨rest, by omega⟩)
  | .error behind => throw ⟨.numberOutOfRange, byteLength rest + behind⟩

end Folio.Json
