import Folio.Number.Notation

/-!
# JSON values

A JSON text as it was read. An integer that fits in 64 bits is kept exactly, with or without a
minus sign; every other number is kept as the 64-bit number it was read as. The members of an
object stay in the order of the text, repetitions included: what a repeated key means is for the
reader of the object to say.
-/

namespace Folio.Json

/-- A number of a JSON text. -/
inductive Number where
  /-- An integer without a minus sign, below two to the power of 64. -/
  | natural (n : Nat)
  /-- The negative of a positive integer up to two to the power of 63. -/
  | negative (n : Nat)
  | real (x : Float)
  deriving DecidableEq

/-- A JSON value. -/
inductive Value where
  | null
  | bool (b : Bool)
  | number (n : Number)
  | string (s : String)
  | list (items : List Value)
  | object (members : List (String × Value))

/-- What a message says about a value that is not of the kind wanted. -/
inductive Kind where
  | null
  | bool (b : Bool)
  | number (n : Number)
  | string (s : String)
  | list
  | object
  deriving DecidableEq

/-- The kind of a value. -/
def Value.kind : Value → Kind
  | .null => .null
  | .bool b => .bool b
  | .number n => .number n
  | .string s => .string s
  | .list _ => .list
  | .object _ => .object

/-- The text of a number: integers as they are, all else by the shortest digits. -/
def Number.text : Number → String
  | .natural n => toString n
  | .negative n => "-" ++ toString n
  | .real x => String.ofList (Folio.Number.Layout.jsonDouble.double x)

/-- The 32-bit number nearest to a number. An integer is rounded once; a number that was read as a
64-bit one has been rounded before. -/
def Number.single : Number → Float32
  | .natural n => Folio.Number.singleOfNat n
  | .negative n => Folio.Number.singleOfInt (-n)
  | .real x => Folio.Number.singleOfDouble x

/-- The word for truth and falsehood. -/
def boolText (b : Bool) : String :=
  if b then "true" else "false"

end Folio.Json
