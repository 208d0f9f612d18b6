import Folio.Json.Basic
import Folio.Text.Quoted

/-!
# Faults of a JSON text

Why a text is not the JSON that was wanted, and where. A fault is found while reading, where only
what is left of the text is known, so it keeps the number of bytes left; its line and column are
counted from the whole text when it is reported. Columns count bytes, and the line of a byte is one
more than the line feeds before it.
-/

namespace Folio.Json

/-- Why a text is refused. -/
inductive Cause where
  | listUnfinished
  | objectUnfinished
  | stringUnfinished
  | valueUnfinished
  | colonExpected
  | listCommaExpected
  | objectCommaExpected
  | wordExpected
  | valueExpected
  | unknownEscape
  | malformedNumber
  | numberOutOfRange
  | controlCharacter
  | keyNotString
  | loneSurrogate
  | escapeUnfinished
  | trailingComma
  | trailingCharacters
  | tooDeep
  | missingField (name : String)
  | repeatedField (name : String)
  | unknownVariant (name : String) (known : List String)
  | wrongKind (found : Kind) (wanted : String)
  | wrongValue (found : Kind) (wanted : String)
  | wrongLength (found : Nat) (wanted : String)
  /-- A string that does not spell a value of its kind. -/
  | misspelt (what : String) (text : String)
  deriving DecidableEq

/-- A cause, and how many bytes of the text are left behind its place. -/
structure Fault where
  cause : Cause
  left : Nat
  deriving DecidableEq

/-- A name between backquotes. -/
def ticked (name : String) : String :=
  "\x60" ++ name ++ "\x60"

/-- What a message calls a value. -/
def Kind.text : Kind → String
  | .null => "null"
  | .bool b => "boolean " ++ ticked (boolText b)
  | .number (.real x) => "floating point " ++ ticked (Number.real x).text
  | .number n => "integer " ++ ticked n.text
  | .string s => "string " ++ Text.quoted s
  | .list => "sequence"
  | .object => "map"

/-- The message of a cause, without its place. -/
def Cause.message : Cause → String
  | .listUnfinished => "EOF while parsing a list"
  | .objectUnfinished => "EOF while parsing an object"
  | .stringUnfinished => "EOF while parsing a string"
  | .valueUnfinished => "EOF while parsing a value"
  | .colonExpected => "expected " ++ ticked ":"
  | .listCommaExpected => "expected " ++ ticked "," ++ " or " ++ ticked "]"
  | .objectCommaExpected => "expected " ++ ticked "," ++ " or " ++ ticked "\x7d"
  | .wordExpected => "expected ident"
  | .valueExpected => "expected value"
  | .unknownEscape => "invalid escape"
  | .malformedNumber => "invalid number"
  | .numberOutOfRange => "number out of range"
  | .controlCharacter => "control character (\\u0000-\\u001F) found while parsing a string"
  | .keyNotString => "key must be a string"
  | .loneSurrogate => "lone leading surrogate in hex escape"
  | .escapeUnfinished => "unexpected end of hex escape"
  | .trailingComma => "trailing comma"
  | .trailingCharacters => "trailing characters"
  | .tooDeep => "recursion limit exceeded"
  | .missingField name => "missing field " ++ ticked name
  | .repeatedField name => "duplicate field " ++ ticked name
  | .unknownVariant name known =>
    "unknown variant " ++ ticked name ++ ", expected one of " ++
      ", ".intercalate (known.map ticked)
  | .wrongKind found wanted => "invalid type: " ++ found.text ++ ", expected " ++ wanted
  | .wrongValue found wanted => "invalid value: " ++ found.text ++ ", expected " ++ wanted
  | .wrongLength found wanted =>
    "invalid length " ++ toString found ++ ", expected " ++ wanted
  | .misspelt what text => "invalid " ++ what ++ " " ++ Text.quoted text

/-! ## Places -/

/-- How many bytes the characters take in UTF-8. -/
def byteLength (text : List Char) : Nat :=
  text.foldl (fun bytes c => bytes + c.utf8Size) 0

/-- A line, counted from one, and the bytes of it that lie before the place. -/
structure Place where
  line : Nat
  column : Nat
  deriving DecidableEq, Repr

/-- Moves a place over the bytes at the front of a text. A place inside a character counts the
bytes of it that were passed. -/
def Place.advance (place : Place) : Nat → List Char → Place
  | _, [] => place
  | bytes, c :: rest =>
    if bytes < c.utf8Size then ⟨place.line, place.column + bytes⟩
    else if c = '\n' then Place.advance ⟨place.line + 1, 0⟩ (bytes - c.utf8Size) rest
    else Place.advance ⟨place.line, place.column + c.utf8Size⟩ (bytes - c.utf8Size) rest

/-- The place in a text with a number of bytes left behind it. -/
def placeOf (text : List Char) (left : Nat) : Place :=
  Place.advance ⟨1, 0⟩ (byteLength text - left) text

/-- A cause at its place in the whole text. -/
structure Error where
  cause : Cause
  place : Place
  deriving DecidableEq

/-- The fault with its place in the whole text. -/
def Fault.error (fault : Fault) (text : List Char) : Error :=
  ⟨fault.cause, placeOf text fault.left⟩

/-- The full message of an error. -/
def Error.message (error : Error) : String :=
  error.cause.message ++ " at line " ++ toString error.place.line ++ " column " ++
    toString error.place.column

/-- A fault at the place where a text goes on. -/
def faultBefore (cause : Cause) (rest : List Char) : Fault :=
  ⟨cause, byteLength rest⟩

/-- A fault just behind the first byte of what is left, if there is one. -/
def faultAfterByte (cause : Cause) (rest : List Char) : Fault :=
  ⟨cause, byteLength rest - 1⟩

end Folio.Json
