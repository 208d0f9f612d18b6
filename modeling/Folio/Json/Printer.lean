import Folio.Json.Basic
import Folio.Text.Hex

/-!
# Writing JSON

A `Form` is a JSON text up to its layout: numbers are kept as they are written. `pretty` lays a form
out over lines, two blanks deeper inside every bracket. Strings escape what JSON demands and nothing
more.
-/

namespace Folio.Json

/-- A JSON text up to blanks and escapes. -/
inductive Form where
  | null
  | bool (b : Bool)
  /-- A number by its text. -/
  | number (text : List Char)
  | string (s : String)
  | list (items : List Form)
  | object (members : List (String × Form))

/-- How one character is written inside a string. -/
def writtenChar (c : Char) : List Char :=
  if c = '"' then ['\\', '"']
  else if c = '\\' then ['\\', '\\']
  else if c = '\x08' then ['\\', 'b']
  else if c = '\x0c' then ['\\', 'f']
  else if c = '\n' then ['\\', 'n']
  else if c = '\r' then ['\\', 'r']
  else if c = '\t' then ['\\', 't']
  else if c.toNat < 0x20 then '\\' :: 'u' :: Text.hexPadded 4 c.toNat
  else [c]

/-- A string with its quotes. -/
def writtenString (s : String) : List Char :=
  '"' :: s.toList.flatMap writtenChar ++ ['"']

/-- The start of a line at a depth of brackets. -/
def newLine (depth : Nat) : List Char :=
  '\n' :: List.replicate (2 * depth) ' '

mutual

/-- A form over lines, inside a number of brackets. -/
def Form.pretty (depth : Nat) : Form → List Char
  | .null => "null".toList
  | .bool b => (boolText b).toList
  | .number text => text
  | .string s => writtenString s
  | .list [] => ['[', ']']
  | .list (item :: rest) =>
    '[' :: newLine (depth + 1) ++ item.pretty (depth + 1) ++ prettyItems (depth + 1) rest ++
      newLine depth ++ [']']
  | .object [] => ['\x7b', '\x7d']
  | .object ((key, value) :: rest) =>
    '\x7b' :: newLine (depth + 1) ++ writtenString key ++ ':' :: ' ' :: value.pretty (depth + 1) ++
      prettyMembers (depth + 1) rest ++ newLine depth ++ ['\x7d']

/-- The items behind the first of a list. -/
def prettyItems (depth : Nat) : List Form → List Char
  | [] => []
  | item :: rest => ',' :: newLine depth ++ item.pretty depth ++ prettyItems depth rest

/-- The members behind the first of an object. -/
def prettyMembers (depth : Nat) : List (String × Form) → List Char
  | [] => []
  | (key, value) :: rest =>
    ',' :: newLine depth ++ writtenString key ++ ':' :: ' ' :: value.pretty depth ++
      prettyMembers depth rest

end

/-- A form as a text over lines. -/
def Form.text (form : Form) : String :=
  String.ofList (form.pretty 0)

end Folio.Json
