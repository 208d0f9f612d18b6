import Folio.Draw.Command
import Folio.Json.Printer
import Folio.Number.Notation

/-!
# Writing draw commands

Draw commands are written as a JSON list of objects, each with the name of its call as the member
`op` before the others. A number that is not finite has no JSON text and is written as null.
-/

namespace Folio

open Json (Form)

/-- A number of a command. -/
def numberForm (x : Float32) : Form :=
  if x.isFinite then .number (Number.Layout.jsonSingle.single x) else .null

/-- A part of a colour. -/
def partForm (part : UInt8) : Form :=
  .number (Nat.toDigits 10 part.toNat)

/-- A colour. -/
def Colour.form (colour : Colour) : Form :=
  .object [("r", partForm colour.red), ("g", partForm colour.green), ("b", partForm colour.blue)]

/-- The members of a command beside its name. -/
def Command.members : Command → List (String × Form)
  | .setTextColour colour | .setDrawColour colour | .setFillColour colour =>
    [("color", colour.form)]
  | .setFont family flags size =>
    [("family", .string family), ("style", .string flags), ("size", numberForm size)]
  | .moveTo x y => [("x", numberForm x), ("y", numberForm y)]
  | .cell drawn =>
    [("width", numberForm drawn.width), ("height", numberForm drawn.height),
      ("text", .string drawn.text), ("border", .string drawn.border.letters),
      ("align", match drawn.align with
        | some align => .string align.letter
        | none => .null),
      ("fill", .bool drawn.fill)]
  | .newLine height => [("height", numberForm height)]
  | .advance width => [("width", numberForm width)]

/-- A command as an object. -/
def Command.form (command : Command) : Form :=
  .object (("op", .string command.call.name) :: command.members)

/-- The list of the objects of commands. -/
def commandsForm (commands : List Command) : Form :=
  .list (commands.map Command.form)

/-- The JSON text of commands. -/
def writeCommands (commands : List Command) : String :=
  (commandsForm commands).text

end Folio
