import Folio.CommandLine.Arguments
import Folio.CommandLine.Disk
import Folio.Draw.Writing
import Folio.Rendering

/-!
# The program

Reads a document from a file, renders it, and writes the pages, or the text of its commands, beside
it or where it is told to. What the program says is data until the outermost layer prints it.
-/

namespace Folio.CommandLine

/-- What the program ends with: what it says last. -/
inductive Ending where
  | refused (refusal : Refusal)
  | unreadable (path : String) (error : FileError)
  | failed (error : RenderError)
  | noDirectory (error : FileError)
  | unwritable (path : String) (error : FileError)
  | wrote (path : String) (artifact : Artifact) (cells : Nat)

/-- The status that the program ends with. -/
def Ending.status : Ending → Nat
  | .refused refusal => refusal.status
  | .wrote _ _ _ => 0
  | _ => 1

/-- The line about a file that was written, with its size. -/
def wroteLine (path size : String) (cells : Nat) : String :=
  "Wrote '" ++ path ++ "' (" ++ size ++ " bytes, " ++ toString cells ++ " cell" ++
    (if cells = 1 then "" else "s") ++ ")"

/-- What the program says, given how a size is shown. -/
def Ending.lines (program : String) (size : Artifact → String) : Ending → List String
  | .refused refusal => refusal.lines program
  | .unreadable path error => ["Error reading '" ++ path ++ "': " ++ error.message]
  | .failed error => ["Error: " ++ error.message]
  | .noDirectory error => ["Error creating output directory: " ++ error.message]
  | .unwritable path error => ["Error writing '" ++ path ++ "': " ++ error.message]
  | .wrote path artifact cells => [wroteLine path (size artifact) cells]

/-- Where the result goes: as it was said, or beside the input with an extension of its own. -/
def Arguments.destination (arguments : Arguments) : String :=
  match arguments.output with
  | some path => path
  | none =>
    withExtension arguments.input (if arguments.wantsCommands then "commands.json" else "pdf")

/-- The paper: A4, with the name of the input as the title unless another was given. -/
def Arguments.config (arguments : Arguments) : Config :=
  let defaults : Config := {}
  { defaults with
    title := arguments.title.getD ((fileStem? arguments.input).getD defaults.title)
    orientation := if arguments.landscape then .landscape else .portrait }

/-- What is written for a document, and the number of its cells. -/
def Arguments.render (arguments : Arguments) (text : String) :
    Except RenderError (Artifact × Nat) :=
  if arguments.wantsCommands then
    (drawDocument text arguments.config).map fun commands =>
      (.text (writeCommands commands), cellCount commands)
  else
    (renderDocument text arguments.config).map fun (pages, commands) =>
      (.pages pages, cellCount commands)

/-- The text of a file. -/
def textOfFile (content : Except FileError (List UInt8)) : Except FileError String := do
  (Text.decode (← content)).mapError fun _ => .other "stream did not contain valid UTF-8"

variable {m : Type → Type} [Monad m]

/-- Writes a result where it goes, making the directories on the way. -/
def save (disk : Disk m) (path : String) (artifact : Artifact) (cells : Nat) : m Ending := do
  let parent := parentPath path
  let made ← if parent = "" then pure (.ok ()) else disk.makeDirectories parent
  match made with
  | .error error => return .noDirectory error
  | .ok () =>
    match ← disk.write path artifact with
    | .error error => return .unwritable path error
    | .ok () => return .wrote path artifact cells

/-- Runs the program on the arguments behind its name. -/
def run (disk : Disk m) (arguments : List String) : m Ending := do
  match readArguments arguments with
  | .error refusal => return .refused refusal
  | .ok arguments =>
    match textOfFile (← disk.read arguments.input) with
    | .error error => return .unreadable arguments.input error
    | .ok text =>
      match arguments.render text with
      | .error error => return .failed error
      | .ok (artifact, cells) => save disk arguments.destination artifact cells

end Folio.CommandLine
