/-!
# Command line arguments

Flags and file names may come in any order. A title flag takes the next argument, whatever that is;
the first file name is the input and the second the output. The first argument that is out of place
decides.
-/

namespace Folio.CommandLine

/-- What the arguments ask for. -/
structure Arguments where
  input : String
  output : Option String
  landscape : Bool
  wantsCommands : Bool
  title : Option String
  deriving DecidableEq, Repr

/-- Why the arguments lead to no rendering. -/
inductive Refusal where
  | help
  | titleMissing
  | unknownFlag (flag : String)
  | unexpected (argument : String)
  | inputMissing
  deriving DecidableEq, Repr

/-- What one argument says. -/
inductive Token where
  | landscape
  | commands
  | title
  | help
  | unknownFlag
  | file
  deriving DecidableEq, Repr

/-- What an argument says where no title is due. -/
def Token.of (argument : String) : Token :=
  if argument = "--landscape" ∨ argument = "-l" then .landscape
  else if argument = "--commands" ∨ argument = "-c" then .commands
  else if argument = "--title" ∨ argument = "-t" then .title
  else if argument = "--help" ∨ argument = "-h" then .help
  else if argument.toList.head? = some '-' then .unknownFlag
  else .file

/-- What was found in the arguments so far. -/
structure Found where
  input : Option String := none
  output : Option String := none
  landscape : Bool := false
  wantsCommands : Bool := false
  title : Option String := none
  deriving DecidableEq, Repr

/-- Adds a file name: the input, then the output, and no more. -/
def Found.addFile (found : Found) (name : String) : Except Refusal Found :=
  match found.input, found.output with
  | none, _ => .ok { found with input := some name }
  | some _, none => .ok { found with output := some name }
  | some _, some _ => .error (.unexpected name)

/-- Goes through the arguments. -/
def scan (found : Found) : List String → Except Refusal Found
  | [] => .ok found
  | argument :: rest =>
    match Token.of argument with
    | .landscape => scan { found with landscape := true } rest
    | .commands => scan { found with wantsCommands := true } rest
    | .title =>
      match rest with
      | [] => .error .titleMissing
      | title :: rest => scan { found with title := some title } rest
    | .help => .error .help
    | .unknownFlag => .error (.unknownFlag argument)
    | .file =>
      match found.addFile argument with
      | .ok found => scan found rest
      | .error refusal => .error refusal

/-- Reads the arguments behind the name of the program. -/
def readArguments (arguments : List String) : Except Refusal Arguments :=
  match scan {} arguments with
  | .error refusal => .error refusal
  | .ok found =>
    match found.input with
    | none => .error .inputMissing
    | some input =>
      .ok ⟨input, found.output, found.landscape, found.wantsCommands, found.title⟩

/-- How the program is used. -/
def usage (program : String) : List String :=
  ["hyper – style document to PDF converter (hyperpdf)",
   "",
   "Usage:",
   "  " ++ program ++
     " <input.json> [output] [--landscape] [--title \"My Report\"] [--commands]",
   "",
   "Arguments:",
   "  <input.json>   Style document: one rule object or an array of rules",
   "  [output]       Output path  (default: same stem as input)",
   "",
   "Flags:",
   "  --title, -t    Document title in PDF metadata (default: input filename stem)",
   "  --landscape    Use landscape page orientation (A4 841×595 pt)",
   "  --commands     Write the draw-command stream as JSON instead of a PDF",
   "  --help         Print this message"]

/-- The status that the program ends with. -/
def Refusal.status : Refusal → Nat
  | .help => 0
  | _ => 1

/-- What the program says. -/
def Refusal.lines (program : String) : Refusal → List String
  | .help => usage program
  | .titleMissing => ["Error: --title needs a value."]
  | .unknownFlag flag => ("Unknown flag: " ++ flag) :: usage program
  | .unexpected argument => ("Unexpected argument: " ++ argument) :: usage program
  | .inputMissing => "Error: no input file specified." :: usage program

end Folio.CommandLine
