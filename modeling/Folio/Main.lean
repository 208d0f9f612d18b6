import Folio.CommandLine.Program

/-!
# The command line

The outermost layer: the files are those of the system, and what the program says goes to the error
stream.
-/

namespace Folio.CommandLine

/-- Whether an error code stands for a system error, whose number it is up to the sign. -/
def isCodeOf (number code : UInt32) : Bool :=
  code == number || code == 0 - number

/-- A system error as the program speaks of it. -/
def fileErrorOf : IO.Error → FileError
  | .noFileOrDirectory .. => .notFound
  | .noSuchThing .. => .notFound
  | .alreadyExists .. => .exists
  | .inappropriateType fileName code details =>
    if isCodeOf 20 code then .notDirectory
    else if isCodeOf 21 code then .isDirectory
    else .other (toString (IO.Error.inappropriateType fileName code details))
  | error => .other (toString error)

/-- Runs a file action and keeps its error. -/
def attempt {α : Type} (action : IO α) : IO (Except FileError α) := do
  match ← action.toBaseIO with
  | .ok a => return .ok a
  | .error error => return .error (fileErrorOf error)

/-- The files of the system. -/
def systemDisk : Disk IO where
  read path := attempt do return (← IO.FS.readBinFile path).toList
  makeDirectory path := attempt (IO.FS.createDir path)
  write path artifact := attempt (IO.FS.writeBinFile path (ByteArray.mk artifact.bytes.toArray))

end Folio.CommandLine

open Folio.CommandLine in
/-- Renders the document that the arguments name. -/
def main (arguments : List String) : IO UInt32 := do
  let ending ← run systemDisk arguments
  for line in ending.lines "hyper" fun artifact => toString artifact.bytes.length do
    IO.eprintln line
  return UInt32.ofNat ending.status
