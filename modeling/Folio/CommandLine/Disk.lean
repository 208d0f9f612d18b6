import Folio.CommandLine.Path
import Folio.Page.File
import Folio.Text.Utf8

/-!
# Files

What the program needs of a file system, in any monad, and a file system in memory: a finite tree of
files and directories that answers as a disk does, down to which of two errors comes first.
-/

namespace Folio.CommandLine

/-- Why a file operation fails. -/
inductive FileError where
  | notFound
  | exists
  | notDirectory
  | isDirectory
  | other (message : String)
  deriving DecidableEq, Repr

/-- The message of a file error. -/
def FileError.message : FileError → String
  | .notFound => "No such file or directory (os error 2)"
  | .exists => "File exists (os error 17)"
  | .notDirectory => "Not a directory (os error 20)"
  | .isDirectory => "Is a directory (os error 21)"
  | .other message => message

/-- What the program writes. -/
inductive Artifact where
  | pages (set : PageSet)
  | text (text : String)

/-- The bytes of what the program writes. -/
def Artifact.bytes : Artifact → List UInt8
  | .pages set => Text.encode set.fileText
  | .text content => Text.encode content

/-- A file system: how to read a file, make one directory, and write a file. Reading a directory
fails, and the error says that it is one. -/
structure Disk (m : Type → Type) where
  read : String → m (Except FileError (List UInt8))
  makeDirectory : String → m (Except FileError Unit)
  write : String → Artifact → m (Except FileError Unit)

namespace Disk

variable {m : Type → Type} [Monad m]

/-- Takes a failure to make a directory back if one stands there. -/
def forgive (disk : Disk m) (path : String) : Except FileError Unit → m (Except FileError Unit)
  | .ok () => return .ok ()
  | .error error => do
    match ← disk.read path with
    | .error .isDirectory => return .ok ()
    | _ => return .error error

/-- Makes the first directory of a list that leads from the longest path to the shortest. Those
behind it are made only if the first fails because nothing is there, so an error other than that is
the error of the longest path. -/
def makeFirst (disk : Disk m) : List String → m (Except FileError Unit)
  | [] => return .ok ()
  | path :: shorter => do
    match ← disk.makeDirectory path with
    | .error .notFound =>
      match ← disk.makeFirst shorter with
      | .ok () => disk.forgive path (← disk.makeDirectory path)
      | .error error => return .error error
    | made => disk.forgive path made

/-- Makes a directory with those above it. -/
def makeDirectories (disk : Disk m) (path : String) : m (Except FileError Unit) :=
  disk.makeFirst (waysTo path)

end Disk

/-! ## Files in memory -/

/-- What stands at a place in memory. -/
inductive Entry where
  | directory
  | bytes (content : List UInt8)
  | artifact (artifact : Artifact)

/-- Whether an entry is a directory. -/
def Entry.isDirectory : Entry → Bool
  | .directory => true
  | _ => false

/-- Files and directories by the names on the way to them. -/
abbrev Memory := List (List String × Entry)

namespace Memory

/-- Whether names lead out of memory: to the root, or above the directory that the program runs in.
Only the directories on the way there are known. -/
def isOutside (names : List String) : Bool :=
  names.head? == some "/" || names.head? == some ".."

/-- What stands at a place; the way of no names leads to the directory that the program runs in. -/
def at? (memory : Memory) (names : List String) : Option Entry :=
  if names = ["/"] ∨ names.all (· == "..") then some .directory else memory.lookup names

/-- The place above a place. Nothing is above the root. -/
def up (names : List String) : List String :=
  if names = ["/"] then names
  else if names.all (· == "..") then names ++ [".."]
  else names.dropLast

/-- The place that a name leads to from a directory. -/
def step (here : List String) (name : String) : List String :=
  if name = ".." then up here else here ++ [name]

/-- Where the names of a path start from. -/
def origin (path : String) : List String :=
  if isRooted path then ["/"] else []

/-- Puts something at a place. -/
def put (memory : Memory) (names : List String) (entry : Entry) : Memory :=
  (names, entry) :: memory.filter (·.1 ≠ names)

/-- Demands that a directory stands at a place. -/
def needDirectory (memory : Memory) (names : List String) : Except FileError Unit :=
  match memory.at? names with
  | some .directory => .ok ()
  | some _ => .error .notDirectory
  | none => .error .notFound

/-- The place that names lead to from a directory. -/
def walk (memory : Memory) (here : List String) : List String → Except FileError (List String)
  | [] => .ok here
  | name :: rest => do
    memory.needDirectory here
    walk memory (step here name) rest

/-- The place of a path. -/
def place (memory : Memory) (path : String) : Except FileError (List String) :=
  if path = "" then .error .notFound else memory.walk (origin path) (pathNames path)

/-- Reads a file. -/
def read (memory : Memory) (path : String) : Except FileError (List UInt8) := do
  let names ← memory.place path
  if endsInDot path || endsInSlash path then memory.needDirectory names
  match memory.at? names with
  | none => throw .notFound
  | some .directory => throw .isDirectory
  | some (.bytes content) => return content
  | some (.artifact artifact) => return artifact.bytes

/-- Makes one directory. -/
def makeDirectory (memory : Memory) (path : String) : Except FileError Memory := do
  let names := pathNames path
  let above ← memory.walk (origin path) names.dropLast
  memory.needDirectory above
  match names.getLast? with
  | none | some ".." => throw .exists
  | some name =>
    if (memory.at? (above ++ [name])).isSome then throw .exists
    return memory.put (above ++ [name]) .directory

/-- Writes a file. A slash behind a name is refused before anything is looked up there, a dot only
then. -/
def write (memory : Memory) (path : String) (artifact : Artifact) : Except FileError Memory := do
  let names ← memory.place path
  if (memory.at? names).any Entry.isDirectory then throw .isDirectory
  if endsInDot path then memory.needDirectory names
  if endsInSlash path then throw .isDirectory
  return memory.put names (.artifact artifact)

end Memory

/-- Files in memory as a file system. -/
def memoryDisk : Disk (StateM Memory) where
  read path := fun memory => (memory.read path, memory)
  makeDirectory path := fun memory =>
    match memory.makeDirectory path with
    | .ok memory => (.ok (), memory)
    | .error error => (.error error, memory)
  write path artifact := fun memory =>
    match memory.write path artifact with
    | .ok memory => (.ok (), memory)
    | .error error => (.error error, memory)

end Folio.CommandLine
