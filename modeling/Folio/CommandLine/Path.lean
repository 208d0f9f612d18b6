/-!
# File paths

A path is a text of names between slashes. Empty names and single dots between others mean nothing,
a dot in front stands for the place itself, and two dots go up.
-/

namespace Folio.CommandLine

/-- The pieces of a text between slashes. -/
def slashPieces : List Char → List (List Char)
  | [] => [[]]
  | c :: rest =>
    if c = '/' then [] :: slashPieces rest
    else match slashPieces rest with
      | [] => [[c]]
      | piece :: others => (c :: piece) :: others

/-- The names of a path that go anywhere: neither empty nor a single dot. -/
def pathNames (path : String) : List String :=
  ((slashPieces path.toList).filter fun piece => piece ≠ [] ∧ piece ≠ ['.']).map String.ofList

/-- Whether a path starts at the root. -/
def isRooted (path : String) : Bool :=
  path.toList.head? == some '/'

/-- Whether the last piece of a path is a single dot; slashes behind it change nothing. -/
def endsInDot (path : String) : Bool :=
  ((slashPieces path.toList).filter (· ≠ [])).getLast? == some ['.']

/-- Whether a path ends in a slash. -/
def endsInSlash (path : String) : Bool :=
  path.toList.getLast? == some '/'

/-- The rest of a path behind its last name, from the end: slashes, and dots between them. -/
def dropTail : List Char → List Char
  | '/' :: rest => dropTail rest
  | '.' :: '/' :: rest => dropTail ('/' :: rest)
  | other => other

/-- The path up to its last name, with that name. -/
def upToLastName (path : String) : List Char :=
  (dropTail path.toList.reverse).reverse

/-- The last name of a path, unless it goes up. -/
def fileName? (path : String) : Option (List Char) :=
  let text := upToLastName path
  match (slashPieces text).getLast? with
  | none => none
  | some name => if name = [] ∨ name = ['.'] ∨ name = ['.', '.'] then none else some name

/-- The part of a name before its last dot; a dot in front is part of the name. -/
def stemOf (name : List Char) : List Char :=
  match name.reverse.dropWhile (· ≠ '.') with
  | _ :: before => if before = [] then name else before.reverse
  | [] => name

/-- The last name of a path without its extension. -/
def fileStem? (path : String) : Option String :=
  (fileName? path).map fun name => String.ofList (stemOf name)

/-- The path with another extension on its last name. -/
def withExtension (path : String) (suffix : String) : String :=
  match fileName? path with
  | none => path
  | some name =>
    let kept := (upToLastName path).length - (name.length - (stemOf name).length)
    String.ofList (((upToLastName path).take kept) ++ '.' :: suffix.toList)

/-- The path without its last name. -/
def parentPath (path : String) : String :=
  let text := (upToLastName path).reverse
  let above := text.dropWhile (· ≠ '/')
  match dropTail above with
  | [] => if above = [] then "" else "/"
  | kept => String.ofList kept.reverse

/-- The paths that lead to a path one name at a time, the longest first. -/
def waysTo (path : String) : List String :=
  let names := pathNames path
  let root := if isRooted path then "/" else ""
  (List.range names.length).reverse.map fun n => root ++ "/".intercalate (names.take (n + 1))

end Folio.CommandLine
