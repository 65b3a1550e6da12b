/-!
# Paths

A path is a text whose parts are divided by slashes.  It starts at the root if it begins with a
slash and at the current directory otherwise; a slash at its end asks for a directory.

* `pathParts`: the parts that are walked one after the other;
* `joinPath`, `parentParts?`: a path below another, and where the parent directory is;
* `fileExtension?`: what follows the last dot of a file name.
-/

namespace EntityProjection

/-- The parts of a text between slashes. -/
def splitSlashes : List Char → List (List Char)
  | [] => [[]]
  | '/' :: rest => [] :: splitSlashes rest
  | c :: rest =>
    match splitSlashes rest with
    | [] => [[c]]
    | part :: parts => (c :: part) :: parts

/-- Whether a path starts at the root. -/
def isAbsolutePath (path : String) : Bool :=
  path.toList.head? == some '/'

/-- The parts of a path, without empty ones.  A slash at the end counts as one more part, which stays
where it is but has to be a directory. -/
def pathParts (path : String) : List String :=
  let parts := ((splitSlashes path.toList).filter (· != [])).map String.ofList
  if path.toList.getLast? == some '/' then parts ++ ["."] else parts

/-- The path of a name in a directory. -/
def joinPath (directory name : String) : String :=
  if directory.isEmpty || directory.toList.getLast? == some '/' then directory ++ name
  else directory ++ "/" ++ name

/-- The parts of the parent directory of a path, if the path has one: its parts without the last one
that does not stay where it is.  A path of one part has a parent without parts. -/
def parentParts? (path : String) : Option (List String) :=
  match (pathParts path).reverse.dropWhile (· == ".") with
  | [] => none
  | _ :: before => some before.reverse

/-- A name that a file can have: it is not empty, holds neither a slash nor a null character, and
takes at most 255 bytes. -/
def isFileName (name : String) : Bool :=
  !name.isEmpty && name != "." && name != ".." && name.utf8ByteSize ≤ 255 &&
    name.toList.all fun c => c != '/' && c != '\x00'

/-- What follows the last dot of a file name, unless that dot is its first character or it has
none. -/
def fileExtension? (name : String) : Option String :=
  match name.toList.reverse.span (· != '.') with
  | (_, []) => none
  | (_, [_]) => none
  | (after, _ :: _) => some (String.ofList after.reverse)

end EntityProjection
