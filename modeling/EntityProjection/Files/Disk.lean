import EntityProjection.Files.Path
import EntityProjection.Files.Tree

/-!
# The disk

A file tree together with the current directory.  Paths are followed part by part: every part but
the last has to lead into a directory, `.` stays and `..` goes up.

* `Disk.locate?`: the place that a path leads to, if something is there;
* `Disk.holds`, `Disk.isDirectory`, `Disk.readText?`: questions about it;
* `Disk.makeParent`, `Disk.write?`: the two ways to change a disk.
-/

namespace EntityProjection

/-- A file tree with a current directory. -/
structure Disk where
  root : FileTree := .empty
  /-- The place of the current directory. -/
  current : List String := []
  deriving Inhabited

namespace Disk

/-! ### Looking -/

/-- What stands at a place. -/
def at? (disk : Disk) (place : List String) : Option FileTree :=
  disk.root.get? place

/-- The content of the file at a place. -/
def contentAt? (disk : Disk) (place : List String) : Option ByteArray :=
  disk.root.contentAt? place

/-- Whether a directory stands at a place. -/
def directoryAt (disk : Disk) (place : List String) : Bool :=
  (disk.at? place).any FileTree.isDirectory

/-- The place that one part of a path leads to from a directory. -/
def step (place : List String) (part : String) : List String :=
  if part == "." then place
  else if part == ".." then place.dropLast
  else place ++ [part]

/-- The place that the parts of a path lead to from a place, if something is there. -/
def locateFrom? (disk : Disk) : List String → List String → Option (List String)
  | place, [] => if (disk.at? place).isSome then some place else none
  | place, part :: parts =>
    if disk.directoryAt place then disk.locateFrom? (step place part) parts else none

/-- Where a path starts. -/
def start (disk : Disk) (path : String) : List String :=
  if isAbsolutePath path then [] else disk.current

/-- The place that a path leads to, if something is there.  The empty path leads nowhere. -/
def locate? (disk : Disk) (path : String) : Option (List String) :=
  if path.isEmpty then none else disk.locateFrom? (disk.start path) (pathParts path)

/-- What a path leads to. -/
def get? (disk : Disk) (path : String) : Option FileTree :=
  (disk.locate? path).bind disk.at?

/-- Whether a path leads to something. -/
def holds (disk : Disk) (path : String) : Bool :=
  (disk.get? path).isSome

/-- Whether a path leads to a directory. -/
def isDirectory (disk : Disk) (path : String) : Bool :=
  (disk.get? path).any FileTree.isDirectory

/-- The text of the file that a path leads to, if there is one and it holds a text. -/
def readText? (disk : Disk) (path : String) : Option String :=
  ((disk.get? path).bind FileTree.content?).bind String.fromUTF8?

/-! ### Changing -/

/-- The disk with something else at a place. -/
def put (disk : Disk) (place : List String) (t : FileTree) : Disk :=
  { disk with root := FileTree.put t place disk.root }

/-- Makes directories of the parts of a path from a place on, where there is nothing yet.  Where that
is not possible, the answer is the disk with those made before. -/
def makeDirectoriesFrom (disk : Disk) : List String → List String → Except Disk Disk
  | _, [] => .ok disk
  | place, part :: parts =>
    let next := step place part
    match disk.at? next with
    | some (.directory _) => disk.makeDirectoriesFrom next parts
    | some (.file _) => .error disk
    | none =>
      if isFileName part then (disk.put next .empty).makeDirectoriesFrom next parts
      else .error disk

/-- Makes the parent directory of a path, and the directories around it, where there is nothing yet.
A path without parent, or whose parent has no parts, needs none. -/
def makeParent (disk : Disk) (path : String) : Except Disk Disk :=
  match parentParts? path with
  | none => .ok disk
  | some parts =>
    if parts.any fun part => part.toList.contains '\x00' then .error disk
    else disk.makeDirectoriesFrom (disk.start path) parts

/-- The place of a file that a path leads to or could lead to: the path ends with a name, and
that name stands for nothing or for a file in an existing directory. -/
def filePlace? (disk : Disk) (path : String) : Option (List String) :=
  match (pathParts path).reverse with
  | [] => none
  | name :: before => do
    let directory ← disk.locateFrom? (disk.start path) before.reverse
    if !isFileName name || !disk.directoryAt directory then none
    else if disk.directoryAt (directory ++ [name]) then none
    else some (directory ++ [name])

/-- The disk with a text in the file that a path leads to, which is made if there is none. -/
def write? (disk : Disk) (path text : String) : Option Disk :=
  (disk.filePlace? path).map fun place => disk.put place (.file text.toUTF8)

end Disk

end EntityProjection
