import EntityProjection.Names

/-!
# File trees

Directories and files, each directory with its entries by name.  A place in a tree is given by the
names that lead to it from the root.

* `FileTree.get?`, `FileTree.put`: what stands at a place, and the tree with something else there;
* `FileTree.files`: all files, siblings in ascending order of their names and the files below a
  directory in its place;
* `FileTree.changedFiles`: the files of a later tree that an earlier one does not have as they are.
-/

namespace EntityProjection

/-- A file or a directory. -/
inductive FileTree where
  | file (content : ByteArray)
  | directory (entries : List (String × FileTree))
  deriving Inhabited

namespace FileTree

/-- The directory without entries. -/
def empty : FileTree := .directory []

/-- Whether a tree is a directory. -/
def isDirectory : FileTree → Bool
  | .file _ => false
  | .directory _ => true

/-- The content of a file. -/
def content? : FileTree → Option ByteArray
  | .file content => some content
  | .directory _ => none

/-- The entry of a directory with the given name. -/
def entry? : FileTree → String → Option FileTree
  | .file _, _ => none
  | .directory entries, name => entries.lookup name

/-- What stands at a place. -/
def get? : List String → FileTree → Option FileTree
  | [], t => some t
  | name :: names, t => (t.entry? name).bind (get? names)

/-- Entries with another tree under a name that occurs among them. -/
def replaceEntry (name : String) (t : FileTree) (entries : List (String × FileTree)) :
    List (String × FileTree) :=
  entries.map fun entry => if entry.1 == name then (name, t) else entry

/-- The tree with something else at a place, which has to lie in a directory of the tree. -/
def put (new : FileTree) : List String → FileTree → FileTree
  | [], _ => new
  | _ :: _, .file content => .file content
  | name :: names, .directory entries =>
    match entries.lookup name with
    | some inner => .directory (replaceEntry name (put new names inner) entries)
    | none =>
      if names.isEmpty then .directory (entries ++ [(name, new)]) else .directory entries

/-! ### Files -/

/-- A file below a directory by its place there. -/
structure PlacedFile where
  place : List String
  content : ByteArray
  deriving Inhabited

/-- The file as it is placed one directory further up. -/
def PlacedFile.below (name : String) (f : PlacedFile) : PlacedFile :=
  { f with place := name :: f.place }

mutual

/-- All files of a tree in order. -/
def files : FileTree → List PlacedFile
  | .file content => [⟨[], content⟩]
  | .directory entries =>
    (sortByName (filesByEntry entries)).flatMap fun (name, fs) => fs.map (PlacedFile.below name)

/-- The files of each of some entries. -/
def filesByEntry : List (String × FileTree) → List (String × List PlacedFile)
  | [] => []
  | (name, t) :: rest => (name, t.files) :: filesByEntry rest

end

/-- The content of the file at a place. -/
def contentAt? (t : FileTree) (place : List String) : Option ByteArray :=
  (t.get? place).bind content?

/-- The files of a tree that are new or have another content than in an earlier tree. -/
def changedFiles (before after : FileTree) : List PlacedFile :=
  after.files.filter fun f => before.contentAt? f.place != some f.content

end FileTree

end EntityProjection
