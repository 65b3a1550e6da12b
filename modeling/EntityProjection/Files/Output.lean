import EntityProjection.Failure
import EntityProjection.Files.Disk
import EntityProjection.Text.Quoted

/-!
# Output files

Writing a text to a file.  What exists already is kept unless overwriting is asked for, and missing
directories are made.
-/

namespace EntityProjection

/-- What became of an output file. -/
inductive WriteOutcome where
  | written
  | skipped
  deriving DecidableEq, Repr, Inhabited

/-- What is printed about an output file. -/
def WriteOutcome.notice (path : String) : WriteOutcome → String
  | .written => s!"✅ Generated declarations → {Text.quoted path}\n"
  | .skipped => s!"⚠️  Skipping existing output file: {Text.quoted path}\n"

/-- Writes a text to the file that a path leads to.  Directories that were made stay even if the file
cannot be written. -/
def Disk.writeOutput (disk : Disk) (path text : String) (force : Bool) :
    Disk × Except Failure WriteOutcome :=
  if disk.holds path && !force then (disk, .ok .skipped)
  else
    match disk.makeParent path with
    | .error disk => (disk, .error (.directoryNotMade path))
    | .ok disk =>
      match disk.write? path text with
      | none => (disk, .error (.outputNotWritten path))
      | some disk => (disk, .ok .written)

end EntityProjection
