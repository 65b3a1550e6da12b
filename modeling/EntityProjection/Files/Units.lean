import EntityProjection.Failure
import EntityProjection.Files.Disk
import EntityProjection.Log.Traced
import EntityProjection.Unit.Basic

/-!
# Units in a directory

The units of a directory are its files with the extension of a notation, at any depth and in walking
order, each known by its place below the directory.

* `formatOf?`, `unitId`: the notation of a file, and the identifier of the unit in it;
* `Disk.readUnits`: all units of a directory.
-/

namespace EntityProjection

/-- The notation of a file by its name. -/
def formatOf? (place : List String) : Option UnitFormat :=
  (place.getLast?.bind fileExtension?).bind UnitFormat.ofExtension?

/-- The identifier of the unit at a place below a directory. -/
def unitId (place : List String) : String :=
  "/".intercalate place

/-- The path of the file at a place below a directory. -/
def placedPath (directory : String) (place : List String) : String :=
  place.foldl joinPath directory

/-- Adds the units in some files below a directory. -/
def addUnits (directory : String) (units : Units) :
    List FileTree.PlacedFile → Traced Failure Units
  | [] => pure units
  | f :: fs =>
    match formatOf? f.place with
    | none => addUnits directory units fs
    | some format => do
      match String.fromUTF8? f.content with
      | none => Traced.fail (.unitUnreadable (placedPath directory f.place))
      | some content => do
        Traced.event (.unitLoaded (unitId f.place))
        addUnits directory (units.insert (unitId f.place) ⟨format, content⟩) fs

/-- The units of the directory that a path leads to. -/
def Disk.readUnits (disk : Disk) (directory : String) : Traced Failure Units := do
  match disk.get? directory with
  | some (.directory entries) => do
    let units ← addUnits directory {} (FileTree.directory entries).files
    if units.entries.isEmpty then
      Traced.fail (.generation (.unresolvedSource directory .noUnitFiles))
    else pure units
  | _ => Traced.fail (.generation (.unresolvedSource directory .missingDirectory))

end EntityProjection
