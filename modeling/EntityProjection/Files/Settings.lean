import EntityProjection.Failure
import EntityProjection.Files.Disk
import EntityProjection.Log.Traced

/-!
# Settings files

Settings are read from the file that was asked for, or else from the settings file beside the units,
if there is one.  How texts are decoded is a parameter of all this.

* `Disk.settingsPath?`: the path of the settings file;
* `Disk.loadSettings`: what it holds;
* `Disk.resolveOptions`: the options of a run.
-/

namespace EntityProjection

namespace Disk

/-- The path of the settings file beside the units of a directory, if there is such a file. -/
def settingsBeside? (disk : Disk) (directory : String) : Option String :=
  let path := joinPath directory settingsFileName
  if disk.holds path then some path else none

/-- The path of the settings file: the one that was asked for, if it exists, or else the one beside
the units. -/
def settingsPath? (disk : Disk) (asked : Option String) (directory : String) : Option String :=
  match asked with
  | some path => if disk.holds path then some path else disk.settingsBeside? directory
  | none => disk.settingsBeside? directory

/-- What the settings file at a path holds, if anything is there. -/
def loadSettings (disk : Disk) (path : String) (decode : SettingsDecoder := Settings.ofText) :
    Except Failure (Option Settings) :=
  if !disk.holds path then .ok none
  else
    match disk.readText? path with
    | none => .error (.settingsUnreadable path)
    | some text =>
      match decode text with
      | .ok settings => .ok (some settings)
      | .error fault => .error (.settingsInvalid path fault)

/-- The settings for the units of a directory. -/
def findSettings (disk : Disk) (asked : Option String) (directory : String)
    (decode : SettingsDecoder) : Traced Failure Settings := do
  match disk.settingsPath? asked directory with
  | none => pure {}
  | some path => do
    Traced.event (.settingsUsed path)
    let settings ← Traced.ofExcept (disk.loadSettings path decode)
    pure (settings.getD {})

/-- The options of a run over the units of a directory.  A settings file that was asked for has to
exist. -/
def resolveOptions (disk : Disk) (asked : Option String) (directory : String)
    (overrides : Overrides) (decode : SettingsDecoder) : Traced Failure Options := do
  match asked.filter fun path => !disk.holds path with
  | some path => Traced.fail (.settingsMissing path)
  | none => do
    let settings ← disk.findSettings asked directory decode
    Traced.ofExcept ((settings.resolve overrides).mapError .generation)

end Disk

end EntityProjection
