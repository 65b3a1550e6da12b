import EntityProjection.Error
import EntityProjection.Options.Settings

/-!
# Failures

Why a command does not do what it was asked for: a run stops, or files cannot be used as needed.
What the system says about a failed access to a file is not part of the wording.
-/

namespace EntityProjection

/-- Why a command fails. -/
inductive Failure where
  /-- A run stops. -/
  | generation (e : GenerationError)
  /-- The units of a directory do not make up a model. -/
  | collection (directory : String) (e : GenerationError)
  /-- A settings file that was asked for does not exist. -/
  | settingsMissing (path : String)
  /-- A settings file is no file or holds no text. -/
  | settingsUnreadable (path : String)
  /-- A settings file holds something else. -/
  | settingsInvalid (path : String) (fault : SettingsFault)
  /-- A unit file holds no text. -/
  | unitUnreadable (path : String)
  /-- The directory of an output file cannot be made. -/
  | directoryNotMade (path : String)
  /-- An output file cannot be written. -/
  | outputNotWritten (path : String)
  /-- A check found errors. -/
  | lintErrors (count : Nat)
  deriving DecidableEq, Repr, Inhabited

/-- What stands for the system's words about a failed access. -/
def accessFault : String := "<io>"

/-- The wording of a failure. -/
def Failure.message : Failure → String
  | .generation e => e.message
  | .collection directory e => s!"Failed to collect entities from {directory}: {e.message}"
  | .settingsMissing path => s!"Config file not found: {path}"
  | .settingsUnreadable path => s!"Failed to read generator config: {path}: {accessFault}"
  | .settingsInvalid path fault => s!"Failed to parse generator config: {path}: {fault.message}"
  | .unitUnreadable path => s!"Failed to read entity unit: {path}: {accessFault}"
  | .directoryNotMade path => s!"Failed to create directory for {path}: {accessFault}"
  | .outputNotWritten path => s!"Failed to write generated types: {path}: {accessFault}"
  | .lintErrors count => s!"lint found {count} error(s)"

end EntityProjection
