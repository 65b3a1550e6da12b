import EntityProjection.Error
import EntityProjection.Names
import EntityProjection.Options.Basic
import EntityProjection.Toml.Reader

/-!
# Settings

The settings of a run come from a settings file and from overrides given for the run; both may leave
any of them open.  An override wins over the file, the file over the default, and the defaults are
those of the target family that won.

* `Settings.ofText`: the settings that a file holds;
* `Settings.resolve`: the options that settings and overrides amount to.
-/

namespace EntityProjection

/-- The settings of a file. -/
structure Settings where
  target : Option String := none
  usePartialTypes : Option Bool := none
  container : Option String := none
  partialSuffix : Option String := none
  collectionType : Option String := none
  deriving DecidableEq, Repr, Inhabited

/-- Settings given for one run. -/
structure Overrides where
  target : Option String := none
  usePartialTypes : Option Bool := none
  container : Option String := none
  deriving DecidableEq, Repr, Inhabited

/-- Why a text is no settings file. -/
inductive SettingsFault where
  /-- It has a key that is no setting. -/
  | unknownField (name : String)
  /-- It is not TOML, or a setting has a value of another kind. -/
  | malformed
  deriving DecidableEq, Repr, Inhabited

/-- The wording of a fault. -/
def SettingsFault.message : SettingsFault → String
  | .unknownField name => s!"<toml: unknown field `{name}`>"
  | .malformed => "<toml>"

/-- A way to read the settings that a text holds. -/
abbrev SettingsDecoder := String → Except SettingsFault Settings

/-- The name of a settings file in the directory of its units. -/
def settingsFileName : String :=
  "entity-typegen.toml"

namespace Settings

open Toml (Value Table)

/-! ### Reading -/

/-- A value that has to be a text. -/
def textOf : Value → Except SettingsFault String
  | .text value => .ok value
  | _ => .error .malformed

/-- A value that has to be a truth value. -/
def truthOf : Value → Except SettingsFault Bool
  | .truth value => .ok value
  | _ => .error .malformed

/-- The settings with the value of one more key. -/
def set (s : Settings) (key : String) (v : Value) : Except SettingsFault Settings :=
  match key with
  | "target" => do return { s with target := some (← textOf v) }
  | "use_partial_types" => do return { s with usePartialTypes := some (← truthOf v) }
  | "namespace" => do return { s with container := some (← textOf v) }
  | "partial_suffix" => do return { s with partialSuffix := some (← textOf v) }
  | "collection_type" => do return { s with collectionType := some (← textOf v) }
  | _ => .error (.unknownField key)

/-- The settings with the values of more keys. -/
def setAll (s : Settings) : Table → Except SettingsFault Settings
  | [] => .ok s
  | (key, v) :: rest => do
    let s ← s.set key v
    s.setAll rest

/-- The settings of a text, whose keys are looked at in ascending order. -/
def ofText (s : String) : Except SettingsFault Settings :=
  match Toml.tableOf? s with
  | none => .error .malformed
  | some table => setAll {} (sortByName table)

/-! ### Resolution -/

/-- The options that settings amount to under overrides. -/
def resolve (s : Settings) (o : Overrides) : Except GenerationError Options := do
  let target ← match o.target <|> s.target with
    | some name => TargetFamily.ofName name
    | none => pure .zod
  let defaults := Options.ofTarget target
  return {
    target
    usePartialTypes := (o.usePartialTypes <|> s.usePartialTypes).getD defaults.usePartialTypes
    container := (o.container <|> s.container).getD defaults.container
    partialSuffix := s.partialSuffix.getD defaults.partialSuffix
    collectionType := s.collectionType.getD defaults.collectionType }

/-- The settings that spell out the given options. -/
def ofOptions (o : Options) : Settings where
  target := o.target.name
  usePartialTypes := o.usePartialTypes
  container := o.container
  partialSuffix := o.partialSuffix
  collectionType := o.collectionType

end Settings

end EntityProjection
