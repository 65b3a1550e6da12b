import EntityProjection.Entity.Basic
import EntityProjection.Text.Identifier

/-!
# Findings

What a check of a model reports: conditions that make generation fail, that make its output poorer,
or that go against good practice.  A finding is its cause; location, severity, wording and
suggestion are read off the cause.
-/

namespace EntityProjection

/-- How serious a finding is. -/
inductive Severity where
  /-- Generation fails or its output is invalid. -/
  | error
  /-- The output is poorer than it could be. -/
  | warning
  /-- Good practice asks for something else. -/
  | info
  deriving DecidableEq, Repr, Inhabited

/-- The settings that must be identifiers. -/
inductive NameSetting where
  | container
  | collectionType
  deriving DecidableEq, Repr, Inhabited

/-- The key of a setting. -/
def NameSetting.key : NameSetting → String
  | .container => "namespace"
  | .collectionType => "collection_type"

/-- What a declaration name comes from. -/
inductive NameOrigin where
  | collection
  | entity (name : String)
  | companion (owner : String)
  deriving DecidableEq, Repr, Inhabited

/-- The origin as a message says it. -/
def NameOrigin.phrase : NameOrigin → String
  | .collection => "the collection container"
  | .entity name => s!"entity '{name}'"
  | .companion owner => s!"the partial of '{owner}'"

/-- A finding. -/
inductive Finding where
  /-- A setting that has to be an identifier is none. -/
  | invalidSetting (setting : NameSetting) (value : String)
  /-- The suffix of partial declarations spoils their names. -/
  | invalidSuffix (suffix : String)
  /-- An entity is not named by an identifier. -/
  | invalidEntityName (entity : String)
  /-- An entity is named by an identifier that is not in PascalCase. -/
  | entityNameCasing (entity : String)
  /-- An entity has no key. -/
  | missingKey (entity : String)
  /-- A relation has an unknown target and gets a fallback type. -/
  | unresolvedTarget (entity : String) (relation : Relation) (fallback : String)
  /-- A relation has a target without a key. -/
  | keylessTarget (entity : String) (relation : Relation)
  /-- A declaration name is used again. -/
  | nameCollision (name : String) (first again : NameOrigin)
  deriving DecidableEq, Repr, Inhabited

namespace Finding

/-- How serious a finding is. -/
def severity : Finding → Severity
  | invalidSetting .. => .error
  | invalidSuffix .. => .error
  | invalidEntityName .. => .error
  | entityNameCasing .. => .info
  | missingKey .. => .info
  | unresolvedTarget .. => .warning
  | keylessTarget .. => .warning
  | nameCollision .. => .error

/-- The code of a finding. -/
def code : Finding → String
  | invalidSetting .. => "invalid_identifier"
  | invalidSuffix .. => "invalid_identifier"
  | invalidEntityName .. => "invalid_identifier"
  | entityNameCasing .. => "entity_name_casing"
  | missingKey .. => "missing_primary_key"
  | unresolvedTarget .. => "unresolved_relation_target"
  | keylessTarget .. => "target_without_primary_key"
  | nameCollision .. => "declaration_collision"

/-- What a finding is about. -/
def location : Finding → String
  | invalidSetting setting _ => s!"config:{setting.key}"
  | invalidSuffix _ => "config:partial_suffix"
  | invalidEntityName entity => s!"entity:{entity}"
  | entityNameCasing entity => s!"entity:{entity}"
  | missingKey entity => s!"entity:{entity}"
  | unresolvedTarget entity relation _ => s!"field:{entity}.{relation.field}"
  | keylessTarget entity relation => s!"field:{entity}.{relation.field}"
  | nameCollision name _ _ => s!"declaration:{name}"

/-- The wording of a finding. -/
def message : Finding → String
  | invalidSetting setting value => s!"{setting.key} '{value}' is not a valid identifier"
  | invalidSuffix suffix =>
    s!"partial_suffix '{suffix}' would produce invalid declaration names"
  | invalidEntityName entity => s!"Entity name '{entity}' is not a valid declaration name"
  | entityNameCasing entity => s!"Entity name '{entity}' should be PascalCase"
  | missingKey entity =>
    s!"Entity '{entity}' has no primary key; no partial declaration is emitted " ++
      "and relations to it become '\x7b\x7d'"
  | unresolvedTarget _ relation fallback =>
    s!"Relation ({relation.multiplicity.word}) targets unknown entity '{relation.target}'; " ++
      s!"emitted as '{fallback}'"
  | keylessTarget _ relation =>
    s!"Relation targets '{relation.target}', which has no primary key; emitted as an empty object"
  | nameCollision name first again =>
    s!"'{name}' is declared by both {first.phrase} and {again.phrase}"

/-- The name that a finding proposes instead of the one it is about. -/
def proposedName? : Finding → Option String
  | invalidSetting _ value => some (Text.toPascalCase value)
  | invalidEntityName entity => some (Text.toPascalCase entity)
  | entityNameCasing entity => some (Text.toPascalCase entity)
  | _ => none

/-- What can be done about a finding. -/
def suggestion? : Finding → Option String
  | invalidSetting _ value => some s!"Use '{Text.toPascalCase value}'"
  | invalidSuffix _ => none
  | invalidEntityName entity => some s!"Rename to '{Text.toPascalCase entity}'"
  | entityNameCasing entity => some s!"Rename to '{Text.toPascalCase entity}'"
  | missingKey _ => some "Declare a primary_key for the entity"
  | unresolvedTarget _ relation _ =>
    some s!"Define entity '{relation.target}' or fix the target name"
  | keylessTarget _ relation => some s!"Declare a primary_key on '{relation.target}'"
  | nameCollision .. => some "Rename the entity or change partial_suffix / collection_type"

end Finding

end EntityProjection
