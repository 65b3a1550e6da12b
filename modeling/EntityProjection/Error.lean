import EntityProjection.Entity.Basic
import EntityProjection.Options.Target
import EntityProjection.Unit.Fault

/-!
# Errors of a generation run

The causes that stop a run before it has any output, and their wording.  Conditions that only make
the output poorer, such as a relation to an unknown entity, are findings and not errors.
-/

namespace EntityProjection

/-- Why a source of entities has none. -/
inductive SourceGap where
  | noUnits
  | noEntitiesInUnits
  | noEntities
  | missingDirectory
  | noUnitFiles
  deriving DecidableEq, Repr, Inhabited

/-- The wording of a gap. -/
def SourceGap.message : SourceGap → String
  | .noUnits => "no entity-definition units supplied"
  | .noEntitiesInUnits => "units contain no entities"
  | .noEntities => "no entities supplied"
  | .missingDirectory => "directory does not exist"
  | .noUnitFiles => "no .yaml, .yml or .json entity units found"

/-- Why a run stops. -/
inductive GenerationError where
  /-- A source holds no entities. -/
  | unresolvedSource (location : String) (gap : SourceGap)
  /-- No target family has the name. -/
  | unsupportedTarget (name : String)
  /-- A unit yields no entities. -/
  | invalidUnit (unit : String) (fault : UnitFault)
  /-- Two entities have one name. -/
  | duplicateEntity (name first second : String)
  /-- Two fields of an entity have one name. -/
  | duplicateField (entity field : String)
  /-- Two declarations would have one name. -/
  | declarationCollision (name : String)
  /-- A declaration, the container or the collection is not named by an identifier. -/
  | invalidDeclarationName (name : String)
  /-- The key field is listed with another type than the key has, or as a relation. -/
  | keyMismatch (entity field keyType : String) (kind : FieldKind)
  deriving DecidableEq, Repr, Inhabited

/-- What a field holds, as a message says it. -/
def FieldKind.phrase : FieldKind → String
  | .scalar type => type
  | .relation .one target => s!"relation to {target}"
  | .relation .many target => s!"relation to many {target}"

/-- The wording of an error. -/
def GenerationError.message : GenerationError → String
  | .unresolvedSource location gap => s!"unresolved entity source '{location}': {gap.message}"
  | .unsupportedTarget name =>
    let supported := ", ".intercalate (TargetFamily.all.map TargetFamily.name)
    s!"unsupported projection target '{name}' (supported: {supported})"
  | .invalidUnit unit fault => s!"invalid entity unit '{unit}': {fault.message}"
  | .duplicateEntity name first second =>
    s!"entity '{name}' is defined in both '{first}' and '{second}'"
  | .duplicateField entity field =>
    s!"entity '{entity}' declares field '{field}' more than once"
  | .declarationCollision name => s!"declaration name '{name}' would be emitted twice"
  | .invalidDeclarationName name => s!"'{name}' is not a valid declaration name"
  | .keyMismatch entity field keyType kind =>
    s!"entity '{entity}' declares primary key '{field}' as '{keyType}' " ++
      s!"but the field as '{kind.phrase}'"

/-- The family a text names, or the error that none does. -/
def TargetFamily.ofName (text : String) : Except GenerationError TargetFamily :=
  match ofName? text with
  | some family => .ok family
  | none => .error (.unsupportedTarget text)

end EntityProjection
