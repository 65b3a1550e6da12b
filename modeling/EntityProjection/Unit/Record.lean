import EntityProjection.Entity.Basic
import EntityProjection.Unit.Fault

/-!
# Unit records

What a unit document says, attribute by attribute, before it is taken for entities.  A field with a
multiplicity and a target is a relation, whose type is kept for the case that the target is unknown;
a field with neither is a scalar and needs a type; every other field is a fault.

* `FieldRecord.toField`: one field, or its fault;
* `entitiesOf`: all entities of a document, or the first fault in document order.
-/

namespace EntityProjection

/-- A field as a document gives it. -/
structure FieldRecord where
  name : String
  type : Option String := none
  optional : Bool := false
  multiplicity : Option Multiplicity := none
  target : Option String := none
  deriving DecidableEq, Repr, Inhabited

/-- An entity as a document gives it. -/
structure EntityRecord where
  name : String
  key : Option PrimaryKey := none
  fields : List FieldRecord := []
  deriving DecidableEq, Repr, Inhabited

/-- The field of the named entity that a record describes. -/
def FieldRecord.toField (entity : String) (r : FieldRecord) : Except UnitFault Field :=
  match r.multiplicity, r.target with
  | some m, some target => .ok ⟨r.name, .relation m target, r.optional, r.type⟩
  | some _, none => .error (.missingTarget entity r.name)
  | none, some _ => .error (.missingMultiplicity entity r.name)
  | none, none =>
    match r.type with
    | some type => .ok ⟨r.name, .scalar type, r.optional, none⟩
    | none => .error (.missingType entity r.name)

/-- The fields of the named entity. -/
def fieldsOf (entity : String) : List FieldRecord → Except UnitFault (List Field)
  | [] => .ok []
  | r :: rs => do
    let field ← r.toField entity
    let fields ← fieldsOf entity rs
    return field :: fields

/-- The entity that a record describes. -/
def EntityRecord.toEntity (r : EntityRecord) : Except UnitFault Entity := do
  let fields ← fieldsOf r.name r.fields
  return ⟨r.name, r.key, fields⟩

/-- The entities that a document describes. -/
def entitiesOf : List EntityRecord → Except UnitFault (List Entity)
  | [] => .ok []
  | r :: rs => do
    let entity ← r.toEntity
    let entities ← entitiesOf rs
    return entity :: entities

end EntityProjection
