import EntityProjection.Entity.KeyIndex
import EntityProjection.Error
import EntityProjection.Names

/-!
# The entity model

All entities of one run.  Entities arrive one after the other; each must have a new name, distinct
field names, and a key field of the key's type if it lists the key field at all.  The model keeps
the arrival order for display, and everything that decides output goes through `EntityModel.names`,
which is sorted, or through look-ups by name.

* `Entity.normalize`: the entity as the model holds it, with its key field present and required;
* `EntityModel.insert`: one arrival, or the first reason against it;
* `EntityModel.ofEntities`: the model of a list of entities.
-/

namespace EntityProjection

/-! ### Normal entities -/

/-- Makes every field of the given name required. -/
def requireField (name : String) (fields : List Field) : List Field :=
  fields.map fun f => if f.name == name then { f with optional := false } else f

/-- The fields of a keyed entity with the key field among them: it stands where the source lists it,
and then has to be a scalar of the key's type, or else first. -/
def Entity.keyedFields (e : Entity) (key : PrimaryKey) : Except GenerationError (List Field) :=
  match e.fields.find? fun f => f.name == key.name with
  | none => .ok (key.toField :: e.fields)
  | some f =>
    if f.kind = .scalar key.type then
      .ok (requireField key.name e.fields)
    else
      .error (.keyMismatch e.name key.name key.type f.kind)

/-- The entity as the model holds it: no field name twice, and the key field listed and required. -/
def Entity.normalize (e : Entity) : Except GenerationError Entity :=
  match firstTaken? ∅ (e.fields.map Field.name) with
  | some field => .error (.duplicateField e.name field)
  | none =>
    match e.key with
    | none => .ok e
    | some key => do
      let fields ← e.keyedFields key
      return { e with fields }

/-! ### The model -/

/-- The entities of a run, with the unit each of them came from. -/
structure EntityModel where
  /-- The names in arrival order. -/
  arrivals : Array String := #[]
  entities : Std.ExtTreeMap String Entity := ∅
  /-- The unit that defined each entity. -/
  origins : Std.ExtTreeMap String String := ∅
  keys : KeyIndex := {}

namespace EntityModel

/-- The model without entities. -/
def empty : EntityModel := {}

instance : Inhabited EntityModel := ⟨empty⟩

/-- The entity of a name. -/
def get? (model : EntityModel) (name : String) : Option Entity :=
  model.entities[name]?

/-- The unit that defined the entity of a name. -/
def source? (model : EntityModel) (name : String) : Option String :=
  model.origins[name]?

/-- The entity names in ascending order. -/
def names (model : EntityModel) : List String :=
  model.entities.keys

/-- The entities in arrival order. -/
def toList (model : EntityModel) : List Entity :=
  model.arrivals.toList.filterMap model.get?

/-- The number of entities. -/
def size (model : EntityModel) : Nat :=
  model.entities.size

/-- Whether there are no entities. -/
def isEmpty (model : EntityModel) : Bool :=
  model.size == 0

/-- The model with one more entity, which came from the given unit. -/
def insert (model : EntityModel) (source : String) (e : Entity) :
    Except GenerationError EntityModel :=
  match model.source? e.name with
  | some first => .error (.duplicateEntity e.name first source)
  | none => do
    let entity ← e.normalize
    return {
      arrivals := model.arrivals.push entity.name
      entities := model.entities.insert entity.name entity
      origins := model.origins.insert entity.name source
      keys := model.keys.insert entity.name entity.key }

/-- The model with more entities, all from the given unit, in order. -/
def insertAll (model : EntityModel) (source : String) :
    List Entity → Except GenerationError EntityModel
  | [] => .ok model
  | e :: es => do
    let model ← model.insert source e
    model.insertAll source es

/-- The model with more entities, the first of them being the `i`-th of a list without units. -/
def insertInline (model : EntityModel) (i : Nat) :
    List Entity → Except GenerationError EntityModel
  | [] => .ok model
  | e :: es => do
    let model ← model.insert s!"inline#{i}" e
    model.insertInline (i + 1) es

/-- The model of a list of entities. -/
def ofEntities (entities : List Entity) : Except GenerationError EntityModel := do
  let model ← empty.insertInline 0 entities
  if model.isEmpty then
    throw (.unresolvedSource "<inline>" .noEntities)
  return model

end EntityModel

end EntityProjection
