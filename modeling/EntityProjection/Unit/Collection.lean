import EntityProjection.Entity.Model
import EntityProjection.Unit.Basic

/-!
# Collecting a model from units

The model of some units holds the entities of each unit in turn.  How entities are read from a unit
is a parameter: an `Extractor` gets the unit and its identifier.

* `EntityModel.collect`: the model, or the first reason against it;
* `EntityModel.extractions`: how many entities each unit had, as far as collecting came.
-/

namespace EntityProjection

/-- A way to read the entities of a unit. -/
abbrev Extractor := String → SourceUnit → Except GenerationError (List Entity)

namespace EntityModel

/-- The model with the entities of more units. -/
def insertUnits (extract : Extractor) (model : EntityModel) :
    List (String × SourceUnit) → Except GenerationError EntityModel
  | [] => .ok model
  | (id, unit) :: rest => do
    let entities ← extract id unit
    let model ← model.insertAll id entities
    model.insertUnits extract rest

/-- The model of all units. -/
def collect (extract : Extractor) (units : Units) : Except GenerationError EntityModel := do
  if units.entries.isEmpty then
    throw (.unresolvedSource "<input>" .noUnits)
  let model ← empty.insertUnits extract units.entries
  if model.isEmpty then
    throw (.unresolvedSource (", ".intercalate units.ids) .noEntitiesInUnits)
  return model

/-- The units whose entities are read while units are added to a model, with the number of their
entities. -/
def extractionsFrom (extract : Extractor) (model : EntityModel) :
    List (String × SourceUnit) → List (String × Nat)
  | [] => []
  | (id, unit) :: rest =>
    match extract id unit with
    | .error _ => []
    | .ok entities =>
      (id, entities.length) ::
        match model.insertAll id entities with
        | .error _ => []
        | .ok model => model.extractionsFrom extract rest

/-- The units whose entities are read while the model is collected, with the number of their
entities. -/
def extractions (extract : Extractor) (units : Units) : List (String × Nat) :=
  empty.extractionsFrom extract units.entries

end EntityModel

end EntityProjection
