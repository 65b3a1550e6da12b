import EntityProjection.Error
import EntityProjection.Json.Unit
import EntityProjection.Text.Blank
import EntityProjection.Unit.Basic
import EntityProjection.Yaml.Unit

/-!
# The entities of a unit

A unit is decoded in its notation, and its records are taken for entities, all of them or none.  A
blank unit holds no entities and is not decoded.  How texts are decoded is a parameter of all this.

* `SourceUnit.entities`, `extractWith`: the entities of a unit under a decoder, or the first fault;
* `extractEntities`: the same under the decoders of the two notations.
-/

namespace EntityProjection

/-- A way to read the records that a text in some notation lists. -/
abbrev Decoder := UnitFormat → String → Except Complaint (List EntityRecord)

/-- The records that a text in the given notation lists. -/
def UnitFormat.decode : UnitFormat → String → Except Complaint (List EntityRecord)
  | .yaml => Yaml.decodeUnit
  | .json => JsonDraft.decodeUnit

/-- The entities of a unit, or what is wrong with it. -/
def SourceUnit.entities (decode : Decoder) (unit : SourceUnit) : Except UnitFault (List Entity) :=
  if Text.isBlankText unit.content then .ok []
  else
    match decode unit.format unit.content with
    | .ok records => entitiesOf records
    | .error complaint => .error (.undecodable complaint)

/-- The entities of the unit with the given identifier, read by the given decoder. -/
def extractWith (decode : Decoder) (id : String) (unit : SourceUnit) :
    Except GenerationError (List Entity) :=
  (unit.entities decode).mapError (.invalidUnit id)

/-- The entities of the unit with the given identifier. -/
def extractEntities (id : String) (unit : SourceUnit) : Except GenerationError (List Entity) :=
  extractWith UnitFormat.decode id unit

end EntityProjection
