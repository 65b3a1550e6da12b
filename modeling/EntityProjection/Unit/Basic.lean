/-!
# Entity units

A unit is a text in YAML or JSON that defines entities.  Units are known by an identifier and kept
in the order in which they came; a unit that comes again under the same identifier takes the place
of the earlier one.
-/

namespace EntityProjection

/-- The notation of a unit. -/
inductive UnitFormat where
  | yaml
  | json
  deriving DecidableEq, Repr, Inhabited

/-- The name of a notation. -/
def UnitFormat.name : UnitFormat → String
  | .yaml => "yaml"
  | .json => "json"

/-- The notation that a file extension stands for, in any ASCII case. -/
def UnitFormat.ofExtension? (extension : String) : Option UnitFormat :=
  match extension.toLower with
  | "yaml" => some .yaml
  | "yml" => some .yaml
  | "json" => some .json
  | _ => none

/-- A unit as it is stored. -/
structure SourceUnit where
  format : UnitFormat
  content : String
  deriving DecidableEq, Repr, Inhabited

/-- Units by identifier, in order. -/
structure Units where
  entries : List (String × SourceUnit) := []
  deriving DecidableEq, Repr, Inhabited

namespace Units

/-- Puts a unit in the place of the one with the same identifier. -/
def replace (id : String) (unit : SourceUnit) : List (String × SourceUnit) →
    List (String × SourceUnit)
  | [] => []
  | (other, old) :: rest =>
    if other == id then (id, unit) :: rest else (other, old) :: replace id unit rest

/-- Adds a unit at the end, or in the place of the one with the same identifier. -/
def insert (units : Units) (id : String) (unit : SourceUnit) : Units :=
  if units.entries.any fun entry => entry.1 == id then ⟨replace id unit units.entries⟩
  else ⟨units.entries ++ [(id, unit)]⟩

/-- The identifiers in order. -/
def ids (units : Units) : List String :=
  units.entries.map Prod.fst

end Units

end EntityProjection
