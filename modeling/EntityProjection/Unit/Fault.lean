/-!
# Faults of an entity unit

Why a unit does not yield entities.  Either its text cannot be read as a unit document, which is a
`Complaint`, or a field of the document combines its attributes in a way that means nothing.
-/

namespace EntityProjection

/-- Why a text is not a unit document. -/
inductive Complaint where
  /-- A record lacks a field it needs. -/
  | missingField (name : String)
  /-- A record has a field that is not one of its own. -/
  | unknownField (name : String)
  /-- A record has a field twice. -/
  | duplicateField (name : String)
  /-- A word stands where one of a few others is expected. -/
  | unknownVariant (name : String)
  /-- The text is broken, or a value has the wrong shape. -/
  | malformed
  deriving DecidableEq, Repr, Inhabited

/-- The wording of a complaint. -/
def Complaint.message : Complaint → String
  | .missingField name => s!"<decoder: missing field `{name}`>"
  | .unknownField name => s!"<decoder: unknown field `{name}`>"
  | .duplicateField name => s!"<decoder: duplicate field `{name}`>"
  | .unknownVariant name => s!"<decoder: unknown variant `{name}`>"
  | .malformed => "<decoder>"

/-- Why a unit yields no entities. -/
inductive UnitFault where
  /-- A field says how many instances it relates to, but not of what. -/
  | missingTarget (entity field : String)
  /-- A field names a target, but not how many of its instances. -/
  | missingMultiplicity (entity field : String)
  /-- A field that is no relation has no type. -/
  | missingType (entity field : String)
  /-- The text is not a unit document. -/
  | undecodable (complaint : Complaint)
  deriving DecidableEq, Repr, Inhabited

/-- The wording of a fault. -/
def UnitFault.message : UnitFault → String
  | .missingTarget entity field => s!"relation field '{entity}.{field}' is missing a target"
  | .missingMultiplicity entity field =>
    s!"field '{entity}.{field}' has a target but no relation multiplicity"
  | .missingType entity field => s!"scalar field '{entity}.{field}' is missing a type"
  | .undecodable complaint => complaint.message

end EntityProjection
