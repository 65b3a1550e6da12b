import EntityProjection.Options.Target

/-!
# Projection options

The resolved settings of one generation run.  They are fixed before any entity is looked at.
-/

namespace EntityProjection

/-- The settings of one run. -/
structure Options where
  target : TargetFamily
  /-- Whether an unbroken relation refers to the partial declaration of its target. -/
  usePartialTypes : Bool
  /-- The name of the container of all declarations. -/
  container : String
  /-- What follows an entity name in the name of its partial declaration. -/
  partialSuffix : String
  /-- The name of the declaration that wraps the items of a to-many relation. -/
  collectionType : String
  deriving DecidableEq, Repr

namespace Options

/-- The default settings for a family. -/
def ofTarget (target : TargetFamily) : Options where
  target := target
  usePartialTypes := target.usesPartialTypes
  container := "Entities"
  partialSuffix := "Partial"
  collectionType := "Collection"

instance : Inhabited Options := ⟨ofTarget .zod⟩

/-- The name of the partial declaration of an entity. -/
def partialName (options : Options) (entity : String) : String :=
  entity ++ options.partialSuffix

end Options

end EntityProjection
