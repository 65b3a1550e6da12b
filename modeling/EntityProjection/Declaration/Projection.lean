import EntityProjection.Declaration.Basic
import EntityProjection.Entity.KeyIndex
import EntityProjection.Graph.Broken
import EntityProjection.Options.Basic

/-!
# The projection of entities

Every entity becomes a main declaration, and one with a key also a partial declaration with the
same members, of which only the key is required.  The members are the fields:

* a scalar keeps its type;
* a relation to an unknown entity gets its declared type, or `unknown` if it has none;
* a relation to a known entity gets an element type: an empty object if the target has no key, a
  reference to the partial declaration of the target if the relation is unbroken and partial types
  are used, and otherwise the key stub of the target, an object with the key only;
* a to-many relation offers its element in a collection or in an array.
-/

namespace EntityProjection

/-- The type of a relation about which nothing is known. -/
def opaqueType : String := "unknown"

/-- What decides the types of relation fields. -/
structure Projection where
  keys : KeyIndex
  broken : BrokenEdges
  options : Options

/-- The object with nothing but the key. -/
def PrimaryKey.stub (key : PrimaryKey) : TypeExpr :=
  .object [⟨key.name, false, .verbatim key.type⟩]

namespace Projection

/-- What a relation from one entity to another known one holds an instance of. -/
def element (p : Projection) (owner target : String) : TypeExpr :=
  match p.keys.key? target with
  | none => .object []
  | some key =>
    if p.options.usePartialTypes && !p.broken.isBroken owner target then
      .reference (p.options.partialName target)
    else key.stub

/-- The type of a field of an entity. -/
def fieldType (p : Projection) (owner : String) (f : Field) : TypeExpr :=
  match f.kind with
  | .scalar type => .verbatim type
  | .relation multiplicity target =>
    if p.keys.isKnown target then
      match multiplicity with
      | .one => p.element owner target
      | .many =>
        .union [.generic p.options.collectionType [p.element owner target],
          .array (p.element owner target)]
    else .verbatim (f.declared.getD opaqueType)

/-- The main declaration of an entity. -/
def main (p : Projection) (e : Entity) : Declaration where
  name := e.name
  entity := e.name
  kind := .main
  members := e.fields.map fun f => ⟨f.name, f.optional, p.fieldType e.name f⟩

/-- The partial declaration of an entity with the given key. -/
def companion (p : Projection) (e : Entity) (key : PrimaryKey) : Declaration where
  name := p.options.partialName e.name
  entity := e.name
  kind := .companion
  members := e.fields.map fun f => ⟨f.name, f.name != key.name, p.fieldType e.name f⟩

/-- The declarations of an entity. -/
def declarations (p : Projection) (e : Entity) : List Declaration :=
  match e.key with
  | none => [p.main e]
  | some key => [p.main e, p.companion e key]

end Projection

end EntityProjection
