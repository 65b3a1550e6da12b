import Std.Data.ExtTreeMap
import EntityProjection.Entity.Basic

/-!
# The key index

The names of all known entities with their primary keys.  A name in the index is a known entity,
and its key is none if the entity has no key; a name outside the index has no key either, so that
`isKnown` tells the two cases apart.
-/

namespace EntityProjection

/-- The known entity names, each with the key of its entity. -/
structure KeyIndex where
  entries : Std.ExtTreeMap String (Option PrimaryKey) := ∅

namespace KeyIndex

/-- The index of no entities. -/
def empty : KeyIndex := {}

instance : Inhabited KeyIndex := ⟨empty⟩

/-- Makes an entity known with the given key, in place of an earlier one. -/
def insert (index : KeyIndex) (name : String) (key : Option PrimaryKey) : KeyIndex :=
  ⟨index.entries.insert name key⟩

/-- Whether a name is a known entity. -/
def isKnown (index : KeyIndex) (name : String) : Bool :=
  index.entries.contains name

/-- The key of a known entity that has one. -/
def key? (index : KeyIndex) (name : String) : Option PrimaryKey :=
  index.entries[name]?.join

/-- The number of known entities. -/
def size (index : KeyIndex) : Nat :=
  index.entries.size

end KeyIndex

end EntityProjection
