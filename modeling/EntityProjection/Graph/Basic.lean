import EntityProjection.Entity.Model

/-!
# The relation graph

Which entity's declaration needs which other entity's type.  Every relation field with a known
target is an edge from its owner to its target; a field with an unknown target is none.  The graph
holds the edges by owner, so its parts are views of one map:

* `names`: the entities in ascending order;
* `outgoing`: the edges of one entity in field order, and `edges` all of them by owner;
* `dependencies`: the distinct targets of one entity in the order of their first field.
-/

namespace EntityProjection

/-- The declaration of `source` needs the type of `target`, by one relation field. -/
structure RelationEdge where
  source : String
  target : String
  field : String
  multiplicity : Multiplicity
  deriving DecidableEq, Repr, Inhabited

/-- The relations between known entities, by owner. -/
structure RelationGraph where
  edgesByOwner : Std.ExtTreeMap String (List RelationEdge) := ∅

namespace RelationGraph

instance : Inhabited RelationGraph := ⟨{}⟩

/-- The entity names in ascending order. -/
def names (graph : RelationGraph) : List String :=
  graph.edgesByOwner.keys

/-- Whether a name is an entity of the graph. -/
def contains (graph : RelationGraph) (name : String) : Bool :=
  graph.edgesByOwner.contains name

/-- The edges that leave an entity, one per relation field. -/
def outgoing (graph : RelationGraph) (name : String) : List RelationEdge :=
  graph.edgesByOwner.getD name []

/-- All edges, by owner in ascending order and then in field order. -/
def edges (graph : RelationGraph) : List RelationEdge :=
  graph.names.flatMap graph.outgoing

/-- The distinct entities that an entity relates to, itself included if it does, in the order of
their first field. -/
def dependencies (graph : RelationGraph) (name : String) : List String :=
  ((graph.outgoing name).map RelationEdge.target).eraseDups

end RelationGraph

/-- The edges of an entity: its relations with a known target. -/
def Entity.edges (keys : KeyIndex) (e : Entity) : List RelationEdge :=
  (e.relations.filter fun r => keys.isKnown r.target).map fun r =>
    ⟨e.name, r.target, r.field, r.multiplicity⟩

/-- The relation graph of a model. -/
def EntityModel.graph (model : EntityModel) : RelationGraph :=
  ⟨model.entities.map fun _ e => e.edges model.keys⟩

end EntityProjection
