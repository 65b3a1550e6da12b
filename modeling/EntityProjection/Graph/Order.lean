import EntityProjection.Graph.Basic
import EntityProjection.Graph.Schedule

/-!
# The emission order

Declarations are emitted with dependencies first.  An entity needs the distinct other entities it
relates to; a relation to itself does not hold it back, and broken relations count like all others.
Entities that wait for each other in a circle, and those that wait for them, come last: by the
number of needs still unmet, then by the number of their relations, then by name.
-/

namespace EntityProjection

/-- An entity left over by the schedule, with what ranks it among its like. -/
structure Leftover where
  /-- The number of distinct other entities it still waits for. -/
  unmet : Nat
  /-- The number of its relations to known entities. -/
  relations : Nat
  name : String
  deriving DecidableEq, Repr, Inhabited

/-- Left-over entities are ranked by unmet needs, then by relations, then by name. -/
def Leftover.rank : Leftover → Leftover → Ordering :=
  compareLex (compareOn Leftover.unmet)
    (compareLex (compareOn Leftover.relations) (compareOn Leftover.name))

instance : Std.TransCmp Leftover.rank :=
  inferInstanceAs (Std.TransCmp (compareLex (compareOn Leftover.unmet)
    (compareLex (compareOn Leftover.relations) (compareOn Leftover.name))))

namespace RelationGraph

/-- What an entity waits for: the other entities it relates to. -/
def needs (graph : RelationGraph) (name : String) : List String :=
  (graph.dependencies name).filter fun target => target != name

/-- The schedule of all entities under their needs. -/
def schedule (graph : RelationGraph) : Schedule :=
  .ofNeeds graph.needs graph.names

/-- The entities that wait for each other in circles, and those that wait for them. -/
def leftover (graph : RelationGraph) : List Leftover :=
  graph.schedule.leftover.map fun (name, unmet) => ⟨unmet, (graph.outgoing name).length, name⟩

/-- The left-over entities by rank. -/
def rankedLeftover (graph : RelationGraph) : List Leftover :=
  (Std.ExtTreeSet.ofList graph.leftover Leftover.rank).toList

/-- All entities, dependencies first. -/
def order (graph : RelationGraph) : List String :=
  graph.schedule.order ++ graph.rankedLeftover.map Leftover.name

end RelationGraph

end EntityProjection
