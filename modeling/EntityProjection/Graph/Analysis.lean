import EntityProjection.Graph.Broken
import EntityProjection.Graph.Order
import EntityProjection.Graph.Residual
import EntityProjection.Graph.Search

/-!
# The analysis of a model

The relation graph of a model with its emission order, the cycles a search in that order finds, and
the relations broken on them; and the test that broken relations leave no cycle.
-/

namespace EntityProjection

/-- What an entity relates to by a relation that is not broken, itself included. -/
def RelationGraph.unbroken (graph : RelationGraph) (broken : BrokenEdges) (name : String) :
    List String :=
  (graph.dependencies name).filter fun target => !broken.isBroken name target

/-- The residual test of a graph after so many entities are processed: every entity needs all it has
an unbroken relation to. -/
def RelationGraph.residual (graph : RelationGraph) (broken : BrokenEdges) (n : Nat) :
    Except DegreeUnderflow Residual :=
  let needs := graph.unbroken broken
  (Residual.start needs graph.names).after (Schedule.dependentsOf needs graph.names) n

/-- Whether the unbroken relations form no cycle: then, and only then, all entities are processed.
-/
def RelationGraph.isAcyclic (graph : RelationGraph) (broken : BrokenEdges) : Bool :=
  match graph.residual broken graph.names.length with
  | .ok r => r.processed.length == graph.names.length
  | .error _ => false

/-- All that is derived from the relations of a model. -/
structure GraphAnalysis where
  graph : RelationGraph
  cycles : List Cycle
  broken : BrokenEdges
  order : List String

instance : Inhabited GraphAnalysis := ⟨⟨default, [], default, []⟩⟩

/-- The analysis of a graph: its cycles are searched in emission order. -/
def RelationGraph.analysis (graph : RelationGraph) : GraphAnalysis :=
  let order := graph.order
  let cycles := graph.findCycles order
  ⟨graph, cycles, breakCycles cycles, order⟩

/-- The analysis of a model. -/
def EntityModel.analysis (model : EntityModel) : GraphAnalysis :=
  model.graph.analysis

end EntityProjection
