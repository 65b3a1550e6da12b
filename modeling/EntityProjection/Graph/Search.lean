import EntityProjection.Graph.Basic
import EntityProjection.Graph.Cycle

/-!
# The search for cycles

A depth-first search that enters every entity once.  It keeps a stack of frames, one per entity on
the current path with the dependencies still to follow.  A dependency that is on the path closes a
cycle, which is the path from that entity on; one that was visited before and has been left is
passed over; any other is entered.

* `Search.step?`: one move of the search, none when it is over;
* `Search.after`: a number of moves, and `Search.moves` as many as the search can need, because each
  one uses up a root, an entity to leave or a relation to follow;
* `RelationGraph.findCycles`: the cycles found from the given roots on, and then from the remaining
  entities in ascending order.
-/

namespace EntityProjection

/-- An entity on the search path with the dependencies still to follow, in order. -/
structure Frame where
  entity : String
  pending : List String
  deriving DecidableEq, Repr, Inhabited

/-- A search on its way. -/
structure Search where
  /-- The names still to start from. -/
  roots : List String
  /-- The entities that are searched, the latest first. -/
  frames : List Frame := []
  /-- The current path, the latest entity first. -/
  path : List String := []
  /-- The entities on the current path. -/
  active : Std.ExtTreeSet String := ∅
  /-- The entities entered so far. -/
  visited : Std.ExtTreeSet String := ∅
  /-- The paths of the cycles recorded so far. -/
  seen : Std.ExtTreeSet (List String) := ∅
  /-- The cycles recorded so far, the latest first. -/
  found : List Cycle := []

namespace Search

/-! ### Moves -/

/-- Puts an entity on the path. -/
def enter (graph : RelationGraph) (s : Search) (name : String) : Search :=
  { s with
    frames := ⟨name, graph.dependencies name⟩ :: s.frames
    path := name :: s.path
    active := s.active.insert name
    visited := s.visited.insert name }

/-- Takes the latest entity from the path. -/
def leave (s : Search) (name : String) : Search :=
  { s with
    frames := s.frames.tail
    path := s.path.tail
    active := s.active.erase name }

/-- The path from an entity on, and the whole path for one that is not on it. -/
def closedCycle (s : Search) (name : String) : Cycle :=
  ⟨s.path.reverse.drop ((s.path.reverse.idxOf? name).getD 0)⟩

/-- Records a cycle that is not recorded yet. -/
def record (s : Search) (cycle : Cycle) : Search :=
  if s.seen.contains cycle.path then s
  else { s with seen := s.seen.insert cycle.path, found := cycle :: s.found }

/-- Starts from a root that is not visited yet. -/
def startFrom (graph : RelationGraph) (s : Search) (root : String) : Search :=
  if s.visited.contains root then s else s.enter graph root

/-- Follows a relation from the latest entity of the path. -/
def follow (graph : RelationGraph) (s : Search) (name : String) : Search :=
  if s.active.contains name then s.record (s.closedCycle name)
  else if s.visited.contains name then s
  else s.enter graph name

/-- One move of the search. -/
def step? (graph : RelationGraph) (s : Search) : Option Search :=
  match s.frames with
  | [] =>
    match s.roots with
    | [] => none
    | root :: roots => some (startFrom graph { s with roots } root)
  | frame :: frames =>
    match frame.pending with
    | [] => some (s.leave frame.entity)
    | name :: pending =>
      some (follow graph { s with frames := { frame with pending } :: frames } name)

/-! ### The run -/

/-- The search after so many moves, or at its end if that comes earlier. -/
def after (graph : RelationGraph) : Nat → Search → Search
  | 0, s => s
  | n + 1, s =>
    match s.step? graph with
    | none => s
    | some t => after graph n t

/-- The search of a graph from those of the given roots on that are entities, and then from all its
entities. -/
def start (graph : RelationGraph) (roots : List String) : Search where
  roots := (roots ++ graph.names).filter graph.contains

/-- The moves that suffice: one for each root, one to leave each entity, and one for each relation
to follow. -/
def moves (graph : RelationGraph) (roots : List String) : Nat :=
  (roots ++ graph.names).length + graph.names.length + graph.edges.length

/-- The finished search of a graph. -/
def finish (graph : RelationGraph) (roots : List String) : Search :=
  (start graph roots).after graph (moves graph roots)

end Search

/-- The cycles a search finds from the given roots on, the first one first. -/
def RelationGraph.findCycles (graph : RelationGraph) (roots : List String) : List Cycle :=
  (Search.finish graph roots).found.reverse

end EntityProjection
