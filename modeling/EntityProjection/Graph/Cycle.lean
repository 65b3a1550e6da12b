/-!
# Cycles

A cycle is a list of entities of which each relates to the next and the last to the first.
-/

namespace EntityProjection

/-- A circle of entities, from the one where it was entered. -/
structure Cycle where
  path : List String
  deriving DecidableEq, Repr, Inhabited

namespace Cycle

/-- The number of entities on the cycle. -/
def length (cycle : Cycle) : Nat :=
  cycle.path.length

/-- The relations along the cycle, the closing one last. -/
def edges (cycle : Cycle) : List (String × String) :=
  match cycle.path with
  | [] => []
  | first :: rest => (first :: rest).zip (rest ++ [first])

/-- The relation from the last entity back to the first. -/
def closingEdge? (cycle : Cycle) : Option (String × String) :=
  match cycle.path.getLast?, cycle.path.head? with
  | some last, some first => some (last, first)
  | _, _ => none

end Cycle

end EntityProjection
