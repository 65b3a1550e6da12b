import Std.Data.ExtTreeSet
import EntityProjection.Graph.Cycle

/-!
# Broken relations

The pairs of entities whose relation is reduced to a key stub so that no cycle is left.  A pair
stands for all relation fields from the one entity to the other.

* `BrokenEdges`: a finite set of pairs, listed by owner and then by target;
* `breakCycles`: longer cycles first, and of equal ones the earlier first; a cycle with a broken
  pair is left alone, any other loses its closing pair.
-/

namespace EntityProjection

/-- Pairs are ranked by owner and then by target. -/
def edgeOrder : String × String → String × String → Ordering :=
  compareLex (compareOn Prod.fst) (compareOn Prod.snd)

instance : Std.TransCmp edgeOrder :=
  inferInstanceAs (Std.TransCmp (compareLex (compareOn Prod.fst) (compareOn Prod.snd)))

/-- The broken pairs. -/
structure BrokenEdges where
  edges : Std.ExtTreeSet (String × String) edgeOrder := ∅

namespace BrokenEdges

/-- Nothing is broken. -/
def empty : BrokenEdges := {}

instance : Inhabited BrokenEdges := ⟨empty⟩

/-- Whether a pair is broken. -/
def isBroken (broken : BrokenEdges) (source target : String) : Bool :=
  broken.edges.contains (source, target)

/-- Breaks a pair. -/
def add (broken : BrokenEdges) (source target : String) : BrokenEdges :=
  ⟨broken.edges.insert (source, target)⟩

/-- Breaks a pair and tells whether it was unbroken. -/
def insert (broken : BrokenEdges) (source target : String) : Bool × BrokenEdges :=
  (!broken.isBroken source target, broken.add source target)

/-- The broken pairs in ascending order. -/
def toList (broken : BrokenEdges) : List (String × String) :=
  broken.edges.toList

/-- The number of broken pairs. -/
def size (broken : BrokenEdges) : Nat :=
  broken.edges.size

/-- Whether no pair is broken. -/
def isEmpty (broken : BrokenEdges) : Bool :=
  broken.size == 0

/-- The set of the given pairs. -/
def ofList (pairs : List (String × String)) : BrokenEdges :=
  pairs.foldl (fun broken pair => broken.add pair.1 pair.2) empty

/-- The broken pairs grouped by owner, owners and targets in ascending order. -/
def byOwner (broken : BrokenEdges) : List (String × List String) :=
  broken.toList.foldr (fun pair groups =>
    match groups with
    | (owner, targets) :: rest =>
      if owner == pair.1 then (owner, pair.2 :: targets) :: rest
      else (pair.1, [pair.2]) :: groups
    | [] => [(pair.1, [pair.2])]) []

/-- The pair to break on a cycle: the closing one, unless the cycle has a broken pair. -/
def toBreak? (broken : BrokenEdges) (cycle : Cycle) : Option (String × String) :=
  if cycle.edges.any fun edge => broken.isBroken edge.1 edge.2 then none else cycle.closingEdge?

/-- Breaks the closing pair of a cycle unless the cycle has a broken pair. -/
def breakCycle (broken : BrokenEdges) (cycle : Cycle) : BrokenEdges :=
  match broken.toBreak? cycle with
  | none => broken
  | some edge => broken.add edge.1 edge.2

/-- The pairs that are broken on more cycles, in the order in which that happens. -/
def breakingSteps (broken : BrokenEdges) : List Cycle → List (String × String)
  | [] => []
  | cycle :: cycles =>
    (broken.toBreak? cycle).toList ++ (broken.breakCycle cycle).breakingSteps cycles

end BrokenEdges

/-- Enters a cycle before the first that is not longer. -/
def insertByLength (cycle : Cycle) : List Cycle → List Cycle
  | [] => [cycle]
  | other :: rest =>
    if other.length ≤ cycle.length then cycle :: other :: rest
    else other :: insertByLength cycle rest

/-- Cycles in the order in which they are broken: longer ones first, else as given. -/
def breakingOrder (cycles : List Cycle) : List Cycle :=
  cycles.foldr insertByLength []

/-- The pairs to break so that none of the given cycles is left. -/
def breakCycles (cycles : List Cycle) : BrokenEdges :=
  (breakingOrder cycles).foldl BrokenEdges.breakCycle .empty

/-- The pairs to break, in the order in which they are found. -/
def breakingSteps (cycles : List Cycle) : List (String × String) :=
  BrokenEdges.empty.breakingSteps (breakingOrder cycles)

end EntityProjection
