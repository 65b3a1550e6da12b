import Std.Data.ExtTreeSet

/-!
# Names

Two things that are done with lists by name: where names must not repeat, `firstTaken?` finds the
first one that does, and `sortByName` puts what is named into ascending order.
-/

namespace EntityProjection

/-- The first name of a list that is taken already or stands in the list before. -/
def firstTaken? (taken : Std.ExtTreeSet String) : List String → Option String
  | [] => none
  | name :: names =>
    if taken.contains name then some name else firstTaken? (taken.insert name) names

/-- A named value put before the first one of a list whose name is greater. -/
def insertByName {α : Type} (entry : String × α) : List (String × α) → List (String × α)
  | [] => [entry]
  | other :: rest =>
    if entry.1 < other.1 then entry :: other :: rest else other :: insertByName entry rest

/-- Named values in ascending order of their names. -/
def sortByName {α : Type} : List (String × α) → List (String × α)
  | [] => []
  | entry :: rest => insertByName entry (sortByName rest)

end EntityProjection
