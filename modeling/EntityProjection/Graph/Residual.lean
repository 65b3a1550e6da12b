import EntityProjection.Graph.Schedule

/-!
# The residual test

Whether names need each other in a circle is tested by taking them off one after the other.  Each
name has a degree, which is the number of its needs that are still there.  A name of degree zero is
ready; when it is processed, the degrees of the names that need it go down by one each, and those
that reach zero become ready.  Of the ready names the one that became ready last goes next.

* `Residual.start`: every name with the number of its needs;
* `Residual.lower`, `Residual.process`: one degree goes down, and one name is processed;
* `Residual.after`: the test after a number of names, which is over when no name is ready.
-/

namespace EntityProjection

/-- The degree of a name would go below zero. -/
structure DegreeUnderflow where
  name : String
  deriving DecidableEq, Repr, Inhabited

/-- A residual test on its way. -/
structure Residual where
  /-- Each name with the number of its needs that are not processed yet. -/
  degrees : Std.ExtTreeMap String Nat := ∅
  /-- The names to process, the next one first. -/
  ready : List String := []
  /-- The processed names, the latest first. -/
  processed : List String := []

namespace Residual

instance : Inhabited Residual := ⟨{}⟩

/-- All names with the number of their needs.  Those that need nothing are ready, the greatest of
them first. -/
def start (needs : String → List String) (names : List String) : Residual :=
  let degrees := Std.ExtTreeMap.ofList (names.map fun name => (name, (needs name).length))
  { degrees, ready := (degrees.filter fun _ degree => degree == 0).keys.reverse }

/-- One need of a name is met: its degree goes down, and the name is ready if nothing is left.  A
degree of zero cannot go down. -/
def lower (r : Residual) (name : String) : Except DegreeUnderflow Residual :=
  match r.degrees[name]? with
  | none => .ok r
  | some 0 => .error ⟨name⟩
  | some (n + 1) =>
    .ok { r with
      degrees := r.degrees.insert name n
      ready := if n == 0 then name :: r.ready else r.ready }

/-- Processes a name: one need is met of each name that needs it. -/
def process (dependents : Std.ExtTreeMap String (List String)) (r : Residual) (name : String) :
    Except DegreeUnderflow Residual :=
  (dependents.getD name []).foldlM lower { r with processed := name :: r.processed }

/-- The test after so many names are processed, or earlier if no name is ready. -/
def after (dependents : Std.ExtTreeMap String (List String)) :
    Nat → Residual → Except DegreeUnderflow Residual
  | 0, r => .ok r
  | n + 1, r =>
    match r.ready with
    | [] => .ok r
    | name :: ready => do
      let next ← process dependents { r with ready } name
      after dependents n next

end Residual

end EntityProjection
