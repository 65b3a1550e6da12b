import Std.Data.ExtTreeMap
import Std.Data.ExtTreeSet

/-!
# Schedules

Emission of names so that each comes after all it needs.  A name is ready when everything it needs
has been emitted; of the ready names the smallest goes next.  Names that need each other in a circle
never become ready and are left over, together with all that need them.

* `Schedule.start`: every name with the number of its needs;
* `Schedule.emit`: the emission of one ready name, which releases the names that need it;
* `Schedule.after`: a number of emissions, after which no name is ready if the number is that of all
  names (`ready_after_eq_none`).
-/

namespace EntityProjection

/-- A schedule on its way. -/
structure Schedule where
  /-- The names that are not ready, each with the number of its needs not yet emitted. -/
  waiting : Std.ExtTreeMap String Nat := ∅
  /-- The names that need nothing more. -/
  ready : Std.ExtTreeSet String := ∅
  /-- The names emitted so far, the latest first. -/
  emitted : List String := []

namespace Schedule

instance : Inhabited Schedule := ⟨{}⟩

/-! ### Steps -/

/-- Enters a name with the number of its needs. -/
def enter (s : Schedule) (name : String) : Nat → Schedule
  | 0 => { s with ready := s.ready.insert name }
  | n + 1 => { s with waiting := s.waiting.insert name (n + 1) }

/-- One need of a waiting name is met; the name becomes ready with its last need. -/
def release (s : Schedule) (name : String) : Schedule :=
  match s.waiting[name]? with
  | none => s
  | some (n + 2) => { s with waiting := s.waiting.insert name (n + 1) }
  | some _ => { s with waiting := s.waiting.erase name, ready := s.ready.insert name }

/-- Emits a ready name and releases the names that need it. -/
def emit (dependents : Std.ExtTreeMap String (List String)) (s : Schedule) (name : String) :
    Schedule :=
  (dependents.getD name []).foldl release
    { s with ready := s.ready.erase name, emitted := name :: s.emitted }

/-! ### Progress -/

/-- The number of names still to be emitted or left over. -/
def remaining (s : Schedule) : Nat :=
  s.waiting.size + s.ready.size

theorem waiting_contains {s : Schedule} {name : String} {n : Nat}
    (h : s.waiting[name]? = some n) : s.waiting.contains name = true := by
  rw [Std.ExtTreeMap.contains_eq_isSome_getElem?, h]
  rfl

theorem waiting_size_pos {s : Schedule} {name : String} (h : s.waiting.contains name = true) :
    0 < s.waiting.size := by
  refine Nat.pos_of_ne_zero fun h0 => ?_
  rw [Std.ExtTreeMap.eq_empty_iff_size_eq_zero.mpr h0, Std.ExtTreeMap.contains_empty] at h
  exact Bool.false_ne_true h

theorem ready_size_pos {s : Schedule} {name : String} (h : s.ready.contains name = true) :
    0 < s.ready.size := by
  refine Nat.pos_of_ne_zero fun h0 => ?_
  rw [Std.ExtTreeSet.eq_empty_iff_size_eq_zero.mpr h0, Std.ExtTreeSet.contains_empty] at h
  exact Bool.false_ne_true h

theorem remaining_release_le (s : Schedule) (name : String) :
    (s.release name).remaining ≤ s.remaining := by
  unfold release remaining
  split
  · exact Nat.le_refl _
  · next n h =>
    simp only [Std.ExtTreeMap.size_insert, waiting_contains h, if_true]
    exact Nat.le_refl _
  · next n _ h =>
    have hpos := waiting_size_pos (waiting_contains h)
    have hin := Std.ExtTreeSet.size_insert_le (t := s.ready) (k := name)
    simp only [Std.ExtTreeMap.size_erase, waiting_contains h, if_true]
    omega

theorem remaining_foldl_release_le (names : List String) (s : Schedule) :
    (names.foldl release s).remaining ≤ s.remaining := by
  induction names generalizing s with
  | nil => exact Nat.le_refl _
  | cons name names ih =>
    exact Nat.le_trans (ih (s.release name)) (remaining_release_le s name)

theorem remaining_emit_lt (dependents : Std.ExtTreeMap String (List String)) {s : Schedule}
    {name : String} (h : s.ready.contains name = true) :
    (s.emit dependents name).remaining < s.remaining := by
  refine Nat.lt_of_le_of_lt (remaining_foldl_release_le _ _) ?_
  have hpos := ready_size_pos h
  simp only [remaining, Std.ExtTreeSet.size_erase, h, if_true]
  omega

/-! ### The run -/

/-- The schedule after so many emissions, each of the smallest ready name, or earlier if no name is
ready. -/
def after (dependents : Std.ExtTreeMap String (List String)) : Nat → Schedule → Schedule
  | 0, s => s
  | n + 1, s =>
    match s.ready.min? with
    | none => s
    | some name => after dependents n (s.emit dependents name)

/-- Once as many emissions are allowed as names remain, no name is left ready. -/
theorem ready_after_eq_none (dependents : Std.ExtTreeMap String (List String)) (n : Nat)
    (s : Schedule) (h : s.remaining ≤ n) : (s.after dependents n).ready.min? = none := by
  induction n generalizing s with
  | zero =>
    have h0 : s.ready.size = 0 := by
      unfold remaining at h
      omega
    simp only [after, Std.ExtTreeSet.min?_eq_none_iff,
      Std.ExtTreeSet.eq_empty_iff_size_eq_zero.mpr h0]
  | succ n ih =>
    unfold after
    split
    · next hnone => exact hnone
    · next name hsome =>
      refine ih _ (Nat.lt_succ_iff.mp (Nat.lt_of_lt_of_le (remaining_emit_lt dependents ?_) h))
      exact Std.ExtTreeSet.contains_iff_mem.mpr (Std.ExtTreeSet.min?_mem hsome)

/-- All names with the number of their needs. -/
def start (needs : String → List String) (names : List String) : Schedule :=
  names.foldl (fun s name => s.enter name (needs name).length) {}

/-- Which names need a name. -/
def dependentsOf (needs : String → List String) (names : List String) :
    Std.ExtTreeMap String (List String) :=
  names.foldr (fun name deps => (needs name).foldl (fun deps need =>
    deps.insert need (name :: deps.getD need [])) deps) ∅

/-- The finished schedule of names under their needs. -/
def ofNeeds (needs : String → List String) (names : List String) : Schedule :=
  (start needs names).after (dependentsOf needs names) names.length

/-- The emitted names, the first one first. -/
def order (s : Schedule) : List String :=
  s.emitted.reverse

/-- The names left over, each with the number of its unmet needs, in ascending order. -/
def leftover (s : Schedule) : List (String × Nat) :=
  s.waiting.toList

end Schedule

end EntityProjection
