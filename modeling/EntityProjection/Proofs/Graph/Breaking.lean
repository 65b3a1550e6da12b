import Mathlib.Data.List.Infix
import Mathlib.Data.List.Pairwise
import EntityProjection.Graph.Broken

/-!
# Breaking independent cycles

The relations along a cycle are those between neighbours on its path and the closing one.  Cycles are
independent if none runs along the closing relation of another.  On pairwise independent cycles no
cycle is ever left alone because of a relation that was broken for another one, so that breaking
them breaks exactly the closing relations, in whatever order it goes through them.

* `Cycle.mem_edges_iff`, `Cycle.countP_edges`: the relations along a cycle;
* `isBroken_breakCycles`, `size_breakCycles`: the broken relations of independent cycles are their
  closing relations, one for each cycle;
* `breakCycles_perm`: the order of the cycles does not matter.
-/

namespace EntityProjection

/-! ### The relations along a cycle -/

theorem mem_zip_tail {path : List String} {a b : String} :
    (a, b) ∈ path.zip path.tail ↔ [a, b] <:+: path := by
  induction path with
  | nil => simp
  | cons first rest ih =>
    cases rest with
    | nil => simp [List.infix_cons_iff]
    | cons second rest =>
      rw [List.tail_cons, List.zip_cons_cons, List.mem_cons, List.infix_cons_iff, ← ih,
        List.cons_prefix_cons, List.cons_prefix_cons, Prod.mk.injEq]
      simp

theorem zip_append_first (first last : String) (rest : List String) :
    (first :: rest).zip (rest ++ [last]) =
      (first :: rest).zip rest ++ [((first :: rest).getLast (List.cons_ne_nil _ _), last)] := by
  induction rest generalizing first with
  | nil => rfl
  | cons second rest ih =>
    rw [List.cons_append, List.zip_cons_cons, ih second, List.zip_cons_cons, List.cons_append,
      List.getLast_cons (List.cons_ne_nil second rest)]

namespace Cycle

theorem closingEdge?_cons (first : String) (rest : List String) :
    (Cycle.mk (first :: rest)).closingEdge? =
      some ((first :: rest).getLast (List.cons_ne_nil _ _), first) := by
  rw [closingEdge?, List.getLast?_eq_some_getLast (List.cons_ne_nil _ _), List.head?_cons]

/-- A cycle through some entity has a closing relation. -/
theorem exists_closingEdge {c : Cycle} (h : c.path ≠ []) : ∃ e, c.closingEdge? = some e := by
  obtain ⟨path⟩ := c
  cases path with
  | nil => exact absurd rfl h
  | cons first rest => exact ⟨_, closingEdge?_cons first rest⟩

/-- A closing relation leads from an entity of the cycle to one. -/
theorem mem_of_closingEdge {c : Cycle} {a b : String} (h : c.closingEdge? = some (a, b)) :
    a ∈ c.path ∧ b ∈ c.path := by
  obtain ⟨path⟩ := c
  cases path with
  | nil => cases h
  | cons first rest =>
    rw [closingEdge?_cons, Option.some.injEq, Prod.mk.injEq] at h
    obtain ⟨rfl, rfl⟩ := h
    exact ⟨List.getLast_mem _, List.mem_cons_self⟩

/-- The relations along a cycle are those between neighbours, and then the closing one. -/
theorem edges_eq (c : Cycle) : c.edges = c.path.zip c.path.tail ++ c.closingEdge?.toList := by
  obtain ⟨path⟩ := c
  cases path with
  | nil => rfl
  | cons first rest =>
    rw [closingEdge?_cons]
    exact zip_append_first first first rest

theorem mem_edges_iff {c : Cycle} {a b : String} :
    (a, b) ∈ c.edges ↔ [a, b] <:+: c.path ∨ c.closingEdge? = some (a, b) := by
  rw [edges_eq, List.mem_append, mem_zip_tail, Option.mem_toList]

theorem closingEdge_mem {c : Cycle} {e : String × String} (h : c.closingEdge? = some e) :
    e ∈ c.edges :=
  mem_edges_iff.mpr (.inr h)

/-- On a path without repetitions the closing relation is not one between neighbours. -/
theorem closingEdge_not_mem {c : Cycle} (hnodup : c.path.Nodup) {e : String × String}
    (h : c.closingEdge? = some e) : e ∉ c.path.zip c.path.tail := by
  obtain ⟨path⟩ := c
  cases path with
  | nil => cases h
  | cons first rest =>
    rw [closingEdge?_cons] at h
    cases h
    intro hmem
    exact (List.nodup_cons.mp hnodup).1 (List.of_mem_zip hmem).2

/-- Along a cycle without repetitions a test that only the closing relation passes is passed once. -/
theorem countP_edges {c : Cycle} (hnodup : c.path.Nodup) (hne : c.path ≠ [])
    {p : String × String → Bool} (hp : ∀ e ∈ c.edges, p e = true ↔ c.closingEdge? = some e) :
    c.edges.countP p = 1 := by
  obtain ⟨e, he⟩ := exists_closingEdge hne
  rw [edges_eq] at hp ⊢
  have hzero : (c.path.zip c.path.tail).countP p = 0 := by
    rw [List.countP_eq_zero]
    intro d hd hpd
    have hde := (hp d (List.mem_append_left _ hd)).mp hpd
    exact closingEdge_not_mem hnodup hde hd
  have hone : p e = true := (hp e (List.mem_append_right _ (by simp [he]))).mpr he
  rw [List.countP_append, hzero, he, Option.toList_some, List.countP_singleton, if_pos hone]

/-! ### Independent cycles -/

/-- Neither cycle runs along the closing relation of the other. -/
def Independent (c d : Cycle) : Prop :=
  (∀ e, c.closingEdge? = some e → e ∉ d.edges) ∧ ∀ e, d.closingEdge? = some e → e ∉ c.edges

instance : Std.Symm Independent where
  symm _ _ h := ⟨h.2, h.1⟩

end Cycle

/-! ### Sets of broken relations -/

namespace BrokenEdges

theorem isBroken_empty (a b : String) : empty.isBroken a b = false :=
  Std.ExtTreeSet.contains_empty

theorem compare_edge {e f : String × String} : edgeOrder e f = .eq ↔ e = f := by
  rw [edgeOrder, compareLex_eq_eq, compareOn, compareOn, Std.LawfulEqCmp.compare_eq_iff_eq,
    Std.LawfulEqCmp.compare_eq_iff_eq, Prod.ext_iff]

instance : Std.LawfulEqCmp edgeOrder where
  eq_of_compare := compare_edge.mp

theorem isBroken_add {broken : BrokenEdges} {e : String × String} {a b : String} :
    (broken.add e.1 e.2).isBroken a b = true ↔ e = (a, b) ∨ broken.isBroken a b = true := by
  rw [isBroken, add, isBroken, Std.ExtTreeSet.contains_insert, Bool.or_eq_true, beq_iff_eq,
    compare_edge]

theorem isBroken_ofList {pairs : List (String × String)} {a b : String} :
    (ofList pairs).isBroken a b = true ↔ (a, b) ∈ pairs := by
  have hfold : ∀ broken : BrokenEdges,
      (pairs.foldl (fun broken pair => broken.add pair.1 pair.2) broken).isBroken a b = true ↔
        (a, b) ∈ pairs ∨ broken.isBroken a b = true := by
    induction pairs with
    | nil => exact fun broken => (or_iff_right List.not_mem_nil).symm
    | cons pair pairs ih =>
      intro broken
      rw [List.foldl_cons, ih, isBroken_add, List.mem_cons, eq_comm (a := (a, b)), or_assoc,
        or_left_comm]
  rw [ofList, hfold, isBroken_empty]
  exact or_iff_left Bool.false_ne_true

theorem mem_toList {broken : BrokenEdges} {e : String × String} :
    e ∈ broken.toList ↔ broken.isBroken e.1 e.2 = true := by
  rw [toList, Std.ExtTreeSet.mem_toList, isBroken, Std.ExtTreeSet.contains_iff_mem]

theorem nodup_toList (broken : BrokenEdges) : broken.toList.Nodup :=
  Std.ExtTreeSet.distinct_toList.imp fun hne heq =>
    hne (Std.LawfulEqCmp.compare_eq_iff_eq.mpr heq)

theorem length_toList (broken : BrokenEdges) : broken.toList.length = broken.size :=
  Std.ExtTreeSet.length_toList

theorem size_add {broken : BrokenEdges} {a b : String} (h : broken.isBroken a b ≠ true) :
    (broken.add a b).size = broken.size + 1 := by
  rw [size, add, Std.ExtTreeSet.size_insert]
  exact if_neg h

/-- The broken relations but one. -/
def remove (broken : BrokenEdges) (source target : String) : BrokenEdges :=
  ⟨broken.edges.erase (source, target)⟩

theorem isBroken_remove {broken : BrokenEdges} {source target a b : String} :
    (broken.remove source target).isBroken a b = true ↔
      (source, target) ≠ (a, b) ∧ broken.isBroken a b = true := by
  rw [isBroken, remove, Std.ExtTreeSet.contains_erase, Bool.and_eq_true, bne_iff_ne, ne_eq,
    compare_edge, isBroken]

/-- Sets of broken relations are equal if they break the same relations. -/
theorem ext_isBroken {broken broken' : BrokenEdges}
    (h : ∀ a b, broken.isBroken a b = true ↔ broken'.isBroken a b = true) : broken = broken' := by
  obtain ⟨edges⟩ := broken
  obtain ⟨edges'⟩ := broken'
  congr 1
  exact Std.ExtTreeSet.ext_contains fun e => Bool.eq_iff_iff.mpr (h e.1 e.2)

end BrokenEdges

/-! ### The order of breaking -/

theorem insertByLength_perm (c : Cycle) (cycles : List Cycle) :
    (insertByLength c cycles).Perm (c :: cycles) := by
  induction cycles with
  | nil => exact .refl _
  | cons other rest ih =>
    unfold insertByLength
    split
    · exact .refl _
    · exact (ih.cons other).trans (.swap c other rest)

/-- Cycles are rearranged to be broken, none is lost or added. -/
theorem breakingOrder_perm (cycles : List Cycle) : (breakingOrder cycles).Perm cycles := by
  induction cycles with
  | nil => exact .refl _
  | cons c cycles ih => exact (insertByLength_perm c _).trans (ih.cons c)

/-! ### Breaking independent cycles -/

/-- Breaking more independent cycles, none of which has a broken relation, breaks their closing
relations and as many as there are cycles. -/
theorem foldl_breakCycle {cycles : List Cycle} (broken : BrokenEdges)
    (hindep : cycles.Pairwise Cycle.Independent) (hne : ∀ c ∈ cycles, c.path ≠ [])
    (hclean : ∀ c ∈ cycles, ∀ e ∈ c.edges, broken.isBroken e.1 e.2 ≠ true) :
    (∀ a b, (cycles.foldl BrokenEdges.breakCycle broken).isBroken a b = true ↔
      broken.isBroken a b = true ∨ ∃ c ∈ cycles, c.closingEdge? = some (a, b)) ∧
    (cycles.foldl BrokenEdges.breakCycle broken).size = broken.size + cycles.length := by
  induction cycles generalizing broken with
  | nil => simp
  | cons c cycles ih =>
    rw [List.pairwise_cons] at hindep
    rw [List.forall_mem_cons] at hne hclean
    obtain ⟨e, he⟩ := Cycle.exists_closingEdge hne.1
    have hbreak : broken.breakCycle c = broken.add e.1 e.2 := by
      have hany : c.edges.any (fun edge => broken.isBroken edge.1 edge.2) = false := by
        rw [List.any_eq_false]
        exact hclean.1
      rw [BrokenEdges.breakCycle, BrokenEdges.toBreak?, hany, he]
      rfl
    have hclean' : ∀ d ∈ cycles, ∀ f ∈ d.edges, (broken.add e.1 e.2).isBroken f.1 f.2 ≠ true := by
      intro d hd f hf hbroken
      rcases BrokenEdges.isBroken_add.mp hbroken with rfl | hbroken
      · exact (hindep.1 d hd).1 _ he hf
      · exact hclean.2 d hd f hf hbroken
    obtain ⟨hmem, hsize⟩ := ih _ hindep.2 hne.2 hclean'
    rw [List.foldl_cons, hbreak]
    constructor
    · intro a b
      rw [hmem, BrokenEdges.isBroken_add, List.exists_mem_cons_iff, he, Option.some.injEq]
      tauto
    · rw [hsize, BrokenEdges.size_add (hclean.1 e (Cycle.closingEdge_mem he)), List.length_cons]
      omega

section Independent

variable {cycles : List Cycle} (hindep : cycles.Pairwise Cycle.Independent)
  (hne : ∀ c ∈ cycles, c.path ≠ [])

include hindep hne

theorem breakCycles_independent :
    (∀ a b, (breakCycles cycles).isBroken a b = true ↔
      ∃ c ∈ cycles, c.closingEdge? = some (a, b)) ∧
    (breakCycles cycles).size = cycles.length := by
  have hperm := breakingOrder_perm cycles
  obtain ⟨hmem, hsize⟩ := foldl_breakCycle .empty
    ((hperm.pairwise_iff fun h => symm h).mpr hindep)
    (fun c hc => hne c (hperm.mem_iff.mp hc)) (by simp [BrokenEdges.isBroken_empty])
  constructor
  · intro a b
    rw [breakCycles, hmem, BrokenEdges.isBroken_empty]
    simp only [Bool.false_eq_true, false_or, hperm.mem_iff]
  · rw [breakCycles, hsize, hperm.length_eq]
    exact Nat.zero_add _

/-- **The broken relations.**  Of independent cycles exactly the closing relations are broken. -/
theorem isBroken_breakCycles {a b : String} :
    (breakCycles cycles).isBroken a b = true ↔ ∃ c ∈ cycles, c.closingEdge? = some (a, b) :=
  (breakCycles_independent hindep hne).1 a b

/-- Of independent cycles one relation is broken for each. -/
theorem size_breakCycles : (breakCycles cycles).size = cycles.length :=
  (breakCycles_independent hindep hne).2

/-- Independent cycles may be broken in any order. -/
theorem breakCycles_perm {cycles' : List Cycle} (hperm : cycles'.Perm cycles) :
    breakCycles cycles' = breakCycles cycles := by
  refine BrokenEdges.ext_isBroken fun a b => ?_
  rw [isBroken_breakCycles hindep hne, isBroken_breakCycles
    ((hperm.pairwise_iff fun h => symm h).mpr hindep) fun c hc => hne c (hperm.mem_iff.mp hc)]
  simp only [hperm.mem_iff]

end Independent

end EntityProjection
