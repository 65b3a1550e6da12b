import EntityProjection.Proofs.Graph.SearchCycles

/-!
# The end of the search

Every move uses up one piece of work: a root to start from, an entity to leave or a relation to
follow.  The moves that a search is given are at least its work, so that a finished search is over,
has visited every entity and has followed every relation.

* `Search.work` and `Search.work_move`: what is left to do, and that a move takes one off it;
* `Search.step?_finish`: a finished search has no further move;
* `Search.followed_finish`: a finished search has followed all relations.
-/

namespace EntityProjection.Search

variable {graph : RelationGraph} {s t : Search}

/-! ### Work -/

theorem contains_eq_false {names : Std.ExtTreeSet String} {name : String} :
    names.contains name = false ↔ name ∉ names := by
  rw [← Bool.not_eq_true, Std.ExtTreeSet.contains_iff_mem]

/-- The entities that are not visited yet. -/
def unvisited (graph : RelationGraph) (s : Search) : List String :=
  graph.names.filter fun name => !s.visited.contains name

/-- The work that an entity makes once it is entered: to follow its relations and to leave it. -/
def cost (graph : RelationGraph) (name : String) : ℕ :=
  1 + (graph.dependencies name).length

/-- The moves that are left to make. -/
def work (graph : RelationGraph) (s : Search) : ℕ :=
  s.roots.length + s.frames.length + (s.frames.map fun f => f.pending.length).sum +
    ((s.unvisited graph).map (cost graph)).sum

theorem unvisited_enter (graph : RelationGraph) (s : Search) (name : String) :
    (s.enter graph name).unvisited graph = (s.unvisited graph).erase name := by
  have hnodup : (s.unvisited graph).Nodup := graph.names_nodup.sublist List.filter_sublist
  rw [hnodup.erase_eq_filter, unvisited, unvisited, List.filter_filter]
  refine List.filter_congr fun other _ => ?_
  have hcmp : (compare name other == .eq) = (other == name) := by
    rw [Bool.eq_iff_iff, beq_iff_eq, beq_iff_eq, Std.LawfulEqCmp.compare_eq_iff_eq, eq_comm]
  rw [Search.enter, Std.ExtTreeSet.contains_insert, Bool.not_or, hcmp]
  rfl

/-- Entering an entity turns its cost into work on the stack. -/
theorem work_enter (hname : name ∈ graph.names) (hnew : name ∉ s.visited) :
    (s.enter graph name).work graph = s.work graph := by
  have hmem : name ∈ s.unvisited graph := by
    rw [unvisited, List.mem_filter, Bool.not_eq_true', contains_eq_false]
    exact ⟨hname, hnew⟩
  have hsum := List.sum_map_erase (cost graph) hmem
  rw [work, unvisited_enter, work, ← hsum]
  simp only [Search.enter, List.length_cons, List.map_cons, List.sum_cons, cost]
  omega

theorem work_record (graph : RelationGraph) (s : Search) (c : Cycle) :
    (s.record c).work graph = s.work graph := by
  unfold record
  split <;> rfl

/-- Following a relation of the latest entity takes one off the work. -/
theorem work_advance {entity name : String} {pending : List String} {frames : List Frame}
    (hframes : s.frames = ⟨entity, name :: pending⟩ :: frames) :
    work graph { s with frames := ⟨entity, pending⟩ :: frames } + 1 = s.work graph := by
  simp only [work, unvisited, hframes, List.length_cons, List.map_cons, List.sum_cons]
  omega

/-- **A move takes one off the work.** -/
theorem work_move (hclosed : graph.Closed) (hs : Stacked graph s) (hm : Move graph s t) :
    t.work graph + 1 = s.work graph := by
  cases hm with
  | skip _ hroots _ =>
    simp only [work, unvisited, hroots, List.length_cons]
    omega
  | @start root roots _ hroots hnew =>
    have henter := work_enter (s := { s with roots })
      (hs.roots_known (hroots ▸ List.mem_cons_self)) hnew
    rw [henter]
    simp only [work, unvisited, hroots, List.length_cons]
    omega
  | leave hframes =>
    simp only [work, unvisited, Search.leave, hframes, List.tail_cons, List.length_cons,
      List.map_cons, List.sum_cons, List.length_nil]
    omega
  | close hframes _ => rw [work_record, work_advance hframes]
  | pass hframes _ _ => exact work_advance hframes
  | @enter entity name pending frames hframes _ hnew =>
    have henter := work_enter (s := { s with frames := ⟨entity, pending⟩ :: frames })
      (hclosed _ _ (hs.dependsOn hframes)) hnew
    rw [henter, work_advance hframes]

/-- A search has to take every start, to enter and leave every entity and to follow every relation.
-/
theorem work_start (graph : RelationGraph) (roots : List String) :
    (start graph roots).work graph =
      ((roots ++ graph.names).filter graph.contains).length + graph.names.length +
        (graph.names.map fun name => (graph.dependencies name).length).sum := by
  have hunvisited : (start graph roots).unvisited graph = graph.names := by
    rw [unvisited, List.filter_eq_self]
    intro name _
    simp [start]
  have hcost : (graph.names.map (cost graph)).sum =
      graph.names.length + (graph.names.map fun name => (graph.dependencies name).length).sum := by
    show (graph.names.map fun name => 1 + (graph.dependencies name).length).sum = _
    rw [List.sum_map_add, List.map_const', List.sum_replicate_nat, Nat.mul_one]
  rw [work, hunvisited, hcost]
  simp only [start, List.length_nil, List.map_nil, List.sum_nil]
  omega

/-- The moves that a search is given suffice. -/
theorem work_start_le (graph : RelationGraph) (roots : List String) :
    (start graph roots).work graph ≤ moves graph roots := by
  have hroots := List.length_filter_le graph.contains (roots ++ graph.names)
  have hdeps := graph.sum_dependencies_le
  rw [work_start, moves]
  omega

/-! ### The finished search -/

/-- A search is over after as many moves as it has work. -/
theorem step?_after (hclosed : graph.Closed) {n : ℕ} (hs : Stacked graph s)
    (hwork : s.work graph ≤ n) : (s.after graph n).step? graph = none := by
  induction n generalizing s with
  | zero =>
    cases h : s.step? graph with
    | none => exact h
    | some t =>
      have := work_move hclosed hs (.of_step? h)
      omega
  | succ n ih =>
    unfold after
    split
    · next h => exact h
    · next t h =>
      have hm := Move.of_step? h
      have := work_move hclosed hs hm
      exact ih (hs.move hclosed hm) (by omega)

/-- **The search ends.**  A finished search has no further move. -/
theorem step?_finish (hclosed : graph.Closed) (roots : List String) :
    (finish graph roots).step? graph = none :=
  step?_after hclosed (.of_start graph roots) (work_start_le graph roots)

/-- After any number of moves the stack is in step, and what the search knows holds. -/
theorem stacked_explored_after (hclosed : graph.Closed) (roots : List String) (n : ℕ) :
    Stacked graph ((start graph roots).after graph n) ∧
      Explored graph ((start graph roots).after graph n) :=
  after_induction (P := fun s => Stacked graph s ∧ Explored graph s)
    (fun h hm => ⟨h.1.move hclosed hm, h.2.move h.1 hm⟩) n
    ⟨.of_start graph roots, .of_start graph roots⟩

/-- The stack is in step when the search ends, and what it knows then holds. -/
theorem stacked_explored_finish (hclosed : graph.Closed) (roots : List String) :
    Stacked graph (finish graph roots) ∧ Explored graph (finish graph roots) :=
  stacked_explored_after hclosed roots _

/-- Every entity is visited or still a root. -/
def Covering (graph : RelationGraph) (s : Search) : Prop :=
  ∀ name ∈ graph.names, name ∈ s.visited ∨ name ∈ s.roots

theorem Covering.enter (h : Covering graph s) (name : String) :
    Covering graph (s.enter graph name) :=
  fun other hn => (h other hn).imp_left fun hv => Std.ExtTreeSet.mem_insert.mpr (.inr hv)

theorem Covering.move (h : Covering graph s) (hm : Move graph s t) : Covering graph t := by
  cases hm with
  | skip _ hroots hvisited =>
    intro name hn
    rcases h name hn with hv | hr
    · exact .inl hv
    · rw [hroots] at hr
      rcases List.mem_cons.mp hr with rfl | hr
      · exact .inl hvisited
      · exact .inr hr
  | start _ hroots _ =>
    intro name hn
    rcases h name hn with hv | hr
    · exact .inl (Std.ExtTreeSet.mem_insert.mpr (.inr hv))
    · rw [hroots] at hr
      rcases List.mem_cons.mp hr with rfl | hr
      · exact .inl Std.ExtTreeSet.mem_insert_self
      · exact .inr hr
  | leave => exact h
  | close =>
    unfold record
    split <;> exact h
  | pass => exact h
  | enter => exact Covering.enter (by exact h) _

theorem Covering.of_start (graph : RelationGraph) (roots : List String) :
    Covering graph (start graph roots) := fun _ hname =>
  .inr (List.mem_filter.mpr
    ⟨List.mem_append_right _ hname, RelationGraph.contains_iff.mpr hname⟩)

/-- A finished search has visited all entities. -/
theorem visited_finish (hclosed : graph.Closed) (roots : List String) {name : String}
    (hname : name ∈ graph.names) : name ∈ (finish graph roots).visited := by
  have hcover := after_induction (P := Covering graph) Covering.move (moves graph roots)
    (.of_start graph roots)
  rcases hcover name hname with hv | hr
  · exact hv
  · have hnil := (step?_eq_none (step?_finish hclosed roots)).2
    rw [finish] at hnil
    rw [hnil] at hr
    exact absurd hr List.not_mem_nil

/-- **All relations are followed.**  A finished search has followed every relation of the graph. -/
theorem followed_finish (hclosed : graph.Closed) (roots : List String) {a b : String} :
    (finish graph roots).Followed graph a b ↔ graph.DependsOn a b := by
  refine ⟨fun h => h.2.1, fun h => ⟨visited_finish hclosed roots h.source_mem, h, ?_⟩⟩
  rw [(step?_eq_none (step?_finish hclosed roots)).1]
  exact fun f hf => absurd hf List.not_mem_nil

end EntityProjection.Search
