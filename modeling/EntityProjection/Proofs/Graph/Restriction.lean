import EntityProjection.Proofs.Graph.EmissionOrder

/-!
# Parts of a graph

Some of the entities of a graph with their relations.  A part is separated from the rest if no
relation leads from the one into the other.  What the schedule does with the entities of a separated
part does not depend on the rest then: whether a name is ready is decided within the part, so the
least ready names of the whole that lie in the part are the least ready names of the part.

* `RelationGraph.restrict` and `RelationGraph.Separated`: a part of a graph, and that it is separated;
* `Schedule.Greedy.filter`: always to take the least ready name of the whole does so in the part;
* `RelationGraph.order_restrict`: the emission order of a separated part.
-/

namespace EntityProjection

/-! ### Schedules of a part -/

namespace Schedule

section Filter

variable {needs needs' : String → List String} {keep : String → Bool}
  {names done order : List String}
  (hneeds : ∀ name, keep name = true → needs' name = needs name)
  (hkeep : ∀ name, keep name = true → ∀ need ∈ needs name, keep need = true)

include hneeds hkeep

/-- Within a part the names of the part are ready when they are in the whole. -/
theorem ready_filter {name : String} :
    Ready needs' (names.filter keep) (done.filter keep) name ↔
      keep name = true ∧ Ready needs names done name := by
  by_cases hname : keep name = true
  · have hmet : (∀ need ∈ needs' name, need ∈ done.filter keep) ↔ ∀ need ∈ needs name, need ∈ done := by
      rw [hneeds name hname]
      refine forall₂_congr fun need hneed => ?_
      rw [List.mem_filter, and_iff_left (hkeep name hname need hneed)]
    rw [Ready, hmet, Ready, List.mem_filter, List.mem_filter]
    simp only [hname, and_true, true_and]
  · exact iff_of_false (fun h => hname (List.mem_filter.mp h.1.1).2) fun h => hname h.1

/-- **The part of an emission.**  The names of a part are emitted as if there were no others. -/
theorem Greedy.filter (h : Greedy needs names done order) :
    Greedy needs' (names.filter keep) (done.filter keep) (order.filter keep) := by
  have hready : ∀ done name, Ready needs' (names.filter keep) (done.filter keep) name ↔
      keep name = true ∧ Ready needs names done name := fun _ _ => ready_filter hneeds hkeep
  induction order generalizing done with
  | nil =>
    intro name hname hr
    exact h name (List.mem_filter.mp hname).1 ((hready done name).mp hr).2
  | cons name rest ih =>
    have hrest := ih h.2
    by_cases hname : keep name = true
    · rw [List.filter_cons_of_pos hname] at hrest ⊢
      refine ⟨⟨(hready done name).mpr ⟨hname, h.1.1⟩, fun other _ ho => ?_⟩, hrest⟩
      exact h.head_le ((hready done other).mp ho).2
    · rw [List.filter_cons_of_neg hname] at hrest ⊢
      exact hrest

/-- Within a part the names of the part wait for as many others as in the whole. -/
theorem unmet_filter {name : String} (hname : keep name = true) :
    unmet needs' (done.filter keep) name = unmet needs done name := by
  rw [unmet, unmet, hneeds name hname]
  refine List.countP_congr fun need hneed => ?_
  simp [hkeep name hname need hneed]

end Filter

end Schedule

namespace RelationGraph

variable {graph : RelationGraph} {keep : String → Bool}

/-! ### Parts -/

/-- The entities that are kept, with their relations. -/
def restrict (keep : String → Bool) (graph : RelationGraph) : RelationGraph :=
  ⟨graph.edgesByOwner.filter fun name _ => keep name⟩

/-- No relation leads from an entity that is kept to one that is not, or the other way. -/
def Separated (keep : String → Bool) (graph : RelationGraph) : Prop :=
  ∀ source target, graph.DependsOn source target → keep target = keep source

theorem names_restrict (graph : RelationGraph) (keep : String → Bool) :
    (graph.restrict keep).names = graph.names.filter keep :=
  Std.ExtTreeMap.keys_filter_key

theorem mem_names_restrict {name : String} :
    name ∈ (graph.restrict keep).names ↔ name ∈ graph.names ∧ keep name = true := by
  rw [names_restrict, List.mem_filter]

theorem outgoing_restrict {name : String} (h : keep name = true) :
    (graph.restrict keep).outgoing name = graph.outgoing name := by
  have hfilter : ∀ edges : Option (List RelationEdge),
      edges.filter (fun _ => keep name) = edges := by
    intro edges
    cases edges <;> simp [h]
  rw [outgoing, restrict, Std.ExtTreeMap.getD_filter', hfilter, outgoing,
    Std.ExtTreeMap.getD_eq_getD_getElem?]

theorem dependencies_restrict {name : String} (h : keep name = true) :
    (graph.restrict keep).dependencies name = graph.dependencies name := by
  rw [dependencies, outgoing_restrict h, dependencies]

theorem needs_restrict {name : String} (h : keep name = true) :
    (graph.restrict keep).needs name = graph.needs name := by
  rw [needs, dependencies_restrict h, needs]

theorem Closed.restrict (hclosed : graph.Closed) (hsep : graph.Separated keep) :
    (graph.restrict keep).Closed := by
  intro source target hdep
  have hsource := (mem_names_restrict.mp hdep.source_mem).2
  rw [DependsOn, dependencies_restrict hsource] at hdep
  exact mem_names_restrict.mpr ⟨hclosed source target hdep, (hsep source target hdep).trans hsource⟩

/-! ### The emission order of a part -/

theorem Separated.keep_need (hsep : graph.Separated keep) (name : String) (hname : keep name = true) :
    ∀ need ∈ graph.needs name, keep need = true :=
  fun need hneed => (hsep name need (mem_needs.mp hneed).1).trans hname

/-- The schedule emits the entities of a separated part as if there were no others. -/
theorem schedule_order_restrict (hsep : graph.Separated keep) :
    (graph.restrict keep).schedule.order = graph.schedule.order.filter keep := by
  have hpart := Schedule.greedy_order (graph.restrict keep).needs (graph.restrict keep).names_nodup
  have hwhole := (Schedule.greedy_order graph.needs graph.names_nodup).filter
    (fun _ => needs_restrict) hsep.keep_need
  rw [← names_restrict] at hwhole
  exact hpart.eq hwhole

/-- The schedule leaves over the entities of a separated part as if there were no others. -/
theorem rankedLeftover_restrict (hsep : graph.Separated keep) :
    (graph.restrict keep).rankedLeftover = graph.rankedLeftover.filter fun l => keep l.name := by
  have hmem : ∀ l, l ∈ (graph.restrict keep).rankedLeftover ↔
      l ∈ graph.rankedLeftover ∧ keep l.name = true := by
    intro l
    rw [mem_rankedLeftover, mem_rankedLeftover, schedule,
      Schedule.waiting_ofNeeds _ (graph.restrict keep).names_nodup, schedule,
      Schedule.waiting_ofNeeds _ graph.names_nodup, ← schedule, ← schedule,
      schedule_order_restrict hsep, mem_names_restrict, List.mem_filter]
    by_cases hl : keep l.name = true
    · rw [Schedule.unmet_filter (fun _ => needs_restrict) hsep.keep_need hl, outgoing_restrict hl]
      simp only [hl, and_true]
    · exact iff_of_false (fun h => hl h.1.1.1.2) fun h => hl h.2
  have hset : Std.ExtTreeSet.ofList (graph.restrict keep).leftover Leftover.rank =
      (Std.ExtTreeSet.ofList graph.leftover Leftover.rank).filter fun l => keep l.name := by
    refine Std.ExtTreeSet.ext_mem fun l => ?_
    rw [mem_filter_set, ← Std.ExtTreeSet.mem_toList, ← Std.ExtTreeSet.mem_toList]
    exact hmem l
  rw [rankedLeftover, hset, Std.ExtTreeSet.toList_filter, rankedLeftover]

/-- **The emission order of a part.**  The entities of a separated part are emitted as if there were
no others. -/
theorem order_restrict (hsep : graph.Separated keep) :
    (graph.restrict keep).order = graph.order.filter keep := by
  rw [order, order, schedule_order_restrict hsep, rankedLeftover_restrict hsep, List.filter_append,
    List.filter_map]
  rfl

end RelationGraph

end EntityProjection
