import EntityProjection.Proofs.Graph.CycleBreaking

/-!
# The search finds circles, and some of every part

A search does not find all circles of a graph, because it enters every entity only once.  What it
finds are circles, none of them twice.  As breaking them leaves no circle, every circle of the graph
has a relation that closes a found one; and the entities of the found one lead there and back, so
that they all lie in the same strongly connected component.

* `RelationGraph.component`, `RelationGraph.IsComponent`: entities that lead to each other;
* `RelationGraph.exists_found_beside`: beside every circle a cycle is found in the same component;
* `cycleSearch_sound_complete`: the same for accepted models, whatever the roots.
-/

namespace EntityProjection

namespace RelationGraph

variable {graph : RelationGraph}

/-! ### Strongly connected components -/

/-- The entities that an entity leads to and that lead back to it. -/
def component (graph : RelationGraph) (name : String) : Set String :=
  {other | Relation.ReflTransGen graph.DependsOn name other ∧
    Relation.ReflTransGen graph.DependsOn other name}

/-- A strongly connected component of the graph. -/
def IsComponent (graph : RelationGraph) (part : Set String) : Prop :=
  ∃ name ∈ graph.names, part = graph.component name

/-- The relations between entities of a part of the graph. -/
def Within (graph : RelationGraph) (part : Set String) (source target : String) : Prop :=
  (source ∈ part ∧ target ∈ part) ∧ graph.DependsOn source target

theorem component_trans {a b c : String} (hb : b ∈ graph.component a)
    (hc : c ∈ graph.component b) : c ∈ graph.component a :=
  ⟨hb.1.trans hc.1, hc.2.trans hb.2⟩

/-! ### What is found -/

section Found

variable (hclosed : graph.Closed) (roots : List String)

include hclosed

/-- Beside every circle a cycle is found: its entities and those of the circle lead to each other.
-/
theorem exists_found_beside {name : String}
    (hcircle : Relation.TransGen graph.DependsOn name name) :
    ∃ c ∈ graph.findCycles roots, ∀ other ∈ c.path, other ∈ graph.component name := by
  obtain ⟨a, b, ⟨hab, hbroken⟩, hto, hback⟩ := (acyclic_intact hclosed roots).exists_missing hcircle
  have hbroken : (breakCycles (graph.findCycles roots)).isBroken a b = true := by
    by_contra hunbroken
    exact hbroken ⟨hab, Bool.eq_false_iff.mpr hunbroken⟩
  obtain ⟨c, hc, hclosing⟩ := (isBroken_findCycles hclosed roots).mp hbroken
  refine ⟨c, hc, fun other hother => ?_⟩
  obtain ⟨hfrom, hon⟩ := Cycle.reflTransGen_of_mem hclosing
    (fun x y hxy => (intact_of_neighbours hclosed roots hc hxy).1) hother
  have hname_to_b : Relation.ReflTransGen graph.DependsOn name b := hto.tail hab
  have ha_to_name : Relation.ReflTransGen graph.DependsOn a name := .head hab hback
  exact ⟨hname_to_b.trans hfrom, hon.trans ha_to_name⟩

/-- A cycle that is found is a circle of the graph. -/
theorem exists_circle_of_found {c : Cycle} (hc : c ∈ graph.findCycles roots) :
    ∃ name, Relation.TransGen graph.DependsOn name name := by
  obtain ⟨⟨a, b⟩, hclosing⟩ := Cycle.exists_closingEdge (findCycles_ne hclosed roots c hc)
  have hback := Cycle.reflTransGen hclosing
    (fun x y hxy => (intact_of_neighbours hclosed roots hc hxy).1)
  have hab := findCycles_dependsOn hclosed roots hc (Cycle.closingEdge_mem hclosing)
  exact ⟨a, .head' hab hback⟩

/-- Nothing is found if and only if the graph has no circle. -/
theorem findCycles_eq_nil_iff : graph.findCycles roots = [] ↔ Acyclic graph.DependsOn := by
  constructor
  · intro hnil name hcircle
    obtain ⟨c, hc, -⟩ := exists_found_beside hclosed roots hcircle
    rw [hnil] at hc
    exact List.not_mem_nil hc
  · intro hacyclic
    refine List.eq_nil_iff_forall_not_mem.mpr fun c hc => ?_
    obtain ⟨name, hcircle⟩ := exists_circle_of_found hclosed roots hc
    exact hacyclic name hcircle

/-- No cycle is found twice. -/
theorem findCycles_paths_nodup : ((graph.findCycles roots).map Cycle.path).Nodup := by
  refine List.pairwise_map.mpr ((findCycles_independent hclosed roots).imp_of_mem ?_)
  intro c d hc _ hindep hpath
  obtain ⟨e, hclosing⟩ := Cycle.exists_closingEdge (findCycles_ne hclosed roots c hc)
  have heq : c = d := congrArg Cycle.mk hpath
  exact hindep.1 e hclosing (heq ▸ Cycle.closingEdge_mem hclosing)

/-- In a strongly connected component with a circle a cycle is found. -/
theorem exists_found_within {part : Set String} (hpart : graph.IsComponent part)
    (hcircle : ¬Acyclic (graph.Within part)) :
    ∃ c ∈ graph.findCycles roots, ∀ name ∈ c.path, name ∈ part := by
  obtain ⟨centre, -, rfl⟩ := hpart
  obtain ⟨name, hname⟩ := not_forall_not.mp hcircle
  obtain ⟨next, hfirst, -⟩ := Relation.TransGen.head'_iff.mp hname
  have hcircle : Relation.TransGen graph.DependsOn name name :=
    Relation.TransGen.mono (fun _ _ hab => hab.2) _ _ hname
  obtain ⟨c, hc, hinside⟩ := exists_found_beside hclosed roots hcircle
  exact ⟨c, hc, fun other hother => component_trans hfirst.1.1 (hinside other hother)⟩

end Found

end RelationGraph

/-- **The search for cycles is sound and complete.**  In an accepted or empty model and from any
roots, what is found goes through at least one entity and through none twice, along relations of the
model and back to its start, and no path is found twice.  Nothing is found just if the relations
form no circle, and in every strongly connected component with a circle a cycle is found that lies
in it. -/
theorem cycleSearch_sound_complete {model : EntityModel} (h : model.Accepted ∨ model = .empty)
    (roots : List String) :
    let graph := model.graph
    let cycles := graph.findCycles roots
    (∀ c ∈ cycles, (c.path ≠ [] ∧ c.path.Nodup) ∧
      (∀ a b, [a, b] <:+: c.path → graph.DependsOn a b) ∧
      ∀ a b, c.path.getLast? = some a → c.path.head? = some b → graph.DependsOn a b) ∧
    (cycles.map Cycle.path).Nodup ∧
    (cycles = [] ↔ Acyclic graph.DependsOn) ∧
    ∀ part, graph.IsComponent part → ¬Acyclic (graph.Within part) →
      ∃ c ∈ cycles, ∀ name ∈ c.path, name ∈ part := by
  intro graph cycles
  have hclosed := (EntityModel.coherent_of_accepted_or_empty h).graph_closed
  refine ⟨fun c hc => ?_, RelationGraph.findCycles_paths_nodup hclosed roots,
    RelationGraph.findCycles_eq_nil_iff hclosed roots,
    fun part hpart hcircle => RelationGraph.exists_found_within hclosed roots hpart hcircle⟩
  have hrelation : ∀ a b, (a, b) ∈ c.edges → graph.DependsOn a b := fun a b hab =>
    RelationGraph.findCycles_dependsOn hclosed roots hc hab
  refine ⟨⟨RelationGraph.findCycles_ne hclosed roots c hc,
    RelationGraph.findCycles_nodup hclosed roots c hc⟩, fun a b hab => ?_, fun a b ha hb => ?_⟩
  · exact hrelation a b (Cycle.mem_edges_iff.mpr (.inl hab))
  · have hclosing : c.closingEdge? = some (a, b) := by rw [Cycle.closingEdge?, ha, hb]
    exact hrelation a b (Cycle.closingEdge_mem hclosing)

/-- In the blog a comment relates to itself, and a cycle is found among the entities that it leads
to and that lead back to it. -/
theorem cycleSearch_blog :
    (blog.graph.IsComponent (blog.graph.component "Comment") ∧
      ¬Acyclic (blog.graph.Within (blog.graph.component "Comment"))) ∧
    ∃ c ∈ blog.graph.findCycles ["Ghost", "User"],
      ∀ name ∈ c.path, name ∈ blog.graph.component "Comment" := by
  have hname : "Comment" ∈ blog.graph.names := by decide +kernel
  have hself : "Comment" ∈ blog.graph.dependencies "Comment" := by decide +kernel
  have hpart : blog.graph.IsComponent (blog.graph.component "Comment") := ⟨"Comment", hname, rfl⟩
  have hcircle : ¬Acyclic (blog.graph.Within (blog.graph.component "Comment")) := fun hacyclic =>
    hacyclic "Comment" (.single ⟨⟨⟨.refl, .refl⟩, ⟨.refl, .refl⟩⟩, hself⟩)
  exact ⟨⟨hpart, hcircle⟩,
    (cycleSearch_sound_complete (.inl blog_accepted) ["Ghost", "User"]).2.2.2 _ hpart hcircle⟩

end EntityProjection
