import EntityProjection.Proofs.Graph.SearchEnd

/-!
# Cycles are broken completely, minimally and once each

What a finished search means for the graph.  The cycles it finds are circles of the graph and pairwise
independent, so that exactly their closing relations are broken; and the relations that close no found
cycle form no circle, so that nothing else has to be.  All of this holds for any list of roots.

* `RelationGraph.acyclic_intact`: without the broken relations no circle is left;
* `cycleBreaking_complete`, `cycleBreaking_minimal` and `cycleBreaking_once`: the same for accepted
  models, that no relation is broken needlessly, and that each cycle is broken at one relation.
-/

namespace EntityProjection

/-! ### Ways along a path -/

/-- Where each entity of a path relates to the next, the first one leads to any of them, and that one to
the last. -/
theorem reflTransGen_path {r : String → String → Prop} (first : String) (rest : List String)
    (h : ∀ a b, [a, b] <:+: first :: rest → r a b) {name : String} (hname : name ∈ first :: rest) :
    Relation.ReflTransGen r first name ∧
      Relation.ReflTransGen r name ((first :: rest).getLast (List.cons_ne_nil _ _)) := by
  induction rest generalizing first name with
  | nil =>
    obtain rfl := List.mem_singleton.mp hname
    exact ⟨.refl, .refl⟩
  | cons second rest ih =>
    have hfirst : r first second := h first second ⟨[], rest, rfl⟩
    have hrest : ∀ a b, [a, b] <:+: second :: rest → r a b := fun a b hab =>
      h a b (hab.trans (List.suffix_cons _ _).isInfix)
    rw [List.getLast_cons (List.cons_ne_nil _ _)]
    obtain rfl | hname := List.mem_cons.mp hname
    · exact ⟨.refl, .head hfirst (ih second hrest List.mem_cons_self).2⟩
    · obtain ⟨hto, hon⟩ := ih second hrest hname
      exact ⟨.head hfirst hto, hon⟩

/-- Where neighbours on a cycle are related, the target of its closing relation leads to every entity of
the cycle, and each of them leads to the source. -/
theorem Cycle.reflTransGen_of_mem {r : String → String → Prop} {c : Cycle} {a b name : String}
    (hclosing : c.closingEdge? = some (a, b)) (h : ∀ x y, [x, y] <:+: c.path → r x y)
    (hname : name ∈ c.path) : Relation.ReflTransGen r b name ∧ Relation.ReflTransGen r name a := by
  obtain ⟨path⟩ := c
  cases path with
  | nil => cases hclosing
  | cons first rest =>
    rw [closingEdge?_cons, Option.some.injEq, Prod.mk.injEq] at hclosing
    obtain ⟨rfl, rfl⟩ := hclosing
    exact reflTransGen_path first rest h hname

/-- Where neighbours on a cycle are related, the target of its closing relation leads back to the
source. -/
theorem Cycle.reflTransGen {r : String → String → Prop} {c : Cycle} {a b : String}
    (hclosing : c.closingEdge? = some (a, b)) (h : ∀ x y, [x, y] <:+: c.path → r x y) :
    Relation.ReflTransGen r b a :=
  (reflTransGen_of_mem hclosing h (mem_of_closingEdge hclosing).2).2

/-! ### The cycles that are found -/

namespace RelationGraph

variable {graph : RelationGraph} (hclosed : graph.Closed) (roots : List String)

include hclosed

theorem explored_finish : Search.Explored graph (Search.finish graph roots) :=
  (Search.stacked_explored_finish hclosed roots).2

omit hclosed in
theorem mem_findCycles {c : Cycle} :
    c ∈ graph.findCycles roots ↔ c ∈ (Search.finish graph roots).found :=
  List.mem_reverse

/-- The cycles that are found are independent. -/
theorem findCycles_independent : (graph.findCycles roots).Pairwise Cycle.Independent := by
  rw [findCycles, List.pairwise_reverse]
  exact (explored_finish hclosed roots).independent.imp fun h => symm h

theorem findCycles_ne : ∀ c ∈ graph.findCycles roots, c.path ≠ [] :=
  fun _ hc => (explored_finish hclosed roots).cycle_ne ((mem_findCycles roots).mp hc)

theorem findCycles_nodup : ∀ c ∈ graph.findCycles roots, c.path.Nodup :=
  fun _ hc => (explored_finish hclosed roots).cycle_nodup ((mem_findCycles roots).mp hc)

/-- The cycles that are found run along relations of the graph. -/
theorem findCycles_dependsOn {c : Cycle} (hc : c ∈ graph.findCycles roots) {a b : String}
    (hab : (a, b) ∈ c.edges) : graph.DependsOn a b :=
  ((explored_finish hclosed roots).cycle_followed ((mem_findCycles roots).mp hc) hab).2.1

/-- The broken relations are those that close a cycle. -/
theorem isBroken_findCycles {a b : String} :
    (breakCycles (graph.findCycles roots)).isBroken a b = true ↔
      ∃ c ∈ graph.findCycles roots, c.closingEdge? = some (a, b) :=
  isBroken_breakCycles (findCycles_independent hclosed roots) (findCycles_ne hclosed roots)

/-- A broken relation is a relation of the graph. -/
theorem dependsOn_of_isBroken {a b : String}
    (h : (breakCycles (graph.findCycles roots)).isBroken a b = true) : graph.DependsOn a b := by
  obtain ⟨c, hc, hclosing⟩ := (isBroken_findCycles hclosed roots).mp h
  exact findCycles_dependsOn hclosed roots hc (Cycle.closingEdge_mem hclosing)

/-- A cycle is told by its closing relation, along which no other one runs. -/
theorem eq_of_closingEdge_mem {c d : Cycle} (hc : c ∈ graph.findCycles roots)
    (hd : d ∈ graph.findCycles roots) {e : String × String} (hce : c.closingEdge? = some e)
    (hde : e ∈ d.edges) : c = d := by
  by_contra hcd
  exact ((findCycles_independent hclosed roots).forall hc hd hcd).1 e hce hde

/-- The relations between neighbours on a cycle are not broken. -/
theorem intact_of_neighbours {c : Cycle} (hc : c ∈ graph.findCycles roots) {a b : String}
    (hab : [a, b] <:+: c.path) :
    graph.Intact (breakCycles (graph.findCycles roots)) a b := by
  have hedge : (a, b) ∈ c.edges := Cycle.mem_edges_iff.mpr (.inl hab)
  refine ⟨findCycles_dependsOn hclosed roots hc hedge, Bool.eq_false_iff.mpr fun hbroken => ?_⟩
  obtain ⟨d, hd, hde⟩ := (isBroken_findCycles hclosed roots).mp hbroken
  obtain rfl := eq_of_closingEdge_mem hclosed roots hd hc hde hedge
  exact Cycle.closingEdge_not_mem (findCycles_nodup hclosed roots d hd) hde (mem_zip_tail.mpr hab)

/-- A broken relation that is spared closes a circle with relations that are not broken. -/
theorem circle_of_spared {a b : String} (fewer : BrokenEdges)
    (hbroken : (breakCycles (graph.findCycles roots)).isBroken a b = true)
    (hfewer : ∀ x y, fewer.isBroken x y = true →
      (breakCycles (graph.findCycles roots)).isBroken x y = true)
    (hspared : fewer.isBroken a b ≠ true) :
    graph.Intact fewer a b ∧ Relation.ReflTransGen (graph.Intact fewer) b a := by
  obtain ⟨c, hc, hce⟩ := (isBroken_findCycles hclosed roots).mp hbroken
  have hedge := findCycles_dependsOn hclosed roots hc (Cycle.closingEdge_mem hce)
  refine ⟨⟨hedge, Bool.eq_false_iff.mpr hspared⟩, Cycle.reflTransGen hce fun x y hxy => ?_⟩
  have hintact := intact_of_neighbours hclosed roots hc hxy
  refine ⟨hintact.1, Bool.eq_false_iff.mpr fun hxy => ?_⟩
  exact Bool.false_ne_true (hintact.2.symm.trans (hfewer x y hxy))

/-- A broken relation that is restored closes a circle with relations that are not broken. -/
theorem circle_of_restored {a b : String}
    (hbroken : (breakCycles (graph.findCycles roots)).isBroken a b = true) :
    graph.Intact ((breakCycles (graph.findCycles roots)).remove a b) a b ∧
      Relation.ReflTransGen
        (graph.Intact ((breakCycles (graph.findCycles roots)).remove a b)) b a := by
  refine circle_of_spared hclosed roots _ hbroken ?_ ?_
  · exact fun x y hxy => (BrokenEdges.isBroken_remove.mp hxy).2
  · exact fun hrest => (BrokenEdges.isBroken_remove.mp hrest).1 rfl

/-- **No circle is left.**  The relations that are not broken form no circle. -/
theorem acyclic_intact : Acyclic (graph.Intact (breakCycles (graph.findCycles roots))) := by
  refine (explored_finish hclosed roots).acyclic.mono fun a b hab => ?_
  refine ⟨(Search.followed_finish hclosed roots).mpr hab.1, ?_⟩
  rintro ⟨c, hc, hce⟩
  have hbroken := (isBroken_findCycles hclosed roots).mpr ⟨c, (mem_findCycles roots).mpr hc, hce⟩
  rw [hab.2] at hbroken
  cases hbroken

end RelationGraph

/-! ### Accepted models -/

/-- A blog in which users, posts and comments relate to each other in circles. -/
def blogEntities : List Entity :=
  [{ name := "User", key := some ⟨"id", "number"⟩,
     fields := [{ name := "posts", kind := .relation .many "Post" }] },
   { name := "Post", key := some ⟨"id", "string"⟩,
     fields := [{ name := "author", kind := .relation .one "User" },
       { name := "comments", kind := .relation .many "Comment" }] },
   { name := "Comment",
     fields := [{ name := "post", kind := .relation .one "Post" },
       { name := "author", kind := .relation .one "User" },
       { name := "answers", kind := .relation .many "Comment" }] }]

/-- The model of the blog. -/
def blog : EntityModel :=
  (EntityModel.ofEntities blogEntities).toOption.getD .empty

theorem blog_accepted : blog.Accepted :=
  .inl ⟨blogEntities, EntityModel.ofEntities_getD (by decide +kernel)⟩

/-- **Cycle breaking is complete.**  In the graph of an accepted or empty model no circle is left when
the relations are broken that a search from any roots asks for, and so none is left by the
analysis. -/
theorem cycleBreaking_complete {model : EntityModel} (h : model.Accepted ∨ model = .empty) :
    (∀ roots, Acyclic (model.graph.Intact (breakCycles (model.graph.findCycles roots)))) ∧
      Acyclic (model.graph.Intact model.analysis.broken) := by
  have hclosed := (EntityModel.coherent_of_accepted_or_empty h).graph_closed
  exact ⟨RelationGraph.acyclic_intact hclosed,
    RelationGraph.acyclic_intact hclosed model.graph.order⟩

/-- Four relations of the blog are broken, and then no circle is left. -/
theorem cycleBreaking_complete_blog :
    (breakCycles (blog.graph.findCycles ["Ghost", "User"])).size = 4 ∧
      Acyclic (blog.graph.Intact (breakCycles (blog.graph.findCycles ["Ghost", "User"]))) :=
  ⟨by decide +kernel, (cycleBreaking_complete (.inl blog_accepted)).1 ["Ghost", "User"]⟩

/-- **Nothing is broken needlessly.**  Every broken relation lies on a circle of the graph, closes a
circle again when it alone is restored, and so no smaller set of broken relations will do. -/
theorem cycleBreaking_minimal {model : EntityModel} (h : model.Accepted ∨ model = .empty)
    (roots : List String) :
    let graph := model.graph
    let broken := breakCycles (graph.findCycles roots)
    (∀ a b, broken.isBroken a b = true →
      (graph.DependsOn a b ∧ Relation.ReflTransGen graph.DependsOn b a) ∧
      graph.Intact (broken.remove a b) a b ∧
        Relation.ReflTransGen (graph.Intact (broken.remove a b)) b a) ∧
    ∀ fewer : BrokenEdges, (∀ a b, fewer.isBroken a b = true → broken.isBroken a b = true) →
      fewer ≠ broken → ¬Acyclic (graph.Intact fewer) := by
  intro graph broken
  have hclosed : graph.Closed := (EntityModel.coherent_of_accepted_or_empty h).graph_closed
  refine ⟨fun a b hab => ?_, fun fewer hfewer hne hacyclic => ?_⟩
  · obtain ⟨hedge, hback⟩ := RelationGraph.circle_of_restored hclosed roots hab
    have hcircle : Relation.ReflTransGen graph.DependsOn b a :=
      Relation.ReflTransGen.mono (fun _ _ hxy => hxy.1) _ _ hback
    exact ⟨⟨hedge.1, hcircle⟩, hedge, hback⟩
  · refine hne (BrokenEdges.ext_isBroken fun a b => ⟨hfewer a b, fun hab => ?_⟩)
    by_contra hrest
    obtain ⟨hedge, hback⟩ :=
      RelationGraph.circle_of_spared hclosed roots fewer hab hfewer hrest
    exact hacyclic a (.head' hedge hback)

/-- All relations to break in the blog; if none is broken, there is a circle. -/
theorem cycleBreaking_minimal_blog :
    (breakCycles (blog.graph.findCycles ["Ghost", "User"])).toList =
        [("Comment", "Comment"), ("Comment", "Post"), ("Comment", "User"), ("Post", "User")] ∧
      ¬Acyclic (blog.graph.Intact .empty) := by
  have hsize : (breakCycles (blog.graph.findCycles ["Ghost", "User"])).size = 4 := by
    decide +kernel
  refine ⟨by decide +kernel,
    (cycleBreaking_minimal (.inl blog_accepted) ["Ghost", "User"]).2 .empty ?_ ?_⟩
  · intro a b hab
    rw [BrokenEdges.isBroken_empty] at hab
    cases hab
  · intro hempty
    rw [← hempty] at hsize
    cases hsize

/-- **Each cycle is broken exactly once.**  The closing relations of the cycles that a search finds
are all different and lie on no other of these cycles, they are all that is broken, and the order of
the cycles does not matter. -/
theorem cycleBreaking_once {model : EntityModel} (h : model.Accepted ∨ model = .empty)
    (roots : List String) :
    let cycles := model.graph.findCycles roots
    let broken := breakCycles cycles
    ((∀ c ∈ cycles, c.closingEdge?.isSome = true) ∧ (cycles.map Cycle.closingEdge?).Nodup) ∧
    (∀ c ∈ cycles, ∀ d ∈ cycles, c ≠ d → ∀ e, c.closingEdge? = some e → e ∉ d.edges) ∧
    ((∀ a b, broken.isBroken a b = true ↔ ∃ c ∈ cycles, c.closingEdge? = some (a, b)) ∧
      broken.size = cycles.length) ∧
    (∀ c ∈ cycles, c.edges.countP (fun e => broken.isBroken e.1 e.2) = 1) ∧
    ∀ cycles' : List Cycle, cycles'.Perm cycles → breakCycles cycles' = broken := by
  intro cycles broken
  have hclosed := (EntityModel.coherent_of_accepted_or_empty h).graph_closed
  have hindep := RelationGraph.findCycles_independent hclosed roots
  have hne := RelationGraph.findCycles_ne hclosed roots
  have hnodup := RelationGraph.findCycles_nodup hclosed roots
  have hbroken := @RelationGraph.isBroken_findCycles _ hclosed roots
  have hsome : ∀ c ∈ cycles, c.closingEdge?.isSome = true := fun c hc =>
    Option.isSome_iff_exists.mpr (Cycle.exists_closingEdge (hne c hc))
  refine ⟨⟨hsome, ?_⟩, ?_, ⟨fun a b => hbroken, size_breakCycles hindep hne⟩, ?_, ?_⟩
  · refine List.pairwise_map.mpr (hindep.imp_of_mem fun {c d} hc _ hcd heq => ?_)
    obtain ⟨e, he⟩ := Option.isSome_iff_exists.mp (hsome c hc)
    exact hcd.1 e he (Cycle.closingEdge_mem (heq ▸ he))
  · exact fun c hc d hd hcd e => (hindep.forall hc hd hcd).1 e
  · intro c hc
    refine Cycle.countP_edges (hnodup c hc) (hne c hc) fun e he => ?_
    refine ⟨fun hb => ?_, fun hce => hbroken.mpr ⟨c, hc, hce⟩⟩
    obtain ⟨d, hd, hde⟩ := hbroken.mp hb
    exact RelationGraph.eq_of_closingEdge_mem hclosed roots hd hc hde he ▸ hde
  · exact fun cycles' hperm => breakCycles_perm hindep hne hperm

/-- The cycles found in the blog from one of its entities and an unknown name. -/
theorem cycleBreaking_once_blog :
    (blog.graph.findCycles ["Ghost", "User"]).map Cycle.path =
        [["User", "Post"], ["Post", "Comment"], ["User", "Post", "Comment"], ["Comment"]] ∧
      ((blog.graph.findCycles ["Ghost", "User"]).map Cycle.closingEdge?).Nodup :=
  ⟨by decide +kernel, (cycleBreaking_once (.inl blog_accepted) ["Ghost", "User"]).1.2⟩

end EntityProjection
