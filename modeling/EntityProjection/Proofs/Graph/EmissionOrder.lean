import Mathlib.Data.List.Lex
import Mathlib.Data.Prod.Lex
import Mathlib.Data.Set.Card
import EntityProjection.Proofs.Graph.CycleBreaking
import EntityProjection.Proofs.Graph.Readiness

/-!
# The emission order

What the emission order of a graph is, said without the schedule that computes it.  An entity is
circular if a circle through two different entities can be reached from it.  The entities that are not
come first, in the least order in which each one follows on all it depends on, and the circular ones
come last, by the number of circular entities they depend on, then by the number of their relations,
then by name.

* `Schedule.Greedy.le_of_needsFirst`: to take the least ready name at any time gives the least order;
* `RelationGraph.mem_schedule_order_iff`: the schedule emits just the entities that are not circular;
* `RelationGraph.mem_before_of_not_circular`: what stands before an entity that is not circular;
* `emissionOrder_least_then_circular`: the emission order of an accepted model.
-/

namespace EntityProjection

/-! ### Least orders -/

namespace Schedule

variable {needs : String → List String} {names done order : List String}

/-- Names that follow on those that are done, each after all that it needs. -/
def NeedsFirst (needs : String → List String) : List String → List String → Prop
  | _, [] => True
  | done, name :: rest => (∀ need ∈ needs name, need ∈ done) ∧ NeedsFirst needs (name :: done) rest

/-- Before a name in such an order stands all that it needs. -/
theorem needsFirst_iff : NeedsFirst needs done order ↔
    ∀ before name after, order = before ++ name :: after →
      ∀ need ∈ needs name, need ∈ done ∨ need ∈ before := by
  induction order generalizing done with
  | nil => simp [NeedsFirst]
  | cons first rest ih =>
    rw [NeedsFirst, ih]
    constructor
    · rintro ⟨hfirst, hrest⟩ before name after heq need hneed
      cases before with
      | nil =>
        cases heq
        exact .inl (hfirst need hneed)
      | cons other before =>
        cases heq
        have h := hrest before name after rfl need hneed
        simp only [List.mem_cons] at h ⊢
        tauto
    · intro h
      refine ⟨fun need hneed => ?_, fun before name after heq need hneed => ?_⟩
      · exact (h [] first rest rfl need hneed).resolve_right List.not_mem_nil
      · have h := h (first :: before) name after (by rw [heq, List.cons_append]) need hneed
        simp only [List.mem_cons] at h ⊢
        tauto

namespace Greedy

theorem needsFirst (h : Greedy needs names done order) : NeedsFirst needs done order := by
  induction order generalizing done with
  | nil => trivial
  | cons name rest ih => exact ⟨h.1.1.2, ih h.2⟩

/-- What is emitted is new. -/
theorem mem_new (h : Greedy needs names done order) {name : String} (hname : name ∈ order) :
    name ∈ names ∧ name ∉ done := by
  induction order generalizing done with
  | nil => cases hname
  | cons first rest ih =>
    obtain rfl | hrest := List.mem_cons.mp hname
    · exact h.1.1.1
    · exact (ih h.2 hrest).imp_right fun hnew hdone => hnew (List.mem_cons_of_mem _ hdone)

/-- **The least order.**  Names of which always the least ready one is emitted stand in the least
order in which each one follows on all that it needs. -/
theorem le_of_needsFirst (h : Greedy needs names done order) {other : List String}
    (hperm : other.Perm order) (hfirst : NeedsFirst needs done other) : order ≤ other := by
  induction order generalizing done other with
  | nil =>
    rw [List.perm_nil.mp hperm]
  | cons name rest ih =>
    cases other with
    | nil => exact absurd hperm.symm (List.not_perm_cons_nil)
    | cons first others =>
      have hready : Ready needs names done first :=
        ⟨mem_new h (hperm.mem_iff.mp List.mem_cons_self), hfirst.1⟩
      rcases (h.head_le hready).lt_or_eq with hlt | rfl
      · exact le_of_lt (List.Lex.rel hlt)
      · rcases (ih h.2 hperm.cons_inv hfirst.2).lt_or_eq with hlt | heq
        · exact le_of_lt (List.Lex.cons hlt)
        · rw [heq]

end Greedy

end Schedule

/-! ### Circular entities -/

namespace RelationGraph

variable {graph : RelationGraph}

/-- From an entity a circle through two different entities can be reached. -/
def Circular (graph : RelationGraph) (name : String) : Prop :=
  ∃ a b, a ≠ b ∧ Relation.ReflTransGen graph.DependsOn name a ∧
    Relation.ReflTransGen graph.DependsOn a b ∧ Relation.ReflTransGen graph.DependsOn b a

/-- Each entity of an order follows on all the others that it depends on. -/
def DependenciesFirst (graph : RelationGraph) (order : List String) : Prop :=
  ∀ before name after, order = before ++ name :: after →
    ∀ target, graph.DependsOn name target → target ≠ name → target ∈ before

theorem mem_needs {name target : String} :
    target ∈ graph.needs name ↔ graph.DependsOn name target ∧ target ≠ name := by
  rw [needs, List.mem_filter, bne_iff_ne, DependsOn]

theorem dependenciesFirst_iff {order : List String} :
    graph.DependenciesFirst order ↔ Schedule.NeedsFirst graph.needs [] order := by
  simp only [DependenciesFirst, Schedule.needsFirst_iff, mem_needs, List.not_mem_nil, false_or,
    and_imp]

/-- Along a relation one gets to the same place in such an order or to an earlier one. -/
theorem DependenciesFirst.idxOf_le {order : List String} (h : graph.DependenciesFirst order)
    {a b : String} (ha : a ∈ order) (hab : Relation.ReflTransGen graph.DependsOn a b) :
    b ∈ order ∧ order.idxOf b ≤ order.idxOf a := by
  induction hab with
  | refl => exact ⟨ha, Nat.le_refl _⟩
  | @tail b c _ hbc ih =>
    obtain ⟨hb, hle⟩ := ih
    by_cases heq : c = b
    · exact heq ▸ ⟨hb, hle⟩
    · obtain ⟨before, after, hsplit, hnew⟩ := List.eq_append_cons_of_mem hb
      have hc : c ∈ before := h before b after hsplit c hbc heq
      have hlt : order.idxOf c < order.idxOf b := by
        rw [hsplit, List.idxOf_append_of_mem hc, List.idxOf_append_of_notMem hnew]
        exact Nat.lt_of_lt_of_le (List.idxOf_lt_length_of_mem hc) (Nat.le_add_right _ _)
      exact ⟨hsplit ▸ List.mem_append_left _ hc, hlt.le.trans hle⟩

theorem DependenciesFirst.not_circular {order : List String} (h : graph.DependenciesFirst order)
    {name : String} (hname : name ∈ order) : ¬graph.Circular name := by
  rintro ⟨a, b, hne, hreach, hab, hba⟩
  obtain ⟨ha, -⟩ := h.idxOf_le hname hreach
  obtain ⟨hb, hle⟩ := h.idxOf_le ha hab
  exact hne ((List.idxOf_inj ha).mp (Nat.le_antisymm (h.idxOf_le hb hba).2 hle))

theorem schedule_order_dependenciesFirst (graph : RelationGraph) :
    graph.DependenciesFirst graph.schedule.order :=
  dependenciesFirst_iff.mpr (Schedule.greedy_order graph.needs graph.names_nodup).needsFirst

/-- An entity that the schedule leaves over is circular: it waits for one that is left over too, and
to follow such relations, which lead to other entities, does not come to an end. -/
theorem circular_of_not_mem_order (hclosed : graph.Closed) {name : String}
    (hname : name ∈ graph.names) (hleft : name ∉ graph.schedule.order) : graph.Circular name := by
  by_contra hnot
  let waits : String → String → Prop := fun a b =>
    Relation.ReflTransGen graph.DependsOn name a ∧ b ∈ graph.needs a ∧ b ∉ graph.schedule.order
  have hacyclic : Acyclic waits := by
    intro a ha
    obtain ⟨b, ⟨hreach, hneed, -⟩, hback⟩ := Relation.TransGen.head'_iff.mp ha
    obtain ⟨hab, hne⟩ := mem_needs.mp hneed
    refine hnot ⟨a, b, hne.symm, hreach, .single hab, ?_⟩
    exact Relation.ReflTransGen.mono (fun _ _ hxy => (mem_needs.mp hxy.2.1).1) _ _ hback
  have hwf := hacyclic.wellFounded fun a b hab => hclosed a b (mem_needs.mp hab.2.1).1
  have hall : ∀ a, Relation.ReflTransGen graph.DependsOn name a → a ∈ graph.names →
      a ∉ graph.schedule.order → False := by
    intro a
    induction a using hwf.induction with
    | _ a ih =>
      intro hreach ha hleft
      obtain ⟨b, hneed, hb⟩ :=
        Schedule.exists_need_of_not_mem_order graph.needs graph.names_nodup ha hleft
      have hab := (mem_needs.mp hneed).1
      exact ih b ⟨hreach, hneed, hb⟩ (hreach.tail hab) (hclosed a b hab) hb
  exact hall name .refl hname hleft

/-- **What the schedule emits.**  It emits the entities that are not circular. -/
theorem mem_schedule_order_iff (hclosed : graph.Closed) {name : String} :
    name ∈ graph.schedule.order ↔ name ∈ graph.names ∧ ¬graph.Circular name := by
  constructor
  · intro h
    have hgreedy := Schedule.greedy_order graph.needs graph.names_nodup
    exact ⟨(hgreedy.mem_new h).1, graph.schedule_order_dependenciesFirst.not_circular h⟩
  · rintro ⟨hname, hnot⟩
    by_contra hleft
    exact hnot (circular_of_not_mem_order hclosed hname hleft)

/-- **What the schedule leaves over.**  These are the circular entities. -/
theorem mem_rankedLeftover_names_iff (hclosed : graph.Closed) {name : String} :
    name ∈ graph.rankedLeftover.map Leftover.name ↔ name ∈ graph.names ∧ graph.Circular name := by
  rw [mem_leftover_names, Std.ExtTreeMap.mem_iff_isSome_getElem?, Option.isSome_iff_exists]
  have hwaits : ∀ n, graph.schedule.waiting[name]? = some n ↔
      (name ∈ graph.names ∧ name ∉ graph.schedule.order) ∧
        Schedule.unmet graph.needs graph.schedule.order name = n :=
    fun n => Schedule.waiting_ofNeeds graph.needs graph.names_nodup
  simp only [hwaits, mem_schedule_order_iff hclosed]
  constructor
  · rintro ⟨-, ⟨hname, hleft⟩, -⟩
    exact ⟨hname, by_contra fun hnot => hleft ⟨hname, hnot⟩⟩
  · rintro ⟨hname, hcircular⟩
    exact ⟨_, ⟨hname, fun h => h.2 hcircular⟩, rfl⟩

/-- Before an entity that is not circular stand all the others that it depends on. -/
theorem mem_before_of_not_circular (hclosed : graph.Closed) {before after : List String}
    {name target : String} (horder : graph.order = before ++ name :: after)
    (hnot : ¬graph.Circular name) (hdep : graph.DependsOn name target) (hne : target ≠ name) :
    target ∈ before := by
  have hscheduled : name ∈ graph.schedule.order :=
    (mem_schedule_order_iff hclosed).mpr ⟨hdep.source_mem, hnot⟩
  obtain ⟨first, rest, hsplit⟩ := List.append_of_mem hscheduled
  have hfirst : graph.order =
      first ++ name :: (rest ++ graph.rankedLeftover.map Leftover.name) := by
    rw [order, hsplit, List.append_assoc, List.cons_append]
  -- The name stands once in the order, so that it is split in the same place as the schedule.
  have hnodup : graph.order.Nodup := graph.order_perm.nodup_iff.mpr graph.names_nodup
  rw [hfirst, List.nodup_middle, List.nodup_cons, List.mem_append, not_or] at hnodup
  have hsame : first = before :=
    ((List.append_cons_inj_of_notMem hnodup.1.1 hnodup.1.2).mp (hfirst.symm.trans horder)).1
  exact hsame ▸ graph.schedule_order_dependenciesFirst first name rest hsplit target hdep hne

/-! ### Ranks of circular entities -/

/-- How many other circular entities an entity depends on. -/
noncomputable def circularNeeds (graph : RelationGraph) (name : String) : ℕ :=
  {target | graph.DependsOn name target ∧ target ≠ name ∧ graph.Circular target}.ncard

/-- What circular entities are sorted by. -/
noncomputable def circularRank (graph : RelationGraph) (name : String) : ℕ ×ₗ ℕ ×ₗ String :=
  toLex (graph.circularNeeds name, toLex ((graph.outgoing name).length, name))

theorem circularNeeds_eq_unmet (hclosed : graph.Closed) (name : String) :
    graph.circularNeeds name = Schedule.unmet graph.needs graph.schedule.order name := by
  have hset : {target | graph.DependsOn name target ∧ target ≠ name ∧ graph.Circular target} =
      ((graph.needs name).filter fun need => !graph.schedule.order.contains need).toFinset := by
    ext target
    simp only [Set.mem_ofPred_eq, List.coe_toFinset, List.mem_filter, mem_needs, Bool.not_eq_true',
      ← Bool.not_eq_true, List.contains_iff_mem, mem_schedule_order_iff hclosed, and_assoc]
    refine and_congr_right fun hdep => and_congr_right fun _ => ?_
    have htarget := hclosed name target hdep
    tauto
  rw [circularNeeds, hset, Set.ncard_coe_finset, List.toFinset_card_of_nodup,
    ← List.countP_eq_length_filter, Schedule.unmet]
  exact ((graph.dependencies_nodup name).filter _).filter _

theorem Leftover.rank_eq_lt {l l' : Leftover} : Leftover.rank l l' = .lt ↔
    toLex (l.unmet, toLex (l.relations, l.name)) < toLex (l'.unmet, toLex (l'.relations, l'.name)) := by
  simp only [Leftover.rank, compareLex, compareOn, Prod.Lex.toLex_lt_toLex, Ordering.then_eq_lt,
    compare_lt_iff_lt, Std.LawfulEqCmp.compare_eq_iff_eq]

theorem rankedLeftover_sorted (hclosed : graph.Closed) :
    (graph.rankedLeftover.map Leftover.name).Pairwise fun a b =>
      graph.circularRank a < graph.circularRank b := by
  refine List.pairwise_map.mpr (Std.ExtTreeSet.ordered_toList.imp_of_mem ?_)
  intro l l' hl hl' hlt
  have hkey : ∀ {l : Leftover}, l ∈ graph.rankedLeftover →
      graph.circularRank l.name = toLex (l.unmet, toLex (l.relations, l.name)) := by
    intro l hl
    obtain ⟨hwaits, hrelations⟩ := mem_rankedLeftover.mp hl
    have hunmet := ((Schedule.waiting_ofNeeds graph.needs graph.names_nodup).mp hwaits).2
    rw [circularRank, circularNeeds_eq_unmet hclosed, ← hrelations, schedule, hunmet]
  rw [hkey hl, hkey hl']
  exact Leftover.rank_eq_lt.mp hlt

end RelationGraph

/-! ### Accepted models -/

/-- **The emission order.**  First come the entities that are not circular, in the least order in
which each one follows on all the others that it depends on; then come the circular ones, by how many
other circular entities they depend on, how many relations they have, and their names. -/
theorem emissionOrder_least_then_circular {model : EntityModel}
    (h : model.Accepted ∨ model = .empty) :
    let graph := model.graph
    ∃ first last, graph.order = first ++ last ∧
      (first.Nodup ∧ ∀ name, name ∈ first ↔ name ∈ model.names ∧ ¬graph.Circular name) ∧
      (last.Nodup ∧ ∀ name, name ∈ last ↔ name ∈ model.names ∧ graph.Circular name) ∧
      (graph.DependenciesFirst first ∧
        ∀ other : List String, other.Perm first → graph.DependenciesFirst other → first ≤ other) ∧
      last.Pairwise fun a b => graph.circularRank a < graph.circularRank b := by
  intro graph
  have hclosed : graph.Closed := (EntityModel.coherent_of_accepted_or_empty h).graph_closed
  have hnames : graph.names = model.names := EntityModel.graph_names model
  have hgreedy := Schedule.greedy_order graph.needs graph.names_nodup
  have hnodup : graph.schedule.order.Nodup :=
    List.nodup_reverse.mpr (Schedule.placed_ofNeeds graph.needs graph.names_nodup).emitted_nodup
  refine ⟨graph.schedule.order, graph.rankedLeftover.map Leftover.name, rfl,
    ⟨hnodup, fun name => ?_⟩, ⟨graph.leftover_names_nodup, fun name => ?_⟩,
    ⟨graph.schedule_order_dependenciesFirst, fun other hperm hfirst => ?_⟩,
    RelationGraph.rankedLeftover_sorted hclosed⟩
  · rw [← hnames]
    exact RelationGraph.mem_schedule_order_iff hclosed
  · rw [← hnames]
    exact RelationGraph.mem_rankedLeftover_names_iff hclosed
  · exact hgreedy.le_of_needsFirst hperm (RelationGraph.dependenciesFirst_iff.mp hfirst)

/-- A newspaper: authors and articles relate to each other in a circle, a feed to the articles;
sections and tags relate to neither. -/
def newspaperEntities : List Entity :=
  [{ name := "Feed", fields := [{ name := "articles", kind := .relation .many "Article" }] },
   { name := "Article", key := some ⟨"id", "string"⟩,
     fields := [{ name := "author", kind := .relation .one "Author" },
       { name := "reviewer", kind := .relation .one "Author" },
       { name := "section", kind := .relation .one "Section" },
       { name := "tags", kind := .relation .many "Tag" }] },
   { name := "Author", key := some ⟨"id", "number"⟩,
     fields := [{ name := "articles", kind := .relation .many "Article" }] },
   { name := "Tag", key := some ⟨"id", "number"⟩ },
   { name := "Section", key := some ⟨"id", "number"⟩,
     fields := [{ name := "parent", kind := .relation .one "Section" }] }]

/-- The model of the newspaper. -/
def newspaper : EntityModel :=
  (EntityModel.ofEntities newspaperEntities).toOption.getD .empty

theorem newspaper_accepted : newspaper.Accepted :=
  .inl ⟨newspaperEntities, EntityModel.ofEntities_getD (by decide +kernel)⟩

/-- In the newspaper a section that relates to itself does not wait, and a feed waits for articles. -/
theorem emissionOrder_newspaper :
    newspaper.graph.schedule.order = ["Section", "Tag"] ∧
      ∃ first last, newspaper.graph.order = first ++ last ∧
        (∀ name, name ∈ first ↔ name ∈ newspaper.names ∧ ¬newspaper.graph.Circular name) ∧
        ∀ name, name ∈ last ↔ name ∈ newspaper.names ∧ newspaper.graph.Circular name := by
  obtain ⟨first, last, horder, hfirst, hlast, -⟩ :=
    emissionOrder_least_then_circular (.inl newspaper_accepted)
  have hgreedy : Schedule.Greedy newspaper.graph.needs newspaper.graph.names [] ["Section", "Tag"] := by
    decide +kernel
  have hschedule := Schedule.greedy_order newspaper.graph.needs newspaper.graph.names_nodup
  exact ⟨hschedule.eq hgreedy, first, last, horder, hfirst.2, hlast.2⟩

end EntityProjection
