import EntityProjection.Proofs.Graph.Restriction

/-!
# Searches of a part

What a search of a graph does with a separated part of it.  As no relation leads across the border,
the current path lies in the part or outside of it as a whole.  So a move of the search is a move of
a search of the part alone, or it does nothing to the part; and when the search of the graph is over,
the search of the part is.

* `Search.restrict`: what a search has to do with the entities of a part;
* `Search.Move.restrict`: a move of the whole is a move of the part or does not touch it;
* `RelationGraph.findCycles_restrict`: the cycles of a part;
* `RelationGraph.analysis_restrict`: the analysis of a part.
-/

namespace EntityProjection

/-- Where a test agrees on neighbours it agrees on the whole path. -/
theorem eq_head_of_neighbours {keep : String → Bool} {first : String} {rest : List String}
    (h : ∀ a b, [a, b] <:+: first :: rest → keep b = keep a) :
    ∀ name ∈ first :: rest, keep name = keep first := by
  induction rest generalizing first with
  | nil =>
    intro name hname
    rw [List.mem_singleton.mp hname]
  | cons second rest ih =>
    have hsecond : keep second = keep first := h first second ⟨[], rest, rfl⟩
    intro name hname
    obtain rfl | hname := List.mem_cons.mp hname
    · rfl
    · have hrest := ih (fun a b hab => h a b (hab.trans (List.suffix_cons _ _).isInfix)) name hname
      exact hrest.trans hsecond

theorem all_eq_of_neighbours {keep : String → Bool} {path : List String} {name : String}
    (h : ∀ a b, [a, b] <:+: path → keep b = keep a) (hname : name ∈ path) :
    path.all keep = keep name := by
  cases path with
  | nil => cases hname
  | cons first rest =>
    have hhead := eq_head_of_neighbours h
    rw [Bool.eq_iff_iff, List.all_eq_true]
    exact ⟨fun hall => hall name hname, fun hkeep other ho =>
      (hhead other ho).trans ((hhead name hname).symm.trans hkeep)⟩

namespace Search

variable {graph : RelationGraph} {keep : String → Bool} {s t : Search} {entity name : String}
  {pending : List String} {frames : List Frame}

/-! ### Moves are determined -/

/-- A search makes the move that it can make. -/
theorem Move.step?_eq (h : Move graph s t) : s.step? graph = some t := by
  cases h with
  | skip hframes hroots hvisited =>
    simp [step?, hframes, hroots, startFrom, Std.ExtTreeSet.contains_iff_mem, hvisited]
  | start hframes hroots hnew =>
    simp [step?, hframes, hroots, startFrom, Std.ExtTreeSet.contains_iff_mem, hnew]
  | leave hframes => simp [step?, hframes]
  | close hframes hactive =>
    simp [step?, hframes, follow, Std.ExtTreeSet.contains_iff_mem, hactive, closedCycle]
  | pass hframes hactive hvisited =>
    simp [step?, hframes, follow, Std.ExtTreeSet.contains_iff_mem, hactive, hvisited]
  | enter hframes hactive hnew =>
    simp [step?, hframes, follow, Std.ExtTreeSet.contains_iff_mem, hactive, hnew]

/-- A search that is over is the only one that is over and can be reached by moves. -/
theorem eq_of_step?_eq_none {t' : Search} (ht : Relation.ReflTransGen (Move graph) s t)
    (ht' : Relation.ReflTransGen (Move graph) s t') (hend : t.step? graph = none)
    (hend' : t'.step? graph = none) : t = t' := by
  have hunique : Relator.RightUnique (Move graph) := fun _ _ _ h h' =>
    Option.some.inj (h.step?_eq.symm.trans h'.step?_eq)
  have hstuck : ∀ {u v : Search}, u.step? graph = none → Relation.ReflTransGen (Move graph) u v →
      u = v := by
    intro u v hu huv
    obtain rfl | ⟨w, huw, -⟩ := Relation.ReflTransGen.cases_head huv
    · rfl
    · rw [huw.step?_eq] at hu
      cases hu
  obtain h | h := Relation.ReflTransGen.total_of_right_unique hunique ht ht'
  · exact hstuck hend h
  · exact (hstuck hend' h).symm

/-- A run consists of moves. -/
theorem reaches_after (graph : RelationGraph) (n : ℕ) (s : Search) :
    Relation.ReflTransGen (Move graph) s (s.after graph n) :=
  after_induction (fun h hm => h.tail hm) n .refl

/-! ### The part of a search -/

/-- What a search has to do with the entities that are kept. -/
def restrict (keep : String → Bool) (s : Search) : Search where
  roots := s.roots.filter keep
  frames := s.frames.filter fun f => keep f.entity
  path := s.path.filter keep
  active := s.active.filter keep
  visited := s.visited.filter keep
  seen := s.seen.filter fun path => path.all keep
  found := s.found.filter fun c => c.path.all keep

theorem restrict_start (graph : RelationGraph) (keep : String → Bool) (roots : List String) :
    (start graph roots).restrict keep = start (graph.restrict keep) (roots.filter keep) := by
  have hroots : ((roots ++ graph.names).filter graph.contains).filter keep =
      (roots.filter keep ++ (graph.restrict keep).names).filter (graph.restrict keep).contains := by
    rw [RelationGraph.names_restrict, ← List.filter_append, List.filter_filter, List.filter_filter]
    refine List.filter_congr fun name _ => Bool.eq_iff_iff.mpr ?_
    simp only [Bool.and_eq_true, RelationGraph.contains_iff, RelationGraph.mem_names_restrict]
    tauto
  simp only [restrict, start, hroots, filter_empty_set, List.filter_nil]

/-! ### The parts of moves -/

theorem restrict_frames_nil (hframes : s.frames = []) : (s.restrict keep).frames = [] := by
  rw [restrict, hframes, List.filter_nil]

theorem restrict_frames (hframes : s.frames = ⟨entity, pending⟩ :: frames)
    (h : keep entity = true) :
    (s.restrict keep).frames = ⟨entity, pending⟩ :: frames.filter fun f => keep f.entity := by
  show s.frames.filter (fun f => keep f.entity) = _
  rw [hframes]
  exact List.filter_cons_of_pos h

theorem filter_frames_of_not (pending : List String) (frames : List Frame)
    (h : ¬keep entity = true) : (⟨entity, pending⟩ :: frames).filter (fun f => keep f.entity) =
      frames.filter fun f => keep f.entity :=
  List.filter_cons_of_neg h

theorem restrict_roots {roots : List String} (hroots : s.roots = name :: roots)
    (h : keep name = true) : (s.restrict keep).roots = name :: roots.filter keep := by
  rw [restrict, hroots, List.filter_cons_of_pos h]

/-- A root outside the part does not show in it. -/
theorem restrict_roots_of_not {roots : List String} (hroots : s.roots = name :: roots)
    (h : ¬keep name = true) : restrict keep { s with roots } = s.restrict keep := by
  simp only [restrict, hroots, List.filter_cons_of_neg h]

/-- An entity of the part that is entered is entered in the part. -/
theorem restrict_enter (h : keep name = true) :
    (s.enter graph name).restrict keep = (s.restrict keep).enter (graph.restrict keep) name := by
  simp only [restrict, enter, h, List.filter_cons_of_pos, filter_insert_set,
    RelationGraph.dependencies_restrict]

theorem restrict_enter_of_not (h : ¬keep name = true) :
    (s.enter graph name).restrict keep = s.restrict keep := by
  simp only [restrict, enter, List.filter_cons_of_neg h, filter_insert_set_of_not h,
    filter_frames_of_not _ _ h]

/-- An entity of the part that is left is left in the part. -/
theorem restrict_leave {path : List String} (hframes : s.frames = ⟨entity, pending⟩ :: frames)
    (hpath : s.path = entity :: path) (h : keep entity = true) :
    (s.leave entity).restrict keep = (s.restrict keep).leave entity := by
  simp only [restrict, leave, hframes, hpath, List.tail_cons, filter_erase_set, h,
    List.filter_cons_of_pos]

theorem restrict_leave_of_not {path : List String}
    (hframes : s.frames = ⟨entity, pending⟩ :: frames) (hpath : s.path = entity :: path)
    (h : ¬keep entity = true) : (s.leave entity).restrict keep = s.restrict keep := by
  simp only [restrict, leave, hframes, hpath, List.tail_cons, filter_erase_set,
    erase_filter_set_of_not h, List.filter_cons_of_neg h, filter_frames_of_not _ _ h]

/-- A relation of an entity of the part that is followed is followed in the part. -/
theorem restrict_advance (h : keep entity = true) :
    restrict keep { s with frames := ⟨entity, pending⟩ :: frames } =
      { s.restrict keep with
        frames := ⟨entity, pending⟩ :: frames.filter fun f => keep f.entity } := by
  simp only [restrict, h, List.filter_cons_of_pos]

theorem restrict_advance_of_not (hframes : s.frames = ⟨entity, name :: pending⟩ :: frames)
    (h : ¬keep entity = true) :
    restrict keep { s with frames := ⟨entity, pending⟩ :: frames } = s.restrict keep := by
  simp only [restrict, hframes, filter_frames_of_not _ _ h]

/-- A cycle of the part that is recorded is recorded in the part. -/
theorem restrict_record {c : Cycle} (h : c.path.all keep = true) :
    (s.record c).restrict keep = (s.restrict keep).record c := by
  have hseen : (s.restrict keep).seen.contains c.path = s.seen.contains c.path := by
    rw [Bool.eq_iff_iff, Std.ExtTreeSet.contains_iff_mem, Std.ExtTreeSet.contains_iff_mem, restrict,
      mem_filter_set, and_iff_left h]
  have hinsert : (s.seen.insert c.path).filter (fun path => path.all keep) =
      (s.seen.filter fun path => path.all keep).insert c.path :=
    filter_insert_set (by exact h) _
  have hfound : (c :: s.found).filter (fun c => c.path.all keep) =
      c :: s.found.filter fun c => c.path.all keep := List.filter_cons_of_pos h
  rw [record, record, hseen]
  split
  · rfl
  · simp only [restrict, hinsert, hfound]

theorem restrict_record_of_not {c : Cycle} (h : ¬c.path.all keep = true) :
    (s.record c).restrict keep = s.restrict keep := by
  have hinsert : (s.seen.insert c.path).filter (fun path => path.all keep) =
      s.seen.filter fun path => path.all keep :=
    filter_insert_set_of_not (by exact h) _
  have hfound : (c :: s.found).filter (fun c => c.path.all keep) =
      s.found.filter fun c => c.path.all keep := List.filter_cons_of_neg h
  rw [record]
  split
  · rfl
  · simp only [restrict, hinsert, hfound]

/-! ### The part of a search along its moves -/

/-- The path lies in a separated part if its latest entity does, and outside of it otherwise. -/
theorem Explored.path_keep (he : Explored graph s) (hs : Stacked graph s)
    (hsep : graph.Separated keep) (hframes : s.frames = ⟨entity, pending⟩ :: frames) :
    s.path.all keep = keep entity := by
  refine all_eq_of_neighbours (fun a b hab => ?_) (hs.path_cons hframes ▸ List.mem_cons_self)
  exact (hsep b a (he.path_forward hab).1.2.1).symm

/-- So does a cycle that is closed. -/
theorem Explored.closedCycle_keep (he : Explored graph s) (hs : Stacked graph s)
    (hsep : graph.Separated keep) (hframes : s.frames = ⟨entity, name :: pending⟩ :: frames)
    (hactive : name ∈ s.active) : (s.closedCycle name).path.all keep = keep entity := by
  refine all_eq_of_neighbours (fun a b hab => ?_)
    (Cycle.mem_of_closingEdge (hs.closedCycle hframes hactive).2).1
  exact hsep a b (he.closedCycle_forward hs hframes hactive hab).1.2.1

/-- **The part of a move.**  What a move of a search does with a separated part is a move of a search
of the part, or nothing. -/
theorem Move.restrict (hm : Move graph s t) (hs : Stacked graph s) (he : Explored graph s)
    (hsep : graph.Separated keep) :
    t.restrict keep = s.restrict keep ∨
      Move (graph.restrict keep) (s.restrict keep) (t.restrict keep) := by
  cases hm with
  | @skip root roots hframes hroots hvisited =>
    by_cases h : keep root = true
    · exact .inr (.skip (restrict_frames_nil hframes) (restrict_roots hroots h)
        (mem_filter_set.mpr ⟨hvisited, h⟩))
    · exact .inl (restrict_roots_of_not hroots h)
  | @start root roots hframes hroots hnew =>
    by_cases h : keep root = true
    · rw [restrict_enter h]
      exact .inr (.start (restrict_frames_nil hframes) (restrict_roots hroots h)
        fun hv => hnew (mem_filter_set.mp hv).1)
    · rw [restrict_enter_of_not h]
      exact .inl (restrict_roots_of_not hroots h)
  | @leave entity frames hframes =>
    have hpath := hs.path_cons hframes
    by_cases h : keep entity = true
    · rw [restrict_leave hframes hpath h]
      exact .inr (.leave (restrict_frames hframes h))
    · exact .inl (restrict_leave_of_not hframes hpath h)
  | @close entity name pending frames hframes hactive =>
    have hcycle := he.closedCycle_keep hs hsep hframes hactive
    by_cases h : keep entity = true
    · have hname : keep name = true := (hsep _ _ (hs.dependsOn hframes)).trans h
      have hpath : (s.restrict keep).path = s.path := List.filter_eq_self.mpr
        (List.all_eq_true.mp ((he.path_keep hs hsep hframes).trans h))
      have hclosed : (s.restrict keep).closedCycle name = s.closedCycle name := by
        rw [closedCycle, closedCycle, hpath]
      rw [restrict_record (hcycle.trans h), restrict_advance h, ← hclosed]
      exact .inr (.close (restrict_frames hframes h) (mem_filter_set.mpr ⟨hactive, hname⟩))
    · rw [restrict_record_of_not (hcycle ▸ h), restrict_advance_of_not hframes h]
      exact .inl rfl
  | @pass entity name pending frames hframes hactive hvisited =>
    by_cases h : keep entity = true
    · have hname : keep name = true := (hsep _ _ (hs.dependsOn hframes)).trans h
      rw [restrict_advance h]
      exact .inr (.pass (restrict_frames hframes h) (fun ha => hactive (mem_filter_set.mp ha).1)
        (mem_filter_set.mpr ⟨hvisited, hname⟩))
    · exact .inl (restrict_advance_of_not hframes h)
  | @enter entity name pending frames hframes hactive hnew =>
    have hname : keep name = keep entity := hsep _ _ (hs.dependsOn hframes)
    by_cases h : keep entity = true
    · rw [restrict_enter (hname.trans h), restrict_advance h]
      exact .inr (.enter (restrict_frames hframes h) (fun ha => hactive (mem_filter_set.mp ha).1)
        fun hv => hnew (mem_filter_set.mp hv).1)
    · rw [restrict_enter_of_not (hname ▸ h), restrict_advance_of_not hframes h]
      exact .inl rfl

/-- **Run lemma.**  The part of a search is reached by a search of the part. -/
theorem restrict_after (hclosed : graph.Closed) (hsep : graph.Separated keep) (hs : Stacked graph s)
    (he : Explored graph s) (n : ℕ) :
    Relation.ReflTransGen (Move (graph.restrict keep)) (s.restrict keep)
      ((s.after graph n).restrict keep) := by
  refine (after_induction (P := fun t => (Stacked graph t ∧ Explored graph t) ∧
    Relation.ReflTransGen (Move (graph.restrict keep)) (s.restrict keep) (t.restrict keep))
    (fun {t u} ht hm => ?_) n ⟨⟨hs, he⟩, .refl⟩).2
  obtain ⟨⟨hs, he⟩, hreach⟩ := ht
  refine ⟨⟨hs.move hclosed hm, he.move hs hm⟩, ?_⟩
  obtain hstay | hmove := hm.restrict hs he hsep
  · rwa [hstay]
  · exact hreach.tail hmove

/-- **The search of a part.**  What a finished search has to do with a separated part is the finished
search of the part. -/
theorem restrict_finish (hclosed : graph.Closed) (hsep : graph.Separated keep) (roots : List String) :
    (finish graph roots).restrict keep = finish (graph.restrict keep) (roots.filter keep) := by
  have hend := step?_finish hclosed roots
  obtain ⟨hframes, hroots⟩ := step?_eq_none hend
  have hreach := restrict_after hclosed hsep (.of_start graph roots) (.of_start graph roots)
    (moves graph roots)
  rw [restrict_start] at hreach
  refine eq_of_step?_eq_none hreach (reaches_after _ _ _) ?_
    (step?_finish (hclosed.restrict hsep) (roots.filter keep))
  simp [step?, restrict, hframes, hroots]

end Search

/-! ### The analysis of a part -/

/-- What an analysis says about the entities that are kept. -/
def GraphAnalysis.restrict (keep : String → Bool) (analysis : GraphAnalysis) : GraphAnalysis where
  graph := analysis.graph.restrict keep
  cycles := analysis.cycles.filter fun c => c.path.all keep
  broken := ⟨analysis.broken.edges.filter fun edge => keep edge.1 && keep edge.2⟩
  order := analysis.order.filter keep

namespace RelationGraph

variable {graph : RelationGraph} {keep : String → Bool} (hclosed : graph.Closed)
  (hsep : graph.Separated keep)

include hclosed hsep

/-- **The cycles of a part.**  The cycles that a search finds in a separated part are those that it
finds there if there are no other entities, in the same order and from the same starting points. -/
theorem findCycles_restrict (roots : List String) :
    (graph.restrict keep).findCycles (roots.filter keep) =
      (graph.findCycles roots).filter fun c => c.path.all keep := by
  rw [findCycles, ← Search.restrict_finish hclosed hsep roots, findCycles, List.filter_reverse]
  rfl

/-- A cycle that is found lies in a separated part if its closing relation starts there. -/
theorem findCycles_keep {roots : List String} {c : Cycle} (hc : c ∈ graph.findCycles roots)
    {a b : String} (hclosing : c.closingEdge? = some (a, b)) : c.path.all keep = keep a := by
  refine all_eq_of_neighbours (fun x y hxy => ?_) (Cycle.mem_of_closingEdge hclosing).1
  exact hsep x y (findCycles_dependsOn hclosed roots hc (Cycle.mem_edges_iff.mpr (.inl hxy)))

/-- The relations that are broken in a separated part are those that are broken if there are no other
entities. -/
theorem isBroken_restrict {roots : List String} {a b : String} :
    (breakCycles ((graph.restrict keep).findCycles (roots.filter keep))).isBroken a b = true ↔
      (breakCycles (graph.findCycles roots)).isBroken a b = true ∧ keep a = true := by
  rw [isBroken_findCycles (hclosed.restrict hsep), isBroken_findCycles hclosed,
    findCycles_restrict hclosed hsep]
  constructor
  · rintro ⟨c, hc, hclosing⟩
    obtain ⟨hc, hkeep⟩ := List.mem_filter.mp hc
    exact ⟨⟨c, hc, hclosing⟩, (findCycles_keep hclosed hsep hc hclosing).symm.trans hkeep⟩
  · rintro ⟨⟨c, hc, hclosing⟩, hkeep⟩
    exact ⟨c, List.mem_filter.mpr ⟨hc, (findCycles_keep hclosed hsep hc hclosing).trans hkeep⟩,
      hclosing⟩

/-- **The analysis of a part.**  The analysis of a separated part is what the analysis of the whole
says about its entities. -/
theorem analysis_restrict : (graph.restrict keep).analysis = graph.analysis.restrict keep := by
  have hbroken : breakCycles ((graph.restrict keep).findCycles (graph.order.filter keep)) =
      ⟨(breakCycles (graph.findCycles graph.order)).edges.filter fun edge =>
        keep edge.1 && keep edge.2⟩ := by
    refine BrokenEdges.ext_isBroken fun a b => ?_
    rw [isBroken_restrict hclosed hsep]
    show _ ↔ Std.ExtTreeSet.contains _ (a, b) = true
    rw [Std.ExtTreeSet.contains_iff_mem, mem_filter_set, ← Std.ExtTreeSet.contains_iff_mem,
      Bool.and_eq_true]
    refine and_congr_right fun h => ⟨fun ha => ⟨ha, ?_⟩, And.left⟩
    exact (hsep a b (dependsOn_of_isBroken hclosed graph.order h)).trans ha
  rw [analysis, order_restrict hsep, hbroken, findCycles_restrict hclosed hsep, analysis,
    GraphAnalysis.restrict]

end RelationGraph

end EntityProjection
