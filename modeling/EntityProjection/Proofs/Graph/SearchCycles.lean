import Mathlib.Data.List.Nodup
import EntityProjection.Proofs.Graph.Breaking
import EntityProjection.Proofs.Graph.SearchMoves

/-!
# What the search knows about circles

Every relation that the search has followed is of one of three kinds: it closes a recorded cycle, it
leads to the next entity of the path, or it leads to an entity that was left.  Relations that close
no cycle form no circle, because the first of them to be followed out of a finished entity never leads
back to the path.

* `Search.Followed`: the relations that were followed so far, of which a move adds at most one;
* `Search.Closing` and `Search.Forward`: the followed relations that close a recorded cycle, and
  those that do not;
* `Search.Explored`: the cycles recorded so far run along followed relations and are independent, and
  the forward relations form no circle; `Search.Explored.move`: every move keeps this.
-/

namespace EntityProjection.Search

variable {graph : RelationGraph} {s t : Search} {entity name : String} {pending : List String}
  {frames : List Frame}

/-! ### Followed relations -/

/-- A relation of a visited entity that no frame has still to follow. -/
def Followed (graph : RelationGraph) (s : Search) (a b : String) : Prop :=
  a ∈ s.visited ∧ graph.DependsOn a b ∧ ∀ f ∈ s.frames, f.entity = a → b ∉ f.pending

/-- A followed relation that closes a recorded cycle. -/
def Closing (s : Search) (a b : String) : Prop :=
  ∃ c ∈ s.found, c.closingEdge? = some (a, b)

/-- A followed relation that closes no recorded cycle. -/
def Forward (graph : RelationGraph) (s : Search) (a b : String) : Prop :=
  s.Followed graph a b ∧ ¬s.Closing a b

section Advance

variable {p : String → String → Prop} (hfound : t.found = s.found)
  (hfollowed : ∀ a b, t.Followed graph a b ↔ s.Followed graph a b ∨ p a b)

include hfound hfollowed

/-- A forward relation stays forward as long as no cycle is recorded. -/
theorem Forward.advance {a b : String} (h : s.Forward graph a b) : t.Forward graph a b := by
  refine ⟨(hfollowed a b).mpr (.inl h.1), fun hc => h.2 ?_⟩
  rwa [Closing, hfound] at hc

/-- A forward relation was forward before unless it is followed only now. -/
theorem Forward.cases_advance {a b : String} (h : t.Forward graph a b) :
    s.Forward graph a b ∨ p a b := by
  refine ((hfollowed a b).mp h.1).imp_left fun hf => ⟨hf, fun hc => h.2 ?_⟩
  rwa [Closing, hfound]

end Advance

/-- What is still to follow is not followed. -/
theorem not_followed (hframes : s.frames = ⟨entity, name :: pending⟩ :: frames) :
    ¬s.Followed graph entity name :=
  fun h => h.2.2 ⟨entity, name :: pending⟩ (hframes ▸ List.mem_cons_self) rfl List.mem_cons_self

/-- Entering a new entity follows no relation. -/
theorem followed_enter (hnew : name ∉ s.visited) {a b : String} :
    (s.enter graph name).Followed graph a b ↔ s.Followed graph a b := by
  unfold Followed Search.enter
  rw [mem_insert_set]
  constructor
  · rintro ⟨rfl | ha, hdep, hpending⟩
    · exact absurd hdep (hpending ⟨a, _⟩ List.mem_cons_self rfl)
    · exact ⟨ha, hdep, fun f hf => hpending f (List.mem_cons_of_mem _ hf)⟩
  · rintro ⟨ha, hdep, hpending⟩
    refine ⟨.inr ha, hdep, fun f hf hfa => ?_⟩
    rcases List.mem_cons.mp hf with rfl | hf
    · cases hfa
      exact absurd ha hnew
    · exact hpending f hf hfa

/-- Leaving an entity follows no relation. -/
theorem followed_leave (hframes : s.frames = ⟨entity, []⟩ :: frames) {a b : String} :
    (s.leave entity).Followed graph a b ↔ s.Followed graph a b := by
  unfold Followed Search.leave
  rw [hframes, List.tail_cons, List.forall_mem_cons]
  simp

/-- **One relation at a time.**  An advance of the latest frame follows just the relation that was
next. -/
theorem Stacked.followed_advance (h : Stacked graph s)
    (hframes : s.frames = ⟨entity, name :: pending⟩ :: frames) (a b : String) :
    Followed graph { s with frames := ⟨entity, pending⟩ :: frames } a b ↔
      s.Followed graph a b ∨ a = entity ∧ b = name := by
  have hpath : s.path = entity :: frames.map Frame.entity := h.path_cons hframes
  unfold Followed
  simp only [hframes, List.forall_mem_cons]
  constructor
  · rintro ⟨ha, hdep, hfirst, hrest⟩
    by_cases hab : a = entity ∧ b = name
    · exact .inr hab
    · refine .inl ⟨ha, hdep, fun hfa hb => ?_, hrest⟩
      rcases List.mem_cons.mp hb with hb | hb
      · exact hab ⟨hfa.symm, hb⟩
      · exact hfirst hfa hb
  · rintro (⟨ha, hdep, hfirst, hrest⟩ | ⟨rfl, rfl⟩)
    · exact ⟨ha, hdep, fun hfa hb => hfirst hfa (List.mem_cons_of_mem _ hb), hrest⟩
    · have hsuffix := h.pending_suffix (f := ⟨a, b :: pending⟩) (hframes ▸ List.mem_cons_self)
      have hpending := (graph.dependencies_nodup a).sublist hsuffix.sublist
      have hnodup := h.nodup
      rw [hpath, List.nodup_cons] at hnodup
      refine ⟨h.visited_of_path (hpath ▸ List.mem_cons_self), h.dependsOn hframes,
        fun _ => (List.nodup_cons.mp hpending).1, fun f hf hfa => ?_⟩
      exact absurd (List.mem_map.mpr ⟨f, hf, hfa⟩) hnodup.1

/-! ### The cycle that is closed -/

/-- A name of a list has its place there. -/
theorem exists_idxOf? {names : List String} (h : name ∈ names) :
    ∃ i, names.idxOf? name = some i ∧ names[i]? = some name := by
  obtain ⟨i, hi⟩ := Option.isSome_iff_exists.mp (List.isSome_idxOf?.mpr h)
  obtain ⟨hlt, hget, -⟩ := List.idxOf?_eq_some_iff.mp hi
  exact ⟨i, hi, List.getElem?_eq_some_iff.mpr ⟨hlt, hget⟩⟩

theorem drop_idxOf? {names : List String} (h : name ∈ names) :
    ∃ before after, names = before ++ name :: after ∧
      names.drop ((names.idxOf? name).getD 0) = name :: after := by
  obtain ⟨i, hi, hget⟩ := exists_idxOf? h
  obtain ⟨hlt, hget⟩ := List.getElem?_eq_some_iff.mp hget
  refine ⟨names.take i, names.drop (i + 1), ?_, ?_⟩
  · rw [← hget, ← List.drop_eq_getElem_cons hlt, List.take_append_drop]
  · rw [hi, Option.getD_some, List.drop_eq_getElem_cons hlt, hget]

/-- A relation back to the path closes a cycle that is the end of the path and whose closing relation
is the one that was followed. -/
theorem Stacked.closedCycle (h : Stacked graph s) (hframes : s.frames = ⟨entity, pending⟩ :: frames)
    (hactive : name ∈ s.active) :
    (s.closedCycle name).path <:+ s.path.reverse ∧
      (s.closedCycle name).closingEdge? = some (entity, name) := by
  have hpath : s.path = entity :: frames.map Frame.entity := h.path_cons hframes
  obtain ⟨before, after, hsplit, hdrop⟩ :=
    drop_idxOf? (List.mem_reverse.mpr (h.active_iff.mp hactive))
  have hcycle : s.closedCycle name = ⟨name :: after⟩ := by rw [Search.closedCycle, hdrop]
  refine ⟨by rw [hcycle, hsplit]; exact List.suffix_append _ _, ?_⟩
  have hlast : (name :: after).getLast? = some entity := by
    have := List.getLast?_reverse (l := s.path)
    rw [hsplit, List.getLast?_append_cons, hpath, List.head?_cons] at this
    exact this
  rw [hcycle, Cycle.closingEdge?, hlast, List.head?_cons]

/-- A cycle that is not recorded yet becomes the latest one. -/
theorem record_new {c : Cycle} (hnew : c.path ∉ s.seen) :
    s.record c = { s with seen := s.seen.insert c.path, found := c :: s.found } := by
  rw [record, if_neg]
  rwa [Std.ExtTreeSet.contains_iff_mem]

/-! ### The invariant -/

/-- What the search knows about the relations it has followed and the cycles it has recorded. -/
structure Explored (graph : RelationGraph) (s : Search) : Prop where
  /-- Cycles are kept for look-up as they are recorded. -/
  seen_iff : ∀ {c : Cycle}, c.path ∈ s.seen ↔ c ∈ s.found
  /-- Relations along recorded cycles are followed. -/
  cycle_followed : ∀ {c}, c ∈ s.found → ∀ {a b}, (a, b) ∈ c.edges → s.Followed graph a b
  /-- A recorded cycle goes through some entity. -/
  cycle_ne : ∀ {c}, c ∈ s.found → c.path ≠ []
  /-- A recorded cycle goes through no entity twice. -/
  cycle_nodup : ∀ {c}, c ∈ s.found → c.path.Nodup
  /-- No recorded cycle runs along the closing relation of another. -/
  independent : s.found.Pairwise Cycle.Independent
  /-- Relations along the path are followed and close no cycle. -/
  path_forward : ∀ {a b}, [b, a] <:+: s.path → s.Forward graph a b
  /-- A forward relation leads along the path or to an entity that was left. -/
  forward_target : ∀ {a b}, s.Forward graph a b →
    [b, a] <:+: s.path ∨ b ∈ s.visited ∧ b ∉ s.path
  /-- Forward relations form no circle. -/
  acyclic : Acyclic (s.Forward graph)

namespace Explored

theorem of_start (graph : RelationGraph) (roots : List String) :
    Explored graph (start graph roots) where
  seen_iff := by
    intro c
    simp [start]
  cycle_followed h := absurd h List.not_mem_nil
  cycle_ne h := absurd h List.not_mem_nil
  cycle_nodup h := absurd h List.not_mem_nil
  independent := .nil
  path_forward h := by
    have := h.length_le
    simp [start] at this
  forward_target h := absurd h.1.1 Std.ExtTreeSet.not_mem_empty
  acyclic := fun x hx => by
    obtain ⟨y, hxy, -⟩ := Relation.TransGen.head'_iff.mp hx
    exact Std.ExtTreeSet.not_mem_empty hxy.1.1

/-- Forward relations form no circle either with one more that leads to a new entity. -/
theorem acyclic_enter (he : Explored graph s) (hs : Stacked graph s) (hnew : name ∉ s.visited)
    (hcases : ∀ {a b}, t.Forward graph a b →
      s.Forward graph a b ∨ s.path.head? = some a ∧ b = name) : Acyclic (t.Forward graph) := by
  cases hhead : s.path.head? with
  | none =>
    refine he.acyclic.mono fun a b h => ?_
    rcases hcases h with h | ⟨ha, -⟩
    · exact h
    · rw [hhead] at ha
      cases ha
  | some entity =>
    -- No relation leads on from an entity that was not visited before.
    have hentity : entity ∈ s.visited :=
      hs.visited_of_path (List.mem_of_mem_head? hhead)
    refine he.acyclic.extend (x := entity) (y := name) (fun other => other = name) ?_ ?_ ?_ rfl
    · intro a b h
      rcases hcases h with h | ⟨ha, hb⟩
      · exact .inl h
      · rw [hhead] at ha
        cases ha
        exact .inr ⟨rfl, hb⟩
    · rintro a b h rfl
      exact absurd h.1.1 hnew
    · rintro rfl
      exact hnew hentity

/-- A new entity is entered, along the relation from the latest entity of the path if there is one. -/
theorem enter (he : Explored graph s) (hs : Stacked graph s) (hnew : name ∉ s.visited)
    (hfound : t.found = s.found) (hseen : t.seen = s.seen) (hpath : t.path = name :: s.path)
    (hvisited : t.visited = s.visited.insert name)
    (hfollowed : ∀ a b, t.Followed graph a b ↔
      s.Followed graph a b ∨ s.path.head? = some a ∧ b = name)
    (hfirst : ∀ a, s.path.head? = some a → ¬s.Followed graph a name) : Explored graph t := by
  have hcases : ∀ {a b}, t.Forward graph a b →
      s.Forward graph a b ∨ s.path.head? = some a ∧ b = name :=
    Forward.cases_advance hfound hfollowed
  constructor
  · intro c
    rw [hseen, hfound, he.seen_iff]
  · intro c hc a b hab
    exact (hfollowed a b).mpr (.inl (he.cycle_followed (hfound ▸ hc) hab))
  · intro c hc
    exact he.cycle_ne (hfound ▸ hc)
  · intro c hc
    exact he.cycle_nodup (hfound ▸ hc)
  · rw [hfound]
    exact he.independent
  · intro a b h
    rw [hpath, List.infix_cons_iff] at h
    rcases h with h | h
    · rw [List.cons_prefix_cons] at h
      obtain ⟨rfl, h⟩ := h
      have hhead : s.path.head? = some a := by
        obtain ⟨rest, hrest⟩ := h
        rw [← hrest]
        rfl
      refine ⟨(hfollowed a b).mpr (.inr ⟨hhead, rfl⟩), ?_⟩
      rintro ⟨c, hc, hab⟩
      exact hfirst a hhead (he.cycle_followed (hfound ▸ hc) (Cycle.closingEdge_mem hab))
    · exact (he.path_forward h).advance hfound hfollowed
  · intro a b h
    rw [hpath, List.infix_cons_iff, List.mem_cons, hvisited, mem_insert_set]
    rcases hcases h with h | ⟨hhead, rfl⟩
    · rcases he.forward_target h with h | ⟨hv, hp⟩
      · exact .inl (.inr h)
      · exact .inr ⟨.inr hv, fun hb => hb.elim (fun hb => hnew (hb ▸ hv)) hp⟩
    · obtain ⟨rest, hrest⟩ := List.head?_eq_some_iff.mp hhead
      exact .inl (.inl (by simp [hrest]))
  · exact he.acyclic_enter hs hnew hcases

/-- The latest entity is left. -/
theorem leave (he : Explored graph s) (hs : Stacked graph s)
    (hframes : s.frames = ⟨entity, []⟩ :: frames) : Explored graph (s.leave entity) := by
  have hpath : s.path = entity :: s.path.tail := by
    rw [hs.path_cons hframes, List.tail_cons]
  have hfollowed : ∀ {a b}, (s.leave entity).Followed graph a b ↔ s.Followed graph a b :=
    followed_leave hframes
  have hforward : ∀ {a b}, (s.leave entity).Forward graph a b ↔ s.Forward graph a b :=
    and_congr_left' hfollowed
  constructor
  · exact he.seen_iff
  · exact fun hc _ _ hab => hfollowed.mpr (he.cycle_followed hc hab)
  · exact he.cycle_ne
  · exact he.cycle_nodup
  · exact he.independent
  · exact fun h => hforward.mpr (he.path_forward (h.trans (List.tail_suffix _).isInfix))
  · intro a b h
    have hnodup := hs.nodup
    rw [hpath, List.nodup_cons] at hnodup
    rcases he.forward_target (hforward.mp h) with h | ⟨hv, hp⟩
    · rw [hpath, List.infix_cons_iff, List.cons_prefix_cons] at h
      rcases h with ⟨rfl, -⟩ | h
      · exact .inr ⟨hs.visited_of_path (hpath ▸ List.mem_cons_self), hnodup.1⟩
      · exact .inl h
    · exact .inr ⟨hv, fun hb => hp (List.mem_of_mem_tail hb)⟩
  · exact he.acyclic.mono fun a b h => hforward.mp h

/-- A relation to an entity that was left is passed over. -/
theorem pass (he : Explored graph s) (hs : Stacked graph s)
    (hframes : s.frames = ⟨entity, name :: pending⟩ :: frames) (hactive : name ∉ s.active)
    (hvisited : name ∈ s.visited) :
    Explored graph { s with frames := ⟨entity, pending⟩ :: frames } := by
  have hpath : name ∉ s.path := fun h => hactive (hs.active_iff.mpr h)
  have hentity : entity ∈ s.path := by
    rw [hs.path_cons hframes]
    exact List.mem_cons_self
  have hfollowed := hs.followed_advance hframes
  have hcases : ∀ {a b}, Forward graph { s with frames := ⟨entity, pending⟩ :: frames } a b →
      s.Forward graph a b ∨ a = entity ∧ b = name :=
    Forward.cases_advance (by rfl) hfollowed
  constructor
  · exact he.seen_iff
  · exact fun hc _ _ hab => (hfollowed _ _).mpr (.inl (he.cycle_followed hc hab))
  · exact he.cycle_ne
  · exact he.cycle_nodup
  · exact he.independent
  · exact fun h => (he.path_forward h).advance (by rfl) hfollowed
  · intro a b h
    rcases hcases h with h | ⟨-, rfl⟩
    · exact he.forward_target h
    · exact .inr ⟨hvisited, hpath⟩
  · -- Relations lead from entities that were left to such entities only.
    refine he.acyclic.extend (x := entity) (y := name)
      (fun other => other ∈ s.visited ∧ other ∉ s.path) (fun _ _ => hcases) ?_
      (fun h => h.2 hentity) ⟨hvisited, hpath⟩
    intro a b h ha
    rcases he.forward_target h with h | h
    · exact absurd (h.subset (List.mem_cons_of_mem _ List.mem_cons_self)) ha.2
    · exact h

/-- Relations along the closed cycle are forward, but for the one that closes it. -/
theorem closedCycle_forward (he : Explored graph s) (hs : Stacked graph s)
    (hframes : s.frames = ⟨entity, name :: pending⟩ :: frames) (hactive : name ∈ s.active)
    {a b : String} (hab : [a, b] <:+: (s.closedCycle name).path) : s.Forward graph a b := by
  refine he.path_forward ?_
  rw [← List.reverse_infix]
  exact hab.trans (hs.closedCycle hframes hactive).1.isInfix

/-- The closed cycle is not recorded yet. -/
theorem closedCycle_new (he : Explored graph s) (hs : Stacked graph s)
    (hframes : s.frames = ⟨entity, name :: pending⟩ :: frames) (hactive : name ∈ s.active) :
    (s.closedCycle name).path ∉ s.seen := by
  intro hc
  have hclosing := (hs.closedCycle hframes hactive).2
  exact not_followed hframes (he.cycle_followed (he.seen_iff.mp hc) (Cycle.closingEdge_mem hclosing))

/-- The closed cycle and a recorded one are independent. -/
theorem closedCycle_independent (he : Explored graph s) (hs : Stacked graph s)
    (hframes : s.frames = ⟨entity, name :: pending⟩ :: frames) (hactive : name ∈ s.active)
    {d : Cycle} (hd : d ∈ s.found) : (s.closedCycle name).Independent d := by
  have hnot : ¬s.Followed graph entity name := not_followed hframes
  have hclosing := (hs.closedCycle hframes hactive).2
  constructor
  · intro e hce hed
    rw [hclosing] at hce
    cases hce
    exact hnot (he.cycle_followed hd hed)
  · rintro ⟨a, b⟩ hde hec
    rcases Cycle.mem_edges_iff.mp hec with hab | hab
    · exact (he.closedCycle_forward hs hframes hactive hab).2 ⟨d, hd, hde⟩
    · rw [hclosing] at hab
      cases hab
      exact hnot (he.cycle_followed hd (Cycle.closingEdge_mem hde))

/-- The relation that closes the cycle is followed but not forward, so that the forward relations
are as before. -/
theorem forward_close {c : Cycle} (hframes : s.frames = ⟨entity, name :: pending⟩ :: frames)
    (hclosing : c.closingEdge? = some (entity, name)) (hfound : t.found = c :: s.found)
    (hfollowed : ∀ a b, t.Followed graph a b ↔ s.Followed graph a b ∨ a = entity ∧ b = name)
    {a b : String} : t.Forward graph a b ↔ s.Forward graph a b := by
  have hmem : ∀ {d}, d ∈ t.found ↔ d = c ∨ d ∈ s.found := by
    intro d
    rw [hfound, List.mem_cons]
  constructor
  · rintro ⟨hf, hc⟩
    rcases (hfollowed a b).mp hf with hf | ⟨rfl, rfl⟩
    · exact ⟨hf, fun ⟨d, hd, hde⟩ => hc ⟨d, hmem.mpr (.inr hd), hde⟩⟩
    · exact absurd ⟨_, hmem.mpr (.inl rfl), hclosing⟩ hc
  · intro hab
    refine ⟨(hfollowed a b).mpr (.inl hab.1), ?_⟩
    rintro ⟨d, hd, hde⟩
    rcases hmem.mp hd with rfl | hd
    · rw [hclosing] at hde
      cases hde
      exact not_followed hframes hab.1
    · exact hab.2 ⟨d, hd, hde⟩

/-- A relation back to the path closes a cycle, which is recorded. -/
theorem close (he : Explored graph s) (hs : Stacked graph s)
    (hframes : s.frames = ⟨entity, name :: pending⟩ :: frames) (hactive : name ∈ s.active)
    (hfound : t.found = s.closedCycle name :: s.found)
    (hseen : t.seen = s.seen.insert (s.closedCycle name).path) (hpath : t.path = s.path)
    (hvisited : t.visited = s.visited)
    (hfollowed : ∀ a b, t.Followed graph a b ↔ s.Followed graph a b ∨ a = entity ∧ b = name) :
    Explored graph t := by
  obtain ⟨hsuffix, hclosing⟩ := hs.closedCycle hframes hactive
  have hmem : ∀ {d}, d ∈ t.found ↔ d = s.closedCycle name ∨ d ∈ s.found := by
    intro d
    rw [hfound, List.mem_cons]
  have hforward : ∀ {a b}, t.Forward graph a b ↔ s.Forward graph a b :=
    forward_close hframes hclosing hfound hfollowed
  constructor
  · intro d
    rw [hseen, mem_insert_set, he.seen_iff, hmem, ← Cycle.mk.injEq]
  · intro d hd a b hab
    refine (hfollowed a b).mpr ?_
    rcases hmem.mp hd with rfl | hd
    · rcases Cycle.mem_edges_iff.mp hab with hab | hab
      · exact .inl (he.closedCycle_forward hs hframes hactive hab).1
      · rw [hclosing] at hab
        cases hab
        exact .inr ⟨rfl, rfl⟩
    · exact .inl (he.cycle_followed hd hab)
  · intro d hd
    rcases hmem.mp hd with rfl | hd
    · intro hnil
      rw [Cycle.closingEdge?, hnil] at hclosing
      cases hclosing
    · exact he.cycle_ne hd
  · intro d hd
    rcases hmem.mp hd with rfl | hd
    · exact (List.nodup_reverse.mpr hs.nodup).sublist hsuffix.sublist
    · exact he.cycle_nodup hd
  · rw [hfound]
    exact List.pairwise_cons.mpr
      ⟨fun d hd => he.closedCycle_independent hs hframes hactive hd, he.independent⟩
  · intro a b h
    rw [hpath] at h
    exact hforward.mpr (he.path_forward h)
  · intro a b h
    rw [hpath, hvisited]
    exact he.forward_target (hforward.mp h)
  · exact he.acyclic.mono fun _ _ => hforward.mp

/-- **Every move keeps what the search knows.** -/
theorem move (he : Explored graph s) (hs : Stacked graph s) (hm : Move graph s t) :
    Explored graph t := by
  cases hm with
  | skip => exact { he with }
  | start hframes hroots hnew =>
    have hpath : s.path = [] := by
      rw [← hs.path_eq, hframes, List.map_nil]
    refine he.enter hs hnew rfl rfl rfl rfl (fun a b => ?_) (fun a ha => ?_)
    · refine (followed_enter (by exact hnew)).trans ?_
      simp [Followed, hpath]
    · rw [hpath] at ha
      cases ha
  | leave hframes => exact he.leave hs hframes
  | close hframes hactive =>
    rw [record_new (by exact he.closedCycle_new hs hframes hactive)]
    exact he.close hs hframes hactive rfl rfl rfl rfl (hs.followed_advance hframes)
  | pass hframes hactive hvisited => exact he.pass hs hframes hactive hvisited
  | @enter entity name pending frames hframes _ hnew =>
    have hpath : s.path.head? = some entity := by
      rw [hs.path_cons hframes, List.head?_cons]
    refine he.enter hs hnew rfl rfl rfl rfl (fun a b => ?_) (fun a ha => ?_)
    · refine (followed_enter (by exact hnew)).trans ?_
      rw [hs.followed_advance hframes, hpath, Option.some.injEq, eq_comm (a := entity)]
    · rw [hpath] at ha
      cases ha
      exact not_followed hframes

end Explored

end EntityProjection.Search
