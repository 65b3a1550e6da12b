import Mathlib.Data.List.Chain
import EntityProjection.Proofs.Graph.CycleBreaking
import EntityProjection.Proofs.Graph.SearchEnd

/-!
# The course of the search

At every move frames, path and sets of the search are in step, so that a relation back to the path
always finds its place there.  Counted over the whole search, every entity is entered once and every
relation is followed once, and then the search is over.

* `Search.entered?` and `Search.inspected?`: the entity that the next move enters, and the relation
  that it follows;
* `Search.trace`: what is seen of the moves one after the other;
* `Search.trace_accounts`: if every move adds just what is seen of it, and that was missing, then so
  does a run, and nothing is seen twice;
* `Search.entered_perm` and `Search.inspected_perm`: what a whole search enters, and follows;
* `searchLoop_in_step`: the invariant of the loop, and its cost.
-/

namespace EntityProjection

namespace RelationGraph

/-- The pairs of an entity and one of its dependencies, by entity and then in order. -/
def pairs (graph : RelationGraph) : List (String × String) :=
  graph.names.flatMap fun name => (graph.dependencies name).map fun target => (name, target)

theorem mem_pairs_iff {graph : RelationGraph} {edge : String × String} :
    edge ∈ graph.pairs ↔ graph.DependsOn edge.1 edge.2 := by
  rw [pairs, List.mem_flatMap]
  constructor
  · rintro ⟨name, -, h⟩
    obtain ⟨target, htarget, rfl⟩ := List.mem_map.mp h
    exact htarget
  · exact fun h => ⟨edge.1, h.source_mem, List.mem_map.mpr ⟨edge.2, h, rfl⟩⟩

theorem pairs_nodup (graph : RelationGraph) : graph.pairs.Nodup := by
  refine List.nodup_flatMap.mpr ⟨fun name _ => ?_, graph.names_nodup.imp fun hne => ?_⟩
  · exact (graph.dependencies_nodup name).map fun _ _ h => congrArg Prod.snd h
  · intro edge h h'
    obtain ⟨target, -, rfl⟩ := List.mem_map.mp h
    obtain ⟨target', -, h'⟩ := List.mem_map.mp h'
    exact hne (congrArg Prod.fst h').symm

theorem length_pairs (graph : RelationGraph) :
    graph.pairs.length = (graph.names.map fun name => (graph.dependencies name).length).sum := by
  simp only [pairs, List.length_flatMap, List.length_map]

end RelationGraph

namespace Search

variable {graph : RelationGraph} {s t : Search}

/-! ### The stack -/

/-- An active entity has its place on the path, and the cycle that it closes starts there. -/
theorem Stacked.exists_position (hs : Stacked graph s) {name : String} (hactive : name ∈ s.active) :
    ∃ i, s.path.reverse.idxOf? name = some i ∧ s.path.reverse[i]? = some name ∧
      s.closedCycle name = ⟨s.path.reverse.drop i⟩ := by
  obtain ⟨i, hi, hget⟩ := exists_idxOf? (List.mem_reverse.mpr (hs.active_iff.mp hactive))
  exact ⟨i, hi, hget, by rw [Search.closedCycle, hi, Option.getD_some]⟩

/-- Each entity of the path depends on the one before. -/
theorem Explored.isChain_path (he : Explored graph s) :
    s.path.reverse.IsChain graph.DependsOn := by
  refine List.isChain_iff_forall_rel_of_append_cons_cons.mpr fun a b before after hpath => ?_
  have hpair : [a, b] <:+: s.path.reverse := ⟨before, after, by simp [hpath]⟩
  exact (he.path_forward (List.reverse_infix.mp hpair)).1.2.1

/-- A frame has still to follow what stands behind some index of its entity's dependencies. -/
theorem Stacked.exists_index (hs : Stacked graph s) {f : Frame} (hf : f ∈ s.frames) :
    ∃ index ≤ (graph.dependencies f.entity).length,
      f.pending = (graph.dependencies f.entity).drop index :=
  ⟨_, Nat.sub_le _ _, List.suffix_iff_eq_drop.mp (hs.pending_suffix hf)⟩

/-! ### What is seen of a move -/

/-- The entity that the next move enters. -/
def entered? (s : Search) : Option String :=
  match s.frames with
  | [] => s.roots.head?.filter fun root => !s.visited.contains root
  | frame :: _ =>
    frame.pending.head?.filter fun name => !s.active.contains name && !s.visited.contains name

/-- The relation that the next move inspects: none if it starts from a root or leaves an entity. -/
def inspected? (s : Search) : Option (String × String) :=
  match s.frames with
  | [] => none
  | frame :: _ => frame.pending.head?.map fun name => (frame.entity, name)

/-- What is seen of so many moves, or of all moves until the end if that comes earlier. -/
def trace {α : Type} (graph : RelationGraph) (look : Search → Option α) : ℕ → Search → List α
  | 0, _ => []
  | n + 1, s =>
    match s.step? graph with
    | none => []
    | some t => (look s).toList ++ trace graph look n t

/-- A move that enters nothing keeps the visited entities and puts nothing on the path, and any
other does both to the entity that it enters, which is new. -/
theorem Move.entered_cases (hm : Move graph s t) :
    (s.entered? = none ∧ t.visited = s.visited ∧ ∀ name, t.path ≠ name :: s.path) ∨
      ∃ name, s.entered? = some name ∧ name ∉ s.visited ∧ t.visited = s.visited.insert name ∧
        t.path = name :: s.path := by
  cases hm with
  | skip hframes hroots hvisited =>
    refine .inl ⟨?_, rfl, fun name => (List.cons_ne_self name s.path).symm⟩
    simp [entered?, hframes, hroots, hvisited]
  | @start root roots hframes hroots hnew =>
    refine .inr ⟨root, ?_, hnew, rfl, rfl⟩
    simp [entered?, hframes, hroots, contains_eq_false.mpr hnew]
  | leave hframes =>
    refine .inl ⟨by simp [entered?, hframes], rfl, fun name hpath => ?_⟩
    have hlength := congrArg List.length hpath
    simp only [Search.leave, List.length_tail, List.length_cons] at hlength
    omega
  | close hframes hactive =>
    refine .inl ⟨by simp [entered?, hframes, hactive], record_visited _ _, fun name => ?_⟩
    rw [record_path]
    exact (List.cons_ne_self name s.path).symm
  | pass hframes _ hvisited =>
    refine .inl ⟨?_, rfl, fun name => (List.cons_ne_self name s.path).symm⟩
    simp [entered?, hframes, hvisited]
  | @enter entity next pending frames hframes hactive hnew =>
    refine .inr ⟨next, ?_, hnew, rfl, rfl⟩
    simp [entered?, hframes, contains_eq_false.mpr hactive, contains_eq_false.mpr hnew]

/-- A move puts on the path what it enters. -/
theorem Move.path_eq_cons_iff (hm : Move graph s t) (name : String) :
    t.path = name :: s.path ↔ s.entered? = some name := by
  obtain ⟨hlook, -, hpath⟩ | ⟨next, hlook, -, -, hpath⟩ := hm.entered_cases
  · simp [hlook, hpath]
  · rw [hlook, hpath, List.cons.injEq, Option.some.injEq, and_iff_left rfl]

/-- A move visits the entity that it enters. -/
theorem Move.visited_iff (hm : Move graph s t) (name : String) :
    name ∈ t.visited ↔ name ∈ s.visited ∨ s.entered? = some name := by
  obtain ⟨hlook, hvisited, -⟩ | ⟨next, hlook, -, hvisited, -⟩ := hm.entered_cases
  · simp [hlook, hvisited]
  · rw [hlook, hvisited, mem_insert_set, Option.some.injEq, or_comm, eq_comm]

/-- What a move enters was not visited. -/
theorem Move.not_visited (hm : Move graph s t) {name : String} (h : s.entered? = some name) :
    name ∉ s.visited := by
  obtain ⟨hlook, -⟩ | ⟨next, hlook, hnew, -⟩ := hm.entered_cases
  · rw [hlook] at h
    cases h
  · rw [hlook] at h
    cases h
    exact hnew

/-- A move follows the relation that it inspects. -/
theorem Move.followed_iff (hs : Stacked graph s) (hm : Move graph s t) (edge : String × String) :
    t.Followed graph edge.1 edge.2 ↔ s.Followed graph edge.1 edge.2 ∨ s.inspected? = some edge := by
  obtain ⟨a, b⟩ := edge
  -- Only the three moves along a frame inspect a relation.
  cases hm with
  | skip hframes _ _ =>
    have hlook : s.inspected? = none := by simp [inspected?, hframes]
    simp [hlook, Followed]
  | start hframes hroots hnew =>
    have hlook : s.inspected? = none := by simp [inspected?, hframes]
    refine (followed_enter (by exact hnew)).trans ?_
    simp [hlook, Followed]
  | leave hframes =>
    have hlook : s.inspected? = none := by simp [inspected?, hframes]
    rw [followed_leave hframes, hlook]
    simp
  | @close entity name pending frames hframes hactive =>
    have hlook : s.inspected? = some (entity, name) := by simp [inspected?, hframes]
    have hrecord : ∀ (u : Search) c, (u.record c).Followed graph a b ↔ u.Followed graph a b := by
      simp [Followed]
    rw [hrecord, hs.followed_advance hframes, hlook]
    simp [eq_comm]
  | @pass entity name pending frames hframes _ _ =>
    have hlook : s.inspected? = some (entity, name) := by simp [inspected?, hframes]
    rw [hs.followed_advance hframes, hlook]
    simp [eq_comm]
  | @enter entity name pending frames hframes _ hnew =>
    have hlook : s.inspected? = some (entity, name) := by simp [inspected?, hframes]
    rw [followed_enter (by exact hnew), hs.followed_advance hframes, hlook]
    simp [eq_comm]

/-- What is inspected was not followed. -/
theorem not_followed_of_inspected? {edge : String × String} (h : s.inspected? = some edge) :
    ¬s.Followed graph edge.1 edge.2 := by
  unfold inspected? at h
  split at h
  · cases h
  · next frame frames hframes =>
    obtain ⟨name, hname, rfl⟩ := Option.map_eq_some_iff.mp h
    obtain ⟨pending, hpending⟩ := List.head?_eq_some_iff.mp hname
    have hnext : s.frames = ⟨frame.entity, name :: pending⟩ :: frames := by
      rw [hframes, ← hpending]
    exact not_followed hnext

/-! ### What is seen of a run -/

section Account

variable {α : Type} (look : Search → Option α) (done : Search → α → Prop) (inv : Search → Prop)
  (keep : ∀ {s t}, inv s → Move graph s t → inv t)
  (adds : ∀ {s t}, inv s → Move graph s t → ∀ a, done t a ↔ done s a ∨ look s = some a)
  (fresh : ∀ {s t}, Move graph s t → ∀ {a}, look s = some a → ¬done s a)

include keep adds fresh

/-- **A run accounts for what it adds.**  If every move adds just what is seen of it, and that was
missing, then a run adds just what is seen of its moves, and nothing is seen twice. -/
theorem trace_accounts (n : ℕ) (hs : inv s) :
    (trace graph look n s).Nodup ∧ (∀ a ∈ trace graph look n s, ¬done s a) ∧
      ∀ a, done (s.after graph n) a ↔ done s a ∨ a ∈ trace graph look n s := by
  induction n generalizing s with
  | zero => simp [trace, after]
  | succ n ih =>
    unfold trace after
    cases hstep : s.step? graph with
    | none => simp
    | some t =>
      have hm := Move.of_step? hstep
      have hadds := adds hs hm
      obtain ⟨hnodup, hnew, hdone⟩ := ih (keep hs hm)
      -- Whatever is seen later was missing after this move, and so before it, and is not seen now.
      have hlater : ∀ a ∈ trace graph look n t, ¬done s a ∧ look s ≠ some a := fun a ha =>
        not_or.mp fun h => hnew a ha ((hadds a).mpr h)
      refine ⟨?_, fun a ha => ?_, fun a => ?_⟩
      · refine List.nodup_append.mpr ⟨Option.toList_nodup _, hnodup, fun a ha b hb hab => ?_⟩
        exact (hlater b hb).2 (hab ▸ Option.mem_toList.mp ha)
      · rcases List.mem_append.mp ha with ha | ha
        · exact fresh hm (Option.mem_toList.mp ha)
        · exact (hlater a ha).1
      · rw [hdone, hadds, or_assoc, List.mem_append, Option.mem_toList]

end Account

/-- Nothing is left to do when a search is over. -/
theorem work_eq_zero (hcover : Covering graph s) (h : s.step? graph = none) :
    s.work graph = 0 := by
  obtain ⟨hframes, hroots⟩ := step?_eq_none h
  have hunvisited : s.unvisited graph = [] := by
    refine List.filter_eq_nil_iff.mpr fun name hname => ?_
    have hvisited := (hcover name hname).resolve_right (hroots ▸ List.not_mem_nil)
    rw [Std.ExtTreeSet.contains_iff_mem.mpr hvisited]
    exact Bool.false_ne_true
  rw [work, hframes, hroots, hunvisited]
  rfl

section Whole

variable (hclosed : graph.Closed) (roots : List String)

include hclosed

/-- **Every entity is entered once** in a whole search. -/
theorem entered_perm :
    (trace graph entered? (moves graph roots) (start graph roots)).Perm graph.names := by
  obtain ⟨hnodup, -, hvisited⟩ := trace_accounts entered? (fun s name => name ∈ s.visited)
    (Stacked graph) (fun h hm => h.move hclosed hm) (fun _ hm => hm.visited_iff)
    Move.not_visited (moves graph roots) (.of_start graph roots)
  refine (List.perm_ext_iff_of_nodup hnodup graph.names_nodup).mpr fun name => ?_
  have hnone : name ∉ (start graph roots).visited := Std.ExtTreeSet.not_mem_empty
  rw [← (hvisited name).trans (or_iff_right hnone)]
  exact ⟨(stacked_explored_finish hclosed roots).1.visited_known, visited_finish hclosed roots⟩

/-- **Every relation is inspected once** in a whole search. -/
theorem inspected_perm :
    (trace graph inspected? (moves graph roots) (start graph roots)).Perm graph.pairs := by
  obtain ⟨hnodup, -, hfollowed⟩ := trace_accounts inspected?
    (fun s edge => s.Followed graph edge.1 edge.2)
    (Stacked graph) (fun h hm => h.move hclosed hm) (fun h hm => hm.followed_iff h)
    (fun _ => not_followed_of_inspected?) (moves graph roots) (.of_start graph roots)
  refine (List.perm_ext_iff_of_nodup hnodup graph.pairs_nodup).mpr fun edge => ?_
  have hnone : ¬(start graph roots).Followed graph edge.1 edge.2 :=
    fun h => Std.ExtTreeSet.not_mem_empty h.1
  rw [← (hfollowed edge).trans (or_iff_right hnone), RelationGraph.mem_pairs_iff]
  exact followed_finish hclosed roots

/-! ### The number of moves -/

/-- So many moves take as much off the work, until nothing is left. -/
theorem work_after (n : ℕ) (hs : Stacked graph s) (hcover : Covering graph s) :
    (s.after graph n).work graph = s.work graph - n := by
  induction n generalizing s with
  | zero => rfl
  | succ n ih =>
    unfold after
    cases hstep : s.step? graph with
    | none => rw [work_eq_zero hcover hstep, Nat.zero_sub]
    | some t =>
      have hm := Move.of_step? hstep
      have hwork := work_move hclosed hs hm
      show (t.after graph n).work graph = _
      rw [ih (hs.move hclosed hm) (hcover.move hm)]
      omega

/-- **A search is over after exactly its work.** -/
theorem step?_after_iff (n : ℕ) (hs : Stacked graph s) (hcover : Covering graph s) :
    (s.after graph n).step? graph = none ↔ s.work graph ≤ n := by
  refine ⟨fun h => ?_, step?_after hclosed hs⟩
  have hzero := work_eq_zero (after_induction (P := Covering graph) Covering.move n hcover) h
  rw [work_after hclosed n hs hcover] at hzero
  exact Nat.sub_eq_zero_iff_le.mp hzero

end Whole

end Search

/-- **The loop of the search stays in step, and sees everything once.** In an accepted or empty
model and from any roots, after any number of moves: the path lists the entities of the frames, and
the active entities are those of the path; it holds no entity twice, each depends on the one before,
and all are visited; each frame has still to follow what stands behind some index of its entity's
dependencies.  Therefore a relation back to the path finds its place there.  A move puts on the path
what it enters; a whole search enters each entity once and inspects each pair of an entity and one
of its dependencies once, and it is over after exactly one move for each start, each entity and each
such pair. -/
theorem searchLoop_in_step {model : EntityModel} (h : model.Accepted ∨ model = .empty)
    (roots : List String) :
    let graph := model.graph
    let first := Search.start graph roots
    (∀ n, let s := first.after graph n
      (s.frames.map Frame.entity = s.path ∧ (∀ name, name ∈ s.active ↔ name ∈ s.path)) ∧
      (s.path.Nodup ∧ s.path.reverse.IsChain graph.DependsOn ∧ ∀ name ∈ s.path, name ∈ s.visited) ∧
      (∀ f ∈ s.frames, ∃ index ≤ (graph.dependencies f.entity).length,
        f.pending = (graph.dependencies f.entity).drop index) ∧
      (∀ t, s.step? graph = some t → ∀ name, t.path = name :: s.path ↔ s.entered? = some name) ∧
      (∀ name ∈ s.active, ∃ i, s.path.reverse.idxOf? name = some i ∧
        s.path.reverse[i]? = some name ∧ s.closedCycle name = ⟨s.path.reverse.drop i⟩)) ∧
    (Search.trace graph Search.entered? (Search.moves graph roots) first).Perm graph.names ∧
    (Search.trace graph Search.inspected? (Search.moves graph roots) first).Perm graph.pairs ∧
    ∀ n, (first.after graph n).step? graph = none ↔
      ((roots ++ graph.names).filter graph.contains).length + graph.names.length +
        graph.pairs.length ≤ n := by
  intro graph first
  have hclosed : graph.Closed := (EntityModel.coherent_of_accepted_or_empty h).graph_closed
  refine ⟨fun n => ?_, Search.entered_perm hclosed roots, Search.inspected_perm hclosed roots,
    fun n => ?_⟩
  · obtain ⟨hs, he⟩ := Search.stacked_explored_after hclosed roots n
    exact ⟨⟨hs.path_eq, fun _ => hs.active_iff⟩,
      ⟨hs.nodup, he.isChain_path, fun _ => hs.visited_of_path⟩, fun _ => hs.exists_index,
      fun _ ht => (Search.Move.of_step? ht).path_eq_cons_iff, fun _ => hs.exists_position⟩
  · rw [Search.step?_after_iff hclosed n (.of_start graph roots) (.of_start graph roots),
      Search.work_start, RelationGraph.length_pairs]

/-- From two names, one of them unknown, the blog's three entities are entered, and the search is
over after the thirteenth move and not before. -/
theorem searchLoop_in_step_blog :
    blog.Accepted ∧
      (Search.trace blog.graph Search.entered? (Search.moves blog.graph ["Ghost", "User"])
        (Search.start blog.graph ["Ghost", "User"])).Perm ["Comment", "Post", "User"] ∧
      ∀ n, ((Search.start blog.graph ["Ghost", "User"]).after blog.graph n).step? blog.graph =
        none ↔ 13 ≤ n := by
  have hwhole := searchLoop_in_step (.inl blog_accepted) ["Ghost", "User"]
  have hnames : blog.graph.names = ["Comment", "Post", "User"] := by decide +kernel
  have hmoves : ((["Ghost", "User"] ++ blog.graph.names).filter blog.graph.contains).length +
      blog.graph.names.length + blog.graph.pairs.length = 13 := by decide +kernel
  refine ⟨blog_accepted, hnames ▸ hwhole.2.1, fun n => ?_⟩
  rw [hwhole.2.2.2 n, hmoves]

end EntityProjection
