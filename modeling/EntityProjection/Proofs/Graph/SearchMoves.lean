import EntityProjection.Proofs.Graph.Relations

/-!
# The moves of the search

What a single move of the search can do, and what every move keeps of the stack.

* `Search.Move`: the six kinds of moves; `Search.Move.of_step?`: there are no others;
* `Search.after_induction`: what every move keeps holds after any number of moves;
* `Search.Stacked`: frames, path and the set of active entities are in step, the path holds no entity
  twice, and what a frame has still to follow is the end of its entity's dependencies.
-/

namespace EntityProjection.Search

variable {graph : RelationGraph} {s t : Search}

/-! ### A recorded cycle -/

@[simp] theorem record_frames (s : Search) (c : Cycle) : (s.record c).frames = s.frames := by
  unfold record
  split <;> rfl

@[simp] theorem record_path (s : Search) (c : Cycle) : (s.record c).path = s.path := by
  unfold record
  split <;> rfl

@[simp] theorem record_visited (s : Search) (c : Cycle) : (s.record c).visited = s.visited := by
  unfold record
  split <;> rfl

/-! ### Kinds of moves -/

/-- What one move of a search does. -/
inductive Move (graph : RelationGraph) (s : Search) : Search → Prop
  /-- A root that was visited is passed over. -/
  | skip {root : String} {roots : List String} (hframes : s.frames = [])
      (hroots : s.roots = root :: roots) (hvisited : root ∈ s.visited) : Move graph s { s with roots }
  /-- A new root is entered. -/
  | start {root : String} {roots : List String} (hframes : s.frames = [])
      (hroots : s.roots = root :: roots) (hnew : root ∉ s.visited) :
      Move graph s (enter graph { s with roots } root)
  /-- The latest entity is left when all its relations are followed. -/
  | leave {entity : String} {frames : List Frame} (hframes : s.frames = ⟨entity, []⟩ :: frames) :
      Move graph s (s.leave entity)
  /-- A relation back to the path closes a cycle. -/
  | close {entity name : String} {pending : List String} {frames : List Frame}
      (hframes : s.frames = ⟨entity, name :: pending⟩ :: frames) (hactive : name ∈ s.active) :
      Move graph s
        (record { s with frames := ⟨entity, pending⟩ :: frames } (s.closedCycle name))
  /-- A relation to an entity that was left is passed over. -/
  | pass {entity name : String} {pending : List String} {frames : List Frame}
      (hframes : s.frames = ⟨entity, name :: pending⟩ :: frames) (hactive : name ∉ s.active)
      (hvisited : name ∈ s.visited) : Move graph s { s with frames := ⟨entity, pending⟩ :: frames }
  /-- A relation to a new entity is taken. -/
  | enter {entity name : String} {pending : List String} {frames : List Frame}
      (hframes : s.frames = ⟨entity, name :: pending⟩ :: frames) (hactive : name ∉ s.active)
      (hnew : name ∉ s.visited) :
      Move graph s (enter graph { s with frames := ⟨entity, pending⟩ :: frames } name)

theorem Move.of_follow {entity name : String} {pending : List String} {frames : List Frame}
    (hframes : s.frames = ⟨entity, name :: pending⟩ :: frames) :
    Move graph s (follow graph { s with frames := ⟨entity, pending⟩ :: frames } name) := by
  unfold follow
  split
  · next h => exact .close hframes (Std.ExtTreeSet.contains_iff_mem.mp h)
  · next hactive =>
    rw [Std.ExtTreeSet.contains_iff_mem] at hactive
    split
    · next h => exact .pass hframes hactive (Std.ExtTreeSet.contains_iff_mem.mp h)
    · next hnew =>
      rw [Std.ExtTreeSet.contains_iff_mem] at hnew
      exact .enter hframes hactive hnew

theorem Move.of_startFrom {root : String} {roots : List String} (hframes : s.frames = [])
    (hroots : s.roots = root :: roots) : Move graph s (startFrom graph { s with roots } root) := by
  unfold startFrom
  split
  · next h => exact .skip hframes hroots (Std.ExtTreeSet.contains_iff_mem.mp h)
  · next hnew =>
    rw [Std.ExtTreeSet.contains_iff_mem] at hnew
    exact .start hframes hroots hnew

/-- **All moves.**  A search that moves on does so in one of the six ways. -/
theorem Move.of_step? (h : s.step? graph = some t) : Move graph s t := by
  unfold step? at h
  split at h
  · next hframes =>
    split at h
    · cases h
    · next root roots hroots =>
      cases h
      exact .of_startFrom hframes hroots
  · next frame frames hframes =>
    obtain ⟨entity, pending⟩ := frame
    split at h
    · next hpending =>
      cases h
      cases hpending
      exact .leave hframes
    · next name rest hpending =>
      cases h
      cases hpending
      exact .of_follow hframes

/-- A search is over when nothing is left on the stack and no root is left. -/
theorem step?_eq_none (h : s.step? graph = none) : s.frames = [] ∧ s.roots = [] := by
  unfold step? at h
  split at h
  · next hframes =>
    split at h
    · next hroots => exact ⟨hframes, hroots⟩
    · cases h
  · split at h <;> cases h

/-- **Run lemma.**  What every move keeps holds after any number of moves. -/
theorem after_induction {P : Search → Prop} (move : ∀ {s t}, P s → Move graph s t → P t) (n : Nat)
    (hP : P s) : P (s.after graph n) := by
  induction n generalizing s with
  | zero => exact hP
  | succ n ih =>
    unfold after
    split
    · exact hP
    · next t h => exact ih (move hP (.of_step? h))

/-! ### The stack -/

/-- Frames, path and sets of a search are in step. -/
structure Stacked (graph : RelationGraph) (s : Search) : Prop where
  /-- The path lists the entities of the frames. -/
  path_eq : s.frames.map Frame.entity = s.path
  /-- The active entities are those of the path. -/
  active_iff : ∀ {name}, name ∈ s.active ↔ name ∈ s.path
  /-- The path holds no entity twice. -/
  nodup : s.path.Nodup
  /-- The entities of the path are visited. -/
  visited_of_path : ∀ {name}, name ∈ s.path → name ∈ s.visited
  /-- Only entities of the graph are visited. -/
  visited_known : ∀ {name}, name ∈ s.visited → name ∈ graph.names
  /-- The roots are entities of the graph. -/
  roots_known : ∀ {name}, name ∈ s.roots → name ∈ graph.names
  /-- What is still to follow is the end of the dependencies. -/
  pending_suffix : ∀ {f}, f ∈ s.frames → f.pending <:+ graph.dependencies f.entity

namespace Stacked

theorem of_start (graph : RelationGraph) (roots : List String) : Stacked graph (start graph roots) where
  path_eq := rfl
  active_iff := by
    intro name
    simp [start]
  nodup := List.nodup_nil
  visited_of_path h := absurd h List.not_mem_nil
  visited_known h := absurd h Std.ExtTreeSet.not_mem_empty
  roots_known h := RelationGraph.contains_iff.mp (List.mem_filter.mp h).2
  pending_suffix h := absurd h List.not_mem_nil

/-- The latest entity of the path is that of the latest frame. -/
theorem path_cons (h : Stacked graph s) {frame : Frame} {frames : List Frame}
    (hframes : s.frames = frame :: frames) :
    s.path = frame.entity :: frames.map Frame.entity := by
  rw [← h.path_eq, hframes, List.map_cons]

/-- Roots may be dropped. -/
theorem roots (h : Stacked graph s) {names : List String}
    (hnames : ∀ {name}, name ∈ names → name ∈ s.roots) : Stacked graph { s with roots := names } :=
  { h with roots_known := fun hn => h.roots_known (hnames hn) }

/-- A new entity may be entered. -/
theorem enter (h : Stacked graph s) {name : String} (hname : name ∈ graph.names)
    (hnew : name ∉ s.visited) : Stacked graph (s.enter graph name) where
  path_eq := by simp [Search.enter, h.path_eq]
  active_iff := by
    intro other
    rw [Search.enter, mem_insert_set, h.active_iff, List.mem_cons]
  nodup := List.nodup_cons.mpr ⟨fun hp => hnew (h.visited_of_path hp), h.nodup⟩
  visited_of_path hp := by
    rw [Search.enter, mem_insert_set]
    rcases List.mem_cons.mp hp with rfl | hp
    · exact .inl rfl
    · exact .inr (h.visited_of_path hp)
  visited_known hv := by
    rw [Search.enter, mem_insert_set] at hv
    rcases hv with rfl | hv
    · exact hname
    · exact h.visited_known hv
  roots_known := h.roots_known
  pending_suffix hf := by
    rcases List.mem_cons.mp hf with rfl | hf
    · exact List.suffix_refl _
    · exact h.pending_suffix hf

/-- The latest entity may be left. -/
theorem leave (h : Stacked graph s) {frame : Frame} {frames : List Frame}
    (hframes : s.frames = frame :: frames) : Stacked graph (s.leave frame.entity) := by
  have hpath := h.path_cons hframes
  have hnodup := h.nodup
  rw [hpath, List.nodup_cons] at hnodup
  constructor
  · simp [Search.leave, hframes, hpath]
  · intro name
    simp only [Search.leave, mem_erase_set, h.active_iff, hpath, List.tail_cons, List.mem_cons]
    constructor
    · rintro ⟨hne, rfl | hmem⟩
      · exact absurd rfl hne
      · exact hmem
    · intro hmem
      exact ⟨fun heq => hnodup.1 (heq ▸ hmem), .inr hmem⟩
  · simpa [Search.leave, hpath] using hnodup.2
  · exact fun hp => h.visited_of_path (List.mem_of_mem_tail hp)
  · exact h.visited_known
  · exact h.roots_known
  · intro f hf
    exact h.pending_suffix (List.mem_of_mem_tail hf)

/-- A relation of the latest entity may be followed. -/
theorem advance (h : Stacked graph s) {entity name : String} {pending : List String}
    {frames : List Frame} (hframes : s.frames = ⟨entity, name :: pending⟩ :: frames) :
    Stacked graph { s with frames := ⟨entity, pending⟩ :: frames } :=
  { h with
    path_eq := by
      rw [← h.path_eq, hframes]
      rfl
    pending_suffix := by
      intro f hf
      rcases List.mem_cons.mp hf with rfl | hf
      · exact (List.suffix_cons name pending).trans (h.pending_suffix (hframes ▸ List.mem_cons_self))
      · exact h.pending_suffix (hframes ▸ List.mem_cons_of_mem _ hf) }

theorem record (h : Stacked graph s) (c : Cycle) : Stacked graph (s.record c) := by
  unfold Search.record
  split
  · exact h
  · exact { h with }

/-- What the latest entity has still to follow is among its dependencies. -/
theorem dependsOn (h : Stacked graph s) {entity name : String} {pending : List String}
    {frames : List Frame} (hframes : s.frames = ⟨entity, name :: pending⟩ :: frames) :
    graph.DependsOn entity name :=
  (h.pending_suffix (f := ⟨entity, name :: pending⟩) (hframes ▸ List.mem_cons_self)).subset
    List.mem_cons_self

/-- **Every move keeps the stack in step.** -/
theorem move (hclosed : graph.Closed) (h : Stacked graph s) (hm : Move graph s t) :
    Stacked graph t := by
  cases hm with
  | skip _ hroots _ => exact h.roots (hroots ▸ List.mem_cons_of_mem _)
  | start _ hroots hnew =>
    exact (h.roots (hroots ▸ List.mem_cons_of_mem _)).enter
      (h.roots_known (hroots ▸ List.mem_cons_self)) hnew
  | leave hframes => exact h.leave hframes
  | close hframes _ => exact (h.advance hframes).record _
  | pass hframes _ _ => exact h.advance hframes
  | enter hframes _ hnew => exact (h.advance hframes).enter (hclosed _ _ (h.dependsOn hframes)) hnew

end Stacked

end EntityProjection.Search
