import Mathlib.Data.List.Nodup
import EntityProjection.Proofs.Graph.Relations
import EntityProjection.Graph.Analysis

/-!
# Every entity is emitted exactly once

A schedule only moves names about: a waiting name may become ready, and a ready one is emitted.  So at
any time every name stands in one of three places and in no other, and as the finished schedule leaves
no name ready, each name is either emitted by it or left over.

* `Schedule.Placed`: every name is in exactly one place;
* `Schedule.Placed.release`, `Schedule.Placed.emit`: what the steps keep of it;
* `RelationGraph.order_perm`: the emission order is a rearrangement of the entity names.
-/

namespace EntityProjection

namespace Schedule

/-! ### The three places -/

/-- Every one of the names is emitted, ready or waiting, in only one of these ways, and so are no
other names; none is emitted twice. -/
structure Placed (names : List String) (s : Schedule) : Prop where
  emitted_nodup : s.emitted.Nodup
  mem_iff : ∀ name, name ∈ names ↔ name ∈ s.emitted ∨ name ∈ s.ready ∨ name ∈ s.waiting
  not_ready : ∀ name, name ∈ s.emitted → name ∉ s.ready
  not_waiting : ∀ name, name ∈ s.emitted ∨ name ∈ s.ready → name ∉ s.waiting

namespace Placed

variable {names : List String} {s : Schedule} {name : String}

theorem of_empty : Placed [] {} where
  emitted_nodup := List.nodup_nil
  mem_iff name := by simp
  not_ready name h := by cases h
  not_waiting name _ := Std.ExtTreeMap.not_mem_empty

/-- A new name becomes ready. -/
theorem insert_ready (h : Placed names s) (hnew : name ∉ names) :
    Placed (names ++ [name]) { s with ready := s.ready.insert name } := by
  have hplaces := h.mem_iff name
  refine ⟨h.emitted_nodup, fun other => ?_, fun other ho => ?_, fun other ho => ?_⟩
  · rw [List.mem_append, List.mem_singleton, mem_insert_set, h.mem_iff]
    tauto
  · rw [mem_insert_set, not_or]
    refine ⟨?_, h.not_ready other ho⟩
    rintro rfl
    exact hnew (hplaces.mpr (.inl ho))
  · rw [mem_insert_set] at ho
    obtain ho | rfl | ho := ho
    · exact h.not_waiting other (.inl ho)
    · exact fun hw => hnew (hplaces.mpr (.inr (.inr hw)))
    · exact h.not_waiting other (.inr ho)

/-- A new name waits. -/
theorem insert_waiting (h : Placed names s) (hnew : name ∉ names) (n : Nat) :
    Placed (names ++ [name]) { s with waiting := s.waiting.insert name n } := by
  have hplaces := h.mem_iff name
  refine ⟨h.emitted_nodup, fun other => ?_, h.not_ready, fun other ho => ?_⟩
  · rw [List.mem_append, List.mem_singleton, mem_insert_map, h.mem_iff]
    tauto
  · rw [mem_insert_map, not_or]
    refine ⟨?_, h.not_waiting other ho⟩
    rintro rfl
    exact hnew (hplaces.mpr (ho.imp id .inl))

/-- A name that is entered has its place. -/
theorem enter (h : Placed names s) (hnew : name ∉ names) (n : Nat) :
    Placed (names ++ [name]) (s.enter name n) :=
  match n with
  | 0 => h.insert_ready hnew
  | n + 1 => h.insert_waiting hnew (n + 1)

/-- A name that is released stays waiting, or becomes ready. -/
theorem release (h : Placed names s) (name : String) : Placed names (s.release name) := by
  unfold Schedule.release
  split
  · exact h
  · next n hn =>
    have hw : name ∈ s.waiting := Std.ExtTreeMap.contains_iff_mem.mp (waiting_contains hn)
    have hsame : ∀ other, other ∈ s.waiting.insert name (n + 1) ↔ other ∈ s.waiting := by
      intro other
      rw [mem_insert_map]
      exact ⟨fun ho => ho.elim (fun heq => heq ▸ hw) id, .inr⟩
    refine ⟨h.emitted_nodup, fun other => ?_, h.not_ready, fun other ho => ?_⟩
    · rw [h.mem_iff, hsame]
    · rw [hsame]
      exact h.not_waiting other ho
  · next n _ hn =>
    have hw : name ∈ s.waiting := Std.ExtTreeMap.contains_iff_mem.mp (waiting_contains hn)
    refine ⟨h.emitted_nodup, fun other => ?_, fun other ho => ?_, fun other ho => ?_⟩
    · rw [h.mem_iff, mem_insert_set, mem_erase_map]
      by_cases heq : other = name
      · subst heq
        tauto
      · tauto
    · rw [mem_insert_set, not_or]
      refine ⟨?_, h.not_ready other ho⟩
      rintro rfl
      exact h.not_waiting other (.inl ho) hw
    · rw [mem_insert_set] at ho
      rw [mem_erase_map, not_and]
      intro hne
      exact h.not_waiting other (ho.imp id fun ho => ho.resolve_left hne)

theorem foldl_release (h : Placed names s) (released : List String) :
    Placed names (released.foldl Schedule.release s) := by
  induction released generalizing s with
  | nil => exact h
  | cons name rest ih => exact ih (h.release name)

/-- A ready name that is emitted changes its place. -/
theorem emit (h : Placed names s) (dependents : Std.ExtTreeMap String (List String))
    (hready : name ∈ s.ready) : Placed names (s.emit dependents name) := by
  refine foldl_release ?_ _
  refine ⟨?_, fun other => ?_, fun other ho => ?_, fun other ho => ?_⟩
  · exact List.nodup_cons.mpr ⟨fun hmem => h.not_ready name hmem hready, h.emitted_nodup⟩
  · rw [h.mem_iff, List.mem_cons, mem_erase_set]
    by_cases heq : other = name
    · subst heq
      tauto
    · tauto
  · rw [mem_erase_set, not_and]
    intro hne
    exact h.not_ready other ((List.mem_cons.mp ho).resolve_left hne)
  · rw [List.mem_cons, mem_erase_set] at ho
    refine h.not_waiting other ?_
    obtain (rfl | ho) | ho := ho
    · exact .inr hready
    · exact .inl ho
    · exact .inr ho.2

/-! ### The finished schedule -/

/-- The emission of ready names leaves every name in one place. -/
theorem after (h : Placed names s) (dependents : Std.ExtTreeMap String (List String)) (n : Nat) :
    Placed names (s.after dependents n) := by
  induction n generalizing s with
  | zero => exact h
  | succ n ih =>
    unfold Schedule.after
    split
    · exact h
    · next name hmin => exact ih (h.emit dependents (Std.ExtTreeSet.min?_mem hmin))

theorem foldl_enter (needs : String → List String) (rest : List String) (h : Placed names s)
    (hnodup : (names ++ rest).Nodup) :
    Placed (names ++ rest)
      (rest.foldl (fun s name => s.enter name (needs name).length) s) := by
  induction rest generalizing names s with
  | nil =>
    rw [List.append_nil]
    exact h
  | cons name rest ih =>
    have hnew : name ∉ names := fun hmem =>
      (List.nodup_append.mp hnodup).2.2 name hmem name List.mem_cons_self rfl
    rw [List.append_cons] at hnodup ⊢
    exact ih (h.enter hnew (needs name).length) hnodup

/-- At the start every name has its place. -/
theorem start (needs : String → List String) (hnodup : names.Nodup) :
    Placed names (Schedule.start needs names) :=
  of_empty.foldl_enter needs names hnodup

end Placed

theorem remaining_enter_le (s : Schedule) (name : String) (n : Nat) :
    (s.enter name n).remaining ≤ s.remaining + 1 := by
  cases n with
  | zero =>
    have hin := Std.ExtTreeSet.size_insert_le (t := s.ready) (k := name)
    simp only [enter, remaining]
    omega
  | succ n =>
    have hin := Std.ExtTreeMap.size_insert_le (t := s.waiting) (k := name) (v := n + 1)
    simp only [enter, remaining]
    omega

theorem remaining_foldl_enter_le (needs : String → List String) (names : List String)
    (s : Schedule) :
    (names.foldl (fun s name => s.enter name (needs name).length) s).remaining ≤
      s.remaining + names.length := by
  induction names generalizing s with
  | nil => exact Nat.le_refl _
  | cons name names ih =>
    have hrest := ih (s.enter name (needs name).length)
    have henter := remaining_enter_le s name (needs name).length
    simp only [List.foldl_cons, List.length_cons]
    omega

/-- As many emissions are allowed as names remain. -/
theorem remaining_start_le (needs : String → List String) (names : List String) :
    (start needs names).remaining ≤ names.length := by
  have h := remaining_foldl_enter_le needs names {}
  rw [show ({} : Schedule).remaining = 0 from rfl, Nat.zero_add] at h
  exact h

/-- The finished schedule leaves no name ready. -/
theorem not_mem_ready_ofNeeds (needs : String → List String) (names : List String)
    (name : String) : name ∉ (ofNeeds needs names).ready := by
  have hnone := ready_after_eq_none (dependentsOf needs names) names.length _
    (remaining_start_le needs names)
  have hempty : (ofNeeds needs names).ready = ∅ := Std.ExtTreeSet.min?_eq_none_iff.mp hnone
  rw [hempty]
  exact Std.ExtTreeSet.not_mem_empty

/-- The finished schedule emits or leaves over every name. -/
theorem placed_ofNeeds (needs : String → List String) {names : List String}
    (hnodup : names.Nodup) : Placed names (ofNeeds needs names) :=
  (Placed.start needs hnodup).after _ _

end Schedule

/-! ### The emission order -/

theorem Leftover.rank_eq {l l' : Leftover} : rank l l' = .eq ↔ l = l' := by
  obtain ⟨unmet, relations, name⟩ := l
  obtain ⟨unmet', relations', name'⟩ := l'
  simp only [rank, compareLex_eq_eq, compareOn, Std.LawfulEqCmp.compare_eq_iff_eq,
    Leftover.mk.injEq]

instance : Std.LawfulEqCmp Leftover.rank where
  eq_of_compare := Leftover.rank_eq.mp

namespace RelationGraph

theorem mem_rankedLeftover {graph : RelationGraph} {l : Leftover} :
    l ∈ graph.rankedLeftover ↔ graph.schedule.waiting[l.name]? = some l.unmet ∧
      l.relations = (graph.outgoing l.name).length := by
  rw [rankedLeftover, Std.ExtTreeSet.mem_toList, Std.ExtTreeSet.mem_ofList, List.contains_iff_mem,
    leftover, List.mem_map]
  constructor
  · rintro ⟨⟨name, unmet⟩, hmem, rfl⟩
    exact ⟨Std.ExtTreeMap.mem_toList_iff_getElem?_eq_some.mp hmem, rfl⟩
  · rintro ⟨hwaiting, hrelations⟩
    refine ⟨(l.name, l.unmet), Std.ExtTreeMap.mem_toList_iff_getElem?_eq_some.mpr hwaiting, ?_⟩
    show (⟨l.unmet, (graph.outgoing l.name).length, l.name⟩ : Leftover) = l
    rw [← hrelations]

/-- The names that are left over are those that the schedule leaves waiting. -/
theorem mem_leftover_names {graph : RelationGraph} {name : String} :
    name ∈ graph.rankedLeftover.map Leftover.name ↔ name ∈ graph.schedule.waiting := by
  rw [List.mem_map, Std.ExtTreeMap.mem_iff_isSome_getElem?, Option.isSome_iff_exists]
  constructor
  · rintro ⟨l, hl, rfl⟩
    exact ⟨l.unmet, (mem_rankedLeftover.mp hl).1⟩
  · rintro ⟨unmet, hwaiting⟩
    exact ⟨⟨unmet, (graph.outgoing name).length, name⟩, mem_rankedLeftover.mpr ⟨hwaiting, rfl⟩, rfl⟩

theorem leftover_names_nodup (graph : RelationGraph) :
    (graph.rankedLeftover.map Leftover.name).Nodup := by
  refine List.pairwise_map.mpr (Std.ExtTreeSet.distinct_toList.imp_of_mem ?_)
  intro l l' hl hl' hne hname
  obtain ⟨hunmet, hrelations⟩ := mem_rankedLeftover.mp hl
  obtain ⟨hunmet', hrelations'⟩ := mem_rankedLeftover.mp hl'
  rw [hname] at hunmet hrelations
  have heq : l.unmet = l'.unmet := Option.some.inj (hunmet.symm.trans hunmet')
  refine hne (Leftover.rank_eq.mpr ?_)
  cases l with
  | mk unmet relations name =>
    cases hname
    cases heq
    cases hrelations.trans hrelations'.symm
    rfl

/-- **Every entity is emitted exactly once.**  The emission order is a rearrangement of the entity
names. -/
theorem order_perm (graph : RelationGraph) : graph.order.Perm graph.names := by
  have hplaced := Schedule.placed_ofNeeds graph.needs graph.names_nodup
  have hready := Schedule.not_mem_ready_ofNeeds graph.needs graph.names
  refine (List.perm_ext_iff_of_nodup ?_ graph.names_nodup).mpr fun name => ?_
  · refine List.nodup_append.mpr ⟨List.nodup_reverse.mpr hplaced.emitted_nodup,
      graph.leftover_names_nodup, ?_⟩
    rintro name hemitted _ hleft rfl
    exact hplaced.not_waiting name (.inl (List.mem_reverse.mp hemitted))
      (mem_leftover_names.mp hleft)
  · rw [order, List.mem_append, mem_leftover_names, Schedule.order, List.mem_reverse,
      hplaced.mem_iff name]
    exact or_congr_right (or_iff_right (hready name)).symm

end RelationGraph

end EntityProjection
