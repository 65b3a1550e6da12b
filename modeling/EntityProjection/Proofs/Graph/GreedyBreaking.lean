import Mathlib.Data.List.Dedup
import Mathlib.Data.List.Perm.Subperm
import EntityProjection.Proofs.Graph.Breaking
import EntityProjection.Proofs.Preliminaries

/-!
# Breaking any cycles

Cycles to be broken need not be independent, nor cycles of any graph: they may share relations, be
rotations of each other, be empty or be listed twice.  A cycle is reached after the longer ones and
after those of its length that are listed before it; if none of its relations has been broken for
them, its closing relation is.  So in the end every cycle is hit, and nothing is broken without need
at the time.

* `breakingOrder_split`: what a cycle's turn comes after, and what comes after it;
* `BrokenEdges.Hits`: a cycle has a broken relation; `hits_foldl_breakCycle`: a cycle that had its
  turn is hit; `isBroken_foldl_breakCycle`: what is broken was broken at the turn of some cycle;
* `breakCycles_greedy`: the broken relations of any list of cycles.
-/

namespace EntityProjection

/-! ### The order of breaking -/

/-- No cycle is longer than one that stands before it. -/
def LongestFirst (cycles : List Cycle) : Prop :=
  cycles.Pairwise fun c d => d.length ≤ c.length

theorem LongestFirst.insertByLength {cycles : List Cycle} (h : LongestFirst cycles) (c : Cycle) :
    LongestFirst (insertByLength c cycles) := by
  induction cycles with
  | nil => exact List.pairwise_singleton _ _
  | cons other rest ih =>
    obtain ⟨hfirst, hrest⟩ := List.pairwise_cons.mp h
    unfold EntityProjection.insertByLength
    split
    · next hle =>
      refine List.pairwise_cons.mpr ⟨fun d hd => ?_, h⟩
      obtain rfl | hd := List.mem_cons.mp hd
      · exact hle
      · exact (hfirst d hd).trans hle
    · next hlt =>
      refine List.pairwise_cons.mpr ⟨fun d hd => ?_, ih hrest⟩
      obtain rfl | hd := List.mem_cons.mp ((insertByLength_perm c rest).mem_iff.mp hd)
      · exact (not_le.mp hlt).le
      · exact hfirst d hd

theorem breakingOrder_longestFirst (cycles : List Cycle) : LongestFirst (breakingOrder cycles) := by
  induction cycles with
  | nil => exact List.Pairwise.nil
  | cons c cycles ih => exact ih.insertByLength c

/-- Cycles of one length keep their order. -/
theorem filter_insertByLength (c : Cycle) (cycles : List Cycle) (n : ℕ) :
    (insertByLength c cycles).filter (fun d => d.length == n) =
      (c :: cycles).filter fun d => d.length == n := by
  induction cycles with
  | nil => rfl
  | cons other rest ih =>
    unfold insertByLength
    split
    · rfl
    · next hlt =>
      have hne : ¬(other.length = n ∧ c.length = n) := by omega
      rw [List.filter_cons, ih]
      by_cases hother : other.length = n
      · have hc : ¬c.length = n := fun hc => hne ⟨hother, hc⟩
        simp [hother, hc]
      · simp [List.filter_cons, hother]

theorem filter_breakingOrder (cycles : List Cycle) (n : ℕ) :
    (breakingOrder cycles).filter (fun d => d.length == n) =
      cycles.filter fun d => d.length == n := by
  induction cycles with
  | nil => rfl
  | cons c cycles ih =>
    show (insertByLength c (breakingOrder cycles)).filter _ = _
    rw [filter_insertByLength, List.filter_cons, List.filter_cons, ih]

theorem mem_iff_of_filter_length {cycles cycles' : List Cycle}
    (h : ∀ n, cycles.filter (fun d => d.length == n) = cycles'.filter fun d => d.length == n)
    (d : Cycle) : d ∈ cycles ↔ d ∈ cycles' := by
  have hd := congrArg (d ∈ ·) (h d.length)
  simpa [List.mem_filter] using hd

/-- A list with longer cycles first is determined by its cycles of each length. -/
theorem LongestFirst.eq {cycles cycles' : List Cycle} (h : LongestFirst cycles)
    (h' : LongestFirst cycles')
    (heq : ∀ n, cycles.filter (fun d => d.length == n) = cycles'.filter fun d => d.length == n) :
    cycles = cycles' := by
  have hmem := mem_iff_of_filter_length heq
  induction cycles generalizing cycles' with
  | nil =>
    refine (List.eq_nil_iff_forall_not_mem.mpr fun d hd => ?_).symm
    exact List.not_mem_nil ((hmem d).mpr hd)
  | cons c rest ih =>
    cases cycles' with
    | nil => exact absurd ((hmem c).mp List.mem_cons_self) List.not_mem_nil
    | cons c' rest' =>
      obtain ⟨hfirst, hrest⟩ := List.pairwise_cons.mp h
      obtain ⟨hfirst', hrest'⟩ := List.pairwise_cons.mp h'
      -- Each of the two first cycles is in the other list and so not longer than the other one.
      have hle : c'.length ≤ c.length := by
        obtain heq | hin := List.mem_cons.mp ((hmem c').mpr List.mem_cons_self)
        · exact heq ▸ le_rfl
        · exact hfirst c' hin
      have hge : c.length ≤ c'.length := by
        obtain heq | hin := List.mem_cons.mp ((hmem c).mp List.mem_cons_self)
        · exact heq ▸ le_rfl
        · exact hfirst' c hin
      have hhead : c = c' := by
        have hfilter := heq c.length
        rw [List.filter_cons, List.filter_cons, if_pos (beq_self_eq_true _),
          if_pos (beq_iff_eq.mpr (le_antisymm hle hge))] at hfilter
        exact (List.cons.inj hfilter).1
      subst hhead
      have htails : ∀ n, rest.filter (fun d => d.length == n) =
          rest'.filter fun d => d.length == n := by
        intro n
        have hfilter := heq n
        rw [List.filter_cons, List.filter_cons] at hfilter
        split at hfilter
        · exact (List.cons.inj hfilter).2
        · exact hfilter
      rw [ih hrest hrest' htails (mem_iff_of_filter_length htails)]

/-! ### Turns -/

/-- The cycles whose turn comes before that of one in a list: those of at least its length before it
in the list, and the longer ones after it. -/
def cyclesAhead (before : List Cycle) (c : Cycle) (after : List Cycle) : List Cycle :=
  before.filter (fun d => decide (c.length ≤ d.length)) ++
    after.filter fun d => decide (c.length < d.length)

/-- The cycles whose turn comes after that of one in a list. -/
def cyclesBehind (before : List Cycle) (c : Cycle) (after : List Cycle) : List Cycle :=
  before.filter (fun d => decide (d.length < c.length)) ++
    after.filter fun d => decide (d.length ≤ c.length)

theorem le_of_mem_cyclesAhead {before after : List Cycle} {c d : Cycle}
    (h : d ∈ cyclesAhead before c after) : c.length ≤ d.length := by
  simp only [cyclesAhead, List.mem_append, List.mem_filter, decide_eq_true_eq] at h
  omega

theorem le_of_mem_cyclesBehind {before after : List Cycle} {c d : Cycle}
    (h : d ∈ cyclesBehind before c after) : d.length ≤ c.length := by
  simp only [cyclesBehind, List.mem_append, List.mem_filter, decide_eq_true_eq] at h
  omega

/-- A test of lengths keeps all cycles of one length or none. -/
theorem filter_length_filter (keep : ℕ → Bool) (cycles : List Cycle) (n : ℕ) :
    (cycles.filter fun d => keep d.length).filter (fun d => d.length == n) =
      if keep n then cycles.filter (fun d => d.length == n) else [] := by
  rw [List.filter_filter]
  split
  · next hkeep =>
    refine List.filter_congr fun d _ => ?_
    by_cases hn : d.length = n
    · simp [hn, hkeep]
    · simp [hn]
  · next hdrop =>
    refine List.filter_eq_nil_iff.mpr fun d _ => ?_
    by_cases hn : d.length = n
    · simp [hn, hdrop]
    · simp [hn]

theorem filter_cyclesAhead (before : List Cycle) (c : Cycle) (after : List Cycle) (n : ℕ) :
    (cyclesAhead before c after).filter (fun d => d.length == n) =
      (if c.length ≤ n then before.filter fun d => d.length == n else []) ++
        if c.length < n then after.filter fun d => d.length == n else [] := by
  rw [cyclesAhead, List.filter_append, filter_length_filter (fun m => decide (c.length ≤ m)),
    filter_length_filter (fun m => decide (c.length < m))]
  simp only [decide_eq_true_eq]

theorem filter_cyclesBehind (before : List Cycle) (c : Cycle) (after : List Cycle) (n : ℕ) :
    (cyclesBehind before c after).filter (fun d => d.length == n) =
      (if n < c.length then before.filter fun d => d.length == n else []) ++
        if n ≤ c.length then after.filter fun d => d.length == n else [] := by
  rw [cyclesBehind, List.filter_append, filter_length_filter (fun m => decide (m < c.length)),
    filter_length_filter (fun m => decide (m ≤ c.length))]
  simp only [decide_eq_true_eq]

/-- Where one part of the cycles has none that is shorter than one of the other part, the parts are
reached one after the other. -/
theorem breakingOrder_append {cycles ahead behind : List Cycle}
    (hparts : ∀ n, cycles.filter (fun d => d.length == n) =
      ahead.filter (fun d => d.length == n) ++ behind.filter fun d => d.length == n)
    (hle : ∀ c ∈ ahead, ∀ d ∈ behind, d.length ≤ c.length) :
    breakingOrder cycles = breakingOrder ahead ++ breakingOrder behind := by
  refine (breakingOrder_longestFirst _).eq ?_ fun n => ?_
  · refine List.pairwise_append.mpr
      ⟨breakingOrder_longestFirst _, breakingOrder_longestFirst _, fun c hc d hd => ?_⟩
    exact hle c ((breakingOrder_perm _).mem_iff.mp hc) d ((breakingOrder_perm _).mem_iff.mp hd)
  · rw [List.filter_append, filter_breakingOrder, filter_breakingOrder, filter_breakingOrder,
      hparts n]

/-- A cycle that no other one is longer than is reached first. -/
theorem breakingOrder_cons {c : Cycle} {cycles : List Cycle}
    (h : ∀ d ∈ cycles, d.length ≤ c.length) :
    breakingOrder (c :: cycles) = c :: breakingOrder cycles := by
  show insertByLength c (breakingOrder cycles) = _
  cases horder : breakingOrder cycles with
  | nil => rfl
  | cons d rest =>
    have hd : d ∈ breakingOrder cycles := horder ▸ List.mem_cons_self
    rw [insertByLength, if_pos (h d ((breakingOrder_perm _).mem_iff.mp hd))]

/-- **What a turn comes after.**  A cycle is reached right after the cycles ahead of it. -/
theorem breakingOrder_split (before : List Cycle) (c : Cycle) (after : List Cycle) :
    breakingOrder (before ++ c :: after) =
      breakingOrder (cyclesAhead before c after) ++
        c :: breakingOrder (cyclesBehind before c after) := by
  have hahead : ∀ d ∈ cyclesAhead before c after, c.length ≤ d.length :=
    fun _ => le_of_mem_cyclesAhead
  have hbehind : ∀ d ∈ cyclesBehind before c after, d.length ≤ c.length :=
    fun _ => le_of_mem_cyclesBehind
  rw [← breakingOrder_cons hbehind]
  refine breakingOrder_append (fun n => ?_) fun d hd e he => ?_
  · rw [filter_cyclesAhead, List.filter_cons, List.filter_append, List.filter_cons,
      filter_cyclesBehind]
    rcases lt_trichotomy n c.length with hlt | rfl | hgt
    · simp [hlt.not_ge, hlt.not_gt, hlt, hlt.le, hlt.ne']
    · simp
    · simp [hgt.not_ge, hgt.not_gt, hgt, hgt.le, hgt.ne]
  · obtain rfl | he := List.mem_cons.mp he
    · exact hahead d hd
    · exact (hbehind e he).trans (hahead d hd)

/-- Where a cycle is put at the end of a list, the others are reached before or after it. -/
theorem breakingOrder_eq_append (cycles : List Cycle) (c : Cycle) :
    breakingOrder cycles =
      breakingOrder (cyclesAhead cycles c []) ++ breakingOrder (cyclesBehind cycles c []) := by
  refine breakingOrder_append (fun n => ?_) fun d hd e he => ?_
  · rw [filter_cyclesAhead, filter_cyclesBehind]
    rcases lt_or_ge n c.length with hlt | hge
    · simp [hlt, hlt.not_ge]
    · simp [hge, hge.not_gt]
  · exact (le_of_mem_cyclesBehind he).trans (le_of_mem_cyclesAhead hd)

/-! ### Hits -/

namespace BrokenEdges

variable {broken : BrokenEdges} {cycles : List Cycle} {c : Cycle} {a b : String}

/-- Some relation of the cycle is broken. -/
def Hits (broken : BrokenEdges) (c : Cycle) : Prop :=
  ∃ e ∈ c.edges, broken.isBroken e.1 e.2 = true

theorem not_hits_iff : ¬broken.Hits c ↔ ∀ e ∈ c.edges, broken.isBroken e.1 e.2 = false := by
  simp [Hits]

/-- At the turn of a cycle its closing relation is broken, unless the cycle is hit. -/
theorem toBreak?_eq_some {e : String × String} :
    broken.toBreak? c = some e ↔ ¬broken.Hits c ∧ c.closingEdge? = some e := by
  have hany : (c.edges.any fun edge => broken.isBroken edge.1 edge.2) = true ↔ broken.Hits c :=
    List.any_eq_true
  rw [toBreak?]
  split
  · next hhit => exact iff_of_false (Option.some_ne_none e).symm fun h => h.1 (hany.mp hhit)
  · next hclean => exact (and_iff_right fun hhit => hclean (hany.mpr hhit)).symm

theorem isBroken_breakCycle : (broken.breakCycle c).isBroken a b = true ↔
    broken.isBroken a b = true ∨ broken.toBreak? c = some (a, b) := by
  rw [breakCycle]
  cases broken.toBreak? c with
  | none => simp
  | some e => rw [isBroken_add, Option.some.injEq, or_comm]

/-- **What is broken.**  A relation was broken before or at the turn of some cycle. -/
theorem isBroken_foldl_breakCycle : (cycles.foldl breakCycle broken).isBroken a b = true ↔
    broken.isBroken a b = true ∨ ∃ before c after, cycles = before ++ c :: after ∧
      (before.foldl breakCycle broken).toBreak? c = some (a, b) := by
  induction cycles generalizing broken with
  | nil => simp
  | cons d cycles ih =>
    rw [List.foldl_cons, ih, isBroken_breakCycle, or_assoc]
    refine or_congr_right ⟨?_, ?_⟩
    · rintro (hfirst | ⟨before, c, after, rfl, hbreak⟩)
      · exact ⟨[], d, cycles, rfl, hfirst⟩
      · exact ⟨d :: before, c, after, rfl, hbreak⟩
    · rintro ⟨before, c, after, hsplit, hbreak⟩
      cases before with
      | nil =>
        obtain ⟨rfl, rfl⟩ := List.cons.inj hsplit
        exact .inl hbreak
      | cons first before =>
        obtain ⟨rfl, rfl⟩ := List.cons.inj hsplit
        exact .inr ⟨before, c, after, rfl, hbreak⟩

/-- What is hit stays hit. -/
theorem Hits.foldl_breakCycle (h : broken.Hits c) (cycles : List Cycle) :
    (cycles.foldl breakCycle broken).Hits c := by
  obtain ⟨e, he, hbroken⟩ := h
  exact ⟨e, he, isBroken_foldl_breakCycle.mpr (.inl hbroken)⟩

/-- A cycle through some entity is hit after its turn. -/
theorem hits_breakCycle (hne : c.path ≠ []) : (broken.breakCycle c).Hits c := by
  by_cases hhit : broken.Hits c
  · exact hhit.foldl_breakCycle [c]
  · obtain ⟨e, hclosing⟩ := Cycle.exists_closingEdge hne
    refine ⟨e, Cycle.closingEdge_mem hclosing, isBroken_breakCycle.mpr (.inr ?_)⟩
    exact toBreak?_eq_some.mpr ⟨hhit, hclosing⟩

theorem hits_foldl_breakCycle (hc : c ∈ cycles) (hne : c.path ≠ []) :
    (cycles.foldl breakCycle broken).Hits c := by
  obtain ⟨before, after, rfl⟩ := List.append_of_mem hc
  rw [List.foldl_append, List.foldl_cons]
  exact (hits_breakCycle hne).foldl_breakCycle after

/-- The turn of a cycle that had one before changes nothing. -/
theorem breakCycle_of_mem (hc : c ∈ cycles) :
    (cycles.foldl breakCycle broken).breakCycle c = cycles.foldl breakCycle broken := by
  have hnone : (cycles.foldl breakCycle broken).toBreak? c = none := by
    refine Option.eq_none_iff_forall_ne_some.mpr fun e he => ?_
    obtain ⟨hclean, hclosing⟩ := toBreak?_eq_some.mp he
    have hne := List.ne_nil_of_mem (Cycle.mem_of_closingEdge hclosing).1
    exact hclean (hits_foldl_breakCycle hc hne)
  rw [breakCycle, hnone]

end BrokenEdges

/-! ### The broken relations -/

section BreakCycles

variable {cycles : List Cycle} {c : Cycle} {a b : String}

/-- Every cycle through some entity is hit. -/
theorem hits_breakCycles (hc : c ∈ cycles) (hne : c.path ≠ []) : (breakCycles cycles).Hits c :=
  BrokenEdges.hits_foldl_breakCycle ((breakingOrder_perm cycles).mem_iff.mpr hc) hne

/-- **The turn at which a relation is broken.**  It closes a cycle of the list that none of the
cycles ahead of it has made hit. -/
theorem exists_turn (h : (breakCycles cycles).isBroken a b = true) :
    ∃ before c after, cycles = before ++ c :: after ∧ c.closingEdge? = some (a, b) ∧
      ¬(breakCycles (cyclesAhead before c after)).Hits c := by
  rw [breakCycles, BrokenEdges.isBroken_foldl_breakCycle, BrokenEdges.isBroken_empty] at h
  obtain ⟨earlier, c, later, hturn, hbreak⟩ := h.resolve_left Bool.false_ne_true
  obtain ⟨hclean, hclosing⟩ := BrokenEdges.toBreak?_eq_some.mp hbreak
  -- A cycle that is listed twice is hit when its second turn comes, so this is the first one.
  have hfirst : c ∉ earlier := fun hc => hclean <|
    BrokenEdges.hits_foldl_breakCycle hc (List.ne_nil_of_mem (Cycle.mem_of_closingEdge hclosing).1)
  have hc : c ∈ cycles := by
    rw [← (breakingOrder_perm cycles).mem_iff, hturn]
    exact List.mem_append_right _ List.mem_cons_self
  obtain ⟨before, after, rfl, hbefore⟩ := List.eq_append_cons_of_mem hc
  have hahead : c ∉ breakingOrder (cyclesAhead before c after) := by
    rw [(breakingOrder_perm _).mem_iff, cyclesAhead, List.mem_append, List.mem_filter,
      List.mem_filter]
    simp [hbefore]
  rw [breakingOrder_split] at hturn
  obtain ⟨rfl, -⟩ := append_cons_inj hahead hfirst hturn
  exact ⟨before, c, after, rfl, hclosing, hclean⟩

/-- At most one relation is broken for each cycle through some entity, however often it is listed.
-/
theorem size_breakCycles_le (cycles : List Cycle) :
    (breakCycles cycles).size ≤ (cycles.filter fun c => decide (c.path ≠ [])).dedup.length := by
  have hnodup := (breakCycles cycles).nodup_toList
  have hsubset : (breakCycles cycles).toList ⊆
      (cycles.filter fun c => decide (c.path ≠ [])).dedup.filterMap Cycle.closingEdge? := by
    intro e he
    obtain ⟨before, c, after, rfl, hclosing, -⟩ := exists_turn (BrokenEdges.mem_toList.mp he)
    refine List.mem_filterMap.mpr ⟨c, List.mem_dedup.mpr (List.mem_filter.mpr ⟨?_, ?_⟩), hclosing⟩
    · exact List.mem_append_right _ List.mem_cons_self
    · exact decide_eq_true (List.ne_nil_of_mem (Cycle.mem_of_closingEdge hclosing).1)
  calc (breakCycles cycles).size = (breakCycles cycles).toList.length :=
        (breakCycles cycles).length_toList.symm
    _ ≤ _ := (List.subperm_of_subset hnodup hsubset).length_le
    _ ≤ _ := List.length_filterMap_le _ _

/-- A cycle that is listed already may be added. -/
theorem breakCycles_append_of_mem (hc : c ∈ cycles) :
    breakCycles (cycles ++ [c]) = breakCycles cycles := by
  have hahead : c ∈ breakingOrder (cyclesAhead cycles c []) := by
    refine (breakingOrder_perm _).mem_iff.mpr (List.mem_append_left _ ?_)
    exact List.mem_filter.mpr ⟨hc, decide_eq_true le_rfl⟩
  rw [breakCycles, breakCycles, breakingOrder_split, breakingOrder_eq_append cycles c,
    List.foldl_append, List.foldl_append, List.foldl_cons, BrokenEdges.breakCycle_of_mem hahead]

end BreakCycles

/-- **Breaking is a greedy choice on any cycles.**  Whatever list of cycles is given, each cycle
through some entity gets a broken relation; a relation is broken only to close a cycle of the list
that was not hit by what the cycles ahead of it, which are the longer ones and the earlier ones of
its length, had broken before its turn; no more relations are broken than there are different
cycles; and a cycle that is listed once more changes nothing. -/
theorem breakCycles_greedy (cycles : List Cycle) :
    let broken := breakCycles cycles
    (∀ c ∈ cycles, c.path ≠ [] → ∃ e ∈ c.edges, broken.isBroken e.1 e.2 = true) ∧
    (∀ a b, broken.isBroken a b = true → ∃ before c after, cycles = before ++ c :: after ∧
      c.closingEdge? = some (a, b) ∧
      (∃ rest, breakingOrder cycles = breakingOrder (cyclesAhead before c after) ++ c :: rest) ∧
      ∀ e ∈ c.edges, (breakCycles (cyclesAhead before c after)).isBroken e.1 e.2 = false) ∧
    broken.size ≤ (cycles.filter fun c => decide (c.path ≠ [])).dedup.length ∧
    ∀ c ∈ cycles, breakCycles (cycles ++ [c]) = broken := by
  intro broken
  refine ⟨fun c hc hne => hits_breakCycles hc hne, fun a b hab => ?_, size_breakCycles_le cycles,
    fun c hc => breakCycles_append_of_mem hc⟩
  obtain ⟨before, c, after, rfl, hclosing, hclean⟩ := exists_turn hab
  exact ⟨before, c, after, rfl, hclosing, ⟨_, breakingOrder_split before c after⟩,
    BrokenEdges.not_hits_iff.mp hclean⟩

/-- Cycles that share relations, with a rotation, an empty one, a repeated one and one that goes
through its only entity twice. -/
def crowdedCycles : List Cycle :=
  [⟨["C", "A"]⟩, ⟨["A", "B", "C"]⟩, ⟨[]⟩, ⟨["B", "C", "A"]⟩, ⟨["A", "B"]⟩, ⟨["A", "A"]⟩,
    ⟨["A", "B"]⟩]

/-- Three relations are broken on them, the rotation is hit by one of these, and one more copy
changes nothing. -/
theorem breakCycles_greedy_crowded :
    (breakCycles crowdedCycles).toList = [("A", "A"), ("B", "A"), ("C", "A")] ∧
      (∃ e ∈ (Cycle.mk ["B", "C", "A"]).edges,
        (breakCycles crowdedCycles).isBroken e.1 e.2 = true) ∧
      breakCycles (crowdedCycles ++ [⟨["A", "B"]⟩]) = breakCycles crowdedCycles := by
  obtain ⟨hhit, -, -, hcopy⟩ := breakCycles_greedy crowdedCycles
  exact ⟨by decide +kernel, hhit ⟨["B", "C", "A"]⟩ (by decide) (by decide),
    hcopy ⟨["A", "B"]⟩ (by decide)⟩

end EntityProjection
