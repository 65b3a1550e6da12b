import EntityProjection.Proofs.Graph.CycleBreaking
import EntityProjection.Proofs.Graph.Readiness

/-!
# The residual test decides whether there is a circle

At any time the degree of a name is the number of its needs that are not processed, and the names of
degree zero are those that are ready or processed, none of them twice.  So a degree that goes down
was not zero, no name is processed twice, and the test is over after as many names as there are.  A
name is processed only after all that it needs, which is why names on a circle never are; and where
there is no circle, a name that is not processed would need another one, and so on without end.

* `Residual.Degrees`: the degrees are those of a count; `Residual.Degrees.lower`: so they stay when
  one goes down;
* `Residual.Running`: the invariant of the test; `Residual.Running.process`,
  `Residual.Running.after`: what one name and what a whole run keeps of it;
* `residualTest_decides`: on the graph of an accepted model and any broken relations the test never
  breaks off and answers whether the others form no circle.
-/

namespace EntityProjection

namespace Residual

open Schedule Schedule.Counts

variable {needs : String → List String} {names : List String} {count : String → ℕ} {r : Residual}

/-! ### Degrees -/

/-- Every one of the names has its count as degree, and those of count zero are ready or processed,
in only one of these ways and only once. -/
structure Degrees (count : String → ℕ) (names : List String) (r : Residual) : Prop where
  degree : ∀ name ∈ names, r.degrees[name]? = some (count name)
  nodup : (r.ready ++ r.processed).Nodup
  mem_iff : ∀ name, name ∈ r.ready ++ r.processed ↔ name ∈ names ∧ count name = 0

namespace Degrees

theorem congr (h : Degrees count names r) {count' : String → ℕ}
    (hcount : ∀ name ∈ names, count' name = count name) : Degrees count' names r where
  degree name hname := by rw [h.degree name hname, hcount name hname]
  nodup := h.nodup
  mem_iff name := by
    rw [h.mem_iff]
    refine and_congr_right fun hname => ?_
    rw [hcount name hname]

theorem degrees_start (needs : String → List String) (hnodup : names.Nodup) {name : String}
    {n : ℕ} :
    (Residual.start needs names).degrees[name]? = some n ↔
      name ∈ names ∧ (needs name).length = n := by
  have hdistinct : (names.map fun name => (name, (needs name).length)).Pairwise
      fun a b => ¬compare a.1 b.1 = .eq := by
    refine List.pairwise_map.mpr (hnodup.imp fun {a b} hne heq => hne ?_)
    exact Std.LawfulEqCmp.compare_eq_iff_eq.mp heq
  by_cases hname : name ∈ names
  · have hdegree : (Residual.start needs names).degrees[name]? = some (needs name).length :=
      Std.ExtTreeMap.getElem?_ofList_of_mem (Std.ReflCmp.compare_self) hdistinct
        (List.mem_map.mpr ⟨name, hname, rfl⟩)
    rw [hdegree, Option.some.injEq, and_iff_right hname]
  · have hdegree : (Residual.start needs names).degrees[name]? = none :=
      Std.ExtTreeMap.getElem?_ofList_of_contains_eq_false (by simpa using hname)
    rw [hdegree]
    exact iff_of_false nofun fun h => hname h.1

/-- At the start the degrees are the numbers of needs. -/
theorem start (needs : String → List String) (hnodup : names.Nodup) :
    Degrees (fun name => (needs name).length) names (Residual.start needs names) := by
  have hready : (Residual.start needs names).ready ++ (Residual.start needs names).processed =
      ((Residual.start needs names).degrees.filter fun _ degree => degree == 0).keys.reverse :=
    List.append_nil _
  constructor
  · exact fun name hname => (degrees_start needs hnodup).mpr ⟨hname, rfl⟩
  · rw [hready, List.nodup_reverse]
    exact Std.ExtTreeMap.nodup_keys
  · intro name
    rw [hready, List.mem_reverse, Std.ExtTreeMap.mem_keys, ← degrees_start needs hnodup,
      Std.ExtTreeMap.mem_iff_isSome_getElem?, Std.ExtTreeMap.getElem?_filter']
    cases (Residual.start needs names).degrees[name]? with
    | none => simp
    | some degree => simp [Option.isSome_filter]

theorem lower_eq {name : String} {n : ℕ} (h : r.degrees[name]? = some (n + 1)) :
    r.lower name = .ok { r with
      degrees := r.degrees.insert name n
      ready := if n == 0 then name :: r.ready else r.ready } := by
  rw [Residual.lower, h]

/-- A degree that is not zero goes down, and the others stay. -/
theorem lower (h : Degrees count names r) {name : String} (hname : name ∈ names)
    (hpos : 0 < count name) :
    ∃ r', r.lower name = .ok r' ∧ r'.processed = r.processed ∧
      Degrees (lowered count name) names r' := by
  obtain ⟨n, hn⟩ := Nat.exists_eq_succ_of_ne_zero hpos.ne'
  have hdegree := h.degree name hname
  rw [hn] at hdegree
  have hnew : name ∉ r.ready ++ r.processed := by
    intro hmem
    have hzero := ((h.mem_iff name).mp hmem).2
    omega
  refine ⟨_, lower_eq hdegree, rfl, ?_⟩
  constructor
  · intro other hother
    show (r.degrees.insert name n)[other]? = _
    rw [getElem?_insert_map]
    split
    · next heq =>
      subst heq
      rw [lowered_self, hn]
      rfl
    · next hne => rw [h.degree other hother, lowered_ne hne]
  · show ((if n == 0 then name :: r.ready else r.ready) ++ r.processed).Nodup
    split
    · exact List.nodup_cons.mpr ⟨hnew, h.nodup⟩
    · exact h.nodup
  · intro other
    have hmem := h.mem_iff other
    show other ∈ (if n == 0 then name :: r.ready else r.ready) ++ r.processed ↔ _
    by_cases heq : other = name
    · subst heq
      rw [lowered_self, hn]
      cases n with
      | zero => simp [hname]
      | succ n => simpa using hnew
    · rw [lowered_ne heq, ← hmem]
      split
      · rw [List.cons_append, List.mem_cons, or_iff_right heq]
      · exact Iff.rfl

/-- Degrees go down one after the other as often as the list names them. -/
theorem foldlM_lower (h : Degrees count names r) {released : List String}
    (hreleased : ∀ name ∈ released, name ∈ names)
    (hcount : ∀ name, released.count name ≤ count name) :
    ∃ r', released.foldlM Residual.lower r = .ok r' ∧ r'.processed = r.processed ∧
      Degrees (fun name => count name - released.count name) names r' := by
  induction released generalizing count r with
  | nil => exact ⟨r, rfl, rfl, h⟩
  | cons name rest ih =>
    have hpos : 0 < count name := by
      have := hcount name
      rw [List.count_cons_self] at this
      omega
    obtain ⟨next, hnext, hprocessed, hdegrees⟩ := h.lower (hreleased name List.mem_cons_self) hpos
    have hrest : ∀ other, rest.count other ≤ lowered count name other := by
      intro other
      have hother := hcount other
      by_cases heq : other = name
      · subst heq
        rw [List.count_cons_self] at hother
        rw [lowered_self]
        omega
      · rw [List.count_cons_of_ne fun hne => heq hne.symm] at hother
        rwa [lowered_ne heq]
    obtain ⟨last, hlast, hprocessed', hdegrees'⟩ :=
      ih hdegrees (fun other ho => hreleased other (List.mem_cons_of_mem _ ho)) hrest
    refine ⟨last, ?_, hprocessed'.trans hprocessed, hdegrees'.congr fun other _ => ?_⟩
    · rw [List.foldlM_cons, hnext]
      exact hlast
    · by_cases heq : other = name
      · subst heq
        rw [lowered_self, List.count_cons_self]
        omega
      · rw [lowered_ne heq, List.count_cons_of_ne fun hne => heq hne.symm]

end Degrees

/-! ### The run -/

/-- A test on its way: the degrees count the needs that are not processed yet, and from a processed
name no way along needs goes on without end. -/
structure Running (needs : String → List String) (names : List String) (r : Residual) : Prop where
  degrees : Degrees (unmet needs r.processed) names r
  grounded : ∀ name ∈ r.processed, Acc (fun need name => need ∈ needs name) name

namespace Running

theorem start (needs : String → List String) (hnodup : names.Nodup) :
    Running needs names (Residual.start needs names) where
  degrees := (Degrees.start needs hnodup).congr fun name _ => unmet_nil needs name
  grounded _ h := absurd h List.not_mem_nil

/-- **One name is processed.**  No degree goes below zero, and the invariant is kept. -/
theorem process (h : Running needs names r) (hnodup : names.Nodup) {name : String}
    {ready : List String} (hready : r.ready = name :: ready) :
    ∃ r', Residual.process (dependentsOf needs names) { r with ready } name = .ok r' ∧
      r'.processed = name :: r.processed ∧ Running needs names r' := by
  have hfirst : name ∈ r.ready ++ r.processed := by
    rw [hready]
    exact List.mem_cons_self
  have hplaces := h.degrees.nodup
  rw [hready, List.cons_append, List.nodup_cons, List.mem_append, not_or] at hplaces
  have hnew : name ∉ r.processed := hplaces.1.2
  have hperm : (ready ++ name :: r.processed).Perm (r.ready ++ r.processed) := by
    rw [hready]
    exact List.perm_middle
  have htaken : Degrees (unmet needs r.processed) names
      { r with ready, processed := name :: r.processed } :=
    ⟨h.degrees.degree, hperm.nodup_iff.mpr h.degrees.nodup,
      fun other => hperm.mem_iff.trans (h.degrees.mem_iff other)⟩
  -- A name that waits for this one is released as often as it needs it: all these needs are unmet.
  have hreleased : ∀ other ∈ (dependentsOf needs names).getD name [], other ∈ names := by
    intro other hother
    have hpos := List.count_pos_iff.mpr hother
    rw [count_dependentsOf] at hpos
    exact List.count_pos_iff.mp (Nat.pos_of_mul_pos_right hpos)
  have hcount : ∀ other, ((dependentsOf needs names).getD name []).count other ≤
      unmet needs r.processed other := by
    intro other
    rw [count_dependentsOf]
    have honce := List.nodup_iff_count_le_one.mp hnodup other
    calc names.count other * (needs other).count name
        ≤ 1 * (needs other).count name := Nat.mul_le_mul_right _ honce
      _ = (needs other).count name := Nat.one_mul _
      _ ≤ unmet needs r.processed other := count_le_countP_not_emitted hnew (needs other)
  obtain ⟨r', hr', hprocessed, hdegrees⟩ := htaken.foldlM_lower hreleased hcount
  have hprocessed : r'.processed = name :: r.processed := hprocessed
  refine ⟨r', hr', hprocessed, ?_, ?_⟩
  · rw [hprocessed]
    refine hdegrees.congr fun other hother => ?_
    rw [unmet_cons hnew, count_dependentsOf, List.count_eq_one_of_mem hnodup hother, Nat.one_mul]
  · rw [hprocessed]
    have hzero := ((h.degrees.mem_iff name).mp hfirst).2
    refine List.forall_mem_cons.mpr ⟨⟨_, fun need hneed => ?_⟩, h.grounded⟩
    exact h.grounded need (unmet_eq_zero.mp hzero need hneed)

/-- **Run lemma.**  A test never breaks off and keeps the invariant; each time a name is processed,
until none is ready. -/
theorem after (h : Running needs names r) (hnodup : names.Nodup) (n : ℕ) :
    ∃ r', r.after (dependentsOf needs names) n = .ok r' ∧ Running needs names r' ∧
      (r'.ready = [] ∨ r'.processed.length = r.processed.length + n) := by
  induction n generalizing r with
  | zero => exact ⟨r, rfl, h, .inr rfl⟩
  | succ n ih =>
    cases hready : r.ready with
    | nil =>
      refine ⟨r, ?_, h, .inl hready⟩
      rw [Residual.after, hready]
    | cons name ready =>
      obtain ⟨next, hnext, hprocessed, hrunning⟩ := h.process hnodup hready
      obtain ⟨last, hlast, hrunning', hend⟩ := ih hrunning
      refine ⟨last, ?_, hrunning', hend.imp_right fun hlength => ?_⟩
      · rw [Residual.after, hready]
        show Except.bind _ _ = _
        rw [hnext]
        exact hlast
      · rw [hlength, hprocessed, List.length_cons]
        omega

/-- The processed names are some of the names, each of them once. -/
theorem processed_subperm (h : Running needs names r) : r.processed.Subperm names := by
  refine List.subperm_of_subset (List.nodup_append.mp h.degrees.nodup).2.1 fun name hname => ?_
  exact ((h.degrees.mem_iff name).mp (List.mem_append_right _ hname)).1

/-- No name is ready once as many are processed as there are. -/
theorem ready_eq_nil (h : Running needs names r) (hlength : names.length ≤ r.processed.length) :
    r.ready = [] := by
  have hall : (r.ready ++ r.processed).Subperm names := by
    refine List.subperm_of_subset h.degrees.nodup fun name hname => ?_
    exact ((h.degrees.mem_iff name).mp hname).1
  have hle := hall.length_le
  rw [List.length_append] at hle
  exact List.length_eq_zero_iff.mp (by omega)

/-- At the end of a test all names are processed if and only if along needs every way comes to an
end. -/
theorem processed_all_iff (h : Running needs names r) (hready : r.ready = []) (hnodup : names.Nodup)
    (hclosed : ∀ name ∈ names, ∀ need ∈ needs name, need ∈ names) :
    r.processed.length = names.length ↔
      ∀ name ∈ names, Acc (fun need name => need ∈ needs name) name := by
  have hmem := h.degrees.mem_iff
  rw [hready, List.nil_append] at hmem
  constructor
  · intro hlength name hname
    have hperm := h.processed_subperm.perm_of_length_le hlength.ge
    exact h.grounded name (hperm.mem_iff.mpr hname)
  · intro hacc
    have hall : ∀ name ∈ names, name ∈ r.processed := by
      intro name hname
      induction hacc name hname with
      | intro name _ ih =>
        refine (hmem name).mpr ⟨hname, unmet_eq_zero.mpr fun need hneed => ?_⟩
        exact ih need hneed (hclosed name hname need hneed)
    exact le_antisymm h.processed_subperm.length_le (List.subperm_of_subset hnodup hall).length_le

end Running

end Residual

/-! ### The test of a graph -/

namespace RelationGraph

variable {graph : RelationGraph}

theorem mem_unbroken {broken : BrokenEdges} {source target : String} :
    target ∈ graph.unbroken broken source ↔ graph.Intact broken source target := by
  rw [unbroken, List.mem_filter, Bool.not_eq_true', Intact, DependsOn]

/-- The test of a graph never breaks off, processes entities of the graph only and each at most
once, and is over after as many as there are. -/
theorem exists_residual (graph : RelationGraph) (broken : BrokenEdges) (n : ℕ) :
    ∃ r, graph.residual broken n = .ok r ∧
      r.Running (graph.unbroken broken) graph.names ∧ (graph.names.length ≤ n → r.ready = []) := by
  obtain ⟨r, hr, hrunning, hend⟩ :=
    (Residual.Running.start (graph.unbroken broken) graph.names_nodup).after graph.names_nodup n
  refine ⟨r, hr, hrunning, fun hn => hend.elim id fun hlength => ?_⟩
  refine hrunning.ready_eq_nil ?_
  rw [hlength]
  exact hn.trans (Nat.le_add_left _ _)

/-- **The test is right.**  In a closed graph all entities are processed if and only if the unbroken
relations form no circle. -/
theorem isAcyclic_iff (hclosed : graph.Closed) (broken : BrokenEdges) :
    graph.isAcyclic broken = true ↔ Acyclic (graph.Intact broken) := by
  obtain ⟨r, hr, hrunning, hend⟩ := graph.exists_residual broken graph.names.length
  have hneeds : ∀ name ∈ graph.names, ∀ need ∈ graph.unbroken broken name, need ∈ graph.names :=
    fun name _ need hneed => hclosed name need (mem_unbroken.mp hneed).1
  have hall := hrunning.processed_all_iff (hend le_rfl) graph.names_nodup hneeds
  simp only [mem_unbroken] at hall
  rw [isAcyclic, hr]
  show (r.processed.length == graph.names.length) = true ↔ _
  rw [beq_iff_eq, hall]
  constructor
  · intro hacc
    exact .of_acc fun a b hab => hacc a hab.1.source_mem
  · intro hacyclic name _
    exact (hacyclic.wellFounded fun a b hab => hclosed a b hab.1).apply name

end RelationGraph

/-- **The residual test decides whether there is a circle.**  For an accepted or empty model and any
broken relations, be they relations of the model or not, the test says yes if and only if the
relations that are not broken form no circle.  However far it has gone, no degree had to go below
zero, no entity was processed twice and so no more than there are, and after as many as there are it
is over. -/
theorem residualTest_decides {model : EntityModel} (h : model.Accepted ∨ model = .empty)
    (broken : BrokenEdges) :
    let graph := model.graph
    (graph.isAcyclic broken = true ↔ Acyclic (graph.Intact broken)) ∧
    ∀ n, ∃ r, graph.residual broken n = .ok r ∧
      (r.processed.Nodup ∧ ∀ name ∈ r.processed, name ∈ graph.names) ∧
      r.processed.length ≤ graph.names.length ∧ (graph.names.length ≤ n → r.ready = []) := by
  intro graph
  have hclosed := (EntityModel.coherent_of_accepted_or_empty h).graph_closed
  refine ⟨RelationGraph.isAcyclic_iff hclosed broken, fun n => ?_⟩
  obtain ⟨r, hr, hrunning, hend⟩ := graph.exists_residual broken n
  have hsubperm := hrunning.processed_subperm
  have hnodup : r.processed.Nodup := (List.nodup_append.mp hrunning.degrees.nodup).2.1
  exact ⟨r, hr, ⟨hnodup, fun name hname => hsubperm.subset hname⟩, hsubperm.length_le, hend⟩

/-- Broken relations of the blog, of which the first is none of its relations. -/
def blogBroken : BrokenEdges :=
  .ofList [("Ghost", "Post"), ("Comment", "Comment"), ("Comment", "Post"), ("Comment", "User"),
    ("Post", "User")]

/-- With these relations broken the blog has no circle, with one of them broken it has. -/
theorem residualTest_decides_blog :
    (blog.graph.isAcyclic blogBroken = true ∧ Acyclic (blog.graph.Intact blogBroken)) ∧
      ¬Acyclic (blog.graph.Intact (.ofList [("Comment", "Comment")])) := by
  have hyes : blog.graph.isAcyclic blogBroken = true := by decide +kernel
  have hno : ¬blog.graph.isAcyclic (.ofList [("Comment", "Comment")]) = true := by decide +kernel
  have hdecides := fun broken => (residualTest_decides (.inl blog_accepted) broken).1
  exact ⟨⟨hyes, (hdecides _).mp hyes⟩, fun hacyclic => hno ((hdecides _).mpr hacyclic)⟩

end EntityProjection
