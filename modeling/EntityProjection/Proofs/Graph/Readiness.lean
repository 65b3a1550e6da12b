import Mathlib.Data.String.Basic
import Mathlib.Data.List.Count
import EntityProjection.Proofs.Graph.Emission

/-!
# Readiness

What a schedule counts.  The number beside a waiting name is always the number of its needs that are
not emitted yet, and the ready names are those for which this number is zero.  So the emissions are
told without the counts: each is the least of the names whose needs have all been emitted before.

* `Schedule.unmet` and `Schedule.Ready`: the needs that are left, and the names for which none is;
* `Schedule.Counted`: the counts of a schedule are right; `Schedule.Counted.emit`: an emission keeps
  them right; `Schedule.not_ready_of_release`: none of them ever goes below zero;
* `Schedule.Greedy`: names emitted one after the other, always the least ready one, until none is;
* `Schedule.greedy_order` and `Schedule.waiting_ofNeeds`: the finished schedule.
-/

namespace EntityProjection.Schedule

variable {needs : String → List String} {names emitted : List String} {s : Schedule}

/-! ### Needs that are not met -/

/-- How many needs of a name are not emitted yet. -/
def unmet (needs : String → List String) (emitted : List String) (name : String) : ℕ :=
  (needs name).countP fun need => !emitted.contains need

/-- A name that is not emitted yet, while all that it needs is. -/
def Ready (needs : String → List String) (names emitted : List String) (name : String) : Prop :=
  (name ∈ names ∧ name ∉ emitted) ∧ ∀ need ∈ needs name, need ∈ emitted

instance (needs : String → List String) (names emitted : List String) (name : String) :
    Decidable (Ready needs names emitted name) :=
  inferInstanceAs (Decidable ((_ ∧ _) ∧ ∀ need ∈ needs name, need ∈ emitted))

theorem unmet_eq_zero {name : String} :
    unmet needs emitted name = 0 ↔ ∀ need ∈ needs name, need ∈ emitted := by
  rw [unmet, List.countP_eq_zero]
  simp

theorem unmet_nil (needs : String → List String) (name : String) :
    unmet needs [] name = (needs name).length := by
  rw [unmet, List.countP_eq_length]
  simp

/-- As often as a name that is not emitted is needed, a need is not met. -/
theorem count_le_countP_not_emitted {name : String} (hnew : name ∉ emitted) (wanted : List String) :
    wanted.count name ≤ wanted.countP fun need => !emitted.contains need := by
  refine List.countP_mono_left fun need _ hneed => ?_
  rw [eq_of_beq hneed]
  simpa using hnew

/-- An emission meets a need wherever it is needed. -/
theorem unmet_cons {name : String} (hnew : name ∉ emitted) (other : String) :
    unmet needs (name :: emitted) other = unmet needs emitted other - (needs other).count name := by
  unfold unmet
  induction needs other with
  | nil => rfl
  | cons need rest ih =>
    have hle := count_le_countP_not_emitted hnew rest
    rw [List.countP_cons, List.countP_cons, List.count_cons, ih]
    by_cases heq : need = name
    · subst heq
      simp [hnew]
    · simp only [List.contains_cons, beq_false_of_ne heq, Bool.false_or, Bool.false_eq_true, if_false]
      omega

/-! ### Counts -/

/-- The names of a pool wait with their counts, or are ready if these are zero. -/
structure Counts (count : String → ℕ) (pool : String → Prop) (s : Schedule) : Prop where
  waiting_iff : ∀ {name n}, s.waiting[name]? = some n ↔ pool name ∧ count name = n ∧ n ≠ 0
  ready_iff : ∀ {name}, name ∈ s.ready ↔ pool name ∧ count name = 0

namespace Counts

variable {count : String → ℕ} {pool : String → Prop}

theorem of_empty (count : String → ℕ) : Counts count (fun _ => False) {} where
  waiting_iff := by simp
  ready_iff := by simp

theorem congr (h : Counts count pool s) {count' : String → ℕ} {pool' : String → Prop}
    (hpool : ∀ name, pool' name ↔ pool name) (hcount : ∀ name, pool name → count' name = count name) :
    Counts count' pool' s where
  waiting_iff := by
    intro name n
    rw [h.waiting_iff, hpool]
    exact and_congr_right fun hp => by rw [hcount name hp]
  ready_iff := by
    intro name
    rw [h.ready_iff, hpool]
    exact and_congr_right fun hp => by rw [hcount name hp]

/-- A name enters with its count. -/
theorem enter (h : Counts count pool s) (name : String) :
    Counts count (fun other => pool other ∨ other = name) (s.enter name (count name)) := by
  cases hcount : count name with
  | zero =>
    constructor
    · intro other n
      show s.waiting[other]? = some n ↔ _
      rw [h.waiting_iff]
      refine ⟨fun ⟨hp, hn⟩ => ⟨.inl hp, hn⟩, fun ⟨hp, hn⟩ => ⟨hp.resolve_right ?_, hn⟩⟩
      rintro rfl
      exact hn.2 (hn.1.symm.trans hcount)
    · intro other
      show other ∈ s.ready.insert name ↔ _
      rw [mem_insert_set, h.ready_iff]
      by_cases heq : other = name
      · simp [heq, hcount]
      · simp [heq]
  | succ n =>
    constructor
    · intro other k
      show (s.waiting.insert name (n + 1))[other]? = some k ↔ _
      rw [getElem?_insert_map]
      split
      · next heq =>
        subst heq
        simp only [or_true, true_and, hcount, Option.some.injEq]
        omega
      · next hne => rw [h.waiting_iff, or_iff_left hne]
    · intro other
      show other ∈ s.ready ↔ _
      rw [h.ready_iff]
      refine ⟨fun ⟨hp, hn⟩ => ⟨.inl hp, hn⟩, fun ⟨hp, hn⟩ => ⟨hp.resolve_right ?_, hn⟩⟩
      rintro rfl
      omega

/-- A ready name is taken out. -/
theorem take (h : Counts count pool s) {name : String} (hready : name ∈ s.ready)
    (emitted : List String) :
    Counts count (fun other => pool other ∧ other ≠ name)
      { s with ready := s.ready.erase name, emitted := emitted } where
  waiting_iff := by
    intro other n
    show s.waiting[other]? = some n ↔ _
    rw [h.waiting_iff, and_assoc]
    refine and_congr_right fun _ => ⟨fun hn => ⟨?_, hn⟩, And.right⟩
    rintro rfl
    exact hn.2 (hn.1.symm.trans (h.ready_iff.mp hready).2)
  ready_iff := by
    intro other
    show other ∈ s.ready.erase name ↔ _
    rw [mem_erase_set, h.ready_iff, and_left_comm, and_assoc]

/-- The count of a name with one need less. -/
def lowered (count : String → ℕ) (name other : String) : ℕ :=
  if other = name then count other - 1 else count other

theorem lowered_self (count : String → ℕ) (name : String) :
    lowered count name name = count name - 1 :=
  if_pos rfl

theorem lowered_ne {name other : String} (h : other ≠ name) :
    lowered count name other = count other :=
  if_neg h

/-- A name that waits for more than one need goes on waiting. -/
theorem lower (h : Counts count pool s) {name : String} {n : ℕ}
    (hwaits : s.waiting[name]? = some (n + 2)) :
    Counts (lowered count name) pool { s with waiting := s.waiting.insert name (n + 1) } := by
  obtain ⟨hp, hcount, -⟩ := h.waiting_iff.mp hwaits
  constructor
  · intro other k
    rw [getElem?_insert_map]
    split
    · next heq =>
      subst heq
      simp only [lowered_self, hcount, hp, true_and, Option.some.injEq]
      omega
    · next hne => rw [h.waiting_iff, lowered_ne hne]
  · intro other
    rw [h.ready_iff]
    by_cases heq : other = name
    · subst heq
      rw [lowered_self, hcount]
      omega
    · rw [lowered_ne heq]

/-- A name that waits for one need becomes ready. -/
theorem ripen (h : Counts count pool s) {name : String} (hwaits : s.waiting[name]? = some 1) :
    Counts (lowered count name) pool
      { s with waiting := s.waiting.erase name, ready := s.ready.insert name } := by
  obtain ⟨hp, hcount, -⟩ := h.waiting_iff.mp hwaits
  constructor
  · intro other k
    rw [getElem?_erase_map]
    split
    · next heq =>
      subst heq
      refine iff_of_false nofun fun hk => hk.2.2 ?_
      rw [← hk.2.1, lowered_self, hcount]
    · next hne => rw [h.waiting_iff, lowered_ne hne]
  · intro other
    rw [mem_insert_set, h.ready_iff]
    by_cases heq : other = name
    · subst heq
      simp [lowered_self, hp, hcount]
    · rw [lowered_ne heq, or_iff_right heq]

/-- A release takes one off the count of a name; one that is zero stays so. -/
theorem release (h : Counts count pool s) (name : String) :
    Counts (lowered count name) pool (s.release name) := by
  unfold Schedule.release
  split
  · next hnone =>
    refine h.congr (fun _ => Iff.rfl) fun other hp => ?_
    by_cases heq : other = name
    · subst heq
      -- A name of the pool that does not wait is ready.
      have hzero : count other = 0 := by
        by_contra hne
        rw [h.waiting_iff.mpr ⟨hp, rfl, hne⟩] at hnone
        cases hnone
      rw [lowered_self, hzero]
    · exact lowered_ne heq
  · next n hwaits => exact h.lower hwaits
  · next n hlast hwaits =>
    have hne := (h.waiting_iff.mp hwaits).2.2
    obtain _ | _ | k := n
    · exact absurd rfl hne
    · exact h.ripen hwaits
    · exact (hlast k rfl).elim

/-- Releases take off the count of a name how often they name it. -/
theorem foldl_release (h : Counts count pool s) (released : List String) :
    Counts (fun other => count other - released.count other) pool
      (released.foldl Schedule.release s) := by
  induction released generalizing count s with
  | nil => exact h
  | cons name rest ih =>
    refine (ih (h.release name)).congr (fun _ => Iff.rfl) fun other _ => ?_
    by_cases heq : other = name
    · subst heq
      rw [lowered_self, List.count_cons_self]
      omega
    · rw [lowered_ne heq, List.count_cons_of_ne fun hne => heq hne.symm]

end Counts

/-! ### Dependents -/

theorem count_foldl_dependents (name : String) (targets : List String)
    (dependents : Std.ExtTreeMap String (List String)) (need other : String) :
    ((targets.foldl (fun deps target => deps.insert target (name :: deps.getD target []))
        dependents).getD need []).count other =
      (dependents.getD need []).count other + if other = name then targets.count need else 0 := by
  induction targets generalizing dependents with
  | nil => simp
  | cons target rest ih =>
    rw [List.foldl_cons, ih, Std.ExtTreeMap.getD_eq_getD_getElem?, getElem?_insert_map]
    by_cases hneed : need = target
    · subst hneed
      rw [if_pos rfl, Option.getD_some, List.count_cons, List.count_cons_self]
      by_cases hother : other = name
      · subst hother
        simp only [beq_self_eq_true, if_true]
        omega
      · simp [hother, beq_false_of_ne (Ne.symm hother)]
    · rw [if_neg hneed, List.count_cons_of_ne fun heq => hneed heq.symm,
        Std.ExtTreeMap.getD_eq_getD_getElem?]

/-- A name is listed among the dependents of another one as often as it needs it. -/
theorem count_dependentsOf (needs : String → List String) (names : List String)
    (need other : String) :
    ((dependentsOf needs names).getD need []).count other =
      names.count other * (needs other).count need := by
  induction names with
  | nil => simp [dependentsOf]
  | cons name rest ih =>
    rw [dependentsOf, List.foldr_cons, count_foldl_dependents, ← dependentsOf, ih, List.count_cons]
    by_cases heq : other = name
    · subst heq
      simp only [if_true, beq_self_eq_true, Nat.add_mul, Nat.one_mul]
    · simp [heq, beq_false_of_ne (Ne.symm heq)]

/-! ### Schedules that count right -/

/-- The counts of a schedule are those of the needs that are not emitted yet. -/
def Counted (needs : String → List String) (names : List String) (s : Schedule) : Prop :=
  s.Counts (unmet needs s.emitted) fun name => name ∈ names ∧ name ∉ s.emitted

namespace Counted

theorem emitted_enter (s : Schedule) (name : String) (n : ℕ) :
    (s.enter name n).emitted = s.emitted := by
  cases n <;> rfl

theorem emitted_start (needs : String → List String) (names : List String) :
    (Schedule.start needs names).emitted = [] := by
  have hkeep : ∀ (rest : List String) (s : Schedule),
      (rest.foldl (fun s name => s.enter name (needs name).length) s).emitted = s.emitted := by
    intro rest
    induction rest with
    | nil => exact fun s => rfl
    | cons name rest ih => exact fun s => (ih _).trans (emitted_enter s name _)
  exact hkeep names {}

/-- At the start nothing is emitted, and every name counts all its needs. -/
theorem start (needs : String → List String) (names : List String) :
    Counted needs names (Schedule.start needs names) := by
  have henter : ∀ (rest : List String) (pool : String → Prop) (s : Schedule),
      s.Counts (unmet needs []) pool →
      (rest.foldl (fun s name => s.enter name (needs name).length) s).Counts (unmet needs [])
        fun name => pool name ∨ name ∈ rest := by
    intro rest
    induction rest with
    | nil => exact fun pool s h => h.congr (by simp) fun _ _ => rfl
    | cons name rest ih =>
      intro pool s h
      rw [List.foldl_cons, ← unmet_nil needs name]
      refine (ih _ _ (h.enter name)).congr (fun other => ?_) fun _ _ => rfl
      rw [List.mem_cons, or_assoc]
  rw [Counted, emitted_start]
  exact (henter names _ {} (Counts.of_empty _)).congr (by simp) fun _ _ => rfl

/-- The ready names are those whose needs have been emitted. -/
theorem ready_iff (h : Counted needs names s) {name : String} :
    name ∈ s.ready ↔ Ready needs names s.emitted name := by
  rw [Counts.ready_iff h, unmet_eq_zero, Ready]

theorem emitted_foldl_release (released : List String) (s : Schedule) :
    (released.foldl Schedule.release s).emitted = s.emitted := by
  induction released generalizing s with
  | nil => rfl
  | cons name rest ih =>
    rw [List.foldl_cons, ih, Schedule.release]
    split <;> rfl

theorem emitted_emit (dependents : Std.ExtTreeMap String (List String)) (s : Schedule)
    (name : String) : (s.emit dependents name).emitted = name :: s.emitted :=
  emitted_foldl_release _ _

/-- **An emission keeps the counts right.** -/
theorem emit (h : Counted needs names s) (hnodup : names.Nodup) {name : String}
    (hready : name ∈ s.ready) : Counted needs names (s.emit (dependentsOf needs names) name) := by
  have hnew : name ∉ s.emitted := (h.ready_iff.mp hready).1.2
  have htaken := Counts.take h hready (name :: s.emitted)
  rw [Counted, emitted_emit]
  refine (htaken.foldl_release _).congr (fun other => ?_) fun other hother => ?_
  · rw [List.mem_cons, not_or]
    tauto
  · rw [unmet_cons hnew, count_dependentsOf, List.count_eq_one_of_mem hnodup hother.1.1,
      Nat.one_mul]

/-- **No ready name is released.**  While an emission releases the names that need the emitted one, a
name whose turn comes is not ready, for it still has a need that is not met: so no count of zero ever
goes down. -/
theorem not_ready_of_release (h : Counted needs names s) (hnodup : names.Nodup) {name : String}
    (hready : name ∈ s.ready) {before after : List String} {other : String}
    (hsplit : (dependentsOf needs names).getD name [] = before ++ other :: after) :
    other ∉ (before.foldl Schedule.release
      { s with ready := s.ready.erase name, emitted := name :: s.emitted }).ready := by
  have hreleased := (Counts.take h hready (name :: s.emitted)).foldl_release before
  rw [hreleased.ready_iff]
  rintro ⟨⟨⟨hname, -⟩, -⟩, hzero⟩
  have hnew : name ∉ s.emitted := (h.ready_iff.mp hready).1.2
  have hneeded : (needs other).count name ≤ unmet needs s.emitted other :=
    count_le_countP_not_emitted hnew (needs other)
  have htotal : (before ++ other :: after).count other = (needs other).count name := by
    rw [← hsplit, count_dependentsOf, List.count_eq_one_of_mem hnodup hname, Nat.one_mul]
  rw [List.count_append, List.count_cons_self] at htotal
  omega

end Counted

/-! ### Emissions -/

/-- Names that follow on those that are done: each is the least one ready, and after the last of them
no name is ready. -/
def Greedy (needs : String → List String) (names : List String) : List String → List String → Prop
  | done, [] => ∀ name ∈ names, ¬Ready needs names done name
  | done, name :: rest =>
    (Ready needs names done name ∧ ∀ other ∈ names, Ready needs names done other → name ≤ other) ∧
      Greedy needs names (name :: done) rest

instance decidableGreedy (needs : String → List String) (names : List String) :
    ∀ done order, Decidable (Greedy needs names done order)
  | done, [] => inferInstanceAs (Decidable (∀ name ∈ names, ¬Ready needs names done name))
  | done, name :: rest =>
    have := decidableGreedy needs names (name :: done) rest
    inferInstanceAs (Decidable ((_ ∧ ∀ other ∈ names, _ → name ≤ other) ∧ _))

namespace Greedy

variable {done order : List String}

/-- What is ready is not less than the next name. -/
theorem head_le {name other : String} (h : Greedy needs names done (name :: order))
    (hready : Ready needs names done other) : name ≤ other :=
  h.1.2 other hready.1.1 hready

/-- Such names are determined by those that are done. -/
theorem eq (h : Greedy needs names done order) {order' : List String}
    (h' : Greedy needs names done order') : order = order' := by
  induction order generalizing done order' with
  | nil =>
    cases order' with
    | nil => rfl
    | cons name rest => exact absurd h'.1.1 (h name h'.1.1.1.1)
  | cons name rest ih =>
    cases order' with
    | nil => exact absurd h.1.1 (h' name h.1.1.1.1)
    | cons other rest' =>
      obtain rfl : name = other := le_antisymm (h.head_le h'.1.1) (h'.head_le h.1.1)
      rw [ih h.2 h'.2]

end Greedy

theorem min?_le {elements : Std.ExtTreeSet String} {least name : String}
    (hleast : elements.min? = some least) (hname : name ∈ elements) : least ≤ name := by
  have h := Std.ExtTreeSet.min?_le_of_mem hname (Option.get_of_eq_some _ hleast)
  rw [Ordering.isLE_iff_ne_gt] at h
  exact not_lt.mp fun hlt => h (compare_gt_iff_gt.mpr hlt)

/-- **Run lemma.**  Emissions keep the counts right, however many there are. -/
theorem Counted.after (h : Counted needs names s) (hnodup : names.Nodup) (n : ℕ) :
    Counted needs names (s.after (dependentsOf needs names) n) := by
  induction n generalizing s with
  | zero => exact h
  | succ n ih =>
    unfold Schedule.after
    split
    · exact h
    · next name hmin => exact ih (h.emit hnodup (Std.ExtTreeSet.min?_mem hmin))

/-- A schedule that is run to its end emits the least ready name at any time. -/
theorem Counted.exists_greedy (h : Counted needs names s) (hnodup : names.Nodup) (n : ℕ)
    (hn : s.remaining ≤ n) :
    ∃ rest, (s.after (dependentsOf needs names) n).order = s.order ++ rest ∧
      Greedy needs names s.emitted rest := by
  have hend : ∀ {s : Schedule}, Counted needs names s → s.ready.min? = none →
      ∃ rest, s.order = s.order ++ rest ∧ Greedy needs names s.emitted rest := by
    intro s h hnone
    refine ⟨[], (List.append_nil _).symm, fun name _ hready => ?_⟩
    rw [← h.ready_iff, Std.ExtTreeSet.min?_eq_none_iff.mp hnone] at hready
    exact Std.ExtTreeSet.not_mem_empty hready
  induction n generalizing s with
  | zero => exact hend h (ready_after_eq_none (dependentsOf needs names) 0 s hn)
  | succ n ih =>
    unfold Schedule.after
    split
    · next hnone => exact hend h hnone
    · next name hmin =>
      have hready : name ∈ s.ready := Std.ExtTreeSet.min?_mem hmin
      have hlt := remaining_emit_lt (dependentsOf needs names)
        (Std.ExtTreeSet.contains_iff_mem.mpr hready)
      obtain ⟨rest, horder, hgreedy⟩ := ih (h.emit hnodup hready) (by omega)
      rw [Counted.emitted_emit] at hgreedy
      refine ⟨name :: rest, ?_, ⟨h.ready_iff.mp hready, fun other _ ho => ?_⟩, hgreedy⟩
      · rw [horder, order, Counted.emitted_emit, List.reverse_cons, List.append_assoc, order]
        rfl
      · exact min?_le hmin (h.ready_iff.mpr ho)

/-! ### The finished schedule -/

section OfNeeds

variable (needs) (hnodup : names.Nodup)

include hnodup

theorem counted_ofNeeds : Counted needs names (ofNeeds needs names) ∧
    Greedy needs names [] (ofNeeds needs names).order := by
  have hstart := Counted.start needs names
  obtain ⟨rest, horder, hgreedy⟩ :=
    hstart.exists_greedy hnodup _ (remaining_start_le needs names)
  rw [Counted.emitted_start] at hgreedy
  have hempty : (start needs names).order = [] := by
    rw [order, Counted.emitted_start, List.reverse_nil]
  rw [hempty, List.nil_append] at horder
  exact ⟨hstart.after hnodup _, by rwa [ofNeeds, horder]⟩

/-- **No count goes below zero.**  Whatever a schedule releases on its way, it is not a ready name. -/
theorem not_ready_of_release (n : ℕ) {name : String}
    (hmin : ((start needs names).after (dependentsOf needs names) n).ready.min? = some name)
    {before after : List String} {other : String}
    (hsplit : (dependentsOf needs names).getD name [] = before ++ other :: after) :
    let s := (start needs names).after (dependentsOf needs names) n
    other ∉ (before.foldl release
      { s with ready := s.ready.erase name, emitted := name :: s.emitted }).ready :=
  ((Counted.start needs names).after hnodup n).not_ready_of_release hnodup
    (Std.ExtTreeSet.min?_mem hmin) hsplit

/-- **Emission in order.**  A finished schedule has emitted the least ready name at any time. -/
theorem greedy_order : Greedy needs names [] (ofNeeds needs names).order :=
  (counted_ofNeeds needs hnodup).2

/-- **What is left over.**  A finished schedule leaves over the names that are not emitted, each with
the number of its needs that are not. -/
theorem waiting_ofNeeds {name : String} {n : ℕ} :
    (ofNeeds needs names).waiting[name]? = some n ↔
      (name ∈ names ∧ name ∉ (ofNeeds needs names).order) ∧
        unmet needs (ofNeeds needs names).order name = n := by
  have hcounted := (counted_ofNeeds needs hnodup).1
  have hmem : ∀ other, other ∈ (ofNeeds needs names).order ↔ other ∈ (ofNeeds needs names).emitted :=
    fun other => List.mem_reverse
  have hunmet : unmet needs (ofNeeds needs names).order name =
      unmet needs (ofNeeds needs names).emitted name :=
    List.countP_congr fun need _ => by simp [hmem]
  rw [Counts.waiting_iff hcounted, hmem, hunmet]
  refine and_congr_right fun hleft => and_iff_left_of_imp ?_
  rintro rfl hzero
  exact not_mem_ready_ofNeeds needs names name (Counts.ready_iff hcounted |>.mpr ⟨hleft, hzero⟩)

/-- A name that is left over needs another one that is not emitted either. -/
theorem exists_need_of_not_mem_order {name : String} (hname : name ∈ names)
    (hleft : name ∉ (ofNeeds needs names).order) :
    ∃ need ∈ needs name, need ∉ (ofNeeds needs names).order := by
  by_contra hnone
  push Not at hnone
  have hwaits := (waiting_ofNeeds needs hnodup).mpr ⟨⟨hname, hleft⟩, unmet_eq_zero.mpr hnone⟩
  exact ((counted_ofNeeds needs hnodup).1.waiting_iff.mp hwaits).2.2 rfl

end OfNeeds

end EntityProjection.Schedule
