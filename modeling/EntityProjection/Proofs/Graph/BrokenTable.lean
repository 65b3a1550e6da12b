import Mathlib.Algebra.GroupWithZero.Nat
import Mathlib.Data.Finset.Card
import Mathlib.Data.List.Sort
import EntityProjection.Proofs.Graph.Breaking
import EntityProjection.Proofs.Preliminaries
import EntityProjection.Proofs.Text.ByteOrder

/-!
# Broken relations as a table

The broken relations are a finite set of pairs.  They can be kept as a table by owner, with the set of
targets of each owner that has any.  A run of insertions tells of each pair whether it is new, in the
set and in the table alike, and what there is in the end depends on the inserted pairs alone: not on
their order, and not on how often each of them is inserted.

* `insertAll`: a run of insertions, and `insertAll_simulates`: two runs in step;
* `Precedes` and `BrokenEdges.toList_ascending`: the pairs of the set in order;
* `BrokenTable` and `BrokenTable.Agrees`: the table, and that it breaks the same relations as a set,
  with a target for every owner; an insertion keeps this;
* `BrokenTable.Agrees.toList_eq`, `byOwner_eq`, `size_eq` and `unique`: the table lists, groups and
  counts the same pairs, and is the only one that does;
* `insertions_form_set`: what a run of insertions leads to.
-/

namespace EntityProjection

/-! ### Runs of insertions -/

section Runs

variable {σ τ : Type}

/-- Inserts pairs one after the other: what each insertion tells, and what there is in the end. -/
def insertAll (insert : σ → String → String → Bool × σ) (state : σ) :
    List (String × String) → List Bool × σ
  | [] => ([], state)
  | pair :: pairs =>
    let step := insert state pair.1 pair.2
    let rest := insertAll insert step.2 pairs
    (step.1 :: rest.1, rest.2)

variable {insert : σ → String → String → Bool × σ} {insert' : τ → String → String → Bool × τ}

theorem length_insertAll (state : σ) (pairs : List (String × String)) :
    (insertAll insert state pairs).1.length = pairs.length := by
  induction pairs generalizing state with
  | nil => rfl
  | cons pair pairs ih => exact congrArg (· + 1) (ih _)

/-- An insertion in a run tells what it tells after the insertions before it. -/
theorem getElem?_insertAll (state : σ) (before after : List (String × String))
    (pair : String × String) :
    (insertAll insert state (before ++ pair :: after)).1[before.length]? =
      some (insert (insertAll insert state before).2 pair.1 pair.2).1 := by
  induction before generalizing state with
  | nil => rfl
  | cons first before ih => exact ih _

/-- **Runs in step.** If related states stay related by an insertion that tells the same of both, then
they do so by a run of insertions. -/
theorem insertAll_simulates (Related : σ → τ → Prop)
    (hstep : ∀ s t a b, Related s t →
      (insert' t a b).1 = (insert s a b).1 ∧ Related (insert s a b).2 (insert' t a b).2)
    {s : σ} {t : τ} (h : Related s t) (pairs : List (String × String)) :
    (insertAll insert' t pairs).1 = (insertAll insert s pairs).1 ∧
      Related (insertAll insert s pairs).2 (insertAll insert' t pairs).2 := by
  induction pairs generalizing s t with
  | nil => exact ⟨rfl, h⟩
  | cons pair pairs ih =>
    obtain ⟨htold, hnext⟩ := hstep s t pair.1 pair.2 h
    obtain ⟨hanswers, hlast⟩ := ih hnext
    exact ⟨congrArg₂ List.cons htold hanswers, hlast⟩

end Runs

/-! ### Pairs in order -/

/-- A pair stands before another by its owner, and by its target if both have the same owner. -/
def Precedes (e f : String × String) : Prop :=
  e.1 < f.1 ∨ e.1 = f.1 ∧ e.2 < f.2

theorem edgeOrder_eq_lt {e f : String × String} : edgeOrder e f = .lt ↔ Precedes e f := by
  simp only [edgeOrder, compareLex, compareOn, Precedes, Ordering.then_eq_lt, compare_lt_iff_lt,
    Std.LawfulEqCmp.compare_eq_iff_eq]

theorem not_precedes_self (e : String × String) : ¬Precedes e e := by
  simp [Precedes]

theorem Precedes.asymm {e f : String × String} (h : Precedes e f) : ¬Precedes f e := by
  rintro (hback | ⟨heq, hback⟩)
  · obtain hlt | ⟨heq, -⟩ := h
    · exact lt_asymm hlt hback
    · exact hback.ne heq.symm
  · obtain hlt | ⟨-, hlt⟩ := h
    · exact hlt.ne heq.symm
    · exact lt_asymm hlt hback

instance : Std.Irrefl Precedes := ⟨not_precedes_self⟩

instance : Std.Antisymm Precedes := ⟨fun _ _ h hback => absurd hback h.asymm⟩

namespace BrokenEdges

theorem toList_ascending (broken : BrokenEdges) : broken.toList.Pairwise Precedes :=
  Std.ExtTreeSet.ordered_toList.imp edgeOrder_eq_lt.mp

theorem insert_fst_eq_true {broken : BrokenEdges} {a b : String} :
    (broken.insert a b).1 = true ↔ ¬broken.isBroken a b = true := by
  simp [insert]

theorem insertAll_eq_ofList (pairs : List (String × String)) :
    (insertAll insert empty pairs).2 = ofList pairs := by
  rw [ofList]
  generalize empty = broken
  induction pairs generalizing broken with
  | nil => rfl
  | cons pair pairs ih => exact ih _

section Inserted

variable {pairs : List (String × String)}

/-- After a run of insertions the inserted pairs are broken. -/
theorem isBroken_insertAll {a b : String} :
    (insertAll insert empty pairs).2.isBroken a b = true ↔ (a, b) ∈ pairs := by
  rw [insertAll_eq_ofList, isBroken_ofList]

theorem mem_toList_insertAll {e : String × String} :
    e ∈ (insertAll insert empty pairs).2.toList ↔ e ∈ pairs :=
  mem_toList.trans isBroken_insertAll

/-- After a run of insertions as many pairs are broken as were inserted, repetitions not counted. -/
theorem size_insertAll : (insertAll insert empty pairs).2.size = pairs.toFinset.card := by
  have hset : (insertAll insert empty pairs).2.toList.toFinset = pairs.toFinset :=
    Finset.ext fun e => by rw [List.mem_toFinset, List.mem_toFinset, mem_toList_insertAll]
  rw [← hset, List.toFinset_card_of_nodup (nodup_toList _), length_toList]

/-- Runs that insert the same pairs end in the same set. -/
theorem insertAll_congr {pairs' : List (String × String)} (h : ∀ e, e ∈ pairs' ↔ e ∈ pairs) :
    (insertAll insert empty pairs').2 = (insertAll insert empty pairs).2 :=
  ext_isBroken fun a b => by rw [isBroken_insertAll, isBroken_insertAll, h]

end Inserted

end BrokenEdges

/-! ### Pairs by owner -/

/-- Enters a pair before groups of targets, in the first group if that is the group of its owner. -/
def enterPair (pair : String × String) (groups : List (String × List String)) :
    List (String × List String) :=
  match groups with
  | (owner, targets) :: rest =>
    if owner == pair.1 then (owner, pair.2 :: targets) :: rest
    else (pair.1, [pair.2]) :: groups
  | [] => [(pair.1, [pair.2])]

theorem BrokenEdges.byOwner_eq (broken : BrokenEdges) :
    broken.byOwner = broken.toList.foldr enterPair [] :=
  rfl

/-- Pairs with one owner make up one group, if the groups after it are of other owners. -/
theorem foldr_enterPair_group {owner target : String} {targets : List String}
    {rest : List (String × List String)} (h : ∀ group ∈ rest, owner ≠ group.1) :
    ((target :: targets).map fun target => (owner, target)).foldr enterPair rest =
      (owner, target :: targets) :: rest := by
  induction targets generalizing target with
  | nil =>
    cases rest with
    | nil => rfl
    | cons group rest =>
      have hne : ¬(group.1 == owner) = true := fun heq =>
        h group List.mem_cons_self (eq_of_beq heq).symm
      exact if_neg hne
  | cons next targets ih =>
    rw [List.map_cons, List.foldr_cons, ih]
    exact if_pos (beq_self_eq_true owner)

/-- **Groups are recovered from their pairs,** if each has a target and no two have the same owner. -/
theorem foldr_enterPair {groups : List (String × List String)}
    (hne : ∀ group ∈ groups, group.2 ≠ [])
    (howners : groups.Pairwise fun group group' => group.1 ≠ group'.1) :
    (groups.flatMap fun group => group.2.map fun target => (group.1, target)).foldr enterPair [] =
      groups := by
  induction groups with
  | nil => rfl
  | cons group groups ih =>
    obtain ⟨owner, targets⟩ := group
    rw [List.forall_mem_cons] at hne
    rw [List.pairwise_cons] at howners
    obtain ⟨target, targets, rfl⟩ := List.exists_cons_of_ne_nil hne.1
    -- The later groups are complete before the first pair of this owner is entered.
    rw [List.flatMap_cons, List.foldr_append, ih hne.2 howners.2, foldr_enterPair_group howners.1]

/-! ### The table -/

/-- The targets of broken relations by owner. -/
structure BrokenTable where
  entries : Std.ExtTreeMap String (Std.ExtTreeSet String) := ∅

namespace BrokenTable

/-- A table without entries. -/
def empty : BrokenTable := {}

/-- Enters a target for an owner, who gets an entry if there is none, and tells whether it is new. -/
def insert (table : BrokenTable) (source target : String) : Bool × BrokenTable :=
  let targets := table.entries.getD source ∅
  (!targets.contains target, ⟨table.entries.insert source (targets.insert target)⟩)

/-- Whether a target is entered for an owner. -/
def isBroken (table : BrokenTable) (source target : String) : Bool :=
  table.entries[source]?.any fun targets => targets.contains target

/-- The entries, owners and targets in ascending order. -/
def byOwner (table : BrokenTable) : List (String × List String) :=
  table.entries.toList.map fun entry => (entry.1, entry.2.toList)

/-- The pairs entry by entry. -/
def toList (table : BrokenTable) : List (String × String) :=
  table.byOwner.flatMap fun entry => entry.2.map fun target => (entry.1, target)

/-- The number of targets in all entries. -/
def size (table : BrokenTable) : ℕ :=
  (table.entries.toList.map fun entry => entry.2.size).sum

/-- Whether nothing is entered. -/
def isEmpty (table : BrokenTable) : Bool :=
  table.size == 0

theorem isBroken_iff {table : BrokenTable} {a b : String} :
    table.isBroken a b = true ↔ ∃ targets, table.entries[a]? = some targets ∧ b ∈ targets := by
  simp only [isBroken, Option.any_eq_true, Std.ExtTreeSet.contains_iff_mem]

/-- An owner without an entry has no targets. -/
theorem isBroken_eq_getD (table : BrokenTable) (a b : String) :
    table.isBroken a b = (table.entries.getD a ∅).contains b := by
  rw [isBroken, Std.ExtTreeMap.getD_eq_getD_getElem?]
  cases table.entries[a]? with
  | none => exact Std.ExtTreeSet.contains_empty.symm
  | some targets => rfl

theorem insert_fst (table : BrokenTable) (a b : String) :
    (table.insert a b).1 = !table.isBroken a b := by
  rw [isBroken_eq_getD]
  rfl

theorem isBroken_insert {table : BrokenTable} {a b source target : String} :
    (table.insert a b).2.isBroken source target = true ↔
      (a, b) = (source, target) ∨ table.isBroken source target = true := by
  simp only [isBroken_eq_getD, insert, Std.ExtTreeMap.getD_insert,
    Std.LawfulEqCmp.compare_eq_iff_eq, Prod.mk.injEq, Std.ExtTreeSet.contains_iff_mem]
  by_cases hsource : a = source
  · rw [if_pos hsource, mem_insert_set, hsource, eq_comm (a := b)]
    exact or_congr_left (iff_and_self.mpr fun _ => rfl)
  · rw [if_neg hsource]
    exact (or_iff_right fun h => hsource h.1).symm

theorem mem_toList {table : BrokenTable} {a b : String} :
    (a, b) ∈ table.toList ↔ table.isBroken a b = true := by
  simp only [toList, byOwner, List.mem_flatMap, List.mem_map, isBroken_iff, Prod.exists,
    Prod.mk.injEq, Std.ExtTreeMap.mem_toList_iff_getElem?_eq_some]
  constructor
  · rintro ⟨_, _, ⟨owner, targets, hentry, rfl, rfl⟩, target, htarget, rfl, rfl⟩
    exact ⟨targets, hentry, Std.ExtTreeSet.mem_toList.mp htarget⟩
  · rintro ⟨targets, hentry, hmem⟩
    exact ⟨a, _, ⟨a, targets, hentry, rfl, rfl⟩, b, Std.ExtTreeSet.mem_toList.mpr hmem, rfl, rfl⟩

/-- Owners ascend, and so do the targets of each of them. -/
theorem toList_ascending (table : BrokenTable) : table.toList.Pairwise Precedes := by
  rw [toList, byOwner, List.flatMap_map, List.pairwise_flatMap]
  constructor
  · intro entry _
    refine List.pairwise_map.mpr (Std.ExtTreeSet.ordered_toList.imp fun h => .inr ⟨rfl, ?_⟩)
    exact compare_lt_iff_lt.mp h
  · refine Std.ExtTreeMap.ordered_keys_toList.imp fun {entry entry'} h e he f hf => ?_
    obtain ⟨_, -, rfl⟩ := List.mem_map.mp he
    obtain ⟨_, -, rfl⟩ := List.mem_map.mp hf
    exact .inl (compare_lt_iff_lt.mp h)

theorem length_toList (table : BrokenTable) : table.toList.length = table.size := by
  simp only [toList, byOwner, size, List.length_flatMap, List.map_map, Function.comp_def,
    List.length_map, Std.ExtTreeSet.length_toList]

/-! ### The table and the set -/

/-- A table breaks the same relations as a set, and every owner in it has a target. -/
structure Agrees (table : BrokenTable) (broken : BrokenEdges) : Prop where
  exists_mem : ∀ (owner : String) (targets : Std.ExtTreeSet String),
    table.entries[owner]? = some targets → ∃ target, target ∈ targets
  isBroken_eq : ∀ source target, table.isBroken source target = broken.isBroken source target

theorem agrees_empty : empty.Agrees .empty where
  exists_mem owner targets h := by
    rw [empty, Std.ExtTreeMap.getElem?_empty] at h
    cases h
  isBroken_eq source target := by
    rw [BrokenEdges.isBroken_empty, isBroken_eq_getD, empty, Std.ExtTreeMap.getD_empty]
    exact Std.ExtTreeSet.contains_empty

namespace Agrees

variable {table table' : BrokenTable} {broken : BrokenEdges}

/-- **An insertion** tells the same of a table and of a set that agree, and they still agree after
it. -/
theorem insert (h : table.Agrees broken) (a b : String) :
    (table.insert a b).1 = (broken.insert a b).1 ∧
      (table.insert a b).2.Agrees (broken.insert a b).2 := by
  refine ⟨?_, fun owner targets hentry => ?_, fun source target => Bool.eq_iff_iff.mpr ?_⟩
  · rw [insert_fst, h.isBroken_eq]
    rfl
  · simp only [BrokenTable.insert, getElem?_insert_map] at hentry
    split at hentry
    · cases hentry
      exact ⟨b, mem_insert_set.mpr (.inl rfl)⟩
    · exact h.exists_mem owner targets hentry
  · rw [isBroken_insert, h.isBroken_eq]
    exact (BrokenEdges.isBroken_add (e := (a, b))).symm

/-- The set lists the pairs of the table in the same order. -/
theorem toList_eq (h : table.Agrees broken) : table.toList = broken.toList := by
  refine table.toList_ascending.eq_of_mem_iff broken.toList_ascending fun e => ?_
  rw [mem_toList, h.isBroken_eq, BrokenEdges.mem_toList]

/-- The pairs of the set by owner are the entries of the table. -/
theorem byOwner_eq (h : table.Agrees broken) : table.byOwner = broken.byOwner := by
  rw [broken.byOwner_eq, ← h.toList_eq, toList, foldr_enterPair]
  · intro group hgroup hnil
    obtain ⟨⟨owner, targets⟩, hentry, rfl⟩ := List.mem_map.mp hgroup
    obtain ⟨target, htarget⟩ := h.exists_mem owner targets
      (Std.ExtTreeMap.mem_toList_iff_getElem?_eq_some.mp hentry)
    exact List.ne_nil_of_mem (Std.ExtTreeSet.mem_toList.mpr htarget) hnil
  · refine List.pairwise_map.mpr (Std.ExtTreeMap.ordered_keys_toList.imp fun hlt => ?_)
    exact (compare_lt_iff_lt.mp hlt).ne

theorem size_eq (h : table.Agrees broken) : table.size = broken.size := by
  rw [← table.length_toList, h.toList_eq, broken.length_toList]

/-- What a table has for an owner is in every table that agrees with the same set. -/
theorem getElem?_eq_some (h : table.Agrees broken) (h' : table'.Agrees broken) {owner : String}
    {targets : Std.ExtTreeSet String} (hentry : table.entries[owner]? = some targets) :
    table'.entries[owner]? = some targets := by
  -- The entry has a target, and so the other table cannot be without an entry for this owner.
  obtain ⟨target, htarget⟩ := h.exists_mem owner targets hentry
  have hsame : ∀ target, table'.isBroken owner target = table.isBroken owner target :=
    fun target => (h'.isBroken_eq owner target).trans (h.isBroken_eq owner target).symm
  have hbroken : table'.isBroken owner target = true :=
    (hsame target).trans (isBroken_iff.mpr ⟨targets, hentry, htarget⟩)
  obtain ⟨targets', hentry', -⟩ := isBroken_iff.mp hbroken
  have hmem : ∀ target, target ∈ targets' ↔ target ∈ targets := fun target => by
    have heq := hsame target
    rw [isBroken, isBroken, hentry, hentry', Option.any_some, Option.any_some] at heq
    rw [← Std.ExtTreeSet.contains_iff_mem, heq, Std.ExtTreeSet.contains_iff_mem]
  rw [hentry', Std.ExtTreeSet.ext_mem hmem]

/-- **Tables that agree with the same set are equal.** -/
theorem unique (h : table.Agrees broken) (h' : table'.Agrees broken) : table = table' := by
  obtain ⟨entries⟩ := table
  obtain ⟨entries'⟩ := table'
  congr 1
  exact Std.ExtTreeMap.ext_getElem? fun owner => Option.ext fun targets =>
    ⟨h.getElem?_eq_some h', h'.getElem?_eq_some h⟩

end Agrees

end BrokenTable

/-! ### What insertions lead to -/

/-- A set and a table agree after the same run of insertions, each of which tells the same of both. -/
theorem BrokenTable.agrees_insertAll (pairs : List (String × String)) :
    (insertAll insert empty pairs).1 = (insertAll BrokenEdges.insert .empty pairs).1 ∧
      (insertAll insert empty pairs).2.Agrees (insertAll BrokenEdges.insert .empty pairs).2 :=
  insertAll_simulates (fun broken table => Agrees table broken) (fun _ _ a b h => h.insert a b)
    agrees_empty pairs

/-- **Insertions make a finite set.** An insertion in a run tells that its pair is new just if the pair
is not among those inserted before it.  In the end just the inserted pairs are broken; they are listed
once each, ascending in the order of their bytes, by owner and then by target; as many are counted as
there are different ones, and none just if nothing was inserted.  A table by owner tells and lists the
same, in groups as well, and counts the same; and another run with the same pairs, in any order and
however often each, ends in the same set and the same table. -/
theorem insertions_form_set (pairs : List (String × String)) :
    let (answers, broken) := insertAll BrokenEdges.insert .empty pairs
    let (told, table) := insertAll BrokenTable.insert .empty pairs
    (answers.length = pairs.length ∧
      ∀ before pair after, pairs = before ++ pair :: after →
        (answers[before.length]? = some true ↔ pair ∉ before)) ∧
    (∀ a b, broken.isBroken a b = true ↔ (a, b) ∈ pairs) ∧
    ((∀ e, e ∈ broken.toList ↔ e ∈ pairs) ∧
      broken.toList.Pairwise fun e f =>
        nameBytes e.1 < nameBytes f.1 ∨ e.1 = f.1 ∧ nameBytes e.2 < nameBytes f.2) ∧
    (broken.size = pairs.toFinset.card ∧ (broken.isEmpty = true ↔ pairs = [])) ∧
    (told = answers ∧ (∀ a b, table.isBroken a b = broken.isBroken a b) ∧
      table.toList = broken.toList ∧ table.byOwner = broken.byOwner ∧
      table.size = broken.size ∧ table.isEmpty = broken.isEmpty) ∧
    ∀ pairs' : List (String × String), (∀ e, e ∈ pairs' ↔ e ∈ pairs) →
      (insertAll BrokenEdges.insert .empty pairs').2 = broken ∧
        (insertAll BrokenTable.insert .empty pairs').2 = table := by
  obtain ⟨htold, hagrees⟩ := BrokenTable.agrees_insertAll pairs
  refine ⟨⟨length_insertAll _ _, ?_⟩, fun _ _ => BrokenEdges.isBroken_insertAll,
    ⟨fun _ => BrokenEdges.mem_toList_insertAll, ?_⟩, ⟨BrokenEdges.size_insertAll, ?_⟩,
    ⟨htold, hagrees.isBroken_eq, hagrees.toList_eq, hagrees.byOwner_eq, hagrees.size_eq, ?_⟩, ?_⟩
  · rintro before pair after rfl
    rw [getElem?_insertAll, Option.some.injEq, BrokenEdges.insert_fst_eq_true,
      BrokenEdges.isBroken_insertAll]
  · refine (BrokenEdges.toList_ascending _).imp ?_
    exact Or.imp nameBytes_lt (And.imp_right nameBytes_lt)
  · rw [BrokenEdges.isEmpty, BrokenEdges.size_insertAll, beq_iff_eq, Finset.card_eq_zero,
      List.toFinset_eq_empty_iff]
  · rw [BrokenTable.isEmpty, hagrees.size_eq, BrokenEdges.isEmpty]
  · intro pairs' hsame
    have heq := BrokenEdges.insertAll_congr hsame
    exact ⟨heq, (heq ▸ (BrokenTable.agrees_insertAll pairs').2).unique hagrees⟩

-- Only the pair that is inserted a second time is not new.
example :
    let (told, table) := insertAll BrokenTable.insert .empty
      [("Post", "User"), ("Comment", "Post"), ("Post", "User"), ("Comment", "Comment")]
    told = [true, true, false, true] ∧
      table.byOwner = [("Comment", ["Comment", "Post"]), ("Post", ["User"])] := by
  decide +kernel

end EntityProjection
