import Mathlib.Data.List.Forall2
import EntityProjection.Names

/-!
# Preliminaries

What proofs about all parts of the program rest on: how a computation that may fail succeeds, what
lies in finite sets and maps after an insertion or a removal, when names do not repeat, and what a
mark tells apart in a list.
-/

namespace EntityProjection

/-! ### Computations that may fail -/

/-- Two computations in a row succeed if the first one does and then the second one. -/
theorem bind_eq_ok {ε α β : Type} {x : Except ε α} {f : α → Except ε β} {b : β}
    (h : (x >>= f) = .ok b) : ∃ a, x = .ok a ∧ f a = .ok b := by
  cases x with
  | error err => cases h
  | ok a => exact ⟨a, rfl, h⟩

/-- Two computations in a row fail if the first one does, or if it succeeds and then the second one
fails. -/
theorem bind_eq_error_iff {ε α β : Type} {x : Except ε α} {f : α → Except ε β} {err : ε} :
    (x >>= f) = .error err ↔ x = .error err ∨ ∃ a, x = .ok a ∧ f a = .error err := by
  cases x with
  | error other =>
    refine ⟨fun h => .inl (by cases h; rfl), ?_⟩
    rintro (h | ⟨a, h, -⟩)
    · cases h
      rfl
    · cases h
  | ok a =>
    refine ⟨fun h => .inr ⟨a, rfl, h⟩, ?_⟩
    rintro (h | ⟨b, h, hb⟩)
    · cases h
    · cases h
      exact hb

/-- What is only made of the result of a computation is missing if the computation fails. -/
theorem bind_pure_eq_error_iff {ε α β : Type} {x : Except ε α} {f : α → β} {err : ε} :
    (x >>= fun a => pure (f a)) = .error err ↔ x = .error err := by
  rw [bind_eq_error_iff, or_iff_left]
  rintro ⟨a, -, h⟩
  cases h

theorem mapError_eq_ok {ε δ α : Type} {f : ε → δ} {result : Except ε α} {a : α} :
    result.mapError f = .ok a ↔ result = .ok a := by
  cases result with
  | error e => exact ⟨nofun, nofun⟩
  | ok b => simp only [Except.mapError, Except.ok.injEq]

theorem mapError_eq_error_iff {ε δ α : Type} {f : ε → δ} {result : Except ε α} {err : δ} :
    result.mapError f = .error err ↔ ∃ e, result = .error e ∧ err = f e := by
  cases result with
  | error e => simp only [Except.mapError, Except.error.injEq, exists_eq_left', eq_comm]
  | ok a => exact iff_of_false nofun fun ⟨_, h, _⟩ => nomatch h

/-- A check that throws is passed only if its condition fails. -/
theorem check_eq_ok {ε α β : Type} {c : Prop} [Decidable c] {err : ε} {f : α → Except ε β}
    {x : Except ε β} {b : β} (h : (if c then throw err >>= f else x) = .ok b) :
    ¬c ∧ x = .ok b := by
  by_cases hc : c
  · rw [if_pos hc] at h
    cases h
  · rw [if_neg hc] at h
    exact ⟨hc, h⟩

/-- A computation succeeds if it has a result. -/
theorem exists_eq_ok_of_isSome {ε α : Type} {x : Except ε α} (h : x.toOption.isSome = true) :
    ∃ a, x = .ok a := by
  cases x with
  | error err => cases h
  | ok a => exact ⟨a, rfl⟩

/-- A computation succeeds just if it does not fail. -/
theorem exists_eq_ok_iff {ε α : Type} {x : Except ε α} :
    (∃ a, x = .ok a) ↔ ∀ err, x ≠ .error err := by
  cases x with
  | error err => exact iff_of_false nofun fun h => h err rfl
  | ok a => exact iff_of_true ⟨a, rfl⟩ nofun

/-- A computation for every element of a list succeeds with the results for the elements. -/
theorem mapM_eq_ok_iff {ε α β : Type} {f : α → Except ε β} {xs : List α} {ys : List β} :
    xs.mapM f = .ok ys ↔ List.Forall₂ (fun x y => f x = .ok y) xs ys := by
  induction xs generalizing ys with
  | nil =>
    rw [List.mapM_nil, List.forall₂_nil_left_iff]
    exact ⟨fun h => by cases h; rfl, fun h => by rw [h]; rfl⟩
  | cons x xs ih =>
    rw [List.mapM_cons, List.forall₂_cons_left_iff]
    constructor
    · intro h
      obtain ⟨y, hy, h⟩ := bind_eq_ok h
      obtain ⟨rest, hrest, h⟩ := bind_eq_ok h
      cases h
      exact ⟨y, rest, hy, ih.mp hrest, rfl⟩
    · rintro ⟨y, rest, hy, hrest, rfl⟩
      rw [hy, ih.mpr hrest]
      rfl

/-- A computation for every element of a list fails at the first element for which it fails. -/
theorem mapM_eq_error_iff {ε α β : Type} {f : α → Except ε β} {xs : List α} {err : ε} :
    xs.mapM f = .error err ↔ ∃ before x after, xs = before ++ x :: after ∧
      (∀ y ∈ before, ∃ z, f y = .ok z) ∧ f x = .error err := by
  induction xs with
  | nil =>
    rw [List.mapM_nil]
    refine iff_of_false nofun ?_
    rintro ⟨before, x, after, h, -⟩
    cases before <;> cases h
  | cons x xs ih =>
    rw [List.mapM_cons, bind_eq_error_iff]
    constructor
    · rintro (hx | ⟨z, hz, h⟩)
      · exact ⟨[], x, xs, rfl, nofun, hx⟩
      · obtain hrest | ⟨zs, -, h⟩ := bind_eq_error_iff.mp h
        · obtain ⟨before, y, after, rfl, hbefore, hy⟩ := ih.mp hrest
          exact ⟨x :: before, y, after, rfl, List.forall_mem_cons.mpr ⟨⟨z, hz⟩, hbefore⟩, hy⟩
        · cases h
    · rintro ⟨before, y, after, h, hbefore, hy⟩
      cases before with
      | nil =>
        obtain ⟨rfl, -⟩ := List.cons.inj h
        exact .inl hy
      | cons first before =>
        obtain ⟨rfl, rfl⟩ := List.cons.inj h
        obtain ⟨⟨z, hz⟩, hbefore⟩ := List.forall_mem_cons.mp hbefore
        refine .inr ⟨z, hz, ?_⟩
        rw [ih.mpr ⟨before, y, after, rfl, hbefore, hy⟩]
        rfl

/-- A computation for every element of a list succeeds if it does so for each element. -/
theorem exists_mapM_eq_ok_iff {ε α β : Type} {f : α → Except ε β} {xs : List α} :
    (∃ ys, xs.mapM f = .ok ys) ↔ ∀ x ∈ xs, ∃ y, f x = .ok y := by
  constructor
  · rintro ⟨ys, h⟩
    rw [mapM_eq_ok_iff] at h
    induction h with
    | nil => exact nofun
    | cons hx _ ih => exact List.forall_mem_cons.mpr ⟨⟨_, hx⟩, ih⟩
  · refine fun h => exists_eq_ok_iff.mpr fun err herr => ?_
    obtain ⟨before, x, after, rfl, -, hx⟩ := mapM_eq_error_iff.mp herr
    obtain ⟨y, hy⟩ := h x (List.mem_append_right _ List.mem_cons_self)
    rw [hx] at hy
    cases hy

/-! ### Finite sets and maps -/

section Membership

variable {α β : Type} {cmp : α → α → Ordering} [Std.TransCmp cmp] [Std.LawfulEqCmp cmp]

theorem mem_insert_set {elements : Std.ExtTreeSet α cmp} {a b : α} :
    b ∈ elements.insert a ↔ b = a ∨ b ∈ elements := by
  rw [Std.ExtTreeSet.mem_insert, Std.LawfulEqCmp.compare_eq_iff_eq, eq_comm]

theorem mem_erase_set {elements : Std.ExtTreeSet α cmp} {a b : α} :
    b ∈ elements.erase a ↔ b ≠ a ∧ b ∈ elements := by
  rw [Std.ExtTreeSet.mem_erase, ne_eq, Std.LawfulEqCmp.compare_eq_iff_eq, ne_comm]

theorem mem_singleton_set {a b : α} : b ∈ Std.ExtTreeSet.ofList [a] cmp ↔ b = a := by
  rw [Std.ExtTreeSet.ofList_singleton, mem_insert_set]
  exact or_iff_left Std.ExtTreeSet.not_mem_empty

theorem mem_filter_set {elements : Std.ExtTreeSet α cmp} {keep : α → Bool} {a : α} :
    a ∈ elements.filter keep ↔ a ∈ elements ∧ keep a = true := by
  simp only [Std.ExtTreeSet.mem_filter, Std.ExtTreeSet.get_eq, exists_prop]

theorem filter_empty_set (keep : α → Bool) : (∅ : Std.ExtTreeSet α cmp).filter keep = ∅ :=
  Std.ExtTreeSet.ext_mem fun _ => mem_filter_set.trans (and_iff_left_of_imp fun h =>
    absurd h Std.ExtTreeSet.not_mem_empty)

theorem filter_insert_set {keep : α → Bool} {a : α} (h : keep a = true)
    (elements : Std.ExtTreeSet α cmp) :
    (elements.insert a).filter keep = (elements.filter keep).insert a := by
  refine Std.ExtTreeSet.ext_mem fun b => ?_
  rw [mem_filter_set, mem_insert_set, mem_insert_set, mem_filter_set, or_and_right]
  refine or_congr_left (and_iff_left_of_imp ?_)
  rintro rfl
  exact h

theorem filter_insert_set_of_not {keep : α → Bool} {a : α} (h : ¬keep a = true)
    (elements : Std.ExtTreeSet α cmp) : (elements.insert a).filter keep = elements.filter keep := by
  refine Std.ExtTreeSet.ext_mem fun b => ?_
  rw [mem_filter_set, mem_insert_set, mem_filter_set, or_and_right]
  refine or_iff_right ?_
  rintro ⟨rfl, hb⟩
  exact h hb

theorem filter_erase_set (keep : α → Bool) (a : α) (elements : Std.ExtTreeSet α cmp) :
    (elements.erase a).filter keep = (elements.filter keep).erase a := by
  refine Std.ExtTreeSet.ext_mem fun b => ?_
  rw [mem_filter_set, mem_erase_set, mem_erase_set, mem_filter_set, and_assoc]

theorem erase_filter_set_of_not {keep : α → Bool} {a : α} (h : ¬keep a = true)
    (elements : Std.ExtTreeSet α cmp) : (elements.filter keep).erase a = elements.filter keep := by
  refine Std.ExtTreeSet.ext_mem fun b => ?_
  rw [mem_erase_set, mem_filter_set, and_iff_right_iff_imp]
  rintro ⟨-, hb⟩ rfl
  exact h hb

theorem mem_insert_map {entries : Std.ExtTreeMap α β cmp} {a b : α} {value : β} :
    b ∈ entries.insert a value ↔ b = a ∨ b ∈ entries := by
  rw [Std.ExtTreeMap.mem_insert, Std.LawfulEqCmp.compare_eq_iff_eq, eq_comm]

theorem mem_erase_map {entries : Std.ExtTreeMap α β cmp} {a b : α} :
    b ∈ entries.erase a ↔ b ≠ a ∧ b ∈ entries := by
  rw [Std.ExtTreeMap.mem_erase, ne_eq, Std.LawfulEqCmp.compare_eq_iff_eq, ne_comm]

theorem getElem?_insert_map [DecidableEq α] {entries : Std.ExtTreeMap α β cmp} {a b : α}
    {value : β} : (entries.insert a value)[b]? = if b = a then some value else entries[b]? := by
  simp only [Std.ExtTreeMap.getElem?_insert, Std.LawfulEqCmp.compare_eq_iff_eq, eq_comm (a := a)]

theorem getElem?_erase_map [DecidableEq α] {entries : Std.ExtTreeMap α β cmp} {a b : α} :
    (entries.erase a)[b]? = if b = a then none else entries[b]? := by
  simp only [Std.ExtTreeMap.getElem?_erase, Std.LawfulEqCmp.compare_eq_iff_eq, eq_comm (a := a)]

end Membership

/-! ### Names that must not repeat -/

/-- Where no name repeats, an entry is the only one of its name. -/
theorem filter_eq_of_nodup_map {α : Type} {name : α → String} {entries : List α}
    (h : (entries.map name).Nodup) {a : α} (ha : a ∈ entries) :
    entries.filter (fun b => name b == name a) = [a] := by
  induction entries with
  | nil => cases ha
  | cons first rest ih =>
    rw [List.map_cons, List.nodup_cons] at h
    obtain rfl | ha := List.mem_cons.mp ha
    · have hrest : rest.filter (fun b => name b == name a) = [] := by
        refine List.filter_eq_nil_iff.mpr fun b hb hname => h.1 ?_
        exact eq_of_beq hname ▸ List.mem_map_of_mem hb
      simp only [List.filter_cons, beq_self_eq_true, if_true, hrest]
    · have hne : ¬(name first == name a) = true := by
        intro hname
        exact h.1 (eq_of_beq hname ▸ List.mem_map_of_mem ha)
      simp only [List.filter_cons, if_neg hne, ih h.2 ha]

/-- No name is found taken if the names are new and pairwise distinct. -/
theorem firstTaken?_eq_none {taken : Std.ExtTreeSet String} {names : List String} :
    firstTaken? taken names = none ↔ names.Nodup ∧ ∀ name ∈ names, name ∉ taken := by
  induction names generalizing taken with
  | nil => exact ⟨fun _ => ⟨List.nodup_nil, fun _ h => absurd h List.not_mem_nil⟩, fun _ => rfl⟩
  | cons name names ih =>
    rw [firstTaken?, List.nodup_cons, List.forall_mem_cons]
    split
    · next htaken =>
      exact ⟨fun h => (Option.some_ne_none _ h).elim,
        fun h => absurd (Std.ExtTreeSet.contains_iff_mem.mp htaken) h.2.1⟩
    · next hnew =>
      rw [Std.ExtTreeSet.contains_iff_mem] at hnew
      simp only [ih, mem_insert_set, not_or]
      constructor
      · rintro ⟨hnodup, hrest⟩
        exact ⟨⟨fun hmem => (hrest name hmem).1 rfl, hnodup⟩, hnew,
          fun other ho => (hrest other ho).2⟩
      · rintro ⟨⟨hmem, hnodup⟩, -, hrest⟩
        exact ⟨hnodup, fun other ho => ⟨fun heq => hmem (heq ▸ ho), hrest other ho⟩⟩

/-- The first name is found that is taken already or stands in the list before. -/
theorem firstTaken?_eq_some_iff {taken : Std.ExtTreeSet String} {names : List String}
    {found : String} : firstTaken? taken names = some found ↔
      ∃ before after, names = before ++ found :: after ∧ before.Nodup ∧
        (∀ name ∈ before, name ∉ taken) ∧ (found ∈ taken ∨ found ∈ before) := by
  induction names generalizing taken with
  | nil => exact iff_of_false nofun fun ⟨before, after, h, _⟩ => absurd h (by simp)
  | cons name names ih =>
    rw [firstTaken?]
    split
    · next htaken =>
      rw [Std.ExtTreeSet.contains_iff_mem] at htaken
      constructor
      · rintro ⟨⟩
        exact ⟨[], names, rfl, List.nodup_nil, nofun, .inl htaken⟩
      · rintro ⟨_ | ⟨first, before⟩, after, hnames, -, huntaken, -⟩
        · rw [(List.cons.inj hnames).1]
        · obtain rfl := (List.cons.inj hnames).1
          exact absurd htaken (huntaken _ List.mem_cons_self)
    · next hnew =>
      rw [Std.ExtTreeSet.contains_iff_mem] at hnew
      rw [ih]
      simp only [mem_insert_set, not_or]
      constructor
      · rintro ⟨before, after, rfl, hnodup, huntaken, hfound⟩
        refine ⟨name :: before, after, rfl, List.nodup_cons.mpr ⟨?_, hnodup⟩,
          List.forall_mem_cons.mpr ⟨hnew, fun other ho => (huntaken other ho).2⟩, ?_⟩
        · exact fun hmem => (huntaken name hmem).1 rfl
        · rw [List.mem_cons, ← or_assoc, or_comm (a := found ∈ taken)]
          exact hfound
      · rintro ⟨_ | ⟨first, before⟩, after, hnames, hnodup, huntaken, hfound⟩
        · obtain rfl := (List.cons.inj hnames).1
          exact absurd (hfound.resolve_right List.not_mem_nil) hnew
        · obtain ⟨rfl, rfl⟩ := List.cons.inj hnames
          rw [List.nodup_cons] at hnodup
          rw [List.mem_cons, ← or_assoc, or_comm (a := found ∈ taken)] at hfound
          refine ⟨before, after, rfl, hnodup.2, fun other ho => ⟨?_, ?_⟩, hfound⟩
          · exact fun heq => hnodup.1 (heq ▸ ho)
          · exact huntaken other (List.mem_cons_of_mem _ ho)

/-- The name that is found taken is in the list, and was taken or is in the list twice. -/
theorem mem_of_firstTaken?_eq_some {taken : Std.ExtTreeSet String} {names : List String}
    {found : String} (h : firstTaken? taken names = some found) :
    found ∈ names ∧ (found ∈ taken ∨ 2 ≤ names.count found) := by
  obtain ⟨before, after, rfl, -, -, hfound⟩ := firstTaken?_eq_some_iff.mp h
  refine ⟨List.mem_append_right _ List.mem_cons_self, hfound.imp_right fun hmem => ?_⟩
  have hpos := List.count_pos_iff.mpr hmem
  rw [List.count_append, List.count_cons_self]
  omega

/-! ### Lists with a mark -/

/-- The first place of a mark tells what stands before it from what follows. -/
theorem append_cons_inj {α : Type} {mark : α} {before before' after after' : List α}
    (h : mark ∉ before) (h' : mark ∉ before')
    (heq : before ++ mark :: after = before' ++ mark :: after') :
    before = before' ∧ after = after' := by
  induction before generalizing before' with
  | nil =>
    cases before' with
    | nil => exact ⟨rfl, (List.cons.inj heq).2⟩
    | cons first' rest' =>
      obtain ⟨rfl, -⟩ := List.cons.inj heq
      exact absurd List.mem_cons_self h'
  | cons first rest ih =>
    cases before' with
    | nil =>
      obtain ⟨rfl, -⟩ := List.cons.inj heq
      exact absurd List.mem_cons_self h
    | cons first' rest' =>
      obtain ⟨rfl, hrest⟩ := List.cons.inj heq
      rw [List.mem_cons, not_or] at h h'
      obtain ⟨rfl, hafter⟩ := ih h.2 h'.2 hrest
      exact ⟨rfl, hafter⟩

end EntityProjection
