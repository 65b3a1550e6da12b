import Mathlib.Data.List.Basic
import EntityProjection.Declaration.Render
import EntityProjection.Proofs.Declaration.Members

/-!
# Type expressions without nested unions

A union has no text of its own, only that of its alternatives with bars between them.  So a union
inside of a union reads like its alternatives, a union of one alternative like that alternative,
and a reference like a source type of the same text.  The flat form of a type expression settles
these three matters, and no other one.

* `TypeExpr.ind`: the induction over the parts of a type expression;
* `TypeExpr.alternatives` and `TypeExpr.flatten`: the flat form;
* `TypeExpr.flatten_splice`, `TypeExpr.flatten_singleton`: what has the same flat form;
* `TypeExpr.WellNamed`: identifiers at all places but member names, and no empty lists where a text
  would have a gap;
* `TypeExpr.IsFlat.flatten_eq` and `TypeExpr.WellNamed.isFlat_flatten`: what is flat stays as it is,
  and flat forms are flat.
-/

namespace EntityProjection

namespace TypeExpr

/-- **Induction over the parts of a type expression.** -/
@[elab_as_elim, induction_eliminator]
theorem ind {motive : TypeExpr → Prop} (verbatim : ∀ text, motive (.verbatim text))
    (reference : ∀ name, motive (.reference name))
    (object : ∀ members, (∀ m ∈ members, motive m.type) → motive (.object members))
    (generic : ∀ name args, (∀ arg ∈ args, motive arg) → motive (.generic name args))
    (array : ∀ element, motive element → motive (.array element))
    (union : ∀ ts, (∀ t ∈ ts, motive t) → motive (.union ts)) (t : TypeExpr) : motive t :=
  @TypeExpr.rec motive (fun members => ∀ m ∈ members, motive m.type)
    (fun ts => ∀ t ∈ ts, motive t) (fun m => motive m.type)
    verbatim reference object generic array union (fun _ h => nomatch h)
    (fun _ _ hm hms => List.forall_mem_cons.mpr ⟨hm, hms⟩) (fun _ h => nomatch h)
    (fun _ _ ht hts => List.forall_mem_cons.mpr ⟨ht, hts⟩) (fun _ _ _ h => h) t

/-! ### The flat form -/

/-- The union of some alternatives; of one alternative there is no union. -/
def ofAlternatives : List TypeExpr → TypeExpr
  | [t] => t
  | ts => .union ts

mutual

/-- The alternatives of a type expression in flat form: of a union those of its members, and else
the expression alone.  References are taken for source types. -/
def alternatives : TypeExpr → List TypeExpr
  | .verbatim text => [.verbatim text]
  | .reference name => [.verbatim name]
  | .object members => [.object (flattenMembers members)]
  | .generic name args => [.generic name (flattenTypes args)]
  | .array element => [.array (ofAlternatives element.alternatives)]
  | .union ts => alternativesOfTypes ts

/-- The alternatives of type expressions one after the other. -/
def alternativesOfTypes : List TypeExpr → List TypeExpr
  | [] => []
  | t :: ts => t.alternatives ++ alternativesOfTypes ts

/-- The flat forms of type expressions one by one. -/
def flattenTypes : List TypeExpr → List TypeExpr
  | [] => []
  | t :: ts => ofAlternatives t.alternatives :: flattenTypes ts

/-- The flat forms of members one by one. -/
def flattenMembers : List (Member TypeExpr) → List (Member TypeExpr)
  | [] => []
  | m :: ms => flattenMember m :: flattenMembers ms

/-- The flat form of a member. -/
def flattenMember : Member TypeExpr → Member TypeExpr
  | ⟨name, optional, type⟩ => ⟨name, optional, ofAlternatives type.alternatives⟩

end

/-- The flat form of a type expression: no union stands directly in a union, no union has one
alternative, and there are no references. -/
def flatten (t : TypeExpr) : TypeExpr :=
  ofAlternatives t.alternatives

theorem ofAlternatives_eq_of_not_isUnion {ts : List TypeExpr} {t : TypeExpr}
    (h : ofAlternatives ts = t) (ht : t.isUnion = false) : ts = [t] := by
  unfold ofAlternatives at h
  split at h
  · rw [h]
  · subst h
    cases ht

@[simp]
theorem alternatives_verbatim (text : String) :
    (verbatim text).alternatives = [.verbatim text] := by
  rw [alternatives]

@[simp]
theorem alternatives_reference (name : String) :
    (reference name).alternatives = [.verbatim name] := by
  rw [alternatives]

theorem flattenMember_eq (m : Member TypeExpr) :
    flattenMember m = ⟨m.name, m.optional, m.type.flatten⟩ := by
  rw [flattenMember, flatten]

theorem flattenMembers_eq_map (members : List (Member TypeExpr)) :
    flattenMembers members = members.map flattenMember := by
  induction members with
  | nil => rw [flattenMembers, List.map_nil]
  | cons m ms ih => rw [flattenMembers, ih, List.map_cons]

theorem flattenTypes_eq_map (ts : List TypeExpr) : flattenTypes ts = ts.map flatten := by
  induction ts with
  | nil => rw [flattenTypes, List.map_nil]
  | cons t ts ih => rw [flattenTypes, ih, List.map_cons, flatten]

@[simp]
theorem alternatives_object (members : List (Member TypeExpr)) :
    (object members).alternatives = [.object (members.map flattenMember)] := by
  rw [alternatives, flattenMembers_eq_map]

@[simp]
theorem alternatives_generic (name : String) (args : List TypeExpr) :
    (generic name args).alternatives = [.generic name (args.map flatten)] := by
  rw [alternatives, flattenTypes_eq_map]

@[simp]
theorem alternatives_array (element : TypeExpr) :
    (array element).alternatives = [.array element.flatten] := by
  rw [alternatives, flatten]

@[simp]
theorem alternatives_union (ts : List TypeExpr) :
    (union ts).alternatives = ts.flatMap alternatives := by
  rw [alternatives]
  induction ts with
  | nil => rw [alternativesOfTypes, List.flatMap_nil]
  | cons t ts ih => rw [alternativesOfTypes, ih, List.flatMap_cons]

/-- What is no union is the only one of its alternatives. -/
theorem alternatives_of_not_isUnion {t : TypeExpr} (h : t.isUnion = false) :
    t.alternatives = [t.flatten] := by
  cases t with
  | union ts => cases h
  | verbatim text => rw [flatten, alternatives_verbatim, ofAlternatives]
  | reference name => rw [flatten, alternatives_reference, ofAlternatives]
  | object members => rw [flatten, alternatives_object, ofAlternatives]
  | generic name args => rw [flatten, alternatives_generic, ofAlternatives]
  | array element => rw [flatten, alternatives_array, ofAlternatives]

/-- No alternative is a union. -/
theorem not_isUnion_of_mem_alternatives (t : TypeExpr) :
    ∀ a ∈ t.alternatives, a.isUnion = false := by
  induction t with
  | union ts ih =>
    rw [alternatives_union]
    intro a ha
    obtain ⟨t, ht, ha⟩ := List.mem_flatMap.mp ha
    exact ih t ht a ha
  | _ => simp [isUnion]

/-- A union of one alternative is flat as that alternative. -/
theorem flatten_singleton (t : TypeExpr) : (union [t]).flatten = t.flatten := by
  rw [flatten, alternatives_union, List.flatMap_singleton, flatten]

/-- A union directly in a union is flat as its alternatives in its place. -/
theorem flatten_splice (before ts after : List TypeExpr) :
    (union (before ++ .union ts :: after)).flatten = (union (before ++ ts ++ after)).flatten := by
  simp only [flatten, alternatives_union, List.flatMap_append, List.flatMap_cons, List.append_assoc]

/-! ### Well-named type expressions -/

/-- Whether the top of a type expression has its names and is not empty. -/
def isNamed : TypeExpr → Bool
  | .verbatim text => Text.isIdentifier text
  | .reference name => Text.isIdentifier name
  | .object _ => true
  | .generic name args => Text.isIdentifier name && !args.isEmpty
  | .array _ => true
  | .union ts => !ts.isEmpty

/-- All source types, references and generic types are named by identifiers, generic types have an
argument, and unions an alternative.  Members may have any names. -/
def WellNamed (t : TypeExpr) : Prop :=
  ∀ part : TypeExpr, part.Occurs t → part.isNamed = true

namespace WellNamed

theorem object_member {members : List (Member TypeExpr)} (h : (object members).WellNamed)
    {m : Member TypeExpr} (hm : m ∈ members) : m.type.WellNamed :=
  fun part hpart => h part (.object hm hpart)

theorem generic_arg {name : String} {args : List TypeExpr} (h : (generic name args).WellNamed)
    {arg : TypeExpr} (harg : arg ∈ args) : arg.WellNamed :=
  fun part hpart => h part (.generic harg hpart)

theorem array_element {element : TypeExpr} (h : (array element).WellNamed) : element.WellNamed :=
  fun part hpart => h part (.array hpart)

theorem union_alternative {ts : List TypeExpr} (h : (union ts).WellNamed) {t : TypeExpr}
    (ht : t ∈ ts) : t.WellNamed :=
  fun part hpart => h part (.union ht hpart)

/-- A generic type has a name and arguments. -/
theorem generic_named {name : String} {args : List TypeExpr} (h : (generic name args).WellNamed) :
    Text.isIdentifier name = true ∧ args ≠ [] := by
  have htop := h _ .here
  rw [isNamed, Bool.and_eq_true, Bool.not_eq_true', List.isEmpty_eq_false_iff] at htop
  exact htop

/-- A union has alternatives. -/
theorem union_ne_nil {ts : List TypeExpr} (h : (union ts).WellNamed) : ts ≠ [] := by
  have htop := h _ .here
  rwa [isNamed, Bool.not_eq_true', List.isEmpty_eq_false_iff] at htop

/-- A well-named type expression has an alternative. -/
theorem alternatives_ne_nil {t : TypeExpr} (h : t.WellNamed) : t.alternatives ≠ [] := by
  induction t with
  | union ts ih =>
    obtain ⟨t, ht⟩ := List.exists_mem_of_ne_nil ts h.union_ne_nil
    rw [alternatives_union, ne_eq, List.flatMap_eq_nil_iff, not_forall]
    exact ⟨t, fun hnil => ih t ht (h.union_alternative ht) (hnil ht)⟩
  | _ => simp

end WellNamed

/-! ### Flat type expressions -/

/-- Whether there is nothing to be settled at the top of a type expression. -/
def isSettled : TypeExpr → Bool
  | .reference _ => false
  | .union ts => 2 ≤ ts.length && ts.all fun t => !t.isUnion
  | _ => true

/-- Nothing is to be settled anywhere in a type expression. -/
def IsFlat (t : TypeExpr) : Prop :=
  ∀ part : TypeExpr, part.Occurs t → part.isSettled = true

/-- **Flat type expressions stay as they are.** -/
theorem IsFlat.flatten_eq {t : TypeExpr} (h : t.IsFlat) : t.flatten = t := by
  induction t with
  | verbatim text => rw [flatten, alternatives_verbatim, ofAlternatives]
  | reference name => exact absurd (h _ .here) Bool.false_ne_true
  | object members ih =>
    have hmembers : members.map flattenMember = members := by
      refine (List.map_congr_left fun m hm => ?_).trans (List.map_id members)
      rw [flattenMember_eq, ih m hm fun part hpart => h part (.object hm hpart)]
      rfl
    rw [flatten, alternatives_object, ofAlternatives, hmembers]
  | generic name args ih =>
    have hargs : args.map flatten = args := by
      refine (List.map_congr_left fun arg harg => ?_).trans (List.map_id args)
      exact ih arg harg fun part hpart => h part (.generic harg hpart)
    rw [flatten, alternatives_generic, ofAlternatives, hargs]
  | array element ih =>
    rw [flatten, alternatives_array, ofAlternatives, ih fun part hpart => h part (.array hpart)]
  | union ts ih =>
    have htop := h _ .here
    rw [isSettled, Bool.and_eq_true, List.all_eq_true, decide_eq_true_eq] at htop
    have halternatives : ts.flatMap alternatives = ts := by
      refine (List.flatMap_congr fun t ht => ?_).trans (List.flatMap_singleton' ts)
      have hunion : t.isUnion = false := by simpa using htop.2 t ht
      rw [alternatives_of_not_isUnion hunion, ih t ht fun part hpart => h part (.union ht hpart)]
    rw [flatten, alternatives_union, halternatives]
    match ts, htop.1 with
    | first :: second :: rest, _ => rfl

theorem isFlat_verbatim (text : String) : (verbatim text).IsFlat := by
  intro part hpart
  obtain rfl := occurs_verbatim.mp hpart
  rfl

/-- The union of flat alternatives that are no unions is flat. -/
theorem isFlat_ofAlternatives {ts : List TypeExpr} (hne : ts ≠ [])
    (hunion : ∀ t ∈ ts, t.isUnion = false) (h : ∀ t ∈ ts, t.IsFlat) :
    (ofAlternatives ts).IsFlat := by
  match ts, hne with
  | [t], _ => exact h t List.mem_cons_self
  | first :: second :: rest, _ =>
    intro part hpart
    obtain rfl | ⟨t, ht, hpart⟩ := occurs_union.mp hpart
    · simpa [isSettled] using hunion
    · exact h t ht part hpart

/-- The alternatives of a well-named type expression are flat. -/
theorem WellNamed.isFlat_alternatives {t : TypeExpr} (h : t.WellNamed) :
    ∀ a ∈ t.alternatives, a.IsFlat := by
  have hflatten : ∀ {t : TypeExpr}, t.WellNamed → (∀ a ∈ t.alternatives, a.IsFlat) →
      t.flatten.IsFlat := fun {t} ht =>
    isFlat_ofAlternatives ht.alternatives_ne_nil t.not_isUnion_of_mem_alternatives
  induction t with
  | verbatim text =>
    rw [alternatives_verbatim, List.forall_mem_singleton]
    exact isFlat_verbatim text
  | reference name =>
    rw [alternatives_reference, List.forall_mem_singleton]
    exact isFlat_verbatim name
  | object members ih =>
    rw [alternatives_object, List.forall_mem_singleton]
    intro part hpart
    obtain rfl | ⟨m', hm', hpart⟩ := occurs_object.mp hpart
    · rfl
    · obtain ⟨m, hm, rfl⟩ := List.mem_map.mp hm'
      rw [flattenMember_eq] at hpart
      exact hflatten (h.object_member hm) (ih m hm (h.object_member hm)) part hpart
  | generic name args ih =>
    rw [alternatives_generic, List.forall_mem_singleton]
    intro part hpart
    obtain rfl | ⟨arg', harg', hpart⟩ := occurs_generic.mp hpart
    · rfl
    · obtain ⟨arg, harg, rfl⟩ := List.mem_map.mp harg'
      exact hflatten (h.generic_arg harg) (ih arg harg (h.generic_arg harg)) part hpart
  | array element ih =>
    rw [alternatives_array, List.forall_mem_singleton]
    intro part hpart
    obtain rfl | hpart := occurs_array.mp hpart
    · rfl
    · exact hflatten h.array_element (ih h.array_element) part hpart
  | union ts ih =>
    rw [alternatives_union]
    intro a ha
    obtain ⟨t, ht, ha⟩ := List.mem_flatMap.mp ha
    exact ih t ht (h.union_alternative ht) a ha

/-- **The flat form of a well-named type expression is flat.** -/
theorem WellNamed.isFlat_flatten {t : TypeExpr} (h : t.WellNamed) : t.flatten.IsFlat :=
  isFlat_ofAlternatives h.alternatives_ne_nil t.not_isUnion_of_mem_alternatives
    h.isFlat_alternatives

end TypeExpr

end EntityProjection
