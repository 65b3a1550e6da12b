import EntityProjection.Declaration.Projection

/-!
# What the members of a declaration hold

The types that the projection gives to members, seen by what occurs in them.  A reference occurs in
the type of a field only if the field is a relation whose target has a key, and then it names the
partial declaration of that target; the only generic type is the collection.

* `TypeExpr.Occurs`: a type expression stands somewhere in another one;
* `Multiplicity.typeOf`: the type of a relation that holds instances of an element type;
* `Projection.element_cases`, `Projection.fieldType_keyed`: what a relation to a known entity can
  hold;
* `Projection.reference_occurs_fieldType` and `Projection.generic_occurs_fieldType`: the references
  and the generic types in the type of a field;
* `Projection.mem_declarations`, `Projection.member_eq` and `Projection.exists_member`: the
  declarations of an entity have its fields as members.
-/

namespace EntityProjection

namespace TypeExpr

/-! ### Occurrences -/

/-- A type expression is another one or stands somewhere in it. -/
inductive Occurs (part : TypeExpr) : TypeExpr → Prop
  | here : Occurs part part
  | object {members : List (Member TypeExpr)} {m : Member TypeExpr} (hm : m ∈ members)
      (h : Occurs part m.type) : Occurs part (.object members)
  | generic {name : String} {args : List TypeExpr} {arg : TypeExpr} (harg : arg ∈ args)
      (h : Occurs part arg) : Occurs part (.generic name args)
  | array {element : TypeExpr} (h : Occurs part element) : Occurs part (.array element)
  | union {alternatives : List TypeExpr} {alternative : TypeExpr}
      (halternative : alternative ∈ alternatives) (h : Occurs part alternative) :
      Occurs part (.union alternatives)

variable {part : TypeExpr}

@[simp]
theorem occurs_verbatim {text : String} :
    part.Occurs (.verbatim text) ↔ part = .verbatim text := by
  constructor
  · intro h
    cases h with
    | here => rfl
  · rintro rfl
    exact .here

@[simp]
theorem occurs_reference {name : String} :
    part.Occurs (.reference name) ↔ part = .reference name := by
  constructor
  · intro h
    cases h with
    | here => rfl
  · rintro rfl
    exact .here

@[simp]
theorem occurs_object {members : List (Member TypeExpr)} :
    part.Occurs (.object members) ↔
      part = .object members ∨ ∃ m ∈ members, part.Occurs m.type := by
  constructor
  · intro h
    cases h with
    | here => exact .inl rfl
    | object hm h => exact .inr ⟨_, hm, h⟩
  · rintro (rfl | ⟨m, hm, h⟩)
    · exact .here
    · exact .object hm h

@[simp]
theorem occurs_generic {name : String} {args : List TypeExpr} :
    part.Occurs (.generic name args) ↔
      part = .generic name args ∨ ∃ arg ∈ args, part.Occurs arg := by
  constructor
  · intro h
    cases h with
    | here => exact .inl rfl
    | generic harg h => exact .inr ⟨_, harg, h⟩
  · rintro (rfl | ⟨arg, harg, h⟩)
    · exact .here
    · exact .generic harg h

@[simp]
theorem occurs_array {element : TypeExpr} :
    part.Occurs (.array element) ↔ part = .array element ∨ part.Occurs element := by
  constructor
  · intro h
    cases h with
    | here => exact .inl rfl
    | array h => exact .inr h
  · rintro (rfl | h)
    · exact .here
    · exact .array h

@[simp]
theorem occurs_union {alternatives : List TypeExpr} :
    part.Occurs (.union alternatives) ↔
      part = .union alternatives ∨ ∃ alternative ∈ alternatives, part.Occurs alternative := by
  constructor
  · intro h
    cases h with
    | here => exact .inl rfl
    | union halternative h => exact .inr ⟨_, halternative, h⟩
  · rintro (rfl | ⟨alternative, halternative, h⟩)
    · exact .here
    · exact .union halternative h

end TypeExpr

/-! ### The types of relations -/

namespace Multiplicity

/-- The type of a relation that holds one or many instances of an element type. -/
def typeOf (collectionType : String) (element : TypeExpr) : Multiplicity → TypeExpr
  | .one => element
  | .many => .union [.generic collectionType [element], .array element]

variable {multiplicity : Multiplicity} {collectionType : String} {element element' : TypeExpr}

theorem typeOf_inj :
    multiplicity.typeOf collectionType element = multiplicity.typeOf collectionType element' ↔
      element = element' := by
  cases multiplicity <;> simp [typeOf]

@[simp]
theorem reference_occurs_typeOf {n : String} :
    (TypeExpr.reference n).Occurs (multiplicity.typeOf collectionType element) ↔
      (TypeExpr.reference n).Occurs element := by
  cases multiplicity <;> simp [typeOf]

end Multiplicity

namespace Projection

variable {p : Projection}

/-! ### Elements -/

/-- What the element of a relation can be: an empty object if the target has no key, and else a
reference if the relation is unbroken and partial types are used, or the key stub if not. -/
theorem element_cases (p : Projection) (owner target : String) :
    (p.keys.key? target = none ∧ p.element owner target = .object []) ∨
    ∃ key, p.keys.key? target = some key ∧
      (p.options.usePartialTypes = true ∧ p.broken.isBroken owner target = false ∧
          p.element owner target = .reference (p.options.partialName target) ∨
        ¬(p.options.usePartialTypes = true ∧ p.broken.isBroken owner target = false) ∧
          p.element owner target = key.stub) := by
  unfold element
  cases p.keys.key? target with
  | none => exact .inl ⟨rfl, rfl⟩
  | some key =>
    refine .inr ⟨key, rfl, ?_⟩
    cases p.options.usePartialTypes <;> cases p.broken.isBroken owner target <;> simp

/-- An element is the empty object just if its target has no key. -/
theorem element_eq_empty_iff {owner target : String} :
    p.element owner target = .object [] ↔ p.keys.key? target = none := by
  obtain ⟨hkey, helement⟩ | ⟨key, hkey, ⟨-, -, helement⟩ | ⟨-, helement⟩⟩ :=
    p.element_cases owner target
  all_goals simp [hkey, helement, PrimaryKey.stub]

/-- An element is no source type, however many instances of it a relation holds. -/
theorem typeOf_element_ne_verbatim (multiplicity : Multiplicity) {owner target text : String} :
    multiplicity.typeOf p.options.collectionType (p.element owner target) ≠ .verbatim text := by
  cases multiplicity with
  | many => exact nofun
  | one =>
    obtain ⟨-, helement⟩ | ⟨key, -, ⟨-, -, helement⟩ | ⟨-, helement⟩⟩ :=
      p.element_cases owner target
    all_goals simp [Multiplicity.typeOf, helement, PrimaryKey.stub]

/-- An element refers to a declaration only if its target has a key, the relation is unbroken and
partial types are used; what it refers to is the partial declaration of the target. -/
theorem reference_occurs_element {owner target n : String} :
    (TypeExpr.reference n).Occurs (p.element owner target) ↔
      (∃ key, p.keys.key? target = some key) ∧ p.options.usePartialTypes = true ∧
        p.broken.isBroken owner target = false ∧ n = p.options.partialName target := by
  obtain ⟨hkey, helement⟩ | ⟨key, hkey, ⟨huse, hbroken, helement⟩ | ⟨hstub, helement⟩⟩ :=
    p.element_cases owner target
  · simp [hkey, helement]
  · simp [hkey, helement, huse, hbroken]
  · refine ⟨fun h => ?_, fun h => absurd ⟨h.2.1, h.2.2.1⟩ hstub⟩
    simp [helement, PrimaryKey.stub] at h

/-- No generic type occurs in an element. -/
theorem not_generic_occurs_element {owner target n : String} {args : List TypeExpr} :
    ¬(TypeExpr.generic n args).Occurs (p.element owner target) := by
  obtain ⟨-, helement⟩ | ⟨key, -, ⟨-, -, helement⟩ | ⟨-, helement⟩⟩ := p.element_cases owner target
  all_goals simp [helement, PrimaryKey.stub]

/-! ### The types of fields -/

section Relation

variable {f : Field} {multiplicity : Multiplicity} {target owner : String}
  (hkind : f.kind = .relation multiplicity target)

include hkind

/-- A relation to a known entity holds instances of its element. -/
theorem fieldType_known (hknown : p.keys.isKnown target = true) :
    p.fieldType owner f =
      multiplicity.typeOf p.options.collectionType (p.element owner target) := by
  simp only [fieldType, hkind, hknown, if_true]
  cases multiplicity <;> rfl

/-- A relation to a known entity with a key holds references to its partial declaration if it is
unbroken and partial types are used, and otherwise objects with nothing but the key. -/
theorem fieldType_keyed (hknown : p.keys.isKnown target = true) {key : PrimaryKey}
    (hkey : p.keys.key? target = some key) :
    ∃ element, p.fieldType owner f = multiplicity.typeOf p.options.collectionType element ∧
      (p.options.usePartialTypes = true ∧ p.broken.isBroken owner target = false ∧
          element = .reference (p.options.partialName target) ∨
        (p.options.usePartialTypes = false ∨ p.broken.isBroken owner target = true) ∧
          element = .object [⟨key.name, false, .verbatim key.type⟩]) := by
  refine ⟨_, fieldType_known hkind hknown, ?_⟩
  obtain ⟨hnone, -⟩ | ⟨key', hkey', hreference | ⟨hstub, helement⟩⟩ := p.element_cases owner target
  · rw [hkey] at hnone
    cases hnone
  · exact .inl hreference
  · obtain rfl : key = key' := Option.some.inj (hkey.symm.trans hkey')
    refine .inr ⟨?_, helement⟩
    rwa [Classical.not_and_iff_not_or_not, Bool.not_eq_true, Bool.not_eq_false] at hstub

/-- A relation to an unknown entity has the type that is declared for it, if any is. -/
theorem fieldType_unknown (hknown : ¬p.keys.isKnown target = true) :
    p.fieldType owner f = .verbatim (f.declared.getD opaqueType) := by
  simp only [fieldType, hkind, if_neg hknown]

/-- A relation has a source type just if its target is unknown. -/
theorem fieldType_eq_verbatim_iff {text : String} :
    p.fieldType owner f = .verbatim text ↔
      ¬p.keys.isKnown target = true ∧ text = f.declared.getD opaqueType := by
  by_cases hknown : p.keys.isKnown target = true
  · rw [fieldType_known hkind hknown]
    exact ⟨fun h => absurd h (typeOf_element_ne_verbatim multiplicity),
      fun h => absurd hknown h.1⟩
  · rw [fieldType_unknown hkind hknown, TypeExpr.verbatim.injEq, eq_comm]
    exact (and_iff_right hknown).symm

/-- A relation holds instances of the empty object just if its target is known and has no key. -/
theorem fieldType_eq_typeOf_empty_iff :
    p.fieldType owner f = multiplicity.typeOf p.options.collectionType (.object []) ↔
      p.keys.isKnown target = true ∧ p.keys.key? target = none := by
  by_cases hknown : p.keys.isKnown target = true
  · rw [fieldType_known hkind hknown, Multiplicity.typeOf_inj, element_eq_empty_iff]
    exact (and_iff_right hknown).symm
  · rw [fieldType_unknown hkind hknown]
    refine ⟨fun h => ?_, fun h => absurd h.1 hknown⟩
    cases multiplicity <;> cases h

end Relation

/-- The references in the type of a field are those in the element of a relation to a known entity. -/
theorem reference_occurs_fieldType {owner n : String} {f : Field} :
    (TypeExpr.reference n).Occurs (p.fieldType owner f) ↔
      ∃ multiplicity target, f.kind = .relation multiplicity target ∧
        p.keys.isKnown target = true ∧ (TypeExpr.reference n).Occurs (p.element owner target) := by
  constructor
  · intro h
    cases hkind : f.kind with
    | scalar type => simp [fieldType, hkind] at h
    | relation multiplicity target =>
      by_cases hknown : p.keys.isKnown target = true
      · rw [fieldType_known hkind hknown, Multiplicity.reference_occurs_typeOf] at h
        exact ⟨multiplicity, target, rfl, hknown, h⟩
      · rw [fieldType_unknown hkind hknown, TypeExpr.occurs_verbatim] at h
        cases h
  · rintro ⟨multiplicity, target, hkind, hknown, h⟩
    rw [fieldType_known hkind hknown]
    exact Multiplicity.reference_occurs_typeOf.mpr h

/-- A generic type in the type of a field is the collection. -/
theorem generic_occurs_fieldType {owner n : String} {args : List TypeExpr} {f : Field}
    (h : (TypeExpr.generic n args).Occurs (p.fieldType owner f)) :
    n = p.options.collectionType := by
  cases hkind : f.kind with
  | scalar type => simp [fieldType, hkind] at h
  | relation multiplicity target =>
    by_cases hknown : p.keys.isKnown target = true
    · rw [fieldType_known hkind hknown] at h
      cases multiplicity with
      | one => exact absurd h not_generic_occurs_element
      | many =>
        simp only [Multiplicity.typeOf, TypeExpr.occurs_union, TypeExpr.occurs_generic,
          TypeExpr.occurs_array, List.mem_cons, List.not_mem_nil, or_false, reduceCtorEq, false_or,
          exists_eq_or_imp, exists_eq_left, not_generic_occurs_element, TypeExpr.generic.injEq] at h
        exact h.1
    · rw [fieldType_unknown hkind hknown, TypeExpr.occurs_verbatim] at h
      cases h

/-! ### The declarations of an entity -/

/-- The declarations of an entity are its main one and, with a key, its partial one. -/
theorem mem_declarations {e : Entity} {d : Declaration} :
    d ∈ p.declarations e ↔ d = p.main e ∨ ∃ key, e.key = some key ∧ d = p.companion e key := by
  unfold declarations
  cases e.key with
  | none => simp
  | some key => simp

/-- The declarations of an entity depend on the suffix and on the types of its fields only. -/
theorem declarations_congr {p' : Projection} {e : Entity}
    (hsuffix : p.options.partialSuffix = p'.options.partialSuffix)
    (h : ∀ f ∈ e.fields, p.fieldType e.name f = p'.fieldType e.name f) :
    p.declarations e = p'.declarations e := by
  have hmain : p.main e = p'.main e := by
    simp only [main, Declaration.mk.injEq, true_and]
    exact List.map_congr_left fun f hf => by rw [h f hf]
  have hcompanion : ∀ key, p.companion e key = p'.companion e key := by
    intro key
    simp only [companion, Options.partialName, hsuffix, Declaration.mk.injEq, true_and]
    exact List.map_congr_left fun f hf => by rw [h f hf]
  simp only [declarations, hmain, hcompanion]

theorem declaration_entity {e : Entity} {d : Declaration} (h : d ∈ p.declarations e) :
    d.entity = e.name := by
  obtain rfl | ⟨key, -, rfl⟩ := mem_declarations.mp h
  · rfl
  · rfl

/-- The members of a declaration are the fields of its entity, with the types of the fields. -/
theorem member_eq {e : Entity} {d : Declaration} (h : d ∈ p.declarations e) {i : Nat}
    {m : Member TypeExpr} (hm : d.members[i]? = some m) :
    ∃ f, e.fields[i]? = some f ∧ m.name = f.name ∧ m.type = p.fieldType e.name f := by
  obtain rfl | ⟨key, -, rfl⟩ := mem_declarations.mp h
  · rw [main, List.getElem?_map, Option.map_eq_some_iff] at hm
    obtain ⟨f, hf, rfl⟩ := hm
    exact ⟨f, hf, rfl, rfl⟩
  · rw [companion, List.getElem?_map, Option.map_eq_some_iff] at hm
    obtain ⟨f, hf, rfl⟩ := hm
    exact ⟨f, hf, rfl, rfl⟩

/-- Every field of an entity is a member of its declarations. -/
theorem exists_member {e : Entity} {d : Declaration} (h : d ∈ p.declarations e) {i : Nat} {f : Field}
    (hf : e.fields[i]? = some f) :
    ∃ m, d.members[i]? = some m ∧ m.name = f.name ∧ m.type = p.fieldType e.name f := by
  obtain rfl | ⟨key, -, rfl⟩ := mem_declarations.mp h
  · exact ⟨⟨f.name, f.optional, p.fieldType e.name f⟩, by rw [main, List.getElem?_map, hf]; rfl,
      rfl, rfl⟩
  · exact ⟨⟨f.name, f.name != key.name, p.fieldType e.name f⟩,
      by rw [companion, List.getElem?_map, hf]; rfl, rfl, rfl⟩

end Projection

end EntityProjection
