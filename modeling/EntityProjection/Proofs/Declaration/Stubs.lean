import EntityProjection.Proofs.Declaration.Generation
import EntityProjection.Proofs.Entity.Normal
import EntityProjection.Proofs.Graph.Breaking

/-!
# Key stubs in place of references

A relation that is broken holds key stubs where it held references, and so do all relations if partial
types are not used.  Nothing else of a declaration depends on either: the one who reads declarations
made with more broken relations finds those made with fewer, but for the references that were replaced.

* `TypeExpr.replace`: a type expression with another one in place of the references to a name;
* `EntityModel.projected`: the declarations of some entities of a model, under any broken relations;
  by `EntityModel.declarations_eq_projected` those of a run are such ones;
* `EntityModel.withStubs`: a declaration with what stands for keys in place of the references of some
  relations;
* `EntityModel.projected_eq_withStubs`: what it is to break more relations;
* `EntityModel.projected_off`: what it is to use no partial types;
* `stubs_for_references`: both, and that no run fails or succeeds because of it.
-/

namespace EntityProjection

/-! ### Substitution -/

mutual

/-- A type expression with other ones in place of its references, each told by the name. -/
def TypeExpr.substitute (value : String → TypeExpr) : TypeExpr → TypeExpr
  | .verbatim text => .verbatim text
  | .reference name => value name
  | .object members => .object (substituteMembers value members)
  | .generic name args => .generic name (substituteTypes value args)
  | .array element => .array (element.substitute value)
  | .union alternatives => .union (substituteTypes value alternatives)

/-- Substitution in type expressions one by one. -/
def substituteTypes (value : String → TypeExpr) : List TypeExpr → List TypeExpr
  | [] => []
  | t :: ts => t.substitute value :: substituteTypes value ts

/-- Substitution in members one by one. -/
def substituteMembers (value : String → TypeExpr) :
    List (Member TypeExpr) → List (Member TypeExpr)
  | [] => []
  | m :: ms => substituteMember value m :: substituteMembers value ms

/-- Substitution in the type of a member. -/
def substituteMember (value : String → TypeExpr) : Member TypeExpr → Member TypeExpr
  | ⟨name, optional, type⟩ => ⟨name, optional, type.substitute value⟩

end

/-- A type expression with another one in place of every reference to a name. -/
def TypeExpr.replace (t : TypeExpr) (name : String) (replacement : TypeExpr) : TypeExpr :=
  t.substitute fun other => if other = name then replacement else .reference other

section Replace

variable {name : String} {replacement : TypeExpr}

@[simp]
theorem replace_verbatim {text : String} :
    (TypeExpr.verbatim text).replace name replacement = .verbatim text := by
  rw [TypeExpr.replace, TypeExpr.substitute]

@[simp]
theorem replace_reference_self : (TypeExpr.reference name).replace name replacement = replacement := by
  rw [TypeExpr.replace, TypeExpr.substitute, if_pos rfl]

/-- To replace in the type of a relation is to replace in its element, however often that occurs. -/
theorem replace_typeOf (multiplicity : Multiplicity) (collectionType : String) (element : TypeExpr) :
    (multiplicity.typeOf collectionType element).replace name replacement =
      multiplicity.typeOf collectionType (element.replace name replacement) := by
  cases multiplicity with
  | one => rfl
  | many =>
    simp only [Multiplicity.typeOf, TypeExpr.replace, TypeExpr.substitute, substituteTypes]

end Replace

namespace EntityModel

variable {model : EntityModel} {options : Options} {broken broken' : BrokenEdges}
  {stub : PrimaryKey → TypeExpr}

/-! ### Projections of a model -/

/-- The declarations of the named entities of a model, if the given relations are broken. -/
def projected (model : EntityModel) (broken : BrokenEdges) (options : Options)
    (names : List String) : List Declaration :=
  (names.filterMap model.get?).flatMap (Projection.mk model.keys broken options).declarations

/-- The declarations of a run are those of the emission order. -/
theorem declarations_eq_projected (model : EntityModel) (options : Options) :
    model.declarations model.analysis options =
      model.projected model.analysis.broken options model.analysis.order :=
  rfl

/-- Projections agree on a model if they do on its entities. -/
theorem projected_eq_map {names : List String} {options' : Options} {f : Declaration → Declaration}
    (h : ∀ name e, model.get? name = some e →
      (Projection.mk model.keys broken' options').declarations e =
        ((Projection.mk model.keys broken options).declarations e).map f) :
    model.projected broken' options' names = (model.projected broken options names).map f := by
  rw [projected, projected, List.map_flatMap]
  refine List.flatMap_congr fun e he => ?_
  obtain ⟨name, -, hname⟩ := List.mem_filterMap.mp he
  exact h name e hname

/-! ### Declarations with stubs -/

/-- The entity that the field behind a member of an entity's declarations relates to. -/
def memberTarget? (model : EntityModel) (owner member : String) : Option String :=
  (model.get? owner).bind fun e =>
    (e.relations.find? fun r => r.field == member).map Relation.target

/-- A type expression with what stands for the key of an entity in place of references to its partial
declaration. -/
def stubbed (model : EntityModel) (options : Options) (stub : PrimaryKey → TypeExpr)
    (target : String) (t : TypeExpr) : TypeExpr :=
  match model.keys.key? target with
  | none => t
  | some key => t.replace (options.partialName target) (stub key)

/-- A declaration with what stands for keys in place of references in the members behind which there
is one of the chosen relations; all else is as it was. -/
def withStubs (model : EntityModel) (options : Options) (stub : PrimaryKey → TypeExpr)
    (chosen : String → String → Bool) (d : Declaration) : Declaration :=
  { d with members := d.members.map fun m =>
      { m with type :=
          match model.memberTarget? d.entity m.name with
          | none => m.type
          | some target =>
            if chosen d.entity target then model.stubbed options stub target m.type
            else m.type } }

/-- The field behind a member is the one of its name. -/
theorem Accepted.memberTarget?_eq (h : model.Accepted) {e : Entity}
    (he : model.get? e.name = some e) {f : Field} (hf : f ∈ e.fields) :
    model.memberTarget? e.name f.name = f.relation?.map Relation.target := by
  rw [memberTarget?, he, Option.bind_some, ← List.head?_filter,
    (h.normal he).filter_relations_eq hf]
  cases f.relation? <;> rfl

theorem stubbed_verbatim {target text : String} :
    model.stubbed options stub target (.verbatim text) = .verbatim text := by
  unfold stubbed
  split
  · rfl
  · exact replace_verbatim

theorem stubbed_typeOf (multiplicity : Multiplicity) (target collectionType : String)
    (element : TypeExpr) :
    model.stubbed options stub target (multiplicity.typeOf collectionType element) =
      multiplicity.typeOf collectionType (model.stubbed options stub target element) := by
  unfold stubbed
  cases model.keys.key? target with
  | none => rfl
  | some key => exact replace_typeOf multiplicity collectionType element

/-- The element of a relation that is unbroken, once stubs are put in place of references, is that of
the relation broken. -/
theorem element_broken (hon : options.usePartialTypes = true) {owner target : String}
    (hunbroken : broken.isBroken owner target = false)
    (hbroken : broken'.isBroken owner target = true) :
    (Projection.mk model.keys broken' options).element owner target =
      model.stubbed options PrimaryKey.stub target
        ((Projection.mk model.keys broken options).element owner target) := by
  rw [stubbed, Projection.element, Projection.element]
  cases model.keys.key? target with
  | none => rfl
  | some key => simp only [hon, hunbroken, hbroken, Bool.not_true, Bool.not_false, Bool.and_false,
      Bool.and_true, if_true, replace_reference_self, Bool.false_eq_true, if_false]

theorem element_congr {owner target : String}
    (h : broken.isBroken owner target = broken'.isBroken owner target) :
    (Projection.mk model.keys broken' options).element owner target =
      (Projection.mk model.keys broken options).element owner target := by
  simp only [Projection.element, h]

/-- What breaking more relations does to the type of a field. -/
theorem fieldType_withStubs (hon : options.usePartialTypes = true)
    (hsub : ∀ a b, broken.isBroken a b = true → broken'.isBroken a b = true) (owner : String)
    (f : Field) :
    (Projection.mk model.keys broken' options).fieldType owner f =
      match f.relation?.map Relation.target with
      | none => (Projection.mk model.keys broken options).fieldType owner f
      | some target =>
        if broken'.isBroken owner target && !broken.isBroken owner target then
          model.stubbed options PrimaryKey.stub target
            ((Projection.mk model.keys broken options).fieldType owner f)
        else (Projection.mk model.keys broken options).fieldType owner f := by
  cases hkind : f.kind with
  | scalar type => simp [Field.relation?, Projection.fieldType, hkind]
  | relation multiplicity target =>
    rw [show f.relation?.map Relation.target = some target by rw [Field.relation?, hkind]; rfl]
    dsimp only
    by_cases hknown : model.keys.isKnown target = true
    · rw [Projection.fieldType_known hkind hknown, Projection.fieldType_known hkind hknown]
      dsimp only
      cases hbroken : broken.isBroken owner target with
      | true =>
        have hsame := hbroken.trans (hsub owner target hbroken).symm
        rw [Bool.not_true, Bool.and_false, if_neg Bool.false_ne_true, element_congr hsame]
      | false =>
        cases hbroken' : broken'.isBroken owner target with
        | true =>
          rw [Bool.not_false, Bool.and_true, if_pos rfl, stubbed_typeOf,
            element_broken hon hbroken hbroken']
        | false =>
          rw [Bool.false_and, if_neg Bool.false_ne_true,
            element_congr (hbroken.trans hbroken'.symm)]
    · rw [Projection.fieldType_unknown hkind hknown, Projection.fieldType_unknown hkind hknown,
        stubbed_verbatim, ite_self]

/-- **To break more relations** is to put stubs in place of references in the members behind which
these relations are. -/
theorem projected_eq_withStubs (h : model.Accepted ∨ model = .empty)
    (hon : options.usePartialTypes = true)
    (hsub : ∀ a b, broken.isBroken a b = true → broken'.isBroken a b = true) (names : List String) :
    model.projected broken' options names =
      (model.projected broken options names).map
        (model.withStubs options PrimaryKey.stub
          fun a b => broken'.isBroken a b && !broken.isBroken a b) := by
  refine projected_eq_map fun name e hname => ?_
  have haccepted : model.Accepted := accepted_of_get? h hname
  have he : model.get? e.name = some e := (haccepted.coherent.named hname).symm ▸ hname
  have htype : ∀ f ∈ e.fields, (Projection.mk model.keys broken' options).fieldType e.name f = _ :=
    fun f hf => (fieldType_withStubs hon hsub e.name f).trans
      (by rw [← haccepted.memberTarget?_eq he hf])
  have hmain : model.withStubs options PrimaryKey.stub
      (fun a b => broken'.isBroken a b && !broken.isBroken a b)
      ((Projection.mk model.keys broken options).main e) =
        (Projection.mk model.keys broken' options).main e := by
    simp only [Projection.main, withStubs, List.map_map, Declaration.mk.injEq, true_and]
    exact List.map_congr_left fun f hf => by rw [htype f hf]; rfl
  have hcompanion : ∀ key, model.withStubs options PrimaryKey.stub
      (fun a b => broken'.isBroken a b && !broken.isBroken a b)
      ((Projection.mk model.keys broken options).companion e key) =
        (Projection.mk model.keys broken' options).companion e key := by
    intro key
    simp only [Projection.companion, withStubs, List.map_map, Declaration.mk.injEq, true_and]
    exact List.map_congr_left fun f hf => by rw [htype f hf]; rfl
  rw [Projection.declarations, Projection.declarations]
  cases e.key with
  | none => rw [List.map_singleton, hmain]
  | some key => rw [List.map_cons, List.map_singleton, hmain, hcompanion]

/-! ### Projections without partial types -/

/-- All relations of the entities of a model are broken, those to unknown entities included. -/
def AllBroken (model : EntityModel) (broken : BrokenEdges) : Prop :=
  ∀ name e, model.get? name = some e → ∀ r ∈ e.relations, broken.isBroken e.name r.target = true

/-- The entities of a model with what they relate to. -/
def relatedPairs (model : EntityModel) : List (String × String) :=
  (model.names.filterMap model.get?).flatMap fun e => e.relations.map fun r => (e.name, r.target)

theorem allBroken_relatedPairs (model : EntityModel) :
    model.AllBroken (.ofList model.relatedPairs) := by
  intro name e he r hr
  rw [BrokenEdges.isBroken_ofList, relatedPairs, List.mem_flatMap]
  refine ⟨e, List.mem_filterMap.mpr ⟨name, (mem_names_iff name).mpr ⟨e, he⟩, he⟩, ?_⟩
  exact List.mem_map_of_mem hr

/-- An element is the same without partial types as under a broken relation. -/
theorem element_off {owner target : String} (hbroken : broken'.isBroken owner target = true) :
    (Projection.mk model.keys broken { options with usePartialTypes := false }).element owner target =
      (Projection.mk model.keys broken' options).element owner target := by
  simp only [Projection.element, hbroken, Bool.false_and, Bool.not_true, Bool.and_false,
    Bool.false_eq_true, if_false]

/-- **To use no partial types** is to break all relations. -/
theorem projected_off (hall : model.AllBroken broken') (broken : BrokenEdges) (names : List String) :
    model.projected broken { options with usePartialTypes := false } names =
      model.projected broken' options names := by
  refine (projected_eq_map (f := id) fun name e he => ?_).trans (List.map_id _)
  rw [List.map_id]
  refine Projection.declarations_congr rfl fun f hf => ?_
  cases hkind : f.kind with
  | scalar type => simp only [Projection.fieldType, hkind]
  | relation multiplicity target =>
    have hr : (⟨f.name, multiplicity, target, f.declared⟩ : Relation) ∈ e.relations :=
      List.mem_filterMap.mpr ⟨f, hf, by rw [Field.relation?, hkind]⟩
    by_cases hknown : model.keys.isKnown target = true
    · rw [Projection.fieldType_known hkind hknown, Projection.fieldType_known hkind hknown,
        element_off (hall name e he _ hr)]
    · rw [Projection.fieldType_unknown hkind hknown, Projection.fieldType_unknown hkind hknown]

/-- Without partial types nothing is referred to. -/
theorem not_reference_occurs_off {names : List String} {d : Declaration}
    (hd : d ∈ model.projected broken { options with usePartialTypes := false } names)
    {m : Member TypeExpr} (hm : m ∈ d.members) (n : String) :
    ¬(TypeExpr.reference n).Occurs m.type := by
  intro hoccurs
  obtain ⟨e, -, hde⟩ := List.mem_flatMap.mp hd
  obtain ⟨i, hi⟩ := List.getElem?_of_mem hm
  obtain ⟨f, -, -, htype⟩ := Projection.member_eq hde hi
  rw [htype, Projection.reference_occurs_fieldType] at hoccurs
  obtain ⟨-, target, -, -, hoccurs⟩ := hoccurs
  exact Bool.false_ne_true (Projection.reference_occurs_element.mp hoccurs).2.1

/-! ### Runs without partial types -/

/-- The names in the container do not depend on the use of partial types. -/
theorem containerNames_off (model : EntityModel) (options : Options) :
    containerNames (model.declarations model.analysis { options with usePartialTypes := false })
        { options with usePartialTypes := false } =
      containerNames (model.declarations model.analysis options) options := by
  simp only [containerNames, declarations, List.map_flatMap, Projection.declarations_map_name]
  rfl

theorem generate_off_eq_error {err : GenerationError} :
    model.generate { options with usePartialTypes := false } = .error err ↔
      model.generate options = .error err := by
  rw [generate_eq_error_iff, generate_eq_error_iff]
  exact assemble_error_congr (model.containerNames_off options)

theorem exists_generate_off :
    (∃ g, model.generate { options with usePartialTypes := false } = .ok g) ↔
      ∃ g, model.generate options = .ok g := by
  simp only [exists_eq_ok_iff, ne_eq, generate_off_eq_error]

end EntityModel

/-- **Breaking a relation and using no partial types are the same substitution.**  To break more
relations is to put objects with nothing but the key in place of references in the members behind
which these relations are, and changes nothing else.  To use no partial types is to break all
relations there are; so there are no references then, it does not matter what is broken, and a run
fails as it would else, or does not.

The named entities may be those of a model in any order, be it that of arrival or that of emission. -/
theorem stubs_for_references {model : EntityModel} (h : model.Accepted ∨ model = .empty)
    {options : Options} (hon : options.usePartialTypes = true) :
    let off : Options := { options with usePartialTypes := false }
    let stub : PrimaryKey → TypeExpr := fun key => .object [⟨key.name, false, .verbatim key.type⟩]
    (∀ broken broken' : BrokenEdges,
      (∀ a b, broken.isBroken a b = true → broken'.isBroken a b = true) → ∀ names,
        model.projected broken' options names = (model.projected broken options names).map
          (model.withStubs options stub
            fun a b => broken'.isBroken a b && !broken.isBroken a b)) ∧
    ((∃ all, model.AllBroken all) ∧ ∀ all, model.AllBroken all → ∀ broken names,
      model.projected broken off names = model.projected all options names) ∧
    (∀ broken names,
      (∀ d ∈ model.projected broken off names, ∀ m ∈ d.members, ∀ n,
        ¬(TypeExpr.reference n).Occurs m.type) ∧
      ∀ broken', model.projected broken off names = model.projected broken' off names) ∧
    ((∃ g, model.generate off = .ok g) ↔ ∃ g, model.generate options = .ok g) ∧
    ∀ err, model.generate off = .error err ↔ model.generate options = .error err := by
  intro off stub
  have hall := model.allBroken_relatedPairs
  refine ⟨fun broken broken' hsub names => EntityModel.projected_eq_withStubs h hon hsub names,
    ⟨⟨_, hall⟩, fun all hbroken broken names => EntityModel.projected_off hbroken broken names⟩,
    fun broken names => ⟨fun d hd m hm n => EntityModel.not_reference_occurs_off hd hm n, ?_⟩,
    EntityModel.exists_generate_off, fun err => EntityModel.generate_off_eq_error⟩
  intro broken'
  rw [EntityModel.projected_off hall, EntityModel.projected_off hall]

/-- The declarations of a book whose reader is told in the given way. -/
def bookDeclarations (reader : TypeExpr) : List Declaration :=
  [{ name := "Book", entity := "Book", kind := .main,
     members := [⟨"isbn", false, .verbatim "string"⟩, ⟨"reader", true, reader⟩] },
   { name := "BookPartial", entity := "Book", kind := .companion,
     members := [⟨"isbn", false, .verbatim "string"⟩, ⟨"reader", true, reader⟩] }]

/-- In the library a book tells its reader by a reference or, if that relation is broken or partial
types are not used, by the key of the reader; and declarations without partial types are made just if
others are. -/
theorem stubs_for_references_lending :
    let broken := BrokenEdges.ofList [("Book", "Reader")]
    let off := { Options.ofTarget .zod with usePartialTypes := false }
    let readerKey : TypeExpr := .object [⟨"id", false, .verbatim "number"⟩]
    lending.projected .empty (.ofTarget .zod) ["Book"] =
      bookDeclarations (.reference "ReaderPartial") ∧
    lending.projected broken (.ofTarget .zod) ["Book"] = bookDeclarations readerKey ∧
    lending.projected .empty off ["Book"] = bookDeclarations readerKey ∧
    ((∃ g, lending.generate off = .ok g) ↔ ∃ g, lending.generate (.ofTarget .zod) = .ok g) := by
  intro broken off readerKey
  have hon : (Options.ofTarget .zod).usePartialTypes = true := rfl
  obtain ⟨hmore, ⟨-, hoff⟩, -, hruns, -⟩ := stubs_for_references (.inl lending_accepted) hon
  have hempty : ∀ broken' : BrokenEdges,
      ∀ a b, BrokenEdges.empty.isBroken a b = true → broken'.isBroken a b = true := by
    intro broken' a b hab
    rw [BrokenEdges.isBroken_empty] at hab
    cases hab
  have hunbroken : lending.projected .empty (.ofTarget .zod) ["Book"] =
      bookDeclarations (.reference "ReaderPartial") := rfl
  refine ⟨hunbroken, ?_, ?_, hruns⟩
  · rw [hmore .empty broken (hempty broken), hunbroken]
    rfl
  · rw [hoff _ lending.allBroken_relatedPairs, hmore .empty _ (hempty _), hunbroken]
    rfl

end EntityProjection
