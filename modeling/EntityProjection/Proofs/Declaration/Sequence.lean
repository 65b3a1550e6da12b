import EntityProjection.Proofs.Declaration.References
import EntityProjection.Proofs.Graph.EmissionOrder

/-!
# The sequence of declarations

Entities are declared one after the other in emission order, which lists each of them once; so a
reference to an entity that comes earlier in the order is a reference to an earlier declaration.  In
the declarations of an entity that is not circular all references are of this kind, as all the other
entities that it depends on come earlier, and its relations to itself are broken.

* `EntityModel.Coherent.map_name_order`: no name of the emission order is dropped;
* `EntityModel.Coherent.reference_earlier`: the references of an entity that is not circular;
* `EntityModel.Coherent.fieldType_self`: the relations of an entity to itself;
* `declarations_in_sequence`: the declarations of a run.
-/

namespace EntityProjection

/-- An item of lists that are put together is in one of them, and the lists before that one are put
before it. -/
theorem exists_of_flatMap_eq_append_cons {α β : Type} {f : α → List β} {xs : List α}
    {before after : List β} {y : β} (h : xs.flatMap f = before ++ y :: after) :
    ∃ earlier x later, xs = earlier ++ x :: later ∧ y ∈ f x ∧ earlier.flatMap f ⊆ before := by
  induction xs generalizing before with
  | nil => simp at h
  | cons x xs ih =>
    have hlater : ∀ rest, xs.flatMap f = rest ++ y :: after → before = f x ++ rest →
        ∃ earlier x' later, x :: xs = earlier ++ x' :: later ∧ y ∈ f x' ∧
          earlier.flatMap f ⊆ before := by
      rintro rest hxs rfl
      obtain ⟨earlier, x', later, rfl, hy, hsub⟩ := ih hxs
      refine ⟨x :: earlier, x', later, rfl, hy, ?_⟩
      rw [List.flatMap_cons]
      exact List.append_subset_of_subset_of_subset (List.subset_append_left _ _)
        (List.subset_append_of_subset_right _ hsub)
    rw [List.flatMap_cons, List.append_eq_append_iff] at h
    obtain ⟨rest, hbefore, hxs⟩ | ⟨rest, hx, hrest⟩ := h
    · exact hlater rest hxs hbefore
    · cases rest with
      | nil => exact hlater [] hrest.symm (by rw [hx, List.append_nil, List.append_nil])
      | cons first rest =>
        cases hrest
        refine ⟨[], x, xs, rfl, ?_, List.nil_subset _⟩
        rw [hx]
        exact List.mem_append_right _ List.mem_cons_self

namespace EntityModel

variable {model : EntityModel} {options : Options}

theorem mem_order_iff {name : String} :
    name ∈ model.analysis.order ↔ ∃ e, model.get? name = some e := by
  rw [← mem_names_iff, ← graph_names]
  exact model.graph.order_perm.mem_iff

theorem order_nodup (model : EntityModel) : model.analysis.order.Nodup :=
  model.graph.order_perm.nodup_iff.mpr model.graph.names_nodup

/-- The entities that are declared stand in emission order. -/
theorem Coherent.map_name_order (hc : model.Coherent) :
    (model.analysis.order.filterMap model.get?).map Entity.name = model.analysis.order :=
  hc.map_name_filterMap_get? fun _ => mem_order_iff.mp

/-- The entities that are declared are those of the model. -/
theorem Coherent.mem_filterMap_order (hc : model.Coherent) {e : Entity} :
    e ∈ model.analysis.order.filterMap model.get? ↔ model.get? e.name = some e := by
  rw [List.mem_filterMap]
  constructor
  · rintro ⟨name, -, he⟩
    rw [hc.named he, he]
  · exact fun he => ⟨e.name, mem_order_iff.mpr ⟨e, he⟩, he⟩

/-- No unbroken relation leads from an entity to itself. -/
theorem Coherent.not_intact_self (hc : model.Coherent) (name : String) :
    ¬model.graph.Intact model.analysis.broken name name := fun hself =>
  RelationGraph.acyclic_intact hc.graph_closed model.graph.order name (.single hself)

/-- A reference in a declaration of an entity that is not circular is to an earlier declaration. -/
theorem Coherent.reference_earlier (hc : model.Coherent) {before after : List Declaration}
    {d : Declaration} (hsplit : model.declarations model.analysis options = before ++ d :: after)
    (hnot : ¬model.graph.Circular d.entity) {m : Member TypeExpr} (hm : m ∈ d.members) {n : String}
    (hn : (TypeExpr.reference n).Occurs m.type) : ∃ d' ∈ before, d'.name = n := by
  have hd : d ∈ model.declarations model.analysis options :=
    hsplit ▸ List.mem_append_right _ List.mem_cons_self
  obtain ⟨i, hi⟩ := List.getElem?_of_mem hm
  obtain ⟨-, -, -, target, -, -, -, -, hintact, d', hd', hname, rfl, -⟩ :=
    hc.reference_target hd hi hn
  obtain ⟨t, ht, hdt⟩ := hc.mem_declarations.mp hd'
  obtain ⟨earlier, e, later, hentities, hde, hbefore⟩ := exists_of_flatMap_eq_append_cons hsplit
  have horder : model.graph.order =
      earlier.map Entity.name ++ d.entity :: later.map Entity.name := by
    rw [Projection.declaration_entity hde, ← List.map_cons, ← List.map_append, ← hentities]
    exact hc.map_name_order.symm
  have hne : d'.entity ≠ d.entity := by
    intro heq
    rw [heq] at hintact
    exact hc.not_intact_self _ hintact
  have htarget : d'.entity ∈ earlier.map Entity.name :=
    RelationGraph.mem_before_of_not_circular hc.graph_closed horder hnot hintact.1 hne
  obtain ⟨t', ht', htname⟩ := List.mem_map.mp htarget
  have hfound : model.get? t'.name = some t' :=
    hc.mem_filterMap_order.mp (hentities ▸ List.mem_append_left _ ht')
  obtain rfl : t = t' := by
    rw [htname, ht] at hfound
    exact Option.some.inj hfound
  exact ⟨d', hbefore (List.mem_flatMap.mpr ⟨t, ht', hdt⟩), hname⟩

/-- A relation of an entity to itself is broken: it holds key stubs or, without a key, empty
objects. -/
theorem Coherent.fieldType_self (hc : model.Coherent) {e : Entity} (he : model.get? e.name = some e)
    {f : Field} (hf : f ∈ e.fields) {multiplicity : Multiplicity}
    (hkind : f.kind = .relation multiplicity e.name) :
    (model.projection model.analysis options).fieldType e.name f =
      multiplicity.typeOf options.collectionType
        (match e.key with
        | none => .object []
        | some key => .object [⟨key.name, false, .verbatim key.type⟩]) := by
  have hknown : model.keys.isKnown e.name = true := (hc.isKnown_iff e.name).mpr ⟨e, he⟩
  have hindexed : model.keys.key? e.name = e.key := by rw [hc.key?_eq, he, Option.bind_some]
  cases hkey : e.key with
  | none =>
    exact (Projection.fieldType_eq_typeOf_empty_iff hkind).mpr ⟨hknown, hindexed.trans hkey⟩
  | some key =>
    obtain ⟨element, htype, ⟨-, hunbroken, -⟩ | ⟨-, rfl⟩⟩ :=
      (model.projection model.analysis options).fieldType_keyed hkind hknown (hindexed.trans hkey)
    · have hself := graph_dependsOn_of_field he hf hkind hknown
      exact absurd ⟨hself, hunbroken⟩ (hc.not_intact_self e.name)
    · exact htype

end EntityModel

/-- **Declarations are emitted once and in dependency order.**  They are those of all entities in
emission order, each entity once: its main declaration, directly followed by its partial one if it has
a key.  A reference in a declaration of an entity that is not circular names an earlier declaration,
and a relation of an entity to itself holds, in each declaration of the entity, objects with nothing
but the key or, without a key, empty objects. -/
theorem declarations_in_sequence {model : EntityModel} (h : model.Accepted ∨ model = .empty)
    {options : Options} {g : Generation} (hg : model.generate options = .ok g) :
    let p := model.projection g.analysis options
    (∃ entities : List Entity, entities.map Entity.name = g.analysis.order ∧ entities.Nodup ∧
      (∀ e, e ∈ entities ↔ model.get? e.name = some e) ∧
      g.declarations =
        entities.flatMap (fun e => p.main e :: (e.key.map (p.companion e)).toList) ∧
      (g.declarations.map fun d => (d.name, d.entity, d.kind)) = entities.flatMap fun e =>
        (e.name, e.name, .main) ::
          if e.key.isSome then [(options.partialName e.name, e.name, .companion)] else []) ∧
    (∀ before d after, g.declarations = before ++ d :: after → ¬model.graph.Circular d.entity →
      ∀ m ∈ d.members, ∀ n, (TypeExpr.reference n).Occurs m.type → ∃ d' ∈ before, d'.name = n) ∧
    ∀ e, model.get? e.name = some e → ∀ d ∈ g.declarations, d.entity = e.name →
      ∀ (i : Nat) (f : Field) (multiplicity : Multiplicity), e.fields[i]? = some f →
        f.kind = .relation multiplicity e.name →
          ∃ m, d.members[i]? = some m ∧ m.name = f.name ∧
            m.type = multiplicity.typeOf options.collectionType
              (match e.key with
              | none => .object []
              | some key => .object [⟨key.name, false, .verbatim key.type⟩]) := by
  intro p
  obtain ⟨hanalysis, hds, -⟩ := EntityModel.generate_eq_ok.mp hg
  have hc : model.Coherent := EntityModel.coherent_of_accepted_or_empty h
  have hnodup : (model.analysis.order.filterMap model.get?).Nodup :=
    List.Nodup.of_map Entity.name (hc.map_name_order.symm ▸ model.order_nodup)
  have hp : model.projection model.analysis options = p := by rw [← hanalysis]
  have hsequence : g.declarations = (model.analysis.order.filterMap model.get?).flatMap
      fun e => p.main e :: (e.key.map (p.companion e)).toList := by
    rw [hds, EntityModel.declarations, hp]
    refine List.flatMap_congr fun e _ => ?_
    rw [Projection.declarations]
    cases e.key <;> rfl
  refine ⟨⟨_, hanalysis ▸ hc.map_name_order, hnodup, fun e => hc.mem_filterMap_order, hsequence,
    ?_⟩, ?_, ?_⟩
  · rw [hsequence, List.map_flatMap]
    refine List.flatMap_congr fun e _ => ?_
    cases e.key <;> rfl
  · intro before d after hsplit hnot m hm n hn
    rw [hds] at hsplit
    exact hc.reference_earlier hsplit hnot hm hn
  · intro e he d hd hentity i f multiplicity hf hkind
    rw [hds] at hd
    obtain ⟨e', he', hde⟩ := hc.mem_declarations.mp hd
    obtain rfl : e = e' := by
      rw [hentity, he] at he'
      exact Option.some.inj he'
    obtain ⟨m, hm, hname, htype⟩ := Projection.exists_member hde hf
    exact ⟨m, hm, hname, htype.trans (hc.fieldType_self he (List.mem_of_getElem? hf) hkind)⟩

/-- A shop: categories relate to themselves, and products to categories. -/
def shop : EntityModel :=
  (EntityModel.ofEntities
    [{ name := "Product", key := some ⟨"id", "string"⟩,
       fields := [{ name := "categories", kind := .relation .many "Category" }] },
     { name := "Category", key := some ⟨"id", "number"⟩,
       fields := [{ name := "parent", kind := .relation .one "Category" }] }]).toOption.getD .empty

/-- A category as the shop holds it. -/
def shopCategory : Entity where
  name := "Category"
  key := some ⟨"id", "number"⟩
  fields := [{ name := "id", kind := .scalar "number" },
    { name := "parent", kind := .relation .one "Category" }]

/-- In the shop the main declaration of categories is directly followed by the partial one, products
refer to declarations before them, and the parent of a category is given by its key. -/
theorem declarations_in_sequence_shop : ∃ g, shop.generate (.ofTarget .zod) = .ok g ∧
    (∃ before after, (g.declarations.map fun d => (d.name, d.entity, d.kind)) =
      before ++ ("Category", "Category", .main) ::
        ("CategoryPartial", "Category", .companion) :: after) ∧
    (∀ before d after, g.declarations = before ++ d :: after → d.entity = "Product" →
      ∀ m ∈ d.members, ∀ n, (TypeExpr.reference n).Occurs m.type → ∃ d' ∈ before, d'.name = n) ∧
    ∀ d ∈ g.declarations, d.entity = "Category" → ∃ m, d.members[1]? = some m ∧
      m.name = "parent" ∧ m.type = .object [⟨"id", false, .verbatim "number"⟩] := by
  have haccepted : shop.Accepted := .inl ⟨_, EntityModel.ofEntities_getD (by decide +kernel)⟩
  have hnames : shop.declarationNames (.ofTarget .zod) =
      ["Category", "CategoryPartial", "Product", "ProductPartial"] := by
    decide +kernel
  obtain ⟨g, hg⟩ : ∃ g, shop.generate (.ofTarget .zod) = .ok g := by
    rw [EntityModel.exists_generate_iff, hnames]
    decide +kernel
  have hgreedy : Schedule.Greedy shop.graph.needs shop.graph.names [] ["Category", "Product"] := by
    decide +kernel
  have hschedule := (Schedule.greedy_order shop.graph.needs shop.graph.names_nodup).eq hgreedy
  have hproduct : ¬shop.graph.Circular "Product" := by
    have hmem : "Product" ∈ shop.graph.schedule.order := by
      rw [RelationGraph.schedule, hschedule]
      decide
    exact ((RelationGraph.mem_schedule_order_iff haccepted.graph_closed).mp hmem).2
  have hcategory : shop.get? shopCategory.name = some shopCategory := by decide +kernel
  obtain ⟨⟨entities, -, -, hentities, -, hheads⟩, hearlier, hself⟩ :=
    declarations_in_sequence (.inl haccepted) hg
  obtain ⟨earlier, later, rfl⟩ := List.append_of_mem ((hentities shopCategory).mpr hcategory)
  refine ⟨g, hg, ⟨_, _, by rw [hheads, List.flatMap_append, List.flatMap_cons]; rfl⟩,
    fun before d after hsplit hd => hearlier before d after hsplit (hd ▸ hproduct),
    fun d hd hentity => hself shopCategory hcategory d hd hentity 1 _ .one rfl rfl⟩

end EntityProjection
