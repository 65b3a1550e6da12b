import EntityProjection.Proofs.Declaration.Generation
import EntityProjection.Proofs.Entity.Collection
import EntityProjection.Proofs.Graph.SearchRestriction

/-!
# Unrelated entities

Entities that arrive together but do not relate to each other.  All of them share one schedule, one
search and one projection, and yet each of them is analysed and projected as if those that it has
nothing to do with were not there.

* `EntityModel.PartOf`: a model is a part of another one, and no relation leads across its border;
* `EntityModel.Extends`: the results of a model are those of a part of it, and more;
* `EntityModel.Extends.of_partOf`: a model extends its parts;
* `unrelated_independent`: entities of two lists that do not relate to each other.
-/

namespace EntityProjection

/-! ### Projections that agree -/

namespace Projection

variable {p p' : Projection} (hoptions : p.options = p'.options)

include hoptions

/-- The type of a field depends on what is known about the target of its relation only. -/
theorem fieldType_congr {owner : String} {f : Field}
    (hknown : ∀ multiplicity target, f.kind = .relation multiplicity target →
      p.keys.isKnown target = p'.keys.isKnown target)
    (htarget : ∀ multiplicity target, f.kind = .relation multiplicity target →
      p.keys.isKnown target = true → p.keys.key? target = p'.keys.key? target ∧
        p.broken.isBroken owner target = p'.broken.isBroken owner target) :
    p.fieldType owner f = p'.fieldType owner f := by
  unfold fieldType
  cases hkind : f.kind with
  | scalar type => rfl
  | relation multiplicity target =>
    simp only [← hknown multiplicity target hkind]
    split
    · next h =>
      obtain ⟨hkey, hbroken⟩ := htarget multiplicity target hkind h
      simp only [element, hkey, hbroken, hoptions]
    · rfl

end Projection

/-! ### Parts of a model -/

namespace EntityModel

variable {model part : EntityModel}

/-- Whether a name is an entity of a model. -/
def has (model : EntityModel) (name : String) : Bool :=
  model.names.contains name

theorem has_iff {name : String} : model.has name = true ↔ ∃ e, model.get? name = some e := by
  rw [has, List.contains_iff_mem, mem_names_iff]

/-- A model is a part of another one: its entities are entities of the other, and no relation leads
from one of them to an entity outside, or the other way. -/
structure PartOf (part model : EntityModel) : Prop where
  get?_eq : ∀ {name}, part.has name = true → model.get? name = part.get? name
  target_eq : ∀ {name e}, model.get? name = some e → ∀ r ∈ e.relations,
    model.has r.target = true → part.has r.target = part.has name

/-- What is made of a model says the same about the entities of another one as what is made of that
one. -/
structure Extends (model part : EntityModel) : Prop where
  analysis_eq : model.analysis.restrict part.has = part.analysis
  get?_eq : ∀ {name e}, part.get? name = some e → model.get? name = some e
  projected_eq : ∀ options {name e}, part.get? name = some e →
    (model.projection model.analysis options).declarations e =
      (part.projection part.analysis options).declarations e
  declarations_eq : ∀ options,
    (model.declarations model.analysis options).filter (fun d => part.has d.entity) =
      part.declarations part.analysis options

/-- A broken relation starts at an entity of the model. -/
theorem Accepted.has_of_isBroken (h : model.Accepted) {source target : String}
    (hbroken : model.analysis.broken.isBroken source target = true) : model.has source = true := by
  have hdep := RelationGraph.dependsOn_of_isBroken h.graph_closed model.graph.order hbroken
  rw [has, List.contains_iff_mem, ← graph_names]
  exact hdep.source_mem

namespace PartOf

variable (h : part.PartOf model)

include h

theorem get?_of_part {name : String} {e : Entity} (he : part.get? name = some e) :
    model.get? name = some e :=
  (h.get?_eq (has_iff.mpr ⟨e, he⟩)).trans he

theorem has_of_part {name : String} (hname : part.has name = true) : model.has name = true := by
  obtain ⟨e, he⟩ := has_iff.mp hname
  exact has_iff.mpr ⟨e, h.get?_of_part he⟩

/-- A relation of an entity of the part has a target of the part if it has one in the model. -/
theorem has_target {name : String} {e : Entity} (he : part.get? name = some e) {r : Relation}
    (hr : r ∈ e.relations) : model.has r.target = part.has r.target := by
  rw [Bool.eq_iff_iff]
  refine ⟨fun htarget => ?_, h.has_of_part⟩
  exact (h.target_eq (h.get?_of_part he) r hr htarget).trans (has_iff.mpr ⟨e, he⟩)

variable (hc : model.Coherent) (hpart : part.Coherent)

include hc

/-- No relation leads across the border of a part. -/
theorem separated : model.graph.Separated part.has := by
  intro source target hdep
  obtain ⟨e, he, r, hr, hknown, rfl⟩ := graph_dependsOn_iff.mp hdep
  exact h.target_eq he r hr (has_iff.mpr ((hc.isKnown_iff r.target).mp hknown))

omit h in
theorem isKnown_eq_has (name : String) : model.keys.isKnown name = model.has name :=
  Bool.eq_iff_iff.mpr ((hc.isKnown_iff name).trans has_iff.symm)

include hpart

/-- The graph of a part is that part of the graph. -/
theorem graph_restrict : model.graph.restrict part.has = part.graph := by
  have hedges : ∀ {name e}, part.get? name = some e → e.edges model.keys = e.edges part.keys := by
    intro name e he
    have hfilter : e.relations.filter (fun r => model.keys.isKnown r.target) =
        e.relations.filter fun r => part.keys.isKnown r.target := by
      refine List.filter_congr fun r hr => ?_
      rw [isKnown_eq_has hc, isKnown_eq_has hpart, h.has_target he hr]
    rw [Entity.edges, hfilter, Entity.edges]
  have hmaps : (model.graph.restrict part.has).edgesByOwner = part.graph.edgesByOwner := by
    refine Std.ExtTreeMap.ext_getElem? fun name => ?_
    rw [RelationGraph.restrict, graph, graph, Std.ExtTreeMap.getElem?_filter',
      Std.ExtTreeMap.getElem?_map, Std.ExtTreeMap.getElem?_map, ← get?, ← get?]
    cases hname : part.has name with
    | true =>
      obtain ⟨e, he⟩ := has_iff.mp hname
      rw [h.get?_eq hname, he, Option.map_some, Option.map_some, hedges he]
      rfl
    | false =>
      have hnone : part.get? name = none := Option.eq_none_iff_forall_ne_some.mpr fun e he =>
        Bool.false_ne_true (hname.symm.trans (has_iff.mpr ⟨e, he⟩))
      rw [hnone]
      cases model.get? name <;> rfl
  exact congrArg RelationGraph.mk hmaps

end PartOf

namespace PartOf

variable (h : part.PartOf model) (hmodel : model.Accepted) (hpart : part.Accepted)

include h hmodel hpart

theorem analysis_restrict : model.analysis.restrict part.has = part.analysis := by
  rw [analysis, ← RelationGraph.analysis_restrict hmodel.graph_closed (h.separated hmodel.coherent),
    h.graph_restrict hmodel.coherent hpart.coherent, analysis]

/-- A relation of an entity of the part is broken if it is broken in the part. -/
theorem isBroken_eq {source : String} (hsource : part.has source = true) (target : String) :
    model.analysis.broken.isBroken source target = part.analysis.broken.isBroken source target := by
  have hsep := h.separated hmodel.coherent
  have hbroken : (breakCycles ((model.graph.restrict part.has).findCycles
      (model.graph.order.filter part.has))).isBroken source target = true ↔
        model.analysis.broken.isBroken source target = true ∧ part.has source = true :=
    RelationGraph.isBroken_restrict hmodel.graph_closed hsep
  rw [← RelationGraph.order_restrict hsep, h.graph_restrict hmodel.coherent hpart.coherent,
    and_iff_left hsource] at hbroken
  exact Bool.eq_iff_iff.mpr hbroken.symm

/-- Of a model in two parts the relations are broken that are broken in one of the parts. -/
theorem isBroken_iff {other : EntityModel} (h' : other.PartOf model) (hother : other.Accepted)
    (hcover : ∀ name, model.has name = true → part.has name = true ∨ other.has name = true)
    (source target : String) : model.analysis.broken.isBroken source target = true ↔
      part.analysis.broken.isBroken source target = true ∨
        other.analysis.broken.isBroken source target = true := by
  constructor
  · intro hbroken
    refine (hcover source (hmodel.has_of_isBroken hbroken)).imp (fun hsource => ?_) fun hsource => ?_
    · rwa [← h.isBroken_eq hmodel hpart hsource]
    · rwa [← h'.isBroken_eq hmodel hother hsource]
  · rintro (hbroken | hbroken)
    · rwa [h.isBroken_eq hmodel hpart (hpart.has_of_isBroken hbroken)]
    · rwa [h'.isBroken_eq hmodel hother (hother.has_of_isBroken hbroken)]

/-- An entity of a part is projected as in the part. -/
theorem declarations_eq (options : Options) {name : String} {e : Entity}
    (he : part.get? name = some e) :
    (model.projection model.analysis options).declarations e =
      (part.projection part.analysis options).declarations e := by
  have hname : e.name = name := hpart.coherent.named he
  have hrelation : ∀ {f multiplicity target}, f ∈ e.fields → f.kind = .relation multiplicity target →
      model.has target = part.has target := by
    intro f multiplicity target hf hkind
    refine h.has_target (r := ⟨f.name, multiplicity, target, f.declared⟩) he ?_
    exact List.mem_filterMap.mpr ⟨f, hf, by rw [Field.relation?, hkind]⟩
  refine Projection.declarations_congr (by rfl) fun f hf =>
    Projection.fieldType_congr (by rfl) ?_ ?_
  · intro multiplicity target hkind
    show model.keys.isKnown target = part.keys.isKnown target
    rw [isKnown_eq_has hmodel.coherent, isKnown_eq_has hpart.coherent, hrelation hf hkind]
  · intro multiplicity target hkind hknown
    have htarget : part.has target = true := by
      rw [← hrelation hf hkind, ← isKnown_eq_has hmodel.coherent]
      exact hknown
    constructor
    · show model.keys.key? target = part.keys.key? target
      rw [hmodel.coherent.key?_eq, hpart.coherent.key?_eq, h.get?_eq htarget]
    · exact h.isBroken_eq hmodel hpart (hname ▸ has_iff.mpr ⟨e, he⟩) target

/-- The entities of a part are projected in the order of the part. -/
theorem flatMap_declarations (options : Options) (names : List String) :
    ((names.filterMap model.get?).flatMap
      (model.projection model.analysis options).declarations).filter (fun d => part.has d.entity) =
    ((names.filter part.has).filterMap part.get?).flatMap
      (part.projection part.analysis options).declarations := by
  induction names with
  | nil => rfl
  | cons name rest ih =>
    have hblock : ∀ {e}, model.get? name = some e →
        ∀ d ∈ (model.projection model.analysis options).declarations e, d.entity = name :=
      fun he d hd => (Projection.declaration_entity hd).trans (hmodel.coherent.named he)
    by_cases hname : part.has name = true
    · obtain ⟨e, he⟩ := has_iff.mp hname
      have he' := h.get?_of_part he
      have hall : ((model.projection model.analysis options).declarations e).filter
          (fun d => part.has d.entity) = (model.projection model.analysis options).declarations e :=
        List.filter_eq_self.mpr fun d hd => by rw [hblock he' d hd, hname]
      rw [List.filterMap_cons_some he', List.flatMap_cons, List.filter_append, ih, hall,
        h.declarations_eq hmodel hpart options he, List.filter_cons_of_pos hname,
        List.filterMap_cons_some he, List.flatMap_cons]
    · rw [List.filter_cons_of_neg hname]
      cases he : model.get? name with
      | none => rw [List.filterMap_cons_none he, ih]
      | some e =>
        have hnone : ((model.projection model.analysis options).declarations e).filter
            (fun d => part.has d.entity) = [] :=
          List.filter_eq_nil_iff.mpr fun d hd => by rwa [hblock he d hd]
        rw [List.filterMap_cons_some he, List.flatMap_cons, List.filter_append, ih, hnone,
          List.nil_append]

end PartOf

/-- **A model extends its parts.** -/
theorem Extends.of_partOf (h : part.PartOf model) (hmodel : model.Accepted)
    (hpart : part.Accepted) : model.Extends part where
  analysis_eq := h.analysis_restrict hmodel hpart
  get?_eq := h.get?_of_part
  projected_eq options _ _ he := h.declarations_eq hmodel hpart options he
  declarations_eq options := by
    have horder : part.analysis.order = model.analysis.order.filter part.has := by
      rw [← h.analysis_restrict hmodel hpart, GraphAnalysis.restrict]
    rw [declarations, h.flatMap_declarations hmodel hpart, declarations, horder]

end EntityModel

/-! ### Unrelated lists -/

/-- No entity of the first list is named as one of the second, and no relation of it has such a name
for its target. -/
def Unrelated (entities others : List Entity) : Prop :=
  ∀ e ∈ entities, e.name ∉ others.map Entity.name ∧
    ∀ r ∈ e.relations, r.target ∉ others.map Entity.name

instance (entities others : List Entity) : Decidable (Unrelated entities others) :=
  inferInstanceAs (Decidable (∀ e ∈ entities, _ ∧ ∀ r ∈ e.relations, _))

namespace EntityModel

variable {model part : EntityModel} {entities first second : List Entity}

theorem Holds.has_iff (h : model.Holds entities) {name : String} :
    model.has name = true ↔ name ∈ entities.map Entity.name := by
  rw [EntityModel.has_iff, List.mem_map]
  constructor
  · rintro ⟨normal, hget⟩
    obtain ⟨e, he, hname, -⟩ := h.get?_iff.mp hget
    exact ⟨e, he, hname⟩
  · rintro ⟨e, he, hname⟩
    obtain ⟨normal, hnormal⟩ := h.acceptable.normal e he
    exact ⟨normal, h.get?_iff.mpr ⟨e, he, hname, hnormal⟩⟩

theorem Acceptable.append (h : Acceptable first) (h' : Acceptable second)
    (hunrelated : Unrelated first second) : Acceptable (first ++ second) where
  nodup := by
    rw [List.map_append]
    refine List.nodup_append.mpr ⟨h.nodup, h'.nodup, ?_⟩
    rintro name hname _ hname' rfl
    obtain ⟨e, he, rfl⟩ := List.mem_map.mp hname
    exact (hunrelated e he).1 hname'
  normal e he := (List.mem_append.mp he).elim (h.normal e) (h'.normal e)

/-- The model of a list is a part of the model of the list together with an unrelated one. -/
theorem Holds.partOf (hmodel : model.Holds (first ++ second)) (hpart : part.Holds first)
    (hunrelated : Unrelated first second) (hunrelated' : Unrelated second first) :
    part.PartOf model where
  get?_eq := by
    intro name hname
    obtain ⟨e, he, rfl⟩ := List.mem_map.mp (hpart.has_iff.mp hname)
    refine Option.ext fun normal => ?_
    rw [hmodel.get?_iff, hpart.get?_iff]
    refine exists_congr fun other => ?_
    rw [List.mem_append, and_congr_left_iff]
    rintro ⟨hother, -⟩
    refine or_iff_left fun hsecond => (hunrelated e he).1 ?_
    exact hother ▸ List.mem_map_of_mem hsecond
  target_eq := by
    intro name normal hget r hr htarget
    obtain ⟨e, he, rfl, hnormal⟩ := hmodel.get?_iff.mp hget
    rw [(Entity.normalize_eq_ok hnormal).2.2] at hr
    rw [hmodel.has_iff, List.map_append, List.mem_append] at htarget
    rw [Bool.eq_iff_iff, hpart.has_iff, hpart.has_iff]
    obtain he | he := List.mem_append.mp he
    · have hnot := (hunrelated e he).2 r hr
      exact iff_of_true (htarget.resolve_right hnot) (List.mem_map_of_mem he)
    · exact iff_of_false ((hunrelated' e he).2 r hr) (hunrelated' e he).1

end EntityModel

/-- **Unrelated entities do not influence each other.**  If two lists of entities are accepted and no
entity of either is named as one of the other or relates to one, then all of them together are
accepted in any order, and what is made of the model says about the entities of each list what is
made of the model of that list alone; the relations that are broken are those of the two. -/
theorem unrelated_independent {entities first second : List Entity} {model₁ model₂ : EntityModel}
    (h₁ : EntityModel.ofEntities first = .ok model₁)
    (h₂ : EntityModel.ofEntities second = .ok model₂) (hunrelated : Unrelated first second)
    (hunrelated' : Unrelated second first) (hperm : entities.Perm (first ++ second)) :
    ∃ model, EntityModel.ofEntities entities = .ok model ∧
      model.Extends model₁ ∧ model.Extends model₂ ∧
      ∀ source target, model.analysis.broken.isBroken source target = true ↔
        model₁.analysis.broken.isBroken source target = true ∨
          model₂.analysis.broken.isBroken source target = true := by
  have hholds₁ := EntityModel.holds_ofEntities h₁
  have hholds₂ := EntityModel.holds_ofEntities h₂
  have hacceptable : EntityModel.Acceptable (first ++ second) :=
    hholds₁.acceptable.append hholds₂.acceptable hunrelated
  have hne : entities ≠ [] := by
    rintro rfl
    have hnil := List.append_eq_nil_iff.mp (List.nil_perm.mp hperm)
    exact (EntityModel.exists_ofEntities_iff.mp ⟨_, h₁⟩).1 hnil.1
  obtain ⟨model, hmodel⟩ := EntityModel.exists_ofEntities_iff.mpr ⟨hne, hacceptable.perm hperm.symm⟩
  have hholds := (EntityModel.holds_ofEntities hmodel).perm hperm
  have haccepted : model.Accepted := .inl ⟨entities, hmodel⟩
  have haccepted₁ : model₁.Accepted := .inl ⟨first, h₁⟩
  have haccepted₂ : model₂.Accepted := .inl ⟨second, h₂⟩
  have hpart₁ := hholds.partOf hholds₁ hunrelated hunrelated'
  have hpart₂ := (hholds.perm List.perm_append_comm).partOf hholds₂ hunrelated' hunrelated
  refine ⟨model, hmodel, .of_partOf hpart₁ haccepted haccepted₁,
    .of_partOf hpart₂ haccepted haccepted₂,
    hpart₁.isBroken_iff haccepted haccepted₁ hpart₂ haccepted₂ fun name hname => ?_⟩
  rwa [hholds.has_iff, List.map_append, List.mem_append, ← hholds₁.has_iff, ← hholds₂.has_iff] at hname

/-- The blog and the newspaper taken together, in turns.  What is broken is what is broken in either,
such as the relation of comments to themselves. -/
theorem unrelated_independent_blog_newspaper :
    ∃ model, EntityModel.ofEntities (blogEntities.take 2 ++ newspaperEntities.take 3 ++
        blogEntities.drop 2 ++ newspaperEntities.drop 3) = .ok model ∧
      model.Extends blog ∧ model.Extends newspaper ∧
      (∀ source target, model.analysis.broken.isBroken source target = true ↔
        blog.analysis.broken.isBroken source target = true ∨
          newspaper.analysis.broken.isBroken source target = true) ∧
      model.analysis.broken.isBroken "Comment" "Comment" = true := by
  have hblog : EntityModel.ofEntities blogEntities = .ok blog :=
    EntityModel.ofEntities_getD (by decide +kernel)
  have hnewspaper : EntityModel.ofEntities newspaperEntities = .ok newspaper :=
    EntityModel.ofEntities_getD (by decide +kernel)
  have hperm : (blogEntities.take 2 ++ newspaperEntities.take 3 ++ blogEntities.drop 2 ++
      newspaperEntities.drop 3).Perm (blogEntities ++ newspaperEntities) := by
    decide +kernel
  obtain ⟨model, hmodel, hextends, hextends', hbroken⟩ := unrelated_independent hblog hnewspaper
    (by decide +kernel) (by decide +kernel) hperm
  have hcomment : blog.analysis.broken.isBroken "Comment" "Comment" = true := by
    by_contra hintact
    have hself : "Comment" ∈ blog.graph.dependencies "Comment" := by decide +kernel
    exact RelationGraph.acyclic_intact blog_accepted.graph_closed blog.graph.order "Comment"
      (.single ⟨hself, Bool.eq_false_iff.mpr hintact⟩)
  exact ⟨model, hmodel, hextends, hextends', hbroken, (hbroken _ _).mpr (.inl hcomment)⟩

end EntityProjection
