import EntityProjection.Proofs.Declaration.Generation
import EntityProjection.Proofs.Graph.CycleBreaking

/-!
# References resolve and never recurse

A reference stands for an unbroken relation to an entity with a key.  Such an entity has a partial
declaration, which is the only one of its name as no two declarations share a name; so a reference
leads from the entity of the one declaration to that of the other along an unbroken relation, and as
these form no circle, neither do the references.

* `EntityModel.Coherent.reference_target`: what a reference in a declaration of a model stands for;
* `Generation.RefersTo`: a declaration of a run contains a reference to another one;
* `references_resolve`: every reference names one partial declaration, and to follow references comes
  to an end.
-/

namespace EntityProjection

namespace EntityModel

variable {model : EntityModel} {options : Options}

/-- An entity with a key has a partial declaration. -/
theorem Coherent.exists_companion (hc : model.Coherent) {name : String} {key : PrimaryKey}
    (hkey : model.keys.key? name = some key) :
    ∃ d ∈ model.declarations model.analysis options,
      d.name = options.partialName name ∧ d.entity = name ∧ d.kind = .companion := by
  rw [hc.key?_eq, Option.bind_eq_some_iff] at hkey
  obtain ⟨e, he, hkey⟩ := hkey
  have hname : e.name = name := hc.named he
  refine ⟨(model.projection model.analysis options).companion e key, ?_, ?_, hname, rfl⟩
  · refine hc.mem_declarations.mpr ⟨e, ?_, Projection.mem_declarations.mpr (.inr ⟨key, hkey, rfl⟩)⟩
    show model.get? e.name = some e
    rw [hname, he]
  · show options.partialName e.name = options.partialName name
    rw [hname]

/-- A reference in a member stands for an unbroken relation of the member's field, and names the
partial declaration of its target. -/
theorem Coherent.reference_target (hc : model.Coherent) {d : Declaration}
    (hd : d ∈ model.declarations model.analysis options) {i : Nat} {m : Member TypeExpr}
    (hm : d.members[i]? = some m) {n : String} (hn : (TypeExpr.reference n).Occurs m.type) :
    ∃ e f multiplicity target, model.get? d.entity = some e ∧ e.fields[i]? = some f ∧
      f.name = m.name ∧ f.kind = .relation multiplicity target ∧
      model.graph.Intact model.analysis.broken d.entity target ∧
      ∃ d' ∈ model.declarations model.analysis options,
        d'.name = n ∧ d'.entity = target ∧ d'.kind = .companion := by
  obtain ⟨e, he, hde⟩ := hc.mem_declarations.mp hd
  obtain ⟨f, hf, hname, htype⟩ := Projection.member_eq hde hm
  rw [htype, Projection.reference_occurs_fieldType] at hn
  obtain ⟨multiplicity, target, hkind, hknown, hn⟩ := hn
  obtain ⟨⟨key, hkey⟩, -, hbroken, rfl⟩ := Projection.reference_occurs_element.mp hn
  have hedge := graph_dependsOn_of_field he (List.mem_of_getElem? hf) hkind hknown
  rw [← Projection.declaration_entity hde] at hbroken
  exact ⟨e, f, multiplicity, target, he, hf, hname.symm, hkind, ⟨hedge, hbroken⟩,
    hc.exists_companion hkey⟩

end EntityModel

/-! ### References between declarations -/

/-- A declaration of a run contains a reference to another one of the run. -/
def Generation.RefersTo (g : Generation) (d d' : Declaration) : Prop :=
  d ∈ g.declarations ∧ d' ∈ g.declarations ∧
    ∃ m ∈ d.members, (TypeExpr.reference d'.name).Occurs m.type

variable {model : EntityModel} {options : Options} {g : Generation}

/-- References lead along unbroken relations. -/
theorem Generation.RefersTo.intact (hc : model.Coherent) (hg : model.generate options = .ok g)
    {d d' : Declaration} (hr : g.RefersTo d d') :
    model.graph.Intact model.analysis.broken d.entity d'.entity := by
  obtain ⟨hd, hd', m, hm, hn⟩ := hr
  obtain ⟨i, hi⟩ := List.getElem?_of_mem hm
  have hnodup := EntityModel.declaration_names_nodup hg
  rw [(EntityModel.generate_eq_ok.mp hg).2.1] at hd hd' hnodup
  obtain ⟨e, f, multiplicity, target, -, -, -, -, hintact, d'', hd'', hname, rfl, -⟩ :=
    hc.reference_target hd hi hn
  -- Names are distinct, so that the declaration named is the one that the relation leads to.
  have hsame : [d''] = [d'] := by
    rw [← filter_name_eq hnodup hd'', ← filter_name_eq hnodup hd', hname]
  cases hsame
  exact hintact

/-- **References resolve and never recurse.**  Every reference in a member of a generated declaration
names exactly one generated declaration, the partial one of the entity that the member's field relates
to; every generic type is the collection, which the output declares beside the declarations; and
references form no circle, so that to follow them comes to an end. -/
theorem references_resolve (h : model.Accepted ∨ model = .empty)
    (hg : model.generate options = .ok g) :
    (∀ d ∈ g.declarations, ∀ (i : Nat) (m : Member TypeExpr), d.members[i]? = some m →
      (∀ n, (TypeExpr.reference n).Occurs m.type →
        ∃ (e : Entity) (f : Field) (multiplicity : Multiplicity) (target : String)
          (d' : Declaration), model.get? d.entity = some e ∧ e.fields[i]? = some f ∧
          f.name = m.name ∧ f.kind = .relation multiplicity target ∧
          g.declarations.filter (fun other => other.name == n) = [d'] ∧
          d'.entity = target ∧ d'.kind = .companion) ∧
      ∀ n args, (TypeExpr.generic n args).Occurs m.type → n = options.collectionType) ∧
    (g.output = containerText g.declarations options ∧
      options.collectionType ∉ g.declarations.map Declaration.name) ∧
    Acyclic g.RefersTo ∧ WellFounded fun d' d => g.RefersTo d d' := by
  have hc : model.Coherent := EntityModel.coherent_of_accepted_or_empty h
  obtain ⟨-, hds, hassemble⟩ := EntityModel.generate_eq_ok.mp hg
  obtain ⟨-, hnodup, houtput⟩ := assemble_eq_ok.mp hassemble
  rw [List.nodup_cons] at hnodup
  have hacyclic : Acyclic g.RefersTo := by
    have hintact := RelationGraph.acyclic_intact hc.graph_closed model.graph.order
    exact hintact.comap Declaration.entity fun d d' hr => hr.intact hc hg
  refine ⟨fun d hd i m hm => ⟨fun n hn => ?_, fun n args hn => ?_⟩,
    ⟨houtput.symm, hnodup.1⟩, hacyclic, hacyclic.wellFounded fun d d' hr => hr.2.1⟩
  · rw [hds] at hd
    obtain ⟨e, f, multiplicity, target, he, hf, hname, hkind, -, d', hd', rfl, htarget, hpartial⟩ :=
      hc.reference_target hd hm hn
    rw [← hds] at hd'
    exact ⟨e, f, multiplicity, target, d', he, hf, hname, hkind, filter_name_eq hnodup.2 hd',
      htarget, hpartial⟩
  · rw [hds] at hd
    obtain ⟨e, -, hde⟩ := hc.mem_declarations.mp hd
    obtain ⟨f, -, -, htype⟩ := Projection.member_eq hde hm
    rw [htype] at hn
    exact Projection.generic_occurs_fieldType hn

theorem blog_generates : ∃ g, blog.generate (.ofTarget .zod) = .ok g := by
  have hnames : blog.declarationNames (.ofTarget .zod) =
      ["Comment", "Post", "PostPartial", "User", "UserPartial"] := by
    decide +kernel
  rw [EntityModel.exists_generate_iff, hnames]
  decide +kernel

/-- The blog is generated, and to follow references in it comes to an end. -/
theorem references_resolve_blog : ∃ g, blog.generate (.ofTarget .zod) = .ok g ∧
    WellFounded fun d' d => g.RefersTo d d' := by
  obtain ⟨g, hg⟩ := blog_generates
  exact ⟨g, hg, (references_resolve (.inl blog_accepted) hg).2.2.2⟩

end EntityProjection
