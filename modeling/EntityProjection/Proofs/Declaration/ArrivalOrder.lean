import Mathlib.Data.List.Basic
import EntityProjection.Declaration.Generation
import EntityProjection.Lint.Checks
import EntityProjection.Proofs.Entity.Collection
import EntityProjection.Proofs.Graph.CycleBreaking

/-!
# The order of arrival plays no part

A model remembers in which order its entities came and from where, but nothing that is made of it
looks there: graph, declarations and findings go through the sorted names and the look-ups by name.
So entities in another order, or units in another order, are accepted just if they are as given, and
then everything made of them is the same.

* `EntityModel.SameResults`: the analysis of two models and, under any options, their declarations,
  their generation or its failure, and their findings are the same;
* `EntityModel.Alike.sameResults`: models of the same entities have the same results;
* `arrivalOrder_irrelevant`: entities and units in any order.
-/

namespace EntityProjection

namespace EntityModel

/-- What is made of two models is the same. -/
structure SameResults (model model' : EntityModel) : Prop where
  analysis_eq : model.analysis = model'.analysis
  declarations_eq : ∀ options, model.declarations model.analysis options =
    model'.declarations model'.analysis options
  generate_eq : ∀ options, model.generate options = model'.generate options
  findings_eq : ∀ options, model.findings options = model'.findings options

/-- Models that differ in the order and the origin of their entities only have the same results. -/
theorem Alike.sameResults {model model' : EntityModel} (h : model.Alike model') :
    model.SameResults model' := by
  have hget : model.get? = model'.get? := by
    funext name
    rw [get?, get?, h.entities_eq]
  have hnames : model.names = model'.names := by
    rw [names, names, h.entities_eq]
  have hgraph : model.graph = model'.graph := by
    rw [graph, graph, h.entities_eq, h.keys_eq]
  have hanalysis : model.analysis = model'.analysis := by
    rw [analysis, analysis, hgraph]
  have hdeclarations : ∀ options, model.declarations model.analysis options =
      model'.declarations model'.analysis options := by
    intro options
    rw [declarations, declarations, projection, projection, hget, hanalysis, h.keys_eq]
  refine ⟨hanalysis, hdeclarations, fun options => ?_, fun options => ?_⟩
  · simp only [generate]
    rw [hdeclarations, hanalysis]
  · simp only [findings, declaredNames, hget, hnames, h.keys_eq]

/-- Models collected from the same entities have the same results, whatever order they came in. -/
theorem Holds.sameResults {model model' : EntityModel} {entities entities' : List Entity}
    (h : model.Holds entities) (h' : model'.Holds entities') (hperm : entities.Perm entities')
    (hmodel : model.Accepted) (hmodel' : model'.Accepted) : model.SameResults model' :=
  (h.alike (h'.perm hperm.symm) hmodel.coherent hmodel'.coherent).sameResults

/-- One half of the symmetry between units and units in another order. -/
theorem exists_collect_of_perm {extract : Extractor} {units units' : Units}
    (hperm : units.entries.Perm units'.entries) (h : ∃ model, collect extract units = .ok model) :
    ∃ model, collect extract units' = .ok model := by
  obtain ⟨arrivals, harrivals, hne, hall⟩ := exists_collect_iff.mp h
  obtain ⟨arrivals', harrivals', hperm'⟩ := unitArrivals_perm hperm harrivals
  refine exists_collect_iff.mpr ⟨arrivals', harrivals', ?_, hall.perm (hperm'.map _)⟩
  rintro rfl
  exact hne (List.perm_nil.mp hperm')

end EntityModel

/-- **The order of arrival plays no part.**  Entities in another order are accepted just if they are
as given, and the results are the same then; so it is with units in another order, whatever their
entities are read with. -/
theorem arrivalOrder_irrelevant :
    (∀ entities entities' : List Entity, entities.Perm entities' →
      ((∃ model, EntityModel.ofEntities entities = .ok model) ↔
        ∃ model, EntityModel.ofEntities entities' = .ok model) ∧
      ∀ model model', EntityModel.ofEntities entities = .ok model →
        EntityModel.ofEntities entities' = .ok model' → model.SameResults model') ∧
    ∀ (extract : Extractor) (units units' : Units), units.entries.Perm units'.entries →
      ((∃ model, EntityModel.collect extract units = .ok model) ↔
        ∃ model, EntityModel.collect extract units' = .ok model) ∧
      ∀ model model', EntityModel.collect extract units = .ok model →
        EntityModel.collect extract units' = .ok model' → model.SameResults model' := by
  constructor
  · intro entities entities' hperm
    refine ⟨?_, fun model model' h h' => ?_⟩
    · rw [EntityModel.exists_ofEntities_iff, EntityModel.exists_ofEntities_iff]
      refine and_congr (not_congr ?_) ⟨fun h => h.perm hperm, fun h => h.perm hperm.symm⟩
      exact ⟨fun hnil => List.nil_perm.mp (hnil ▸ hperm), fun hnil => List.perm_nil.mp (hnil ▸ hperm)⟩
    · exact (EntityModel.holds_ofEntities h).sameResults (EntityModel.holds_ofEntities h') hperm
        (.inl ⟨entities, h⟩) (.inl ⟨entities', h'⟩)
  · intro extract units units' hperm
    refine ⟨⟨EntityModel.exists_collect_of_perm hperm, EntityModel.exists_collect_of_perm hperm.symm⟩,
      fun model model' h h' => ?_⟩
    obtain ⟨arrivals, harrivals, hholds⟩ := EntityModel.holds_collect h
    obtain ⟨arrivals', harrivals', hholds'⟩ := EntityModel.holds_collect h'
    obtain ⟨arrivals'', harrivals'', hperm'⟩ := EntityModel.unitArrivals_perm hperm harrivals
    obtain rfl : arrivals' = arrivals'' := Except.ok.inj (harrivals'.symm.trans harrivals'')
    exact hholds.sameResults hholds' (hperm'.map _) (.inr ⟨extract, units, h⟩)
      (.inr ⟨extract, units', h'⟩)

/-- The blog backwards arrives in another order, but its results are the same; and so it is with three
units of which each holds the entity that it is named for. -/
theorem arrivalOrder_blog :
    (∃ model model', EntityModel.ofEntities blogEntities = .ok model ∧
      EntityModel.ofEntities blogEntities.reverse = .ok model' ∧
      model.arrivals ≠ model'.arrivals ∧ model.SameResults model') ∧
    ∃ (extract : Extractor) (units : Units) (model model' : EntityModel),
      units.ids = ["User", "Post", "Comment"] ∧
      EntityModel.collect extract units = .ok model ∧
      EntityModel.collect extract ⟨units.entries.reverse⟩ = .ok model' ∧
      model.SameResults model' := by
  constructor
  · have h : EntityModel.ofEntities blogEntities = .ok _ :=
      EntityModel.ofEntities_getD (by decide +kernel)
    have h' : EntityModel.ofEntities blogEntities.reverse = .ok _ :=
      EntityModel.ofEntities_getD (by decide +kernel)
    exact ⟨_, _, h, h', by decide +kernel,
      (arrivalOrder_irrelevant.1 _ _ (List.reverse_perm _).symm).2 _ _ h h'⟩
  · let extract : Extractor := fun id _ => .ok (blogEntities.filter fun e => e.name == id)
    let units : Units := ⟨blogEntities.map fun e => (e.name, ⟨.json, ""⟩)⟩
    have hresults := arrivalOrder_irrelevant.2 extract units ⟨units.entries.reverse⟩
      (List.reverse_perm _).symm
    obtain ⟨model, h⟩ : ∃ model, EntityModel.collect extract units = .ok model :=
      exists_eq_ok_of_isSome (by decide +kernel)
    obtain ⟨model', h'⟩ := hresults.1.mp ⟨model, h⟩
    exact ⟨extract, units, model, model', by decide, h, h', hresults.2 model model' h h'⟩

end EntityProjection
