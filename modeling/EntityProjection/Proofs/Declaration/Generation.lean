import EntityProjection.Declaration.Generation
import EntityProjection.Proofs.Declaration.Members
import EntityProjection.Proofs.Graph.Emission

/-!
# What a generation holds

A generation succeeds if the names of its declarations are identifiers, pairwise distinct and not the
name of the collection.  Its declarations are those of all entities of the model, each entity once;
so a declaration is told by its name, and found through the entity that it describes.

* `assemble_eq_ok` and `assemble_eq_error`: the declarations that are put into a container, and what
  keeps others out of it;
* `EntityModel.declarations_perm` and `EntityModel.Coherent.mem_declarations`: the declarations of a
  model;
* `EntityModel.exists_generate_iff`: whether a generation succeeds;
* `filter_name_eq`: the only declaration of its name.
-/

namespace EntityProjection

/-! ### The container -/

/-- Declarations are put into a container just if all names in it are identifiers and no name is
declared twice. -/
theorem assemble_eq_ok {ds : List Declaration} {options : Options} {text : String} :
    assemble ds options = .ok text ↔
      (∀ name ∈ containerNames ds options, Text.isIdentifier name = true) ∧
        (options.collectionType :: ds.map Declaration.name).Nodup ∧
          containerText ds options = text := by
  have hnames : ((containerNames ds options).find? fun name => !Text.isIdentifier name) = none ↔
      ∀ name ∈ containerNames ds options, Text.isIdentifier name = true := by
    simp only [List.find?_eq_none, Bool.not_eq_true', Bool.not_eq_false]
  have hnodup : firstTaken? (.ofList [options.collectionType]) (ds.map Declaration.name) = none ↔
      (options.collectionType :: ds.map Declaration.name).Nodup := by
    rw [firstTaken?_eq_none, List.nodup_cons, and_comm]
    refine and_congr_left fun _ => ?_
    simp only [mem_singleton_set]
    exact ⟨fun h hmem => h _ hmem rfl, fun h name hname heq => h (heq ▸ hname)⟩
  rw [← hnames, ← hnodup, assemble]
  split
  · next name hname =>
    refine ⟨nofun, fun h => ?_⟩
    rw [hname] at h
    cases h.1
  · next hname =>
    split
    · next name hcollides =>
      refine ⟨nofun, fun h => ?_⟩
      rw [hcollides] at h
      cases h.2.1
    · next hdistinct =>
      exact ⟨fun h => ⟨hname, hdistinct, Except.ok.inj h⟩, fun h => congrArg _ h.2.2⟩

/-- Declarations are kept out of a container by the first name that is no identifier or, if there is
none, by the first name that is taken. -/
theorem assemble_eq_error {ds : List Declaration} {options : Options} {err : GenerationError}
    (h : assemble ds options = .error err) :
    (∃ name, ((containerNames ds options).find? fun name => !Text.isIdentifier name) = some name ∧
      err = .invalidDeclarationName name) ∨
    ∃ name, firstTaken? (.ofList [options.collectionType]) (ds.map Declaration.name) = some name ∧
      err = .declarationCollision name := by
  rw [assemble] at h
  split at h
  · next name hname =>
    cases h
    exact .inl ⟨name, hname, rfl⟩
  · split at h
    · next name hname =>
      cases h
      exact .inr ⟨name, hname, rfl⟩
    · cases h

/-- What keeps declarations out of a container is a matter of the names in it. -/
theorem assemble_error_congr {ds ds' : List Declaration} {options options' : Options}
    (h : containerNames ds options = containerNames ds' options') {err : GenerationError} :
    assemble ds options = .error err ↔ assemble ds' options' = .error err := by
  obtain ⟨-, hcollection, hnames⟩ : options.container = options'.container ∧
      options.collectionType = options'.collectionType ∧
        ds.map Declaration.name = ds'.map Declaration.name := by
    simpa only [containerNames, List.cons.injEq] using h
  rw [assemble, assemble, h, hcollection, hnames]
  split
  · rfl
  · split
    · rfl
    · exact iff_of_false nofun nofun

/-- A declaration of a list without repeated names is the only one of its name. -/
theorem filter_name_eq {ds : List Declaration} (h : (ds.map Declaration.name).Nodup)
    {d : Declaration} (hd : d ∈ ds) : ds.filter (fun d' => d'.name == d.name) = [d] :=
  filter_eq_of_nodup_map h hd

/-! ### The declarations of a model -/

/-- The names that an entity declares. -/
theorem Projection.declarations_map_name (p : Projection) (e : Entity) :
    (p.declarations e).map Declaration.name =
      e.name :: (e.key.map fun _ => p.options.partialName e.name).toList := by
  rw [declarations]
  cases e.key with
  | none => rfl
  | some key => rfl

namespace EntityModel

variable {model : EntityModel} {options : Options}

theorem generate_eq_ok {g : Generation} :
    model.generate options = .ok g ↔ g.analysis = model.analysis ∧
      g.declarations = model.declarations model.analysis options ∧
        assemble g.declarations options = .ok g.output := by
  constructor
  · intro h
    obtain ⟨output, houtput, hg⟩ := bind_eq_ok h
    cases hg
    exact ⟨rfl, rfl, houtput⟩
  · obtain ⟨analysis, ds, output⟩ := g
    rintro ⟨rfl, rfl, houtput⟩
    simp only [generate]
    rw [houtput]
    rfl

/-- A generation fails just if its declarations cannot be put into a container. -/
theorem generate_eq_error_iff {err : GenerationError} : model.generate options = .error err ↔
    assemble (model.declarations model.analysis options) options = .error err := by
  simp only [generate]
  cases assemble (model.declarations model.analysis options) options with
  | error first =>
    constructor
    · rintro ⟨⟩
      rfl
    · rintro ⟨⟩
      rfl
  | ok output => exact iff_of_false nofun nofun

theorem generate_eq_error {err : GenerationError} (h : model.generate options = .error err) :
    assemble (model.declarations model.analysis options) options = .error err :=
  generate_eq_error_iff.mp h

/-- The names of the declarations of a run are distinct. -/
theorem declaration_names_nodup {g : Generation} (hg : model.generate options = .ok g) :
    (g.declarations.map Declaration.name).Nodup :=
  (List.nodup_cons.mp (assemble_eq_ok.mp (generate_eq_ok.mp hg).2.2).2.1).2

/-- The declarations are those of all entities, in another order. -/
theorem declarations_perm (model : EntityModel) (options : Options) :
    (model.declarations model.analysis options).Perm
      ((model.names.filterMap model.get?).flatMap
        (model.projection model.analysis options).declarations) := by
  have horder : model.analysis.order.Perm model.names := by
    rw [← graph_names]
    exact model.graph.order_perm
  exact (horder.filterMap _).flatMap_right _

/-- A declaration of a model is one of the entity that it describes. -/
theorem Coherent.mem_declarations (hc : model.Coherent) {d : Declaration} :
    d ∈ model.declarations model.analysis options ↔ ∃ e, model.get? d.entity = some e ∧
      d ∈ (model.projection model.analysis options).declarations e := by
  rw [(model.declarations_perm options).mem_iff, List.mem_flatMap]
  simp only [List.mem_filterMap, mem_names_iff]
  constructor
  · rintro ⟨e, ⟨name, -, he⟩, hd⟩
    rw [Projection.declaration_entity hd, hc.named he]
    exact ⟨e, he, hd⟩
  · rintro ⟨e, he, hd⟩
    exact ⟨e, ⟨d.entity, ⟨e, he⟩, he⟩, hd⟩

/-- The names of all declarations, entity by entity in ascending order. -/
def declarationNames (model : EntityModel) (options : Options) : List String :=
  (model.names.filterMap model.get?).flatMap fun e =>
    e.name :: (e.key.map fun _ => options.partialName e.name).toList

theorem declaration_names_perm (model : EntityModel) (options : Options) :
    ((model.declarations model.analysis options).map Declaration.name).Perm
      (model.declarationNames options) := by
  refine ((model.declarations_perm options).map Declaration.name).trans ?_
  rw [List.map_flatMap, declarationNames]
  simp only [Projection.declarations_map_name]
  exact .refl _

/-- Whether a generation succeeds is decided by the names alone. -/
theorem exists_generate_iff :
    (∃ g, model.generate options = .ok g) ↔
      (∀ name ∈ options.container :: options.collectionType :: model.declarationNames options,
        Text.isIdentifier name = true) ∧
        (options.collectionType :: model.declarationNames options).Nodup := by
  have hperm := (model.declaration_names_perm options).cons options.collectionType
  have hmem : ∀ name, name ∈ containerNames (model.declarations model.analysis options) options ↔
      name ∈ options.container :: options.collectionType :: model.declarationNames options :=
    fun name => (hperm.cons options.container).mem_iff
  simp only [← hmem, ← hperm.nodup_iff]
  constructor
  · rintro ⟨g, hg⟩
    obtain ⟨-, hds, hassemble⟩ := generate_eq_ok.mp hg
    rw [hds] at hassemble
    obtain ⟨hidentifiers, hnodup, -⟩ := assemble_eq_ok.mp hassemble
    exact ⟨hidentifiers, hnodup⟩
  · rintro ⟨hidentifiers, hnodup⟩
    have hassemble := assemble_eq_ok.mpr ⟨hidentifiers, hnodup, rfl⟩
    exact ⟨⟨_, _, _⟩, generate_eq_ok.mpr ⟨rfl, rfl, hassemble⟩⟩

end EntityModel

end EntityProjection
