import EntityProjection.Proofs.Declaration.Generation
import EntityProjection.Proofs.Graph.CycleBreaking
import EntityProjection.Proofs.Lint.Findings

/-!
# What the checks say about a generation

The checks and the container look for the same two faults of declaration names, each in its own way:
the container takes the finished names, main and partial declarations by turns in emission order; the
checks take the entities first and their partial declarations after them, and see of a partial name
only the suffix.  Both come to the same result, since a suffix spoils no identifier or all of them,
and a name is as often in the one sequence as in the other.

* `Reports`: an error of a code about a place is among some findings;
* `EntityModel.declarationSequence`: the declaration names of a model, the collection first;
* `EntityModel.Coherent.collisionCount_findings`: how many collisions of a name are reported;
* `lint_predicts_generation`: without errors a generation succeeds, and if it fails then an error is
  reported about what made it fail;
* `EntityModel.Coherent.exists_generate_iff_errors` and `errors_block_generation`: an error blocks a
  generation unless it is about a suffix that no declaration gets.
-/

namespace EntityProjection

/-! ### Identifiers with a suffix -/

/-- A suffix keeps an identifier an identifier just if all its characters may follow in one. -/
theorem Text.isIdentifier_append {name : String} (h : isIdentifier name = true) (suffix : String) :
    isIdentifier (name ++ suffix) = isSuffix suffix := by
  rw [isIdentifier, String.toList_append]
  rw [isIdentifier] at h
  cases hchars : name.toList with
  | nil =>
    rw [hchars] at h
    cases h
  | cons c cs =>
    simp only [hchars, Bool.and_eq_true] at h
    simp only [List.cons_append, List.all_append, h.1, h.2, Bool.true_and, isSuffix]

/-! ### Errors among findings -/

/-- An error of the given code about the given place is among the findings. -/
def Reports (findings : List Finding) (code location : String) : Prop :=
  ∃ f ∈ findings, f.severity = .error ∧ f.code = code ∧ f.location = location

/-- How many collisions are reported of a declaration name. -/
def collisionCount (findings : List Finding) (name : String) : ℕ :=
  findings.countP fun f =>
    f.code == "declaration_collision" && f.location == s!"declaration:{name}"

/-- The findings that are counted are the collisions of the name. -/
theorem isCollision_iff {f : Finding} {name : String} :
    (f.code == "declaration_collision" && f.location == s!"declaration:{name}") = true ↔
      ∃ first again, f = .nameCollision name first again := by
  rw [Bool.and_eq_true, beq_iff_eq, beq_iff_eq]
  constructor
  · rintro ⟨hcode, hlocation⟩
    cases f with
    | nameCollision other first again =>
      obtain rfl : other = name := (String.append_right_inj _).mp hlocation
      exact ⟨first, again, rfl⟩
    | _ => exact absurd hcode (by simp [Finding.code])
  · rintro ⟨first, again, rfl⟩
    exact ⟨rfl, rfl⟩

theorem collisionCount_append (findings findings' : List Finding) (name : String) :
    collisionCount (findings ++ findings') name =
      collisionCount findings name + collisionCount findings' name :=
  List.countP_append

/-! ### Collisions -/

theorem collisionCount_singleton (other : String) (first again : NameOrigin) (name : String) :
    collisionCount [.nameCollision other first again] name = if other = name then 1 else 0 := by
  split
  · next heq =>
    refine List.countP_eq_length.mpr fun f hf => isCollision_iff.mpr ⟨first, again, ?_⟩
    rw [List.mem_singleton.mp hf, heq]
  · next hne =>
    refine List.countP_eq_zero.mpr fun f hf hcollision => hne ?_
    obtain ⟨_, _, rfl⟩ := isCollision_iff.mp hcollision
    exact (Finding.nameCollision.inj (List.mem_singleton.mp hf)).1.symm

/-- A name collides whenever it is used and was declared before: every time if it is declared to
begin with, else every time but the first. -/
theorem collisionCount_collisionFindings (declared : Std.ExtTreeMap String NameOrigin)
    (names : List (String × NameOrigin)) (name : String) :
    collisionCount (collisionFindings declared names) name =
      if name ∈ declared then (names.map Prod.fst).count name
      else (names.map Prod.fst).count name - 1 := by
  induction names generalizing declared with
  | nil => simp [collisionFindings, collisionCount]
  | cons entry rest ih =>
    obtain ⟨other, origin⟩ := entry
    rw [List.map_cons, List.count_cons, collisionFindings]
    split
    · next first hfirst =>
      have hmem : other ∈ declared := Std.ExtTreeMap.mem_iff_isSome_getElem?.mpr (by rw [hfirst]; rfl)
      rw [← List.singleton_append, collisionCount_append, collisionCount_singleton, ih]
      by_cases heq : other = name
      · subst heq
        simp [hmem, Nat.add_comm]
      · simp [heq]
    · next hnew =>
      have hmem : other ∉ declared := by
        rw [Std.ExtTreeMap.mem_iff_isSome_getElem?, hnew]
        exact Bool.false_ne_true
      rw [ih]
      by_cases heq : other = name
      · subst heq
        simp [hmem]
      · simp [heq]

theorem collisionCount_eq_zero {findings : List Finding}
    (h : ∀ f ∈ findings, f.code ≠ "declaration_collision") (name : String) :
    collisionCount findings name = 0 := by
  refine List.countP_eq_zero.mpr fun f hf hcollision => h f hf ?_
  obtain ⟨_, _, rfl⟩ := isCollision_iff.mp hcollision
  rfl

/-! ### The names of a model -/

namespace EntityModel

variable {model : EntityModel} {options : Options}

/-- The declaration names of a model: the name of the collection, the names of all entities, and the
partial names of those with a key. -/
def declarationSequence (model : EntityModel) (options : Options) : List String :=
  options.collectionType :: (model.names ++
    (model.names.filter fun name => ((model.get? name).bind Entity.key).isSome).map
      options.partialName)

/-- The names that are checked are those of the sequence after the collection. -/
theorem Coherent.declaredNames_map_fst (hc : model.Coherent) :
    options.collectionType :: (declaredNames model options).map Prod.fst =
      model.declarationSequence options := by
  simp only [declaredNames, declarationSequence, List.map_append, List.map_map, Function.comp_def,
    List.map_id', hc.key?_eq]

/-- The names that are generated are those of the sequence. -/
theorem Coherent.declarationNames_perm (hc : model.Coherent) :
    (options.collectionType :: model.declarationNames options).Perm
      (model.declarationSequence options) := by
  have hknown : ∀ name ∈ model.names, ∃ e, model.get? name = some e := fun name =>
    (mem_names_iff name).mp
  have hmain : (model.names.filterMap model.get?).flatMap (fun e => [e.name]) = model.names := by
    rw [← List.map_eq_flatMap, hc.map_name_filterMap_get? hknown]
  have hcompanion : ((model.names.filterMap model.get?).flatMap fun e =>
      (e.key.map fun _ => options.partialName e.name).toList) =
        (model.names.filter fun name => ((model.get? name).bind Entity.key).isSome).map
          options.partialName := by
    generalize model.names = names at hknown
    induction names with
    | nil => rfl
    | cons name rest ih =>
      obtain ⟨e, he⟩ := hknown name List.mem_cons_self
      rw [List.filterMap_cons_some he, List.flatMap_cons, List.filter_cons, he, hc.named he,
        ih fun other ho => hknown other (List.mem_cons_of_mem _ ho)]
      cases hkey : e.key <;> simp [hkey]
  have hperm := List.flatMap_append_perm (model.names.filterMap model.get?)
    (fun e => [e.name]) fun e => (e.key.map fun _ => options.partialName e.name).toList
  rw [hmain, hcompanion] at hperm
  exact hperm.symm.cons _

/-- A generation fails with a collision if its names are identifiers but not distinct. -/
theorem exists_generate_eq_collision
    (hidentifiers : ∀ name ∈ options.container :: options.collectionType ::
      model.declarationNames options, Text.isIdentifier name = true)
    (hrepeated : ¬(options.collectionType :: model.declarationNames options).Nodup) :
    ∃ name, model.generate options = .error (.declarationCollision name) := by
  cases hgenerate : model.generate options with
  | ok g => exact absurd (exists_generate_iff.mp ⟨g, hgenerate⟩).2 hrepeated
  | error err =>
    obtain ⟨name, hname, rfl⟩ | ⟨name, -, rfl⟩ := assemble_eq_error (generate_eq_error hgenerate)
    · have hperm := ((model.declaration_names_perm options).cons options.collectionType).cons
        options.container
      have hvalid := hidentifiers name (hperm.mem_iff.mp (List.mem_of_find?_eq_some hname))
      have hinvalid := List.find?_some hname
      rw [hvalid] at hinvalid
      cases hinvalid
    · exact ⟨name, rfl⟩

/-- The name of the container is the first to be checked. -/
theorem generate_of_container (h : Text.isIdentifier options.container = false) :
    model.generate options = .error (.invalidDeclarationName options.container) := by
  have hassemble : assemble (model.declarations model.analysis options) options =
      .error (.invalidDeclarationName options.container) := by
    rw [assemble, containerNames, List.find?_cons, h]
    rfl
  simp only [generate]
  rw [hassemble]
  rfl

/-! ### What is reported of a model -/

theorem code_of_mem_settingFindings {f : Finding} (hf : f ∈ settingFindings options) :
    f.code = "invalid_identifier" := by
  obtain ⟨rfl, -⟩ | ⟨rfl, -⟩ | ⟨rfl, -⟩ := mem_settingFindings.mp hf
  all_goals rfl

theorem code_of_mem_entityFindings {keys : KeyIndex} {e : Entity} {f : Finding}
    (hf : f ∈ entityFindings keys e) : f.code ≠ "declaration_collision" := by
  simp only [mem_entityFindings, mem_entityNameFindings, mem_relationFindings] at hf
  obtain (⟨rfl, -⟩ | ⟨rfl, -⟩) | ⟨rfl, -⟩ | ⟨r, -, ⟨rfl, -⟩ | ⟨rfl, -⟩⟩ := hf
  all_goals simp [Finding.code]

/-- **How many collisions of a name are reported**: one for every use of the name but the first. -/
theorem Coherent.collisionCount_findings (hc : model.Coherent) (options : Options) (name : String) :
    collisionCount (model.findings options) name =
      (model.declarationSequence options).count name - 1 := by
  have hsettings : collisionCount (settingFindings options) name = 0 :=
    collisionCount_eq_zero (fun f hf => by rw [code_of_mem_settingFindings hf]; decide) name
  have hentities : collisionCount ((model.names.filterMap model.get?).flatMap
      (entityFindings model.keys)) name = 0 := by
    refine collisionCount_eq_zero (fun f hf => ?_) name
    obtain ⟨e, -, hf⟩ := List.mem_flatMap.mp hf
    exact code_of_mem_entityFindings hf
  rw [findings, collisionCount_append, collisionCount_append, hsettings, hentities,
    collisionCount_collisionFindings, ← hc.declaredNames_map_fst, List.count_cons]
  by_cases heq : options.collectionType = name
  all_goals simp [heq]

/-- A collision is found just of the names that are used twice. -/
theorem Coherent.nameCollision_mem_iff (hc : model.Coherent) {name : String} :
    (∃ first again, .nameCollision name first again ∈ model.findings options) ↔
      2 ≤ (model.declarationSequence options).count name := by
  have hcount : 0 < collisionCount (model.findings options) name ↔
      ∃ first again, .nameCollision name first again ∈ model.findings options := by
    rw [collisionCount, List.countP_pos_iff]
    simp only [isCollision_iff]
    constructor
    · rintro ⟨_, hf, first, again, rfl⟩
      exact ⟨first, again, hf⟩
    · rintro ⟨first, again, hf⟩
      exact ⟨_, hf, first, again, rfl⟩
  rw [← hcount, hc.collisionCount_findings]
  omega

/-- A name that is used twice is reported as a collision. -/
theorem Coherent.reports_collision (hc : model.Coherent) {name : String}
    (h : 2 ≤ (model.declarationSequence options).count name) :
    Reports (model.findings options) "declaration_collision" s!"declaration:{name}" := by
  obtain ⟨first, again, hf⟩ := hc.nameCollision_mem_iff.mpr h
  exact ⟨_, hf, rfl, rfl, rfl⟩

theorem Coherent.invalidContainer_mem (hc : model.Coherent)
    (h : ¬Text.isIdentifier options.container = true) :
    .invalidSetting .container options.container ∈ model.findings options :=
  hc.mem_findings.mpr (.inl (mem_settingFindings.mpr (.inl ⟨rfl, h⟩)))

theorem Coherent.invalidCollectionType_mem (hc : model.Coherent)
    (h : ¬Text.isIdentifier options.collectionType = true) :
    .invalidSetting .collectionType options.collectionType ∈ model.findings options :=
  hc.mem_findings.mpr (.inl (mem_settingFindings.mpr (.inr (.inl ⟨rfl, h⟩))))

/-- The suffix is found fault with just if an identifier would be none with it. -/
theorem Coherent.invalidSuffix_mem_iff (hc : model.Coherent) :
    .invalidSuffix options.partialSuffix ∈ model.findings options ↔
      ¬isSuffix options.partialSuffix = true := by
  refine ⟨fun hf => ?_, fun h =>
    hc.mem_findings.mpr (.inl (mem_settingFindings.mpr (.inr (.inr ⟨rfl, h⟩))))⟩
  obtain hf | ⟨e, -, hf⟩ | hf := hc.mem_findings.mp hf
  · simpa [mem_settingFindings] using hf
  · simp [mem_entityFindings, mem_entityNameFindings, mem_relationFindings] at hf
  · obtain ⟨name, first, again, hf⟩ := mem_collisionFindings hf
    cases hf

theorem Coherent.invalidEntityName_mem (hc : model.Coherent) {e : Entity}
    (he : model.get? e.name = some e) (h : ¬Text.isIdentifier e.name = true) :
    .invalidEntityName e.name ∈ model.findings options := by
  refine hc.mem_findings.mpr (.inr (.inl ⟨e, he, ?_⟩))
  exact mem_entityFindings.mpr (.inl (mem_entityNameFindings.mpr (.inl ⟨rfl, h⟩)))

/-- An error is reported about what makes a name invalid: it is the name of the container, of the
collection or of an entity, or the partial name of an entity that itself is named by an identifier,
so that the suffix spoils it. -/
def BlamesName (model : EntityModel) (options : Options) (name : String) : Prop :=
  (name = options.container ∧
    Reports (model.findings options) "invalid_identifier" "config:namespace") ∨
  (name = options.collectionType ∧
    Reports (model.findings options) "invalid_identifier" "config:collection_type") ∨
  (name ∈ model.names ∧
    Reports (model.findings options) "invalid_identifier" s!"entity:{name}") ∨
  ∃ e ∈ model.names.filterMap model.get?, e.key.isSome = true ∧
    Text.isIdentifier e.name = true ∧ name = options.partialName e.name ∧
      Reports (model.findings options) "invalid_identifier" "config:partial_suffix"

/-- The first name of an entity that is no identifier is its own name, or its partial name if its
own name is one. -/
theorem find?_declaration_names {p : Projection} {e : Entity} {name : String}
    (h : ((p.declarations e).map Declaration.name).find? (fun name => !Text.isIdentifier name) =
      some name) :
    name = e.name ∨ e.key.isSome = true ∧ Text.isIdentifier e.name = true ∧
      name = p.options.partialName e.name := by
  rw [Projection.declarations_map_name, List.find?_cons] at h
  split at h
  · exact .inl (Option.some.inj h).symm
  · next hvalid =>
    cases hkey : e.key with
    | none =>
      rw [hkey] at h
      cases h
    | some key =>
      rw [hkey] at h
      have hmem := List.mem_singleton.mp (List.mem_of_find?_eq_some h)
      exact .inr ⟨rfl, by simpa using hvalid, hmem⟩

/-- The first name of a container that is no identifier is reported. -/
theorem Coherent.blamesName (hc : model.Coherent) {name : String}
    (h : (containerNames (model.declarations model.analysis options) options).find?
      (fun name => !Text.isIdentifier name) = some name) : model.BlamesName options name := by
  have hinvalid : ¬Text.isIdentifier name = true := by
    simpa using List.find?_some h
  rw [containerNames, List.find?_cons] at h
  split at h
  · obtain rfl := Option.some.inj h
    exact .inl ⟨rfl, _, hc.invalidContainer_mem hinvalid, rfl, rfl, rfl⟩
  rw [List.find?_cons] at h
  split at h
  · obtain rfl := Option.some.inj h
    exact .inr (.inl ⟨rfl, _, hc.invalidCollectionType_mem hinvalid, rfl, rfl, rfl⟩)
  rw [declarations, List.map_flatMap, List.find?_flatMap] at h
  obtain ⟨e, he, h⟩ := List.exists_of_findSome?_eq_some h
  obtain ⟨found, -, hget⟩ := List.mem_filterMap.mp he
  obtain rfl := hc.named hget
  have hname : e.name ∈ model.names := (mem_names_iff e.name).mpr ⟨e, hget⟩
  have hmem : e ∈ model.names.filterMap model.get? := List.mem_filterMap.mpr ⟨e.name, hname, hget⟩
  obtain rfl | ⟨hkey, howner, rfl⟩ := find?_declaration_names h
  · exact .inr (.inr (.inl ⟨hname, _, hc.invalidEntityName_mem hget hinvalid, rfl, rfl, rfl⟩))
  · have hsuffix : ¬isSuffix options.partialSuffix = true := fun hsuffix =>
      hinvalid ((Text.isIdentifier_append howner _).trans hsuffix)
    have hfound := hc.invalidSuffix_mem_iff.mpr hsuffix
    exact .inr (.inr (.inr ⟨e, hmem, hkey, howner, rfl, _, hfound, rfl, rfl, rfl⟩))

/-! ### Errors that block a generation -/

/-- No entity has a key. -/
def Keyless (model : EntityModel) : Prop :=
  ∀ name e, model.get? name = some e → e.key = none

/-- The names that are declared: those of the entities, and the partial names of entities with a
key. -/
theorem Coherent.mem_declarationNames (hc : model.Coherent) {name : String} :
    name ∈ model.declarationNames options ↔ ∃ e, model.get? e.name = some e ∧
      (name = e.name ∨ e.key.isSome = true ∧ name = options.partialName e.name) := by
  have hnames : ∀ e : Entity, name ∈
      e.name :: (e.key.map fun _ => options.partialName e.name).toList ↔
        name = e.name ∨ e.key.isSome = true ∧ name = options.partialName e.name := by
    intro e
    cases e.key <;> simp
  simp only [declarationNames, List.mem_flatMap, List.mem_filterMap, hnames]
  refine exists_congr fun e => and_congr_left fun _ => ⟨?_, fun he => ?_⟩
  · rintro ⟨other, -, he⟩
    rwa [hc.named he]
  · exact ⟨e.name, (mem_names_iff e.name).mpr ⟨e, he⟩, he⟩

/-- A generation succeeds if the container, the collection and the entities are named by identifiers,
the suffix keeps them identifiers where there are partial declarations, and no name is declared
twice. -/
theorem Coherent.exists_generate_iff_names (hc : model.Coherent) :
    (∃ g, model.generate options = .ok g) ↔
      Text.isIdentifier options.container = true ∧
        Text.isIdentifier options.collectionType = true ∧
        (∀ e, model.get? e.name = some e → Text.isIdentifier e.name = true ∧
          (e.key.isSome = true → isSuffix options.partialSuffix = true)) ∧
        (model.declarationSequence options).Nodup := by
  rw [exists_generate_iff, hc.declarationNames_perm.nodup_iff, List.forall_mem_cons,
    List.forall_mem_cons, and_assoc, and_assoc]
  refine and_congr_right fun _ => and_congr_right fun _ => and_congr_left fun _ => ?_
  simp only [hc.mem_declarationNames]
  constructor
  · intro hidentifiers e he
    have howner := hidentifiers e.name ⟨e, he, .inl rfl⟩
    refine ⟨howner, fun hkey => ?_⟩
    rw [← Text.isIdentifier_append howner]
    exact hidentifiers _ ⟨e, he, .inr ⟨hkey, rfl⟩⟩
  · rintro hentities name ⟨e, he, rfl | ⟨hkey, rfl⟩⟩
    · exact (hentities e he).1
    · exact (Text.isIdentifier_append (hentities e he).1 _).trans ((hentities e he).2 hkey)

/-- **Which errors block a generation.**  All of them do but one: a suffix that would spoil a name
does no harm if no entity has a key. -/
theorem Coherent.exists_generate_iff_errors (hc : model.Coherent) :
    (∃ g, model.generate options = .ok g) ↔
      ∀ f ∈ model.findings options, f.isError = true →
        f = .invalidSuffix options.partialSuffix ∧ model.Keyless := by
  rw [hc.exists_generate_iff_names]
  constructor
  · rintro ⟨hcontainer, hcollection, hentities, hnodup⟩ f hf herror
    obtain hf | ⟨e, he, hf⟩ | hf := hc.mem_findings.mp hf
    · obtain ⟨-, hinvalid⟩ | ⟨-, hinvalid⟩ | ⟨rfl, hinvalid⟩ := mem_settingFindings.mp hf
      · exact absurd hcontainer hinvalid
      · exact absurd hcollection hinvalid
      · refine ⟨rfl, fun name e he => ?_⟩
        rw [← Option.not_isSome_iff_eq_none]
        exact fun hkey => hinvalid ((hentities e ((hc.named he).symm ▸ he)).2 hkey)
    · simp only [mem_entityFindings, mem_entityNameFindings, mem_relationFindings] at hf
      obtain (⟨-, hinvalid⟩ | ⟨rfl, -⟩) | ⟨rfl, -⟩ | ⟨r, -, ⟨rfl, -⟩ | ⟨rfl, -⟩⟩ := hf
      · exact absurd (hentities e he).1 hinvalid
      -- Whatever else is found about an entity is no error.
      all_goals cases herror
    · obtain ⟨name, first, again, rfl⟩ := mem_collisionFindings hf
      have htwice := hc.nameCollision_mem_iff.mp
        ⟨first, again, hc.mem_findings.mpr (.inr (.inr hf))⟩
      have hle := List.nodup_iff_count_le_one.mp hnodup name
      omega
  · intro herrors
    have hclean : ∀ {f}, f ∈ model.findings options → f.isError = true →
        f = .invalidSuffix options.partialSuffix := fun hf herror => (herrors _ hf herror).1
    refine ⟨by_contra fun hinvalid => ?_, by_contra fun hinvalid => ?_,
      fun e he => ⟨by_contra fun hinvalid => ?_, fun hkey => by_contra fun hinvalid => ?_⟩, ?_⟩
    · cases hclean (hc.invalidContainer_mem hinvalid) rfl
    · cases hclean (hc.invalidCollectionType_mem hinvalid) rfl
    · cases hclean (hc.invalidEntityName_mem he hinvalid) rfl
    · have hkeyless := (herrors _ (hc.invalidSuffix_mem_iff.mpr hinvalid) rfl).2
      rw [hkeyless e.name e he] at hkey
      cases hkey
    · refine List.nodup_iff_count_le_one.mpr fun name => by_contra fun hmany => ?_
      obtain ⟨first, again, hf⟩ := hc.nameCollision_mem_iff.mpr (Nat.lt_of_not_le hmany)
      cases hclean hf rfl

/-- Without errors a generation succeeds. -/
theorem Coherent.exists_generate (hc : model.Coherent)
    (h : ∀ f ∈ model.findings options, f.severity ≠ .error) :
    ∃ g, model.generate options = .ok g :=
  hc.exists_generate_iff_errors.mpr fun f hf herror => absurd (beq_iff_eq.mp herror) (h f hf)

end EntityModel

/-- **The checks predict every failure of a generation.**  If no finding is an error then the
generation succeeds.  If it fails with a collision then the collision is reported, and if it fails
with an invalid name then an error is reported about what makes the name invalid.  And the collisions
of a name that are reported are as many as the uses of the name after the first. -/
theorem lint_predicts_generation {model : EntityModel} (h : model.Accepted ∨ model = .empty)
    (options : Options) :
    ((∀ f ∈ model.findings options, f.severity ≠ .error) →
      ∃ g, model.generate options = .ok g) ∧
    (∀ name, model.generate options = .error (.declarationCollision name) →
      Reports (model.findings options) "declaration_collision" s!"declaration:{name}") ∧
    (∀ name, model.generate options = .error (.invalidDeclarationName name) →
      model.BlamesName options name) ∧
    ∀ name, collisionCount (model.findings options) name =
      (model.declarationSequence options).count name - 1 := by
  have hc : model.Coherent := by
    obtain h | rfl := h
    · exact h.coherent
    · exact EntityModel.coherent_empty
  refine ⟨hc.exists_generate, fun name hfail => ?_, fun name hfail => ?_,
    hc.collisionCount_findings options⟩
  · obtain ⟨_, -, heq⟩ | ⟨_, htaken, heq⟩ :=
      assemble_eq_error (EntityModel.generate_eq_error hfail)
    · cases heq
    cases heq
    refine hc.reports_collision ?_
    have hperm := ((model.declaration_names_perm options).cons options.collectionType).trans
      hc.declarationNames_perm
    obtain ⟨hmem, hcollides | htwice⟩ := mem_of_firstTaken?_eq_some htaken
    · rw [Std.ExtTreeSet.mem_ofList, List.contains_iff_mem, List.mem_singleton] at hcollides
      rw [← hperm.count_eq, hcollides, List.count_cons_self, ← hcollides]
      have hpos := List.count_pos_iff.mpr hmem
      omega
    · rw [← hperm.count_eq]
      exact Nat.le_trans htwice List.count_le_count_cons
  · obtain ⟨_, hfound, heq⟩ | ⟨_, -, heq⟩ :=
      assemble_eq_error (EntityModel.generate_eq_error hfail)
    · cases heq
      exact hc.blamesName hfound
    · cases heq

/-- The blog is generated under the default settings.  With an empty suffix every partial declaration
collides with its entity, and a container whose name is no identifier is blamed for it. -/
theorem lint_predicts_generation_blog :
    let colliding := { Options.ofTarget .zod with partialSuffix := "" }
    let spaced := { Options.ofTarget .zod with container := "my blog" }
    (∃ g, blog.generate (.ofTarget .zod) = .ok g) ∧
    (∃ name : String, blog.generate colliding = .error (.declarationCollision name) ∧
      Reports (blog.findings colliding) "declaration_collision" s!"declaration:{name}") ∧
    collisionCount (blog.findings colliding) "Post" = 1 ∧
    blog.generate spaced = .error (.invalidDeclarationName "my blog") ∧
    blog.BlamesName spaced "my blog" := by
  intro colliding spaced
  have hpredicts := fun options => lint_predicts_generation (.inl blog_accepted) options
  obtain ⟨name, hname⟩ : ∃ name, blog.generate colliding = .error (.declarationCollision name) :=
    EntityModel.exists_generate_eq_collision (by decide +kernel) (by decide +kernel)
  have hspaced : blog.generate spaced = .error (.invalidDeclarationName "my blog") :=
    EntityModel.generate_of_container (by decide +kernel)
  refine ⟨(hpredicts _).1 (by decide +kernel), ⟨name, hname, (hpredicts _).2.1 name hname⟩, ?_,
    hspaced, (hpredicts _).2.2.1 _ hspaced⟩
  rw [(hpredicts _).2.2.2]
  decide +kernel

/-- **Errors block a generation**, all but one of them.  A generation fails just if there is an error
other than a bad suffix in a model without keys, which has no partial declaration that the suffix
could spoil.  So where the suffix is good or some entity has a key, errors are reported just if the
generation fails. -/
theorem errors_block_generation {model : EntityModel} (h : model.Accepted ∨ model = .empty)
    (options : Options) :
    ((∃ err, model.generate options = .error err) ↔
      ∃ f ∈ model.findings options, f.isError = true ∧
        ¬(f = .invalidSuffix options.partialSuffix ∧ model.Keyless)) ∧
    (isSuffix options.partialSuffix = true ∨ ¬model.Keyless →
      (hasErrors (model.findings options) = true ↔ ∃ err, model.generate options = .error err)) := by
  have hc : model.Coherent := EntityModel.coherent_of_accepted_or_empty h
  have hfails : (∃ err, model.generate options = .error err) ↔
      ¬∃ g, model.generate options = .ok g := by
    cases model.generate options <;> simp
  have hblocks : (∃ err, model.generate options = .error err) ↔
      ∃ f ∈ model.findings options, f.isError = true ∧
        ¬(f = .invalidSuffix options.partialSuffix ∧ model.Keyless) := by
    rw [hfails, hc.exists_generate_iff_errors]
    simp only [not_forall, exists_prop]
  refine ⟨hblocks, fun hused => ?_⟩
  rw [hblocks, hasErrors, List.any_eq_true]
  refine exists_congr fun f => and_congr_right fun hf => (and_iff_left_of_imp fun _ => ?_).symm
  rintro ⟨rfl, hkeyless⟩
  obtain hsuffix | hkeyed := hused
  · exact hc.invalidSuffix_mem_iff.mp hf hsuffix
  · exact hkeyed hkeyless

/-- With a dash in the suffix the blog is not generated, and errors are reported. -/
theorem errors_block_generation_blog :
    let dashed := { Options.ofTarget .zod with partialSuffix := "-x" }
    ¬blog.Keyless ∧ hasErrors (blog.findings dashed) = true ∧
      ∃ err, blog.generate dashed = .error err := by
  intro dashed
  have hpost : ((blog.get? "Post").bind Entity.key).isSome = true := by decide +kernel
  have hkeyed : ¬blog.Keyless := by
    intro hkeyless
    cases he : blog.get? "Post" with
    | none =>
      rw [he] at hpost
      cases hpost
    | some e =>
      rw [he, Option.bind_some, hkeyless "Post" e he] at hpost
      cases hpost
  have herrors : hasErrors (blog.findings dashed) = true := by decide +kernel
  exact ⟨hkeyed, herrors,
    ((errors_block_generation (.inl blog_accepted) dashed).2 (.inr hkeyed)).mp herrors⟩

/-- A model with one entity, which has no key. -/
def tags : EntityModel :=
  (EntityModel.ofEntities
    [{ name := "Tag", fields := [{ name := "label", kind := .scalar "string" }] }]).toOption.getD
    .empty

/-- With a dash in the suffix an error is reported for tags without a key, and yet they are
generated. -/
theorem spare_suffix_error :
    let dashed := { Options.ofTarget .zod with partialSuffix := "-x" }
    tags.Accepted ∧ hasErrors (tags.findings dashed) = true ∧
      ∃ g, tags.generate dashed = .ok g := by
  intro dashed
  have hnames : tags.declarationNames dashed = ["Tag"] := by decide +kernel
  refine ⟨.inl ⟨_, EntityModel.ofEntities_getD (by decide +kernel)⟩, by decide +kernel, ?_⟩
  rw [EntityModel.exists_generate_iff, hnames]
  decide +kernel

end EntityProjection
