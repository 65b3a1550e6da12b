import EntityProjection.Proofs.Lint.Findings
import EntityProjection.Proofs.Text.PascalCase

/-!
# Names that are suggested

A finding about a name suggests another one, which is the PascalCase form of the first.  Where the
first name opens with a letter the suggestion settles the matter: the check that had the finding
finds nothing about the suggested name.  Where it opens with a digit, or has no letter and no digit,
the suggested name is no identifier, and the same check finds fault with it again.

* `Finding.Proposes`: the wordings in which a name is suggested, and `Finding.nameCheck?`: the name
  that a finding is about, with the check that it comes from;
* `Finding.proposes_iff` and `proposed_passes_iff`: what is suggested, and when it passes the check;
* `suggestions_settle_names`: the same for all that is found about a model.
-/

namespace EntityProjection

/-! ### Suggested names -/

namespace Finding

/-- The suggestion of a finding is to take this name. -/
def Proposes (f : Finding) (name : String) : Prop :=
  f.suggestion? = some s!"Rename to '{name}'" ∨ f.suggestion? = some s!"Use '{name}'"

/-- The name that a finding is about, and the check of names that it comes from. -/
def nameCheck? : Finding → Option (String × (String → List Finding))
  | invalidSetting setting value => some (value, nameSettingFindings setting)
  | invalidEntityName entity => some (entity, entityNameFindings)
  | entityNameCasing entity => some (entity, entityNameFindings)
  | _ => none

theorem proposes_iff_proposedName? {f : Finding} {name : String} :
    f.Proposes name ↔ f.proposedName? = some name := by
  cases f <;> simp [Proposes, suggestion?, proposedName?, toString, ← String.toList_inj]

/-- The findings that suggest a name are those about names, and they suggest the PascalCase form. -/
theorem proposes_iff {f : Finding} {proposed : String} :
    f.Proposes proposed ↔
      ∃ name check, f.nameCheck? = some (name, check) ∧ proposed = Text.toPascalCase name := by
  rw [proposes_iff_proposedName?]
  cases f <;> simp [proposedName?, nameCheck?, eq_comm]

end Finding

/-! ### Checks of suggested names -/

/-- A setting takes the PascalCase form of a text just if the text opens with a letter. -/
theorem nameSettingFindings_toPascalCase {setting : NameSetting} {text : String} :
    nameSettingFindings setting (Text.toPascalCase text) = [] ↔ Text.OpensWithLetter text := by
  rw [← Text.isIdentifier_toPascalCase_iff, nameSettingFindings]
  split
  · next h => simp [h]
  · next h => simp [h]

/-- Nothing is found about an entity named by the PascalCase form of a text just if the text opens
with a letter. -/
theorem entityNameFindings_toPascalCase {text : String} :
    entityNameFindings (Text.toPascalCase text) = [] ↔ Text.OpensWithLetter text := by
  constructor
  · intro h
    rw [← Text.isIdentifier_toPascalCase_iff]
    by_contra hbad
    have hfound := mem_entityNameFindings.mpr (.inl ⟨rfl, hbad⟩)
    rw [h] at hfound
    cases hfound
  · intro h
    simp [entityNameFindings, Text.isIdentifier_toPascalCase_iff.mpr h,
      Text.isPascalCase_toPascalCase h]

/-- **What a name check says about its suggestion.** The suggested name passes just if the name that
the finding is about opens with a letter. -/
theorem proposed_passes_iff {f : Finding} {name : String} {check : String → List Finding}
    (h : f.nameCheck? = some (name, check)) :
    check (Text.toPascalCase name) = [] ↔ Text.OpensWithLetter name := by
  cases f with
  | invalidSetting setting value =>
    cases h
    exact nameSettingFindings_toPascalCase
  | invalidEntityName entity =>
    cases h
    exact entityNameFindings_toPascalCase
  | entityNameCasing entity =>
    cases h
    exact entityNameFindings_toPascalCase
  | invalidSuffix | missingKey | unresolvedTarget | keylessTarget | nameCollision => cases h

/-! ### Findings about a model -/

/-- A finding about a name comes from the check of that name, which is one of the two settings or
the name of an entity. -/
theorem EntityModel.Coherent.nameCheck_origin {model : EntityModel} (hc : model.Coherent)
    {options : Options} {f : Finding} (hf : f ∈ model.findings options) {name : String}
    {check : String → List Finding} (hcheck : f.nameCheck? = some (name, check)) :
    f ∈ check name ∧
      (name = options.container ∨ name = options.collectionType ∨ name ∈ model.names) := by
  obtain hf | ⟨e, he, hf⟩ | hf := hc.mem_findings.mp hf
  · obtain ⟨rfl, hbad⟩ | ⟨rfl, hbad⟩ | ⟨rfl, -⟩ := mem_settingFindings.mp hf
    · cases hcheck
      exact ⟨mem_nameSettingFindings.mpr ⟨rfl, hbad⟩, .inl rfl⟩
    · cases hcheck
      exact ⟨mem_nameSettingFindings.mpr ⟨rfl, hbad⟩, .inr (.inl rfl)⟩
    · cases hcheck
  · have hmem : e.name ∈ model.names := (mem_names_iff e.name).mpr ⟨e, he⟩
    obtain hf | ⟨rfl, -⟩ | ⟨r, -, hf⟩ := mem_entityFindings.mp hf
    · obtain ⟨rfl, -⟩ | ⟨rfl, -⟩ := mem_entityNameFindings.mp hf
      · cases hcheck
        exact ⟨hf, .inr (.inr hmem)⟩
      · cases hcheck
        exact ⟨hf, .inr (.inr hmem)⟩
    · cases hcheck
    · obtain ⟨rfl, -⟩ | ⟨rfl, -⟩ := mem_relationFindings.mp hf
      · cases hcheck
      · cases hcheck
  · obtain ⟨_, _, _, rfl⟩ := mem_collisionFindings hf
    cases hcheck

/-- **Suggested names settle the matter just where the name opens with a letter.** Every name that a
finding about an accepted or empty model suggests is the PascalCase form of a name that a check
found fault with: of the container, of the collection type or of an entity.  It is an identifier, it
is in PascalCase, and the same check finds nothing about it, each of the three just if the first
ASCII letter or digit of the faulty name is a letter. -/
theorem suggestions_settle_names {model : EntityModel} (h : model.Accepted ∨ model = .empty)
    (options : Options) {f : Finding} (hf : f ∈ model.findings options) {proposed : String}
    (hproposed : f.Proposes proposed) :
    ∃ name check, f.nameCheck? = some (name, check) ∧ f ∈ check name ∧
      (name = options.container ∨ name = options.collectionType ∨ name ∈ model.names) ∧
      proposed = Text.toPascalCase name ∧
      (Text.isIdentifier proposed = true ↔ Text.OpensWithLetter name) ∧
      (Text.isPascalCase proposed = true ↔ Text.OpensWithLetter name) ∧
      (check proposed = [] ↔ Text.OpensWithLetter name) := by
  have hc := EntityModel.coherent_of_accepted_or_empty h
  obtain ⟨name, check, hcheck, rfl⟩ := Finding.proposes_iff.mp hproposed
  obtain ⟨horigin, hname⟩ := hc.nameCheck_origin hf hcheck
  exact ⟨name, check, hcheck, horigin, hname, rfl, Text.isIdentifier_toPascalCase_iff,
    Text.isPascalCase_toPascalCase_iff, proposed_passes_iff hcheck⟩

/-- A model with one entity that opens with a letter and one that opens with a digit. -/
def drawings : EntityModel :=
  (EntityModel.ofEntities [{ name := "line drawing" }, { name := "3d_model" }]).toOption.getD .empty

theorem drawings_accepted : drawings.Accepted :=
  .inl ⟨_, EntityModel.ofEntities_getD (by decide +kernel)⟩

/-- The first of them is renamed once and for all. -/
theorem suggestions_settle_names_drawing :
    drawings.Accepted ∧
      .invalidEntityName "line drawing" ∈ drawings.findings (.ofTarget .zod) ∧
      (Finding.invalidEntityName "line drawing").Proposes "LineDrawing" ∧
      Text.isIdentifier "LineDrawing" = true ∧ Text.isPascalCase "LineDrawing" = true ∧
      entityNameFindings "LineDrawing" = [] := by
  have hfound : .invalidEntityName "line drawing" ∈ drawings.findings (.ofTarget .zod) := by
    decide +kernel
  have hproposed : (Finding.invalidEntityName "line drawing").Proposes "LineDrawing" := .inl rfl
  have hletter : Text.OpensWithLetter "line drawing" := ⟨'l', by decide +kernel, by decide⟩
  obtain ⟨name, check, hcheck, -, -, -, hidentifier, hpascal, hpasses⟩ :=
    suggestions_settle_names (.inl drawings_accepted) (.ofTarget .zod) hfound hproposed
  cases hcheck
  exact ⟨drawings_accepted, hfound, hproposed, hidentifier.mpr hletter, hpascal.mpr hletter,
    hpasses.mpr hletter⟩

/-- The name suggested for the other one is no identifier, and is found fault with again. -/
theorem digit_suggestion :
    drawings.Accepted ∧ .invalidEntityName "3d_model" ∈ drawings.findings (.ofTarget .zod) ∧
      (Finding.invalidEntityName "3d_model").suggestion? = some "Rename to '3dModel'" ∧
      Text.isIdentifier "3dModel" = false ∧ Text.isPascalCase "3dModel" = false ∧
      entityNameFindings "3dModel" = [.invalidEntityName "3dModel"] :=
  ⟨drawings_accepted, by decide +kernel, by decide +kernel, by decide, by decide, by decide +kernel⟩

end EntityProjection
