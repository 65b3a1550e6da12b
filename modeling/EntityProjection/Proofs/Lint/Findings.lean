import EntityProjection.Lint.Checks
import EntityProjection.Proofs.Entity.Acceptance

/-!
# What is found, and why

For each part of a check the findings it can have, each with the condition under which it is there.
What else is said of findings starts from here and opens no check again.

* `mem_settingFindings`, `mem_entityNameFindings`, `mem_relationFindings`, `mem_entityFindings`: the
  findings about settings and entities;
* `mem_collisionFindings`: findings about declaration names are collisions;
* `EntityModel.Coherent.mem_findings`: the findings about a model.
-/

namespace EntityProjection

/-! ### Settings -/

theorem mem_nameSettingFindings {setting : NameSetting} {value : String} {f : Finding} :
    f ∈ nameSettingFindings setting value ↔
      f = .invalidSetting setting value ∧ ¬Text.isIdentifier value = true := by
  rw [nameSettingFindings]
  split
  · next h => simp [h]
  · next h => simp [h]

/-- The settings are found fault with whose names are no identifiers, and the suffix with which an
identifier would be none. -/
theorem mem_settingFindings {options : Options} {f : Finding} :
    f ∈ settingFindings options ↔
      f = .invalidSetting .container options.container ∧
          ¬Text.isIdentifier options.container = true ∨
        f = .invalidSetting .collectionType options.collectionType ∧
          ¬Text.isIdentifier options.collectionType = true ∨
        f = .invalidSuffix options.partialSuffix ∧ ¬isSuffix options.partialSuffix = true := by
  rw [settingFindings, List.mem_append, List.mem_append, mem_nameSettingFindings,
    mem_nameSettingFindings, or_assoc]
  refine or_congr_right (or_congr_right ?_)
  split
  · next h => simp [h]
  · next h => simp [h]

/-! ### Entities -/

theorem mem_entityNameFindings {name : String} {f : Finding} :
    f ∈ entityNameFindings name ↔
      f = .invalidEntityName name ∧ ¬Text.isIdentifier name = true ∨
        f = .entityNameCasing name ∧ Text.isIdentifier name = true ∧
          ¬Text.isPascalCase name = true := by
  rw [entityNameFindings]
  cases Text.isIdentifier name <;> cases Text.isPascalCase name <;> simp

/-- A relation is reported if its target is unknown, with the type it falls back on, or if its target
is known and has no key. -/
theorem mem_relationFindings {keys : KeyIndex} {entity : String} {r : Relation} {f : Finding} :
    f ∈ relationFindings keys entity r ↔
      f = .unresolvedTarget entity r (r.declared.getD opaqueType) ∧
          ¬keys.isKnown r.target = true ∨
        f = .keylessTarget entity r ∧ keys.isKnown r.target = true ∧ keys.key? r.target = none := by
  rw [relationFindings]
  cases keys.isKnown r.target <;> cases keys.key? r.target <;> simp

/-- What is found about an entity. -/
theorem mem_entityFindings {keys : KeyIndex} {e : Entity} {f : Finding} :
    f ∈ entityFindings keys e ↔
      f ∈ entityNameFindings e.name ∨ (f = .missingKey e.name ∧ e.key = none) ∨
        ∃ r ∈ e.relations, f ∈ relationFindings keys e.name r := by
  rw [entityFindings, List.mem_append, List.mem_append, List.mem_flatMap, or_assoc]
  refine or_congr_right (or_congr_left ?_)
  cases e.key <;> simp

/-! ### Declaration names -/

/-- What is found about declaration names are collisions. -/
theorem mem_collisionFindings {declared : Std.ExtTreeMap String NameOrigin}
    {names : List (String × NameOrigin)} {f : Finding} (h : f ∈ collisionFindings declared names) :
    ∃ name first again, f = .nameCollision name first again := by
  induction names generalizing declared with
  | nil => cases h
  | cons entry rest ih =>
    rw [collisionFindings] at h
    split at h
    · obtain rfl | h := List.mem_cons.mp h
      · exact ⟨_, _, _, rfl⟩
      · exact ih h
    · exact ih h

/-! ### Models -/

/-- What is found about a model concerns its settings, one of its entities, or a declaration name. -/
theorem EntityModel.Coherent.mem_findings {model : EntityModel} (hc : model.Coherent)
    {options : Options} {f : Finding} :
    f ∈ model.findings options ↔
      f ∈ settingFindings options ∨
        (∃ e, model.get? e.name = some e ∧ f ∈ entityFindings model.keys e) ∨
        f ∈ collisionFindings ((∅ : Std.ExtTreeMap String NameOrigin).insert options.collectionType
          .collection) (declaredNames model options) := by
  rw [findings, List.mem_append, List.mem_append, List.mem_flatMap, or_assoc]
  refine or_congr_right (or_congr_left (exists_congr fun e => and_congr_left fun _ => ?_))
  rw [List.mem_filterMap]
  constructor
  · rintro ⟨name, -, he⟩
    rwa [hc.named he]
  · intro he
    exact ⟨e.name, (mem_names_iff e.name).mpr ⟨e, he⟩, he⟩

end EntityProjection
