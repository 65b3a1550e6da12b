import EntityProjection.Proofs.Preliminaries
import EntityProjection.Unit.Collection

/-!
# Accepted models

A model is accepted if it is collected from a list of entities or from units.  Both ways start from
the empty model and insert one entity after the other, so that what every insertion keeps holds of
all accepted models.

* `EntityModel.Accepted.induction`: the induction over the insertions that lead to an accepted model;
* `EntityModel.Coherent`: the entities stand under their own names, and the key index lists exactly
  these names with the keys of the entities;
* `EntityModel.Accepted.coherent`: accepted models are coherent.
-/

namespace EntityProjection

namespace EntityModel

/-! ### One arrival -/

/-- An insertion that succeeds has a new name and adds the normal form of the entity. -/
theorem insert_eq_ok {model model' : EntityModel} {source : String} {e : Entity}
    (h : model.insert source e = .ok model') :
    model.source? e.name = none ∧ ∃ normal, e.normalize = .ok normal ∧ model' = {
      arrivals := model.arrivals.push normal.name
      entities := model.entities.insert normal.name normal
      origins := model.origins.insert normal.name source
      keys := model.keys.insert normal.name normal.key } := by
  unfold insert at h
  split at h
  · cases h
  · next hnew =>
    obtain ⟨normal, hn, hm⟩ := bind_eq_ok h
    cases hm
    exact ⟨hnew, normal, hn, rfl⟩

/-! ### All arrivals -/

/-- A model as it is collected from entities or from units. -/
def Accepted (model : EntityModel) : Prop :=
  (∃ entities, ofEntities entities = .ok model) ∨
    ∃ extract units, collect extract units = .ok model

/-- A list of entities that is accepted has its model. -/
theorem ofEntities_getD {entities : List Entity}
    (h : (ofEntities entities).toOption.isSome = true) :
    ofEntities entities = .ok ((ofEntities entities).toOption.getD .empty) := by
  cases hmodel : ofEntities entities with
  | error err =>
    rw [hmodel] at h
    cases h
  | ok model => rfl

/-- A model that is accepted or empty is accepted if it has an entity. -/
theorem accepted_of_get? {model : EntityModel} (h : model.Accepted ∨ model = .empty) {name : String}
    {e : Entity} (he : model.get? name = some e) : model.Accepted := by
  obtain h | rfl := h
  · exact h
  · rw [get?, empty, Std.ExtTreeMap.getElem?_empty] at he
    cases he

section Induction

variable {P : EntityModel → Prop}
  (step : ∀ {model model' : EntityModel} {source : String} {e : Entity},
    P model → model.insert source e = .ok model' → P model')

include step

theorem insertAll_induction {source : String} {entities : List Entity} {model model' : EntityModel}
    (hP : P model) (h : model.insertAll source entities = .ok model') : P model' := by
  induction entities generalizing model with
  | nil =>
    cases h
    exact hP
  | cons e es ih =>
    obtain ⟨next, hi, hrest⟩ := bind_eq_ok h
    exact ih (step hP hi) hrest

theorem insertInline_induction {i : Nat} {entities : List Entity} {model model' : EntityModel}
    (hP : P model) (h : model.insertInline i entities = .ok model') : P model' := by
  induction entities generalizing i model with
  | nil =>
    cases h
    exact hP
  | cons e es ih =>
    obtain ⟨next, hi, hrest⟩ := bind_eq_ok h
    exact ih (step hP hi) hrest

theorem insertUnits_induction {extract : Extractor} {units : List (String × SourceUnit)}
    {model model' : EntityModel} (hP : P model)
    (h : model.insertUnits extract units = .ok model') : P model' := by
  induction units generalizing model with
  | nil =>
    cases h
    exact hP
  | cons unit rest ih =>
    obtain ⟨entities, -, hunit⟩ := bind_eq_ok h
    obtain ⟨next, hi, hrest⟩ := bind_eq_ok hunit
    exact ih (insertAll_induction step hP hi) hrest

/-- **Induction over the insertions.**  What holds of the empty model and is kept by every insertion
that succeeds holds of all accepted models. -/
theorem Accepted.induction {model : EntityModel} (h : model.Accepted) (start : P .empty) :
    P model := by
  rcases h with ⟨entities, h⟩ | ⟨extract, units, h⟩
  · obtain ⟨full, hi, hrest⟩ := bind_eq_ok h
    obtain ⟨-, hfull⟩ := check_eq_ok hrest
    cases hfull
    exact insertInline_induction step start hi
  · obtain ⟨-, hcollect⟩ := check_eq_ok h
    obtain ⟨full, hi, hrest⟩ := bind_eq_ok hcollect
    obtain ⟨-, hfull⟩ := check_eq_ok hrest
    cases hfull
    exact insertUnits_induction step start hi

end Induction

/-! ### Coherence -/

/-- The look-ups of a model by name agree with each other. -/
structure Coherent (model : EntityModel) : Prop where
  /-- An entity stands under its own name. -/
  named : ∀ {name e}, model.get? name = some e → e.name = name
  /-- The key index lists the keys of the entities. -/
  indexed : ∀ name, model.keys.entries[name]? = (model.get? name).map Entity.key

theorem coherent_empty : empty.Coherent where
  named h := by
    rw [get?, empty, Std.ExtTreeMap.getElem?_empty] at h
    cases h
  indexed name := by
    rw [get?, empty, Std.ExtTreeMap.getElem?_empty, Std.ExtTreeMap.getElem?_empty]
    rfl

/-- An insertion keeps a model coherent. -/
theorem Coherent.insert {model model' : EntityModel} {source : String} {e : Entity}
    (hc : model.Coherent) (h : model.insert source e = .ok model') : model'.Coherent := by
  obtain ⟨-, normal, -, rfl⟩ := insert_eq_ok h
  constructor
  · intro name e' he
    rw [get?, Std.ExtTreeMap.getElem?_insert] at he
    split at he
    · next heq =>
      cases he
      exact Std.LawfulEqOrd.eq_of_compare heq
    · exact hc.named he
  · intro name
    rw [get?, KeyIndex.insert, Std.ExtTreeMap.getElem?_insert, Std.ExtTreeMap.getElem?_insert]
    split
    · rfl
    · exact hc.indexed name

/-- **Accepted models are coherent.** -/
theorem Accepted.coherent {model : EntityModel} (h : model.Accepted) : model.Coherent :=
  h.induction Coherent.insert coherent_empty

theorem coherent_of_accepted_or_empty {model : EntityModel} (h : model.Accepted ∨ model = .empty) :
    model.Coherent := by
  obtain h | rfl := h
  · exact h.coherent
  · exact coherent_empty

namespace Coherent

variable {model : EntityModel} (hc : model.Coherent)

include hc

theorem isKnown_iff (name : String) :
    model.keys.isKnown name = true ↔ ∃ e, model.get? name = some e := by
  rw [KeyIndex.isKnown, Std.ExtTreeMap.contains_eq_isSome_getElem?, hc.indexed, Option.isSome_map,
    Option.isSome_iff_exists]

theorem key?_eq (name : String) : model.keys.key? name = (model.get? name).bind Entity.key := by
  rw [KeyIndex.key?, hc.indexed]
  cases model.get? name <;> rfl

/-- To look names of entities up drops none of them. -/
theorem map_name_filterMap_get? {names : List String}
    (h : ∀ name ∈ names, ∃ e, model.get? name = some e) :
    (names.filterMap model.get?).map Entity.name = names := by
  induction names with
  | nil => rfl
  | cons name names ih =>
    obtain ⟨e, he⟩ := h name List.mem_cons_self
    rw [List.filterMap_cons_some he, List.map_cons, hc.named he,
      ih fun other ho => h other (List.mem_cons_of_mem _ ho)]

end Coherent

theorem mem_names_iff {model : EntityModel} (name : String) :
    name ∈ model.names ↔ ∃ e, model.get? name = some e := by
  rw [names, Std.ExtTreeMap.mem_keys, get?, Std.ExtTreeMap.mem_iff_isSome_getElem?,
    Option.isSome_iff_exists]

end EntityModel

end EntityProjection
