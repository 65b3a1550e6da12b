import Mathlib.Data.List.Forall2
import Mathlib.Data.List.Nodup
import EntityProjection.Proofs.Entity.Collection
import EntityProjection.Proofs.Entity.Normal

/-!
# Collected entities, one by one

A model takes every arrival to its normal form and enters it into three maps under one name.  What
the normal form keeps and what it changes is said for each arrival apart, in the order of arrival;
that the maps stay in step is an invariant of the insertions.  A normal form is its own normal form,
so that the entities of a model make up the same model again.

* `Entity.Normalizes`: what the normal form of an entity looks like;
* `EntityModel.Entered`: the maps of a model list the names of its arrivals;
* `Entity.normalize_of_normal`: normal entities stay as they are;
* `EntityModel.Keeps`: a model keeps some entities, normalised, and its look-ups are in step;
* `collection_normalizes`: every accepted model keeps the entities that it is collected from.
-/

namespace EntityProjection

/-! ### Normal forms, field by field -/

namespace Entity

/-- How an entity and its normal form differ: only the key field is touched, which becomes required
where the source lists it and comes first where the source does not. -/
structure Normalizes (e normal : Entity) : Prop where
  name_eq : normal.name = e.name
  key_eq : normal.key = e.key
  names_nodup : (normal.fields.map Field.name).Nodup
  keyless : e.key = none → normal = e
  keyField : ∀ key, e.key = some key → ∃ f, normal.fields.filter (fun f => f.name == key.name) = [f] ∧
    f.kind = .scalar key.type ∧ f.optional = false
  listed : ∀ key, e.key = some key → ∀ before f after, e.fields = before ++ f :: after →
    f.name = key.name → normal.fields = before ++ { f with optional := false } :: after
  unlisted : ∀ key, e.key = some key → (∀ f ∈ e.fields, f.name ≠ key.name) →
    normal.fields = key.toField :: e.fields

theorem requireField_eq_self {name : String} {fields : List Field}
    (h : ∀ f ∈ fields, f.name = name → f.optional = false) : requireField name fields = fields := by
  refine (List.map_congr_left fun f hf => ?_).trans (List.map_id fields)
  split
  · next hname =>
    rw [← h f hf (eq_of_beq hname)]
    rfl
  · rfl

/-- Where no name repeats, to require the fields of a name is to require the one field of it. -/
theorem requireField_split {f : Field} {before after : List Field}
    (h : ((before ++ f :: after).map Field.name).Nodup) :
    requireField f.name (before ++ f :: after) =
      before ++ { f with optional := false } :: after := by
  rw [List.map_append, List.map_cons, List.nodup_middle, List.nodup_cons, List.mem_append] at h
  have hother : ∀ {fields : List Field}, f.name ∉ fields.map Field.name →
      requireField f.name fields = fields := fun hnot =>
    requireField_eq_self fun other hother hname =>
      absurd (hname ▸ List.mem_map_of_mem hother) hnot
  have hbefore := hother fun hmem => h.1 (.inl hmem)
  have hafter := hother fun hmem => h.1 (.inr hmem)
  rw [requireField, List.map_append, List.map_cons, if_pos (beq_self_eq_true _), ← requireField,
    ← requireField, hbefore, hafter]

/-- The field of a name is found where it stands, if no name repeats. -/
theorem find?_name_split {f : Field} {before after : List Field} {name : String}
    (h : ((before ++ f :: after).map Field.name).Nodup) (hname : f.name = name) :
    (before ++ f :: after).find? (fun f => f.name == name) = some f := by
  rw [← List.head?_filter, ← hname,
    filter_eq_of_nodup_map h (List.mem_append_right _ List.mem_cons_self), List.head?_cons]

/-- **What a normal form looks like.** -/
theorem normalizes_of_normalize {e normal : Entity} (h : e.normalize = .ok normal) :
    e.Normalizes normal := by
  obtain ⟨hname, hkey, -⟩ := normalize_eq_ok h
  have hnormal := normal_of_normalize h
  have hfields : ∀ key, e.key = some key →
      (e.fields.map Field.name).Nodup ∧ e.keyedFields key = .ok normal.fields := by
    intro key hsome
    unfold normalize at h
    split at h
    · cases h
    · next hnew =>
      rw [hsome] at h
      obtain ⟨fields, hfields, hn⟩ := bind_eq_ok h
      cases hn
      exact ⟨(firstTaken?_eq_none.mp hnew).1, hfields⟩
  refine ⟨hname, hkey, hnormal.names_nodup, fun hnone => ?_, fun key hsome => ?_,
    fun key hsome before f after hsplit hf => ?_, fun key hsome hnone => ?_⟩
  · unfold normalize at h
    split at h
    · cases h
    · rw [hnone] at h
      cases h
      rfl
  · obtain ⟨f, hf, hfname, hkind, hrequired⟩ := hnormal.keyed (hkey.trans hsome)
    refine ⟨f, ?_, hkind, hrequired⟩
    rw [← hfname, filter_eq_of_nodup_map hnormal.names_nodup hf]
  · obtain ⟨hnodup, hkeyed⟩ := hfields key hsome
    rw [hsplit] at hnodup
    rw [keyedFields, hsplit, find?_name_split hnodup hf] at hkeyed
    dsimp only at hkeyed
    split at hkeyed
    · rw [← Except.ok.inj hkeyed, ← hf, requireField_split hnodup]
    · cases hkeyed
  · obtain ⟨-, hkeyed⟩ := hfields key hsome
    have hfind : e.fields.find? (fun f => f.name == key.name) = none := by
      refine List.find?_eq_none.mpr fun f hf hfname => hnone f hf (eq_of_beq hfname)
    rw [keyedFields, hfind] at hkeyed
    exact (Except.ok.inj hkeyed).symm

/-- **A normal entity is its own normal form.** -/
theorem normalize_of_normal {e : Entity} (h : e.Normal) : e.normalize = .ok e := by
  have hnew : firstTaken? ∅ (e.fields.map Field.name) = none :=
    firstTaken?_eq_none.mpr ⟨h.names_nodup, fun _ _ => Std.ExtTreeSet.not_mem_empty⟩
  rw [normalize, hnew]
  dsimp only
  split
  · rfl
  · next key hkey =>
    obtain ⟨f, hf, hname, hkind, -⟩ := h.keyed hkey
    have hfind : e.fields.find? (fun f => f.name == key.name) = some f := by
      rw [← List.head?_filter, ← hname, filter_eq_of_nodup_map h.names_nodup hf, List.head?_cons]
    have hsame : requireField key.name e.fields = e.fields :=
      requireField_eq_self fun f hf hname => (h.of_key_name hkey hf hname).2
    rw [keyedFields, hfind]
    dsimp only
    rw [if_pos hkind, hsame]
    rfl

end Entity

namespace EntityModel

variable {model model' : EntityModel} {entities : List Entity}

/-! ### Maps in step -/

/-- A map has entries for the given names, one for each of them, and no other ones. -/
structure Enters {β : Type} (entries : Std.ExtTreeMap String β) (names : List String) : Prop where
  mem_iff : ∀ name, name ∈ entries ↔ name ∈ names
  size_eq : entries.size = names.length

theorem enters_empty {β : Type} : Enters (∅ : Std.ExtTreeMap String β) [] where
  mem_iff _ := iff_of_false Std.ExtTreeMap.not_mem_empty List.not_mem_nil
  size_eq := Std.ExtTreeMap.size_empty

theorem Enters.insert {β : Type} {entries : Std.ExtTreeMap String β} {names : List String}
    (h : Enters entries names) {name : String} (hnew : name ∉ names) (value : β) :
    Enters (entries.insert name value) (names ++ [name]) where
  mem_iff other := by
    rw [mem_insert_map, h.mem_iff, List.mem_append, List.mem_singleton, or_comm]
  size_eq := by
    have hnot : ¬entries.contains name = true := by
      rwa [Std.ExtTreeMap.contains_iff_mem, h.mem_iff]
    rw [Std.ExtTreeMap.size_insert, if_neg hnot, h.size_eq, List.length_append, List.length_singleton]

/-- The arrivals of a model have the given names, and all its maps have entries for just these. -/
structure Entered (model : EntityModel) (names : List String) : Prop where
  arrivals_eq : model.arrivals.toList = names
  entities_enter : Enters model.entities names
  origins_enter : Enters model.origins names
  keys_enter : Enters model.keys.entries names

theorem entered_empty : empty.Entered [] :=
  ⟨rfl, enters_empty, enters_empty, enters_empty⟩

/-- **Step lemma.**  An insertion enters the name of its entity everywhere. -/
theorem Entered.insert {names : List String} (h : model.Entered names) {source : String} {e : Entity}
    (hinsert : model.insert source e = .ok model') : model'.Entered (names ++ [e.name]) := by
  obtain ⟨hnone, normal, hnormal, rfl⟩ := insert_eq_ok hinsert
  obtain ⟨hname, -, -⟩ := Entity.normalize_eq_ok hnormal
  have hnew : e.name ∉ names := by
    rw [← h.origins_enter.mem_iff, Std.ExtTreeMap.mem_iff_isSome_getElem?, ← source?, hnone]
    exact Bool.false_ne_true
  rw [← hname] at hnew ⊢
  refine ⟨?_, h.entities_enter.insert hnew _, h.origins_enter.insert hnew _,
    h.keys_enter.insert hnew _⟩
  rw [Array.toList_push, h.arrivals_eq]

/-- **Run lemma.**  Insertions enter the names of all their entities. -/
theorem Entered.insertFrom {names : List String} (h : model.Entered names)
    {arrivals : List (String × Entity)} (hinsert : model.insertFrom arrivals = .ok model') :
    model'.Entered (names ++ arrivals.map fun arrival => arrival.2.name) := by
  induction arrivals generalizing model names with
  | nil =>
    cases hinsert
    rwa [List.map_nil, List.append_nil]
  | cons arrival rest ih =>
    obtain ⟨next, hnext, hrest⟩ := bind_eq_ok hinsert
    rw [List.map_cons, List.append_cons]
    exact ih (h.insert hnext) hrest

/-! ### Entities in order of arrival -/

/-- A model holds the normal forms of some entities and entered them in the given order. -/
structure Collected (model : EntityModel) (entities : List Entity) : Prop where
  holds : model.Holds entities
  entered : model.Entered (entities.map Entity.name)
  coherent : model.Coherent

theorem collected_insertFrom {arrivals : List (String × Entity)}
    (h : empty.insertFrom arrivals = .ok model) (hc : model.Coherent) :
    model.Collected (arrivals.map Prod.snd) where
  holds := Holds.of_empty.insertFrom h
  entered := by
    rw [List.map_map]
    exact entered_empty.insertFrom h
  coherent := hc

theorem collected_ofEntities (h : ofEntities entities = .ok model) : model.Collected entities := by
  have hcollected := collected_insertFrom (ofEntities_eq_ok.mp h).2 (Accepted.coherent (.inl ⟨_, h⟩))
  rwa [inlineArrivals_snd] at hcollected

namespace Collected

variable (h : model.Collected entities)

include h

/-- The entities of a model are the normal forms of its arrivals, one for each and in order. -/
theorem forall₂_normalize :
    List.Forall₂ (fun e normal => e.normalize = .ok normal) entities model.toList := by
  have hget : ∀ e ∈ entities, ∃ normal, model.get? e.name = some normal ∧
      e.normalize = .ok normal := by
    intro e he
    obtain ⟨normal, hnormal⟩ := h.holds.acceptable.normal e he
    exact ⟨normal, h.holds.get?_iff.mpr ⟨e, he, rfl, hnormal⟩, hnormal⟩
  rw [toList, h.entered.arrivals_eq]
  clear h
  induction entities with
  | nil => exact .nil
  | cons e es ih =>
    obtain ⟨normal, hfound, hnormal⟩ := hget e List.mem_cons_self
    rw [List.map_cons, List.filterMap_cons_some hfound]
    exact .cons hnormal (ih fun other ho => hget other (List.mem_cons_of_mem _ ho))

/-- The list of entities and the look-up by name have the same entities. -/
theorem mem_toList_iff {e : Entity} : e ∈ model.toList ↔ model.get? e.name = some e := by
  rw [toList, h.entered.arrivals_eq, List.mem_filterMap]
  constructor
  · rintro ⟨name, -, he⟩
    rw [h.coherent.named he, he]
  · intro he
    refine ⟨e.name, (h.entered.entities_enter.mem_iff e.name).mp ?_, he⟩
    rw [Std.ExtTreeMap.mem_iff_isSome_getElem?, ← get?, he]
    rfl

theorem get?_eq_some_iff {name : String} {e : Entity} :
    model.get? name = some e ↔ e ∈ model.toList ∧ e.name = name := by
  rw [h.mem_toList_iff]
  constructor
  · intro he
    have hname := h.coherent.named he
    exact ⟨hname ▸ he, hname⟩
  · rintro ⟨he, rfl⟩
    exact he

/-- The names of a model's entities are those of the arrivals. -/
theorem toList_names : model.toList.map Entity.name = entities.map Entity.name := by
  have hsame := h.forall₂_normalize
  generalize model.toList = normals at hsame
  clear h
  induction hsame with
  | nil => rfl
  | cons hfirst _ ih =>
    rw [List.map_cons, List.map_cons, (Entity.normalize_eq_ok hfirst).1, ih]

/-- All entities of a model are normal. -/
theorem normal_of_mem {e : Entity} (he : e ∈ model.toList) : e.Normal := by
  obtain ⟨arrival, -, -, hnormal⟩ := h.holds.get?_iff.mp (h.mem_toList_iff.mp he)
  exact Entity.normal_of_normalize hnormal

/-- The entities of a model can be collected again. -/
theorem acceptable_toList : Acceptable model.toList where
  nodup := h.toList_names ▸ h.holds.acceptable.nodup
  normal e he := ⟨e, Entity.normalize_of_normal (h.normal_of_mem he)⟩

end Collected

/-- Normal entities are collected as they are. -/
theorem Collected.toList_eq (h : model.Collected entities) (hnormal : ∀ e ∈ entities, e.Normal) :
    model.toList = entities := by
  have hsame := h.forall₂_normalize
  generalize model.toList = normals at hsame
  clear h
  induction hsame with
  | nil => rfl
  | cons hfirst _ ih =>
    rw [List.forall_mem_cons] at hnormal
    rw [Entity.normalize_of_normal hnormal.1] at hfirst
    rw [Except.ok.inj hfirst, ih hnormal.2]

/-- Every accepted model is collected from at least one entity. -/
theorem Accepted.exists_collected (h : model.Accepted) :
    ∃ entities, entities ≠ [] ∧ model.Collected entities := by
  have hcoherent := h.coherent
  obtain ⟨entities, h⟩ | ⟨extract, units, h⟩ := h
  · exact ⟨entities, (ofEntities_eq_ok.mp h).1, collected_ofEntities h⟩
  · obtain ⟨arrivals, -, hne, hinsert⟩ := collect_eq_ok.mp h
    exact ⟨_, fun hnil => hne (List.map_eq_nil_iff.mp hnil), collected_insertFrom hinsert hcoherent⟩

/-! ### What a model keeps -/

/-- A model keeps some entities: it has their normal forms in order of arrival, its look-ups by name
are in step with each other, and its entities can be collected again to the same effect. -/
structure Keeps (model : EntityModel) (entities : List Entity) : Prop where
  normalizes : List.Forall₂ Entity.Normalizes entities model.toList
  mem_toList_iff : ∀ e, e ∈ model.toList ↔ model.get? e.name = some e
  known_iff : ∀ name, model.keys.isKnown name = true ↔ (model.get? name).isSome = true
  source_iff : ∀ name, (model.source? name).isSome = true ↔ (model.get? name).isSome = true
  key?_eq : ∀ name, model.keys.key? name = (model.get? name).bind Entity.key
  size_eq : model.size = entities.length
  origins_size_eq : model.origins.size = model.size
  keys_size_eq : model.keys.size = model.size
  again : ∃ again, ofEntities model.toList = .ok again ∧ again.toList = model.toList ∧
    again.Alike model

theorem Collected.keeps (h : model.Collected entities) (hne : entities ≠ []) :
    model.Keeps entities := by
  have hsize : model.size = entities.length := by
    rw [size, h.entered.entities_enter.size_eq, List.length_map]
  have hfound : ∀ name, (model.get? name).isSome = true ↔ name ∈ entities.map Entity.name := by
    intro name
    rw [get?, ← Std.ExtTreeMap.mem_iff_isSome_getElem?, h.entered.entities_enter.mem_iff]
  have hagain : ∃ again, ofEntities model.toList = .ok again := by
    refine exists_ofEntities_iff.mpr ⟨fun hnil => hne ?_, h.acceptable_toList⟩
    have hlength := congrArg List.length h.toList_names
    rw [hnil, List.length_map, List.length_map] at hlength
    exact List.length_eq_zero_iff.mp hlength.symm
  refine ⟨h.forall₂_normalize.imp fun _ _ => Entity.normalizes_of_normalize,
    fun e => h.mem_toList_iff, fun name => ?_, fun name => ?_, h.coherent.key?_eq, hsize, ?_, ?_, ?_⟩
  · rw [h.coherent.isKnown_iff, Option.isSome_iff_exists]
  · rw [hfound, source?, ← Std.ExtTreeMap.mem_iff_isSome_getElem?, h.entered.origins_enter.mem_iff]
  · rw [h.entered.origins_enter.size_eq, hsize, List.length_map]
  · rw [KeyIndex.size, h.entered.keys_enter.size_eq, hsize, List.length_map]
  · obtain ⟨again, hok⟩ := hagain
    have hcollected := collected_ofEntities hok
    have hsame : again.toList = model.toList := hcollected.toList_eq fun e => h.normal_of_mem
    refine ⟨again, hok, hsame, alike_of_get?_eq (fun name => Option.ext fun e => ?_)
      hcollected.coherent h.coherent⟩
    rw [hcollected.get?_eq_some_iff, h.get?_eq_some_iff, hsame]

end EntityModel

/-- **Collection normalises every entity and keeps its indexes in step.**  A model that is collected
from a list of entities, or from units with these entities, keeps them: there is exactly one entity
for each of them, in order of arrival, with the same name and key, and with no change but that its key
field is made required where it is listed and put first where it is not.  The key index, the origins
and the entities know the same names, and the entities make up the same model again. -/
theorem collection_normalizes {model : EntityModel} :
    (∀ entities, EntityModel.ofEntities entities = .ok model → model.Keeps entities) ∧
    ∀ extract units, EntityModel.collect extract units = .ok model → ∃ arrivals,
      EntityModel.unitArrivals extract units.entries = .ok arrivals ∧
        model.Keeps (arrivals.map Prod.snd) := by
  constructor
  · intro entities h
    exact (EntityModel.collected_ofEntities h).keeps (EntityModel.ofEntities_eq_ok.mp h).1
  · intro extract units h
    obtain ⟨arrivals, harrivals, hne, hinsert⟩ := EntityModel.collect_eq_ok.mp h
    have hcollected := EntityModel.collected_insertFrom hinsert
      (EntityModel.Accepted.coherent (.inr ⟨extract, units, h⟩))
    exact ⟨arrivals, harrivals, hcollected.keeps fun hnil => hne (List.map_eq_nil_iff.mp hnil)⟩

/-- The library keeps its entities, and so does the model of three units of which each holds the
entity that it is named for. -/
theorem collection_normalizes_lending :
    lending.Keeps lendingEntities ∧
    ∃ (extract : Extractor) (units : Units) (model : EntityModel) (arrivals : List (String × Entity)),
      units.ids = ["Reader", "Book", "Remark"] ∧ EntityModel.collect extract units = .ok model ∧
      EntityModel.unitArrivals extract units.entries = .ok arrivals ∧
      model.Keeps (arrivals.map Prod.snd) := by
  constructor
  · exact collection_normalizes.1 lendingEntities (EntityModel.ofEntities_getD (by decide +kernel))
  · let extract : Extractor := fun id _ => .ok (lendingEntities.filter fun e => e.name == id)
    let units : Units := ⟨lendingEntities.map fun e => (e.name, ⟨.yaml, ""⟩)⟩
    obtain ⟨model, h⟩ : ∃ model, EntityModel.collect extract units = .ok model :=
      exists_eq_ok_of_isSome (by decide +kernel)
    obtain ⟨arrivals, harrivals, hkeeps⟩ := collection_normalizes.2 extract units h
    exact ⟨extract, units, model, arrivals, by decide, h, harrivals, hkeeps⟩

end EntityProjection
