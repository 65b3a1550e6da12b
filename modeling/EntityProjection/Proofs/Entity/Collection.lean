import Mathlib.Data.List.Basic
import EntityProjection.Proofs.Entity.Acceptance

/-!
# What a model is collected from

Both ways to collect a model insert one entity after the other, each with the unit it comes from.
Which lists are accepted, and what the model of an accepted list holds, is said by membership in the
list, so that the order of arrival plays no part in it.

* `Entity.normalize_eq_ok`: what the normal form of an entity has in common with it;
* `EntityModel.Holds`: a model holds the normal forms of the entities of a list and nothing else;
* `EntityModel.Acceptable`: no name stands twice in a list, and all its entities have a normal form;
* `EntityModel.exists_ofEntities_iff`, `EntityModel.exists_collect_iff`: acceptable lists are the ones
  that are accepted; `EntityModel.holds_ofEntities`, `EntityModel.holds_collect`: what is then held;
* `EntityModel.Alike`: models that differ in nothing but the order and the origin of their entities;
  `EntityModel.Holds.alike`: this holds of models of the same entities.
-/

namespace EntityProjection

/-! ### Normal forms -/

theorem requireField_relations (name : String) (fields : List Field) :
    (requireField name fields).filterMap Field.relation? = fields.filterMap Field.relation? := by
  rw [requireField, List.filterMap_map]
  congr 1
  funext f
  rw [Function.comp_apply]
  split <;> rfl

/-- The key field holds no relation. -/
theorem Entity.keyedFields_relations {e : Entity} {key : PrimaryKey} {fields : List Field}
    (h : e.keyedFields key = .ok fields) : fields.filterMap Field.relation? = e.relations := by
  unfold keyedFields at h
  split at h
  · cases h
    rfl
  · split at h
    · cases h
      exact requireField_relations key.name e.fields
    · cases h

/-- A normal form has the name, the key and the relations of its entity. -/
theorem Entity.normalize_eq_ok {e normal : Entity} (h : e.normalize = .ok normal) :
    normal.name = e.name ∧ normal.key = e.key ∧ normal.relations = e.relations := by
  unfold normalize at h
  split at h
  · cases h
  · split at h
    · cases h
      exact ⟨rfl, rfl, rfl⟩
    · obtain ⟨fields, hfields, hnormal⟩ := bind_eq_ok h
      cases hnormal
      exact ⟨rfl, rfl, keyedFields_relations hfields⟩

namespace EntityModel

variable {model model' : EntityModel} {entities entities' : List Entity} {extract : Extractor}

/-! ### Arrivals -/

/-- The model with more entities, each from its unit, in order. -/
def insertFrom (model : EntityModel) :
    List (String × Entity) → Except GenerationError EntityModel
  | [] => .ok model
  | (source, e) :: rest => do
    let model ← model.insert source e
    model.insertFrom rest

/-- The entities of a list, each with its place in it for a unit. -/
def inlineArrivals : ℕ → List Entity → List (String × Entity)
  | _, [] => []
  | i, e :: es => (s!"inline#{i}", e) :: inlineArrivals (i + 1) es

/-- The entities of all units in order, each with its unit. -/
def unitArrivals (extract : Extractor) :
    List (String × SourceUnit) → Except GenerationError (List (String × Entity))
  | [] => .ok []
  | (id, unit) :: rest => do
    let entities ← extract id unit
    let arrivals ← unitArrivals extract rest
    return entities.map (Prod.mk id) ++ arrivals

theorem inlineArrivals_snd (i : ℕ) (entities : List Entity) :
    (inlineArrivals i entities).map Prod.snd = entities := by
  induction entities generalizing i with
  | nil => rfl
  | cons e es ih => rw [inlineArrivals, List.map_cons, ih]

theorem insertFrom_append (model : EntityModel) (first second : List (String × Entity)) :
    model.insertFrom (first ++ second) = model.insertFrom first >>= fun m => m.insertFrom second := by
  induction first generalizing model with
  | nil => rfl
  | cons arrival rest ih =>
    show (model.insert arrival.1 arrival.2 >>= fun m => m.insertFrom (rest ++ second)) =
      (model.insert arrival.1 arrival.2 >>= fun m => m.insertFrom rest) >>= _
    cases model.insert arrival.1 arrival.2 with
    | error err => rfl
    | ok next => exact ih next

theorem insertInline_eq (model : EntityModel) (i : ℕ) (entities : List Entity) :
    model.insertInline i entities = model.insertFrom (inlineArrivals i entities) := by
  induction entities generalizing model i with
  | nil => rfl
  | cons e es ih =>
    show (model.insert _ e >>= fun m => m.insertInline (i + 1) es) = model.insert _ e >>= _
    cases model.insert s!"inline#{i}" e with
    | error err => rfl
    | ok next => exact ih next (i + 1)

theorem insertAll_eq (model : EntityModel) (source : String) (entities : List Entity) :
    model.insertAll source entities = model.insertFrom (entities.map (Prod.mk source)) := by
  induction entities generalizing model with
  | nil => rfl
  | cons e es ih =>
    show (model.insert source e >>= fun m => m.insertAll source es) = model.insert source e >>= _
    cases model.insert source e with
    | error err => rfl
    | ok next => exact ih next

/-- Units are inserted if all of them can be read and their entities be inserted. -/
theorem insertUnits_eq_ok {units : List (String × SourceUnit)} :
    model.insertUnits extract units = .ok model' ↔
      ∃ arrivals, unitArrivals extract units = .ok arrivals ∧ model.insertFrom arrivals = .ok model' := by
  induction units generalizing model with
  | nil => exact ⟨fun h => ⟨[], rfl, h⟩, fun ⟨_, hl, h⟩ => by cases hl; exact h⟩
  | cons unit rest ih =>
    constructor
    · intro h
      obtain ⟨entities, hextract, h⟩ := bind_eq_ok h
      obtain ⟨next, hinsert, h⟩ := bind_eq_ok h
      obtain ⟨arrivals, harrivals, hrest⟩ := ih.mp h
      refine ⟨entities.map (Prod.mk unit.1) ++ arrivals, ?_, ?_⟩
      · rw [unitArrivals, hextract, harrivals]
        rfl
      · rw [insertFrom_append, ← insertAll_eq, hinsert]
        exact hrest
    · rintro ⟨arrivals, harrivals, h⟩
      obtain ⟨entities, hextract, harrivals⟩ := bind_eq_ok harrivals
      obtain ⟨others, hothers, harrivals⟩ := bind_eq_ok harrivals
      cases harrivals
      rw [insertFrom_append, ← insertAll_eq] at h
      obtain ⟨next, hinsert, hrest⟩ := bind_eq_ok h
      rw [insertUnits, hextract]
      show (model.insertAll unit.1 entities >>= fun m => m.insertUnits extract rest) = .ok model'
      rw [hinsert]
      exact ih.mpr ⟨others, hothers, hrest⟩

/-! ### What a model holds -/

/-- Entities with pairwise different names that all have a normal form. -/
structure Acceptable (entities : List Entity) : Prop where
  nodup : (entities.map Entity.name).Nodup
  normal : ∀ e ∈ entities, ∃ normal, e.normalize = .ok normal

/-- A model holds the normal forms of the given entities. -/
structure Holds (model : EntityModel) (entities : List Entity) : Prop where
  acceptable : Acceptable entities
  get?_iff : ∀ {name normal}, model.get? name = some normal ↔
    ∃ e ∈ entities, e.name = name ∧ e.normalize = .ok normal
  source?_iff : ∀ {name}, model.source? name = none ↔ name ∉ entities.map Entity.name

theorem Acceptable.perm (h : Acceptable entities) (hperm : entities.Perm entities') :
    Acceptable entities' where
  nodup := (hperm.map _).nodup_iff.mp h.nodup
  normal e he := h.normal e (hperm.mem_iff.mpr he)

theorem acceptable_nil : Acceptable [] where
  nodup := List.nodup_nil
  normal _ he := absurd he List.not_mem_nil

theorem acceptable_append_singleton {e : Entity} :
    Acceptable (entities ++ [e]) ↔ Acceptable entities ∧
      e.name ∉ entities.map Entity.name ∧ ∃ normal, e.normalize = .ok normal := by
  have hperm : (entities ++ [e]).Perm (e :: entities) := List.perm_append_comm
  have hcons : Acceptable (entities ++ [e]) ↔ Acceptable (e :: entities) :=
    ⟨fun h => h.perm hperm, fun h => h.perm hperm.symm⟩
  rw [hcons]
  constructor
  · intro h
    have hnodup := List.nodup_cons.mp h.nodup
    exact ⟨⟨hnodup.2, fun e he => h.normal e (List.mem_cons_of_mem _ he)⟩, hnodup.1,
      h.normal e List.mem_cons_self⟩
  · rintro ⟨h, hnew, hnormal⟩
    refine ⟨List.nodup_cons.mpr ⟨hnew, h.nodup⟩, fun e' he => ?_⟩
    obtain rfl | he := List.mem_cons.mp he
    · exact hnormal
    · exact h.normal e' he

namespace Holds

theorem of_empty : empty.Holds [] where
  acceptable := acceptable_nil
  get?_iff := by simp [get?, empty]
  source?_iff := by simp [source?, empty]

/-- An insertion that succeeds adds its entity. -/
theorem insert (h : model.Holds entities) {source : String} {e : Entity}
    (hinsert : model.insert source e = .ok model') : model'.Holds (entities ++ [e]) := by
  obtain ⟨hnew, normal, hnormal, rfl⟩ := insert_eq_ok hinsert
  obtain ⟨hname, -, -⟩ := Entity.normalize_eq_ok hnormal
  rw [h.source?_iff] at hnew
  refine ⟨acceptable_append_singleton.mpr ⟨h.acceptable, hnew, normal, hnormal⟩, ?_, ?_⟩
  · intro name other
    have hother : ∀ {normal : Entity}, (∃ e' ∈ entities, e'.name = e.name ∧
        e'.normalize = .ok normal) → False := by
      rintro normal ⟨e', he', hname', -⟩
      exact hnew (hname' ▸ List.mem_map_of_mem he')
    rw [get?, getElem?_insert_map, hname]
    simp only [List.mem_append, List.mem_singleton, or_and_right, exists_or, exists_eq_left]
    split
    · next heq =>
      subst heq
      rw [or_iff_right hother, Option.some.injEq, hnormal, Except.ok.injEq]
      exact (and_iff_right rfl).symm
    · next hne =>
      rw [or_iff_left fun hb => hne hb.1.symm]
      exact h.get?_iff
  · intro name
    rw [source?, getElem?_insert_map, hname, List.map_append, List.mem_append]
    split
    · next heq => simp [heq]
    · next hne =>
      rw [← source?, h.source?_iff, List.map_singleton, List.mem_singleton, or_iff_left hne]

/-- An entity with a new name and a normal form can be inserted. -/
theorem exists_insert (h : model.Holds entities) (source : String) {e : Entity}
    (he : Acceptable (entities ++ [e])) : ∃ model', model.insert source e = .ok model' := by
  obtain ⟨-, hnew, normal, hnormal⟩ := acceptable_append_singleton.mp he
  rw [EntityModel.insert, h.source?_iff.mpr hnew, hnormal]
  exact ⟨_, rfl⟩

/-- **Run lemma.**  Insertions that succeed add their entities. -/
theorem insertFrom (h : model.Holds entities) {arrivals : List (String × Entity)}
    (hinsert : model.insertFrom arrivals = .ok model') :
    model'.Holds (entities ++ arrivals.map Prod.snd) := by
  induction arrivals generalizing model entities with
  | nil =>
    cases hinsert
    rwa [List.map_nil, List.append_nil]
  | cons arrival rest ih =>
    obtain ⟨next, hnext, hrest⟩ := bind_eq_ok hinsert
    rw [List.map_cons, List.append_cons]
    exact ih (h.insert hnext) hrest

theorem exists_insertFrom (h : model.Holds entities) {arrivals : List (String × Entity)}
    (hall : Acceptable (entities ++ arrivals.map Prod.snd)) :
    ∃ model', model.insertFrom arrivals = .ok model' := by
  induction arrivals generalizing model entities with
  | nil => exact ⟨model, rfl⟩
  | cons arrival rest ih =>
    rw [List.map_cons, List.append_cons] at hall
    have hfirst : Acceptable (entities ++ [arrival.2]) :=
      ⟨hall.nodup.sublist ((List.sublist_append_left _ _).map _),
        fun e he => hall.normal e (List.mem_append_left _ he)⟩
    obtain ⟨next, hnext⟩ := h.exists_insert arrival.1 hfirst
    obtain ⟨model', hmodel'⟩ := ih (h.insert hnext) hall
    refine ⟨model', ?_⟩
    show (model.insert arrival.1 arrival.2 >>= _) = _
    rw [hnext]
    exact hmodel'

/-- A model is empty if it holds nothing. -/
theorem isEmpty_iff (h : model.Holds entities) : model.isEmpty = true ↔ entities = [] := by
  have hsize : model.isEmpty = true ↔ model.entities = ∅ := by
    rw [isEmpty, beq_iff_eq, size, Std.ExtTreeMap.eq_empty_iff_size_eq_zero]
  rw [hsize]
  constructor
  · intro hempty
    by_contra hne
    obtain ⟨e, he⟩ := List.exists_mem_of_ne_nil _ hne
    obtain ⟨normal, hnormal⟩ := h.acceptable.normal e he
    have hget := h.get?_iff.mpr ⟨e, he, rfl, hnormal⟩
    rw [get?, hempty, Std.ExtTreeMap.getElem?_empty] at hget
    cases hget
  · rintro rfl
    refine Std.ExtTreeMap.ext_getElem? fun name => ?_
    rw [Std.ExtTreeMap.getElem?_empty, Option.eq_none_iff_forall_ne_some]
    intro normal hget
    obtain ⟨e, he, -⟩ := h.get?_iff.mp hget
    exact List.not_mem_nil he

theorem perm (h : model.Holds entities) (hperm : entities.Perm entities') :
    model.Holds entities' where
  acceptable := h.acceptable.perm hperm
  get?_iff := by
    intro name normal
    simp only [h.get?_iff, hperm.mem_iff]
  source?_iff := by
    intro name
    rw [h.source?_iff, (hperm.map _).mem_iff]

end Holds

/-! ### Accepted lists -/

theorem ofEntities_eq_ok : ofEntities entities = .ok model ↔
    entities ≠ [] ∧ empty.insertFrom (inlineArrivals 0 entities) = .ok model := by
  have hholds : ∀ {m}, empty.insertFrom (inlineArrivals 0 entities) = .ok m → m.Holds entities := by
    intro m hm
    have h := Holds.of_empty.insertFrom hm
    rwa [List.nil_append, inlineArrivals_snd] at h
  rw [ofEntities, insertInline_eq]
  constructor
  · intro h
    obtain ⟨m, hm, h⟩ := bind_eq_ok h
    obtain ⟨hne, h⟩ := check_eq_ok h
    cases h
    exact ⟨fun hnil => hne ((hholds hm).isEmpty_iff.mpr hnil), hm⟩
  · rintro ⟨hne, h⟩
    rw [h]
    show (if model.isEmpty = true then _ else _) = _
    exact if_neg fun hempty => hne ((hholds h).isEmpty_iff.mp hempty)

/-- **What the model of a list holds.** -/
theorem holds_ofEntities (h : ofEntities entities = .ok model) : model.Holds entities := by
  have hholds := Holds.of_empty.insertFrom (ofEntities_eq_ok.mp h).2
  rwa [List.nil_append, inlineArrivals_snd] at hholds

/-- **Which lists are accepted.** -/
theorem exists_ofEntities_iff :
    (∃ model, ofEntities entities = .ok model) ↔ entities ≠ [] ∧ Acceptable entities := by
  constructor
  · rintro ⟨model, h⟩
    exact ⟨(ofEntities_eq_ok.mp h).1, (holds_ofEntities h).acceptable⟩
  · rintro ⟨hne, h⟩
    have hall : Acceptable ([] ++ (inlineArrivals 0 entities).map Prod.snd) := by
      rwa [List.nil_append, inlineArrivals_snd]
    obtain ⟨model, hmodel⟩ := Holds.of_empty.exists_insertFrom hall
    exact ⟨model, ofEntities_eq_ok.mpr ⟨hne, hmodel⟩⟩

theorem collect_eq_ok {units : Units} : collect extract units = .ok model ↔
    ∃ arrivals, unitArrivals extract units.entries = .ok arrivals ∧ arrivals ≠ [] ∧
      empty.insertFrom arrivals = .ok model := by
  have hempty : ∀ {arrivals m}, empty.insertFrom arrivals = .ok m →
      (m.isEmpty = true ↔ arrivals = []) := by
    intro arrivals m hm
    rw [(Holds.of_empty.insertFrom hm).isEmpty_iff, List.nil_append, List.map_eq_nil_iff]
  constructor
  · intro h
    obtain ⟨-, h⟩ := check_eq_ok h
    obtain ⟨m, hm, h⟩ := bind_eq_ok h
    obtain ⟨hne, h⟩ := check_eq_ok h
    cases h
    obtain ⟨arrivals, harrivals, hm⟩ := insertUnits_eq_ok.mp hm
    exact ⟨arrivals, harrivals, fun hnil => hne ((hempty hm).mpr hnil), hm⟩
  · rintro ⟨arrivals, harrivals, hne, h⟩
    have hunits : ¬units.entries.isEmpty = true := by
      intro hnil
      rw [List.isEmpty_iff.mp hnil] at harrivals
      cases harrivals
      exact hne rfl
    rw [collect, if_neg hunits, insertUnits_eq_ok.mpr ⟨arrivals, harrivals, h⟩]
    show (if model.isEmpty = true then _ else _) = _
    exact if_neg fun hnil => hne ((hempty h).mp hnil)

/-- **What the model of some units holds.** -/
theorem holds_collect {units : Units} (h : collect extract units = .ok model) :
    ∃ arrivals, unitArrivals extract units.entries = .ok arrivals ∧
      model.Holds (arrivals.map Prod.snd) := by
  obtain ⟨arrivals, harrivals, -, h⟩ := collect_eq_ok.mp h
  exact ⟨arrivals, harrivals, Holds.of_empty.insertFrom h⟩

/-- **Which units are accepted.** -/
theorem exists_collect_iff {units : Units} :
    (∃ model, collect extract units = .ok model) ↔
      ∃ arrivals, unitArrivals extract units.entries = .ok arrivals ∧ arrivals ≠ [] ∧
        Acceptable (arrivals.map Prod.snd) := by
  constructor
  · rintro ⟨model, h⟩
    obtain ⟨arrivals, harrivals, hne, h⟩ := collect_eq_ok.mp h
    exact ⟨arrivals, harrivals, hne, (Holds.of_empty.insertFrom h).acceptable⟩
  · rintro ⟨arrivals, harrivals, hne, h⟩
    obtain ⟨model, hmodel⟩ := Holds.of_empty.exists_insertFrom h
    exact ⟨model, collect_eq_ok.mpr ⟨arrivals, harrivals, hne, hmodel⟩⟩

/-- Units in another order have the same entities in another order. -/
theorem unitArrivals_perm {units units' : List (String × SourceUnit)} (hperm : units.Perm units')
    {arrivals : List (String × Entity)} (h : unitArrivals extract units = .ok arrivals) :
    ∃ arrivals', unitArrivals extract units' = .ok arrivals' ∧ arrivals.Perm arrivals' := by
  induction hperm generalizing arrivals with
  | nil => exact ⟨arrivals, h, .refl _⟩
  | cons unit _ ih =>
    obtain ⟨entities, hextract, h⟩ := bind_eq_ok h
    obtain ⟨others, hothers, h⟩ := bind_eq_ok h
    cases h
    obtain ⟨others', hothers', hperm⟩ := ih hothers
    refine ⟨entities.map (Prod.mk unit.1) ++ others', ?_, hperm.append_left _⟩
    rw [unitArrivals, hextract, hothers']
    rfl
  | swap first second rest =>
    obtain ⟨entities, hextract, h⟩ := bind_eq_ok h
    obtain ⟨others, hothers, h⟩ := bind_eq_ok h
    cases h
    obtain ⟨entities', hextract', h⟩ := bind_eq_ok hothers
    obtain ⟨others', hothers', h⟩ := bind_eq_ok h
    cases h
    refine ⟨entities'.map (Prod.mk first.1) ++ (entities.map (Prod.mk second.1) ++ others'), ?_, ?_⟩
    · rw [unitArrivals, hextract', unitArrivals, hextract, hothers']
      rfl
    · rw [← List.append_assoc, ← List.append_assoc]
      exact List.perm_append_comm.append_right _
  | trans _ _ ih ih' =>
    obtain ⟨middle, hmiddle, hperm⟩ := ih h
    obtain ⟨last, hlast, hperm'⟩ := ih' hmiddle
    exact ⟨last, hlast, hperm.trans hperm'⟩

/-! ### Models of the same entities -/

/-- Models that have the same entities under the same names, and the same keys. -/
structure Alike (model model' : EntityModel) : Prop where
  entities_eq : model.entities = model'.entities
  keys_eq : model.keys = model'.keys

/-- Coherent models are alike if they have the same entity for every name. -/
theorem alike_of_get?_eq (hget : ∀ name, model.get? name = model'.get? name) (hc : model.Coherent)
    (hc' : model'.Coherent) : model.Alike model' := by
  refine ⟨Std.ExtTreeMap.ext_getElem? hget, ?_⟩
  have hkeys : model.keys.entries = model'.keys.entries := by
    refine Std.ExtTreeMap.ext_getElem? fun name => ?_
    rw [hc.indexed, hc'.indexed, hget]
  rw [KeyIndex.mk.injEq, hkeys]

/-- Coherent models are alike if they hold the same entities. -/
theorem Holds.alike (h : model.Holds entities) (h' : model'.Holds entities) (hc : model.Coherent)
    (hc' : model'.Coherent) : model.Alike model' := by
  refine alike_of_get?_eq (fun name => Option.ext fun normal => ?_) hc hc'
  rw [h.get?_iff, h'.get?_iff]

end EntityModel

end EntityProjection
