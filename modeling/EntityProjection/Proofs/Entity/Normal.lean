import EntityProjection.Proofs.Entity.Acceptance

/-!
# Normal entities

What a model guarantees of an entity that it holds, wherever the entity came from: no two of its
fields share a name, and if it has a key then one of its fields is the key field, required and of the
key's type.  The source may have listed that field, at any place and as one that may be absent, or
not at all.

* `Entity.Normal`: these guarantees;
* `Entity.normal_of_normalize`: a normal form has them;
* `EntityModel.Accepted.normal`: so has every entity of an accepted model.
-/

namespace EntityProjection

namespace Entity

/-- No two fields share a name, and the key field is among them, required and of the key's type. -/
structure Normal (e : Entity) : Prop where
  names_nodup : (e.fields.map Field.name).Nodup
  keyed : ∀ {key}, e.key = some key →
    ∃ f ∈ e.fields, f.name = key.name ∧ f.kind = .scalar key.type ∧ f.optional = false

/-! ### Normal forms -/

theorem requireField_names (name : String) (fields : List Field) :
    (requireField name fields).map Field.name = fields.map Field.name := by
  rw [requireField, List.map_map]
  refine List.map_congr_left fun f _ => ?_
  rw [Function.comp_apply]
  split <;> rfl

/-- A field is required once fields of its name are. -/
theorem mem_requireField {f : Field} {fields : List Field} (hf : f ∈ fields) :
    { f with optional := false } ∈ requireField f.name fields :=
  List.mem_map.mpr ⟨f, hf, if_pos (beq_self_eq_true _)⟩

/-- The fields of a keyed entity are normal if those that the source lists do not repeat a name. -/
theorem normal_of_keyedFields {e : Entity} {key : PrimaryKey} {fields : List Field}
    (hnodup : (e.fields.map Field.name).Nodup) (hkey : e.key = some key)
    (h : e.keyedFields key = .ok fields) : ({ e with fields } : Entity).Normal := by
  unfold keyedFields at h
  split at h
  · next hnone =>
    cases h
    rw [List.find?_eq_none] at hnone
    refine ⟨List.nodup_cons.mpr ⟨fun hmem => ?_, hnodup⟩, fun {other} hother => ?_⟩
    · obtain ⟨f, hf, hname⟩ := List.mem_map.mp hmem
      exact hnone f hf (beq_iff_eq.mpr hname)
    · obtain rfl : key = other := Option.some.inj (hkey.symm.trans hother)
      exact ⟨key.toField, List.mem_cons_self, rfl, rfl, rfl⟩
  · next f hfound =>
    split at h
    · next hkind =>
      cases h
      have hname : f.name = key.name := by simpa using List.find?_some hfound
      refine ⟨(requireField_names key.name e.fields).symm ▸ hnodup, fun {other} hother => ?_⟩
      obtain rfl : key = other := Option.some.inj (hkey.symm.trans hother)
      refine ⟨{ f with optional := false }, ?_, hname, hkind, rfl⟩
      exact hname ▸ mem_requireField (List.mem_of_find?_eq_some hfound)
    · cases h

/-- **A normal form is normal.** -/
theorem normal_of_normalize {e normal : Entity} (h : e.normalize = .ok normal) : normal.Normal := by
  unfold normalize at h
  split at h
  · cases h
  · next hnew =>
    have hnodup := (firstTaken?_eq_none.mp hnew).1
    split at h
    · next hkey =>
      cases h
      refine ⟨hnodup, fun {key} hsome => ?_⟩
      rw [hkey] at hsome
      cases hsome
    · next key hkey =>
      obtain ⟨fields, hfields, hnormal⟩ := bind_eq_ok h
      cases hnormal
      exact normal_of_keyedFields hnodup hkey hfields

/-! ### Fields by name -/

/-- The relation of a name is what the field of that name holds. -/
theorem filter_relations (e : Entity) (name : String) :
    e.relations.filter (fun r => r.field == name) =
      (e.fields.filter fun f => f.name == name).filterMap Field.relation? := by
  rw [relations, List.filter_filterMap, List.filterMap_filter]
  congr 1
  funext f
  unfold Field.relation?
  cases f.kind with
  | scalar type => simp
  | relation multiplicity target => simp [Option.filter]

namespace Normal

variable {e : Entity} (h : e.Normal)

include h

/-- A field is told by its name. -/
theorem eq_of_name {f f' : Field} (hf : f ∈ e.fields) (hf' : f' ∈ e.fields)
    (hname : f.name = f'.name) : f = f' := by
  have hsame : [f] = [f'] := by
    rw [← filter_eq_of_nodup_map h.names_nodup hf, ← filter_eq_of_nodup_map h.names_nodup hf', hname]
  exact List.head_eq_of_cons_eq hsame

/-- An entity has no other relation of a field's name than what the field holds. -/
theorem filter_relations_eq {f : Field} (hf : f ∈ e.fields) :
    e.relations.filter (fun r => r.field == f.name) = f.relation?.toList := by
  rw [filter_relations, filter_eq_of_nodup_map h.names_nodup hf]
  cases hr : f.relation? <;> simp [hr]

/-- The field of the key's name is the key field. -/
theorem of_key_name {key : PrimaryKey} (hkey : e.key = some key) {f : Field} (hf : f ∈ e.fields)
    (hname : f.name = key.name) : f.kind = .scalar key.type ∧ f.optional = false := by
  obtain ⟨f', hf', hname', hkind, hrequired⟩ := h.keyed hkey
  obtain rfl := h.eq_of_name hf hf' (hname.trans hname'.symm)
  exact ⟨hkind, hrequired⟩

end Normal

end Entity

/-! ### Entities of models -/

/-- **Every entity of an accepted model is normal.** -/
theorem EntityModel.Accepted.normal {model : EntityModel} (h : model.Accepted) :
    ∀ {name e}, model.get? name = some e → e.Normal := by
  refine h.induction (P := fun model => ∀ {name e}, model.get? name = some e → e.Normal) ?_ ?_
  · intro model model' source arrival hmodel hinsert name e he
    obtain ⟨-, normal, hnormal, rfl⟩ := insert_eq_ok hinsert
    rw [get?, getElem?_insert_map] at he
    split at he
    · cases he
      exact Entity.normal_of_normalize hnormal
    · exact hmodel he
  · intro name e he
    rw [get?, empty, Std.ExtTreeMap.getElem?_empty] at he
    cases he

/-- A library that lends books.  Readers list their key, as a second field that may be absent; books
do not list theirs, and remarks have none. -/
def lendingEntities : List Entity :=
  [{ name := "Reader", key := some ⟨"id", "number"⟩,
     fields := [{ name := "name", kind := .scalar "string" },
       { name := "id", kind := .scalar "number", optional := true },
       { name := "photo", kind := .relation .one "Picture", declared := some "Buffer" },
       { name := "remarks", kind := .relation .many "Remark" },
       { name := "loans", kind := .relation .many "Book" }] },
   { name := "Book", key := some ⟨"isbn", "string"⟩,
     fields := [{ name := "reader", kind := .relation .one "Reader", optional := true }] },
   { name := "Remark", fields := [{ name := "text", kind := .scalar "string" }] }]

/-- The model of the library. -/
def lending : EntityModel :=
  (EntityModel.ofEntities lendingEntities).toOption.getD .empty

theorem lending_accepted : lending.Accepted :=
  .inl ⟨lendingEntities, EntityModel.ofEntities_getD (by decide +kernel)⟩

/-- A reader as the library holds it: the key field stands where it was listed, and is required. -/
def lendingReader : Entity where
  name := "Reader"
  key := some ⟨"id", "number"⟩
  fields := [{ name := "name", kind := .scalar "string" },
    { name := "id", kind := .scalar "number" },
    { name := "photo", kind := .relation .one "Picture", declared := some "Buffer" },
    { name := "remarks", kind := .relation .many "Remark" },
    { name := "loans", kind := .relation .many "Book" }]

theorem lending_reader : lending.get? lendingReader.name = some lendingReader := by
  decide +kernel

/-- A book as the library holds it: the key field is the first one. -/
def lendingBook : Entity where
  name := "Book"
  key := some ⟨"isbn", "string"⟩
  fields := [{ name := "isbn", kind := .scalar "string" },
    { name := "reader", kind := .relation .one "Reader", optional := true }]

theorem lending_book : lending.get? lendingBook.name = some lendingBook := by
  decide +kernel

end EntityProjection
