import EntityProjection.Proofs.Preliminaries
import EntityProjection.Unit.Extraction

/-!
# What is extracted from a unit

A unit whose text is decoded yields one entity for each record, with nothing lost and nothing added,
so that the records can be told from the entities; or it yields nothing, because of the first field in
document order whose attributes do not go together.  All this holds for any way of decoding.

* `FieldRecord.Describes`, `EntityRecord.Describes`: which field, and which entity, a record stands for;
* `FieldRecord.Offends`: why a record stands for no field, with what is said about it;
* `entitiesOf_eq_ok_iff`, `entitiesOf_eq_error_iff`: the entities of a document, or its first offence;
* `extraction_lossless`: the same of units.
-/

namespace EntityProjection

/-! ### Fields -/

namespace FieldRecord

variable {r r' : FieldRecord} {f : Field} {entity : String} {fault : UnitFault} {text : String}

/-- The attributes of a record go together: those of a relation, or else a type alone. -/
def Meaningful (r : FieldRecord) : Prop :=
  (r.multiplicity.isSome = true ∧ r.target.isSome = true) ∨
    r.multiplicity = none ∧ r.target = none ∧ r.type.isSome = true

/-- The field that a record stands for. -/
inductive Describes : FieldRecord → Field → Prop where
  | scalar {name type : String} {optional : Bool} :
    Describes ⟨name, some type, optional, none, none⟩ ⟨name, .scalar type, optional, none⟩
  | relation {name target : String} {type : Option String} {optional : Bool} {m : Multiplicity} :
    Describes ⟨name, type, optional, some m, some target⟩ ⟨name, .relation m target, optional, type⟩

/-- Why a record of the named entity stands for no field, and what is said about it. -/
inductive Offends (entity : String) : FieldRecord → UnitFault → String → Prop where
  | missingTarget {name : String} {type : Option String} {optional : Bool} {m : Multiplicity} :
    Offends entity ⟨name, type, optional, some m, none⟩ (.missingTarget entity name)
      s!"relation field '{entity}.{name}' is missing a target"
  | missingMultiplicity {name target : String} {type : Option String} {optional : Bool} :
    Offends entity ⟨name, type, optional, none, some target⟩ (.missingMultiplicity entity name)
      s!"field '{entity}.{name}' has a target but no relation multiplicity"
  | missingType {name : String} {optional : Bool} :
    Offends entity ⟨name, none, optional, none, none⟩ (.missingType entity name)
      s!"scalar field '{entity}.{name}' is missing a type"

theorem toField_eq_ok_iff : r.toField entity = .ok f ↔ r.Describes f := by
  constructor
  · intro h
    obtain ⟨name, type, optional, multiplicity, target⟩ := r
    cases multiplicity <;> cases target <;> cases type <;> cases h
    · exact .scalar
    · exact .relation
    · exact .relation
  · rintro (_ | _) <;> rfl

theorem toField_eq_error_iff :
    r.toField entity = .error fault ↔ Offends entity r fault fault.message := by
  constructor
  · intro h
    obtain ⟨name, type, optional, multiplicity, target⟩ := r
    cases multiplicity <;> cases target <;> cases type <;> cases h
    · exact .missingType
    · exact .missingMultiplicity
    · exact .missingMultiplicity
    · exact .missingTarget
    · exact .missingTarget
  · generalize fault.message = text
    rintro (_ | _ | _) <;> rfl

/-- What is said about an offence is the wording of its fault. -/
theorem Offends.text_eq (h : Offends entity r fault text) : text = fault.message := by
  cases h <;> rfl

/-- The attributes of a record go together if it stands for a field. -/
theorem exists_toField_iff : (∃ f, r.toField entity = .ok f) ↔ r.Meaningful := by
  obtain ⟨name, type, optional, multiplicity, target⟩ := r
  cases multiplicity <;> cases target <;> cases type <;> simp [toField, Meaningful]

/-- A field is described by one record only. -/
theorem describes_leftUnique : Relator.LeftUnique Describes := by
  rintro _ _ _ (_ | _) (_ | _) <;> rfl

end FieldRecord

/-! ### Entities -/

theorem fieldsOf_eq_mapM (entity : String) (rs : List FieldRecord) :
    fieldsOf entity rs = rs.mapM (FieldRecord.toField entity) := by
  induction rs with
  | nil => rfl
  | cons r rs ih =>
    rw [fieldsOf, List.mapM_cons, ih]

namespace EntityRecord

variable {r r' : EntityRecord} {e : Entity} {fault : UnitFault} {text : String}

/-- The attributes of all fields go together. -/
def Meaningful (r : EntityRecord) : Prop :=
  ∀ f ∈ r.fields, f.Meaningful

/-- The entity that a record stands for: it has the name and the key of the record, and a field for
each of its fields, in order. -/
structure Describes (r : EntityRecord) (e : Entity) : Prop where
  name_eq : e.name = r.name
  key_eq : e.key = r.key
  fields : List.Forall₂ FieldRecord.Describes r.fields e.fields

/-- The first field of an entity that offends. -/
def Offends (r : EntityRecord) (fault : UnitFault) (text : String) : Prop :=
  ∃ before f after, r.fields = before ++ f :: after ∧ (∀ f ∈ before, f.Meaningful) ∧
    f.Offends r.name fault text

theorem toEntity_eq_ok_iff : r.toEntity = .ok e ↔ r.Describes e := by
  rw [toEntity, fieldsOf_eq_mapM]
  constructor
  · intro h
    obtain ⟨fields, hfields, h⟩ := bind_eq_ok h
    cases h
    refine ⟨rfl, rfl, (mapM_eq_ok_iff.mp hfields).imp ?_⟩
    exact fun _ _ => FieldRecord.toField_eq_ok_iff.mp
  · intro h
    have hfields : r.fields.mapM (FieldRecord.toField r.name) = .ok e.fields :=
      mapM_eq_ok_iff.mpr (h.fields.imp fun _ _ => FieldRecord.toField_eq_ok_iff.mpr)
    rw [hfields, ← h.name_eq, ← h.key_eq]
    rfl

theorem toEntity_eq_error_iff : r.toEntity = .error fault ↔ r.Offends fault fault.message := by
  rw [toEntity, bind_pure_eq_error_iff, fieldsOf_eq_mapM, mapM_eq_error_iff]
  simp only [FieldRecord.exists_toField_iff, FieldRecord.toField_eq_error_iff, Offends]

/-- A record stands for an entity if the attributes of all its fields go together. -/
theorem exists_toEntity_iff : (∃ e, r.toEntity = .ok e) ↔ r.Meaningful := by
  have hfields : (∃ e, r.toEntity = .ok e) ↔ ∃ fields, fieldsOf r.name r.fields = .ok fields := by
    simp only [exists_eq_ok_iff, toEntity, ne_eq, bind_pure_eq_error_iff]
  rw [hfields, fieldsOf_eq_mapM, exists_mapM_eq_ok_iff]
  simp only [FieldRecord.exists_toField_iff, Meaningful]

/-- An entity is described by one record only. -/
theorem describes_leftUnique : Relator.LeftUnique Describes := by
  intro r e r' h h'
  have hfields := List.left_unique_forall₂' FieldRecord.describes_leftUnique h.fields h'.fields
  have hname := h.name_eq.symm.trans h'.name_eq
  have hkey := h.key_eq.symm.trans h'.key_eq
  cases r
  cases r'
  rw [mk.injEq]
  exact ⟨hname, hkey, hfields⟩

end EntityRecord

/-! ### Documents -/

section Documents

variable {records : List EntityRecord} {entities : List Entity} {fault : UnitFault} {text : String}

/-- The first field in document order whose attributes do not go together, with what is wrong. -/
def FirstOffence (records : List EntityRecord) (fault : UnitFault) (text : String) : Prop :=
  ∃ before r after, records = before ++ r :: after ∧ (∀ r ∈ before, r.Meaningful) ∧
    r.Offends fault text

theorem entitiesOf_eq_mapM (records : List EntityRecord) :
    entitiesOf records = records.mapM EntityRecord.toEntity := by
  induction records with
  | nil => rfl
  | cons r rs ih => rw [entitiesOf, List.mapM_cons, ih]

/-- **Which entities a document has:** one for each record, in order. -/
theorem entitiesOf_eq_ok_iff : entitiesOf records = .ok entities ↔
    List.Forall₂ EntityRecord.Describes records entities := by
  simp only [entitiesOf_eq_mapM, mapM_eq_ok_iff, EntityRecord.toEntity_eq_ok_iff]

/-- **Which documents have entities.** -/
theorem exists_entitiesOf_iff : (∃ entities, entitiesOf records = .ok entities) ↔
    ∀ r ∈ records, r.Meaningful := by
  simp only [entitiesOf_eq_mapM, exists_mapM_eq_ok_iff, EntityRecord.exists_toEntity_iff]

/-- **Why a document has no entities:** because of its first offence. -/
theorem entitiesOf_eq_error_iff : entitiesOf records = .error fault ↔
    FirstOffence records fault fault.message := by
  simp only [entitiesOf_eq_mapM, mapM_eq_error_iff, EntityRecord.exists_toEntity_iff,
    EntityRecord.toEntity_eq_error_iff, FirstOffence]

theorem FirstOffence.text_eq (h : FirstOffence records fault text) : text = fault.message := by
  obtain ⟨_, _, _, -, -, _, _, _, -, -, hoffends⟩ := h
  exact hoffends.text_eq

end Documents

/-! ### Units -/

/-- A unit that is not blank lists the records that its text is decoded to. -/
structure SourceUnit.Lists (unit : SourceUnit) (decode : Decoder) (records : List EntityRecord) :
    Prop where
  notBlank : Text.isBlankText unit.content = false
  decoded : decode unit.format unit.content = .ok records

namespace SourceUnit.Lists

variable {unit : SourceUnit} {decode : Decoder} {records : List EntityRecord} {id : String}

theorem entities_eq (h : unit.Lists decode records) : unit.entities decode = entitiesOf records := by
  rw [entities, h.notBlank, h.decoded]
  rfl

theorem extractWith_eq_ok_iff (h : unit.Lists decode records) {entities : List Entity} :
    extractWith decode id unit = .ok entities ↔ entitiesOf records = .ok entities := by
  rw [extractWith, h.entities_eq, mapError_eq_ok]

theorem extractWith_eq_error_iff (h : unit.Lists decode records) {err : GenerationError} :
    extractWith decode id unit = .error err ↔
      ∃ fault, entitiesOf records = .error fault ∧ err = .invalidUnit id fault := by
  rw [extractWith, h.entities_eq, mapError_eq_error_iff]

end SourceUnit.Lists

/-- **Extraction loses nothing and is all or nothing.**  A unit that lists some records, under any way
of decoding, yields entities just if each field is a relation with a target or a scalar with a type.
The entities then stand for the records one by one, so that they could not come from other records.
Otherwise the unit is invalid because of the first field in document order whose attributes do not go
together, and the message says what is wrong with that field. -/
theorem extraction_lossless {decode : Decoder} {unit : SourceUnit} {records : List EntityRecord}
    (h : unit.Lists decode records) (id : String) :
    ((∃ entities, extractWith decode id unit = .ok entities) ↔
      ∀ r ∈ records, ∀ f ∈ r.fields, (f.multiplicity.isSome = true ∧ f.target.isSome = true) ∨
        f.multiplicity = none ∧ f.target = none ∧ f.type.isSome = true) ∧
    (∀ entities, extractWith decode id unit = .ok entities ↔
      List.Forall₂ EntityRecord.Describes records entities) ∧
    (∀ (unit' : SourceUnit) (records' : List EntityRecord) (id' : String) (entities : List Entity),
      unit'.Lists decode records' → extractWith decode id unit = .ok entities →
        extractWith decode id' unit' = .ok entities → records = records') ∧
    ∀ err, extractWith decode id unit = .error err ↔ ∃ fault text, FirstOffence records fault text ∧
      err = .invalidUnit id fault ∧ err.message = s!"invalid entity unit '{id}': {text}" := by
  refine ⟨?_, fun entities => ?_, fun unit' records' id' entities h' hok hok' => ?_, fun err => ?_⟩
  · simp only [h.extractWith_eq_ok_iff, exists_entitiesOf_iff]
    exact Iff.rfl
  · rw [h.extractWith_eq_ok_iff, entitiesOf_eq_ok_iff]
  · rw [h.extractWith_eq_ok_iff, entitiesOf_eq_ok_iff] at hok
    rw [h'.extractWith_eq_ok_iff, entitiesOf_eq_ok_iff] at hok'
    exact List.left_unique_forall₂' EntityRecord.describes_leftUnique hok hok'
  · rw [h.extractWith_eq_error_iff]
    constructor
    · rintro ⟨fault, hfault, rfl⟩
      exact ⟨fault, fault.message, entitiesOf_eq_error_iff.mp hfault, rfl, rfl⟩
    · rintro ⟨fault, text, hfirst, rfl, -⟩
      exact ⟨fault, entitiesOf_eq_error_iff.mpr (hfirst.text_eq ▸ hfirst), rfl⟩

/-- A user with a key and a field that may be absent. -/
def userRecord : EntityRecord where
  name := "User"
  key := some ⟨"id", "number"⟩
  fields := [⟨"email", some "string", true, none, none⟩]

/-- A post with a relation without target and a scalar without type. -/
def postRecord : EntityRecord where
  name := "Post"
  fields := [⟨"title", some "string", false, none, none⟩, ⟨"author", none, false, some .one, none⟩,
    ⟨"text", none, false, none, none⟩]

/-- A unit that lists the user. -/
def userUnit : SourceUnit :=
  ⟨.json, "[[[\"User\",[\"id\",\"number\"],[[\"email\",\"string\",true]]]]]"⟩

/-- A unit that lists the user and the post. -/
def postUnit : SourceUnit :=
  ⟨.json, "[[[\"User\",[\"id\",\"number\"],[[\"email\",\"string\",true]]]," ++
    "[\"Post\",null,[[\"title\",\"string\"],[\"author\",null,false,\"one\"],[\"text\"]]]]]"⟩

/-- The user is extracted as it is, and the post with the user is not, because of its author. -/
theorem extraction_lossless_post :
    userUnit.Lists UnitFormat.decode [userRecord] ∧
    postUnit.Lists UnitFormat.decode [userRecord, postRecord] ∧
    extractEntities "user.json" userUnit = .ok [{
      name := "User"
      key := some ⟨"id", "number"⟩
      fields := [{ name := "email", kind := .scalar "string", optional := true }] }] ∧
    extractEntities "post.json" postUnit =
      .error (.invalidUnit "post.json" (.missingTarget "Post" "author")) := by
  have huser : userUnit.Lists UnitFormat.decode [userRecord] :=
    ⟨by decide +kernel, by decide +kernel⟩
  have hpost : postUnit.Lists UnitFormat.decode [userRecord, postRecord] :=
    ⟨by decide +kernel, by decide +kernel⟩
  obtain ⟨-, hok, -, -⟩ := extraction_lossless huser "user.json"
  obtain ⟨-, -, -, herror⟩ := extraction_lossless hpost "post.json"
  obtain ⟨text, hoffence⟩ :
      ∃ text, FirstOffence [userRecord, postRecord] (.missingTarget "Post" "author") text := by
    refine ⟨_, [userRecord], postRecord, [], rfl, ?_,
      [⟨"title", some "string", false, none, none⟩], _, _, rfl, ?_, .missingTarget⟩
    · simp [EntityRecord.Meaningful, FieldRecord.Meaningful, userRecord]
    · simp [FieldRecord.Meaningful]
  refine ⟨huser, hpost, (hok _).mpr (.cons ⟨rfl, rfl, .cons .scalar .nil⟩ .nil), ?_⟩
  exact (herror _).mpr ⟨_, _, hoffence, rfl, by rw [hoffence.text_eq]; rfl⟩

end EntityProjection
