import EntityProjection.Proofs.Declaration.Members
import EntityProjection.Proofs.Entity.Normal
import EntityProjection.Proofs.Lint.Findings

/-!
# Degraded members are reported

A relation whose target is unknown, or known and without a key, gets a poorer type than it could
have.  The projection decides this when it types the field, and the checks decide it again when they
look at the relation; neither asks the other.  They agree on every field of every entity.

* `degradations`: what is found about the degradation of one field;
* `Entity.Normal.degradations_eq`: these are the findings about the relation that the field holds,
  and there are none if it holds a scalar;
* `degradations_reported`: a degradation is reported just if the projection degrades the field, and a
  missing key just if the projection gives the entity no partial declaration.
-/

namespace EntityProjection

/-! ### Findings about one field -/

/-- A finding that a field is emitted with less than it could be. -/
def Finding.isDegradation (f : Finding) : Bool :=
  f.code == "unresolved_relation_target" || f.code == "target_without_primary_key"

/-- What is found about the degradation of a field of an entity. -/
def degradations (keys : KeyIndex) (e : Entity) (field : String) : List Finding :=
  (entityFindings keys e).filter fun f => f.isDegradation && f.location == s!"field:{e.name}.{field}"

/-- A finding about a relation is a degradation, located at the field that holds the relation. -/
theorem isDegradation_of_mem_relationFindings {keys : KeyIndex} {entity : String} {r : Relation}
    {f : Finding} (hf : f ∈ relationFindings keys entity r) :
    f.isDegradation = true ∧ f.location = s!"field:{entity}.{r.field}" := by
  obtain ⟨rfl, -⟩ | ⟨rfl, -⟩ := mem_relationFindings.mp hf
  · exact ⟨rfl, rfl⟩
  · exact ⟨rfl, rfl⟩

theorem fieldLocation_inj {entity field other : String} :
    s!"field:{entity}.{field}" = s!"field:{entity}.{other}" ↔ field = other :=
  String.append_right_inj _

/-- The findings about a relation are located at a field just if it holds the relation. -/
theorem filter_relationFindings (keys : KeyIndex) (entity field : String) (r : Relation) :
    (relationFindings keys entity r).filter
        (fun f => f.isDegradation && f.location == s!"field:{entity}.{field}") =
      if r.field == field then relationFindings keys entity r else [] := by
  split
  · next heq =>
    refine List.filter_eq_self.mpr fun f hf => ?_
    obtain ⟨hdegradation, hlocation⟩ := isDegradation_of_mem_relationFindings hf
    rw [hdegradation, hlocation, eq_of_beq heq, beq_self_eq_true]
    rfl
  · next hne =>
    refine List.filter_eq_nil_iff.mpr fun f hf hlocated => hne (beq_iff_eq.mpr ?_)
    rw [Bool.and_eq_true, beq_iff_eq, (isDegradation_of_mem_relationFindings hf).2] at hlocated
    exact fieldLocation_inj.mp hlocated.2

/-- No finding about the name or the key of an entity is a degradation. -/
theorem not_isDegradation {name : String} {f : Finding}
    (hf : f ∈ entityNameFindings name ∨ f = .missingKey name) : ¬f.isDegradation = true := by
  obtain hf | rfl := hf
  · obtain ⟨rfl, -⟩ | ⟨rfl, -⟩ := mem_entityNameFindings.mp hf
    all_goals simp [Finding.isDegradation, Finding.code]
  · simp [Finding.isDegradation, Finding.code]

/-- The degradations of a field are the findings about the relations of its name. -/
theorem degradations_eq_flatMap (keys : KeyIndex) (e : Entity) (field : String) :
    degradations keys e field =
      (e.relations.filter fun r => r.field == field).flatMap (relationFindings keys e.name) := by
  have hnone : ∀ findings : List Finding,
      (∀ f ∈ findings, f ∈ entityNameFindings e.name ∨ f = .missingKey e.name) →
      findings.filter
        (fun f => f.isDegradation && f.location == s!"field:{e.name}.{field}") = [] := by
    refine fun findings hall => List.filter_eq_nil_iff.mpr fun f hf hlocated => ?_
    rw [Bool.and_eq_true] at hlocated
    exact not_isDegradation (hall f hf) hlocated.1
  have hkey : ∀ f ∈ if e.key.isNone then [Finding.missingKey e.name] else [],
      f ∈ entityNameFindings e.name ∨ f = .missingKey e.name := by
    intro f hf
    split at hf
    · exact .inr (List.mem_singleton.mp hf)
    · cases hf
  rw [degradations, entityFindings, List.filter_append, List.filter_append,
    hnone _ fun f hf => .inl hf, hnone _ hkey, List.nil_append, List.nil_append]
  induction e.relations with
  | nil => rfl
  | cons r rest ih =>
    rw [List.flatMap_cons, List.filter_append, ih, filter_relationFindings, List.filter_cons]
    split <;> rfl

/-- **The degradations of a field.**  In a normal entity they are the findings about the relation that
the field holds. -/
theorem Entity.Normal.degradations_eq {e : Entity} (h : e.Normal) (keys : KeyIndex) {f : Field}
    (hf : f ∈ e.fields) :
    degradations keys e f.name = f.relation?.toList.flatMap (relationFindings keys e.name) := by
  rw [degradations_eq_flatMap, h.filter_relations_eq hf]

theorem Entity.Normal.degradations_scalar {e : Entity} (h : e.Normal) (keys : KeyIndex) {f : Field}
    (hf : f ∈ e.fields) {type : String} (hkind : f.kind = .scalar type) :
    degradations keys e f.name = [] := by
  rw [h.degradations_eq keys hf, Field.relation?, hkind]
  rfl

theorem Entity.Normal.degradations_relation {e : Entity} (h : e.Normal) (keys : KeyIndex)
    {f : Field} (hf : f ∈ e.fields) {multiplicity : Multiplicity} {target : String}
    (hkind : f.kind = .relation multiplicity target) :
    degradations keys e f.name =
      relationFindings keys e.name ⟨f.name, multiplicity, target, f.declared⟩ := by
  rw [h.degradations_eq keys hf, Field.relation?, hkind]
  exact List.flatMap_singleton _ _

/-- About a relation there is one finding at most. -/
theorem length_relationFindings_le (keys : KeyIndex) (entity : String) (r : Relation) :
    (relationFindings keys entity r).length ≤ 1 := by
  rw [relationFindings]
  split
  · exact Nat.le_refl 1
  · split
    · exact Nat.le_refl 1
    · exact Nat.zero_le 1

/-! ### Findings about one relation -/

theorem eq_unresolvedTarget {keys : KeyIndex} {entity : String} {r : Relation} {x : Finding}
    (hx : x ∈ relationFindings keys entity r) (hcode : x.code = "unresolved_relation_target") :
    x = .unresolvedTarget entity r (r.declared.getD opaqueType) ∧ ¬keys.isKnown r.target = true := by
  obtain hx | ⟨rfl, -⟩ := mem_relationFindings.mp hx
  · exact hx
  · exact absurd hcode (by simp [Finding.code])

theorem exists_unresolvedTarget_iff {keys : KeyIndex} {entity : String} {r : Relation} :
    (∃ x ∈ relationFindings keys entity r, x.code = "unresolved_relation_target") ↔
      ¬keys.isKnown r.target = true :=
  ⟨fun ⟨_, hx, hcode⟩ => (eq_unresolvedTarget hx hcode).2,
    fun h => ⟨_, mem_relationFindings.mpr (.inl ⟨rfl, h⟩), rfl⟩⟩

theorem exists_keylessTarget_iff {keys : KeyIndex} {entity : String} {r : Relation} :
    (∃ x ∈ relationFindings keys entity r, x.code = "target_without_primary_key") ↔
      keys.isKnown r.target = true ∧ keys.key? r.target = none := by
  constructor
  · rintro ⟨x, hx, hcode⟩
    obtain ⟨rfl, -⟩ | ⟨-, h⟩ := mem_relationFindings.mp hx
    · exact absurd hcode (by simp [Finding.code])
    · exact h
  · exact fun h => ⟨_, mem_relationFindings.mpr (.inr ⟨rfl, h⟩), rfl⟩

/-! ### Findings and projections -/

/-- A missing key is found just if there is no key. -/
theorem exists_missingKey_iff {keys : KeyIndex} {e : Entity} :
    (∃ f ∈ entityFindings keys e, f.code = "missing_primary_key" ∧
      f.location = s!"entity:{e.name}") ↔ e.key = none := by
  constructor
  · rintro ⟨f, hf, hcode, -⟩
    simp only [mem_entityFindings, mem_entityNameFindings, mem_relationFindings] at hf
    obtain (⟨rfl, -⟩ | ⟨rfl, -⟩) | ⟨rfl, hkey⟩ | ⟨r, -, ⟨rfl, -⟩ | ⟨rfl, -⟩⟩ := hf
    case inr.inl => exact hkey
    all_goals exact absurd hcode (by simp [Finding.code])
  · intro hkey
    exact ⟨.missingKey e.name, mem_entityFindings.mpr (.inr (.inl ⟨rfl, hkey⟩)), rfl, rfl⟩

/-- An entity has a partial declaration just if it has a key. -/
theorem Projection.exists_companion_iff {p : Projection} {e : Entity} :
    (∃ d ∈ p.declarations e, d.kind = .companion) ↔ ∃ key, e.key = some key := by
  simp only [mem_declarations]
  constructor
  · rintro ⟨d, rfl | ⟨key, hkey, -⟩, hkind⟩
    · cases hkind
    · exact ⟨key, hkey⟩
  · rintro ⟨key, hkey⟩
    exact ⟨p.companion e key, .inr ⟨key, hkey, rfl⟩, rfl⟩

/-- **Degraded members are reported, and no others.**  Among the findings about an entity there is at
most one about the degradation of each field, and none if the field is a scalar.  For a relation, an
unknown target is reported just if the projection gives the field a source type, which then is the
one in the message, and a target without a key just if the projection makes the element of the field
an empty object.  A missing key is reported just if the projection gives the entity no partial
declaration. -/
theorem degradations_reported {model : EntityModel} (h : model.Accepted ∨ model = .empty)
    (options : Options) (broken : BrokenEdges) {e : Entity} (he : model.get? e.name = some e) :
    let p : Projection := ⟨model.keys, broken, options⟩
    let findings := entityFindings model.keys e
    findings ⊆ model.findings options ∧
    (∀ f ∈ e.fields,
      let reported := findings.filter fun x =>
        x.isDegradation && x.location == s!"field:{e.name}.{f.name}"
      reported.length ≤ 1 ∧
      (∀ type, f.kind = .scalar type → reported = []) ∧
      ∀ multiplicity target, f.kind = .relation multiplicity target →
        ((∃ x ∈ reported, x.code = "unresolved_relation_target") ↔
          ∃ text, p.fieldType e.name f = .verbatim text) ∧
        (∀ x ∈ reported, x.code = "unresolved_relation_target" →
          ∀ text, p.fieldType e.name f = .verbatim text →
            x.message = s!"Relation ({multiplicity.word}) targets unknown entity '{target}'; " ++
              s!"emitted as '{text}'") ∧
        ((∃ x ∈ reported, x.code = "target_without_primary_key") ↔
          p.fieldType e.name f = multiplicity.typeOf options.collectionType (.object []))) ∧
    ((∃ x ∈ findings, x.code = "missing_primary_key" ∧ x.location = s!"entity:{e.name}") ↔
      ¬∃ d ∈ p.declarations e, d.kind = .companion) := by
  intro p findings
  have haccepted : model.Accepted := EntityModel.accepted_of_get? h he
  have hc : model.Coherent := haccepted.coherent
  have hnormal : e.Normal := haccepted.normal he
  refine ⟨fun x hx => hc.mem_findings.mpr (.inr (.inl ⟨e, he, hx⟩)), fun f hf => ?_, ?_⟩
  · intro reported
    have hreported : reported = degradations model.keys e f.name := rfl
    cases hkind : f.kind with
    | scalar type =>
      rw [hreported, hnormal.degradations_scalar model.keys hf hkind]
      exact ⟨Nat.zero_le 1, fun _ _ => rfl, nofun⟩
    | relation multiplicity target =>
      rw [hreported, hnormal.degradations_relation model.keys hf hkind]
      refine ⟨length_relationFindings_le _ _ _, nofun, ?_⟩
      rintro _ _ ⟨rfl, rfl⟩
      simp only [p.fieldType_eq_verbatim_iff hkind]
      refine ⟨?_, fun x hx hcode text htext => ?_, ?_⟩
      · rw [exists_unresolvedTarget_iff, exists_and_left]
        exact (and_iff_left ⟨_, rfl⟩).symm
      · rw [(eq_unresolvedTarget hx hcode).1, htext.2]
        rfl
      · rw [exists_keylessTarget_iff]
        exact (p.fieldType_eq_typeOf_empty_iff hkind).symm
  · rw [exists_missingKey_iff, Projection.exists_companion_iff]
    cases e.key <;> simp

/-- In the library the photo of a reader is emitted as declared and its target reported as unknown; the
remarks are reported as having no key and emitted as empty objects; and no missing key is reported. -/
theorem degradations_reported_lending :
    let reported := degradations lending.keys lendingReader
    (∃ x ∈ reported "photo", x.code = "unresolved_relation_target" ∧
      x.message = "Relation (one) targets unknown entity 'Picture'; emitted as 'Buffer'") ∧
    (∃ x ∈ reported "remarks", x.code = "target_without_primary_key") ∧
    ¬∃ x ∈ entityFindings lending.keys lendingReader, x.code = "missing_primary_key" ∧
      x.location = "entity:Reader" := by
  intro reported
  let p : Projection := ⟨lending.keys, .empty, .ofTarget .zod⟩
  let photo : Field :=
    { name := "photo", kind := .relation .one "Picture", declared := some "Buffer" }
  let remarks : Field := { name := "remarks", kind := .relation .many "Remark" }
  have hpicture : ¬lending.keys.isKnown "Picture" = true := by decide +kernel
  have hremark : lending.keys.isKnown "Remark" = true ∧ lending.keys.key? "Remark" = none := by
    decide +kernel
  have hphoto : p.fieldType "Reader" photo = .verbatim "Buffer" :=
    Projection.fieldType_unknown rfl hpicture
  have hremarks : p.fieldType "Reader" remarks =
      Multiplicity.many.typeOf "Collection" (.object []) :=
    (p.fieldType_eq_typeOf_empty_iff rfl).mpr hremark
  obtain ⟨-, hfields, hkey⟩ := degradations_reported (.inl lending_accepted) (.ofTarget .zod) .empty
    lending_reader
  obtain ⟨hunresolved, hmessage, -⟩ := (hfields photo (by decide)).2.2 .one "Picture" rfl
  obtain ⟨-, -, hkeyless⟩ := (hfields remarks (by decide)).2.2 .many "Remark" rfl
  obtain ⟨x, hx, hcode⟩ := hunresolved.mpr ⟨"Buffer", hphoto⟩
  refine ⟨⟨x, hx, hcode, hmessage x hx hcode "Buffer" hphoto⟩, hkeyless.mpr hremarks, ?_⟩
  intro hmissing
  refine hkey.mp hmissing ⟨p.companion lendingReader ⟨"id", "number"⟩, ?_, rfl⟩
  exact Projection.mem_declarations.mpr (.inr ⟨_, rfl, rfl⟩)

end EntityProjection
