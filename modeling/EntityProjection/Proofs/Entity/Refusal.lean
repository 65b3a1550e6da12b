import EntityProjection.Proofs.Entity.Arrivals
import EntityProjection.Unit.Extraction

/-!
# Refused entities

Why a list of arrivals makes up no model.  An arrival is refused because an earlier one has its name,
because two of its fields share a name, or because it lists its key field as something else than the
key says, in this order.  The first refusal decides: the arrivals before it are all fit for a model,
and those after it have no say.  It does not depend on how the model is collected, so that a list and
units with the entities of the list lead to the same model or to the same refusal.

* `Entity.Flawed`: what is wrong with an entity by itself; `Entity.normalize_eq_error_iff`: just the
  entities without a normal form are flawed;
* `EntityModel.Refused`, `EntityModel.FirstRefused`: one arrival that is refused after earlier ones,
  and the first such arrival;
* `EntityModel.insertFrom_eq_error_iff`: insertions fail with the first refusal;
* `EntityModel.collect_eq_error_iff`, `EntityModel.ofEntities_eq_error_iff`: so do both ways of
  collecting; `EntityModel.collect_error_matches`: for one reason;
* `collecting_ways_agree`: collecting from units and from their entities.
-/

namespace EntityProjection

/-! ### Flawed entities -/

/-- What is wrong with an entity by itself. -/
inductive Entity.Flawed (e : Entity) : GenerationError → Prop where
  /-- A field has the name of an earlier one, and it is the first field with that flaw. -/
  | repeatedField {before after : List Field} {f : Field} (split : e.fields = before ++ f :: after)
      (distinct : (before.map Field.name).Nodup) (repeated : f.name ∈ before.map Field.name) :
      e.Flawed (.duplicateField e.name f.name)
  /-- No field name is repeated, but the key field is no scalar of the key's type. -/
  | keyMismatch {key : PrimaryKey} {f : Field} (distinct : (e.fields.map Field.name).Nodup)
      (keyed : e.key = some key) (listed : f ∈ e.fields) (named : f.name = key.name)
      (kind : f.kind ≠ .scalar key.type) :
      e.Flawed (.keyMismatch e.name key.name key.type f.kind)

namespace Entity

variable {e : Entity} {err : GenerationError}

/-- The fields of a keyed entity are rejected for a key field that is no scalar of the key's type. -/
theorem keyedFields_eq_error_iff {key : PrimaryKey} (hnodup : (e.fields.map Field.name).Nodup) :
    e.keyedFields key = .error err ↔ ∃ f ∈ e.fields, f.name = key.name ∧
      f.kind ≠ .scalar key.type ∧ err = .keyMismatch e.name key.name key.type f.kind := by
  unfold keyedFields
  split
  · next hnone =>
    rw [List.find?_eq_none] at hnone
    refine iff_of_false nofun ?_
    rintro ⟨f, hf, hname, -⟩
    exact hnone f hf (beq_iff_eq.mpr hname)
  · next f hfound =>
    have hmem := List.mem_of_find?_eq_some hfound
    have hname : f.name = key.name := by simpa using List.find?_some hfound
    have honly : ∀ other ∈ e.fields, other.name = key.name → other = f := fun other hother hsame =>
      List.inj_on_of_nodup_map hnodup hother hmem (hsame.trans hname.symm)
    split
    · next hkind =>
      refine iff_of_false nofun ?_
      rintro ⟨other, hother, hsame, hwrong, -⟩
      rw [honly other hother hsame] at hwrong
      exact hwrong hkind
    · next hkind =>
      constructor
      · intro h
        cases h
        exact ⟨f, hmem, hname, hkind, rfl⟩
      · rintro ⟨other, hother, hsame, -, rfl⟩
        rw [honly other hother hsame]

/-- The first field whose name is repeated is the one that is found. -/
theorem firstTaken?_of_split {before after : List Field} {f : Field}
    (hsplit : e.fields = before ++ f :: after) (hdistinct : (before.map Field.name).Nodup)
    (hrepeated : f.name ∈ before.map Field.name) :
    firstTaken? ∅ (e.fields.map Field.name) = some f.name := by
  refine firstTaken?_eq_some_iff.mpr ⟨before.map Field.name, after.map Field.name, ?_, hdistinct,
    fun _ _ => Std.ExtTreeSet.not_mem_empty, .inr hrepeated⟩
  rw [hsplit, List.map_append, List.map_cons]

theorem flawed_of_firstTaken? {name : String}
    (h : firstTaken? ∅ (e.fields.map Field.name) = some name) :
    e.Flawed (.duplicateField e.name name) := by
  obtain ⟨names, names', hnames, hdistinct, -, hrepeated⟩ := firstTaken?_eq_some_iff.mp h
  obtain ⟨before, rest, hsplit, rfl, hrest⟩ := List.map_eq_append_iff.mp hnames
  obtain ⟨f, after, rfl, rfl, -⟩ := List.map_eq_cons_iff.mp hrest
  exact .repeatedField hsplit hdistinct (hrepeated.resolve_left Std.ExtTreeSet.not_mem_empty)

/-- **Just the flawed entities have no normal form,** and the error is the flaw. -/
theorem normalize_eq_error_iff : e.normalize = .error err ↔ e.Flawed err := by
  unfold normalize
  split
  · next name hfound =>
    constructor
    · intro h
      cases h
      exact flawed_of_firstTaken? hfound
    · intro h
      cases h with
      | repeatedField hsplit hdistinct hrepeated =>
        rw [firstTaken?_of_split hsplit hdistinct hrepeated] at hfound
        rw [Option.some.inj hfound]
      | keyMismatch hdistinct =>
        rw [firstTaken?_eq_none.mpr ⟨hdistinct, fun _ _ => Std.ExtTreeSet.not_mem_empty⟩] at hfound
        cases hfound
  · next hnone =>
    have hnodup := (firstTaken?_eq_none.mp hnone).1
    have hflawed : e.Flawed err ↔ ∃ key, e.key = some key ∧ ∃ f ∈ e.fields, f.name = key.name ∧
        f.kind ≠ .scalar key.type ∧ err = .keyMismatch e.name key.name key.type f.kind := by
      constructor
      · intro h
        cases h with
        | repeatedField hsplit hdistinct hrepeated =>
          rw [firstTaken?_of_split hsplit hdistinct hrepeated] at hnone
          cases hnone
        | keyMismatch _ hkey hf hname hkind => exact ⟨_, hkey, _, hf, hname, hkind, rfl⟩
      · rintro ⟨key, hkey, f, hf, hname, hkind, rfl⟩
        exact .keyMismatch hnodup hkey hf hname hkind
    rw [hflawed]
    split
    · next hkey =>
      refine iff_of_false nofun ?_
      rintro ⟨key, hsome, -⟩
      rw [hkey] at hsome
      cases hsome
    · next key hkey =>
      rw [bind_pure_eq_error_iff, keyedFields_eq_error_iff hnodup]
      simp only [hkey, Option.some.injEq, exists_eq_left']

end Entity

/-- Two errors of one kind about the same entity and field, whatever units and locations they name. -/
inductive GenerationError.Matches : GenerationError → GenerationError → Prop where
  | unresolvedSource {location location' : String} {gap gap' : SourceGap} :
    Matches (.unresolvedSource location gap) (.unresolvedSource location' gap')
  | duplicateEntity {name first first' second second' : String} :
    Matches (.duplicateEntity name first second) (.duplicateEntity name first' second')
  | same (err : GenerationError) : Matches err err

namespace EntityModel

variable {model model' : EntityModel} {arrivals arrivals' : List (String × Entity)}
  {source : String} {e : Entity} {err : GenerationError} {extract : Extractor}

/-! ### Refused arrivals -/

/-- Why an entity from the given unit is refused after earlier arrivals. -/
inductive Refused (earlier : List (String × Entity)) (source : String) (e : Entity) :
    GenerationError → Prop where
  /-- Its name was taken; the error names the unit that took it, and the one of this arrival. -/
  | repeated {before after : List (String × Entity)} {first : String} {other : Entity}
      (split : earlier = before ++ (first, other) :: after) (named : other.name = e.name)
      (fresh : ∀ arrival ∈ before, arrival.2.name ≠ e.name) :
      Refused earlier source e (.duplicateEntity e.name first source)
  /-- Its name is new, but something is wrong with the entity by itself. -/
  | flawed {err : GenerationError} (fresh : ∀ arrival ∈ earlier, arrival.2.name ≠ e.name)
      (flaw : e.Flawed err) : Refused earlier source e err

/-- No arrival of a list is refused after those before it. -/
def Admitted (arrivals : List (String × Entity)) : Prop :=
  ∀ before source e after, arrivals = before ++ (source, e) :: after →
    ∀ err, ¬Refused before source e err

/-- The first arrival of a list that is refused after those before it, with the error. -/
def FirstRefused (arrivals : List (String × Entity)) (err : GenerationError) : Prop :=
  ∃ before source e after, arrivals = before ++ (source, e) :: after ∧ Admitted before ∧
    Refused before source e err

/-! ### Insertions that fail -/

theorem insert_eq_error_iff : model.insert source e = .error err ↔
    (∃ first, model.source? e.name = some first ∧ err = .duplicateEntity e.name first source) ∨
      model.source? e.name = none ∧ e.Flawed err := by
  unfold insert
  split
  · next first hfirst =>
    simp only [hfirst, Except.error.injEq, Option.some.injEq, exists_eq_left', reduceCtorEq,
      false_and, or_false, eq_comm]
  · next hnone =>
    rw [bind_pure_eq_error_iff, Entity.normalize_eq_error_iff]
    simp only [hnone, reduceCtorEq, false_and, exists_false, true_and, false_or]

/-- Insertions fail at one arrival, after which nothing is looked at. -/
theorem insertFrom_eq_error : model.insertFrom arrivals = .error err ↔
    ∃ before source e after next, arrivals = before ++ (source, e) :: after ∧
      model.insertFrom before = .ok next ∧ next.insert source e = .error err := by
  constructor
  · intro h
    induction arrivals generalizing model with
    | nil => cases h
    | cons arrival rest ih =>
      obtain hfirst | ⟨next, hnext, hrest⟩ := bind_eq_error_iff.mp h
      · exact ⟨[], arrival.1, arrival.2, rest, model, rfl, rfl, hfirst⟩
      · obtain ⟨before, source, e, after, last, rfl, hbefore, hinsert⟩ := ih hrest
        refine ⟨arrival :: before, source, e, after, last, rfl, ?_, hinsert⟩
        show (model.insert arrival.1 arrival.2 >>= _) = _
        rw [hnext]
        exact hbefore
  · rintro ⟨before, source, e, after, next, rfl, hbefore, hinsert⟩
    rw [insertFrom_append, hbefore]
    show (next.insert source e >>= _) = _
    rw [hinsert]
    rfl

/-- A model knows for every name the unit of the arrival with that name. -/
theorem source?_insertFrom (h : model.insertFrom arrivals = .ok model') {name : String} :
    model'.source? name = some source ↔
      model.source? name = some source ∨ ∃ e, (source, e) ∈ arrivals ∧ e.name = name := by
  induction arrivals generalizing model with
  | nil =>
    cases h
    simp
  | cons arrival rest ih =>
    obtain ⟨next, hnext, hrest⟩ := bind_eq_ok h
    obtain ⟨hnew, normal, hnormal, hmodel⟩ := insert_eq_ok hnext
    obtain ⟨hname, -, -⟩ := Entity.normalize_eq_ok hnormal
    have hstep : next.source? name = some source ↔
        model.source? name = some source ∨ arrival.1 = source ∧ arrival.2.name = name := by
      rw [hmodel, source?, getElem?_insert_map, hname]
      split
      · next heq =>
        subst heq
        simp [hnew]
      · next hne => simp [source?, Ne.symm hne]
    rw [ih hrest, hstep, or_assoc]
    refine or_congr_right ?_
    simp only [List.mem_cons, or_and_right, exists_or, Prod.ext_iff]
    grind

/-- What is inserted after some arrivals fails if it is refused after them. -/
theorem insert_eq_error_iff_refused {earlier : List (String × Entity)}
    (h : empty.insertFrom earlier = .ok model) :
    model.insert source e = .error err ↔ Refused earlier source e err := by
  have hholds := Holds.of_empty.insertFrom h
  have hsource : ∀ first, model.source? e.name = some first ↔
      ∃ other, (first, other) ∈ earlier ∧ other.name = e.name := by
    intro first
    rw [source?_insertFrom h, or_iff_right]
    simp [source?, empty]
  have hnone : model.source? e.name = none ↔ ∀ arrival ∈ earlier, arrival.2.name ≠ e.name := by
    rw [hholds.source?_iff]
    simp
  rw [insert_eq_error_iff, hnone]
  constructor
  · rintro (⟨first, hfirst, rfl⟩ | ⟨hfresh, hflaw⟩)
    · obtain ⟨other, hother, hname⟩ := (hsource first).mp hfirst
      obtain ⟨before, after, rfl⟩ := List.append_of_mem hother
      refine .repeated rfl hname fun arrival harrival hsame => ?_
      have hnodup := hholds.acceptable.nodup
      rw [List.nil_append, List.map_append, List.map_append, List.nodup_append] at hnodup
      exact hnodup.2.2 _ (List.mem_map_of_mem (List.mem_map_of_mem harrival)) _ List.mem_cons_self
        (hsame.trans hname.symm)
    · exact .flawed hfresh hflaw
  · intro hrefused
    cases hrefused with
    | repeated hsplit hname =>
      refine .inl ⟨_, (hsource _).mpr ⟨_, ?_, hname⟩, rfl⟩
      rw [hsplit]
      exact List.mem_append_right _ List.mem_cons_self
    | flawed hfresh hflaw => exact .inr ⟨hfresh, hflaw⟩

/-- **Which arrivals make up a model.** -/
theorem exists_insertFrom_iff : (∃ model, empty.insertFrom arrivals = .ok model) ↔
    Admitted arrivals := by
  constructor
  · rintro ⟨model, h⟩ before source e after rfl err hrefused
    rw [insertFrom_append] at h
    obtain ⟨next, hnext, hrest⟩ := bind_eq_ok h
    obtain ⟨last, hlast, -⟩ := bind_eq_ok hrest
    rw [(insert_eq_error_iff_refused hnext).mpr hrefused] at hlast
    cases hlast
  · intro h
    refine exists_eq_ok_iff.mpr fun err herr => ?_
    obtain ⟨before, source, e, after, next, hsplit, hnext, hinsert⟩ := insertFrom_eq_error.mp herr
    exact h before source e after hsplit err ((insert_eq_error_iff_refused hnext).mp hinsert)

/-- **Insertions fail with the first refusal.** -/
theorem insertFrom_eq_error_iff : empty.insertFrom arrivals = .error err ↔
    FirstRefused arrivals err := by
  rw [insertFrom_eq_error]
  constructor
  · rintro ⟨before, source, e, after, next, hsplit, hnext, hinsert⟩
    exact ⟨before, source, e, after, hsplit, exists_insertFrom_iff.mp ⟨next, hnext⟩,
      (insert_eq_error_iff_refused hnext).mp hinsert⟩
  · rintro ⟨before, source, e, after, hsplit, hadmitted, hrefused⟩
    obtain ⟨next, hnext⟩ := exists_insertFrom_iff.mpr hadmitted
    exact ⟨before, source, e, after, next, hsplit, hnext,
      (insert_eq_error_iff_refused hnext).mpr hrefused⟩

/-! ### Refusals of the same entities -/

/-- Which arrivals are admitted depends on their entities only. -/
theorem admitted_iff : Admitted arrivals ↔ Acceptable (arrivals.map Prod.snd) := by
  rw [← exists_insertFrom_iff]
  constructor
  · rintro ⟨model, h⟩
    exact (Holds.of_empty.insertFrom h).acceptable
  · exact Holds.of_empty.exists_insertFrom

theorem Refused.transfer {earlier earlier' : List (String × Entity)}
    (h : Refused earlier source e err) (hsame : earlier.map Prod.snd = earlier'.map Prod.snd)
    (source' : String) : ∃ err', Refused earlier' source' e err' ∧ err.Matches err' := by
  have hfresh : ∀ {before before' : List (String × Entity)},
      before.map Prod.snd = before'.map Prod.snd →
      (∀ arrival ∈ before, arrival.2.name ≠ e.name) →
        ∀ arrival ∈ before', arrival.2.name ≠ e.name := by
    intro before before' hbefore hall arrival harrival
    obtain ⟨other, hother, heq⟩ :=
      List.mem_map.mp (hbefore ▸ List.mem_map_of_mem harrival : arrival.2 ∈ before.map Prod.snd)
    exact heq ▸ hall other hother
  cases h with
  | repeated hsplit hname hnew =>
    rw [hsplit, List.map_append, List.map_cons] at hsame
    obtain ⟨before', rest', rfl, hbefore, hrest⟩ := List.map_eq_append_iff.mp hsame.symm
    obtain ⟨⟨first', other'⟩, after', rfl, rfl, -⟩ := List.map_eq_cons_iff.mp hrest
    exact ⟨_, .repeated rfl hname (hfresh hbefore.symm hnew), .duplicateEntity⟩
  | flawed hnew hflaw => exact ⟨err, .flawed (hfresh hsame hnew) hflaw, .same err⟩

/-- Arrivals of the same entities have the same first refusal, apart from the units it names. -/
theorem FirstRefused.transfer (h : FirstRefused arrivals err)
    (hsame : arrivals.map Prod.snd = arrivals'.map Prod.snd) :
    ∃ err', FirstRefused arrivals' err' ∧ err.Matches err' := by
  obtain ⟨before, source, e, after, rfl, hadmitted, hrefused⟩ := h
  rw [List.map_append, List.map_cons] at hsame
  obtain ⟨before', rest', rfl, hbefore, hrest⟩ := List.map_eq_append_iff.mp hsame.symm
  obtain ⟨⟨source', e'⟩, after', rfl, rfl, -⟩ := List.map_eq_cons_iff.mp hrest
  obtain ⟨err', hrefused', hmatches⟩ := hrefused.transfer hbefore.symm source'
  rw [admitted_iff, ← hbefore, ← admitted_iff] at hadmitted
  exact ⟨err', ⟨before', source', e', after', rfl, hadmitted, hrefused'⟩, hmatches⟩

/-! ### The two ways of collecting -/

theorem insertUnits_eq_insertFrom {units : List (String × SourceUnit)}
    (h : unitArrivals extract units = .ok arrivals) :
    model.insertUnits extract units = model.insertFrom arrivals := by
  induction units generalizing model arrivals with
  | nil =>
    cases h
    rfl
  | cons unit rest ih =>
    obtain ⟨entities, hextract, h⟩ := bind_eq_ok h
    obtain ⟨others, hothers, h⟩ := bind_eq_ok h
    cases h
    rw [insertFrom_append, ← insertAll_eq, insertUnits, hextract]
    show (model.insertAll unit.1 entities >>= _) = _
    cases model.insertAll unit.1 entities with
    | error err => rfl
    | ok next => exact ih hothers

/-- A list with entities is inserted, and that is all. -/
theorem ofEntities_eq_insertFrom {entities : List Entity} (hne : entities ≠ []) :
    ofEntities entities = empty.insertFrom (inlineArrivals 0 entities) := by
  cases h : empty.insertFrom (inlineArrivals 0 entities) with
  | error err => rw [ofEntities, insertInline_eq, h]; rfl
  | ok model => exact ofEntities_eq_ok.mpr ⟨hne, h⟩

/-- Units with entities have these inserted, and that is all. -/
theorem collect_eq_insertFrom {units : Units}
    (h : unitArrivals extract units.entries = .ok arrivals) (hne : arrivals ≠ []) :
    collect extract units = empty.insertFrom arrivals := by
  cases hinsert : empty.insertFrom arrivals with
  | ok model => exact collect_eq_ok.mpr ⟨arrivals, h, hne, hinsert⟩
  | error err =>
    have hunits : ¬units.entries.isEmpty = true := by
      intro hnil
      rw [List.isEmpty_iff.mp hnil] at h
      cases h
      exact hne rfl
    rw [collect, if_neg hunits, insertUnits_eq_insertFrom h, hinsert]
    rfl

/-- Units without entities make up no model. -/
theorem collect_of_no_arrivals {units : Units} (hunits : units.entries ≠ [])
    (h : unitArrivals extract units.entries = .ok []) :
    collect extract units =
      .error (.unresolvedSource (", ".intercalate units.ids) .noEntitiesInUnits) := by
  rw [collect, if_neg (by simpa using hunits), insertUnits_eq_insertFrom h]
  rfl

/-- A list without entities makes up no model. -/
theorem ofEntities_nil :
    ofEntities [] = .error (.unresolvedSource "<inline>" .noEntities) :=
  rfl

/-- **Why units make up no model.** -/
theorem collect_eq_error_iff {units : Units}
    (h : unitArrivals extract units.entries = .ok arrivals) (hne : arrivals ≠ []) :
    collect extract units = .error err ↔ FirstRefused arrivals err := by
  rw [collect_eq_insertFrom h hne, insertFrom_eq_error_iff]

/-- **Why a list makes up no model.** -/
theorem ofEntities_eq_error_iff {entities : List Entity} (hne : entities ≠ []) :
    ofEntities entities = .error err ↔ FirstRefused (inlineArrivals 0 entities) err := by
  rw [ofEntities_eq_insertFrom hne, insertFrom_eq_error_iff]

/-- Units make up a model just if their entities do as a list. -/
theorem exists_collect_iff_exists_ofEntities {units : Units}
    (h : unitArrivals extract units.entries = .ok arrivals) :
    (∃ model, collect extract units = .ok model) ↔
      ∃ model, ofEntities (arrivals.map Prod.snd) = .ok model := by
  rw [exists_collect_iff, exists_ofEntities_iff]
  constructor
  · rintro ⟨others, hothers, hne, hacceptable⟩
    cases h.symm.trans hothers
    exact ⟨fun hnil => hne (List.map_eq_nil_iff.mp hnil), hacceptable⟩
  · rintro ⟨hne, hacceptable⟩
    exact ⟨arrivals, h, fun hnil => hne (List.map_eq_nil_iff.mpr hnil), hacceptable⟩

/-- Models of the same entities have them in the same order. -/
theorem Collected.toList_unique {entities : List Entity} (h : model.Collected entities)
    (h' : model'.Collected entities) : model.toList = model'.toList := by
  refine List.right_unique_forall₂' ?_ h.forall₂_normalize h'.forall₂_normalize
  intro e normal normal' hnormal hnormal'
  exact Except.ok.inj (hnormal.symm.trans hnormal')

/-- Models of the same entities have the same entities in the same order, and the same keys. -/
theorem Collected.agree {entities : List Entity} (h : model.Collected entities)
    (h' : model'.Collected entities) : model.toList = model'.toList ∧ model.keys = model'.keys :=
  ⟨h.toList_unique h', (h.holds.alike h'.holds h.coherent h'.coherent).keys_eq⟩

/-- A model of units has their entities, and knows for each the unit that held it. -/
theorem collected_collect {units : Units}
    (h : unitArrivals extract units.entries = .ok arrivals)
    (hmodel : collect extract units = .ok model) :
    model.Collected (arrivals.map Prod.snd) ∧ ∀ name source, model.source? name = some source ↔
      ∃ e, (source, e) ∈ arrivals ∧ e.name = name := by
  obtain ⟨others, hothers, -, hinsert⟩ := collect_eq_ok.mp hmodel
  cases h.symm.trans hothers
  refine ⟨collected_insertFrom hinsert (Accepted.coherent (.inr ⟨extract, units, hmodel⟩)),
    fun name source => ?_⟩
  rw [source?_insertFrom hinsert, or_iff_right]
  simp [source?, empty]

/-- Units and the list of their entities fail for one reason. -/
theorem collect_error_matches {units : Units} {err' : GenerationError}
    (hunits : units.entries ≠ []) (h : unitArrivals extract units.entries = .ok arrivals)
    (herr : collect extract units = .error err)
    (herr' : ofEntities (arrivals.map Prod.snd) = .error err') : err.Matches err' := by
  by_cases hne : arrivals = []
  · subst hne
    cases (collect_of_no_arrivals hunits h).symm.trans herr
    cases ofEntities_nil.symm.trans herr'
    exact .unresolvedSource
  · have hlist : arrivals.map Prod.snd ≠ [] := fun hnil => hne (List.map_eq_nil_iff.mp hnil)
    rw [collect_eq_error_iff h hne] at herr
    obtain ⟨other, hother, hmatches⟩ := herr.transfer (inlineArrivals_snd 0 _).symm
    cases ((ofEntities_eq_error_iff hlist).mpr hother).symm.trans herr'
    exact hmatches

end EntityModel

/-- **The two ways of collecting a model agree.**  Units that can be read make up a model just if
their entities do as a list, and then both models have the same entities in the same order and the
same keys; the one of the units knows for each entity the unit that held it.  Otherwise both fail
with the first refusal of their arrivals, which is of one kind and about the same entity and field,
or because there are no entities. -/
theorem collecting_ways_agree {extract : Extractor} {units : Units}
    {arrivals : List (String × Entity)} (hunits : units.entries ≠ [])
    (h : EntityModel.unitArrivals extract units.entries = .ok arrivals) :
    let entities := arrivals.map Prod.snd
    ((∃ model, EntityModel.collect extract units = .ok model) ↔
      ∃ model, EntityModel.ofEntities entities = .ok model) ∧
    (∀ model model', EntityModel.collect extract units = .ok model →
      EntityModel.ofEntities entities = .ok model' →
        model.toList = model'.toList ∧ model.keys = model'.keys ∧
        ∀ name source, model.source? name = some source ↔
          ∃ e, (source, e) ∈ arrivals ∧ e.name = name) ∧
    (entities ≠ [] →
      (∀ err, EntityModel.collect extract units = .error err ↔
        EntityModel.FirstRefused arrivals err) ∧
      ∀ err, EntityModel.ofEntities entities = .error err ↔
        EntityModel.FirstRefused (EntityModel.inlineArrivals 0 entities) err) ∧
    (entities = [] →
      EntityModel.collect extract units =
        .error (.unresolvedSource (", ".intercalate units.ids) .noEntitiesInUnits) ∧
      EntityModel.ofEntities entities = .error (.unresolvedSource "<inline>" .noEntities)) ∧
    ∀ err err', EntityModel.collect extract units = .error err →
      EntityModel.ofEntities entities = .error err' → err.Matches err' := by
  intro entities
  refine ⟨EntityModel.exists_collect_iff_exists_ofEntities h, fun model model' hmodel hmodel' => ?_,
    fun hne => ⟨fun err => ?_, fun err => EntityModel.ofEntities_eq_error_iff hne⟩, fun hnil => ?_,
    fun err err' => EntityModel.collect_error_matches hunits h⟩
  · obtain ⟨hcollected, hsource⟩ := EntityModel.collected_collect h hmodel
    obtain ⟨htoList, hkeys⟩ := hcollected.agree (EntityModel.collected_ofEntities hmodel')
    exact ⟨htoList, hkeys, hsource⟩
  · have harrivals : arrivals ≠ [] := fun hnil => hne (List.map_eq_nil_iff.mpr hnil)
    exact EntityModel.collect_eq_error_iff h harrivals
  · rw [List.map_eq_nil_iff.mp hnil] at h
    refine ⟨EntityModel.collect_of_no_arrivals hunits h, ?_⟩
    rw [hnil]
    exact EntityModel.ofEntities_nil

/-- Two units with four entities.  The third one repeats the name of the first one, besides a field,
and the fourth one is flawed as well. -/
def repeatingUnits : Units where
  entries := [
    ("a.json", ⟨.json, "\x7b\"entities\":[\x7b\"name\":\"Tag\"\x7d]\x7d"⟩),
    ("b.json", ⟨.json, "\x7b\"entities\":[\x7b\"name\":\"Note\"\x7d," ++
      "\x7b\"name\":\"Tag\",\"fields\":[[\"x\",\"t\"],[\"x\",\"t\"]]\x7d," ++
      "\x7b\"name\":\"Key\",\"primary_key\":[\"id\",\"a\"],\"fields\":[[\"id\",\"b\"]]\x7d]\x7d"⟩)]

/-- The third one of the four entities. -/
def repeatingTag : Entity where
  name := "Tag"
  fields := [{ name := "x", kind := .scalar "t" }, { name := "x", kind := .scalar "t" }]

/-- The four entities with their units. -/
def repeatingArrivals : List (String × Entity) :=
  [("a.json", { name := "Tag" }), ("b.json", { name := "Note" }), ("b.json", repeatingTag),
    ("b.json", { name := "Key", key := some ⟨"id", "a"⟩,
                 fields := [{ name := "id", kind := .scalar "b" }] })]

/-- Of the three flaws of the two units, the repeated name is reported, with the units or with the
places in the list. -/
theorem collecting_ways_agree_repeating :
    EntityModel.collect extractEntities repeatingUnits =
      .error (.duplicateEntity "Tag" "a.json" "b.json") ∧
    EntityModel.ofEntities (repeatingArrivals.map Prod.snd) =
      .error (.duplicateEntity "Tag" "inline#0" "inline#2") := by
  have hread : EntityModel.unitArrivals extractEntities repeatingUnits.entries =
      .ok repeatingArrivals := by decide +kernel
  obtain ⟨-, -, hfails, -⟩ := collecting_ways_agree (by decide) hread
  obtain ⟨hunits, hlist⟩ := hfails (by decide)
  have hfit : EntityModel.Acceptable [{ name := "Tag" }, { name := "Note" }] :=
    (EntityModel.exists_ofEntities_iff.mp (exists_eq_ok_of_isSome (by decide +kernel))).2
  have hadmitted : ∀ first second, EntityModel.Admitted
      [(first, { name := "Tag" }), (second, { name := "Note" })] :=
    fun _ _ => EntityModel.admitted_iff.mpr hfit
  have hrefused : ∀ first second source, EntityModel.Refused
      [(first, { name := "Tag" }), (second, { name := "Note" })] source repeatingTag
      (.duplicateEntity "Tag" first source) :=
    fun _ _ _ => .repeated (List.nil_append _).symm rfl nofun
  exact ⟨(hunits _).mpr ⟨_, _, _, _, rfl, hadmitted _ _, hrefused _ _ _⟩,
    (hlist _).mpr ⟨_, _, _, _, rfl, hadmitted _ _, hrefused _ _ _⟩⟩

end EntityProjection
