import Mathlib.Data.List.TakeWhile
import EntityProjection.Files.Units
import EntityProjection.Proofs.Files.Walk
import EntityProjection.Proofs.Text.ByteOrder

/-!
# The units of a directory

Every file below a directory whose name ends with the extension of a notation is a unit, known by the
names that lead to it.  Since names hold no slash, these identifiers tell the files apart, and no unit
takes the place of another one.

* `HasExtension`, `IsUnitFile`: the extension of a file, and whether it is one of a notation;
* `unitId_inj`: different places have different identifiers;
* `addUnits_result`: a run over files adds just their units;
* `directory_units`: the units of a directory are its unit files, in ascending byte order of places.
-/

namespace EntityProjection

/-! ### Extensions -/

/-- The name of a file ends with a dot and an extension, and does not start with that dot. -/
def HasExtension (name extension : String) : Prop :=
  ∃ stem, name = stem ++ "." ++ extension ∧ stem ≠ "" ∧ '.' ∉ extension.toList

/-- The extensions of a notation. -/
def UnitFormat.extensions : UnitFormat → List String
  | .yaml => ["yaml", "yml"]
  | .json => ["json"]

/-- The file at a place is a unit in the given notation: its name has an extension of the notation, in
any ASCII case. -/
def IsUnitFile (place : List String) (format : UnitFormat) : Prop :=
  ∃ before name extension, place = before ++ [name] ∧ HasExtension name extension ∧
    extension.toLower ∈ format.extensions

theorem span_dot {after : List Char} (h : '.' ∉ after) (rest : List Char) :
    (after ++ '.' :: rest).span (· != '.') = (after, '.' :: rest) := by
  have hafter : ∀ c ∈ after, (c != '.') = true := fun c hc =>
    bne_iff_ne.mpr fun heq => h (heq ▸ hc)
  rw [List.span_eq_takeWhile_dropWhile, List.takeWhile_append_of_pos hafter,
    List.dropWhile_append_of_pos hafter]
  simp

theorem of_span_dot {cs after rest : List Char} {c : Char}
    (h : cs.span (· != '.') = (after, c :: rest)) : cs = after ++ '.' :: rest ∧ '.' ∉ after := by
  rw [List.span_eq_takeWhile_dropWhile, Prod.mk.injEq] at h
  obtain ⟨rfl, hrest⟩ := h
  have hdot := List.head?_dropWhile_not (· != '.') cs
  rw [hrest] at hdot
  obtain rfl : c = '.' := by simpa using hdot
  refine ⟨?_, fun hmem => ?_⟩
  · rw [← hrest, List.takeWhile_append_dropWhile]
  · exact absurd (List.mem_takeWhile_imp hmem) (by decide)

theorem fileExtension?_eq_some_iff {name extension : String} :
    fileExtension? name = some extension ↔ HasExtension name extension := by
  unfold fileExtension?
  constructor
  · intro h
    split at h
    · cases h
    · cases h
    · next after mark stem hnot hspan =>
      cases h
      obtain ⟨hname, hdot⟩ := of_span_dot hspan
      refine ⟨String.ofList stem.reverse, String.ext ?_, ?_, by simpa using hdot⟩
      · rw [← List.reverse_reverse name.toList, hname]
        simp
      · intro hempty
        have hstem : stem = [] := by simpa using congrArg String.toList hempty
        exact hnot hstem
  · rintro ⟨stem, rfl, hstem, hdot⟩
    have hreverse : (stem ++ "." ++ extension).toList.reverse =
        extension.toList.reverse ++ '.' :: stem.toList.reverse := by simp
    have hstem : stem.toList.reverse ≠ [] := by simpa using hstem
    obtain ⟨c, rest, hrest⟩ := List.exists_cons_of_ne_nil hstem
    rw [hreverse, span_dot (by simpa using hdot), hrest]
    simp

theorem ofExtension?_eq_some_iff {extension : String} {format : UnitFormat} :
    UnitFormat.ofExtension? extension = some format ↔ extension.toLower ∈ format.extensions := by
  unfold UnitFormat.ofExtension?
  split <;> cases format <;> simp_all [UnitFormat.extensions]

theorem formatOf?_eq_some_iff {place : List String} {format : UnitFormat} :
    formatOf? place = some format ↔ IsUnitFile place format := by
  simp only [formatOf?, Option.bind_eq_some_iff, fileExtension?_eq_some_iff,
    ofExtension?_eq_some_iff, List.getLast?_eq_some_iff, IsUnitFile]
  constructor
  · rintro ⟨extension, ⟨name, ⟨before, rfl⟩, hname⟩, hformat⟩
    exact ⟨before, name, extension, rfl, hname, hformat⟩
  · rintro ⟨before, name, extension, rfl, hname, hformat⟩
    exact ⟨extension, ⟨name, ⟨before, rfl⟩, hname⟩, hformat⟩

/-! ### Identifiers -/

theorem splitSlashes_cons {c : Char} (h : c ≠ '/') (cs : List Char) :
    splitSlashes (c :: cs) = match splitSlashes cs with
      | [] => [[c]]
      | part :: parts => (c :: part) :: parts :=
  splitSlashes.eq_3 c cs h

theorem splitSlashes_of_not_mem {part : List Char} (h : '/' ∉ part) :
    splitSlashes part = [part] := by
  induction part with
  | nil => rfl
  | cons c cs ih =>
    rw [List.mem_cons, not_or] at h
    rw [splitSlashes_cons (Ne.symm h.1), ih h.2]

theorem splitSlashes_append {part : List Char} (h : '/' ∉ part) (cs : List Char) :
    splitSlashes (part ++ '/' :: cs) = part :: splitSlashes cs := by
  induction part with
  | nil => rfl
  | cons c part ih =>
    rw [List.mem_cons, not_or] at h
    rw [List.cons_append, splitSlashes_cons (Ne.symm h.1), ih h.2]

/-- Parts that are joined with slashes are found again between the slashes. -/
theorem splitSlashes_intercalate {parts : List (List Char)} (hne : parts ≠ [])
    (h : ∀ part ∈ parts, '/' ∉ part) : splitSlashes (['/'].intercalate parts) = parts := by
  induction parts with
  | nil => exact absurd rfl hne
  | cons part rest ih =>
    rw [List.forall_mem_cons] at h
    cases rest with
    | nil => rw [List.intercalate_singleton, splitSlashes_of_not_mem h.1]
    | cons next more =>
      rw [List.intercalate_cons_cons, List.append_assoc, List.singleton_append,
        splitSlashes_append h.1, ih (List.cons_ne_nil _ _) h.2]

/-- **An identifier spells out the place of its unit,** as long as no name holds a slash. -/
theorem splitSlashes_unitId {place : List String} (hne : place ≠ [])
    (h : ∀ name ∈ place, '/' ∉ name.toList) :
    (splitSlashes (unitId place).toList).map String.ofList = place := by
  have hparts : splitSlashes (unitId place).toList = place.map String.toList := by
    rw [unitId, String.toList_intercalate]
    exact splitSlashes_intercalate (by simpa using hne) (by simpa using h)
  rw [hparts, List.map_map]
  exact (List.map_congr_left fun name _ => String.ofList_toList).trans (List.map_id place)

/-! ### The units of some files -/

theorem fromUTF8?_eq_some_iff {content : ByteArray} {text : String} :
    String.fromUTF8? content = some text ↔ content = text.toUTF8 := by
  unfold String.fromUTF8?
  split
  · next hvalid =>
    rw [Option.some.injEq]
    constructor
    · rintro rfl
      rfl
    · rintro rfl
      rfl
  · next hinvalid =>
    refine iff_of_false nofun ?_
    rintro rfl
    exact hinvalid text.isValidUTF8

namespace FileTree

variable {t : FileTree}

/-- A unit stands at a place of a tree: there is a unit file in its notation with its text. -/
structure UnitAt (t : FileTree) (place : List String) (unit : SourceUnit) : Prop where
  named : IsUnitFile place unit.format
  content : t.contentAt? place = some unit.content.toUTF8

/-- The unit in a file, with the place of the file. -/
def PlacedFile.unit? (f : PlacedFile) : Option (List String × SourceUnit) :=
  (formatOf? f.place).bind fun format =>
    (String.fromUTF8? f.content).map fun content => (f.place, ⟨format, content⟩)

/-- The units in some files, with the places of the files. -/
def unitsOf (fs : List PlacedFile) : List (List String × SourceUnit) :=
  fs.filterMap PlacedFile.unit?

theorem PlacedFile.unit?_eq_some_iff {f : PlacedFile} {place : List String} {unit : SourceUnit} :
    f.unit? = some (place, unit) ↔
      f = ⟨place, unit.content.toUTF8⟩ ∧ IsUnitFile place unit.format := by
  simp only [unit?, Option.bind_eq_some_iff, Option.map_eq_some_iff, formatOf?_eq_some_iff,
    fromUTF8?_eq_some_iff]
  constructor
  · rintro ⟨format, hformat, content, hcontent, ⟨⟩⟩
    exact ⟨by rw [← hcontent], hformat⟩
  · rintro ⟨rfl, hformat⟩
    exact ⟨unit.format, hformat, unit.content, rfl, rfl⟩

/-- The units in the files of a tree are those that stand at its places. -/
theorem mem_unitsOf_files (h : t.Sound) {place : List String} {unit : SourceUnit} :
    (place, unit) ∈ unitsOf t.files ↔ t.UnitAt place unit := by
  simp only [unitsOf, List.mem_filterMap, PlacedFile.unit?_eq_some_iff]
  constructor
  · rintro ⟨f, hf, rfl, hnamed⟩
    exact ⟨hnamed, (mem_files_iff h).mp hf⟩
  · rintro ⟨hnamed, hcontent⟩
    exact ⟨_, (mem_files_iff h).mpr hcontent, rfl, hnamed⟩

theorem unitsOf_files_ascending (h : t.Sound) :
    (unitsOf t.files).Pairwise fun first second => first.1 < second.1 := by
  refine (files_ascending h).filterMap _ fun f g hlt first hfirst second hsecond => ?_
  rw [(PlacedFile.unit?_eq_some_iff.mp hfirst).1,
    (PlacedFile.unit?_eq_some_iff.mp hsecond).1] at hlt
  exact hlt

/-- **Different files have different identifiers.** -/
theorem Sound.unitId_inj (h : t.Sound) (hdirectory : t.isDirectory = true)
    {place place' : List String} {content content' : ByteArray}
    (hcontent : t.contentAt? place = some content)
    (hcontent' : t.contentAt? place' = some content') (heq : unitId place = unitId place') :
    place = place' := by
  have hne : ∀ {place : List String} {content : ByteArray},
      t.contentAt? place = some content → place ≠ [] := by
    rintro _ content hcontent rfl
    cases h with
    | file => cases hdirectory
    | directory => cases hcontent
  rw [← splitSlashes_unitId (hne hcontent) (h.not_slash_mem hcontent), heq,
    splitSlashes_unitId (hne hcontent') (h.not_slash_mem hcontent')]

theorem unitsOf_files_ids_nodup (h : t.Sound) (hdirectory : t.isDirectory = true) :
    ((unitsOf t.files).map fun placed => unitId placed.1).Nodup := by
  rw [List.nodup_iff_pairwise_ne, List.pairwise_map]
  refine (unitsOf_files_ascending h).imp_of_mem fun {first second} hfirst hsecond hlt heq => ?_
  have hplace := h.unitId_inj hdirectory ((mem_unitsOf_files h).mp hfirst).content
    ((mem_unitsOf_files h).mp hsecond).content heq
  exact hlt.ne hplace

/-- There are units if there are unit files with texts. -/
theorem unitsOf_files_eq_nil_iff (h : t.Sound)
    (hvalid : ∀ place content format, t.contentAt? place = some content →
      IsUnitFile place format → content.IsValidUTF8) : unitsOf t.files = [] ↔
    ∀ place content format, t.contentAt? place = some content → ¬IsUnitFile place format := by
  rw [List.eq_nil_iff_forall_not_mem]
  constructor
  · intro hnone place content format hcontent hformat
    have htext := hvalid place content format hcontent hformat
    exact hnone (place, ⟨format, String.fromUTF8 content htext⟩)
      ((mem_unitsOf_files h).mpr ⟨hformat, hcontent⟩)
  · rintro hnone ⟨place, unit⟩ hmem
    obtain ⟨hformat, hcontent⟩ := (mem_unitsOf_files h).mp hmem
    exact hnone place _ unit.format hcontent hformat

end FileTree

/-! ### Reading a directory -/

theorem Units.insert_of_not_mem {units : Units} {id : String} (h : id ∉ units.ids)
    (unit : SourceUnit) : units.insert id unit = ⟨units.entries ++ [(id, unit)]⟩ := by
  refine if_neg fun hany => h ?_
  obtain ⟨entry, hentry, hid⟩ := List.any_eq_true.mp hany
  exact eq_of_beq hid ▸ List.mem_map_of_mem hentry

/-- **Run lemma.**  From files with valid texts and new identifiers just the units are added, in
order. -/
theorem addUnits_result {directory : String} {units : Units} {fs : List FileTree.PlacedFile}
    (hvalid : ∀ f ∈ fs, ∀ format, IsUnitFile f.place format → f.content.IsValidUTF8)
    (hnew : (units.ids ++ (FileTree.unitsOf fs).map fun placed => unitId placed.1).Nodup) :
    (addUnits directory units fs).result =
      .ok ⟨units.entries ++ (FileTree.unitsOf fs).map fun placed => (unitId placed.1, placed.2)⟩ := by
  induction fs generalizing units with
  | nil =>
    rw [FileTree.unitsOf, List.filterMap_nil, List.map_nil, List.append_nil]
    rfl
  | cons f fs ih =>
    rw [List.forall_mem_cons] at hvalid
    rw [addUnits]
    cases hformat : formatOf? f.place with
    | none =>
      have hunits : FileTree.unitsOf (f :: fs) = FileTree.unitsOf fs :=
        List.filterMap_cons_none (by rw [FileTree.PlacedFile.unit?, hformat]; rfl)
      rw [hunits] at hnew ⊢
      exact ih hvalid.2 hnew
    | some format =>
      have hcontent := hvalid.1 format (formatOf?_eq_some_iff.mp hformat)
      obtain ⟨content, htext⟩ : ∃ content, String.fromUTF8? f.content = some content :=
        ⟨_, dif_pos hcontent⟩
      have hunits : FileTree.unitsOf (f :: fs) =
          (f.place, ⟨format, content⟩) :: FileTree.unitsOf fs :=
        List.filterMap_cons_some (by rw [FileTree.PlacedFile.unit?, hformat, htext]; rfl)
      rw [hunits, List.map_cons] at hnew ⊢
      have hfresh : unitId f.place ∉ units.ids := by
        intro hmem
        exact List.disjoint_of_nodup_append hnew hmem List.mem_cons_self
      have hids : (units.insert (unitId f.place) ⟨format, content⟩).ids =
          units.ids ++ [unitId f.place] := by
        rw [Units.insert_of_not_mem hfresh, Units.ids, List.map_append]
        rfl
      rw [List.append_cons, ← hids] at hnew
      have hrest := ih hvalid.2 hnew
      rw [Units.insert_of_not_mem hfresh, List.append_assoc, List.singleton_append] at hrest
      simp only [htext, Units.insert_of_not_mem hfresh]
      exact hrest

/-- What is read from a directory is the units in its files, unless there are none. -/
theorem Disk.readUnits_result {disk : Disk} {directory : String}
    {entries : List (String × FileTree)} {placed : List (List String × SourceUnit)}
    (hdirectory : disk.get? directory = some (.directory entries))
    (hsound : (FileTree.directory entries).Sound)
    (hvalid : ∀ place content format, (FileTree.directory entries).contentAt? place = some content →
      IsUnitFile place format → content.IsValidUTF8)
    (hplaced : FileTree.unitsOf (FileTree.directory entries).files = placed) :
    (disk.readUnits directory).result =
      if placed = [] then .error (.generation (.unresolvedSource directory .noUnitFiles))
      else .ok ⟨placed.map fun entry => (unitId entry.1, entry.2)⟩ := by
  have hadded : (addUnits directory {} (FileTree.directory entries).files).result =
      .ok ⟨placed.map fun entry => (unitId entry.1, entry.2)⟩ := by
    rw [← hplaced]
    refine addUnits_result (fun f hf format => ?_) (FileTree.unitsOf_files_ids_nodup hsound rfl)
    exact hvalid f.place f.content format ((FileTree.mem_files_iff hsound).mp hf)
  rw [readUnits, hdirectory]
  simp only [Traced.result_bind, hadded]
  cases placed with
  | nil => rfl
  | cons first rest => rfl

/-- **Reading a directory loses no unit and duplicates none.**  Below a directory of a sound file
system whose unit files are texts, there is nothing to read just if no file has an extension of a
notation.  Otherwise the units are those of the unit files at any depth, with their texts as they are,
each known by its place, and in ascending order of the bytes of their places.  Different files have
different identifiers. -/
theorem directory_units {disk : Disk} {directory : String} {entries : List (String × FileTree)}
    (hdirectory : disk.get? directory = some (.directory entries))
    (hsound : (FileTree.directory entries).Sound)
    (hvalid : ∀ place content format, (FileTree.directory entries).contentAt? place = some content →
      IsUnitFile place format → content.IsValidUTF8) :
    let t := FileTree.directory entries
    ((∃ location gap, (disk.readUnits directory).result =
        .error (.generation (.unresolvedSource location gap))) ↔
      ∀ place content format, t.contentAt? place = some content → ¬IsUnitFile place format) ∧
    ((∃ place content format, t.contentAt? place = some content ∧ IsUnitFile place format) →
      ∃ (units : Units) (placed : List (List String × SourceUnit)),
        (disk.readUnits directory).result = .ok units ∧
        units.entries = placed.map (fun entry => (unitId entry.1, entry.2)) ∧
        (∀ place unit, (place, unit) ∈ placed ↔ t.UnitAt place unit) ∧
        placed.Pairwise (fun first second => placeBytes first.1 < placeBytes second.1) ∧
        units.ids.Nodup) ∧
    ∀ place place' content content', t.contentAt? place = some content →
      t.contentAt? place' = some content' → unitId place = unitId place' → place = place' := by
  intro t
  have hresult := Disk.readUnits_result hdirectory hsound hvalid rfl
  have hnil := FileTree.unitsOf_files_eq_nil_iff hsound hvalid
  refine ⟨?_, fun hfound => ?_, fun place place' content content' => hsound.unitId_inj rfl⟩
  · rw [hresult, ← hnil]
    split
    · next hempty => exact iff_of_true ⟨_, _, rfl⟩ hempty
    · next hne => exact iff_of_false (fun ⟨_, _, h⟩ => nomatch h) hne
  · have hne : FileTree.unitsOf t.files ≠ [] := by
      rw [ne_eq, hnil]
      obtain ⟨place, content, format, hcontent, hformat⟩ := hfound
      exact fun hnone => hnone place content format hcontent hformat
    rw [if_neg hne] at hresult
    refine ⟨_, FileTree.unitsOf t.files, hresult, rfl,
      fun place unit => FileTree.mem_unitsOf_files hsound,
      (FileTree.unitsOf_files_ascending hsound).imp placeBytes_lt, ?_⟩
    rw [Units.ids, List.map_map]
    exact FileTree.unitsOf_files_ids_nodup hsound rfl

/-- The entries of a directory with a file `a.yaml` beside a directory `a`, and with files that are no
units: one has no extension, and one holds no text. -/
def shelves : List (String × FileTree) :=
  [("a.yaml", .file "x".toUTF8), (".json", .file "y".toUTF8), ("b.png", .file ⟨#[0xff]⟩),
    ("a", .directory [("c.YML", .file "z".toUTF8)])]

theorem shelves_sound : (FileTree.directory shelves).Sound := by
  have hinner : (FileTree.directory [("c.YML", .file "z".toUTF8)]).Sound :=
    .directory (by decide) (by decide) (List.forall_mem_singleton.mpr .file)
  refine .directory (by decide) (by decide) ?_
  simp only [shelves, List.forall_mem_cons]
  exact ⟨.file, .file, .file, hinner, nofun⟩

theorem shelves_files : (FileTree.directory shelves).files = [⟨[".json"], "y".toUTF8⟩,
    ⟨["a", "c.YML"], "z".toUTF8⟩, ⟨["a.yaml"], "x".toUTF8⟩, ⟨["b.png"], ⟨#[0xff]⟩⟩] := by
  rfl

/-- Both units of the shelves are read, and the one in the directory comes first. -/
theorem directory_units_shelves :
    ∃ (units : Units) (placed : List (List String × SourceUnit)),
      (Disk.readUnits ⟨.directory shelves, []⟩ "/").result = .ok units ∧
      units.entries = placed.map (fun entry => (unitId entry.1, entry.2)) ∧
      (["a", "c.YML"], ⟨.yaml, "z"⟩) ∈ placed ∧ (["a.yaml"], ⟨.yaml, "x"⟩) ∈ placed ∧
      placed.Pairwise (fun first second => placeBytes first.1 < placeBytes second.1) ∧
      units.ids.Nodup := by
  have hdirectory : Disk.get? ⟨.directory shelves, []⟩ "/" = some (.directory shelves) := rfl
  have hnamed : ∀ {place format}, formatOf? place = some format → IsUnitFile place format :=
    formatOf?_eq_some_iff.mp
  have hvalid : ∀ place content format,
      (FileTree.directory shelves).contentAt? place = some content →
        IsUnitFile place format → content.IsValidUTF8 := by
    intro place content format hcontent hformat
    have hmem : (⟨place, content⟩ : FileTree.PlacedFile) ∈ (FileTree.directory shelves).files :=
      (FileTree.mem_files_iff shelves_sound).mpr hcontent
    simp only [shelves_files, List.mem_cons, List.not_mem_nil, or_false,
      FileTree.PlacedFile.mk.injEq] at hmem
    obtain ⟨-, rfl⟩ | ⟨-, rfl⟩ | ⟨-, rfl⟩ | ⟨rfl, -⟩ := hmem
    · exact String.isValidUTF8 _
    · exact String.isValidUTF8 _
    · exact String.isValidUTF8 _
    · have hnone : formatOf? ["b.png"] = none := by decide +kernel
      rw [formatOf?_eq_some_iff.mpr hformat] at hnone
      cases hnone
  have hinner : (FileTree.directory shelves).UnitAt ["a", "c.YML"] ⟨.yaml, "z"⟩ :=
    ⟨hnamed (by decide +kernel), rfl⟩
  have houter : (FileTree.directory shelves).UnitAt ["a.yaml"] ⟨.yaml, "x"⟩ :=
    ⟨hnamed (by decide +kernel), rfl⟩
  obtain ⟨-, hread, -⟩ := directory_units hdirectory shelves_sound hvalid
  obtain ⟨units, placed, hunits, hentries, hplaced, hordered, hnodup⟩ :=
    hread ⟨_, _, _, houter.content, houter.named⟩
  exact ⟨units, placed, hunits, hentries, (hplaced _ _).mpr hinner, (hplaced _ _).mpr houter,
    hordered, hnodup⟩

end EntityProjection
