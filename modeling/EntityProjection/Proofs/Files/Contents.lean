import Mathlib.Data.List.Infix
import EntityProjection.Files.Output

/-!
# What a change of the disk leaves as it is

The only change of a disk is to put something at a place.  At a place elsewhere the content stays,
so that a directory that is made where nothing was changes no content, and a file that is written
changes none but its own.

* `FileTree.contentAt?_put`: the contents after something is put at a place;
* `Disk.SameContents`: two disks with the same content at every place;
  `Disk.sameContents_makeParent`: making directories changes no content, whether it succeeds or not;
* `Disk.Wrote`, `Disk.wrote_of_write?`: what a file that is written changes;
  `Disk.writeOutput_cases`: an output is written, or no content changes;
* `Disk.writeOutput_keeps_existing`: when an existing file cannot be changed.
-/

namespace EntityProjection

namespace FileTree

variable {new t : FileTree} {name : String} {entries : List (String × FileTree)}

/-! ### Entries -/

theorem lookup_cons_eq_ite (key other : String) :
    ((key, t) :: entries).lookup other = if other = key then some t else entries.lookup other := by
  rw [List.lookup_cons]
  by_cases h : other = key
  · simp [h]
  · simp [h, beq_false_of_ne h]

theorem lookup_replaceEntry (other : String) :
    (replaceEntry name t entries).lookup other =
      if other = name then (entries.lookup name).map fun _ => t else entries.lookup other := by
  induction entries with
  | nil => simp [replaceEntry]
  | cons entry rest ih =>
    obtain ⟨key, value⟩ := entry
    have hmap : replaceEntry name t ((key, value) :: rest) =
        (if key == name then (name, t) else (key, value)) :: replaceEntry name t rest := rfl
    by_cases hkey : key = name
    · subst hkey
      rw [hmap, if_pos (beq_self_eq_true key), lookup_cons_eq_ite, lookup_cons_eq_ite,
        lookup_cons_eq_ite, ih]
      by_cases hother : other = key
      · simp [hother]
      · simp [hother]
    · rw [hmap, if_neg (by simpa using hkey), lookup_cons_eq_ite, lookup_cons_eq_ite,
        lookup_cons_eq_ite, ih]
      by_cases hother : other = name
      · subst hother
        simp [Ne.symm hkey]
      · simp [hother]

theorem put_of_lookup_eq_some {inner : FileTree} (h : entries.lookup name = some inner)
    (names : List String) :
    put new (name :: names) (directory entries) =
      directory (replaceEntry name (put new names inner) entries) := by
  rw [put, h]

theorem put_of_lookup_eq_none (h : entries.lookup name = none) (names : List String) :
    put new (name :: names) (directory entries) =
      directory (if names.isEmpty then entries ++ [(name, new)] else entries) := by
  rw [put, h]
  cases names with
  | nil => rfl
  | cons second names => rfl

/-- What stands under each name after something is put below a directory. -/
theorem lookup_put (new : FileTree) (name : String) (names : List String)
    (entries : List (String × FileTree)) :
    ∃ entries', put new (name :: names) (directory entries) = directory entries' ∧
      (∀ other, other ≠ name → entries'.lookup other = entries.lookup other) ∧
      entries'.lookup name = match entries.lookup name with
        | some inner => some (put new names inner)
        | none => if names.isEmpty then some new else none := by
  cases hinner : entries.lookup name with
  | some inner =>
    refine ⟨_, put_of_lookup_eq_some hinner names, fun other hother => ?_, ?_⟩
    · rw [lookup_replaceEntry, if_neg hother]
    · rw [lookup_replaceEntry, if_pos rfl, hinner, Option.map_some]
  | none =>
    refine ⟨_, put_of_lookup_eq_none hinner names, ?_⟩
    cases names with
    | nil =>
      refine ⟨fun other hother => ?_, ?_⟩
      · simp [List.lookup_append, lookup_cons_eq_ite, hother]
      · simp [List.lookup_append, hinner]
    | cons second names => exact ⟨fun _ _ => rfl, hinner⟩

/-! ### Contents -/

theorem contentAt?_directory (rest : List String) :
    (directory entries).contentAt? (name :: rest) =
      (entries.lookup name).bind fun inner => inner.contentAt? rest :=
  Option.bind_assoc _ _ _

/-- **Contents after a change.**  The content of a place stays what it was, unless it lies at or
below the place that was changed, and then it is the one from what was put there. -/
theorem contentAt?_put (new t : FileTree) (place other : List String) :
    (put new place t).contentAt? other = t.contentAt? other ∨
      ∃ rest, other = place ++ rest ∧
        (put new place t).contentAt? other = new.contentAt? rest := by
  induction place generalizing t other with
  | nil => exact .inr ⟨other, rfl, rfl⟩
  | cons name names ih =>
    cases t with
    | file content => exact .inl rfl
    | directory entries =>
      obtain ⟨entries', hput, hother, hname⟩ := lookup_put new name names entries
      cases other with
      | nil =>
        rw [hput]
        exact .inl rfl
      | cons first rest =>
        rw [hput, contentAt?_directory, contentAt?_directory]
        by_cases hfirst : first = name
        · subst hfirst
          rw [hname]
          cases hinner : entries.lookup first with
          | some inner =>
            refine (ih inner rest).imp id ?_
            rintro ⟨more, rfl, hmore⟩
            exact ⟨more, rfl, hmore⟩
          | none =>
            cases names with
            | nil => exact .inr ⟨rest, rfl, rfl⟩
            | cons second names => exact .inl rfl
        · rw [hother first hfirst]
          exact .inl rfl

/-! ### Directories -/

/-- Whether a directory stands at a place of a tree. -/
def directoryAt (t : FileTree) (place : List String) : Bool :=
  (t.get? place).any isDirectory

theorem directoryAt_file {content : ByteArray} {place : List String} :
    (file content).directoryAt place = false := by
  cases place with
  | nil => rfl
  | cons name rest => rfl

theorem directoryAt_cons (rest : List String) :
    (directory entries).directoryAt (name :: rest) =
      (entries.lookup name).any fun inner => inner.directoryAt rest := by
  rw [directoryAt, get?, entry?]
  cases entries.lookup name with
  | none => rfl
  | some inner => rfl

/-- What lies around a directory are directories. -/
theorem directoryAt_of_append {place rest : List String}
    (h : t.directoryAt (place ++ rest) = true) :
    t.directoryAt place = true := by
  induction place generalizing t with
  | nil =>
    cases t with
    | file content => rw [directoryAt_file] at h; cases h
    | directory entries => rfl
  | cons name names ih =>
    cases t with
    | file content => rw [directoryAt_file] at h; cases h
    | directory entries =>
      rw [List.cons_append, directoryAt_cons, Option.any_eq_true] at h
      rw [directoryAt_cons, Option.any_eq_true]
      obtain ⟨inner, hinner, hrest⟩ := h
      exact ⟨inner, hinner, ih hrest⟩

/-- Directories stay when something is put where none is. -/
theorem directoryAt_put {place other : List String} (hplace : t.directoryAt place = false)
    (hother : t.directoryAt other = true) : (put new place t).directoryAt other = true := by
  induction place generalizing t other with
  | nil =>
    cases t with
    | file content => rw [directoryAt_file] at hother; cases hother
    | directory entries => cases hplace
  | cons name names ih =>
    cases t with
    | file content => rw [directoryAt_file] at hother; cases hother
    | directory entries =>
      obtain ⟨entries', hput, hsame, hname⟩ := lookup_put new name names entries
      rw [hput]
      cases other with
      | nil => rfl
      | cons first rest =>
        rw [directoryAt_cons, Option.any_eq_true] at hother
        rw [directoryAt_cons, Option.any_eq_true]
        obtain ⟨inner, hinner, hrest⟩ := hother
        by_cases hfirst : first = name
        · subst hfirst
          rw [directoryAt_cons, hinner] at hplace
          rw [hname, hinner]
          exact ⟨_, rfl, ih hplace hrest⟩
        · exact ⟨inner, (hsame first hfirst).trans hinner, hrest⟩

/-- What is put under a name in a directory stands there. -/
theorem get?_put {place : List String} (h : t.directoryAt place = true) (name : String) :
    (put new (place ++ [name]) t).get? (place ++ [name]) = some new := by
  induction place generalizing t with
  | nil =>
    cases t with
    | file content => cases h
    | directory entries =>
      obtain ⟨entries', hput, -, hname⟩ := lookup_put new name [] entries
      rw [List.nil_append, hput, get?, entry?, hname]
      cases entries.lookup name with
      | none => rfl
      | some inner => rfl
  | cons first names ih =>
    cases t with
    | file content => cases h
    | directory entries =>
      rw [directoryAt_cons, Option.any_eq_true] at h
      obtain ⟨inner, hinner, hrest⟩ := h
      obtain ⟨entries', hput, -, hname⟩ := lookup_put new first (names ++ [name]) entries
      rw [List.cons_append, hput, get?, entry?, hname, hinner]
      exact ih hrest

/-- What lies around a file are directories. -/
theorem directoryAt_of_contentAt? {place rest : List String} {content : ByteArray}
    (h : t.contentAt? (place ++ rest) = some content) (hrest : rest ≠ []) :
    t.directoryAt place = true := by
  induction place generalizing t with
  | nil =>
    cases t with
    | file content =>
      cases rest with
      | nil => exact absurd rfl hrest
      | cons name names => cases h
    | directory entries => rfl
  | cons name names ih =>
    cases t with
    | file content => cases h
    | directory entries =>
      rw [List.cons_append, contentAt?_directory, Option.bind_eq_some_iff] at h
      obtain ⟨inner, hinner, hcontent⟩ := h
      rw [directoryAt_cons, hinner]
      exact ih hcontent

end FileTree

namespace Disk

variable {disk disk' : Disk}

/-! ### Making directories -/

/-- A later disk with the same content at every place and the same current directory. -/
structure SameContents (disk disk' : Disk) : Prop where
  contents : ∀ place, disk'.contentAt? place = disk.contentAt? place
  current : disk'.current = disk.current

theorem SameContents.refl (disk : Disk) : SameContents disk disk :=
  ⟨fun _ => rfl, rfl⟩

theorem SameContents.trans {disk'' : Disk} (h : SameContents disk disk')
    (h' : SameContents disk' disk'') : SameContents disk disk'' :=
  ⟨fun place => (h'.contents place).trans (h.contents place), h'.current.trans h.current⟩

/-- An empty directory where nothing was changes no content. -/
theorem sameContents_put_empty {place : List String} (h : disk.at? place = none) :
    SameContents disk (disk.put place .empty) where
  contents := by
    intro other
    have hdirectory : disk.root.directoryAt place = false := by
      rw [FileTree.directoryAt, ← at?, h]
      rfl
    obtain hsame | ⟨rest, rfl, hnew⟩ := FileTree.contentAt?_put .empty disk.root place other
    · exact hsame
    · have hnone : FileTree.empty.contentAt? rest = none := by
        cases rest with
        | nil => rfl
        | cons name names => rfl
      refine (hnew.trans hnone).trans (Eq.symm ?_)
      cases rest with
      | nil =>
        rw [List.append_nil]
        show (disk.at? place).bind FileTree.content? = none
        rw [h]
        rfl
      | cons name names =>
        refine Option.eq_none_iff_forall_ne_some.mpr fun content hcontent => ?_
        have hyes := FileTree.directoryAt_of_contentAt? hcontent (List.cons_ne_nil _ _)
        rw [hdirectory] at hyes
        cases hyes
  current := rfl

/-- The disk after an attempt, be it successful or not. -/
def attempted : Except Disk Disk → Disk
  | .ok disk => disk
  | .error disk => disk

/-- Making directories changes no content. -/
theorem sameContents_makeDirectoriesFrom (disk : Disk) (place parts : List String) :
    SameContents disk (attempted (disk.makeDirectoriesFrom place parts)) := by
  induction parts generalizing disk place with
  | nil => exact .refl disk
  | cons part parts ih =>
    unfold makeDirectoriesFrom
    simp only
    split
    · exact ih disk _
    · exact .refl disk
    · next hnone =>
      split
      · exact (sameContents_put_empty hnone).trans (ih _ _)
      · exact .refl disk

/-- **Making the directory of a path changes no content,** whether it succeeds or not. -/
theorem sameContents_makeParent (disk : Disk) (path : String) :
    SameContents disk (attempted (disk.makeParent path)) := by
  unfold makeParent
  split
  · exact .refl disk
  · split
    · exact .refl disk
    · exact sameContents_makeDirectoriesFrom disk _ _

/-! ### Writing -/

/-- Where the directory of a path is found, the rest of the path is followed from there. -/
theorem locateFrom?_append {place directory parts rest : List String}
    (h : disk.locateFrom? place parts = some directory) :
    disk.locateFrom? place (parts ++ rest) = disk.locateFrom? directory rest := by
  induction parts generalizing place with
  | nil =>
    rw [locateFrom?] at h
    split at h
    · cases h
      rfl
    · cases h
  | cons part parts ih =>
    rw [locateFrom?] at h
    rw [List.cons_append, locateFrom?]
    split at h
    · next hdirectory => rw [if_pos hdirectory, ih h]
    · cases h

/-- A place that is found on a disk is found on one where the directories are still there. -/
theorem locateFrom?_of_directories {place directory parts : List String}
    (hkeep : ∀ other, disk.directoryAt other = true → disk'.directoryAt other = true)
    (h : disk.locateFrom? place parts = some directory)
    (hdirectory : disk.directoryAt directory = true) :
    disk'.locateFrom? place parts = some directory := by
  induction parts generalizing place with
  | nil =>
    rw [locateFrom?] at h ⊢
    split at h
    · cases h
      obtain ⟨t, ht, -⟩ := (Option.any_eq_true _ _).mp (hkeep _ hdirectory)
      rw [ht]
      rfl
    · cases h
  | cons part parts ih =>
    rw [locateFrom?] at h ⊢
    split at h
    · next hplace => rw [if_pos (hkeep _ hplace), ih h]
    · cases h

/-- A path leads to the place of a file if it ends with a name that stands for nothing or for a file
in the directory where the rest of the path leads. -/
theorem filePlace?_eq_some {path : String} {place : List String}
    (h : disk.filePlace? path = some place) : ∃ before name directory,
      pathParts path = before ++ [name] ∧ isFileName name = true ∧
      disk.locateFrom? (disk.start path) before = some directory ∧
      disk.directoryAt directory = true ∧ place = directory ++ [name] ∧
      disk.directoryAt place = false := by
  unfold filePlace? at h
  split at h
  · cases h
  · next name before hparts =>
    obtain ⟨directory, hdirectory, hplace⟩ := Option.bind_eq_some_iff.mp h
    have hsplit : pathParts path = before.reverse ++ [name] := by
      rw [← List.reverse_cons, ← hparts, List.reverse_reverse]
    split at hplace
    · cases hplace
    · next hname =>
      split at hplace
      · cases hplace
      · next hfree =>
        cases hplace
        simp only [Bool.or_eq_true, Bool.not_eq_true', not_or, Bool.not_eq_false] at hname
        exact ⟨before.reverse, name, directory, hsplit, hname.1, hdirectory, hname.2, rfl,
          Bool.not_eq_true _ ▸ hfree⟩

theorem step_of_isFileName {name : String} (h : isFileName name = true) (place : List String) :
    step place name = place ++ [name] := by
  simp only [isFileName, Bool.and_eq_true, bne_iff_ne] at h
  simp [step, h]

/-- A path that ends with the name of a file leads to what stands under that name in the directory
where the rest of the path leads. -/
theorem locate?_eq_some {path name : String} {before directory : List String}
    (hparts : pathParts path = before ++ [name]) (hname : isFileName name = true)
    (hlocated : disk.locateFrom? (disk.start path) before = some directory)
    (hdirectory : disk.directoryAt directory = true)
    (h : (disk.at? (directory ++ [name])).isSome = true) :
    disk.locate? path = some (directory ++ [name]) := by
  have hpath : ¬path.isEmpty = true := by
    intro hempty
    rw [String.isEmpty_iff.mp hempty] at hparts
    exact List.append_ne_nil_of_right_ne_nil before (List.cons_ne_nil name []) hparts.symm
  rw [locate?, if_neg hpath, hparts, locateFrom?_append hlocated, locateFrom?, if_pos hdirectory,
    step_of_isFileName hname, locateFrom?, if_pos h]

/-- A later disk on which a text was written to the file that a path leads to. -/
structure Wrote (disk disk' : Disk) (path text : String) (place : List String) : Prop where
  /-- The path ends with the name of a file. -/
  named : ∃ before name, pathParts path = before ++ [name] ∧ isFileName name = true
  located : disk'.locate? path = some place
  content : disk'.contentAt? place = some text.toUTF8
  others : ∀ other, other ≠ place → disk'.contentAt? other = disk.contentAt? other
  current : disk'.current = disk.current

/-- **A written file.**  A text that is written stands at one place, where the path leads from then
on, and no other content changes. -/
theorem wrote_of_write? {path text : String} (h : disk.write? path text = some disk') :
    ∃ place, Wrote disk disk' path text place := by
  obtain ⟨place, hplace, rfl⟩ := Option.map_eq_some_iff.mp h
  obtain ⟨before, name, directory, hparts, hname, hlocated, hdirectory, rfl, hfree⟩ :=
    filePlace?_eq_some hplace
  have hkeep : ∀ other, disk.directoryAt other = true →
      (disk.put (directory ++ [name]) (.file text.toUTF8)).directoryAt other = true :=
    fun other hother => FileTree.directoryAt_put hfree hother
  have hwritten : (disk.put (directory ++ [name]) (.file text.toUTF8)).at? (directory ++ [name]) =
      some (.file text.toUTF8) := FileTree.get?_put hdirectory name
  refine ⟨directory ++ [name], ⟨before, name, hparts, hname⟩, ?_, ?_, fun other hother => ?_, rfl⟩
  · exact locate?_eq_some hparts hname (locateFrom?_of_directories hkeep hlocated hdirectory)
      (hkeep _ hdirectory) (by rw [hwritten]; rfl)
  · rw [contentAt?, FileTree.contentAt?, ← at?, hwritten]
    rfl
  · obtain hsame | ⟨rest, rfl, hnew⟩ :=
      FileTree.contentAt?_put (.file text.toUTF8) disk.root (directory ++ [name]) other
    · exact hsame
    · cases rest with
      | nil => exact absurd (List.append_nil _) hother
      | cons first rest =>
        refine hnew.trans (Eq.symm (Option.eq_none_iff_forall_ne_some.mpr ?_))
        intro content hcontent
        have hyes := FileTree.directoryAt_of_contentAt? hcontent (List.cons_ne_nil _ _)
        exact Bool.false_ne_true (hfree.symm.trans hyes)

theorem SameContents.wrote {disk'' : Disk} (h : SameContents disk disk') {path text : String}
    {place : List String} (h' : Wrote disk' disk'' path text place) :
    Wrote disk disk'' path text place :=
  { h' with
    others := fun other hother => (h'.others other hother).trans (h.contents other)
    current := h'.current.trans h.current }

/-- **Step lemma.**  An output is written, to a path that led nowhere or by force; or it is skipped
because neither is the case; or it fails, and no content changes. -/
theorem writeOutput_cases (disk : Disk) (path text : String) (force : Bool) :
    ((disk.holds path = false ∨ force = true) ∧
      ∃ disk' place, disk.writeOutput path text force = (disk', .ok .written) ∧
        Wrote disk disk' path text place) ∨
    (¬(disk.holds path = false ∨ force = true) ∧
      disk.writeOutput path text force = (disk, .ok .skipped)) ∨
    ∃ disk' e, disk.writeOutput path text force = (disk', .error e) ∧ SameContents disk disk' := by
  have hparent := sameContents_makeParent disk path
  rw [writeOutput]
  split
  · next hskip =>
    refine .inr (.inl ⟨?_, rfl⟩)
    simpa using hskip
  · next hfree =>
    cases hmade : disk.makeParent path with
    | error disk₁ =>
      rw [hmade] at hparent
      exact .inr (.inr ⟨disk₁, _, rfl, hparent⟩)
    | ok disk₁ =>
      rw [hmade] at hparent
      cases hwritten : disk₁.write? path text with
      | none => exact .inr (.inr ⟨disk₁, .outputNotWritten path, by simp only [hwritten], hparent⟩)
      | some disk₂ =>
        obtain ⟨place, hwrote⟩ := wrote_of_write? hwritten
        refine .inl ⟨?_, disk₂, place, by simp only [hwritten], hparent.wrote hwrote⟩
        simpa [Bool.and_eq_true, imp_iff_not_or] using hfree

/-! ### Paths that do not go up -/

/-- A part that does not go up is followed straight down, unless it stays. -/
theorem step_append_filter {part : String} (hup : part ≠ "..") (place parts : List String) :
    step place part ++ parts.filter (fun part => part != ".") =
      place ++ (part :: parts).filter fun part => part != "." := by
  rw [step, List.filter_cons]
  by_cases hstay : part = "."
  · simp [hstay]
  · simp [hstay, hup]

/-- A path that does not go up leads straight down. -/
theorem eq_of_locateFrom? {place directory parts : List String} (hup : ".." ∉ parts)
    (h : disk.locateFrom? place parts = some directory) :
    directory = place ++ parts.filter fun part => part != "." := by
  induction parts generalizing place with
  | nil =>
    rw [locateFrom?] at h
    split at h
    · cases h
      exact (List.append_nil _).symm
    · cases h
  | cons part parts ih =>
    rw [List.mem_cons, not_or] at hup
    rw [locateFrom?] at h
    split at h
    · rw [ih hup.2 h, step_append_filter (Ne.symm hup.1)]
    · cases h

/-- Where directories lead straight down along a path that does not go up, the path leads there. -/
theorem locateFrom?_of_directoryAt {place parts : List String} (hup : ".." ∉ parts)
    (h : disk.directoryAt (place ++ parts.filter fun part => part != ".") = true) :
    disk.locateFrom? place parts = some (place ++ parts.filter fun part => part != ".") := by
  induction parts generalizing place with
  | nil =>
    obtain ⟨t, ht, -⟩ := (Option.any_eq_true _ _).mp h
    rw [List.filter_nil, List.append_nil] at ht ⊢
    rw [locateFrom?, ht]
    rfl
  | cons part parts ih =>
    rw [List.mem_cons, not_or] at hup
    have hplace : disk.directoryAt place = true := FileTree.directoryAt_of_append h
    rw [← step_append_filter (Ne.symm hup.1)] at h ⊢
    rw [locateFrom?, if_pos hplace, ih hup.2 h]

/-- A file below directories that lead straight down is found by a path that does not go up and that
leads there on a later disk. -/
theorem Wrote.holds {path text : String} {place : List String}
    (hwrote : Wrote disk disk' path text place) (hup : ".." ∉ pathParts path)
    {content : ByteArray} (h : disk.contentAt? place = some content) :
    disk.holds path = true := by
  obtain ⟨before, name, hparts, hname⟩ := hwrote.named
  have hlocated := hwrote.located
  rw [locate?] at hlocated
  split at hlocated
  · cases hlocated
  · next hpath =>
    have hstart : disk'.start path = disk.start path := by rw [start, start, hwrote.current]
    have hplace := eq_of_locateFrom? hup hlocated
    have hkept : (name != ".") = true := by
      simp only [isFileName, Bool.and_eq_true] at hname
      exact hname.1.1.1.2
    rw [hstart, hparts, List.filter_append, List.filter_singleton, hkept, cond_true,
      ← List.append_assoc] at hplace
    have hbefore : ".." ∉ before := fun hmem => hup (hparts ▸ List.mem_append_left _ hmem)
    subst hplace
    have hdirectory : disk.directoryAt
        (disk.start path ++ before.filter fun part => part != ".") = true :=
      FileTree.directoryAt_of_contentAt? h (List.cons_ne_nil name [])
    obtain ⟨t, ht, -⟩ := Option.bind_eq_some_iff.mp h
    have hfound := locate?_eq_some hparts hname (locateFrom?_of_directoryAt hbefore hdirectory)
      hdirectory (by rw [at?, ht]; rfl)
    rw [Disk.holds, get?, hfound, Option.bind_some, at?, ht]
    rfl

/-- **Existing files are kept.**  Unless it is forced, an output to a path that does not go up
changes the content of no file that exists.  A path that goes up may lead nowhere as long as a
directory on its way is missing, and to a file once that directory is made. -/
theorem writeOutput_keeps_existing {path : String} (hup : ".." ∉ pathParts path)
    {place : List String} {content : ByteArray} (h : disk.contentAt? place = some content)
    (text : String) :
    (disk.writeOutput path text false).1.contentAt? place = some content := by
  obtain ⟨hfree, disk', written, hresult, hwrote⟩ | ⟨-, hresult⟩ | ⟨disk', e, hresult, hsame⟩ :=
    disk.writeOutput_cases path text false
  · rw [hresult]
    by_cases hplace : place = written
    · subst hplace
      rw [hwrote.holds hup h] at hfree
      exact absurd hfree (by decide)
    · rw [hwrote.others place hplace, h]
  · rw [hresult, h]
  · rw [hresult, hsame.contents, h]

end Disk

end EntityProjection
