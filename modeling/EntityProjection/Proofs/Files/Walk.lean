import Mathlib.Data.List.Sort
import Mathlib.Data.String.Basic
import EntityProjection.Proofs.Files.Contents

/-!
# Walking a file tree

The files of a tree are listed directory by directory, siblings in ascending order of their names.
In a tree as a file system keeps it, where siblings have different names, the list has every file of
the tree once, and it is in ascending order of places: places are compared name by name, so that what
lies in a directory stands together.  This is not the order of the places as texts, since `a.yaml` is
before `a/b.yaml` as a text and after it as a place.

* `FileTree.Sound`: siblings have different names, and no name holds a slash;
* `FileTree.mem_files_iff`: the files that are listed are those that are found at their places;
* `FileTree.files_ascending`: they are listed in ascending order of their places.
-/

namespace EntityProjection

/-! ### Sorting by name -/

section Sorting

variable {α : Type}

theorem insertByName_perm (entry : String × α) (entries : List (String × α)) :
    (insertByName entry entries).Perm (entry :: entries) := by
  induction entries with
  | nil => exact .refl _
  | cons other rest ih =>
    rw [insertByName]
    split
    · exact .refl _
    · exact (ih.cons other).trans (.swap entry other rest)

theorem sortByName_perm (entries : List (String × α)) : (sortByName entries).Perm entries := by
  induction entries with
  | nil => exact .refl _
  | cons entry rest ih => exact (insertByName_perm entry _).trans (ih.cons entry)

theorem insertByName_ascending (entry : String × α) {entries : List (String × α)}
    (h : entries.Pairwise fun a b => a.1 ≤ b.1) :
    (insertByName entry entries).Pairwise fun a b => a.1 ≤ b.1 := by
  induction entries with
  | nil => exact List.pairwise_singleton _ _
  | cons other rest ih =>
    rw [insertByName]
    have hother := (List.pairwise_cons.mp h).1
    split
    · next hlt =>
      refine List.pairwise_cons.mpr ⟨fun later hlater => ?_, h⟩
      obtain rfl | hlater := List.mem_cons.mp hlater
      · exact hlt.le
      · exact hlt.le.trans (hother _ hlater)
    · next hnot =>
      refine List.pairwise_cons.mpr ⟨fun later hlater => ?_, ih (List.pairwise_cons.mp h).2⟩
      obtain rfl | hlater := List.mem_cons.mp ((insertByName_perm entry rest).mem_iff.mp hlater)
      · exact not_lt.mp hnot
      · exact hother _ hlater

/-- Sorted entries are in strictly ascending order if no name repeats. -/
theorem sortByName_ascending {entries : List (String × α)} (h : (entries.map Prod.fst).Nodup) :
    (sortByName entries).Pairwise fun a b => a.1 < b.1 := by
  have hle : (sortByName entries).Pairwise fun a b => a.1 ≤ b.1 := by
    clear h
    induction entries with
    | nil => exact .nil
    | cons entry rest ih => exact insertByName_ascending entry ih
  have hne : (sortByName entries).Pairwise fun a b => a.1 ≠ b.1 :=
    List.pairwise_map.mp (((sortByName_perm entries).map Prod.fst).nodup_iff.mpr h)
  exact (hle.and hne).imp fun hab => lt_of_le_of_ne hab.1 hab.2

end Sorting

namespace FileTree

variable {t : FileTree} {entries : List (String × FileTree)} {f : PlacedFile}

/-! ### Sound trees -/

/-- A tree as a file system keeps it: siblings have different names, and no name holds a slash. -/
inductive Sound : FileTree → Prop where
  | file {content : ByteArray} : Sound (.file content)
  | directory {entries : List (String × FileTree)} (distinct : (entries.map Prod.fst).Nodup)
      (named : ∀ entry ∈ entries, '/' ∉ entry.1.toList)
      (below : ∀ entry ∈ entries, Sound entry.2) : Sound (.directory entries)

/-- Where names are different, an entry is found by its name. -/
theorem lookup_eq_some_iff_mem (h : (entries.map Prod.fst).Nodup) {name : String} :
    entries.lookup name = some t ↔ (name, t) ∈ entries := by
  induction entries with
  | nil => exact iff_of_false nofun List.not_mem_nil
  | cons entry rest ih =>
    obtain ⟨key, value⟩ := entry
    rw [List.map_cons, List.nodup_cons] at h
    rw [lookup_cons_eq_ite, List.mem_cons, Prod.mk.injEq]
    split
    · next heq =>
      subst heq
      have hnot : (name, t) ∉ rest := fun hmem => h.1 (List.mem_map.mpr ⟨_, hmem, rfl⟩)
      simp only [Option.some.injEq, true_and, or_iff_left hnot, eq_comm]
    · next hne => rw [ih h.2, or_iff_right fun heq => hne heq.1]

/-- The names on the way to a file hold no slash. -/
theorem Sound.not_slash_mem (h : t.Sound) {place : List String} {content : ByteArray}
    (hcontent : t.contentAt? place = some content) : ∀ name ∈ place, '/' ∉ name.toList := by
  induction h generalizing place with
  | file =>
    cases place with
    | nil => exact nofun
    | cons name names => cases hcontent
  | directory hdistinct hnamed _ ih =>
    cases place with
    | nil => exact nofun
    | cons name names =>
      rw [contentAt?_directory] at hcontent
      obtain ⟨inner, hinner, hcontent⟩ := Option.bind_eq_some_iff.mp hcontent
      have hmem := (lookup_eq_some_iff_mem hdistinct).mp hinner
      exact List.forall_mem_cons.mpr ⟨hnamed _ hmem, ih _ hmem hcontent⟩

/-! ### The files of a tree -/

theorem filesByEntry_eq_map (entries : List (String × FileTree)) :
    filesByEntry entries = entries.map fun entry => (entry.1, entry.2.files) := by
  induction entries with
  | nil => rfl
  | cons entry rest ih => rw [filesByEntry, List.map_cons, ih]

theorem mem_files_directory : f ∈ (directory entries).files ↔
    ∃ entry ∈ entries, ∃ g ∈ entry.2.files, f = g.below entry.1 := by
  simp only [files, List.mem_flatMap, (sortByName_perm _).mem_iff, filesByEntry_eq_map,
    List.mem_map]
  constructor
  · rintro ⟨_, ⟨entry, hentry, rfl⟩, g, hg, rfl⟩
    exact ⟨entry, hentry, g, hg, rfl⟩
  · rintro ⟨entry, hentry, g, hg, rfl⟩
    exact ⟨_, ⟨entry, hentry, rfl⟩, g, hg, rfl⟩

/-- **The files of a tree are those that are found at their places.** -/
theorem mem_files_iff (h : t.Sound) : f ∈ t.files ↔ t.contentAt? f.place = some f.content := by
  induction h generalizing f with
  | file =>
    obtain ⟨place, content⟩ := f
    cases place with
    | nil => simp [files, contentAt?, get?, content?, eq_comm]
    | cons name names => simp [files, contentAt?, get?, entry?]
  | directory hdistinct _ _ ih =>
    obtain ⟨place, content⟩ := f
    rw [mem_files_directory]
    cases place with
    | nil => simp [PlacedFile.below, contentAt?, get?, content?]
    | cons name names =>
      rw [contentAt?_directory, Option.bind_eq_some_iff]
      constructor
      · rintro ⟨entry, hentry, g, hg, hf⟩
        cases hf
        exact ⟨entry.2, (lookup_eq_some_iff_mem hdistinct).mpr hentry, (ih entry hentry).mp hg⟩
      · rintro ⟨inner, hinner, hcontent⟩
        have hentry := (lookup_eq_some_iff_mem hdistinct).mp hinner
        exact ⟨_, hentry, ⟨names, content⟩, (ih _ hentry).mpr hcontent, rfl⟩

/-- **Files are listed in ascending order of their places.** -/
theorem files_ascending (h : t.Sound) : t.files.Pairwise fun f g => f.place < g.place := by
  induction h with
  | file => exact List.pairwise_singleton _ _
  | @directory entries hdistinct _ _ ih =>
    have hnames : ((filesByEntry entries).map Prod.fst).Nodup := by
      rw [filesByEntry_eq_map, List.map_map]
      exact hdistinct
    rw [files, List.pairwise_flatMap]
    constructor
    · intro group hgroup
      rw [(sortByName_perm _).mem_iff, filesByEntry_eq_map] at hgroup
      obtain ⟨entry, hentry, rfl⟩ := List.mem_map.mp hgroup
      exact List.pairwise_map.mpr ((ih entry hentry).imp fun hlt =>
        List.cons_lt_cons_iff.mpr (.inr ⟨rfl, hlt⟩))
    · refine (sortByName_ascending hnames).imp fun {first second} hlt f hf g hg => ?_
      obtain ⟨f, -, rfl⟩ := List.mem_map.mp hf
      obtain ⟨g, -, rfl⟩ := List.mem_map.mp hg
      exact List.cons_lt_cons_iff.mpr (.inl hlt)

end FileTree

end EntityProjection
