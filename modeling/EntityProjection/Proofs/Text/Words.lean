import EntityProjection.Proofs.Text.PascalCase

/-!
# Words

All characters but ASCII letters and digits separate words.  The PascalCase form of a text is its
words without what separates them, the first character of each written uppercase, so that nothing but
these characters changes.  Taking the form is a projection: it leaves alone what is a form already,
and forms are the texts of letters and digits that do not open with a lowercase letter.

* `words`: the words of a text; `flatten_words`: together they are its letters and digits;
* `toList_toPascalCase`: the form of a text by its words;
* `toPascalCase_eq_self_iff` and `toPascalCase_toPascalCase`: which texts are forms;
* `toPascalCase_projects`: all of this together, with the texts whose form is in PascalCase.
-/

namespace EntityProjection.Text

/-! ### The words of a text -/

/-- A character that stands between words. -/
def isSeparator (c : Char) : Bool :=
  !c.isAlphanum

/-- The pieces between separators, empty ones left out. -/
def words (cs : List Char) : List (List Char) :=
  (cs.splitOnP isSeparator).filter fun piece => !piece.isEmpty

/-- A word with its first character uppercase. -/
def capitalized : List Char → List Char
  | [] => []
  | c :: cs => c.toUpper :: cs

/-- A letter or digit in front belongs to the first piece. -/
theorem exists_splitOnP_cons {c : Char} (h : c.isAlphanum = true) (cs : List Char) :
    ∃ piece pieces, cs.splitOnP isSeparator = piece :: pieces ∧
      (c :: cs).splitOnP isSeparator = (c :: piece) :: pieces := by
  obtain ⟨piece, pieces, hpieces⟩ :=
    List.exists_cons_of_ne_nil (List.splitOnP_ne_nil isSeparator cs)
  refine ⟨piece, pieces, hpieces, ?_⟩
  rw [List.splitOnP_cons_eq_if_modifyHead, if_neg (by simp [isSeparator, h]), hpieces]
  rfl

/-- A separator in front ends an empty piece. -/
theorem splitOnP_separator {c : Char} (h : ¬c.isAlphanum = true) (cs : List Char) :
    (c :: cs).splitOnP isSeparator = [] :: cs.splitOnP isSeparator := by
  rw [List.splitOnP_cons_eq_if_modifyHead, if_pos (by simp [isSeparator, h])]

/-- The pieces are the letters and digits of a text in order. -/
theorem flatten_splitOnP (cs : List Char) :
    (cs.splitOnP isSeparator).flatten = cs.filter Char.isAlphanum := by
  induction cs with
  | nil => rfl
  | cons c cs ih =>
    by_cases hc : c.isAlphanum = true
    · obtain ⟨piece, pieces, hpieces, hcons⟩ := exists_splitOnP_cons hc cs
      rw [hpieces] at ih
      rw [hcons, List.filter_cons_of_pos hc, ← ih]
      rfl
    · rw [splitOnP_separator hc, List.filter_cons_of_neg hc, List.flatten_cons, ih]
      rfl

/-- **The words of a text are its letters and digits in order.** -/
theorem flatten_words (cs : List Char) : (words cs).flatten = cs.filter Char.isAlphanum := by
  rw [words, List.flatten_filter_not_isEmpty, flatten_splitOnP]

/-- Words are not empty, and are made of letters and digits. -/
theorem word_of_mem_words {cs word : List Char} (h : word ∈ words cs) :
    word ≠ [] ∧ ∀ c ∈ word, c.isAlphanum = true := by
  refine ⟨fun hnil => ?_, fun c hc => ?_⟩
  · have hkept := (List.mem_filter.mp h).2
    rw [hnil] at hkept
    cases hkept
  · have hmem : c ∈ (words cs).flatten := List.mem_flatten.mpr ⟨word, h, hc⟩
    rw [flatten_words] at hmem
    exact (List.mem_filter.mp hmem).2

/-! ### The form of a text by its words -/

/-- The letters and digits of the first piece stay as they are inside a word, and the first of them
is written uppercase where a word opens; all later pieces open words. -/
theorem pascalChars_eq_pieces {cs piece : List Char} {pieces : List (List Char)}
    (h : cs.splitOnP isSeparator = piece :: pieces) :
    pascalChars true cs = capitalized piece ++ pieces.flatMap capitalized ∧
      pascalChars false cs = piece ++ pieces.flatMap capitalized := by
  induction cs generalizing piece pieces with
  | nil =>
    cases h
    exact ⟨rfl, rfl⟩
  | cons c cs ih =>
    by_cases hc : c.isAlphanum = true
    · obtain ⟨first, rest, hpieces, hcons⟩ := exists_splitOnP_cons hc cs
      obtain ⟨-, hinside⟩ := ih hpieces
      obtain ⟨rfl, rfl⟩ := List.cons.inj (hcons.symm.trans h)
      simp [pascalChars, hc, hinside, capitalized]
    · obtain ⟨first, rest, hpieces⟩ :=
        List.exists_cons_of_ne_nil (List.splitOnP_ne_nil isSeparator cs)
      obtain ⟨hopens, -⟩ := ih hpieces
      rw [splitOnP_separator hc, hpieces] at h
      obtain ⟨rfl, rfl⟩ := List.cons.inj h
      simp [pascalChars, hc, hopens, capitalized]

/-- Pieces without letters and digits add nothing to a form. -/
theorem flatMap_capitalized_filter (pieces : List (List Char)) :
    (pieces.filter fun piece => !piece.isEmpty).flatMap capitalized =
      pieces.flatMap capitalized := by
  induction pieces with
  | nil => rfl
  | cons piece pieces ih =>
    cases piece with
    | nil => exact ih
    | cons c cs => exact congrArg (capitalized (c :: cs) ++ ·) ih

/-- **The form of a text** is its words, each with its first character uppercase. -/
theorem toList_toPascalCase (text : String) :
    (toPascalCase text).toList = (words text.toList).flatMap capitalized := by
  obtain ⟨piece, pieces, hpieces⟩ :=
    List.exists_cons_of_ne_nil (List.splitOnP_ne_nil isSeparator text.toList)
  rw [toPascalCase, String.toList_ofList, (pascalChars_eq_pieces hpieces).1, words,
    flatMap_capitalized_filter, hpieces, List.flatMap_cons]

/-! ### Texts that are forms -/

/-- What is made of letters and digits only is one word. -/
theorem pascalChars_eq_capitalized {cs : List Char} (h : ∀ c ∈ cs, c.isAlphanum = true) :
    pascalChars true cs = capitalized cs := by
  have hpieces : cs.splitOnP isSeparator = [cs] :=
    List.splitOnP_eq_singleton fun c hc => by simp [isSeparator, h c hc]
  rw [(pascalChars_eq_pieces hpieces).1, List.flatMap_nil, List.append_nil]

/-- A word stays as it is written with its first character uppercase just if that is no lowercase
letter. -/
theorem capitalized_eq_self_iff {cs : List Char} :
    capitalized cs = cs ↔ ∀ c ∈ cs.head?, ¬c.isLower = true := by
  cases cs with
  | nil => exact iff_of_true rfl nofun
  | cons first rest =>
    simp only [capitalized, List.cons.injEq, and_true, List.head?_cons, Option.mem_some_iff,
      forall_eq']
    constructor
    · intro hupper hlower
      rw [← hupper, Char.isLower_toUpper_eq_false] at hlower
      cases hlower
    · exact Char.toUpper_eq_of_not_isLower

theorem isAlphanum_of_mem_toPascalCase {text : String} {c : Char}
    (h : c ∈ (toPascalCase text).toList) : c.isAlphanum = true := by
  rw [toPascalCase, String.toList_ofList] at h
  exact isAlphanum_of_mem_pascalChars h

/-- **Texts that are their own form** are made of letters and digits and do not open with a lowercase
letter. -/
theorem toPascalCase_eq_self_iff {text : String} :
    toPascalCase text = text ↔
      (∀ c ∈ text.toList, c.isAlphanum = true) ∧ ∀ c ∈ text.toList.head?, ¬c.isLower = true := by
  have hself : (∀ c ∈ text.toList, c.isAlphanum = true) →
      (toPascalCase text = text ↔ ∀ c ∈ text.toList.head?, ¬c.isLower = true) := fun hall => by
    rw [← capitalized_eq_self_iff, ← String.toList_inj, toPascalCase, String.toList_ofList,
      pascalChars_eq_capitalized hall]
  constructor
  · intro h
    have hall : ∀ c ∈ text.toList, c.isAlphanum = true := fun c hc =>
      isAlphanum_of_mem_toPascalCase (h.symm ▸ hc)
    exact ⟨hall, (hself hall).mp h⟩
  · rintro ⟨hall, hopens⟩
    exact (hself hall).mpr hopens

/-- No form opens with a lowercase letter. -/
theorem not_isLower_of_mem_head? {text : String} {c : Char}
    (h : c ∈ (toPascalCase text).toList.head?) : ¬c.isLower = true := by
  rw [toPascalCase, String.toList_ofList, head?_pascalChars, Option.mem_def,
    Option.map_eq_some_iff] at h
  obtain ⟨first, -, rfl⟩ := h
  rw [Char.isLower_toUpper_eq_false]
  exact Bool.false_ne_true

/-- **The form of a form** is the form itself. -/
theorem toPascalCase_toPascalCase (text : String) :
    toPascalCase (toPascalCase text) = toPascalCase text :=
  toPascalCase_eq_self_iff.mpr
    ⟨fun _ => isAlphanum_of_mem_toPascalCase, fun _ => not_isLower_of_mem_head?⟩

/-- A name in PascalCase is its own form. -/
theorem toPascalCase_of_isPascalCase {name : String} (h : isPascalCase name = true) :
    toPascalCase name = name := by
  rw [toPascalCase_eq_self_iff]
  unfold isPascalCase at h
  split at h
  · cases h
  · next c cs hchars =>
    rw [Bool.and_eq_true, List.all_eq_true] at h
    obtain ⟨hupper, hrest⟩ := h
    rw [hchars, List.forall_mem_cons, List.head?_cons]
    refine ⟨⟨by simp [Char.isAlphanum, Char.isAlpha, hupper], hrest⟩, ?_⟩
    rintro _ ⟨⟩
    exact Char.not_isLower_of_isUpper hupper

/-- **Taking the PascalCase form is a projection.** A form has only ASCII letters and digits, those of
the text in order: it is the words of the text, which together are these characters, with the first
character of each uppercase.  The form of a form is the form itself.  A text is its own form just if
it is made of ASCII letters and digits and does not open with a lowercase letter, as every name in
PascalCase is; and the form of a text is in PascalCase just if the first ASCII letter or digit in the
text is a letter. -/
theorem toPascalCase_projects (text : String) :
    ((∀ c ∈ (toPascalCase text).toList, c.isAlphanum = true) ∧
      (∀ word ∈ words text.toList, word ≠ [] ∧ ∀ c ∈ word, c.isAlphanum = true) ∧
      (words text.toList).flatten = text.toList.filter Char.isAlphanum ∧
      (toPascalCase text).toList = (words text.toList).flatMap capitalized) ∧
    toPascalCase (toPascalCase text) = toPascalCase text ∧
    (toPascalCase text = text ↔
      (∀ c ∈ text.toList, c.isAlphanum = true) ∧ ∀ c ∈ text.toList.head?, ¬c.isLower = true) ∧
    (isPascalCase text = true → toPascalCase text = text) ∧
    (isPascalCase (toPascalCase text) = true ↔ OpensWithLetter text) :=
  ⟨⟨fun _ => isAlphanum_of_mem_toPascalCase, fun _ => word_of_mem_words, flatten_words _,
      toList_toPascalCase text⟩,
    toPascalCase_toPascalCase text, toPascalCase_eq_self_iff, toPascalCase_of_isPascalCase,
    isPascalCase_toPascalCase_iff⟩

-- Letters beyond ASCII separate words, and a word that opens with a digit stays as it is.
example : toPascalCase "crème brûlée-2x" = "CrMeBrLE2x" := by decide +kernel

end EntityProjection.Text
