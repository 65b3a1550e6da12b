import Mathlib
import EntityProjection.Text.Identifier

/-!
# PascalCase forms

The PascalCase form of a text has nothing but ASCII letters and digits in it and begins with the
first of them.  Hence it is a name in PascalCase just if that first one is a letter: a text that
opens with a digit keeps the digit in front, and one without letters and digits has the empty form.

* `isIdentifier_of_isPascalCase`: a name in PascalCase is an identifier;
* `toPascalCase_eq_empty`, `exists_toPascalCase_eq_cons`: the forms, letter by letter;
* `isPascalCase_toPascalCase_iff` and `isIdentifier_toPascalCase_iff`: which texts have a form in
  PascalCase, and that the forms of all others are not even identifiers.
-/

namespace EntityProjection.Text

/-! ### Uppercase letters -/

/-- Only letters change when they are written uppercase. -/
theorem toUpper_of_not_isAlpha {c : Char} (h : ¬c.isAlpha = true) : c.toUpper = c := by
  rw [Char.isAlpha, Bool.or_eq_true, not_or] at h
  exact Char.toUpper_eq_of_not_isLower h.2

theorem isAlphanum_toUpper {c : Char} (h : c.isAlphanum = true) : c.toUpper.isAlphanum = true := by
  by_cases hletter : c.isAlpha = true
  · simp [Char.isAlphanum, hletter]
  · rwa [toUpper_of_not_isAlpha hletter]

/-! ### Names -/

/-- A name in PascalCase is an identifier. -/
theorem isIdentifier_of_isPascalCase {name : String} (h : isPascalCase name = true) :
    isIdentifier name = true := by
  unfold isPascalCase at h
  unfold isIdentifier
  split at h
  · cases h
  · next c cs hchars =>
    rw [Bool.and_eq_true, List.all_eq_true] at h
    have hfirst : isIdentifierStart c = true := by simp [isIdentifierStart, Char.isAlpha, h.1]
    have hrest : cs.all isIdentifierRest = true :=
      List.all_eq_true.mpr fun d hd => by simp [isIdentifierRest, h.2 d hd]
    rw [hfirst, hrest]
    rfl

/-! ### The form of a text -/

/-- The first ASCII letter or digit of a text is a letter. -/
def OpensWithLetter (text : String) : Prop :=
  ∃ c, text.toList.find? Char.isAlphanum = some c ∧ c.isAlpha = true

theorem isAlphanum_of_mem_pascalChars {opens : Bool} {cs : List Char} {c : Char}
    (h : c ∈ pascalChars opens cs) : c.isAlphanum = true := by
  induction cs generalizing opens with
  | nil => cases h
  | cons first rest ih =>
    rw [pascalChars] at h
    split at h
    · next hfirst =>
      obtain rfl | h := List.mem_cons.mp h
      · cases opens
        · exact hfirst
        · exact isAlphanum_toUpper hfirst
      · exact ih h
    · exact ih h

/-- The form begins with the first letter or digit, written uppercase. -/
theorem head?_pascalChars (cs : List Char) :
    (pascalChars true cs).head? = (cs.find? Char.isAlphanum).map Char.toUpper := by
  induction cs with
  | nil => rfl
  | cons first rest ih =>
    rw [pascalChars, List.find?_cons]
    cases first.isAlphanum
    · exact ih
    · rfl

/-- A text without letters and digits has the empty form. -/
theorem toPascalCase_eq_empty {text : String}
    (h : text.toList.find? Char.isAlphanum = none) : toPascalCase text = "" := by
  have hhead := head?_pascalChars text.toList
  rw [h, Option.map_none, List.head?_eq_none_iff] at hhead
  rw [toPascalCase, hhead]

/-- The form of any other text is its first letter or digit, uppercase, and more of them. -/
theorem exists_toPascalCase_eq_cons {text : String} {c : Char}
    (h : text.toList.find? Char.isAlphanum = some c) :
    ∃ rest, (toPascalCase text).toList = c.toUpper :: rest ∧ ∀ d ∈ rest, d.isAlphanum = true := by
  have hhead := head?_pascalChars text.toList
  rw [h, Option.map_some] at hhead
  obtain ⟨rest, hchars⟩ := List.head?_eq_some_iff.mp hhead
  refine ⟨rest, by rw [toPascalCase, String.toList_ofList, hchars], fun d hd => ?_⟩
  exact isAlphanum_of_mem_pascalChars (hchars ▸ List.mem_cons_of_mem _ hd)

/-- A text that opens with a letter has a form in PascalCase. -/
theorem isPascalCase_toPascalCase {text : String} (h : OpensWithLetter text) :
    isPascalCase (toPascalCase text) = true := by
  obtain ⟨c, hfirst, hletter⟩ := h
  obtain ⟨rest, hchars, hrest⟩ := exists_toPascalCase_eq_cons hfirst
  rw [isPascalCase, hchars]
  simp [hletter, List.all_eq_true.mpr hrest]

/-- A text whose form is an identifier opens with a letter. -/
theorem opensWithLetter_of_isIdentifier {text : String}
    (h : isIdentifier (toPascalCase text) = true) : OpensWithLetter text := by
  cases hfirst : text.toList.find? Char.isAlphanum with
  | none =>
    rw [toPascalCase_eq_empty hfirst] at h
    exact absurd h (by decide)
  | some c =>
    refine ⟨c, hfirst, Decidable.byContradiction fun hletter => ?_⟩
    have halphanum : c.isAlphanum = true := List.find?_some hfirst
    have hlow : c ≠ '_' := fun heq => absurd (heq ▸ halphanum) (by decide)
    have hdollar : c ≠ '$' := fun heq => absurd (heq ▸ halphanum) (by decide)
    obtain ⟨rest, hchars, -⟩ := exists_toPascalCase_eq_cons hfirst
    rw [isIdentifier, hchars, toUpper_of_not_isAlpha hletter] at h
    simp [isIdentifierStart, hletter, hlow, hdollar] at h

/-- **Forms in PascalCase** are those of the texts that open with a letter. -/
theorem isPascalCase_toPascalCase_iff {text : String} :
    isPascalCase (toPascalCase text) = true ↔ OpensWithLetter text :=
  ⟨fun h => opensWithLetter_of_isIdentifier (isIdentifier_of_isPascalCase h),
    isPascalCase_toPascalCase⟩

/-- A form that is not in PascalCase is no identifier either. -/
theorem isIdentifier_toPascalCase_iff {text : String} :
    isIdentifier (toPascalCase text) = true ↔ OpensWithLetter text :=
  ⟨opensWithLetter_of_isIdentifier,
    fun h => isIdentifier_of_isPascalCase (isPascalCase_toPascalCase h)⟩

end EntityProjection.Text
