import Mathlib.Data.List.Basic
import EntityProjection.Text.CodePoint
import EntityProjection.Text.Quoted

/-!
# Property names read back

A property name stands at the front of a member, bare or between double quotes.  A quoted name is
read character by character: only a mark that no backslash announces closes it, and an escape stands
for one character.  So a name can be told from what follows it, whatever the name is.

* `Unquoting.next?`: one more character of a quoted text;
* `Unquoting.foldlM_escaped`: the characters of a quoted text stand for the text;
* `readPropertyName?`: the property name at the front of a text, and the rest of the text;
* `propertyName_append_inj`: two texts with property names at their front are equal just if the
  names and the rests are;
* `not_newline_mem_propertyName`: a property name stays on its line.
-/

namespace EntityProjection.Text

/-! ### Identifiers -/

theorem isIdentifierRest_of_start {c : Char} (h : isIdentifierStart c = true) :
    isIdentifierRest c = true := by
  simp only [isIdentifierStart, isIdentifierRest, Char.isAlphanum, Bool.or_eq_true] at h ⊢
  obtain (h | h) | h := h
  · exact .inl (.inl (.inl h))
  · exact .inl (.inr h)
  · exact .inr h

/-- An identifier is not empty, and all its characters may stand in one. -/
theorem isIdentifier_chars {name : String} (h : isIdentifier name = true) :
    name.toList ≠ [] ∧ ∀ c ∈ name.toList, isIdentifierRest c = true := by
  unfold isIdentifier at h
  split at h
  · cases h
  · next c cs hchars =>
    rw [Bool.and_eq_true, List.all_eq_true] at h
    rw [hchars]
    exact ⟨List.cons_ne_nil _ _, List.forall_mem_cons.mpr ⟨isIdentifierRest_of_start h.1, h.2⟩⟩

/-! ### Hexadecimal digits -/

/-- The digits of a number are those of its sixteenth part, and one more. -/
theorem hexDigits_eq (n : ℕ) : hexDigits n =
    if n < 16 then [n.digitChar] else hexDigits (n / 16) ++ [(n % 16).digitChar] :=
  Nat.toDigits_eq_if (by decide)

theorem exists_digit_of_mem_hexDigits {n : ℕ} {c : Char} (h : c ∈ hexDigits n) :
    ∃ d < 16, c = d.digitChar := by
  induction n using Nat.strongRecOn with
  | ind n ih =>
    rw [hexDigits_eq] at h
    split at h
    · next hn => exact ⟨n, hn, List.mem_singleton.mp h⟩
    · next hn =>
      obtain h | h := List.mem_append.mp h
      · exact ih (n / 16) (by omega) h
      · exact ⟨n % 16, Nat.mod_lt n (by decide), List.mem_singleton.mp h⟩

/-! ### Quoted texts -/

/-- How far an escape is read. -/
inductive Escape where
  /-- There is none. -/
  | none
  /-- A backslash is read. -/
  | begun
  /-- Digits of a code point are read. -/
  | code (n : ℕ)

/-- A quoted text as far as it is read. -/
structure Unquoting where
  chars : List Char := []
  escape : Escape := .none

namespace Unquoting

/-- One more character of the text that is meant. -/
def push (u : Unquoting) (c : Char) : Unquoting :=
  ⟨u.chars ++ [c], .none⟩

/-- The character that a letter stands for after a backslash; others stand for themselves. -/
def named (c : Char) : Char :=
  match c with
  | '0' => '\x00'
  | 't' => '\t'
  | 'n' => '\n'
  | 'r' => '\r'
  | c => c

/-- One more character as it is written, none if it is the closing mark. -/
def next? (u : Unquoting) (c : Char) : Option Unquoting :=
  match u.escape with
  | .none =>
    if c = '"' then none
    else if c = '\\' then some { u with escape := .begun }
    else some (u.push c)
  | .begun => if c = 'u' then some { u with escape := .code 0 } else some (u.push (named c))
  | .code n =>
    if c = '{' then some u
    else if c = '}' then some (u.push (Char.ofNat n))
    else some { u with escape := .code (n * 16 + (hexDigit? c).getD 0) }

variable {chars : List Char}

theorem next?_digit {n d : ℕ} (hd : d < 16) :
    next? ⟨chars, .code n⟩ d.digitChar = some ⟨chars, .code (n * 16 + d)⟩ := by
  have hdigit : ∀ d < 16, d.digitChar ≠ '{' ∧ d.digitChar ≠ '}' ∧
      hexDigit? d.digitChar = some d := by decide
  obtain ⟨hopening, hclosing, hvalue⟩ := hdigit d hd
  simp only [next?, if_neg hopening, if_neg hclosing, hvalue, Option.getD_some]

/-- The digits of a number stand for the number. -/
theorem foldlM_hexDigits (n : ℕ) :
    (hexDigits n).foldlM next? ⟨chars, .code 0⟩ = some ⟨chars, .code n⟩ := by
  induction n using Nat.strongRecOn with
  | ind n ih =>
    rw [hexDigits_eq]
    split
    · next hn =>
      rw [List.foldlM_cons, next?_digit hn, Nat.zero_mul, Nat.zero_add]
      rfl
    · next hn =>
      rw [List.foldlM_append, ih (n / 16) (by omega)]
      show (next? ⟨chars, .code (n / 16)⟩ (n % 16).digitChar >>= fun u => some u) = _
      rw [next?_digit (Nat.mod_lt n (by decide)), Nat.div_add_mod']
      rfl

/-- A character written by its code point stands for itself. -/
theorem foldlM_escapeCode (c : Char) :
    (escapeCode c).foldlM next? ⟨chars, .none⟩ = some ⟨chars ++ [c], .none⟩ := by
  have hopening : ['\\', 'u', '{'].foldlM next? ⟨chars, .none⟩ = some ⟨chars, .code 0⟩ := rfl
  rw [escapeCode, List.foldlM_append, List.foldlM_append, hopening]
  show ((hexDigits c.toNat).foldlM next? ⟨chars, .code 0⟩ >>= fun u => ['}'].foldlM next? u) = _
  rw [foldlM_hexDigits]
  show some (push ⟨chars, .code c.toNat⟩ (Char.ofNat c.toNat)) = _
  rw [push, Char.ofNat_toNat]

/-- A character as it stands inside a quoted text stands for itself. -/
theorem foldlM_escapeChar (c : Char) :
    (escapeChar c).foldlM next? ⟨chars, .none⟩ = some ⟨chars ++ [c], .none⟩ := by
  unfold escapeChar
  split
  case h_7 _ _ _ _ _ hquote hbackslash =>
    split
    · simp only [List.foldlM_cons, List.foldlM_nil, next?, if_neg hquote, if_neg hbackslash]
      rfl
    · exact foldlM_escapeCode _
  all_goals rfl

/-- **The characters of a quoted text stand for the text.** -/
theorem foldlM_escaped (cs : List Char) :
    (cs.flatMap escapeChar).foldlM next? ⟨chars, .none⟩ = some ⟨chars ++ cs, .none⟩ := by
  induction cs generalizing chars with
  | nil => rw [List.append_nil]; rfl
  | cons c cs ih =>
    rw [List.flatMap_cons, List.foldlM_append, foldlM_escapeChar]
    show (cs.flatMap escapeChar).foldlM next? ⟨chars ++ [c], .none⟩ = _
    rw [ih, List.append_assoc, List.singleton_append]

/-- Reads a quoted text to its closing mark: the text that is meant, and what follows the mark. -/
def finish? (u : Unquoting) : List Char → Option (List Char × List Char)
  | [] => none
  | c :: cs =>
    match u.next? c with
    | none => some (u.chars, cs)
    | some u => u.finish? cs

theorem finish?_append {u u' : Unquoting} {cs : List Char} (h : cs.foldlM next? u = some u')
    (rest : List Char) : u.finish? (cs ++ rest) = u'.finish? rest := by
  induction cs generalizing u with
  | nil =>
    cases h
    rfl
  | cons c cs ih =>
    rw [List.foldlM_cons] at h
    obtain ⟨next, hnext, h⟩ := Option.bind_eq_some_iff.mp h
    rw [List.cons_append, finish?, hnext]
    exact ih h

/-- A quoted text is read back, and what follows it is left. -/
theorem finish?_quoted (cs rest : List Char) :
    finish? {} (cs.flatMap escapeChar ++ '"' :: rest) = some (cs, rest) := by
  rw [finish?_append (foldlM_escaped cs), List.nil_append]
  rfl

end Unquoting

/-! ### Property names -/

/-- The property name at the front of a text, and the rest of the text. -/
def readPropertyName? (cs : List Char) : Option (String × List Char) :=
  match cs with
  | '"' :: cs => (Unquoting.finish? {} cs).map fun (chars, rest) => (String.ofList chars, rest)
  | cs => some (String.ofList (cs.takeWhile isIdentifierRest), cs.dropWhile isIdentifierRest)

/-- **A property name is read back** if what follows it cannot belong to an identifier. -/
theorem readPropertyName?_append (name : String) {c : Char} (hc : ¬isIdentifierRest c = true)
    (rest : List Char) :
    readPropertyName? ((propertyName name).toList ++ c :: rest) = some (name, c :: rest) := by
  unfold propertyName
  split
  · next hbare =>
    obtain ⟨hne, hchars⟩ := isIdentifier_chars hbare
    have htake : (name.toList ++ c :: rest).takeWhile isIdentifierRest = name.toList := by
      rw [List.takeWhile_append_of_pos hchars, List.takeWhile_cons_of_neg hc, List.append_nil]
    have hdrop : (name.toList ++ c :: rest).dropWhile isIdentifierRest = c :: rest := by
      rw [List.dropWhile_append_of_pos hchars, List.dropWhile_cons_of_neg hc]
    unfold readPropertyName?
    split
    · next cs hquote =>
      -- An identifier does not begin with a mark.
      cases hname : name.toList with
      | nil => exact absurd hname hne
      | cons first others =>
        rw [hname, List.cons_append, List.cons.injEq] at hquote
        have hfirst := hchars first (hname ▸ List.mem_cons_self)
        rw [hquote.1] at hfirst
        exact absurd hfirst (by decide)
    · rw [htake, hdrop, String.ofList_toList]
  · rw [quoted, String.toList_ofList, quotedChars, List.cons_append, List.cons_append,
      List.append_assoc, List.singleton_append]
    show (Unquoting.finish? {} _).map _ = _
    rw [Unquoting.finish?_quoted, Option.map_some]
    dsimp only
    rw [String.ofList_toList]

/-- **Property names and what follows them are told apart.** -/
theorem propertyName_append_inj {name name' : String} {c c' : Char} {rest rest' : List Char}
    (hc : ¬isIdentifierRest c = true) (hc' : ¬isIdentifierRest c' = true)
    (h : (propertyName name).toList ++ c :: rest = (propertyName name').toList ++ c' :: rest') :
    name = name' ∧ c :: rest = c' :: rest' := by
  have hread := readPropertyName?_append name hc rest
  rw [h, readPropertyName?_append name' hc' rest', Option.some.injEq, Prod.mk.injEq] at hread
  exact ⟨hread.1.symm, hread.2.symm⟩

/-- A property name stays on its line. -/
theorem not_newline_mem_propertyName (name : String) : '\n' ∉ (propertyName name).toList := by
  unfold propertyName
  split
  · next hbare =>
    intro hmem
    exact absurd ((isIdentifier_chars hbare).2 _ hmem) (by decide)
  · have hdigit : ∀ d < 16, '\n' ≠ d.digitChar := by decide
    have hcode : ∀ c : Char, '\n' ∉ escapeCode c := by
      intro c hmem
      simp only [escapeCode, List.mem_append, List.mem_cons, List.not_mem_nil, or_false] at hmem
      obtain (hmem | hmem) | hmem := hmem
      · exact absurd hmem (by decide)
      · obtain ⟨d, hd, heq⟩ := exists_digit_of_mem_hexDigits hmem
        exact hdigit d hd heq
      · exact absurd hmem (by decide)
    have hchar : ∀ c : Char, '\n' ∉ escapeChar c := by
      intro c
      unfold escapeChar
      split
      case h_7 _ _ _ hnewline _ _ _ =>
        split
        · exact fun hmem => hnewline (List.mem_singleton.mp hmem).symm
        · exact hcode _
      all_goals decide
    rw [quoted, String.toList_ofList, quotedChars]
    simp only [List.mem_append, List.mem_cons, List.mem_flatMap, List.not_mem_nil, or_false]
    rintro ((hmem | ⟨c, -, hmem⟩) | hmem)
    · exact absurd hmem (by decide)
    · exact hchar c hmem
    · exact absurd hmem (by decide)

end EntityProjection.Text
