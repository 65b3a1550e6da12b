import EntityProjection.Proofs.Text.PropertyName

/-!
# Property names as string literals

What a property name means to a reader of the declarations.  A bare name means itself.  A quoted one
is a string literal of ECMAScript, and its value is a list of UTF-16 code units.  A backslash opens
an escape.  The escape `\0` is the null character only if no decimal digit follows: with a digit it
is an octal escape, which is not legal any more and stood for another character when it was.

* `codeUnits` and `textUnits_inj`: the code units of a text determine it;
* `StringLiteral.read?`: the value of a literal, by the rules of the language;
* `propertyNameBy`: property names under any notion of the characters that may stand as they are;
* `StringLiteral.read?_quoted` and `StringLiteral.read?_quoted_of_null`: a quoted text is a literal
  for the text, but if a null character stands right before a digit it is no legal literal;
* `memberName?` and `property_names_denote`: the member that a property name declares is the one of
  its name, with the same exception.
-/

namespace EntityProjection.Text

/-! ### Code units -/

/-- The UTF-16 code units of a code point. -/
def codeUnits (n : ℕ) : List ℕ :=
  if n < 0x10000 then [n] else [0xD800 + (n - 0x10000) / 0x400, 0xDC00 + (n - 0x10000) % 0x400]

/-- The UTF-16 code units of a list of characters. -/
def textUnits (cs : List Char) : List ℕ :=
  cs.flatMap fun c => codeUnits c.toNat

/-- The first code units of a text tell its first character. -/
theorem codeUnits_append_inj {c d : Char} {us vs : List ℕ}
    (h : codeUnits c.toNat ++ us = codeUnits d.toNat ++ vs) : c = d ∧ us = vs := by
  have hc : c.toNat < 0xD800 ∨ 0xDFFF < c.toNat ∧ c.toNat < 0x110000 := c.valid
  have hd : d.toNat < 0xD800 ∨ 0xDFFF < d.toNat ∧ d.toNat < 0x110000 := d.valid
  rw [← Char.toNat_inj]
  unfold codeUnits at h
  split at h <;> split at h <;> simp only [List.cons_append, List.nil_append, List.cons.injEq] at h
  · exact h
  · omega
  · omega
  · exact ⟨by omega, h.2.2⟩

theorem codeUnits_ne_nil (n : ℕ) : codeUnits n ≠ [] := by
  unfold codeUnits
  split <;> simp

/-- **Code units determine a text.** -/
theorem textUnits_inj {cs ds : List Char} (h : textUnits cs = textUnits ds) : cs = ds := by
  induction cs generalizing ds with
  | nil =>
    cases ds with
    | nil => rfl
    | cons d ds => exact absurd (List.append_eq_nil_iff.mp h.symm).1 (codeUnits_ne_nil _)
  | cons c cs ih =>
    cases ds with
    | nil => exact absurd (List.append_eq_nil_iff.mp h).1 (codeUnits_ne_nil _)
    | cons d ds =>
      obtain ⟨rfl, hrest⟩ := codeUnits_append_inj h
      rw [ih hrest]

/-! ### String literals -/

namespace StringLiteral

/-- Whether a character ends a line. -/
def isLineEnd (c : Char) : Bool :=
  c == '\n' || c == '\r' || c == '\u2028' || c == '\u2029'

/-- Whether a text goes on with a decimal digit. -/
def startsWithDigit (cs : List Char) : Bool :=
  cs.head?.any Char.isDigit

/-- The character that a letter stands for after a backslash; others stand for themselves. -/
def named (c : Char) : Char :=
  match c with
  | 'b' => '\x08'
  | 't' => '\t'
  | 'n' => '\n'
  | 'v' => '\x0b'
  | 'f' => '\x0c'
  | 'r' => '\r'
  | c => c

/-- The code unit that a fixed number of hexadecimal digits writes. -/
def hexUnit? (width : ℕ) (cs : List Char) : Option ℕ :=
  if (cs.take width).length < width then none else hexNumber? (cs.take width)

/-- The code point that hexadecimal digits before a closing brace write, and the characters that it
takes. -/
def codePoint? (cs : List Char) : Option (ℕ × ℕ) :=
  let digits := cs.takeWhile fun c => (hexDigit? c).isSome
  if digits.isEmpty || (cs.drop digits.length).head? != some '}' then none
  else match hexNumber? digits with
    | none => none
    | some n => if n ≤ 0x10FFFF then some (n, digits.length + 1) else none

/-- Whether a character is an octal digit. -/
def isOctalDigit (c : Char) : Bool :=
  '0' ≤ c && c ≤ '7'

/-- The code unit that octal digits write, three of them if the first is at most `3` and else two,
and the characters that it takes.  The digits `8` and `9` stand for themselves. -/
def octalUnit (c : Char) (cs : List Char) : ℕ × ℕ :=
  if isOctalDigit c then
    let digits := c :: (cs.take (if c ≤ '3' then 2 else 1)).takeWhile isOctalDigit
    (digits.foldl (fun n d => n * 8 + (d.toNat - 48)) 0, digits.length)
  else (c.toNat, 1)

/-- What an escape stands for, read from after its backslash, and the characters that it takes.
Octal escapes are read only if they are allowed; a line that ends after a backslash goes on without
a break. -/
def escape? (octal : Bool) (cs : List Char) : Option (List ℕ × ℕ) :=
  match cs with
  | [] => none
  | 'x' :: cs => (hexUnit? 2 cs).map fun n => ([n], 3)
  | 'u' :: '{' :: cs => (codePoint? cs).map fun (n, width) => (codeUnits n, width + 2)
  | 'u' :: cs => (hexUnit? 4 cs).map fun n => ([n], 5)
  | '\r' :: '\n' :: _ => some ([], 2)
  | c :: cs =>
    if c = '0' ∧ ¬startsWithDigit cs then some ([0], 1)
    else if c.isDigit then
      if octal then some ([(octalUnit c cs).1], (octalUnit c cs).2) else none
    else if isLineEnd c then some ([], 1)
    else some (codeUnits (named c).toNat, 1)

/-- Code units in front of the value of a text that is read. -/
def inFront (us : List ℕ) (value : Option (List ℕ × List Char)) : Option (List ℕ × List Char) :=
  value.map fun (vs, after) => (us ++ vs, after)

/-- The value of a string literal, read from after its opening mark, and what follows its closing
mark. -/
def read? (octal : Bool) (cs : List Char) : Option (List ℕ × List Char) :=
  match cs with
  | [] => none
  | c :: cs =>
    if c = '"' then some ([], cs)
    else if c = '\n' ∨ c = '\r' then none
    else if c = '\\' then
      match escape? octal cs with
      | none => none
      | some (us, width) => inFront us (read? octal (cs.drop width))
    else inFront (codeUnits c.toNat) (read? octal cs)
termination_by cs.length
decreasing_by
  · simp only [List.length_drop, List.length_cons]
    omega
  · exact Nat.lt_succ_self _

/-! ### Reading what is written -/

variable {octal : Bool} {cs : List Char} {c : Char}

theorem read?_plain (hquote : c ≠ '"') (hbackslash : c ≠ '\\') (hfeed : c ≠ '\n')
    (hreturn : c ≠ '\r') :
    read? octal (c :: cs) = inFront (codeUnits c.toNat) (read? octal cs) := by
  rw [read?, if_neg hquote, if_neg (not_or.mpr ⟨hfeed, hreturn⟩), if_neg hbackslash]

theorem read?_backslash : read? octal ('\\' :: cs) =
    match escape? octal cs with
    | none => none
    | some (us, width) => inFront us (read? octal (cs.drop width)) := by
  rw [read?, if_neg (by decide), if_neg (by decide), if_pos rfl]

theorem hexNumber?_append_digit {digits : List Char} {n d : ℕ} (h : hexNumber? digits = some n)
    (hd : d < 16) : hexNumber? (digits ++ [d.digitChar]) = some (n * 16 + d) := by
  have hdigit : ∀ d < 16, hexDigit? d.digitChar = some d := by decide
  rw [hexNumber?] at h
  rw [hexNumber?, List.foldlM_append, h]
  simp [hdigit d hd]

/-- The digits of a number write the number. -/
theorem hexNumber?_hexDigits (n : ℕ) : hexNumber? (hexDigits n) = some n := by
  induction n using Nat.strongRecOn with
  | ind n ih =>
    rw [hexDigits_eq]
    split
    · next hn =>
      have hnil : hexNumber? [] = some 0 := rfl
      have := hexNumber?_append_digit hnil hn
      rwa [Nat.zero_mul, Nat.zero_add] at this
    · next hn =>
      rw [hexNumber?_append_digit (ih (n / 16) (by omega)) (Nat.mod_lt n (by decide)),
        Nat.div_add_mod']

/-- The digits of a code point before a brace are read. -/
theorem codePoint?_hexDigits {n : ℕ} (hn : n ≤ 0x10FFFF) :
    codePoint? (hexDigits n ++ '}' :: cs) = some (n, (hexDigits n).length + 1) := by
  have hhex : ∀ d ∈ hexDigits n, (hexDigit? d).isSome = true := by
    intro d hd
    obtain ⟨k, hk, rfl⟩ := exists_digit_of_mem_hexDigits hd
    have hdigit : ∀ k < 16, (hexDigit? k.digitChar).isSome = true := by decide
    exact hdigit k hk
  have htake : (hexDigits n ++ '}' :: cs).takeWhile (fun c => (hexDigit? c).isSome) =
      hexDigits n := by
    rw [List.takeWhile_append_of_pos hhex, List.takeWhile_cons_of_neg (by decide), List.append_nil]
  have hne : (hexDigits n).isEmpty = false := by
    rw [hexDigits_eq]
    split <;> simp
  simp only [codePoint?, htake, hne, List.drop_left, List.head?_cons, hexNumber?_hexDigits,
    if_pos hn]
  rfl

theorem toNat_le (c : Char) : c.toNat ≤ 0x10FFFF := by
  have hc : c.toNat < 0xD800 ∨ 0xDFFF < c.toNat ∧ c.toNat < 0x110000 := c.valid
  omega

/-- A character written by its code point is read. -/
theorem read?_escapeCode (c : Char) :
    read? octal (escapeCode c ++ cs) = inFront (codeUnits c.toNat) (read? octal cs) := by
  have hwritten : escapeCode c ++ cs =
      '\\' :: 'u' :: '{' :: (hexDigits c.toNat ++ '}' :: cs) := by
    simp [escapeCode]
  have hescape : escape? octal ('u' :: '{' :: (hexDigits c.toNat ++ '}' :: cs)) =
      some (codeUnits c.toNat, (hexDigits c.toNat).length + 1 + 2) := by
    rw [escape?, codePoint?_hexDigits (toNat_le c)]
    rfl
  have hrest : ('u' :: '{' :: (hexDigits c.toNat ++ '}' :: cs)).drop
      ((hexDigits c.toNat).length + 1 + 2) = cs := by
    simp
  rw [hwritten, read?_backslash, hescape]
  dsimp only
  rw [hrest]

end StringLiteral

/-! ### Quoted texts -/

/-- A character as it stands inside a quoted text, if `plain` says which characters may stand as
they are. -/
def escapeCharBy (plain : Char → Bool) (c : Char) : List Char :=
  match c with
  | '\x00' => ['\\', '0']
  | '\t' => ['\\', 't']
  | '\n' => ['\\', 'n']
  | '\r' => ['\\', 'r']
  | '"' => ['\\', '"']
  | '\\' => ['\\', '\\']
  | c => if plain c then [c] else escapeCode c

/-- A property name, bare if possible and else quoted. -/
def propertyNameBy (plain : Char → Bool) (name : String) : String :=
  if isIdentifier name then name
  else String.ofList ('"' :: name.toList.flatMap (escapeCharBy plain) ++ ['"'])

/-- The characters that stand as they are inside the quoted texts of declarations. -/
def isPlain (c : Char) : Bool :=
  !extendsGrapheme c && isPrintable c

theorem propertyName_eq (name : String) : propertyName name = propertyNameBy isPlain name :=
  rfl

/-- A null character stands right before a digit that is written as it is. -/
def NullBeforeDigit (plain : Char → Bool) (cs : List Char) : Prop :=
  ∃ d, d.isDigit = true ∧ plain d = true ∧ ['\x00', d] <:+: cs

theorem not_nullBeforeDigit_nil {plain : Char → Bool} : ¬NullBeforeDigit plain [] := by
  rintro ⟨d, -, -, hpair⟩
  exact absurd hpair.length_le (by simp)

/-- The null character is the first one and the digit the second, or both come later. -/
theorem nullBeforeDigit_cons {plain : Char → Bool} {c : Char} {cs : List Char} :
    NullBeforeDigit plain (c :: cs) ↔
      (c = '\x00' ∧ cs.head?.any (fun d => d.isDigit && plain d) = true) ∨
        NullBeforeDigit plain cs := by
  simp only [NullBeforeDigit, List.infix_cons_iff, List.cons_prefix_cons, Option.any_eq_true,
    Bool.and_eq_true]
  constructor
  · rintro ⟨d, hdigit, hplain, ⟨rfl, hd⟩ | hpair⟩
    · obtain ⟨rest, rfl⟩ := hd
      exact .inl ⟨rfl, d, rfl, hdigit, hplain⟩
    · exact .inr ⟨d, hdigit, hplain, hpair⟩
  · rintro (⟨rfl, d, hd, hdigit, hplain⟩ | ⟨d, hdigit, hplain, hpair⟩)
    · obtain ⟨rest, rfl⟩ := List.head?_eq_some_iff.mp hd
      exact ⟨d, hdigit, hplain, .inl ⟨rfl, rest, rfl⟩⟩
    · exact ⟨d, hdigit, hplain, .inr hpair⟩

namespace StringLiteral

variable {octal : Bool} {plain : Char → Bool} {cs rest : List Char} {c : Char}

/-- A character that does not end up before a digit by mistake is read as itself. -/
theorem read?_escapeCharBy (hnull : ¬(c = '\x00' ∧ startsWithDigit cs = true)) :
    read? octal (escapeCharBy plain c ++ cs) = inFront (codeUnits c.toNat) (read? octal cs) := by
  unfold escapeCharBy
  split
  · have hdigit : ¬startsWithDigit cs = true := fun hdigit => hnull ⟨rfl, hdigit⟩
    have hescape : escape? octal ('0' :: cs) = some ([0], 1) := by simp [escape?, hdigit]
    show read? octal ('\\' :: '0' :: cs) = _
    rw [read?_backslash, hescape]
    rfl
  case h_7 _ _ hfeed hreturn hquote hbackslash =>
    split
    · exact read?_plain hquote hbackslash hfeed hreturn
    · exact read?_escapeCode c
  all_goals
    show read? octal ('\\' :: _ :: cs) = _
    rw [read?_backslash]
    rfl

/-- A quoted text goes on with a digit just if the text does and the digit stands as it is. -/
theorem startsWithDigit_quoted :
    startsWithDigit (cs.flatMap (escapeCharBy plain) ++ '"' :: rest) =
      cs.head?.any fun d => d.isDigit && plain d := by
  cases cs with
  | nil => rfl
  | cons c cs =>
    rw [List.flatMap_cons, List.head?_cons, Option.any_some]
    unfold escapeCharBy
    split
    case h_7 =>
      by_cases hplain : plain c = true
      · simp [startsWithDigit, hplain]
      · simp [startsWithDigit, hplain, escapeCode]
    all_goals rfl

/-- **A quoted text is a literal for the text**, unless a null character stands right before a
digit. -/
theorem read?_quoted (h : ¬NullBeforeDigit plain cs) :
    read? octal (cs.flatMap (escapeCharBy plain) ++ '"' :: rest) = some (textUnits cs, rest) := by
  -- What follows stays general, because the meaning of a null character depends on it.
  induction cs with
  | nil => simp [read?, textUnits]
  | cons c cs ih =>
    rw [nullBeforeDigit_cons, not_or, ← startsWithDigit_quoted] at h
    rw [List.flatMap_cons, List.append_assoc, read?_escapeCharBy h.1, ih h.2]
    rfl

/-- A null character right before a digit makes an octal escape, and no legal literal. -/
theorem read?_quoted_of_null (h : NullBeforeDigit plain cs) :
    read? false (cs.flatMap (escapeCharBy plain) ++ '"' :: rest) = none := by
  induction cs with
  | nil => exact absurd h not_nullBeforeDigit_nil
  | cons c cs ih =>
    rw [nullBeforeDigit_cons, ← startsWithDigit_quoted] at h
    rw [List.flatMap_cons, List.append_assoc]
    by_cases hfirst : c = '\x00' ∧
        startsWithDigit (cs.flatMap (escapeCharBy plain) ++ '"' :: rest) = true
    · obtain ⟨rfl, hdigit⟩ := hfirst
      show read? false ('\\' :: '0' :: (cs.flatMap (escapeCharBy plain) ++ '"' :: rest)) = none
      rw [read?_backslash]
      simp [escape?, hdigit]
    · rw [read?_escapeCharBy hfirst, ih (h.resolve_left hfirst)]
      rfl

end StringLiteral

/-- A line ends inside a quoted text only by a character that may stand as it is, and never by a
line feed or a carriage return. -/
theorem lineEnd_mem_escapeCharBy {plain : Char → Bool} {c d : Char}
    (hmem : c ∈ escapeCharBy plain d) (hend : StringLiteral.isLineEnd c = true) :
    plain c = true ∧ c ≠ '\n' ∧ c ≠ '\r' := by
  unfold escapeCharBy at hmem
  split at hmem
  case h_7 _ _ hfeed hreturn _ _ =>
    split at hmem
    · next hplain =>
      obtain rfl := List.mem_singleton.mp hmem
      exact ⟨hplain, hfeed, hreturn⟩
    · exfalso
      simp only [escapeCode, List.mem_append, List.mem_cons, List.not_mem_nil, or_false] at hmem
      obtain ((rfl | rfl | rfl) | hmem) | rfl := hmem
      case inl.inr =>
        obtain ⟨k, hk, rfl⟩ := exists_digit_of_mem_hexDigits hmem
        have hdigit : ∀ k < 16, StringLiteral.isLineEnd k.digitChar = false := by decide
        rw [hdigit k hk] at hend
        cases hend
      all_goals cases hend
  all_goals
    exfalso
    obtain rfl | rfl := List.mem_pair.mp hmem
    · cases hend
    · cases hend

/-! ### Members -/

/-- The member that a property name declares, by its code units: that of a bare name or of the value
of a literal. -/
def memberName? (octal : Bool) (text : String) : Option (List ℕ) :=
  match text.toList with
  | '"' :: cs =>
    match StringLiteral.read? octal cs with
    | some (us, []) => some us
    | _ => none
  | cs => if isIdentifier text then some (textUnits cs) else none

/-- A text declares the member of this name and of no other. -/
def Declares (octal : Bool) (text name : String) : Prop :=
  ∀ other : String, memberName? octal text = some (textUnits other.toList) ↔ other = name

theorem declares_of_memberName? {octal : Bool} {text name : String}
    (h : memberName? octal text = some (textUnits name.toList)) : Declares octal text name := by
  intro other
  rw [h, Option.some.injEq]
  constructor
  · intro hunits
    exact String.toList_inj.mp (textUnits_inj hunits).symm
  · rintro rfl
    rfl

section Members

variable {octal : Bool} {plain : Char → Bool} {name : String}

theorem memberName?_of_isIdentifier (h : isIdentifier name = true) :
    memberName? octal name = some (textUnits name.toList) := by
  unfold memberName?
  split
  · next cs hquote =>
    -- An identifier does not begin with a mark.
    have hmark := (isIdentifier_chars h).2 '"' (hquote ▸ List.mem_cons_self)
    exact absurd hmark (by decide)
  · rw [if_pos h]

theorem toList_propertyNameBy (h : ¬isIdentifier name = true) :
    (propertyNameBy plain name).toList =
      '"' :: name.toList.flatMap (escapeCharBy plain) ++ ['"'] := by
  rw [propertyNameBy, if_neg h, String.toList_ofList]

/-- **A property name declares the member of its name**, unless a null character stands right before
a digit. -/
theorem memberName?_propertyNameBy (octal : Bool) (h : ¬NullBeforeDigit plain name.toList) :
    memberName? octal (propertyNameBy plain name) = some (textUnits name.toList) := by
  by_cases hbare : isIdentifier name = true
  · rw [propertyNameBy, if_pos hbare]
    exact memberName?_of_isIdentifier hbare
  · have hread : StringLiteral.read? octal (name.toList.flatMap (escapeCharBy plain) ++ ['"']) =
        some (textUnits name.toList, []) := StringLiteral.read?_quoted h
    rw [memberName?, toList_propertyNameBy hbare, List.cons_append]
    simp only [hread]

/-- A null character right before a digit leaves no member to declare. -/
theorem memberName?_of_null (h : NullBeforeDigit plain name.toList) :
    memberName? false (propertyNameBy plain name) = none := by
  have hquoted : ¬isIdentifier name = true := by
    intro hbare
    obtain ⟨d, -, -, hpair⟩ := h
    have hnull := (isIdentifier_chars hbare).2 '\x00' (hpair.subset List.mem_cons_self)
    exact absurd hnull (by decide)
  have hread : StringLiteral.read? false (name.toList.flatMap (escapeCharBy plain) ++ ['"']) =
      none := StringLiteral.read?_quoted_of_null h
  rw [memberName?, toList_propertyNameBy hquoted, List.cons_append]
  simp only [hread]

end Members

/-! ### The characters that stand as they are -/

theorem inRanges_of_mem {ranges : Array (ℕ × ℕ)} {low high n : ℕ}
    (hmem : (low, high) ∈ ranges.toList) (hlow : low ≤ n) (hhigh : n ≤ high) :
    inRanges ranges n = true := by
  rw [inRanges, ← Array.any_toList, List.any_eq_true]
  exact ⟨(low, high), hmem, by simp [hlow, hhigh]⟩

/-- A table of ranges that has a gap has no number of the gap. -/
theorem inRanges_of_gap {ranges : Array (ℕ × ℕ)} {low high n : ℕ}
    (hgap : ∀ r ∈ ranges.toList, r.2 < low ∨ high < r.1) (hlow : low ≤ n) (hhigh : n ≤ high) :
    inRanges ranges n = false := by
  rw [inRanges, ← Array.any_toList, List.any_eq_false]
  intro r hr
  have := hgap r hr
  simp only [Bool.and_eq_true, decide_eq_true_eq]
  omega

/-- Digits stand as they are inside quoted texts. -/
theorem isPlain_of_isDigit {c : Char} (h : c.isDigit = true) : isPlain c = true := by
  obtain ⟨hlow, hhigh⟩ : 48 ≤ c.toNat ∧ c.toNat ≤ 57 := Char.isDigit_iff_toNat.mp h
  have hextends : extendsGrapheme c = false := inRanges_of_gap (by decide +kernel) hlow hhigh
  have hprintable : isPrintable c = true := by
    rw [isPrintable, inRanges_of_gap (by decide +kernel) hlow hhigh]
    rfl
  rw [isPlain, hextends, hprintable]
  rfl

theorem isPlain_of_unprintable {low high : ℕ} (hmem : (low, high) ∈ unprintableRanges.toList)
    {c : Char} (hlow : low ≤ c.toNat) (hhigh : c.toNat ≤ high) : isPlain c = false := by
  rw [isPlain, isPrintable, inRanges_of_mem hmem hlow hhigh, Bool.not_true, Bool.and_false]

theorem controls_unprintable : (0x0, 0x1F) ∈ unprintableRanges.toList := by
  decide +kernel

/-- What ends a line never stands as it is. -/
theorem isPlain_of_isLineEnd {c : Char} (h : StringLiteral.isLineEnd c = true) :
    isPlain c = false := by
  have hseparators : (0x2028, 0x202F) ∈ unprintableRanges.toList := by decide +kernel
  simp only [StringLiteral.isLineEnd, Bool.or_eq_true, beq_iff_eq] at h
  obtain ((rfl | rfl) | rfl) | rfl := h
  · exact isPlain_of_unprintable controls_unprintable (by decide) (by decide)
  · exact isPlain_of_unprintable controls_unprintable (by decide) (by decide)
  · exact isPlain_of_unprintable hseparators (by decide) (by decide)
  · exact isPlain_of_unprintable hseparators (by decide) (by decide)

/-- **Property names denote the names of their fields**, with one exception.  Whatever characters
are printable, a name that is an identifier is written as it is, and any other one as a literal in
quotes without a raw line break.  Where no null character stands right before a digit, the text
declares the member of this very name, so that the members of different names are different.  Where
one does, it makes an octal escape, and the text declares no member.  Declarations take this form,
with digits printable and line separators not. -/
theorem property_names_denote (plain : Char → Bool) (name : String) :
    let written := propertyNameBy plain name
    (isIdentifier name = true → written = name) ∧
    (¬isIdentifier name = true → ∃ body, written.toList = '"' :: body ++ ['"'] ∧
      ∀ c ∈ body, StringLiteral.isLineEnd c = true → plain c = true ∧ c ≠ '\n' ∧ c ≠ '\r') ∧
    (¬NullBeforeDigit plain name.toList → ∀ octal, Declares octal written name) ∧
    (NullBeforeDigit plain name.toList → memberName? false written = none) ∧
    (∀ other, ¬NullBeforeDigit plain name.toList → ¬NullBeforeDigit plain other.toList →
      ∀ octal, memberName? octal written = memberName? octal (propertyNameBy plain other) →
        name = other) ∧
    propertyName name = propertyNameBy isPlain name ∧
    (∀ d, d.isDigit = true → isPlain d = true) ∧
    ∀ c, StringLiteral.isLineEnd c = true → isPlain c = false := by
  intro written
  refine ⟨fun hbare => if_pos hbare, fun hquoted => ?_, fun hnull octal => ?_, memberName?_of_null,
    fun other hnull hother octal hsame => ?_, propertyName_eq name, fun _ => isPlain_of_isDigit,
    fun _ => isPlain_of_isLineEnd⟩
  · refine ⟨_, toList_propertyNameBy hquoted, fun c hc hend => ?_⟩
    obtain ⟨d, -, hmem⟩ := List.mem_flatMap.mp hc
    exact lineEnd_mem_escapeCharBy hmem hend
  · exact declares_of_memberName? (memberName?_propertyNameBy octal hnull)
  · have hdeclares := declares_of_memberName? (memberName?_propertyNameBy octal hnull)
    exact ((hdeclares other).mp (hsame.trans (memberName?_propertyNameBy octal hother))).symm

/-- A name with a dash and a null character at its end declares its member; with a digit after the
null character there is none. -/
theorem property_names_denote_controls :
    (¬isIdentifier "a-\x00" = true ∧ ¬NullBeforeDigit isPlain "a-\x00".toList ∧
      Declares false (propertyName "a-\x00") "a-\x00") ∧
    (NullBeforeDigit isPlain "a-\x001".toList ∧
      memberName? false (propertyName "a-\x001") = none) := by
  have hlast : ¬NullBeforeDigit isPlain "a-\x00".toList := by
    have hchars : "a-\x00".toList = ['a', '-', '\x00'] := by decide
    simp [hchars, nullBeforeDigit_cons, not_nullBeforeDigit_nil]
  have hbefore : NullBeforeDigit isPlain "a-\x001".toList :=
    ⟨'1', by decide, isPlain_of_isDigit (by decide), ['a', '-'], [], by decide⟩
  obtain ⟨-, -, hdeclares, -⟩ := property_names_denote isPlain "a-\x00"
  obtain ⟨-, -, -, hnone, -⟩ := property_names_denote isPlain "a-\x001"
  exact ⟨⟨by decide, hlast, hdeclares hlast false⟩, hbefore, hnone hbefore⟩

/-- A null character before a digit: the literal is not legal, and where octal escapes are read it
declares the member of another name. -/
theorem null_before_digit :
    propertyName "\x001" = "\"\\01\"" ∧ memberName? false (propertyName "\x001") = none ∧
      memberName? true (propertyName "\x001") = some [1] ∧
      memberName? true (propertyName "\x01") = some [1] := by
  have hdigit : isPlain '1' = true := isPlain_of_isDigit (by decide)
  have hcontrol : isPlain '\x01' = false :=
    isPlain_of_unprintable controls_unprintable (by decide) (by decide)
  have hfirst : propertyName "\x001" = "\"\\01\"" := by
    rw [← String.toList_inj, propertyName_eq, toList_propertyNameBy (by decide)]
    simp [escapeCharBy, hdigit]
  have hsecond : propertyName "\x01" = "\"\\u\x7b1\x7d\"" := by
    rw [← String.toList_inj, propertyName_eq, toList_propertyNameBy (by decide)]
    simp [escapeCharBy, hcontrol]
    decide
  rw [hfirst, hsecond]
  exact ⟨rfl, by decide +kernel, by decide +kernel, by decide +kernel⟩

end EntityProjection.Text
