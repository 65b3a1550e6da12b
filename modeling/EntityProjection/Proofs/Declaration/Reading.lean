import EntityProjection.Proofs.Declaration.Flattening
import EntityProjection.Proofs.Text.PropertyName

/-!
# Type expressions read back

The text of a type expression is read from front to back, one character at a time.  What is read so
far is a stack of unions on their way, each of them in its place: the text as a whole, brackets, the
arguments of a generic type, or the members of an object.  Every character changes the top of the
stack only, opens a level or closes one, so that to read the text of an expression adds its
alternatives to the union at the top, whatever lies below.

* `TypeReader.step?`: what a character does;
* `TypeReader.run_word` and `TypeReader.run_propertyName`: names;
* `TypeReader.run_separated`: lists with separators, be they alternatives, arguments or members;
* `TypeReader.Reads` and `TypeReader.reads_render`: the text of an expression adds its alternatives;
* `TypeExpr.read?`: the type expression that a text says;
* `render_unambiguous`: expressions with the same text have the same flat form.
-/

namespace EntityProjection

open Text (Unquoting isIdentifier isIdentifierRest propertyName)

/-! ### Lists of texts -/

theorem renderTypes_eq_map (ts : List TypeExpr) : renderTypes ts = ts.map TypeExpr.render := by
  induction ts with
  | nil => rw [renderTypes, List.map_nil]
  | cons t ts ih => rw [renderTypes, ih, List.map_cons]

theorem renderMembers_eq_map (members : List (Member TypeExpr)) :
    renderMembers members = members.map renderMember := by
  induction members with
  | nil => rw [renderMembers, List.map_nil]
  | cons m ms ih => rw [renderMembers, ih, List.map_cons]

/-! ### The reader -/

/-- The union of some alternatives, the latest one first. -/
def TypeExpr.ofLatest (ts : List TypeExpr) : TypeExpr :=
  .ofAlternatives ts.reverse

/-- Where a union on its way stands. -/
inductive TypePlace where
  /-- It is the whole text. -/
  | whole
  /-- In brackets. -/
  | brackets
  /-- It is an argument of a generic type, after the given ones. -/
  | argument (container : String) (before : List TypeExpr)
  /-- In an object, after the given members, where the name of a member is read first. -/
  | name (before : List (Member TypeExpr))
  /-- It is the type of a member of an object, after the given members. -/
  | member (before : List (Member TypeExpr)) (name : String) (optional : Bool)

/-- A union on its way. -/
structure TypeLevel where
  place : TypePlace
  /-- The alternatives, the latest one first. -/
  alternatives : List TypeExpr := []
  /-- Whether the next alternative has not begun. -/
  fresh : Bool := true

namespace TypeLevel

/-- A union with one more alternative. -/
def add (l : TypeLevel) (t : TypeExpr) : TypeLevel :=
  ⟨l.place, t :: l.alternatives, false⟩

/-- A union with one more letter, which goes on with the word that has begun or else begins one. -/
def extend (l : TypeLevel) (c : Char) : TypeLevel :=
  match l.fresh, l.alternatives with
  | false, .verbatim word :: ts => ⟨l.place, .verbatim (word.push c) :: ts, false⟩
  | _, _ => l.add (.verbatim (String.singleton c))

end TypeLevel

/-- A text of a type as far as it is read. -/
structure TypeReader where
  level : TypeLevel
  /-- What the top level is inside of, from within. -/
  outer : List TypeLevel := []
  /-- The quoted name that is being read. -/
  unquoting : Option Unquoting := none

namespace TypeReader

/-- What a character does that is no letter. -/
def symbol? (r : TypeReader) (c : Char) : Option TypeReader :=
  match c, r.level, r.outer with
  | ' ', _, _ => some r
  | '[', _, _ => some r
  | '"', _, _ => some { r with unquoting := some {} }
  | '|', l, outer => some ⟨{ l with fresh := true }, outer, none⟩
  | ']', ⟨place, t :: ts, _⟩, outer => some ⟨⟨place, .array t :: ts, false⟩, outer, none⟩
  | '(', l, outer => some ⟨⟨.brackets, [], true⟩, l :: outer, none⟩
  | ')', ⟨.brackets, ts, _⟩, l :: outer => some ⟨l.add (.ofLatest ts), outer, none⟩
  | '<', ⟨place, .verbatim word :: ts, _⟩, outer =>
    some ⟨⟨.argument word [], [], true⟩, ⟨place, ts, true⟩ :: outer, none⟩
  | ',', ⟨.argument word before, ts, _⟩, outer =>
    some ⟨⟨.argument word (before ++ [.ofLatest ts]), [], true⟩, outer, none⟩
  | '>', ⟨.argument word before, ts, _⟩, l :: outer =>
    some ⟨l.add (.generic word (before ++ [.ofLatest ts])), outer, none⟩
  | '{', l, outer => some ⟨⟨.name [], [], true⟩, l :: outer, none⟩
  | '?', ⟨.name before, [.verbatim word], _⟩, outer =>
    some ⟨⟨.member before word true, [], true⟩, outer, none⟩
  | ':', ⟨.name before, [.verbatim word], _⟩, outer =>
    some ⟨⟨.member before word false, [], true⟩, outer, none⟩
  | ':', ⟨.member _ _ true, [], _⟩, _ => some r
  | ';', ⟨.member before word optional, ts, _⟩, outer =>
    some ⟨⟨.name (before ++ [⟨word, optional, .ofLatest ts⟩]), [], true⟩, outer, none⟩
  | '}', ⟨.name [], [], _⟩, l :: outer => some ⟨l.add (.object []), outer, none⟩
  | '}', ⟨.member before word optional, ts, _⟩, l :: outer =>
    some ⟨l.add (.object (before ++ [⟨word, optional, .ofLatest ts⟩])), outer, none⟩
  | _, _, _ => none

/-- What a character does: it goes on with a quoted name, with a word, or else it is a symbol. -/
def step? (r : TypeReader) (c : Char) : Option TypeReader :=
  match r.unquoting with
  | some u =>
    match u.next? c with
    | some u => some { r with unquoting := some u }
    | none => some ⟨r.level.add (.verbatim (String.ofList u.chars)), r.outer, none⟩
  | none =>
    if isIdentifierRest c then some ⟨r.level.extend c, r.outer, none⟩ else r.symbol? c

/-- What characters do one after the other. -/
def run (r : TypeReader) (cs : List Char) : Option TypeReader :=
  cs.foldlM step? r

end TypeReader

/-- The type expression that a text says. -/
def TypeExpr.read? (text : String) : Option TypeExpr :=
  match TypeReader.run { level := { place := .whole } } text.toList with
  | some ⟨level, [], none⟩ => some (.ofLatest level.alternatives)
  | _ => none

namespace TypeReader

variable {place : TypePlace} {level : TypeLevel} {ts : List TypeExpr} {outer : List TypeLevel}

/-- A text after another one is read from where the first one ends. -/
theorem run_append {r r' : TypeReader} {cs : List Char} (h : r.run cs = some r')
    (rest : List Char) : r.run (cs ++ rest) = r'.run rest := by
  rw [run, List.foldlM_append, ← run, h]
  rfl

/-! ### Names -/

/-- Letters go on with the word that has begun. -/
theorem run_letters {cs : List Char} (h : ∀ c ∈ cs, isIdentifierRest c = true) (word : String) :
    run ⟨⟨place, .verbatim word :: ts, false⟩, outer, none⟩ cs =
      some ⟨⟨place, .verbatim (word ++ String.ofList cs) :: ts, false⟩, outer, none⟩ := by
  induction cs generalizing word with
  | nil =>
    rw [String.ofList_nil, String.append_empty]
    rfl
  | cons c cs ih =>
    obtain ⟨hc, hcs⟩ := List.forall_mem_cons.mp h
    have hstep : step? ⟨⟨place, .verbatim word :: ts, false⟩, outer, none⟩ c =
        some ⟨⟨place, .verbatim (word.push c) :: ts, false⟩, outer, none⟩ := if_pos hc
    have hword : word.push c ++ String.ofList cs = word ++ String.ofList (c :: cs) := by
      simp [← String.toList_inj]
    rw [run, List.foldlM_cons, hstep, ← hword]
    exact ih hcs _

/-- A word is read as a source type. -/
theorem run_word {word : String} (h : isIdentifier word = true) :
    run ⟨⟨place, ts, true⟩, outer, none⟩ word.toList =
      some ⟨⟨place, .verbatim word :: ts, false⟩, outer, none⟩ := by
  obtain ⟨hne, hchars⟩ := Text.isIdentifier_chars h
  cases hword : word.toList with
  | nil => exact absurd hword hne
  | cons c cs =>
    rw [hword] at hchars
    obtain ⟨hc, hcs⟩ := List.forall_mem_cons.mp hchars
    have hstep : step? ⟨⟨place, ts, true⟩, outer, none⟩ c =
        some ⟨⟨place, .verbatim (String.singleton c) :: ts, false⟩, outer, none⟩ := if_pos hc
    have hwhole : String.singleton c ++ String.ofList cs = word := by
      rw [← String.toList_inj, hword]
      simp
    rw [run, List.foldlM_cons, hstep, ← hwhole]
    exact run_letters hcs _

/-- In quotes the characters of a name are read, and nothing else happens. -/
theorem run_unquoting {u u' : Unquoting} {cs : List Char}
    (h : cs.foldlM Unquoting.next? u = some u') :
    run ⟨level, outer, some u⟩ cs = some ⟨level, outer, some u'⟩ := by
  induction cs generalizing u with
  | nil =>
    cases h
    rfl
  | cons c cs ih =>
    rw [List.foldlM_cons] at h
    obtain ⟨next, hnext, h⟩ := Option.bind_eq_some_iff.mp h
    have hstep : step? ⟨level, outer, some u⟩ c = some ⟨level, outer, some next⟩ := by
      simp only [step?, hnext]
    rw [run, List.foldlM_cons, hstep]
    exact ih h

/-- A property name is read as a source type of its name, whether it is quoted or not. -/
theorem run_propertyName (name : String) :
    run ⟨⟨place, ts, true⟩, outer, none⟩ (propertyName name).toList =
      some ⟨⟨place, .verbatim name :: ts, false⟩, outer, none⟩ := by
  unfold propertyName
  split
  · next hbare => exact run_word hbare
  · rw [Text.quoted, String.toList_ofList, Text.quotedChars]
    have hinside : run ⟨⟨place, ts, true⟩, outer, some {}⟩ (name.toList.flatMap Text.escapeChar) =
        some ⟨⟨place, ts, true⟩, outer, some ⟨name.toList, .none⟩⟩ :=
      run_unquoting (Unquoting.foldlM_escaped _)
    have hclosing : run ⟨⟨place, ts, true⟩, outer, some ⟨name.toList, .none⟩⟩ ['"'] =
        some ⟨⟨place, .verbatim (String.ofList name.toList) :: ts, false⟩, outer, none⟩ := rfl
    show run ⟨⟨place, ts, true⟩, outer, some {}⟩ (name.toList.flatMap Text.escapeChar ++ ['"']) = _
    rw [run_append hinside, hclosing, String.ofList_toList]

/-! ### Expressions -/

/-- The text of an expression adds its alternatives to the union at the top. -/
def Reads (t : TypeExpr) : Prop :=
  ∀ place ts outer, run ⟨⟨place, ts, true⟩, outer, none⟩ t.render.toList =
    some ⟨⟨place, t.alternatives.reverse ++ ts, false⟩, outer, none⟩

/-- The alternatives of an expression alone are those of its flat form. -/
theorem ofLatest_alternatives (t : TypeExpr) :
    TypeExpr.ofLatest (t.alternatives.reverse ++ []) = t.flatten := by
  rw [TypeExpr.ofLatest, List.append_nil, List.reverse_reverse, TypeExpr.flatten]

/-- **Texts with separators between them** are read one by one: each of them and what follows it make
the reader go on to the state after one more value. -/
theorem run_separated {α β : Type} (reading finished : List β → TypeReader) {text : α → String}
    {value : α → β} {separator : String} {closing : List Char} {items : List α} (hne : items ≠ [])
    (hbetween : ∀ a ∈ items, ∀ before, run (reading before) ((text a).toList ++ separator.toList) =
      some (reading (before ++ [value a])))
    (hlast : ∀ a ∈ items, ∀ before, run (reading before) ((text a).toList ++ closing) =
      some (finished (before ++ [value a]))) (before : List β) :
    run (reading before) ((separator.intercalate (items.map text)).toList ++ closing) =
      some (finished (before ++ items.map value)) := by
  induction items generalizing before with
  | nil => exact absurd rfl hne
  | cons a rest ih =>
    cases rest with
    | nil =>
      rw [List.map_singleton, String.intercalate_singleton, List.map_singleton]
      exact hlast a List.mem_cons_self before
    | cons b rest =>
      rw [List.forall_mem_cons] at hbetween hlast
      rw [List.map_cons, List.map_cons, String.intercalate_cons_cons, ← List.map_cons,
        String.toList_append, String.toList_append, List.append_assoc,
        run_append (hbetween.1 before), ih (List.cons_ne_nil _ _) hbetween.2 hlast.2,
        List.append_assoc, List.singleton_append, List.map_cons (a := a)]

/-- Expressions with bars between them add all their alternatives. -/
theorem run_alternatives {alternatives : List TypeExpr} (hne : alternatives ≠ [])
    (h : ∀ t ∈ alternatives, Reads t) :
    run ⟨⟨place, ts, true⟩, outer, none⟩
        (" | ".intercalate (alternatives.map TypeExpr.render)).toList =
      some ⟨⟨place, (alternatives.flatMap TypeExpr.alternatives).reverse ++ ts, false⟩,
        outer, none⟩ := by
  let level (fresh : Bool) (before : List (List TypeExpr)) : TypeReader :=
    ⟨⟨place, before.flatten.reverse ++ ts, fresh⟩, outer, none⟩
  have hflat : ∀ (t : TypeExpr) (before : List (List TypeExpr)),
      t.alternatives.reverse ++ (before.flatten.reverse ++ ts) =
        (before ++ [t.alternatives]).flatten.reverse ++ ts := by
    intro t before
    rw [List.flatten_append, List.flatten_singleton, List.reverse_append, List.append_assoc]
  have hbetween : ∀ t ∈ alternatives, ∀ before, run (level true before)
      (t.render.toList ++ " | ".toList) = some (level true (before ++ [t.alternatives])) := by
    intro t ht before
    rw [run_append (h t ht _ _ _), hflat]
    rfl
  have hlast : ∀ t ∈ alternatives, ∀ before, run (level true before) (t.render.toList ++ []) =
      some (level false (before ++ [t.alternatives])) := by
    intro t ht before
    rw [run_append (h t ht _ _ _), hflat]
    rfl
  have hall := run_separated (level true) (level false) hne hbetween hlast []
  rw [List.append_nil, List.nil_append] at hall
  rw [List.flatMap_def]
  exact hall

/-- Expressions with commas between them are the arguments of a generic type. -/
theorem run_args {name : String} {args : List TypeExpr} (hne : args ≠ [])
    (h : ∀ t ∈ args, Reads t) :
    run ⟨⟨.argument name [], [], true⟩, level :: outer, none⟩
        ((", ".intercalate (args.map TypeExpr.render)).toList ++ ['>']) =
      some ⟨level.add (.generic name (args.map TypeExpr.flatten)), outer, none⟩ := by
  refine run_separated
    (fun before => ⟨⟨.argument name before, [], true⟩, level :: outer, none⟩)
    (fun args => ⟨level.add (.generic name args), outer, none⟩) hne ?_ ?_ []
  · intro t ht before
    rw [run_append (h t ht _ _ _), ← ofLatest_alternatives]
    rfl
  · intro t ht before
    rw [run_append (h t ht _ _ _), ← ofLatest_alternatives]
    rfl

/-- A member is read after its name. -/
theorem run_member (before : List (Member TypeExpr)) (outer : List TypeLevel)
    {m : Member TypeExpr} (h : Reads m.type) :
    run ⟨⟨.name before, [], true⟩, outer, none⟩ (renderMember m).toList =
      some ⟨⟨.member before m.name m.optional, m.type.alternatives.reverse ++ [], false⟩,
        outer, none⟩ := by
  obtain ⟨name, optional, type⟩ := m
  have hcolon : run ⟨⟨.name before, [.verbatim name], false⟩, outer, none⟩
      ((if optional then "?" else "") ++ ": ").toList =
      some ⟨⟨.member before name optional, [], true⟩, outer, none⟩ := by
    cases optional <;> rfl
  rw [renderMember, @String.append_assoc (propertyName name), String.toList_append,
    String.toList_append, List.append_assoc, run_append (run_propertyName name),
    run_append hcolon]
  exact h (.member before name optional) [] outer

/-- Members with semicolons between them are those of an object. -/
theorem run_members {members : List (Member TypeExpr)} (hne : members ≠ [])
    (h : ∀ m ∈ members, Reads m.type) :
    run ⟨⟨.name [], [], true⟩, level :: outer, none⟩
        (("; ".intercalate (members.map renderMember)).toList ++ [' ', '}']) =
      some ⟨level.add (.object (members.map TypeExpr.flattenMember)), outer, none⟩ := by
  refine run_separated (fun before => ⟨⟨.name before, [], true⟩, level :: outer, none⟩)
    (fun members => ⟨level.add (.object members), outer, none⟩) hne ?_ ?_ []
  · intro m hm before
    rw [run_append (run_member before (level :: outer) (h m hm)), TypeExpr.flattenMember_eq,
      ← ofLatest_alternatives]
    rfl
  · intro m hm before
    rw [run_append (run_member before (level :: outer) (h m hm)), TypeExpr.flattenMember_eq,
      ← ofLatest_alternatives]
    rfl

/-- **The text of a type expression adds its alternatives** to the union in whose place it is. -/
theorem reads_render {t : TypeExpr} (h : t.WellNamed) : Reads t := by
  intro place ts outer
  induction t generalizing place ts outer with
  | verbatim text =>
    rw [TypeExpr.render, TypeExpr.alternatives_verbatim]
    exact run_word (h _ .here)
  | reference name =>
    rw [TypeExpr.render, TypeExpr.alternatives_reference]
    exact run_word (h _ .here)
  | object members ih =>
    rw [TypeExpr.alternatives_object]
    cases members with
    | nil =>
      rw [TypeExpr.render]
      rfl
    | cons m ms =>
      have hopening : run ⟨⟨place, ts, true⟩, outer, none⟩ ['{', ' '] =
          some ⟨⟨.name [], [], true⟩, ⟨place, ts, true⟩ :: outer, none⟩ := rfl
      have hmembers : ∀ m' ∈ m :: ms, Reads m'.type := fun m' hm' => ih m' hm' (h.object_member hm')
      rw [TypeExpr.render, renderMembers_eq_map, String.toList_append, String.toList_append,
        List.append_assoc]
      exact (run_append hopening _).trans (run_members (List.cons_ne_nil _ _) hmembers)
  | generic name args ih =>
    obtain ⟨hname, hne⟩ := h.generic_named
    have hopening : run ⟨⟨place, .verbatim name :: ts, false⟩, outer, none⟩ ['<'] =
        some ⟨⟨.argument name [], [], true⟩, ⟨place, ts, true⟩ :: outer, none⟩ := rfl
    have hargs : ∀ t ∈ args, Reads t := fun t ht => ih t ht (h.generic_arg ht)
    rw [TypeExpr.render, TypeExpr.alternatives_generic, renderTypes_eq_map, String.toList_append,
      String.toList_append, String.toList_append, List.append_assoc, List.append_assoc,
      run_append (run_word hname)]
    exact (run_append hopening _).trans (run_args hne hargs)
  | array element ih =>
    have helement : Reads element := ih h.array_element
    rw [TypeExpr.render, TypeExpr.alternatives_array]
    by_cases hunion : element.isUnion = true
    · have hclosing : run ⟨⟨.brackets, element.alternatives.reverse ++ [], false⟩,
          ⟨place, ts, true⟩ :: outer, none⟩ [')', '[', ']'] =
          some ⟨⟨place, .array element.flatten :: ts, false⟩, outer, none⟩ := by
        rw [← ofLatest_alternatives]
        rfl
      rw [if_pos hunion, String.toList_append, String.toList_append, List.append_assoc]
      exact (run_append (helement .brackets [] (⟨place, ts, true⟩ :: outer)) _).trans hclosing
    · have hclosing : run ⟨⟨place, element.flatten :: ts, false⟩, outer, none⟩ ['[', ']'] =
          some ⟨⟨place, .array element.flatten :: ts, false⟩, outer, none⟩ := rfl
      have halone := TypeExpr.alternatives_of_not_isUnion (Bool.eq_false_iff.mpr hunion)
      have hread := helement place ts outer
      rw [halone] at hread
      rw [if_neg hunion, String.toList_append]
      exact (run_append hread _).trans hclosing
  | union alternatives ih =>
    rw [TypeExpr.render, TypeExpr.alternatives_union, renderTypes_eq_map]
    exact run_alternatives h.union_ne_nil fun t ht => ih t ht (h.union_alternative ht)

end TypeReader

/-! ### Whole texts -/

namespace TypeExpr

/-- **The text of a type expression says its flat form.** -/
theorem read?_render {t : TypeExpr} (h : t.WellNamed) : read? t.render = some t.flatten := by
  rw [read?, TypeReader.reads_render h .whole [] []]
  exact congrArg some (TypeReader.ofLatest_alternatives t)

end TypeExpr

/-- **The text of a type expression is unambiguous**: expressions of the same text have the same
flat form, in which a union of one member counts as that member.  So an array of a union never reads
like a union of two or more members of which the last one is an array: the array would be the only
member, and one of the same alternatives. -/
theorem render_unambiguous :
    (∀ a b : TypeExpr, a.WellNamed → b.WellNamed → a.render = b.render → a.flatten = b.flatten) ∧
    ∀ (us ts : List TypeExpr) (element : TypeExpr), (TypeExpr.array (.union us)).WellNamed →
      (TypeExpr.union (ts ++ [.array element])).WellNamed →
      (TypeExpr.array (.union us)).render = (TypeExpr.union (ts ++ [.array element])).render →
        ts = [] ∧ element.flatten = (TypeExpr.union us).flatten := by
  have hinj : ∀ a b : TypeExpr, a.WellNamed → b.WellNamed → a.render = b.render →
      a.flatten = b.flatten := by
    intro a b ha hb hrender
    have hread := TypeExpr.read?_render ha
    rw [hrender, TypeExpr.read?_render hb, Option.some.injEq] at hread
    exact hread.symm
  refine ⟨hinj, fun us ts element harray hunion hrender => ?_⟩
  have hflat := hinj _ _ harray hunion hrender
  have harrayFlat : (TypeExpr.array (.union us)).flatten = .array (TypeExpr.union us).flatten := by
    rw [TypeExpr.flatten, TypeExpr.alternatives_array, TypeExpr.ofAlternatives]
  rw [harrayFlat, eq_comm, TypeExpr.flatten] at hflat
  have halternatives := TypeExpr.ofAlternatives_eq_of_not_isUnion hflat rfl
  rw [TypeExpr.alternatives_union, List.flatMap_append, List.flatMap_singleton,
    TypeExpr.alternatives_array] at halternatives
  have hsplit : ts.flatMap TypeExpr.alternatives ++ [.array element.flatten] =
      [] ++ [.array (TypeExpr.union us).flatten] := halternatives
  obtain ⟨hbefore, hlast⟩ := List.append_inj' hsplit rfl
  rw [List.flatMap_eq_nil_iff] at hbefore
  refine ⟨List.eq_nil_iff_forall_not_mem.mpr fun t ht => ?_, ?_⟩
  · have hnamed := hunion.union_alternative (List.mem_append_left _ ht)
    exact hnamed.alternatives_ne_nil (hbefore t ht)
  · rwa [List.singleton_inj, TypeExpr.array.injEq] at hlast

/-- What a book or a note may be; the name of the member says more than a type. -/
def publication : TypeExpr :=
  .union [.verbatim "Book", .object [⟨"kind: \"a\" \x7d | b", true, .verbatim "string"⟩]]

/-- The same in more words. -/
def publicationInWords : TypeExpr :=
  .union [.union [.reference "Book"],
    .object [⟨"kind: \"a\" \x7d | b", true, .union [.reference "string"]⟩]]

theorem render_unambiguous_publication :
    (TypeExpr.array publication).render = (TypeExpr.union [.array publicationInWords]).render ∧
      (TypeExpr.array publication).flatten =
        (TypeExpr.union [.array publicationInWords]).flatten ∧
      publicationInWords.flatten = publication.flatten := by
  have harray : (TypeExpr.array publication).WellNamed := by
    intro part hpart
    simp [publication] at hpart
    rcases hpart with rfl | rfl | rfl | rfl | rfl
    all_goals decide +kernel
  have hwords : (TypeExpr.union [.array publicationInWords]).WellNamed := by
    intro part hpart
    simp [publicationInWords] at hpart
    rcases hpart with rfl | rfl | rfl | (rfl | rfl) | rfl | rfl | rfl
    all_goals decide +kernel
  have hrender : (TypeExpr.array publication).render =
      (TypeExpr.union [.array publicationInWords]).render := by
    simp [publication, publicationInWords, TypeExpr.render, renderTypes_eq_map,
      renderMembers_eq_map, renderMember, TypeExpr.isUnion]
  exact ⟨hrender, render_unambiguous.1 _ _ harray hwords hrender,
    (render_unambiguous.2 _ [] _ harray hwords hrender).2⟩

end EntityProjection
