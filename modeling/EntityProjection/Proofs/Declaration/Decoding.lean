import EntityProjection.Proofs.Declaration.Generation
import EntityProjection.Proofs.Text.PropertyName
import EntityProjection.Text.Blank

/-!
# Containers read back

The text of a container falls into lines, since no name and no property name has a line break in it.
A line of a member is indented deeper than the bracket that closes its declaration, and between two
declarations a line is empty.  So the text says which declarations it holds, and which members they
have.

* `assemble_eq_invalid_iff` and `assemble_eq_collision_iff`: the name that keeps declarations out of
  a container;
* `Text.trimEnd_closing` and `containerText_eq_template`: the text is that of the template;
* `renderMember_inj`, `members_inj`, `block_inj` and `blocks_inj`: what the parts of a text say;
* `assemble_accepts_determines`: what is put into a container, and what its text says.
-/

namespace EntityProjection

open Text (isIdentifier isIdentifierRest propertyName)

/-! ### Names that keep declarations out -/

section Rejected

variable {ds : List Declaration} {options : Options} {name : String}

/-- The first name that is no identifier is invalid. -/
theorem assemble_eq_invalid_iff :
    assemble ds options = .error (.invalidDeclarationName name) ↔
      ∃ before after, containerNames ds options = before ++ name :: after ∧
        (∀ other ∈ before, isIdentifier other = true) ∧ ¬isIdentifier name = true := by
  have hfound : ((containerNames ds options).find? fun name => !isIdentifier name) = some name ↔
      ∃ before after, containerNames ds options = before ++ name :: after ∧
        (∀ other ∈ before, isIdentifier other = true) ∧ ¬isIdentifier name = true := by
    rw [List.find?_eq_some_iff_append]
    simp only [Bool.not_not, Bool.not_eq_true', Bool.not_eq_true]
    constructor
    · rintro ⟨hname, before, after, hnames, hbefore⟩
      exact ⟨before, after, hnames, hbefore, hname⟩
    · rintro ⟨before, after, hnames, hbefore, hname⟩
      exact ⟨hname, before, after, hnames, hbefore⟩
  rw [← hfound, assemble]
  split
  · next first hfirst =>
    rw [hfirst, Option.some.injEq, Except.error.injEq, GenerationError.invalidDeclarationName.injEq]
  · next hnone =>
    rw [hnone]
    refine iff_of_false (fun h => ?_) (Option.some_ne_none name).symm
    split at h
    · cases h
    · cases h

/-- If all names are identifiers, the first one that is taken collides. -/
theorem assemble_eq_collision_iff :
    assemble ds options = .error (.declarationCollision name) ↔
      (∀ other ∈ containerNames ds options, isIdentifier other = true) ∧
      ∃ before after, ds.map Declaration.name = before ++ name :: after ∧
        (options.collectionType :: before).Nodup ∧ name ∈ options.collectionType :: before := by
  have htaken : firstTaken? (.ofList [options.collectionType]) (ds.map Declaration.name) =
      some name ↔ ∃ before after, ds.map Declaration.name = before ++ name :: after ∧
        (options.collectionType :: before).Nodup ∧ name ∈ options.collectionType :: before := by
    rw [firstTaken?_eq_some_iff]
    simp only [mem_singleton_set, List.nodup_cons, List.mem_cons, and_assoc]
    refine exists_congr fun before => exists_congr fun after => and_congr_right fun _ => ?_
    rw [and_left_comm]
    refine and_congr_left fun _ => ?_
    exact ⟨fun h hmem => h _ hmem rfl, fun h other ho heq => h (heq ▸ ho)⟩
  rw [← htaken, assemble]
  split
  · next first hfirst =>
    refine iff_of_false (fun h => ?_) fun h => ?_
    · cases h
    · have hinvalid := List.find?_some hfirst
      rw [h.1 first (List.mem_of_find?_eq_some hfirst)] at hinvalid
      cases hinvalid
  · next hnone =>
    simp only [List.find?_eq_none, Bool.not_eq_true', Bool.not_eq_false] at hnone
    rw [and_iff_right hnone]
    split
    · next first hfirst =>
      rw [hfirst, Option.some.injEq, Except.error.injEq, GenerationError.declarationCollision.injEq]
    · next hdistinct =>
      rw [hdistinct]
      refine iff_of_false (fun h => ?_) (Option.some_ne_none name).symm
      cases h

end Rejected

/-! ### Members -/

/-- A member with the text of its type. -/
def Member.rendered (m : Member TypeExpr) : Member String :=
  ⟨m.name, m.optional, m.type.render⟩

/-- After the name of a member there is a character that no identifier has. -/
theorem toList_renderMember (name : String) (optional : Bool) (type : TypeExpr) :
    (renderMember ⟨name, optional, type⟩).toList = (propertyName name).toList ++
      (if optional then '?' else ':') :: ((if optional then [':', ' '] else [' ']) ++
        type.render.toList) := by
  cases optional <;> simp [renderMember]

/-- **The text of a member says** its name, whether it may be absent, and the text of its type. -/
theorem renderMember_inj {m m' : Member TypeExpr} (h : renderMember m = renderMember m') :
    m.rendered = m'.rendered := by
  obtain ⟨name, optional, type⟩ := m
  obtain ⟨name', optional', type'⟩ := m'
  have hmark : ∀ optional : Bool, ¬isIdentifierRest (if optional then '?' else ':') = true := by
    decide
  rw [← String.toList_inj, toList_renderMember, toList_renderMember] at h
  obtain ⟨rfl, hrest⟩ := Text.propertyName_append_inj (hmark _) (hmark _) h
  obtain ⟨hmarks, htype⟩ := List.cons.inj hrest
  have hoptional : optional = optional' := by
    cases optional <;> cases optional' <;> first | rfl | exact absurd hmarks (by decide)
  subst hoptional
  rw [Member.rendered, Member.rendered, String.toList_inj.mp (List.append_cancel_left htype)]

/-- A member whose type stays on its line does so, too. -/
theorem not_newline_mem_renderMember {m : Member TypeExpr} (h : '\n' ∉ m.type.render.toList) :
    '\n' ∉ (renderMember m).toList := by
  obtain ⟨name, optional, type⟩ := m
  rw [toList_renderMember, List.mem_append, List.mem_cons, List.mem_append]
  rintro (hname | hmark | hmark | htype)
  · exact Text.not_newline_mem_propertyName name hname
  · cases optional <;> exact absurd hmark (by decide)
  · cases optional <;> exact absurd hmark (by decide)
  · exact h htype

/-- The indentation of the declaration, that of its members, and the member make a line. -/
theorem toList_memberLine (depth : Nat) (m : Member TypeExpr) (rest : List Char) :
    (memberLine depth m).toList ++ rest = (indentation depth).toList ++
      ([' ', ' '] ++ ((renderMember m).toList ++ [';'] ++ '\n' :: rest)) := by
  simp [memberLine, indent]

/-- The line of a member is not the one that closes the declaration. -/
theorem closing_ne_memberLine {depth : Nat} {m : Member TypeExpr} {rest rest' : List Char} :
    (indentation depth).toList ++ '}' :: rest ≠ (memberLine depth m).toList ++ rest' := by
  intro heq
  rw [toList_memberLine] at heq
  have hfirst := (List.cons.inj (List.append_cancel_left heq)).1
  exact absurd hfirst (by decide)

/-- The first line of two texts says which member it holds. -/
theorem memberLine_inj {depth : Nat} {m m' : Member TypeExpr} {rest rest' : List Char}
    (h : '\n' ∉ m.type.render.toList) (h' : '\n' ∉ m'.type.render.toList)
    (heq : (memberLine depth m).toList ++ rest = (memberLine depth m').toList ++ rest') :
    m.rendered = m'.rendered ∧ rest = rest' := by
  have hline : ∀ {m : Member TypeExpr}, '\n' ∉ m.type.render.toList →
      '\n' ∉ (renderMember m).toList ++ [';'] := by
    intro m hm
    rw [List.mem_append, not_or]
    exact ⟨not_newline_mem_renderMember hm, by decide⟩
  rw [toList_memberLine, toList_memberLine] at heq
  have hlines := List.append_cancel_left (List.append_cancel_left heq)
  obtain ⟨hmember, hrest⟩ := append_cons_inj (hline h) (hline h') hlines
  exact ⟨renderMember_inj (String.toList_inj.mp (List.append_cancel_right hmember)), hrest⟩

/-- The lines of members. -/
def memberChars (depth : Nat) (ms : List (Member TypeExpr)) : List Char :=
  ms.flatMap fun m => (memberLine depth m).toList

/-- **The lines of members say** what the members are, and where they end. -/
theorem members_inj {depth : Nat} {ms ms' : List (Member TypeExpr)} {rest rest' : List Char}
    (h : ∀ m ∈ ms, '\n' ∉ m.type.render.toList) (h' : ∀ m ∈ ms', '\n' ∉ m.type.render.toList)
    (heq : memberChars depth ms ++ ((indentation depth).toList ++ '}' :: rest) =
      memberChars depth ms' ++ ((indentation depth).toList ++ '}' :: rest')) :
    ms.map Member.rendered = ms'.map Member.rendered ∧ rest = rest' := by
  induction ms generalizing ms' with
  | nil =>
    cases ms' with
    | nil => exact ⟨rfl, (List.cons.inj (List.append_cancel_left heq)).2⟩
    | cons m' ms' =>
      rw [memberChars, memberChars, List.flatMap_nil, List.nil_append, List.flatMap_cons,
        List.append_assoc] at heq
      exact absurd heq closing_ne_memberLine
  | cons m ms ih =>
    cases ms' with
    | nil =>
      rw [memberChars, memberChars, List.flatMap_nil, List.nil_append, List.flatMap_cons,
        List.append_assoc] at heq
      exact absurd heq.symm closing_ne_memberLine
    | cons m' ms' =>
      rw [List.forall_mem_cons] at h h'
      rw [memberChars, memberChars, List.flatMap_cons, List.flatMap_cons, List.append_assoc,
        List.append_assoc] at heq
      obtain ⟨hm, htexts⟩ := memberLine_inj h.1 h'.1 heq
      obtain ⟨hms, hrest⟩ := ih h.2 h'.2 htexts
      exact ⟨by rw [List.map_cons, List.map_cons, hm, hms], hrest⟩

/-! ### Declarations -/

/-- What the text of a declaration says: its name, and its members with the texts of their types. -/
def Declaration.outline (d : Declaration) : String × List (Member String) :=
  (d.name, d.members.map Member.rendered)

/-- All types of a declaration stay on their lines. -/
def Declaration.OnLines (d : Declaration) : Prop :=
  ∀ m ∈ d.members, '\n' ∉ m.type.render.toList

theorem toList_block (depth : Nat) (d : Declaration) (rest : List Char) :
    (d.block depth).toList ++ rest = (indentation depth).toList ++ ("export interface ".toList ++
      (d.name.toList ++ ' ' :: (['{', '\n'] ++ (memberChars depth d.members ++
        ((indentation depth).toList ++ '}' :: rest))))) := by
  simp [Declaration.block, memberChars, List.flatMap_map]

/-- **The text of a declaration says** its name and its members, and where it ends. -/
theorem block_inj {depth : Nat} {d d' : Declaration} {rest rest' : List Char}
    (hname : isIdentifier d.name = true) (hname' : isIdentifier d'.name = true) (h : d.OnLines)
    (h' : d'.OnLines)
    (heq : (d.block depth).toList ++ rest = (d'.block depth).toList ++ rest') :
    d.outline = d'.outline ∧ rest = rest' := by
  have hspace : ∀ {name : String}, isIdentifier name = true → ' ' ∉ name.toList :=
    fun hname hmem => absurd ((Text.isIdentifier_chars hname).2 _ hmem) (by decide)
  rw [toList_block, toList_block] at heq
  obtain ⟨hnames, hbodies⟩ := append_cons_inj (hspace hname) (hspace hname')
    (List.append_cancel_left (List.append_cancel_left heq))
  obtain ⟨hmembers, hrest⟩ := members_inj h h' (List.append_cancel_left hbodies)
  rw [Declaration.outline, Declaration.outline, String.toList_inj.mp hnames, hmembers]
  exact ⟨rfl, hrest⟩

/-- The declarations of a container after its collection, each of them after an empty line. -/
def blockChars (depth : Nat) (ds : List Declaration) : List Char :=
  ds.flatMap fun d => ['\n', '\n'] ++ (d.block depth).toList

/-- **The text of declarations says** which they are, up to the bracket that closes the container. -/
theorem blocks_inj {depth : Nat} {ds ds' : List Declaration} {rest : List Char}
    (hnames : ∀ d ∈ ds, isIdentifier d.name = true) (hnames' : ∀ d ∈ ds', isIdentifier d.name = true)
    (h : ∀ d ∈ ds, d.OnLines) (h' : ∀ d ∈ ds', d.OnLines)
    (heq : blockChars depth ds ++ '\n' :: '}' :: rest = blockChars depth ds' ++ '\n' :: '}' :: rest) :
    ds.map Declaration.outline = ds'.map Declaration.outline := by
  induction ds generalizing ds' with
  | nil =>
    cases ds' with
    | nil => rfl
    | cons d' ds' =>
      have hsecond := (List.cons.inj (List.cons.inj heq).2).1
      exact absurd hsecond (by decide)
  | cons d ds ih =>
    cases ds' with
    | nil =>
      have hsecond := (List.cons.inj (List.cons.inj heq).2).1
      exact absurd hsecond (by decide)
    | cons d' ds' =>
      rw [List.forall_mem_cons] at hnames hnames' h h'
      simp only [blockChars, List.flatMap_cons, List.append_assoc] at heq
      obtain ⟨hd, htexts⟩ := block_inj hnames.1 hnames'.1 h.1 h'.1 (List.append_cancel_left heq)
      rw [List.map_cons, List.map_cons, hd, ih hnames.2 hnames'.2 h.2 h'.2 htexts]

/-! ### Containers -/

/-- What the template begins with: the name of the container and the text of the collection. -/
def templateOpening (container collection : String) : String :=
  "// Generated by entity-typegen. Do not edit.\nexport namespace " ++ container ++ " \x7b\n" ++
    collection

/-- The text that the template gives, in which an empty line is before each block. -/
def templateText (container collection : String) (blocks : List String) : String :=
  templateOpening container collection ++ String.join (blocks.map fun block => "\n\n" ++ block) ++
    "\n\x7d"

theorem containerText_eq (ds : List Declaration) (options : Options) :
    containerText ds options =
      templateOpening options.container (collectionBlock 1 options.collectionType) ++
        String.join (ds.map fun d => "\n\n" ++ d.block 1) ++ "\n\x7d\n" :=
  rfl

theorem toList_containerText (ds : List Declaration) (options : Options) :
    (containerText ds options).toList =
      (templateOpening options.container (collectionBlock 1 options.collectionType)).toList ++
        (blockChars 1 ds ++ '\n' :: '}' :: ['\n']) := by
  have hblocks : (String.join (ds.map fun d => "\n\n" ++ d.block 1)).toList = blockChars 1 ds := by
    simp [blockChars, List.flatMap_map]
  have hclosing : "\n\x7d\n".toList = ['\n', '}', '\n'] := by decide
  rw [containerText_eq, String.toList_append, String.toList_append, hblocks, hclosing,
    List.append_assoc]

namespace Text

/-- Only the blanks after the last character that is none are dropped. -/
theorem dropBlankEnd_append {cs blanks : List Char} {c : Char} (hc : ¬isBlank c = true)
    (hblanks : ∀ b ∈ blanks, isBlank b = true) :
    dropBlankEnd (cs ++ c :: blanks) = cs ++ [c] := by
  rw [dropBlankEnd, List.reverse_append, List.reverse_cons, List.append_assoc,
    List.dropWhile_append_of_pos fun b hb => hblanks b (List.mem_reverse.mp hb),
    List.singleton_append, List.dropWhile_cons_of_neg hc, List.reverse_cons, List.reverse_reverse]

/-- A text that ends with a closing bracket loses the blanks after it. -/
theorem trimEnd_closing (s : String) {blanks : String}
    (hblanks : blanks.toList.all isBlank = true) :
    trimEnd (s ++ "\x7d" ++ blanks) = s ++ "\x7d" := by
  have hclosing : ¬isBlank '}' = true := by decide
  have hchars : (s ++ "\x7d" ++ blanks).toList = s.toList ++ '}' :: blanks.toList := by simp
  rw [trimEnd, hchars, dropBlankEnd_append hclosing (List.all_eq_true.mp hblanks),
    ← String.toList_inj, String.toList_ofList]
  simp

end Text

/-- **The text of a container is that of the template** for the declarations, each without the blanks
at its end, and one line break. -/
theorem containerText_eq_template (ds : List Declaration) (options : Options) :
    containerText ds options =
      Text.trimEnd (templateText options.container
        (Text.trimEnd (renderCollection 1 options.collectionType))
        (ds.map fun d => Text.trimEnd (d.render 1))) ++ "\n" := by
  have hnewline : "\n".toList.all Text.isBlank = true := by decide
  have hnothing : "".toList.all Text.isBlank = true := by decide
  have hcollection : Text.trimEnd (renderCollection 1 options.collectionType) =
      collectionBlock 1 options.collectionType := Text.trimEnd_closing _ hnewline
  have hblock : ∀ d : Declaration, Text.trimEnd (d.render 1) = d.block 1 :=
    fun d => Text.trimEnd_closing _ hnewline
  have hjoined : (ds.map fun d => d.block 1).map (fun block => "\n\n" ++ block) =
      ds.map fun d => "\n\n" ++ d.block 1 := List.map_map
  have hclosing : "\n\x7d" = "\n" ++ "\x7d" ++ "" := by decide
  have hend : "\n\x7d\n" = "\n" ++ "\x7d" ++ "\n" := by decide
  rw [hcollection, List.map_congr_left fun d _ => hblock d, templateText, hjoined, hclosing,
    ← String.append_assoc, ← String.append_assoc, Text.trimEnd_closing _ hnothing,
    containerText_eq, hend, ← String.append_assoc, ← String.append_assoc]

/-- **The text of a container says** which declarations it holds and which members they have. -/
theorem outlines_eq_of_assemble {ds ds' : List Declaration} {options : Options} {text : String}
    (h : ∀ d ∈ ds, d.OnLines) (h' : ∀ d ∈ ds', d.OnLines)
    (htext : assemble ds options = .ok text) (htext' : assemble ds' options = .ok text) :
    ds.map Declaration.outline = ds'.map Declaration.outline := by
  obtain ⟨hnames, -, rfl⟩ := assemble_eq_ok.mp htext
  obtain ⟨hnames', -, heq⟩ := assemble_eq_ok.mp htext'
  have hidentifiers : ∀ {ds : List Declaration},
      (∀ name ∈ containerNames ds options, isIdentifier name = true) →
        ∀ d ∈ ds, isIdentifier d.name = true := by
    intro ds hnames d hd
    refine hnames d.name (List.mem_cons_of_mem _ (List.mem_cons_of_mem _ ?_))
    exact List.mem_map_of_mem hd
  rw [← String.toList_inj, toList_containerText, toList_containerText] at heq
  exact blocks_inj (hidentifiers hnames) (hidentifiers hnames') h h'
    (List.append_cancel_left heq).symm

/-- **Just the declarations with distinct identifiers for names are put into a container, and its
text determines them.**  Others are kept out by the first name that is no identifier or, if there is
none, by the first one that is the name of the collection or of a declaration before it.  The text is
that of the template. -/
theorem assemble_accepts_determines :
    (∀ (ds : List Declaration) (options : Options),
      ((∃ text, assemble ds options = .ok text) ↔
        (∀ name ∈ containerNames ds options, isIdentifier name = true) ∧
          (options.collectionType :: ds.map Declaration.name).Nodup) ∧
      (∀ err, assemble ds options = .error err →
        ∃ name, err = .invalidDeclarationName name ∨ err = .declarationCollision name) ∧
      (∀ name, assemble ds options = .error (.invalidDeclarationName name) ↔
        ∃ before after, containerNames ds options = before ++ name :: after ∧
          (∀ other ∈ before, isIdentifier other = true) ∧ ¬isIdentifier name = true) ∧
      (∀ name, assemble ds options = .error (.declarationCollision name) ↔
        (∀ other ∈ containerNames ds options, isIdentifier other = true) ∧
        ∃ before after, ds.map Declaration.name = before ++ name :: after ∧
          (options.collectionType :: before).Nodup ∧ name ∈ options.collectionType :: before) ∧
      ∀ text, assemble ds options = .ok text →
        text = Text.trimEnd (templateText options.container
          (Text.trimEnd (renderCollection 1 options.collectionType))
          (ds.map fun d => Text.trimEnd (d.render 1))) ++ "\n") ∧
    ∀ (ds ds' : List Declaration) (options : Options) (text : String),
      (∀ d ∈ ds, d.OnLines) → (∀ d ∈ ds', d.OnLines) →
      assemble ds options = .ok text → assemble ds' options = .ok text →
        ds.map Declaration.outline = ds'.map Declaration.outline := by
  refine ⟨fun ds options => ⟨?_, ?_, fun name => assemble_eq_invalid_iff,
    fun name => assemble_eq_collision_iff, ?_⟩, fun ds ds' options text => outlines_eq_of_assemble⟩
  · simp only [assemble_eq_ok, exists_and_left, exists_eq', and_true]
  · intro err herr
    obtain ⟨name, -, rfl⟩ | ⟨name, -, rfl⟩ := assemble_eq_error herr
    · exact ⟨name, .inl rfl⟩
    · exact ⟨name, .inr rfl⟩
  · intro text htext
    rw [← containerText_eq_template]
    exact (assemble_eq_ok.mp htext).2.2.symm

/-- A note with a member of an odd name. -/
def note : Declaration where
  name := "Note"
  entity := "Note"
  kind := .main
  members := [⟨"id", false, .verbatim "string"⟩, ⟨"a: b;\n  \x7d", true, .reference "Tag"⟩]

/-- The same text for another entity. -/
def memo : Declaration where
  name := "Note"
  entity := "Memo"
  kind := .companion
  members := [⟨"id", false, .verbatim "string"⟩, ⟨"a: b;\n  \x7d", true, .verbatim "Tag"⟩]

theorem assemble_accepts_determines_note :
    containerText [note] (.ofTarget .zod) = containerText [memo] (.ofTarget .zod) ∧
      [note].map Declaration.outline = [memo].map Declaration.outline := by
  have hlines : ∀ d ∈ [note], d.OnLines := by
    simp [note, Declaration.OnLines, TypeExpr.render]
  have hlines' : ∀ d ∈ [memo], d.OnLines := by
    simp [memo, Declaration.OnLines, TypeExpr.render]
  have htext : containerText [note] (.ofTarget .zod) = containerText [memo] (.ofTarget .zod) := by
    have hblock : note.block 1 = memo.block 1 := by
      simp only [Declaration.block, note, memo, List.map_cons, List.map_nil, memberLine,
        renderMember, TypeExpr.render]
    rw [containerText_eq, containerText_eq, List.map_singleton, List.map_singleton, hblock]
  have hnote : assemble [note] (.ofTarget .zod) = .ok (containerText [note] (.ofTarget .zod)) :=
    assemble_eq_ok.mpr ⟨by decide +kernel, by decide, rfl⟩
  have hmemo : assemble [memo] (.ofTarget .zod) = .ok (containerText [note] (.ofTarget .zod)) :=
    assemble_eq_ok.mpr ⟨by decide +kernel, by decide, htext.symm⟩
  exact ⟨htext, assemble_accepts_determines.2 _ _ _ _ hlines hlines' hnote hmemo⟩

end EntityProjection
