import EntityProjection.Text.Alphanumeric
import EntityProjection.Text.Blank
import EntityProjection.Text.CodePoint

/-!
# Patterns

A field of a directive may be asked for by a pattern that its value has to match, a regular
expression.  The fields that are logged are numbers and never match one, so that all that matters of
a pattern is whether it is well-formed.  It is read for an automaton, which knows no look-around, no
references to groups and no boundaries of words other than of ASCII words, and it matches texts, so
that a set of bytes beyond ASCII is no part of one.  A brace always opens a count that is not closed,
because braces close the directive's field.

* `Pattern.isWellFormed`: whether a text is a pattern.
-/

namespace EntityProjection.Pattern

/-! ### Modes -/

/-- How the parts of a pattern are read, which flags change for the rest of a group. -/
structure Mode where
  /-- Sets hold characters of all kinds, and not bytes. -/
  unicode : Bool := true
  /-- Blanks and comments stand between the parts. -/
  spaced : Bool := false
  deriving DecidableEq, Repr, Inhabited

/-- The text behind blanks and comments, inside a comment where the flag is true. -/
def skipGap : Bool → List Char → List Char
  | _, [] => []
  | true, c :: cs => skipGap (c != '\n') cs
  | false, c :: cs =>
    if c == '#' then skipGap true cs
    else if Text.isBlank c then skipGap false cs
    else c :: cs

/-- The text at the next part. -/
def Mode.skip (m : Mode) (cs : List Char) : List Char :=
  if m.spaced then skipGap false cs else cs

/-- What flags say about one of them: those behind a minus are off. -/
def flag? (flags : List Char) (flag : Char) : Option Bool :=
  if flags.contains flag then some (!(flags.takeWhile (· != flag)).contains '-') else none

/-- The mode under more flags. -/
def Mode.under (m : Mode) (flags : List Char) : Mode where
  unicode := (flag? flags 'u').getD m.unicode
  spaced := (flag? flags 'x').getD m.spaced

/-- Flags, each once, and perhaps a minus with some behind it. -/
def areFlags (flags : List Char) : Bool :=
  flags.all (fun c => "imsUuRx-".contains c) && flags.eraseDups == flags && flags.getLast? != some '-'

/-! ### Atoms -/

/-- What a character, or a few behind a backslash, stand for. -/
inductive Atom where
  | literal (c : Char)
  /-- Any character of a set. -/
  | ofSet
  /-- A place between characters. -/
  | place
  deriving DecidableEq, Repr, Inhabited

/-- The control character that a letter behind a backslash stands for. -/
def controlOf? : Char → Option Char
  | 'a' => some '\x07'
  | 'f' => some '\x0c'
  | 't' => some '\t'
  | 'n' => some '\n'
  | 'r' => some '\r'
  | 'v' => some '\x0b'
  | _ => none

/-- The number of hexadecimal digits behind a letter that announces a code point. -/
def digitCount? : Char → Option Nat
  | 'x' => some 2
  | 'u' => some 4
  | 'U' => some 8
  | _ => none

/-- The number that so many hexadecimal digits write after those read already, and the text at the
next part. -/
def readDigits? (m : Mode) : Nat → Nat → List Char → Option (Nat × List Char)
  | 0, value, cs => some (value, cs)
  | _ + 1, _, [] => none
  | n + 1, value, c :: cs =>
    match Text.hexDigit? c with
    | none => none
    | some digit => readDigits? m n (value * 16 + digit) (m.skip cs)

/-- The atom behind a backslash, and the text after it. -/
def readEscape? (m : Mode) : List Char → Option (Atom × List Char)
  | [] => none
  | c :: cs =>
    match digitCount? c, controlOf? c with
    | some count, _ => do
      let (value, cs) ← readDigits? m count 0 (m.skip cs)
      if c == 'x' && !m.unicode && 0x7F < value then none
      else return (.literal (← Text.charOf? value), cs)
    | none, some control => some (.literal control, cs)
    | none, none =>
      if "dsw".contains c || (m.unicode && "DSW".contains c) then some (.ofSet, cs)
      else if "pP".contains c then
        match m.skip cs with
        | [] => none
        | category :: cs =>
          if m.unicode && "clmnpszCLMNPSZ".contains category then some (.ofSet, m.skip cs) else none
      else if "Az".contains c || (!m.unicode && "bB<>".contains c) then some (.place, cs)
      else if c.isAlphanum || c == '<' || c == '>' || 0x80 ≤ c.toNat then none
      else some (.literal c, cs)

/-! ### Sets -/

/-- The names of sets of ASCII characters. -/
def setNames : List String :=
  ["alnum", "alpha", "ascii", "blank", "cntrl", "digit", "graph", "lower", "print", "punct",
    "space", "upper", "word", "xdigit"]

/-- Whether the named set behind a bracket stands for all but its characters, and the text after
it. -/
def readNamedSet? (cs : List Char) : Option (Bool × List Char) :=
  match cs with
  | ':' :: cs =>
    let inverse := cs.head? == some '^'
    match (cs.drop (if inverse then 1 else 0)).span (· != ':') with
    | (name, ':' :: ']' :: cs) =>
      if setNames.contains (String.ofList name) then some (inverse, cs) else none
    | _ => none
  | _ => none

/-- A member of a set, and the text at the next part. -/
def readMember? (m : Mode) (cs : List Char) : Option (Atom × List Char) := do
  let (atom, cs) ← match cs with
    | [] => none
    | '\\' :: cs => readEscape? m cs
    | c :: cs => some (Atom.literal c, cs)
  match atom with
  | .place => none
  | .literal c => if !m.unicode && 0x80 ≤ c.toNat then none else return (atom, m.skip cs)
  | .ofSet => return (atom, m.skip cs)

/-- The text after a member of a set, or after a range from one member to another. -/
def skipRange? (m : Mode) (cs : List Char) : Option (List Char) := do
  let (first, cs) ← readMember? m cs
  match cs with
  | '-' :: rest =>
    let rest := m.skip rest
    if rest.head? == some ']' || rest.head? == some '-' then return cs
    else
      match first, ← readMember? m rest with
      | .literal a, (.literal b, rest) => if a ≤ b then return rest else none
      | _, _ => none
  | cs => return cs

/-- The text behind the dashes that a set begins with. -/
def skipDashes (m : Mode) : Nat → List Char → List Char
  | 0, cs => cs
  | n + 1, cs =>
    match cs with
    | '-' :: rest => skipDashes m n (m.skip rest)
    | cs => cs

/-- The text behind what only the first place of a set can hold: the mark of an inverse set, dashes,
and a closing bracket that is a member. -/
def skipSetStart? (m : Mode) (cs : List Char) : Option (List Char) :=
  let cs := m.skip cs
  let inverse := cs.head? == some '^'
  if inverse && !m.unicode then none
  else
    let cs := if inverse then m.skip (cs.drop 1) else cs
    match skipDashes m cs.length cs with
    | ']' :: rest => some (if cs.head? == some '-' then ']' :: rest else m.skip rest)
    | rest => some rest

/-- The text behind so many open sets.  The first number bounds the steps. -/
def skipSets? (m : Mode) : Nat → Nat → List Char → Option (List Char)
  | 0, _, _ => none
  | _ + 1, 0, cs => some cs
  | n + 1, depth + 1, cs =>
    match m.skip cs with
    | [] => none
    | ']' :: rest => skipSets? m n depth rest
    | '[' :: rest =>
      match readNamedSet? rest with
      | some (inverse, rest) =>
        if inverse && !m.unicode then none else skipSets? m n (depth + 1) rest
      | none =>
        match skipSetStart? m rest with
        | none => none
        | some rest => skipSets? m n (depth + 2) rest
    | '&' :: '&' :: rest => skipSets? m n (depth + 1) rest
    | '-' :: '-' :: rest => skipSets? m n (depth + 1) rest
    | '~' :: '~' :: rest => skipSets? m n (depth + 1) rest
    | cs =>
      match skipRange? m cs with
      | none => none
      | some rest => skipSets? m n (depth + 1) rest

/-- The text after the set behind an opening bracket. -/
def skipSet? (m : Mode) (cs : List Char) : Option (List Char) :=
  (skipSetStart? m cs).bind (skipSets? m (cs.length + 2) 1)

/-! ### Groups -/

/-- What is known at some place of a pattern. -/
structure State where
  mode : Mode := {}
  /-- The modes around the open groups, innermost first. -/
  outer : List Mode := []
  /-- The names of groups. -/
  names : List String := []
  /-- Whether something stands before that can be repeated. -/
  repeatable : Bool := false
  deriving Inhabited

/-- The state at the start of a group. -/
def State.enter (s : State) (mode : Mode) : State :=
  { s with mode, outer := s.mode :: s.outer, repeatable := false }

/-- The name of a group. -/
def isGroupName : List Char → Bool
  | [] => false
  | c :: cs =>
    (c == '_' || Text.isAlphabetic c) &&
      cs.all fun c => "_.[]".contains c || Text.isAlphanumeric c

/-- The state and the text behind the name of a group. -/
def State.enterNamed? (s : State) (cs : List Char) : Option (State × List Char) :=
  match cs.span (· != '>') with
  | (name, '>' :: rest) =>
    let text := String.ofList name
    if isGroupName name && !s.names.contains text then
      some ({ s with names := text :: s.names }.enter s.mode, rest)
    else none
  | _ => none

/-- The state and the text behind an opening parenthesis and what belongs to it.  Flags without a
group hold for the rest of the group around them. -/
def State.readOpening? (s : State) (cs : List Char) : Option (State × List Char) :=
  match s.mode.skip cs with
  | '?' :: 'P' :: '<' :: rest => s.enterNamed? rest
  | '?' :: '<' :: rest => s.enterNamed? rest
  | '?' :: rest =>
    match rest.span fun c => c != ':' && c != ')' with
    | (flags, ':' :: rest) =>
      if areFlags flags then some (s.enter (s.mode.under flags), rest) else none
    | (flags, ')' :: rest) =>
      if areFlags flags && !flags.isEmpty then
        some ({ s with mode := s.mode.under flags, repeatable := false }, rest)
      else none
    | _ => none
  | rest => some (s.enter s.mode, rest)

/-- Whether the rest of a pattern is well-formed.  The first number bounds the steps. -/
def endsWell : Nat → State → List Char → Bool
  | 0, _, _ => false
  | n + 1, s, cs =>
    match s.mode.skip cs with
    | [] => s.outer.isEmpty
    | '(' :: rest =>
      match s.readOpening? rest with
      | none => false
      | some (s, rest) => endsWell n s rest
    | ')' :: rest =>
      match s.outer with
      | [] => false
      | mode :: outer => endsWell n { s with mode, outer, repeatable := true } rest
    | '|' :: rest => endsWell n { s with repeatable := false } rest
    | '[' :: rest =>
      match skipSet? s.mode rest with
      | none => false
      | some rest => endsWell n { s with repeatable := true } rest
    | '\\' :: rest =>
      match readEscape? s.mode rest with
      | none => false
      | some (_, rest) => endsWell n { s with repeatable := true } rest
    | c :: rest =>
      if c == '?' || c == '*' || c == '+' then
        s.repeatable && endsWell n s (if rest.head? == some '?' then rest.drop 1 else rest)
      else if c == '\x7b' || (c == '.' && !s.mode.unicode) then false
      else endsWell n { s with repeatable := true } rest

/-- Whether a text is a pattern. -/
def isWellFormed (cs : List Char) : Bool :=
  endsWell (cs.length + 1) {} cs

end EntityProjection.Pattern
