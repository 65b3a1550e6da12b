import EntityProjection.Text.CodePoint
import EntityProjection.Yaml.Cursor
import EntityProjection.Yaml.Token

/-!
# Scalars of a YAML text

The three ways to write a scalar: plain, between quotes, and as a block under an indicator.  The
first two run over several lines by folding: a single line break between two stretches of text is a
space, and of several breaks the first is dropped.  A block keeps its line breaks, or folds those
between lines that start with text.

Every reader answers with the text and the cursor after the scalar, or with nothing if the scalar is
ill-formed.
-/

namespace EntityProjection.Yaml

/-! ### Gaps -/

/-- The spaces and line breaks between two stretches of a scalar. -/
structure Gap where
  /-- The spaces and tabs, while no line break has come. -/
  spaces : List Char := []
  /-- The first line break. -/
  first : List Char := []
  /-- The line breaks after the first. -/
  others : List Char := []
  /-- Whether the text runs on in another line. -/
  broken : Bool := false
  deriving Inhabited

/-- What the line breaks of a gap stand for. -/
def fold (first others : List Char) : List Char :=
  if first.head? == some '\n' then (if others.isEmpty then [' '] else others)
  else first ++ others

/-- What a gap stands for. -/
def Gap.text (g : Gap) : List Char :=
  if g.broken then fold g.first g.others else g.spaces

/-- The gap from here on, continuing one on its way.  Where a column is given, a tab before it in a
new line is refused.  The first argument bounds the number of characters. -/
def readGap (before? : Option Nat) : Nat → Gap → Cursor → Option (Gap × Cursor)
  | 0, g, c => some (g, c)
  | n + 1, g, c =>
    match c.peek? 0 with
    | none => some (g, c)
    | some char =>
      if isTabOrSpace char then
        if g.broken && char == '\t' && before?.any (c.column < ·) then none
        else
          let g := if g.broken then g else { g with spaces := g.spaces ++ [char] }
          readGap before? n g (c.skip 1)
      else if isBreak char then
        let (text, next) := c.readBreak
        let g := if g.broken then { g with others := g.others ++ text }
          else { g with spaces := [], first := text, broken := true }
        readGap before? n g next
      else some (g, c)

/-! ### Plain scalars -/

/-- A character that ends a plain scalar inside a flow collection. -/
def isFlowIndicator (c : Char) : Bool :=
  c == ',' || c == '[' || c == ']' || c == '\x7b' || c == '\x7d'

/-- The stretch of a plain scalar from here on, in reverse before what was read already. -/
def readPlainStretch (inFlow : Bool) : Nat → List Char → Cursor → Option (List Char × Cursor)
  | 0, text, c => some (text, c)
  | n + 1, text, c =>
    match c.peek? 0 with
    | none => some (text, c)
    | some char =>
      if c.gapAt 0 then some (text, c)
      else if char == ':' && inFlow &&
          (c.peek? 1).any (fun next => isFlowIndicator next || next == '?') then none
      else if (char == ':' && c.gapAt 1) || (inFlow && isFlowIndicator char) then some (text, c)
      else readPlainStretch inFlow n (char :: text) (c.skip 1)

/-- A plain scalar from here on: its text in reverse, whether it ended in a new line, and the cursor
after it.  In block context it ends where a line starts before the given column. -/
def readPlain (inFlow : Bool) (indent : Nat) : Nat → List Char → Gap → Cursor →
    Option (List Char × Bool × Cursor)
  | 0, text, g, c => some (text, g.broken, c)
  | n + 1, text, g, c =>
    if c.atMarker || c.isAt 0 '#' then some (text, g.broken, c)
    else
      match readPlainStretch inFlow (c.left + 1) [] c with
      | none => none
      | some (stretch, next) =>
        let (text, g) := if stretch.isEmpty then (text, g)
          else (stretch ++ g.text.reverse ++ text, {})
        if next.gapAt 0 && !next.atEnd then
          match readGap (some indent) (next.left + 1) g next with
          | none => none
          | some (g, next) =>
            if !inFlow && next.column < indent then some (text, g.broken, next)
            else readPlain inFlow indent n text g next
        else some (text, g.broken, next)

/-- The plain scalar that begins here. -/
def plainScalar? (inFlow : Bool) (indent : Nat) (c : Cursor) : Option (String × Bool × Cursor) := do
  let (text, broken, c) ← readPlain inFlow indent (c.left + 1) [] {} c
  return (String.ofList text.reverse, broken, c)

/-! ### Quoted scalars -/

/-- The character that a letter after a backslash stands for. -/
def escapeOf? : Char → Option Char
  | '0' => some '\x00'
  | 'a' => some '\x07'
  | 'b' => some '\x08'
  | 't' => some '\t'
  | '\t' => some '\t'
  | 'n' => some '\n'
  | 'v' => some '\x0b'
  | 'f' => some '\x0c'
  | 'r' => some '\r'
  | 'e' => some '\x1b'
  | ' ' => some ' '
  | '"' => some '"'
  | '/' => some '/'
  | '\\' => some '\\'
  | 'N' => some '\u0085'
  | '_' => some '\u00a0'
  | 'L' => some '\u2028'
  | 'P' => some '\u2029'
  | _ => none

/-- The number of hexadecimal digits after a letter that announces a code point. -/
def escapeWidth? : Char → Option Nat
  | 'x' => some 2
  | 'u' => some 4
  | 'U' => some 8
  | _ => none

/-- The escaped character after the backslash here, and the cursor after it. -/
def readEscape? (c : Cursor) : Option (Char × Cursor) := do
  let letter ← c.peek? 1
  match escapeWidth? letter with
  | some width =>
    let (escaped, _) ← Text.charOfDigits? width (c.rest.drop 2)
    return (escaped, c.skip (2 + width))
  | none => return (← escapeOf? letter, c.skip 2)

/-- The stretch of a quoted scalar from here on, in reverse before what was read already, and
whether it ended with an escaped line break. -/
def readQuotedStretch (single : Bool) : Nat → List Char → Cursor →
    Option (List Char × Bool × Cursor)
  | 0, text, c => some (text, false, c)
  | n + 1, text, c =>
    match c.peek? 0 with
    | none => some (text, false, c)
    | some char =>
      if c.gapAt 0 then some (text, false, c)
      else if single then
        if char == '\'' then
          if c.isAt 1 '\'' then readQuotedStretch single n ('\'' :: text) (c.skip 2)
          else some (text, false, c)
        else readQuotedStretch single n (char :: text) (c.skip 1)
      else if char == '"' then some (text, false, c)
      else if char == '\\' then
        if c.breakAt 1 then some (text, true, (c.skip 1).skipBreak)
        else
          match readEscape? c with
          | none => none
          | some (escaped, next) => readQuotedStretch single n (escaped :: text) next
      else readQuotedStretch single n (char :: text) (c.skip 1)

/-- A quoted scalar from here on, after its opening quote: its text in reverse and the cursor after
its closing quote. -/
def readQuoted (single : Bool) : Nat → List Char → Cursor → Option (List Char × Cursor)
  | 0, _, _ => none
  | n + 1, text, c =>
    if c.atMarker || c.atEnd then none
    else
      match readQuotedStretch single (c.left + 1) text c with
      | none => none
      | some (text, broken, next) =>
        if !broken && next.isAt 0 (if single then '\'' else '"') then some (text, next.skip 1)
        else
          match readGap none (next.left + 1) { broken } next with
          | none => none
          | some (g, next) => readQuoted single n (g.text.reverse ++ text) next

/-- The quoted scalar that begins here. -/
def quotedScalar? (single : Bool) (c : Cursor) : Option (String × Cursor) := do
  let (text, c) ← readQuoted single (c.left + 1) [] (c.skip 1)
  return (String.ofList text.reverse, c)

/-! ### Block scalars -/

/-- What becomes of the line breaks at the end of a block. -/
inductive Chomping where
  | strip
  | clip
  | keep
  deriving DecidableEq, Repr, Inhabited

/-- The chomping that an indicator asks for. -/
def Chomping.ofChar? : Char → Option Chomping
  | '-' => some .strip
  | '+' => some .keep
  | _ => none

/-- The chomping indicator here, if there is one, and the cursor after it. -/
def readChomping (c : Cursor) : Option Chomping × Cursor :=
  match (c.peek? 0).bind Chomping.ofChar? with
  | some chomping => (some chomping, c.skip 1)
  | none => (none, c)

/-- The indentation indicator here, if there is one, and the cursor after it; a zero is refused. -/
def readIncrement? (c : Cursor) : Option (Nat × Cursor) :=
  match c.peek? 0 with
  | none => some (0, c)
  | some char =>
    if char == '0' then none
    else if char.isDigit then some (char.toNat - 48, c.skip 1)
    else some (0, c)

/-- The indicators of a block in either order: chomping and indentation, zero for none. -/
def readBlockHeader? (c : Cursor) : Option (Chomping × Nat × Cursor) := do
  match readChomping c with
  | (some chomping, c) =>
    let (increment, c) ← readIncrement? c
    return (chomping, increment, c)
  | (none, c) =>
    let (increment, c) ← readIncrement? c
    if increment == 0 then return (.clip, 0, c)
    let (chomping, c) := readChomping c
    return (chomping.getD .clip, increment, c)

/-- The empty lines from here on: their breaks, the deepest indentation seen, and the cursor at the
first line that is not empty, behind its indentation.  An indentation of zero is not known yet. -/
def readEmptyLines (indent : Nat) : Nat → List Char → Nat → Cursor →
    Option (List Char × Nat × Cursor)
  | 0, breaks, deepest, c => some (breaks, deepest, c)
  | n + 1, breaks, deepest, c =>
    let spaces := c.rest.takeWhile (· == ' ')
    let c := c.skip (if indent == 0 then spaces.length else min spaces.length (indent - c.column))
    let deepest := max deepest c.column
    if (indent == 0 || c.column < indent) && c.isAt 0 '\t' then none
    else if c.breakAt 0 then
      let (text, next) := c.readBreak
      readEmptyLines indent n (breaks ++ text) deepest next
    else some (breaks, deepest, c)

/-- The lines of a block from here on.  What was read stands in reverse; the break of the last line
and those of the empty lines after it are still open. -/
def readBlockLines (literal : Bool) (indent : Nat) : Nat → List Char → List Char → List Char →
    Bool → Cursor → Option (List Char × List Char × List Char × Cursor)
  | 0, text, last, empties, _, c => some (text, last, empties, c)
  | n + 1, text, last, empties, afterIndented, c =>
    if c.column != indent || c.atEnd then some (text, last, empties, c)
    else
      let indented := c.tabOrSpaceAt 0
      let joint :=
        if !literal && last.head? == some '\n' && !afterIndented && !indented then
          if empties.isEmpty then [' '] else empties
        else last ++ empties
      let (line, next) := c.takeWhile fun char => !isBreak char
      let (last, next) := next.readBreak
      match readEmptyLines indent (next.left + 1) [] 0 next with
      | none => none
      | some (empties, _, next) =>
        readBlockLines literal indent n (line.reverse ++ joint.reverse ++ text) last empties
          indented next

/-- The block scalar that begins here, inside a block of the given indentation, which is none at the
top. -/
def blockScalar? (literal : Bool) (parent? : Option Nat) (c : Cursor) :
    Option (String × Cursor) := do
  let (chomping, increment, c) ← readBlockHeader? (c.skip 1)
  let c ← c.finishLine?
  let given := if increment == 0 then 0 else parent?.getD 0 + increment
  let (empties, deepest, c) ← readEmptyLines given (c.left + 1) [] 0 c
  let least := match parent? with
    | none => 1
    | some parent => parent + 1
  let indent := if given == 0 then max deepest least else given
  let (text, last, empties, c) ←
    readBlockLines literal indent (c.left + 1) [] [] empties false c
  let tail := match chomping with
    | .strip => []
    | .clip => last
    | .keep => last ++ empties
  return (String.ofList (text.reverse ++ tail), c)

end EntityProjection.Yaml
