import EntityProjection.Text.Passage
import EntityProjection.Yaml.Scalar
import EntityProjection.Yaml.Tag

/-!
# The tokens of a YAML text

A YAML text shows only at the colon that what stood before it was a key, and only by its indentation
where a block collection begins and ends.  So the lexer keeps the places where a key may have begun,
one per flow collection around it, holds tokens back as long as a key may have begun before them, and
puts the marks in when the colon comes.  A place is given up when its line ends; giving up one where
only a key can stand is an error.

* `Lexer.advance?` reads one more token into those held back;
* `Lexer.release` lets go of those before which no key can have begun;
* `tokensOf` is all tokens up to the first error.
-/

namespace EntityProjection.Yaml

open Text (Passage)

/-- A place where a key may have begun. -/
structure KeyStart where
  /-- Whether nothing but a key can stand there. -/
  required : Bool
  /-- The number of tokens before it. -/
  number : Nat
  cursor : Cursor
  deriving Inhabited

/-- The state between two tokens. -/
structure Lexer where
  cursor : Cursor
  /-- The columns of the open block collections, innermost first. -/
  columns : List Nat := []
  /-- Whether a key may begin here. -/
  keyAllowed : Bool := true
  /-- Where a key of the innermost flow collection, or of the block around all, may have begun. -/
  keyStart : Option KeyStart := none
  /-- The same for the collections around it, innermost first. -/
  outerStarts : List (Option KeyStart) := []
  /-- The number of collections further out, of which no place of a key is left. -/
  furtherOut : Nat := 0
  /-- The tokens that are held back. -/
  pending : List Token := []
  /-- The number of tokens that are not. -/
  released : Nat := 0
  /-- Whether more text follows that cannot be read. -/
  cut : Bool := false
  deriving Inhabited

namespace Lexer

/-- Whether a flow collection is open. -/
def inFlow (s : Lexer) : Bool :=
  !s.outerStarts.isEmpty || s.furtherOut != 0

/-- The number of tokens read so far. -/
def count (s : Lexer) : Nat :=
  s.released + s.pending.length

/-- The least column of a line that continues the innermost block collection. -/
def innerColumn (s : Lexer) : Nat :=
  match s.columns with
  | [] => 0
  | column :: _ => column + 1

/-! ### Tokens -/

/-- Adds a token at the end. -/
def push (s : Lexer) (t : Token) : Lexer :=
  { s with pending := s.pending ++ [t] }

/-- Adds a token that takes so many characters. -/
def pushMark (s : Lexer) (t : Token) (width : Nat) : Lexer :=
  { s.push t with cursor := s.cursor.skip width }

/-- Adds a token that was read up to the given cursor. -/
def pushRead (s : Lexer) (t : Token) (next : Cursor) : Lexer :=
  { s.push t with cursor := next }

/-- Puts tokens in before the token with the given number. -/
def insertAt (s : Lexer) (number : Nat) (ts : List Token) : Lexer :=
  let (before, after) := s.pending.splitAt (number - s.released)
  { s with pending := before ++ ts ++ after }

/-! ### Indentation -/

/-- Whether a block collection at the given column begins inside the innermost one. -/
def deepens (s : Lexer) (column : Nat) : Bool :=
  !s.inFlow && s.columns.head?.all (· < column)

/-- Opens a block collection at the cursor, unless the innermost one is at its column. -/
def openBlock (s : Lexer) (t : Token) : Lexer :=
  if s.deepens s.cursor.column then
    { s.push t with columns := s.cursor.column :: s.columns }
  else s

/-- Closes the block collections that lie right of the given column, and at no column all. -/
def closeBlocks (s : Lexer) (column : Option Nat) : Lexer :=
  if s.inFlow then s
  else
    let closed := s.columns.takeWhile fun c => column.all (· < c)
    { s with
      columns := s.columns.drop closed.length
      pending := s.pending ++ closed.map fun _ => Token.blockEnd }

/-! ### Keys -/

/-- Gives up the innermost place of a key. -/
def dropKey? (s : Lexer) : Option Lexer :=
  if s.keyStart.any KeyStart.required then none else some { s with keyStart := none }

/-- Notes that a key may begin at the cursor, if one is allowed here. -/
def noteKey? (s : Lexer) : Option Lexer :=
  if s.keyAllowed then do
    let required := !s.inFlow && s.columns.head? == some s.cursor.column
    return { ← s.dropKey? with keyStart := some ⟨required, s.count, s.cursor⟩ }
  else some s

/-- Whether the text has gone too far for a key that began at the given place. -/
def isPast (s : Lexer) (k : KeyStart) : Bool :=
  k.cursor.line < s.cursor.line || s.cursor.left + 1024 < k.cursor.left

/-- A place of a key, unless the text has gone too far for it. -/
def renew? (s : Lexer) : Option KeyStart → Option (Option KeyStart)
  | none => some none
  | some k =>
    if !s.isPast k then some (some k)
    else if k.required then none
    else some none

/-- Gives up all places of keys for which the text has gone too far. -/
def renewKeys? (s : Lexer) : Option Lexer := do
  let keyStart ← s.renew? s.keyStart
  let starts ← s.outerStarts.mapM s.renew?
  let left := (starts.reverse.dropWhile Option.isNone).reverse
  let furtherOut := s.furtherOut + (starts.length - left.length)
  return { s with keyStart, outerStarts := left, furtherOut }

/-! ### Gaps -/

/-- The state at the next token, behind blanks, comments, line breaks and byte order marks.  The first
argument bounds the number of lines. -/
def skipGap : Nat → Lexer → Lexer
  | 0, s => s
  | n + 1, s =>
    let tabs := s.inFlow || !s.keyAllowed
    let c := (s.cursor.skipMark.skipWhile fun char => char == ' ' || (tabs && char == '\t')).skipComment
    if c.breakAt 0 then
      skipGap n { s with cursor := c.skipBreak, keyAllowed := s.keyAllowed || !s.inFlow }
    else { s with cursor := c }

/-! ### Readers -/

/-- Reads a document marker or directive, before which all block collections end. -/
def endBlocks? (s : Lexer) : Option Lexer := do
  return { ← (s.closeBlocks none).dropKey? with keyAllowed := false }

/-- The end of the text, which counts as the start of a line. -/
def readEnd? (s : Lexer) : Option Lexer := do
  let c := s.cursor
  let c := if c.column == 0 then c else { c with line := c.line + 1, column := 0 }
  return (← { s with cursor := c }.endBlocks?).push .streamEnd

/-- The opening mark of a flow collection. -/
def readFlowStart? (s : Lexer) (t : Token) : Option Lexer := do
  let s ← s.noteKey?
  return { s with
    keyStart := none, outerStarts := s.keyStart :: s.outerStarts, keyAllowed := true }.pushMark t 1

/-- The closing mark of a flow collection. -/
def readFlowEnd? (s : Lexer) (t : Token) : Option Lexer := do
  let s ← s.dropKey?
  let s := match s.outerStarts with
    | [] => { s with keyStart := none, furtherOut := s.furtherOut - 1 }
    | k :: ks => { s with keyStart := k, outerStarts := ks }
  return { s with keyAllowed := false }.pushMark t 1

/-- The mark between two entries of a flow collection. -/
def readFlowEntry? (s : Lexer) : Option Lexer := do
  return { ← s.dropKey? with keyAllowed := true }.pushMark .flowEntry 1

/-- The mark of an entry of a block sequence. -/
def readBlockEntry? (s : Lexer) : Option Lexer := do
  if !s.inFlow && !s.keyAllowed then none
  else return { ← (s.openBlock .blockSequenceStart).dropKey? with
    keyAllowed := true }.pushMark .blockEntry 1

/-- The mark of a key. -/
def readKeyMark? (s : Lexer) : Option Lexer := do
  if !s.inFlow && !s.keyAllowed then none
  else return { ← (s.openBlock .blockMappingStart).dropKey? with
    keyAllowed := !s.inFlow }.pushMark .key 1

/-- The mark of a value, which makes a key of what began at the innermost place of a key. -/
def readValueMark? (s : Lexer) : Option Lexer :=
  match s.keyStart with
  | some k =>
    let s := if s.deepens k.cursor.column then
        { s.insertAt k.number [.blockMappingStart, .key] with
          columns := k.cursor.column :: s.columns }
      else s.insertAt k.number [.key]
    some ({ s with keyStart := none, keyAllowed := false }.pushMark .value 1)
  | none =>
    if !s.inFlow && !s.keyAllowed then none
    else some ({ s.openBlock .blockMappingStart with
      keyAllowed := !s.inFlow }.pushMark .value 1)

/-- An anchor or alias. -/
def readNamed? (s : Lexer) (token : String → Token) : Option Lexer := do
  let s ← s.noteKey?
  let (name, next) ← readName? s.cursor
  return { s with keyAllowed := false }.pushRead (token name) next

/-- A tag. -/
def readTag? (s : Lexer) : Option Lexer := do
  let s ← s.noteKey?
  let (tag, next) ← Yaml.readTag? s.inFlow s.cursor
  return { s with keyAllowed := false }.pushRead tag next

/-- A block scalar. -/
def readBlock? (s : Lexer) (literal : Bool) : Option Lexer := do
  let s ← s.dropKey?
  let (text, next) ← blockScalar? literal s.columns.head? s.cursor
  return { s with keyAllowed := true }.pushRead
    (.scalar text (if literal then .literal else .folded)) next

/-- A scalar between quotes. -/
def readQuoted? (s : Lexer) (single : Bool) : Option Lexer := do
  let s ← s.noteKey?
  let (text, next) ← quotedScalar? single s.cursor
  return { s with keyAllowed := false }.pushRead (.scalar text .quoted) next

/-- A plain scalar, after which a key may begin if a new line has. -/
def readPlain? (s : Lexer) : Option Lexer := do
  let s ← s.noteKey?
  let (text, broken, next) ← plainScalar? s.inFlow s.innerColumn s.cursor
  return { s with keyAllowed := broken }.pushRead (.scalar text .plain) next

/-- Whether a plain scalar may begin at the cursor. -/
def atPlain (s : Lexer) : Bool :=
  match s.cursor.peek? 0 with
  | none => false
  | some char =>
    if char == '-' then !s.cursor.tabOrSpaceAt 1
    else if char == '?' || char == ':' then !s.inFlow && !s.cursor.gapAt 1
    else !s.cursor.gapAt 0 && !",[]\x7b\x7d#&*!|>'\"%@\x60".contains char

/-- The token at the cursor, by its first character. -/
def readToken? (s : Lexer) (char : Char) : Option Lexer :=
  let c := s.cursor
  if c.column == 0 && char == '%' then do
    let s ← s.endBlocks?
    let (token, next) ← readDirective? s.cursor
    return s.pushRead token next
  else if c.markerOf '-' then do return (← s.endBlocks?).pushMark .documentStart 3
  else if c.markerOf '.' then do return (← s.endBlocks?).pushMark .documentEnd 3
  else if char == '[' then s.readFlowStart? .flowSequenceStart
  else if char == '\x7b' then s.readFlowStart? .flowMappingStart
  else if char == ']' then s.readFlowEnd? .flowSequenceEnd
  else if char == '\x7d' then s.readFlowEnd? .flowMappingEnd
  else if char == ',' then s.readFlowEntry?
  else if char == '-' && c.gapAt 1 then s.readBlockEntry?
  else if char == '?' && (s.inFlow || c.gapAt 1) then s.readKeyMark?
  else if char == ':' && (s.inFlow || c.gapAt 1) then s.readValueMark?
  else if char == '*' then s.readNamed? .alias
  else if char == '&' then s.readNamed? .anchor
  else if char == '!' then s.readTag?
  else if char == '|' && !s.inFlow then s.readBlock? true
  else if char == '>' && !s.inFlow then s.readBlock? false
  else if char == '\'' then s.readQuoted? true
  else if char == '"' then s.readQuoted? false
  else if s.atPlain then s.readPlain?
  else none

/-! ### Runs -/

/-- The state, unless it has come closer than so many characters to text that cannot be read. -/
def within? (s : Lexer) (n : Nat) : Option Lexer :=
  if s.cut && (s.cursor.rest.drop (n - 1)).isEmpty then none else some s

/-- The state after one more token was read.  Four characters have to be readable at the start of a
token, and one behind it. -/
def advance? (s : Lexer) : Option Lexer := do
  let s ← (skipGap (s.cursor.left + 1) s).within? 4
  let s ← s.renewKeys?
  let s := s.closeBlocks (some s.cursor.column)
  match s.cursor.peek? 0 with
  | none => s.readEnd?
  | some char => (← s.readToken? char).within? 1

/-- The number of the first token before which a key may have begun. -/
def firstHeld (s : Lexer) : Nat :=
  (s.keyStart :: s.outerStarts).foldl (fun n k => k.elim n fun k => min n k.number) s.count

/-- The tokens before which no key can have begun any more, and the state without them. -/
def release (s : Lexer) : List Token × Lexer :=
  let (ready, held) := s.pending.splitAt (s.firstHeld - s.released)
  (ready, { s with pending := held, released := s.released + ready.length })

/-- The tokens from here on, given a bound on the number of tokens still to be read. -/
def run : Nat → Lexer → Passage Token
  | 0, _ => ⟨[], false⟩
  | n + 1, s =>
    match s.advance?.bind renewKeys? with
    | none => ⟨[], false⟩
    | some s =>
      let (ready, s) := s.release
      if ready.contains .streamEnd then ⟨ready, true⟩
      else
        let rest := run n s
        ⟨ready ++ rest.items, rest.closed⟩

end Lexer

/-- The tokens of a text. -/
def tokensOf (s : String) : Passage Token :=
  let text := readable stretchSize [] s.toList
  Lexer.run (text.items.length + 3) { cursor := .atStart text.items, cut := !text.closed }

end EntityProjection.Yaml
