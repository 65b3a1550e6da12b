import EntityProjection.Text.Passage

/-!
# Places in a YAML text

A cursor is what is left of a text, with the number of its bytes and with the line and the column
where it begins.  Texts are divided into lines by five breaks, and in what is read every break counts
as a line feed except the two Unicode separators, which stay as they are.

* `Cursor.skip`, `Cursor.skipBreak`: characters of a line, and one line break;
* `Cursor.skipWhile`, `Cursor.takeWhile`: characters of a line;
* `isYamlChar`, `readable`: the characters that a text may hold at all, and how far it can be read
  if it holds others.
-/

namespace EntityProjection.Yaml

open Text (Passage)

/-! ### Characters -/

/-- A character that a text may hold. -/
def isYamlChar (c : Char) : Bool :=
  let n := c.toNat
  n == 0x09 || n == 0x0A || n == 0x0D || (0x20 ≤ n && n ≤ 0x7E) || n == 0x85 ||
    (0xA0 ≤ n && n ≤ 0xD7FF) || (0xE000 ≤ n && n ≤ 0xFFFD) || 0x10000 ≤ n

/-- A character that ends a line. -/
def isBreak (c : Char) : Bool :=
  c == '\n' || c == '\r' || c == '\u0085' || c == '\u2028' || c == '\u2029'

/-- A space or a tab. -/
def isTabOrSpace (c : Char) : Bool :=
  c == ' ' || c == '\t'

/-- A character of anchors, handles and directive names. -/
def isWordChar (c : Char) : Bool :=
  c.isAlphanum || c == '_' || c == '-'

/-- The number of bytes that characters take. -/
def byteCount (cs : List Char) : Nat :=
  cs.foldr (fun c n => c.utf8Size + n) 0

theorem byteCount_append (cs ds : List Char) :
    byteCount (cs ++ ds) = byteCount cs + byteCount ds := by
  induction cs with
  | nil => exact (Nat.zero_add _).symm
  | cons c cs ih =>
    show c.utf8Size + byteCount (cs ++ ds) = c.utf8Size + byteCount cs + byteCount ds
    rw [ih, Nat.add_assoc]

theorem byteCount_take_add_drop (n : Nat) (cs : List Char) :
    byteCount (cs.take n) + byteCount (cs.drop n) = byteCount cs := by
  rw [← byteCount_append, List.take_append_drop]

/-! ### Readable text -/

/-- The number of bytes that are looked at together. -/
def stretchSize : Nat := 16384

/-- How far a text can be read, behind what was looked at of a stretch with so much room left.  The
text is looked at stretch by stretch, and a stretch that holds a character that no text may hold
cannot be read, nor what follows it. -/
def readable (room : Nat) (seen : List Char) : List Char → Passage Char
  | [] => ⟨seen.reverse, true⟩
  | c :: cs =>
    if c.utf8Size ≤ room then
      if isYamlChar c then readable (room - c.utf8Size) (c :: seen) cs else ⟨[], false⟩
    else
      let more :=
        if isYamlChar c then readable (stretchSize - c.utf8Size) [c] cs else ⟨[], false⟩
      ⟨seen.reverse ++ more.items, more.closed⟩

/-! ### Cursors -/

/-- What is left of a text. -/
structure Cursor where
  rest : List Char
  /-- The number of bytes left. -/
  left : Nat
  line : Nat := 0
  column : Nat := 0
  left_eq : left = byteCount rest
  deriving Repr

namespace Cursor

/-- The cursor at the start of a text. -/
def atStart (chars : List Char) : Cursor where
  rest := chars
  left := byteCount chars
  left_eq := rfl

instance : Inhabited Cursor := ⟨atStart []⟩

/-- The cursor after so many characters of the line. -/
def skip (c : Cursor) (n : Nat) : Cursor where
  rest := c.rest.drop n
  left := c.left - byteCount (c.rest.take n)
  line := c.line
  column := c.column + n
  left_eq := by
    have h := byteCount_take_add_drop n c.rest
    rw [c.left_eq]
    omega

/-- The cursor after a line break of so many characters. -/
def startLine (c : Cursor) (width : Nat) : Cursor :=
  { c.skip width with line := c.line + 1, column := 0 }

/-- The character so many places on. -/
def peek? (c : Cursor) (n : Nat) : Option Char :=
  c.rest[n]?

/-- Whether the character so many places on is the given one. -/
def isAt (c : Cursor) (n : Nat) (char : Char) : Bool :=
  c.peek? n == some char

/-- Whether the text ends here. -/
def atEnd (c : Cursor) : Bool :=
  c.rest.isEmpty

/-- Whether a line break stands so many places on. -/
def breakAt (c : Cursor) (n : Nat) : Bool :=
  (c.peek? n).any isBreak

/-- Whether a space or tab stands so many places on. -/
def tabOrSpaceAt (c : Cursor) (n : Nat) : Bool :=
  (c.peek? n).any isTabOrSpace

/-- Whether a line break stands so many places on, or the text ends there. -/
def lineEndAt (c : Cursor) (n : Nat) : Bool :=
  (c.peek? n).all isBreak

/-- Whether a space, tab or line break stands so many places on, or the text ends there. -/
def gapAt (c : Cursor) (n : Nat) : Bool :=
  (c.peek? n).all fun char => isTabOrSpace char || isBreak char

/-- The line break here as it counts in what is read, and the cursor after it. -/
def readBreak (c : Cursor) : List Char × Cursor :=
  match c.rest with
  | '\r' :: '\n' :: _ => (['\n'], c.startLine 2)
  | char :: _ =>
    if isBreak char then
      (if char == '\u2028' || char == '\u2029' then [char] else ['\n'], c.startLine 1)
    else ([], c)
  | [] => ([], c)

/-- The cursor after the line break here, if there is one. -/
def skipBreak (c : Cursor) : Cursor :=
  c.readBreak.2

/-- The characters of the line from here on that pass a test, and the cursor after them. -/
def takeWhile (c : Cursor) (p : Char → Bool) : List Char × Cursor :=
  let taken := c.rest.takeWhile p
  (taken, c.skip taken.length)

/-- The cursor after the characters of the line that pass a test. -/
def skipWhile (c : Cursor) (p : Char → Bool) : Cursor :=
  (c.takeWhile p).2

/-- The cursor at the end of the line. -/
def skipLine (c : Cursor) : Cursor :=
  c.skipWhile fun char => !isBreak char

/-- The cursor after a comment, if one begins here. -/
def skipComment (c : Cursor) : Cursor :=
  if c.isAt 0 '#' then c.skipLine else c

/-- The cursor after blanks, a comment and the line break, if the line holds nothing else. -/
def finishLine? (c : Cursor) : Option Cursor :=
  let c := (c.skipWhile isTabOrSpace).skipComment
  if c.lineEndAt 0 then some c.skipBreak else none

/-- The cursor after a byte order mark, if one begins the line. -/
def skipMark (c : Cursor) : Cursor :=
  if c.column == 0 && c.isAt 0 '\ufeff' then c.skip 1 else c

/-- Whether a document marker of the given character stands here: three of it at the start of a
line, followed by a gap. -/
def markerOf (c : Cursor) (char : Char) : Bool :=
  c.column == 0 && c.isAt 0 char && c.isAt 1 char && c.isAt 2 char && c.gapAt 3

/-- Whether a document marker stands here. -/
def atMarker (c : Cursor) : Bool :=
  c.markerOf '-' || c.markerOf '.'

end Cursor

end EntityProjection.Yaml
