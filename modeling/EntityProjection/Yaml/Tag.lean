import EntityProjection.Yaml.Cursor
import EntityProjection.Yaml.Scalar
import EntityProjection.Yaml.Token

/-!
# Names, tags and directives of a YAML text

Readers for the small tokens that are made of single words: the name of an anchor or alias, a tag
with its handle and suffix, and the directives before a document.  Each answers with the token and
the cursor after it, or with nothing if the token is ill-formed.
-/

namespace EntityProjection.Yaml

/-! ### Names -/

/-- A character that may follow the name of an anchor, gaps aside. -/
def isNameEnd (c : Char) : Bool :=
  "?:,]\x7d%@\x60".contains c

/-- The name after the indicator of an anchor or alias. -/
def readName? (c : Cursor) : Option (String × Cursor) :=
  let (name, next) := (c.skip 1).takeWhile isWordChar
  if !name.isEmpty && (next.gapAt 0 || (next.peek? 0).any isNameEnd) then
    some (String.ofList name, next)
  else none

/-! ### Tags -/

/-- A character that a tag is spelled with. -/
def isTagChar (verbatim : Bool) (c : Char) : Bool :=
  isWordChar c || ";/?:@&=+$.%!~*'()".contains c || (verbatim && ",[]".contains c)

/-- An escaped byte. -/
def readEscapedByte? (c : Cursor) : Option (UInt8 × Cursor) := do
  let digits := (c.rest.drop 1).take 2
  if !c.isAt 0 '%' || digits.length < 2 then none
  else return ((← Text.hexNumber? digits).toUInt8, c.skip 3)

/-- The number of bytes that follow the first byte of a character. -/
def followingBytes? (first : UInt8) : Option Nat :=
  if first < 0x80 then some 0
  else if 0xC0 ≤ first && first < 0xE0 then some 1
  else if 0xE0 ≤ first && first < 0xF0 then some 2
  else if 0xF0 ≤ first && first < 0xF8 then some 3
  else none

/-- So many more bytes, each of which continues a character. -/
def readMoreBytes? : Nat → Cursor → Option (TagBytes × Cursor)
  | 0, c => some ([], c)
  | n + 1, c => do
    let (byte, c) ← readEscapedByte? c
    if byte < 0x80 || 0xC0 ≤ byte then none
    else
      let (bytes, c) ← readMoreBytes? n c
      return (byte :: bytes, c)

/-- The escaped bytes of a character, which need not exist. -/
def readEscapedChar? (c : Cursor) : Option (TagBytes × Cursor) := do
  let (first, c) ← readEscapedByte? c
  let (bytes, c) ← readMoreBytes? (← followingBytes? first) c
  return (first :: bytes, c)

/-- The spelling of a tag from here on, in reverse before what was read already. -/
def readTagBytes (verbatim : Bool) : Nat → TagBytes → Cursor → Option (TagBytes × Cursor)
  | 0, bytes, c => some (bytes, c)
  | n + 1, bytes, c =>
    match c.peek? 0 with
    | none => some (bytes, c)
    | some char =>
      if !isTagChar verbatim char then some (bytes, c)
      else if char == '%' then
        match readEscapedChar? c with
        | none => none
        | some (escaped, next) => readTagBytes verbatim n (escaped.reverse ++ bytes) next
      else readTagBytes verbatim n (char.toUInt8 :: bytes) (c.skip 1)

/-- The spelling of a tag after what was read already, of which there must be something unless
another part of the tag stands before.  It counts up to the first zero byte. -/
def readSpelling? (verbatim mayBeEmpty : Bool) (before : TagBytes) (c : Cursor) :
    Option (TagBytes × Cursor) := do
  let (bytes, next) ← readTagBytes verbatim (c.left + 1) before.reverse c
  if bytes.isEmpty && !mayBeEmpty then none
  else return (bytes.reverse.takeWhile (· != 0), next)

/-- The word between exclamation marks here, and whether the second mark stands. -/
def readHandle (c : Cursor) : List Char × Bool × Cursor :=
  let (word, next) := (c.skip 1).takeWhile isWordChar
  if next.isAt 0 '!' then (word, true, next.skip 1) else (word, false, next)

/-- The parts of the tag here: handle and suffix. -/
def readTagParts? (c : Cursor) : Option (String × TagBytes × Cursor) := do
  if c.isAt 1 '<' then
    let (suffix, next) ← readSpelling? true false [] (c.skip 2)
    if next.isAt 0 '>' then return ("", suffix, next.skip 1) else none
  else
    let (word, closed, next) := readHandle c
    if closed then
      let (suffix, next) ← readSpelling? false false [] next
      return (s!"!{String.ofList word}!", suffix, next)
    else
      let (suffix, next) ← readSpelling? false true (word.map Char.toUInt8) next
      return if suffix.isEmpty then ("", asciiBytes "!", next) else ("!", suffix, next)

/-- The tag here. -/
def readTag? (inFlow : Bool) (c : Cursor) : Option (Token × Cursor) := do
  let (handle, suffix, next) ← readTagParts? c
  if (inFlow && next.isAt 0 ',') || next.gapAt 0 then return (.tag handle suffix, next) else none

/-! ### Directives -/

/-- A number of at most nine digits. -/
def readVersionNumber? (c : Cursor) : Option (Nat × Cursor) :=
  let (digits, next) := c.takeWhile Char.isDigit
  if digits.isEmpty || 9 < digits.length then none
  else some (digits.foldl (fun n d => n * 10 + (d.toNat - 48)) 0, next)

/-- The version after a version directive's name. -/
def readVersion? (c : Cursor) : Option (Token × Cursor) := do
  let (major, c) ← readVersionNumber? (c.skipWhile isTabOrSpace)
  if !c.isAt 0 '.' then none
  else
    let (minor, c) ← readVersionNumber? (c.skip 1)
    return (.versionDirective major minor, c)

/-- The handle and the start of the tags that it stands for, after a tag directive's name. -/
def readTagDirective? (c : Cursor) : Option (Token × Cursor) := do
  let c := c.skipWhile isTabOrSpace
  let (word, closed, next) := readHandle c
  let handle := "!" ++ String.ofList word ++ if closed then "!" else ""
  if !c.isAt 0 '!' || (!closed && !word.isEmpty) || !next.tabOrSpaceAt 0 then none
  else
    let (start, next) ← readSpelling? true false [] (next.skipWhile isTabOrSpace)
    if next.gapAt 0 then return (.tagDirective handle start, next) else none

/-- The directive here, which takes the rest of its line. -/
def readDirective? (c : Cursor) : Option (Token × Cursor) := do
  let (name, next) := (c.skip 1).takeWhile isWordChar
  if !next.gapAt 0 then none
  else
    let (token, next) ← match String.ofList name with
      | "YAML" => readVersion? next
      | "TAG" => readTagDirective? next
      | _ => none
    return (token, ← next.finishLine?)

end EntityProjection.Yaml
