import EntityProjection.Text.CodePoint
import EntityProjection.Text.Passage

/-!
# Reading JSON

A text is read as far as it is JSON.  The result is a draft, in which the place where the text
breaks off is marked, so that whoever goes through the draft front to back meets all that stands
before that place first.

* `JsonDraft.read`: the value at the start of a text, with the rest of the text if the value was
  read to its end;
* `JsonDraft.ofText`: the value a whole text holds, and whether nothing but spaces follows it.
-/

namespace EntityProjection

open Text (Passage hexNumber?)

/-- A JSON value as far as it could be read. -/
inductive JsonDraft where
  | null
  | truth (value : Bool)
  | number
  | text (value : String)
  | array (items : Passage JsonDraft)
  | object (members : Passage (JsonDraft × JsonDraft))
  /-- The text breaks off here. -/
  | broken
  deriving Inhabited

namespace JsonDraft

/-! ### Spaces, numbers and texts -/

/-- A character that may stand between the parts of a value. -/
def isSpace (c : Char) : Bool :=
  c == ' ' || c == '\n' || c == '\t' || c == '\r'

/-- The text without the spaces at its start. -/
def skipSpaces (cs : List Char) : List Char :=
  cs.dropWhile isSpace

/-- The text after the digits at its start, of which there has to be one. -/
def skipDigits? (cs : List Char) : Option (List Char) :=
  match cs with
  | [] => none
  | c :: rest => if c.isDigit then some (rest.dropWhile Char.isDigit) else none

/-- The text after the whole part of a number: a zero, or digits that do not start with one. -/
def skipWhole? (cs : List Char) : Option (List Char) :=
  match cs with
  | '0' :: c :: rest => if c.isDigit then none else some (c :: rest)
  | cs => skipDigits? cs

/-- The text after the fraction of a number, if it has one. -/
def skipFraction? (cs : List Char) : Option (List Char) :=
  match cs with
  | '.' :: rest => skipDigits? rest
  | cs => some cs

/-- The text after the sign of an exponent, if it has one. -/
def skipSign (cs : List Char) : List Char :=
  match cs with
  | '+' :: rest => rest
  | '-' :: rest => rest
  | cs => cs

/-- The text after the exponent of a number, if it has one. -/
def skipExponent? (cs : List Char) : Option (List Char) :=
  match cs with
  | 'e' :: rest => skipDigits? (skipSign rest)
  | 'E' :: rest => skipDigits? (skipSign rest)
  | cs => some cs

/-- The text after the number at its start. -/
def skipNumber? (cs : List Char) : Option (List Char) := do
  let rest := match cs with
    | '-' :: rest => rest
    | cs => cs
  skipExponent? (← skipFraction? (← skipWhole? rest))

/-- The character that a letter after a backslash stands for. -/
def escapeOf? : Char → Option Char
  | '"' => some '"'
  | '\\' => some '\\'
  | '/' => some '/'
  | 'b' => some '\x08'
  | 'f' => some '\x0c'
  | 'n' => some '\n'
  | 'r' => some '\r'
  | 't' => some '\t'
  | _ => none

/-- The first half of a pair of code units for one character. -/
def isHighUnit (n : Nat) : Bool := 0xD800 ≤ n && n ≤ 0xDBFF

/-- The second half of a pair of code units for one character. -/
def isLowUnit (n : Nat) : Bool := 0xDC00 ≤ n && n ≤ 0xDFFF

/-- The characters up to the closing quote and the text after it, given those before in reverse.
Controls have to be escaped, and code units that are half of a character must come in pairs. -/
def readText? (before : List Char) : List Char → Option (String × List Char)
  | '"' :: rest => some (String.ofList before.reverse, rest)
  | '\\' :: 'u' :: a :: b :: c :: d :: rest =>
    match hexNumber? [a, b, c, d] with
    | none => none
    | some n =>
      if isHighUnit n then
        match rest with
        | '\\' :: 'u' :: e :: f :: g :: h :: rest =>
          match hexNumber? [e, f, g, h] with
          | none => none
          | some m =>
            if isLowUnit m then
              readText? (Char.ofNat (0x10000 + (n - 0xD800) * 0x400 + (m - 0xDC00)) :: before) rest
            else none
        | _ => none
      else if isLowUnit n then none
      else readText? (Char.ofNat n :: before) rest
  | '\\' :: c :: rest =>
    match escapeOf? c with
    | some e => readText? (e :: before) rest
    | none => none
  | c :: rest => if c.toNat < 0x20 then none else readText? (c :: before) rest
  | [] => none

/-- The text after a word at its start. -/
def skipWord? (word : String) (cs : List Char) : Option (List Char) :=
  if word.toList.isPrefixOf cs then some (cs.drop word.length) else none

/-! ### Values -/

mutual

/-- The value at the start of a text and the text after it, which is missing if the value breaks
off.  The first argument bounds the depth and the length of listings. -/
def read : Nat → List Char → JsonDraft × Option (List Char)
  | 0, _ => (.broken, none)
  | n + 1, cs =>
    match skipSpaces cs with
    | '\x7b' :: rest =>
      match skipSpaces rest with
      | '\x7d' :: rest => (.object .empty, some rest)
      | rest =>
        let (members, rest) := readMembers n rest
        (.object ⟨members, rest.isSome⟩, rest)
    | '[' :: rest =>
      match skipSpaces rest with
      | ']' :: rest => (.array .empty, some rest)
      | rest =>
        let (items, rest) := readItems n rest
        (.array ⟨items, rest.isSome⟩, rest)
    | '"' :: rest =>
      match readText? [] rest with
      | some (value, rest) => (.text value, some rest)
      | none => (.broken, none)
    | 't' :: rest =>
      match skipWord? "rue" rest with
      | some rest => (.truth true, some rest)
      | none => (.broken, none)
    | 'f' :: rest =>
      match skipWord? "alse" rest with
      | some rest => (.truth false, some rest)
      | none => (.broken, none)
    | 'n' :: rest =>
      match skipWord? "ull" rest with
      | some rest => (.null, some rest)
      | none => (.broken, none)
    | rest =>
      match skipNumber? rest with
      | some rest => (.number, some rest)
      | none => (.broken, none)

/-- The members up to the closing brace and the text after it. -/
def readMembers : Nat → List Char → List (JsonDraft × JsonDraft) × Option (List Char)
  | 0, _ => ([], none)
  | n + 1, cs =>
    match skipSpaces cs with
    | '"' :: rest =>
      match readText? [] rest with
      | none => ([], none)
      | some (name, rest) =>
        match skipSpaces rest with
        | ':' :: rest =>
          match read n rest with
          | (value, none) => ([(.text name, value)], none)
          | (value, some rest) =>
            match skipSpaces rest with
            | ',' :: rest =>
              let (members, rest) := readMembers n rest
              ((.text name, value) :: members, rest)
            | '\x7d' :: rest => ([(.text name, value)], some rest)
            | _ => ([(.text name, value)], none)
        | _ => ([(.text name, .broken)], none)
    | _ => ([], none)

/-- The items up to the closing bracket and the text after it. -/
def readItems : Nat → List Char → List JsonDraft × Option (List Char)
  | 0, _ => ([], none)
  | n + 1, cs =>
    match read n cs with
    | (value, none) => ([value], none)
    | (value, some rest) =>
      match skipSpaces rest with
      | ',' :: rest =>
        let (items, rest) := readItems n rest
        (value :: items, rest)
      | ']' :: rest => ([value], some rest)
      | _ => ([value], none)

end

/-- The value of a whole text, and whether the text holds nothing else. -/
def ofText (s : String) : JsonDraft × Bool :=
  let cs := s.toList
  match read (cs.length + 1) cs with
  | (value, none) => (value, false)
  | (value, some rest) => (value, (skipSpaces rest).isEmpty)

end JsonDraft

end EntityProjection
