import EntityProjection.Text.CodePoint
import EntityProjection.Toml.Quantity
import EntityProjection.Toml.Value

/-!
# Reading TOML

A text is read line by line: a line enters the table that a header names, or gives a value to a key
of the table that was entered last.

* `readText?`, `readKey?`, `readValue?`: the parts of a line;
* `tableOf?`: the table that a text describes, if the text is TOML.
-/

namespace EntityProjection.Toml

open Text (charOfDigits?)

/-! ### Blanks and comments -/

/-- A character that may stand in comments and between quotes. -/
def isPlain (c : Char) : Bool :=
  c == '\t' || (0x20 ≤ c.toNat && c.toNat != 0x7F)

/-- A space or a tab. -/
def isBlank (c : Char) : Bool :=
  c == ' ' || c == '\t'

/-- The text without the blanks at its start. -/
def skipBlanks (cs : List Char) : List Char :=
  cs.dropWhile isBlank

/-- The text after the line break at its start. -/
def skipBreak? : List Char → Option (List Char)
  | '\n' :: rest => some rest
  | '\r' :: '\n' :: rest => some rest
  | _ => none

/-- The text without the comment at its start. -/
def skipComment : List Char → List Char
  | '#' :: rest => rest.dropWhile isPlain
  | cs => cs

/-- The text after blanks, a comment and the line break, where the line has nothing else. -/
def finishLine? (cs : List Char) : Option (List Char) :=
  match skipComment (skipBlanks cs) with
  | [] => some []
  | cs => skipBreak? cs

/-- The text without the blanks, comments and line breaks at its start.  The first argument bounds
the number of lines. -/
def skipLines : Nat → List Char → List Char
  | 0, cs => cs
  | n + 1, cs =>
    let cs := skipComment (skipBlanks cs)
    match skipBreak? cs with
    | some rest => skipLines n rest
    | none => cs

/-- The text without the blanks, comments and line breaks at its start. -/
def skipGap (cs : List Char) : List Char :=
  skipLines (cs.length + 1) cs

/-! ### Texts -/

/-- The character that a letter after a backslash stands for. -/
def escapeOf? : Char → Option Char
  | 'b' => some '\x08'
  | 't' => some '\t'
  | 'n' => some '\n'
  | 'f' => some '\x0c'
  | 'r' => some '\r'
  | 'e' => some '\x1b'
  | '"' => some '"'
  | '\\' => some '\\'
  | _ => none

/-- The escaped character after a backslash, and the text after it. -/
def readEscape? : List Char → Option (Char × List Char)
  | 'x' :: rest => charOfDigits? 2 rest
  | 'u' :: rest => charOfDigits? 4 rest
  | 'U' :: rest => charOfDigits? 8 rest
  | c :: rest => (escapeOf? c).map fun escaped => (escaped, rest)
  | [] => none

/-- A text of one line from behind its opening quote on, in reverse before what was read already.
The first argument bounds the number of characters. -/
def readLine? (quote : Char) : Nat → List Char → List Char → Option (List Char × List Char)
  | 0, _, _ => none
  | _, _, [] => none
  | n + 1, text, c :: rest =>
    if c == quote then some (text, rest)
    else if c == '\\' && quote == '"' then
      match readEscape? rest with
      | none => none
      | some (escaped, rest) => readLine? quote n (escaped :: text) rest
    else if isPlain c then readLine? quote n (c :: text) rest
    else none

/-- The text without the blanks and line breaks at its start. -/
def skipBlankLines : List Char → List Char
  | '\r' :: '\n' :: rest => skipBlankLines rest
  | c :: rest => if isBlank c || c == '\n' then skipBlankLines rest else c :: rest
  | [] => []

/-- The text after a line break that a backslash hides, and after the blanks and breaks behind. -/
def skipHiddenBreak? (cs : List Char) : Option (List Char) :=
  (skipBreak? (skipBlanks cs)).map skipBlankLines

/-- A text of several lines from behind its opening quotes on, in reverse before what was read
already.  Of five quotes in a row the first two belong to the text. -/
def readLines? (quote : Char) : Nat → List Char → List Char → Option (List Char × List Char)
  | 0, _, _ => none
  | _, _, [] => none
  | n + 1, text, c :: rest =>
    if c == quote then
      let quotes := (c :: rest).takeWhile (· == quote)
      if quotes.length < 3 then readLines? quote n (c :: text) rest
      else
        let kept := min (quotes.length - 3) 2
        some (List.replicate kept quote ++ text, (c :: rest).drop (kept + 3))
    else if c == '\\' && quote == '"' then
      match skipHiddenBreak? rest with
      | some rest => readLines? quote n text rest
      | none =>
        match readEscape? rest with
        | none => none
        | some (escaped, rest) => readLines? quote n (escaped :: text) rest
    else if c == '\n' then readLines? quote n (c :: text) rest
    else if c == '\r' && rest.head? == some '\n' then readLines? quote n (c :: text) rest
    else if isPlain c then readLines? quote n (c :: text) rest
    else none

/-- The quotation mark of a text. -/
def isQuote (c : Char) : Bool :=
  c == '"' || c == '\''

/-- The text of one line between quotes here. -/
def readQuoted? : List Char → Option (String × List Char)
  | [] => none
  | quote :: rest => do
    let (text, rest) ← readLine? quote (rest.length + 1) [] rest
    return (String.ofList text.reverse, rest)

/-- The text between quotes here, which runs over several lines between three quotes each. -/
def readText? (cs : List Char) : Option (String × List Char) :=
  match cs with
  | a :: b :: c :: rest =>
    if a == b && b == c then do
      let rest := (skipBreak? rest).getD rest
      let (text, rest) ← readLines? a (rest.length + 1) [] rest
      return (String.ofList text.reverse, rest)
    else readQuoted? cs
  | cs => readQuoted? cs

/-! ### Keys -/

/-- A character of a key without quotes. -/
def isKeyChar (c : Char) : Bool :=
  c.isAlphanum || c == '_' || c == '-'

/-- A part of a dotted key. -/
def readKeyPart? (cs : List Char) : Option (String × List Char) :=
  if cs.head?.any isQuote then readQuoted? cs
  else
    match cs.span isKeyChar with
    | ([], _) => none
    | (name, rest) => some (String.ofList name, rest)

/-- A dotted key: the parts before the last in reverse after those read already, the last part, and
the text behind blanks after it. -/
def readKeyParts? : Nat → List String → List Char → Option (List String × String × List Char)
  | 0, _, _ => none
  | n + 1, before, cs => do
    let (name, rest) ← readKeyPart? (skipBlanks cs)
    match skipBlanks rest with
    | '.' :: rest => readKeyParts? n (name :: before) rest
    | rest => return (before, name, rest)

/-- The key here: path, last part and the text behind blanks after it. -/
def readKey? (cs : List Char) : Option (List String × String × List Char) := do
  let (before, name, rest) ← readKeyParts? (cs.length + 1) [] cs
  return (before.reverse, name, rest)

/-! ### Values -/

/-- A character of a word without quotes. -/
def isWordChar (c : Char) : Bool :=
  c.isAlphanum || c == '+' || c == '-' || c == '_' || c == '.' || c == ':'

/-- The word here, which goes on behind a space after a date. -/
def readWord (cs : List Char) : List Char × List Char :=
  let (word, rest) := cs.span isWordChar
  match rest with
  | ' ' :: c :: more =>
    if skipDate? word == some [] && c.isDigit then
      let (time, rest) := (c :: more).span isWordChar
      (word ++ ' ' :: time, rest)
    else (word, rest)
  | rest => (word, rest)

/-- What a word without quotes stands for. -/
def valueOfWord? (word : List Char) : Option Value :=
  if word == "true".toList then some (.truth true)
  else if word == "false".toList then some (.truth false)
  else if isQuantity word then some .quantity
  else none

/-- How deep arrays and inline tables may lie inside each other. -/
def nestingLimit : Nat := 80

mutual

/-- The value here and the text after it.  The first number bounds the steps, the second how deep
arrays and inline tables may still go. -/
def readValue? : Nat → Nat → List Char → Option (Value × List Char)
  | 0, _, _ => none
  | _, _, [] => none
  | n + 1, room, c :: rest =>
    if isQuote c then (readText? (c :: rest)).map fun (text, rest) => (.text text, rest)
    else if c == '[' || c == '\x7b' then
      match room with
      | 0 => none
      | room + 1 =>
        if c == '[' then
          (readItems? n room [] (skipGap rest)).map fun (items, rest) =>
            (.array items.reverse, rest)
        else
          (readMembers? n room [] (skipGap rest)).map fun (members, rest) =>
            (.table .inline members, rest)
    else
      let (word, rest) := readWord (c :: rest)
      (valueOfWord? word).map fun v => (v, rest)

/-- The items of an array from here on, in reverse after those read already. -/
def readItems? : Nat → Nat → List Value → List Char → Option (List Value × List Char)
  | 0, _, _, _ => none
  | n + 1, room, items, cs =>
    match cs with
    | ']' :: rest => some (items, rest)
    | cs =>
      match readValue? n room cs with
      | none => none
      | some (v, rest) =>
        match skipGap rest with
        | ',' :: rest => readItems? n room (v :: items) (skipGap rest)
        | ']' :: rest => some (v :: items, rest)
        | _ => none

/-- The members of an inline table from here on, added to those read already. -/
def readMembers? : Nat → Nat → Table → List Char → Option (Table × List Char)
  | 0, _, _, _ => none
  | n + 1, room, members, cs =>
    match cs with
    | '\x7d' :: rest => some (members, rest)
    | cs =>
      match readKey? cs with
      | some (path, key, '=' :: rest) =>
        match readValue? n room (skipBlanks rest) with
        | none => none
        | some (v, rest) =>
          match members.assign v path key with
          | none => none
          | some members =>
            match skipGap rest with
            | ',' :: rest => readMembers? n room members (skipGap rest)
            | '\x7d' :: rest => some (members, rest)
            | _ => none
      | _ => none

end

/-! ### Lines -/

/-- A text on its way to a table. -/
structure Reading where
  table : Table := []
  /-- The path of the table that was entered last. -/
  entered : List String := []
  rest : List Char

/-- Reads a header of several tables, behind its opening brackets. -/
def Reading.enterNew? (r : Reading) (cs : List Char) : Option Reading := do
  match ← readKey? cs with
  | (path, key, ']' :: ']' :: rest) =>
    return ⟨← r.table.enterNew path key, path ++ [key], ← finishLine? rest⟩
  | _ => none

/-- Reads a header of a table, behind its opening bracket. -/
def Reading.enter? (r : Reading) (cs : List Char) : Option Reading := do
  match ← readKey? cs with
  | (path, key, ']' :: rest) =>
    return ⟨← r.table.enter path key, path ++ [key], ← finishLine? rest⟩
  | _ => none

/-- Reads a key with its value. -/
def Reading.assign? (r : Reading) (cs : List Char) : Option Reading := do
  match ← readKey? cs with
  | (path, key, '=' :: rest) =>
    let (v, rest) ← readValue? (rest.length + 1) nestingLimit (skipBlanks rest)
    let table ← r.table.change (Table.assign v path key) r.entered
    return { r with table, rest := ← finishLine? rest }
  | _ => none

/-- Reads on to the end of the text.  The first argument bounds the number of statements. -/
def Reading.finish? : Nat → Reading → Option Table
  | 0, _ => none
  | n + 1, r =>
    match skipGap r.rest with
    | [] => some r.table
    | '[' :: '[' :: rest => (r.enterNew? rest).bind (finish? n)
    | '[' :: rest => (r.enter? rest).bind (finish? n)
    | cs => (r.assign? cs).bind (finish? n)

/-- The table that a text describes. -/
def tableOf? (s : String) : Option Table :=
  let cs := match s.toList with
    | '\ufeff' :: rest => rest
    | cs => cs
  Reading.finish? (cs.length + 1) { rest := cs }

end EntityProjection.Toml
