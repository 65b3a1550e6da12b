/-!
# JSON values

Values as they are printed: members keep their order, and numbers are natural.  A value is printed
on one line, or over several with two spaces per level.
-/

namespace EntityProjection

/-- A JSON value. -/
inductive Json where
  | null
  | truth (value : Bool)
  | number (value : Nat)
  | text (value : String)
  | array (items : List Json)
  | object (members : List (String × Json))
  deriving Repr, Inhabited

namespace Json

/-! ### Texts -/

/-- A hexadecimal digit in lowercase. -/
def hexDigit (n : Nat) : Char :=
  Nat.digitChar (n % 16)

/-- A character as it stands inside a JSON text. -/
def escapeChar (c : Char) : List Char :=
  match c with
  | '"' => ['\\', '"']
  | '\\' => ['\\', '\\']
  | '\x08' => ['\\', 'b']
  | '\x0c' => ['\\', 'f']
  | '\n' => ['\\', 'n']
  | '\r' => ['\\', 'r']
  | '\t' => ['\\', 't']
  | c =>
    if c.toNat < 0x20 then ['\\', 'u', '0', '0', hexDigit (c.toNat / 16), hexDigit c.toNat]
    else [c]

/-- A text between double quotes. -/
def quote (s : String) : String :=
  String.ofList ('"' :: s.toList.flatMap escapeChar ++ ['"'])

/-! ### One line -/

mutual

/-- A value on one line. -/
def compact : Json → String
  | .null => "null"
  | .truth value => if value then "true" else "false"
  | .number value => toString value
  | .text value => quote value
  | .array items => "[" ++ ",".intercalate (compactItems items) ++ "]"
  | .object members => "\x7b" ++ ",".intercalate (compactMembers members) ++ "\x7d"

/-- The items of an array, each on one line. -/
def compactItems : List Json → List String
  | [] => []
  | v :: vs => v.compact :: compactItems vs

/-- The members of an object, each on one line. -/
def compactMembers : List (String × Json) → List String
  | [] => []
  | (name, v) :: rest => (quote name ++ ":" ++ v.compact) :: compactMembers rest

end

/-! ### Several lines -/

/-- The line break before something at a level. -/
def newLine (depth : Nat) : String :=
  "\n" ++ String.join (List.replicate depth "  ")

mutual

/-- A value over several lines, starting at a level. -/
def pretty (depth : Nat) : Json → String
  | .null => "null"
  | .truth value => if value then "true" else "false"
  | .number value => toString value
  | .text value => quote value
  | .array [] => "[]"
  | .array (v :: vs) =>
    "[" ++ ",".intercalate (prettyItems (depth + 1) (v :: vs)) ++ newLine depth ++ "]"
  | .object [] => "\x7b\x7d"
  | .object (m :: ms) =>
    "\x7b" ++ ",".intercalate (prettyMembers (depth + 1) (m :: ms)) ++ newLine depth ++ "\x7d"

/-- The items of an array, each on a line of its own. -/
def prettyItems (depth : Nat) : List Json → List String
  | [] => []
  | v :: vs => (newLine depth ++ v.pretty depth) :: prettyItems depth vs

/-- The members of an object, each on a line of its own. -/
def prettyMembers (depth : Nat) : List (String × Json) → List String
  | [] => []
  | (name, v) :: rest =>
    (newLine depth ++ quote name ++ ": " ++ v.pretty depth) :: prettyMembers depth rest

end

end Json

end EntityProjection
