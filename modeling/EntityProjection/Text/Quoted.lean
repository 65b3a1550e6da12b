import EntityProjection.Text.GraphemeExtend
import EntityProjection.Text.Identifier

/-!
# Quoted texts

A text between double quotes, written so that it reads back: `"` and `\` get a backslash, the four
common controls have a letter, and every other character that is not printable, or that would merge
with its neighbour, is written by its code point as `\u{..}`.

Property names are written bare if they are identifiers and quoted otherwise.
-/

namespace EntityProjection.Text

/-- The lowercase hexadecimal digits of a code point, without leading zeros. -/
def hexDigits (n : Nat) : List Char :=
  Nat.toDigits 16 n

/-- A character written by its code point. -/
def escapeCode (c : Char) : List Char :=
  ['\\', 'u', '{'] ++ hexDigits c.toNat ++ ['}']

/-- A character as it stands inside a quoted text. -/
def escapeChar (c : Char) : List Char :=
  match c with
  | '\x00' => ['\\', '0']
  | '\t' => ['\\', 't']
  | '\n' => ['\\', 'n']
  | '\r' => ['\\', 'r']
  | '"' => ['\\', '"']
  | '\\' => ['\\', '\\']
  | c => if !extendsGrapheme c && isPrintable c then [c] else escapeCode c

/-- The characters of a quoted text, quotation marks included. -/
def quotedChars (cs : List Char) : List Char :=
  '"' :: cs.flatMap escapeChar ++ ['"']

/-- A text between double quotes. -/
def quoted (s : String) : String :=
  String.ofList (quotedChars s.toList)

/-- A property name as it is written in a declaration: bare if possible, else quoted. -/
def propertyName (name : String) : String :=
  if isIdentifier name then name else quoted name

end EntityProjection.Text
