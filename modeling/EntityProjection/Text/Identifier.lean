/-!
# Bare identifiers and PascalCase

Declaration names are ASCII identifiers, and the recommended spelling of an entity name is
PascalCase.  This file provides both tests and the conversion a rename suggestion uses:

* `isIdentifier`: a letter, `_` or `$`, then letters, digits, `_` and `$`;
* `isPascalCase`: an uppercase letter, then letters and digits;
* `toPascalCase`: the ASCII letters and digits of a text, the first of every word uppercase.

All other characters, letters beyond ASCII included, separate words.
-/

namespace EntityProjection.Text

/-- A character that may open an identifier. -/
def isIdentifierStart (c : Char) : Bool :=
  c.isAlpha || c == '_' || c == '$'

/-- A character that may follow inside an identifier. -/
def isIdentifierRest (c : Char) : Bool :=
  c.isAlphanum || c == '_' || c == '$'

/-- Whether a text can stand as a declaration or property name without quotes. -/
def isIdentifier (name : String) : Bool :=
  match name.toList with
  | [] => false
  | c :: cs => isIdentifierStart c && cs.all isIdentifierRest

/-- Whether a text is an uppercase letter followed by letters and digits only. -/
def isPascalCase (name : String) : Bool :=
  match name.toList with
  | [] => false
  | c :: cs => c.isUpper && cs.all Char.isAlphanum

/-- The letters and digits of a text; the flag says that the next one opens a word, and such a
one is written uppercase. -/
def pascalChars : Bool → List Char → List Char
  | _, [] => []
  | opens, c :: cs =>
    if c.isAlphanum then
      (if opens then c.toUpper else c) :: pascalChars false cs
    else
      pascalChars true cs

/-- The PascalCase form of a text, empty if the text has no ASCII letter or digit. -/
def toPascalCase (name : String) : String :=
  String.ofList (pascalChars true name.toList)

end EntityProjection.Text
