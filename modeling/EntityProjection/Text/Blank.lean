/-!
# Blank characters

The characters of the Unicode property `White_Space`, and the trimming of texts by it.  A unit of
blanks only is an empty unit, a target name is read without the blanks around it, and generated
blocks lose the blanks at their end.
-/

namespace EntityProjection.Text

/-- The code points of the property `White_Space`. -/
def isBlank (c : Char) : Bool :=
  let n := c.toNat
  (9 ≤ n && n ≤ 13) || n == 0x20 || n == 0x85 || n == 0xA0 || n == 0x1680 ||
    (0x2000 ≤ n && n ≤ 0x200A) || n == 0x2028 || n == 0x2029 || n == 0x202F || n == 0x205F ||
    n == 0x3000

/-- A list of characters without the blanks at its end. -/
def dropBlankEnd (cs : List Char) : List Char :=
  (cs.reverse.dropWhile isBlank).reverse

/-- A text without the blanks at its end. -/
def trimEnd (s : String) : String :=
  String.ofList (dropBlankEnd s.toList)

/-- A text without the blanks at both ends. -/
def trim (s : String) : String :=
  String.ofList (dropBlankEnd (s.toList.dropWhile isBlank))

/-- Whether a text holds blanks only. -/
def isBlankText (s : String) : Bool :=
  s.toList.all isBlank

end EntityProjection.Text
