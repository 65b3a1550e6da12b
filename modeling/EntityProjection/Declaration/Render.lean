import EntityProjection.Declaration.Basic
import EntityProjection.Text.Quoted

/-!
# The text of declarations

Type expressions are written on one line, declarations as exported interfaces with a member per
line.  An array of a union puts the union in brackets, since the array binds tighter.
-/

namespace EntityProjection

/-- The indentation of one level. -/
def indent : String := "  "

/-- The indentation of so many levels. -/
def indentation : Nat → String
  | 0 => ""
  | depth + 1 => indent ++ indentation depth

/-! ### Type expressions -/

/-- Whether a type is a union, which an array has to put in brackets. -/
def TypeExpr.isUnion : TypeExpr → Bool
  | .union _ => true
  | _ => false

mutual

/-- A type expression on one line. -/
def TypeExpr.render : TypeExpr → String
  | .verbatim text => text
  | .reference name => name
  | .object [] => "\x7b\x7d"
  | .object (m :: ms) => "\x7b " ++ "; ".intercalate (renderMembers (m :: ms)) ++ " \x7d"
  | .generic name args => name ++ "<" ++ ", ".intercalate (renderTypes args) ++ ">"
  | .array element =>
    if element.isUnion then "(" ++ element.render ++ ")[]" else element.render ++ "[]"
  | .union alternatives => " | ".intercalate (renderTypes alternatives)

/-- Type expressions one by one. -/
def renderTypes : List TypeExpr → List String
  | [] => []
  | t :: ts => t.render :: renderTypes ts

/-- Members one by one. -/
def renderMembers : List (Member TypeExpr) → List String
  | [] => []
  | m :: ms => renderMember m :: renderMembers ms

/-- A member: its name, a mark if it may be absent, and its type. -/
def renderMember : Member TypeExpr → String
  | ⟨name, optional, type⟩ =>
    Text.propertyName name ++ (if optional then "?" else "") ++ ": " ++ type.render

end

/-! ### Declarations -/

/-- A member on a line of its own. -/
def memberLine (depth : Nat) (m : Member TypeExpr) : String :=
  indentation depth ++ indent ++ renderMember m ++ ";\n"

/-- A declaration as an exported interface, without the line break after it. -/
def Declaration.block (depth : Nat) (d : Declaration) : String :=
  indentation depth ++ "export interface " ++ d.name ++ " \x7b\n" ++
    String.join (d.members.map (memberLine depth)) ++ indentation depth ++ "\x7d"

/-- A declaration as an exported interface. -/
def Declaration.render (depth : Nat) (d : Declaration) : String :=
  d.block depth ++ "\n"

/-- The declaration that wraps the items of a to-many relation, without the line break after it. -/
def collectionBlock (depth : Nat) (name : String) : String :=
  indentation depth ++ "export interface " ++ name ++ "<T> \x7b\n" ++
    indentation depth ++ indent ++ "items: T[];\n" ++ indentation depth ++ "\x7d"

/-- The declaration that wraps the items of a to-many relation. -/
def renderCollection (depth : Nat) (name : String) : String :=
  collectionBlock depth name ++ "\n"

end EntityProjection
