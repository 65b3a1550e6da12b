import EntityProjection.Entity.Basic

/-!
# Declarations

What is emitted for an entity: a main declaration, and for an entity with a key a partial one, in
which everything but the key may be absent.  Both list members, whose types are expressions over
opaque source types and references to other declarations.
-/

namespace EntityProjection

/-- A member of a declaration or of an inline object, over a kind of type expressions. -/
structure Member (τ : Type) where
  name : String
  /-- Whether the member may be absent. -/
  optional : Bool
  type : τ
  deriving Repr, Inhabited

/-- The type of a member. -/
inductive TypeExpr where
  /-- A source type, emitted as it is. -/
  | verbatim (text : String)
  /-- Another declaration, by name. -/
  | reference (name : String)
  /-- An inline object type. -/
  | object (members : List (Member TypeExpr))
  /-- A generic type applied to arguments. -/
  | generic (name : String) (args : List TypeExpr)
  | array (element : TypeExpr)
  | union (alternatives : List TypeExpr)
  deriving Repr

instance : Inhabited TypeExpr := ⟨.object []⟩

/-- Whether a declaration describes whole entities or parts of them. -/
inductive DeclarationKind where
  | main
  | companion
  deriving DecidableEq, Repr, Inhabited

/-- The kind as it is listed. -/
def DeclarationKind.word : DeclarationKind → String
  | .main => "main"
  | .companion => "partial"

/-- A declaration. -/
structure Declaration where
  name : String
  /-- The entity that it describes. -/
  entity : String
  kind : DeclarationKind
  members : List (Member TypeExpr)
  deriving Repr, Inhabited

end EntityProjection
