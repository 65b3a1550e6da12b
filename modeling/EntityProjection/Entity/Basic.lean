/-!
# Entities

An entity is a named record with an optional primary key and fields in source order.  A field holds
a scalar, whose type is opaque text, or a relation to one or many instances of another entity, named
by its target.  A relation may carry a declared type, which is used where the target is unknown.
-/

namespace EntityProjection

/-- How many instances of its target a relation holds. -/
inductive Multiplicity where
  | one
  | many
  deriving DecidableEq, Repr, Inhabited

/-- The multiplicity as it is written in graphs and findings. -/
def Multiplicity.word : Multiplicity → String
  | .one => "one"
  | .many => "many"

/-- What a field holds. -/
inductive FieldKind where
  | scalar (type : String)
  | relation (multiplicity : Multiplicity) (target : String)
  deriving DecidableEq, Repr, Inhabited

/-- A field of an entity. -/
structure Field where
  name : String
  kind : FieldKind
  /-- Whether the field may be absent. -/
  optional : Bool := false
  /-- The type the source gives to a relation, used where the target is unknown. -/
  declared : Option String := none
  deriving DecidableEq, Repr, Inhabited

/-- The key field of an entity: its name and its type. -/
structure PrimaryKey where
  name : String
  type : String
  deriving DecidableEq, Repr, Inhabited

/-- A named record. -/
structure Entity where
  name : String
  key : Option PrimaryKey := none
  fields : List Field := []
  deriving DecidableEq, Repr, Inhabited

/-- A relation field, seen from the entity that owns it. -/
structure Relation where
  field : String
  multiplicity : Multiplicity
  target : String
  declared : Option String
  deriving DecidableEq, Repr, Inhabited

/-- The relation a field holds, none for a scalar. -/
def Field.relation? (f : Field) : Option Relation :=
  match f.kind with
  | .scalar _ => none
  | .relation m target => some ⟨f.name, m, target, f.declared⟩

/-- The relations of an entity in field order. -/
def Entity.relations (e : Entity) : List Relation :=
  e.fields.filterMap Field.relation?

/-- Whether the named field is the key of the entity. -/
def Entity.isKeyField (e : Entity) (field : String) : Bool :=
  match e.key with
  | none => false
  | some key => key.name == field

/-- The key as a field: a required scalar of the key's type. -/
def PrimaryKey.toField (key : PrimaryKey) : Field where
  name := key.name
  kind := .scalar key.type

end EntityProjection
