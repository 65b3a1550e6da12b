/-!
# TOML values and tables

A TOML text is a list of statements that fill one table step by step.  A table may be met again only
in certain ways, which depend on how it came about:

* a header may name a table that so far stands only in the paths of other headers;
* a dotted key goes through tables that stand only in paths, and ends in one that only dotted keys
  made;
* an inline table is closed, and so is an array unless it is made of tables by headers.

`Table.enter`, `Table.enterNew` and `Table.assign` are the three kinds of statement.
-/

namespace EntityProjection.Toml

/-- How a table came about. -/
inductive TableOrigin where
  /-- It was written in one piece. -/
  | inline
  /-- A header names it. -/
  | header
  /-- It stands in the path of a header. -/
  | path
  /-- It stands in a dotted key. -/
  | dotted
  deriving DecidableEq, Repr, Inhabited

/-- A value. -/
inductive Value where
  | text (value : String)
  | truth (value : Bool)
  /-- A number, a date or a time. -/
  | quantity
  | array (items : List Value)
  | table (origin : TableOrigin) (members : List (String × Value))
  /-- Tables under one header, the last one first. -/
  | tables (members : List (List (String × Value)))
  deriving Inhabited

/-- The members of a table. -/
abbrev Table := List (String × Value)

namespace Table

/-- The value of a key. -/
def get? (t : Table) (key : String) : Option Value :=
  (t.find? fun entry => entry.1 == key).map Prod.snd

/-- The table with another value for a key that it has. -/
def replace (t : Table) (key : String) (v : Value) : Table :=
  t.map fun entry => if entry.1 == key then (key, v) else entry

/-- The table with a value for a key that it does not have. -/
def add (t : Table) (key : String) (v : Value) : Table :=
  t ++ [(key, v)]

/-- Changes the table at the end of a header's path, which goes into the last of several tables. -/
def change (f : Table → Option Table) : List String → Table → Option Table
  | [], t => f t
  | key :: keys, t =>
    match t.get? key with
    | none => do return t.add key (.table .path (← change f keys []))
    | some (.table .inline _) => none
    | some (.table origin inner) => do
      return t.replace key (.table origin (← change f keys inner))
    | some (.tables (inner :: others)) => do
      return t.replace key (.tables ((← change f keys inner) :: others))
    | some _ => none

/-- Enters the table of a header. -/
def enter (path : List String) (key : String) : Table → Option Table :=
  change (fun t =>
    match t.get? key with
    | none => some (t.add key (.table .header []))
    | some (.table .path inner) => some (t.replace key (.table .header inner))
    | some _ => none) path

/-- Enters one more of the tables under a header. -/
def enterNew (path : List String) (key : String) : Table → Option Table :=
  change (fun t =>
    match t.get? key with
    | none => some (t.add key (.tables [[]]))
    | some (.tables members) => some (t.replace key (.tables ([] :: members)))
    | some _ => none) path

/-- Adds a value under a dotted key that was followed so far.  The first argument tells whether the
last table that it went through was made by dotted keys. -/
def assignIn (dotted : Bool) (v : Value) (key : String) : List String → Table → Option Table
  | [], t => if dotted && (t.get? key).isNone then some (t.add key v) else none
  | name :: names, t =>
    match t.get? name with
    | none => do return t.add name (.table .dotted (← assignIn true v key names []))
    | some (.table .dotted inner) => do
      return t.replace name (.table .dotted (← assignIn true v key names inner))
    | some (.table .path inner) => do
      return t.replace name (.table .path (← assignIn false v key names inner))
    | some (.tables (inner :: others)) => do
      return t.replace name (.tables ((← assignIn false v key names inner) :: others))
    | some _ => none

/-- Adds a value under a dotted key. -/
def assign (v : Value) (path : List String) (key : String) (t : Table) : Option Table :=
  assignIn true v key path t

end Table

end EntityProjection.Toml
