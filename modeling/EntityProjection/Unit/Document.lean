import EntityProjection.Text.Passage
import EntityProjection.Unit.Record

/-!
# Unit documents

A unit document lists entities, each with a name, perhaps a key, and fields.  How its parts look is
a matter of the notation, of which a `Dialect` gives all that decoding needs: how a value is
followed to where it is written, and what it is if a record, a listing, a text, a truth value, an
absent value or a word is expected.

Decoding goes through the document front to back and stops at the first complaint.  A field name is
judged before its value is looked at, and a missing field is noticed at the end of its record.
-/

namespace EntityProjection

open Text (Passage)

/-- Decoding of a value: it may complain, and counts the values that were followed elsewhere. -/
abbrev Decoding := StateT Nat (Except Complaint)

/-- A value where a record is expected. -/
inductive RecordShape (ν : Type) where
  /-- Names with values, in any order. -/
  | named (members : Passage (ν × ν))
  /-- Values in the order of the fields. -/
  | positional (values : Passage ν)

/-- How the values of a notation are understood. -/
structure Dialect (ν : Type) where
  /-- The value that stands for the given one. -/
  follow : ν → Decoding ν
  record : ν → Except Complaint (RecordShape ν)
  listing : ν → Except Complaint (Passage ν)
  text : ν → Except Complaint String
  truth : ν → Except Complaint Bool
  /-- Whether a value that may be absent is absent. -/
  absent : ν → Except Complaint Bool
  /-- The reading of a word; another word is an unknown variant. -/
  word : (String → Option Multiplicity) → ν → Except Complaint Multiplicity

namespace Dialect

variable {ν σ τ : Type} (d : Dialect ν)

/-! ### Values -/

/-- A text. -/
def readText (v : ν) : Decoding String := do
  d.text (← d.follow v)

/-- A truth value. -/
def readTruth (v : ν) : Decoding Bool := do
  d.truth (← d.follow v)

/-- A value that may be absent. -/
def readOptional (read : ν → Decoding τ) (v : ν) : Decoding (Option τ) := do
  let v ← d.follow v
  if ← d.absent v then return none else some <$> read v

/-- The items of a listing. -/
def readItems (read : ν → Decoding τ) : List ν → Decoding (List τ)
  | [] => return []
  | v :: vs => do
    let item ← read v
    let items ← readItems read vs
    return item :: items

/-- A listing. -/
def readListing (read : ν → Decoding τ) (v : ν) : Decoding (List τ) := do
  let passage ← d.listing (← d.follow v)
  let items ← readItems read passage.items
  if passage.closed then return items else throw .malformed

/-! ### Records -/

/-- The members of a record, given the names that were met before. -/
def readMembers (fields : List String) (read : String → ν → σ → Decoding σ) :
    List String → List (ν × ν) → σ → Decoding σ
  | _, [], s => return s
  | met, (key, v) :: rest, s => do
    let name ← d.readText key
    if !fields.contains name then throw (.unknownField name)
    if met.contains name then throw (.duplicateField name)
    let s ← read name v s
    readMembers fields read (name :: met) rest s

/-- The values of a record whose fields are known by their place. -/
def readValues (read : String → ν → σ → Decoding σ) : List String → List ν → σ → Decoding σ
  | _, [], s => return s
  | [], _ :: _, _ => throw .malformed
  | field :: fields, v :: vs, s => do
    let s ← read field v s
    readValues read fields vs s

/-- A record: its parts are read one by one into a draft, and the finished draft is the record
unless a field is missing. -/
def readRecord (fields : List String) (read : String → ν → σ → Decoding σ) (draft : σ)
    (finish : σ → Except String τ) (v : ν) : Decoding τ := do
  match ← d.record (← d.follow v) with
  | .named members =>
    let s ← d.readMembers fields read [] members.items draft
    if !members.closed then throw .malformed
    match finish s with
    | .ok r => return r
    | .error missing => throw (.missingField missing)
  | .positional values =>
    let s ← readValues read fields values.items draft
    if !values.closed then throw .malformed
    match finish s with
    | .ok r => return r
    | .error _ => throw .malformed

end Dialect

/-! ### Documents -/

/-- The multiplicity that a word stands for. -/
def multiplicityOfWord? : String → Option Multiplicity
  | "one" => some .one
  | "many" => some .many
  | _ => none

/-- A value that has to be given, by the name of its field. -/
def needed {τ : Type} (field : String) : Option τ → Except String τ
  | some v => .ok v
  | none => .error field

/-- A key on its way: name and type. -/
structure KeyDraft where
  name : Option String := none
  type : Option String := none

/-- A field on its way. -/
structure FieldDraft where
  name : Option String := none
  type : Option String := none
  optional : Bool := false
  multiplicity : Option Multiplicity := none
  target : Option String := none

/-- An entity on its way. -/
structure EntityDraft where
  name : Option String := none
  key : Option PrimaryKey := none
  fields : List FieldRecord := []

/-- The key that a draft amounts to. -/
def KeyDraft.finish (draft : KeyDraft) : Except String PrimaryKey := do
  let name ← needed "name" draft.name
  let type ← needed "type" draft.type
  return { name, type }

/-- The field that a draft amounts to. -/
def FieldDraft.finish (draft : FieldDraft) : Except String FieldRecord := do
  let name ← needed "name" draft.name
  return ⟨name, draft.type, draft.optional, draft.multiplicity, draft.target⟩

/-- The entity that a draft amounts to. -/
def EntityDraft.finish (draft : EntityDraft) : Except String EntityRecord := do
  let name ← needed "name" draft.name
  return ⟨name, draft.key, draft.fields⟩

namespace Dialect

variable {ν : Type} (d : Dialect ν)

/-- A key. -/
def readKey : ν → Decoding PrimaryKey :=
  d.readRecord ["name", "type"] (fun field v draft => do
    match field with
    | "name" => return { draft with name := some (← d.readText v) }
    | _ => return { draft with type := some (← d.readText v) }) {} KeyDraft.finish

/-- A multiplicity. -/
def readMultiplicity (v : ν) : Decoding Multiplicity := do
  d.word multiplicityOfWord? (← d.follow v)

/-- A field. -/
def readField : ν → Decoding FieldRecord :=
  d.readRecord ["name", "type", "optional", "relation", "target"] (fun field v draft => do
    match field with
    | "name" => return { draft with name := some (← d.readText v) }
    | "type" => return { draft with type := ← d.readOptional d.readText v }
    | "optional" => return { draft with optional := ← d.readTruth v }
    | "relation" => return { draft with multiplicity := ← d.readOptional d.readMultiplicity v }
    | _ => return { draft with target := ← d.readOptional d.readText v }) {} FieldDraft.finish

/-- An entity. -/
def readEntity : ν → Decoding EntityRecord :=
  d.readRecord ["name", "primary_key", "fields"] (fun field v draft => do
    match field with
    | "name" => return { draft with name := some (← d.readText v) }
    | "primary_key" => return { draft with key := ← d.readOptional d.readKey v }
    | _ => return { draft with fields := ← d.readListing d.readField v }) {} EntityDraft.finish

/-- A unit document: its entities. -/
def readUnit : ν → Decoding (List EntityRecord) :=
  d.readRecord ["entities"] (fun _ v _ => d.readListing d.readEntity v) [] .ok

/-- The entities of a document, if the text around it is sound as well. -/
def decodeUnit (v : ν) (sound : Bool) : Except Complaint (List EntityRecord) := do
  let (entities, _) ← (d.readUnit v).run 0
  if sound then return entities else throw .malformed

end Dialect

end EntityProjection
