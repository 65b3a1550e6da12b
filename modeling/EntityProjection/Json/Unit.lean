import EntityProjection.Json.Draft
import EntityProjection.Unit.Document

/-!
# Unit documents in JSON

How JSON values are understood in a unit document: records are objects, or arrays with the values in
field order; an absent value is null; and a word is a text or the one member name of an object whose
value is null.
-/

namespace EntityProjection.JsonDraft

open Text (Passage)

/-- The reading of the only member of an object as a word. -/
def wordOfMembers (ofWord : String → Option Multiplicity) (members : Passage (JsonDraft × JsonDraft)) :
    Except Complaint Multiplicity :=
  match members.items with
  | (.text word, value) :: rest =>
    match ofWord word with
    | none => .error (.unknownVariant word)
    | some m =>
      match value, rest, members.closed with
      | .null, [], true => .ok m
      | _, _, _ => .error .malformed
  | _ => .error .malformed

/-- Unit documents in JSON. -/
def dialect : Dialect JsonDraft where
  follow v := return v
  record
    | .object members => .ok (.named members)
    | .array items => .ok (.positional items)
    | _ => .error .malformed
  listing
    | .array items => .ok items
    | _ => .error .malformed
  text
    | .text value => .ok value
    | _ => .error .malformed
  truth
    | .truth value => .ok value
    | _ => .error .malformed
  absent
    | .null => .ok true
    | .broken => .error .malformed
    | _ => .ok false
  word ofWord
    | .text word =>
      match ofWord word with
      | some m => .ok m
      | none => .error (.unknownVariant word)
    | .object members => wordOfMembers ofWord members
    | _ => .error .malformed

/-- The entities that a JSON text defines. -/
def decodeUnit (s : String) : Except Complaint (List EntityRecord) :=
  let (value, sound) := ofText s
  dialect.decodeUnit value sound

end EntityProjection.JsonDraft
