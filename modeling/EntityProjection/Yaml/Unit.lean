import EntityProjection.Unit.Document
import EntityProjection.Yaml.Lexer
import EntityProjection.Yaml.Node

/-!
# Unit documents in YAML

How YAML nodes are understood in a unit document: a record is a mapping and a listing a sequence,
where an empty plain scalar counts as one without content; any scalar is a text; a plain empty or
null scalar is an absent value; and a word is a scalar, or a local tag on a value that is null.
-/

namespace EntityProjection.Yaml

open Text (Passage)

/-- A word for null. -/
def isNullWord (s : String) : Bool :=
  ["null", "Null", "NULL", "~"].contains s

/-- The truth value that a word stands for. -/
def truthOfWord? (s : String) : Option Bool :=
  if ["true", "True", "TRUE"].contains s then some true
  else if ["false", "False", "FALSE"].contains s then some false
  else none

/-- A tag of the YAML standard. -/
def standardTag (name : String) : TagBytes :=
  asciiBytes ("tag:yaml.org,2002:" ++ name)

/-- The name of a local tag, which is what follows its exclamation mark, or the mark if nothing
does.  A tag whose name is no text has none. -/
def localTag? (tag : Option TagBytes) : Option String :=
  match tag with
  | some (mark :: name) =>
    if mark != '!'.toUInt8 then none
    else String.fromUTF8? (if name.isEmpty then [mark] else name).toByteArray
  | _ => none

namespace Node

/-- The tag of a node. -/
def tag? : Node → Option TagBytes
  | .scalar tag _ _ => tag
  | .sequence tag _ => tag
  | .mapping tag _ => tag
  | _ => none

/-- A scalar that stands for a collection without content. -/
def isEmptyPlain : Node → Bool
  | .scalar _ .plain text => text.isEmpty
  | _ => false

/-- Whether a value that may be absent is absent. -/
def absent : Node → Except Complaint Bool
  | .void => .ok true
  | .broken => .error .malformed
  | .scalar tag .plain text =>
    if tag == some (standardTag "null") then
      if isNullWord text then .ok true else .error .malformed
    else .ok (tag.isNone && (text.isEmpty || isNullWord text))
  | _ => .ok false

/-- The reading of a node as a word. -/
def word (ofWord : String → Option Multiplicity) (v : Node) : Except Complaint Multiplicity :=
  match localTag? v.tag?, v with
  | some name, v =>
    match ofWord name, v with
    | none, _ => .error (.unknownVariant name)
    | some m, .scalar _ .plain text =>
      if text.isEmpty || isNullWord text then .ok m else .error .malformed
    | some _, _ => .error .malformed
  | none, .scalar _ _ text =>
    match ofWord text with
    | none => .error (.unknownVariant text)
    | some m => .ok m
  | none, _ => .error .malformed

end Node

namespace NodeTree

/-- The node that stands for an alias.  Aliases may be followed a hundred times as often as the tree
is large. -/
def follow (t : NodeTree) : Node → Decoding Node
  | .alias number => do
    modify (· + 1)
    if t.size * 100 < (← get) then throw .malformed
    match t.anchoredNode? number with
    | some v => return v
    | none => throw .malformed
  | v => return v

/-- Unit documents in YAML. -/
def dialect (t : NodeTree) : Dialect Node where
  follow := t.follow
  record
    | .mapping _ members => .ok (.named members)
    | .void => .ok (.named .empty)
    | v => if v.isEmptyPlain then .ok (.named .empty) else .error .malformed
  listing
    | .sequence _ items => .ok items
    | .void => .ok .empty
    | v => if v.isEmptyPlain then .ok .empty else .error .malformed
  text
    | .scalar _ _ text => .ok text
    | _ => .error .malformed
  truth
    | .scalar tag style text =>
      if style == .plain || (style == .literal && tag == some (standardTag "bool")) then
        match truthOfWord? text with
        | some value => .ok value
        | none => .error .malformed
      else .error .malformed
    | _ => .error .malformed
  absent := Node.absent
  word := Node.word

end NodeTree

/-- The entities that a YAML text defines. -/
def decodeUnit (s : String) : Except Complaint (List EntityRecord) :=
  let tree := NodeTree.ofTokens (tokensOf s).items
  tree.dialect.decodeUnit tree.root tree.sound

end EntityProjection.Yaml
