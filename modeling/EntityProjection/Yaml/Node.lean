import EntityProjection.Text.Passage
import EntityProjection.Yaml.Token

/-!
# The nodes of a YAML text

The tree that the tokens of a text describe, as far as the text can be read: where it breaks off, the
collections around that place are not closed and the node there is `Node.broken`.  An alias carries
the number of the anchored node that it stands for, and the tree is kept beside a table of those.

* `Node`, `NodeTree`: nodes, and the tree of a text;
* `NodeTree.ofTokens`: the tree that tokens describe.
-/

namespace EntityProjection.Yaml

open Text (Passage)

/-- A value in a text. -/
inductive Node where
  /-- The text holds no value at all. -/
  | void
  /-- The value with an anchor of the given number. -/
  | alias (number : Nat)
  | scalar (tag : Option TagBytes) (style : ScalarStyle) (text : String)
  | sequence (tag : Option TagBytes) (items : Passage Node)
  | mapping (tag : Option TagBytes) (members : Passage (Node × Node))
  /-- The text is broken here. -/
  | broken
  deriving Inhabited

/-- A node with an anchor. -/
structure AnchoredNode where
  /-- The number of its anchor, which it may share with an earlier node. -/
  number : Nat
  /-- The size of the text's tree before it. -/
  start : Nat
  node : Node
  deriving Inhabited

/-- The tree of a text. -/
structure NodeTree where
  root : Node
  anchored : List AnchoredNode
  /-- One for each scalar and alias, and one for each end of a collection. -/
  size : Nat
  /-- Whether the text is sound to its end and holds no second value. -/
  sound : Bool
  deriving Inhabited

/-- The node with an anchor of the given number: of several the one that starts last. -/
def NodeTree.anchoredNode? (t : NodeTree) (number : Nat) : Option Node :=
  (t.anchored.foldl (fun best? a =>
    if a.number == number && best?.all (fun best => best.start < a.start) then some a else best?)
    none).map AnchoredNode.node

/-! ### Assembly -/

/-- What is left of the tokens, and what is known about the tree so far. -/
structure Assembly where
  tokens : List Token
  /-- What the handles of tags stand for. -/
  handles : List (String × TagBytes) := []
  /-- The numbers that the names of anchors stand for. -/
  names : List (String × Nat) := []
  anchored : List AnchoredNode := []
  size : Nat := 0
  broken : Bool := false
  deriving Inhabited

/-- A step of assembly. -/
abbrev Assembling := StateM Assembly

namespace Assembling

/-- Breaks off. -/
def breakOff : Assembling Node := do
  modify fun s => { s with broken := true }
  return .broken

/-- Breaks off in a listing. -/
def breakListing {α : Type} : Assembling (Passage α) := do
  modify fun s => { s with broken := true }
  return ⟨[], false⟩

/-- Goes on with the given tokens. -/
def goOn (ts : List Token) : Assembling Unit :=
  modify fun s => { s with tokens := ts }

/-- Counts one more part of the tree. -/
def grow : Assembling Unit :=
  modify fun s => { s with size := s.size + 1 }

/-- A scalar that takes no token. -/
def emptyScalar (tag : Option TagBytes) : Assembling Node := do
  grow
  return .scalar tag .plain ""

/-- Ends a listing and goes on with the given tokens. -/
def finish {α : Type} (ts : List Token) : Assembling (Passage α) := do
  goOn ts
  grow
  return .empty

/-- A listing of one more item than the given one, unless the item broke off. -/
def andThen {α : Type} (item : α) (more : Assembling (Passage α)) : Assembling (Passage α) := do
  if (← get).broken then return ⟨[item], false⟩
  else
    let rest ← more
    return ⟨item :: rest.items, rest.closed⟩

/-! ### Properties -/

/-- The anchor and the tag here, in either order. -/
def readProperties : Assembling (Option String × Option (String × TagBytes)) := do
  match (← get).tokens with
  | .anchor name :: .tag handle suffix :: rest => do
    goOn rest
    return (some name, some (handle, suffix))
  | .tag handle suffix :: .anchor name :: rest => do
    goOn rest
    return (some name, some (handle, suffix))
  | .anchor name :: rest => do
    goOn rest
    return (some name, none)
  | .tag handle suffix :: rest => do
    goOn rest
    return (none, some (handle, suffix))
  | _ => return (none, none)

/-- The tag of a handle and a suffix, if the handle is known. -/
def tagOf? (handles : List (String × TagBytes)) (handle : String) (suffix : TagBytes) :
    Option TagBytes :=
  if handle.isEmpty then some suffix
  else (handles.find? fun entry => entry.1 == handle).map fun entry => entry.2 ++ suffix

/-- The next number, given to the name of an anchor. -/
def nameAnchor (name : String) : Assembling (Nat × Nat) := do
  let s ← get
  let number := s.names.length
  set { s with names := (name, number) :: s.names.filter fun entry => entry.1 != name }
  return (number, s.size)

/-- Keeps a node under the number of its anchor. -/
def keep (place : Option (Nat × Nat)) (node : Node) : Assembling Unit :=
  match place, node with
  | some _, .broken => return
  | some (number, start), node =>
    modify fun s => { s with anchored := ⟨number, start, node⟩ :: s.anchored }
  | none, _ => return

/-! ### Nodes -/

mutual

/-- The node here.  The first argument bounds the steps; block collections are read where the second
is true, and block sequences without a mark of their own where the third is. -/
def readNode : Nat → Bool → Bool → Assembling Node
  | 0, _, _ => breakOff
  | n + 1, inBlock, unmarked => do
    let s ← get
    match s.tokens with
    | .alias name :: rest =>
      match s.names.find? fun entry => entry.1 == name with
      | some (_, number) => do
        goOn rest
        grow
        return .alias number
      | none => breakOff
    | _ => do
      let (name, parts) ← readProperties
      let tag := parts.map fun (handle, suffix) => tagOf? s.handles handle suffix
      if tag == some none then breakOff
      else do
        let place ← name.mapM nameAnchor
        let node ← readContent n inBlock unmarked (name.isSome || tag.isSome) tag.join
        keep place node
        return node

/-- The node here behind its properties, of which there are some where the fourth argument is
true. -/
def readContent : Nat → Bool → Bool → Bool → Option TagBytes → Assembling Node
  | 0, _, _, _, _ => breakOff
  | n + 1, inBlock, unmarked, marked, tag => do
    let ts := (← get).tokens
    match ts with
    | .scalar text style :: rest => do
      goOn rest
      grow
      return .scalar tag style text
    | .flowSequenceStart :: rest => do
      goOn rest
      grow
      return .sequence tag (← readFlowItems n true)
    | .flowMappingStart :: rest => do
      goOn rest
      grow
      return .mapping tag (← readFlowMembers n true)
    | t :: rest =>
      if unmarked && t == .blockEntry then do
        grow
        return .sequence tag (← readBlockItems n true)
      else if inBlock && t == .blockSequenceStart then do
        goOn rest
        grow
        return .sequence tag (← readBlockItems n false)
      else if inBlock && t == .blockMappingStart then do
        goOn rest
        grow
        return .mapping tag (← readBlockMembers n)
      else if marked then emptyScalar tag
      else breakOff
    | [] => breakOff

/-- The node here, or an empty scalar before one of the given tokens. -/
def readNodeUnless : Nat → List Token → Bool → Bool → Assembling Node
  | 0, _, _, _ => breakOff
  | n + 1, stops, inBlock, unmarked => do
    match (← get).tokens with
    | [] => breakOff
    | t :: _ => if stops.contains t then emptyScalar none else readNode n inBlock unmarked

/-- The items of a block sequence, which ends before any other token if it has no mark of its
own. -/
def readBlockItems : Nat → Bool → Assembling (Passage Node)
  | 0, _ => breakListing
  | n + 1, unmarked => do
    match (← get).tokens with
    | .blockEntry :: rest => do
      goOn rest
      let stops := if unmarked then [.blockEntry, .key, .value, .blockEnd]
        else [.blockEntry, .blockEnd]
      andThen (← readNodeUnless n stops true false) (readBlockItems n unmarked)
    | t :: rest =>
      if unmarked then finish (t :: rest)
      else if t == .blockEnd then finish rest
      else breakListing
    | [] => breakListing

/-- The members of a block mapping. -/
def readBlockMembers : Nat → Assembling (Passage (Node × Node))
  | 0 => breakListing
  | n + 1 => do
    match (← get).tokens with
    | .key :: rest => do
      goOn rest
      let stops := [.key, .value, .blockEnd]
      let key ← readNodeUnless n stops true true
      let value ← readValue n stops true
      andThen (key, value) (readBlockMembers n)
    | .blockEnd :: rest => finish rest
    | _ => breakListing

/-- The value of a key that was read, which is an empty scalar if no value is marked. -/
def readValue : Nat → List Token → Bool → Assembling Node
  | 0, _, _ => breakOff
  | n + 1, stops, inBlock => do
    let s ← get
    if s.broken then return .broken
    else
      match s.tokens with
      | .value :: rest => do
        goOn rest
        readNodeUnless n stops inBlock inBlock
      | _ :: _ => emptyScalar none
      | [] => breakOff

/-- The items of a flow sequence. -/
def readFlowItems : Nat → Bool → Assembling (Passage Node)
  | 0, _ => breakListing
  | n + 1, first => do
    match (← get).tokens with
    | .flowSequenceEnd :: rest => finish rest
    | .flowEntry :: rest =>
      if first then do andThen (← readFlowItem n) (readFlowItems n false)
      else
        match rest with
        | .flowSequenceEnd :: rest => finish rest
        | _ => do
          goOn rest
          andThen (← readFlowItem n) (readFlowItems n false)
    | _ =>
      if first then do andThen (← readFlowItem n) (readFlowItems n false)
      else breakListing

/-- An item of a flow sequence, which may be a mapping of one member. -/
def readFlowItem : Nat → Assembling Node
  | 0 => breakOff
  | n + 1 => do
    match (← get).tokens with
    | .key :: rest => do
      goOn rest
      grow
      let key ← readLoneKey n
      let value ← readValue n [.flowEntry, .flowSequenceEnd] false
      let s ← get
      if s.broken || s.tokens.isEmpty then do
        set { s with broken := true }
        return .mapping none ⟨[(key, value)], false⟩
      else do
        grow
        return .mapping none ⟨[(key, value)], true⟩
    | _ => readNode n false false

/-- The key of a mapping of one member.  If there is none, a token is passed over. -/
def readLoneKey : Nat → Assembling Node
  | 0 => breakOff
  | n + 1 => do
    match (← get).tokens with
    | [] => breakOff
    | t :: rest =>
      if [Token.value, .flowEntry, .flowSequenceEnd].contains t then do
        goOn rest
        emptyScalar none
      else readNode n false false

/-- The members of a flow mapping. -/
def readFlowMembers : Nat → Bool → Assembling (Passage (Node × Node))
  | 0, _ => breakListing
  | n + 1, first => do
    match (← get).tokens with
    | .flowMappingEnd :: rest => finish rest
    | .flowEntry :: rest =>
      if first then do andThen (← readFlowMember n) (readFlowMembers n false)
      else
        match rest with
        | .flowMappingEnd :: rest => finish rest
        | _ => do
          goOn rest
          andThen (← readFlowMember n) (readFlowMembers n false)
    | _ =>
      if first then do andThen (← readFlowMember n) (readFlowMembers n false)
      else breakListing

/-- A member of a flow mapping, whose value is an empty scalar if its key is not marked. -/
def readFlowMember : Nat → Assembling (Node × Node)
  | 0 => do return (← breakOff, .broken)
  | n + 1 => do
    let stops := [.value, .flowEntry, .flowMappingEnd]
    match (← get).tokens with
    | .key :: rest => do
      goOn rest
      let key ← readNodeUnless n stops false false
      let value ← readValue n [.flowEntry, .flowMappingEnd] false
      return (key, value)
    | _ => do
      let key ← readNode n false false
      let s ← get
      if s.broken || s.tokens.isEmpty then do return (key, ← breakOff)
      else do return (key, ← emptyScalar none)

end

/-! ### Documents -/

/-- The handles that stand for something before any directive. -/
def defaultHandles : List (String × TagBytes) :=
  [("!", asciiBytes "!"), ("!!", asciiBytes "tag:yaml.org,2002:")]

/-- The tokens after the directives here and what the directives say, unless one comes twice or asks
for a version that is not known. -/
def directives? : Bool → List (String × TagBytes) → List Token →
    Option (List (String × TagBytes) × List Token)
  | versioned, handles, .versionDirective major minor :: rest =>
    if versioned || major != 1 || (minor != 1 && minor != 2) then none
    else directives? true handles rest
  | versioned, handles, .tagDirective handle start :: rest =>
    if handles.any fun entry => entry.1 == handle then none
    else directives? versioned (handles ++ [(handle, start)]) rest
  | _, handles, rest => some (handles, rest)

/-- The root of a text whose start was marked. -/
def readMarkedRoot (n : Nat) : Assembling Node := do
  match (← get).tokens with
  | .versionDirective _ _ :: _ => emptyScalar none
  | .tagDirective _ _ :: _ => emptyScalar none
  | _ => readNodeUnless n [.documentStart, .documentEnd, .streamEnd] true false

/-- The root of a text. -/
def readRoot (n : Nat) : Assembling Node := do
  let ts := (← get).tokens
  match ts with
  | .streamEnd :: _ => do
    grow
    return .void
  | _ =>
    match directives? false [] ts with
    | none => breakOff
    | some (handles, rest) => do
      modify fun s => { s with handles := handles ++ defaultHandles, tokens := rest }
      match rest with
      | .documentStart :: rest => do
        goOn rest
        readMarkedRoot n
      | _ => if rest.length == ts.length then readNode n true false else breakOff

end Assembling

/-- Whether nothing but marks of the document's end are left. -/
def endsDocument : List Token → Bool
  | .documentEnd :: rest => endsDocument rest
  | .streamEnd :: _ => true
  | _ => false

/-- The tree that tokens describe. -/
def NodeTree.ofTokens (ts : List Token) : NodeTree :=
  let (root, s) := (Assembling.readRoot (4 * ts.length + 4)).run { tokens := ts }
  ⟨root, s.anchored, s.size, !s.broken && endsDocument s.tokens⟩

end EntityProjection.Yaml
