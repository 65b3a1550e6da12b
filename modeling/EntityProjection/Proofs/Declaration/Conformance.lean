import EntityProjection.Json.Value
import EntityProjection.Proofs.Declaration.Members
import EntityProjection.Proofs.Entity.Normal
import EntityProjection.Proofs.Graph.Breaking

/-!
# Values that conform to declarations

The key of an entity is written in three places: in its main declaration, which takes it from the
fields, in its partial declaration, which asks the entity for its key, and in the stubs inlined for
relations to it, which ask the key index.  All three come out with the same member, so that a whole
entity may stand where a part of it is expected, and either may stand where a stub is.

* `ValueDomain` and `Conforms`: what values are taken to be, and which of them a type expression
  admits;
* `Conforms.of_members`: an object type with fewer or laxer members admits more;
* `Projection.main_key_members`, `Projection.companion_required_members`: the key in the declarations
  of an entity;
* `keyShapes_agree`: declarations and stubs of an entity with a key.
-/

namespace EntityProjection

/-! ### Conformance -/

/-- Values, as far as types speak about them. -/
structure ValueDomain where
  Value : Type
  /-- What a value has under a property name, if it has anything there. -/
  property? : Value → String → Option Value
  /-- The items of an array. -/
  items? : Value → Option (List Value)
  /-- Which values the source types admit. -/
  OfSource : String → Value → Prop

/-- A type expression admits a value, where references are to the given declarations and the
collection has the given name.  Objects are looked at by their members only: what is required has to
be there, what may be absent need not, and what is there has to be of its type. -/
inductive Conforms (domain : ValueDomain) (ds : List Declaration) (collectionType : String) :
    TypeExpr → domain.Value → Prop
  | verbatim {text : String} {v : domain.Value} (h : domain.OfSource text v) :
      Conforms domain ds collectionType (.verbatim text) v
  | reference {d : Declaration} {name : String} {v : domain.Value} (hd : d ∈ ds)
      (hname : d.name = name) (h : Conforms domain ds collectionType (.object d.members) v) :
      Conforms domain ds collectionType (.reference name) v
  | object {members : List (Member TypeExpr)} {v : domain.Value}
      (hrequired : ∀ m ∈ members, m.optional = false → (domain.property? v m.name).isSome = true)
      (htyped : ∀ m ∈ members, ∀ w, domain.property? v m.name = some w →
        Conforms domain ds collectionType m.type w) :
      Conforms domain ds collectionType (.object members) v
  | collection {element : TypeExpr} {v : domain.Value}
      (h : Conforms domain ds collectionType (.object [⟨"items", false, .array element⟩]) v) :
      Conforms domain ds collectionType (.generic collectionType [element]) v
  | array {element : TypeExpr} {v : domain.Value} {items : List domain.Value}
      (hitems : domain.items? v = some items)
      (h : ∀ w ∈ items, Conforms domain ds collectionType element w) :
      Conforms domain ds collectionType (.array element) v
  | union {alternatives : List TypeExpr} {alternative : TypeExpr} {v : domain.Value}
      (halternative : alternative ∈ alternatives)
      (h : Conforms domain ds collectionType alternative v) :
      Conforms domain ds collectionType (.union alternatives) v

/-- An object type whose members are members of another one, required there if they are here, admits
all that the other one does. -/
theorem Conforms.of_members {domain : ValueDomain} {ds : List Declaration} {collectionType : String}
    {members members' : List (Member TypeExpr)} {v : domain.Value}
    (h : Conforms domain ds collectionType (.object members) v)
    (hmembers : ∀ m' ∈ members', ∃ m ∈ members, m.name = m'.name ∧ m.type = m'.type ∧
      (m'.optional = false → m.optional = false)) :
    Conforms domain ds collectionType (.object members') v := by
  cases h with
  | object hrequired htyped =>
    refine .object (fun m' hm' hneeded => ?_) fun m' hm' w hw => ?_
    · obtain ⟨m, hm, hname, -, hoptional⟩ := hmembers m' hm'
      rw [← hname]
      exact hrequired m hm (hoptional hneeded)
    · obtain ⟨m, hm, hname, htype, -⟩ := hmembers m' hm'
      rw [← htype]
      exact htyped m hm w (hname ▸ hw)

/-! ### The key in declarations -/

/-- The member that stands for a key wherever it is written. -/
def PrimaryKey.member (key : PrimaryKey) : Member TypeExpr :=
  ⟨key.name, false, .verbatim key.type⟩

namespace Projection

variable {p : Projection} {e : Entity} {key : PrimaryKey} (h : e.Normal) (hkey : e.key = some key)

include h hkey

/-- The member made of the key field. -/
theorem member_of_key {f : Field} (hf : f ∈ e.fields) (hname : f.name = key.name) :
    (⟨f.name, f.optional, p.fieldType e.name f⟩ : Member TypeExpr) = key.member := by
  obtain ⟨hkind, hrequired⟩ := h.of_key_name hkey hf hname
  rw [fieldType, hkind, hname, hrequired, PrimaryKey.member]

/-- The key is one member of the main declaration, and no other member has its name. -/
theorem main_key_members :
    (p.main e).members.filter (fun m => m.name == key.name) = [key.member] := by
  obtain ⟨f, hf, hname, -, -⟩ := h.keyed hkey
  have hfields : e.fields.filter (fun g => g.name == key.name) = [f] :=
    hname ▸ filter_eq_of_nodup_map h.names_nodup hf
  rw [main, List.filter_map]
  show (e.fields.filter fun g => g.name == key.name).map _ = _
  rw [hfields, List.map_singleton, member_of_key h hkey hf hname]

/-- The key is the only member that the partial declaration requires. -/
theorem companion_required_members :
    (p.companion e key).members.filter (fun m => !m.optional) = [key.member] := by
  obtain ⟨f, hf, hname, hkind, -⟩ := h.keyed hkey
  have hfields : e.fields.filter (fun g => g.name == key.name) = [f] :=
    hname ▸ filter_eq_of_nodup_map h.names_nodup hf
  have hrequired : (e.fields.filter fun g => !(g.name != key.name)) = [f] := by
    simpa only [bne, Bool.not_not] using hfields
  rw [companion, List.filter_map]
  show (e.fields.filter fun g => !(g.name != key.name)).map _ = _
  rw [hrequired, List.map_singleton, fieldType, hkind, hname, bne_self_eq_false, PrimaryKey.member]

/-! ### Whole entities, parts and stubs -/

variable {domain : ValueDomain} {ds : List Declaration} {collectionType : String}
  {v : domain.Value}

/-- What conforms to the main declaration of an entity conforms to its partial one. -/
theorem conforms_companion_of_main
    (hv : Conforms domain ds collectionType (.object (p.main e).members) v) :
    Conforms domain ds collectionType (.object (p.companion e key).members) v := by
  refine hv.of_members fun m' hm' => ?_
  obtain ⟨f, hf, rfl⟩ := List.mem_map.mp hm'
  refine ⟨⟨f.name, f.optional, p.fieldType e.name f⟩, List.mem_map_of_mem hf, rfl, rfl, ?_⟩
  exact fun hneeded => (h.of_key_name hkey hf (bne_eq_false_iff_eq.mp hneeded)).2

/-- What conforms to the partial declaration of an entity conforms to the stub of its key. -/
theorem conforms_stub_of_companion
    (hv : Conforms domain ds collectionType (.object (p.companion e key).members) v) :
    Conforms domain ds collectionType (.object [key.member]) v := by
  have hmem : key.member ∈ (p.companion e key).members := by
    have hrequired := companion_required_members (p := p) h hkey
    exact (List.mem_filter.mp (hrequired ▸ List.mem_singleton_self key.member)).1
  refine hv.of_members fun m' hm' => ?_
  obtain rfl := List.mem_singleton.mp hm'
  exact ⟨_, hmem, rfl, rfl, id⟩

/-- What conforms to the stub of a key and has nothing else conforms to the partial declaration. -/
theorem conforms_companion_of_stub (hv : Conforms domain ds collectionType (.object [key.member]) v)
    (honly : ∀ name w, domain.property? v name = some w → name = key.name) :
    Conforms domain ds collectionType (.object (p.companion e key).members) v := by
  cases hv with
  | object hrequired htyped =>
    have hkeyed := hrequired key.member (List.mem_singleton_self _) rfl
    refine .object (fun m hm hneeded => ?_) fun m hm w hw => ?_
    · obtain ⟨f, hf, rfl⟩ := List.mem_map.mp hm
      rw [bne_eq_false_iff_eq.mp hneeded]
      exact hkeyed
    · obtain ⟨f, hf, rfl⟩ := List.mem_map.mp hm
      have hname : f.name = key.name := honly _ w hw
      have htype : p.fieldType e.name f = .verbatim key.type :=
        congrArg Member.type (member_of_key h hkey hf hname)
      show Conforms domain ds collectionType (p.fieldType e.name f) w
      rw [htype]
      exact htyped key.member (List.mem_singleton_self _) w (hname ▸ hw :)

end Projection

/-- **Declarations and stubs of an entity with a key agree.**  Its main declaration has one member of
the key's name, which is required and of the key's type.  Its partial declaration has the same
members in the same order with the same types, and requires just that one; so all that conforms to the
main declaration conforms to the partial one.  What a relation to the entity holds in the declarations
of any entity is a reference to the partial declaration, or the object with just that member if the
relation is broken or partial types are not used; and to that object conforms all that conforms to
either declaration. -/
theorem keyShapes_agree {model : EntityModel} (h : model.Accepted) (options : Options)
    (broken : BrokenEdges) {t : Entity} {key : PrimaryKey} (ht : model.get? t.name = some t)
    (hkey : t.key = some key) :
    let p : Projection := ⟨model.keys, broken, options⟩
    let keyMember : Member TypeExpr := ⟨key.name, false, .verbatim key.type⟩
    ∃ main part, p.declarations t = [main, part] ∧ main.kind = .main ∧ part.kind = .companion ∧
      main.members.filter (fun m => m.name == key.name) = [keyMember] ∧
      (part.members.map fun m => (m.name, m.type)) = (main.members.map fun m => (m.name, m.type)) ∧
      part.members.filter (fun m => !m.optional) = [keyMember] ∧
      (∀ (domain : ValueDomain) (ds : List Declaration) (collectionType : String)
        (v : domain.Value), Conforms domain ds collectionType (.object main.members) v →
          Conforms domain ds collectionType (.object part.members) v) ∧
      ∀ (e : Entity), ∀ d ∈ p.declarations e, ∀ (i : Nat) (f : Field) (multiplicity : Multiplicity),
        e.fields[i]? = some f → f.kind = .relation multiplicity t.name →
        ∃ m element, d.members[i]? = some m ∧ m.name = f.name ∧
          m.type = multiplicity.typeOf options.collectionType element ∧
          (options.usePartialTypes = true ∧ broken.isBroken e.name t.name = false ∧
              element = .reference (options.partialName t.name) ∨
            (options.usePartialTypes = false ∨ broken.isBroken e.name t.name = true) ∧
              element = .object [keyMember] ∧
              ∀ (domain : ValueDomain) (ds : List Declaration) (collectionType : String)
                (v : domain.Value),
                Conforms domain ds collectionType (.object main.members) v ∨
                    Conforms domain ds collectionType (.object part.members) v →
                  Conforms domain ds collectionType element v) := by
  intro p keyMember
  have hnormal : t.Normal := h.normal ht
  have hpart : ∀ (domain : ValueDomain) (ds : List Declaration) (collectionType : String)
      (v : domain.Value), Conforms domain ds collectionType (.object (p.main t).members) v →
        Conforms domain ds collectionType (.object (p.companion t key).members) v :=
    fun _ _ _ _ => Projection.conforms_companion_of_main hnormal hkey
  refine ⟨p.main t, p.companion t key, ?_, rfl, rfl, Projection.main_key_members hnormal hkey, ?_,
    Projection.companion_required_members hnormal hkey, hpart, ?_⟩
  · rw [Projection.declarations, hkey]
  · simp only [Projection.companion, Projection.main, List.map_map, Function.comp_def]
  · intro e d hd i f multiplicity hf hkind
    obtain ⟨m, hm, hname, htype⟩ := Projection.exists_member hd hf
    have hknown : p.keys.isKnown t.name = true := (h.coherent.isKnown_iff t.name).mpr ⟨t, ht⟩
    have hindexed : p.keys.key? t.name = some key := by
      rw [h.coherent.key?_eq, ht, Option.bind_some, hkey]
    obtain ⟨element, hfield, hreference | ⟨hstub, rfl⟩⟩ :=
      p.fieldType_keyed hkind hknown hindexed
    · exact ⟨m, element, hm, hname, htype.trans hfield, .inl hreference⟩
    · refine ⟨m, _, hm, hname, htype.trans hfield, .inr ⟨hstub, rfl, ?_⟩⟩
      rintro domain ds collectionType v (hmain | hcompanion)
      · exact Projection.conforms_stub_of_companion hnormal hkey (hpart domain ds _ v hmain)
      · exact Projection.conforms_stub_of_companion hnormal hkey hcompanion

/-- Printed values.  Of the source types, numbers and texts are told apart. -/
def jsonValues : ValueDomain where
  Value := Json
  property?
    | .object members, name => members.lookup name
    | _, _ => none
  items?
    | .array items => some items
    | _ => none
  OfSource
    | "number", .number _ => True
    | "string", .text _ => True
    | _, _ => False

/-- What is known of a reader by the key alone. -/
def knownReader : Json := .object [("id", .number 7)]

/-- To know the key of a reader is to know a part of the reader. -/
theorem knownReader_conforms (p : Projection) :
    Conforms jsonValues [] "Collection"
      (.object (p.companion lendingReader ⟨"id", "number"⟩).members) knownReader := by
  have hname : ∀ name w, jsonValues.property? knownReader name = some w →
      name = "id" ∧ w = .number 7 := by
    intro name w hw
    have hlookup : List.lookup name [("id", Json.number 7)] = some w := hw
    rw [List.lookup_cons] at hlookup
    split at hlookup
    · next hid => exact ⟨eq_of_beq hid, (Option.some.inj hlookup).symm⟩
    · cases hlookup
  refine Projection.conforms_companion_of_stub (lending_accepted.normal lending_reader) rfl
    (.object (fun m hm _ => ?_) fun m hm w hw => ?_) fun name w hw => (hname name w hw).1
  · rw [List.mem_singleton.mp hm]
    rfl
  · rw [List.mem_singleton.mp hm, (hname m.name w hw).2]
    exact .verbatim trivial

/-- In the library a reader is told by the key that was listed, though as one that may be absent, and a
book by the one that was not.  A book whose relation to its reader is broken holds the key of the
reader, such as that of reader number seven, who is part of a reader; else it holds a reference. -/
theorem keyShapes_agree_lending :
    let broken := BrokenEdges.ofList [("Book", "Reader")]
    let p : Projection := ⟨lending.keys, broken, .ofTarget .zod⟩
    let p' : Projection := ⟨lending.keys, .empty, .ofTarget .zod⟩
    (∃ main part, p.declarations lendingReader = [main, part] ∧
      main.members.filter (fun m => m.name == "id") = [⟨"id", false, .verbatim "number"⟩] ∧
      part.members.filter (fun m => !m.optional) = [⟨"id", false, .verbatim "number"⟩] ∧
      Conforms jsonValues [] "Collection" (.object part.members) knownReader) ∧
    (∃ m, (p.main lendingBook).members[1]? = some m ∧ m.name = "reader" ∧
      m.type = .object [⟨"id", false, .verbatim "number"⟩] ∧
      Conforms jsonValues [] "Collection" m.type knownReader) ∧
    (∃ m, (p'.main lendingBook).members[1]? = some m ∧ m.name = "reader" ∧
      m.type = .reference "ReaderPartial") ∧
    ∃ main part, p.declarations lendingBook = [main, part] ∧
      main.members.filter (fun m => m.name == "isbn") = [⟨"isbn", false, .verbatim "string"⟩] ∧
      part.members.filter (fun m => !m.optional) = [⟨"isbn", false, .verbatim "string"⟩] := by
  intro broken p p'
  have hfield : lendingBook.fields[1]? =
    some { name := "reader", kind := .relation .one "Reader", optional := true } := rfl
  obtain ⟨reader, part, hreader, -, -, hmain, -, hrequired, -, hmembers⟩ :=
    keyShapes_agree lending_accepted (.ofTarget .zod) broken lending_reader rfl
  obtain ⟨_, _, -, -, -, -, -, -, -, hreferences⟩ :=
    keyShapes_agree lending_accepted (.ofTarget .zod) .empty lending_reader rfl
  obtain ⟨book, bookPart, hbook, -, -, hbookMain, -, hbookRequired, -⟩ :=
    keyShapes_agree lending_accepted (.ofTarget .zod) broken lending_book rfl
  cases show [p.main lendingReader, p.companion lendingReader ⟨"id", "number"⟩] = [reader, part]
    from hreader
  have hbroken : broken.isBroken lendingBook.name lendingReader.name = true :=
    BrokenEdges.isBroken_ofList.mpr (List.mem_singleton_self _)
  refine ⟨⟨_, _, hreader, hmain, hrequired, knownReader_conforms p⟩, ?_, ?_,
    book, bookPart, hbook, hbookMain, hbookRequired⟩
  · obtain ⟨m, element, hm, hname, htype, ⟨-, hintact, -⟩ | ⟨-, rfl, hconforms⟩⟩ :=
      hmembers lendingBook (p.main lendingBook) List.mem_cons_self 1 _ .one hfield rfl
    · rw [hbroken] at hintact
      cases hintact
    · exact ⟨m, hm, hname, htype, htype ▸ hconforms _ _ _ _ (.inr (knownReader_conforms p))⟩
  · obtain ⟨m, element, hm, hname, htype, ⟨-, -, rfl⟩ | ⟨hstub, -⟩⟩ :=
      hreferences lendingBook (p'.main lendingBook) List.mem_cons_self 1 _ .one hfield rfl
    · exact ⟨m, hm, hname, htype⟩
    · rw [BrokenEdges.isBroken_empty] at hstub
      exact absurd hstub (by decide)

end EntityProjection
