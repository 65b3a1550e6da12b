import EntityProjection.Proofs.Entity.Arrivals
import EntityProjection.Proofs.Graph.Relations
import EntityProjection.Proofs.Text.ByteOrder

/-!
# The relation graph as tables

A relation graph can be kept as tables: its names in ascending order, in which a name is found by
halving; the list of its edges; and a list of dependencies for each entity.  One pass over the
entities fills the tables side by side, and the list of edges then says the same as the lists of
dependencies.

* `searchNames` and `searchNames_iff`: the search in ascending names;
* `RelationTables` and `EntityModel.tables`: the tables, and those of a model;
* `RelationTables.InStep`: the dependencies of an entity are the targets of its edges, each at its
  first place; every edge that is added keeps this;
* `EntityModel.pruned`: a model without the relation fields of unknown target, with the same graph;
* `relationGraph_represented`: names, edges and dependencies in the graph and the tables of a model.
-/

namespace EntityProjection

/-! ### Search in ascending names -/

/-- Whether a name is found among ascending names, of which one half is dropped at a time. -/
def searchNames (name : String) (names : List String) : Bool :=
  match hdrop : names.drop (names.length / 2) with
  | [] => false
  | middle :: above =>
    if nameBytes middle < nameBytes name then searchNames name above
    else if nameBytes name < nameBytes middle then
      searchNames name (names.take (names.length / 2))
    else true
termination_by names.length
decreasing_by
  all_goals
    have hlength := congrArg List.length hdrop
    simp only [List.length_drop, List.length_cons, List.length_take] at hlength ⊢
    omega

/-- Of ascending names, one that comes after a given one stands behind it, and one that comes before
it stands in front. -/
theorem mem_ascending_iff {name middle : String} {names above : List String} {n : ℕ}
    (h : names.Pairwise (· < ·)) (hdrop : names.drop n = middle :: above) :
    (middle < name → (name ∈ names ↔ name ∈ above)) ∧
      (name < middle → (name ∈ names ↔ name ∈ names.take n)) := by
  have hsplit : names.take n ++ middle :: above = names := by
    rw [← hdrop, List.take_append_drop]
  have hmem : name ∈ names ↔ name ∈ names.take n ∨ name = middle ∨ name ∈ above := by
    rw [← List.mem_cons, ← List.mem_append, hsplit]
  rw [← hsplit] at h
  obtain ⟨-, hright, hacross⟩ := List.pairwise_append.mp h
  have hbelow : name ∈ names.take n → name < middle := fun hname =>
    hacross name hname middle List.mem_cons_self
  have habove : name ∈ above → middle < name := (List.pairwise_cons.mp hright).1 name
  rw [hmem]
  constructor
  · intro hlt
    refine (or_iff_right fun hname => lt_asymm hlt (hbelow hname)).trans ?_
    exact or_iff_right fun hname => hlt.ne' hname
  · intro hlt
    refine or_iff_left fun hname => ?_
    obtain hname | hname := hname
    · exact hlt.ne hname
    · exact lt_asymm hlt (habove hname)

/-- **A name is found among ascending names** just if it is one of them. -/
theorem searchNames_iff {name : String} {names : List String} (h : names.Pairwise (· < ·)) :
    searchNames name names = true ↔ name ∈ names := by
  fun_induction searchNames name names with
  | case1 names hdrop =>
    have hlength := congrArg List.length hdrop
    rw [List.length_drop, List.length_nil] at hlength
    have hnil : names = [] := List.length_eq_zero_iff.mp (by omega)
    simp [hnil]
  | case2 names middle above hdrop hlt ih =>
    rw [(mem_ascending_iff h hdrop).1 (nameBytes_lt_iff.mp hlt)]
    have hrest := h.sublist (List.drop_sublist (names.length / 2) names)
    rw [hdrop] at hrest
    exact ih hrest.of_cons
  | case3 names middle above hdrop _ hlt ih =>
    rw [(mem_ascending_iff h hdrop).2 (nameBytes_lt_iff.mp hlt)]
    exact ih (h.sublist (List.take_sublist _ _))
  | case4 names middle above hdrop hle hge =>
    -- The middle name comes neither before nor after, so it is the one.
    rw [nameBytes_lt_iff, not_lt] at hle hge
    have hmem : middle ∈ names.drop (names.length / 2) := hdrop ▸ List.mem_cons_self
    exact iff_of_true rfl (le_antisymm hge hle ▸ List.mem_of_mem_drop hmem)

/-! ### Tables -/

/-- A relation graph by its names, its edges and the dependencies of each entity. -/
structure RelationTables where
  names : List String
  edges : List RelationEdge := []
  adjacency : Std.ExtTreeMap String (List String) := ∅

namespace RelationTables

/-- Whether a name is listed. -/
def contains (tables : RelationTables) (name : String) : Bool :=
  searchNames name tables.names

/-- The listed edges of an entity. -/
def outgoing (tables : RelationTables) (name : String) : List RelationEdge :=
  tables.edges.filter fun edge => edge.source == name

/-- The listed dependencies of an entity, none for an unknown one. -/
def dependencies (tables : RelationTables) (name : String) : List String :=
  tables.adjacency.getD name []

/-- Makes an entry for an entity that has none. -/
def enter (tables : RelationTables) (name : String) : RelationTables :=
  { tables with adjacency := tables.adjacency.insertIfNew name [] }

/-- Lists an edge, and its target as a dependency unless it is listed there already. -/
def add (tables : RelationTables) (edge : RelationEdge) : RelationTables :=
  let listed := tables.dependencies edge.source
  { tables with
    edges := tables.edges ++ [edge]
    adjacency :=
      if listed.contains edge.target then tables.adjacency
      else tables.adjacency.insert edge.source (listed ++ [edge.target]) }

/-- Lists the relations of an entity one after the other, but not those of unknown target. -/
def addEntity (keys : KeyIndex) (tables : RelationTables) (name : String) (e : Entity) :
    RelationTables :=
  e.relations.foldl (fun tables r =>
    if keys.isKnown r.target then tables.add ⟨name, r.target, r.field, r.multiplicity⟩
    else tables) (tables.enter name)

end RelationTables

/-- The tables of a model, filled entity by entity in order of names. -/
def EntityModel.tables (model : EntityModel) : RelationTables :=
  model.names.foldl (fun tables name =>
    match model.get? name with
    | none => tables
    | some e => tables.addEntity model.keys name e) { names := model.names }

namespace RelationTables

variable {tables : RelationTables}

/-- The dependencies of an entity are the targets of its edges, each at its first place. -/
def InStep (tables : RelationTables) : Prop :=
  ∀ name, tables.dependencies name = ((tables.outgoing name).map RelationEdge.target).eraseDups

theorem eraseDups_concat (names : List String) (name : String) : (names ++ [name]).eraseDups =
    if name ∈ names then names.eraseDups else names.eraseDups ++ [name] := by
  by_cases h : name ∈ names <;>
    simp [List.eraseDups_append, List.removeAll, List.eraseDups_cons, h]

theorem dependencies_enter (tables : RelationTables) (name other : String) :
    (tables.enter name).dependencies other = tables.dependencies other := by
  rw [dependencies, enter, Std.ExtTreeMap.getD_insertIfNew]
  split
  · next hnew =>
    obtain rfl := Std.LawfulEqCmp.eq_of_compare hnew.1
    exact (Std.ExtTreeMap.getD_eq_fallback hnew.2).symm
  · rfl

theorem InStep.enter (h : tables.InStep) (name : String) : (tables.enter name).InStep := by
  intro other
  rw [dependencies_enter, h other]
  rfl

theorem outgoing_add (tables : RelationTables) (edge : RelationEdge) (name : String) :
    (tables.add edge).outgoing name =
      tables.outgoing name ++ if edge.source = name then [edge] else [] := by
  rw [outgoing, add, List.filter_append, ← outgoing]
  simp [List.filter_cons]

theorem dependencies_add (tables : RelationTables) (edge : RelationEdge) (name : String) :
    (tables.add edge).dependencies name =
      if edge.source = name ∧ edge.target ∉ tables.dependencies name then
        tables.dependencies name ++ [edge.target]
      else tables.dependencies name := by
  have hlisted : (tables.dependencies edge.source).contains edge.target = true ↔
      edge.target ∈ tables.dependencies edge.source := List.contains_iff_mem
  rw [dependencies, add]
  dsimp only
  split
  · next h =>
    refine (if_neg ?_).symm
    rintro ⟨rfl, hnew⟩
    exact hnew (hlisted.mp h)
  · next h =>
    rw [hlisted] at h
    simp only [Std.ExtTreeMap.getD_insert, Std.LawfulEqCmp.compare_eq_iff_eq]
    by_cases hsource : edge.source = name
    · rw [if_pos hsource, if_pos ⟨hsource, hsource ▸ h⟩, hsource]
    · rw [if_neg hsource, if_neg fun hboth => hsource hboth.1, dependencies]

/-- **An edge keeps the tables in step.** -/
theorem InStep.add (h : tables.InStep) (edge : RelationEdge) : (tables.add edge).InStep := by
  intro name
  rw [dependencies_add, outgoing_add, h name]
  -- The target is listed already just if an edge with it is, so both sides leave it out together.
  by_cases hsource : edge.source = name
  · simp only [hsource, if_true, true_and, List.map_append, List.map_cons, List.map_nil,
      eraseDups_concat, List.mem_eraseDups, ite_not]
  · simp [hsource]

end RelationTables

/-! ### Edges of a model -/

/-- The edge of a field: only a relation to one of the given names has one. -/
def Field.edge? (names : List String) (owner : String) (f : Field) : Option RelationEdge :=
  match f.kind with
  | .scalar _ => none
  | .relation multiplicity target =>
    if target ∈ names then some ⟨owner, target, f.name, multiplicity⟩ else none

theorem source_of_mem_edges {keys : KeyIndex} {e : Entity} {edge : RelationEdge}
    (h : edge ∈ e.edges keys) : edge.source = e.name ∧ keys.isKnown edge.target = true := by
  obtain ⟨r, hr, rfl⟩ := List.mem_map.mp h
  exact ⟨rfl, (List.mem_filter.mp hr).2⟩

/-- Where the items of each name bear that name, those of one name are picked out of the items of
names that do not repeat. -/
theorem filter_flatMap_of_nodup {α : Type} {names : List String} (hnodup : names.Nodup)
    {items : String → List α} {owner : α → String}
    (howner : ∀ name, ∀ item ∈ items name, owner item = name) (name : String) :
    (names.flatMap items).filter (fun item => owner item == name) =
      if name ∈ names then items name else [] := by
  have hown : (items name).filter (fun item => owner item == name) = items name :=
    List.filter_eq_self.mpr fun item hitem => beq_iff_eq.mpr (howner name item hitem)
  have hother : ∀ other, other ≠ name →
      (items other).filter (fun item => owner item == name) = [] := fun other hne =>
    List.filter_eq_nil_iff.mpr fun item hitem heq =>
      hne ((howner other item hitem).symm.trans (eq_of_beq heq))
  induction names with
  | nil => rfl
  | cons first rest ih =>
    rw [List.nodup_cons] at hnodup
    rw [List.flatMap_cons, List.filter_append, ih hnodup.2]
    by_cases hfirst : first = name
    · subst hfirst
      rw [hown, if_neg hnodup.1, if_pos List.mem_cons_self, List.append_nil]
    · rw [hother first hfirst, List.nil_append]
      simp only [List.mem_cons, Ne.symm hfirst, false_or]

namespace EntityModel

variable {model : EntityModel}

theorem graph_outgoing (model : EntityModel) (name : String) : model.graph.outgoing name =
    ((model.get? name).map fun e => e.edges model.keys).getD [] := by
  rw [RelationGraph.outgoing, graph, Std.ExtTreeMap.getD_eq_getD_getElem?,
    Std.ExtTreeMap.getElem?_map, get?]

theorem names_pairwise (model : EntityModel) : model.names.Pairwise (· < ·) :=
  Std.ExtTreeMap.ordered_keys.imp fun h => compare_lt_iff_lt.mp h

namespace Coherent

variable (hc : model.Coherent)

include hc

theorem isKnown_iff_mem_names {name : String} :
    model.keys.isKnown name = true ↔ name ∈ model.names := by
  rw [hc.isKnown_iff, mem_names_iff]

/-- An edge that leaves an entity has it for its source and an entity for its target. -/
theorem mem_outgoing {name : String} {edge : RelationEdge} (h : edge ∈ model.graph.outgoing name) :
    edge.source = name ∧ edge.target ∈ model.graph.names := by
  rw [graph_outgoing] at h
  cases he : model.get? name with
  | none =>
    rw [he] at h
    cases h
  | some e =>
    rw [he] at h
    obtain ⟨hsource, hknown⟩ := source_of_mem_edges h
    rw [graph_names, ← hc.isKnown_iff_mem_names]
    exact ⟨hsource.trans (hc.named he), hknown⟩

/-- The edges that leave an entity are picked out of all edges. -/
theorem outgoing_eq_filter (name : String) :
    model.graph.outgoing name = model.graph.edges.filter fun edge => edge.source == name := by
  rw [RelationGraph.edges, filter_flatMap_of_nodup model.graph.names_nodup
    (fun other edge h => (hc.mem_outgoing h).1)]
  split
  · rfl
  · next hname => exact RelationGraph.outgoing_eq_nil hname

/-- Both ends of an edge are entities. -/
theorem ends_mem {edge : RelationEdge} (h : edge ∈ model.graph.edges) :
    edge.source ∈ model.graph.names ∧ edge.target ∈ model.graph.names := by
  obtain ⟨name, hname, h⟩ := List.mem_flatMap.mp h
  obtain ⟨rfl, htarget⟩ := hc.mem_outgoing h
  exact ⟨hname, htarget⟩

theorem edges_eq_filterMap (e : Entity) :
    e.edges model.keys = e.fields.filterMap (Field.edge? model.names e.name) := by
  rw [Entity.edges, Entity.relations, List.filter_filterMap, List.map_filterMap]
  refine List.filterMap_congr fun f _ => ?_
  unfold Field.relation? Field.edge?
  cases f.kind with
  | scalar type => rfl
  | relation multiplicity target =>
    dsimp only
    by_cases hknown : model.keys.isKnown target = true
    · rw [if_pos (hc.isKnown_iff_mem_names.mp hknown)]
      simp [Option.filter, hknown]
    · rw [if_neg fun h => hknown (hc.isKnown_iff_mem_names.mpr h)]
      simp [Option.filter, hknown]

/-- **One edge per relation field of known target,** entity by entity and field by field. -/
theorem graph_edges : model.graph.edges = (model.names.filterMap model.get?).flatMap fun e =>
    e.fields.filterMap (Field.edge? model.names e.name) := by
  rw [RelationGraph.edges, graph_names, List.filterMap_eq_flatMap_toList, List.flatMap_assoc]
  refine List.flatMap_congr fun name _ => ?_
  rw [graph_outgoing]
  cases model.get? name with
  | none => rfl
  | some e => simp [hc.edges_eq_filterMap]

end Coherent

end EntityModel

/-! ### Filling the tables -/

namespace RelationTables

variable {tables : RelationTables}

/-- Edges are listed behind the others, and keep the tables in step. -/
theorem foldl_add (edges : List RelationEdge) (tables : RelationTables) :
    let after := edges.foldl add tables
    after.names = tables.names ∧ after.edges = tables.edges ++ edges ∧
      (tables.InStep → after.InStep) := by
  induction edges generalizing tables with
  | nil => exact ⟨rfl, (List.append_nil _).symm, id⟩
  | cons edge edges ih =>
    obtain ⟨hnames, hedges, hstep⟩ := ih (tables.add edge)
    refine ⟨hnames, ?_, fun h => hstep (h.add edge)⟩
    rw [List.foldl_cons, hedges, add, List.append_assoc, List.singleton_append]

theorem addEntity_eq (keys : KeyIndex) (tables : RelationTables) (e : Entity) :
    tables.addEntity keys e.name e = (e.edges keys).foldl add (tables.enter e.name) := by
  rw [addEntity, Entity.edges, List.foldl_map, List.foldl_filter]

/-- The tables and a graph have the same names and edges, find the same names, and have the same
edges and dependencies for every name. -/
structure Represents (tables : RelationTables) (graph : RelationGraph) : Prop where
  names_eq : tables.names = graph.names
  edges_eq : tables.edges = graph.edges
  contains_eq : ∀ name, tables.contains name = graph.contains name
  outgoing_eq : ∀ name, tables.outgoing name = graph.outgoing name
  dependencies_eq : ∀ name, tables.dependencies name = graph.dependencies name

end RelationTables

namespace EntityModel

variable {model : EntityModel}

/-- **Step lemma.**  An entity lists its edges behind the others, and keeps the tables in step. -/
theorem Coherent.foldl_addEntity (hc : model.Coherent) (names : List String)
    (tables : RelationTables) :
    let after := names.foldl (fun tables name =>
      match model.get? name with
      | none => tables
      | some e => tables.addEntity model.keys name e) tables
    after.names = tables.names ∧ after.edges = tables.edges ++ names.flatMap model.graph.outgoing ∧
      (tables.InStep → after.InStep) := by
  induction names generalizing tables with
  | nil => exact ⟨rfl, (List.append_nil _).symm, id⟩
  | cons name names ih =>
    cases he : model.get? name with
    | none =>
      rw [List.foldl_cons, he, List.flatMap_cons, graph_outgoing, he]
      exact ih tables
    | some e =>
      obtain rfl := hc.named he
      obtain ⟨hnames, hedges, hstep⟩ :=
        RelationTables.foldl_add (e.edges model.keys) (tables.enter e.name)
      obtain ⟨hnames', hedges', hstep'⟩ := ih (tables.addEntity model.keys e.name e)
      rw [List.foldl_cons, he, List.flatMap_cons, graph_outgoing, he, ← List.append_assoc]
      dsimp only
      rw [RelationTables.addEntity_eq] at hnames' hedges' hstep' ⊢
      exact ⟨hnames'.trans hnames, hedges'.trans (congrArg (· ++ _) hedges),
        fun h => hstep' (hstep (h.enter e.name))⟩

/-- **The tables of a model represent its graph.** -/
theorem Coherent.tables_represent (hc : model.Coherent) :
    model.tables.Represents model.graph := by
  obtain ⟨hnames, hedges, hstep⟩ := hc.foldl_addEntity model.names { names := model.names }
  have hnames : model.tables.names = model.graph.names := hnames.trans (graph_names model).symm
  have hedges : model.tables.edges = model.graph.edges := by
    rw [RelationGraph.edges, graph_names]
    exact hedges
  have hinstep : model.tables.InStep := hstep fun name => by
    rw [RelationTables.dependencies, Std.ExtTreeMap.getD_empty]
    rfl
  have houtgoing : ∀ name, model.tables.outgoing name = model.graph.outgoing name := fun name => by
    rw [RelationTables.outgoing, hedges, hc.outgoing_eq_filter]
  refine ⟨hnames, hedges, fun name => ?_, houtgoing, fun name => ?_⟩
  · rw [Bool.eq_iff_iff, RelationTables.contains, hnames, RelationGraph.contains_iff]
    exact searchNames_iff (graph_names model ▸ model.names_pairwise)
  · rw [hinstep name, houtgoing, RelationGraph.dependencies]

end EntityModel

/-! ### Relations of unknown target -/

/-- Whether a field is anything but a relation to an unknown target. -/
def Field.isResolved (keys : KeyIndex) (f : Field) : Bool :=
  match f.kind with
  | .scalar _ => true
  | .relation _ target => keys.isKnown target

/-- An entity without its relation fields of unknown target. -/
def Entity.pruned (keys : KeyIndex) (e : Entity) : Entity :=
  { e with fields := e.fields.filter (Field.isResolved keys) }

/-- A model without the relation fields of unknown target. -/
def EntityModel.pruned (model : EntityModel) : EntityModel :=
  { model with entities := model.entities.map fun _ e => e.pruned model.keys }

/-- A field that is pruned has no edge. -/
theorem Entity.edges_pruned (keys : KeyIndex) (e : Entity) :
    (e.pruned keys).edges keys = e.edges keys := by
  rw [Entity.edges, Entity.edges, Entity.relations, Entity.relations, Entity.pruned,
    List.filterMap_filter, List.filter_filterMap, List.filter_filterMap]
  congr 2
  funext f
  unfold Field.isResolved Field.relation?
  cases f.kind with
  | scalar type => rfl
  | relation multiplicity target =>
    cases hknown : keys.isKnown target <;> simp [Option.filter, hknown]

theorem Entity.Normal.pruned {e : Entity} (h : e.Normal) (keys : KeyIndex) :
    (e.pruned keys).Normal where
  names_nodup := h.names_nodup.sublist (List.filter_sublist.map _)
  keyed hkey := by
    obtain ⟨f, hf, hname, hkind, hrequired⟩ := h.keyed hkey
    refine ⟨f, List.mem_filter.mpr ⟨hf, ?_⟩, hname, hkind, hrequired⟩
    rw [Field.isResolved, hkind]

namespace EntityModel

variable {model : EntityModel}

/-- **Relations of unknown target do not show in the graph.** -/
theorem graph_pruned (model : EntityModel) : model.pruned.graph = model.graph := by
  rw [graph, graph, pruned, Std.ExtTreeMap.map_map]
  simp only [Entity.edges_pruned]

theorem get?_pruned (model : EntityModel) (name : String) :
    model.pruned.get? name = (model.get? name).map (Entity.pruned model.keys) :=
  Std.ExtTreeMap.getElem?_map

theorem Coherent.pruned (hc : model.Coherent) : model.pruned.Coherent where
  named h := by
    rw [get?_pruned] at h
    obtain ⟨kept, he, rfl⟩ := Option.map_eq_some_iff.mp h
    show kept.name = _
    exact hc.named he
  indexed name := by
    rw [get?_pruned, Option.map_map]
    exact hc.indexed name

theorem Collected.normal_of_mem_pruned {entities : List Entity} (h : model.Collected entities)
    {e : Entity} (he : e ∈ model.toList.map (Entity.pruned model.keys)) : e.Normal := by
  obtain ⟨kept, hkept, rfl⟩ := List.mem_map.mp he
  exact (h.normal_of_mem hkept).pruned model.keys

/-- **The pruned entities make up the pruned model.** -/
theorem Accepted.ofEntities_pruned (h : model.Accepted) :
    ∃ again, ofEntities (model.toList.map (Entity.pruned model.keys)) = .ok again ∧
      again.Alike model.pruned := by
  obtain ⟨entities, hne, hcollected⟩ := h.exists_collected
  have hnames : (model.toList.map (Entity.pruned model.keys)).map Entity.name =
      entities.map Entity.name := by
    rw [List.map_map]
    exact hcollected.toList_names
  have hsome : model.toList.map (Entity.pruned model.keys) ≠ [] := fun hnil => hne <| by
    rw [hnil] at hnames
    exact List.map_eq_nil_iff.mp hnames.symm
  obtain ⟨again, hok⟩ := exists_ofEntities_iff.mpr ⟨hsome,
    hnames ▸ hcollected.holds.acceptable.nodup,
    fun e he => ⟨e, Entity.normalize_of_normal (hcollected.normal_of_mem_pruned he)⟩⟩
  have hagain := collected_ofEntities hok
  refine ⟨again, hok, alike_of_get?_eq (fun name => Option.ext fun e => ?_) hagain.coherent
    h.coherent.pruned⟩
  rw [hagain.get?_eq_some_iff, hagain.toList_eq fun _ => hcollected.normal_of_mem_pruned,
    get?_pruned, Option.map_eq_some_iff, List.mem_map]
  simp only [hcollected.get?_eq_some_iff]
  constructor
  · rintro ⟨⟨kept, hkept, rfl⟩, rfl⟩
    exact ⟨kept, ⟨hkept, rfl⟩, rfl⟩
  · rintro ⟨kept, ⟨hkept, rfl⟩, rfl⟩
    exact ⟨⟨kept, hkept, rfl⟩, rfl⟩

theorem Alike.graph_eq {model' : EntityModel} (h : model.Alike model') :
    model.graph = model'.graph := by
  rw [graph, graph, h.entities_eq, h.keys_eq]

end EntityModel

/-- **The graph and its tables say the same.** In an accepted or empty model the names of the graph
ascend in the order of their bytes and are those of the entities, so that a name is found just if it
is an entity.  The edges are, entity by entity in order of names and field by field, one per
relation to an entity, and both their ends are entities.  Those that leave an entity are the ones of
that source, and its dependencies are their targets without later repetitions; an unknown name has
none.  The tables that one pass fills side by side, in which names are found by halving, have the
same names, edges and dependencies.  Without the relation fields of unknown target the graph is the
same, and so is the graph of the model that the entities without these fields make up. -/
theorem relationGraph_represented {model : EntityModel} (h : model.Accepted ∨ model = .empty) :
    let graph := model.graph
    ((graph.names.map nameBytes).Pairwise (· < ·) ∧
      ∀ name, name ∈ graph.names ↔ (model.get? name).isSome = true) ∧
    (∀ name, graph.contains name = true ↔ (model.get? name).isSome = true) ∧
    graph.edges = ((graph.names.filterMap model.get?).flatMap fun e =>
      e.fields.filterMap (Field.edge? graph.names e.name)) ∧
    (∀ edge ∈ graph.edges, edge.source ∈ graph.names ∧ edge.target ∈ graph.names) ∧
    (∀ name, graph.outgoing name = (graph.edges.filter fun edge => edge.source == name) ∧
      graph.dependencies name = ((graph.outgoing name).map RelationEdge.target).eraseDups ∧
      (name ∉ graph.names → graph.dependencies name = [])) ∧
    model.tables.Represents graph ∧
    model.pruned.graph = graph ∧
    (model.Accepted → ∃ again,
      EntityModel.ofEntities (model.toList.map (Entity.pruned model.keys)) = .ok again ∧
        again.graph = graph) := by
  intro graph
  have hc := EntityModel.coherent_of_accepted_or_empty h
  have hnames : graph.names = model.names := EntityModel.graph_names model
  have hmem : ∀ name, name ∈ graph.names ↔ (model.get? name).isSome = true := fun name => by
    rw [hnames, EntityModel.mem_names_iff, Option.isSome_iff_exists]
  refine ⟨⟨?_, hmem⟩, fun name => RelationGraph.contains_iff.trans (hmem name),
    hnames ▸ hc.graph_edges, fun _ => hc.ends_mem,
    fun name => ⟨hc.outgoing_eq_filter name, rfl, RelationGraph.dependencies_eq_nil⟩,
    hc.tables_represent, model.graph_pruned, fun haccepted => ?_⟩
  · rw [hnames]
    exact List.pairwise_map.mpr (model.names_pairwise.imp nameBytes_lt)
  · obtain ⟨again, hok, halike⟩ := haccepted.ofEntities_pruned
    exact ⟨again, hok, halike.graph_eq.trans model.graph_pruned⟩

/-- The library has an edge for each relation but that to a picture, which is unknown; its tables
have these edges too, and so has the library without that relation. -/
theorem relationGraph_represented_lending :
    lending.Accepted ∧
      lending.graph.edges.map RelationEdge.field = ["reader", "remarks", "loans"] ∧
      lending.tables.edges.map RelationEdge.field = ["reader", "remarks", "loans"] ∧
      lending.pruned.get? "Reader" ≠ lending.get? "Reader" ∧
      lending.pruned.graph = lending.graph := by
  obtain ⟨-, -, -, -, -, htables, hpruned, -⟩ := relationGraph_represented (.inl lending_accepted)
  have hedges : lending.graph.edges.map RelationEdge.field = ["reader", "remarks", "loans"] := by
    decide +kernel
  exact ⟨lending_accepted, hedges, htables.edges_eq ▸ hedges, by decide +kernel, hpruned⟩

end EntityProjection
