import Mathlib.Algebra.GroupWithZero.Nat
import Mathlib.Logic.Relation
import Mathlib.Algebra.Order.BigOperators.Group.List
import Mathlib.Algebra.Order.Group.Nat
import Mathlib.Data.List.Perm.Subperm
import Mathlib.Data.Set.Finite.Basic
import Mathlib.Data.Fintype.Card
import EntityProjection.Graph.Analysis
import EntityProjection.Proofs.Entity.Acceptance

/-!
# Relations between entities

The relation graph read as a relation between names, with all relations or with those that are left
when some are broken.

* `Acyclic`: no way along a relation leads from a point back to it; `Acyclic.extend`: a pair whose
  target lies in a closed set that its source lies outside of closes no circle;
  `Acyclic.exists_missing`: a circle of another relation has a pair more;
  `Acyclic.wellFounded`: with finitely many targets every way ends;
* `RelationGraph.DependsOn` and `RelationGraph.Intact`: all relations, and the unbroken ones;
* `RelationGraph.Closed`: relations lead to entities only, as they do in the graph of an accepted
  model (`EntityModel.Accepted.graph_closed`).
-/

namespace EntityProjection

/-! ### Circles along a relation -/

section Acyclic

variable {α : Type} {r r' : α → α → Prop}

/-- No way along the relation leads from a point back to it. -/
def Acyclic (r : α → α → Prop) : Prop :=
  ∀ x, ¬Relation.TransGen r x x

/-- A relation whose pairs lie over those of an acyclic one is acyclic. -/
theorem Acyclic.comap {β : Type} {p : β → β → Prop} (h : Acyclic r) (f : β → α)
    (hle : ∀ a b, p a b → r (f a) (f b)) : Acyclic p :=
  fun x hx => h (f x) (hx.lift f hle)

theorem Acyclic.mono (h : Acyclic r) (hle : ∀ a b, r' a b → r a b) : Acyclic r' :=
  h.comap id hle

/-- A relation along which no way goes on without end is acyclic. -/
theorem Acyclic.of_acc (h : ∀ a b, r a b → Acc (fun b a => r a b) a) : Acyclic r := by
  have hacc : ∀ a, Acc (fun b a => r a b) a → ¬Relation.TransGen r a a := by
    intro a ha
    induction ha with
    | intro a _ ih =>
      -- The circle may as well be entered at its next point.
      intro haa
      obtain ⟨b, hab, hba⟩ := Relation.TransGen.head'_iff.mp haa
      exact ih b hab (Relation.TransGen.tail' hba hab)
  intro a haa
  obtain ⟨b, hab, -⟩ := Relation.TransGen.head'_iff.mp haa
  exact hacc a (h a b hab) haa

/-- A circle has a pair that an acyclic relation lacks. -/
theorem Acyclic.exists_missing (h : Acyclic r') {x : α} (hx : Relation.TransGen r x x) :
    ∃ a b, (r a b ∧ ¬r' a b) ∧ Relation.ReflTransGen r x a ∧ Relation.ReflTransGen r b x := by
  have hsplit : ∀ {y}, Relation.TransGen r x y → Relation.TransGen r' x y ∨
      ∃ a b, (r a b ∧ ¬r' a b) ∧ Relation.ReflTransGen r x a ∧ Relation.ReflTransGen r b y := by
    intro y hy
    induction hy with
    | @single y hxy =>
      by_cases hxy' : r' x y
      · exact .inl (.single hxy')
      · exact .inr ⟨x, y, ⟨hxy, hxy'⟩, .refl, .refl⟩
    | @tail y z hy hyz ih =>
      rcases ih with ih | ⟨a, b, hab, hxa, hby⟩
      · by_cases hyz' : r' y z
        · exact .inl (ih.tail hyz')
        · exact .inr ⟨y, z, ⟨hyz, hyz'⟩, hy.to_reflTransGen, .refl⟩
      · exact .inr ⟨a, b, hab, hxa, hby.tail hyz⟩
  exact (hsplit hx).resolve_left (h x)

/-- Along an acyclic relation with finitely many targets every way comes to an end. -/
theorem Acyclic.wellFounded (h : Acyclic r) {targets : List α}
    (htargets : ∀ a b, r a b → b ∈ targets) : WellFounded fun b a => r a b := by
  have : Finite { x // x ∈ targets } := targets.finite_toSet
  have : IsTrans { x // x ∈ targets } fun b a => Relation.TransGen r a b :=
    ⟨fun _ _ _ hba hcb => hcb.trans hba⟩
  have : Std.Irrefl fun b a : { x // x ∈ targets } => Relation.TransGen r a b :=
    ⟨fun x => h x⟩
  have hwf : WellFounded fun b a : { x // x ∈ targets } => Relation.TransGen r a b :=
    Finite.wellFounded_of_trans_of_irrefl _
  have hacc : ∀ x : { x // x ∈ targets }, Acc (fun b a => r a b) x.1 := by
    intro x
    induction x using hwf.induction with
    | _ x ih => exact ⟨_, fun y hxy => ih ⟨y, htargets _ _ hxy⟩ (.single hxy)⟩
  exact ⟨fun a => ⟨a, fun b hab => hacc ⟨b, htargets a b hab⟩⟩⟩

/-- A relation stays acyclic with one more pair if the target of the pair lies in a set that the
relation does not leave, and its source does not. -/
theorem Acyclic.extend (h : Acyclic r) {x y : α} (inside : α → Prop)
    (hr : ∀ a b, r' a b → r a b ∨ a = x ∧ b = y) (hclosed : ∀ a b, r a b → inside a → inside b)
    (hx : ¬inside x) (hy : inside y) : Acyclic r' := by
  have hkeep : ∀ a b, r' a b → inside a → r a b := by
    intro a b hab ha
    rcases hr a b hab with hab | ⟨rfl, -⟩
    · exact hab
    · exact absurd ha hx
  -- A way that starts inside never uses the new pair, and one that uses it ends inside.
  have hinside : ∀ {a b}, Relation.TransGen r' a b → inside a →
      Relation.TransGen r a b ∧ inside b := by
    intro a b hab ha
    induction hab with
    | single hab => exact ⟨.single (hkeep _ _ hab ha), hclosed _ _ (hkeep _ _ hab ha) ha⟩
    | tail _ hbc ih =>
      have hrbc := hkeep _ _ hbc ih.2
      exact ⟨ih.1.tail hrbc, hclosed _ _ hrbc ih.2⟩
  have hsplit : ∀ {a b}, Relation.TransGen r' a b → Relation.TransGen r a b ∨ inside b := by
    intro a b hab
    induction hab with
    | single hab =>
      rcases hr _ _ hab with hab | ⟨-, rfl⟩
      · exact .inl (.single hab)
      · exact .inr hy
    | tail _ hbc ih =>
      rcases hr _ _ hbc with hbc' | ⟨-, rfl⟩
      · rcases ih with ih | ih
        · exact .inl (ih.tail hbc')
        · exact .inr (hclosed _ _ hbc' ih)
      · exact .inr hy
  intro z hz
  rcases hsplit hz with hz' | hz'
  · exact h z hz'
  · exact h z (hinside hz hz').1

end Acyclic

/-! ### Lists without repetitions -/

theorem nodup_eraseDups (names : List String) : names.eraseDups.Nodup := by
  cases names with
  | nil => exact List.nodup_nil
  | cons name names =>
    rw [List.eraseDups_cons, List.nodup_cons]
    exact ⟨by simp, nodup_eraseDups _⟩
termination_by names.length
decreasing_by
  have := List.length_filter_le (fun other => !other == name) names
  simp only [List.length_cons]
  omega

theorem length_eraseDups_le (names : List String) : names.eraseDups.length ≤ names.length :=
  (List.subperm_of_subset (nodup_eraseDups names) fun _ h => List.mem_eraseDups.mp h).length_le

namespace RelationGraph

variable {graph : RelationGraph}

/-! ### The relations of a graph -/

/-- One entity relates to another one or to itself. -/
def DependsOn (graph : RelationGraph) (source target : String) : Prop :=
  target ∈ graph.dependencies source

/-- One entity has a relation to another one or to itself that is not broken. -/
def Intact (graph : RelationGraph) (broken : BrokenEdges) (source target : String) : Prop :=
  graph.DependsOn source target ∧ broken.isBroken source target = false

theorem names_nodup (graph : RelationGraph) : graph.names.Nodup :=
  Std.ExtTreeMap.nodup_keys

theorem contains_iff {name : String} : graph.contains name = true ↔ name ∈ graph.names := by
  rw [contains, names, Std.ExtTreeMap.mem_keys, Std.ExtTreeMap.contains_iff_mem]

theorem dependencies_nodup (graph : RelationGraph) (name : String) :
    (graph.dependencies name).Nodup :=
  nodup_eraseDups _

theorem length_dependencies_le (graph : RelationGraph) (name : String) :
    (graph.dependencies name).length ≤ (graph.outgoing name).length :=
  (length_eraseDups_le _).trans (List.length_map _).le

/-- No edge leaves a name outside the graph. -/
theorem outgoing_eq_nil {name : String} (h : name ∉ graph.names) : graph.outgoing name = [] := by
  rw [names, Std.ExtTreeMap.mem_keys] at h
  rw [outgoing, Std.ExtTreeMap.getD_eq_fallback h]

/-- A name outside the graph has no relations. -/
theorem dependencies_eq_nil {name : String} (h : name ∉ graph.names) :
    graph.dependencies name = [] := by
  rw [dependencies, outgoing_eq_nil h]
  rfl

theorem DependsOn.source_mem {source target : String} (h : graph.DependsOn source target) :
    source ∈ graph.names := by
  by_contra hn
  rw [DependsOn, dependencies_eq_nil hn] at h
  exact List.not_mem_nil h

/-- All dependencies together are not more than the edges. -/
theorem sum_dependencies_le (graph : RelationGraph) :
    (graph.names.map fun name => (graph.dependencies name).length).sum ≤ graph.edges.length := by
  rw [edges, List.length_flatMap]
  exact List.sum_le_sum fun name _ => graph.length_dependencies_le name

/-- Relations lead to entities of the graph only. -/
def Closed (graph : RelationGraph) : Prop :=
  ∀ source target, graph.DependsOn source target → target ∈ graph.names

end RelationGraph

/-! ### The graph of a model -/

namespace EntityModel

variable {model : EntityModel}

theorem graph_names (model : EntityModel) : model.graph.names = model.names :=
  Std.ExtTreeMap.keys_map

/-- An entity of a model depends on the known targets of its relations. -/
theorem graph_dependsOn_iff {source target : String} :
    model.graph.DependsOn source target ↔ ∃ e, model.get? source = some e ∧
      ∃ r ∈ e.relations, model.keys.isKnown r.target = true ∧ r.target = target := by
  rw [RelationGraph.DependsOn, RelationGraph.dependencies, RelationGraph.outgoing, graph,
    Std.ExtTreeMap.getD_eq_getD_getElem?, Std.ExtTreeMap.getElem?_map, List.mem_eraseDups, get?]
  cases model.entities[source]? with
  | none => simp
  | some e =>
    simp only [Option.map_some, Option.getD_some, Entity.edges, List.map_map, List.mem_map,
      List.mem_filter, Option.some.injEq, exists_eq_left', Function.comp_apply, and_assoc]

/-- A relation field with a known target is a relation of the graph. -/
theorem graph_dependsOn_of_field {source target : String} {e : Entity} {f : Field}
    {multiplicity : Multiplicity} (he : model.get? source = some e) (hf : f ∈ e.fields)
    (hkind : f.kind = .relation multiplicity target) (hknown : model.keys.isKnown target = true) :
    model.graph.DependsOn source target := by
  refine graph_dependsOn_iff.mpr ⟨e, he, ⟨f.name, multiplicity, target, f.declared⟩, ?_, hknown, rfl⟩
  refine List.mem_filterMap.mpr ⟨f, hf, ?_⟩
  rw [Field.relation?, hkind]

/-- The graph of a coherent model is closed. -/
theorem Coherent.graph_closed (hc : model.Coherent) : model.graph.Closed := by
  intro source target hdep
  obtain ⟨e, -, r, -, hknown, rfl⟩ := graph_dependsOn_iff.mp hdep
  rw [graph_names, mem_names_iff]
  exact (hc.isKnown_iff r.target).mp hknown

/-- **The graph of an accepted model is closed.** -/
theorem Accepted.graph_closed (h : model.Accepted) : model.graph.Closed :=
  h.coherent.graph_closed

end EntityModel

end EntityProjection
