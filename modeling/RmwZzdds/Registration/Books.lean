import Mathlib.Data.Multiset.Basic
import RmwZzdds.Library.Following
import RmwZzdds.Lifecycle.Exactness

/-!
# Books

The creations of nodes and endpoints once more, over a larger state.  Next to
the state of `Lifecycle` it has the local part of the graph cache of
`rmw_dds_common`, and books of every object that was made and every object that
was released, an object for each time.

`Entry w made released w'` is what a call has entered in the books.  An object
that is made has a new address, so the objects of an entry differ.

The graph cache is a parameter.  `LocalGraph.Lawful` is what its documentation
says, and `Tables` is a cache of plain sets.
-/

namespace RmwZzdds.Registration

open Lifecycle Following Ownership Std.Do
open Service (Guid)

set_option mvcgen.warning false

/-! ## The local graph -/

/-- The endpoints that the graph tells apart. -/
inductive End where
  | writer
  | reader
deriving DecidableEq, Repr

/-- The name and the namespace that a node is known by. -/
abbrev NodeKey : Type := Option String × Option String

/-- The graph cache of `rmw_dds_common`, as far as the entities of the context
itself go.  An association puts an endpoint on the list of a node. -/
structure LocalGraph (G : Type) where
  addEntity : End → Guid → G → G
  removeEntity : End → Guid → G → G
  associate : End → Guid → NodeKey → G → G
  dissociate : End → Guid → NodeKey → G → G
  addNode : NodeKey → G → G
  entities : G → Finset (End × Guid)
  associations : G → Finset (End × Guid × NodeKey)
  nodes : G → Multiset NodeKey

/-- What the documentation of the graph cache says. -/
structure LocalGraph.Lawful {G : Type} (g : LocalGraph G) : Prop where
  entities_addEntity : ∀ e guid graph,
    g.entities (g.addEntity e guid graph) = insert (e, guid) (g.entities graph)
  entities_removeEntity : ∀ e guid graph,
    g.entities (g.removeEntity e guid graph) = (g.entities graph).erase (e, guid)
  entities_associate : ∀ e guid key graph,
    g.entities (g.associate e guid key graph) = g.entities graph
  entities_dissociate : ∀ e guid key graph,
    g.entities (g.dissociate e guid key graph) = g.entities graph
  associations_addEntity : ∀ e guid graph,
    g.associations (g.addEntity e guid graph) = g.associations graph
  associations_removeEntity : ∀ e guid graph,
    g.associations (g.removeEntity e guid graph) = g.associations graph
  associations_associate : ∀ e guid key graph,
    g.associations (g.associate e guid key graph) = insert (e, guid, key) (g.associations graph)
  associations_dissociate : ∀ e guid key graph,
    g.associations (g.dissociate e guid key graph) = (g.associations graph).erase (e, guid, key)
  nodes_addEntity : ∀ e guid graph, g.nodes (g.addEntity e guid graph) = g.nodes graph
  nodes_removeEntity : ∀ e guid graph, g.nodes (g.removeEntity e guid graph) = g.nodes graph
  nodes_addNode : ∀ key graph, g.nodes (g.addNode key graph) = key ::ₘ g.nodes graph

/-- A graph of plain sets. -/
structure Tables where
  entities : Finset (End × Guid)
  associations : Finset (End × Guid × NodeKey)
  nodes : Multiset NodeKey

namespace Tables

def empty : Tables := ⟨∅, ∅, 0⟩

def graph : LocalGraph Tables where
  addEntity e guid t := { t with entities := insert (e, guid) t.entities }
  removeEntity e guid t := { t with entities := t.entities.erase (e, guid) }
  associate e guid key t := { t with associations := insert (e, guid, key) t.associations }
  dissociate e guid key t := { t with associations := t.associations.erase (e, guid, key) }
  addNode key t := { t with nodes := key ::ₘ t.nodes }
  entities := entities
  associations := associations
  nodes := nodes

theorem lawful : graph.Lawful where
  entities_addEntity _ _ _ := rfl
  entities_removeEntity _ _ _ := rfl
  entities_associate _ _ _ _ := rfl
  entities_dissociate _ _ _ _ := rfl
  associations_addEntity _ _ _ := rfl
  associations_removeEntity _ _ _ := rfl
  associations_associate _ _ _ _ := rfl
  associations_dissociate _ _ _ _ := rfl
  nodes_addEntity _ _ _ := rfl
  nodes_removeEntity _ _ _ := rfl
  nodes_addNode _ _ := rfl

end Tables

/-! ## The larger state -/

/-- `readerGuids` is what zzdds answers about the GUIDs of readers. -/
structure Books (G : Type) where
  graph : G
  readerGuids : Obj → Option Guid
  made : Multiset Obj
  released : Multiset Obj

structure World (G : Type) where
  state : State
  books : Books G

abbrev BookM (G : Type) := StateM (World G)

namespace World

variable {G : Type} (w : World G)

/-- The same books over another registry of entities. -/
def withEntities (e : Entities) : World G := { w with state := w.state.withEntities e }

def withGraph (graph : G) : World G := { w with books := { w.books with graph } }

@[simp] theorem entities_withEntities (e : Entities) :
    (w.withEntities e).state.entities = e := rfl

@[simp] theorem books_withEntities (e : Entities) : (w.withEntities e).books = w.books := rfl

@[simp] theorem impl_withEntities (e : Entities) :
    (w.withEntities e).state.impl = w.state.impl := rfl

@[simp] theorem state_withGraph (graph : G) : (w.withGraph graph).state = w.state := rfl

@[simp] theorem graph_withGraph (graph : G) : (w.withGraph graph).books.graph = graph := rfl

end World

/-- How an update of the graph fails: by an error or by an exception, before or
after it has recorded the change. -/
structure Failure where
  recorded : Bool
  throws : Bool

variable {G α : Type}

/-- What the smaller program does. -/
def lift (x : RmwM α) : BookM G α := fun w =>
  let (a, state) := x.run w.state
  (a, { w with state })

/-- `Lifecycle.modifyEntities`. -/
def modifyEntities (f : Entities → Entities) : BookM G Unit := lift (Lifecycle.modifyEntities f)

def modifyBooks (f : Books G → Books G) : BookM G Unit :=
  modify fun w => { w with books := f w.books }

def modifyGraph (f : G → G) : BookM G Unit :=
  modifyBooks fun b => { b with graph := f b.graph }

def enterMade (x : Option Obj) : BookM G Unit :=
  modifyBooks fun b => { b with made := b.made + x.toFinset.val }

def enterReleased (x : Option Obj) : BookM G Unit :=
  modifyBooks fun b => { b with released := b.released + x.toFinset.val }

/-- `Lifecycle.create`, entered. -/
def create (o : Outcomes) (kind : Kind) : BookM G (Option Obj) := do
  let x ← lift (Lifecycle.create o kind)
  enterMade x
  return x

/-- `Lifecycle.duplicateString`, entered. -/
def duplicateString (o : Outcomes) (kind : Kind) (value : String) :
    BookM G (Option (Owned String)) := do
  let x ← create o kind
  return x.map (⟨value, ·⟩)

/-- `Lifecycle.deallocate`, entered. -/
def deallocate (x : Option Obj) : BookM G Unit := do
  lift (Lifecycle.deallocate x)
  enterReleased x

/-- `Lifecycle.ddsDelete`, entered. -/
def ddsDelete (o : Outcomes) (x : Obj) : BookM G Bool := do
  let ok ← lift (Lifecycle.ddsDelete o x)
  enterReleased (some x)
  return ok

/-! ## The smaller programs -/

/-- The program does to the state of `Lifecycle` what the other one does. -/
abbrev Extends (x : BookM G α) (y : RmwM α) : Prop := Follows World.state x y

theorem extends_lift (x : RmwM α) : Extends (lift x : BookM G α) x := fun _ => rfl

theorem extends_create (o : Outcomes) (kind : Kind) :
    Extends (create o kind : BookM G _) (Lifecycle.create o kind) := fun _ => rfl

theorem extends_duplicateString (o : Outcomes) (kind : Kind) (value : String) :
    Extends (duplicateString o kind value : BookM G _) (Lifecycle.duplicateString o kind value) :=
  fun _ => rfl

theorem extends_deallocate (x : Option Obj) :
    Extends (deallocate x : BookM G _) (Lifecycle.deallocate x) := fun _ => rfl

theorem extends_ddsDelete (o : Outcomes) (x : Obj) :
    Extends (ddsDelete o x : BookM G _) (Lifecycle.ddsDelete o x) := fun _ => rfl

theorem extends_modifyEntities (f : Entities → Entities) :
    Extends (modifyEntities f : BookM G _) (Lifecycle.modifyEntities f) := extends_lift _

/-! ## Entries -/

/-- What a call has entered in the books. -/
structure Entry (w : World G) (made released : Multiset Obj) (w' : World G) : Prop where
  made_eq : w'.books.made = w.books.made + made
  released_eq : w'.books.released = w.books.released + released
  next_le : w.state.heap.next ≤ w'.state.heap.next
  fresh : ∀ x ∈ made, w.state.heap.next ≤ x.address ∧ x.address < w'.state.heap.next
  nodup : made.Nodup
  impl : w'.state.impl = w.state.impl

/-- An entry of a call that changes neither the registry of entities nor the
graph. -/
structure Quiet (w : World G) (made released : Multiset Obj) (w' : World G) : Prop extends
    Entry w made released w' where
  entities : w'.state.entities = w.state.entities
  graph : w'.books.graph = w.books.graph

/-- An entry of a call that changes nothing else in the books. -/
structure Silent (w : World G) (made released : Multiset Obj) (w' : World G) : Prop extends
    Quiet w made released w' where
  readerGuids : w'.books.readerGuids = w.books.readerGuids

section

variable {w w₁ w' : World G} {made made' released released' : Multiset Obj}

theorem Entry.trans (h : Entry w made released w₁) (h' : Entry w₁ made' released' w') :
    Entry w (made + made') (released + released') w' where
  made_eq := by rw [h'.made_eq, h.made_eq, add_assoc]
  released_eq := by rw [h'.released_eq, h.released_eq, add_assoc]
  next_le := h.next_le.trans h'.next_le
  fresh := by
    intro x hx
    rcases Multiset.mem_add.mp hx with hx | hx
    · exact ⟨(h.fresh x hx).1, (h.fresh x hx).2.trans_le h'.next_le⟩
    · exact ⟨h.next_le.trans (h'.fresh x hx).1, (h'.fresh x hx).2⟩
  nodup := by
    refine Multiset.nodup_add.mpr ⟨h.nodup, h'.nodup, Multiset.disjoint_left.mpr fun hx hx' => ?_⟩
    exact absurd (h.fresh _ hx).2 (Nat.not_lt.mpr (h'.fresh _ hx').1)
  impl := h'.impl.trans h.impl

theorem Quiet.trans (h : Quiet w made released w₁) (h' : Quiet w₁ made' released' w') :
    Quiet w (made + made') (released + released') w' where
  toEntry := h.toEntry.trans h'.toEntry
  entities := h'.entities.trans h.entities
  graph := h'.graph.trans h.graph

theorem Silent.trans (h : Silent w made released w₁) (h' : Silent w₁ made' released' w') :
    Silent w (made + made') (released + released') w' where
  toQuiet := h.toQuiet.trans h'.toQuiet
  readerGuids := h'.readerGuids.trans h.readerGuids

theorem Entry.congr (h : Entry w made released w') (hmade : made = made')
    (hreleased : released = released') : Entry w made' released' w' := hmade ▸ hreleased ▸ h

theorem Quiet.congr (h : Quiet w made released w') (hmade : made = made')
    (hreleased : released = released') : Quiet w made' released' w' := hmade ▸ hreleased ▸ h

theorem Silent.congr (h : Silent w made released w') (hmade : made = made')
    (hreleased : released = released') : Silent w made' released' w' := hmade ▸ hreleased ▸ h

/-- Nothing made and nothing released. -/
theorem Entry.nil (hbooks : w'.books.made = w.books.made ∧ w'.books.released = w.books.released)
    (hheap : w'.state.heap = w.state.heap) (himpl : w'.state.impl = w.state.impl) :
    Entry w 0 0 w' where
  made_eq := by rw [hbooks.1, add_zero]
  released_eq := by rw [hbooks.2, add_zero]
  next_le := by rw [hheap]
  fresh := by simp
  nodup := Multiset.nodup_zero
  impl := himpl

theorem Entry.withEntities (w : World G) (e : Entities) : Entry w 0 0 (w.withEntities e) :=
  .nil ⟨rfl, rfl⟩ rfl rfl

theorem Entry.withGraph (w : World G) (graph : G) : Entry w 0 0 (w.withGraph graph) :=
  .nil ⟨rfl, rfl⟩ rfl rfl

theorem Silent.refl (w : World G) : Silent w 0 0 w :=
  ⟨⟨.nil ⟨rfl, rfl⟩ rfl rfl, rfl, rfl⟩, rfl⟩

/-- What is made in a call is not live before it. -/
theorem Entry.notMem (h : Entry w made released w') {x : Obj} (hx : x ∈ made) :
    x ∉ w.state.heap.live :=
  fun hlive => Nat.not_lt.mpr (h.fresh x hx).1 (w.state.heap.fresh x hlive)

/-- A call that fails has left everything as it was, and has released all that
it made, once. -/
structure Undone (g : LocalGraph G) (w w' : World G) : Prop where
  entities : w'.state.entities = w.state.entities
  live : w'.state.heap.live = w.state.heap.live
  released : ∃ xs : Multiset Obj, xs.Nodup ∧ w'.books.made = w.books.made + xs ∧
    w'.books.released = w.books.released + xs
  graphEntities : g.entities w'.books.graph = g.entities w.books.graph
  associations : g.associations w'.books.graph = g.associations w.books.graph
  nodes : g.nodes w'.books.graph = g.nodes w.books.graph

end

/-- The states of sessions are registered. -/
theorem registered_of_reachable {σ : Session} (hσ : σ.Reachable) : σ.state.Registered := by
  obtain ⟨orphans, hsound⟩ := hσ.sound
  exact hsound.sound.registry.registered

/-- A context after its initialization, with empty books. -/
def initialWorld : World Tables := ⟨Session.initial.state, ⟨.empty, fun _ => none, 0, 0⟩⟩

theorem registered_initialWorld : initialWorld.state.Registered :=
  registered_of_reachable (.begin Session.initial_begins)

/-! ## Specifications -/

section Specifications

/-- From a specification to a run. -/
theorem run_of_spec {x : BookM G α} {w : World G} {Q : α → World G → Prop}
    (h : ⦃fun w' => ⌜w' = w⌝⦄ x ⦃⇓ a w' => ⌜Q a w'⌝⦄) : Q (x.run w).1 (x.run w).2 := h w rfl

variable (o : Outcomes) (w : World G)

@[spec] theorem lift_spec (x : RmwM α) :
    ⦃fun w' => ⌜w' = w⌝⦄ (lift x : BookM G α)
    ⦃⇓ a w' => ⌜a = (x.run w.state).1 ∧ w' = { w with state := (x.run w.state).2 }⌝⦄ := by
  intro w' hw
  obtain rfl : w' = w := hw
  exact ⟨rfl, rfl⟩

@[spec] theorem modifyEntities_spec (f : Entities → Entities) :
    ⦃fun w' => ⌜w' = w⌝⦄ (modifyEntities f : BookM G Unit)
    ⦃⇓ _ w' => ⌜w' = w.withEntities (f w.state.entities)⌝⦄ := by
  intro w' hw
  obtain rfl : w' = w := hw
  exact rfl

@[spec] theorem modifyGraph_spec (f : G → G) :
    ⦃fun w' => ⌜w' = w⌝⦄ modifyGraph f ⦃⇓ _ w' => ⌜w' = w.withGraph (f w.books.graph)⌝⦄ := by
  intro w' hw
  obtain rfl : w' = w := hw
  exact rfl

@[spec] theorem modifyBooks_spec (f : Books G → Books G) :
    ⦃fun w' => ⌜w' = w⌝⦄ modifyBooks f ⦃⇓ _ w' => ⌜w' = { w with books := f w.books }⌝⦄ := by
  mvcgen [modifyBooks]
  next w1 hw _ =>
    subst hw
    rfl

@[spec] theorem create_spec (kind : Kind) :
    ⦃fun w' => ⌜w' = w⌝⦄ create o kind
    ⦃⇓ x w' => ⌜Silent w x.toFinset.val 0 w' ∧ x.isSome = o (.create kind)⌝⦄ := by
  mvcgen [create, enterMade]
  next w1 hw x w2 h2 _ w3 h3 =>
    subst hw h3
    obtain ⟨rfl, rfl⟩ := h2
    cases hcreate : o (.create kind) with
    | false =>
        simp only [Lifecycle.create, hcreate]
        exact ⟨⟨⟨.nil ⟨add_zero _, rfl⟩ rfl rfl, rfl, rfl⟩, rfl⟩, rfl⟩
    | true =>
        simp only [Lifecycle.create, hcreate]
        refine ⟨⟨⟨⟨rfl, by simp, Nat.le_succ _, ?_, Multiset.nodup_singleton _, rfl⟩, rfl, rfl⟩,
          rfl⟩, rfl⟩
        intro x hx
        obtain rfl := Multiset.mem_singleton.mp hx
        exact ⟨Nat.le_refl _, Nat.lt_succ_self _⟩

@[spec] theorem duplicateString_spec (kind : Kind) (value : String) :
    ⦃fun w' => ⌜w' = w⌝⦄ duplicateString o kind value
    ⦃⇓ x w' => ⌜Silent w (x.map (·.object)).toFinset.val 0 w' ∧
      x.isSome = o (.create kind)⌝⦄ := by
  mvcgen [duplicateString]
  next w1 hw x w2 hx =>
    subst hw
    obtain ⟨hsilent, hsome⟩ := hx
    refine ⟨?_, by rwa [Option.isSome_map]⟩
    rwa [Option.map_map, show (fun y : Owned String => y.object) ∘ (fun y => ⟨value, y⟩) = id from rfl,
      Option.map_id_fun, id]

@[spec] theorem deallocate_spec (x : Option Obj) :
    ⦃fun w' => ⌜w' = w⌝⦄ deallocate x ⦃⇓ _ w' => ⌜Silent w 0 x.toFinset.val w'⌝⦄ := by
  mvcgen [deallocate, enterReleased]
  next w1 hw _ w2 _ w3 h2 =>
    intro h3
    subst hw h3
    obtain ⟨-, rfl⟩ := h2
    exact ⟨⟨⟨by simp, rfl, Nat.le_refl _, by simp, Multiset.nodup_zero, rfl⟩, rfl, rfl⟩, rfl⟩

@[spec] theorem ddsDelete_spec (x : Obj) :
    ⦃fun w' => ⌜w' = w⌝⦄ ddsDelete o x ⦃⇓ _ w' => ⌜Silent w 0 {x} w'⌝⦄ := by
  mvcgen [ddsDelete, enterReleased]
  next w1 hw ok w2 h2 _ w3 h3 =>
    subst hw h3
    obtain ⟨-, rfl⟩ := h2
    exact ⟨⟨⟨by simp, rfl, Nat.le_refl _, by simp, Multiset.nodup_zero, rfl⟩, rfl, rfl⟩, rfl⟩

end Specifications

end RmwZzdds.Registration
