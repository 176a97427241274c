import Mathlib.Data.Set.Basic
import Mathlib.Logic.Function.Basic
import RmwZzdds.Graph.Names
import RmwZzdds.Service.Wire

/-!
# The graph cache

The graph cache belongs to `rmw_dds_common`.  It holds the endpoints and, for
each participant, the nodes it has told of.  `GraphCache` is the part of it
that discovery uses, with two ways to look into it, and `Lawful` is what its
documentation says.

`Tables` is a cache that keeps plain tables.
-/

namespace RmwZzdds.Graph

open Service (Guid)

/-! ## Endpoints -/

/-- The reliability of an endpoint. -/
inductive Reliability where
  | reliable
  | bestEffort
deriving DecidableEq, Repr

/-- The durability of an endpoint, as far as rmw tells it apart. -/
inductive Durability where
  | volatile
  | transientLocal
deriving DecidableEq, Repr

/-- The liveliness of an endpoint, as far as rmw tells it apart. -/
inductive Liveliness where
  | automatic
  | manualByTopic
deriving DecidableEq, Repr

/-- `rmw_qos_profile_t`, with the fields in which a discovered endpoint differs
from the default. -/
structure Qos where
  reliability : Reliability
  durability : Durability
  liveliness : Liveliness
deriving DecidableEq, Repr

/-- What the cache knows of an endpoint besides its GUID. -/
structure EntityInfo (TypeHash : Type*) where
  topicName : Name
  typeName : Name
  typeHash : TypeHash
  participant : Guid
  qos : Qos
  serviceTypeHash : Option TypeHash

/-- `rmw_dds_common::msg::ParticipantEntitiesInfo`. -/
structure ParticipantEntitiesInfo (Node : Type*) where
  gid : Guid
  nodeEntitiesInfoSeq : List Node

/-! ## The cache -/

/-- `rmw_dds_common::GraphCache`.  An endpoint is told apart by its GUID and by
whether it is a reader. -/
structure GraphCache (Cache TypeHash Node : Type*) where
  /-- The second component says whether the cache was updated. -/
  addEntity : Guid → EntityInfo TypeHash → Bool → Cache → Cache × Bool
  /-- The second component says whether the endpoint was there. -/
  removeEntity : Guid → Bool → Cache → Cache × Bool
  addParticipant : Guid → Name → Cache → Cache
  updateParticipantEntities : ParticipantEntitiesInfo Node → Cache → Cache
  /-- The readers, or the writers, in the cache. -/
  entities : Cache → Bool → Set Guid
  /-- The nodes of a participant, if the cache has an entry for it. -/
  participant : Cache → Guid → Option (List Node)

/-- What the documentation of the graph cache says. -/
structure GraphCache.Lawful {Cache TypeHash Node : Type*}
    (graph : GraphCache Cache TypeHash Node) : Prop where
  entities_addEntity : ∀ guid info readers cache,
    graph.entities (graph.addEntity guid info readers cache).1 =
      Function.update (graph.entities cache) readers (insert guid (graph.entities cache readers))
  addEntity_updated : ∀ guid info readers cache,
    (graph.addEntity guid info readers cache).2 = true ↔ guid ∉ graph.entities cache readers
  entities_removeEntity : ∀ guid readers cache,
    graph.entities (graph.removeEntity guid readers cache).1 =
      Function.update (graph.entities cache) readers (graph.entities cache readers \ {guid})
  removeEntity_updated : ∀ guid readers cache,
    (graph.removeEntity guid readers cache).2 = true ↔ guid ∈ graph.entities cache readers
  entities_addParticipant : ∀ guid enclave cache,
    graph.entities (graph.addParticipant guid enclave cache) = graph.entities cache
  entities_updateParticipantEntities : ∀ message cache,
    graph.entities (graph.updateParticipantEntities message cache) = graph.entities cache
  participant_addEntity : ∀ guid info readers cache,
    graph.participant (graph.addEntity guid info readers cache).1 = graph.participant cache
  participant_removeEntity : ∀ guid readers cache,
    graph.participant (graph.removeEntity guid readers cache).1 = graph.participant cache
  participant_addParticipant : ∀ guid enclave cache,
    graph.participant (graph.addParticipant guid enclave cache) =
      Function.update (graph.participant cache) guid
        (some ((graph.participant cache guid).getD []))
  participant_updateParticipantEntities : ∀ message cache,
    graph.participant (graph.updateParticipantEntities message cache) =
      Function.update (graph.participant cache) message.gid (some message.nodeEntitiesInfoSeq)

/-! ## Plain tables -/

/-- A graph cache of plain tables. -/
structure Tables (TypeHash Node : Type*) where
  entity : Bool → Guid → Option (EntityInfo TypeHash)
  participant : Guid → Option (List Node)

namespace Tables

variable {TypeHash Node : Type*}

/-- Nothing in it. -/
def empty : Tables TypeHash Node where
  entity _ _ := none
  participant _ := none

/-- The same tables with another entry for an endpoint. -/
def withEntity (t : Tables TypeHash Node) (readers : Bool) (guid : Guid)
    (entry : Option (EntityInfo TypeHash)) : Tables TypeHash Node :=
  { t with
    entity := Function.update t.entity readers (Function.update (t.entity readers) guid entry) }

/-- The operations of the cache on tables. -/
def graphCache : GraphCache (Tables TypeHash Node) TypeHash Node where
  addEntity guid info readers t :=
    match t.entity readers guid with
    | some _ => (t, false)
    | none => (t.withEntity readers guid (some info), true)
  removeEntity guid readers t :=
    (t.withEntity readers guid none, (t.entity readers guid).isSome)
  addParticipant guid _ t :=
    { t with
      participant :=
        Function.update t.participant guid (some ((t.participant guid).getD [])) }
  updateParticipantEntities message t :=
    { t with
      participant :=
        Function.update t.participant message.gid (some message.nodeEntitiesInfoSeq) }
  entities t readers := {guid | (t.entity readers guid).isSome}
  participant t := t.participant

theorem entities_withEntity (t : Tables TypeHash Node) (readers : Bool) (guid : Guid)
    (entry : Option (EntityInfo TypeHash)) :
    graphCache.entities (t.withEntity readers guid entry) =
      Function.update (graphCache.entities t) readers
        (if entry.isSome then insert guid (graphCache.entities t readers)
          else graphCache.entities t readers \ {guid}) := by
  funext readers'
  by_cases hreaders : readers' = readers
  · subst hreaders
    rw [Function.update_self]
    ext guid'
    by_cases hguid : guid' = guid
    · subst hguid
      cases entry <;> simp [graphCache, withEntity]
    · cases entry <;> simp [graphCache, withEntity, hguid]
  · rw [Function.update_of_ne hreaders]
    simp [graphCache, withEntity, hreaders]

theorem lawful : (graphCache : GraphCache (Tables TypeHash Node) TypeHash Node).Lawful where
  entities_addEntity guid info readers t := by
    cases hentry : t.entity readers guid with
    | none =>
        simp only [graphCache, hentry]
        exact entities_withEntity t readers guid (some info)
    | some old =>
        have hmem : guid ∈ graphCache.entities t readers := by simp [graphCache, hentry]
        rw [Set.insert_eq_of_mem hmem, Function.update_eq_self]
        simp [graphCache, hentry]
  addEntity_updated guid info readers t := by
    cases hentry : t.entity readers guid <;> simp [graphCache, hentry]
  entities_removeEntity guid readers t := entities_withEntity t readers guid none
  removeEntity_updated guid readers t := Iff.rfl
  entities_addParticipant _ _ _ := rfl
  entities_updateParticipantEntities _ _ := rfl
  participant_addEntity guid info readers t := by
    cases hentry : t.entity readers guid <;> simp [graphCache, hentry, withEntity]
  participant_removeEntity _ _ _ := rfl
  participant_addParticipant _ _ _ := rfl
  participant_updateParticipantEntities _ _ := rfl

end Tables

end RmwZzdds.Graph
