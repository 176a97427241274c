import Mathlib
import RmwZzdds.Return
import RmwZzdds.Library.Ownership
import RmwZzdds.Service.Wire

/-!
# Contexts and what they own

The state of one `rmw_context_t`: its heap of objects, the registry of its
entities, and the fields of its implementation.  An object is anything that is
created by a call and has to be destroyed by another: memory from the context's
allocator, an entity of zzdds, the listener thread.

Every call of the program that can fail is a `Step`, and an assignment of
outcomes to the steps decides one run of a function.

*Refused deletions.*  zzdds may refuse to delete an entity.  The code drops its
last reference to the entity all the same, so the entity leaves the heap, and
`refused` remembers that zzdds still has it.
-/

namespace RmwZzdds

open Ownership

namespace Lifecycle

open Service (Guid)

/-- `rmw_zzdds_cpp::identifier`. -/
def identifier : String := "rmw_zzdds_cpp"

/-- The parts of `rmw_init_options_t` that own memory. -/
inductive OptionPart where
  | security
  | discovery
  | enclave
deriving DecidableEq, Repr

/-- The two ends of a ROS service. -/
inductive Role where
  | client
  | service
deriving DecidableEq, Repr

inductive Kind where
  | option (part : OptionPart)
  | contextImpl
  -- the entities of `DdsContext`
  | domainParticipantFactory
  | domainParticipant
  | ddsPublisher
  | ddsSubscriber
  | guardCondition
  | guardConditionImpl
  | rmwGuardCondition
  | waitSet
  | waitSetImpl
  | rmwWaitSet
  | nodeImpl
  | rmwNode
  | nodeName
  | nodeNamespace
  | topic
  | contentFilteredTopic
  | dataWriter
  | dataReader
  | readCondition
  | publisherImpl
  | rmwPublisher
  | subscriptionImpl
  | rmwSubscription
  | topicName
  | serviceImpl
  | rmwServiceEntity (role : Role)
  | serviceName
  | graphGuardHandle
  | thread
deriving DecidableEq, Repr

/-- The kinds of the handles that the program returns to its user. -/
def Kind.isHandle : Kind → Bool
  | .rmwGuardCondition | .rmwWaitSet | .rmwNode | .rmwPublisher | .rmwSubscription
  | .rmwServiceEntity _ => true
  | _ => false

abbrev Obj := Object Kind

/-- `x` is the handle among the objects of an entity. -/
structure IsHandle (kind : Kind) (x : Obj) (xs : Finset Obj) : Prop where
  kind : x.kind = kind
  mem : x ∈ xs
  only : ∀ y ∈ xs, y.kind.isHandle = true → y = x

/-- A value in memory of its own. -/
structure Owned (α : Type) where
  value : α
  object : Obj
deriving DecidableEq

/-! ## Entities -/

/-- `rmw_node_t`. -/
structure Node where
  object : Obj
  implementationIdentifier : Option String
  data : Option Obj
  name : Option (Owned String)
  namespace_ : Option (Owned String)
deriving DecidableEq

structure PublisherImpl where
  object : Obj
  node : Obj
  topic : Obj
  writer : Obj
  rtpsGuid : Guid
deriving DecidableEq

/-- `rmw_publisher_t`. -/
structure Publisher where
  object : Obj
  implementationIdentifier : Option String
  data : Option PublisherImpl
  topicName : Option Obj
deriving DecidableEq

structure SubscriptionImpl where
  object : Obj
  node : Obj
  topic : Obj
  filteredTopic : Obj
  reader : Obj
  readCondition : Obj
deriving DecidableEq

/-- `rmw_subscription_t`. -/
structure Subscription where
  object : Obj
  implementationIdentifier : Option String
  data : Option SubscriptionImpl
  topicName : Option Obj
deriving DecidableEq

structure ServiceImpl where
  object : Obj
  node : Obj
  publisher : Publisher
  subscription : Subscription
deriving DecidableEq

/-- `rmw_client_t` and `rmw_service_t`.  A client's publisher is for its
requests and a service's for its responses. -/
structure ServiceEntity where
  object : Obj
  implementationIdentifier : Option String
  data : Option ServiceImpl
  serviceName : Option Obj
deriving DecidableEq

structure GuardConditionImpl where
  object : Obj
  native : Option Obj
deriving DecidableEq

/-- `rmw_guard_condition_t`. -/
structure GuardCondition where
  object : Obj
  implementationIdentifier : Option String
  data : Option GuardConditionImpl
deriving DecidableEq

structure WaitSetImpl where
  object : Obj
  native : Obj
deriving DecidableEq

/-- `rmw_wait_set_t`. -/
structure WaitSet where
  object : Obj
  implementationIdentifier : Option String
  data : Option WaitSetImpl
deriving DecidableEq

/-- The fields of `ContextImpl` that creation and destruction of entities
maintain.  `underflow` says whether `active_entities` was ever decremented at
zero. -/
structure Entities where
  nodes : Finset Node
  publishers : Finset Publisher
  subscriptions : Finset Subscription
  clients : Finset ServiceEntity
  services : Finset ServiceEntity
  localPublicationGuids : Finset Guid
  activeEntities : ℕ
  underflow : Bool
deriving DecidableEq

namespace Entities

def empty : Entities := ⟨∅, ∅, ∅, ∅, ∅, ∅, 0, false⟩

variable (e : Entities)

def addNode (node : Node) : Entities := { e with nodes := insert node e.nodes }

def removeNode (node : Node) : Entities := { e with nodes := e.nodes.erase node }

def addGuid (guid : Guid) : Entities :=
  { e with localPublicationGuids := insert guid e.localPublicationGuids }

def removeGuid (guid : Guid) : Entities :=
  { e with localPublicationGuids := e.localPublicationGuids.erase guid }

def addPublisher (p : Publisher) : Entities := { e with publishers := insert p e.publishers }

def removePublisher (p : Publisher) : Entities := { e with publishers := e.publishers.erase p }

def addSubscription (p : Subscription) : Entities :=
  { e with subscriptions := insert p e.subscriptions }

def removeSubscription (p : Subscription) : Entities :=
  { e with subscriptions := e.subscriptions.erase p }

/-- The set of clients or of services. -/
def ends : Role → Finset ServiceEntity
  | .client => e.clients
  | .service => e.services

def addEnd (role : Role) (x : ServiceEntity) : Entities :=
  match role with
  | .client => { e with clients := insert x e.clients }
  | .service => { e with services := insert x e.services }

def removeEnd (role : Role) (x : ServiceEntity) : Entities :=
  match role with
  | .client => { e with clients := e.clients.erase x }
  | .service => { e with services := e.services.erase x }

/-- `++active_entities`, as often as something was created. -/
def enter (n : ℕ) : Entities := { e with activeEntities := e.activeEntities + n }

/-- `--active_entities`. -/
def leave : Entities := { e with
  activeEntities := e.activeEntities - 1
  underflow := e.underflow || e.activeEntities = 0 }

end Entities

/-! ## The context -/

/-- `rmw_security_enforcement_policy_t`. -/
inductive EnforceSecurity where
  | permissive
  | enforce
deriving DecidableEq

structure SecurityOptions where
  enforceSecurity : EnforceSecurity
  securityRootPath : Option (Owned String)
deriving DecidableEq

structure DiscoveryOptions where
  automaticDiscoveryRange : ℕ
  staticPeers : Option (Owned (List String))
deriving DecidableEq

/-- `rmw_init_options_t`. -/
structure InitOptions where
  instanceId : ℕ
  implementationIdentifier : Option String
  domainId : ℕ
  securityOptions : SecurityOptions
  discoveryOptions : DiscoveryOptions
  enclave : Option (Owned String)
deriving DecidableEq

/-- `rmw_get_zero_initialized_init_options`. -/
def InitOptions.zero : InitOptions where
  instanceId := 0
  implementationIdentifier := none
  domainId := 0
  securityOptions := ⟨.permissive, none⟩
  discoveryOptions := ⟨0, none⟩
  enclave := none

/-- `rmw_context_t`. -/
structure Context where
  instanceId : ℕ
  implementationIdentifier : Option String
  options : InitOptions
  actualDomainId : ℕ
  impl : Option Obj
deriving DecidableEq

/-- `rmw_get_zero_initialized_context`. -/
def Context.zero : Context := ⟨0, none, .zero, 0, none⟩

structure DdsContext where
  factory : Option Obj
  participant : Option Obj
  publisher : Option Obj
  subscriber : Option Obj
deriving DecidableEq

/-- A running or finished `std::thread` that has not been joined, with the wait
set its code holds. -/
structure ListenerThread where
  object : Obj
  waitSet : Option WaitSet
deriving DecidableEq

/-- The fields of `rmw_dds_common::Context` that the graph channel uses.
`publishCallback` says whether the callback is set. -/
structure Common where
  pub : Option Publisher
  sub : Option Subscription
  listenerThreadGc : Option GuardCondition
  publishCallback : Bool
  threadIsRunning : Bool
  listenerThread : Option ListenerThread
deriving DecidableEq

structure ContextImpl where
  dds : DdsContext
  common : Common
  graphGuardNative : Option Obj
  graphGuardImpl : Option GuardConditionImpl
  graphGuardHandle : Option GuardCondition
  graphNode : Option Node
  suppressGraphUpdates : Bool
  shutdown : Bool
deriving DecidableEq

/-- The fields as the constructor leaves them. -/
def ContextImpl.new : ContextImpl where
  dds := ⟨none, none, none, none⟩
  common := ⟨none, none, none, false, false, none⟩
  graphGuardNative := none
  graphGuardImpl := none
  graphGuardHandle := none
  graphNode := none
  suppressGraphUpdates := false
  shutdown := false

/-- `impl` and `entities` are the object at `context.impl`. -/
structure State where
  heap : Heap Kind
  refused : Finset Obj
  entities : Entities
  context : Context
  impl : ContextImpl

abbrev RmwM := StateM State

/-! ## Outcomes -/

inductive Step where
  -- an allocation, or a creation by zzdds
  | create (kind : Kind)
  | delete (kind : Kind)
  | deleteContained (kind : Kind)
  | validNodeName
  | validNamespace
  | insertNode
  | addNodeGraphReturns
  | addNodeGraph
  | validateTopic
  | supportedOptions
  | resolveTypeSupport
  | ddsTopicName
  | registerTypeSupport
  | applyQos
  | attachTypeHash
  | guid
  | insertGuid
  | insertEndpoint
  | addEntityReturns
  | addEndpointGraph
  | resolveServiceTypeSupport
  | serviceTopics
  | insertServiceEntity
  | participantExtension
  | getRtpsGuid
  | startup
deriving DecidableEq

/-- Which steps of one call succeed. -/
abbrev Outcomes := Step → Bool

/-- The graph update of a call reports its failure and does not throw. -/
def GraphReturns (o : Outcomes) (s : State) : Prop :=
  s.impl.suppressGraphUpdates = true ∨ (o .addNodeGraphReturns = true ∧ o .addEntityReturns = true)

/-! ## Objects come and go -/

namespace State

/-- An initialized context of this implementation. -/
def validContext (s : State) : Bool :=
  s.context.impl.isSome && s.context.implementationIdentifier = some identifier

/-- A context that admits new entities. -/
def accepts (s : State) : Bool := s.validContext && !s.impl.shutdown

/-- Every registered handle is live. -/
structure Registered (s : State) : Prop where
  nodes : ∀ n ∈ s.entities.nodes, n.object ∈ s.heap.live
  publishers : ∀ p ∈ s.entities.publishers, p.object ∈ s.heap.live
  subscriptions : ∀ p ∈ s.entities.subscriptions, p.object ∈ s.heap.live
  ends : ∀ role, ∀ x ∈ s.entities.ends role, x.object ∈ s.heap.live

/-- The state with another registry of entities. -/
def withEntities (s : State) (e : Entities) : State := { s with entities := e }

/-- The state without some objects. -/
def free (s : State) (xs : Finset Obj) : State := { s with heap := s.heap.free xs }

@[simp] theorem entities_withEntities (s : State) (e : Entities) :
    (s.withEntities e).entities = e := rfl

@[simp] theorem withEntities_withEntities (s : State) (e e' : Entities) :
    (s.withEntities e).withEntities e' = s.withEntities e' := rfl

@[simp] theorem withEntities_self (s : State) : s.withEntities s.entities = s := rfl

@[simp] theorem impl_withEntities (s : State) (e : Entities) :
    (s.withEntities e).impl = s.impl := rfl

@[simp] theorem entities_free (s : State) (xs : Finset Obj) :
    (s.free xs).entities = s.entities := rfl

@[simp] theorem free_withEntities (s : State) (e : Entities) (xs : Finset Obj) :
    (s.withEntities e).free xs = (s.free xs).withEntities e := rfl

@[simp] theorem free_free (s : State) (xs ys : Finset Obj) :
    (s.free xs).free ys = s.free (xs ∪ ys) := by
  simp [free]

/-- The state after the deletion of a zzdds entity. -/
def delete (o : Outcomes) (s : State) (x : Obj) : State := { s with
  heap := s.heap.free {x}
  refused := if o (.delete x.kind) then s.refused else insert x s.refused }

@[simp] theorem entities_delete (o : Outcomes) (s : State) (x : Obj) :
    (s.delete o x).entities = s.entities := rfl

end State

def modifyEntities (f : Entities → Entities) : RmwM Unit :=
  modify fun s => s.withEntities (f s.entities)

/-- Memory from the allocator, or an entity from zzdds. -/
def create (o : Outcomes) (kind : Kind) : RmwM (Option Obj) := do
  if o (.create kind) then
    let s ← get
    set { s with heap := s.heap.allocate kind }
    return some (s.heap.new kind)
  else
    return none

/-- `duplicate_string`. -/
def duplicateString (o : Outcomes) (kind : Kind) (value : String) :
    RmwM (Option (Owned String)) := do
  let x ← create o kind
  return x.map (⟨value, ·⟩)

/-- `deallocate_object`, and the destruction of a zzdds object that cannot be
refused. -/
def deallocate (x : Option Obj) : RmwM Unit := modify fun s => s.free x.toFinset

/-- Deletion of an entity by zzdds. -/
def ddsDelete (o : Outcomes) (x : Obj) : RmwM Bool := do
  modify fun s => s.delete o x
  return o (.delete x.kind)

/-! ## The effect of a call -/

/-- A call has left the objects `xs` behind, and nothing else but entities of
the kinds in `R`, which zzdds has refused to delete. -/
structure Effect (R : Kind → Prop) (s : State) (xs : Finset Obj) (s' : State) : Prop where
  owns : s.heap.Owns xs s'.heap
  refused : ∀ x ∈ s'.refused, x ∈ s.refused ∨ R x.kind
  context : s'.context = s.context
  impl : s'.impl = s.impl

/-- The kinds of entities that zzdds refuses to delete in a call. -/
def Refuses (o : Outcomes) (kind : Kind) : Prop := o (.delete kind) = false

theorem State.refused_delete {o : Outcomes} {s : State} {x y : Obj}
    (h : x ∈ (s.delete o y).refused) : x ∈ s.refused ∨ Refuses o x.kind := by
  simp only [State.delete] at h
  split at h
  · exact .inl h
  next hrefused =>
    rcases Finset.mem_insert.mp h with rfl | h
    · exact .inr (Bool.eq_false_of_not_eq_true hrefused)
    · exact .inl h

namespace Effect

variable {R : Kind → Prop} {o : Outcomes} {s s' s'' : State} {xs ys : Finset Obj}

theorem refl (R : Kind → Prop) (s : State) : Effect R s ∅ s where
  owns := .refl _
  refused := fun _ hx => .inl hx
  context := rfl
  impl := rfl

theorem trans (h : Effect R s xs s') (h' : Effect R s' ys s'') : Effect R s (xs ∪ ys) s'' where
  owns := h.owns.trans h'.owns
  refused x hx := by
    rcases h'.refused x hx with hx | hx
    · exact h.refused x hx
    · exact .inr hx
  context := h'.context.trans h.context
  impl := h'.impl.trans h.impl

theorem free (h : Effect R s xs s') (hys : ys ⊆ xs) : Effect R s (xs \ ys) (s'.free ys) where
  owns := h.owns.free ys (h.owns.disjoint.mono_right hys)
  refused := h.refused
  context := h.context
  impl := h.impl

theorem notMem (h : Effect R s xs s') {x : Obj} (hx : x ∈ xs) : x ∉ s.heap.live :=
  Finset.disjoint_right.mp h.owns.disjoint hx

theorem deallocate (h : Effect R s xs s') {x : Obj} (hx : x ∉ s.heap.live) :
    Effect R s (xs \ {x}) (s'.free {x}) where
  owns := h.owns.free {x} (Finset.disjoint_singleton_right.mpr hx)
  refused := h.refused
  context := h.context
  impl := h.impl

theorem delete (h : Effect (Refuses o) s xs s') {x : Obj} (hx : x ∉ s.heap.live) :
    Effect (Refuses o) s (xs \ {x}) (s'.delete o x) where
  owns := h.owns.free {x} (Finset.disjoint_singleton_right.mpr hx)
  refused y hy := by
    rcases State.refused_delete hy with hy | hrefused
    · exact h.refused y hy
    · exact .inr hrefused
  context := h.context
  impl := h.impl

theorem congr (h : Effect R s xs s') (hxs : xs = ys) : Effect R s ys s' := hxs ▸ h

theorem withEntities (h : Effect R s xs s') (e : Entities) :
    Effect R s xs (s'.withEntities e) := ⟨h.owns, h.refused, h.context, h.impl⟩

theorem graphReturns (h : Effect R s xs s') (hreturns : GraphReturns o s) :
    GraphReturns o s' := by
  rwa [GraphReturns, h.impl]

/-- A call that gives back all it made. -/
theorem undo (h : Effect R s xs s') (hys : ys = xs) : Effect R s ∅ (s'.free ys) := by
  subst hys
  exact (h.free (Finset.Subset.refl ys)).congr (Finset.sdiff_self ys)

end Effect

/-! ## Specifications -/

/-- A creation leaves the object it returns, if any. -/
structure Creates (o : Outcomes) (kind : Kind) (s : State) (x : Option Obj) (s' : State) :
    Prop where
  effect : Effect (Refuses o) s x.toFinset s'
  entities : s'.entities = s.entities
  isSome : x.isSome = o (.create kind)
  kind : ∀ y ∈ x, y.kind = kind

section Specifications

open Std.Do

set_option mvcgen.warning false

variable (o : Outcomes) (s : State)

/-- From a specification to a run. -/
theorem run_of_spec {α : Type} {x : RmwM α} {s : State} {Q : α → State → Prop}
    (h : ⦃fun s' => ⌜s' = s⌝⦄ x ⦃⇓ a s' => ⌜Q a s'⌝⦄) : Q (x.run s).1 (x.run s).2 := h s rfl

@[spec] theorem create_spec (kind : Kind) :
    ⦃fun s' => ⌜s' = s⌝⦄ create o kind ⦃⇓ x s' => ⌜Creates o kind s x s'⌝⦄ := by
  mvcgen [create]
  next hcreate s1 hs =>
    subst hs
    refine ⟨⟨.allocate _ _, fun _ hx => .inl hx, rfl, rfl⟩, rfl, hcreate.symm, ?_⟩
    rintro y ⟨⟩
    rfl
  next hcreate s1 hs =>
    subst hs
    simp only [Bool.not_eq_true] at hcreate
    exact ⟨.refl _ _, rfl, hcreate.symm, by simp⟩

@[spec] theorem duplicateString_spec (kind : Kind) (value : String) :
    ⦃fun s' => ⌜s' = s⌝⦄ duplicateString o kind value
    ⦃⇓ x s' => ⌜Creates o kind s (x.map (·.object)) s'⌝⦄ := by
  mvcgen [duplicateString]
  next s1 hs x s2 hx =>
    subst hs
    simpa [Option.map_map, Function.comp_def] using hx

@[spec] theorem deallocate_spec (x : Option Obj) :
    ⦃fun s' => ⌜s' = s⌝⦄ deallocate x ⦃⇓ _ s' => ⌜s' = s.free x.toFinset⌝⦄ := by
  mvcgen [deallocate]
  next s1 hs _ =>
    subst hs
    rfl

@[spec] theorem ddsDelete_spec (x : Obj) :
    ⦃fun s' => ⌜s' = s⌝⦄ ddsDelete o x
    ⦃⇓ ok s' => ⌜s' = s.delete o x ∧ ok = o (.delete x.kind)⌝⦄ := by
  mvcgen [ddsDelete]
  next s1 hs _ =>
    subst hs
    rfl

@[spec] theorem modifyEntities_spec (f : Entities → Entities) :
    ⦃fun s' => ⌜s' = s⌝⦄ modifyEntities f
    ⦃⇓ _ s' => ⌜s' = s.withEntities (f s.entities)⌝⦄ := by
  mvcgen [modifyEntities]
  next s1 hs _ =>
    subst hs
    rfl

end Specifications

end Lifecycle

end RmwZzdds
