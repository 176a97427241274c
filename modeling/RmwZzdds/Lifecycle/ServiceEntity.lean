import RmwZzdds.Lifecycle.Registry

/-!
# Clients and services

A client or a service is memory around a publisher and a subscription of its
node.  The two are created and destroyed through the calls of the user, so that
every failure behind the first endpoint has to destroy it again.

The destructions take a node of any context, since they are what rejects the
node of another one.
-/

namespace RmwZzdds

open Ownership Std.Do

namespace Lifecycle

open Service (Guid)

set_option mvcgen.warning false

/-! ## Nodes of any context -/

/-- `rmw_context_t`, as a node refers to it. -/
structure ContextHandle where
  address : ℕ
  impl : Option Obj
deriving DecidableEq

/-- A node with the context it refers to, and the address of the context that
its implementation refers to. -/
structure NodeHandle where
  node : Node
  context : Option ContextHandle
  implContext : Option ℕ
deriving DecidableEq

namespace NodeHandle

variable (n : NodeHandle)

/-- The implementation of the node's context. -/
def contextImpl : Option Obj := n.context.bind (·.impl)

/-- `valid_node`. -/
def valid : Bool :=
  n.node.implementationIdentifier = some identifier && n.node.data.isSome && n.contextImpl.isSome

end NodeHandle

/-- The checks of both destructions before the one of the context.  An endpoint
stands for its identifier and whether it has data. -/
def endpointChecks (node : Option NodeHandle) (endpoint : Option (Option String × Bool)) :
    Except Ret NodeHandle := do
  let (some node, some (implementationIdentifier, hasData)) := (node, endpoint)
    | throw .invalidArgument
  if !hasData then
    throw .invalidArgument
  if node.node.implementationIdentifier ≠ some identifier then
    throw .incorrectRmwImplementation
  if !node.valid then
    throw .invalidArgument
  if implementationIdentifier ≠ some identifier then
    throw .incorrectRmwImplementation
  return node

/-- `rmw_destroy_publisher` for a node of any context. -/
def rmwDestroyPublisherAt (o : Outcomes) (node : Option NodeHandle)
    (publisher : Option Publisher) : RmwM Ret := do
  match endpointChecks node
      (publisher.map fun p => (p.implementationIdentifier, p.data.isSome)) with
  | .error ret => return ret
  | .ok node =>
    if node.implContext ≠ node.context.map (·.address) ||
        (← get).context.impl ≠ node.contextImpl then
      return .invalidArgument
    rmwDestroyPublisher o node.node publisher

/-- `rmw_destroy_subscription` for a node of any context.  It does not look at
the context of the node's implementation. -/
def rmwDestroySubscriptionAt (o : Outcomes) (node : Option NodeHandle)
    (subscription : Option Subscription) : RmwM Ret := do
  match endpointChecks node
      (subscription.map fun p => (p.implementationIdentifier, p.data.isSome)) with
  | .error ret => return ret
  | .ok node =>
    if (← get).context.impl ≠ node.contextImpl then
      return .invalidArgument
    rmwDestroySubscription o node.node subscription

/-- The node passes the checks of `rmw_destroy_subscription`. -/
def NodeHandle.reachesSubscription (s : State) (n : NodeHandle) : Bool :=
  n.valid && s.context.impl = n.contextImpl

/-- The node passes the checks of `rmw_destroy_publisher`. -/
def NodeHandle.reachesPublisher (s : State) (n : NodeHandle) : Bool :=
  n.reachesSubscription s && n.implContext = n.context.map (·.address)

theorem NodeHandle.node_valid {n : NodeHandle} (h : n.valid = true) : n.node.Valid := by
  simp only [NodeHandle.valid, Bool.and_eq_true, decide_eq_true_eq] at h
  exact h.1

/-- The node that passes the checks is the given one. -/
theorem endpointChecks_ok {node : Option NodeHandle} {endpoint : Option (Option String × Bool)}
    {n : NodeHandle} (h : endpointChecks node endpoint = .ok n) :
    node = some n ∧ n.valid = true := by
  unfold endpointChecks at h
  split at h
  next m id data heq heq' =>
    simp only [throw, throwThe, MonadExceptOf.throw, bind, Except.bind, pure, Except.pure] at h
    grind
  · cases h

/-- An endpoint of this implementation is only rejected for its node. -/
theorem endpointChecks_error {node : Option NodeHandle} {ret : Ret}
    (h : endpointChecks node (some (some identifier, true)) = .error ret) :
    node.any (·.valid) = false ∧ ret ≠ .ok := by
  cases node with
  | none =>
    cases h
    simp
  | some n =>
    simp only [endpointChecks, throw, throwThe, MonadExceptOf.throw, bind, Except.bind, pure,
      Except.pure] at h
    grind [NodeHandle.valid]

/-- A destruction that is carried out, or rejected without a trace. -/
structure DestroysIf (accepted : Bool) (Destroys : State → Ret → State → Prop) (s : State)
    (r : Ret) (s' : State) : Prop where
  destroys : accepted = true → Destroys s r s'
  rejects : accepted = false → r ≠ .ok ∧ s' = s

theorem DestroysIf.rejected {Destroys : State → Ret → State → Prop} {s : State} {r : Ret}
    {accepted : Bool} (hrejected : accepted = false) (hr : r ≠ .ok) :
    DestroysIf accepted Destroys s r s :=
  ⟨fun haccepted => by simp [hrejected] at haccepted, fun _ => ⟨hr, rfl⟩⟩

@[spec] theorem rmwDestroyPublisherAt_spec (o : Outcomes) (node : Option NodeHandle)
    (p : Publisher) (s : State) (hp : p.Valid) (hcontext : s.context.impl.isSome) :
    ⦃fun s' => ⌜s' = s⌝⦄ rmwDestroyPublisherAt o node (some p)
    ⦃⇓ r s' => ⌜DestroysIf (node.any (·.reachesPublisher s)) (DestroysPublisher o p) s r s'⌝⦄ := by
  mvcgen [rmwDestroyPublisherAt]
  next ret hchecks s1 hs =>
    subst hs
    rw [Option.map_some, hp.1, hp.2] at hchecks
    obtain ⟨hinvalid, hret⟩ := endpointChecks_error hchecks
    refine .rejected ?_ hret
    cases node <;> simp_all [NodeHandle.reachesPublisher, NodeHandle.reachesSubscription]
  next n hchecks s1 hs hother =>
    subst hs
    obtain ⟨rfl, -⟩ := endpointChecks_ok hchecks
    refine .rejected ?_ nofun
    grind [NodeHandle.reachesPublisher, NodeHandle.reachesSubscription]
  next n hchecks s1 hs _ =>
    obtain ⟨rfl, hvalid⟩ := endpointChecks_ok hchecks
    exact ⟨n.node, rfl, NodeHandle.node_valid hvalid⟩
  next n hchecks s1 hs _ =>
    subst hs
    exact hcontext
  next n hchecks s1 hs hsame r s2 =>
    intro hdestroys
    subst hs
    obtain ⟨rfl, hvalid⟩ := endpointChecks_ok hchecks
    refine ⟨fun _ => hdestroys, fun hrejected => ?_⟩
    grind [NodeHandle.reachesPublisher, NodeHandle.reachesSubscription]

@[spec] theorem rmwDestroySubscriptionAt_spec (o : Outcomes) (node : Option NodeHandle)
    (p : Subscription) (s : State) (hp : p.Valid) (hcontext : s.context.impl.isSome) :
    ⦃fun s' => ⌜s' = s⌝⦄ rmwDestroySubscriptionAt o node (some p)
    ⦃⇓ r s' => ⌜DestroysIf (node.any (·.reachesSubscription s)) (DestroysSubscription o p) s r
      s'⌝⦄ := by
  mvcgen [rmwDestroySubscriptionAt]
  next ret hchecks s1 hs =>
    subst hs
    rw [Option.map_some, hp.1, hp.2] at hchecks
    obtain ⟨hinvalid, hret⟩ := endpointChecks_error hchecks
    refine .rejected ?_ hret
    cases node <;> simp_all [NodeHandle.reachesSubscription]
  next n hchecks s1 hs hother =>
    subst hs
    obtain ⟨rfl, -⟩ := endpointChecks_ok hchecks
    refine .rejected ?_ nofun
    grind [NodeHandle.reachesSubscription]
  next n hchecks s1 hs _ =>
    obtain ⟨rfl, hvalid⟩ := endpointChecks_ok hchecks
    exact ⟨n.node, rfl, NodeHandle.node_valid hvalid⟩
  next n hchecks s1 hs _ =>
    subst hs
    exact hcontext
  next n hchecks s1 hs hsame r s2 =>
    intro hdestroys
    subst hs
    obtain ⟨rfl, hvalid⟩ := endpointChecks_ok hchecks
    refine ⟨fun _ => hdestroys, fun hrejected => ?_⟩
    grind [NodeHandle.reachesSubscription]

/-! ## Creation -/

/-- The calls inside the creation and the destruction of a client or a service
that decide on steps of their own. -/
inductive ServiceCall where
  | own
  | createPublisher
  | createSubscription
  | destroyPublisher
  | destroySubscription
deriving DecidableEq, Repr

/-- `cleanup_publisher`. -/
def cleanupPublisher (o : Outcomes) (node : Node) (p : Publisher) : RmwM Unit := do
  let _ ← rmwDestroyPublisher o node p

/-- `cleanup_subscription`. -/
def cleanupSubscription (o : Outcomes) (node : Node) (p : Subscription) : RmwM Unit := do
  let _ ← rmwDestroySubscription o node p

/-- The endpoints of `rmw_create_client`. -/
def createClientEndpoints (o : ServiceCall → Outcomes) (guid : Guid) (node : Node) :
    RmwM (Option (Publisher × Subscription)) := do
  let some pub ← rmwCreatePublisher (o .createPublisher) guid node
    | return none
  let some sub ← rmwCreateSubscription (o .createSubscription) node
    | cleanupPublisher (o .destroyPublisher) node pub
      return none
  return some (pub, sub)

/-- The endpoints of `rmw_create_service`. -/
def createServiceEndpoints (o : ServiceCall → Outcomes) (guid : Guid) (node : Node) :
    RmwM (Option (Publisher × Subscription)) := do
  let some sub ← rmwCreateSubscription (o .createSubscription) node
    | return none
  let some pub ← rmwCreatePublisher (o .createPublisher) guid node
    | cleanupSubscription (o .destroySubscription) node sub
      return none
  return some (pub, sub)

def createEndpoints (o : ServiceCall → Outcomes) (guid : Guid) (node : Node) :
    Role → RmwM (Option (Publisher × Subscription))
  | .client => createClientEndpoints o guid node
  | .service => createServiceEndpoints o guid node

/-- The clean-up of both endpoints, the later one first. -/
def cleanupEndpoints (o : ServiceCall → Outcomes) (node : Node) (pub : Publisher)
    (sub : Subscription) : Role → RmwM Unit
  | .client => do
    cleanupSubscription (o .destroySubscription) node sub
    cleanupPublisher (o .destroyPublisher) node pub
  | .service => do
    cleanupPublisher (o .destroyPublisher) node pub
    cleanupSubscription (o .destroySubscription) node sub

/-- `allocate_handle`. -/
def allocateHandle (o : Outcomes) (role : Role) (impl : ServiceImpl) :
    RmwM (Option ServiceEntity) := do
  let result ← create o (.rmwServiceEntity role)
  let copy ← create o .serviceName
  let (some object, some name) := (result, copy)
    | deallocate copy
      deallocate result
      return none
  return some {
    object
    implementationIdentifier := some identifier
    data := some impl
    serviceName := some name }

/-- The common body of `rmw_create_client` and `rmw_create_service`. -/
def createServiceEntity (o : ServiceCall → Outcomes) (role : Role) (guid : Guid)
    (node : Option Node) : RmwM (Option ServiceEntity) := do
  let some node := node
    | return none
  if !validNode (← get) node then
    return none
  if !o .own .resolveServiceTypeSupport || !o .own .serviceTopics then
    return none
  let some (publisher, subscription) ← createEndpoints o guid node role
    | return none
  let some implObject ← create (o .own) .serviceImpl
    | cleanupEndpoints o node publisher subscription role
      return none
  let impl : ServiceImpl := { object := implObject, node := node.object, publisher, subscription }
  let some result ← allocateHandle (o .own) role impl
    | deallocate (some implObject)
      cleanupEndpoints o node publisher subscription role
      return none
  if !o .own .insertServiceEntity then
    cleanupEndpoints o node publisher subscription role
    deallocate result.serviceName
    deallocate (some implObject)
    deallocate (some result.object)
    return none
  modifyEntities (·.addEnd role result)
  return some result

/-- `rmw_create_client`. -/
def rmwCreateClient (o : ServiceCall → Outcomes) (guid : Guid) (node : Option Node) :
    RmwM (Option ServiceEntity) := createServiceEntity o .client guid node

/-- `rmw_create_service`. -/
def rmwCreateService (o : ServiceCall → Outcomes) (guid : Guid) (node : Option Node) :
    RmwM (Option ServiceEntity) := createServiceEntity o .service guid node

/-! ## Destruction -/

/-- The endpoints in `rmw_destroy_client`. -/
def destroyClientEndpoints (o : ServiceCall → Outcomes) (node : NodeHandle) (impl : ServiceImpl) :
    RmwM Ret := do
  let result ← rmwDestroySubscriptionAt (o .destroySubscription) node impl.subscription
  if (← rmwDestroyPublisherAt (o .destroyPublisher) node impl.publisher) ≠ .ok then
    return .error
  return result

/-- The endpoints in `rmw_destroy_service`. -/
def destroyServiceEndpoints (o : ServiceCall → Outcomes) (node : NodeHandle) (impl : ServiceImpl) :
    RmwM Ret := do
  let result ← rmwDestroyPublisherAt (o .destroyPublisher) node impl.publisher
  if (← rmwDestroySubscriptionAt (o .destroySubscription) node impl.subscription) ≠ .ok then
    return .error
  return result

def destroyEndpoints (o : ServiceCall → Outcomes) (node : NodeHandle) (impl : ServiceImpl) :
    Role → RmwM Ret
  | .client => destroyClientEndpoints o node impl
  | .service => destroyServiceEndpoints o node impl

/-- The common body of `rmw_destroy_client` and `rmw_destroy_service`. -/
def destroyServiceEntity (o : ServiceCall → Outcomes) (role : Role) (node : Option NodeHandle)
    (x : Option ServiceEntity) : RmwM Ret := do
  let (some node, some x) := (node, x)
    | return .invalidArgument
  let some impl := x.data
    | return .invalidArgument
  if node.node.implementationIdentifier ≠ some identifier ||
      x.implementationIdentifier ≠ some identifier then
    return .incorrectRmwImplementation
  modifyEntities (·.removeEnd role x)
  let result ← destroyEndpoints o node impl role
  deallocate x.serviceName
  deallocate (some impl.object)
  deallocate (some x.object)
  return result

/-- `rmw_destroy_client`. -/
def rmwDestroyClient (o : ServiceCall → Outcomes) (node : Option NodeHandle)
    (client : Option ServiceEntity) : RmwM Ret := destroyServiceEntity o .client node client

/-- `rmw_destroy_service`. -/
def rmwDestroyService (o : ServiceCall → Outcomes) (node : Option NodeHandle)
    (service : Option ServiceEntity) : RmwM Ret := destroyServiceEntity o .service node service

/-! ## The endpoints of a client or a service -/

/-- The context and its implementation are as before. -/
structure Frames (s s' : State) : Prop where
  context : s'.context = s.context
  impl : s'.impl = s.impl

theorem Frames.refl (s : State) : Frames s s := ⟨rfl, rfl⟩

theorem Frames.trans {s s' s'' : State} (h : Frames s s') (h' : Frames s' s'') : Frames s s'' :=
  ⟨h'.context.trans h.context, h'.impl.trans h.impl⟩

theorem Effect.frames {R : Kind → Prop} {s s' : State} {xs : Finset Obj} (h : Effect R s xs s') :
    Frames s s' := ⟨h.context, h.impl⟩

@[spec] theorem cleanupPublisher_spec (o : Outcomes) (node : Node) (p : Publisher) (s : State)
    (hnode : node.Valid) (hp : p.Valid) (hcontext : s.context.impl.isSome) :
    ⦃fun s' => ⌜s' = s⌝⦄ cleanupPublisher o node p
    ⦃⇓ _ s' => ⌜∃ r, DestroysPublisher o p s r s'⌝⦄ := by
  mvcgen [cleanupPublisher]
  next => exact ⟨node, rfl, hnode⟩
  next s1 hs =>
    subst hs
    exact hcontext
  next s1 hs r s2 hdestroys =>
    subst hs
    exact ⟨r, hdestroys⟩

@[spec] theorem cleanupSubscription_spec (o : Outcomes) (node : Node) (p : Subscription)
    (s : State) (hnode : node.Valid) (hp : p.Valid) (hcontext : s.context.impl.isSome) :
    ⦃fun s' => ⌜s' = s⌝⦄ cleanupSubscription o node p
    ⦃⇓ _ s' => ⌜∃ r, DestroysSubscription o p s r s'⌝⦄ := by
  mvcgen [cleanupSubscription]
  next => exact ⟨node, rfl, hnode⟩
  next s1 hs =>
    subst hs
    exact hcontext
  next s1 hs r s2 hdestroys =>
    subst hs
    exact ⟨r, hdestroys⟩

/-- The handles of two endpoints. -/
def endpointHandles (q : Publisher × Subscription) : Multiset Handle :=
  {.publisher q.1, .subscription q.2}

theorem endpointHandles_add (q : Publisher × Subscription) (F : Multiset Handle) :
    endpointHandles q + F = .publisher q.1 ::ₘ .subscription q.2 ::ₘ F := by
  simp [endpointHandles]

/-- The creation of both endpoints under a node. -/
structure CreatesEndpoints (F : Multiset Handle) (node : Node) (s : State)
    (q : Option (Publisher × Subscription)) (s' : State) : Prop where
  frames : Frames s s'
  registry : Registry (q.elim 0 endpointHandles + F) s'.heap s'.entities
  nodes : ∀ p ∈ q, ∀ x ∈ endpointHandles p, x.recordedNode = some node.object

theorem CreatesEndpoints.failed {F : Multiset Handle} {node : Node} {s s' : State}
    (hframes : Frames s s') (hF : Registry F s'.heap s'.entities) :
    CreatesEndpoints F node s none s' := ⟨hframes, by simpa using hF, by simp⟩

/-- New endpoints refer to the node they were created for. -/
theorem recordedNode_of_creates {o o' : Outcomes} {guid : Guid} {node : Node}
    {s s' t t' : State} {pub : Publisher} {sub : Subscription}
    (hpub : CreatesPublisher o guid (some node) s (some pub) s')
    (hsub : CreatesSubscription o' (some node) t (some sub) t') :
    ∀ x ∈ endpointHandles (pub, sub), x.recordedNode = some node.object := by
  intro x hx
  simp only [endpointHandles, Multiset.insert_eq_cons, Multiset.mem_cons,
    Multiset.mem_singleton] at hx
  rcases hx with rfl | rfl
  · exact hpub.recordedNode
  · exact hsub.recordedNode

section

variable (o : ServiceCall → Outcomes) (guid : Guid) (node : Node) {F : Multiset Handle} (s : State)

@[spec] theorem createClientEndpoints_spec (hF : Registry F s.heap s.entities)
    (hguid : ∀ x ∈ F, x.guid ≠ some guid) (hnode : .node node ∈ F)
    (hcontext : s.context.impl.isSome) :
    ⦃fun s' => ⌜s' = s⌝⦄ createClientEndpoints o guid node
    ⦃⇓ q s' => ⌜CreatesEndpoints F node s q s'⌝⦄ := by
  have hmade : node.Valid := (hF.made _ hnode).valid
  mvcgen [createClientEndpoints]
  next s1 hs _ pub _ s2 hpub _ sub _ s3 hsub =>
    subst hs
    have hF2 := hsub.registry (hpub.registry hF hguid hnode) (Multiset.mem_cons_of_mem hnode)
    rw [Multiset.cons_swap, ← endpointHandles_add (pub, sub)] at hF2
    refine ⟨hpub.effect.frames.trans hsub.effect.frames, hF2, ?_⟩
    rintro q ⟨⟩
    exact recordedNode_of_creates hpub hsub
  next s1 hs _ pub _ s2 hpub _ sub _ _ s3 hsub => exact hpub.valid pub rfl
  next s1 hs _ pub _ s2 hpub _ sub _ _ s3 hsub =>
    subst hs
    rwa [hsub.effect.context, hpub.effect.context]
  next s1 hs _ pub _ s2 hpub _ sub hnone _ s3 hsub _ s4 hdestroys =>
    obtain ⟨r, hdestroys⟩ := hdestroys
    subst hs
    obtain rfl := eq_none_of_forall hnone
    have hF2 := hsub.registry_none (hpub.registry hF hguid hnode)
    refine .failed ?_ (hdestroys.registry hF2)
    exact (hpub.effect.frames.trans hsub.effect.frames).trans ⟨hdestroys.context, hdestroys.impl⟩
  next s1 hs _ pub hnone _ s2 hpub =>
    subst hs
    obtain rfl := eq_none_of_forall hnone
    exact .failed hpub.effect.frames (hpub.registry_none hF hguid)

@[spec] theorem createServiceEndpoints_spec (hF : Registry F s.heap s.entities)
    (hguid : ∀ x ∈ F, x.guid ≠ some guid) (hnode : .node node ∈ F)
    (hcontext : s.context.impl.isSome) :
    ⦃fun s' => ⌜s' = s⌝⦄ createServiceEndpoints o guid node
    ⦃⇓ q s' => ⌜CreatesEndpoints F node s q s'⌝⦄ := by
  have hmade : node.Valid := (hF.made _ hnode).valid
  have hguid' (sub : Subscription) : ∀ x ∈ Handle.subscription sub ::ₘ F, x.guid ≠ some guid := by
    intro x hx
    rcases Multiset.mem_cons.mp hx with rfl | hx
    · exact nofun
    · exact hguid x hx
  mvcgen [createServiceEndpoints]
  next s1 hs _ sub _ s2 hsub _ pub _ s3 hpub =>
    subst hs
    have hF2 := hpub.registry (hsub.registry hF hnode) (hguid' sub) (Multiset.mem_cons_of_mem hnode)
    rw [← endpointHandles_add (pub, sub)] at hF2
    refine ⟨hsub.effect.frames.trans hpub.effect.frames, hF2, ?_⟩
    rintro q ⟨⟩
    exact recordedNode_of_creates hpub hsub
  next s1 hs _ sub _ s2 hsub _ pub _ _ s3 hpub => exact hsub.valid sub rfl
  next s1 hs _ sub _ s2 hsub _ pub _ _ s3 hpub =>
    subst hs
    rwa [hpub.effect.context, hsub.effect.context]
  next s1 hs _ sub _ s2 hsub _ pub hnone _ s3 hpub _ s4 hdestroys =>
    obtain ⟨r, hdestroys⟩ := hdestroys
    subst hs
    obtain rfl := eq_none_of_forall hnone
    have hF2 := hpub.registry_none (hsub.registry hF hnode) (hguid' sub)
    refine .failed ?_ (hdestroys.registry hF2)
    exact (hsub.effect.frames.trans hpub.effect.frames).trans ⟨hdestroys.context, hdestroys.impl⟩
  next s1 hs _ sub hnone _ s2 hsub =>
    subst hs
    obtain rfl := eq_none_of_forall hnone
    exact .failed hsub.effect.frames (hsub.registry_none hF)

@[spec] theorem createEndpoints_spec (role : Role) (hF : Registry F s.heap s.entities)
    (hguid : ∀ x ∈ F, x.guid ≠ some guid) (hnode : .node node ∈ F)
    (hcontext : s.context.impl.isSome) :
    ⦃fun s' => ⌜s' = s⌝⦄ createEndpoints o guid node role
    ⦃⇓ q s' => ⌜CreatesEndpoints F node s q s'⌝⦄ := by
  cases role with
  | client => exact createClientEndpoints_spec o guid node s hF hguid hnode hcontext
  | service => exact createServiceEndpoints_spec o guid node s hF hguid hnode hcontext

/-- The end of both endpoints, in either order. -/
structure ReleasesEndpoints (pub : Publisher) (sub : Subscription) (s s' : State) : Prop where
  frames : Frames s s'
  heap : s'.heap = s.heap.free (sub.objects ∪ pub.objects)
  entities : s'.entities =
    (Handle.publisher pub).unregister ((Handle.subscription sub).unregister s.entities)

theorem ReleasesEndpoints.registry {pub : Publisher} {sub : Subscription} {s s' : State}
    {h : Heap Kind} (hends : ReleasesEndpoints pub sub s s')
    (hF : Registry (endpointHandles (pub, sub) + F) h s.entities) :
    Registry F (h.free (sub.objects ∪ pub.objects)) s'.entities := by
  rw [endpointHandles_add, Multiset.cons_swap] at hF
  have hpub := (hF.remove_plain nofun).remove_plain nofun
  rw [hends.entities, ← Heap.free_free]
  exact hpub

theorem ReleasesEndpoints.of_subscription {o o' : Outcomes} {pub : Publisher} {sub : Subscription}
    {s s1 s' : State} {r r' : Ret} (hpub : pub.Valid) (h : DestroysSubscription o sub s r s1)
    (h' : DestroysPublisher o' pub s1 r' s') : ReleasesEndpoints pub sub s s' where
  frames := ⟨h'.context.trans h.context, h'.impl.trans h.impl⟩
  heap := by rw [h'.heap, h.heap, Heap.free_free]
  entities := by
    rw [h'.unregister hpub, h.entities]
    rfl

theorem ReleasesEndpoints.of_publisher {o o' : Outcomes} {pub : Publisher} {sub : Subscription}
    {s s1 s' : State} {r r' : Ret} (hpub : pub.Valid) (h : DestroysPublisher o pub s r s1)
    (h' : DestroysSubscription o' sub s1 r' s') : ReleasesEndpoints pub sub s s' where
  frames := ⟨h'.context.trans h.context, h'.impl.trans h.impl⟩
  heap := by rw [h'.heap, h.heap, Heap.free_free, Finset.union_comm]
  entities := by
    rw [h'.entities, h.unregister hpub]
    rfl

/-- What the clean-up relies on. -/
structure Releasable (node : Node) (pub : Publisher) (sub : Subscription) (s : State) : Prop where
  node : node.Valid
  pub : pub.Valid
  sub : sub.Valid
  context : s.context.impl.isSome

theorem Releasable.frames {node : Node} {pub : Publisher} {sub : Subscription} {s s' : State}
    (h : Releasable node pub sub s) (hs : Frames s s') : Releasable node pub sub s' :=
  ⟨h.node, h.pub, h.sub, hs.context ▸ h.context⟩

@[spec] theorem cleanupEndpoints_spec (role : Role) (pub : Publisher) (sub : Subscription)
    (h : Releasable node pub sub s) :
    ⦃fun s' => ⌜s' = s⌝⦄ cleanupEndpoints o node pub sub role
    ⦃⇓ _ s' => ⌜ReleasesEndpoints pub sub s s'⌝⦄ := by
  obtain ⟨hnode, hpub, hsub, hcontext⟩ := h
  cases role with
  | client =>
    mvcgen [cleanupEndpoints]
    next s1 hs =>
      subst hs
      exact hcontext
    next s1 hs _ s2 hdestroysSub _ s3 =>
      rintro ⟨_, hdestroysPub⟩
      obtain ⟨_, hdestroysSub⟩ := hdestroysSub
      subst hs
      exact .of_subscription hpub hdestroysSub hdestroysPub
    next => exact fun _ _ => hnode
    next => exact fun _ _ => hpub
    next s1 hs _ =>
      rintro s2 ⟨_, hdestroys⟩
      subst hs
      rwa [hdestroys.context]
  | service =>
    mvcgen [cleanupEndpoints]
    next s1 hs =>
      subst hs
      exact hcontext
    next s1 hs _ s2 hdestroysPub _ s3 =>
      rintro ⟨_, hdestroysSub⟩
      obtain ⟨_, hdestroysPub⟩ := hdestroysPub
      subst hs
      exact .of_publisher hpub hdestroysPub hdestroysSub
    next => exact fun _ _ => hnode
    next => exact fun _ _ => hsub
    next s1 hs _ =>
      rintro s2 ⟨_, hdestroys⟩
      subst hs
      rwa [hdestroys.context]

end

/-! ## The handle -/

/-- A handle around the implementation, with its name. -/
structure AllocatesHandle (o : Outcomes) (role : Role) (impl : ServiceImpl) (s : State)
    (x : Option ServiceEntity) (s' : State) : Prop where
  effect : Effect (Refuses o) s (x.elim ∅ fun y => {y.object} ∪ y.serviceName.toFinset) s'
  entities : s'.entities = s.entities
  valid : ∀ y ∈ x, y.Valid
  data : ∀ y ∈ x, y.data = some impl
  kinds : ∀ y ∈ x, y.object.kind = .rmwServiceEntity role ∧
    ∀ z ∈ y.serviceName, z.kind.isHandle = false

@[spec] theorem allocateHandle_spec (o : Outcomes) (role : Role) (impl : ServiceImpl) (s : State) :
    ⦃fun s' => ⌜s' = s⌝⦄ allocateHandle o role impl
    ⦃⇓ x s' => ⌜AllocatesHandle o role impl s x s'⌝⦄ := by
  mvcgen [allocateHandle]
  next s1 hs result s2 hresult copy object name heq s3 hcopy =>
    subst hs
    cases heq
    refine ⟨hresult.effect.trans hcopy.effect, hcopy.entities.trans hresult.entities, ?_, ?_, ?_⟩
    · rintro y ⟨⟩
      exact ⟨rfl, rfl⟩
    · rintro y ⟨⟩
      rfl
    · rintro y ⟨⟩
      refine ⟨hresult.kind object rfl, ?_⟩
      rintro z ⟨⟩
      rw [hcopy.kind name rfl]
      rfl
  next s1 hs result s2 hresult copy _ _ _ s3 hcopy _ s4 h4 _ s5 h5 =>
    subst hs h4 h5
    have hall := hresult.effect.trans hcopy.effect
    rw [State.free_free]
    exact ⟨hall.undo (Finset.union_comm _ _), hcopy.entities.trans hresult.entities, by simp,
      by simp, by simp⟩

/-! ## Clients and services in the registry -/

/-- A client or a service with its endpoints. -/
def ServiceEntity.handles (role : Role) (x : ServiceEntity) : Multiset Handle :=
  .serviceEntity role x ::ₘ
    x.data.elim 0 fun impl => endpointHandles (impl.publisher, impl.subscription)

/-- What the creation of a client or a service does. -/
structure CreatesServiceEntity (F : Multiset Handle) (role : Role) (node : Option Node) (s : State)
    (x : Option ServiceEntity) (s' : State) : Prop where
  frames : Frames s s'
  registry : Registry (x.elim 0 (·.handles role) + F) s'.heap s'.entities
  nodes : ∀ y ∈ x, ∀ z ∈ y.handles role, z.recordedNode = node.map (·.object)

theorem CreatesServiceEntity.failed {F : Multiset Handle} {role : Role} {node : Option Node}
    {s s' : State} (hframes : Frames s s') (hF : Registry F s'.heap s'.entities) :
    CreatesServiceEntity F role node s none s' := ⟨hframes, by simpa using hF, by simp⟩

/-- New endpoints can be cleaned up again. -/
theorem CreatesEndpoints.releasable {F : Multiset Handle} {node : Node} {s s' : State}
    {pub : Publisher} {sub : Subscription} (h : CreatesEndpoints F node s (some (pub, sub)) s')
    (hnode : node.Valid) (hcontext : s.context.impl.isSome) : Releasable node pub sub s' := by
  have hF := h.registry
  rw [Option.elim_some, endpointHandles_add] at hF
  exact ⟨hnode, (hF.made (.publisher pub) (by simp)).valid.valid,
    (hF.made (.subscription sub) (by simp)).valid.valid, h.frames.context ▸ hcontext⟩

/-- The memory of a client or a service, around endpoints that are there. -/
theorem AllocatesHandle.objects {o : Outcomes} {role : Role} {impl : ServiceImpl}
    {s1 s2 s3 : State} {x : ServiceEntity} (hx : AllocatesHandle o role impl s2 (some x) s3)
    (himpl : Creates o .serviceImpl s1 (some impl.object) s2) : Effect (Refuses o) s1 x.objects s3 := by
  refine (himpl.effect.trans hx.effect).congr ?_
  rw [ServiceEntity.objects, hx.data x rfl]
  simp

/-- The handle is the only one in this memory. -/
theorem AllocatesHandle.made {o : Outcomes} {role : Role} {impl : ServiceImpl}
    {s1 s2 s3 : State} {x : ServiceEntity} (hx : AllocatesHandle o role impl s2 (some x) s3)
    (himpl : Creates o .serviceImpl s1 (some impl.object) s2) :
    (Handle.serviceEntity role x).Made := by
  obtain ⟨hkind, hname⟩ := hx.kinds x rfl
  refine ⟨⟨hkind, by simp [Handle.object, Handle.objects, ServiceEntity.objects], ?_⟩,
    hx.valid x rfl⟩
  intro y hy hhandle
  simp only [Handle.objects, ServiceEntity.objects, hx.data x rfl, Option.map_some,
    Finset.mem_union, Finset.mem_singleton, Option.mem_toFinset, Option.mem_some_iff] at hy
  rcases hy with (rfl | rfl) | hy
  · rfl
  · simp [himpl.kind impl.object rfl, Kind.isHandle] at hhandle
  · simp [hname y hy] at hhandle

/-- The registration fails after everything was made. -/
theorem AllocatesHandle.undo {o : Outcomes} {role : Role} {impl : ServiceImpl}
    {F : Multiset Handle} {s1 s2 s3 s4 : State} {x : ServiceEntity}
    (hx : AllocatesHandle o role impl s2 (some x) s3)
    (hF : Registry (endpointHandles (impl.publisher, impl.subscription) + F) s1.heap s1.entities)
    (himpl : Creates o .serviceImpl s1 (some impl.object) s2)
    (hends : ReleasesEndpoints impl.publisher impl.subscription s3 s4) :
    Registry F (s4.free x.objects).heap s4.entities := by
  have hundo := (hx.objects himpl).undo rfl
  have hF' := hF.same hundo.owns
  rw [← himpl.entities, ← hx.entities] at hF'
  have hreleased := hends.registry hF'
  simp only [State.free, hends.heap, Heap.free_free] at hreleased ⊢
  rwa [Finset.union_comm]

@[spec] theorem createServiceEntity_spec (o : ServiceCall → Outcomes) (role : Role) (guid : Guid)
    (node : Option Node) {F : Multiset Handle} (s : State) (hF : Registry F s.heap s.entities)
    (hguid : ∀ x ∈ F, x.guid ≠ some guid) (hnode : ∀ n ∈ node, .node n ∈ F)
    (hcontext : s.context.impl.isSome) :
    ⦃fun s' => ⌜s' = s⌝⦄ createServiceEntity o role guid node
    ⦃⇓ x s' => ⌜CreatesServiceEntity F role node s x s'⌝⦄ := by
  mvcgen [createServiceEntity]
  next s1 hs _ =>
    subst hs
    exact .failed (.refl _) hF
  next s1 hs _ _ =>
    subst hs
    exact .failed (.refl _) hF
  next s1 hs _ _ =>
    subst hs
    exact hF
  next n heq s1 hs _ _ => exact hnode n heq
  next s1 hs _ _ =>
    subst hs
    exact hcontext
  next n heq s1 hs _ _ _ pub sub _ s2 hends _ impl _ _ s3 himpl _ x _ _ s4 hx =>
    subst hs
    have hready := hends.releasable (hF.made _ (hnode n heq)).valid hcontext
    exact hready.frames (himpl.effect.frames.trans hx.effect.frames)
  -- the registration fails
  next n heq s1 hs _ _ _ pub sub _ s2 hends _ object _ impl s3 himpl _ x _ _ s4 hx _ s5 hrelease
      _ s6 h6 _ s7 h7 _ s8 h8 =>
    subst hs h6 h7 h8
    have hframes := (hends.frames.trans himpl.effect.frames).trans hx.effect.frames
    have hundo := hx.undo hends.registry himpl hrelease
    refine .failed (hframes.trans ⟨hrelease.frames.context, hrelease.frames.impl⟩) ?_
    rw [ServiceEntity.objects, hx.data x rfl] at hundo
    simp only [State.free_free]
    rwa [show x.serviceName.toFinset ∪ (some object).toFinset ∪ (some x.object).toFinset =
      {x.object} ∪ (Option.map (·.object) (some impl)).toFinset ∪ x.serviceName.toFinset by
        simp [impl]; grind]
  -- everything succeeds
  next n heq s1 hs _ _ _ pub sub _ s2 hends _ object _ impl s3 himpl _ x _ _ s4 hx _ s5 h5 =>
    subst hs h5
    have hframes := (hends.frames.trans himpl.effect.frames).trans hx.effect.frames
    have hmade := hx.made himpl
    have hobjects := hx.objects himpl
    have hrecorded : (Handle.serviceEntity role x).recordedNode = some n.object := by
      rw [Handle.recordedNode, hx.data x rfl]
      rfl
    have hhandles : x.handles role = .serviceEntity role x ::ₘ endpointHandles (pub, sub) := by
      rw [ServiceEntity.handles, hx.data x rfl]
      rfl
    have hguid : ∀ g ∈ (Handle.serviceEntity role x).guid,
        g ∉ s2.entities.localPublicationGuids := by
      rintro g ⟨⟩
    have hadd := hends.registry.add hmade hobjects.owns hguid fun m hm =>
      ⟨n, by simp [hnode n heq], Option.mem_unique hrecorded hm⟩
    refine ⟨hframes.trans ⟨rfl, rfl⟩, ?_, ?_⟩
    · rw [Option.elim_some, hhandles, Multiset.cons_add]
      rw [← himpl.entities, ← hx.entities] at hadd
      exact hadd
    · rintro y ⟨⟩ z hz
      rw [Option.map_some]
      rw [hhandles] at hz
      rcases Multiset.mem_cons.mp hz with rfl | hz
      · exact hrecorded
      · exact hends.nodes _ rfl z hz
  -- the handle is missing
  next n heq s1 hs _ _ _ pub sub _ s2 hends _ impl _ _ s3 himpl _ _ _ _ s4 hx _ s5 h5 =>
    subst hs h5
    have hready := hends.releasable (hF.made _ (hnode n heq)).valid hcontext
    exact hready.frames ((himpl.effect.frames.trans hx.effect.frames).trans ⟨rfl, rfl⟩)
  next n heq s1 hs _ _ _ pub sub _ s2 hends _ impl _ _ s3 himpl _ _ hnone _ s4 hx _ s5 h5 _ s6
      hrelease =>
    subst hs h5
    obtain rfl := eq_none_of_forall hnone
    have hxs : ({impl} : Finset Obj) = (some impl).toFinset ∪ ∅ := by simp
    have hundo := (himpl.effect.trans hx.effect).undo hxs
    have hF' := hends.registry.same hundo.owns
    rw [← himpl.entities, ← hx.entities] at hF'
    have hframes := (hends.frames.trans himpl.effect.frames).trans hx.effect.frames
    refine .failed (hframes.trans ⟨hrelease.frames.context, hrelease.frames.impl⟩) ?_
    rw [hrelease.heap]
    exact hrelease.registry hF'
  -- the implementation is missing
  next n heq s1 hs _ _ _ pub sub _ s2 hends _ _ _ _ s3 himpl =>
    subst hs
    have hready := hends.releasable (hF.made _ (hnode n heq)).valid hcontext
    exact hready.frames himpl.effect.frames
  next n heq s1 hs _ _ _ pub sub _ s2 hends _ _ hnone _ s3 himpl _ s4 hrelease =>
    subst hs
    obtain rfl := eq_none_of_forall hnone
    have hF' := hends.registry.same himpl.effect.owns
    rw [← himpl.entities] at hF'
    refine .failed ((hends.frames.trans himpl.effect.frames).trans hrelease.frames) ?_
    rw [hrelease.heap]
    exact hrelease.registry hF'
  next s1 hs _ _ _ q hnone _ s2 hends =>
    subst hs
    cases q with
    | some q => exact (hnone q.1 q.2 rfl).elim
    | none => exact .failed hends.frames (by simpa using hends.registry)
  next s1 hs =>
    subst hs
    exact .failed (.refl _) hF

/-! ## The end of a client or a service -/

/-- The end of the endpoints that the node reaches. -/
structure ReleasesReached (n : NodeHandle) (pub : Publisher) (sub : Subscription) (s s' : State) :
    Prop where
  frames : Frames s s'
  heap : s'.heap = s.heap.free
    ((if n.reachesSubscription s then sub.objects else ∅) ∪
      if n.reachesPublisher s then pub.objects else ∅)
  entities : s'.entities =
    let e := if n.reachesSubscription s then (Handle.subscription sub).unregister s.entities
      else s.entities
    if n.reachesPublisher s then (Handle.publisher pub).unregister e else e

/-- The node reaches the same endpoints later. -/
theorem Frames.reaches {s s' : State} (h : Frames s s') (n : NodeHandle) :
    n.reachesSubscription s' = n.reachesSubscription s ∧
      n.reachesPublisher s' = n.reachesPublisher s := by
  simp [NodeHandle.reachesPublisher, NodeHandle.reachesSubscription, h.context]

theorem DestroysIf.publisher_frames {accepted : Bool} {o : Outcomes} {p : Publisher}
    {s s' : State} {r : Ret} (h : DestroysIf accepted (DestroysPublisher o p) s r s') :
    Frames s s' := by
  cases haccepted : accepted with
  | true => exact ⟨(h.destroys haccepted).context, (h.destroys haccepted).impl⟩
  | false => exact (h.rejects haccepted).2 ▸ .refl s

theorem DestroysIf.subscription_frames {accepted : Bool} {o : Outcomes} {p : Subscription}
    {s s' : State} {r : Ret} (h : DestroysIf accepted (DestroysSubscription o p) s r s') :
    Frames s s' := by
  cases haccepted : accepted with
  | true => exact ⟨(h.destroys haccepted).context, (h.destroys haccepted).impl⟩
  | false => exact (h.rejects haccepted).2 ▸ .refl s

theorem ReleasesReached.of_client {o o' : Outcomes} {n : NodeHandle} {pub : Publisher}
    {sub : Subscription} {s s1 s' : State} {r r' : Ret} (hpub : pub.Valid)
    (h : DestroysIf (n.reachesSubscription s) (DestroysSubscription o sub) s r s1)
    (h' : DestroysIf (n.reachesPublisher s1) (DestroysPublisher o' pub) s1 r' s') :
    ReleasesReached n pub sub s s' := by
  have hframes := h.subscription_frames
  rw [(hframes.reaches n).2] at h'
  refine ⟨hframes.trans h'.publisher_frames, ?_, ?_⟩
  · cases hsub : n.reachesSubscription s <;> cases hpub : n.reachesPublisher s
    · rw [(h'.rejects hpub).2, (h.rejects hsub).2]
      simp
    · rw [(h'.destroys hpub).heap, (h.rejects hsub).2]
      simp
    · rw [(h'.rejects hpub).2, (h.destroys hsub).heap]
      simp
    · rw [(h'.destroys hpub).heap, (h.destroys hsub).heap]
      simp
  · cases hsub : n.reachesSubscription s <;> cases hpub' : n.reachesPublisher s
    · rw [(h'.rejects hpub').2, (h.rejects hsub).2]
      rfl
    · rw [(h'.destroys hpub').unregister hpub, (h.rejects hsub).2]
      rfl
    · rw [(h'.rejects hpub').2, (h.destroys hsub).entities]
      rfl
    · rw [(h'.destroys hpub').unregister hpub, (h.destroys hsub).entities]
      rfl

theorem ReleasesReached.of_service {o o' : Outcomes} {n : NodeHandle} {pub : Publisher}
    {sub : Subscription} {s s1 s' : State} {r r' : Ret} (hpub : pub.Valid)
    (h : DestroysIf (n.reachesPublisher s) (DestroysPublisher o pub) s r s1)
    (h' : DestroysIf (n.reachesSubscription s1) (DestroysSubscription o' sub) s1 r' s') :
    ReleasesReached n pub sub s s' := by
  have hframes := h.publisher_frames
  rw [(hframes.reaches n).1] at h'
  refine ⟨hframes.trans h'.subscription_frames, ?_, ?_⟩
  · cases hsub : n.reachesSubscription s <;> cases hpub : n.reachesPublisher s
    · rw [(h'.rejects hsub).2, (h.rejects hpub).2]
      simp
    · rw [(h'.rejects hsub).2, (h.destroys hpub).heap]
      simp
    · rw [(h'.destroys hsub).heap, (h.rejects hpub).2]
      simp
    · rw [(h'.destroys hsub).heap, (h.destroys hpub).heap]
      simp [Finset.union_comm]
  · cases hsub : n.reachesSubscription s <;> cases hpub' : n.reachesPublisher s
    · rw [(h'.rejects hsub).2, (h.rejects hpub').2]
      rfl
    · rw [(h'.rejects hsub).2, (h.destroys hpub').unregister hpub]
      rfl
    · rw [(h'.destroys hsub).entities, (h.rejects hpub').2]
      rfl
    · rw [(h'.destroys hsub).entities, (h.destroys hpub').unregister hpub]
      rfl

@[spec] theorem destroyEndpoints_spec (o : ServiceCall → Outcomes) (n : NodeHandle)
    (impl : ServiceImpl) (role : Role) (s : State) (hpub : impl.publisher.Valid)
    (hsub : impl.subscription.Valid) (hcontext : s.context.impl.isSome) :
    ⦃fun s' => ⌜s' = s⌝⦄ destroyEndpoints o n impl role
    ⦃⇓ _ s' => ⌜ReleasesReached n impl.publisher impl.subscription s s'⌝⦄ := by
  cases role with
  | client =>
    mvcgen [destroyEndpoints, destroyClientEndpoints]
    next s1 hs =>
      subst hs
      exact hcontext
    next s1 hs r s2 h =>
      subst hs
      rwa [h.subscription_frames.context]
    next s1 hs r s2 h r' _ s3 h' =>
      subst hs
      exact .of_client hpub h h'
    next s1 hs r s2 h r' _ s3 h' =>
      subst hs
      exact .of_client hpub h h'
  | service =>
    mvcgen [destroyEndpoints, destroyServiceEndpoints]
    next s1 hs =>
      subst hs
      exact hcontext
    next s1 hs r s2 h =>
      subst hs
      rwa [h.publisher_frames.context]
    next s1 hs r s2 h r' _ s3 h' =>
      subst hs
      exact .of_service hpub h h'
    next s1 hs r s2 h r' _ s3 h' =>
      subst hs
      exact .of_service hpub h h'

/-- The end of a client or a service, with the endpoints that the node
reaches. -/
def DestroysServiceEntity (role : Role) (node : Option NodeHandle) (x : ServiceEntity) (s : State)
    (_ : Ret) (s' : State) : Prop :=
  ∀ n ∈ node, ∀ impl ∈ x.data, ∃ t, s' = t.free x.objects ∧
    ReleasesReached n impl.publisher impl.subscription
      (s.withEntities (s.entities.removeEnd role x)) t

/-- The only check of the node in `rmw_destroy_client` and
`rmw_destroy_service`. -/
def NodeHandle.identified (n : NodeHandle) : Bool :=
  n.node.implementationIdentifier = some identifier

@[spec] theorem destroyServiceEntity_spec (o : ServiceCall → Outcomes) (role : Role)
    (node : Option NodeHandle) (x : ServiceEntity) (s : State) (hx : x.Valid)
    (hends : ∀ impl ∈ x.data, impl.publisher.Valid ∧ impl.subscription.Valid)
    (hcontext : s.context.impl.isSome) :
    ⦃fun s' => ⌜s' = s⌝⦄ destroyServiceEntity o role node (some x)
    ⦃⇓ r s' => ⌜DestroysIf (node.any (·.identified)) (DestroysServiceEntity role node x) s r
      s'⌝⦄ := by
  mvcgen [destroyServiceEntity]
  next n _ heq impl _ hrejected s1 hs =>
    subst hs
    cases heq
    refine .rejected ?_ nofun
    simpa [NodeHandle.identified, hx.1] using hrejected
  next n _ heq impl himpl _ s1 hs _ s2 h2 =>
    cases heq
    exact (hends impl himpl).1
  next n _ heq impl himpl _ s1 hs _ s2 h2 =>
    cases heq
    exact (hends impl himpl).2
  next s1 hs _ s2 h2 =>
    subst hs h2
    exact hcontext
  next n _ heq impl himpl hidentified s1 hs _ s2 h2 r s3 hrelease _ s4 h4 _ s5 h5 _ s6 h6 =>
    subst hs h2 h4 h5 h6
    cases heq
    refine ⟨fun _ => ?_, fun hrejected => ?_⟩
    · rintro m ⟨⟩ impl' himpl'
      cases Option.mem_unique himpl himpl'
      refine ⟨s3, ?_, hrelease⟩
      simp only [State.free_free, ServiceEntity.objects, himpl, Option.map_some,
        Option.toFinset_some]
      congr 1
      grind
    · rw [Option.any_some, NodeHandle.identified] at hrejected
      simp [hx.1] at hidentified
      simp [hidentified] at hrejected
  next n _ heq data hnone hdata s1 hs =>
    cases heq
    have hsome := hx.2
    cases data with
    | some impl => exact (hnone impl rfl).elim
    | none => simp [hdata] at hsome
  next hnone heq s1 hs =>
    subst hs heq
    cases node with
    | some n => exact (hnone n x rfl).elim
    | none => exact .rejected rfl nofun

/-- The endpoints that the node does not reach. -/
def NodeHandle.orphans (s : State) (n : NodeHandle) (impl : ServiceImpl) : Multiset Handle :=
  (if n.reachesPublisher s then 0 else {.publisher impl.publisher}) +
    if n.reachesSubscription s then 0 else {.subscription impl.subscription}

theorem ReleasesReached.registry {n : NodeHandle} {impl : ServiceImpl} {F : Multiset Handle}
    {s s' : State} {h : Heap Kind}
    (hrelease : ReleasesReached n impl.publisher impl.subscription s s')
    (hF : Registry (endpointHandles (impl.publisher, impl.subscription) + F) h s.entities) :
    Registry (n.orphans s impl + F)
      (h.free ((if n.reachesSubscription s then impl.subscription.objects else ∅) ∪
        if n.reachesPublisher s then impl.publisher.objects else ∅)) s'.entities := by
  rw [hrelease.entities, NodeHandle.orphans]
  rw [endpointHandles_add] at hF
  cases hsub : n.reachesSubscription s <;> cases hpub : n.reachesPublisher s
  · simpa using hF
  · simpa [Handle.objects] using hF.remove_plain nofun
  · rw [Multiset.cons_swap] at hF
    simpa [Handle.objects] using hF.remove_plain nofun
  · rw [Multiset.cons_swap] at hF
    simpa [Handle.objects] using (hF.remove_plain nofun).remove_plain nofun

/-- A client or a service leaves the registry with the endpoints that the node
reaches. -/
theorem DestroysServiceEntity.registry {role : Role} {n : NodeHandle} {x : ServiceEntity}
    {impl : ServiceImpl} {F : Multiset Handle} {s s' : State} {r : Ret}
    (h : DestroysServiceEntity role (some n) x s r s') (himpl : x.data = some impl)
    (hF : Registry (x.handles role + F) s.heap s.entities) :
    Registry (n.orphans s impl + F) s'.heap s'.entities := by
  obtain ⟨t, rfl, hrelease⟩ := h n rfl impl himpl
  rw [ServiceEntity.handles, himpl, Multiset.cons_add] at hF
  have hends := hrelease.registry (hF.remove_plain nofun)
  simp only [State.free, hrelease.heap, Heap.free_free] at hends ⊢
  rwa [Finset.union_comm] at hends

end Lifecycle

end RmwZzdds
