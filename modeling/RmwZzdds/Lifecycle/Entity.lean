import RmwZzdds.Lifecycle.Context

/-!
# Nodes, guard conditions and wait sets

Creation and destruction of the entities that only need memory and objects of
zzdds that can always be destroyed.  Every creation comes with a specification
of both its outcomes: it returns a handle and leaves the objects of the handle,
or it returns null and leaves nothing.
-/

namespace RmwZzdds

open Ownership Std.Do

namespace Lifecycle

set_option mvcgen.warning false

/-! ## Entities around one zzdds object -/

/-- A zzdds object with its implementation and its handle. -/
structure Parts where
  native : Obj
  impl : Obj
  handle : Obj

def Parts.objects (p : Parts) : Finset Obj := {p.native} ∪ {p.impl} ∪ {p.handle}

/-- The common body of `rmw_create_guard_condition` and
`rmw_create_wait_set`. -/
def createParts (o : Outcomes) (nativeKind implKind handleKind : Kind) :
    RmwM (Option Parts) := do
  let s ← get
  if !s.accepts then
    return none
  let some native ← create o nativeKind
    | return none
  let impl ← create o implKind
  let handle ← create o handleKind
  let (some impl, some handle) := (impl, handle)
    | deallocate handle
      deallocate impl
      deallocate (some native)
      return none
  modifyEntities (·.enter 1)
  return some ⟨native, impl, handle⟩

/-- What `createParts` does, on success and on failure. -/
structure CreatesParts (o : Outcomes) (kinds : List Kind) (s : State) (p : Option Parts)
    (s' : State) : Prop where
  effect : Effect (Refuses o) s (p.elim ∅ Parts.objects) s'
  isSome : p.isSome = (s.accepts && kinds.all fun k => o (.create k))
  entities : s'.entities = s.entities.enter p.isSome.toNat
  kinds : ∀ q ∈ p, [q.native.kind, q.impl.kind, q.handle.kind] = kinds

@[spec] theorem createParts_spec (o : Outcomes) (nativeKind implKind handleKind : Kind)
    (s : State) :
    ⦃fun s' => ⌜s' = s⌝⦄ createParts o nativeKind implKind handleKind
    ⦃⇓ p s' => ⌜CreatesParts o [nativeKind, implKind, handleKind] s p s'⌝⦄ := by
  mvcgen [createParts]
  next s1 hs haccepts =>
    subst hs
    exact ⟨.refl _ _, by simp_all, rfl, by simp⟩
  next s1 hs haccepts _ native _ s2 hnative _ s3 himpl _ impl handle heq s4 hhandle _ s5 h5 =>
    subst hs h5
    cases heq
    refine ⟨?_, ?_, ?_, ?_⟩
    · exact ((hnative.effect.trans himpl.effect).trans hhandle.effect).withEntities _
    · simp_all [← hnative.isSome, ← himpl.isSome, ← hhandle.isSome]
    · exact congrArg (·.enter 1)
        (hhandle.entities.trans (himpl.entities.trans hnative.entities))
    · rintro q ⟨⟩
      simp [hnative.kind native rfl, himpl.kind impl rfl, hhandle.kind handle rfl]
  next s1 hs haccepts _ native _ s2 hnative impl s3 himpl handle _ hnone heq s4 hhandle
      _ s5 h5 _ s6 h6 _ s7 h7 =>
    subst hs h5 h6 h7 heq
    have hall := (hnative.effect.trans himpl.effect).trans hhandle.effect
    refine ⟨?_, ?_, ?_, by simp⟩
    · simp only [State.free_free]
      exact hall.undo (by ac_rfl)
    · simp only [List.all_cons, ← hnative.isSome, ← himpl.isSome, ← hhandle.isSome]
      cases impl <;> cases handle <;> simp_all
    · exact hhandle.entities.trans (himpl.entities.trans hnative.entities)
  next s1 hs haccepts native _ hnone heq s2 h2 =>
    subst hs heq
    cases native with
    | none => exact ⟨h2.effect, by simp [← h2.isSome], h2.entities, by simp⟩
    | some native => exact (hnone native rfl).elim

/-- The handle of an entity around one zzdds object. -/
theorem CreatesParts.handle {o : Outcomes} {nativeKind implKind handleKind : Kind}
    {s s' : State} {p : Option Parts}
    (h : CreatesParts o [nativeKind, implKind, handleKind] s p s')
    (hnative : nativeKind.isHandle = false) (himpl : implKind.isHandle = false) :
    ∀ q ∈ p, IsHandle handleKind q.handle q.objects := by
  intro q hq
  obtain ⟨rfl, rfl, rfl⟩ : q.native.kind = nativeKind ∧ q.impl.kind = implKind ∧
      q.handle.kind = handleKind := by simpa using h.kinds q hq
  refine ⟨rfl, by simp [Parts.objects], ?_⟩
  intro y hy hhandle
  simp only [Parts.objects, Finset.mem_union, Finset.mem_singleton] at hy
  rcases hy with (rfl | rfl) | rfl
  · simp_all
  · simp_all
  · rfl

/-! ## Guard conditions -/

/-- The guard condition over its parts. -/
def GuardCondition.ofParts (p : Parts) : GuardCondition where
  object := p.handle
  implementationIdentifier := some identifier
  data := some { object := p.impl, native := some p.native }

/-- `rmw_create_guard_condition`. -/
def rmwCreateGuardCondition (o : Outcomes) : RmwM (Option GuardCondition) := do
  let parts ← createParts o .guardCondition .guardConditionImpl .rmwGuardCondition
  return parts.map .ofParts

/-- `rmw_destroy_guard_condition`. -/
def rmwDestroyGuardCondition (guard : Option GuardCondition) : RmwM Ret := do
  let some guard := guard
    | return .invalidArgument
  let some impl := guard.data
    | return .invalidArgument
  if guard.implementationIdentifier ≠ some identifier then
    return .incorrectRmwImplementation
  if (← get).context.impl.isNone then
    return .invalidArgument
  deallocate impl.native
  deallocate (some impl.object)
  deallocate (some guard.object)
  modifyEntities Entities.leave
  return .ok

@[spec] theorem rmwCreateGuardCondition_spec (o : Outcomes) (s : State) :
    ⦃fun s' => ⌜s' = s⌝⦄ rmwCreateGuardCondition o
    ⦃⇓ guard s' => ⌜∃ p, guard = p.map GuardCondition.ofParts ∧
      CreatesParts o [.guardCondition, .guardConditionImpl, .rmwGuardCondition] s p s'⌝⦄ := by
  mvcgen [rmwCreateGuardCondition]
  next s1 hs p s2 hp =>
    subst hs
    exact ⟨p, rfl, hp⟩

/-- The objects of a guard condition. -/
def GuardCondition.objects (guard : GuardCondition) : Finset Obj :=
  (guard.data.bind (·.native)).toFinset ∪ (guard.data.map (·.object)).toFinset ∪ {guard.object}

/-- The fields that are checked in a guard condition. -/
def GuardCondition.Valid (guard : GuardCondition) : Prop :=
  guard.implementationIdentifier = some identifier ∧ guard.data.isSome

theorem GuardCondition.valid_ofParts (p : Parts) : (GuardCondition.ofParts p).Valid := ⟨rfl, rfl⟩

@[spec] theorem rmwDestroyGuardCondition_spec (guard : GuardCondition) (s : State)
    (hvalid : guard.Valid) (h : s.context.impl.isSome) :
    ⦃fun s' => ⌜s' = s⌝⦄ rmwDestroyGuardCondition (some guard)
    ⦃⇓ r s' => ⌜r = .ok ∧
      s' = (s.free guard.objects).withEntities s.entities.leave⌝⦄ := by
  mvcgen [rmwDestroyGuardCondition]
  next impl himpl hidentifier s1 hs => exact (hidentifier hvalid.1).elim
  next impl himpl _ s1 hs hnone =>
    subst hs
    rw [Option.isSome_iff_ne_none] at h
    exact (h (by simpa using hnone)).elim
  next impl himpl _ s1 hs _ _ s2 h2 _ s3 h3 _ s4 h4 _ s5 h5 =>
    subst hs h2 h3 h4 h5
    simp [GuardCondition.objects, himpl]
  next x hnone hdata s1 hs =>
    have hsome := hvalid.2
    cases x with
    | some impl => exact (hnone impl rfl).elim
    | none => simp [hdata] at hsome

/-! ## Wait sets -/

/-- The wait set over its parts. -/
def WaitSet.ofParts (p : Parts) : WaitSet where
  object := p.handle
  implementationIdentifier := some identifier
  data := some { object := p.impl, native := p.native }

/-- `rmw_create_wait_set`. -/
def rmwCreateWaitSet (o : Outcomes) : RmwM (Option WaitSet) := do
  let parts ← createParts o .waitSet .waitSetImpl .rmwWaitSet
  return parts.map .ofParts

/-- `rmw_destroy_wait_set`. -/
def rmwDestroyWaitSet (waitSet : Option WaitSet) : RmwM Ret := do
  let some waitSet := waitSet
    | return .invalidArgument
  let some impl := waitSet.data
    | return .invalidArgument
  if waitSet.implementationIdentifier ≠ some identifier then
    return .incorrectRmwImplementation
  deallocate (some impl.native)
  deallocate (some impl.object)
  deallocate (some waitSet.object)
  modifyEntities Entities.leave
  return .ok

@[spec] theorem rmwCreateWaitSet_spec (o : Outcomes) (s : State) :
    ⦃fun s' => ⌜s' = s⌝⦄ rmwCreateWaitSet o
    ⦃⇓ waitSet s' => ⌜∃ p, waitSet = p.map WaitSet.ofParts ∧
      CreatesParts o [.waitSet, .waitSetImpl, .rmwWaitSet] s p s'⌝⦄ := by
  mvcgen [rmwCreateWaitSet]
  next s1 hs p s2 hp =>
    subst hs
    exact ⟨p, rfl, hp⟩

/-- The objects of a wait set. -/
def WaitSet.objects (waitSet : WaitSet) : Finset Obj :=
  (waitSet.data.map (·.native)).toFinset ∪ (waitSet.data.map (·.object)).toFinset ∪
    {waitSet.object}

/-- The fields that are checked in a wait set. -/
def WaitSet.Valid (waitSet : WaitSet) : Prop :=
  waitSet.implementationIdentifier = some identifier ∧ waitSet.data.isSome

theorem WaitSet.valid_ofParts (p : Parts) : (WaitSet.ofParts p).Valid := ⟨rfl, rfl⟩

@[spec] theorem rmwDestroyWaitSet_spec (waitSet : WaitSet) (s : State) (hvalid : waitSet.Valid) :
    ⦃fun s' => ⌜s' = s⌝⦄ rmwDestroyWaitSet (some waitSet)
    ⦃⇓ r s' => ⌜r = .ok ∧
      s' = (s.free waitSet.objects).withEntities s.entities.leave⌝⦄ := by
  mvcgen [rmwDestroyWaitSet]
  next impl himpl hidentifier s1 hs => exact (hidentifier hvalid.1).elim
  next impl himpl _ s1 hs _ s2 h2 _ s3 h3 _ s4 h4 _ s5 h5 =>
    subst hs h2 h3 h4 h5
    simp [WaitSet.objects, himpl]
  next x hnone hdata s1 hs =>
    have hsome := hvalid.2
    cases x with
    | some impl => exact (hnone impl rfl).elim
    | none => simp [hdata] at hsome

/-! ## Nodes -/

/-- The four allocations of `rmw_create_node`. -/
structure NodeParts where
  impl : Option Obj
  node : Option Obj
  name : Option (Owned String)
  namespace_ : Option (Owned String)

def NodeParts.objects (p : NodeParts) : Finset Obj :=
  p.impl.toFinset ∪ p.node.toFinset ∪ (p.name.map (·.object)).toFinset ∪
    (p.namespace_.map (·.object)).toFinset

def NodeParts.complete (p : NodeParts) : Bool :=
  p.impl.isSome && p.node.isSome && p.name.isSome && p.namespace_.isSome

theorem NodeParts.exists_node {p : NodeParts} (h : p.complete = true) :
    ∃ node, p.node = some node := by
  simp only [NodeParts.complete, Bool.and_eq_true] at h
  exact Option.isSome_iff_exists.mp h.1.1.2

def allocateNode (o : Outcomes) (name namespace_ : String) : RmwM NodeParts := do
  let impl ← create o .nodeImpl
  let node ← create o .rmwNode
  let nameCopy ← duplicateString o .nodeName name
  let namespaceCopy ← duplicateString o .nodeNamespace namespace_
  return ⟨impl, node, nameCopy, namespaceCopy⟩

def deallocateNode (p : NodeParts) : RmwM Unit := do
  deallocate (p.namespace_.map (·.object))
  deallocate (p.name.map (·.object))
  deallocate p.node
  deallocate p.impl

/-- What the allocations of a node leave. -/
structure AllocatesNode (o : Outcomes) (s : State) (p : NodeParts) (s' : State) : Prop where
  effect : Effect (Refuses o) s p.objects s'
  entities : s'.entities = s.entities
  complete : p.complete = (o (.create .nodeImpl) && o (.create .rmwNode) &&
    o (.create .nodeName) && o (.create .nodeNamespace))
  handle : ∀ object ∈ p.node, IsHandle .rmwNode object p.objects

@[spec] theorem allocateNode_spec (o : Outcomes) (name namespace_ : String) (s : State) :
    ⦃fun s' => ⌜s' = s⌝⦄ allocateNode o name namespace_
    ⦃⇓ p s' => ⌜AllocatesNode o s p s'⌝⦄ := by
  mvcgen [allocateNode]
  next s1 hs impl s2 himpl node s3 hnode name' s4 hname namespace' s5 hnamespace =>
    subst hs
    have hisSome := hname.isSome
    have hisSome' := hnamespace.isSome
    rw [Option.isSome_map] at hisSome hisSome'
    refine ⟨?_, ?_, ?_, ?_⟩
    · exact ((himpl.effect.trans hnode.effect).trans hname.effect).trans hnamespace.effect
    · exact hnamespace.entities.trans
        (hname.entities.trans (hnode.entities.trans himpl.entities))
    · simp only [NodeParts.complete, himpl.isSome, hnode.isSome, hisSome, hisSome']
    · intro object hobject
      refine ⟨hnode.kind object hobject, by simp_all [NodeParts.objects], ?_⟩
      intro y hy hhandle
      simp only [NodeParts.objects, Finset.mem_union, Option.mem_toFinset] at hy
      rcases hy with ((hy | hy) | hy) | hy
      · simp [himpl.kind y hy, Kind.isHandle] at hhandle
      · exact Option.mem_unique hy hobject
      · simp [hname.kind y hy, Kind.isHandle] at hhandle
      · simp [hnamespace.kind y hy, Kind.isHandle] at hhandle

@[spec] theorem deallocateNode_spec (p : NodeParts) (s : State) :
    ⦃fun s' => ⌜s' = s⌝⦄ deallocateNode p ⦃⇓ _ s' => ⌜s' = s.free p.objects⌝⦄ := by
  mvcgen [deallocateNode]
  next s1 hs _ s2 h2 _ s3 h3 _ s4 h4 _ s5 =>
    intro h5
    subst hs h2 h3 h4 h5
    simp only [State.free_free, NodeParts.objects]
    congr 1
    ac_rfl

/-- The node over its parts. -/
def Node.ofParts (p : NodeParts) (node : Obj) : Node where
  object := node
  implementationIdentifier := some identifier
  data := p.impl
  name := p.name
  namespace_ := p.namespace_

/-- The registration of `rmw_create_node`. -/
def registerNode (o : Outcomes) (node : Node) : RmwM Bool := do
  if !o .insertNode then
    return false
  modifyEntities (·.addNode node)
  if !(← get).impl.suppressGraphUpdates then
    -- an exception of the graph update leaves the node in the set
    if !o .addNodeGraphReturns then
      return false
    if !o .addNodeGraph then
      modifyEntities (·.removeNode node)
      return false
  return true

/-- `rmw_create_node`. -/
def rmwCreateNode (o : Outcomes) (name namespace_ : Option String) : RmwM (Option Node) := do
  let (some name, some namespace_) := (name, namespace_)
    | return none
  let s ← get
  if !s.validContext then
    return none
  if !o .validNodeName || !o .validNamespace then
    return none
  if s.impl.shutdown then
    return none
  let parts ← allocateNode o name namespace_
  let (true, some object) := (parts.complete, parts.node)
    | deallocateNode parts
      return none
  let node : Node := .ofParts parts object
  if !(← registerNode o node) then
    deallocateNode parts
    return none
  modifyEntities (·.enter 1)
  return some node

/-- The fields that are checked in a node. -/
def Node.Valid (node : Node) : Prop :=
  node.implementationIdentifier = some identifier ∧ node.data.isSome

/-- The objects of a node. -/
def Node.objects (node : Node) : Finset Obj :=
  node.data.toFinset ∪ {node.object} ∪ (node.name.map (·.object)).toFinset ∪
    (node.namespace_.map (·.object)).toFinset

/-- When `rmw_create_node` can register the node. -/
def nodeRegistered (o : Outcomes) (s : State) : Bool :=
  o .insertNode && (s.impl.suppressGraphUpdates || o .addNodeGraphReturns && o .addNodeGraph)

/-- When `rmw_create_node` returns a node. -/
def nodeCreated (o : Outcomes) (name namespace_ : Option String) (s : State) : Bool :=
  name.isSome && namespace_.isSome && s.accepts && o .validNodeName && o .validNamespace &&
    (o (.create .nodeImpl) && o (.create .rmwNode) && o (.create .nodeName) &&
      o (.create .nodeNamespace)) && nodeRegistered o s

theorem objects_ofParts {p : NodeParts} {node : Obj} (h : p.node = some node) :
    (Node.ofParts p node).objects = p.objects := by
  simp [Node.objects, Node.ofParts, NodeParts.objects, h]

theorem valid_ofParts {p : NodeParts} (node : Obj) (h : p.complete = true) :
    (Node.ofParts p node).Valid := by
  simp only [NodeParts.complete, Bool.and_eq_true] at h
  exact ⟨rfl, h.1.1.1⟩

@[spec] theorem registerNode_spec (o : Outcomes) (node : Node) (s : State) :
    ⦃fun s' => ⌜s' = s⌝⦄ registerNode o node
    ⦃⇓ ok s' => ⌜ok = nodeRegistered o s ∧ ∃ e, s' = s.withEntities e ∧
      (node ∉ s.entities.nodes → GraphReturns o s →
        e = if ok then s.entities.addNode node else s.entities)⌝⦄ := by
  mvcgen [registerNode]
  next hinsert s1 hs =>
    subst hs
    exact ⟨by simp_all [nodeRegistered], _, rfl, fun _ _ => rfl⟩
  next hinsert s1 hs _ s2 h2 _ hsuppress hreturns =>
    subst hs h2
    exact ⟨by simp_all [nodeRegistered], _, rfl, by simp_all [GraphReturns]⟩
  next hinsert s1 hs _ s2 h2 _ hsuppress hreturns hadd _ s3 h3 =>
    subst hs h2 h3
    refine ⟨by simp_all [nodeRegistered], _, rfl, fun hnew _ => ?_⟩
    simp [Entities.addNode, Entities.removeNode, Finset.erase_insert hnew]
  next hinsert s1 hs _ s2 h2 _ hsuppress hreturns hadd =>
    subst hs h2
    exact ⟨by simp_all [nodeRegistered], _, rfl, by simp⟩
  next hinsert s1 hs _ s2 h2 _ hsuppress =>
    subst hs h2
    exact ⟨by simp_all [nodeRegistered], _, rfl, by simp⟩

/-- A new node is not registered yet. -/
theorem node_notMem {o : Outcomes} {s s' : State} {p : NodeParts} {node : Obj}
    (h : Effect (Refuses o) s p.objects s') (he : s'.entities = s.entities)
    (hlive : s.Registered) (hnode : p.node = some node) :
    Node.ofParts p node ∉ s'.entities.nodes := by
  rw [he]
  intro hmem
  refine h.notMem ?_ (hlive.nodes _ hmem)
  simp [NodeParts.objects, Node.ofParts, hnode]

/-- What `rmw_create_node` does, on success and on failure. -/
structure CreatesNode (o : Outcomes) (name namespace_ : Option String) (s : State)
    (node : Option Node) (s' : State) : Prop where
  effect : Effect (Refuses o) s (node.elim ∅ Node.objects) s'
  isSome : node.isSome = nodeCreated o name namespace_ s
  valid : ∀ n ∈ node, n.Valid
  handle : ∀ n ∈ node, IsHandle .rmwNode n.object n.objects
  entities : s.Registered → GraphReturns o s →
    s'.entities = node.elim s.entities fun n => (s.entities.addNode n).enter 1

@[spec] theorem rmwCreateNode_spec (o : Outcomes) (name namespace_ : Option String) (s : State) :
    ⦃fun s' => ⌜s' = s⌝⦄ rmwCreateNode o name namespace_
    ⦃⇓ node s' => ⌜CreatesNode o name namespace_ s node s'⌝⦄ := by
  mvcgen [rmwCreateNode]
  next s1 hs hcheck =>
    subst hs
    exact ⟨.refl _ _, by simp_all [nodeCreated, State.accepts], by simp, by simp, fun _ _ => rfl⟩
  next s1 hs hcheck hvalid =>
    subst hs
    exact ⟨.refl _ _, by grind [nodeCreated], by simp, by simp, fun _ _ => rfl⟩
  next s1 hs hcheck hvalid hshutdown =>
    subst hs
    exact ⟨.refl _ _, by grind [nodeCreated, State.accepts], by simp, by simp, fun _ _ => rfl⟩
  next name' namespace' heq s1 hs hcheck hvalid hshutdown parts object hparts _ s2 hall ok hfail
      s3 hregister _ s4 h4 =>
    obtain ⟨hok, e, rfl, he⟩ := hregister
    subst hs h4
    cases heq
    have hregistered : nodeRegistered o s2 = nodeRegistered o s1 := by
      rw [nodeRegistered, hall.effect.impl, nodeRegistered]
    refine ⟨(hall.effect.withEntities e).undo rfl, ?_, by simp, by simp, ?_⟩
    · have hcomplete := hall.complete
      grind [nodeCreated]
    · intro hlive hreturns
      have hnew := node_notMem hall.effect hall.entities hlive (Prod.mk.inj hparts).2
      have he := he hnew (hall.effect.graphReturns hreturns)
      simp_all [hall.entities]
  next name' namespace' heq s1 hs hcheck hvalid hshutdown parts object hparts _ s2 hall ok hok
      s3 hregister _ s4 h4 =>
    obtain ⟨hok, e, rfl, he⟩ := hregister
    subst hs h4
    cases heq
    have hregistered : nodeRegistered o s2 = nodeRegistered o s1 := by
      rw [nodeRegistered, hall.effect.impl, nodeRegistered]
    simp only [Prod.mk.injEq] at hparts
    refine ⟨?_, ?_, ?_, ?_, ?_⟩
    · exact (hall.effect.congr (objects_ofParts hparts.2).symm).withEntities _
    · have hcomplete := hall.complete
      grind [nodeCreated, State.accepts]
    · rintro n ⟨⟩
      exact valid_ofParts object hparts.1
    · rintro n ⟨⟩
      exact objects_ofParts hparts.2 ▸ hall.handle object hparts.2
    · intro hlive hreturns
      have hnew := node_notMem hall.effect hall.entities hlive hparts.2
      have he := he hnew (hall.effect.graphReturns hreturns)
      simp_all [hall.entities]
  next name' namespace' heq s1 hs hcheck hvalid hshutdown parts _ hnone hparts s2 hall _ s3 h3 =>
    subst hs h3
    cases heq
    have hincomplete : parts.complete = false := by
      rw [← Bool.not_eq_true]
      intro hcomplete
      obtain ⟨node, hnode⟩ := NodeParts.exists_node hcomplete
      exact hnone node (by rw [← hparts, hcomplete, hnode])
    refine ⟨hall.effect.undo rfl, ?_, by simp, by simp, fun _ _ => hall.entities⟩
    simp [nodeCreated, ← hall.complete, hincomplete]
  next hnone heq s1 hs =>
    subst hs heq
    refine ⟨.refl _ _, ?_, by simp, by simp, fun _ _ => rfl⟩
    cases name <;> cases namespace_ <;> simp_all [nodeCreated]

/-- `node_owns_entities`. -/
def nodeOwnsEntities (e : Entities) (node : Node) : Bool :=
  (∃ p ∈ e.publishers, p.data.map (·.node) = some node.object) ||
  (∃ p ∈ e.subscriptions, p.data.map (·.node) = some node.object) ||
  (∃ c ∈ e.clients, c.data.map (·.node) = some node.object) ||
  (∃ c ∈ e.services, c.data.map (·.node) = some node.object)

/-- `rmw_destroy_node`. -/
def rmwDestroyNode (node : Option Node) : RmwM Ret := do
  let some node := node
    | return .invalidArgument
  let some impl := node.data
    | return .invalidArgument
  if node.implementationIdentifier ≠ some identifier then
    return .incorrectRmwImplementation
  let s ← get
  if s.context.impl.isNone then
    return .invalidArgument
  if nodeOwnsEntities s.entities node then
    return .error
  modifyEntities (·.removeNode node)
  deallocate (node.namespace_.map (·.object))
  deallocate (node.name.map (·.object))
  deallocate (some impl)
  deallocate (some node.object)
  modifyEntities Entities.leave
  return .ok

/-- A node without entities is destroyed. -/
@[spec] theorem rmwDestroyNode_spec (node : Node) (s : State) (hvalid : node.Valid)
    (hcontext : s.context.impl.isSome) (howns : nodeOwnsEntities s.entities node = false) :
    ⦃fun s' => ⌜s' = s⌝⦄ rmwDestroyNode (some node)
    ⦃⇓ r s' => ⌜r = .ok ∧ s' = (s.free node.objects).withEntities
      (s.entities.removeNode node).leave⌝⦄ := by
  obtain ⟨hidentifier, hdata⟩ := hvalid
  mvcgen [rmwDestroyNode]
  next s1 hs hnone =>
    subst hs
    simp_all
  next s1 hs _ howns' =>
    subst hs
    simp_all
  next impl himpl _ s1 hs _ _ _ s2 h2 _ s3 h3 _ s4 h4 _ s5 h5 _ s6 h6 _ s7 h7 =>
    subst hs h2 h3 h4 h5 h6 h7
    refine ⟨trivial, ?_⟩
    simp only [State.free_withEntities, State.free_free, State.withEntities_withEntities,
      State.entities_withEntities, Node.objects, himpl, Option.toFinset_some]
    congr 2
    ac_rfl
  next x hnone hdata' s1 hs =>
    cases hx : x with
    | none => simp_all
    | some impl => exact (hnone impl hx).elim

end Lifecycle

end RmwZzdds
