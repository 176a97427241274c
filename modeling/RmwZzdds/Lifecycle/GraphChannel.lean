import RmwZzdds.Lifecycle.Endpoint

/-!
# The graph channel

A context talks to the other contexts of its domain through an internal node
with one publisher, one subscription, and a thread that waits for the
subscription.  `finalize_graph_channel` takes down whatever part of the channel
exists, so that `initialize_graph_channel` calls it from most of its failing
branches too.
-/

namespace RmwZzdds

open Ownership Std.Do

namespace Lifecycle

open Service (Guid)

set_option mvcgen.warning false

/-- The calls inside `rmw_init` that decide on steps of their own. -/
inductive Call where
  | init
  | createNode
  | createPublisher
  | createSubscription
  | createGuardCondition
  | startListener
  | createWaitSet
  | destroySubscription
  | destroyPublisher
deriving DecidableEq, Repr

/-- The kinds of entities that zzdds refuses to delete in some call. -/
def RefusesIn (o : Call → Outcomes) (kind : Kind) : Prop := ∃ call, Refuses (o call) kind

/-! ## Fields of the implementation -/

def State.onImpl (s : State) (f : ContextImpl → ContextImpl) : State :=
  { s with impl := f s.impl }

def ContextImpl.onCommon (f : Common → Common) (c : ContextImpl) : ContextImpl :=
  { c with common := f c.common }

def ContextImpl.withNode (node : Option Node) (c : ContextImpl) : ContextImpl :=
  { c with graphNode := node }

def ContextImpl.suppress (b : Bool) (c : ContextImpl) : ContextImpl :=
  { c with suppressGraphUpdates := b }

@[simp] theorem State.impl_onImpl (s : State) (f : ContextImpl → ContextImpl) :
    (s.onImpl f).impl = f s.impl := rfl

@[simp] theorem State.entities_onImpl (s : State) (f : ContextImpl → ContextImpl) :
    (s.onImpl f).entities = s.entities := rfl

@[simp] theorem State.heap_onImpl (s : State) (f : ContextImpl → ContextImpl) :
    (s.onImpl f).heap = s.heap := rfl

@[simp] theorem State.refused_onImpl (s : State) (f : ContextImpl → ContextImpl) :
    (s.onImpl f).refused = s.refused := rfl

@[simp] theorem State.context_onImpl (s : State) (f : ContextImpl → ContextImpl) :
    (s.onImpl f).context = s.context := rfl

@[simp] theorem ContextImpl.common_onCommon (f : Common → Common) (c : ContextImpl) :
    (c.onCommon f).common = f c.common := rfl

@[simp] theorem ContextImpl.graphNode_onCommon (f : Common → Common) (c : ContextImpl) :
    (c.onCommon f).graphNode = c.graphNode := rfl

@[simp] theorem ContextImpl.common_suppress (b : Bool) (c : ContextImpl) :
    (c.suppress b).common = c.common := rfl

@[simp] theorem ContextImpl.common_withNode (node : Option Node) (c : ContextImpl) :
    (c.withNode node).common = c.common := rfl

/-! ## Accounts over several calls -/

/-- The calls since `s` have left the objects `xs` behind.  Unlike `Effect`
this says nothing about the fields of the context's implementation. -/
structure Account (R : Kind → Prop) (s : State) (xs : Finset Obj) (s' : State) : Prop where
  owns : s.heap.Owns xs s'.heap
  refused : ∀ x ∈ s'.refused, x ∈ s.refused ∨ R x.kind

/-- The objects `xs` are gone. -/
structure Releases (R : Kind → Prop) (s : State) (xs : Finset Obj) (s' : State) : Prop where
  heap : s'.heap = s.heap.free xs
  refused : ∀ x ∈ s'.refused, x ∈ s.refused ∨ R x.kind
  context : s'.context = s.context

namespace Releases

variable {R : Kind → Prop} {s s' s'' : State} {xs ys : Finset Obj}

theorem refl (R : Kind → Prop) (s : State) : Releases R s ∅ s where
  heap := by simp
  refused := fun _ hx => .inl hx
  context := rfl

theorem trans (h : Releases R s xs s') (h' : Releases R s' ys s'') :
    Releases R s (xs ∪ ys) s'' where
  heap := by rw [h'.heap, h.heap, Heap.free_free]
  refused x hx := by
    rcases h'.refused x hx with hx | hx
    · exact h.refused x hx
    · exact .inr hx
  context := h'.context.trans h.context

theorem mono (h : Releases R s xs s') {Q : Kind → Prop} (hR : ∀ k, R k → Q k) :
    Releases Q s xs s' where
  heap := h.heap
  refused x hx := (h.refused x hx).imp_right (hR _)
  context := h.context

theorem congr (h : Releases R s xs s') (hxs : xs = ys) : Releases R s ys s' := hxs ▸ h

end Releases

namespace Account

variable {R : Kind → Prop} {s s' s'' : State} {xs ys : Finset Obj}

theorem refl (R : Kind → Prop) (s : State) : Account R s ∅ s := ⟨.refl _, fun _ hx => .inl hx⟩

theorem congr (h : Account R s xs s') (hxs : xs = ys) : Account R s ys s' := hxs ▸ h

theorem trans (h : Account R s xs s') (h' : Account R s' ys s'') :
    Account R s (xs ∪ ys) s'' where
  owns := h.owns.trans h'.owns
  refused x hx := by
    rcases h'.refused x hx with hx | hx
    · exact h.refused x hx
    · exact .inr hx

/-- A call after the others. -/
theorem effect {R' : Kind → Prop} (h : Account R s xs s') (h' : Effect R' s' ys s'')
    (hR : ∀ k, R' k → R k) : Account R s (xs ∪ ys) s'' :=
  h.trans ⟨h'.owns, fun x hx => (h'.refused x hx).imp_right (hR _)⟩

theorem onImpl (h : Account R s xs s') (f : ContextImpl → ContextImpl) :
    Account R s xs (s'.onImpl f) := ⟨h.owns, h.refused⟩

theorem release (h : Account R s xs s') (h' : Releases R s' ys s'')
    (hys : Disjoint s.heap.live ys) : Account R s (xs \ ys) s'' where
  owns := h'.heap ▸ h.owns.free ys hys
  refused x hx := by
    rcases h'.refused x hx with hx | hx
    · exact h.refused x hx
    · exact .inr hx

/-- The account is closed when everything in it is released. -/
theorem close (h : Account R s xs s') (h' : Releases R s' xs s'') : Account R s ∅ s'' :=
  (h.release h' h.owns.disjoint).congr (Finset.sdiff_self xs)

end Account

/-! ## The channel -/

def modifyImpl (f : ContextImpl → ContextImpl) : RmwM Unit := modify (·.onImpl f)

def modifyCommon (f : Common → Common) : RmwM Unit := modifyImpl (·.onCommon f)

@[spec] theorem modifyImpl_spec (f : ContextImpl → ContextImpl) (s : State) :
    ⦃fun s' => ⌜s' = s⌝⦄ modifyImpl f ⦃⇓ _ s' => ⌜s' = s.onImpl f⌝⦄ := by
  mvcgen [modifyImpl]
  next s1 hs _ =>
    subst hs
    rfl

@[spec] theorem modifyCommon_spec (f : Common → Common) (s : State) :
    ⦃fun s' => ⌜s' = s⌝⦄ modifyCommon f ⦃⇓ _ s' => ⌜s' = s.onImpl (·.onCommon f)⌝⦄ := by
  mvcgen [modifyCommon]

def ListenerThread.objects (thread : ListenerThread) : Finset Obj :=
  {thread.object} ∪ thread.waitSet.elim ∅ WaitSet.objects

/-- The end of the thread's code, which destroys its wait set, and its join. -/
def ListenerThread.join (thread : ListenerThread) : RmwM Unit := do
  if let some waitSet := thread.waitSet then
    let _ ← rmwDestroyWaitSet (some waitSet)
  deallocate (some thread.object)

/-- `stop_graph_listener`.  The trigger ends the thread's wait, and the thread
is joined. -/
def stopGraphListener : RmwM Unit := do
  modifyCommon fun c => { c with threadIsRunning := false }
  if let some thread := (← get).impl.common.listenerThread then
    thread.join
    modifyCommon fun c => { c with listenerThread := none }

def destroyChannelSubscription (o : Outcomes) : RmwM Ret := do
  let c := (← get).impl
  let some sub := c.common.sub
    | return .ok
  let ret ← rmwDestroySubscription o c.graphNode sub
  modifyCommon fun c => { c with sub := none }
  return ret

def destroyChannelPublisher (o : Outcomes) : RmwM Ret := do
  let c := (← get).impl
  let some pub := c.common.pub
    | return .ok
  let ret ← rmwDestroyPublisher o c.graphNode pub
  modifyCommon fun c => { c with pub := none }
  return ret

def destroyChannelGuard : RmwM Ret := do
  let some guard := (← get).impl.common.listenerThreadGc
    | return .ok
  let ret ← rmwDestroyGuardCondition guard
  modifyCommon fun c => { c with listenerThreadGc := none }
  return ret

def destroyChannelNode : RmwM Ret := do
  let some node := (← get).impl.graphNode
    | return .ok
  let ret ← rmwDestroyNode node
  modifyImpl (·.withNode none)
  return ret

/-- The first result that is not `RMW_RET_OK`. -/
def Ret.and (result ret : Ret) : Ret := if result = .ok then ret else result

theorem Ret.and_ok (result : Ret) : Ret.and result .ok = result := by
  unfold Ret.and
  split
  next h => exact h.symm
  · rfl

/-- `finalize_graph_channel` before its node. -/
def dismantleChannel (o : Call → Outcomes) : RmwM Ret := do
  stopGraphListener
  modifyCommon fun c => { c with publishCallback := false }
  modifyImpl (·.suppress true)
  let result ← destroyChannelSubscription (o .destroySubscription)
  let result := Ret.and result (← destroyChannelPublisher (o .destroyPublisher))
  return Ret.and result (← destroyChannelGuard)

/-- `finalize_graph_channel`. -/
def finalizeGraphChannel (o : Call → Outcomes) : RmwM Ret := do
  if (← get).context.impl.isNone then
    return .invalidArgument
  let result ← dismantleChannel o
  let result := Ret.and result (← destroyChannelNode)
  modifyImpl (·.suppress false)
  return result

/-- The promise, the future and the thread of `initialize_graph_channel`. -/
def createListener (o : Outcomes) : RmwM (Option Obj) := do
  if !o .startup then
    return none
  create o .thread

/-- The thread of `initialize_graph_channel`, up to the end of its start-up. -/
def startListener (o : Call → Outcomes) : RmwM Bool := do
  modifyCommon fun c => { c with publishCallback := true, threadIsRunning := true }
  let some thread ← createListener (o .startListener)
    | modifyCommon fun c => { c with threadIsRunning := false }
      return false
  let waitSet ← rmwCreateWaitSet (o .createWaitSet)
  modifyCommon fun c => { c with
    threadIsRunning := waitSet.isSome
    listenerThread := some { object := thread, waitSet } }
  return waitSet.isSome

/-- The two endpoints of `initialize_graph_channel`, under a node that
exists. -/
def createChannelEndpoints (o : Call → Outcomes) (guid : Guid) (node : Node) : RmwM Unit := do
  let pub ← rmwCreatePublisher (o .createPublisher) guid node
  modifyCommon fun c => { c with pub }
  let sub ← rmwCreateSubscription (o .createSubscription) node
  modifyCommon fun c => { c with sub }

/-- `initialize_graph_channel`. -/
def initializeGraphChannel (o : Call → Outcomes) (guid : Guid) : RmwM Ret := do
  if (← get).context.impl.isNone then
    return .invalidArgument
  modifyImpl (·.suppress true)
  let graphNode ← rmwCreateNode (o .createNode) "__rmw_zzdds_graph" "/"
  modifyImpl (·.withNode graphNode)
  let some node := graphNode
    | modifyImpl (·.suppress false)
      return .error
  createChannelEndpoints o guid node
  modifyImpl (·.suppress false)
  let common := (← get).impl.common
  if common.pub.isNone || common.sub.isNone then
    return ← finalizeGraphChannel o
  let guard ← rmwCreateGuardCondition (o .createGuardCondition)
  modifyCommon fun c => { c with listenerThreadGc := guard }
  if guard.isNone then
    return ← finalizeGraphChannel o
  if !(← startListener o) then
    let _ ← finalizeGraphChannel o
    return .error
  return .ok

/-! ## Taking the channel down -/

def Common.threadObjects (c : Common) : Finset Obj := c.listenerThread.elim ∅ ListenerThread.objects

/-- What the end of the thread does to the registry. -/
def Common.endThread (c : Common) (e : Entities) : Entities :=
  (c.listenerThread.bind (·.waitSet)).elim e fun _ => e.leave

/-- A stage of `finalize_graph_channel`: the objects it releases, and the
implementation and the registry it leaves. -/
structure Dismantles (R : Kind → Prop) (s : State) (xs : Finset Obj) (impl : ContextImpl)
    (e : Entities) (s' : State) : Prop extends Releases R s xs s' where
  impl : s'.impl = impl
  entities : s'.entities = e

@[spec] theorem ListenerThread.join_spec (thread : ListenerThread) (s : State)
    (hthread : ∀ w ∈ thread.waitSet, w.Valid) :
    ⦃fun s' => ⌜s' = s⌝⦄ thread.join
    ⦃⇓ _ s' => ⌜s' = (s.free thread.objects).withEntities
      (thread.waitSet.elim s.entities fun _ => s.entities.leave)⌝⦄ := by
  mvcgen [ListenerThread.join]
  next waitSet heq s1 hs => exact hthread _ heq
  next waitSet heq s1 hs _ s2 h2 _ s3 =>
    intro h3
    obtain ⟨-, rfl⟩ := h2
    subst hs h3
    simp [ListenerThread.objects, heq, Finset.union_comm]
  next _ hnone heq s1 hs _ s2 =>
    intro h2
    subst hs h2 heq
    simp [ListenerThread.objects, eq_none_of_forall hnone, State.withEntities, State.free]

@[spec] theorem stopGraphListener_spec (s : State)
    (hthread : ∀ t ∈ s.impl.common.listenerThread, ∀ w ∈ t.waitSet, w.Valid) :
    ⦃fun s' => ⌜s' = s⌝⦄ stopGraphListener
    ⦃⇓ _ s' => ⌜Dismantles (fun _ => False) s s.impl.common.threadObjects
      (s.impl.onCommon fun c => { c with threadIsRunning := false, listenerThread := none })
      (s.impl.common.endThread s.entities) s'⌝⦄ := by
  mvcgen [stopGraphListener]
  next s1 hs _ s2 h2 thread heq =>
    subst hs h2
    exact hthread _ heq
  next s1 hs _ s2 h2 thread heq _ s3 h3 _ s4 =>
    intro h4
    subst hs h2 h3 h4
    have hthread' : s1.impl.common.listenerThread = some thread := heq
    refine ⟨⟨?_, fun _ hx => .inl hx, rfl⟩, rfl, ?_⟩
    · rw [Common.threadObjects, hthread']
      rfl
    · rw [Common.endThread, hthread']
      rfl
  next s1 hs _ s2 h2 _ hnone heq =>
    subst hs h2 heq
    have hthread' : s1.impl.common.listenerThread = none := eq_none_of_forall hnone
    refine ⟨⟨?_, fun _ hx => .inl hx, rfl⟩, ?_, ?_⟩
    · rw [Common.threadObjects, hthread']
      exact (Heap.free_empty _).symm
    · rw [State.impl_onImpl, ContextImpl.onCommon, ContextImpl.onCommon, hthread']
    · rw [Common.endThread, hthread']
      rfl

/-- A publisher as `rmw_create_publisher` makes it. -/
structure Publisher.Made (p : Publisher) : Prop where
  valid : p.Valid
  kinds : ∀ impl ∈ p.data, impl.topic.kind = .topic ∧ impl.writer.kind = .dataWriter

/-- A subscription as `rmw_create_subscription` makes it. -/
structure Subscription.Made (p : Subscription) : Prop where
  valid : p.Valid
  kinds : ∀ impl ∈ p.data, impl.topic.kind = .topic ∧
    impl.filteredTopic.kind = .contentFilteredTopic ∧ impl.reader.kind = .dataReader ∧
    impl.readCondition.kind = .readCondition

/-- What `finalize_graph_channel` relies on. -/
structure ChannelValid (s : State) : Prop where
  context : s.context.impl.isSome
  node : ∀ n ∈ s.impl.graphNode, n.Valid
  sub : ∀ p ∈ s.impl.common.sub, p.Made ∧ s.impl.graphNode.isSome
  pub : ∀ p ∈ s.impl.common.pub, p.Made ∧ s.impl.graphNode.isSome
  guard : ∀ g ∈ s.impl.common.listenerThreadGc, g.Valid
  thread : ∀ t ∈ s.impl.common.listenerThread, ∀ w ∈ t.waitSet, w.Valid

/-- The node of a valid channel that has an endpoint. -/
theorem ChannelValid.exists_node {s : State} (h : ChannelValid s)
    (hsome : s.impl.graphNode.isSome) : ∃ n ∈ s.impl.graphNode, n.Valid := by
  obtain ⟨n, hn⟩ := Option.isSome_iff_exists.mp hsome
  exact ⟨n, hn, h.node n hn⟩

/-- A change that leaves a part of the channel. -/
structure Shrinks (f : Common → Common) : Prop where
  sub : ∀ c, ∀ p ∈ (f c).sub, p ∈ c.sub
  pub : ∀ c, ∀ p ∈ (f c).pub, p ∈ c.pub
  guard : ∀ c, ∀ g ∈ (f c).listenerThreadGc, g ∈ c.listenerThreadGc
  thread : ∀ c, ∀ t ∈ (f c).listenerThread, t ∈ c.listenerThread

theorem ChannelValid.shrink {s s' : State} {f : Common → Common} (h : ChannelValid s)
    (hf : Shrinks f) (hcontext : s'.context = s.context)
    (hnode : s'.impl.graphNode = s.impl.graphNode)
    (hcommon : s'.impl.common = f s.impl.common) : ChannelValid s' where
  context := hcontext ▸ h.context
  node := hnode ▸ h.node
  sub p hp := hnode ▸ h.sub p (hf.sub _ p (hcommon ▸ hp))
  pub p hp := hnode ▸ h.pub p (hf.pub _ p (hcommon ▸ hp))
  guard g hg := h.guard g (hf.guard _ g (hcommon ▸ hg))
  thread t ht := h.thread t (hf.thread _ t (hcommon ▸ ht))

/-- A valid channel is valid after a stage. -/
theorem Dismantles.valid {R : Kind → Prop} {s s' : State} {xs : Finset Obj} {e : Entities}
    {f : Common → Common} (h : Dismantles R s xs (s.impl.onCommon f) e s') (hs : ChannelValid s)
    (hf : Shrinks f) : ChannelValid s' :=
  hs.shrink hf h.context (congrArg (·.graphNode) h.impl) (congrArg (·.common) h.impl)

/-- The channel after the end of its thread. -/
theorem Dismantles.valid_disarmed {R : Kind → Prop} {s s' : State} {xs : Finset Obj} {e : Entities}
    (h : Dismantles R s xs (s.impl.onCommon fun c =>
      { c with threadIsRunning := false, listenerThread := none }) e s') (hs : ChannelValid s) :
    ChannelValid ((s'.onImpl (·.onCommon fun c => { c with publishCallback := false })).onImpl
      (·.suppress true)) :=
  (h.valid hs ⟨by simp, by simp, by simp, by simp⟩).shrink
    (f := fun c => { c with publishCallback := false }) ⟨by simp, by simp, by simp, by simp⟩
    rfl rfl rfl

/-- A stage without anything to destroy. -/
theorem Dismantles.nothing {R : Kind → Prop} {s : State} {xs : Finset Obj} {impl : ContextImpl}
    {e : Entities} (hxs : xs = ∅) (himpl : impl = s.impl) (he : e = s.entities) :
    Dismantles R s xs impl e s :=
  ⟨(Releases.refl R s).congr hxs.symm, himpl.symm, he.symm⟩

/-- The result of a stage that has something to destroy or not. -/
def stageRet (present deleted : Bool) : Ret := if present && !deleted then .error else .ok

@[spec] theorem destroyChannelSubscription_spec (o : Outcomes) (s : State)
    (h : ChannelValid s) :
    ⦃fun s' => ⌜s' = s⌝⦄ destroyChannelSubscription o
    ⦃⇓ r s' => ⌜Dismantles (Refuses o) s (s.impl.common.sub.elim ∅ Subscription.objects)
      (s.impl.onCommon fun c => { c with sub := none })
      (s.impl.common.sub.elim s.entities fun p => (s.entities.removeSubscription p).leave) s' ∧
      r = stageRet s.impl.common.sub.isSome (subscriptionDeleted o)⌝⦄ := by
  mvcgen [destroyChannelSubscription]
  next s1 hs c sub hsub =>
    subst hs
    exact h.exists_node (h.sub sub hsub).2
  next s1 hs c sub hsub =>
    subst hs
    exact (h.sub sub hsub).1.valid
  next s1 hs c sub hsub =>
    subst hs
    exact h.context
  next s1 hs c sub hsub ret s2 hdestroy _ s3 h3 =>
    subst hs h3
    obtain ⟨impl, himpl⟩ := Option.isSome_iff_exists.mp (h.sub sub hsub).1.valid.2
    obtain ⟨htopic, hfiltered, hreader, hcondition⟩ := (h.sub sub hsub).1.kinds impl himpl
    have hok := hdestroy.ok impl himpl htopic hfiltered hreader hcondition
    have hsub' : s1.impl.common.sub = some sub := hsub
    rw [hsub']
    refine ⟨⟨⟨hdestroy.heap, hdestroy.refused, hdestroy.context⟩, ?_, hdestroy.entities⟩, ?_⟩
    · rw [State.impl_onImpl, hdestroy.impl]
    · rcases hdestroy.ret with rfl | rfl <;> simp_all [stageRet]
  next s1 hs c _ hnone hsub =>
    subst hs hsub
    have hsub' : s1.impl.common.sub = none := eq_none_of_forall hnone
    refine ⟨.nothing ?_ ?_ ?_, ?_⟩
    · rw [hsub', Option.elim_none]
    · rw [ContextImpl.onCommon, ← hsub']
    · rw [hsub', Option.elim_none]
    · rw [hsub']
      rfl

@[spec] theorem destroyChannelPublisher_spec (o : Outcomes) (s : State) (h : ChannelValid s) :
    ⦃fun s' => ⌜s' = s⌝⦄ destroyChannelPublisher o
    ⦃⇓ r s' => ⌜Dismantles (Refuses o) s (s.impl.common.pub.elim ∅ Publisher.objects)
      (s.impl.onCommon fun c => { c with pub := none })
      (s.impl.common.pub.elim s.entities fun p => ((p.data.elim s.entities fun impl =>
        (s.entities.removePublisher p).removeGuid impl.rtpsGuid)).leave) s' ∧
      r = stageRet s.impl.common.pub.isSome (publisherDeleted o)⌝⦄ := by
  mvcgen [destroyChannelPublisher]
  next s1 hs c pub hpub =>
    subst hs
    exact h.exists_node (h.pub pub hpub).2
  next s1 hs c pub hpub =>
    subst hs
    exact (h.pub pub hpub).1.valid
  next s1 hs c pub hpub =>
    subst hs
    exact h.context
  next s1 hs c pub hpub ret s2 hdestroy _ s3 h3 =>
    subst hs h3
    obtain ⟨impl, himpl⟩ := Option.isSome_iff_exists.mp (h.pub pub hpub).1.valid.2
    obtain ⟨htopic, hwriter⟩ := (h.pub pub hpub).1.kinds impl himpl
    have hok := hdestroy.ok impl himpl htopic hwriter
    have hpub' : s1.impl.common.pub = some pub := hpub
    rw [hpub']
    refine ⟨⟨⟨hdestroy.heap, hdestroy.refused, hdestroy.context⟩, ?_, ?_⟩, ?_⟩
    · rw [State.impl_onImpl, hdestroy.impl]
    · rw [State.entities_onImpl, hdestroy.entities impl himpl, Option.elim_some, himpl,
        Option.elim_some]
    · rcases hdestroy.ret with rfl | rfl <;> simp_all [stageRet]
  next s1 hs c _ hnone hpub =>
    subst hs hpub
    have hpub' : s1.impl.common.pub = none := eq_none_of_forall hnone
    refine ⟨.nothing ?_ ?_ ?_, ?_⟩
    · rw [hpub', Option.elim_none]
    · rw [ContextImpl.onCommon, ← hpub']
    · rw [hpub', Option.elim_none]
    · rw [hpub']
      rfl

@[spec] theorem destroyChannelGuard_spec (s : State) (h : ChannelValid s) :
    ⦃fun s' => ⌜s' = s⌝⦄ destroyChannelGuard
    ⦃⇓ r s' => ⌜Dismantles (fun _ => False) s
      (s.impl.common.listenerThreadGc.elim ∅ GuardCondition.objects)
      (s.impl.onCommon fun c => { c with listenerThreadGc := none })
      (s.impl.common.listenerThreadGc.elim s.entities fun _ => s.entities.leave) s' ∧
      r = .ok⌝⦄ := by
  mvcgen [destroyChannelGuard]
  next s1 hs guard hguard =>
    subst hs
    exact h.guard guard hguard
  next s1 hs guard hguard =>
    subst hs
    exact h.context
  next s1 hs guard hguard ret s2 hdestroy _ s3 h3 =>
    obtain ⟨rfl, rfl⟩ := hdestroy
    subst hs h3
    rw [hguard]
    exact ⟨⟨⟨rfl, fun _ hx => .inl hx, rfl⟩, rfl, rfl⟩, rfl⟩
  next s1 hs _ hnone hguard =>
    subst hs hguard
    have hguard' := eq_none_of_forall hnone
    refine .nothing ?_ ?_ ?_
    · rw [hguard', Option.elim_none]
    · rw [ContextImpl.onCommon, ← hguard']
    · rw [hguard', Option.elim_none]

@[spec] theorem destroyChannelNode_spec (s : State) (h : ChannelValid s)
    (howns : ∀ n ∈ s.impl.graphNode, nodeOwnsEntities s.entities n = false) :
    ⦃fun s' => ⌜s' = s⌝⦄ destroyChannelNode
    ⦃⇓ r s' => ⌜Dismantles (fun _ => False) s (s.impl.graphNode.elim ∅ Node.objects)
      (s.impl.withNode none)
      (s.impl.graphNode.elim s.entities fun n => (s.entities.removeNode n).leave) s' ∧
      r = .ok⌝⦄ := by
  mvcgen [destroyChannelNode]
  next s1 hs node hnode =>
    subst hs
    exact h.node node hnode
  next s1 hs node hnode =>
    subst hs
    exact h.context
  next s1 hs node hnode =>
    subst hs
    exact howns node hnode
  next s1 hs node hnode ret s2 hdestroy _ s3 h3 =>
    obtain ⟨rfl, rfl⟩ := hdestroy
    subst hs h3
    rw [hnode]
    exact ⟨⟨⟨rfl, fun _ hx => .inl hx, rfl⟩, rfl, rfl⟩, rfl⟩
  next s1 hs _ hnone hnode =>
    subst hs hnode
    have hnode' := eq_none_of_forall hnone
    refine .nothing ?_ ?_ ?_
    · rw [hnode', Option.elim_none]
    · rw [ContextImpl.withNode, ← hnode']
    · rw [hnode', Option.elim_none]

/-- The objects of the channel. -/
def ContextImpl.channelObjects (c : ContextImpl) : Finset Obj :=
  c.common.threadObjects ∪ c.common.sub.elim ∅ Subscription.objects ∪
    c.common.pub.elim ∅ Publisher.objects ∪
    c.common.listenerThreadGc.elim ∅ GuardCondition.objects ∪ c.graphNode.elim ∅ Node.objects

section

variable {c : ContextImpl}

theorem ContextImpl.channelObjects_pub (h : c.common.pub = none) (pub : Option Publisher) :
    (c.onCommon fun c => { c with pub }).channelObjects =
      c.channelObjects ∪ pub.elim ∅ Publisher.objects := by
  simp only [channelObjects, onCommon, Common.threadObjects, h, Option.elim_none]
  ext x
  simp only [Finset.mem_union, Finset.notMem_empty]
  tauto

theorem ContextImpl.channelObjects_sub (h : c.common.sub = none) (sub : Option Subscription) :
    (c.onCommon fun c => { c with sub }).channelObjects =
      c.channelObjects ∪ sub.elim ∅ Subscription.objects := by
  simp only [channelObjects, onCommon, Common.threadObjects, h, Option.elim_none]
  ext x
  simp only [Finset.mem_union, Finset.notMem_empty]
  tauto

theorem ContextImpl.channelObjects_guard (h : c.common.listenerThreadGc = none)
    (guard : Option GuardCondition) :
    (c.onCommon fun c => { c with listenerThreadGc := guard }).channelObjects =
      c.channelObjects ∪ guard.elim ∅ GuardCondition.objects := by
  simp only [channelObjects, onCommon, Common.threadObjects, h, Option.elim_none]
  ext x
  simp only [Finset.mem_union, Finset.notMem_empty]
  tauto

end

/-- The implementation without its channel. -/
def ContextImpl.withoutChannel (c : ContextImpl) : ContextImpl :=
  { c with common := ContextImpl.new.common, graphNode := none, suppressGraphUpdates := false }

/-- What the destruction of the channel's subscription does to the registry. -/
def Common.endSub (c : Common) (e : Entities) : Entities :=
  c.sub.elim e fun p => (e.removeSubscription p).leave

def Common.endPub (c : Common) (e : Entities) : Entities :=
  c.pub.elim e fun p =>
    (p.data.elim e fun impl => (e.removePublisher p).removeGuid impl.rtpsGuid).leave

def Common.endGuard (c : Common) (e : Entities) : Entities :=
  c.listenerThreadGc.elim e fun _ => e.leave

def Entities.dismantle (e : Entities) (c : Common) : Entities :=
  c.endGuard (c.endPub (c.endSub (c.endThread e)))

/-- The result of `finalize_graph_channel`, if the endpoints are there. -/
def channelRet (o : Call → Outcomes) (sub pub : Bool) : Ret :=
  Ret.and (stageRet sub (subscriptionDeleted (o .destroySubscription)))
    (stageRet pub (publisherDeleted (o .destroyPublisher)))

@[spec] theorem dismantleChannel_spec (o : Call → Outcomes) (s : State) (h : ChannelValid s) :
    ⦃fun s' => ⌜s' = s⌝⦄ dismantleChannel o
    ⦃⇓ r s' => ⌜Dismantles (RefusesIn o) s
      (s.impl.common.threadObjects ∪ s.impl.common.sub.elim ∅ Subscription.objects ∪
        s.impl.common.pub.elim ∅ Publisher.objects ∪
        s.impl.common.listenerThreadGc.elim ∅ GuardCondition.objects)
      ((s.impl.onCommon fun _ => ContextImpl.new.common).suppress true)
      (s.entities.dismantle s.impl.common) s' ∧
      r = channelRet o s.impl.common.sub.isSome s.impl.common.pub.isSome⌝⦄ := by
  mvcgen [dismantleChannel]
  next s1 hs =>
    subst hs
    exact h.thread
  next s1 hs _ s2 h2 _ s3 h3 _ s4 h4 =>
    subst hs h3 h4
    exact h2.valid_disarmed h
  next s1 hs _ s2 h2 _ s3 h3 _ s4 h4 _ s5 h5 =>
    subst hs h3 h4
    exact h5.1.valid (h2.valid_disarmed h) ⟨by simp, by simp, by simp, by simp⟩
  next s1 hs _ s2 h2 _ s3 h3 _ s4 h4 _ s5 h5 _ _ s6 h6 =>
    subst hs h3 h4
    have hsub := h5.1.valid (h2.valid_disarmed h) ⟨by simp, by simp, by simp, by simp⟩
    exact h6.1.valid hsub ⟨by simp, by simp, by simp, by simp⟩
  next s1 hs _ s2 h2 _ s3 h3 _ s4 h4 _ s5 h5 _ _ s6 h6 _ s7 h7 =>
    subst hs h3 h4
    obtain ⟨h5, rfl⟩ := h5
    obtain ⟨h6, rfl⟩ := h6
    obtain ⟨h7, rfl⟩ := h7
    have hsub : s2.impl.common.sub = s1.impl.common.sub := congrArg (·.common.sub) h2.impl
    have hpub : s5.impl.common.pub = s1.impl.common.pub :=
      (congrArg (·.common.pub) h5.impl).trans (congrArg (·.common.pub) h2.impl)
    have hguard : s6.impl.common.listenerThreadGc = s1.impl.common.listenerThreadGc :=
      (congrArg (·.common.listenerThreadGc) h6.impl).trans
        ((congrArg (·.common.listenerThreadGc) h5.impl).trans
          (congrArg (·.common.listenerThreadGc) h2.impl))
    have hsubs : Releases (RefusesIn o) s2 (s1.impl.common.sub.elim ∅ Subscription.objects) s5 :=
      ⟨hsub ▸ h5.heap, fun x hx => (h5.refused x hx).imp_right fun hk => ⟨_, hk⟩, h5.context⟩
    have hpubs := (h6.toReleases.congr (by rw [hpub])).mono (Q := RefusesIn o)
      fun _ hk => ⟨_, hk⟩
    have hguards := (h7.toReleases.congr (by rw [hguard])).mono (Q := RefusesIn o)
      fun _ hk => hk.elim
    have hthread := h2.toReleases.mono (Q := RefusesIn o) fun _ hk => hk.elim
    refine ⟨⟨((hthread.trans hsubs).trans hpubs).trans hguards, ?_, ?_⟩, ?_⟩
    · rw [h7.impl, h6.impl, h5.impl, State.impl_onImpl, State.impl_onImpl, h2.impl]
      rfl
    · rw [h7.entities, hguard, h6.entities, hpub, h5.entities]
      simp only [State.impl_onImpl, State.entities_onImpl, h2.entities,
        ContextImpl.common_suppress, ContextImpl.common_onCommon, hsub]
      rfl
    · rw [Ret.and_ok, channelRet, ← hpub, ← hsub]
      rfl

/-- A channel of which only the node is left. -/
theorem ChannelValid.node_left {s s' : State} (h : ChannelValid s)
    (hcontext : s'.context = s.context)
    (himpl : s'.impl = (s.impl.onCommon fun _ => ContextImpl.new.common).suppress true) :
    ChannelValid s' :=
  h.shrink (f := fun _ => ContextImpl.new.common)
    ⟨by simp [ContextImpl.new], by simp [ContextImpl.new], by simp [ContextImpl.new],
      by simp [ContextImpl.new]⟩
    hcontext (congrArg (·.graphNode) himpl) (congrArg (·.common) himpl)

/-- What `finalize_graph_channel` does. -/
structure FinalizesChannel (o : Call → Outcomes) (s : State) (r : Ret) (s' : State) : Prop where
  releases : Releases (RefusesIn o) s s.impl.channelObjects s'
  impl : s'.impl = s.impl.withoutChannel
  entities : s'.entities = s.impl.graphNode.elim (s.entities.dismantle s.impl.common)
    fun n => ((s.entities.dismantle s.impl.common).removeNode n).leave
  ret : r = channelRet o s.impl.common.sub.isSome s.impl.common.pub.isSome

@[spec] theorem finalizeGraphChannel_spec (o : Call → Outcomes) (s : State) (h : ChannelValid s)
    (howns : ∀ n ∈ s.impl.graphNode,
      nodeOwnsEntities (s.entities.dismantle s.impl.common) n = false) :
    ⦃fun s' => ⌜s' = s⌝⦄ finalizeGraphChannel o ⦃⇓ r s' => ⌜FinalizesChannel o s r s'⌝⦄ := by
  mvcgen [finalizeGraphChannel]
  next s1 hs hnone =>
    subst hs
    have hsome := h.context
    simp_all
  next s1 hs _ =>
    subst hs
    exact h
  next s1 hs _ _ s2 h2 =>
    subst hs
    exact h.node_left h2.1.context h2.1.impl
  next s1 hs _ _ s2 h2 =>
    subst hs
    rw [h2.1.impl, h2.1.entities]
    exact howns
  next s1 hs _ _ s2 h2 _ _ s3 h3 _ s4 h4 =>
    subst hs h4
    obtain ⟨h2, rfl⟩ := h2
    obtain ⟨h3, rfl⟩ := h3
    have hnode : s2.impl.graphNode = s1.impl.graphNode := congrArg (·.graphNode) h2.impl
    have hnodes := (h3.toReleases.congr (by rw [hnode])).mono (Q := RefusesIn o)
      fun _ hk => hk.elim
    have hall := h2.toReleases.trans hnodes
    refine ⟨⟨hall.heap, hall.refused, hall.context⟩, ?_, ?_, Ret.and_ok _⟩
    · rw [State.impl_onImpl, h3.impl, h2.impl]
      rfl
    · rw [State.entities_onImpl, h3.entities, h2.entities, hnode]

/-! ## Building the channel -/

/-- The channel's thread with its wait set comes up. -/
def listenerStarted (o : Call → Outcomes) : Bool :=
  o .startListener .startup && o .startListener (.create .thread) &&
    [Kind.waitSet, .waitSetImpl, .rmwWaitSet].all fun k => o .createWaitSet (.create k)

/-- The start of the thread. -/
structure StartsListener (o : Call → Outcomes) (s : State) (ok : Bool) (s' : State) : Prop where
  account : Account (RefusesIn o) s s'.impl.common.threadObjects s'
  context : s'.context = s.context
  impl : s'.impl = s.impl.onCommon fun c => { c with
    publishCallback := true
    threadIsRunning := ok
    listenerThread := s'.impl.common.listenerThread }
  thread : ∀ t ∈ s'.impl.common.listenerThread, ∀ w ∈ t.waitSet, w.Valid
  started : ok = listenerStarted o
  waitSet : (s'.impl.common.listenerThread.bind (·.waitSet)).isSome = ok
  entities : s'.entities = s.entities.enter ok.toNat

@[spec] theorem createListener_spec (o : Outcomes) (s : State) :
    ⦃fun s' => ⌜s' = s⌝⦄ createListener o
    ⦃⇓ x s' => ⌜Effect (Refuses o) s x.toFinset s' ∧ s'.entities = s.entities ∧
      x.isSome = (o .startup && o (.create .thread))⌝⦄ := by
  mvcgen [createListener]
  next hstartup s1 hs =>
    subst hs
    exact ⟨.refl _ _, rfl, by simp_all⟩
  next hstartup s1 hs x s2 =>
    intro h2
    subst hs
    exact ⟨h2.effect, h2.entities, by simp_all [h2.isSome]⟩

@[spec] theorem startListener_spec (o : Call → Outcomes) (s : State) (haccepts : s.accepts)
    (hnone : s.impl.common.listenerThread = none) :
    ⦃fun s' => ⌜s' = s⌝⦄ startListener o ⦃⇓ ok s' => ⌜StartsListener o s ok s'⌝⦄ := by
  mvcgen [startListener]
  next s1 hs _ s2 h2 _ thread _ s3 h3 waitSet s4 h4 _ s5 h5 =>
    obtain ⟨heffect, hentities, hthread⟩ := h3
    obtain ⟨p, rfl, hp⟩ := h4
    subst hs h2 h5
    have haccepts' : s3.accepts = true := by
      rw [State.accepts, State.validContext, heffect.context, heffect.impl]
      exact haccepts
    have hstarted : p.isSome = listenerStarted o := by
      rw [hp.isSome, haccepts', listenerStarted, ← hthread]
      rfl
    have hobjects : (p.map WaitSet.ofParts).elim ∅ WaitSet.objects = p.elim ∅ Parts.objects := by
      cases p <;> rfl
    refine ⟨?_, ?_, ?_, ?_, ?_, ?_, ?_⟩
    · have hall := (((Account.refl (RefusesIn o) s1).onImpl _).effect heffect
        fun _ hk => ⟨_, hk⟩).effect hp.effect fun _ hk => ⟨_, hk⟩
      refine (hall.onImpl _).congr ?_
      simp only [Common.threadObjects, ListenerThread.objects, State.impl_onImpl,
        ContextImpl.common_onCommon, Option.elim_some, hobjects]
      simp
    · exact hp.effect.context.trans heffect.context
    · rw [State.impl_onImpl, hp.effect.impl, heffect.impl, Option.isSome_map]
      rfl
    · intro t ht w hw
      cases ht
      obtain ⟨q, -, rfl⟩ := Option.mem_map.mp hw
      exact WaitSet.valid_ofParts q
    · rw [Option.isSome_map, hstarted]
    · rfl
    · rw [State.entities_onImpl, hp.entities, hentities, Option.isSome_map]
      rfl
  next s1 hs _ s2 h2 _ _ hnone' heq s3 h3 _ s4 h4 =>
    obtain ⟨heffect, hentities, hthread⟩ := h3
    obtain rfl := eq_none_of_forall hnone'
    subst hs h2 h4
    have hthreads : s3.impl.common.listenerThread = none := by
      rw [heffect.impl]
      exact hnone
    refine ⟨?_, ?_, ?_, ?_, ?_, ?_, ?_⟩
    · have hall := ((Account.refl (RefusesIn o) s1).onImpl _).effect heffect fun _ hk => ⟨_, hk⟩
      refine (hall.onImpl _).congr ?_
      simp only [Common.threadObjects, State.impl_onImpl, ContextImpl.common_onCommon, hthreads]
      rfl
    · exact heffect.context
    · rw [State.impl_onImpl, heffect.impl]
      rfl
    · intro t ht
      simp [hthreads] at ht
    · simp [listenerStarted, ← hthread]
    · simp [hthreads]
    · exact hentities

/-- The registry after a call that adds entities of its own. -/
theorem State.Registered.grow {s s' : State} {xs : Finset Obj} (h : s.Registered)
    (howns : s.heap.Owns xs s'.heap)
    (hnodes : ∀ n ∈ s'.entities.nodes, n ∈ s.entities.nodes ∨ n.object ∈ xs)
    (hpublishers : ∀ p ∈ s'.entities.publishers, p ∈ s.entities.publishers ∨ p.object ∈ xs)
    (hsubscriptions : ∀ p ∈ s'.entities.subscriptions,
      p ∈ s.entities.subscriptions ∨ p.object ∈ xs)
    (hends : ∀ role, ∀ x ∈ s'.entities.ends role, x ∈ s.entities.ends role) :
    s'.Registered := by
  have hlive {x : Obj} (hx : x ∈ s.heap.live ∨ x ∈ xs) : x ∈ s'.heap.live := by
    rw [howns.live]
    exact Finset.mem_union.mpr hx
  refine ⟨?_, ?_, ?_, ?_⟩
  · intro n hn
    exact hlive ((hnodes n hn).imp_left (h.nodes n))
  · intro p hp
    exact hlive ((hpublishers p hp).imp_left (h.publishers p))
  · intro p hp
    exact hlive ((hsubscriptions p hp).imp_left (h.subscriptions p))
  · intro role x hx
    exact hlive (.inl (h.ends role x (hends role x hx)))

/-- The endpoints of the channel are the only ones. -/
structure ChannelOnly (s : State) : Prop where
  publishers : s.entities.publishers = s.impl.common.pub.toFinset
  subscriptions : s.entities.subscriptions = s.impl.common.sub.toFinset
  clients : s.entities.clients = ∅
  services : s.entities.services = ∅

/-- The sets that `node_owns_entities` looks at. -/
def Entities.owners (e : Entities) :
    Finset Publisher × Finset Subscription × Finset ServiceEntity × Finset ServiceEntity :=
  (e.publishers, e.subscriptions, e.clients, e.services)

section

variable (e : Entities) (c : Common)

theorem Common.owners_endThread : (c.endThread e).owners = e.owners := by
  unfold endThread
  cases c.listenerThread.bind (·.waitSet) <;> rfl

theorem Common.owners_endSub : (c.endSub e).owners =
    (e.publishers, e.subscriptions \ c.sub.toFinset, e.clients, e.services) := by
  unfold endSub
  cases c.sub with
  | none => simp [Entities.owners]
  | some p => simp [Entities.owners, Entities.removeSubscription, Entities.leave,
      Finset.sdiff_singleton_eq_erase]

theorem Common.owners_endPub (h : ∀ p ∈ c.pub, p.data.isSome) : (c.endPub e).owners =
    (e.publishers \ c.pub.toFinset, e.subscriptions, e.clients, e.services) := by
  unfold endPub
  cases hpub : c.pub with
  | none => simp [Entities.owners]
  | some p =>
    obtain ⟨impl, himpl⟩ := Option.isSome_iff_exists.mp (h p hpub)
    simp [himpl, Entities.owners, Entities.removePublisher, Entities.removeGuid, Entities.leave,
      Finset.sdiff_singleton_eq_erase]

theorem Common.owners_endGuard : (c.endGuard e).owners = e.owners := by
  unfold endGuard
  cases c.listenerThreadGc <;> rfl

theorem Entities.owners_dismantle (h : ∀ p ∈ c.pub, p.data.isSome) : (e.dismantle c).owners =
    (e.publishers \ c.pub.toFinset, e.subscriptions \ c.sub.toFinset, e.clients, e.services) := by
  have hthread := c.owners_endThread e
  have hsub := c.owners_endSub (c.endThread e)
  have hpub := c.owners_endPub (c.endSub (c.endThread e)) h
  simp only [owners, Prod.mk.injEq] at hthread hsub
  rw [dismantle, Common.owners_endGuard, hpub, hsub.1, hsub.2.1, hsub.2.2.1, hsub.2.2.2,
    hthread.1, hthread.2.1, hthread.2.2.1, hthread.2.2.2]

end

theorem ChannelOnly.dismantled {s : State} (h : ChannelOnly s) (hs : ChannelValid s) (n : Node) :
    nodeOwnsEntities (s.entities.dismantle s.impl.common) n = false := by
  have howners := s.entities.owners_dismantle s.impl.common
    fun p hp => (hs.pub p hp).1.valid.2
  simp only [Entities.owners, h.publishers, h.subscriptions, h.clients, h.services,
    Finset.sdiff_self, Prod.mk.injEq] at howners
  simp [nodeOwnsEntities, howners]

@[spec] theorem createChannelEndpoints_spec (o : Call → Outcomes) (guid : Guid) (node : Node)
    (s : State) :
    ⦃fun s' => ⌜s' = s⌝⦄ createChannelEndpoints o guid node
    ⦃⇓ _ s' => ⌜∃ pub sub s1 s2,
      CreatesPublisher (o .createPublisher) guid (some node) s pub s1 ∧
      CreatesSubscription (o .createSubscription) (some node)
        (s1.onImpl (·.onCommon fun c => { c with pub })) sub s2 ∧
      s' = s2.onImpl (·.onCommon fun c => { c with sub })⌝⦄ := by
  mvcgen [createChannelEndpoints]
  next s1 hs pub s2 h2 _ s3 h3 sub s4 h4 _ s5 =>
    intro h5
    subst hs h3 h5
    exact ⟨pub, sub, s2, s4, h2, h4, rfl⟩

/-- A part of the channel, built since `s`. -/
structure Building (o : Call → Outcomes) (s s' : State) : Prop where
  account : Account (RefusesIn o) s s'.impl.channelObjects s'
  context : s'.context = s.context
  rest : s'.impl.withoutChannel = s.impl.withoutChannel
  valid : ChannelValid s'
  only : ChannelOnly s'
  registered : s'.Registered
  guids : s'.impl.common.pub = none → s'.entities.localPublicationGuids = ∅

/-- A context without channel and without entities. -/
structure State.Fresh (s : State) : Prop where
  accepts : s.accepts
  common : s.impl.common = ContextImpl.new.common
  node : s.impl.graphNode = none
  entities : s.entities = .empty

theorem State.Registered.onImpl {s : State} (h : s.Registered) (f : ContextImpl → ContextImpl) :
    (s.onImpl f).Registered := ⟨h.nodes, h.publishers, h.subscriptions, h.ends⟩

theorem State.Fresh.context {s : State} (hs : s.Fresh) : s.context.impl.isSome := by
  have haccepts := hs.accepts
  simp only [State.accepts, State.validContext, Bool.and_eq_true] at haccepts
  exact haccepts.1.1

theorem State.Fresh.registered {s : State} (hs : s.Fresh) : s.Registered := by
  constructor
  case ends => intro role; cases role <;> simp [hs.entities, Entities.empty, Entities.ends]
  all_goals simp [hs.entities, Entities.empty]

namespace Building

variable {o : Call → Outcomes} {s s1 s2 s3 : State}

theorem accepts (h : Building o s s1) (hs : s.accepts) : s1.accepts := by
  have hshutdown : s1.impl.shutdown = s.impl.shutdown := congrArg (·.shutdown) h.rest
  rw [State.accepts, State.validContext, h.context, hshutdown]
  exact hs

/-- The node of the channel. -/
theorem node {name namespace_ : Option String} {n : Node} (hs : s.Fresh)
    (h : CreatesNode (o .createNode) name namespace_ (s.onImpl (·.suppress true)) (some n) s1) :
    Building o s (s1.onImpl (·.withNode (some n))) := by
  have hregistered := hs.registered.onImpl (·.suppress true)
  have hentities := h.entities hregistered (.inl rfl)
  rw [State.entities_onImpl, hs.entities, Option.elim_some] at hentities
  have hcommon : s1.impl.common = ContextImpl.new.common :=
    (congrArg (·.common) h.effect.impl).trans hs.common
  refine ⟨?_, h.effect.context, ?_, ?_, ?_, ?_, ?_⟩
  · have hall := ((Account.refl (RefusesIn o) s).onImpl (·.suppress true)).effect h.effect
      fun _ hk => ⟨_, hk⟩
    refine (hall.onImpl _).congr ?_
    simp [ContextImpl.channelObjects, ContextImpl.withNode, hcommon, ContextImpl.new,
      Common.threadObjects]
  · rw [State.impl_onImpl, h.effect.impl]
    rfl
  · refine ⟨?_, ?_, ?_, ?_, ?_, ?_⟩
    · rw [State.context_onImpl, h.effect.context]
      exact hs.context
    · rintro m ⟨⟩
      exact h.valid n rfl
    all_goals simp [hcommon, ContextImpl.new]
  · constructor <;> simp [hentities, hcommon, ContextImpl.new, Entities.empty, Entities.addNode,
      Entities.enter]
  · refine (hregistered.grow h.effect.owns ?_ ?_ ?_ ?_).onImpl _
    · rw [hentities]
      simp [Entities.empty, Entities.addNode, Entities.enter, Node.objects]
    all_goals simp [hentities, hs.entities, Entities.empty, Entities.addNode, Entities.enter,
      Entities.ends]
  · intro _
    rw [State.entities_onImpl, hentities]
    rfl

/-- The publisher of the channel. -/
theorem publisher {guid : Guid} {pub : Option Publisher} {n : Node} (h : Building o s s1)
    (hnode : s1.impl.graphNode = some n) (hnone : s1.impl.common.pub = none)
    (hpub : CreatesPublisher (o .createPublisher) guid (some n) s1 pub s2) :
    Building o s (s2.onImpl (·.onCommon fun c => { c with pub })) := by
  have hentities := hpub.entities h.registered (by simp [h.guids hnone])
  have hpublishers := h.only.publishers
  rw [hnone] at hpublishers
  refine ⟨?_, hpub.effect.context.trans h.context, ?_, ?_, ?_, ?_, ?_⟩
  · have hall := h.account.effect hpub.effect fun _ hk => ⟨_, hk⟩
    refine (hall.onImpl _).congr ?_
    rw [State.impl_onImpl, hpub.effect.impl]
    exact (ContextImpl.channelObjects_pub hnone pub).symm
  · rw [State.impl_onImpl, hpub.effect.impl]
    exact h.rest
  · have hvalid := h.valid
    have himpl := hpub.effect.impl
    refine ⟨?_, ?_, ?_, ?_, ?_, ?_⟩
    · rw [State.context_onImpl, hpub.effect.context]
      exact hvalid.context
    · simpa [himpl] using hvalid.node
    · simpa [himpl] using hvalid.sub
    · intro p hp
      refine ⟨⟨hpub.valid p hp, fun impl hi => ?_⟩, by simp [himpl, hnode]⟩
      exact (hpub.data p hp impl hi).2.2
    · simpa [himpl] using hvalid.guard
    · simpa [himpl] using hvalid.thread
  · have honly := h.only
    cases pub <;> constructor <;>
      simp [hentities, hpub.effect.impl, hpublishers, honly.subscriptions, honly.clients,
        honly.services, Entities.addGuid, Entities.addPublisher, Entities.enter]
  · refine (h.registered.grow hpub.effect.owns ?_ ?_ ?_ ?_).onImpl _
    · cases pub <;> simp +contextual [hentities, Entities.addGuid, Entities.addPublisher, Entities.enter]
    · cases pub <;> simp +contextual [hentities, Entities.addGuid, Entities.addPublisher, Entities.enter, Publisher.objects, or_imp]
    · cases pub <;> simp +contextual [hentities, Entities.addGuid, Entities.addPublisher, Entities.enter]
    · intro role
      cases role <;> cases pub <;>
        simp [hentities, Entities.addGuid, Entities.addPublisher, Entities.enter, Entities.ends]
  · intro hpub'
    simp only [State.impl_onImpl, ContextImpl.common_onCommon] at hpub'
    subst hpub'
    rw [State.entities_onImpl, hentities]
    exact h.guids hnone

/-- The subscription of the channel. -/
theorem subscription {sub : Option Subscription} {n : Node} (h : Building o s s1)
    (hnode : s1.impl.graphNode = some n) (hnone : s1.impl.common.sub = none)
    (hsub : CreatesSubscription (o .createSubscription) (some n) s1 sub s2) :
    Building o s (s2.onImpl (·.onCommon fun c => { c with sub })) := by
  have hentities := hsub.entities h.registered
  have himpl := hsub.effect.impl
  have hsubscriptions := h.only.subscriptions
  rw [hnone] at hsubscriptions
  refine ⟨?_, hsub.effect.context.trans h.context, ?_, ?_, ?_, ?_, ?_⟩
  · have hall := h.account.effect hsub.effect fun _ hk => ⟨_, hk⟩
    refine (hall.onImpl _).congr ?_
    rw [State.impl_onImpl, himpl]
    exact (ContextImpl.channelObjects_sub hnone sub).symm
  · rw [State.impl_onImpl, himpl]
    exact h.rest
  · have hvalid := h.valid
    refine ⟨?_, ?_, ?_, ?_, ?_, ?_⟩
    · rw [State.context_onImpl, hsub.effect.context]
      exact hvalid.context
    · simpa [himpl] using hvalid.node
    · intro p hp
      refine ⟨⟨hsub.valid p hp, fun impl hi => ?_⟩, by simp [himpl, hnode]⟩
      exact (hsub.data p hp impl hi).2
    · simpa [himpl] using hvalid.pub
    · simpa [himpl] using hvalid.guard
    · simpa [himpl] using hvalid.thread
  · have honly := h.only
    cases sub <;> constructor <;>
      simp [hentities, himpl, hsubscriptions, honly.publishers, honly.clients,
        honly.services, Entities.addSubscription, Entities.enter]
  · refine (h.registered.grow hsub.effect.owns ?_ ?_ ?_ ?_).onImpl _
    · cases sub <;> simp +contextual [hentities, Entities.addSubscription, Entities.enter]
    · cases sub <;> simp +contextual [hentities, Entities.addSubscription, Entities.enter]
    · cases sub <;> simp +contextual [hentities, Entities.addSubscription, Entities.enter,
        Subscription.objects, or_imp]
    · intro role
      cases role <;> cases sub <;>
        simp [hentities, Entities.addSubscription, Entities.enter, Entities.ends]
  · intro hpub
    rw [State.impl_onImpl, ContextImpl.common_onCommon, himpl] at hpub
    have hguids := h.guids hpub
    cases sub <;> simpa [hentities, Entities.addSubscription, Entities.enter] using hguids

/-- The guard condition of the channel. -/
theorem guard {p : Option Parts} (h : Building o s s1)
    (hnone : s1.impl.common.listenerThreadGc = none)
    (hguard : CreatesParts (o .createGuardCondition)
      [.guardCondition, .guardConditionImpl, .rmwGuardCondition] s1 p s2) :
    Building o s (s2.onImpl (·.onCommon fun c =>
      { c with listenerThreadGc := p.map GuardCondition.ofParts })) := by
  have himpl := hguard.effect.impl
  have honly := h.only
  have hvalid := h.valid
  refine ⟨?_, hguard.effect.context.trans h.context, ?_, ?_, ?_, ?_, ?_⟩
  · have hall := h.account.effect hguard.effect fun _ hk => ⟨_, hk⟩
    refine (hall.onImpl _).congr ?_
    rw [State.impl_onImpl, himpl, ContextImpl.channelObjects_guard hnone]
    cases p <;> rfl
  · rw [State.impl_onImpl, himpl]
    exact h.rest
  · refine ⟨?_, ?_, ?_, ?_, ?_, ?_⟩
    · rw [State.context_onImpl, hguard.effect.context]
      exact hvalid.context
    · simpa [himpl] using hvalid.node
    · simpa [himpl] using hvalid.sub
    · simpa [himpl] using hvalid.pub
    · intro g hg
      obtain ⟨q, -, rfl⟩ := Option.mem_map.mp hg
      exact GuardCondition.valid_ofParts q
    · simpa [himpl] using hvalid.thread
  · constructor <;> simp [hguard.entities, himpl, honly.publishers, honly.subscriptions,
      honly.clients, honly.services, Entities.enter]
  · refine (h.registered.grow hguard.effect.owns ?_ ?_ ?_ ?_).onImpl _
    · simp +contextual [hguard.entities, Entities.enter]
    · simp +contextual [hguard.entities, Entities.enter]
    · simp +contextual [hguard.entities, Entities.enter]
    · intro role
      cases role <;> simp [hguard.entities, Entities.enter, Entities.ends]
  · intro hpub
    rw [State.impl_onImpl, ContextImpl.common_onCommon, himpl] at hpub
    simpa [hguard.entities, Entities.enter] using h.guids hpub

theorem suppress (h : Building o s s1) (b : Bool) : Building o s (s1.onImpl (·.suppress b)) where
  account := h.account.onImpl _
  context := h.context
  rest := h.rest
  valid := ⟨h.valid.context, h.valid.node, h.valid.sub, h.valid.pub, h.valid.guard,
    h.valid.thread⟩
  only := ⟨h.only.publishers, h.only.subscriptions, h.only.clients, h.only.services⟩
  registered := h.registered.onImpl _
  guids := h.guids

/-- The thread of the channel. -/
theorem listener {ok : Bool} (h : Building o s s1)
    (hnone : s1.impl.common.listenerThread = none) (hstart : StartsListener o s1 ok s2) :
    Building o s s2 := by
  have himpl := hstart.impl
  have honly := h.only
  have hvalid := h.valid
  have hcommon := congrArg (·.common) himpl
  have hsub : s2.impl.common.sub = s1.impl.common.sub := congrArg (·.sub) hcommon
  have hpub : s2.impl.common.pub = s1.impl.common.pub := congrArg (·.pub) hcommon
  have hguard : s2.impl.common.listenerThreadGc = s1.impl.common.listenerThreadGc :=
    congrArg (·.listenerThreadGc) hcommon
  have hnode : s2.impl.graphNode = s1.impl.graphNode := congrArg (·.graphNode) himpl
  refine ⟨?_, hstart.context.trans h.context, ?_, ?_, ?_, ?_, ?_⟩
  · refine (h.account.trans hstart.account).congr ?_
    simp only [ContextImpl.channelObjects, hsub, hpub, hguard, hnode, Common.threadObjects, hnone]
    ext x
    simp only [Finset.mem_union, Option.elim_none, Finset.notMem_empty]
    tauto
  · rw [himpl]
    exact h.rest
  · refine ⟨?_, ?_, ?_, ?_, ?_, hstart.thread⟩
    · rw [hstart.context]
      exact hvalid.context
    · rw [hnode]
      exact hvalid.node
    · rw [hsub, hnode]
      exact hvalid.sub
    · rw [hpub, hnode]
      exact hvalid.pub
    · rw [hguard]
      exact hvalid.guard
  · constructor <;> simp [hstart.entities, hsub, hpub, honly.publishers, honly.subscriptions,
      honly.clients, honly.services, Entities.enter]
  · refine h.registered.grow hstart.account.owns ?_ ?_ ?_ ?_
    · simp +contextual [hstart.entities, Entities.enter]
    · simp +contextual [hstart.entities, Entities.enter]
    · simp +contextual [hstart.entities, Entities.enter]
    · intro role
      cases role <;> simp [hstart.entities, Entities.enter, Entities.ends]
  · rw [hpub]
    simpa [hstart.entities, Entities.enter] using h.guids

/-- Nothing is left of a channel that is taken down. -/
theorem finalized {ret : Ret} (h : Building o s s1) (hfinal : FinalizesChannel o s1 ret s2) :
    Account (RefusesIn o) s ∅ s2 ∧ s2.impl.channelObjects = ∅ := by
  have hobjects : s2.impl.channelObjects = ∅ := by
    rw [hfinal.impl]
    simp [ContextImpl.channelObjects, ContextImpl.withoutChannel, ContextImpl.new,
      Common.threadObjects]
  exact ⟨h.account.close hfinal.releases, hobjects⟩

end Building

/-! ## Which steps succeed -/

/-- The node of the channel is created. -/
def channelNodeCreated (o : Outcomes) : Bool :=
  o .validNodeName && o .validNamespace && (o (.create .nodeImpl) && o (.create .rmwNode) &&
    o (.create .nodeName) && o (.create .nodeNamespace)) && o .insertNode

/-- The checks of an endpoint of the channel. -/
def channelEndpointChecked (o : Outcomes) : Bool :=
  o .validateTopic && o .supportedOptions && o .resolveTypeSupport && o .ddsTopicName &&
    o .registerTypeSupport

/-- The publisher of the channel is created. -/
def channelPublisherCreated (o : Outcomes) : Bool :=
  channelEndpointChecked o && writerCreated o &&
    (o (.create .publisherImpl) && o (.create .rmwPublisher) && o (.create .topicName)) &&
    o .guid && o .insertGuid && o .insertEndpoint

/-- The subscription of the channel is created. -/
def channelSubscriptionCreated (o : Outcomes) : Bool :=
  channelEndpointChecked o && readerCreated o &&
    (o (.create .rmwSubscription) && o (.create .topicName)) && o .guid && o .insertEndpoint

/-- The guard condition of the channel is created. -/
def channelGuardCreated (o : Outcomes) : Bool :=
  [Kind.guardCondition, .guardConditionImpl, .rmwGuardCondition].all fun k => o (.create k)

/-- Both endpoints and the guard condition of the channel are created. -/
def channelEntitiesCreated (o : Call → Outcomes) : Bool :=
  channelPublisherCreated (o .createPublisher) &&
    channelSubscriptionCreated (o .createSubscription) &&
    channelGuardCreated (o .createGuardCondition)

theorem nodeCreated_suppressed {o : Outcomes} {name namespace_ : String} {s : State}
    (haccepts : s.accepts) (hsuppress : s.impl.suppressGraphUpdates = true) :
    nodeCreated o (some name) (some namespace_) s = channelNodeCreated o := by
  simp [nodeCreated, channelNodeCreated, nodeRegistered, haccepts, hsuppress]

theorem endpointChecked_of_valid {o : Outcomes} {s : State} {node : Node} (haccepts : s.accepts)
    (hnode : node.Valid) : endpointChecked o s node = channelEndpointChecked o := by
  simp only [State.accepts, State.validContext, Bool.and_eq_true, Bool.not_eq_true'] at haccepts
  simp [endpointChecked, channelEndpointChecked, validNode_of_valid hnode haccepts.1.1,
    haccepts.2]

theorem publisherCreated_suppressed {o : Outcomes} {s : State} {node : Node}
    (haccepts : s.accepts) (hnode : node.Valid) (hsuppress : s.impl.suppressGraphUpdates = true) :
    publisherCreated o (some node) s = channelPublisherCreated o := by
  simp [publisherCreated, channelPublisherCreated, publisherRegistered, hsuppress,
    endpointChecked_of_valid haccepts hnode, Bool.and_assoc]

theorem subscriptionCreated_suppressed {o : Outcomes} {s : State} {node : Node}
    (haccepts : s.accepts) (hnode : node.Valid) (hsuppress : s.impl.suppressGraphUpdates = true) :
    subscriptionCreated o (some node) s = channelSubscriptionCreated o := by
  simp [subscriptionCreated, channelSubscriptionCreated, subscriptionRegistered, hsuppress,
    endpointChecked_of_valid haccepts hnode]

/-! ## The whole channel -/

/-- A channel that works. -/
structure ContextImpl.Working (c : ContextImpl) : Prop where
  node : c.graphNode.isSome
  pub : c.common.pub.isSome
  sub : c.common.sub.isSome
  guard : c.common.listenerThreadGc.isSome
  callback : c.common.publishCallback = true
  waitSet : (c.common.listenerThread.bind (·.waitSet)).isSome

/-- Every step of `initialize_graph_channel` succeeds. -/
def channelStarted (o : Call → Outcomes) : Bool :=
  channelNodeCreated (o .createNode) && channelEntitiesCreated o && listenerStarted o

/-- The result of `initialize_graph_channel`. -/
def initializeRet (o : Call → Outcomes) : Ret :=
  if !channelNodeCreated (o .createNode) then .error
  else if !channelEntitiesCreated o then
    channelRet o (channelSubscriptionCreated (o .createSubscription))
      (channelPublisherCreated (o .createPublisher))
  else if listenerStarted o then .ok else .error

/-- What `initialize_graph_channel` does. -/
structure InitializesChannel (o : Call → Outcomes) (s : State) (r : Ret) (s' : State) : Prop where
  account : Account (RefusesIn o) s s'.impl.channelObjects s'
  context : s'.context = s.context
  rest : s'.impl.withoutChannel = s.impl.withoutChannel
  ret : r = initializeRet o
  working : channelStarted o = true → s'.impl.Working
  gone : channelStarted o = false → s'.impl.channelObjects = ∅ ∧ ¬ s'.impl.Working

/-- A channel that is taken down again. -/
theorem InitializesChannel.failed {o : Call → Outcomes} {s s1 s' : State} {r : Ret}
    (h : Building o s s1) (hfinal : ∃ ret, FinalizesChannel o s1 ret s')
    (hret : r = initializeRet o) (hfail : channelStarted o = false) :
    InitializesChannel o s r s' := by
  obtain ⟨ret, hfinal⟩ := hfinal
  obtain ⟨haccount, hobjects⟩ := h.finalized hfinal
  refine ⟨hobjects ▸ haccount, hfinal.releases.context.trans h.context, ?_, hret, ?_, ?_⟩
  · rw [hfinal.impl, ← h.rest]
    rfl
  · intro hstarted
    simp [hfail] at hstarted
  · refine fun _ => ⟨hobjects, fun hworking => ?_⟩
    have hpub := hworking.pub
    simp [hfinal.impl, ContextImpl.withoutChannel, ContextImpl.new] at hpub

theorem Building.dismantled {o : Call → Outcomes} {s s' : State} (h : Building o s s') (n : Node) :
    nodeOwnsEntities (s'.entities.dismantle s'.impl.common) n = false :=
  h.only.dismantled h.valid n

/-- The channel with its endpoints, before its guard condition. -/
structure EndpointsBuilt (o : Call → Outcomes) (s s' : State) : Prop where
  building : Building o s s'
  nodeCreated : channelNodeCreated (o .createNode) = true
  node : s'.impl.graphNode.isSome
  pub : s'.impl.common.pub.isSome = channelPublisherCreated (o .createPublisher)
  sub : s'.impl.common.sub.isSome = channelSubscriptionCreated (o .createSubscription)
  guard : s'.impl.common.listenerThreadGc = none
  thread : s'.impl.common.listenerThread = none

theorem EndpointsBuilt.of_creates {o : Call → Outcomes} {guid : Guid} {s s1 s2 s3 : State}
    {n : Node} (hs : s.Fresh)
    (hnode : CreatesNode (o .createNode) (some "__rmw_zzdds_graph") (some "/")
      (s.onImpl (·.suppress true)) (some n) s1)
    (hends : ∃ pub sub t1 t2,
      CreatesPublisher (o .createPublisher) guid (some n) (s1.onImpl (·.withNode (some n))) pub t1 ∧
      CreatesSubscription (o .createSubscription) (some n)
        (t1.onImpl (·.onCommon fun c => { c with pub })) sub t2 ∧
      s2 = t2.onImpl (·.onCommon fun c => { c with sub }))
    (h3 : s3 = s2.onImpl (·.suppress false)) : EndpointsBuilt o s s3 := by
  obtain ⟨pub, sub, t, s2, hpub, hsub, rfl⟩ := hends
  subst h3
  have hcommon : s1.impl.common = ContextImpl.new.common :=
    (congrArg (·.common) hnode.effect.impl).trans hs.common
  have hbuilt := Building.node hs hnode
  have hbuilt' := hbuilt.publisher rfl (by simp [hcommon, ContextImpl.new]) hpub
  have hsubnone : t.impl.common.sub = none := by
    rw [hpub.effect.impl]
    simp [hcommon, ContextImpl.new]
  have hnode' : t.impl.graphNode = some n := by
    rw [hpub.effect.impl]
    rfl
  have hvalid := hnode.valid n rfl
  have hcreated := hnode.isSome
  have hpub' := hpub.isSome
  have hsub' := hsub.isSome
  have hsuppress : s1.impl.suppressGraphUpdates = true := by
    rw [hnode.effect.impl]
    rfl
  have hsuppress' : t.impl.suppressGraphUpdates = true := by
    rw [hpub.effect.impl]
    exact hsuppress
  replace hcreated := hcreated.trans
    (nodeCreated_suppressed (s := s.onImpl (·.suppress true)) hs.accepts rfl)
  replace hpub' := hpub'.trans
    (publisherCreated_suppressed (hbuilt.accepts hs.accepts) hvalid hsuppress)
  replace hsub' := hsub'.trans
    (subscriptionCreated_suppressed (hbuilt'.accepts hs.accepts) hvalid hsuppress')
  have hcommon' : s2.impl.common = { ContextImpl.new.common with pub } := by
    rw [hsub.effect.impl, State.impl_onImpl, ContextImpl.common_onCommon, hpub.effect.impl]
    simp [hcommon]
  refine ⟨(hbuilt'.subscription hnode' hsubnone hsub).suppress false, hcreated.symm, ?_, ?_, ?_,
    ?_, ?_⟩
  · have hnode'' : s2.impl.graphNode = some n := (congrArg (·.graphNode) hsub.effect.impl).trans hnode'
    exact Option.isSome_iff_exists.mpr ⟨n, hnode''⟩
  · simpa [hcommon'] using hpub'
  · simpa using hsub'
  · simp [hcommon', ContextImpl.new]
  · simp [hcommon', ContextImpl.new]

theorem EndpointsBuilt.missing {o : Call → Outcomes} {s s' : State} (h : EndpointsBuilt o s s')
    (hmissing : (s'.impl.common.pub.isNone || s'.impl.common.sub.isNone) = true) :
    channelEntitiesCreated o = false := by
  rw [channelEntitiesCreated, ← h.pub, ← h.sub]
  rcases Bool.or_eq_true_iff.mp hmissing with hnone | hnone <;> simp [Option.isNone_iff_eq_none.mp hnone]

/-- The channel before its thread. -/
structure GuardBuilt (o : Call → Outcomes) (s s' : State) : Prop where
  building : Building o s s'
  nodeCreated : channelNodeCreated (o .createNode) = true
  node : s'.impl.graphNode.isSome
  pub : s'.impl.common.pub.isSome = channelPublisherCreated (o .createPublisher)
  sub : s'.impl.common.sub.isSome = channelSubscriptionCreated (o .createSubscription)
  guard : s'.impl.common.listenerThreadGc.isSome = channelGuardCreated (o .createGuardCondition)
  thread : s'.impl.common.listenerThread = none

theorem EndpointsBuilt.present {o : Call → Outcomes} {s s' : State} (h : EndpointsBuilt o s s')
    (hpresent : ¬ (s'.impl.common.pub.isNone || s'.impl.common.sub.isNone) = true) :
    channelPublisherCreated (o .createPublisher) = true ∧
      channelSubscriptionCreated (o .createSubscription) = true := by
  rw [← h.pub, ← h.sub]
  simpa [Option.isSome_iff_ne_none] using hpresent

theorem GuardBuilt.created {o : Call → Outcomes} {s s' : State} (h : GuardBuilt o s s')
    (hends : channelPublisherCreated (o .createPublisher) = true ∧
      channelSubscriptionCreated (o .createSubscription) = true)
    (hguard : s'.impl.common.listenerThreadGc.isSome) : channelEntitiesCreated o = true := by
  rw [channelEntitiesCreated, hends.1, hends.2, ← h.guard, hguard]
  rfl

theorem EndpointsBuilt.guardBuilt {o : Call → Outcomes} {s s1 s2 s3 : State}
    {guard : Option GuardCondition} (h : EndpointsBuilt o s s1) (hs : s.accepts)
    (hguard : ∃ p, guard = p.map GuardCondition.ofParts ∧ CreatesParts (o .createGuardCondition)
      [.guardCondition, .guardConditionImpl, .rmwGuardCondition] s1 p s2)
    (h3 : s3 = s2.onImpl (·.onCommon fun c => { c with listenerThreadGc := guard })) :
    GuardBuilt o s s3 := by
  subst h3
  obtain ⟨p, rfl, hp⟩ := hguard
  have himpl := hp.effect.impl
  refine ⟨h.building.guard h.guard hp, h.nodeCreated, ?_, ?_, ?_, ?_, ?_⟩
  · simpa [himpl] using h.node
  · simpa [himpl] using h.pub
  · simpa [himpl] using h.sub
  · simp only [State.impl_onImpl, ContextImpl.common_onCommon, Option.isSome_map, hp.isSome,
      h.building.accepts hs, Bool.true_and]
    rfl
  · simpa [himpl] using h.thread

@[spec] theorem initializeGraphChannel_spec (o : Call → Outcomes) (guid : Guid) (s : State)
    (hs : s.Fresh) :
    ⦃fun s' => ⌜s' = s⌝⦄ initializeGraphChannel o guid
    ⦃⇓ r s' => ⌜InitializesChannel o s r s'⌝⦄ := by
  mvcgen [initializeGraphChannel]
  next s1 h1 hnone =>
    subst h1
    have hsome := hs.context
    simp_all
  next s1 h1 _ _ s2 h2 _ s3 hnode _ n heq s4 h4 _ s5 hends _ s6 h6 common hmissing =>
    subst h1 h2 h4 heq
    exact (EndpointsBuilt.of_creates hs hnode hends h6).building.valid
  next s1 h1 _ _ s2 h2 _ s3 hnode _ n heq s4 h4 _ s5 hends _ s6 h6 common hmissing =>
    subst h1 h2 h4 heq
    exact fun n _ => (EndpointsBuilt.of_creates hs hnode hends h6).building.dismantled n
  -- an endpoint is missing
  next s1 h1 _ _ s2 h2 _ s3 hnode _ n heq s4 h4 _ s5 hends _ s6 h6 common hmissing ret s7 =>
    intro hfinal
    subst h1 h2 h4 heq
    have hbuilt := EndpointsBuilt.of_creates hs hnode hends h6
    have hentities := hbuilt.missing hmissing
    refine .failed hbuilt.building ⟨ret, hfinal⟩ ?_ (by simp [channelStarted, hentities])
    rw [hfinal.ret, initializeRet, hbuilt.nodeCreated, hentities, hbuilt.pub, hbuilt.sub]
    rfl
  -- the guard condition is missing
  next s1 h1 _ _ s2 h2 _ s3 hnode _ n heq s4 h4 _ s5 hends _ s6 h6 common hpresent guard s7 hguard
      _ hnone s8 h8 ret s9 =>
    intro hfinal
    subst h1 h2 h4 heq
    have hends := EndpointsBuilt.of_creates hs hnode hends h6
    have hbuilt := hends.guardBuilt hs.accepts hguard h8
    have hguard' : s8.impl.common.listenerThreadGc.isSome = false := by
      rw [h8]
      simpa using hnone
    have hentities : channelEntitiesCreated o = false := by
      rw [channelEntitiesCreated, ← hbuilt.guard, hguard', Bool.and_false]
    refine .failed hbuilt.building ⟨ret, hfinal⟩ ?_ (by simp [channelStarted, hentities])
    rw [hfinal.ret, initializeRet, hbuilt.nodeCreated, hentities, hbuilt.pub, hbuilt.sub]
    rfl
  next s1 h1 _ _ s2 h2 _ s3 hnode _ n heq s4 h4 _ s5 hends _ s6 h6 common hpresent guard s7 hguard
      _ hnone =>
    intro s8 h8
    subst h1 h2 h4 heq
    have hends := EndpointsBuilt.of_creates hs hnode hends h6
    exact (hends.guardBuilt hs.accepts hguard h8).building.valid
  next s1 h1 _ _ s2 h2 _ s3 hnode _ n heq s4 h4 _ s5 hends _ s6 h6 common hpresent guard s7 hguard
      _ hnone =>
    intro s8 h8
    subst h1 h2 h4 heq
    have hends := EndpointsBuilt.of_creates hs hnode hends h6
    exact fun n _ => (hends.guardBuilt hs.accepts hguard h8).building.dismantled n
  next s1 h1 _ _ s2 h2 _ s3 hnode _ n heq s4 h4 _ s5 hends _ s6 h6 common hpresent guard s7 hguard
      _ hsome s8 h8 =>
    subst h1 h2 h4 heq
    have hends := EndpointsBuilt.of_creates hs hnode hends h6
    exact (hends.guardBuilt hs.accepts hguard h8).building.accepts hs.accepts
  next s1 h1 _ _ s2 h2 _ s3 hnode _ n heq s4 h4 _ s5 hends _ s6 h6 common hpresent guard s7 hguard
      _ hsome s8 h8 =>
    subst h1 h2 h4 heq
    have hends := EndpointsBuilt.of_creates hs hnode hends h6
    exact (hends.guardBuilt hs.accepts hguard h8).thread
  next s1 h1 _ _ s2 h2 _ s3 hnode _ n heq s4 h4 _ s5 hends _ s6 h6 common hpresent guard s7 hguard
      _ hsome s8 h8 started hfail s9 hstart =>
    subst h1 h2 h4 heq
    have hends := EndpointsBuilt.of_creates hs hnode hends h6
    have hbuilt := hends.guardBuilt hs.accepts hguard h8
    exact (hbuilt.building.listener hbuilt.thread hstart).valid
  next s1 h1 _ _ s2 h2 _ s3 hnode _ n heq s4 h4 _ s5 hends _ s6 h6 common hpresent guard s7 hguard
      _ hsome s8 h8 started hfail s9 hstart =>
    subst h1 h2 h4 heq
    have hends := EndpointsBuilt.of_creates hs hnode hends h6
    have hbuilt := hends.guardBuilt hs.accepts hguard h8
    exact fun n _ => (hbuilt.building.listener hbuilt.thread hstart).dismantled n
  -- the thread does not start
  next s1 h1 _ _ s2 h2 _ s3 hnode _ n heq s4 h4 _ s5 hends _ s6 h6 common hpresent guard s7 hguard
      _ hsome s8 h8 started hfail s9 hstart ret s10 hfinal =>
    subst h1 h2 h4 heq
    have hends := EndpointsBuilt.of_creates hs hnode hends h6
    have hbuilt := hends.guardBuilt hs.accepts hguard h8
    have hcreated := hbuilt.created (hends.present hpresent) (h8 ▸ Option.isSome_iff_ne_none.mpr
      (by simpa using hsome))
    have hstarted : listenerStarted o = false := by
      rw [← hstart.started]
      simpa using hfail
    refine .failed (hbuilt.building.listener hbuilt.thread hstart) ⟨ret, hfinal⟩ ?_ ?_
    · simp [initializeRet, hbuilt.nodeCreated, hcreated, hstarted]
    · simp [channelStarted, hstarted]
  -- the channel works
  next s1 h1 _ _ s2 h2 _ s3 hnode _ n heq s4 h4 _ s5 hends _ s6 h6 common hpresent guard s7 hguard
      _ hsome s8 h8 started hok s9 hstart =>
    subst h1 h2 h4 heq
    have hends := EndpointsBuilt.of_creates hs hnode hends h6
    have hbuilt := hends.guardBuilt hs.accepts hguard h8
    have hcreated := hbuilt.created (hends.present hpresent) (h8 ▸ Option.isSome_iff_ne_none.mpr
      (by simpa using hsome))
    have hstarted : listenerStarted o = true := by
      rw [← hstart.started]
      simpa using hok
    have hlistener := hbuilt.building.listener hbuilt.thread hstart
    have hchannel : channelStarted o = true := by
      simp [channelStarted, hbuilt.nodeCreated, hcreated, hstarted]
    obtain ⟨hpub', hsub'⟩ := hends.present hpresent
    refine ⟨hlistener.account, hlistener.context, hlistener.rest, ?_, fun _ => ?_, ?_⟩
    · simp [initializeRet, hbuilt.nodeCreated, hcreated, hstarted]
    · have hwaitSet := hstart.waitSet
      rw [hstart.started, hstarted] at hwaitSet
      have hguard' : s8.impl.common.listenerThreadGc.isSome := by
        rw [h8]
        exact Option.isSome_iff_ne_none.mpr (by simpa using hsome)
      have himpl := hstart.impl
      refine ⟨?_, ?_, ?_, ?_, ?_, hwaitSet⟩ <;> rw [himpl]
      · exact hbuilt.node
      · exact hbuilt.pub.trans hpub'
      · exact hbuilt.sub.trans hsub'
      · exact hguard'
      · rfl
    · intro hfail
      simp [hchannel] at hfail
  -- there is no node
  next s1 h1 _ _ s2 h2 node s3 hcreate _ _ hnone heq s4 h4 _ s5 h5 =>
    obtain rfl := eq_none_of_forall hnone
    subst h1 h2 h4 h5 heq
    have himpl := hcreate.effect.impl
    have hnode := hcreate.isSome.trans
      (nodeCreated_suppressed (s := s1.onImpl (·.suppress true)) hs.accepts rfl)
    have hobjects : ((s3.onImpl (·.withNode none)).onImpl (·.suppress false)).impl.channelObjects
        = ∅ := by
      simp [himpl, ContextImpl.channelObjects, ContextImpl.suppress, ContextImpl.withNode,
        hs.common, ContextImpl.new, Common.threadObjects]
    refine ⟨?_, hcreate.effect.context, ?_, ?_, ?_, fun _ => ⟨hobjects, ?_⟩⟩
    · rw [hobjects]
      have hall := ((Account.refl (RefusesIn o) s1).onImpl (·.suppress true)).effect
        hcreate.effect fun _ hk => ⟨_, hk⟩
      exact (hall.onImpl _).onImpl _
    · rw [State.impl_onImpl, State.impl_onImpl, himpl]
      rfl
    · simp [initializeRet, ← hnode]
    · simp [channelStarted, ← hnode]
    · exact fun hworking => Bool.false_ne_true hworking.node

end Lifecycle

end RmwZzdds
