import RmwZzdds.Lifecycle.Estate
import RmwZzdds.Lifecycle.Exactness

/-!
# What is left of a context

Over the whole life of a context every live object is one that was there before
`rmw_init`, one of the context, or one of a handle.  The end of the context
therefore leaves the heap as `rmw_init` has found it, whatever failed on the way.
-/

namespace RmwZzdds

open Ownership Std.Do

namespace Lifecycle

open Service (Guid)

/-- The endpoints of nodes. -/
def Handle.isEndpoint : Handle → Bool
  | .publisher _ => true
  | .subscription _ => true
  | _ => false

theorem Handle.counted_of_isEndpoint {x : Handle} (hx : x.isEndpoint = true) :
    x.counted = true := by
  cases x with
  | publisher p => rfl
  | subscription p => rfl
  | _ => cases hx

/-- The live objects of a session are those of `base`, those of the context, and
those of the handles, with the endpoints that nobody holds any more. -/
structure Session.Kept (base : Finset Obj) (σ : Session) (orphans : Multiset Handle) : Prop where
  sound : σ.Sound orphans
  endpoints : ∀ x ∈ orphans, x.isEndpoint = true
  dds : σ.state.impl.dds.Owned
  estate : σ.state.heap.Estate
    (base ::ₘ σ.state.ownParts + estateOf (σ.held.bind Handle.parts + orphans))

/-- A call that leaves the user with the handles `held`. -/
structure Session.Drops (base : Finset Obj) (σ : Session) (held orphans : Multiset Handle)
    (σ' : Session) : Prop where
  kept : σ'.Kept base orphans
  held : σ'.held = held
  impl : σ'.state.impl = σ.state.impl

theorem NodeHandle.orphans_isEndpoint (n : NodeHandle) (s : State) (impl : ServiceImpl) :
    ∀ x ∈ n.orphans s impl, x.isEndpoint = true := by
  intro x hx
  rw [NodeHandle.orphans] at hx
  rcases Multiset.mem_add.mp hx with hx | hx <;> split at hx
  · cases Multiset.notMem_zero x hx
  · rw [Multiset.mem_singleton.mp hx]
    rfl
  · cases Multiset.notMem_zero x hx
  · rw [Multiset.mem_singleton.mp hx]
    rfl

namespace Session.Kept

variable {base : Finset Obj} {σ : Session} {orphans : Multiset Handle} {request : Request}
  {s' : State}

/-- A handle of the session is live. -/
theorem mem_live {h : Heap Kind} {E : Multiset (Finset Obj)} {F : Multiset Handle} {x : Handle}
    (hE : h.Estate (E + estateOf F)) (hx : x ∈ F) : x.object ∈ h.live := by
  refine hE.subset ?_ x.object_mem
  exact Multiset.mem_add.mpr (.inr (Multiset.mem_map_of_mem Handle.objects hx))

/-- A call that returns a new handle, or nothing. -/
theorem created {x : Option Handle} (h : σ.Kept base orphans)
    (hrun : (perform request).run σ.state = (x, s')) (hframes : Frames σ.state s')
    (hturns : σ.state.heap.Turns 0 (estateOf (x.elim 0 Handle.parts)) s'.heap)
    (hsound : (σ.next request).Sound orphans) : (σ.next request).Kept base orphans := by
  have hE : s'.heap.Estate (base ::ₘ s'.ownParts +
      estateOf ((x.elim 0 ({·}) + σ.held).bind Handle.parts + orphans)) := by
    have hturned := hturns.gain h.estate
    rw [hframes.ownParts]
    convert hturned using 1
    cases x with
    | none => simp
    | some y =>
      rw [Option.elim_some, Option.elim_some, Multiset.singleton_add, Multiset.cons_bind, add_assoc,
        estateOf_add, add_left_comm]
  have hheld : (σ.next request).held = x.elim 0 ({·}) + σ.held := by
    rw [Session.next, hrun]
    refine Multiset.filter_eq_self.mpr fun y hy => mem_live hE ?_
    exact Multiset.mem_add.mpr (.inl (Multiset.mem_bind.mpr ⟨y, hy, y.mem_parts⟩))
  have hstate : (σ.next request).state = s' := by rw [Session.next, hrun]
  refine ⟨hsound, h.endpoints, ?_, ?_⟩
  · rw [hstate, hframes.impl]
    exact h.dds
  · rwa [hstate, hheld]

/-- A call that is about the context itself. -/
theorem turned (h : σ.Kept base orphans) (hrun : (perform request).run σ.state = (none, s'))
    (hturns : σ.state.heap.Turns σ.state.ownParts s'.ownParts s'.heap)
    (hdds : s'.impl.dds = σ.state.impl.dds) (hsound : (σ.next request).Sound orphans) :
    (σ.next request).held = σ.held ∧ (σ.next request).Kept base orphans := by
  have hE : s'.heap.Estate (base ::ₘ s'.ownParts +
      estateOf (σ.held.bind Handle.parts + orphans)) := by
    have hbefore := h.estate
    rw [Multiset.cons_add, ← Multiset.add_cons] at hbefore
    have hafter := hturns _ hbefore
    rwa [Multiset.add_cons, ← Multiset.cons_add] at hafter
  have hheld : (σ.next request).held = σ.held := by
    rw [Session.next, hrun]
    simp only [Option.elim_none, zero_add]
    refine Multiset.filter_eq_self.mpr fun y hy => mem_live hE ?_
    exact Multiset.mem_add.mpr (.inl (Multiset.mem_bind.mpr ⟨y, hy, y.mem_parts⟩))
  have hstate : (σ.next request).state = s' := by rw [Session.next, hrun]
  refine ⟨hheld, hsound, h.endpoints, ?_, ?_⟩
  · rw [hstate, hdds]
    exact h.dds
  · rwa [hstate, hheld]

/-- A call that rejects its arguments. -/
theorem rejected (h : σ.Kept base orphans)
    (hrun : (perform request).run σ.state = (none, σ.state)) :
    (σ.next request).Kept base orphans :=
  h.created hrun (.refl _) (.refl _ _) (h.sound.rejected hrun)

/-- A call that frees a handle, and may leave endpoints of it behind. -/
theorem destroyed {x : Handle} {held left : Multiset Handle} (h : σ.Kept base orphans)
    (hheld : σ.held = x ::ₘ held) (hrun : (perform request).run σ.state = (none, s'))
    (hframes : Frames σ.state s')
    (hturns : σ.state.heap.Turns (estateOf x.parts) (estateOf left) s'.heap)
    (hdead : x.object ∉ s'.heap.live) (hleft : ∀ y ∈ left, y.isEndpoint = true)
    (hsound : (σ.next request).Sound (left + orphans)) :
    σ.Drops base held (left + orphans) (σ.next request) := by
  have hE : s'.heap.Estate (base ::ₘ s'.ownParts +
      estateOf (held.bind Handle.parts + (left + orphans))) := by
    have hbefore := h.estate
    rw [hheld, Multiset.cons_bind, add_assoc, estateOf_add, add_left_comm] at hbefore
    have hafter := hturns _ hbefore
    rw [hframes.ownParts, add_left_comm, estateOf_add, add_left_comm]
    exact hafter
  have hnext : (σ.next request).held = held := by
    rw [Session.next, hrun]
    simp only [Option.elim_none, zero_add, hheld]
    rw [Multiset.filter_cons_of_neg (p := fun y : Handle => y.object ∈ s'.heap.live) _ hdead]
    refine Multiset.filter_eq_self.mpr fun y hy => mem_live hE ?_
    exact Multiset.mem_add.mpr (.inl (Multiset.mem_bind.mpr ⟨y, hy, y.mem_parts⟩))
  have hstate : (σ.next request).state = s' := by rw [Session.next, hrun]
  refine ⟨⟨hsound, ?_, ?_, ?_⟩, hnext, hstate ▸ hframes.impl⟩
  · intro y hy
    rcases Multiset.mem_add.mp hy with hy | hy
    · exact hleft y hy
    · exact h.endpoints y hy
  · rw [hstate, hframes.impl]
    exact h.dds
  · rwa [hstate, hnext]

/-! ### Creations -/

/-- The node of a creation, if the user holds it. -/
theorem node_valid (h : σ.Kept base orphans) {n : Node} (hn : .node n ∈ σ.held) : n.Valid :=
  (h.sound.sound.registry.made _ (h.sound.mem_all hn)).valid

theorem createNode {o : Outcomes} {name namespace_ : Option String} (h : σ.Kept base orphans)
    (hreturns : GraphReturns o σ.state) :
    (σ.next (.createNode o name namespace_)).Kept base orphans := by
  have hspec := run_of_spec (rmwCreateNode_spec o name namespace_ σ.state)
  rcases hrun : (rmwCreateNode o name namespace_).run σ.state with ⟨n, s'⟩
  rw [hrun] at hspec
  refine h.created (run_map hrun) hspec.effect.frames ?_ (h.sound.createNode hreturns)
  have hturns := hspec.turns
  cases n <;> exact hturns

theorem createPublisher {o : Outcomes} {guid : Guid} {node : Option Node}
    (h : σ.Kept base orphans) (hguid : guid ∉ σ.state.entities.localPublicationGuids)
    (hnode : ∀ n ∈ node, .node n ∈ σ.held) :
    (σ.next (.createPublisher o guid node)).Kept base orphans := by
  have hspec := run_of_spec (rmwCreatePublisher_spec o guid node σ.state)
  rcases hrun : (rmwCreatePublisher o guid node).run σ.state with ⟨p, s'⟩
  rw [hrun] at hspec
  refine h.created (run_map hrun) hspec.effect.frames ?_ (h.sound.createPublisher hguid hnode)
  have hturns := hspec.turns
  cases p <;> exact hturns

theorem createSubscription {o : Outcomes} {node : Option Node} (h : σ.Kept base orphans)
    (hnode : ∀ n ∈ node, .node n ∈ σ.held) :
    (σ.next (.createSubscription o node)).Kept base orphans := by
  have hspec := run_of_spec (rmwCreateSubscription_spec o node σ.state)
  rcases hrun : (rmwCreateSubscription o node).run σ.state with ⟨p, s'⟩
  rw [hrun] at hspec
  refine h.created (run_map hrun) hspec.effect.frames ?_ (h.sound.createSubscription hnode)
  have hturns := hspec.turns
  cases p <;> exact hturns

theorem createGuardCondition {o : Outcomes} (h : σ.Kept base orphans) :
    (σ.next (.createGuardCondition o)).Kept base orphans := by
  obtain ⟨p, hp, hspec⟩ := run_of_spec (rmwCreateGuardCondition_spec o σ.state)
  rcases hrun : (rmwCreateGuardCondition o).run σ.state with ⟨guard, s'⟩
  rw [hrun] at hp hspec
  subst hp
  refine h.created (run_map hrun) hspec.effect.frames ?_ h.sound.createGuardCondition
  cases p with
  | none => exact hspec.effect.turns_none
  | some p => exact hspec.effect.turns

theorem createWaitSet {o : Outcomes} (h : σ.Kept base orphans) :
    (σ.next (.createWaitSet o)).Kept base orphans := by
  obtain ⟨p, hp, hspec⟩ := run_of_spec (rmwCreateWaitSet_spec o σ.state)
  rcases hrun : (rmwCreateWaitSet o).run σ.state with ⟨waitSet, s'⟩
  rw [hrun] at hp hspec
  subst hp
  refine h.created (run_map hrun) hspec.effect.frames ?_ h.sound.createWaitSet
  cases p with
  | none => exact hspec.effect.turns_none
  | some p => exact hspec.effect.turns

theorem createServiceEntity {role : Role} {o : ServiceCall → Outcomes} {guid : Guid}
    {node : Option Node} (h : σ.Kept base orphans)
    (hguid : guid ∉ σ.state.entities.localPublicationGuids)
    (hnode : ∀ n ∈ node, .node n ∈ σ.held) :
    (σ.next (.createServiceEntity role o guid node)).Kept base orphans := by
  have hspec := run_of_spec (createServiceEntity_makes o guid σ.state role node
    (fun n hn => h.node_valid (hnode n hn)) h.sound.sound.channel.context)
  rcases hrun : (Lifecycle.createServiceEntity o role guid node).run σ.state with ⟨x, s'⟩
  rw [hrun] at hspec
  have hrun' : (perform (.createServiceEntity role o guid node)).run σ.state =
      (x.map (.serviceEntity role), s') := by
    rw [Session.Sound.perform_createServiceEntity]
    exact run_map hrun
  refine h.created hrun' hspec.frames ?_ (h.sound.createServiceEntity hguid hnode)
  have hturns := hspec.turns
  cases x <;> exact hturns

/-! ### Destructions -/

/-- The end of one entity. -/
theorem releases {x : Handle} {held : Multiset Handle} (h : σ.Kept base orphans)
    (hheld : σ.held = x ::ₘ held) (hparts : x.parts = {x})
    (hrun : (perform request).run σ.state = (none, s')) (hframes : Frames σ.state s')
    (hheap : s'.heap = σ.state.heap.free x.objects) (hsound : (σ.next request).Sound orphans) :
    σ.Drops base held orphans (σ.next request) := by
  have hdead : x.object ∉ s'.heap.live := by
    rw [hheap]
    exact fun hlive => (Finset.mem_sdiff.mp hlive).2 x.object_mem
  have hturns : σ.state.heap.Turns (estateOf x.parts) (estateOf 0) s'.heap := by
    rw [hparts, hheap]
    exact .free σ.state.heap x.objects
  have hdestroyed := h.destroyed hheld hrun hframes hturns hdead (by simp) (by rwa [zero_add])
  rwa [zero_add] at hdestroyed

theorem destroyNode_unowned {n : Node} {held : Multiset Handle} (h : σ.Kept base orphans)
    (hheld : σ.held = .node n ::ₘ held) (howns : nodeOwnsEntities σ.state.entities n = false) :
    σ.Drops base held orphans (σ.next (.destroyNode (some n))) := by
  have hmem : .node n ∈ σ.held := hheld ▸ Multiset.mem_cons_self _ _
  obtain ⟨-, hstate⟩ := run_of_spec
    (rmwDestroyNode_spec n σ.state (h.node_valid hmem) h.sound.sound.channel.context howns)
  rcases hrun : (rmwDestroyNode (some n)).run σ.state with ⟨r, s'⟩
  rw [hrun] at hstate
  subst hstate
  refine h.releases hheld rfl (run_map hrun) ⟨rfl, rfl⟩ rfl (h.sound.destroyNode ?_)
  rintro m ⟨⟩
  exact hmem

theorem destroyNode {node : Option Node} (h : σ.Kept base orphans)
    (hnode : ∀ n ∈ node, .node n ∈ σ.held) : (σ.next (.destroyNode node)).Kept base orphans := by
  cases node with
  | none => exact h.rejected rfl
  | some n =>
    cases howns : nodeOwnsEntities σ.state.entities n with
    | true =>
      obtain ⟨-, hstate⟩ := run_of_spec (rmwDestroyNode_owned n σ.state howns)
      rcases hrun : (rmwDestroyNode (some n)).run σ.state with ⟨r, s'⟩
      rw [hrun] at hstate
      subst hstate
      exact h.rejected (run_map hrun)
    | false =>
      obtain ⟨held, hheld⟩ := Multiset.exists_cons_of_mem (hnode n rfl)
      exact (h.destroyNode_unowned hheld howns).kept

theorem publisher_valid (h : σ.Kept base orphans) {p : Publisher} (hp : .publisher p ∈ σ.held) :
    p.Valid := (h.sound.sound.registry.made _ (h.sound.mem_all hp)).valid.valid

theorem subscription_valid (h : σ.Kept base orphans) {p : Subscription}
    (hp : .subscription p ∈ σ.held) : p.Valid :=
  (h.sound.sound.registry.made _ (h.sound.mem_all hp)).valid.valid

theorem destroyPublisher_reached {o : Outcomes} {node : Option NodeHandle} {p : Publisher}
    {held : Multiset Handle} (h : σ.Kept base orphans) (hheld : σ.held = .publisher p ::ₘ held)
    (hreached : node.any (·.reachesPublisher σ.state) = true) :
    σ.Drops base held orphans (σ.next (.destroyPublisher o node (some p))) := by
  have hmem : .publisher p ∈ σ.held := hheld ▸ Multiset.mem_cons_self _ _
  have hspec := run_of_spec (rmwDestroyPublisherAt_spec o node p σ.state (h.publisher_valid hmem)
    h.sound.sound.channel.context)
  rcases hrun : (rmwDestroyPublisherAt o node (some p)).run σ.state with ⟨r, s'⟩
  rw [hrun] at hspec
  have hdestroys := hspec.destroys hreached
  refine h.releases hheld rfl (run_map hrun) ⟨hdestroys.context, hdestroys.impl⟩ hdestroys.heap
    (h.sound.destroyPublisher ?_)
  rintro q ⟨⟩
  exact hmem

theorem destroyPublisher {o : Outcomes} {node : Option NodeHandle} {publisher : Option Publisher}
    (h : σ.Kept base orphans) (hheld : ∀ p ∈ publisher, .publisher p ∈ σ.held) :
    (σ.next (.destroyPublisher o node publisher)).Kept base orphans := by
  cases publisher with
  | none => cases node <;> exact h.rejected rfl
  | some p =>
    cases hreached : node.any (·.reachesPublisher σ.state) with
    | false =>
      have hspec := run_of_spec (rmwDestroyPublisherAt_spec o node p σ.state
        (h.publisher_valid (hheld p rfl)) h.sound.sound.channel.context)
      rcases hrun : (rmwDestroyPublisherAt o node (some p)).run σ.state with ⟨r, s'⟩
      rw [hrun] at hspec
      obtain ⟨-, rfl⟩ := hspec.rejects hreached
      exact h.rejected (run_map hrun)
    | true =>
      obtain ⟨held, hcons⟩ := Multiset.exists_cons_of_mem (hheld p rfl)
      exact (h.destroyPublisher_reached hcons hreached).kept

theorem destroySubscription_reached {o : Outcomes} {node : Option NodeHandle} {p : Subscription}
    {held : Multiset Handle} (h : σ.Kept base orphans) (hheld : σ.held = .subscription p ::ₘ held)
    (hreached : node.any (·.reachesSubscription σ.state) = true) :
    σ.Drops base held orphans (σ.next (.destroySubscription o node (some p))) := by
  have hmem : .subscription p ∈ σ.held := hheld ▸ Multiset.mem_cons_self _ _
  have hspec := run_of_spec (rmwDestroySubscriptionAt_spec o node p σ.state
    (h.subscription_valid hmem) h.sound.sound.channel.context)
  rcases hrun : (rmwDestroySubscriptionAt o node (some p)).run σ.state with ⟨r, s'⟩
  rw [hrun] at hspec
  have hdestroys := hspec.destroys hreached
  refine h.releases hheld rfl (run_map hrun) ⟨hdestroys.context, hdestroys.impl⟩ hdestroys.heap
    (h.sound.destroySubscription ?_)
  rintro q ⟨⟩
  exact hmem

theorem destroySubscription {o : Outcomes} {node : Option NodeHandle}
    {subscription : Option Subscription} (h : σ.Kept base orphans)
    (hheld : ∀ p ∈ subscription, .subscription p ∈ σ.held) :
    (σ.next (.destroySubscription o node subscription)).Kept base orphans := by
  cases subscription with
  | none => cases node <;> exact h.rejected rfl
  | some p =>
    cases hreached : node.any (·.reachesSubscription σ.state) with
    | false =>
      have hspec := run_of_spec (rmwDestroySubscriptionAt_spec o node p σ.state
        (h.subscription_valid (hheld p rfl)) h.sound.sound.channel.context)
      rcases hrun : (rmwDestroySubscriptionAt o node (some p)).run σ.state with ⟨r, s'⟩
      rw [hrun] at hspec
      obtain ⟨-, rfl⟩ := hspec.rejects hreached
      exact h.rejected (run_map hrun)
    | true =>
      obtain ⟨held, hcons⟩ := Multiset.exists_cons_of_mem (hheld p rfl)
      exact (h.destroySubscription_reached hcons hreached).kept

theorem destroyGuardCondition_held {g : GuardCondition} {held : Multiset Handle}
    (h : σ.Kept base orphans) (hheld : σ.held = .guardCondition g ::ₘ held) :
    σ.Drops base held orphans (σ.next (.destroyGuardCondition (some g))) := by
  have hmem : .guardCondition g ∈ σ.held := hheld ▸ Multiset.mem_cons_self _ _
  have hmade := h.sound.sound.registry.made _ (h.sound.mem_all hmem)
  obtain ⟨-, hstate⟩ := run_of_spec
    (rmwDestroyGuardCondition_spec g σ.state hmade.valid h.sound.sound.channel.context)
  rcases hrun : (rmwDestroyGuardCondition (some g)).run σ.state with ⟨r, s'⟩
  rw [hrun] at hstate
  subst hstate
  refine h.releases hheld rfl (run_map hrun) ⟨rfl, rfl⟩ rfl (h.sound.destroyGuardCondition ?_)
  rintro g' ⟨⟩
  exact hmem

theorem destroyGuardCondition {guard : Option GuardCondition} (h : σ.Kept base orphans)
    (hheld : ∀ g ∈ guard, .guardCondition g ∈ σ.held) :
    (σ.next (.destroyGuardCondition guard)).Kept base orphans := by
  cases guard with
  | none => exact h.rejected rfl
  | some g =>
    obtain ⟨held, hcons⟩ := Multiset.exists_cons_of_mem (hheld g rfl)
    exact (h.destroyGuardCondition_held hcons).kept

theorem destroyWaitSet_held {w : WaitSet} {held : Multiset Handle} (h : σ.Kept base orphans)
    (hheld : σ.held = .waitSet w ::ₘ held) :
    σ.Drops base held orphans (σ.next (.destroyWaitSet (some w))) := by
  have hmem : .waitSet w ∈ σ.held := hheld ▸ Multiset.mem_cons_self _ _
  have hmade := h.sound.sound.registry.made _ (h.sound.mem_all hmem)
  obtain ⟨-, hstate⟩ := run_of_spec (rmwDestroyWaitSet_spec w σ.state hmade.valid)
  rcases hrun : (rmwDestroyWaitSet (some w)).run σ.state with ⟨r, s'⟩
  rw [hrun] at hstate
  subst hstate
  refine h.releases hheld rfl (run_map hrun) ⟨rfl, rfl⟩ rfl (h.sound.destroyWaitSet ?_)
  rintro w' ⟨⟩
  exact hmem

theorem destroyWaitSet {waitSet : Option WaitSet} (h : σ.Kept base orphans)
    (hheld : ∀ w ∈ waitSet, .waitSet w ∈ σ.held) :
    (σ.next (.destroyWaitSet waitSet)).Kept base orphans := by
  cases waitSet with
  | none => exact h.rejected rfl
  | some w =>
    obtain ⟨held, hcons⟩ := Multiset.exists_cons_of_mem (hheld w rfl)
    exact (h.destroyWaitSet_held hcons).kept

theorem destroyServiceEntity_identified {role : Role} {o : ServiceCall → Outcomes}
    {n : NodeHandle} {x : ServiceEntity} {impl : ServiceImpl} {held : Multiset Handle}
    (h : σ.Kept base orphans) (hheld : σ.held = .serviceEntity role x ::ₘ held)
    (himpl : x.data = some impl) (hidentified : n.identified = true) :
    σ.Drops base held (n.orphans σ.state impl + orphans)
      (σ.next (.destroyServiceEntity role o n (some x))) := by
  have hmem : .serviceEntity role x ∈ σ.held := hheld ▸ Multiset.mem_cons_self _ _
  have hspec := h.sound.destroyServiceEntity_run role o (some n) hmem
  rcases hrun : (Lifecycle.destroyServiceEntity o role (some n) (some x)).run σ.state with ⟨r, s'⟩
  rw [hrun] at hspec
  have hrun' : (perform (.destroyServiceEntity role o n (some x))).run σ.state = (none, s') := by
    rw [Session.Sound.perform_destroyServiceEntity]
    exact run_map hrun
  have hdestroys := hspec.destroys hidentified
  obtain ⟨t, rfl, hreleases⟩ := hdestroys n rfl impl himpl
  have hframes : Frames σ.state (t.free x.objects) :=
    ⟨hreleases.frames.context, hreleases.frames.impl⟩
  have hparts : estateOf (Handle.serviceEntity role x).parts =
      estateOf (endpointHandles (impl.publisher, impl.subscription)) + {x.objects} := by
    rw [Handle.parts, ServiceEntity.handles, himpl, estateOf_cons, Option.elim_some, add_comm]
    rfl
  have hdead : x.object ∉ (t.free x.objects).heap.live := by
    intro hlive
    exact (Finset.mem_sdiff.mp hlive).2 (Handle.serviceEntity role x).object_mem
  refine h.destroyed hheld hrun' hframes ?_ hdead (n.orphans_isEndpoint σ.state impl) ?_
  · rw [hparts]
    have hends := (hreleases.turns.frame {x.objects}).trans
      (((Heap.Turns.free t.heap x.objects).frame (estateOf (n.orphans σ.state impl))).congr
        (add_comm _ _) (zero_add _))
    exact hends
  · refine h.sound.destroys hmem hrun' hframes hdead ?_ ?_ ?_
    · intro y hy
      rw [Handle.parts, ServiceEntity.handles, himpl]
      refine Multiset.mem_cons_of_mem ?_
      rw [NodeHandle.orphans] at hy
      rw [Option.elim_some, endpointHandles]
      split at hy <;> split at hy <;> simp_all
    · intro F hF _
      exact hdestroys.registry himpl hF
    · rintro n' ⟨⟩

/-- The endpoints that such a call leaves behind. -/
theorem destroyServiceEntity {role : Role} {o : ServiceCall → Outcomes} {node : Option NodeHandle}
    {x : Option ServiceEntity} (h : σ.Kept base orphans)
    (hheld : ∀ y ∈ x, .serviceEntity role y ∈ σ.held) :
    ∃ left, (σ.next (.destroyServiceEntity role o node x)).Kept base (left + orphans) := by
  have hkeep (hrun : (perform (.destroyServiceEntity role o node x)).run σ.state =
      (none, σ.state)) :
      ∃ left, (σ.next (.destroyServiceEntity role o node x)).Kept base (left + orphans) :=
    ⟨0, by rw [zero_add]; exact h.rejected hrun⟩
  cases x with
  | none =>
    refine hkeep ?_
    rw [Session.Sound.perform_destroyServiceEntity]
    cases node <;> rfl
  | some x =>
    cases hidentified : node.any (·.identified) with
    | false =>
      have hspec := h.sound.destroyServiceEntity_run role o node (hheld x rfl)
      rcases hrun : (Lifecycle.destroyServiceEntity o role node (some x)).run σ.state with ⟨r, s'⟩
      rw [hrun] at hspec
      obtain ⟨-, rfl⟩ := hspec.rejects hidentified
      refine hkeep ?_
      rw [Session.Sound.perform_destroyServiceEntity]
      exact run_map hrun
    | true =>
      obtain ⟨n, hn, hnid⟩ := (Option.any_eq_true _ _).mp hidentified
      subst hn
      have hvalid : x.Valid := (h.sound.sound.registry.made _ (h.sound.mem_all (hheld x rfl))).valid
      obtain ⟨impl, himpl⟩ := Option.isSome_iff_exists.mp hvalid.2
      obtain ⟨held, hcons⟩ := Multiset.exists_cons_of_mem (hheld x rfl)
      exact ⟨_, (h.destroyServiceEntity_identified hcons himpl hnid).kept⟩

/-! ### The end of the context -/

theorem shutdown (h : σ.Kept base orphans) :
    (σ.next .shutdown).state.impl.shutdown = true ∧ (σ.next .shutdown).Kept base orphans := by
  obtain ⟨-, hspec⟩ := run_of_spec
    (rmwShutdown_stops σ.state h.sound.sound.channel h.sound.usable)
  rcases hrun : (rmwShutdown false).run σ.state with ⟨r, s'⟩
  rw [hrun] at hspec
  have hheap : s'.heap = σ.state.heap.free σ.state.impl.common.threadObjects := hspec.heap
  have hstate : (σ.next .shutdown).state = s' := by
    rw [Session.next, show (perform .shutdown).run σ.state = (none, s') from run_map hrun]
  refine ⟨by rw [hstate, hspec.impl]; rfl, ?_⟩
  refine (h.turned (run_map hrun) (State.turns_stopped hheap ?_ ?_ ?_) ?_ h.sound.shutdown).2
  · rw [State.contextObjects, hspec.context, hspec.impl]
    rfl
  · rw [hspec.impl]
    rfl
  · rw [hspec.impl]
    rfl
  · rw [hspec.impl]
    rfl

/-- The channel has ended, and the context is still there. -/
theorem contextFini {o : Call → Outcomes} {dds : Outcomes} (h : σ.Kept base orphans)
    (hthere : (σ.next (.contextFini o dds)).state.context.impl.isSome) :
    (σ.next (.contextFini o dds)).state.impl = σ.state.impl.withoutChannel ∧
      (σ.next (.contextFini o dds)).Kept base orphans := by
  have hspec := run_of_spec
    (rmwContextFini_ends o dds σ.state h.sound.sound h.sound.usable h.dds)
  rcases hrun : (rmwContextFini o dds false).run σ.state with ⟨r, s'⟩
  rw [hrun] at hspec
  have hrun' : (perform (.contextFini o dds)).run σ.state = (none, s') := run_map hrun
  have hstate : (σ.next (.contextFini o dds)).state = s' := by rw [Session.next, hrun']
  obtain ⟨ret, t, hchannel, rfl | ⟨-, -, hgone⟩⟩ := hspec.channel
  · have hdds : s'.impl.dds = σ.state.impl.dds := by rw [hchannel.impl]; rfl
    refine ⟨hstate ▸ hchannel.impl, (h.turned hrun' ?_ hdds (h.sound.contextFini hthere)).2⟩
    refine State.turns_finalized hchannel.releases.heap ?_ ?_ ?_
    · rw [State.contextObjects, hchannel.releases.context, hchannel.impl]
      rfl
    · rw [hchannel.impl]
      rfl
    · rw [hchannel.impl]
      rfl
  · rw [hstate, hgone] at hthere
    cases hthere

/-- A call that is not about the end of the context. -/
theorem next_other (h : σ.Kept base orphans) (hrequest : request.Admissible σ)
    (hother : ∀ o dds, request ≠ .contextFini o dds) :
    ∃ left, (σ.next request).Kept base (left + orphans) := by
  have hsame (hkept : (σ.next request).Kept base orphans) :
      ∃ left, (σ.next request).Kept base (left + orphans) := ⟨0, by rwa [zero_add]⟩
  cases request with
  | createNode o name namespace_ => exact hsame (h.createNode hrequest)
  | destroyNode node => exact hsame (h.destroyNode hrequest)
  | createPublisher o guid node => exact hsame (h.createPublisher hrequest.1 hrequest.2)
  | destroyPublisher o node p => exact hsame (h.destroyPublisher hrequest)
  | createSubscription o node => exact hsame (h.createSubscription hrequest)
  | destroySubscription o node p => exact hsame (h.destroySubscription hrequest)
  | createServiceEntity role o guid node =>
    exact hsame (h.createServiceEntity hrequest.1 hrequest.2)
  | destroyServiceEntity role o node x => exact h.destroyServiceEntity hrequest
  | createGuardCondition o => exact hsame h.createGuardCondition
  | destroyGuardCondition guard => exact hsame (h.destroyGuardCondition hrequest)
  | createWaitSet o => exact hsame h.createWaitSet
  | destroyWaitSet waitSet => exact hsame (h.destroyWaitSet hrequest)
  | shutdown => exact hsame h.shutdown.2
  | contextFini o dds => exact (hother o dds rfl).elim

/-- What one call preserves. -/
theorem next (h : σ.Kept base orphans) (hrequest : request.Admissible σ)
    (hthere : (σ.next request).state.context.impl.isSome) :
    ∃ left, (σ.next request).Kept base (left + orphans) := by
  cases request with
  | contextFini o dds => exact ⟨0, by rw [zero_add]; exact (h.contextFini hthere).2⟩
  | _ => exact h.next_other hrequest (by rintro _ _ ⟨⟩)

/-! ### A context that has ended -/

/-- Every handle brings something into the counter. -/
theorem exists_counted (h : σ.Kept base orphans) {x : Handle} (hx : x ∈ σ.held) :
    ∃ y ∈ x.parts, y.counted = true := by
  cases x with
  | serviceEntity role x =>
    have hvalid : x.Valid := (h.sound.sound.registry.made _ (h.sound.mem_all hx)).valid
    obtain ⟨impl, himpl⟩ := Option.isSome_iff_exists.mp hvalid.2
    refine ⟨.publisher impl.publisher, ?_, rfl⟩
    rw [Handle.parts, ServiceEntity.handles, himpl]
    simp [endpointHandles]
  | _ => exact ⟨_, Multiset.mem_singleton_self _, rfl⟩

/-- Without entities in the counter there are no handles. -/
theorem eq_zero (h : σ.Kept base orphans)
    (hnone : (σ.held.bind Handle.parts + orphans).countP (fun x => x.counted = true) = 0) :
    σ.held = 0 ∧ orphans = 0 := by
  have hfree := Multiset.countP_eq_zero.mp hnone
  constructor
  · refine Multiset.eq_zero_of_forall_notMem fun x hx => ?_
    obtain ⟨y, hy, hcounted⟩ := h.exists_counted hx
    exact hfree y (Multiset.mem_add.mpr (.inl (Multiset.mem_bind.mpr ⟨x, hx, hy⟩))) hcounted
  · refine Multiset.eq_zero_of_forall_notMem fun x hx => ?_
    exact hfree x (Multiset.mem_add.mpr (.inr hx)) (Handle.counted_of_isEndpoint (h.endpoints x hx))

/-- The end of the channel, with nothing else in the counter. -/
theorem finalized_active {o : Call → Outcomes} {ret : Ret} {t : State} (h : σ.Kept base orphans)
    (hchannel : FinalizesChannel o σ.state ret t) :
    t.entities.activeEntities =
      (σ.held.bind Handle.parts + orphans).countP fun x => x.counted = true :=
  (h.sound.sound.registry_finalized hchannel).tallies.active

/-- The heap after the channel. -/
theorem finalized_estate {o : Call → Outcomes} {ret : Ret} {t : State} (h : σ.Kept base orphans)
    (hchannel : FinalizesChannel o σ.state ret t) : t.heap.Estate (base ::ₘ t.contextObjects ::ₘ
      estateOf (σ.held.bind Handle.parts + orphans)) := by
  have hcontext : t.contextObjects = σ.state.contextObjects := by
    rw [State.contextObjects, hchannel.releases.context, hchannel.impl]
    rfl
  have hturns : σ.state.heap.Turns σ.state.ownParts t.ownParts t.heap :=
    State.turns_finalized hchannel.releases.heap hcontext (by rw [hchannel.impl]; rfl)
      (by rw [hchannel.impl]; rfl)
  have hbefore := h.estate
  rw [Multiset.cons_add, ← Multiset.add_cons] at hbefore
  have hafter := hturns _ hbefore
  have hthread : t.impl.common.threadObjects = ∅ := by rw [hchannel.impl]; rfl
  have hrest : t.impl.channelRest = ∅ := by rw [hchannel.impl]; rfl
  rw [State.ownParts, hthread, hrest] at hafter
  refine Heap.Estate.cons_empty.mp (Heap.Estate.cons_empty.mp ?_)
  convert hafter using 1
  simp only [← Multiset.singleton_add]
  abel

/-- The call that ends the context leaves what was there before. -/
theorem contextFini_ended {o : Call → Outcomes} {dds : Outcomes} (h : σ.Kept base orphans)
    (hgone : (σ.next (.contextFini o dds)).state.context.impl = none) :
    (σ.next (.contextFini o dds)).state.heap.live = base ∧ (σ.next (.contextFini o dds)).held = 0 ∧
      orphans = 0 := by
  have hspec := run_of_spec
    (rmwContextFini_ends o dds σ.state h.sound.sound h.sound.usable h.dds)
  rcases hrun : (rmwContextFini o dds false).run σ.state with ⟨r, s'⟩
  rw [hrun] at hspec
  have hrun' : (perform (.contextFini o dds)).run σ.state = (none, s') := run_map hrun
  have hstate : (σ.next (.contextFini o dds)).state = s' := by rw [Session.next, hrun']
  rw [hstate] at hgone ⊢
  obtain ⟨ret, t, hchannel, rfl | ⟨haccepts, hheap, -⟩⟩ := hspec.channel
  · have hsome := h.sound.usable.impl
    rw [← hchannel.releases.context, hgone] at hsome
    cases hsome
  · have hnone : t.entities.activeEntities = 0 := by
      simp only [State.refusesFini, Bool.or_eq_false_iff] at haccepts
      simpa using haccepts.2
    obtain ⟨hheld, horphans⟩ := h.eq_zero ((h.finalized_active hchannel).symm.trans hnone)
    have hestate := h.finalized_estate hchannel
    rw [hheld, horphans, Multiset.cons_swap] at hestate
    have hfree := Heap.Turns.free t.heap t.contextObjects {base} hestate
    rw [zero_add] at hfree
    refine ⟨?_, ?_, horphans⟩
    · rw [hheap]
      exact hfree.live_eq
    · rw [Session.next, hrun']
      simp [hheld]

theorem ended (h : σ.Kept base orphans) (hrequest : request.Admissible σ)
    (hgone : (σ.next request).state.context.impl = none) :
    (σ.next request).state.heap.live = base ∧ (σ.next request).held = 0 ∧ orphans = 0 := by
  have hthere (hother : ∀ o dds, request ≠ .contextFini o dds) : False := by
    obtain ⟨left, hkept⟩ := h.next_other hrequest hother
    have hsome := hkept.sound.usable.impl
    rw [hgone] at hsome
    cases hsome
  cases request with
  | contextFini o dds => exact h.contextFini_ended hgone
  | _ => exact (hthere (by rintro _ _ ⟨⟩)).elim

end Session.Kept

/-! ## Whole lives -/

/-- The session after `rmw_init` has returned the context in the state `origin`. -/
def Session.BeginsFrom (origin : State) (σ : Session) : Prop :=
  ∃ o error guid options contextIsNull, origin.Bare ∧
    (rmwInit o error guid options contextIsNull).run origin = (.ok, σ.state) ∧ σ.held = 0

/-- The sessions that come about from `origin`, up to the end of the context. -/
inductive Session.ReachableFrom (origin : State) : Session → Prop
  | begin {σ : Session} : σ.BeginsFrom origin → ReachableFrom origin σ
  | next {σ : Session} {request : Request} : ReachableFrom origin σ → request.Admissible σ →
    (σ.next request).state.context.impl.isSome → ReachableFrom origin (σ.next request)

variable {origin : State} {σ : Session}

theorem Session.BeginsFrom.begins (h : σ.BeginsFrom origin) : σ.Begins := by
  obtain ⟨o, error, guid, options, contextIsNull, hbare, hrun, hheld⟩ := h
  exact ⟨o, error, guid, options, contextIsNull, origin, hbare, hrun, hheld⟩

theorem Session.BeginsFrom.kept (h : σ.BeginsFrom origin) : σ.Kept origin.heap.live 0 := by
  have hsound := h.begins.sound
  obtain ⟨o, error, guid, options, contextIsNull, -, hrun, hheld⟩ := h
  have hspec := run_of_spec (rmwInit_begins o error guid options contextIsNull origin)
  rw [hrun] at hspec
  obtain ⟨hdds, hturns⟩ := hspec rfl
  refine ⟨hsound, by simp, hdds, ?_⟩
  have hestate := hturns.gain (Heap.Estate.whole origin.heap)
  rw [hheld, Multiset.zero_bind, add_zero, estateOf_zero, add_zero, ← Multiset.singleton_add,
    add_comm]
  exact hestate

/-- What every run preserves. -/
theorem Session.ReachableFrom.kept (h : σ.ReachableFrom origin) :
    ∃ orphans, σ.Kept origin.heap.live orphans := by
  induction h with
  | begin hbegins => exact ⟨0, hbegins.kept⟩
  | next _ hrequest hthere ih =>
    obtain ⟨orphans, hkept⟩ := ih
    obtain ⟨left, hnext⟩ := hkept.next hrequest hthere
    exact ⟨left + orphans, hnext⟩

/-- However the calls went, the end of a context leaves the heap as `rmw_init` has
found it, and the user has no handle of the context any more. -/
theorem Session.end_leaves_nothing {request : Request} (h : σ.ReachableFrom origin)
    (hrequest : request.Admissible σ) (hgone : (σ.next request).state.context.impl = none) :
    (σ.next request).state.heap.live = origin.heap.live ∧ (σ.next request).held = 0 := by
  obtain ⟨orphans, hkept⟩ := h.kept
  obtain ⟨hlive, hheld, -⟩ := hkept.ended hrequest hgone
  exact ⟨hlive, hheld⟩

theorem error_ne_ok : Ret.error ≠ .ok := by decide

theorem Session.initial_beginsFrom :
    Session.initial.BeginsFrom ⟨.empty, ∅, .empty, .zero, .new⟩ :=
  ⟨fun _ _ => true, fun _ => ⟨.error, error_ne_ok⟩, plainGuid 0, some plainOptions, false,
    by simp [State.Bare], Prod.ext (by decide +kernel) rfl, rfl⟩

/-- A context in which a node has come and gone. -/
def Session.afterNode : Session := Session.withNode.next (.destroyNode plainNode)

def Session.afterShutdown : Session := Session.afterNode.next .shutdown

theorem Session.withNode_reachableFrom :
    Session.withNode.ReachableFrom ⟨.empty, ∅, .empty, .zero, .new⟩ :=
  .next (.begin Session.initial_beginsFrom) (.inr ⟨rfl, rfl⟩) (by decide +kernel)

theorem Session.afterShutdown_reachableFrom :
    Session.afterShutdown.ReachableFrom ⟨.empty, ∅, .empty, .zero, .new⟩ := by
  have hnode : (Request.destroyNode plainNode).Admissible Session.withNode := by
    have hheld : ∀ n ∈ plainNode, .node n ∈ Session.withNode.held := by decide +kernel
    exact hheld
  exact .next (.next Session.withNode_reachableFrom hnode (by decide +kernel)) trivial
    (by decide +kernel)

theorem Session.end_leaves_nothing_afterShutdown :
    (Session.afterShutdown.next (.contextFini (fun _ _ => true) fun _ => true)).state.heap.live =
      ∅ ∧ (Session.afterShutdown.next (.contextFini (fun _ _ => true) fun _ => true)).held = 0 :=
  Session.end_leaves_nothing Session.afterShutdown_reachableFrom trivial (by decide +kernel)

/-- Before that, every live object is in one part only: what was there before
`rmw_init`, the context, its channel, each handle with the endpoints in it, and the
endpoints that nobody holds any more. -/
theorem Session.objects_divided (h : σ.ReachableFrom origin) : ∃ orphans : Multiset Handle,
    (∀ x ∈ orphans, x.isEndpoint = true) ∧ σ.state.Sound (σ.held.bind Handle.parts + orphans) ∧
      σ.state.heap.Estate (origin.heap.live ::ₘ σ.state.ownParts +
        estateOf (σ.held.bind Handle.parts + orphans)) := by
  obtain ⟨orphans, hkept⟩ := h.kept
  exact ⟨orphans, hkept.endpoints, hkept.sound.sound, hkept.estate⟩

theorem Session.objects_divided_withNode : ∃ orphans : Multiset Handle,
    (∀ x ∈ orphans, x.isEndpoint = true) ∧
      Session.withNode.state.Sound (Session.withNode.held.bind Handle.parts + orphans) ∧
      Session.withNode.state.heap.Estate (∅ ::ₘ Session.withNode.state.ownParts +
        estateOf (Session.withNode.held.bind Handle.parts + orphans)) :=
  Session.objects_divided Session.withNode_reachableFrom

/-! ## Winding a context down -/

/-- Some calls of the user end the context. -/
inductive Session.CanEnd : Session → Prop
  | last {σ : Session} (request : Request) : request.Admissible σ →
    (σ.next request).state.context.impl = none → CanEnd σ
  | next {σ : Session} (request : Request) : request.Admissible σ →
    (σ.next request).state.context.impl.isSome → CanEnd (σ.next request) → CanEnd σ

/-- Every endpoint is the channel's, or in a handle of the user. -/
structure Session.Complete (σ : Session) : Prop where
  publishers : ∀ p ∈ σ.state.entities.publishers,
    .publisher p ∈ σ.state.impl.handles + σ.held.bind Handle.parts
  subscriptions : ∀ p ∈ σ.state.entities.subscriptions,
    .subscription p ∈ σ.state.impl.handles + σ.held.bind Handle.parts

namespace Session.Kept

variable {base : Finset Obj} {orphans : Multiset Handle}

/-- Endpoints that nobody holds stay for ever. -/
theorem eq_zero_of_canEnd (hend : σ.CanEnd) (h : σ.Kept base orphans) : orphans = 0 := by
  induction hend generalizing orphans with
  | last request hrequest hgone => exact (h.ended hrequest hgone).2.2
  | next request hrequest hthere _ ih =>
    obtain ⟨left, hnext⟩ := h.next hrequest hthere
    exact (add_eq_zero.mp (ih hnext)).2

theorem complete_iff (h : σ.Kept base orphans) : σ.Complete ↔ orphans = 0 := by
  have htallies := h.sound.sound.registry.tallies
  have hnodup : (σ.state.impl.handles + (σ.held.bind Handle.parts + orphans)).Nodup :=
    Multiset.Nodup.of_map Handle.object h.sound.sound.registry.lists.nodup
  rw [← add_assoc, Multiset.nodup_add] at hnodup
  have hall {x : Handle} (hx : x ∈ orphans) :
      x ∈ σ.state.impl.handles + (σ.held.bind Handle.parts + orphans) :=
    Multiset.mem_add.mpr (.inr (Multiset.mem_add.mpr (.inr hx)))
  constructor
  · intro hcomplete
    refine Multiset.eq_zero_of_forall_notMem fun x hx => ?_
    cases x with
    | publisher p =>
      have hmem := hcomplete.publishers p ((htallies.publishers p).mpr (hall hx))
      exact Multiset.disjoint_left.mp hnodup.2.2 hmem hx
    | subscription p =>
      have hmem := hcomplete.subscriptions p ((htallies.subscriptions p).mpr (hall hx))
      exact Multiset.disjoint_left.mp hnodup.2.2 hmem hx
    | _ => cases h.endpoints _ hx
  · rintro rfl
    rw [add_zero] at htallies
    exact ⟨fun p hp => (htallies.publishers p).mp hp, fun p hp => (htallies.subscriptions p).mp hp⟩

end Session.Kept

/-- A session in which only the handles of the user are left. -/
structure Session.Closing (base : Finset Obj) (σ : Session) : Prop where
  kept : σ.Kept base 0
  channel : σ.state.impl.handles = 0
  shutdown : σ.state.impl.shutdown = true

/-- A node as the user refers to it, with its context. -/
def Session.nodeHandle (σ : Session) (node : Node) : NodeHandle where
  node := node
  context := some ⟨0, σ.state.context.impl⟩
  implContext := some 0

theorem Session.nodeHandle_reaches {node : Node} (hnode : node.Valid)
    (husable : σ.state.context.Usable) : (σ.nodeHandle node).identified = true ∧
      (σ.nodeHandle node).reachesSubscription σ.state = true ∧
      (σ.nodeHandle node).reachesPublisher σ.state = true := by
  have hvalid : (σ.nodeHandle node).valid = true := by
    simp [Session.nodeHandle, NodeHandle.valid, NodeHandle.contextImpl, hnode.1, hnode.2,
      husable.impl]
  have hsubscription : (σ.nodeHandle node).reachesSubscription σ.state = true := by
    rw [NodeHandle.reachesSubscription, hvalid]
    simp [Session.nodeHandle, NodeHandle.contextImpl]
  refine ⟨by simp [NodeHandle.identified, Session.nodeHandle, hnode.1], hsubscription, ?_⟩
  rw [NodeHandle.reachesPublisher, hsubscription]
  simp [Session.nodeHandle]

namespace Session.Closing

variable {base : Finset Obj} {held : Multiset Handle}

theorem drops {σ' : Session} (h : σ.Closing base) (hdrops : σ.Drops base held 0 σ') :
    σ'.Closing base := by
  refine ⟨hdrops.kept, ?_, ?_⟩
  · rw [hdrops.impl]
    exact h.channel
  · rw [hdrops.impl]
    exact h.shutdown

theorem registry (h : σ.Closing base) :
    Registry (σ.held.bind Handle.parts) σ.state.heap σ.state.entities := by
  have hregistry := h.kept.sound.sound.registry
  rwa [h.channel, zero_add, add_zero] at hregistry

/-- The node of an entity is there. -/
theorem exists_node (h : σ.Closing base) {x : Handle} (hx : x ∈ σ.held) (node : Obj)
    (hrecorded : x.recordedNode = some node) : ∃ m : Node, m.Valid := by
  have hmem : x ∈ σ.held.bind Handle.parts := Multiset.mem_bind.mpr ⟨x, hx, x.mem_parts⟩
  obtain ⟨m, hm, -⟩ := h.registry.nodes x hmem node hrecorded
  exact ⟨m, (h.registry.made _ hm).valid⟩

/-- When only nodes are left, nothing refers to them. -/
theorem unowned (h : σ.Closing base) (hnodes : ∀ x ∈ σ.held, ∃ n, x = .node n) (n : Node) :
    nodeOwnsEntities σ.state.entities n = false := by
  rw [← Bool.not_eq_true, h.registry.tallies.owns_iff]
  rintro ⟨x, hx, hrecorded⟩
  obtain ⟨y, hy, hparts⟩ := Multiset.mem_bind.mp hx
  obtain ⟨m, rfl⟩ := hnodes y hy
  have hnode : x = .node m := Multiset.mem_singleton.mp hparts
  rw [hnode] at hrecorded
  cases hrecorded

/-- There is always a handle that the user can give back. -/
theorem exists_drop (h : σ.Closing base) (hsome : σ.held ≠ 0) :
    ∃ request held, request.Admissible σ ∧ σ.Drops base held 0 (σ.next request) ∧
      held.card < σ.held.card := by
  have hcard {x : Handle} {held : Multiset Handle} (hheld : σ.held = x ::ₘ held) :
      held.card < σ.held.card := by
    rw [hheld, Multiset.card_cons]
    exact Nat.lt_succ_self _
  have husable := h.kept.sound.usable
  by_cases hnodes : ∀ x ∈ σ.held, ∃ n, x = .node n
  · obtain ⟨x, hx⟩ := Multiset.exists_mem_of_ne_zero hsome
    obtain ⟨n, rfl⟩ := hnodes x hx
    obtain ⟨held, hheld⟩ := Multiset.exists_cons_of_mem hx
    refine ⟨.destroyNode (some n), held, ?_, ?_, hcard hheld⟩
    · rintro m ⟨⟩
      exact hx
    · exact h.kept.destroyNode_unowned hheld (h.unowned hnodes n)
  · push Not at hnodes
    obtain ⟨x, hx, hnode⟩ := hnodes
    obtain ⟨held, hheld⟩ := Multiset.exists_cons_of_mem hx
    have hmade := h.kept.sound.sound.registry.made _ (h.kept.sound.mem_all hx)
    cases x with
    | node n => exact (hnode n rfl).elim
    | publisher p =>
      obtain ⟨impl, himpl⟩ := Option.isSome_iff_exists.mp (h.kept.publisher_valid hx).2
      obtain ⟨m, hm⟩ := h.exists_node hx impl.node (by rw [Handle.recordedNode, himpl]; rfl)
      refine ⟨.destroyPublisher (fun _ => true) (some (σ.nodeHandle m)) (some p), held, ?_, ?_,
        hcard hheld⟩
      · rintro q ⟨⟩
        exact hx
      · exact h.kept.destroyPublisher_reached hheld (Session.nodeHandle_reaches hm husable).2.2
    | subscription p =>
      obtain ⟨impl, himpl⟩ := Option.isSome_iff_exists.mp (h.kept.subscription_valid hx).2
      obtain ⟨m, hm⟩ := h.exists_node hx impl.node (by rw [Handle.recordedNode, himpl]; rfl)
      refine ⟨.destroySubscription (fun _ => true) (some (σ.nodeHandle m)) (some p), held, ?_, ?_,
        hcard hheld⟩
      · rintro q ⟨⟩
        exact hx
      · exact h.kept.destroySubscription_reached hheld (Session.nodeHandle_reaches hm husable).2.1
    | serviceEntity role x =>
      have hvalid : x.Valid := hmade.valid
      obtain ⟨impl, himpl⟩ := Option.isSome_iff_exists.mp hvalid.2
      obtain ⟨m, hm⟩ := h.exists_node hx impl.node (by rw [Handle.recordedNode, himpl]; rfl)
      obtain ⟨hidentified, hsubscription, hpublisher⟩ := Session.nodeHandle_reaches hm husable
      refine ⟨.destroyServiceEntity role (fun _ _ => true) (some (σ.nodeHandle m)) (some x), held,
        ?_, ?_, hcard hheld⟩
      · rintro y ⟨⟩
        exact hx
      · have hdrops := h.kept.destroyServiceEntity_identified (o := fun _ _ => true) hheld himpl
          hidentified
        rw [NodeHandle.orphans, hpublisher, hsubscription] at hdrops
        exact hdrops
    | guardCondition g =>
      refine ⟨.destroyGuardCondition (some g), held, ?_, ?_, hcard hheld⟩
      · rintro g' ⟨⟩
        exact hx
      · exact h.kept.destroyGuardCondition_held hheld
    | waitSet w =>
      refine ⟨.destroyWaitSet (some w), held, ?_, ?_, hcard hheld⟩
      · rintro w' ⟨⟩
        exact hx
      · exact h.kept.destroyWaitSet_held hheld

/-- Without handles the next call ends the context. -/
theorem last (h : σ.Closing base) (hnone : σ.held = 0) : σ.CanEnd := by
  refine .last (.contextFini (fun _ _ => true) fun _ => true) trivial ?_
  have hspec := run_of_spec (rmwContextFini_spec (fun _ _ => true) (fun _ => true) σ.state
    h.kept.sound.sound h.kept.sound.usable)
  rcases hrun : (rmwContextFini (fun _ _ => true) (fun _ => true) false).run σ.state with ⟨r, s'⟩
  rw [hrun] at hspec
  obtain ⟨ret, t, -, hchannel, -, -, hended⟩ := hspec.channel
  have hret : ret = .ok := by
    rw [hchannel.ret]
    simp [channelRet, stageRet, subscriptionDeleted, publisherDeleted, Ret.and]
  have hactive := h.kept.finalized_active hchannel
  rw [hnone, Multiset.zero_bind, add_zero, Multiset.countP_zero] at hactive
  have haccepts : t.refusesFini = false := by
    rw [State.refusesFini, hactive, hchannel.impl]
    simp [ContextImpl.withoutChannel, h.shutdown]
  rw [Session.next, show (perform (.contextFini (fun _ _ => true) fun _ => true)).run σ.state =
    (none, s') from run_map hrun]
  exact (hended hret haccepts).2

theorem canEnd (h : σ.Closing base) : σ.CanEnd := by
  induction hn : σ.held.card using Nat.strong_induction_on generalizing σ with
  | _ n ih =>
    subst hn
    by_cases hnone : σ.held = 0
    · exact h.last hnone
    · obtain ⟨request, held, hrequest, hdrops, hcard⟩ := h.exists_drop hnone
      refine .next request hrequest hdrops.kept.sound.usable.impl (ih _ ?_ (h.drops hdrops) rfl)
      rwa [hdrops.held]

end Session.Closing

/-- A session in which every endpoint is held can be wound down: the channel
ends first, then the handles, the nodes after everything under them. -/
theorem Session.Kept.canEnd {base : Finset Obj} (h : σ.Kept base 0) : σ.CanEnd := by
  obtain ⟨hshutdown, hkept⟩ := h.shutdown
  refine .next .shutdown trivial hkept.sound.usable.impl ?_
  generalize σ.next .shutdown = τ at hshutdown hkept
  let request : Request := .contextFini (fun _ _ => true) fun _ => true
  cases hthere : (τ.next request).state.context.impl with
  | none => exact .last request trivial hthere
  | some x =>
    have hsome : (τ.next request).state.context.impl.isSome := by rw [hthere]; rfl
    obtain ⟨himpl, hnext⟩ := hkept.contextFini hsome
    have hclosing : (τ.next request).Closing base := by
      refine ⟨hnext, ?_, ?_⟩
      · rw [himpl]
        exact ContextImpl.handles_withoutChannel _
      · rw [himpl]
        exact hshutdown
    exact .next request trivial hsome hclosing.canEnd

/-- Whatever has failed, a context can be ended exactly if no endpoint of it has
got out of the hands of its user. -/
theorem Session.canEnd_iff (h : σ.ReachableFrom origin) : σ.CanEnd ↔ σ.Complete := by
  obtain ⟨orphans, hkept⟩ := h.kept
  rw [hkept.complete_iff]
  constructor
  · exact fun hend => hkept.eq_zero_of_canEnd hend
  · rintro rfl
    exact hkept.canEnd

theorem Session.canEnd_iff_withNode : Session.withNode.CanEnd ↔ Session.withNode.Complete :=
  Session.canEnd_iff Session.withNode_reachableFrom

end Lifecycle

end RmwZzdds
