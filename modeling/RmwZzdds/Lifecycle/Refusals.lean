import RmwZzdds.Lifecycle.Exactness

/-!
# Calls that refuse

Two destructions of the program begin before they know whether they will
refuse.  `rmw_context_fini` takes the graph channel down first, and the end of
a client or a service frees the handle whether or not the node reaches its
endpoints.  For both it is shown exactly when a refusal leaves no trace.
-/

namespace RmwZzdds

open Ownership Std.Do

namespace Lifecycle

/-! ## The end of a context -/

/-- The counted entities that are not of the channel. -/
def State.userEntities (s : State) : ℕ := s.entities.activeEntities - s.impl.handles.card

/-- The channel was taken down before. -/
def State.ChannelGone (s : State) : Prop := s.impl.withoutChannel = s.impl

/-- The end of a channel that is gone. -/
theorem finalizeGraphChannel_gone {o : Call → Outcomes} {s : State} (hgone : s.ChannelGone) :
    ((finalizeGraphChannel o).run s).2 = s := by
  have hcommon : s.impl.common = ContextImpl.new.common := congrArg (·.common) hgone.symm
  have hnode : s.impl.graphNode = none := congrArg (·.graphNode) hgone.symm
  have hsuppress : s.impl.suppressGraphUpdates = false :=
    congrArg (·.suppressGraphUpdates) hgone.symm
  obtain ⟨heap, refused, entities, context, impl⟩ := s
  obtain ⟨dds, common, native, guardImpl, guardHandle, graphNode, suppress, shutdown⟩ := impl
  simp only at hcommon hnode hsuppress
  subst hcommon hnode hsuppress
  cases hcontext : context.impl with
  | none =>
    simp [finalizeGraphChannel, hcontext]
    rfl
  | some x =>
    simp [finalizeGraphChannel, dismantleChannel, stopGraphListener, destroyChannelNode,
      destroyChannelGuard, destroyChannelPublisher, destroyChannelSubscription, modifyCommon,
      modifyImpl, ContextImpl.new, hcontext, State.onImpl, ContextImpl.onCommon,
      ContextImpl.suppress]
    rfl

theorem ContextImpl.counted_handles (c : ContextImpl) :
    c.handles.countP (fun x => x.counted = true) = c.handles.card := by
  refine Multiset.countP_eq_card.mpr fun x hx => ?_
  have helim {α : Type} {y : Option α} {f : α → Handle} (hf : ∀ a, (f a).counted = true)
      (hy : x ∈ y.elim (0 : Multiset Handle) ({f ·})) : x.counted = true := by
    cases y with
    | none => simp at hy
    | some a => exact Multiset.mem_singleton.mp hy ▸ hf a
  simp only [handles, Multiset.mem_add] at hx
  rcases hx with hx | hx | hx | hx | hx
  all_goals exact helim (fun _ => rfl) hx

/-- What `rmw_context_fini` decides on, in terms of the state before it. -/
theorem State.Sound.refusesFini {U : Multiset Handle} {o : Call → Outcomes} {s t : State} {r : Ret}
    (hs : s.Sound U) (h : FinalizesChannel o s r t) :
    t.refusesFini = (!s.impl.shutdown || s.userEntities ≠ 0) := by
  have hbefore := hs.registry.tallies.active
  have hafter := (hs.registry_finalized h).tallies.active
  rw [Multiset.countP_add, ContextImpl.counted_handles] at hbefore
  have husers : s.userEntities = t.entities.activeEntities := by
    rw [State.userEntities, hbefore, hafter]
    omega
  have hshutdown : t.impl.shutdown = s.impl.shutdown := congrArg (·.shutdown) h.impl
  rw [State.refusesFini, husers, hshutdown]

theorem channelRet_ne_invalid (o : Call → Outcomes) (sub pub : Bool) :
    channelRet o sub pub ≠ .invalidArgument := by
  unfold channelRet stageRet Ret.and
  split_ifs <;> simp_all

/-- When `rmw_context_fini` leaves a context as it was that it refuses. -/
theorem Session.contextFini_unchanged_iff {σ : Session} (hσ : σ.Reachable) (o : Call → Outcomes)
    (dds : Outcomes) :
    (((rmwContextFini o dds false).run σ.state).1 = .invalidArgument →
      ((rmwContextFini o dds false).run σ.state).2 = σ.state) ↔
    channelRet o σ.state.impl.common.sub.isSome σ.state.impl.common.pub.isSome ≠ .ok ∨
      (σ.state.impl.shutdown = true ∧ σ.state.userEntities = 0) ∨ σ.state.ChannelGone := by
  obtain ⟨orphans, hsound⟩ := hσ.sound
  have hspec := run_of_spec (rmwContextFini_spec o dds σ.state hsound.sound hsound.usable)
  obtain ⟨ret, t, hrun, hchannel, hfailed, hrefused, hended⟩ := hspec.channel
  have hret := hchannel.ret
  have hrefuses := hsound.sound.refusesFini hchannel
  by_cases hok : ret = .ok
  · cases ht : t.refusesFini with
    | true =>
      obtain ⟨hinvalid, hstate⟩ := hrefused hok ht
      rw [hinvalid, hstate, ← hret]
      simp only [hok, ne_eq, not_true_eq_false, false_or, forall_const]
      have hnot : ¬ (σ.state.impl.shutdown = true ∧ σ.state.userEntities = 0) := by
        rintro ⟨hshutdown, husers⟩
        simp [hrefuses, hshutdown, husers] at ht
      simp only [hnot, false_or]
      constructor
      · intro heq
        rw [State.ChannelGone, ← hchannel.impl, heq]
      · intro hgone
        have hsame := finalizeGraphChannel_gone (o := o) hgone
        rwa [hrun] at hsame
    | false =>
      obtain ⟨hvalid, -⟩ := hended hok ht
      have husers : σ.state.impl.shutdown = true ∧ σ.state.userEntities = 0 := by
        simpa [hrefuses] using ht
      exact ⟨fun _ => .inr (.inl husers), fun _ hinvalid => (hvalid hinvalid).elim⟩
  · obtain ⟨hr, -⟩ := hfailed hok
    refine ⟨fun _ => .inl (hret ▸ hok), fun _ hinvalid => ?_⟩
    exact (channelRet_ne_invalid _ _ _ (hret ▸ hr ▸ hinvalid)).elim

/-- `rmw_context_fini` refuses a context that is not shut down, and the channel
is gone. -/
theorem Session.contextFini_changes : ¬ ∀ (σ : Session), σ.Reachable →
    ∀ (o : Call → Outcomes) (dds : Outcomes),
    ((rmwContextFini o dds false).run σ.state).1 = .invalidArgument →
      ((rmwContextFini o dds false).run σ.state).2 = σ.state := by
  intro h
  have heq := h Session.initial (.begin Session.initial_begins) (fun _ _ => true) (fun _ => true)
    (by decide +kernel)
  have hnode : ((rmwContextFini (fun _ _ => true) (fun _ => true) false).run
      Session.initial.state).2.impl.graphNode = none := by decide +kernel
  have hthere : Session.initial.state.impl.graphNode ≠ none := by decide +kernel
  exact hthere (heq ▸ hnode)

theorem Session.contextFini_unchanged_initial :
    (((rmwContextFini (fun _ _ => true) (fun _ => true) false).run
        Session.initial.state).1 = .invalidArgument →
      ((rmwContextFini (fun _ _ => true) (fun _ => true) false).run
        Session.initial.state).2 = Session.initial.state) ↔
    channelRet (fun _ _ => true) Session.initial.state.impl.common.sub.isSome
        Session.initial.state.impl.common.pub.isSome ≠ .ok ∨
      (Session.initial.state.impl.shutdown = true ∧ Session.initial.state.userEntities = 0) ∨
      Session.initial.state.ChannelGone :=
  Session.contextFini_unchanged_iff (.begin Session.initial_begins) (fun _ _ => true) fun _ => true

/-! ## The end of a client or a service -/

/-- A client or a service is gone with both of its endpoints. -/
structure ReleasesAll (role : Role) (x : ServiceEntity) (s s' : State) : Prop where
  object : x.object ∉ s'.heap.live
  ends : x ∉ s'.entities.ends role
  publisher : ∀ impl ∈ x.data,
    impl.publisher.object ∉ s'.heap.live ∧ impl.publisher ∉ s'.entities.publishers
  subscription : ∀ impl ∈ x.data,
    impl.subscription.object ∉ s'.heap.live ∧ impl.subscription ∉ s'.entities.subscriptions
  active : s.entities.activeEntities = s'.entities.activeEntities + 2

/-- The call releases everything, or it returns an error and changes
nothing. -/
def AllOrNothing (role : Role) (x : ServiceEntity) (s : State) (r : Ret) (s' : State) : Prop :=
  ReleasesAll role x s s' ∨ r ≠ .ok ∧ s' = s

/-- What is not registered is not live. -/
theorem Registry.dead {F F' : Multiset Handle} {h h' : Heap Kind} {e e' : Entities} {x : Handle}
    (hF : Registry (x ::ₘ F) h e) (hF' : Registry F' h' e') (hsub : F' ⊆ F) :
    x.object ∉ h'.live := by
  intro hlive
  have hmade := (hF.made x (Multiset.mem_cons_self x F)).handle
  have hkind : x.object.kind.isHandle = true := by
    rw [hmade.kind]
    exact x.isHandle_kind
  obtain ⟨y, hy, heq⟩ := (hF'.lists.live x.object hkind).mp hlive
  exact hF.lists.key_notMem (hsub hy) heq

/-- The end of a client or a service whose node reaches both endpoints. -/
theorem DestroysServiceEntity.releasesAll {role : Role} {n : NodeHandle} {x : ServiceEntity}
    {impl : ServiceImpl} {F : Multiset Handle} {s s' : State} {r : Ret}
    (h : DestroysServiceEntity role (some n) x s r s') (himpl : x.data = some impl)
    (hF : Registry (x.handles role + F) s.heap s.entities)
    (hreaches : n.reachesPublisher s = true) : ReleasesAll role x s s' := by
  have hreaches' : n.reachesSubscription s = true := by
    rw [NodeHandle.reachesPublisher, Bool.and_eq_true] at hreaches
    exact hreaches.1
  have hF' := h.registry himpl hF
  rw [NodeHandle.orphans, if_pos hreaches, if_pos hreaches', add_zero, zero_add] at hF'
  rw [ServiceEntity.handles, himpl, Option.elim_some, Multiset.cons_add, endpointHandles_add] at hF
  have hFpub := hF
  rw [Multiset.cons_swap] at hFpub
  have hFsub : Registry (.subscription impl.subscription ::ₘ .serviceEntity role x ::ₘ
      .publisher impl.publisher ::ₘ F) s.heap s.entities := by
    rwa [Multiset.cons_swap, Multiset.cons_swap (Handle.subscription _)]
  have hsub {y z : Handle} : F ⊆ y ::ₘ z ::ₘ F := fun a ha =>
    Multiset.mem_cons_of_mem (Multiset.mem_cons_of_mem ha)
  refine ⟨hF.dead hF' hsub, ?_, ?_, ?_, ?_⟩
  · rw [hF'.tallies.ends]
    exact fun hx => hF.lists.notMem (hsub hx)
  · rintro impl' himpl'
    cases Option.mem_unique himpl himpl'
    refine ⟨hFpub.dead hF' hsub, ?_⟩
    rw [hF'.tallies.publishers]
    exact fun hx => hFpub.lists.notMem (hsub hx)
  · rintro impl' himpl'
    cases Option.mem_unique himpl himpl'
    refine ⟨hFsub.dead hF' hsub, ?_⟩
    rw [hF'.tallies.subscriptions]
    exact fun hx => hFsub.lists.notMem (hsub hx)
  · rw [hF.tallies.active, hF'.tallies.active]
    simp only [Multiset.countP_cons]
    simp [Handle.counted]

/-- The end of a client or a service whose node does not reach its
publisher. -/
theorem DestroysServiceEntity.leaves {role : Role} {n : NodeHandle} {x : ServiceEntity}
    {impl : ServiceImpl} {F : Multiset Handle} {s s' : State} {r : Ret}
    (h : DestroysServiceEntity role (some n) x s r s') (himpl : x.data = some impl)
    (hF : Registry (x.handles role + F) s.heap s.entities)
    (hreaches : n.reachesPublisher s = false) : ¬ AllOrNothing role x s r s' := by
  have hF' := h.registry himpl hF
  rintro (hall | ⟨-, heq⟩)
  · have hmem : .publisher impl.publisher ∈ n.orphans s impl + F := by
      simp [NodeHandle.orphans, hreaches]
    exact (hall.publisher impl himpl).1 (hF'.lists.mem_live hmem)
  · obtain ⟨t, rfl, -⟩ := h n rfl impl himpl
    rw [heq] at hF'
    have hmem : .serviceEntity role x ∈ x.handles role + F :=
      Multiset.mem_add.mpr (.inl (Multiset.mem_cons_self _ _))
    have hlive := hF.lists.mem_live hmem
    have hdead : x.object ∉ (t.free x.objects).heap.live := fun hx =>
      (Finset.mem_sdiff.mp hx).2 (by simp [ServiceEntity.objects])
    rw [heq] at hdead
    exact hdead hlive

/-- Where the end of a client or a service is all or nothing: a node that is
rejected at once, or one that reaches both endpoints. -/
theorem Session.destroyServiceEntity_iff {σ : Session} (hσ : σ.Reachable) {role : Role}
    {x : ServiceEntity} (hx : .serviceEntity role x ∈ σ.held) (o : ServiceCall → Outcomes)
    (node : Option NodeHandle) :
    AllOrNothing role x σ.state ((destroyServiceEntity o role node (some x)).run σ.state).1
        ((destroyServiceEntity o role node (some x)).run σ.state).2 ↔
      ∀ n ∈ node, n.identified = true → n.reachesPublisher σ.state = true := by
  obtain ⟨orphans, hsound⟩ := hσ.sound
  have hspec := hsound.destroyServiceEntity_run role o node hx
  have hvalid : x.Valid := (hsound.sound.registry.made _ (hsound.mem_all hx)).valid
  obtain ⟨impl, himpl⟩ := Option.isSome_iff_exists.mp hvalid.2
  obtain ⟨held, hheld⟩ := Multiset.exists_cons_of_mem hx
  have hF := hsound.sound.registry
  have hsplit : σ.state.impl.handles + (σ.held.bind Handle.parts + orphans) =
      x.handles role + (σ.state.impl.handles + (held.bind Handle.parts + orphans)) := by
    rw [hheld, Multiset.cons_bind, Handle.parts]
    abel
  rw [hsplit] at hF
  cases node with
  | none =>
    exact ⟨fun _ n hn => absurd hn (Option.not_mem_none n), fun _ => .inr (hspec.rejects rfl)⟩
  | some n =>
    simp only [Option.mem_some_iff, forall_eq']
    cases hidentified : n.identified with
    | false =>
      exact ⟨fun _ hn => absurd hn Bool.false_ne_true, fun _ => .inr (hspec.rejects hidentified)⟩
    | true =>
      have hdestroys := hspec.destroys hidentified
      simp only [forall_const]
      cases hreaches : n.reachesPublisher σ.state with
      | true => exact ⟨fun _ => rfl, fun _ => .inl (hdestroys.releasesAll himpl hF hreaches)⟩
      | false =>
        exact ⟨fun hall => (hdestroys.leaves himpl hF hreaches hall).elim,
          fun hn => absurd hn Bool.false_ne_true⟩

/-- A node of another context. -/
def foreignNode : NodeHandle where
  node := ⟨⟨.rmwNode, 0⟩, some identifier, some ⟨.nodeImpl, 1⟩, none, none⟩
  context := some ⟨1, some ⟨.contextImpl, 2⟩⟩
  implContext := some 1

def plainClient : ServiceEntity :=
  ((rmwCreateClient (fun _ _ => true) (plainGuid 1) plainNode).run Session.withNode.state).1.getD
    ⟨⟨.rmwServiceEntity .client, 0⟩, none, none, none⟩

theorem plainClient_held : .serviceEntity .client plainClient ∈ Session.withClient.held := by
  decide +kernel

theorem Session.destroyServiceEntity_withClient :
    AllOrNothing .client plainClient Session.withClient.state
        ((destroyServiceEntity (fun _ _ => true) .client (some foreignNode)
          (some plainClient)).run Session.withClient.state).1
        ((destroyServiceEntity (fun _ _ => true) .client (some foreignNode)
          (some plainClient)).run Session.withClient.state).2 ↔
      ∀ n ∈ some foreignNode, n.identified = true →
        n.reachesPublisher Session.withClient.state = true :=
  Session.destroyServiceEntity_iff Session.withClient_reachable plainClient_held
    (fun _ _ => true) (some foreignNode)

/-- A client that is destroyed with a node of another context leaves its
endpoints behind. -/
theorem Session.destroyServiceEntity_orphans : ¬ ∀ (σ : Session), σ.Reachable →
    ∀ (role : Role) (x : ServiceEntity), .serviceEntity role x ∈ σ.held →
    ∀ (o : ServiceCall → Outcomes) (node : Option NodeHandle),
      AllOrNothing role x σ.state ((destroyServiceEntity o role node (some x)).run σ.state).1
        ((destroyServiceEntity o role node (some x)).run σ.state).2 := by
  intro h
  rcases h Session.withClient Session.withClient_reachable .client plainClient plainClient_held
    (fun _ _ => true) (some foreignNode) with hall | ⟨-, heq⟩
  · have hactive := hall.active
    revert hactive
    decide +kernel
  · have hfreed : plainClient.object ∉ ((destroyServiceEntity (fun _ _ => true) .client
        (some foreignNode) (some plainClient)).run Session.withClient.state).2.heap.live := by
      decide +kernel
    rw [heq] at hfreed
    exact hfreed (by decide +kernel)

end Lifecycle

end RmwZzdds
