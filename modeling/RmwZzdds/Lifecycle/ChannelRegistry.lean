import RmwZzdds.Lifecycle.Registry

/-!
# The graph channel in the registry

The entities of the graph channel are entities of the context like those of
the user: they are in the same containers and in the same counter.
`State.Sound U` says that the channel's entities and the handles in `U` are all
there are.  It holds once the channel has been initialized, and the end of the
channel leaves just `U`.
-/

namespace RmwZzdds

open Ownership Std.Do

namespace Lifecycle

open Service (Guid)

set_option mvcgen.warning false

/-! ## The end of the channel -/

section

variable {F : Multiset Handle} {h : Heap Kind} {e : Entities} (c : Common)

def Common.waitSet : Option WaitSet := c.listenerThread.bind (·.waitSet)

theorem Registry.endThread
    (hF : Registry (c.waitSet.elim 0 ({.waitSet ·}) + F) h e)
    (hthread : ∀ t ∈ c.listenerThread, t.object.kind = .thread) :
    Registry F (h.free c.threadObjects) (c.endThread e) := by
  unfold Common.threadObjects Common.endThread
  unfold Common.waitSet at hF
  cases ht : c.listenerThread with
  | none => simpa [ht] using hF
  | some t =>
    have hkind : ∀ x ∈ ({t.object} : Finset Obj), x.kind.isHandle = false := by
      intro x hx
      rw [Finset.mem_singleton.mp hx, hthread t ht]
      rfl
    have hkeep {G : Multiset Handle} {h' : Heap Kind} {e' : Entities} (hG : Registry G h' e') :
        Registry G (h'.free {t.object}) e' :=
      ⟨hG.lists.keep hkind, hG.tallies, hG.made, hG.guids, hG.nodes⟩
    rw [ht, Option.bind_some] at hF
    cases hw : t.waitSet with
    | none => simpa [hw, ListenerThread.objects] using hkeep (by simpa [hw] using hF)
    | some w =>
      rw [hw, Option.elim_some, Multiset.singleton_add] at hF
      have hplain : (Handle.waitSet w).kind ≠ .rmwNode := by rintro ⟨⟩
      have hremove := (hkeep hF).remove_plain hplain
      simpa [hw, ListenerThread.objects, Handle.objects, Handle.unregister] using hremove

theorem Registry.endSub (hF : Registry (c.sub.elim 0 ({.subscription ·}) + F) h e) :
    Registry F (h.free (c.sub.elim ∅ Subscription.objects)) (c.endSub e) := by
  unfold Common.endSub
  cases hsub : c.sub with
  | none => simpa [hsub] using hF
  | some p =>
    rw [hsub, Option.elim_some, Multiset.singleton_add] at hF
    exact hF.remove_plain nofun

theorem Registry.endPub (hF : Registry (c.pub.elim 0 ({.publisher ·}) + F) h e) :
    Registry F (h.free (c.pub.elim ∅ Publisher.objects)) (c.endPub e) := by
  unfold Common.endPub
  cases hpub : c.pub with
  | none => simpa [hpub] using hF
  | some p =>
    rw [hpub, Option.elim_some, Multiset.singleton_add] at hF
    have hvalid := (hF.made (.publisher p) (Multiset.mem_cons_self _ F)).valid.valid
    obtain ⟨impl, himpl⟩ := Option.isSome_iff_exists.mp hvalid.2
    have hremove := hF.remove_plain nofun
    rw [Handle.unregister, himpl] at hremove
    rw [Option.elim_some, Option.elim_some, himpl]
    exact hremove

theorem Registry.endGuard
    (hF : Registry (c.listenerThreadGc.elim 0 ({.guardCondition ·}) + F) h e) :
    Registry F (h.free (c.listenerThreadGc.elim ∅ GuardCondition.objects)) (c.endGuard e) := by
  unfold Common.endGuard
  cases hguard : c.listenerThreadGc with
  | none => simpa [hguard] using hF
  | some g =>
    rw [hguard, Option.elim_some, Multiset.singleton_add] at hF
    exact hF.remove_plain nofun

theorem Registry.endNode {node : Option Node}
    (hF : Registry (node.elim 0 ({.node ·}) + F) h e)
    (hunused : ∀ x ∈ F, ∀ n ∈ node, x.recordedNode ≠ some n.object) :
    Registry F (h.free (node.elim ∅ Node.objects))
      (node.elim e fun n => (e.removeNode n).leave) := by
  cases node with
  | none => simpa using hF
  | some n =>
    rw [Option.elim_some, Multiset.singleton_add] at hF
    refine hF.remove ?_
    rintro m ⟨⟩ x hx
    exact hunused x hx n rfl

end

/-- The handles of the channel, in the order of their destruction. -/
def ContextImpl.handles (c : ContextImpl) : Multiset Handle :=
  c.common.waitSet.elim 0 ({.waitSet ·}) + (c.common.sub.elim 0 ({.subscription ·}) +
    (c.common.pub.elim 0 ({.publisher ·}) +
      (c.common.listenerThreadGc.elim 0 ({.guardCondition ·}) +
        c.graphNode.elim 0 ({.node ·}))))

/-- The fields of the channel that hold something. -/
def ContextImpl.parts (c : ContextImpl) : Option Node × Option Publisher × Option Subscription ×
    Option GuardCondition × Option ListenerThread :=
  (c.graphNode, c.common.pub, c.common.sub, c.common.listenerThreadGc, c.common.listenerThread)

/-- The entities of the context are those of its channel and `U`. -/
structure State.Sound (U : Multiset Handle) (s : State) : Prop where
  channel : ChannelValid s
  thread : ∀ t ∈ s.impl.common.listenerThread, t.object.kind = .thread
  registry : Registry (s.impl.handles + U) s.heap s.entities
  -- the user does not know the channel's node
  separate : ∀ x ∈ U, ∀ n ∈ s.impl.graphNode, x.recordedNode ≠ some n.object

theorem ContextImpl.handles_withoutChannel (c : ContextImpl) : c.withoutChannel.handles = 0 := rfl

namespace State.Sound

variable {U : Multiset Handle} {s s' : State}

/-- Before the node of the channel ends. -/
theorem registry_dismantled (hs : s.Sound U) :
    Registry (s.impl.graphNode.elim 0 ({.node ·}) + U)
      (s.heap.free (s.impl.common.threadObjects ∪ s.impl.common.sub.elim ∅ Subscription.objects ∪
        s.impl.common.pub.elim ∅ Publisher.objects ∪
        s.impl.common.listenerThreadGc.elim ∅ GuardCondition.objects))
      (s.entities.dismantle s.impl.common) := by
  have hF := hs.registry
  simp only [ContextImpl.handles, add_assoc] at hF
  have h1 := hF.endThread _ hs.thread
  have h2 := h1.endSub
  have h3 := h2.endPub
  have h4 := h3.endGuard
  simp only [Heap.free_free] at h4
  exact h4

/-- The end of the channel leaves the other entities. -/
theorem registry_finalized {o : Call → Outcomes} {r : Ret} (hs : s.Sound U)
    (h : FinalizesChannel o s r s') : Registry U s'.heap s'.entities := by
  have hF := hs.registry_dismantled.endNode hs.separate
  rw [h.releases.heap, h.entities]
  rwa [Heap.free_free] at hF

theorem finalized {o : Call → Outcomes} {r : Ret} (hs : s.Sound U)
    (h : FinalizesChannel o s r s') : s'.Sound U where
  channel := by
    have hcontext := h.releases.context
    refine ⟨hcontext ▸ hs.channel.context, ?_, ?_, ?_, ?_, ?_⟩
    all_goals simp [h.impl, ContextImpl.withoutChannel, ContextImpl.new]
  thread := by simp [h.impl, ContextImpl.withoutChannel, ContextImpl.new]
  registry := by
    rw [h.impl, ContextImpl.handles_withoutChannel, zero_add]
    exact hs.registry_finalized h
  separate := by simp [h.impl, ContextImpl.withoutChannel]

/-- A call that changes nothing in the channel, nor in its entities. -/
theorem congr (hs : s.Sound U) (hF : Registry (s.impl.handles + U) s'.heap s'.entities)
    (hcontext : s'.context = s.context) (hparts : s'.impl.parts = s.impl.parts) :
    s'.Sound U := by
  simp only [ContextImpl.parts, Prod.mk.injEq] at hparts
  obtain ⟨hnode, hpub, hsub, hguard, hthread⟩ := hparts
  obtain ⟨h1, h2, h3, h4, h5, h6⟩ := hs.channel
  have hhandles : s'.impl.handles = s.impl.handles := by
    simp only [ContextImpl.handles, Common.waitSet, hnode, hpub, hsub, hguard, hthread]
  refine ⟨⟨hcontext ▸ h1, hnode ▸ h2, ?_, ?_, hguard ▸ h5, hthread ▸ h6⟩, hthread ▸ hs.thread,
    hhandles ▸ hF, hnode ▸ hs.separate⟩
  · rw [hsub, hnode]
    exact h3
  · rw [hpub, hnode]
    exact h4

/-- Nothing is left under the node of the channel at its end. -/
theorem unowned (hs : s.Sound U) : ∀ n ∈ s.impl.graphNode,
    nodeOwnsEntities (s.entities.dismantle s.impl.common) n = false := by
  intro n hn
  rw [← Bool.not_eq_true, hs.registry_dismantled.tallies.owns_iff]
  rintro ⟨x, hx, hrecorded⟩
  rcases Multiset.mem_add.mp hx with hx | hx
  · rw [Option.mem_def.mp hn, Option.elim_some, Multiset.mem_singleton] at hx
    subst hx
    cases hrecorded
  · exact hs.separate x hx n hn hrecorded

end State.Sound

/-! ## The beginning of the channel -/

/-- A context without entities. -/
theorem State.Fresh.sound {s : State} (hs : s.Fresh)
    (hnone : ∀ x ∈ s.heap.live, x.kind.isHandle = false) : s.Sound 0 where
  channel := by
    refine ⟨hs.context, ?_, ?_, ?_, ?_, ?_⟩
    all_goals simp [hs.node, hs.common, ContextImpl.new]
  thread := by simp [hs.common, ContextImpl.new]
  registry := by
    rw [hs.entities]
    simpa [ContextImpl.handles, Common.waitSet, hs.node, hs.common, ContextImpl.new] using
      Registry.empty hnone
  separate := by simp

/-- A channel under construction, before its thread. -/
structure Underway (s : State) : Prop where
  sound : s.Sound 0
  accepts : s.accepts
  thread : s.impl.common.listenerThread = none

theorem Effect.accepts {R : Kind → Prop} {s s' : State} {xs : Finset Obj} (h : Effect R s xs s')
    (hs : s.accepts) : s'.accepts := by
  rw [State.accepts, State.validContext, h.context, h.impl]
  exact hs

namespace Underway

variable {o : Outcomes} {s s' : State}

theorem node {name namespace_ : Option String} {n : Node} (hs : Underway s)
    (hnone : s.impl.graphNode = none) (hsuppress : s.impl.suppressGraphUpdates = true)
    (h : CreatesNode o name namespace_ s (some n) s') :
    Underway (s'.onImpl (·.withNode (some n))) := by
  have himpl := h.effect.impl
  have hF := h.registry hs.sound.registry (.inl hsuppress)
  obtain ⟨h1, h2, h3, h4, h5, h6⟩ := hs.sound.channel
  refine ⟨⟨⟨h.effect.context ▸ h1, ?_, ?_, ?_, ?_, ?_⟩, ?_, ?_, by simp⟩,
    h.effect.accepts hs.accepts, ?_⟩
  · rintro m ⟨⟩
    exact h.valid n rfl
  · exact fun p hp => ⟨(h3 p (himpl ▸ hp)).1, rfl⟩
  · exact fun p hp => ⟨(h4 p (himpl ▸ hp)).1, rfl⟩
  · exact fun g hg => h5 g (himpl ▸ hg)
  · exact fun t ht => h6 t (himpl ▸ ht)
  · exact fun t ht => hs.sound.thread t (himpl ▸ ht)
  · have hhandles : (s'.onImpl (·.withNode (some n))).impl.handles =
        .node n ::ₘ s.impl.handles := by
      simp only [State.impl_onImpl, ContextImpl.handles, ContextImpl.withNode, himpl, hnone,
        Option.elim_some, Option.elim_none, ← Multiset.singleton_add]
      abel
    rw [hhandles, Multiset.cons_add]
    exact hF
  · exact (congrArg (·.common.listenerThread) himpl).trans hs.thread

/-- A change of the implementation that makes the handles `G` known. -/
theorem onCommon {f : Common → Common} {G : Multiset Handle} (hs : Underway s)
    (hframes : s'.context = s.context ∧ s'.impl = s.impl)
    (hF : Registry (G + (s.impl.handles + 0)) s'.heap s'.entities)
    (hhandles : (s.impl.onCommon f).handles = G + s.impl.handles)
    (hsub : ∀ p ∈ (f s.impl.common).sub, p ∈ s.impl.common.sub ∨
      p.Made ∧ s.impl.graphNode.isSome)
    (hpub : ∀ p ∈ (f s.impl.common).pub, p ∈ s.impl.common.pub ∨
      p.Made ∧ s.impl.graphNode.isSome)
    (hguard : ∀ g ∈ (f s.impl.common).listenerThreadGc,
      g ∈ s.impl.common.listenerThreadGc ∨ g.Valid)
    (hthread : (f s.impl.common).listenerThread = s.impl.common.listenerThread) :
    Underway (s'.onImpl (·.onCommon f)) := by
  obtain ⟨hcontext, himpl⟩ := hframes
  obtain ⟨h1, h2, h3, h4, h5, h6⟩ := hs.sound.channel
  have himpl' : (s'.onImpl (·.onCommon f)).impl = s.impl.onCommon f := by
    rw [State.impl_onImpl, himpl]
  have haccepts : (s'.onImpl (·.onCommon f)).accepts = s.accepts := by
    rw [State.accepts, State.validContext, State.context_onImpl, hcontext, himpl']
    rfl
  refine ⟨⟨⟨hcontext ▸ h1, ?_, ?_, ?_, ?_, ?_⟩, ?_, ?_, by simp⟩, haccepts.trans hs.accepts, ?_⟩
  all_goals rw [himpl']
  · exact h2
  · exact fun p hp => (hsub p hp).elim (h3 p) id
  · exact fun p hp => (hpub p hp).elim (h4 p) id
  · exact fun g hg => (hguard g hg).elim (h5 g) id
  · exact fun t ht => h6 t (hthread ▸ ht)
  · exact fun t ht => hs.sound.thread t (hthread ▸ ht)
  · rw [hhandles, add_assoc]
    exact hF
  · exact hthread.trans hs.thread

theorem publisher {guid : Guid} {pub : Option Publisher} {n : Node} (hs : Underway s)
    (hnode : s.impl.graphNode = some n) (hnone : s.impl.common.pub = none)
    (hguid : ∀ x ∈ s.impl.handles, x.guid ≠ some guid)
    (h : CreatesPublisher o guid (some n) s pub s') :
    Underway (s'.onImpl (·.onCommon fun c => { c with pub })) := by
  have hguid' : ∀ x ∈ s.impl.handles + 0, x.guid ≠ some guid := by simpa using hguid
  have hhandles : (s.impl.onCommon fun c => { c with pub }).handles =
      pub.elim 0 ({.publisher ·}) + s.impl.handles := by
    simp only [ContextImpl.handles, ContextImpl.onCommon, hnone, Option.elim_none, Common.waitSet]
    abel
  refine hs.onCommon ⟨h.effect.context, h.effect.impl⟩ ?_ hhandles (fun _ => .inl) ?_
    (fun _ => .inl) rfl
  · cases pub with
    | none => simpa using h.registry_none hs.sound.registry hguid'
    | some p => exact h.registry hs.sound.registry hguid' (by simp [ContextImpl.handles, hnode])
  · rintro p rfl
    have hF := h.registry hs.sound.registry hguid' (by simp [ContextImpl.handles, hnode])
    exact .inr ⟨(hF.made (.publisher p) (Multiset.mem_cons_self _ _)).valid, by simp [hnode]⟩

theorem subscription {sub : Option Subscription} {n : Node} (hs : Underway s)
    (hnode : s.impl.graphNode = some n) (hnone : s.impl.common.sub = none)
    (h : CreatesSubscription o (some n) s sub s') :
    Underway (s'.onImpl (·.onCommon fun c => { c with sub })) := by
  have hhandles : (s.impl.onCommon fun c => { c with sub }).handles =
      sub.elim 0 ({.subscription ·}) + s.impl.handles := by
    simp only [ContextImpl.handles, ContextImpl.onCommon, hnone, Option.elim_none, Common.waitSet]
    abel
  refine hs.onCommon ⟨h.effect.context, h.effect.impl⟩ ?_ hhandles ?_ (fun _ => .inl)
    (fun _ => .inl) rfl
  · cases sub with
    | none => simpa using h.registry_none hs.sound.registry
    | some p => exact h.registry hs.sound.registry (by simp [ContextImpl.handles, hnode])
  · rintro p rfl
    have hF := h.registry hs.sound.registry (by simp [ContextImpl.handles, hnode])
    exact .inr ⟨(hF.made (.subscription p) (Multiset.mem_cons_self _ _)).valid, by simp [hnode]⟩

theorem guardCondition {p : Option Parts} (hs : Underway s)
    (hnone : s.impl.common.listenerThreadGc = none)
    (h : CreatesParts o [.guardCondition, .guardConditionImpl, .rmwGuardCondition] s p s') :
    Underway (s'.onImpl (·.onCommon fun c =>
      { c with listenerThreadGc := p.map GuardCondition.ofParts })) := by
  have hhandles : (s.impl.onCommon fun c =>
      { c with listenerThreadGc := p.map GuardCondition.ofParts }).handles =
      (p.map GuardCondition.ofParts).elim 0 ({.guardCondition ·}) + s.impl.handles := by
    simp only [ContextImpl.handles, ContextImpl.onCommon, hnone, Option.elim_none, Common.waitSet]
    abel
  refine hs.onCommon ⟨h.effect.context, h.effect.impl⟩ ?_ hhandles (fun _ => .inl)
    (fun _ => .inl) ?_ rfl
  · cases p with
    | none => simpa using h.registry_none hs.sound.registry
    | some p => exact h.registry_guardCondition hs.sound.registry
  · rintro g hg
    obtain ⟨q, -, rfl⟩ := Option.mem_map.mp hg
    exact .inr (GuardCondition.valid_ofParts q)

theorem suppress (hs : Underway s) (b : Bool) : Underway (s.onImpl (·.suppress b)) :=
  ⟨hs.sound.congr hs.sound.registry rfl rfl, hs.accepts, hs.thread⟩

/-- The node and the endpoints of the channel. -/
theorem endpoints {o : Call → Outcomes} {guid : Guid} {s1 s2 : State} {n : Node} (hs : s.Fresh)
    (hnone : ∀ x ∈ s.heap.live, x.kind.isHandle = false)
    (hnode : CreatesNode (o .createNode) (some "__rmw_zzdds_graph") (some "/")
      (s.onImpl (·.suppress true)) (some n) s1)
    (hends : ∃ pub sub t1 t2,
      CreatesPublisher (o .createPublisher) guid (some n) (s1.onImpl (·.withNode (some n))) pub t1 ∧
      CreatesSubscription (o .createSubscription) (some n)
        (t1.onImpl (·.onCommon fun c => { c with pub })) sub t2 ∧
      s2 = t2.onImpl (·.onCommon fun c => { c with sub })) :
    Underway (s2.onImpl (·.suppress false)) ∧ s2.impl.common.listenerThreadGc = none := by
  obtain ⟨pub, sub, t1, t2, hpub, hsub, rfl⟩ := hends
  have hcommon : s1.impl.common = ContextImpl.new.common :=
    (congrArg (·.common) hnode.effect.impl).trans hs.common
  have hfresh : Underway (s.onImpl (·.suppress true)) :=
    suppress ⟨hs.sound hnone, hs.accepts, by simp [hs.common, ContextImpl.new]⟩ true
  have h1 := hfresh.node hs.node rfl hnode
  have hhandles : (s1.onImpl (·.withNode (some n))).impl.handles = {.node n} := by
    simp [ContextImpl.handles, ContextImpl.withNode, Common.waitSet, hcommon, ContextImpl.new]
  have hguid : ∀ x ∈ (s1.onImpl (·.withNode (some n))).impl.handles, x.guid ≠ some guid := by
    rw [hhandles]
    simp [Handle.guid]
  have h2 := h1.publisher rfl (by simp [hcommon, ContextImpl.new]) hguid hpub
  have hnode' : t1.impl.graphNode = some n := by
    rw [hpub.effect.impl]
    rfl
  have hnone' : t1.impl.common.sub = none := by
    rw [hpub.effect.impl]
    simp [hcommon, ContextImpl.new]
  have h3 := h2.subscription hnode' hnone' hsub
  refine ⟨h3.suppress false, ?_⟩
  rw [State.impl_onImpl, hsub.effect.impl, State.impl_onImpl, hpub.effect.impl]
  simp [ContextImpl.onCommon, hcommon, ContextImpl.new]

/-- The thread is the last part of the channel. -/
theorem startListener {o : Call → Outcomes} (hs : Underway s) :
    ⦃fun s' => ⌜s' = s⌝⦄ startListener o ⦃⇓ _ s' => ⌜s'.Sound 0⌝⦄ := by
  mvcgen [Lifecycle.startListener, createListener, -createListener_spec, -startListener_spec]
  next s1 h1 _ s2 h2 _ _ s3 h3 =>
    subst h1 h2 h3
    exact hs.sound.congr hs.sound.registry rfl rfl
  next s1 h1 _ s2 h2 _ _ thread _ s3 h3 waitSet s4 h4 _ s5 h5 =>
    obtain ⟨p, rfl, hp⟩ := h4
    subst h1 h2 h5
    have himpl : s4.impl = s1.impl.onCommon fun c =>
        { c with publishCallback := true, threadIsRunning := true } :=
      hp.effect.impl.trans h3.effect.impl
    have hkind : thread.kind = .thread := h3.kind thread rfl
    have hF : Registry (s1.impl.handles + 0) s3.heap s3.entities := by
      rw [h3.entities]
      refine hs.sound.registry.grow h3.effect.owns ?_
      intro x hx
      rw [h3.kind x (Option.mem_toFinset.mp hx)]
      rfl
    have hF' : Registry ((p.map WaitSet.ofParts).elim 0 ({.waitSet ·}) + (s1.impl.handles + 0))
        s4.heap s4.entities := by
      cases p with
      | none => simpa using hp.registry_none hF
      | some p => exact hp.registry_waitSet hF
    obtain ⟨c1, c2, c3, c4, c5, c6⟩ := hs.sound.channel
    have hcontext : s4.context = s1.context := hp.effect.context.trans h3.effect.context
    refine ⟨⟨hcontext ▸ c1, ?_, ?_, ?_, ?_, ?_⟩, ?_, ?_, by simp⟩
    all_goals rw [State.impl_onImpl, himpl]
    · exact c2
    · exact c3
    · exact c4
    · exact c5
    · rintro t ⟨⟩ w hw
      obtain ⟨q, -, rfl⟩ := Option.mem_map.mp hw
      exact WaitSet.valid_ofParts q
    · rintro t ⟨⟩
      exact hkind
    · rw [← add_assoc] at hF'
      refine (congrArg (Registry · s4.heap s4.entities) ?_).mp hF'
      simp only [ContextImpl.handles, ContextImpl.onCommon, Common.waitSet, hs.thread,
        Option.bind_some, Option.bind_none, Option.elim_none, zero_add]
  next s1 h1 _ s2 h2 _ _ _ hnone heq s3 h3 _ s4 h4 =>
    obtain rfl := eq_none_of_forall hnone
    subst h1 h2 h4
    have hF : Registry (s1.impl.handles + 0) s3.heap s3.entities := by
      rw [h3.entities]
      exact hs.sound.registry.same h3.effect.owns
    refine hs.sound.congr hF h3.effect.context ?_
    rw [State.impl_onImpl, h3.effect.impl]
    rfl

end Underway

/-- `finalize_graph_channel` in a context with the entities `U`. -/
theorem finalizeGraphChannel_sound {o : Call → Outcomes} {U : Multiset Handle} {s : State}
    (hs : s.Sound U) :
    ⦃fun s' => ⌜s' = s⌝⦄ finalizeGraphChannel o ⦃⇓ _ s' => ⌜s'.Sound U⌝⦄ := by
  mvcgen
  next s1 h1 ret s2 =>
    intro h2
    subst h1
    exact hs.finalized h2
  · rintro s1 rfl
    exact hs.channel
  · rintro s1 rfl
    exact hs.unowned

/-- However `initialize_graph_channel` ends, there is nothing but what it
remembers. -/
theorem initializeGraphChannel_sound {o : Call → Outcomes} {guid : Guid} {s : State}
    (hs : s.Fresh) (hnone : ∀ x ∈ s.heap.live, x.kind.isHandle = false) :
    ⦃fun s' => ⌜s' = s⌝⦄ initializeGraphChannel o guid ⦃⇓ _ s' => ⌜s'.Sound 0⌝⦄ := by
  mvcgen [initializeGraphChannel, finalizeGraphChannel_sound, Underway.startListener,
    -initializeGraphChannel_spec, -finalizeGraphChannel_spec, -startListener_spec]
  next s1 h1 hcontext =>
    subst h1
    exact hs.sound hnone
  -- an endpoint is missing
  next s1 h1 _ _ s2 h2 _ s3 hnode _ n heq s4 h4 _ s5 hends _ s6 h6 common hmissing =>
    subst h1 h2 h4 h6 heq
    exact (Underway.endpoints hs hnone hnode hends).1.sound
  -- the guard condition is missing
  next s1 h1 _ _ s2 h2 _ s3 hnode _ n heq s4 h4 _ s5 hends _ s6 h6 common _ guard s7 hguard _ _ =>
    rintro s8 rfl
    subst h1 h2 h4 h6 heq
    obtain ⟨p, rfl, hp⟩ := hguard
    obtain ⟨hbuilt, hguard⟩ := Underway.endpoints hs hnone hnode hends
    exact (hbuilt.guardCondition hguard hp).sound
  next s1 h1 _ _ s2 h2 _ s3 hnode _ n heq s4 h4 _ s5 hends _ s6 h6 common _ guard s7 hguard
      _ _ s8 h8 =>
    subst h1 h2 h4 h6 h8 heq
    obtain ⟨p, rfl, hp⟩ := hguard
    obtain ⟨hbuilt, hguard⟩ := Underway.endpoints hs hnone hnode hends
    exact hbuilt.guardCondition hguard hp
  -- there is no node
  next s1 h1 _ _ s2 h2 node s3 hcreate _ _ hnull heq s4 h4 _ s5 h5 =>
    obtain rfl := eq_none_of_forall hnull
    subst h1 h2 h4 h5 heq
    have himpl := hcreate.effect.impl
    have hsound : (s1.onImpl (·.suppress true)).Sound 0 :=
      (hs.sound hnone).congr (hs.sound hnone).registry rfl rfl
    refine hsound.congr ?_ hcreate.effect.context ?_
    · exact hcreate.registry_none hsound.registry (.inl rfl)
    · simp [ContextImpl.parts, himpl, ContextImpl.suppress, ContextImpl.withNode, hs.node]

end Lifecycle

end RmwZzdds
