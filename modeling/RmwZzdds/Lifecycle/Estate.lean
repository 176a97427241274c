import RmwZzdds.Library.Estate
import RmwZzdds.Lifecycle.Session

/-!
# Who owns what in a context

The live objects of a session are divided among what was there before
`rmw_init`, the context itself, its graph channel and the handles of its user,
with no object left over and no object claimed twice.  Every call turns only
the parts it is about.
-/

namespace RmwZzdds

open Ownership Std.Do

namespace Lifecycle

open Service (Guid)

set_option mvcgen.warning false

/-! ## The parts of a session -/

theorem Handle.object_mem (x : Handle) : x.object ∈ x.objects := by
  cases x with
  | node n => simp [Handle.object, Handle.objects, Node.objects]
  | publisher p => simp [Handle.object, Handle.objects, Publisher.objects]
  | subscription p => simp [Handle.object, Handle.objects, Subscription.objects]
  | serviceEntity role x => simp [Handle.object, Handle.objects, ServiceEntity.objects]
  | guardCondition g => simp [Handle.object, Handle.objects, GuardCondition.objects]
  | waitSet w => simp [Handle.object, Handle.objects, WaitSet.objects]

/-- The parts of some handles. -/
def estateOf (F : Multiset Handle) : Multiset (Finset Obj) := F.map Handle.objects

@[simp] theorem estateOf_zero : estateOf 0 = 0 := rfl

@[simp] theorem estateOf_add (F G : Multiset Handle) : estateOf (F + G) = estateOf F + estateOf G :=
  Multiset.map_add _ F G

@[simp] theorem estateOf_cons (x : Handle) (F : Multiset Handle) :
    estateOf (x ::ₘ F) = x.objects ::ₘ estateOf F := Multiset.map_cons _ x F

@[simp] theorem estateOf_singleton (x : Handle) : estateOf {x} = {x.objects} := rfl

theorem estateOf_endpointHandles (q : Publisher × Subscription) :
    estateOf (endpointHandles q) = {q.1.objects, q.2.objects} := rfl

/-! ## Creations -/

theorem Effect.turns {R : Kind → Prop} {s s' : State} {xs : Finset Obj} (h : Effect R s xs s') :
    s.heap.Turns 0 {xs} s'.heap := .owns h.owns

/-- A creation that fails leaves nothing. -/
theorem Effect.turns_none {R : Kind → Prop} {s s' : State} (h : Effect R s ∅ s') :
    s.heap.Turns 0 0 s'.heap := h.turns.of_empty

theorem CreatesNode.turns {o : Outcomes} {name namespace_ : Option String} {n : Option Node}
    {s s' : State} (h : CreatesNode o name namespace_ s n s') :
    s.heap.Turns 0 (estateOf (n.elim 0 ({.node ·}))) s'.heap := by
  cases n with
  | none => exact h.effect.turns_none
  | some n => exact h.effect.turns

theorem CreatesPublisher.turns {o : Outcomes} {guid : Guid} {node : Option Node}
    {p : Option Publisher} {s s' : State} (h : CreatesPublisher o guid node s p s') :
    s.heap.Turns 0 (estateOf (p.elim 0 ({.publisher ·}))) s'.heap := by
  cases p with
  | none => exact h.effect.turns_none
  | some p => exact h.effect.turns

theorem CreatesSubscription.turns {o : Outcomes} {node : Option Node}
    {p : Option Subscription} {s s' : State} (h : CreatesSubscription o node s p s') :
    s.heap.Turns 0 (estateOf (p.elim 0 ({.subscription ·}))) s'.heap := by
  cases p with
  | none => exact h.effect.turns_none
  | some p => exact h.effect.turns

theorem DestroysPublisher.turns {o : Outcomes} {p : Publisher} {r : Ret} {s s' : State}
    (h : DestroysPublisher o p s r s') : s.heap.Turns {p.objects} 0 s'.heap :=
  h.heap ▸ .free s.heap p.objects

theorem DestroysSubscription.turns {o : Outcomes} {p : Subscription} {r : Ret} {s s' : State}
    (h : DestroysSubscription o p s r s') : s.heap.Turns {p.objects} 0 s'.heap :=
  h.heap ▸ .free s.heap p.objects

theorem ReleasesEndpoints.turns {pub : Publisher} {sub : Subscription} {s s' : State}
    (h : ReleasesEndpoints pub sub s s') :
    s.heap.Turns (estateOf (endpointHandles (pub, sub))) 0 s'.heap := by
  rw [h.heap, estateOf_endpointHandles, Finset.union_comm]
  exact .free_union s.heap pub.objects sub.objects

/-- The creation of both endpoints, as the heap sees it. -/
structure MakesEndpoints (s : State) (q : Option (Publisher × Subscription)) (s' : State) :
    Prop where
  turns : s.heap.Turns 0 (estateOf (q.elim 0 endpointHandles)) s'.heap
  frames : Frames s s'
  pub : ∀ p ∈ q, p.1.Valid
  sub : ∀ p ∈ q, p.2.Valid

theorem MakesEndpoints.failed {s s' : State} (hturns : s.heap.Turns 0 0 s'.heap)
    (hframes : Frames s s') : MakesEndpoints s none s' := ⟨hturns, hframes, by simp, by simp⟩

theorem MakesEndpoints.releasable {node : Node} {pub : Publisher} {sub : Subscription}
    {s s' : State} (h : MakesEndpoints s (some (pub, sub)) s') (hnode : node.Valid)
    (hcontext : s.context.impl.isSome) : Releasable node pub sub s' :=
  ⟨hnode, h.pub _ rfl, h.sub _ rfl, h.frames.context ▸ hcontext⟩

section

variable (o : ServiceCall → Outcomes) (guid : Guid) (node : Node) (s : State)

theorem createClientEndpoints_makes (hnode : node.Valid) (hcontext : s.context.impl.isSome) :
    ⦃fun s' => ⌜s' = s⌝⦄ createClientEndpoints o guid node
    ⦃⇓ q s' => ⌜MakesEndpoints s q s'⌝⦄ := by
  mvcgen [createClientEndpoints, -createClientEndpoints_spec]
  next s1 hs _ pub _ s2 hpub _ sub _ s3 hsub =>
    subst hs
    have hboth := (hsub.turns.frame {pub.objects})
    refine ⟨?_, hpub.effect.frames.trans hsub.effect.frames, ?_, ?_⟩
    · refine hpub.turns.trans (hboth.congr (zero_add _) ?_)
      rw [Option.elim_some, Option.elim_some, estateOf_endpointHandles, add_comm]
      rfl
    · rintro q ⟨⟩
      exact hpub.valid pub rfl
    · rintro q ⟨⟩
      exact hsub.valid sub rfl
  next s1 hs _ pub _ s2 hpub _ sub _ _ s3 hsub => exact hpub.valid pub rfl
  next s1 hs _ pub _ s2 hpub _ sub _ _ s3 hsub =>
    subst hs
    rwa [hsub.effect.context, hpub.effect.context]
  next s1 hs _ pub _ s2 hpub _ sub hnone _ s3 hsub _ s4 hdestroys =>
    obtain ⟨r, hdestroys⟩ := hdestroys
    subst hs
    obtain rfl := eq_none_of_forall hnone
    have hkeep := hsub.turns.frame {pub.objects}
    refine .failed ?_ ?_
    · exact (hpub.turns.trans (hkeep.congr (zero_add _) (zero_add _))).trans hdestroys.turns
    · exact (hpub.effect.frames.trans hsub.effect.frames).trans ⟨hdestroys.context, hdestroys.impl⟩
  next s1 hs _ pub hnone _ s2 hpub =>
    subst hs
    obtain rfl := eq_none_of_forall hnone
    exact .failed hpub.turns hpub.effect.frames

theorem createServiceEndpoints_makes (hnode : node.Valid) (hcontext : s.context.impl.isSome) :
    ⦃fun s' => ⌜s' = s⌝⦄ createServiceEndpoints o guid node
    ⦃⇓ q s' => ⌜MakesEndpoints s q s'⌝⦄ := by
  mvcgen [createServiceEndpoints, -createServiceEndpoints_spec]
  next s1 hs _ sub _ s2 hsub _ pub _ s3 hpub =>
    subst hs
    have hboth := hpub.turns.frame {sub.objects}
    refine ⟨?_, hsub.effect.frames.trans hpub.effect.frames, ?_, ?_⟩
    · exact hsub.turns.trans (hboth.congr (zero_add _) rfl)
    · rintro q ⟨⟩
      exact hpub.valid pub rfl
    · rintro q ⟨⟩
      exact hsub.valid sub rfl
  next s1 hs _ sub _ s2 hsub _ pub _ _ s3 hpub => exact hsub.valid sub rfl
  next s1 hs _ sub _ s2 hsub _ pub _ _ s3 hpub =>
    subst hs
    rwa [hpub.effect.context, hsub.effect.context]
  next s1 hs _ sub _ s2 hsub _ pub hnone _ s3 hpub _ s4 hdestroys =>
    obtain ⟨r, hdestroys⟩ := hdestroys
    subst hs
    obtain rfl := eq_none_of_forall hnone
    have hkeep := hpub.turns.frame {sub.objects}
    refine .failed ?_ ?_
    · exact (hsub.turns.trans (hkeep.congr (zero_add _) (zero_add _))).trans hdestroys.turns
    · exact (hsub.effect.frames.trans hpub.effect.frames).trans ⟨hdestroys.context, hdestroys.impl⟩
  next s1 hs _ sub hnone _ s2 hsub =>
    subst hs
    obtain rfl := eq_none_of_forall hnone
    exact .failed hsub.turns hsub.effect.frames

theorem createEndpoints_makes (role : Role) (hnode : node.Valid)
    (hcontext : s.context.impl.isSome) :
    ⦃fun s' => ⌜s' = s⌝⦄ createEndpoints o guid node role
    ⦃⇓ q s' => ⌜MakesEndpoints s q s'⌝⦄ := by
  cases role with
  | client => exact createClientEndpoints_makes o guid node s hnode hcontext
  | service => exact createServiceEndpoints_makes o guid node s hnode hcontext

/-- What the creation of a client or a service does to the heap. -/
structure MakesServiceEntity (role : Role) (s : State) (x : Option ServiceEntity) (s' : State) :
    Prop where
  turns : s.heap.Turns 0 (estateOf (x.elim 0 (·.handles role))) s'.heap
  frames : Frames s s'

theorem createServiceEntity_makes (role : Role) (node : Option Node)
    (hnode : ∀ n ∈ node, n.Valid) (hcontext : s.context.impl.isSome) :
    ⦃fun s' => ⌜s' = s⌝⦄ createServiceEntity o role guid node
    ⦃⇓ x s' => ⌜MakesServiceEntity role s x s'⌝⦄ := by
  mvcgen [createServiceEntity, createEndpoints_makes, -createServiceEntity_spec,
    -createEndpoints_spec]
  next s1 hs _ =>
    subst hs
    exact ⟨.refl _ _, .refl _⟩
  next s1 hs _ _ =>
    subst hs
    exact ⟨.refl _ _, .refl _⟩
  next n heq s1 hs _ _ => exact hnode n heq
  next s1 hs _ _ =>
    subst hs
    exact hcontext
  next n heq s1 hs _ _ _ pub sub _ s2 hends _ impl _ _ s3 himpl _ x _ _ s4 hx =>
    subst hs
    have hready := hends.releasable (hnode n heq) hcontext
    exact hready.frames (himpl.effect.frames.trans hx.effect.frames)
  -- the registration fails
  next n heq s1 hs _ _ _ pub sub _ s2 hends _ object _ impl s3 himpl _ x _ _ s4 hx _ s5 hrelease
      _ s6 h6 _ s7 h7 _ s8 h8 =>
    subst hs h6 h7 h8
    have hframes := (hends.frames.trans himpl.effect.frames).trans hx.effect.frames
    have hmade := (hx.objects himpl).turns.frame (estateOf (endpointHandles (pub, sub)))
    have hgone := hrelease.turns.frame {x.objects}
    have hall := (hends.turns.trans (hmade.congr (zero_add _) (add_comm _ _))).trans
      (hgone.congr rfl (zero_add _))
    have hobjects : x.serviceName.toFinset ∪ ((some object).toFinset ∪ (some x.object).toFinset) =
        x.objects := by
      rw [ServiceEntity.objects, hx.data x rfl]
      simp [impl]
      grind
    refine ⟨?_, hframes.trans ⟨hrelease.frames.context, hrelease.frames.impl⟩⟩
    rw [State.free_free, State.free_free, hobjects]
    exact hall.trans (.free s5.heap x.objects)
  -- everything succeeds
  next n heq s1 hs _ _ _ pub sub _ s2 hends _ object _ impl s3 himpl _ x _ _ s4 hx _ s5 h5 =>
    subst hs h5
    have hmade := (hx.objects himpl).turns.frame (estateOf (endpointHandles (pub, sub)))
    have hframes := (hends.frames.trans himpl.effect.frames).trans hx.effect.frames
    refine ⟨hends.turns.trans (hmade.congr (zero_add _) ?_), hframes.trans ⟨rfl, rfl⟩⟩
    rw [Option.elim_some, ServiceEntity.handles, hx.data x rfl, estateOf_cons]
    rfl
  -- the handle is missing
  next n heq s1 hs _ _ _ pub sub _ s2 hends _ impl _ _ s3 himpl _ _ _ _ s4 hx _ s5 h5 =>
    subst hs h5
    have hready := hends.releasable (hnode n heq) hcontext
    exact hready.frames ((himpl.effect.frames.trans hx.effect.frames).trans ⟨rfl, rfl⟩)
  next n heq s1 hs _ _ _ pub sub _ s2 hends _ impl _ _ s3 himpl _ _ hnone _ s4 hx _ s5 h5 _ s6
      hrelease =>
    subst hs h5
    obtain rfl := eq_none_of_forall hnone
    have hxs : ({impl} : Finset Obj) = (some impl).toFinset ∪ ∅ := by simp
    have hundo := ((himpl.effect.trans hx.effect).undo hxs).turns_none.frame
      (estateOf (endpointHandles (pub, sub)))
    have hframes := (hends.frames.trans himpl.effect.frames).trans hx.effect.frames
    refine ⟨?_, hframes.trans ⟨hrelease.frames.context, hrelease.frames.impl⟩⟩
    exact (hends.turns.trans (hundo.congr (zero_add _) (zero_add _))).trans hrelease.turns
  -- the implementation is missing
  next n heq s1 hs _ _ _ pub sub _ s2 hends _ _ _ _ s3 himpl =>
    subst hs
    have hready := hends.releasable (hnode n heq) hcontext
    exact hready.frames himpl.effect.frames
  next n heq s1 hs _ _ _ pub sub _ s2 hends _ _ hnone _ s3 himpl _ s4 hrelease =>
    subst hs
    obtain rfl := eq_none_of_forall hnone
    have hkeep := himpl.effect.turns_none.frame (estateOf (endpointHandles (pub, sub)))
    refine ⟨?_, (hends.frames.trans himpl.effect.frames).trans hrelease.frames⟩
    exact (hends.turns.trans (hkeep.congr (zero_add _) (zero_add _))).trans hrelease.turns
  next s1 hs _ _ _ q hnone _ s2 hends =>
    subst hs
    cases q with
    | some q => exact (hnone q.1 q.2 rfl).elim
    | none => exact ⟨hends.turns, hends.frames⟩
  next s1 hs =>
    subst hs
    exact ⟨.refl _ _, .refl _⟩

end

/-- The endpoints that the node reaches are gone, the others are left. -/
theorem ReleasesReached.turns {n : NodeHandle} {impl : ServiceImpl} {s s' : State}
    (h : ReleasesReached n impl.publisher impl.subscription s s') :
    s.heap.Turns (estateOf (endpointHandles (impl.publisher, impl.subscription)))
      (estateOf (n.orphans s impl)) s'.heap := by
  rw [h.heap, estateOf_endpointHandles, NodeHandle.orphans]
  cases hpub : n.reachesPublisher s <;> cases hsub : n.reachesSubscription s
  · simp only [Bool.false_eq_true, if_false, Finset.union_empty, Heap.free_empty, estateOf_add,
      estateOf_singleton]
    exact .refl _ _
  · simp only [Bool.false_eq_true, if_false, if_true, Finset.union_empty, estateOf_add,
      estateOf_singleton, estateOf_zero]
    exact ((Heap.Turns.free s.heap impl.subscription.objects).frame
      {impl.publisher.objects}).congr (add_comm _ _) (add_comm _ _)
  · simp only [Bool.false_eq_true, if_false, if_true, Finset.empty_union, estateOf_add,
      estateOf_singleton, estateOf_zero]
    exact (Heap.Turns.free s.heap impl.publisher.objects).frame {impl.subscription.objects}
  · simp only [if_true, estateOf_add, estateOf_zero]
    rw [Finset.union_comm]
    exact .free_union s.heap impl.publisher.objects impl.subscription.objects

/-! ## The parts of a session -/

/-- The objects of the context itself, as its end gives them back. -/
def State.contextObjects (s : State) : Finset Obj :=
  s.impl.graphGuardObjects ∪ s.impl.dds.objects ∪ s.context.impl.toFinset ∪
    s.context.options.objects

/-- The objects of the channel beside those of its thread. -/
def ContextImpl.channelRest (c : ContextImpl) : Finset Obj :=
  c.common.sub.elim ∅ Subscription.objects ∪ c.common.pub.elim ∅ Publisher.objects ∪
    c.common.listenerThreadGc.elim ∅ GuardCondition.objects ∪ c.graphNode.elim ∅ Node.objects

theorem ContextImpl.channelObjects_eq (c : ContextImpl) :
    c.channelObjects = c.common.threadObjects ∪ c.channelRest := by
  simp only [channelObjects, channelRest, Finset.union_assoc]

/-- The parts of the context and of its channel. -/
def State.ownParts (s : State) : Multiset (Finset Obj) :=
  {s.contextObjects} + {s.impl.common.threadObjects} + {s.impl.channelRest}

theorem Frames.ownParts {s s' : State} (h : Frames s s') : s'.ownParts = s.ownParts := by
  simp only [State.ownParts, State.contextObjects, h.context, h.impl]

/-- The end of the channel's thread. -/
theorem State.turns_stopped {s s' : State} (hheap : s'.heap = s.heap.free s.impl.common.threadObjects)
    (hcontext : s'.contextObjects = s.contextObjects) (hthread : s'.impl.common.threadObjects = ∅)
    (hrest : s'.impl.channelRest = s.impl.channelRest) :
    s.heap.Turns s.ownParts s'.ownParts s'.heap := by
  rw [State.ownParts, State.ownParts, hcontext, hthread, hrest, hheap]
  refine ((Heap.Turns.vacate s.heap s.impl.common.threadObjects).frame
    ({s.contextObjects} + {s.impl.channelRest})).congr ?_ ?_ <;> abel

/-- The end of the whole channel. -/
theorem State.turns_finalized {s s' : State} (hheap : s'.heap = s.heap.free s.impl.channelObjects)
    (hcontext : s'.contextObjects = s.contextObjects) (hthread : s'.impl.common.threadObjects = ∅)
    (hrest : s'.impl.channelRest = ∅) : s.heap.Turns s.ownParts s'.ownParts s'.heap := by
  rw [State.ownParts, State.ownParts, hcontext, hthread, hrest, hheap,
    ContextImpl.channelObjects_eq, ← Heap.free_free]
  have hstopped := (Heap.Turns.vacate s.heap s.impl.common.threadObjects).frame
    ({s.impl.channelRest} + {s.contextObjects})
  have hgone := (Heap.Turns.vacate (s.heap.free s.impl.common.threadObjects)
    s.impl.channelRest).frame ({∅} + {s.contextObjects})
  refine (hstopped.trans (hgone.congr ?_ rfl)).congr ?_ ?_ <;> abel

/-- What `rmw_shutdown` does to a context that can be used. -/
theorem rmwShutdown_stops (s : State) (hchannel : ChannelValid s) (husable : s.context.Usable) :
    ⦃fun s' => ⌜s' = s⌝⦄ rmwShutdown false
    ⦃⇓ r s' => ⌜r = .ok ∧ Dismantles (fun _ => False) (s.onImpl ContextImpl.shutDown)
      s.impl.common.threadObjects
      (s.impl.shutDown.onCommon fun c => { c with threadIsRunning := false, listenerThread := none })
      (s.impl.common.endThread s.entities) s'⌝⦄ := by
  mvcgen [rmwShutdown]
  next s1 h1 ret hret =>
    subst h1
    exact (hret husable.checks).elim
  next s1 h1 ret _ _ s2 h2 =>
    subst h1 h2
    exact hchannel.thread
  next s1 h1 ret _ _ s2 h2 _ s3 h3 =>
    subst h1 h2
    exact ⟨trivial, h3⟩

theorem rmwInitOptionsFini_frees (options : InitOptions) (s : State)
    (hoptions : options.implementationIdentifier = some identifier) :
    ⦃fun s' => ⌜s' = s⌝⦄ rmwInitOptionsFini options ⦃⇓ _ s' => ⌜s' = s.free options.objects⌝⦄ := by
  mvcgen [rmwInitOptionsFini, -rmwInitOptionsFini_spec]
  all_goals simp_all

/-- The end of the context gives back what is its own. -/
theorem releaseImpl_frees (o : Outcomes) (s : State) (husable : s.context.Usable)
    (hdds : s.impl.dds.Owned) :
    ⦃fun s' => ⌜s' = s⌝⦄ releaseImpl o
    ⦃⇓ _ s' => ⌜s'.heap = s.heap.free s.contextObjects⌝⦄ := by
  have hall {s2 s3 s4 : State} (h2 : s2 = s.free s.impl.graphGuardObjects)
      (h3 : Dismantles (Refuses o) s2 s2.impl.dds.objects (s2.impl.withDds .nil) s2.entities s3)
      (h4 : s4 = s3.free s.context.impl.toFinset) :
      (s4.free s.context.options.objects).heap = s.heap.free s.contextObjects := by
    subst h2 h4
    simp only [State.free, h3.heap, Heap.free_free, State.contextObjects, Finset.union_assoc]
  mvcgen [releaseImpl, rmwInitOptionsFini_frees, -releaseImpl_spec, -rmwInitOptionsFini_spec]
  next s1 h1 _ _ s2 h2 =>
    subst h1 h2
    exact hdds
  next s1 h1 context _ _ _ _ _ _ _ _ _ =>
    subst h1
    exact husable.options
  next s1 h1 _ _ s2 h2 _ s3 h3 _ s4 h4 _ s5 h5 _ _ s6 h6 =>
    subst h1 h5 h6
    exact hall h2 h3 h4
  next s1 h1 _ _ s2 h2 _ s3 h3 _ s4 h4 _ s5 h5 _ _ s6 h6 =>
    subst h1 h5 h6
    exact hall h2 h3 h4

theorem releaseImpl_ends (o : Outcomes) (s : State) (husable : s.context.Usable)
    (hdds : s.impl.dds.Owned) :
    ⦃fun s' => ⌜s' = s⌝⦄ releaseImpl o
    ⦃⇓ _ s' => ⌜s'.heap = s.heap.free s.contextObjects ∧ s'.context.impl = none⌝⦄ := by
  rintro _ rfl
  exact ⟨releaseImpl_frees o _ husable hdds _ rfl, (releaseImpl_spec o _ husable _ rfl).2⟩

/-- How a call of `rmw_context_fini` may go: the channel has ended, and the context
is still there or has given back what is its own. -/
structure EndsContext (o : Call → Outcomes) (s s' : State) : Prop where
  channel : ∃ ret t, FinalizesChannel o s ret t ∧
    (s' = t ∨ t.refusesFini = false ∧ s'.heap = t.heap.free t.contextObjects ∧
      s'.context.impl = none)

theorem rmwContextFini_ends (o : Call → Outcomes) (dds : Outcomes) {U : Multiset Handle}
    (s : State) (hs : s.Sound U) (husable : s.context.Usable) (hdds : s.impl.dds.Owned) :
    ⦃fun s' => ⌜s' = s⌝⦄ rmwContextFini o dds false ⦃⇓ _ s' => ⌜EndsContext o s s'⌝⦄ := by
  have hkept {ret : Ret} {t : State} (h : FinalizesChannel o s ret t) :
      t.context.Usable ∧ t.impl.dds.Owned := by
    rw [h.releases.context, h.impl]
    exact ⟨husable, hdds⟩
  mvcgen [rmwContextFini, releaseImpl_ends, -rmwContextFini_spec, -releaseImpl_spec]
  next s1 h1 ret hret =>
    subst h1
    exact (hret husable.checks).elim
  next s1 h1 ret _ =>
    subst h1
    exact hs.channel
  next s1 h1 ret _ =>
    subst h1
    exact hs.unowned
  next s1 h1 ret _ graphRet _ s2 h2 =>
    subst h1
    exact ⟨graphRet, s2, h2, .inl rfl⟩
  next s1 h1 ret _ graphRet _ s2 h2 _ =>
    subst h1
    exact ⟨graphRet, s2, h2, .inl rfl⟩
  next s1 h1 ret _ graphRet _ s2 h2 _ =>
    subst h1
    exact (hkept h2).1
  next s1 h1 ret _ graphRet _ s2 h2 _ =>
    subst h1
    exact (hkept h2).2
  next s1 h1 ret _ graphRet _ s2 h2 haccepts r s3 =>
    intro hheap hgone
    subst h1
    exact ⟨graphRet, s2, h2, .inr ⟨Bool.eq_false_of_not_eq_true haccepts, hheap, hgone⟩⟩

/-! ## The beginning of a context -/

/-- The thread of the channel has objects of its own. -/
def ContextImpl.Parted (c : ContextImpl) : Prop := Disjoint c.common.threadObjects c.channelRest

theorem ContextImpl.Parted.of_none {c : ContextImpl} (h : c.common.listenerThread = none) :
    c.Parted := by
  simp [ContextImpl.Parted, Common.threadObjects, h]

theorem FinalizesChannel.parted {o : Call → Outcomes} {s s' : State} {r : Ret}
    (h : FinalizesChannel o s r s') : s'.impl.Parted :=
  .of_none (by rw [h.impl]; rfl)

/-- The thread starts in a channel that is there already. -/
theorem StartsListener.parted {o : Call → Outcomes} {s s1 s2 : State} {ok : Bool}
    (h : StartsListener o s1 ok s2) (hbuilt : Building o s s1) : s2.impl.Parted := by
  have hrest : s2.impl.channelRest = s1.impl.channelRest := by rw [h.impl]; rfl
  have hlive : s1.impl.channelRest ⊆ s1.heap.live := by
    rw [hbuilt.account.owns.live, ContextImpl.channelObjects_eq]
    exact Finset.subset_union_right.trans Finset.subset_union_right
  rw [ContextImpl.Parted, hrest]
  exact (h.account.owns.disjoint.mono_left hlive).symm

theorem initializeGraphChannel_parted (o : Call → Outcomes) (guid : Guid) (s : State)
    (hs : s.Fresh) :
    ⦃fun s' => ⌜s' = s⌝⦄ initializeGraphChannel o guid ⦃⇓ _ s' => ⌜s'.impl.Parted⌝⦄ := by
  mvcgen [initializeGraphChannel, -initializeGraphChannel_spec]
  next s1 h1 hnone =>
    subst h1
    have hsome := hs.context
    simp_all
  next s1 h1 _ _ s2 h2 _ s3 hnode _ n heq s4 h4 _ s5 hends _ s6 h6 common hmissing =>
    subst h1 h2 h4 heq
    exact (EndpointsBuilt.of_creates hs hnode hends h6).building.valid
  next s1 h1 _ _ s2 h2 _ s3 hnode _ n heq s4 h4 _ s5 hends _ s6 h6 common hmissing =>
    subst h1 h2 h4 heq
    exact fun n _ => (EndpointsBuilt.of_creates hs hnode hends h6).building.dismantled n
  next => exact fun hfinal => hfinal.parted
  next => exact fun hfinal => hfinal.parted
  next s1 h1 _ _ s2 h2 _ s3 hnode _ n heq s4 h4 _ s5 hends _ s6 h6 common hpresent guard s7 hguard
      _ hnone =>
    intro s8 h8
    subst h1 h2 h4 heq
    have hends := EndpointsBuilt.of_creates hs hnode hends h6
    exact (hends.guardBuilt hs.accepts hguard h8).building.valid
  next s1 h1 _ _ s2 h2 _ s3 hnode _ n heq s4 h4 _ s5 hends _ s6 h6 common hpresent guard s7 hguard
      _ hnone =>
    intro s8 h8
    subst h1 h2 h4 heq
    have hends := EndpointsBuilt.of_creates hs hnode hends h6
    exact fun n _ => (hends.guardBuilt hs.accepts hguard h8).building.dismantled n
  next s1 h1 _ _ s2 h2 _ s3 hnode _ n heq s4 h4 _ s5 hends _ s6 h6 common hpresent guard s7 hguard
      _ hsome s8 h8 =>
    subst h1 h2 h4 heq
    have hends := EndpointsBuilt.of_creates hs hnode hends h6
    exact (hends.guardBuilt hs.accepts hguard h8).building.accepts hs.accepts
  next s1 h1 _ _ s2 h2 _ s3 hnode _ n heq s4 h4 _ s5 hends _ s6 h6 common hpresent guard s7 hguard
      _ hsome s8 h8 =>
    subst h1 h2 h4 heq
    have hends := EndpointsBuilt.of_creates hs hnode hends h6
    exact (hends.guardBuilt hs.accepts hguard h8).thread
  next s1 h1 _ _ s2 h2 _ s3 hnode _ n heq s4 h4 _ s5 hends _ s6 h6 common hpresent guard s7 hguard
      _ hsome s8 h8 started hfail s9 hstart =>
    subst h1 h2 h4 heq
    have hends := EndpointsBuilt.of_creates hs hnode hends h6
    have hbuilt := hends.guardBuilt hs.accepts hguard h8
    exact (hbuilt.building.listener hbuilt.thread hstart).valid
  next s1 h1 _ _ s2 h2 _ s3 hnode _ n heq s4 h4 _ s5 hends _ s6 h6 common hpresent guard s7 hguard
      _ hsome s8 h8 started hfail s9 hstart =>
    subst h1 h2 h4 heq
    have hends := EndpointsBuilt.of_creates hs hnode hends h6
    have hbuilt := hends.guardBuilt hs.accepts hguard h8
    exact fun n _ => (hbuilt.building.listener hbuilt.thread hstart).dismantled n
  next hfinal => exact hfinal.parted
  -- the channel works
  next s1 h1 _ _ s2 h2 _ s3 hnode _ n heq s4 h4 _ s5 hends _ s6 h6 common hpresent guard s7 hguard
      _ hsome s8 h8 started hok s9 hstart =>
    subst h1 h2 h4 heq
    have hends := EndpointsBuilt.of_creates hs hnode hends h6
    exact hstart.parted (hends.guardBuilt hs.accepts hguard h8).building
  -- there is no node
  next s1 h1 _ _ s2 h2 node s3 hcreate _ _ hnone heq s4 h4 _ s5 h5 =>
    subst h1 h2 h4 h5
    refine .of_none ?_
    simp [hcreate.effect.impl, ContextImpl.suppress, ContextImpl.withNode, hs.common,
      ContextImpl.new]

/-- The parts of a context that `rmw_init` returns. -/
structure BeginsContext (s s' : State) : Prop where
  dds : s'.impl.dds.Owned
  estate : s.heap.Turns 0 s'.ownParts s'.heap

/-- A channel in a context of which everything else is there. -/
theorem BeginsContext.of_channel {o : Call → Outcomes} {copied : InitOptions} {impl : Obj}
    {r : Ret} {s s1 s2 : State} (h : Guarded o s (copied.objects ∪ {impl}) s1)
    (hcontext : s1.context.options = copied ∧ s1.context.impl = some impl)
    (hchannel : InitializesChannel o s1 r s2) (hparted : s2.impl.Parted) :
    BeginsContext s s2 := by
  have hdds : s2.impl.dds = s1.impl.dds := congrArg (·.dds) hchannel.rest
  have hguard : s2.impl.graphGuardObjects = s1.impl.graphGuardObjects :=
    congrArg (·.graphGuardObjects) hchannel.rest
  have hobjects : s2.contextObjects =
      copied.objects ∪ {impl} ∪ s1.impl.dds.objects ∪ s1.impl.graphGuardObjects := by
    rw [State.contextObjects, hdds, hguard, hchannel.context, hcontext.1, hcontext.2]
    ext x
    simp only [Finset.mem_union, Option.toFinset_some]
    tauto
  have hctx : s.heap.Turns 0 {s2.contextObjects} s1.heap := hobjects ▸ .owns h.account.owns
  have hall := (Heap.Turns.owns hchannel.account.owns).frame {s2.contextObjects}
  refine ⟨hdds ▸ h.owned, fun E hE => ?_⟩
  have hafter := hctx.trans (hall.congr (zero_add _) rfl) E hE
  rw [ContextImpl.channelObjects_eq, add_assoc, Multiset.singleton_add,
    Heap.Estate.cons_union hparted] at hafter
  convert hafter using 1
  rw [State.ownParts, ← Multiset.singleton_add, ← Multiset.singleton_add]
  abel

theorem initializeGraphChannel_begins (o : Call → Outcomes) (guid : Guid) (s : State)
    (hs : s.Fresh) :
    ⦃fun s' => ⌜s' = s⌝⦄ initializeGraphChannel o guid
    ⦃⇓ r s' => ⌜InitializesChannel o s r s' ∧ s'.impl.Parted⌝⦄ := by
  rintro _ rfl
  exact ⟨initializeGraphChannel_spec o guid _ hs _ rfl, initializeGraphChannel_parted o guid _ hs _ rfl⟩

theorem initializeContext_begins (o : Call → Outcomes) (error : CopyError) (guid : Guid)
    (options : InitOptions) (domain : ℕ) (s : State) :
    ⦃fun s' => ⌜s' = s⌝⦄ initializeContext o error guid options domain
    ⦃⇓ r s' => ⌜r = .ok → BeginsContext s s'⌝⦄ := by
  mvcgen [initializeContext, initializeGraphChannel_begins, releaseContext_runs,
    -initializeContext_spec, -initializeGraphChannel_spec, -releaseContext_spec]
  next s1 h1 _ ret _ s2 h2 => exact fun hok => (h2.error ret rfl hok).elim
  next s1 h1 _ copied _ s2 h2 _ impl _ s3 h3 _ s4 h4 =>
    subst h4
    rfl
  next => rintro ⟨⟩
  next => rintro ⟨⟩
  next => rintro ⟨⟩
  next s1 h1 _ copied _ s2 h2 _ impl _ s3 h3 _ s4 h4 ok _ _ s5 h5 _ s6 h6 _ _ s7 h7 _ s8 h8 =>
    subst h1 h4 h6 h8
    obtain ⟨-, hcontext, ⟨native, guardImpl, handle, himpl⟩, hentities, -⟩ := h7
    exact (Constructed.of_creates h2 h3 h5).fresh hcontext himpl hentities
  next hfailed _ _ _ _ _ _ _ _ _ _ => exact fun hok => (hfailed hok).elim
  -- the channel is there, as far as its result says
  next s1 h1 _ copied _ s2 h2 _ impl _ s3 h3 _ s4 h4 ok _ _ s5 h5 _ s6 h6 _ _ s7 h7 _ s8 h8 ret _
      s9 h9 =>
    subst h1 h4 h6 h8
    obtain ⟨hguard, hcontext, ⟨native, guardImpl, handle, himpl⟩, hentities, -⟩ := h7
    have hlinked := (Constructed.of_creates h2 h3 h5).linked hguard himpl
    refine .of_channel hlinked ⟨?_, ?_⟩ h9.1 h9.2
    · rw [State.context_onImpl, hcontext]
      rfl
    · rw [State.context_onImpl, hcontext]
      rfl
  next => rintro ⟨⟩

theorem rmwInit_begins (o : Call → Outcomes) (error : CopyError) (guid : Guid)
    (options : Option InitOptions) (contextIsNull : Bool) (s : State) :
    ⦃fun s' => ⌜s' = s⌝⦄ rmwInit o error guid options contextIsNull
    ⦃⇓ r s' => ⌜r = .ok → BeginsContext s s'⌝⦄ := by
  mvcgen [rmwInit, initializeContext_begins, -rmwInit_spec, -initializeContext_spec]
  next ret s1 h1 hchecks =>
    intro hok
    exact (initChecks_ne_ok hchecks hok).elim

end Lifecycle

end RmwZzdds
