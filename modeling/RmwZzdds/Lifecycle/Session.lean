import RmwZzdds.Lifecycle.Beginning
import RmwZzdds.Lifecycle.ServiceEntity

/-!
# Runs of calls on a context

A session is what the user of one context sees of it: the state of the context
and the handles that the user holds.  It begins with `rmw_init`, and goes on
with calls in any order, in which any step may fail.

The user may call whatever the handles allow.  A call that rejects its
arguments leaves the handle with the user, and a call that frees a handle takes
it away, whatever the call returns.
-/

namespace RmwZzdds

open Ownership Std.Do

namespace Lifecycle

open Service (Guid)

set_option mvcgen.warning false

/-! ## Calls -/

/-- A call on the context, with the outcomes of its steps. -/
inductive Request where
  | createNode (o : Outcomes) (name namespace_ : Option String)
  | destroyNode (node : Option Node)
  | createPublisher (o : Outcomes) (guid : Guid) (node : Option Node)
  | destroyPublisher (o : Outcomes) (node : Option NodeHandle) (publisher : Option Publisher)
  | createSubscription (o : Outcomes) (node : Option Node)
  | destroySubscription (o : Outcomes) (node : Option NodeHandle)
      (subscription : Option Subscription)
  | createServiceEntity (role : Role) (o : ServiceCall → Outcomes) (guid : Guid)
      (node : Option Node)
  | destroyServiceEntity (role : Role) (o : ServiceCall → Outcomes) (node : Option NodeHandle)
      (x : Option ServiceEntity)
  | createGuardCondition (o : Outcomes)
  | destroyGuardCondition (guard : Option GuardCondition)
  | createWaitSet (o : Outcomes)
  | destroyWaitSet (waitSet : Option WaitSet)
  | shutdown
  | contextFini (o : Call → Outcomes) (dds : Outcomes)

/-- The call, with the handle it returns. -/
def perform : Request → RmwM (Option Handle)
  | .createNode o name namespace_ => (·.map .node) <$> rmwCreateNode o name namespace_
  | .destroyNode node => (fun _ => none) <$> rmwDestroyNode node
  | .createPublisher o guid node => (·.map .publisher) <$> rmwCreatePublisher o guid node
  | .destroyPublisher o node p => (fun _ => none) <$> rmwDestroyPublisherAt o node p
  | .createSubscription o node => (·.map .subscription) <$> rmwCreateSubscription o node
  | .destroySubscription o node p => (fun _ => none) <$> rmwDestroySubscriptionAt o node p
  | .createServiceEntity .client o guid node =>
    (·.map (.serviceEntity .client)) <$> rmwCreateClient o guid node
  | .createServiceEntity .service o guid node =>
    (·.map (.serviceEntity .service)) <$> rmwCreateService o guid node
  | .destroyServiceEntity .client o node x => (fun _ => none) <$> rmwDestroyClient o node x
  | .destroyServiceEntity .service o node x => (fun _ => none) <$> rmwDestroyService o node x
  | .createGuardCondition o => (·.map .guardCondition) <$> rmwCreateGuardCondition o
  | .destroyGuardCondition guard => (fun _ => none) <$> rmwDestroyGuardCondition guard
  | .createWaitSet o => (·.map .waitSet) <$> rmwCreateWaitSet o
  | .destroyWaitSet waitSet => (fun _ => none) <$> rmwDestroyWaitSet waitSet
  | .shutdown => (fun _ => none) <$> rmwShutdown false
  | .contextFini o dds => (fun _ => none) <$> rmwContextFini o dds false

/-! ## Sessions -/

/-- A context with the handles that its user holds. -/
structure Session where
  state : State
  held : Multiset Handle

/-- The session after a call. -/
def Session.next (σ : Session) (request : Request) : Session :=
  let (created, state) := (perform request).run σ.state
  { state, held := (created.elim 0 ({·}) + σ.held).filter fun x => x.object ∈ state.heap.live }

/-- What the user must keep to: the handles are the user's own, zzdds does not
give a GUID twice, and the graph update of a new node does not throw. -/
def Request.Admissible (σ : Session) : Request → Prop
  | .createNode o _ _ => GraphReturns o σ.state
  | .destroyNode node => ∀ n ∈ node, .node n ∈ σ.held
  | .createPublisher _ guid node =>
    guid ∉ σ.state.entities.localPublicationGuids ∧ ∀ n ∈ node, .node n ∈ σ.held
  | .destroyPublisher _ _ publisher => ∀ p ∈ publisher, .publisher p ∈ σ.held
  | .createSubscription _ node => ∀ n ∈ node, .node n ∈ σ.held
  | .destroySubscription _ _ subscription => ∀ p ∈ subscription, .subscription p ∈ σ.held
  | .createServiceEntity _ _ guid node =>
    guid ∉ σ.state.entities.localPublicationGuids ∧ ∀ n ∈ node, .node n ∈ σ.held
  | .destroyServiceEntity role _ _ x => ∀ y ∈ x, .serviceEntity role y ∈ σ.held
  | .createGuardCondition _ => True
  | .destroyGuardCondition guard => ∀ g ∈ guard, .guardCondition g ∈ σ.held
  | .createWaitSet _ => True
  | .destroyWaitSet waitSet => ∀ w ∈ waitSet, .waitSet w ∈ σ.held
  | .shutdown => True
  | .contextFini _ _ => True

/-- The session after `rmw_init` has returned the context. -/
def Session.Begins (σ : Session) : Prop :=
  ∃ o error guid options contextIsNull s, s.Bare ∧
    (rmwInit o error guid options contextIsNull).run s = (.ok, σ.state) ∧ σ.held = 0

/-- The sessions that come about, up to the end of the context. -/
inductive Session.Reachable : Session → Prop
  | begin {σ : Session} : σ.Begins → σ.Reachable
  | next {σ : Session} {request : Request} : σ.Reachable → request.Admissible σ →
    (σ.next request).state.context.impl.isSome → (σ.next request).Reachable

/-! ## What a session owns -/

/-- A handle with the endpoints in it. -/
def Handle.parts : Handle → Multiset Handle
  | .serviceEntity role x => x.handles role
  | x => {x}

theorem Handle.mem_parts (x : Handle) : x ∈ x.parts := by
  cases x with
  | serviceEntity role x => exact Multiset.mem_cons_self _ _
  | _ => exact Multiset.mem_singleton_self _

/-- The entities of a session are those of the channel, of the user, and the
endpoints of former clients and services that nobody holds. -/
structure Session.Sound (σ : Session) (orphans : Multiset Handle) : Prop where
  sound : σ.state.Sound (σ.held.bind Handle.parts + orphans)
  usable : σ.state.context.Usable

namespace State.Sound

variable {U U' : Multiset Handle} {s s' : State}

/-- A call that changes the entities of the user. -/
theorem change (hs : s.Sound U) (hframes : Frames s s')
    (hF : Registry (s.impl.handles + U') s'.heap s'.entities)
    (hseparate : ∀ x ∈ U', ∀ n ∈ s.impl.graphNode, x.recordedNode ≠ some n.object) :
    s'.Sound U' := by
  obtain ⟨hcontext, himpl⟩ := hframes
  obtain ⟨h1, h2, h3, h4, h5, h6⟩ := hs.channel
  refine ⟨⟨hcontext ▸ h1, ?_, ?_, ?_, ?_, ?_⟩, ?_, ?_, ?_⟩
  all_goals rw [himpl]
  · exact h2
  · exact h3
  · exact h4
  · exact h5
  · exact h6
  · exact hs.thread
  · exact hF
  · exact hseparate

/-- A call that adds entities of the user. -/
theorem grow {G : Multiset Handle} (hs : s.Sound U) (hframes : Frames s s')
    (hF : Registry (G + (s.impl.handles + U)) s'.heap s'.entities)
    (hseparate : ∀ x ∈ G, ∀ n ∈ s.impl.graphNode, x.recordedNode ≠ some n.object) :
    s'.Sound (G + U) := by
  refine hs.change hframes ?_ ?_
  · rwa [add_left_comm] at hF
  · intro x hx
    rcases Multiset.mem_add.mp hx with hx | hx
    · exact hseparate x hx
    · exact hs.separate x hx

/-- A node of the user is not that of the channel. -/
theorem node_ne (hs : s.Sound U) {n m : Node} (hn : .node n ∈ U) (hm : m ∈ s.impl.graphNode) :
    n.object ≠ m.object := by
  have hnodup := hs.registry.lists.nodup
  rw [Multiset.map_add, Multiset.nodup_add] at hnodup
  have hmine : Handle.node m ∈ s.impl.handles := by
    simp [ContextImpl.handles, Option.mem_def.mp hm]
  intro heq
  have hmem : m.object ∈ U.map Handle.object := heq ▸ Multiset.mem_map_of_mem Handle.object hn
  exact Multiset.disjoint_left.mp hnodup.2.2 (Multiset.mem_map_of_mem Handle.object hmine) hmem

theorem mem_live (hs : s.Sound U) {x : Handle} (hx : x ∈ U) : x.object ∈ s.heap.live :=
  hs.registry.lists.mem_live (Multiset.mem_add.mpr (.inr hx))

end State.Sound

/-- A node that something refers to is not destroyed. -/
theorem rmwDestroyNode_owned (node : Node) (s : State)
    (howns : nodeOwnsEntities s.entities node = true) :
    ⦃fun s' => ⌜s' = s⌝⦄ rmwDestroyNode (some node) ⦃⇓ r s' => ⌜r ≠ .ok ∧ s' = s⌝⦄ := by
  mvcgen [rmwDestroyNode, -rmwDestroyNode_spec]
  all_goals simp_all

theorem Session.mem_parts {σ : Session} {x : Handle} (hx : x ∈ σ.held)
    (orphans : Multiset Handle) : x ∈ σ.held.bind Handle.parts + orphans :=
  Multiset.mem_add.mpr (.inl (Multiset.mem_bind.mpr ⟨x, hx, x.mem_parts⟩))

/-- The run of a call with another result. -/
theorem run_map {α β : Type} {x : RmwM α} {f : α → β} {a : α} {s s' : State}
    (h : x.run s = (a, s')) : (f <$> x).run s = (f a, s') := by
  rw [StateT.run_map, h]
  rfl

namespace Session.Sound

variable {σ : Session} {orphans orphans' : Multiset Handle} {request : Request} {s' : State}

/-- A call that returns a new handle, or nothing. -/
theorem created {x : Option Handle} (h : σ.Sound orphans)
    (hrun : (perform request).run σ.state = (x, s'))
    (hsound : s'.Sound (x.elim 0 Handle.parts + (σ.held.bind Handle.parts + orphans)))
    (hcontext : s'.context = σ.state.context) : (σ.next request).Sound orphans := by
  have hheld : (x.elim 0 ({·}) + σ.held).bind Handle.parts + orphans =
      x.elim 0 Handle.parts + (σ.held.bind Handle.parts + orphans) := by
    cases x <;> simp [add_assoc]
  have hnext : σ.next request = ⟨s', x.elim 0 ({·}) + σ.held⟩ := by
    rw [Session.next, hrun]
    simp only [Session.mk.injEq, true_and]
    refine Multiset.filter_eq_self.mpr fun y hy => hsound.mem_live ?_
    rw [← hheld]
    exact Multiset.mem_add.mpr (.inl (Multiset.mem_bind.mpr ⟨y, hy, y.mem_parts⟩))
  rw [hnext]
  exact ⟨hheld ▸ hsound, hcontext ▸ h.usable⟩

/-- A call that rejects its arguments. -/
theorem rejected (h : σ.Sound orphans) (hrun : (perform request).run σ.state = (none, σ.state)) :
    (σ.next request).Sound orphans :=
  h.created hrun (by simpa using h.sound) rfl

/-- A call that frees a handle. -/
theorem destroyed {x : Handle} {held : Multiset Handle} (h : σ.Sound orphans)
    (hheld : σ.held = x ::ₘ held) (hrun : (perform request).run σ.state = (none, s'))
    (hsound : s'.Sound (held.bind Handle.parts + orphans')) (hdead : x.object ∉ s'.heap.live)
    (hcontext : s'.context = σ.state.context) : (σ.next request).Sound orphans' := by
  have hnext : σ.next request = ⟨s', held⟩ := by
    rw [Session.next, hrun]
    simp only [Session.mk.injEq, true_and, Option.elim_none, zero_add, hheld]
    rw [Multiset.filter_cons_of_neg (p := fun y : Handle => y.object ∈ s'.heap.live) _ hdead]
    refine Multiset.filter_eq_self.mpr fun y hy => hsound.mem_live ?_
    exact Multiset.mem_add.mpr (.inl (Multiset.mem_bind.mpr ⟨y, hy, y.mem_parts⟩))
  rw [hnext]
  exact ⟨hsound, hcontext ▸ h.usable⟩

/-! ## Creations -/

/-- A creation for a node of the user, if for any. -/
theorem creates {x : Option Handle} (h : σ.Sound orphans)
    (hrun : (perform request).run σ.state = (x, s')) (hframes : Frames σ.state s')
    (hF : Registry (x.elim 0 Handle.parts +
      (σ.state.impl.handles + (σ.held.bind Handle.parts + orphans))) s'.heap s'.entities)
    (hnode : ∀ y ∈ x, ∀ z ∈ y.parts, ∀ n ∈ z.recordedNode,
      ∃ m, .node m ∈ σ.held ∧ m.object = n) : (σ.next request).Sound orphans := by
  refine h.created hrun (h.sound.grow hframes hF ?_) hframes.context
  intro z hz m hm hrecorded
  cases x with
  | none => simp at hz
  | some y =>
    obtain ⟨n, hn, heq⟩ := hnode y rfl z hz m.object hrecorded
    exact h.sound.node_ne (Session.mem_parts hn orphans) hm heq

theorem createNode {o : Outcomes} {name namespace_ : Option String} (h : σ.Sound orphans)
    (hreturns : GraphReturns o σ.state) :
    (σ.next (.createNode o name namespace_)).Sound orphans := by
  have hspec := run_of_spec (rmwCreateNode_spec o name namespace_ σ.state)
  rcases hrun : (rmwCreateNode o name namespace_).run σ.state with ⟨node, s'⟩
  rw [hrun] at hspec
  refine h.creates (run_map hrun) hspec.effect.frames ?_ ?_
  · cases node with
    | none => simpa using hspec.registry_none h.sound.registry hreturns
    | some n => simpa [Handle.parts] using hspec.registry h.sound.registry hreturns
  · cases node with
    | none => simp
    | some n => simp [Handle.parts, Handle.recordedNode]

/-- A GUID that zzdds has not given yet. -/
theorem guid_new (h : σ.Sound orphans) {guid : Guid}
    (hguid : guid ∉ σ.state.entities.localPublicationGuids) :
    ∀ x ∈ σ.state.impl.handles + (σ.held.bind Handle.parts + orphans), x.guid ≠ some guid :=
  fun x hx heq => hguid ((h.sound.registry.tallies.guids guid).mpr ⟨x, hx, heq⟩)

theorem mem_all (_ : σ.Sound orphans) {x : Handle} (hx : x ∈ σ.held) :
    x ∈ σ.state.impl.handles + (σ.held.bind Handle.parts + orphans) :=
  Multiset.mem_add.mpr (.inr (Session.mem_parts hx orphans))

theorem createPublisher {o : Outcomes} {guid : Guid} {node : Option Node} (h : σ.Sound orphans)
    (hguid : guid ∉ σ.state.entities.localPublicationGuids) (hnode : ∀ n ∈ node, .node n ∈ σ.held) :
    (σ.next (.createPublisher o guid node)).Sound orphans := by
  have hspec := run_of_spec (rmwCreatePublisher_spec o guid node σ.state)
  rcases hrun : (rmwCreatePublisher o guid node).run σ.state with ⟨p, s'⟩
  rw [hrun] at hspec
  have hnew := h.guid_new hguid
  cases p with
  | none =>
    refine h.creates (run_map hrun) hspec.effect.frames ?_ (by simp)
    simpa using hspec.registry_none h.sound.registry hnew
  | some p =>
    cases node with
    | none =>
      have hcreated := hspec.isSome
      simp [publisherCreated] at hcreated
    | some n =>
      refine h.creates (run_map hrun) hspec.effect.frames ?_ ?_
      · simpa [Handle.parts] using
          hspec.registry h.sound.registry hnew (h.mem_all (hnode n rfl))
      · rintro y ⟨⟩ z hz m hm
        simp only [Handle.parts, Multiset.mem_singleton] at hz
        subst hz
        exact ⟨n, hnode n rfl, Option.mem_unique hspec.recordedNode hm⟩

theorem createSubscription {o : Outcomes} {node : Option Node} (h : σ.Sound orphans)
    (hnode : ∀ n ∈ node, .node n ∈ σ.held) :
    (σ.next (.createSubscription o node)).Sound orphans := by
  have hspec := run_of_spec (rmwCreateSubscription_spec o node σ.state)
  rcases hrun : (rmwCreateSubscription o node).run σ.state with ⟨p, s'⟩
  rw [hrun] at hspec
  cases p with
  | none =>
    refine h.creates (run_map hrun) hspec.effect.frames ?_ (by simp)
    simpa using hspec.registry_none h.sound.registry
  | some p =>
    cases node with
    | none =>
      have hcreated := hspec.isSome
      simp [subscriptionCreated] at hcreated
    | some n =>
      refine h.creates (run_map hrun) hspec.effect.frames ?_ ?_
      · simpa [Handle.parts] using hspec.registry h.sound.registry (h.mem_all (hnode n rfl))
      · rintro y ⟨⟩ z hz m hm
        simp only [Handle.parts, Multiset.mem_singleton] at hz
        subst hz
        exact ⟨n, hnode n rfl, Option.mem_unique hspec.recordedNode hm⟩

theorem createGuardCondition {o : Outcomes} (h : σ.Sound orphans) :
    (σ.next (.createGuardCondition o)).Sound orphans := by
  obtain ⟨p, hp, hspec⟩ := run_of_spec (rmwCreateGuardCondition_spec o σ.state)
  rcases hrun : (rmwCreateGuardCondition o).run σ.state with ⟨guard, s'⟩
  rw [hrun] at hp hspec
  subst hp
  refine h.creates (run_map hrun) hspec.effect.frames ?_ ?_
  · cases p with
    | none => simpa using hspec.registry_none h.sound.registry
    | some p => simpa [Handle.parts] using hspec.registry_guardCondition h.sound.registry
  · cases p <;> simp [Handle.parts, Handle.recordedNode]

theorem createWaitSet {o : Outcomes} (h : σ.Sound orphans) :
    (σ.next (.createWaitSet o)).Sound orphans := by
  obtain ⟨p, hp, hspec⟩ := run_of_spec (rmwCreateWaitSet_spec o σ.state)
  rcases hrun : (rmwCreateWaitSet o).run σ.state with ⟨waitSet, s'⟩
  rw [hrun] at hp hspec
  subst hp
  refine h.creates (run_map hrun) hspec.effect.frames ?_ ?_
  · cases p with
    | none => simpa using hspec.registry_none h.sound.registry
    | some p => simpa [Handle.parts] using hspec.registry_waitSet h.sound.registry
  · cases p <;> simp [Handle.parts, Handle.recordedNode]

theorem perform_createServiceEntity (role : Role) (o : ServiceCall → Outcomes) (guid : Guid)
    (node : Option Node) : perform (.createServiceEntity role o guid node) =
      (·.map (.serviceEntity role)) <$> Lifecycle.createServiceEntity o role guid node := by
  cases role <;> rfl

theorem createServiceEntity {role : Role} {o : ServiceCall → Outcomes} {guid : Guid}
    {node : Option Node} (h : σ.Sound orphans)
    (hguid : guid ∉ σ.state.entities.localPublicationGuids) (hnode : ∀ n ∈ node, .node n ∈ σ.held) :
    (σ.next (.createServiceEntity role o guid node)).Sound orphans := by
  have hspec := run_of_spec (createServiceEntity_spec o role guid node σ.state h.sound.registry
    (h.guid_new hguid) (fun n hn => h.mem_all (hnode n hn)) h.sound.channel.context)
  rcases hrun : (Lifecycle.createServiceEntity o role guid node).run σ.state with ⟨x, s'⟩
  rw [hrun] at hspec
  have hrun' : (perform (.createServiceEntity role o guid node)).run σ.state =
      (x.map (.serviceEntity role), s') := by
    rw [perform_createServiceEntity]
    exact run_map hrun
  refine h.creates hrun' hspec.frames ?_ ?_
  · cases x with
    | none => simpa using hspec.registry
    | some x => simpa [Handle.parts] using hspec.registry
  · rintro y hy z hz m hm
    obtain ⟨x, rfl, rfl⟩ := Option.map_eq_some_iff.mp hy
    have hrecorded := (hspec.nodes x rfl z hz).symm.trans hm
    obtain ⟨n, hn, rfl⟩ := Option.map_eq_some_iff.mp hrecorded
    exact ⟨n, hnode n hn, rfl⟩

/-! ## Destructions -/

/-- A destruction that may leave something behind. -/
theorem destroys {x : Handle} {left : Multiset Handle} (h : σ.Sound orphans) (hx : x ∈ σ.held)
    (hrun : (perform request).run σ.state = (none, s')) (hframes : Frames σ.state s')
    (hdead : x.object ∉ s'.heap.live) (hleft : left ⊆ x.parts)
    (hF : ∀ F, Registry (x.parts + F) σ.state.heap σ.state.entities →
      (∀ n, x = .node n → ∀ y ∈ F, y.recordedNode ≠ some n.object) →
      Registry (left + F) s'.heap s'.entities)
    (howns : ∀ n, x = .node n → nodeOwnsEntities σ.state.entities n = false) :
    (σ.next request).Sound (left + orphans) := by
  obtain ⟨held, hheld⟩ := Multiset.exists_cons_of_mem hx
  have hsound := h.sound
  rw [hheld, Multiset.cons_bind] at hsound
  have hall : σ.state.impl.handles + (x.parts + held.bind Handle.parts + orphans) =
      x.parts + (σ.state.impl.handles + (held.bind Handle.parts + orphans)) := by abel
  have hregistry := hall ▸ hsound.registry
  have hnew := hF _ hregistry ?_
  · refine h.destroyed hheld hrun (hsound.change hframes ?_ ?_) hdead hframes.context
    · have hleft' : left + (σ.state.impl.handles + (held.bind Handle.parts + orphans)) =
          σ.state.impl.handles + (held.bind Handle.parts + (left + orphans)) := by abel
      rwa [hleft'] at hnew
    · intro y hy
      refine hsound.separate y ?_
      simp only [Multiset.mem_add] at hy ⊢
      rcases hy with hy | hy | hy
      · exact .inl (.inr hy)
      · exact .inl (.inl (hleft hy))
      · exact .inr hy
  · intro n hn y hy hrecorded
    have howned := (hregistry.tallies.owns_iff n).mpr
      ⟨y, Multiset.mem_add.mpr (.inr hy), hrecorded⟩
    simp [howns n hn] at howned

/-- A destruction of one entity. -/
theorem releases {x : Handle} (h : σ.Sound orphans) (hx : x ∈ σ.held)
    (hrun : (perform request).run σ.state = (none, s')) (hframes : Frames σ.state s')
    (hheap : s'.heap = σ.state.heap.free x.objects)
    (hF : ∀ F, Registry (x.parts + F) σ.state.heap σ.state.entities →
      (∀ n, x = .node n → ∀ y ∈ F, y.recordedNode ≠ some n.object) →
      Registry F s'.heap s'.entities)
    (howns : ∀ n, x = .node n → nodeOwnsEntities σ.state.entities n = false) :
    (σ.next request).Sound orphans := by
  have hmade := h.sound.registry.made x (h.mem_all hx)
  have hdead : x.object ∉ s'.heap.live := by
    rw [hheap]
    exact fun hlive => (Finset.mem_sdiff.mp hlive).2 hmade.handle.mem
  have hsound := h.destroys hx hrun hframes hdead (Multiset.zero_subset _)
    (fun F hall hunused => by simpa using hF F hall hunused) howns
  rwa [zero_add] at hsound

theorem destroyNode {node : Option Node} (h : σ.Sound orphans)
    (hnode : ∀ n ∈ node, .node n ∈ σ.held) : (σ.next (.destroyNode node)).Sound orphans := by
  cases node with
  | none => exact h.rejected rfl
  | some n =>
    rcases hrun : (rmwDestroyNode (some n)).run σ.state with ⟨r, s'⟩
    have hrun' : (perform (.destroyNode (some n))).run σ.state = (none, s') := run_map hrun
    cases howns : nodeOwnsEntities σ.state.entities n with
    | true =>
      obtain ⟨-, hstate⟩ := run_of_spec (rmwDestroyNode_owned n σ.state howns)
      rw [hrun] at hstate
      subst hstate
      exact h.rejected hrun'
    | false =>
      have hmade := h.sound.registry.made _ (h.mem_all (hnode n rfl))
      obtain ⟨-, hstate⟩ := run_of_spec
        (rmwDestroyNode_spec n σ.state hmade.valid h.sound.channel.context howns)
      rw [hrun] at hstate
      subst hstate
      refine h.releases (hnode n rfl) hrun' ⟨rfl, rfl⟩ rfl ?_ ?_
      · intro F hF hunused
        simp only [Handle.parts, Multiset.singleton_add] at hF
        exact hF.remove hunused
      · rintro m ⟨⟩
        exact howns

theorem destroyPublisher {o : Outcomes} {node : Option NodeHandle} {publisher : Option Publisher}
    (h : σ.Sound orphans) (hheld : ∀ p ∈ publisher, .publisher p ∈ σ.held) :
    (σ.next (.destroyPublisher o node publisher)).Sound orphans := by
  cases publisher with
  | none => cases node <;> exact h.rejected rfl
  | some p =>
    have hmade := h.sound.registry.made _ (h.mem_all (hheld p rfl))
    have hspec := run_of_spec (rmwDestroyPublisherAt_spec o node p σ.state hmade.valid.valid
      h.sound.channel.context)
    rcases hrun : (rmwDestroyPublisherAt o node (some p)).run σ.state with ⟨r, s'⟩
    rw [hrun] at hspec
    have hrun' : (perform (.destroyPublisher o node (some p))).run σ.state = (none, s') :=
      run_map hrun
    cases haccepted : node.any (·.reachesPublisher σ.state) with
    | false =>
      obtain ⟨-, rfl⟩ := hspec.rejects haccepted
      exact h.rejected hrun'
    | true =>
      have hdestroys := hspec.destroys haccepted
      refine h.releases (hheld p rfl) hrun' ⟨hdestroys.context, hdestroys.impl⟩ hdestroys.heap ?_
        fun _ hx => nomatch hx
      intro F hF _
      simp only [Handle.parts, Multiset.singleton_add] at hF
      exact hdestroys.registry hF

theorem destroySubscription {o : Outcomes} {node : Option NodeHandle}
    {subscription : Option Subscription} (h : σ.Sound orphans)
    (hheld : ∀ p ∈ subscription, .subscription p ∈ σ.held) :
    (σ.next (.destroySubscription o node subscription)).Sound orphans := by
  cases subscription with
  | none => cases node <;> exact h.rejected rfl
  | some p =>
    have hmade := h.sound.registry.made _ (h.mem_all (hheld p rfl))
    have hspec := run_of_spec (rmwDestroySubscriptionAt_spec o node p σ.state hmade.valid.valid
      h.sound.channel.context)
    rcases hrun : (rmwDestroySubscriptionAt o node (some p)).run σ.state with ⟨r, s'⟩
    rw [hrun] at hspec
    have hrun' : (perform (.destroySubscription o node (some p))).run σ.state = (none, s') :=
      run_map hrun
    cases haccepted : node.any (·.reachesSubscription σ.state) with
    | false =>
      obtain ⟨-, rfl⟩ := hspec.rejects haccepted
      exact h.rejected hrun'
    | true =>
      have hdestroys := hspec.destroys haccepted
      refine h.releases (hheld p rfl) hrun' ⟨hdestroys.context, hdestroys.impl⟩ hdestroys.heap ?_
        fun _ hx => nomatch hx
      intro F hF _
      simp only [Handle.parts, Multiset.singleton_add] at hF
      exact hdestroys.registry hF

theorem destroyGuardCondition {guard : Option GuardCondition} (h : σ.Sound orphans)
    (hheld : ∀ g ∈ guard, .guardCondition g ∈ σ.held) :
    (σ.next (.destroyGuardCondition guard)).Sound orphans := by
  cases guard with
  | none => exact h.rejected rfl
  | some g =>
    have hmade := h.sound.registry.made _ (h.mem_all (hheld g rfl))
    obtain ⟨-, hstate⟩ := run_of_spec
      (rmwDestroyGuardCondition_spec g σ.state hmade.valid h.sound.channel.context)
    rcases hrun : (rmwDestroyGuardCondition (some g)).run σ.state with ⟨r, s'⟩
    rw [hrun] at hstate
    subst hstate
    refine h.releases (hheld g rfl) (run_map hrun) ⟨rfl, rfl⟩ rfl ?_
      fun _ hx => nomatch hx
    intro F hF _
    simp only [Handle.parts, Multiset.singleton_add] at hF
    exact hF.remove_plain nofun

theorem destroyWaitSet {waitSet : Option WaitSet} (h : σ.Sound orphans)
    (hheld : ∀ w ∈ waitSet, .waitSet w ∈ σ.held) :
    (σ.next (.destroyWaitSet waitSet)).Sound orphans := by
  cases waitSet with
  | none => exact h.rejected rfl
  | some w =>
    have hmade := h.sound.registry.made _ (h.mem_all (hheld w rfl))
    obtain ⟨-, hstate⟩ := run_of_spec (rmwDestroyWaitSet_spec w σ.state hmade.valid)
    rcases hrun : (rmwDestroyWaitSet (some w)).run σ.state with ⟨r, s'⟩
    rw [hrun] at hstate
    subst hstate
    refine h.releases (hheld w rfl) (run_map hrun) ⟨rfl, rfl⟩ rfl ?_
      fun _ hx => nomatch hx
    intro F hF _
    simp only [Handle.parts, Multiset.singleton_add] at hF
    exact hF.remove_plain nofun

theorem perform_destroyServiceEntity (role : Role) (o : ServiceCall → Outcomes)
    (node : Option NodeHandle) (x : Option ServiceEntity) :
    perform (.destroyServiceEntity role o node x) =
      (fun _ => none) <$> Lifecycle.destroyServiceEntity o role node x := by
  cases role <;> rfl

/-- The endpoints of a client or a service that the user holds. -/
theorem endpoints_valid (h : σ.Sound orphans) {role : Role} {x : ServiceEntity}
    (hx : .serviceEntity role x ∈ σ.held) :
    ∀ impl ∈ x.data, impl.publisher.Valid ∧ impl.subscription.Valid := by
  intro impl himpl
  have hmem : ∀ y ∈ endpointHandles (impl.publisher, impl.subscription),
      y ∈ σ.state.impl.handles + (σ.held.bind Handle.parts + orphans) := by
    intro y hy
    refine Multiset.mem_add.mpr (.inr (Multiset.mem_add.mpr (.inl ?_)))
    refine Multiset.mem_bind.mpr ⟨_, hx, ?_⟩
    rw [Handle.parts, ServiceEntity.handles, himpl]
    exact Multiset.mem_cons_of_mem hy
  have hpub := h.sound.registry.made _ (hmem (.publisher impl.publisher) (by simp [endpointHandles]))
  have hsub := h.sound.registry.made _
    (hmem (.subscription impl.subscription) (by simp [endpointHandles]))
  exact ⟨hpub.valid.valid, hsub.valid.valid⟩

/-- What the end of a client or a service does in a session. -/
theorem destroyServiceEntity_run (h : σ.Sound orphans) (role : Role) (o : ServiceCall → Outcomes)
    (node : Option NodeHandle) {x : ServiceEntity} (hx : .serviceEntity role x ∈ σ.held) :
    DestroysIf (node.any (·.identified)) (DestroysServiceEntity role node x) σ.state
      ((Lifecycle.destroyServiceEntity o role node (some x)).run σ.state).1
      ((Lifecycle.destroyServiceEntity o role node (some x)).run σ.state).2 :=
  run_of_spec (destroyServiceEntity_spec o role node x σ.state
    (h.sound.registry.made _ (h.mem_all hx)).valid (h.endpoints_valid hx) h.sound.channel.context)

theorem destroyServiceEntity {role : Role} {o : ServiceCall → Outcomes} {node : Option NodeHandle}
    {x : Option ServiceEntity} (h : σ.Sound orphans)
    (hheld : ∀ y ∈ x, .serviceEntity role y ∈ σ.held) :
    ∃ orphans', (σ.next (.destroyServiceEntity role o node x)).Sound orphans' := by
  rcases hrun : (Lifecycle.destroyServiceEntity o role node x).run σ.state with ⟨r, s'⟩
  have hrun' : (perform (.destroyServiceEntity role o node x)).run σ.state = (none, s') := by
    rw [perform_destroyServiceEntity]
    exact run_map hrun
  cases x with
  | none =>
    have hstate : s' = σ.state := by cases node <;> exact (congrArg Prod.snd hrun).symm
    subst hstate
    exact ⟨orphans, h.rejected hrun'⟩
  | some x =>
    have hspec := h.destroyServiceEntity_run role o node (hheld x rfl)
    rw [hrun] at hspec
    cases node with
    | none =>
      obtain ⟨-, rfl⟩ := hspec.rejects rfl
      exact ⟨orphans, h.rejected hrun'⟩
    | some n =>
      cases hidentified : n.identified with
      | false =>
        obtain ⟨-, rfl⟩ := hspec.rejects hidentified
        exact ⟨orphans, h.rejected hrun'⟩
      | true =>
        have hdestroys := hspec.destroys hidentified
        have hvalid : x.Valid := (h.sound.registry.made _ (h.mem_all (hheld x rfl))).valid
        obtain ⟨impl, himpl⟩ := Option.isSome_iff_exists.mp hvalid.2
        obtain ⟨t, rfl, hreleases⟩ := hdestroys n rfl impl himpl
        refine ⟨n.orphans σ.state impl + orphans, h.destroys (hheld x rfl) hrun' ?_ ?_ ?_ ?_ ?_⟩
        · exact ⟨hreleases.frames.context, hreleases.frames.impl⟩
        · intro hlive
          refine (Finset.mem_sdiff.mp hlive).2 ?_
          simp [Handle.object, ServiceEntity.objects]
        · intro y hy
          rw [Handle.parts, ServiceEntity.handles, himpl]
          refine Multiset.mem_cons_of_mem ?_
          rw [NodeHandle.orphans] at hy
          rw [Option.elim_some, endpointHandles]
          split at hy <;> split at hy <;> simp_all
        · intro F hF _
          exact hdestroys.registry himpl hF
        · rintro n' ⟨⟩

/-! ## The end of the context -/

theorem shutdown (h : σ.Sound orphans) : (σ.next .shutdown).Sound orphans := by
  obtain ⟨hsound, hcontext⟩ := run_of_spec (rmwShutdown_sound false h.sound)
  rcases hrun : (rmwShutdown false).run σ.state with ⟨r, s'⟩
  rw [hrun] at hsound hcontext
  exact h.created (run_map hrun) (by simpa using hsound) hcontext

/-- If the context is still there, only its channel may be gone. -/
theorem contextFini {o : Call → Outcomes} {dds : Outcomes} (h : σ.Sound orphans)
    (hthere : (σ.next (.contextFini o dds)).state.context.impl.isSome) :
    (σ.next (.contextFini o dds)).Sound orphans := by
  have hspec := run_of_spec (rmwContextFini_spec o dds σ.state h.sound h.usable)
  rcases hrun : (rmwContextFini o dds false).run σ.state with ⟨r, s'⟩
  rw [hrun] at hspec
  have hrun' : (perform (.contextFini o dds)).run σ.state = (none, s') := run_map hrun
  obtain ⟨ret, t, -, hchannel, hfailed, hrefused, hended⟩ := hspec.channel
  have hstate : s' = t := by
    by_cases hret : ret = .ok
    · cases hrefuses : t.refusesFini with
      | true => exact (hrefused hret hrefuses).2
      | false =>
        have hgone : s'.context.impl = none := (hended hret hrefuses).2
        have hstate : (σ.next (.contextFini o dds)).state = s' := by rw [Session.next, hrun']
        simp [hstate, hgone] at hthere
    · exact (hfailed hret).2
  subst hstate
  refine h.created hrun' ?_ hchannel.releases.context
  simpa using h.sound.finalized hchannel

/-- What one call preserves. -/
theorem next (h : σ.Sound orphans) (hrequest : request.Admissible σ)
    (hthere : (σ.next request).state.context.impl.isSome) :
    ∃ orphans', (σ.next request).Sound orphans' := by
  cases request with
  | createNode o name namespace_ => exact ⟨orphans, h.createNode hrequest⟩
  | destroyNode node => exact ⟨orphans, h.destroyNode hrequest⟩
  | createPublisher o guid node => exact ⟨orphans, h.createPublisher hrequest.1 hrequest.2⟩
  | destroyPublisher o node p => exact ⟨orphans, h.destroyPublisher hrequest⟩
  | createSubscription o node => exact ⟨orphans, h.createSubscription hrequest⟩
  | destroySubscription o node p => exact ⟨orphans, h.destroySubscription hrequest⟩
  | createServiceEntity role o guid node =>
    exact ⟨orphans, h.createServiceEntity hrequest.1 hrequest.2⟩
  | destroyServiceEntity role o node x => exact h.destroyServiceEntity hrequest
  | createGuardCondition o => exact ⟨orphans, h.createGuardCondition⟩
  | destroyGuardCondition guard => exact ⟨orphans, h.destroyGuardCondition hrequest⟩
  | createWaitSet o => exact ⟨orphans, h.createWaitSet⟩
  | destroyWaitSet waitSet => exact ⟨orphans, h.destroyWaitSet hrequest⟩
  | shutdown => exact ⟨orphans, h.shutdown⟩
  | contextFini o dds => exact ⟨orphans, h.contextFini hthere⟩

end Session.Sound

theorem Session.Begins.sound {σ : Session} (h : σ.Begins) : σ.Sound 0 := by
  obtain ⟨o, error, guid, options, contextIsNull, s, hs, hrun, hheld⟩ := h
  have hbegun := run_of_spec (rmwInit_begun o error guid options contextIsNull hs)
  rw [hrun] at hbegun
  obtain ⟨hsound, husable⟩ := hbegun rfl
  exact ⟨by simpa [hheld] using hsound, husable⟩

/-- What every run preserves. -/
theorem Session.Reachable.sound {σ : Session} (h : σ.Reachable) : ∃ orphans, σ.Sound orphans := by
  induction h with
  | begin hbegins => exact ⟨0, hbegins.sound⟩
  | next _ hrequest hthere hsound =>
    obtain ⟨orphans, hsound⟩ := hsound
    exact hsound.next hrequest hthere

end Lifecycle

end RmwZzdds
