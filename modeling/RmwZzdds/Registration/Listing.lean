import RmwZzdds.Library.Index
import RmwZzdds.Registration.Destruction

/-!
# The local graph and the live endpoints

Creations and destructions of endpoints in any order, on any nodes of one
context.  `Site.Exact` says that the graph lists the endpoints of the user and
nothing else, each one on the list of the node that it was created on.

A destruction takes the endpoint off the list of the node that it is passed, and
the one of a subscription must find the GUID first.  So it keeps the graph exact
just when the node has the name and the namespace of the right one and the GUID
is found.
-/

namespace RmwZzdds.Registration

open Lifecycle Following Index Ownership Std.Do
open Service (Guid)

variable {G : Type} (g : LocalGraph G)

/-! ## Sites -/

/-- A context with its books, and the handles that its user holds. -/
structure Site (G : Type) where
  world : World G
  held : Multiset Handle

/-- The session of the site, without the books. -/
def Site.session (σ : Site G) : Session := ⟨σ.world.state, σ.held⟩

/-- A call that makes or destroys an endpoint. -/
inductive EndpointCall where
  | createPublisher (o : Outcomes) (failure : Failure) (guid : Guid) (node : Option Node)
  | createSubscription (o : Outcomes) (failure : Failure) (guid : Guid) (node : Option Node)
  | destroyPublisher (o : Outcomes) (node : Option NodeHandle) (publisher : Option Publisher)
  | destroySubscription (o : Outcomes) (node : Option NodeHandle)
      (subscription : Option Subscription)

namespace EndpointCall

/-- The request of a session. -/
def request : EndpointCall → Request
  | createPublisher o _ guid node => .createPublisher o guid node
  | createSubscription o _ _ node => .createSubscription o node
  | destroyPublisher o node p => .destroyPublisher o node p
  | destroySubscription o node p => .destroySubscription o node p

/-- The call, with the handle it returns. -/
def perform : EndpointCall → BookM G (Option Handle)
  | createPublisher o failure guid node =>
    (·.map .publisher) <$> rmwCreatePublisher g o failure guid node
  | createSubscription o failure guid node =>
    (·.map .subscription) <$> rmwCreateSubscription g o failure guid node
  | destroyPublisher o node p => (fun _ => none) <$> rmwDestroyPublisherAt g o node p
  | destroySubscription o node p => (fun _ => none) <$> rmwDestroySubscriptionAt g o node p

theorem extends_perform (c : EndpointCall) : Extends (c.perform g) (Lifecycle.perform c.request) := by
  cases c with
  | createPublisher o failure guid node =>
      exact .map _ (extends_rmwCreatePublisher failure guid node)
  | createSubscription o failure guid node =>
      exact .map _ (extends_rmwCreateSubscription failure guid node)
  | destroyPublisher o node p => exact .map _ (extends_rmwDestroyPublisherAt node p)
  | destroySubscription o node p => exact .map _ (extends_rmwDestroySubscriptionAt node p)

/-- The GUID that zzdds gives to the new endpoint. -/
def newGuid : EndpointCall → Option Guid
  | createPublisher _ _ guid _ => some guid
  | createSubscription _ _ guid _ => some guid
  | _ => none

end EndpointCall

namespace Site

variable (σ : Site G)

/-- The site after a call. -/
def next (c : EndpointCall) : Site G :=
  let (created, world) := (c.perform g).run σ.world
  { world, held := (created.elim 0 ({·}) + σ.held).filter fun x => x.object ∈ world.state.heap.live }

theorem session_next (c : EndpointCall) : (σ.next g c).session = σ.session.next c.request := by
  obtain ⟨hcreated, hstate⟩ := (c.extends_perform g).run σ.world
  rcases hrun : (c.perform g).run σ.world with ⟨created, w'⟩
  rw [hrun] at hcreated hstate
  have hrun' : (Lifecycle.perform c.request).run σ.session.state = (created, w'.state) :=
    Prod.ext hcreated.symm hstate.symm
  simp only [session, next, Session.next, hrun]
  rw [session] at hrun'
  simp only [hrun']

/-! ## What the graph should list -/

/-- The endpoint of a handle, with what zzdds answers about its reader. -/
def endpointOf (readerGuids : Obj → Option Guid) : Handle → Option (End × Guid)
  | .publisher p => p.data.map fun impl => (.writer, impl.rtpsGuid)
  | .subscription p => p.data.bind fun impl => (readerGuids impl.reader).map (.reader, ·)
  | _ => none

/-- The handle has the endpoint `y`. -/
def Endpoint (x : Handle) (y : End × Guid) : Prop :=
  endpointOf σ.world.books.readerGuids x = some y

/-- The endpoint was created on a node with this name and namespace. -/
def Hosted (x : Handle) (key : NodeKey) : Prop :=
  ∃ n, .node n ∈ σ.held ∧ x.recordedNode = some n.object ∧ nodeKey n = key

/-- The endpoint should be on the list of the node. -/
def Listed (x : Handle) (y : End × Guid × NodeKey) : Prop :=
  σ.Endpoint x (y.1, y.2.1) ∧ σ.Hosted x y.2.2

/-- The handles of publishers and subscriptions. -/
def isEndpoint : Handle → Bool
  | .publisher _ => true
  | .subscription _ => true
  | _ => false

/-- The local writers and readers of the graph are the endpoints of the user,
each on the list of the node that it was created on. -/
structure Exact : Prop where
  entities : Indexes {x | x ∈ σ.held} σ.Endpoint (g.entities σ.world.books.graph)
  associations : Indexes {x | x ∈ σ.held} σ.Listed (g.associations σ.world.books.graph)
  known : ∀ x ∈ σ.held, isEndpoint x = true → ∃ y, σ.Listed x y

/-- Nodes and nothing else, and a graph without endpoints. -/
structure Starts : Prop where
  reachable : σ.session.Reachable
  nodes : ∀ x ∈ σ.held, ∃ n, x = .node n
  unsuppressed : σ.world.state.impl.suppressGraphUpdates = false
  entities : g.entities σ.world.books.graph = ∅
  associations : g.associations σ.world.books.graph = ∅

end Site

/-- What the user must keep to, and that a creation succeeds. -/
structure EndpointCall.Admissible (σ : Site G) (c : EndpointCall) : Prop where
  request : c.request.Admissible σ.session
  created : ∀ guid ∈ c.newGuid, NewGuid g guid σ.world ∧ ((c.perform g).run σ.world).1.isSome

/-- A destruction that is carried out is passed a node with the name and the
namespace of the right one, and finds the GUID of the subscription. -/
def EndpointCall.Conforms (σ : Site G) : EndpointCall → Prop
  | .destroyPublisher _ node publisher => ∀ n ∈ node, ∀ p ∈ publisher,
    n.reachesPublisher σ.world.state = true → σ.Hosted (.publisher p) (nodeKey n.node)
  | .destroySubscription o node subscription => ∀ n ∈ node, ∀ p ∈ subscription,
    n.reachesSubscription σ.world.state = true →
      σ.Hosted (.subscription p) (nodeKey n.node) ∧ o .guid = true
  | _ => True

/-- The sites that come about by calls that conform. -/
inductive Site.Run : Site G → Prop
  | start {σ : Site G} : σ.Starts g → σ.Run
  | next {σ : Site G} {c : EndpointCall} : σ.Run → c.Admissible g σ → c.Conforms σ →
    (σ.next g c).Run

/-! ## Handles come and go -/

namespace Site

variable {g} {σ σ' : Site G} {c : EndpointCall} {x : Handle}

/-- The handles of the user are those of live objects. -/
theorem mem_live (hσ : σ.session.Reachable) (hx : x ∈ σ.held) :
    x.object ∈ σ.world.state.heap.live := by
  obtain ⟨orphans, hsound⟩ := hσ.sound
  exact hsound.sound.mem_live (Session.mem_parts hx orphans)

theorem made (hσ : σ.session.Reachable) (hx : x ∈ σ.held) : x.Made := by
  obtain ⟨orphans, hsound⟩ := hσ.sound
  exact hsound.sound.registry.made x (hsound.mem_all hx)

theorem object_inj (hσ : σ.session.Reachable) {y : Handle} (hx : x ∈ σ.held) (hy : y ∈ σ.held)
    (heq : x.object = y.object) : x = y := by
  obtain ⟨orphans, hsound⟩ := hσ.sound
  exact hsound.sound.registry.lists.key_inj (hsound.mem_all hx) (hsound.mem_all hy) heq

/-- The node of an endpoint is one only. -/
theorem Hosted.unique (hσ : σ.session.Reachable) {key key' : NodeKey} (h : σ.Hosted x key)
    (h' : σ.Hosted x key') : key = key' := by
  obtain ⟨n, hn, hrecorded, rfl⟩ := h
  obtain ⟨m, hm, hrecorded', rfl⟩ := h'
  have hobject : n.object = m.object := Option.some.inj (hrecorded.symm.trans hrecorded')
  cases object_inj hσ hn hm hobject
  rfl

/-- A call without a trace. -/
theorem next_rejected (hσ : σ.session.Reachable)
    (hrun : (c.perform g).run σ.world = (none, σ.world)) : σ.next g c = σ := by
  simp only [next, hrun, Option.elim_none, zero_add]
  rw [Multiset.filter_eq_self.mpr fun y hy => mem_live hσ hy]

/-- A call that returns a handle. -/
theorem next_created (hσ : σ.session.Reachable) {w' : World G}
    (hrun : (c.perform g).run σ.world = (some x, w')) (hx : x.object ∈ x.objects)
    (howns : σ.world.state.heap.Owns x.objects w'.state.heap) :
    σ.next g c = ⟨w', x ::ₘ σ.held⟩ := by
  simp only [next, hrun, Option.elim_some, Multiset.singleton_add]
  rw [Multiset.filter_eq_self.mpr]
  intro y hy
  rw [howns.live]
  rcases Multiset.mem_cons.mp hy with rfl | hy
  · exact Finset.mem_union_right _ hx
  · exact Finset.mem_union_left _ (mem_live hσ hy)

/-- A call that frees a handle. -/
theorem mem_next_destroyed (hσ : σ.session.Reachable) {w' : World G}
    (hrun : (c.perform g).run σ.world = (none, w')) (hx : x ∈ σ.held)
    (hheap : w'.state.heap = σ.world.state.heap.free x.objects) (y : Handle) :
    y ∈ (σ.next g c).held ↔ y ∈ σ.held ∧ y ≠ x := by
  simp only [next, hrun, Option.elim_none, zero_add, Multiset.mem_filter, hheap]
  refine and_congr_right fun hy => ?_
  have hmade := (made hσ hx).handle
  constructor
  · rintro hlive rfl
    exact (Finset.mem_sdiff.mp hlive).2 hmade.mem
  · intro hne
    refine Finset.mem_sdiff.mpr ⟨mem_live hσ hy, fun hmem => hne ?_⟩
    refine object_inj hσ hy hx (hmade.only _ hmem ?_)
    rw [(made hσ hy).handle.kind]
    exact y.isHandle_kind

/-! ## The graph after a call -/

/-- What a creation does. -/
structure Joins (g : LocalGraph G) (σ σ' : Site G) (x : Handle) (y : End × Guid) (n : Node) :
    Prop where
  held : σ'.held = x ::ₘ σ.held
  graph : σ'.world.books.graph =
    g.associate y.1 y.2 (nodeKey n) (g.addEntity y.1 y.2 σ.world.books.graph)
  others : ∀ z ∈ σ.held, ∀ y, σ'.Endpoint z y ↔ σ.Endpoint z y
  endpoint : σ'.Endpoint x y
  isEndpoint : isEndpoint x = true
  node : .node n ∈ σ.held
  recordedNode : x.recordedNode = some n.object
  entity_new : y ∉ g.entities σ.world.books.graph
  association_new : ∀ key, (y.1, y.2, key) ∉ g.associations σ.world.books.graph

theorem Joins.mem {y : End × Guid} {n : Node} (h : Joins g σ σ' x y n) :
    {z | z ∈ σ'.held} = insert x {z | z ∈ σ.held} := by
  ext z
  simp [h.held]

theorem Joins.hosted {y : End × Guid} {n : Node} (h : Joins g σ σ' x y n) (z : Handle)
    (key : NodeKey) : σ'.Hosted z key ↔ σ.Hosted z key := by
  refine exists_congr fun m => and_congr_left fun _ => ?_
  rw [h.held, Multiset.mem_cons, or_iff_right]
  rintro rfl
  exact Bool.noConfusion h.isEndpoint

theorem Joins.site_exact (hg : g.Lawful) (hσ : σ.session.Reachable) {y : End × Guid} {n : Node}
    (h : Joins g σ σ' x y n) (hexact : σ.Exact g) : σ'.Exact g := by
  have hendpoint (z : End × Guid) : σ'.Endpoint x z ↔ z = y := by
    constructor
    · exact fun hz => Option.some.inj (hz.symm.trans h.endpoint)
    · rintro rfl
      exact h.endpoint
  have hhosted : σ.Hosted x (nodeKey n) := ⟨n, h.node, h.recordedNode, rfl⟩
  have hlisted (z : End × Guid × NodeKey) : σ'.Listed x z ↔ z = (y.1, y.2, nodeKey n) := by
    rw [Listed, hendpoint, h.hosted]
    constructor
    · rintro ⟨rfl, hz⟩
      exact Prod.ext rfl (Prod.ext rfl (hz.unique hσ hhosted))
    · rintro rfl
      exact ⟨rfl, hhosted⟩
  have hothers : ∀ z ∈ σ.held, ∀ y, σ'.Listed z y ↔ σ.Listed z y := fun z hz y =>
    and_congr (h.others z hz _) (h.hosted z _)
  refine ⟨?_, ?_, ?_⟩
  · rw [h.mem, h.graph, hg.entities_associate, hg.entities_addEntity]
    exact ((Indexes.congr h.others).mpr hexact.entities).insert hendpoint h.entity_new
  · rw [h.mem, h.graph, hg.associations_associate, hg.associations_addEntity]
    exact ((Indexes.congr hothers).mpr hexact.associations).insert hlisted (h.association_new _)
  · intro z hz hz'
    rw [h.held] at hz
    rcases Multiset.mem_cons.mp hz with rfl | hz
    · exact ⟨_, (hlisted _).mpr rfl⟩
    · obtain ⟨y, hy⟩ := hexact.known z hz hz'
      exact ⟨y, (hothers z hz y).mpr hy⟩

/-- What a destruction does to the handles. -/
structure Leaves (σ σ' : Site G) (x : Handle) : Prop where
  mem : x ∈ σ.held
  held : ∀ z, z ∈ σ'.held ↔ z ∈ σ.held ∧ z ≠ x
  readerGuids : σ'.world.books.readerGuids = σ.world.books.readerGuids
  isEndpoint : isEndpoint x = true

theorem Leaves.endpoint (h : Leaves σ σ' x) : σ'.Endpoint = σ.Endpoint := by
  funext z y
  rw [Endpoint, h.readerGuids, Endpoint]

theorem Leaves.listed (h : Leaves σ σ' x) : σ'.Listed = σ.Listed := by
  funext z y
  refine propext (and_congr (by rw [h.endpoint]) (exists_congr fun m => and_congr_left fun _ => ?_))
  rw [h.held, and_iff_left]
  rintro rfl
  exact Bool.noConfusion h.isEndpoint

/-- The graph is exact again if what is taken off a list is what is on one. -/
theorem Leaves.exact_iff (hg : g.Lawful) (hσ : σ.session.Reachable) (h : Leaves σ σ' x)
    (hexact : σ.Exact g) {e : End} {guid : Guid} {key : NodeKey} (hx : σ.Endpoint x (e, guid))
    (hgraph : σ'.world.books.graph =
      g.removeEntity e guid (g.dissociate e guid key σ.world.books.graph)) :
    σ'.Exact g ↔ σ.Hosted x key := by
  obtain ⟨y, hy, hhosted⟩ := hexact.known x h.mem h.isEndpoint
  obtain ⟨rfl, rfl⟩ := Prod.mk.inj (Option.some.inj (hy.symm.trans hx))
  have hendpoint (z : End × Guid) : σ.Endpoint x z ↔ z = (y.1, y.2.1) := by
    constructor
    · exact fun hz => Option.some.inj (hz.symm.trans hx)
    · rintro rfl
      exact hx
  have hlisted (z : End × Guid × NodeKey) : σ.Listed x z ↔ z = y := by
    rw [Listed, hendpoint]
    constructor
    · rintro ⟨hz, hz'⟩
      obtain ⟨he, hguid⟩ := Prod.mk.inj hz
      exact Prod.ext he (Prod.ext hguid (hz'.unique hσ hhosted))
    · rintro rfl
      exact ⟨rfl, hhosted⟩
  have hassociations : Indexes {z | z ∈ σ'.held} σ'.Listed (g.associations σ'.world.books.graph) ↔
      key = y.2.2 := by
    have herase : Indexes {z | z ∈ σ'.held} σ.Listed
        ((g.associations σ.world.books.graph).erase (y.1, y.2.1, key)) ↔ (y.1, y.2.1, key) = y :=
      hexact.associations.erase_iff h.mem hlisted h.held
    rw [h.listed, hgraph, hg.associations_removeEntity, hg.associations_dissociate, herase]
    constructor
    · exact fun heq => congrArg (·.2.2) heq
    · rintro rfl
      rfl
  constructor
  · intro hexact'
    rw [hassociations.mp hexact'.associations]
    exact hhosted
  · intro hkey
    refine ⟨?_, hassociations.mpr (hkey.unique hσ hhosted), ?_⟩
    · rw [h.endpoint, hgraph, hg.entities_removeEntity, hg.entities_dissociate]
      exact hexact.entities.erase h.mem hendpoint h.held
    · intro z hz hz'
      rw [h.listed]
      exact hexact.known z ((h.held z).mp hz).1 hz'

/-- The graph has forgotten the endpoint that the handle had. -/
def Forgets (g : LocalGraph G) (σ σ' : Site G) (x : Handle) : Prop :=
  ∀ y, σ.Endpoint x y → y ∉ g.entities σ'.world.books.graph ∧
    ∀ key, (y.1, y.2, key) ∉ g.associations σ'.world.books.graph

theorem Leaves.forgets (h : Leaves σ σ' x) (hexact : σ.Exact g) (hexact' : σ'.Exact g) :
    Forgets g σ σ' x := by
  intro y hy
  have hgone : y ∉ g.entities σ'.world.books.graph := by
    refine hexact.entities.notMem h.mem hy h.held ?_
    rw [← h.endpoint]
    exact hexact'.entities
  refine ⟨hgone, fun key hkey => hgone ?_⟩
  obtain ⟨z, hz, hlisted, -⟩ := (hexact'.associations.mem _).mp hkey
  exact (hexact'.entities.mem y).mpr ⟨z, hz, hlisted⟩

/-- The graph is not exact if nothing is taken out. -/
theorem Leaves.not_exact (h : Leaves σ σ' x) (hexact : σ.Exact g)
    (hgraph : σ'.world.books.graph = σ.world.books.graph) : ¬ σ'.Exact g := by
  obtain ⟨y, hy, -⟩ := hexact.known x h.mem h.isEndpoint
  intro hexact'
  refine hexact.entities.not_keep h.mem hy h.held ?_
  rw [← hgraph, ← h.endpoint]
  exact hexact'.entities

/-! ## Calls -/

/-- What a run keeps besides the graph. -/
structure Kept (σ : Site G) : Prop where
  reachable : σ.session.Reachable
  unsuppressed : σ.world.state.impl.suppressGraphUpdates = false
  readers : ∀ p, .subscription p ∈ σ.held → ∀ impl ∈ p.data,
    impl.reader.address < σ.world.state.heap.next

/-- What every call does. -/
structure Moves (σ σ' : Site G) : Prop where
  frames : Frames σ.world.state σ'.world.state
  next_le : σ.world.state.heap.next ≤ σ'.world.state.heap.next
  readers : ∀ p, .subscription p ∈ σ'.held → .subscription p ∈ σ.held ∨
    ∀ impl ∈ p.data, impl.reader.address < σ'.world.state.heap.next

theorem Kept.context (h : σ.Kept) : σ.world.state.context.impl.isSome := by
  obtain ⟨orphans, hsound⟩ := h.reachable.sound
  exact hsound.sound.channel.context

theorem Kept.next (h : σ.Kept) (hrequest : c.request.Admissible σ.session)
    (hmoves : Moves σ (σ.next g c)) : (σ.next g c).Kept where
  reachable := by
    have hthere : (σ.next g c).session.state.context.impl.isSome :=
      hmoves.frames.context ▸ h.context
    rw [session_next] at hthere ⊢
    exact .next h.reachable hrequest hthere
  unsuppressed := hmoves.frames.impl ▸ h.unsuppressed
  readers := by
    intro p hp impl himpl
    rcases hmoves.readers p hp with hp | hnew
    · exact (h.readers p hp impl himpl).trans_le hmoves.next_le
    · exact hnew impl himpl

/-- The handles that there are already keep their endpoints. -/
theorem Kept.endpoint (h : σ.Kept) {w' : World G} {held' : Multiset Handle}
    (hguids : KeepsGuids σ.world w') {z : Handle} (hz : z ∈ σ.held) (y : End × Guid) :
    (⟨w', held'⟩ : Site G).Endpoint z y ↔ σ.Endpoint z y := by
  cases z with
  | subscription p =>
      refine Eq.congr_left ?_
      refine Option.bind_congr fun impl himpl => ?_
      rw [hguids _ (h.readers p hz impl himpl)]
  | _ => exact Iff.rfl

/-- The graph after a creation that has succeeded. -/
theorem announced_of_succeeds {o : Outcomes} {failure : Failure} {e : End} {guid : Guid}
    {key : NodeKey} {s : State} {graph : G} (hsuppress : s.impl.suppressGraphUpdates = false)
    (hadd : (s.impl.suppressGraphUpdates || o .addEntityReturns && o .addEndpointGraph) = true) :
    announced g o failure e guid key s graph =
      g.associate e guid key (g.addEntity e guid graph) := by
  rw [hsuppress, Bool.false_or, Bool.and_eq_true] at hadd
  simp [announced, hsuppress, hadd.1, hadd.2]

/-- A creation that has succeeded, by what it has done to the heap and the
books. -/
theorem Kept.joins {o : Outcomes} {failure : Failure} {e : End} {guid : Guid} {n : Node} {w' : World G}
    (h : σ.Kept) (hrun : (c.perform g).run σ.world = (some x, w')) (hx : x.object ∈ x.objects)
    (hframes : Frames σ.world.state w'.state)
    (howns : σ.world.state.heap.Owns x.objects w'.state.heap)
    (hbooks : BooksEndpoint g o failure e guid (some n) true σ.world true w')
    (hadd : (σ.world.state.impl.suppressGraphUpdates ||
      o .addEntityReturns && o .addEndpointGraph) = true)
    (hnode : .node n ∈ σ.held) (hrecorded : x.recordedNode = some n.object)
    (hnew : NewGuid g guid σ.world) (hisEndpoint : isEndpoint x = true)
    (hendpoint : endpointOf w'.books.readerGuids x = some (e, guid))
    (hreader : ∀ p, x = .subscription p → ∀ impl ∈ p.data,
      impl.reader.address < w'.state.heap.next) :
    Joins g σ (σ.next g c) x (e, guid) n ∧ Moves σ (σ.next g c) := by
  obtain ⟨m, hm, hgraph⟩ := hbooks.reached rfl
  cases hm
  rw [announced_of_succeeds h.unsuppressed hadd] at hgraph
  rw [next_created h.reachable hrun hx howns]
  constructor
  · exact ⟨rfl, hgraph, fun z hz y => h.endpoint hbooks.guids hz y, hendpoint, hisEndpoint, hnode,
      hrecorded, hnew.entity _, hnew.association _⟩
  · refine ⟨hframes, hbooks.next_le, fun p hp => ?_⟩
    rcases Multiset.mem_cons.mp hp with hp | hp
    · exact .inr (hreader p hp.symm)
    · exact .inl hp

/-- What every creation does. -/
def Creates (g : LocalGraph G) (σ : Site G) (c : EndpointCall) : Prop :=
  ∃ x y n, Joins g σ (σ.next g c) x y n ∧ Moves σ (σ.next g c)

theorem createPublisher_creates {o : Outcomes} {failure : Failure} {guid : Guid}
    {node : Option Node} (h : σ.Kept)
    (hc : (EndpointCall.createPublisher o failure guid node).Admissible g σ) :
    Creates g σ (.createPublisher o failure guid node) := by
  obtain ⟨hnew, hsome⟩ := hc.created guid rfl
  have hcreates := createsPublisher g o failure guid node σ.world
  have hbooks := run_of_spec (rmwCreatePublisher_books g o σ.world failure guid node)
  rcases hrun : (rmwCreatePublisher g o failure guid node).run σ.world with ⟨p, w'⟩
  have hperform : ((EndpointCall.createPublisher o failure guid node).perform g).run σ.world =
      (p.map .publisher, w') := by
    rw [EndpointCall.perform, StateT.run_map, hrun]
    rfl
  rw [hrun] at hcreates hbooks
  rw [hperform, Option.isSome_map] at hsome
  obtain ⟨p, rfl⟩ := Option.isSome_iff_exists.mp hsome
  have hcreated : publisherCreated o node σ.world.state = true := hcreates.isSome.symm
  rw [publisherCreated_eq, Bool.and_eq_true] at hcreated
  rw [hcreated.1] at hbooks
  obtain ⟨n, hn, -⟩ := hbooks.reached rfl
  cases hn
  obtain ⟨impl, himpl⟩ := Option.isSome_iff_exists.mp (hcreates.valid p rfl).2
  refine ⟨_, _, n, h.joins hperform (hcreates.handle p rfl).mem hcreates.effect.frames
    hcreates.effect.owns hbooks hcreated.2 (hc.request.2 n rfl) hcreates.recordedNode hnew rfl ?_
    fun _ hp => nomatch hp⟩
  rw [endpointOf, himpl, Option.map_some, (hcreates.data p rfl impl himpl).1]

theorem createSubscription_creates {o : Outcomes} {failure : Failure} {guid : Guid}
    {node : Option Node} (h : σ.Kept)
    (hc : (EndpointCall.createSubscription o failure guid node).Admissible g σ) :
    Creates g σ (.createSubscription o failure guid node) := by
  obtain ⟨hnew, hsome⟩ := hc.created guid rfl
  have hcreates := createsSubscription g o failure guid node σ.world
  have hbooks := run_of_spec (rmwCreateSubscription_books g o σ.world failure guid node)
  rcases hrun : (rmwCreateSubscription g o failure guid node).run σ.world with ⟨p, w'⟩
  have hperform : ((EndpointCall.createSubscription o failure guid node).perform g).run σ.world =
      (p.map .subscription, w') := by
    rw [EndpointCall.perform, StateT.run_map, hrun]
    rfl
  rw [hrun] at hcreates hbooks
  rw [hperform, Option.isSome_map] at hsome
  obtain ⟨p, rfl⟩ := Option.isSome_iff_exists.mp hsome
  have hcreated : subscriptionCreated o node σ.world.state = true := hcreates.isSome.symm
  rw [subscriptionCreated_eq, Bool.and_eq_true] at hcreated
  obtain ⟨hbooks, hreader⟩ := hbooks
  rw [hcreated.1] at hbooks
  obtain ⟨n, hn, -⟩ := hbooks.reached rfl
  cases hn
  obtain ⟨impl, himpl⟩ := Option.isSome_iff_exists.mp (hcreates.valid p rfl).2
  refine ⟨_, _, n, h.joins hperform (hcreates.handle p rfl).mem hcreates.effect.frames
    hcreates.effect.owns hbooks hcreated.2 (hc.request n rfl) hcreates.recordedNode hnew rfl ?_ ?_⟩
  · rw [endpointOf, himpl, Option.bind_some, (hreader p rfl impl himpl).1]
    rfl
  · rintro q ⟨⟩ impl' himpl'
    exact (hreader p rfl impl' himpl').2

/-- What a destruction does that is carried out.  `found` says that the GUID of
the endpoint was found. -/
structure Destroys (g : LocalGraph G) (σ σ' : Site G) (x : Handle) (key : NodeKey) (found : Bool) :
    Prop extends Leaves σ σ' x, Moves σ σ' where
  graph : ∀ y, σ.Endpoint x y → σ'.world.books.graph =
    if found then g.removeEntity y.1 y.2 (g.dissociate y.1 y.2 key σ.world.books.graph)
    else σ.world.books.graph

theorem Destroys.exact_iff (hg : g.Lawful) (hσ : σ.session.Reachable) {key : NodeKey} {found : Bool}
    (h : Destroys g σ σ' x key found) (hexact : σ.Exact g) :
    σ'.Exact g ↔ σ.Hosted x key ∧ found = true := by
  obtain ⟨y, hy, -⟩ := hexact.known x h.mem h.isEndpoint
  have hgraph := h.graph _ hy
  cases found with
  | true => exact (h.toLeaves.exact_iff hg hσ hexact hy hgraph).trans (and_iff_left rfl).symm
  | false => exact iff_of_false (h.toLeaves.not_exact hexact hgraph) (by simp)

theorem world_next {x : Option Handle} {w' : World G}
    (hrun : (c.perform g).run σ.world = (x, w')) : (σ.next g c).world = w' := by
  rw [next, hrun]

/-- A destruction is rejected without a trace, or carried out. -/
inductive MayDestroy (g : LocalGraph G) (σ : Site G) (c : EndpointCall)
    (accepts : NodeHandle → Bool) (node : Option NodeHandle) (x : Option Handle) (found : Bool) : Prop
  | rejected : σ.next g c = σ → (∀ n ∈ node, ∀ y ∈ x, accepts n = false) → MayDestroy ..
  | carried {n : NodeHandle} {y : Handle} : node = some n → x = some y → accepts n = true →
    Destroys g σ (σ.next g c) y (nodeKey n.node) found → MayDestroy ..

/-- A destruction that is carried out, by what it has done to the heap and the
books. -/
theorem Kept.destroys {key : NodeKey} {found : Bool} {graph : G} {w' : World G} (h : σ.Kept)
    (hrun : (c.perform g).run σ.world = (none, w')) (hx : x ∈ σ.held) (hisEndpoint : isEndpoint x = true)
    (hframes : Frames σ.world.state w'.state)
    (hheap : w'.state.heap = σ.world.state.heap.free x.objects)
    (hdeparts : Departs graph σ.world w')
    (hgraph : ∀ y, σ.Endpoint x y → graph =
      if found then g.removeEntity y.1 y.2 (g.dissociate y.1 y.2 key σ.world.books.graph)
      else σ.world.books.graph) :
    Destroys g σ (σ.next g c) x key found := by
  have hworld := world_next hrun
  have hheld := mem_next_destroyed h.reachable hrun hx hheap
  refine ⟨⟨hx, hheld, ?_, hisEndpoint⟩, ⟨?_, ?_, fun p hp => .inl ((hheld _).mp hp).1⟩, fun y hy => ?_⟩
  · rw [hworld, hdeparts.readerGuids]
  · rw [hworld]
    exact hframes
  · rw [hworld, hheap]
    exact Nat.le_refl _
  · rw [hworld, hdeparts.graph, hgraph y hy]

theorem destroyPublisher_mayDestroy {o : Outcomes} {node : Option NodeHandle}
    {publisher : Option Publisher} (h : σ.Kept)
    (hc : (EndpointCall.destroyPublisher o node publisher).Admissible g σ) :
    MayDestroy g σ (.destroyPublisher o node publisher) (·.reachesPublisher σ.world.state) node
      (publisher.map .publisher) true := by
  cases publisher with
  | none =>
      refine .rejected (next_rejected h.reachable ?_) (by simp)
      cases node <;> rfl
  | some p =>
      have hx := hc.request p rfl
      have hvalid : p.Valid := (made h.reachable hx).valid.valid
      obtain ⟨impl, himpl⟩ := Option.isSome_iff_exists.mp hvalid.2
      have hbooks := run_of_spec
        (rmwDestroyPublisherAt_books g o σ.world node p impl himpl hvalid h.context)
      have hstate := Lifecycle.run_of_spec
        (Lifecycle.rmwDestroyPublisherAt_spec o node p σ.world.state hvalid h.context)
      rw [← ((extends_rmwDestroyPublisherAt (g := g) node (some p)).run σ.world).2] at hstate
      rcases hrun : (rmwDestroyPublisherAt g o node (some p)).run σ.world with ⟨r, w'⟩
      have hperform : ((EndpointCall.destroyPublisher o node (some p)).perform g).run σ.world =
          (none, w') := by
        rw [EndpointCall.perform, StateT.run_map, hrun]
        rfl
      rw [hrun] at hbooks hstate
      cases haccepted : node.any (·.reachesPublisher σ.world.state) with
      | false =>
          obtain rfl := hbooks.rejected haccepted
          refine .rejected (next_rejected h.reachable hperform) ?_
          rintro n rfl - -
          exact haccepted
      | true =>
          obtain ⟨n, rfl, hn⟩ := (Option.any_eq_true _ _).mp haccepted
          have hdestroys := hstate.destroys haccepted
          refine .carried rfl rfl hn (h.destroys hperform hx rfl ⟨hdestroys.context, hdestroys.impl⟩
            hdestroys.heap (hbooks.accepted n rfl hn) fun y hy => ?_)
          rw [Endpoint, endpointOf, Option.mem_def.mp himpl] at hy
          cases hy
          simp [withdrawn, h.unsuppressed]

theorem destroySubscription_mayDestroy {o : Outcomes} {node : Option NodeHandle}
    {subscription : Option Subscription} (h : σ.Kept)
    (hc : (EndpointCall.destroySubscription o node subscription).Admissible g σ) :
    MayDestroy g σ (.destroySubscription o node subscription)
      (·.reachesSubscription σ.world.state) node (subscription.map .subscription) (o .guid) := by
  cases subscription with
  | none =>
      refine .rejected (next_rejected h.reachable ?_) (by simp)
      cases node <;> rfl
  | some p =>
      have hx := hc.request p rfl
      have hvalid : p.Valid := (made h.reachable hx).valid.valid
      obtain ⟨impl, himpl⟩ := Option.isSome_iff_exists.mp hvalid.2
      have hbooks := run_of_spec
        (rmwDestroySubscriptionAt_books g o σ.world node p impl himpl hvalid h.context)
      have hstate := Lifecycle.run_of_spec
        (Lifecycle.rmwDestroySubscriptionAt_spec o node p σ.world.state hvalid h.context)
      rw [← ((extends_rmwDestroySubscriptionAt (g := g) node (some p)).run σ.world).2] at hstate
      rcases hrun : (rmwDestroySubscriptionAt g o node (some p)).run σ.world with ⟨r, w'⟩
      have hperform : ((EndpointCall.destroySubscription o node (some p)).perform g).run σ.world =
          (none, w') := by
        rw [EndpointCall.perform, StateT.run_map, hrun]
        rfl
      rw [hrun] at hbooks hstate
      cases haccepted : node.any (·.reachesSubscription σ.world.state) with
      | false =>
          obtain rfl := hbooks.rejected haccepted
          refine .rejected (next_rejected h.reachable hperform) ?_
          rintro n rfl - -
          exact haccepted
      | true =>
          obtain ⟨n, rfl, hn⟩ := (Option.any_eq_true _ _).mp haccepted
          have hdestroys := hstate.destroys haccepted
          refine .carried rfl rfl hn (h.destroys hperform hx rfl ⟨hdestroys.context, hdestroys.impl⟩
            hdestroys.heap (hbooks.accepted n rfl hn) fun y hy => ?_)
          rw [Endpoint, endpointOf, Option.mem_def.mp himpl, Option.bind_some,
            Option.map_eq_some_iff] at hy
          obtain ⟨guid, hguid, rfl⟩ := hy
          cases hfound : o .guid <;> simp [withdrawnIf, withdrawn, h.unsuppressed, hguid]

/-- The graph is exact after a destruction just when the destruction conforms. -/
theorem MayDestroy.exact_iff {accepts : NodeHandle → Bool} {node : Option NodeHandle}
    {y : Option Handle} {found : Bool} (hdestroy : MayDestroy g σ c accepts node y found)
    (hg : g.Lawful) (hσ : σ.session.Reachable) (hexact : σ.Exact g) :
    (σ.next g c).Exact g ↔ ∀ n ∈ node, ∀ z ∈ y, accepts n = true →
      σ.Hosted z (nodeKey n.node) ∧ found = true := by
  cases hdestroy with
  | rejected hsame hnot =>
      rw [hsame]
      refine iff_of_true hexact fun n hn z hz haccepts => ?_
      rw [hnot n hn z hz] at haccepts
      cases haccepts
  | carried hn hy haccepts hdestroys =>
      subst hn hy
      rw [hdestroys.exact_iff hg hσ hexact]
      constructor
      · rintro h n ⟨⟩ z ⟨⟩ -
        exact h
      · exact fun h => h _ rfl _ rfl haccepts

theorem MayDestroy.moves {accepts : NodeHandle → Bool} {node : Option NodeHandle}
    {y : Option Handle} {found : Bool} (hdestroy : MayDestroy g σ c accepts node y found) :
    Moves σ (σ.next g c) := by
  cases hdestroy with
  | rejected hsame _ =>
      rw [hsame]
      exact ⟨.refl _, Nat.le_refl _, fun p hp => .inl hp⟩
  | carried _ _ _ hdestroys => exact hdestroys.toMoves

/-- What one call does to a graph that is exact. -/
theorem Kept.step (h : σ.Kept) (hg : g.Lawful) (hexact : σ.Exact g) (hc : c.Admissible g σ) :
    (σ.next g c).Kept ∧ ((σ.next g c).Exact g ↔ c.Conforms σ) := by
  cases c with
  | createPublisher o failure guid node =>
      obtain ⟨x, y, n, hjoins, hmoves⟩ := createPublisher_creates h hc
      exact ⟨h.next hc.request hmoves,
        iff_of_true (hjoins.site_exact hg h.reachable hexact) trivial⟩
  | createSubscription o failure guid node =>
      obtain ⟨x, y, n, hjoins, hmoves⟩ := createSubscription_creates h hc
      exact ⟨h.next hc.request hmoves,
        iff_of_true (hjoins.site_exact hg h.reachable hexact) trivial⟩
  | destroyPublisher o node publisher =>
      have hdestroy := destroyPublisher_mayDestroy h hc
      refine ⟨h.next hc.request hdestroy.moves, ?_⟩
      rw [hdestroy.exact_iff hg h.reachable hexact, EndpointCall.Conforms]
      simp
  | destroySubscription o node subscription =>
      have hdestroy := destroySubscription_mayDestroy h hc
      refine ⟨h.next hc.request hdestroy.moves, ?_⟩
      rw [hdestroy.exact_iff hg h.reachable hexact, EndpointCall.Conforms]
      simp

/-! ## Runs -/

theorem Starts.site_exact (h : σ.Starts g) : σ.Exact g where
  entities := by
    rw [h.entities]
    refine .empty fun x hx y hy => ?_
    obtain ⟨n, rfl⟩ := h.nodes x hx
    cases hy
  associations := by
    rw [h.associations]
    refine .empty fun x hx y hy => ?_
    obtain ⟨n, rfl⟩ := h.nodes x hx
    cases hy.1
  known x hx hendpoint := by
    obtain ⟨n, rfl⟩ := h.nodes x hx
    cases hendpoint

theorem Starts.kept (h : σ.Starts g) : σ.Kept where
  reachable := h.reachable
  unsuppressed := h.unsuppressed
  readers p hp := by
    obtain ⟨n, hn⟩ := h.nodes _ hp
    cases hn

theorem Run.site_exact (hg : g.Lawful) (h : σ.Run g) : σ.Kept ∧ σ.Exact g := by
  induction h with
  | start hstarts => exact ⟨hstarts.kept, hstarts.site_exact⟩
  | next _ hc hconforms ih =>
      obtain ⟨hkept, hexact⟩ := ih
      obtain ⟨hkept', hiff⟩ := hkept.step hg hexact hc
      exact ⟨hkept', hiff.mpr hconforms⟩

theorem MayDestroy.forgets {accepts : NodeHandle → Bool} {node : Option NodeHandle}
    {y : Option Handle} {found : Bool} (hdestroy : MayDestroy g σ c accepts node y found)
    (hexact : σ.Exact g) (hexact' : (σ.next g c).Exact g) (hx : x ∈ σ.held)
    (hgone : x ∉ (σ.next g c).held) : Forgets g σ (σ.next g c) x := by
  cases hdestroy with
  | rejected hsame _ =>
      rw [hsame] at hgone
      exact (hgone hx).elim
  | carried _ _ _ hdestroys =>
      rw [hdestroys.held, not_and_not_right] at hgone
      obtain rfl := hgone hx
      exact hdestroys.toLeaves.forgets hexact hexact'

/-- A handle that goes takes its endpoint out of the graph. -/
theorem Kept.forgets (h : σ.Kept) (hc : c.Admissible g σ) (hexact : σ.Exact g)
    (hexact' : (σ.next g c).Exact g) (hx : x ∈ σ.held) (hgone : x ∉ (σ.next g c).held) :
    Forgets g σ (σ.next g c) x := by
  have hcreates (hcreates : Creates g σ c) : Forgets g σ (σ.next g c) x := by
    obtain ⟨y, z, n, hjoins, -⟩ := hcreates
    rw [hjoins.held] at hgone
    exact (hgone (Multiset.mem_cons_of_mem hx)).elim
  cases c with
  | createPublisher o failure guid node => exact hcreates (createPublisher_creates h hc)
  | createSubscription o failure guid node => exact hcreates (createSubscription_creates h hc)
  | destroyPublisher o node publisher =>
      exact (destroyPublisher_mayDestroy h hc).forgets hexact hexact' hx hgone
  | destroySubscription o node subscription =>
      exact (destroySubscription_mayDestroy h hc).forgets hexact hexact' hx hgone

/-- In every run of calls that conform the graph lists the live endpoints and
nothing else, and it stops to do so with a call that does not conform.  An
endpoint that is destroyed is not in the graph any more. -/
theorem local_graph_exact (hg : g.Lawful) (h : σ.Run g) :
    σ.Exact g ∧ ∀ c : EndpointCall, c.Admissible g σ →
      ((σ.next g c).Exact g ↔ c.Conforms σ) ∧
      (c.Conforms σ → ∀ x ∈ σ.held, x ∉ (σ.next g c).held → Forgets g σ (σ.next g c) x) := by
  obtain ⟨hkept, hexact⟩ := h.site_exact hg
  refine ⟨hexact, fun c hc => ?_⟩
  have hiff := (hkept.step hg hexact hc).2
  exact ⟨hiff, fun hconforms x hx hgone => hkept.forgets hc hexact (hiff.mpr hconforms) hx hgone⟩

end Site

/-! ## Two nodes -/

def otherNode : Option Node :=
  ((rmwCreateNode Tables.graph (fun _ => true) false "m" "/").run nodeWorld).1

/-- A context with two nodes. -/
def Site.withNodes : Site Tables where
  world := ((rmwCreateNode Tables.graph (fun _ => true) false "m" "/").run nodeWorld).2
  held := (Session.withNode.next (.createNode (fun _ => true) "m" "/")).held

theorem Site.session_withNodes :
    Site.withNodes.session = Session.withNode.next (.createNode (fun _ => true) "m" "/") := by
  have hstate : Site.withNodes.world.state =
      ((Lifecycle.rmwCreateNode (fun _ => true) "m" "/").run nodeWorld.state).2 :=
    ((extends_rmwCreateNode Tables.graph (fun _ => true) false "m" "/").run nodeWorld).2
  rw [state_nodeWorld] at hstate
  rw [Site.session, hstate]
  rfl

theorem Site.withNodes_starts : Site.withNodes.Starts Tables.graph where
  reachable := by
    rw [session_withNodes]
    exact .next Session.withNode_reachable (.inr ⟨rfl, rfl⟩) (by decide +kernel)
  nodes := by
    have hnodes : ∀ x ∈ Site.withNodes.held, x.kind = .rmwNode := by decide +kernel
    intro x hx
    have hkind := hnodes x hx
    cases x with
    | node n => exact ⟨n, rfl⟩
    | _ => cases hkind
  unsuppressed := by decide +kernel
  entities := by decide +kernel
  associations := by decide +kernel

/-- A publisher is created on the first node. -/
def createsPlain : EndpointCall :=
  .createPublisher (fun _ => true) ⟨false, false⟩ (plainGuid 1) plainNode

theorem createsPlain_admissible : createsPlain.Admissible Tables.graph Site.withNodes where
  request := ⟨by decide +kernel, by decide +kernel⟩
  created := by
    rintro guid ⟨⟩
    refine ⟨⟨by decide +kernel, fun e => ?_, fun e key => ?_⟩, by decide +kernel⟩
    · rw [Site.withNodes_starts.entities]
      exact Finset.notMem_empty _
    · rw [Site.withNodes_starts.associations]
      exact Finset.notMem_empty _

def Site.withPublisher : Site Tables := Site.withNodes.next Tables.graph createsPlain

theorem Site.withPublisher_run : Site.withPublisher.Run Tables.graph :=
  .next (.start Site.withNodes_starts) createsPlain_admissible trivial

theorem Site.local_graph_exact_withPublisher : Site.withPublisher.Exact Tables.graph ∧
    ∀ c : EndpointCall, c.Admissible Tables.graph Site.withPublisher →
      ((Site.withPublisher.next Tables.graph c).Exact Tables.graph ↔ c.Conforms Site.withPublisher) ∧
      (c.Conforms Site.withPublisher → ∀ x ∈ Site.withPublisher.held,
        x ∉ (Site.withPublisher.next Tables.graph c).held →
          Forgets Tables.graph Site.withPublisher (Site.withPublisher.next Tables.graph c) x) :=
  local_graph_exact Tables.lawful Site.withPublisher_run

def plainPublisher : Option Publisher :=
  ((rmwCreatePublisher Tables.graph (fun _ => true) ⟨false, false⟩ (plainGuid 1) plainNode).run
    Site.withNodes.world).1

/-- The publisher is destroyed with the other node. -/
def destroysPlain : EndpointCall :=
  .destroyPublisher (fun _ => true)
    (otherNode.map fun n => ⟨n, some ⟨1, Site.withPublisher.world.state.context.impl⟩, some 1⟩)
    plainPublisher

/-- The publisher stays on the list of the first node. -/
theorem Site.publisher_stays_listed : ¬ ∀ (σ : Site Tables) (c : EndpointCall),
    σ.Run Tables.graph → c.Admissible Tables.graph σ →
    (σ.next Tables.graph c).Exact Tables.graph := by
  intro h
  have hheld : ∀ p ∈ plainPublisher, .publisher p ∈ Site.withPublisher.held := by decide +kernel
  have hexact := h Site.withPublisher destroysPlain Site.withPublisher_run ⟨hheld, nofun⟩
  have hlisted : (.writer, plainGuid 1, some "n", some "/") ∈ Tables.graph.associations
      (Site.withPublisher.next Tables.graph destroysPlain).world.books.graph := by
    decide +kernel
  have hnodes : ∀ x ∈ (Site.withPublisher.next Tables.graph destroysPlain).held,
      isEndpoint x = false := by
    decide +kernel
  obtain ⟨x, hx, hendpoint, -⟩ := (hexact.associations.mem _).mp hlisted
  have hnode := hnodes x hx
  cases x with
  | publisher p => cases hnode
  | subscription p => cases hnode
  | _ => cases hendpoint

end RmwZzdds.Registration
