import RmwZzdds.Lifecycle.Session

/-!
# The context knows what is live

At every call boundary of a session the counter and the containers of the
context agree with the live objects, and no entity refers to a node that is
gone.
-/

namespace RmwZzdds

open Ownership Std.Do

namespace Lifecycle

open Service (Guid)

/-! ## Containers and live objects -/

/-- A container holds exactly the live handles of a kind. -/
structure State.Holds {α : Type} (s : State) (kind : Kind) (object : α → Obj) (xs : Finset α) :
    Prop where
  live : ∀ x, x ∈ s.heap.live ∧ x.kind = kind ↔ ∃ a ∈ xs, object a = x
  distinct : ∀ a ∈ xs, ∀ b ∈ xs, object a = object b → a = b

/-- The number of live objects of a kind. -/
def State.count (s : State) (kind : Kind) : ℕ := (s.heap.live.filter fun x => x.kind = kind).card

/-- The node is a live node of the context. -/
def State.HasNode (s : State) (node : Obj) : Prop := ∃ n ∈ s.entities.nodes, n.object = node

/-- The context knows what is live. -/
structure State.Exact (s : State) : Prop where
  active : s.entities.activeEntities = s.count .rmwNode + s.count .rmwPublisher +
    s.count .rmwSubscription + s.count .rmwGuardCondition + s.count .rmwWaitSet
  underflow : s.entities.underflow = false
  nodes : s.Holds .rmwNode (·.object) s.entities.nodes
  publishers : s.Holds .rmwPublisher (·.object) s.entities.publishers
  subscriptions : s.Holds .rmwSubscription (·.object) s.entities.subscriptions
  ends : ∀ role, s.Holds (.rmwServiceEntity role) (·.object) (s.entities.ends role)
  guids : ∀ g, g ∈ s.entities.localPublicationGuids ↔
    ∃ p ∈ s.entities.publishers, ∃ impl ∈ p.data, impl.rtpsGuid = g
  publisherNodes : ∀ p ∈ s.entities.publishers, ∃ impl ∈ p.data, s.HasNode impl.node
  subscriptionNodes : ∀ p ∈ s.entities.subscriptions, ∃ impl ∈ p.data, s.HasNode impl.node
  endNodes : ∀ role, ∀ x ∈ s.entities.ends role, ∃ impl ∈ x.data, s.HasNode impl.node
  destroyNode : ∀ node s', (rmwDestroyNode (some node)).run s = (.ok, s') →
    (∀ p ∈ s.entities.publishers, ∀ impl ∈ p.data, impl.node ≠ node.object) ∧
    (∀ p ∈ s.entities.subscriptions, ∀ impl ∈ p.data, impl.node ≠ node.object) ∧
    ∀ role, ∀ x ∈ s.entities.ends role, ∀ impl ∈ x.data, impl.node ≠ node.object

section

variable {F : Multiset Handle} {s : State}

/-- The counted handles, kind by kind. -/
theorem countP_counted (F : Multiset Handle) : F.countP (fun x => x.counted = true) =
    F.countP (fun x => x.kind = .rmwNode) + F.countP (fun x => x.kind = .rmwPublisher) +
    F.countP (fun x => x.kind = .rmwSubscription) +
    F.countP (fun x => x.kind = .rmwGuardCondition) + F.countP (fun x => x.kind = .rmwWaitSet) := by
  induction F using Multiset.induction with
  | empty => rfl
  | cons x F ih =>
    simp only [Multiset.countP_cons, ih]
    cases x <;> simp [Handle.counted, Handle.kind] <;> omega

theorem Registry.count (hF : Registry F s.heap s.entities) {kind : Kind}
    (hkind : kind.isHandle = true) : s.count kind = F.countP fun x => x.kind = kind := by
  have hcard := hF.lists.card_filter (Q := fun k => k = kind) (by simp +contextual [hkind])
  simp only [decide_eq_true_eq] at hcard
  rw [State.count, hcard]
  refine Multiset.countP_congr rfl fun x hx => ?_
  rw [(hF.made x hx).handle.kind]

/-- A container that lists the handles of its kind. -/
theorem Registry.holds {α : Type} {kind : Kind} {object : α → Obj} {xs : Finset α}
    {wrap : α → Handle} (hF : Registry F s.heap s.entities) (hkind : kind.isHandle = true)
    (hxs : ∀ a, a ∈ xs ↔ wrap a ∈ F) (hobject : ∀ a, (wrap a).object = object a)
    (hwrap : ∀ x : Handle, x.kind = kind ↔ ∃ a, x = wrap a)
    (hinj : ∀ a b, wrap a = wrap b → a = b) : s.Holds kind object xs where
  live x := by
    constructor
    · rintro ⟨hlive, rfl⟩
      obtain ⟨y, hy, rfl⟩ := (hF.lists.live x hkind).mp hlive
      obtain ⟨a, rfl⟩ := (hwrap y).mp (hF.made y hy).handle.kind.symm
      exact ⟨a, (hxs a).mpr hy, (hobject a).symm⟩
    · rintro ⟨a, ha, rfl⟩
      have hmem := (hxs a).mp ha
      rw [← hobject a]
      refine ⟨hF.lists.mem_live hmem, ?_⟩
      rw [(hF.made _ hmem).handle.kind]
      exact (hwrap _).mpr ⟨a, rfl⟩
  distinct a ha b hb heq := by
    refine hinj a b (hF.lists.key_inj ((hxs a).mp ha) ((hxs b).mp hb) ?_)
    rw [hobject, hobject, heq]

theorem Registry.hasNode (hF : Registry F s.heap s.entities) {x : Handle} {n : Obj} (hx : x ∈ F)
    (hn : x.recordedNode = some n) : s.HasNode n := by
  obtain ⟨m, hm, heq⟩ := hF.nodes x hx n hn
  exact ⟨m, (hF.tallies.nodes m).mpr hm, heq⟩

theorem Registry.publisherNodes (hF : Registry F s.heap s.entities) :
    ∀ p ∈ s.entities.publishers, ∃ impl ∈ p.data, s.HasNode impl.node := by
  intro p hp
  have hmem := (hF.tallies.publishers p).mp hp
  obtain ⟨impl, himpl⟩ := Option.isSome_iff_exists.mp (hF.made _ hmem).valid.valid.2
  exact ⟨impl, himpl, hF.hasNode hmem (by rw [Handle.recordedNode, himpl]; rfl)⟩

theorem Registry.subscriptionNodes (hF : Registry F s.heap s.entities) :
    ∀ p ∈ s.entities.subscriptions, ∃ impl ∈ p.data, s.HasNode impl.node := by
  intro p hp
  have hmem := (hF.tallies.subscriptions p).mp hp
  obtain ⟨impl, himpl⟩ := Option.isSome_iff_exists.mp (hF.made _ hmem).valid.valid.2
  exact ⟨impl, himpl, hF.hasNode hmem (by rw [Handle.recordedNode, himpl]; rfl)⟩

theorem Registry.endNodes (hF : Registry F s.heap s.entities) :
    ∀ role, ∀ x ∈ s.entities.ends role, ∃ impl ∈ x.data, s.HasNode impl.node := by
  intro role x hx
  have hmem := (hF.tallies.ends role x).mp hx
  have hvalid : x.Valid := (hF.made _ hmem).valid
  obtain ⟨impl, himpl⟩ := Option.isSome_iff_exists.mp hvalid.2
  exact ⟨impl, himpl, hF.hasNode hmem (by rw [Handle.recordedNode, himpl]; rfl)⟩

/-- What refers to a node keeps it. -/
theorem rmwDestroyNode_unowned {node : Node} {s' : State}
    (hrun : (rmwDestroyNode (some node)).run s = (.ok, s')) :
    nodeOwnsEntities s.entities node = false := by
  rw [← Bool.not_eq_true]
  intro howns
  have hfailed := (run_of_spec (rmwDestroyNode_owned node s howns)).1
  rw [hrun] at hfailed
  exact hfailed rfl

theorem Registry.guids_iff (hF : Registry F s.heap s.entities) (g : Guid) :
    g ∈ s.entities.localPublicationGuids ↔
      ∃ p ∈ s.entities.publishers, ∃ impl ∈ p.data, impl.rtpsGuid = g := by
  rw [hF.tallies.guids]
  constructor
  · rintro ⟨x, hx, hg⟩
    cases x with
    | publisher p =>
      obtain ⟨impl, himpl, heq⟩ := Option.map_eq_some_iff.mp hg
      exact ⟨p, (hF.tallies.publishers p).mpr hx, impl, himpl, heq⟩
    | _ => cases hg
  · rintro ⟨p, hp, impl, himpl, rfl⟩
    refine ⟨.publisher p, (hF.tallies.publishers p).mp hp, ?_⟩
    rw [Handle.guid, Option.mem_def.mp himpl]
    rfl

theorem Registry.isExact (hF : Registry F s.heap s.entities) : s.Exact where
  active := by
    rw [hF.tallies.active, countP_counted, hF.count rfl, hF.count rfl, hF.count rfl, hF.count rfl,
      hF.count rfl]
  underflow := hF.tallies.underflow
  nodes := hF.holds rfl hF.tallies.nodes (fun _ => rfl)
    (fun x => by cases x <;> simp [Handle.kind]) (fun _ _ heq => Handle.node.inj heq)
  publishers := hF.holds rfl hF.tallies.publishers (fun _ => rfl)
    (fun x => by cases x <;> simp [Handle.kind]) (fun _ _ heq => Handle.publisher.inj heq)
  subscriptions := hF.holds rfl hF.tallies.subscriptions (fun _ => rfl)
    (fun x => by cases x <;> simp [Handle.kind]) (fun _ _ heq => Handle.subscription.inj heq)
  ends role := hF.holds rfl (hF.tallies.ends role) (fun _ => rfl)
    (fun x => by cases x <;> simp [Handle.kind, eq_comm])
    (fun _ _ heq => (Handle.serviceEntity.inj heq).2)
  guids := hF.guids_iff
  publisherNodes := hF.publisherNodes
  subscriptionNodes := hF.subscriptionNodes
  endNodes := hF.endNodes
  destroyNode node s' hrun := by
    have howns := rmwDestroyNode_unowned hrun
    have hunused : ∀ x ∈ F, x.recordedNode ≠ some node.object := by
      intro x hx hrecorded
      have howned := (hF.tallies.owns_iff node).mpr ⟨x, hx, hrecorded⟩
      simp [howns] at howned
    refine ⟨fun p hp impl himpl heq => ?_, fun p hp impl himpl heq => ?_,
      fun role x hx impl himpl heq => ?_⟩
    · refine hunused _ ((hF.tallies.publishers p).mp hp) ?_
      rw [Handle.recordedNode, Option.mem_def.mp himpl, Option.map_some, heq]
    · refine hunused _ ((hF.tallies.subscriptions p).mp hp) ?_
      rw [Handle.recordedNode, Option.mem_def.mp himpl, Option.map_some, heq]
    · refine hunused _ ((hF.tallies.ends role x).mp hx) ?_
      rw [Handle.recordedNode, Option.mem_def.mp himpl, Option.map_some, heq]

end

/-! ## Every call boundary -/

/-- However the calls of a session went, the context knows what is live. -/
theorem Session.exact {σ : Session} (hσ : σ.Reachable) : σ.state.Exact := by
  obtain ⟨orphans, hsound⟩ := hσ.sound
  exact hsound.sound.registry.isExact

/-- Options in which only the enclave owns memory. -/
def plainOptions : InitOptions := { InitOptions.zero with
  implementationIdentifier := some identifier
  enclave := some ⟨"/", ⟨.option .enclave, 0⟩⟩ }

def plainGuid (byte : UInt8) : Guid := ⟨List.replicate 16 byte, List.length_replicate⟩

/-- A context whose initialization met no failure. -/
def Session.initial : Session where
  state := ((rmwInit (fun _ _ => true) (fun _ => ⟨.error, nofun⟩) (plainGuid 0)
    (some plainOptions) false).run ⟨.empty, ∅, .empty, .zero, .new⟩).2
  held := 0

theorem Session.initial_begins : Session.initial.Begins :=
  ⟨fun _ _ => true, fun _ => ⟨.error, nofun⟩, plainGuid 0, some plainOptions, false,
    ⟨.empty, ∅, .empty, .zero, .new⟩, by simp [State.Bare], Prod.ext (by decide +kernel) rfl, rfl⟩

/-- The node of the user, and the client that it gets. -/
def Session.withNode : Session := Session.initial.next (.createNode (fun _ => true) "n" "/")

def plainNode : Option Node :=
  ((rmwCreateNode (fun _ => true) "n" "/").run Session.initial.state).1

def Session.withClient : Session :=
  Session.withNode.next (.createServiceEntity .client (fun _ _ => true) (plainGuid 1) plainNode)

theorem Session.withNode_reachable : Session.withNode.Reachable :=
  .next (.begin Session.initial_begins) (.inr ⟨rfl, rfl⟩) (by decide +kernel)

theorem Session.withClient_reachable : Session.withClient.Reachable :=
  .next Session.withNode_reachable ⟨by decide +kernel, by decide +kernel⟩ (by decide +kernel)

theorem Session.exact_withClient : Session.withClient.state.Exact :=
  Session.exact Session.withClient_reachable

end Lifecycle

end RmwZzdds
