import RmwZzdds.Library.Inventory
import RmwZzdds.Lifecycle.GraphChannel

/-!
# The registry of a context

A context keeps its entities in six containers and a counter, and every call
that makes or releases an entity changes some of them by hand.  Here the
entities are a multiset of handles, `Registry F h e` says that the heap and the
containers are those of the handles in `F`, and every creation and every
destruction comes with the change it makes to `F`.
-/

namespace RmwZzdds

open Ownership Std.Do

namespace Lifecycle

open Service (Guid)

/-! ## Handles -/

/-- The handle of a live entity. -/
inductive Handle where
  | node (n : Node)
  | publisher (p : Publisher)
  | subscription (p : Subscription)
  | serviceEntity (role : Role) (x : ServiceEntity)
  | guardCondition (g : GuardCondition)
  | waitSet (w : WaitSet)
deriving DecidableEq

/-- The objects of a client or a service itself. -/
def ServiceEntity.objects (x : ServiceEntity) : Finset Obj :=
  {x.object} ∪ (x.data.map (·.object)).toFinset ∪ x.serviceName.toFinset

/-- The fields that are checked in a client or a service. -/
def ServiceEntity.Valid (x : ServiceEntity) : Prop :=
  x.implementationIdentifier = some identifier ∧ x.data.isSome

namespace Handle

def kind : Handle → Kind
  | .node _ => .rmwNode
  | .publisher _ => .rmwPublisher
  | .subscription _ => .rmwSubscription
  | .serviceEntity role _ => .rmwServiceEntity role
  | .guardCondition _ => .rmwGuardCondition
  | .waitSet _ => .rmwWaitSet

def object : Handle → Obj
  | .node n => n.object
  | .publisher p => p.object
  | .subscription p => p.object
  | .serviceEntity _ x => x.object
  | .guardCondition g => g.object
  | .waitSet w => w.object

def objects : Handle → Finset Obj
  | .node n => n.objects
  | .publisher p => p.objects
  | .subscription p => p.objects
  | .serviceEntity _ x => x.objects
  | .guardCondition g => g.objects
  | .waitSet w => w.objects

/-- The node that the implementation of an entity refers to. -/
def recordedNode : Handle → Option Obj
  | .publisher p => p.data.map (·.node)
  | .subscription p => p.data.map (·.node)
  | .serviceEntity _ x => x.data.map (·.node)
  | _ => none

def guid : Handle → Option Guid
  | .publisher p => p.data.map (·.rtpsGuid)
  | _ => none

/-- The fields that its destruction checks. -/
def Valid : Handle → Prop
  | .node n => n.Valid
  | .publisher p => p.Made
  | .subscription p => p.Made
  | .serviceEntity _ x => x.Valid
  | .guardCondition g => g.Valid
  | .waitSet w => w.Valid

/-- The handles in `active_entities`. -/
def counted : Handle → Bool
  | .serviceEntity _ _ => false
  | _ => true

/-- A handle as a creation makes it. -/
structure Made (x : Handle) : Prop where
  handle : IsHandle x.kind x.object x.objects
  valid : x.Valid

end Handle

theorem Handle.isHandle_kind (x : Handle) : x.kind.isHandle = true := by
  cases x <;> rfl

/-! ## The containers -/

/-- What its creation enters into the containers. -/
def Handle.register (e : Entities) : Handle → Entities
  | .node n => (e.addNode n).enter 1
  | .publisher p => { e with
    publishers := insert p e.publishers
    localPublicationGuids := p.data.elim e.localPublicationGuids fun impl =>
      insert impl.rtpsGuid e.localPublicationGuids
    activeEntities := e.activeEntities + 1 }
  | .subscription p => (e.addSubscription p).enter 1
  | .serviceEntity role x => e.addEnd role x
  | .guardCondition _ => e.enter 1
  | .waitSet _ => e.enter 1

/-- What its destruction takes out of the containers. -/
def Handle.unregister (e : Entities) : Handle → Entities
  | .node n => (e.removeNode n).leave
  | .publisher p => { e.leave with
    publishers := e.publishers.erase p
    localPublicationGuids := p.data.elim e.localPublicationGuids fun impl =>
      e.localPublicationGuids.erase impl.rtpsGuid }
  | .subscription p => (e.removeSubscription p).leave
  | .serviceEntity role x => e.removeEnd role x
  | .guardCondition _ => e.leave
  | .waitSet _ => e.leave

/-- Clients and services are only in their own container. -/
theorem Entities.addEnd_frame (e : Entities) (role : Role) (x : ServiceEntity) :
    (e.addEnd role x).nodes = e.nodes ∧ (e.addEnd role x).publishers = e.publishers ∧
    (e.addEnd role x).subscriptions = e.subscriptions ∧
    (e.addEnd role x).localPublicationGuids = e.localPublicationGuids ∧
    (e.addEnd role x).activeEntities = e.activeEntities ∧
    (e.addEnd role x).underflow = e.underflow := by
  cases role <;> exact ⟨rfl, rfl, rfl, rfl, rfl, rfl⟩

theorem Entities.removeEnd_frame (e : Entities) (role : Role) (x : ServiceEntity) :
    (e.removeEnd role x).nodes = e.nodes ∧ (e.removeEnd role x).publishers = e.publishers ∧
    (e.removeEnd role x).subscriptions = e.subscriptions ∧
    (e.removeEnd role x).localPublicationGuids = e.localPublicationGuids ∧
    (e.removeEnd role x).activeEntities = e.activeEntities ∧
    (e.removeEnd role x).underflow = e.underflow := by
  cases role <;> exact ⟨rfl, rfl, rfl, rfl, rfl, rfl⟩

theorem Entities.mem_ends_addEnd (e : Entities) (role role' : Role) (x y : ServiceEntity) :
    y ∈ (e.addEnd role x).ends role' ↔ role' = role ∧ y = x ∨ y ∈ e.ends role' := by
  cases role <;> cases role' <;> simp [addEnd, ends]

theorem Entities.mem_ends_removeEnd (e : Entities) (role role' : Role) (x y : ServiceEntity) :
    y ∈ (e.removeEnd role x).ends role' ↔ ¬ (role' = role ∧ y = x) ∧ y ∈ e.ends role' := by
  cases role <;> cases role' <;> simp [removeEnd, ends]

/-- The containers are those of the handles in `F`. -/
structure Tallies (F : Multiset Handle) (e : Entities) : Prop where
  nodes : ∀ n, n ∈ e.nodes ↔ .node n ∈ F
  publishers : ∀ p, p ∈ e.publishers ↔ .publisher p ∈ F
  subscriptions : ∀ p, p ∈ e.subscriptions ↔ .subscription p ∈ F
  ends : ∀ role x, x ∈ e.ends role ↔ .serviceEntity role x ∈ F
  guids : ∀ g, g ∈ e.localPublicationGuids ↔ ∃ x ∈ F, x.guid = some g
  active : e.activeEntities = F.countP fun x => x.counted = true
  underflow : e.underflow = false

theorem Tallies.empty : Tallies 0 .empty where
  nodes := by simp [Entities.empty]
  publishers := by simp [Entities.empty]
  subscriptions := by simp [Entities.empty]
  ends role x := by cases role <;> simp [Entities.empty, Entities.ends]
  guids := by simp [Entities.empty]
  active := by simp [Entities.empty]
  underflow := rfl

/-- A creation is entered. -/
theorem Tallies.register {F : Multiset Handle} {e : Entities} (h : Tallies F e) (x : Handle) :
    Tallies (x ::ₘ F) (x.register e) where
  nodes n := by
    cases x <;> simp [Handle.register, Entities.addNode, Entities.addSubscription, Entities.enter,
      Entities.addEnd_frame, h.nodes]
  publishers p := by
    cases x <;> simp [Handle.register, Entities.addNode, Entities.addSubscription, Entities.enter,
      Entities.addEnd_frame, h.publishers]
  subscriptions p := by
    cases x <;> simp [Handle.register, Entities.addNode, Entities.addSubscription, Entities.enter,
      Entities.addEnd_frame, h.subscriptions]
  ends role y := by
    cases x with
    | serviceEntity role' x => simp [Handle.register, Entities.mem_ends_addEnd, h.ends]
    | _ =>
      rw [Multiset.mem_cons, ← h.ends]
      cases role <;> simp [Handle.register, Entities.ends, Entities.addNode, Entities.enter,
        Entities.addSubscription]
  guids g := by
    cases x with
    | publisher p =>
      cases hp : p.data <;>
        simp [Handle.register, hp, Multiset.mem_cons, Handle.guid, h.guids, eq_comm]
    | _ => simp [Handle.register, Entities.addNode, Entities.addSubscription, Entities.enter,
        Entities.addEnd_frame, h.guids, Handle.guid]
  active := by
    rw [Multiset.countP_cons, ← h.active]
    cases x <;> simp [Handle.register, Entities.addNode, Entities.addSubscription, Entities.enter,
      Entities.addEnd_frame, Handle.counted]
  underflow := by
    cases x <;> simp [Handle.register, Entities.addNode, Entities.addSubscription, Entities.enter,
      Entities.addEnd_frame, h.underflow]

/-- A destruction is taken out, if nothing else has the same GUID. -/
theorem Tallies.unregister {F : Multiset Handle} {e : Entities} {x : Handle}
    (h : Tallies (x ::ₘ F) e) (hx : x ∉ F) (hguid : ∀ y ∈ F, ∀ g ∈ x.guid, y.guid ≠ some g) :
    Tallies F (x.unregister e) where
  nodes n := by
    have hn := h.nodes n
    cases x <;> simp_all [Handle.unregister, Entities.removeNode, Entities.removeSubscription,
      Entities.leave, Entities.removeEnd_frame]
    grind
  publishers p := by
    have hp := h.publishers p
    cases x <;> simp_all [Handle.unregister, Entities.removeNode, Entities.removeSubscription,
      Entities.leave, Entities.removeEnd_frame]
    grind
  subscriptions p := by
    have hp := h.subscriptions p
    cases x <;> simp_all [Handle.unregister, Entities.removeNode, Entities.removeSubscription,
      Entities.leave, Entities.removeEnd_frame]
    grind
  ends role y := by
    have hy := h.ends role y
    cases x with
    | serviceEntity role' x =>
      rw [Handle.unregister, Entities.mem_ends_removeEnd, hy]
      simp only [Multiset.mem_cons, Handle.serviceEntity.injEq]
      grind
    | _ =>
      cases role <;> simp_all [Handle.unregister, Entities.ends, Entities.removeNode,
        Entities.leave, Entities.removeSubscription]
  guids g := by
    have hg := h.guids g
    cases x with
    | publisher p =>
      cases hp : p.data with
      | none => simp_all [Handle.unregister, Entities.leave, Handle.guid]
      | some impl =>
        simp_all [Handle.unregister, Handle.guid]
        grind
    | _ => simp_all [Handle.unregister, Entities.removeNode, Entities.removeSubscription,
        Entities.leave, Entities.removeEnd_frame, Handle.guid]
  active := by
    have hactive := h.active
    rw [Multiset.countP_cons] at hactive
    cases x <;> simp_all [Handle.unregister, Entities.removeNode, Entities.removeSubscription,
      Entities.leave, Entities.removeEnd_frame, Handle.counted]
  underflow := by
    have hactive := h.active
    rw [Multiset.countP_cons] at hactive
    cases x <;> simp_all [Handle.unregister, Entities.removeNode, Entities.removeSubscription,
      Entities.leave, Entities.removeEnd_frame, Handle.counted, h.underflow]

/-- A node owns the entities that refer to it. -/
theorem Tallies.owns_iff {F : Multiset Handle} {e : Entities} (h : Tallies F e) (node : Node) :
    nodeOwnsEntities e node = true ↔ ∃ x ∈ F, x.recordedNode = some node.object := by
  simp only [nodeOwnsEntities, Bool.or_eq_true, decide_eq_true_eq, or_assoc]
  constructor
  · rintro (⟨p, hp, hrecorded⟩ | ⟨p, hp, hrecorded⟩ | ⟨x, hx, hrecorded⟩ | ⟨x, hx, hrecorded⟩)
    · exact ⟨.publisher p, (h.publishers p).mp hp, hrecorded⟩
    · exact ⟨.subscription p, (h.subscriptions p).mp hp, hrecorded⟩
    · exact ⟨.serviceEntity .client x, (h.ends .client x).mp hx, hrecorded⟩
    · exact ⟨.serviceEntity .service x, (h.ends .service x).mp hx, hrecorded⟩
  · rintro ⟨x, hx, hrecorded⟩
    cases x with
    | publisher p => exact .inl ⟨p, (h.publishers p).mpr hx, hrecorded⟩
    | subscription p => exact .inr (.inl ⟨p, (h.subscriptions p).mpr hx, hrecorded⟩)
    | serviceEntity role x =>
      cases role with
      | client => exact .inr (.inr (.inl ⟨x, (h.ends .client x).mpr hx, hrecorded⟩))
      | service => exact .inr (.inr (.inr ⟨x, (h.ends .service x).mpr hx, hrecorded⟩))
    | _ => cases hrecorded

/-! ## The registry -/

/-- The heap and the containers are those of the handles in `F`, no two
publishers have the same GUID, and every endpoint refers to a live node. -/
structure Registry (F : Multiset Handle) (h : Heap Kind) (e : Entities) : Prop where
  lists : h.Lists Kind.isHandle Handle.object F
  tallies : Tallies F e
  made : ∀ x ∈ F, x.Made
  guids : ∀ x ∈ F, ∀ y ∈ F, ∀ g ∈ x.guid, y.guid = some g → x = y
  nodes : ∀ x ∈ F, ∀ n ∈ x.recordedNode, ∃ m, .node m ∈ F ∧ m.object = n

namespace Registry

variable {F : Multiset Handle} {h h' : Heap Kind} {e : Entities} {x : Handle}

theorem empty (hnone : ∀ x ∈ h.live, x.kind.isHandle = false) : Registry 0 h .empty where
  lists := .nil hnone
  tallies := .empty
  made := by simp
  guids := by simp
  nodes := by simp

/-- A GUID that no publisher has. -/
theorem guid_notMem {guid : Guid} (hF : Registry F h e) (hguid : ∀ x ∈ F, x.guid ≠ some guid) :
    guid ∉ e.localPublicationGuids := by
  intro hmem
  obtain ⟨x, hx, heq⟩ := (hF.tallies.guids guid).mp hmem
  exact hguid x hx heq

/-- A call that leaves objects other than handles. -/
theorem grow (hF : Registry F h e) {xs : Finset Obj} (howns : h.Owns xs h')
    (hnone : ∀ x ∈ xs, x.kind.isHandle = false) : Registry F h' e :=
  ⟨hF.lists.grow howns hnone, hF.tallies, hF.made, hF.guids, hF.nodes⟩

/-- A call that leaves nothing. -/
theorem same (hF : Registry F h e) (howns : h.Owns ∅ h') : Registry F h' e :=
  hF.grow howns (by simp)

/-- A call that leaves a new entity. -/
theorem add (hF : Registry F h e) (hmade : x.Made) (howns : h.Owns x.objects h')
    (hguid : ∀ g ∈ x.guid, g ∉ e.localPublicationGuids)
    (hnode : ∀ n ∈ x.recordedNode, ∃ m, .node m ∈ F ∧ m.object = n) :
    Registry (x ::ₘ F) h' (x.register e) where
  lists := by
    have hkind := hmade.handle.kind
    refine hF.lists.add howns hmade.handle.mem ?_ hmade.handle.only
    rw [hkind]
    exact x.isHandle_kind
  tallies := hF.tallies.register x
  made y hy := by
    rcases Multiset.mem_cons.mp hy with rfl | hy
    · exact hmade
    · exact hF.made y hy
  guids y hy z hz g hg hz' := by
    have hnew : ∀ w ∈ F, ∀ g ∈ w.guid, x.guid ≠ some g := fun w hw g hg hx =>
      hguid g hx ((hF.tallies.guids g).mpr ⟨w, hw, hg⟩)
    rcases Multiset.mem_cons.mp hy with rfl | hyF
    · rcases Multiset.mem_cons.mp hz with rfl | hzF
      · rfl
      · exact (hnew z hzF g hz' hg).elim
    · rcases Multiset.mem_cons.mp hz with rfl | hzF
      · exact (hnew y hyF g hg hz').elim
      · exact hF.guids y hyF z hzF g hg hz'
  nodes y hy n hn := by
    have hF' : ∃ m, .node m ∈ F ∧ m.object = n := by
      rcases Multiset.mem_cons.mp hy with rfl | hy
      · exact hnode n hn
      · exact hF.nodes y hy n hn
    obtain ⟨m, hm, heq⟩ := hF'
    exact ⟨m, Multiset.mem_cons_of_mem hm, heq⟩

/-- A call that leaves a new entity other than an endpoint. -/
theorem add_plain (hF : Registry F h e) (hmade : x.Made) (howns : h.Owns x.objects h')
    (hguid : x.guid = none) (hnode : x.recordedNode = none) :
    Registry (x ::ₘ F) h' (x.register e) :=
  hF.add hmade howns (by simp [hguid]) (by simp [hnode])

/-- A call that releases an entity, which must not be the node of another. -/
theorem remove (hF : Registry (x ::ₘ F) h e)
    (hunused : ∀ n, x = .node n → ∀ y ∈ F, y.recordedNode ≠ some n.object) :
    Registry F (h.free x.objects) (x.unregister e) where
  lists := by
    have hmade := (hF.made x (Multiset.mem_cons_self x F)).handle
    exact hF.lists.remove hmade.mem hmade.only
  tallies := by
    refine hF.tallies.unregister hF.lists.notMem fun y hy g hg hy' => ?_
    have heq := hF.guids x (Multiset.mem_cons_self x F) y (Multiset.mem_cons_of_mem hy) g hg hy'
    exact hF.lists.notMem (heq ▸ hy)
  made y hy := hF.made y (Multiset.mem_cons_of_mem hy)
  guids y hy z hz := hF.guids y (Multiset.mem_cons_of_mem hy) z (Multiset.mem_cons_of_mem hz)
  nodes y hy n hn := by
    obtain ⟨m, hm, heq⟩ := hF.nodes y (Multiset.mem_cons_of_mem hy) n hn
    rcases Multiset.mem_cons.mp hm with hx | hm
    · exact (hunused m hx.symm y hy (heq ▸ hn)).elim
    · exact ⟨m, hm, heq⟩

/-- A call that releases an entity other than a node. -/
theorem remove_plain (hF : Registry (x ::ₘ F) h e) (hx : x.kind ≠ .rmwNode) :
    Registry F (h.free x.objects) (x.unregister e) := by
  refine hF.remove ?_
  rintro n rfl
  exact (hx rfl).elim

/-- Every registered handle is live. -/
theorem registered {s : State} (hF : Registry F s.heap s.entities) : s.Registered where
  nodes n hn := hF.lists.mem_live ((hF.tallies.nodes n).mp hn)
  publishers p hp := hF.lists.mem_live ((hF.tallies.publishers p).mp hp)
  subscriptions p hp := hF.lists.mem_live ((hF.tallies.subscriptions p).mp hp)
  ends role x hx := hF.lists.mem_live ((hF.tallies.ends role x).mp hx)

end Registry

/-! ## Creations -/

section

variable {o : Outcomes} {F : Multiset Handle} {s s' : State}

theorem CreatesNode.registry {name namespace_ : Option String} {n : Node}
    (h : CreatesNode o name namespace_ s (some n) s') (hF : Registry F s.heap s.entities)
    (hreturns : GraphReturns o s) : Registry (.node n ::ₘ F) s'.heap s'.entities := by
  rw [h.entities hF.registered hreturns]
  exact hF.add_plain ⟨h.handle n rfl, h.valid n rfl⟩ h.effect.owns rfl rfl

theorem CreatesNode.registry_none {name namespace_ : Option String}
    (h : CreatesNode o name namespace_ s none s') (hF : Registry F s.heap s.entities)
    (hreturns : GraphReturns o s) : Registry F s'.heap s'.entities :=
  h.entities hF.registered hreturns ▸ hF.same h.effect.owns

/-- A new publisher refers to the node it was created for. -/
theorem CreatesPublisher.recordedNode {guid : Guid} {n : Node} {p : Publisher}
    (h : CreatesPublisher o guid (some n) s (some p) s') :
    (Handle.publisher p).recordedNode = some n.object := by
  obtain ⟨impl, himpl⟩ := Option.isSome_iff_exists.mp (h.valid p rfl).2
  have hrecorded := (h.data p rfl impl himpl).2.1
  rw [Handle.recordedNode, himpl]
  exact hrecorded.symm

theorem CreatesPublisher.registry {guid : Guid} {n : Node} {p : Publisher}
    (h : CreatesPublisher o guid (some n) s (some p) s') (hF : Registry F s.heap s.entities)
    (hguid : ∀ x ∈ F, x.guid ≠ some guid) (hnode : .node n ∈ F) :
    Registry (.publisher p ::ₘ F) s'.heap s'.entities := by
  have hguid := hF.guid_notMem hguid
  obtain ⟨impl, himpl⟩ := Option.isSome_iff_exists.mp (h.valid p rfl).2
  obtain ⟨rfl, -, htopic, hwriter⟩ := h.data p rfl impl himpl
  have hmade : (Handle.publisher p).Made := by
    refine ⟨h.handle p rfl, h.valid p rfl, fun impl' himpl' => ?_⟩
    cases Option.mem_unique himpl himpl'
    exact ⟨htopic, hwriter⟩
  have hregister : s'.entities = (Handle.publisher p).register s.entities := by
    rw [h.entities hF.registered hguid, Handle.register, himpl]
    rfl
  rw [hregister]
  refine hF.add hmade h.effect.owns ?_ ?_
  · intro g hg
    simp only [Handle.guid, himpl, Option.map_some, Option.mem_some_iff] at hg
    exact hg ▸ hguid
  · intro m hm
    exact ⟨n, hnode, Option.mem_unique h.recordedNode hm⟩

theorem CreatesPublisher.registry_none {guid : Guid} {node : Option Node}
    (h : CreatesPublisher o guid node s none s') (hF : Registry F s.heap s.entities)
    (hguid : ∀ x ∈ F, x.guid ≠ some guid) : Registry F s'.heap s'.entities :=
  h.entities hF.registered (hF.guid_notMem hguid) ▸ hF.same h.effect.owns

/-- A new subscription refers to the node it was created for. -/
theorem CreatesSubscription.recordedNode {n : Node} {p : Subscription}
    (h : CreatesSubscription o (some n) s (some p) s') :
    (Handle.subscription p).recordedNode = some n.object := by
  obtain ⟨impl, himpl⟩ := Option.isSome_iff_exists.mp (h.valid p rfl).2
  have hrecorded := (h.data p rfl impl himpl).1
  rw [Handle.recordedNode, himpl]
  exact hrecorded.symm

theorem CreatesSubscription.registry {n : Node} {p : Subscription}
    (h : CreatesSubscription o (some n) s (some p) s') (hF : Registry F s.heap s.entities)
    (hnode : .node n ∈ F) : Registry (.subscription p ::ₘ F) s'.heap s'.entities := by
  obtain ⟨impl, himpl⟩ := Option.isSome_iff_exists.mp (h.valid p rfl).2
  have hmade : (Handle.subscription p).Made := by
    refine ⟨h.handle p rfl, h.valid p rfl, fun impl' himpl' => ?_⟩
    cases Option.mem_unique himpl himpl'
    exact (h.data p rfl impl himpl).2
  rw [h.entities hF.registered]
  refine hF.add hmade h.effect.owns (by simp [Handle.guid]) ?_
  intro m hm
  exact ⟨n, hnode, Option.mem_unique h.recordedNode hm⟩

theorem CreatesSubscription.registry_none {node : Option Node}
    (h : CreatesSubscription o node s none s') (hF : Registry F s.heap s.entities) :
    Registry F s'.heap s'.entities :=
  h.entities hF.registered ▸ hF.same h.effect.owns

theorem CreatesParts.registry_none {kinds : List Kind} (h : CreatesParts o kinds s none s')
    (hF : Registry F s.heap s.entities) : Registry F s'.heap s'.entities := by
  rw [h.entities]
  exact hF.same h.effect.owns

theorem CreatesParts.registry_guardCondition {p : Parts}
    (h : CreatesParts o [.guardCondition, .guardConditionImpl, .rmwGuardCondition] s (some p) s')
    (hF : Registry F s.heap s.entities) :
    Registry (.guardCondition (.ofParts p) ::ₘ F) s'.heap s'.entities := by
  rw [h.entities]
  exact hF.add_plain ⟨h.handle rfl rfl p rfl, GuardCondition.valid_ofParts p⟩ h.effect.owns rfl rfl

theorem CreatesParts.registry_waitSet {p : Parts}
    (h : CreatesParts o [.waitSet, .waitSetImpl, .rmwWaitSet] s (some p) s')
    (hF : Registry F s.heap s.entities) :
    Registry (.waitSet (.ofParts p) ::ₘ F) s'.heap s'.entities := by
  rw [h.entities]
  exact hF.add_plain ⟨h.handle rfl rfl p rfl, WaitSet.valid_ofParts p⟩ h.effect.owns rfl rfl

/-! ## Destructions -/

/-- What the destruction of a publisher takes out of the containers. -/
theorem DestroysPublisher.unregister {p : Publisher} {r : Ret} (h : DestroysPublisher o p s r s')
    (hp : p.Valid) : s'.entities = (Handle.publisher p).unregister s.entities := by
  obtain ⟨impl, himpl⟩ := Option.isSome_iff_exists.mp hp.2
  rw [h.entities impl himpl, Handle.unregister, himpl]
  rfl

theorem DestroysPublisher.registry {p : Publisher} {r : Ret} (h : DestroysPublisher o p s r s')
    (hF : Registry (.publisher p ::ₘ F) s.heap s.entities) : Registry F s'.heap s'.entities := by
  have hvalid := (hF.made (.publisher p) (Multiset.mem_cons_self _ F)).valid.valid
  rw [h.heap, h.unregister hvalid]
  exact hF.remove_plain nofun

theorem DestroysSubscription.registry {p : Subscription} {r : Ret}
    (h : DestroysSubscription o p s r s')
    (hF : Registry (.subscription p ::ₘ F) s.heap s.entities) :
    Registry F s'.heap s'.entities := by
  rw [h.heap, h.entities]
  exact hF.remove_plain nofun

end

end Lifecycle

end RmwZzdds
