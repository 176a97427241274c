import RmwZzdds.Registration.Endpoint

/-!
# Destructions of endpoints

`rmw_destroy_publisher` and `rmw_destroy_subscription` over the larger state.  A
publisher has stored its GUID, and the one of a subscription is looked up again.
The graph takes the endpoint off the list of the node that is passed.
-/

namespace RmwZzdds.Registration

open Lifecycle Following Ownership Std.Do
open Service (Guid)

set_option mvcgen.warning false

variable {G : Type} (g : LocalGraph G) (o : Outcomes)

/-! ## The update of the graph -/

/-- The update for an endpoint that goes. -/
def withdraw (e : End) (guid : Guid) (key : NodeKey) : BookM G Unit := do
  if !(← get).state.impl.suppressGraphUpdates then
    modifyGraph fun graph => g.removeEntity e guid (g.dissociate e guid key graph)

/-- What `withdraw` leaves in the graph. -/
def withdrawn (e : End) (guid : Guid) (key : NodeKey) (s : State) (graph : G) : G :=
  if s.impl.suppressGraphUpdates then graph else g.removeEntity e guid (g.dissociate e guid key graph)

theorem run_withdraw (e : End) (guid : Guid) (key : NodeKey) (w : World G) :
    (withdraw g e guid key).run w =
      ((), w.withGraph (withdrawn g e guid key w.state w.books.graph)) := by
  have hrun : (withdraw g e guid key).run w = (if (!w.state.impl.suppressGraphUpdates) = true
      then _ else pure () : BookM G Unit).run w := rfl
  rw [hrun, withdrawn]
  cases w.state.impl.suppressGraphUpdates with
  | true => rfl
  | false => rfl

/-! ## The programs -/

/-- `rmw_destroy_publisher`. -/
def rmwDestroyPublisher (node : Option Node) (publisher : Option Publisher) : BookM G Ret := do
  let (some node, some publisher) := (node, publisher)
    | return .invalidArgument
  let some impl := publisher.data
    | return .invalidArgument
  if node.implementationIdentifier ≠ some identifier then
    return .incorrectRmwImplementation
  if !validNode (← get).state node then
    return .invalidArgument
  if publisher.implementationIdentifier ≠ some identifier then
    return .incorrectRmwImplementation
  modifyEntities (·.removePublisher publisher)
  modifyEntities (·.removeGuid impl.rtpsGuid)
  withdraw g .writer impl.rtpsGuid (nodeKey node)
  let ok ← deleteWriter o impl.topic impl.writer
  deallocate publisher.topicName
  deallocate (some impl.object)
  deallocate (some publisher.object)
  modifyEntities Entities.leave
  return if ok then .ok else .error

/-- `guid_from_reader`. -/
def guidFromReader (reader : Obj) : BookM G (Option Guid) := do
  if o .guid then
    return (← get).books.readerGuids reader
  else
    return none

theorem run_guidFromReader (reader : Obj) (w : World G) :
    (guidFromReader o reader).run w =
      (if o .guid then w.books.readerGuids reader else none, w) := by
  unfold guidFromReader
  cases o .guid with
  | true => rfl
  | false => rfl

/-- The update for a subscription that goes, if its GUID was found. -/
def withdrawSubscription (guid : Option Guid) (key : NodeKey) : BookM G Unit :=
  match guid with
  | some guid => withdraw g .reader guid key
  | none => pure ()

/-- `rmw_destroy_subscription`. -/
def rmwDestroySubscription (node : Option Node) (subscription : Option Subscription) :
    BookM G Ret := do
  let (some node, some subscription) := (node, subscription)
    | return .invalidArgument
  let some impl := subscription.data
    | return .invalidArgument
  if node.implementationIdentifier ≠ some identifier then
    return .incorrectRmwImplementation
  if !validNode (← get).state node then
    return .invalidArgument
  if subscription.implementationIdentifier ≠ some identifier then
    return .incorrectRmwImplementation
  let subscriptionGuid ← guidFromReader o impl.reader
  modifyEntities (·.removeSubscription subscription)
  withdrawSubscription g subscriptionGuid (nodeKey node)
  let readConditionDeleted ← ddsDelete o impl.readCondition
  let readerDeleted ← ddsDelete o impl.reader
  let filteredTopicDeleted ← ddsDelete o impl.filteredTopic
  let topicDeleted ← ddsDelete o impl.topic
  deallocate subscription.topicName
  deallocate (some impl.object)
  deallocate (some subscription.object)
  modifyEntities Entities.leave
  let ok := topicDeleted && (filteredTopicDeleted && (readerDeleted && readConditionDeleted))
  return if ok then .ok else .error

/-- `rmw_destroy_publisher` for a node of any context. -/
def rmwDestroyPublisherAt (node : Option NodeHandle) (publisher : Option Publisher) :
    BookM G Ret := do
  match endpointChecks node
      (publisher.map fun p => (p.implementationIdentifier, p.data.isSome)) with
  | .error ret => return ret
  | .ok node =>
    if node.implContext ≠ node.context.map (·.address) ||
        (← get).state.context.impl ≠ node.contextImpl then
      return .invalidArgument
    rmwDestroyPublisher g o node.node publisher

/-- `rmw_destroy_subscription` for a node of any context. -/
def rmwDestroySubscriptionAt (node : Option NodeHandle) (subscription : Option Subscription) :
    BookM G Ret := do
  match endpointChecks node
      (subscription.map fun p => (p.implementationIdentifier, p.data.isSome)) with
  | .error ret => return ret
  | .ok node =>
    if (← get).state.context.impl ≠ node.contextImpl then
      return .invalidArgument
    rmwDestroySubscription g o node.node subscription

/-! ## The smaller programs -/

section Extends

variable {g} {o : Outcomes}

theorem extends_withdraw_bind {α : Type} (e : End) (guid : Guid) (key : NodeKey)
    {next : Unit → BookM G α} {y : RmwM α} (h : Extends (next ()) y) :
    Extends (withdraw g e guid key >>= next) y :=
  .silent (fun w => by rw [run_withdraw, World.state_withGraph]) fun _ => h

theorem extends_rmwDestroyPublisher (node : Option Node) (publisher : Option Publisher) :
    Extends (rmwDestroyPublisher g o node publisher)
      (Lifecycle.rmwDestroyPublisher o node publisher) := by
  cases node with
  | none => exact .pure _
  | some node =>
      cases publisher with
      | none => exact .pure _
      | some publisher =>
          obtain ⟨object, identifier, data, topicName⟩ := publisher
          cases data with
          | none => exact .pure _
          | some impl =>
              refine .ite (.pure _) (.bind_gets fun w => .ite (.pure _) (.ite (.pure _) ?_))
              refine .bind (extends_modifyEntities _) fun _ => ?_
              refine .bind (extends_modifyEntities _) fun _ => extends_withdraw_bind _ _ _ ?_
              refine .bind (extends_deleteWriter _ _) fun ok => ?_
              refine thenDeallocate _ (thenDeallocate _ (thenDeallocate _ ?_))
              exact .bind (extends_modifyEntities _) fun _ => .pure _

theorem extends_withdrawSubscription_bind {α : Type} (guid : Option Guid) (key : NodeKey)
    {next : Unit → BookM G α} {y : RmwM α} (h : Extends (next ()) y) :
    Extends (withdrawSubscription g guid key >>= next) y := by
  cases guid with
  | none => exact .silent (fun _ => rfl) fun _ => h
  | some guid => exact extends_withdraw_bind .reader guid key h

theorem extends_guidFromReader_bind {α : Type} (reader : Obj) {next : Option Guid → BookM G α}
    {y : RmwM α} (h : ∀ guid, Extends (next guid) y) :
    Extends (guidFromReader o reader >>= next) y :=
  .silent (fun w => by rw [run_guidFromReader]) h

theorem extends_rmwDestroySubscription (node : Option Node) (subscription : Option Subscription) :
    Extends (rmwDestroySubscription g o node subscription)
      (Lifecycle.rmwDestroySubscription o node subscription) := by
  cases node with
  | none => exact .pure _
  | some node =>
      cases subscription with
      | none => exact .pure _
      | some subscription =>
          obtain ⟨object, identifier, data, topicName⟩ := subscription
          cases data with
          | none => exact .pure _
          | some impl =>
              refine .ite (.pure _) (.bind_gets fun w => .ite (.pure _) (.ite (.pure _) ?_))
              refine extends_guidFromReader_bind _ fun guid => ?_
              refine .bind (extends_modifyEntities _) fun _ => ?_
              refine extends_withdrawSubscription_bind _ _ ?_
              refine .bind (extends_ddsDelete o _) fun _ => .bind (extends_ddsDelete o _) fun _ => ?_
              refine .bind (extends_ddsDelete o _) fun _ => .bind (extends_ddsDelete o _) fun _ => ?_
              refine thenDeallocate _ (thenDeallocate _ (thenDeallocate _ ?_))
              exact .bind (extends_modifyEntities _) fun _ => .pure _

theorem extends_rmwDestroyPublisherAt (node : Option NodeHandle) (publisher : Option Publisher) :
    Extends (rmwDestroyPublisherAt g o node publisher)
      (Lifecycle.rmwDestroyPublisherAt o node publisher) := by
  unfold rmwDestroyPublisherAt Lifecycle.rmwDestroyPublisherAt
  cases endpointChecks node
      (publisher.map fun p => (p.implementationIdentifier, p.data.isSome)) with
  | error ret => exact .pure _
  | ok node => exact .bind_gets fun w => .ite (.pure _) (extends_rmwDestroyPublisher _ _)

theorem extends_rmwDestroySubscriptionAt (node : Option NodeHandle)
    (subscription : Option Subscription) :
    Extends (rmwDestroySubscriptionAt g o node subscription)
      (Lifecycle.rmwDestroySubscriptionAt o node subscription) := by
  unfold rmwDestroySubscriptionAt Lifecycle.rmwDestroySubscriptionAt
  cases endpointChecks node
      (subscription.map fun p => (p.implementationIdentifier, p.data.isSome)) with
  | error ret => exact .pure _
  | ok node => exact .bind_gets fun w => .ite (.pure _) (extends_rmwDestroySubscription _ _)

end Extends

/-! ## Specifications -/

section Specifications

variable (w : World G)

@[spec] theorem withdraw_spec (e : End) (guid : Guid) (key : NodeKey) :
    ⦃fun w' => ⌜w' = w⌝⦄ withdraw g e guid key
    ⦃⇓ _ w' => ⌜w' = w.withGraph (withdrawn g e guid key w.state w.books.graph)⌝⦄ := by
  intro w' hw
  obtain rfl : w' = w := hw
  exact congrArg Prod.snd (run_withdraw g e guid key w')

@[spec] theorem guidFromReader_spec (reader : Obj) :
    ⦃fun w' => ⌜w' = w⌝⦄ guidFromReader o reader
    ⦃⇓ guid w' => ⌜guid = (if o .guid then w.books.readerGuids reader else none) ∧ w' = w⌝⦄ := by
  intro w' hw
  obtain rfl : w' = w := hw
  have hrun := run_guidFromReader o reader w'
  exact ⟨congrArg Prod.fst hrun, congrArg Prod.snd hrun⟩

/-- What a destruction does to the books. -/
structure Departs (graph : G) (w w' : World G) : Prop where
  graph : w'.books.graph = graph
  readerGuids : w'.books.readerGuids = w.books.readerGuids

@[spec] theorem rmwDestroyPublisher_books (n : Node) (p : Publisher) (hn : n.Valid) (hp : p.Valid)
    (hcontext : w.state.context.impl.isSome) :
    ⦃fun w' => ⌜w' = w⌝⦄ rmwDestroyPublisher g o (some n) (some p)
    ⦃⇓ _ w' => ⌜∀ impl ∈ p.data, Departs
      (withdrawn g .writer impl.rtpsGuid (nodeKey n) w.state w.books.graph) w w'⌝⦄ := by
  mvcgen [rmwDestroyPublisher]
  next impl himpl hidentifier w1 hw => exact (hidentifier hn.1).elim
  next impl himpl hidentifier w1 hw hinvalid =>
    subst hw
    simp [validNode_of_valid hn hcontext] at hinvalid
  next impl himpl hidentifier w1 hw _ hidentifier' => exact (hidentifier' hp.1).elim
  next impl himpl hidentifier w1 hw _ _ _ w2 h2 _ w3 h3 _ w4 h4 ok w5 h5 _ w6 h6 _ w7 h7 _ w8 h8
      _ w9 h9 =>
    subst hw h2 h3 h4 h9
    have hrest := ((h5.trans h6).trans h7).trans h8
    intro impl' himpl'
    cases Option.mem_unique himpl himpl'
    exact ⟨hrest.graph, hrest.readerGuids⟩
  next data hnone hdata w1 hw =>
    have hsome := hp.2
    cases data with
    | some impl => exact (hnone impl rfl).elim
    | none => simp [hdata] at hsome

/-- What is left of the graph by the update for a subscription that goes, whose
GUID is found or not. -/
def withdrawnIf (guid : Option Guid) (key : NodeKey) (s : State) (graph : G) : G :=
  guid.elim graph fun guid => withdrawn g .reader guid key s graph

@[spec] theorem withdrawSubscription_spec (guid : Option Guid) (key : NodeKey) :
    ⦃fun w' => ⌜w' = w⌝⦄ withdrawSubscription g guid key
    ⦃⇓ _ w' => ⌜w' = w.withGraph (withdrawnIf g guid key w.state w.books.graph)⌝⦄ := by
  cases guid with
  | none =>
      intro w' hw
      obtain rfl : w' = w := hw
      exact rfl
  | some guid => exact withdraw_spec g w .reader guid key

@[spec] theorem rmwDestroySubscription_books (n : Node) (p : Subscription) (hn : n.Valid)
    (hp : p.Valid) (hcontext : w.state.context.impl.isSome) :
    ⦃fun w' => ⌜w' = w⌝⦄ rmwDestroySubscription g o (some n) (some p)
    ⦃⇓ _ w' => ⌜∀ impl ∈ p.data, Departs (withdrawnIf g
      (if o .guid then w.books.readerGuids impl.reader else none) (nodeKey n) w.state
      w.books.graph) w w'⌝⦄ := by
  mvcgen [rmwDestroySubscription]
  next impl himpl hidentifier w1 hw => exact (hidentifier hn.1).elim
  next impl himpl hidentifier w1 hw hinvalid =>
    subst hw
    simp [validNode_of_valid hn hcontext] at hinvalid
  next impl himpl hidentifier w1 hw _ hidentifier' => exact (hidentifier' hp.1).elim
  next impl himpl hidentifier w1 hw _ _ guid w2 h2 _ w3 h3 _ w4 h4 _ w5 h5 _ w6 h6 _ w7 h7 _ w8 h8
      _ w9 h9 _ w10 h10 _ w11 h11 _ ok w12 h12 =>
    obtain ⟨rfl, rfl⟩ := h2
    subst hw h3 h4 h12
    have hrest := (((((h5.trans h6).trans h7).trans h8).trans h9).trans h10).trans h11
    intro impl' himpl'
    cases Option.mem_unique himpl himpl'
    exact ⟨hrest.graph, hrest.readerGuids⟩
  next data hnone hdata w1 hw =>
    have hsome := hp.2
    cases data with
    | some impl => exact (hnone impl rfl).elim
    | none => simp [hdata] at hsome

/-- A destruction that is carried out, or rejected without a trace. -/
structure DepartsIf (accepts : NodeHandle → Bool) (node : Option NodeHandle) (graph : NodeHandle → G)
    (w w' : World G) : Prop where
  accepted : ∀ n ∈ node, accepts n = true → Departs (graph n) w w'
  rejected : node.any accepts = false → w' = w

theorem DepartsIf.refused {accepts : NodeHandle → Bool} {node : Option NodeHandle}
    {graph : NodeHandle → G} {w : World G} (hnode : node.any accepts = false) :
    DepartsIf accepts node graph w w where
  accepted n hn haccepts := by
    rw [Option.mem_def.mp hn, Option.any_some, haccepts] at hnode
    cases hnode
  rejected _ := rfl

theorem DepartsIf.carried {accepts : NodeHandle → Bool} {n : NodeHandle} {graph : NodeHandle → G}
    {w w' : World G} (haccepts : accepts n = true) (h : Departs (graph n) w w') :
    DepartsIf accepts (some n) graph w w' where
  accepted m hm _ := Option.mem_some_iff.mp hm ▸ h
  rejected hnode := by
    rw [Option.any_some, haccepts] at hnode
    cases hnode

theorem rmwDestroyPublisherAt_books (node : Option NodeHandle) (p : Publisher)
    (impl : PublisherImpl) (himpl : impl ∈ p.data) (hp : p.Valid)
    (hcontext : w.state.context.impl.isSome) :
    ⦃fun w' => ⌜w' = w⌝⦄ rmwDestroyPublisherAt g o node (some p)
    ⦃⇓ _ w' => ⌜DepartsIf (·.reachesPublisher w.state) node (fun n =>
      withdrawn g .writer impl.rtpsGuid (nodeKey n.node) w.state w.books.graph) w w'⌝⦄ := by
  mvcgen [rmwDestroyPublisherAt]
  next ret hchecks w1 hw =>
    subst hw
    rw [Option.map_some, hp.1, hp.2] at hchecks
    obtain ⟨hinvalid, -⟩ := endpointChecks_error hchecks
    refine .refused ?_
    cases node <;> simp_all [NodeHandle.reachesPublisher, NodeHandle.reachesSubscription]
  next n hchecks w1 hw hother =>
    subst hw
    obtain ⟨rfl, -⟩ := endpointChecks_ok hchecks
    refine .refused ?_
    grind [NodeHandle.reachesPublisher, NodeHandle.reachesSubscription]
  next n hchecks w1 hw _ => exact NodeHandle.node_valid (endpointChecks_ok hchecks).2
  next n hchecks w1 hw _ =>
    subst hw
    exact hcontext
  next n hchecks w1 hw _ r w2 =>
    intro hdeparts
    subst hw
    obtain ⟨rfl, hvalid⟩ := endpointChecks_ok hchecks
    refine .carried ?_ (hdeparts impl himpl)
    grind [NodeHandle.reachesPublisher, NodeHandle.reachesSubscription]

theorem rmwDestroySubscriptionAt_books (node : Option NodeHandle) (p : Subscription)
    (impl : SubscriptionImpl) (himpl : impl ∈ p.data) (hp : p.Valid)
    (hcontext : w.state.context.impl.isSome) :
    ⦃fun w' => ⌜w' = w⌝⦄ rmwDestroySubscriptionAt g o node (some p)
    ⦃⇓ _ w' => ⌜DepartsIf (·.reachesSubscription w.state) node (fun n => withdrawnIf g
      (if o .guid then w.books.readerGuids impl.reader else none) (nodeKey n.node) w.state
      w.books.graph) w w'⌝⦄ := by
  mvcgen [rmwDestroySubscriptionAt]
  next ret hchecks w1 hw =>
    subst hw
    rw [Option.map_some, hp.1, hp.2] at hchecks
    obtain ⟨hinvalid, -⟩ := endpointChecks_error hchecks
    refine .refused ?_
    cases node <;> simp_all [NodeHandle.reachesSubscription]
  next n hchecks w1 hw hother =>
    subst hw
    obtain ⟨rfl, -⟩ := endpointChecks_ok hchecks
    refine .refused ?_
    grind [NodeHandle.reachesSubscription]
  next n hchecks w1 hw _ => exact NodeHandle.node_valid (endpointChecks_ok hchecks).2
  next n hchecks w1 hw _ =>
    subst hw
    exact hcontext
  next n hchecks w1 hw _ r w2 =>
    intro hdeparts
    subst hw
    obtain ⟨rfl, hvalid⟩ := endpointChecks_ok hchecks
    refine .carried ?_ (hdeparts impl himpl)
    grind [NodeHandle.reachesSubscription]

end Specifications

end RmwZzdds.Registration
