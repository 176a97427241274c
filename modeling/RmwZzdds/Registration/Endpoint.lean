import RmwZzdds.Registration.Node

/-!
# Endpoints and the local graph

`rmw_create_publisher` and `rmw_create_subscription` over the larger state.  The
graph gets the endpoint as an entity, and then `rmw_dds_common` puts it on the
list of its node and publishes the list, so this update can fail after it has
recorded the endpoint.  The error path takes the entity out of the graph again,
but not out of the list, and an exception takes neither back.
-/

namespace RmwZzdds.Registration

open Lifecycle Following Ownership Std.Do
open Service (Guid)

set_option mvcgen.warning false

variable {G : Type} (g : LocalGraph G) (o : Outcomes)

/-- The node as the graph knows it. -/
def nodeKey (node : Node) : NodeKey := (node.name.map (·.value), node.namespace_.map (·.value))

/-! ## The update of the graph -/

/-- The update for a new endpoint, with the success of the registration. -/
def announce (failure : Failure) (e : End) (guid : Guid) (key : NodeKey) : BookM G Bool := do
  if (← get).state.impl.suppressGraphUpdates then
    return true
  if !o .addEntityReturns then
    return false
  modifyGraph (g.addEntity e guid)
  if o .addEndpointGraph then
    modifyGraph (g.associate e guid key)
    return true
  modifyGraph fun graph => if failure.recorded then g.associate e guid key graph else graph
  -- the error is turned into an exception, and the handler does not know the graph
  modifyGraph fun graph => if failure.throws then graph else g.removeEntity e guid graph
  return false

/-- What `announce` leaves in the graph. -/
def announced (failure : Failure) (e : End) (guid : Guid) (key : NodeKey) (s : State)
    (graph : G) : G :=
  if s.impl.suppressGraphUpdates then graph
  else if !o .addEntityReturns then graph
  else if o .addEndpointGraph then g.associate e guid key (g.addEntity e guid graph)
  else
    let recorded := if failure.recorded then g.associate e guid key (g.addEntity e guid graph)
      else g.addEntity e guid graph
    if failure.throws then recorded else g.removeEntity e guid recorded

/-! ## Publishers -/

def createWriter : BookM G (Option (Obj × Obj)) := do
  let some topic ← create o .topic
    | return none
  if !o .applyQos || !o .attachTypeHash then
    let _ ← ddsDelete o topic
    return none
  let some writer ← create o .dataWriter
    | let _ ← ddsDelete o topic
      return none
  return some (topic, writer)

def deleteWriter (topic writer : Obj) : BookM G Bool := do
  let writerDeleted ← ddsDelete o writer
  let topicDeleted ← ddsDelete o topic
  return topicDeleted && writerDeleted

/-- The registration of `rmw_create_publisher`, with the handler of its
exceptions. -/
def registerPublisher (failure : Failure) (publisher : Publisher) (guid : Guid) (key : NodeKey) :
    BookM G Bool := do
  if o .insertGuid then
    modifyEntities (·.addGuid guid)
    if o .insertEndpoint then
      modifyEntities (·.addPublisher publisher)
      if ← announce g o failure .writer guid key then
        return true
  modifyEntities (·.removeGuid guid)
  modifyEntities (·.removePublisher publisher)
  return false

def undoPublisher (topic writer : Obj) (impl handle name : Option Obj) : BookM G Unit := do
  deallocate name
  deallocate handle
  deallocate impl
  let _ ← deleteWriter o topic writer

/-- `rmw_create_publisher`. -/
def rmwCreatePublisher (failure : Failure) (guid : Guid) (node : Option Node) :
    BookM G (Option Publisher) := do
  let some node := node
    | return none
  if !endpointChecked o (← get).state node then
    return none
  let some (topic, writer) ← createWriter o
    | return none
  let impl ← create o .publisherImpl
  let handle ← create o .rmwPublisher
  let name ← create o .topicName
  let (some implObject, some object, some topicName) := (impl, handle, name)
    | undoPublisher o topic writer impl handle name
      return none
  let publisher : Publisher := {
    object
    implementationIdentifier := some identifier
    data := some { object := implObject, node := node.object, topic, writer, rtpsGuid := guid }
    topicName }
  if !o .guid then
    undoPublisher o topic writer implObject object topicName
    return none
  if !(← registerPublisher g o failure publisher guid (nodeKey node)) then
    undoPublisher o topic writer implObject object topicName
    return none
  modifyEntities (·.enter 1)
  return some publisher

/-! ## Subscriptions -/

def createReader : BookM G (Option ReaderParts) := do
  let some topic ← create o .topic
    | return none
  if !o .applyQos || !o .attachTypeHash then
    let _ ← ddsDelete o topic
    return none
  let some filteredTopic ← create o .contentFilteredTopic
    | let _ ← ddsDelete o topic
      return none
  let some impl ← create o .subscriptionImpl
    | let _ ← ddsDelete o filteredTopic
      let _ ← ddsDelete o topic
      return none
  let some reader ← create o .dataReader
    | deallocate (some impl)
      let _ ← ddsDelete o filteredTopic
      let _ ← ddsDelete o topic
      return none
  let some readCondition ← create o .readCondition
    | let _ ← ddsDelete o reader
      deallocate (some impl)
      let _ ← ddsDelete o filteredTopic
      let _ ← ddsDelete o topic
      return none
  return some ⟨topic, filteredTopic, impl, reader, readCondition⟩

/-- zzdds has given the reader its GUID. -/
def assignGuid (reader : Obj) (guid : Guid) : BookM G Unit :=
  modifyBooks fun b => { b with readerGuids := Function.update b.readerGuids reader guid }

def undoSubscription (p : ReaderParts) (handle name : Option Obj) : BookM G Unit := do
  deallocate name
  deallocate handle
  -- the reader's listener holds the implementation
  let _ ← ddsDelete o p.readCondition
  let _ ← ddsDelete o p.reader
  deallocate (some p.impl)
  let _ ← ddsDelete o p.filteredTopic
  let _ ← ddsDelete o p.topic

/-- The registration of `rmw_create_subscription`, with the handler of its
exceptions. -/
def registerSubscription (failure : Failure) (subscription : Subscription) (guid : Guid)
    (key : NodeKey) : BookM G Bool := do
  if o .insertEndpoint then
    modifyEntities (·.addSubscription subscription)
    if ← announce g o failure .reader guid key then
      return true
  modifyEntities (·.removeSubscription subscription)
  return false

/-- `rmw_create_subscription`.  `guid` is the RTPS GUID that zzdds gives to the
reader. -/
def rmwCreateSubscription (failure : Failure) (guid : Guid) (node : Option Node) :
    BookM G (Option Subscription) := do
  let some node := node
    | return none
  if !endpointChecked o (← get).state node then
    return none
  let some parts ← createReader o
    | return none
  assignGuid parts.reader guid
  let handle ← create o .rmwSubscription
  let name ← create o .topicName
  let (some object, some topicName) := (handle, name)
    | undoSubscription o parts handle name
      return none
  let subscription : Subscription := {
    object
    implementationIdentifier := some identifier
    data := some {
      object := parts.impl
      node := node.object
      topic := parts.topic
      filteredTopic := parts.filteredTopic
      reader := parts.reader
      readCondition := parts.readCondition }
    topicName }
  if !o .guid then
    undoSubscription o parts object topicName
    return none
  if !(← registerSubscription g o failure subscription guid (nodeKey node)) then
    undoSubscription o parts object topicName
    return none
  modifyEntities (·.enter 1)
  return some subscription

/-! ## The smaller programs -/

theorem run_announce (failure : Failure) (e : End) (guid : Guid) (key : NodeKey) (w : World G) :
    (announce g o failure e guid key).run w =
      (w.state.impl.suppressGraphUpdates || o .addEntityReturns && o .addEndpointGraph,
        w.withGraph (announced g o failure e guid key w.state w.books.graph)) := by
  have hrun : (announce g o failure e guid key).run w = (if w.state.impl.suppressGraphUpdates
      then pure true else _ : BookM G Bool).run w := rfl
  rw [hrun, announced]
  cases hsuppress : w.state.impl.suppressGraphUpdates with
  | true => rfl
  | false =>
      cases hentity : o .addEntityReturns with
      | false => rfl
      | true =>
          cases hadd : o .addEndpointGraph with
          | false => rfl
          | true => rfl

section Extends

variable {g} {o : Outcomes}

/-- An object that is deleted before the call fails. -/
theorem thenDelete {α : Type} {x : BookM G α} {y : RmwM α} (object : Obj) (h : Extends x y) :
    Extends (ddsDelete o object >>= fun _ => x) (Lifecycle.ddsDelete o object >>= fun _ => y) :=
  .bind (extends_ddsDelete o object) fun _ => h

theorem thenDeallocate {α : Type} {x : BookM G α} {y : RmwM α} (object : Option Obj)
    (h : Extends x y) : Extends (deallocate object >>= fun _ => x)
      (Lifecycle.deallocate object >>= fun _ => y) :=
  .bind (extends_deallocate object) fun _ => h

/-- An object without which the call fails. -/
theorem orFail {α β : Type} {x : BookM G (Option α)} {y : RmwM (Option α)}
    {f : Option α → BookM G β} {f' : Option α → RmwM β} (h : Extends x y)
    (hsome : ∀ a, Extends (f (some a)) (f' (some a))) (hnone : Extends (f none) (f' none)) :
    Extends (x >>= f) (y >>= f') := by
  refine .bind h fun a => ?_
  cases a with
  | some a => exact hsome a
  | none => exact hnone

theorem extends_createWriter : Extends (createWriter o : BookM G _) (Lifecycle.createWriter o) := by
  refine orFail (extends_create o _) (fun topic => .ite ?_ ?_) (.pure _)
  · exact thenDelete topic (.pure _)
  · exact orFail (extends_create o _) (fun writer => .pure _) (thenDelete topic (.pure _))

theorem extends_deleteWriter (topic writer : Obj) :
    Extends (deleteWriter o topic writer : BookM G _) (Lifecycle.deleteWriter o topic writer) :=
  .bind (extends_ddsDelete o _) fun _ => .bind (extends_ddsDelete o _) fun _ => .pure _

theorem extends_undoPublisher (topic writer : Obj) (impl handle name : Option Obj) :
    Extends (undoPublisher o topic writer impl handle name : BookM G _)
      (Lifecycle.undoPublisher o topic writer impl handle name) := by
  refine thenDeallocate name (thenDeallocate handle (thenDeallocate impl ?_))
  exact .bind (extends_deleteWriter topic writer) fun _ => .pure _

theorem extends_createReader : Extends (createReader o : BookM G _) (Lifecycle.createReader o) := by
  refine orFail (extends_create o _) (fun topic => .ite (thenDelete topic (.pure _)) ?_) (.pure _)
  refine orFail (extends_create o _) (fun filtered => ?_) (thenDelete topic (.pure _))
  have hfail : Extends (ddsDelete o filtered >>= fun _ => ddsDelete o topic >>= fun _ => pure none :
      BookM G (Option ReaderParts)) _ := thenDelete filtered (thenDelete topic (.pure _))
  refine orFail (extends_create o _) (fun impl => ?_) hfail
  refine orFail (extends_create o _) (fun reader => ?_) (thenDeallocate impl hfail)
  refine orFail (extends_create o _) (fun condition => .pure _) ?_
  exact thenDelete reader (thenDeallocate impl hfail)

theorem extends_undoSubscription (p : ReaderParts) (handle name : Option Obj) :
    Extends (undoSubscription o p handle name : BookM G _)
      (Lifecycle.undoSubscription o p handle name) := by
  refine thenDeallocate name (thenDeallocate handle ?_)
  refine thenDelete p.readCondition (thenDelete p.reader (thenDeallocate p.impl ?_))
  exact thenDelete p.filteredTopic (thenDelete p.topic (.pure _))

/-- The update of the graph, where the smaller program asks whether it is made
and whether it succeeds. -/
theorem extends_announce {α : Type} (failure : Failure) (e : End) (guid : Guid) (key : NodeKey)
    {next : BookM G α} {rest : RmwM α} (h : Extends next rest) (a : α) :
    Extends (announce g o failure e guid key >>= fun ok => if ok = true then pure a else next)
      (get >>= fun s => if s.impl.suppressGraphUpdates = true then pure a
        else if (o .addEntityReturns && o .addEndpointGraph) = true then pure a else rest) := by
  intro w
  have hbind : (announce g o failure e guid key >>= fun ok =>
      if ok = true then pure a else next).run w =
        (if ((announce g o failure e guid key).run w).1 = true then pure a else next).run
          ((announce g o failure e guid key).run w).2 := rfl
  have hget : (get >>= fun s : State => if s.impl.suppressGraphUpdates = true then pure a
      else if (o .addEntityReturns && o .addEndpointGraph) = true then pure a else rest).run
        w.state = (if w.state.impl.suppressGraphUpdates = true then pure a
      else if (o .addEntityReturns && o .addEndpointGraph) = true then pure a else rest).run
        w.state := rfl
  rw [hbind, hget, run_announce]
  cases hsuppress : w.state.impl.suppressGraphUpdates with
  | true => rfl
  | false =>
      cases hadd : o .addEntityReturns && o .addEndpointGraph with
      | true => rfl
      | false => exact h (w.withGraph _)

theorem extends_registerPublisher (failure : Failure) (publisher : Publisher) (guid : Guid)
    (key : NodeKey) : Extends (registerPublisher g o failure publisher guid key)
      (Lifecycle.registerPublisher o publisher guid) := by
  have hundo : Extends (modifyEntities (·.removeGuid guid) >>= fun _ =>
      modifyEntities (·.removePublisher publisher) >>= fun _ => pure false : BookM G Bool) _ :=
    .bind (extends_modifyEntities _) fun _ => .bind (extends_modifyEntities _) fun _ => .pure _
  refine .ite (.bind (extends_modifyEntities _) fun _ => .ite ?_ hundo) hundo
  exact .bind (extends_modifyEntities _) fun _ =>
    extends_announce failure .writer guid key hundo true

theorem extends_registerSubscription (failure : Failure) (subscription : Subscription)
    (guid : Guid) (key : NodeKey) :
    Extends (registerSubscription g o failure subscription guid key)
      (Lifecycle.registerSubscription o subscription) := by
  have hundo : Extends (modifyEntities (·.removeSubscription subscription) >>= fun _ =>
      pure false : BookM G Bool) _ :=
    .bind (extends_modifyEntities _) fun _ => .pure _
  refine .ite (.bind (extends_modifyEntities _) fun _ => ?_) hundo
  exact extends_announce failure .reader guid key hundo true

theorem extends_rmwCreatePublisher (failure : Failure) (guid : Guid) (node : Option Node) :
    Extends (rmwCreatePublisher g o failure guid node)
      (Lifecycle.rmwCreatePublisher o guid node) := by
  have hundo (topic writer : Obj) (impl handle name : Option Obj) :
      Extends (undoPublisher o topic writer impl handle name >>= fun _ => pure none :
        BookM G (Option Publisher)) _ :=
    .bind (extends_undoPublisher topic writer impl handle name) fun _ => .pure _
  cases node with
  | none => exact .pure _
  | some node =>
      refine .bind_gets fun w => .ite (.pure _) ?_
      refine orFail extends_createWriter (fun (topic, writer) => ?_) (.pure _)
      refine .bind (extends_create o _) fun impl => ?_
      refine .bind (extends_create o _) fun handle => ?_
      refine .bind (extends_create o _) fun name => ?_
      match impl, handle, name with
      | some implObject, some object, some topicName =>
          refine .ite (hundo topic writer _ _ _) ?_
          refine .bind (extends_registerPublisher failure _ guid _) fun ok => ?_
          refine .ite (hundo topic writer _ _ _) ?_
          exact .bind (extends_modifyEntities _) fun _ => .pure _
      | some _, some _, none => exact hundo topic writer _ _ _
      | some _, none, _ => exact hundo topic writer _ _ _
      | none, _, _ => exact hundo topic writer _ _ _

theorem extends_rmwCreateSubscription (failure : Failure) (guid : Guid) (node : Option Node) :
    Extends (rmwCreateSubscription g o failure guid node)
      (Lifecycle.rmwCreateSubscription o node) := by
  have hundo (p : ReaderParts) (handle name : Option Obj) :
      Extends (undoSubscription o p handle name >>= fun _ => pure none :
        BookM G (Option Subscription)) _ :=
    .bind (extends_undoSubscription p handle name) fun _ => .pure _
  cases node with
  | none => exact .pure _
  | some node =>
      refine .bind_gets fun w => .ite (.pure _) ?_
      refine orFail extends_createReader (fun parts => ?_) (.pure _)
      refine .silent (fun _ => rfl) fun _ => ?_
      refine .bind (extends_create o _) fun handle => ?_
      refine .bind (extends_create o _) fun name => ?_
      match handle, name with
      | some object, some topicName =>
          refine .ite (hundo parts _ _) ?_
          refine .bind (extends_registerSubscription failure _ guid _) fun ok => ?_
          refine .ite (hundo parts _ _) ?_
          exact .bind (extends_modifyEntities _) fun _ => .pure _
      | some _, none => exact hundo parts _ _
      | none, _ => exact hundo parts _ _

end Extends

/-! ## Specifications -/

section Specifications

variable (w : World G)

@[spec] theorem announce_spec (failure : Failure) (e : End) (guid : Guid) (key : NodeKey) :
    ⦃fun w' => ⌜w' = w⌝⦄ announce g o failure e guid key
    ⦃⇓ ok w' => ⌜ok = (w.state.impl.suppressGraphUpdates ||
        o .addEntityReturns && o .addEndpointGraph) ∧
      w' = w.withGraph (announced g o failure e guid key w.state w.books.graph)⌝⦄ := by
  intro w' hw
  obtain rfl : w' = w := hw
  have hrun := run_announce g o failure e guid key w'
  exact ⟨congrArg Prod.fst hrun, congrArg Prod.snd hrun⟩

/-- What a call enters that makes the parts of an endpoint, or fails. -/
structure Makes {α : Type} (parts : α → Multiset Obj) (w : World G) (x : Option α)
    (w' : World G) : Prop where
  complete : ∀ a ∈ x, Silent w (parts a) 0 w'
  incomplete : x = none → ∃ xs, Silent w xs xs w'

namespace Makes

variable {α : Type} {parts : α → Multiset Obj} {w w' : World G}

theorem failed {xs ys : Multiset Obj} (h : Silent w xs ys w') (hsame : xs = ys) :
    Makes parts w none w' where
  complete := nofun
  incomplete _ := ⟨ys, h.congr hsame rfl⟩

theorem made {a : α} {xs ys : Multiset Obj} (h : Silent w xs ys w') (hxs : xs = parts a)
    (hys : ys = 0) : Makes parts w (some a) w' where
  complete b hb := by
    cases hb
    exact h.congr hxs hys
  incomplete := nofun

end Makes

def writerParts (p : Obj × Obj) : Multiset Obj := {p.1} + {p.2}

theorem createWriter_makes :
    ⦃fun w' => ⌜w' = w⌝⦄ createWriter o ⦃⇓ p w' => ⌜Makes writerParts w p w'⌝⦄ := by
  mvcgen [createWriter]
  next w1 hw _ topic _ hqos w2 htopic _ w3 hdelete =>
    subst hw
    exact .failed (htopic.1.trans hdelete) (by simp)
  next w1 hw _ topic _ hqos w2 htopic _ writer _ w3 hwriter =>
    subst hw
    exact .made (htopic.1.trans hwriter.1) rfl rfl
  next w1 hw _ topic _ hqos w2 htopic writer _ hnone heq w3 hwriter _ w4 hdelete =>
    subst hw
    obtain rfl := eq_none_of_forall hnone
    exact .failed ((htopic.1.trans hwriter.1).trans hdelete) (by simp)
  next w1 hw topic _ hnone heq w2 htopic =>
    subst hw
    obtain rfl := eq_none_of_forall hnone
    exact .failed htopic.1 rfl

@[spec] theorem createWriter_spec :
    ⦃fun w' => ⌜w' = w⌝⦄ createWriter o
    ⦃⇓ p w' => ⌜Makes writerParts w p w' ∧ p.isSome = writerCreated o⌝⦄ := by
  intro w' hw
  have hcreates := Lifecycle.run_of_spec (Lifecycle.createWriter_spec o w'.state)
  rw [← (extends_createWriter.run w').1] at hcreates
  exact ⟨createWriter_makes o w w' hw, hcreates.isSome⟩

@[spec] theorem deleteWriter_spec (topic writer : Obj) :
    ⦃fun w' => ⌜w' = w⌝⦄ deleteWriter o topic writer
    ⦃⇓ _ w' => ⌜Silent w 0 ({topic} + {writer}) w'⌝⦄ := by
  mvcgen [deleteWriter]
  next w1 hw _ w2 h2 _ w3 h3 =>
    subst hw
    exact (h2.trans h3).congr rfl (add_comm _ _)

/-- The memory of an endpoint. -/
def memory (impl handle name : Option Obj) : Multiset Obj :=
  impl.toFinset.val + handle.toFinset.val + name.toFinset.val

@[spec] theorem undoPublisher_spec (topic writer : Obj) (impl handle name : Option Obj) :
    ⦃fun w' => ⌜w' = w⌝⦄ undoPublisher o topic writer impl handle name
    ⦃⇓ _ w' => ⌜Silent w 0 (writerParts (topic, writer) + memory impl handle name) w'⌝⦄ := by
  mvcgen [undoPublisher]
  next w1 hw _ w2 h2 _ w3 h3 _ w4 h4 _ w5 h5 =>
    subst hw
    refine (((h2.trans h3).trans h4).trans h5).congr (by simp) ?_
    rw [writerParts, memory]
    abel

/-- What the registration of an endpoint does to the books.  `inserted` says
that the endpoint has entered the sets of the context. -/
structure RegistersEndpoint (failure : Failure) (e : End) (guid : Guid) (key : NodeKey)
    (inserted : Bool) (w w' : World G) : Prop where
  entry : Entry w 0 0 w'
  readerGuids : w'.books.readerGuids = w.books.readerGuids
  graph : w'.books.graph = if inserted then
    announced g o failure e guid key w.state w.books.graph else w.books.graph

@[spec] theorem registerPublisher_spec (failure : Failure) (publisher : Publisher) (guid : Guid)
    (key : NodeKey) :
    ⦃fun w' => ⌜w' = w⌝⦄ registerPublisher g o failure publisher guid key
    ⦃⇓ _ w' => ⌜RegistersEndpoint g o failure .writer guid key
      (o .insertGuid && o .insertEndpoint) w w'⌝⦄ := by
  mvcgen [registerPublisher]
  next hguid w1 hw _ hendpoint w2 h2 _ w3 h3 _ hok w4 h4 =>
    obtain ⟨-, rfl⟩ := h4
    subst hw h2 h3
    exact ⟨.nil ⟨rfl, rfl⟩ rfl rfl, rfl, by rw [hguid, hendpoint]; rfl⟩
  next hguid w1 hw _ hendpoint w2 h2 _ w3 h3 _ hok w4 h4 _ w5 h5 _ w6 h6 =>
    obtain ⟨-, rfl⟩ := h4
    subst hw h2 h3 h5 h6
    exact ⟨.nil ⟨rfl, rfl⟩ rfl rfl, rfl, by rw [hguid, hendpoint]; rfl⟩
  next hguid w1 hw _ hendpoint w2 h2 _ w3 h3 _ w4 h4 =>
    subst hw h2 h3 h4
    exact ⟨.nil ⟨rfl, rfl⟩ rfl rfl, rfl, by simp [hendpoint]⟩
  next hguid w1 hw _ w2 h2 _ w3 h3 =>
    subst hw h2 h3
    exact ⟨.nil ⟨rfl, rfl⟩ rfl rfl, rfl, by simp [hguid]⟩

@[spec] theorem registerSubscription_spec (failure : Failure) (subscription : Subscription)
    (guid : Guid) (key : NodeKey) :
    ⦃fun w' => ⌜w' = w⌝⦄ registerSubscription g o failure subscription guid key
    ⦃⇓ _ w' => ⌜RegistersEndpoint g o failure .reader guid key (o .insertEndpoint) w w'⌝⦄ := by
  mvcgen [registerSubscription]
  next hendpoint w1 hw _ w2 h2 _ hok w3 h3 =>
    obtain ⟨-, rfl⟩ := h3
    subst hw h2
    exact ⟨.nil ⟨rfl, rfl⟩ rfl rfl, rfl, by rw [hendpoint]; rfl⟩
  next hendpoint w1 hw _ w2 h2 _ hok w3 h3 _ w4 h4 =>
    obtain ⟨-, rfl⟩ := h3
    subst hw h2 h4
    exact ⟨.nil ⟨rfl, rfl⟩ rfl rfl, rfl, by rw [hendpoint]; rfl⟩
  next hendpoint w1 hw _ w2 h2 =>
    subst hw h2
    exact ⟨.nil ⟨rfl, rfl⟩ rfl rfl, rfl, by simp [hendpoint]⟩

/-- `rmw_create_publisher` gets to the update of the graph, unless it is
suppressed. -/
def publisherReached (node : Option Node) (s : State) : Bool :=
  node.any (endpointChecked o s) && writerCreated o &&
    (o (.create .publisherImpl) && o (.create .rmwPublisher) && o (.create .topicName)) &&
    o .guid && (o .insertGuid && o .insertEndpoint)

/-- The readers that there are already keep their GUIDs. -/
def KeepsGuids (w w' : World G) : Prop :=
  ∀ x : Obj, x.address < w.state.heap.next → w'.books.readerGuids x = w.books.readerGuids x

theorem Silent.keepsGuids {w w' : World G} {made released : Multiset Obj}
    (h : Silent w made released w') : KeepsGuids w w' := fun x _ => congrFun h.readerGuids x

/-- What the creation of an endpoint does to the books.  `reached` says that it
gets to the update of the graph. -/
structure BooksEndpoint (failure : Failure) (e : End) (guid : Guid) (node : Option Node)
    (reached : Bool) (w : World G) (created : Bool) (w' : World G) : Prop where
  released : created = false → ∃ xs, Entry w xs xs w'
  guids : KeepsGuids w w'
  next_le : w.state.heap.next ≤ w'.state.heap.next
  unreached : reached = false → w'.books.graph = w.books.graph
  reached : reached = true → ∃ n ∈ node,
    w'.books.graph = announced g o failure e guid (nodeKey n) w.state w.books.graph

/-- A call that does not get to the registration. -/
theorem BooksEndpoint.early {failure : Failure} {e : End} {guid : Guid} {node : Option Node}
    {reached : Bool} {w w' : World G} {xs ys : Multiset Obj} (h : Quiet w xs ys w')
    (hguids : KeepsGuids w w') (hsame : xs = ys) (hnot : reached = false) :
    BooksEndpoint g o failure e guid node reached w false w' where
  released _ := ⟨ys, (h.congr hsame rfl).toEntry⟩
  guids := hguids
  next_le := h.next_le
  unreached _ := h.graph
  reached hreached := by
    rw [hnot] at hreached
    cases hreached

/-- A call that gets to the registration, with what it has made until then. -/
theorem BooksEndpoint.registered {failure : Failure} {e : End} {guid : Guid} {n : Node}
    {inserted reached created : Bool} {w w₁ w₂ w' : World G} {made gone : Multiset Obj}
    (h : Quiet w made 0 w₁) (hguids : KeepsGuids w w₁)
    (hregister : RegistersEndpoint g o failure e guid (nodeKey n) inserted w₁ w₂)
    (hend : Entry w₂ 0 gone w') (hgraph : w'.books.graph = w₂.books.graph)
    (hsame : w'.books.readerGuids = w₂.books.readerGuids)
    (hundo : created = false → gone = made) (hreached : reached = inserted) :
    BooksEndpoint g o failure e guid (some n) reached w created w' where
  released hcreated := ⟨made, ((h.toEntry.trans hregister.entry).trans hend).congr (by simp)
    (by simp [hundo hcreated])⟩
  guids x hx := by rw [hsame, hregister.readerGuids, hguids x hx]
  next_le := h.next_le.trans (hregister.entry.next_le.trans hend.next_le)
  unreached hnot := by
    rw [hgraph, hregister.graph, ← hreached, hnot, h.graph]
    rfl
  reached htrue := by
    refine ⟨n, rfl, ?_⟩
    rw [hgraph, hregister.graph, ← hreached, htrue, h.graph, announced, announced, h.impl]
    rfl

theorem rmwCreatePublisher_books (failure : Failure) (guid : Guid) (node : Option Node) :
    ⦃fun w' => ⌜w' = w⌝⦄ rmwCreatePublisher g o failure guid node
    ⦃⇓ p w' => ⌜BooksEndpoint g o failure .writer guid node
      (publisherReached o node w.state) w p.isSome w'⌝⦄ := by
  mvcgen [rmwCreatePublisher]
  next node' _ w1 hw hcheck =>
    subst hw
    exact .early g o (Silent.refl _).toQuiet (fun _ _ => rfl) rfl (by simp_all [publisherReached])
  next node' _ w1 hw hcheck _ topic writer _ w2 hwriter impl w3 himpl handle w4 hhandle name
      implObject object topicName heq publisher hguid w5 hname _ w6 hundo =>
    subst hw
    cases heq
    have hall := (((hwriter.1.complete _ rfl).trans himpl.1).trans hhandle.1).trans hname.1
    refine .early g o (hall.trans hundo).toQuiet (hall.trans hundo).keepsGuids ?_ (by simp_all [publisherReached])
    simp only [memory, add_zero, zero_add, add_assoc]
  next node' _ w1 hw hcheck _ topic writer _ w2 hwriter impl w3 himpl handle w4 hhandle name
      implObject object topicName heq publisher hguid w5 hname ok hfail w6 hregister _ w7 hundo =>
    subst hw
    cases heq
    have hall := (((hwriter.1.complete _ rfl).trans himpl.1).trans hhandle.1).trans hname.1
    refine .registered g o (hall.congr rfl (by simp)).toQuiet hall.keepsGuids hregister
      hundo.toEntry hundo.graph hundo.readerGuids (fun _ => ?_) ?_
    · simp only [memory, add_assoc]
    · simp_all [publisherReached]
  next node' _ w1 hw hcheck _ topic writer _ w2 hwriter impl w3 himpl handle w4 hhandle name
      implObject object topicName heq publisher hguid w5 hname ok hok w6 hregister _ w7 h7 =>
    subst hw h7
    cases heq
    have hall := (((hwriter.1.complete _ rfl).trans himpl.1).trans hhandle.1).trans hname.1
    refine .registered g o (hall.congr rfl (by simp)).toQuiet hall.keepsGuids hregister
      (.withEntities ..) rfl rfl nofun ?_
    simp_all [publisherReached]
  next node' _ w1 hw hcheck _ topic writer _ w2 hwriter impl w3 himpl handle w4 hhandle name
      _ hnone heq w5 hname _ w6 hundo =>
    subst hw heq
    have hall := (((hwriter.1.complete _ rfl).trans himpl.1).trans hhandle.1).trans hname.1
    refine .early g o (hall.trans hundo).toQuiet (hall.trans hundo).keepsGuids ?_ ?_
    · simp only [memory, add_zero, zero_add, add_assoc]
    · simp only [publisherReached, ← himpl.2, ← hhandle.2, ← hname.2]
      cases impl <;> cases handle <;> cases name <;> simp_all
  next node' _ w1 hw hcheck pair _ hnone heq w2 hwriter =>
    subst hw heq
    cases pair with
    | some pair => exact (hnone pair.1 pair.2 rfl).elim
    | none =>
        obtain ⟨xs, hsilent⟩ := hwriter.1.incomplete rfl
        exact .early g o hsilent.toQuiet hsilent.keepsGuids rfl (by simp [publisherReached, ← hwriter.2])
  next node' hnone heq w1 hw =>
    subst hw heq
    obtain rfl := eq_none_of_forall hnone
    exact .early g o (Silent.refl _).toQuiet (fun _ _ => rfl) rfl (by simp [publisherReached])

def readerParts (p : ReaderParts) : Multiset Obj :=
  {p.topic} + {p.filteredTopic} + {p.impl} + {p.reader} + {p.readCondition}

theorem val_toFinset_some (x : Obj) : (some x).toFinset.val = {x} := rfl

theorem val_toFinset_none : (none : Option Obj).toFinset.val = 0 := rfl

theorem createReader_makes :
    ⦃fun w' => ⌜w' = w⌝⦄ createReader o ⦃⇓ p w' => ⌜Makes readerParts w p w'⌝⦄ := by
  mvcgen [createReader]
  next w1 hw _ topic _ hqos w2 htopic _ w3 hdelete =>
    subst hw
    exact .failed (htopic.1.trans hdelete) (by simp)
  next w1 hw _ topic _ hqos w2 htopic _ filtered _ w3 hfiltered _ impl _ w4 himpl _ reader _ w5
      hreader _ condition _ w6 hcondition =>
    subst hw
    exact .made ((((htopic.1.trans hfiltered.1).trans himpl.1).trans hreader.1).trans
      hcondition.1) rfl rfl
  next w1 hw _ topic _ hqos w2 htopic _ filtered _ w3 hfiltered _ impl _ w4 himpl _ reader _ w5
      hreader condition _ hnone heq w6 hcondition _ w7 h7 _ w8 h8 _ w9 h9 _ w10 h10 =>
    subst hw
    obtain rfl := eq_none_of_forall hnone
    have hall := (((htopic.1.trans hfiltered.1).trans himpl.1).trans hreader.1).trans hcondition.1
    refine .failed ((((hall.trans h7).trans h8).trans h9).trans h10) ?_
    simp only [val_toFinset_some, val_toFinset_none]
    abel
  next w1 hw _ topic _ hqos w2 htopic _ filtered _ w3 hfiltered _ impl _ w4 himpl reader _ hnone
      heq w5 hreader _ w6 h6 _ w7 h7 _ w8 h8 =>
    subst hw
    obtain rfl := eq_none_of_forall hnone
    have hall := ((htopic.1.trans hfiltered.1).trans himpl.1).trans hreader.1
    refine .failed (((hall.trans h6).trans h7).trans h8) ?_
    simp only [val_toFinset_some, val_toFinset_none]
    abel
  next w1 hw _ topic _ hqos w2 htopic _ filtered _ w3 hfiltered impl _ hnone heq w4 himpl _ w5 h5
      _ w6 h6 =>
    subst hw
    obtain rfl := eq_none_of_forall hnone
    have hall := (htopic.1.trans hfiltered.1).trans himpl.1
    refine .failed ((hall.trans h5).trans h6) ?_
    simp only [val_toFinset_some, val_toFinset_none]
    abel
  next w1 hw _ topic _ hqos w2 htopic filtered _ hnone heq w3 hfiltered _ w4 h4 =>
    subst hw
    obtain rfl := eq_none_of_forall hnone
    exact .failed ((htopic.1.trans hfiltered.1).trans h4) (by simp)
  next w1 hw topic _ hnone heq w2 htopic =>
    subst hw
    obtain rfl := eq_none_of_forall hnone
    exact .failed htopic.1 rfl

@[spec] theorem createReader_spec :
    ⦃fun w' => ⌜w' = w⌝⦄ createReader o
    ⦃⇓ p w' => ⌜Makes readerParts w p w' ∧ p.isSome = readerCreated o⌝⦄ := by
  intro w' hw
  have hcreates := Lifecycle.run_of_spec (Lifecycle.createReader_spec o w'.state)
  rw [← (extends_createReader.run w').1] at hcreates
  exact ⟨createReader_makes o w w' hw, hcreates.isSome⟩

@[spec] theorem undoSubscription_spec (p : ReaderParts) (handle name : Option Obj) :
    ⦃fun w' => ⌜w' = w⌝⦄ undoSubscription o p handle name
    ⦃⇓ _ w' => ⌜Silent w 0 (readerParts p + memory none handle name) w'⌝⦄ := by
  mvcgen [undoSubscription]
  next w1 hw _ w2 h2 _ w3 h3 _ w4 h4 _ w5 h5 _ w6 h6 _ w7 h7 _ w8 h8 =>
    subst hw
    have hfirst := ((h2.trans h3).trans h4).trans h5
    refine (((hfirst.trans h6).trans h7).trans h8).congr (by simp) ?_
    simp only [readerParts, memory, val_toFinset_some, val_toFinset_none]
    abel

@[spec] theorem assignGuid_spec (reader : Obj) (guid : Guid) :
    ⦃fun w' => ⌜w' = w⌝⦄ (assignGuid reader guid : BookM G Unit)
    ⦃⇓ _ w' => ⌜Quiet w 0 0 w' ∧
      w'.books.readerGuids = Function.update w.books.readerGuids reader (some guid)⌝⦄ := by
  mvcgen [assignGuid]
  next hw _ w2 =>
    intro h2
    subst hw h2
    exact ⟨⟨.nil ⟨rfl, rfl⟩ rfl rfl, rfl, rfl⟩, rfl⟩

/-- `rmw_create_subscription` gets to the update of the graph, unless it is
suppressed. -/
def subscriptionReached (node : Option Node) (s : State) : Bool :=
  node.any (endpointChecked o s) && readerCreated o &&
    (o (.create .rmwSubscription) && o (.create .topicName)) && o .guid && o .insertEndpoint

/-- What `rmw_create_subscription` does to the books. -/
structure BooksSubscription (failure : Failure) (guid : Guid) (node : Option Node) (w : World G)
    (p : Option Subscription) (w' : World G) : Prop extends
    BooksEndpoint g o failure .reader guid node (subscriptionReached o node w.state) w p.isSome w'
    where
  reader : ∀ q ∈ p, ∀ impl ∈ q.data, w'.books.readerGuids impl.reader = some guid ∧
    impl.reader.address < w'.state.heap.next

theorem BooksSubscription.failed {failure : Failure} {guid : Guid} {node : Option Node}
    {w w' : World G}
    (h : BooksEndpoint g o failure .reader guid node (subscriptionReached o node w.state) w false w') :
    BooksSubscription g o failure guid node w none w' where
  toBooksEndpoint := h
  reader q hq := by cases hq

/-- The parts of a subscription are made, and its reader has a GUID. -/
structure Prepared (guid : Guid) (parts : ReaderParts) (made : Multiset Obj) (w w' : World G) :
    Prop where
  quiet : Quiet w made 0 w'
  keeps : KeepsGuids w w'
  reader : w'.books.readerGuids parts.reader = some guid
  made : parts.reader ∈ made

theorem Prepared.assigned {guid : Guid} {parts : ReaderParts} {made : Multiset Obj}
    {w w₁ w₂ w' : World G} (h : Silent w (readerParts parts) 0 w₁)
    (hassign : Quiet w₁ 0 0 w₂ ∧
      w₂.books.readerGuids = Function.update w₁.books.readerGuids parts.reader (some guid))
    (hmemory : Silent w₂ made 0 w') :
    Prepared guid parts (readerParts parts + made) w w' where
  quiet := ((h.toQuiet.trans hassign.1).trans hmemory.toQuiet).congr (by simp) (by simp)
  keeps x hx := by
    have hnew : x ≠ parts.reader := by
      rintro rfl
      exact Nat.not_lt.mpr (h.fresh _ (by simp [readerParts])).1 hx
    rw [hmemory.readerGuids, hassign.2, Function.update_of_ne hnew, h.readerGuids]
  reader := by rw [hmemory.readerGuids, hassign.2, Function.update_self]
  made := by simp [readerParts]

theorem rmwCreateSubscription_books (failure : Failure) (guid : Guid) (node : Option Node) :
    ⦃fun w' => ⌜w' = w⌝⦄ rmwCreateSubscription g o failure guid node
    ⦃⇓ p w' => ⌜BooksSubscription g o failure guid node w p w'⌝⦄ := by
  mvcgen [rmwCreateSubscription]
  next node' _ w1 hw hcheck =>
    subst hw
    exact .failed g o (.early g o (Silent.refl _).toQuiet (fun _ _ => rfl) rfl
      (by simp_all [subscriptionReached]))
  next node' _ w1 hw hcheck _ parts _ w2 hreader _ w3 hassign handle w4 hhandle name object topicName
      heq subscription hguid w5 hname _ w6 hundo =>
    subst hw
    cases heq
    have hmade := Prepared.assigned (hreader.1.complete _ rfl) hassign (hhandle.1.trans hname.1)
    have hall := hmade.quiet.trans hundo.toQuiet
    refine .failed g o (.early g o hall ?_ ?_ (by simp_all [subscriptionReached]))
    · exact fun x hx => (congrFun hundo.readerGuids x).trans (hmade.keeps x hx)
    · simp only [memory, val_toFinset_none, add_zero, zero_add]
  next node' _ w1 hw hcheck _ parts _ w2 hreader _ w3 hassign handle w4 hhandle name object topicName
      heq subscription hguid w5 hname ok hfail w6 hregister _ w7 hundo =>
    subst hw
    cases heq
    have hmade := Prepared.assigned (hreader.1.complete _ rfl) hassign (hhandle.1.trans hname.1)
    refine .failed g o (.registered g o hmade.quiet hmade.keeps hregister hundo.toEntry
      hundo.graph hundo.readerGuids (fun _ => ?_) ?_)
    · simp only [memory, val_toFinset_none, zero_add]
    · simp_all [subscriptionReached]
  next node' _ w1 hw hcheck _ parts _ w2 hreader _ w3 hassign handle w4 hhandle name object topicName
      heq subscription hguid w5 hname ok hok w6 hregister _ w7 h7 =>
    subst hw h7
    cases heq
    have hmade := Prepared.assigned (hreader.1.complete _ rfl) hassign (hhandle.1.trans hname.1)
    refine ⟨.registered g o hmade.quiet hmade.keeps hregister (.withEntities ..) rfl rfl nofun ?_,
      ?_⟩
    · simp_all [subscriptionReached]
    · rintro q ⟨⟩ impl ⟨⟩
      refine ⟨?_, (hmade.quiet.fresh _ hmade.made).2.trans_le hregister.entry.next_le⟩
      rw [World.books_withEntities, hregister.readerGuids, hmade.reader]
  next node' _ w1 hw hcheck _ parts _ w2 hreader _ w3 hassign handle w4 hhandle name _ hnone heq w5
      hname _ w6 hundo =>
    subst hw heq
    have hmade := Prepared.assigned (hreader.1.complete _ rfl) hassign (hhandle.1.trans hname.1)
    have hall := hmade.quiet.trans hundo.toQuiet
    refine .failed g o (.early g o hall ?_ ?_ ?_)
    · exact fun x hx => (congrFun hundo.readerGuids x).trans (hmade.keeps x hx)
    · simp only [memory, val_toFinset_none, add_zero, zero_add]
    · simp only [subscriptionReached, ← hhandle.2, ← hname.2]
      cases handle <;> cases name <;> simp_all
  next node' _ w1 hw hcheck parts _ hnone heq w2 hreader =>
    subst hw heq
    obtain rfl := eq_none_of_forall hnone
    obtain ⟨xs, hsilent⟩ := hreader.1.incomplete rfl
    exact .failed g o (.early g o hsilent.toQuiet hsilent.keepsGuids rfl
      (by simp [subscriptionReached, ← hreader.2]))
  next node' hnone heq w1 hw =>
    subst hw heq
    obtain rfl := eq_none_of_forall hnone
    exact .failed g o (.early g o (Silent.refl _).toQuiet (fun _ _ => rfl) rfl
      (by simp [subscriptionReached]))

end Specifications

/-! ## All or nothing -/

/-- zzdds gives a new endpoint a GUID that no endpoint has. -/
structure NewGuid (guid : Guid) (w : World G) : Prop where
  publication : guid ∉ w.state.entities.localPublicationGuids
  entity : ∀ e, (e, guid) ∉ g.entities w.books.graph
  association : ∀ e key, (e, guid, key) ∉ g.associations w.books.graph

/-- The call gets to the update of the list of its node, which throws, or fails
with the endpoint recorded. -/
def EndpointLeft (failure : Failure) (reached : Bool) (s : State) : Prop :=
  (reached && !s.impl.suppressGraphUpdates && o .addEntityReturns && !o .addEndpointGraph) = true ∧
    (failure.throws = true ∨ failure.recorded = true)

/-- What is left of an endpoint that is not created. -/
theorem BooksEndpoint.undone {g : LocalGraph G} {o : Outcomes} (hg : g.Lawful) {failure : Failure}
    {e : End} {guid : Guid} {node : Option Node} {reached created : Bool} {w w' : World G}
    (hnew : NewGuid g guid w) (h : BooksEndpoint g o failure e guid node reached w created w')
    (hcreated : created = (reached &&
      (w.state.impl.suppressGraphUpdates || o .addEntityReturns && o .addEndpointGraph)))
    (hlive : created = false → w'.state.heap.live = w.state.heap.live)
    (hentities : created = false → w'.state.entities = w.state.entities) :
    (created = false → Undone g w w') ↔ ¬ EndpointLeft o failure reached w.state := by
  constructor
  · rintro hundone ⟨hcalled, hleft⟩
    simp only [Bool.and_eq_true, Bool.not_eq_true'] at hcalled
    obtain ⟨⟨⟨hreached, hsuppress⟩, hentity⟩, hadd⟩ := hcalled
    have hundone := hundone (by simp [hcreated, hsuppress, hadd])
    obtain ⟨n, -, hgraph⟩ := h.reached hreached
    rcases hleft with hthrows | hrecorded
    · have hmem : (e, guid) ∈ g.entities w'.books.graph := by
        cases hrecorded : failure.recorded <;>
          simp [hgraph, announced, hsuppress, hentity, hadd, hthrows, hrecorded,
            hg.entities_associate, hg.entities_addEntity]
      exact hnew.entity e (hundone.graphEntities ▸ hmem)
    · have hmem : (e, guid, nodeKey n) ∈ g.associations w'.books.graph := by
        cases hthrows : failure.throws <;>
          simp [hgraph, announced, hsuppress, hentity, hadd, hthrows, hrecorded,
            hg.associations_removeEntity, hg.associations_associate]
      exact hnew.association e (nodeKey n) (hundone.associations ▸ hmem)
  · intro hleft hnone
    obtain ⟨xs, hentry⟩ := h.released hnone
    have hgraph : w'.books.graph = w.books.graph ∨
        w'.books.graph = g.removeEntity e guid (g.addEntity e guid w.books.graph) := by
      cases hreached : reached with
      | false => exact .inl (h.unreached hreached)
      | true =>
          obtain ⟨n, -, hgraph⟩ := h.reached hreached
          rw [hgraph]
          simp only [EndpointLeft, hreached] at hleft
          grind [announced]
    have herase := Finset.erase_insert (hnew.entity e)
    refine ⟨hentities hnone, hlive hnone, ⟨xs, hentry.nodup, hentry.made_eq, hentry.released_eq⟩,
      ?_, ?_, ?_⟩
    · rcases hgraph with hgraph | hgraph <;>
        simp [hgraph, hg.entities_removeEntity, hg.entities_addEntity, herase]
    · rcases hgraph with hgraph | hgraph <;>
        simp [hgraph, hg.associations_removeEntity, hg.associations_addEntity]
    · rcases hgraph with hgraph | hgraph <;>
        simp [hgraph, hg.nodes_removeEntity, hg.nodes_addEntity]

/-- What the smaller program says about a run. -/
theorem createsPublisher (failure : Failure) (guid : Guid) (node : Option Node) (w : World G) :
    CreatesPublisher o guid node w.state ((rmwCreatePublisher g o failure guid node).run w).1
      ((rmwCreatePublisher g o failure guid node).run w).2.state := by
  obtain ⟨hresult, hstate⟩ := (extends_rmwCreatePublisher failure guid node).run w
  rw [hresult, hstate]
  exact Lifecycle.run_of_spec (Lifecycle.rmwCreatePublisher_spec o guid node w.state)

theorem createsSubscription (failure : Failure) (guid : Guid) (node : Option Node)
    (w : World G) :
    CreatesSubscription o node w.state ((rmwCreateSubscription g o failure guid node).run w).1
      ((rmwCreateSubscription g o failure guid node).run w).2.state := by
  obtain ⟨hresult, hstate⟩ := (extends_rmwCreateSubscription failure guid node).run w
  rw [hresult, hstate]
  exact Lifecycle.run_of_spec (Lifecycle.rmwCreateSubscription_spec o node w.state)

theorem publisherCreated_eq (node : Option Node) (s : State) :
    publisherCreated o node s = (publisherReached o node s &&
      (s.impl.suppressGraphUpdates || o .addEntityReturns && o .addEndpointGraph)) := by
  simp only [publisherCreated, publisherReached, publisherRegistered, Bool.and_assoc]

theorem subscriptionCreated_eq (node : Option Node) (s : State) :
    subscriptionCreated o node s = (subscriptionReached o node s &&
      (s.impl.suppressGraphUpdates || o .addEntityReturns && o .addEndpointGraph)) := by
  simp only [subscriptionCreated, subscriptionReached, subscriptionRegistered, Bool.and_assoc]

theorem rmwCreatePublisher_undone (hg : g.Lawful) (failure : Failure) (guid : Guid)
    (node : Option Node) (w : World G) (hw : w.state.Registered) (hnew : NewGuid g guid w) :
    (((rmwCreatePublisher g o failure guid node).run w).1 = none →
      Undone g w ((rmwCreatePublisher g o failure guid node).run w).2) ↔
    ¬ EndpointLeft o failure (publisherReached o node w.state) w.state := by
  have hcreates := createsPublisher g o failure guid node w
  have hbooks := run_of_spec (rmwCreatePublisher_books g o w failure guid node)
  generalize (rmwCreatePublisher g o failure guid node).run w = run at hcreates hbooks
  obtain ⟨p, w'⟩ := run
  rw [← Option.not_isSome_iff_eq_none, Bool.not_eq_true]
  refine hbooks.undone hg hnew ?_ ?_ ?_
  · exact hcreates.isSome.trans (publisherCreated_eq o node w.state)
  · intro hnone
    obtain rfl := Option.isSome_eq_false_iff.mp hnone |> Option.isNone_iff_eq_none.mp
    exact hcreates.effect.owns.restored
  · intro hnone
    obtain rfl := Option.isSome_eq_false_iff.mp hnone |> Option.isNone_iff_eq_none.mp
    exact hcreates.entities hw hnew.publication

theorem rmwCreateSubscription_undone (hg : g.Lawful) (failure : Failure) (guid : Guid)
    (node : Option Node) (w : World G) (hw : w.state.Registered) (hnew : NewGuid g guid w) :
    (((rmwCreateSubscription g o failure guid node).run w).1 = none →
      Undone g w ((rmwCreateSubscription g o failure guid node).run w).2) ↔
    ¬ EndpointLeft o failure (subscriptionReached o node w.state) w.state := by
  have hcreates := createsSubscription g o failure guid node w
  have hbooks := run_of_spec (rmwCreateSubscription_books g o w failure guid node)
  generalize (rmwCreateSubscription g o failure guid node).run w = run at hcreates hbooks
  obtain ⟨p, w'⟩ := run
  rw [← Option.not_isSome_iff_eq_none, Bool.not_eq_true]
  refine hbooks.undone hg hnew ?_ ?_ ?_
  · exact hcreates.isSome.trans (subscriptionCreated_eq o node w.state)
  · intro hnone
    obtain rfl := Option.isSome_eq_false_iff.mp hnone |> Option.isNone_iff_eq_none.mp
    exact hcreates.effect.owns.restored
  · intro hnone
    obtain rfl := Option.isSome_eq_false_iff.mp hnone |> Option.isNone_iff_eq_none.mp
    exact hcreates.entities hw

/-- A creation of an endpoint that fails leaves everything as it was, just when
the update of the list of its node does not throw and does not fail with the
endpoint recorded. -/
theorem createEndpoint_undone (hg : g.Lawful) (failure : Failure) (guid : Guid)
    (node : Option Node) (w : World G) (hw : w.state.Registered) (hnew : NewGuid g guid w) :
    ((((rmwCreatePublisher g o failure guid node).run w).1 = none →
        Undone g w ((rmwCreatePublisher g o failure guid node).run w).2) ↔
      ¬ EndpointLeft o failure (publisherReached o node w.state) w.state) ∧
    ((((rmwCreateSubscription g o failure guid node).run w).1 = none →
        Undone g w ((rmwCreateSubscription g o failure guid node).run w).2) ↔
      ¬ EndpointLeft o failure (subscriptionReached o node w.state) w.state) :=
  ⟨rmwCreatePublisher_undone g o hg failure guid node w hw hnew,
    rmwCreateSubscription_undone g o hg failure guid node w hw hnew⟩

/-- A new context with a node. -/
def nodeWorld : World Tables :=
  ((rmwCreateNode Tables.graph (fun _ => true) false "n" "/").run initialWorld).2

theorem state_nodeWorld : nodeWorld.state = Session.withNode.state :=
  ((extends_rmwCreateNode Tables.graph (fun _ => true) false "n" "/").run initialWorld).2

theorem registered_nodeWorld : nodeWorld.state.Registered := by
  rw [state_nodeWorld]
  exact registered_of_reachable Session.withNode_reachable

theorem newGuid_nodeWorld : NewGuid Tables.graph (plainGuid 1) nodeWorld where
  publication := by decide +kernel
  entity e := by
    have hnone : Tables.graph.entities nodeWorld.books.graph = ∅ := by decide +kernel
    rw [hnone]
    exact Finset.notMem_empty _
  association e key := by
    have hnone : Tables.graph.associations nodeWorld.books.graph = ∅ := by decide +kernel
    rw [hnone]
    exact Finset.notMem_empty _

theorem createEndpoint_undone_nodeWorld :
    ((((rmwCreatePublisher Tables.graph (fun _ => true) ⟨false, false⟩ (plainGuid 1) plainNode).run
          nodeWorld).1 = none →
        Undone Tables.graph nodeWorld ((rmwCreatePublisher Tables.graph (fun _ => true)
          ⟨false, false⟩ (plainGuid 1) plainNode).run nodeWorld).2) ↔
      ¬ EndpointLeft (fun _ => true) ⟨false, false⟩
        (publisherReached (fun _ => true) plainNode nodeWorld.state) nodeWorld.state) ∧
    ((((rmwCreateSubscription Tables.graph (fun _ => true) ⟨false, false⟩ (plainGuid 1) plainNode).run
          nodeWorld).1 = none →
        Undone Tables.graph nodeWorld ((rmwCreateSubscription Tables.graph (fun _ => true)
          ⟨false, false⟩ (plainGuid 1) plainNode).run nodeWorld).2) ↔
      ¬ EndpointLeft (fun _ => true) ⟨false, false⟩
        (subscriptionReached (fun _ => true) plainNode nodeWorld.state) nodeWorld.state) :=
  createEndpoint_undone Tables.graph (fun _ => true) Tables.lawful ⟨false, false⟩ (plainGuid 1) plainNode
    nodeWorld registered_nodeWorld newGuid_nodeWorld

/-- The update of the list of the node fails. -/
def endpointGraphFails : Outcomes := fun step => step ≠ .addEndpointGraph

/-- The error path leaves the endpoint on the list of its node. -/
theorem createEndpoint_associated : ¬ ∀ (o : Outcomes) (failure : Failure) (guid : Guid)
    (node : Option Node) (w : World Tables), w.state.Registered → NewGuid Tables.graph guid w →
    (((rmwCreatePublisher Tables.graph o failure guid node).run w).1 = none →
      Undone Tables.graph w ((rmwCreatePublisher Tables.graph o failure guid node).run w).2) ∧
    (((rmwCreateSubscription Tables.graph o failure guid node).run w).1 = none →
      Undone Tables.graph w ((rmwCreateSubscription Tables.graph o failure guid node).run w).2) := by
  intro h
  have hundone := (h endpointGraphFails ⟨true, false⟩ (plainGuid 1) plainNode nodeWorld
    registered_nodeWorld newGuid_nodeWorld).1 (by decide +kernel)
  have hassociations := hundone.associations
  revert hassociations
  decide +kernel

end RmwZzdds.Registration
