import RmwZzdds.Lifecycle.Entity

/-!
# Publishers and subscriptions

Creation and destruction of the endpoints of a node.  A publisher is memory
over a topic and a writer, and a subscription is memory over a topic, a
content-filtered topic, a reader and a read condition.  The entities of zzdds
may refuse their deletion, in a roll-back as well as in a destruction, and the
memory is released all the same.
-/

namespace RmwZzdds

open Ownership Std.Do

namespace Lifecycle

open Service (Guid)

set_option mvcgen.warning false

/-! ## Checks -/

/-- `valid_node`. -/
def validNode (s : State) (node : Node) : Bool :=
  node.implementationIdentifier = some identifier && node.data.isSome && s.context.impl.isSome

theorem validNode_of_valid {s : State} {node : Node} (h : node.Valid)
    (hs : s.context.impl.isSome) : validNode s node = true := by
  simp [validNode, h.1, h.2, hs]

/-- What both creations check before they create anything. -/
def endpointChecked (o : Outcomes) (s : State) (node : Node) : Bool :=
  validNode s node && o .validateTopic && o .supportedOptions && o .resolveTypeSupport &&
    o .ddsTopicName && !s.impl.shutdown && o .registerTypeSupport

/-! ## Publishers -/

/-- The objects of a publisher. -/
def Publisher.objects (p : Publisher) : Finset Obj :=
  {p.object} ∪ (p.data.map (·.object)).toFinset ∪ p.topicName.toFinset ∪
    (p.data.map (·.writer)).toFinset ∪ (p.data.map (·.topic)).toFinset

/-- The fields that are checked in a publisher. -/
def Publisher.Valid (p : Publisher) : Prop :=
  p.implementationIdentifier = some identifier ∧ p.data.isSome

/-- The topic and the writer of `rmw_create_publisher`. -/
def createWriter (o : Outcomes) : RmwM (Option (Obj × Obj)) := do
  let some topic ← create o .topic
    | return none
  if !o .applyQos || !o .attachTypeHash then
    let _ ← ddsDelete o topic
    return none
  let some writer ← create o .dataWriter
    | let _ ← ddsDelete o topic
      return none
  return some (topic, writer)

/-- The deletion of a writer and its topic, with its success. -/
def deleteWriter (o : Outcomes) (topic writer : Obj) : RmwM Bool := do
  let writerDeleted ← ddsDelete o writer
  let topicDeleted ← ddsDelete o topic
  return topicDeleted && writerDeleted

/-- The registration of `rmw_create_publisher`, with the handler of its
exceptions. -/
def registerPublisher (o : Outcomes) (publisher : Publisher) (guid : Guid) : RmwM Bool := do
  if o .insertGuid then
    modifyEntities (·.addGuid guid)
    if o .insertEndpoint then
      modifyEntities (·.addPublisher publisher)
      if (← get).impl.suppressGraphUpdates then
        return true
      if o .addEntityReturns && o .addEndpointGraph then
        return true
  modifyEntities (·.removeGuid guid)
  modifyEntities (·.removePublisher publisher)
  return false

/-- The roll-back of `rmw_create_publisher`. -/
def undoPublisher (o : Outcomes) (topic writer : Obj) (impl handle name : Option Obj) :
    RmwM Unit := do
  deallocate name
  deallocate handle
  deallocate impl
  let _ ← deleteWriter o topic writer

/-- `rmw_create_publisher`.  `guid` is the RTPS GUID that zzdds gives to the
writer. -/
def rmwCreatePublisher (o : Outcomes) (guid : Guid) (node : Option Node) :
    RmwM (Option Publisher) := do
  let some node := node
    | return none
  if !endpointChecked o (← get) node then
    return none
  let some (topic, writer) ← createWriter o
    | return none
  let impl ← create o .publisherImpl
  let handle ← create o .rmwPublisher
  let name ← create o .topicName
  let (some implObject, some object, some topicName) := (impl, handle, name)
    | undoPublisher o topic writer impl handle name
      return none
  let publisher : Publisher := {
    object
    implementationIdentifier := some identifier
    data := some { object := implObject, node := node.object, topic, writer, rtpsGuid := guid }
    topicName }
  if !o .guid then
    undoPublisher o topic writer implObject object topicName
    return none
  if !(← registerPublisher o publisher guid) then
    undoPublisher o topic writer implObject object topicName
    return none
  modifyEntities (·.enter 1)
  return some publisher

/-- `rmw_destroy_publisher`. -/
def rmwDestroyPublisher (o : Outcomes) (node : Option Node) (publisher : Option Publisher) :
    RmwM Ret := do
  let (some node, some publisher) := (node, publisher)
    | return .invalidArgument
  let some impl := publisher.data
    | return .invalidArgument
  if node.implementationIdentifier ≠ some identifier then
    return .incorrectRmwImplementation
  if !validNode (← get) node then
    return .invalidArgument
  if publisher.implementationIdentifier ≠ some identifier then
    return .incorrectRmwImplementation
  modifyEntities (·.removePublisher publisher)
  modifyEntities (·.removeGuid impl.rtpsGuid)
  let ok ← deleteWriter o impl.topic impl.writer
  deallocate publisher.topicName
  deallocate (some impl.object)
  deallocate (some publisher.object)
  modifyEntities Entities.leave
  return if ok then .ok else .error

/-- When zzdds makes the entities of a publisher. -/
def writerCreated (o : Outcomes) : Bool :=
  o (.create .topic) && o .applyQos && o .attachTypeHash && o (.create .dataWriter)

/-- What `createWriter` does, on success and on failure. -/
structure CreatesWriter (o : Outcomes) (s : State) (p : Option (Obj × Obj)) (s' : State) :
    Prop where
  effect : Effect (Refuses o) s (p.elim ∅ fun q => {q.1} ∪ {q.2}) s'
  entities : s'.entities = s.entities
  isSome : p.isSome = writerCreated o
  kinds : ∀ q ∈ p, q.1.kind = .topic ∧ q.2.kind = .dataWriter

@[spec] theorem createWriter_spec (o : Outcomes) (s : State) :
    ⦃fun s' => ⌜s' = s⌝⦄ createWriter o ⦃⇓ p s' => ⌜CreatesWriter o s p s'⌝⦄ := by
  mvcgen [createWriter]
  next s1 hs _ topic _ hqos s2 htopic _ s3 h3 =>
    subst hs
    obtain ⟨rfl, -⟩ := h3
    have hnew := htopic.effect.notMem (x := topic) (by simp)
    refine ⟨(htopic.effect.delete hnew).congr (by simp), htopic.entities, ?_, by simp⟩
    grind [writerCreated]
  next s1 hs _ topic _ hqos s2 htopic _ writer _ s3 hwriter =>
    subst hs
    refine ⟨htopic.effect.trans hwriter.effect, hwriter.entities.trans htopic.entities, ?_, ?_⟩
    · have hcreated := htopic.isSome
      have hcreated' := hwriter.isSome
      grind [writerCreated]
    · rintro q ⟨⟩
      exact ⟨htopic.kind _ rfl, hwriter.kind _ rfl⟩
  next s1 hs _ topic _ hqos s2 htopic writer _ hnone heq s3 hwriter _ s4 h4 =>
    subst hs heq
    obtain ⟨rfl, -⟩ := h4
    have hfail := hwriter.isSome
    cases writer with
    | some writer => exact (hnone writer rfl).elim
    | none =>
        refine ⟨?_, hwriter.entities.trans htopic.entities, ?_, by simp⟩
        · have hnew := htopic.effect.notMem (x := topic) (by simp)
          exact ((htopic.effect.trans hwriter.effect).delete hnew).congr (by simp)
        · simp [writerCreated, ← hfail]
  next s1 hs topic _ hnone heq s2 htopic =>
    subst hs heq
    cases topic with
    | some topic => exact (hnone topic rfl).elim
    | none => exact ⟨htopic.effect, htopic.entities, by simp [writerCreated, ← htopic.isSome], by simp⟩

@[spec] theorem deleteWriter_spec (o : Outcomes) (topic writer : Obj) (s : State) :
    ⦃fun s' => ⌜s' = s⌝⦄ deleteWriter o topic writer
    ⦃⇓ ok s' => ⌜s' = (s.delete o writer).delete o topic ∧
      ok = (o (.delete topic.kind) && o (.delete writer.kind))⌝⦄ := by
  mvcgen [deleteWriter]
  next s1 hs a s2 h2 b s3 h3 =>
    subst hs
    obtain ⟨rfl, rfl⟩ := h2
    obtain ⟨rfl, rfl⟩ := h3
    exact ⟨rfl, rfl⟩

@[spec] theorem undoPublisher_spec (o : Outcomes) (topic writer : Obj)
    (impl handle name : Option Obj) (s : State) :
    ⦃fun s' => ⌜s' = s⌝⦄ undoPublisher o topic writer impl handle name
    ⦃⇓ _ s' => ⌜s' = ((s.free (name.toFinset ∪ handle.toFinset ∪ impl.toFinset)).delete o
      writer).delete o topic⌝⦄ := by
  mvcgen [undoPublisher]
  next s1 hs _ s2 h2 _ s3 h3 _ s4 h4 _ s5 h5 =>
    subst hs h2 h3 h4
    obtain ⟨rfl, -⟩ := h5
    simp only [State.free_free]

/-- When `rmw_create_publisher` can register the publisher. -/
def publisherRegistered (o : Outcomes) (s : State) : Bool :=
  o .insertGuid && o .insertEndpoint &&
    (s.impl.suppressGraphUpdates || o .addEntityReturns && o .addEndpointGraph)

@[spec] theorem registerPublisher_spec (o : Outcomes) (publisher : Publisher) (guid : Guid)
    (s : State) :
    ⦃fun s' => ⌜s' = s⌝⦄ registerPublisher o publisher guid
    ⦃⇓ ok s' => ⌜ok = publisherRegistered o s ∧ ∃ e, s' = s.withEntities e ∧
      (publisher ∉ s.entities.publishers → guid ∉ s.entities.localPublicationGuids →
        e = if ok then (s.entities.addGuid guid).addPublisher publisher
          else s.entities)⌝⦄ := by
  mvcgen [registerPublisher]
  next hinsert s1 hs _ hinsert' s2 h2 _ s3 h3 hsuppress =>
    subst hs h2 h3
    exact ⟨by simp_all [publisherRegistered], _, rfl, by simp⟩
  next hinsert s1 hs _ hinsert' s2 h2 _ s3 h3 hsuppress hadd =>
    subst hs h2 h3
    exact ⟨by simp_all [publisherRegistered], _, rfl, by simp⟩
  next hinsert s1 hs _ hinsert' s2 h2 _ s3 h3 hsuppress hadd _ s4 h4 _ s5 h5 =>
    subst hs h2 h3 h4 h5
    refine ⟨by simp_all [publisherRegistered], _, rfl, fun hp hguid => ?_⟩
    simp [Entities.addGuid, Entities.addPublisher, Entities.removeGuid, Entities.removePublisher,
      Finset.erase_insert hp, Finset.erase_insert hguid]
  next hinsert s1 hs _ hinsert' s2 h2 _ s3 h3 _ s4 h4 =>
    subst hs h2 h3 h4
    refine ⟨by simp_all [publisherRegistered], _, rfl, fun hp hguid => ?_⟩
    simp [Entities.addGuid, Entities.removeGuid, Entities.removePublisher,
      Finset.erase_eq_of_notMem hp, Finset.erase_insert hguid]
  next hinsert s1 hs _ s2 h2 _ s3 h3 =>
    subst hs h2 h3
    refine ⟨by simp_all [publisherRegistered], _, rfl, fun hp hguid => ?_⟩
    simp [Entities.removeGuid, Entities.removePublisher, Finset.erase_eq_of_notMem hp,
      Finset.erase_eq_of_notMem hguid]

/-- When `rmw_create_publisher` returns a publisher. -/
def publisherCreated (o : Outcomes) (node : Option Node) (s : State) : Bool :=
  node.any (endpointChecked o s) && writerCreated o &&
    (o (.create .publisherImpl) && o (.create .rmwPublisher) && o (.create .topicName)) &&
    o .guid && publisherRegistered o s

/-- What `rmw_create_publisher` does, on success and on failure. -/
structure CreatesPublisher (o : Outcomes) (guid : Guid) (node : Option Node) (s : State)
    (p : Option Publisher) (s' : State) : Prop where
  effect : Effect (Refuses o) s (p.elim ∅ Publisher.objects) s'
  isSome : p.isSome = publisherCreated o node s
  valid : ∀ q ∈ p, q.Valid
  handle : ∀ q ∈ p, IsHandle .rmwPublisher q.object q.objects
  data : ∀ q ∈ p, ∀ impl ∈ q.data, impl.rtpsGuid = guid ∧
    node.map (·.object) = some impl.node ∧ impl.topic.kind = .topic ∧
    impl.writer.kind = .dataWriter
  entities : s.Registered → guid ∉ s.entities.localPublicationGuids →
    s'.entities = p.elim s.entities fun q => ((s.entities.addGuid guid).addPublisher q).enter 1

/-- A publisher that is not created leaves nothing. -/
theorem CreatesPublisher.failed {o : Outcomes} {guid : Guid} {node : Option Node}
    {s s' : State} (h : Effect (Refuses o) s ∅ s') (hfail : publisherCreated o node s = false)
    (hentities : s.Registered → guid ∉ s.entities.localPublicationGuids →
      s'.entities = s.entities) : CreatesPublisher o guid node s none s' where
  effect := h
  isSome := hfail.symm
  valid := by simp
  handle := by simp
  data := by simp
  entities := hentities

/-- The roll-back of a publisher gives back all that was made for it. -/
theorem Effect.undoPublisher {o : Outcomes} {s s' : State} {topic writer : Obj}
    {impl handle name : Option Obj}
    (h : Effect (Refuses o) s
      ({topic} ∪ {writer} ∪ impl.toFinset ∪ handle.toFinset ∪ name.toFinset) s') :
    Effect (Refuses o) s ∅
      (((s'.free (name.toFinset ∪ handle.toFinset ∪ impl.toFinset)).delete o writer).delete o
        topic) := by
  have hwriter := h.notMem (x := writer) (by simp)
  have htopic := h.notMem (x := topic) (by simp)
  have hmemory : name.toFinset ∪ handle.toFinset ∪ impl.toFinset ⊆
      {topic} ∪ {writer} ∪ impl.toFinset ∪ handle.toFinset ∪ name.toFinset := by grind
  exact (((h.free hmemory).delete hwriter).delete htopic).congr (by grind)

/-- A new publisher is not registered yet. -/
theorem publisher_notMem {o : Outcomes} {s s' : State} {xs : Finset Obj} {p : Publisher}
    (h : Effect (Refuses o) s xs s') (he : s'.entities = s.entities)
    (hlive : s.Registered) (hp : p.object ∈ xs) : p ∉ s'.entities.publishers := by
  rw [he]
  exact fun hmem => h.notMem hp (hlive.publishers _ hmem)

@[spec] theorem rmwCreatePublisher_spec (o : Outcomes) (guid : Guid) (node : Option Node)
    (s : State) :
    ⦃fun s' => ⌜s' = s⌝⦄ rmwCreatePublisher o guid node
    ⦃⇓ p s' => ⌜CreatesPublisher o guid node s p s'⌝⦄ := by
  mvcgen [rmwCreatePublisher]
  next node' _ s1 hs hcheck =>
    subst hs
    exact .failed (.refl _ _) (by simp_all [publisherCreated]) fun _ _ => rfl
  next node' _ s1 hs hcheck _ topic writer _ s2 hwriter impl s3 himpl handle s4 hhandle name
      implObject object topicName heq publisher hguid s5 hname _ s6 h6 =>
    subst hs h6
    cases heq
    have hall := ((hwriter.effect.trans himpl.effect).trans hhandle.effect).trans hname.effect
    refine .failed hall.undoPublisher (by simp_all [publisherCreated]) fun _ _ => ?_
    exact hname.entities.trans (hhandle.entities.trans (himpl.entities.trans hwriter.entities))
  next node' _ s1 hs hcheck _ topic writer _ s2 hwriter impl s3 himpl handle s4 hhandle name
      implObject object topicName heq publisher hguid s5 hname ok hfail s6 hregister _ s7 h7 =>
    obtain ⟨hok, e, rfl, he⟩ := hregister
    subst hs h7
    cases heq
    have hall := ((hwriter.effect.trans himpl.effect).trans hhandle.effect).trans hname.effect
    have hentities := hname.entities.trans
      (hhandle.entities.trans (himpl.entities.trans hwriter.entities))
    have hregistered : publisherRegistered o s5 = publisherRegistered o s1 := by
      rw [publisherRegistered, hall.impl, publisherRegistered]
    refine .failed (hall.withEntities e).undoPublisher ?_ fun hlive hguid' => ?_
    · simp_all [publisherCreated]
    · have hnew : publisher ∉ s5.entities.publishers :=
        publisher_notMem hall hentities hlive (by simp [publisher])
      have he := he hnew (hentities ▸ hguid')
      simp_all
  next node' _ s1 hs hcheck _ topic writer _ s2 hwriter impl s3 himpl handle s4 hhandle name
      implObject object topicName heq publisher hguid s5 hname ok hok' s6 hregister _ s7 h7 =>
    obtain ⟨hok, e, rfl, he⟩ := hregister
    subst hs h7
    cases heq
    have hall := ((hwriter.effect.trans himpl.effect).trans hhandle.effect).trans hname.effect
    have hentities := hname.entities.trans
      (hhandle.entities.trans (himpl.entities.trans hwriter.entities))
    have hregistered : publisherRegistered o s5 = publisherRegistered o s1 := by
      rw [publisherRegistered, hall.impl, publisherRegistered]
    have hobjects : publisher.objects = {topic} ∪ {writer} ∪ {implObject} ∪ {object} ∪
        {topicName} := by
      simp [Publisher.objects, publisher]
      grind
    refine ⟨?_, ?_, ?_, ?_, ?_, ?_⟩
    · exact (hall.congr hobjects.symm).withEntities _
    · have h1 := hwriter.isSome
      have h2 := himpl.isSome
      have h3 := hhandle.isSome
      have h4 := hname.isSome
      simp_all [publisherCreated]
    · rintro q ⟨⟩
      exact ⟨rfl, rfl⟩
    · rintro q ⟨⟩
      rw [hobjects]
      have hkinds : topic.kind = .topic ∧ writer.kind = .dataWriter := hwriter.kinds _ rfl
      refine ⟨hhandle.kind object rfl, by simp [publisher], ?_⟩
      intro y hy hisHandle
      simp only [Finset.mem_union, Finset.mem_singleton] at hy
      rcases hy with (((rfl | rfl) | rfl) | rfl) | rfl
      · simp [hkinds.1, Kind.isHandle] at hisHandle
      · simp [hkinds.2, Kind.isHandle] at hisHandle
      · simp [himpl.kind _ rfl, Kind.isHandle] at hisHandle
      · rfl
      · simp [hname.kind _ rfl, Kind.isHandle] at hisHandle
    · rintro q ⟨⟩ impl' ⟨⟩
      exact ⟨rfl, rfl, (hwriter.kinds _ rfl).1, (hwriter.kinds _ rfl).2⟩
    · intro hlive hguid'
      have hnew : publisher ∉ s5.entities.publishers :=
        publisher_notMem hall hentities hlive (by simp [publisher])
      have he := he hnew (hentities ▸ hguid')
      simp_all
  next node' _ s1 hs hcheck _ topic writer _ s2 hwriter impl s3 himpl handle s4 hhandle name
      _ hnone heq s5 hname _ s6 h6 =>
    subst hs h6 heq
    have hall := ((hwriter.effect.trans himpl.effect).trans hhandle.effect).trans hname.effect
    refine .failed hall.undoPublisher ?_ fun _ _ => ?_
    · simp only [publisherCreated, ← himpl.isSome, ← hhandle.isSome, ← hname.isSome]
      cases impl <;> cases handle <;> cases name <;> simp_all
    · exact hname.entities.trans
        (hhandle.entities.trans (himpl.entities.trans hwriter.entities))
  next node' _ s1 hs hcheck pair _ hnone heq s2 hwriter =>
    subst hs heq
    cases pair with
    | some pair => exact (hnone pair.1 pair.2 rfl).elim
    | none =>
        refine .failed hwriter.effect ?_ fun _ _ => hwriter.entities
        simp [publisherCreated, ← hwriter.isSome]
  next node' hnone heq s1 hs =>
    subst hs heq
    cases node with
    | some node => exact (hnone node rfl).elim
    | none => exact .failed (.refl _ _) (by simp [publisherCreated]) fun _ _ => rfl

/-- When zzdds deletes the entities of a publisher. -/
def publisherDeleted (o : Outcomes) : Bool := o (.delete .topic) && o (.delete .dataWriter)

/-- The destruction of a publisher, whether zzdds deletes its entities or
not. -/
structure DestroysPublisher (o : Outcomes) (p : Publisher) (s : State) (r : Ret) (s' : State) :
    Prop where
  heap : s'.heap = s.heap.free p.objects
  refused : ∀ x ∈ s'.refused, x ∈ s.refused ∨ Refuses o x.kind
  context : s'.context = s.context
  impl : s'.impl = s.impl
  entities : ∀ impl ∈ p.data,
    s'.entities = ((s.entities.removePublisher p).removeGuid impl.rtpsGuid).leave
  ret : r = .ok ∨ r = .error
  ok : ∀ impl ∈ p.data, impl.topic.kind = .topic → impl.writer.kind = .dataWriter →
    (r = .ok ↔ publisherDeleted o = true)

@[spec] theorem rmwDestroyPublisher_spec (o : Outcomes) (node : Option Node) (p : Publisher) (s : State)
    (hnode : ∃ n ∈ node, n.Valid) (hp : p.Valid) (hcontext : s.context.impl.isSome) :
    ⦃fun s' => ⌜s' = s⌝⦄ rmwDestroyPublisher o node (some p)
    ⦃⇓ r s' => ⌜DestroysPublisher o p s r s'⌝⦄ := by
  obtain ⟨node, rfl, hnode⟩ := hnode
  mvcgen [rmwDestroyPublisher]
  next impl himpl hidentifier s1 hs => exact (hidentifier hnode.1).elim
  next impl himpl hidentifier s1 hs hinvalid =>
    subst hs
    simp [validNode_of_valid hnode hcontext] at hinvalid
  next impl himpl hidentifier s1 hs _ hidentifier' => exact (hidentifier' hp.1).elim
  next impl himpl hidentifier s1 hs _ _ _ s2 h2 _ s3 h3 ok s4 h4 _ s5 h5 _ s6 h6 _ s7 h7 _ s8 h8 =>
    subst hs h2 h3 h5 h6 h7 h8
    obtain ⟨rfl, rfl⟩ := h4
    refine ⟨?_, ?_, rfl, rfl, ?_, ?_, ?_⟩
    · simp only [State.free, State.delete, State.withEntities, Heap.free_free,
        Publisher.objects, himpl, Option.map_some, Option.toFinset_some]
      congr 1
      ac_rfl
    · intro x hx
      rcases State.refused_delete hx with hx | hx
      · exact State.refused_delete hx
      · exact .inr hx
    · intro impl' himpl'
      cases Option.mem_unique himpl himpl'
      simp
    · split <;> simp
    · intro impl' himpl' htopic hwriter
      cases Option.mem_unique himpl himpl'
      rw [htopic, hwriter]
      split <;> simp_all [publisherDeleted]
  next data hnone hdata s1 hs =>
    have hsome := hp.2
    cases data with
    | some impl => exact (hnone impl rfl).elim
    | none => simp [hdata] at hsome

/-! ## Subscriptions -/

/-- The objects of a subscription. -/
def Subscription.objects (p : Subscription) : Finset Obj :=
  {p.object} ∪ (p.data.map (·.object)).toFinset ∪ p.topicName.toFinset ∪
    (p.data.map (·.topic)).toFinset ∪ (p.data.map (·.filteredTopic)).toFinset ∪
    (p.data.map (·.reader)).toFinset ∪ (p.data.map (·.readCondition)).toFinset

/-- The fields that are checked in a subscription. -/
def Subscription.Valid (p : Subscription) : Prop :=
  p.implementationIdentifier = some identifier ∧ p.data.isSome

/-- The reader of `rmw_create_subscription` with what it needs.  The
implementation is made before the reader, whose listener refers to it. -/
structure ReaderParts where
  topic : Obj
  filteredTopic : Obj
  impl : Obj
  reader : Obj
  readCondition : Obj

def ReaderParts.objects (p : ReaderParts) : Finset Obj :=
  {p.topic} ∪ {p.filteredTopic} ∪ {p.impl} ∪ {p.reader} ∪ {p.readCondition}

def createReader (o : Outcomes) : RmwM (Option ReaderParts) := do
  let some topic ← create o .topic
    | return none
  if !o .applyQos || !o .attachTypeHash then
    let _ ← ddsDelete o topic
    return none
  let some filteredTopic ← create o .contentFilteredTopic
    | let _ ← ddsDelete o topic
      return none
  let some impl ← create o .subscriptionImpl
    | let _ ← ddsDelete o filteredTopic
      let _ ← ddsDelete o topic
      return none
  let some reader ← create o .dataReader
    | deallocate (some impl)
      let _ ← ddsDelete o filteredTopic
      let _ ← ddsDelete o topic
      return none
  let some readCondition ← create o .readCondition
    | let _ ← ddsDelete o reader
      deallocate (some impl)
      let _ ← ddsDelete o filteredTopic
      let _ ← ddsDelete o topic
      return none
  return some ⟨topic, filteredTopic, impl, reader, readCondition⟩

/-- The roll-back of `rmw_create_subscription`. -/
def undoSubscription (o : Outcomes) (p : ReaderParts) (handle name : Option Obj) : RmwM Unit := do
  deallocate name
  deallocate handle
  -- the reader's listener holds the implementation
  let _ ← ddsDelete o p.readCondition
  let _ ← ddsDelete o p.reader
  deallocate (some p.impl)
  let _ ← ddsDelete o p.filteredTopic
  let _ ← ddsDelete o p.topic

/-- The registration of `rmw_create_subscription`, with the handler of its
exceptions. -/
def registerSubscription (o : Outcomes) (subscription : Subscription) : RmwM Bool := do
  if o .insertEndpoint then
    modifyEntities (·.addSubscription subscription)
    if (← get).impl.suppressGraphUpdates then
      return true
    if o .addEntityReturns && o .addEndpointGraph then
      return true
  modifyEntities (·.removeSubscription subscription)
  return false

/-- `rmw_create_subscription`. -/
def rmwCreateSubscription (o : Outcomes) (node : Option Node) : RmwM (Option Subscription) := do
  let some node := node
    | return none
  if !endpointChecked o (← get) node then
    return none
  let some parts ← createReader o
    | return none
  let handle ← create o .rmwSubscription
  let name ← create o .topicName
  let (some object, some topicName) := (handle, name)
    | undoSubscription o parts handle name
      return none
  let subscription : Subscription := {
    object
    implementationIdentifier := some identifier
    data := some {
      object := parts.impl
      node := node.object
      topic := parts.topic
      filteredTopic := parts.filteredTopic
      reader := parts.reader
      readCondition := parts.readCondition }
    topicName }
  if !o .guid then
    undoSubscription o parts object topicName
    return none
  if !(← registerSubscription o subscription) then
    undoSubscription o parts object topicName
    return none
  modifyEntities (·.enter 1)
  return some subscription

/-- `rmw_destroy_subscription`. -/
def rmwDestroySubscription (o : Outcomes) (node : Option Node)
    (subscription : Option Subscription) : RmwM Ret := do
  let (some node, some subscription) := (node, subscription)
    | return .invalidArgument
  let some impl := subscription.data
    | return .invalidArgument
  if node.implementationIdentifier ≠ some identifier then
    return .incorrectRmwImplementation
  if !validNode (← get) node then
    return .invalidArgument
  if subscription.implementationIdentifier ≠ some identifier then
    return .incorrectRmwImplementation
  modifyEntities (·.removeSubscription subscription)
  let readConditionDeleted ← ddsDelete o impl.readCondition
  let readerDeleted ← ddsDelete o impl.reader
  let filteredTopicDeleted ← ddsDelete o impl.filteredTopic
  let topicDeleted ← ddsDelete o impl.topic
  deallocate subscription.topicName
  deallocate (some impl.object)
  deallocate (some subscription.object)
  modifyEntities Entities.leave
  let ok := topicDeleted && (filteredTopicDeleted && (readerDeleted && readConditionDeleted))
  return if ok then .ok else .error

/-- When the reader of a subscription is made. -/
def readerCreated (o : Outcomes) : Bool :=
  o (.create .topic) && o .applyQos && o .attachTypeHash && o (.create .contentFilteredTopic) &&
    o (.create .subscriptionImpl) && o (.create .dataReader) && o (.create .readCondition)

/-- What `createReader` does, on success and on failure. -/
structure CreatesReader (o : Outcomes) (s : State) (p : Option ReaderParts) (s' : State) :
    Prop where
  effect : Effect (Refuses o) s (p.elim ∅ ReaderParts.objects) s'
  entities : s'.entities = s.entities
  isSome : p.isSome = readerCreated o
  kinds : ∀ q ∈ p, q.topic.kind = .topic ∧ q.filteredTopic.kind = .contentFilteredTopic ∧
    q.impl.kind = .subscriptionImpl ∧ q.reader.kind = .dataReader ∧
    q.readCondition.kind = .readCondition

theorem CreatesReader.failed {o : Outcomes} {s s' : State} (h : Effect (Refuses o) s ∅ s')
    (hentities : s'.entities = s.entities) (hfail : readerCreated o = false) :
    CreatesReader o s none s' := ⟨h, hentities, hfail.symm, by simp⟩

/-- An option without values. -/
theorem eq_none_of_forall {α : Type} {x : Option α} (h : ∀ y, x = some y → False) : x = none :=
  Option.eq_none_iff_forall_ne_some.mpr fun y hy => h y hy

@[spec] theorem createReader_spec (o : Outcomes) (s : State) :
    ⦃fun s' => ⌜s' = s⌝⦄ createReader o ⦃⇓ p s' => ⌜CreatesReader o s p s'⌝⦄ := by
  mvcgen [createReader]
  next s1 hs _ topic _ hqos s2 htopic _ s3 h3 =>
    subst hs
    obtain ⟨rfl, -⟩ := h3
    have hnew := htopic.effect.notMem (x := topic) (by simp)
    refine .failed ((htopic.effect.delete hnew).congr (by simp)) htopic.entities ?_
    grind [readerCreated]
  next s1 hs _ topic _ hqos s2 htopic _ filtered _ s3 hfiltered _ impl _ s4 himpl _ reader _ s5
      hreader _ condition _ s6 hcondition =>
    subst hs
    refine ⟨?_, ?_, ?_, ?_⟩
    · exact (((htopic.effect.trans hfiltered.effect).trans himpl.effect).trans
        hreader.effect).trans hcondition.effect
    · exact hcondition.entities.trans (hreader.entities.trans
        (himpl.entities.trans (hfiltered.entities.trans htopic.entities)))
    · have h1 := htopic.isSome
      have h2 := hfiltered.isSome
      have h3 := himpl.isSome
      have h4 := hreader.isSome
      have h5 := hcondition.isSome
      grind [readerCreated]
    · rintro q ⟨⟩
      exact ⟨htopic.kind _ rfl, hfiltered.kind _ rfl, himpl.kind _ rfl, hreader.kind _ rfl,
        hcondition.kind _ rfl⟩
  next s1 hs _ topic _ hqos s2 htopic _ filtered _ s3 hfiltered _ impl _ s4 himpl _ reader _ s5
      hreader condition _ hnone heq s6 hcondition _ s7 h7 _ s8 h8 _ s9 h9 _ s10 h10 =>
    subst hs heq h8
    obtain ⟨rfl, -⟩ := h7
    obtain ⟨rfl, -⟩ := h9
    obtain ⟨rfl, -⟩ := h10
    obtain rfl := eq_none_of_forall hnone
    have hall := (((htopic.effect.trans hfiltered.effect).trans himpl.effect).trans
      hreader.effect).trans hcondition.effect
    have h1 := hall.delete (hall.notMem (x := reader) (by simp))
    have h2 := h1.deallocate (hall.notMem (x := impl) (by simp))
    have h3 := h2.delete (hall.notMem (x := filtered) (by simp))
    have h4 := h3.delete (hall.notMem (x := topic) (by simp))
    refine .failed (h4.congr (by simp; grind)) ?_ ?_
    · exact hcondition.entities.trans (hreader.entities.trans
        (himpl.entities.trans (hfiltered.entities.trans htopic.entities)))
    · simp [readerCreated, ← hcondition.isSome]
  next s1 hs _ topic _ hqos s2 htopic _ filtered _ s3 hfiltered _ impl _ s4 himpl reader _ hnone
      heq s5 hreader _ s6 h6 _ s7 h7 _ s8 h8 =>
    subst hs heq h6
    obtain ⟨rfl, -⟩ := h7
    obtain ⟨rfl, -⟩ := h8
    obtain rfl := eq_none_of_forall hnone
    have hall := ((htopic.effect.trans hfiltered.effect).trans himpl.effect).trans
      hreader.effect
    have h1 := hall.deallocate (hall.notMem (x := impl) (by simp))
    have h2 := h1.delete (hall.notMem (x := filtered) (by simp))
    have h3 := h2.delete (hall.notMem (x := topic) (by simp))
    refine .failed (h3.congr (by simp; grind)) ?_ ?_
    · exact hreader.entities.trans
        (himpl.entities.trans (hfiltered.entities.trans htopic.entities))
    · simp [readerCreated, ← hreader.isSome]
  next s1 hs _ topic _ hqos s2 htopic _ filtered _ s3 hfiltered impl _ hnone heq s4 himpl _ s5 h5
      _ s6 h6 =>
    subst hs heq
    obtain ⟨rfl, -⟩ := h5
    obtain ⟨rfl, -⟩ := h6
    obtain rfl := eq_none_of_forall hnone
    have hall := (htopic.effect.trans hfiltered.effect).trans himpl.effect
    have h1 := hall.delete (hall.notMem (x := filtered) (by simp))
    have h2 := h1.delete (hall.notMem (x := topic) (by simp))
    refine .failed (h2.congr (by simp; grind)) ?_ ?_
    · exact himpl.entities.trans (hfiltered.entities.trans htopic.entities)
    · simp [readerCreated, ← himpl.isSome]
  next s1 hs _ topic _ hqos s2 htopic filtered _ hnone heq s3 hfiltered _ s4 h4 =>
    subst hs heq
    obtain ⟨rfl, -⟩ := h4
    obtain rfl := eq_none_of_forall hnone
    have hall := htopic.effect.trans hfiltered.effect
    have h1 := hall.delete (hall.notMem (x := topic) (by simp))
    refine .failed (h1.congr (by simp)) (hfiltered.entities.trans htopic.entities) ?_
    simp [readerCreated, ← hfiltered.isSome]
  next s1 hs topic _ hnone heq s2 htopic =>
    subst hs heq
    obtain rfl := eq_none_of_forall hnone
    exact .failed htopic.effect htopic.entities (by simp [readerCreated, ← htopic.isSome])

@[spec] theorem undoSubscription_spec (o : Outcomes) (p : ReaderParts) (handle name : Option Obj)
    (s : State) :
    ⦃fun s' => ⌜s' = s⌝⦄ undoSubscription o p handle name
    ⦃⇓ _ s' => ⌜s' = ((((((s.free (name.toFinset ∪ handle.toFinset)).delete o
      p.readCondition).delete o p.reader).free {p.impl}).delete o p.filteredTopic).delete o
      p.topic)⌝⦄ := by
  mvcgen [undoSubscription]
  next s1 hs _ s2 h2 _ s3 h3 _ s4 h4 _ s5 h5 _ s6 h6 _ s7 h7 _ s8 h8 =>
    subst hs h2 h3 h6
    obtain ⟨rfl, -⟩ := h4
    obtain ⟨rfl, -⟩ := h5
    obtain ⟨rfl, -⟩ := h7
    obtain ⟨rfl, -⟩ := h8
    simp only [State.free_free, Option.toFinset_some]

/-- The roll-back of a subscription gives back all that was made for it. -/
theorem Effect.undoSubscription {o : Outcomes} {s s' : State} {p : ReaderParts}
    {handle name : Option Obj}
    (h : Effect (Refuses o) s (p.objects ∪ handle.toFinset ∪ name.toFinset) s') :
    Effect (Refuses o) s ∅
      ((((((s'.free (name.toFinset ∪ handle.toFinset)).delete o p.readCondition).delete o
        p.reader).free {p.impl}).delete o p.filteredTopic).delete o p.topic) := by
  have hnew {x : Obj} (hx : x ∈ p.objects) : x ∉ s.heap.live := h.notMem (by simp [hx])
  have h1 := h.free (show name.toFinset ∪ handle.toFinset ⊆ _ by grind)
  have h2 := h1.delete (hnew (x := p.readCondition) (by simp [ReaderParts.objects]))
  have h3 := h2.delete (hnew (x := p.reader) (by simp [ReaderParts.objects]))
  have h4 := h3.deallocate (hnew (x := p.impl) (by simp [ReaderParts.objects]))
  have h5 := h4.delete (hnew (x := p.filteredTopic) (by simp [ReaderParts.objects]))
  have h6 := h5.delete (hnew (x := p.topic) (by simp [ReaderParts.objects]))
  refine h6.congr ?_
  ext x
  simp only [ReaderParts.objects, Finset.mem_sdiff, Finset.mem_union, Finset.mem_singleton,
    Finset.notMem_empty]
  tauto

/-- When `rmw_create_subscription` can register the subscription. -/
def subscriptionRegistered (o : Outcomes) (s : State) : Bool :=
  o .insertEndpoint && (s.impl.suppressGraphUpdates || o .addEntityReturns && o .addEndpointGraph)

@[spec] theorem registerSubscription_spec (o : Outcomes) (subscription : Subscription)
    (s : State) :
    ⦃fun s' => ⌜s' = s⌝⦄ registerSubscription o subscription
    ⦃⇓ ok s' => ⌜ok = subscriptionRegistered o s ∧ ∃ e, s' = s.withEntities e ∧
      (subscription ∉ s.entities.subscriptions →
        e = if ok then s.entities.addSubscription subscription else s.entities)⌝⦄ := by
  mvcgen [registerSubscription]
  next hinsert s1 hs _ s2 h2 _ hsuppress =>
    subst hs h2
    exact ⟨by simp_all [subscriptionRegistered], _, rfl, by simp⟩
  next hinsert s1 hs _ s2 h2 _ hsuppress hadd =>
    subst hs h2
    exact ⟨by simp_all [subscriptionRegistered], _, rfl, by simp⟩
  next hinsert s1 hs _ s2 h2 _ hsuppress hadd _ s3 h3 =>
    subst hs h2 h3
    refine ⟨by simp_all [subscriptionRegistered], _, rfl, fun hnew => ?_⟩
    simp [Entities.addSubscription, Entities.removeSubscription, Finset.erase_insert hnew]
  next hinsert s1 hs _ s2 h2 =>
    subst hs h2
    refine ⟨by simp_all [subscriptionRegistered], _, rfl, fun hnew => ?_⟩
    simp [Entities.removeSubscription, Finset.erase_eq_of_notMem hnew]

/-- When `rmw_create_subscription` returns a subscription. -/
def subscriptionCreated (o : Outcomes) (node : Option Node) (s : State) : Bool :=
  node.any (endpointChecked o s) && readerCreated o &&
    (o (.create .rmwSubscription) && o (.create .topicName)) && o .guid &&
    subscriptionRegistered o s

/-- What `rmw_create_subscription` does, on success and on failure. -/
structure CreatesSubscription (o : Outcomes) (node : Option Node) (s : State)
    (p : Option Subscription) (s' : State) : Prop where
  effect : Effect (Refuses o) s (p.elim ∅ Subscription.objects) s'
  isSome : p.isSome = subscriptionCreated o node s
  valid : ∀ q ∈ p, q.Valid
  handle : ∀ q ∈ p, IsHandle .rmwSubscription q.object q.objects
  data : ∀ q ∈ p, ∀ impl ∈ q.data, node.map (·.object) = some impl.node ∧
    impl.topic.kind = .topic ∧ impl.filteredTopic.kind = .contentFilteredTopic ∧
    impl.reader.kind = .dataReader ∧ impl.readCondition.kind = .readCondition
  entities : s.Registered →
    s'.entities = p.elim s.entities fun q => (s.entities.addSubscription q).enter 1

/-- A subscription that is not created leaves nothing. -/
theorem CreatesSubscription.failed {o : Outcomes} {node : Option Node} {s s' : State}
    (h : Effect (Refuses o) s ∅ s') (hfail : subscriptionCreated o node s = false)
    (hentities : s.Registered → s'.entities = s.entities) :
    CreatesSubscription o node s none s' where
  effect := h
  isSome := hfail.symm
  valid := by simp
  handle := by simp
  data := by simp
  entities := hentities

/-- A new subscription is not registered yet. -/
theorem subscription_notMem {o : Outcomes} {s s' : State} {xs : Finset Obj} {p : Subscription}
    (h : Effect (Refuses o) s xs s') (he : s'.entities = s.entities)
    (hlive : s.Registered) (hp : p.object ∈ xs) : p ∉ s'.entities.subscriptions := by
  rw [he]
  exact fun hmem => h.notMem hp (hlive.subscriptions _ hmem)

@[spec] theorem rmwCreateSubscription_spec (o : Outcomes) (node : Option Node) (s : State) :
    ⦃fun s' => ⌜s' = s⌝⦄ rmwCreateSubscription o node
    ⦃⇓ p s' => ⌜CreatesSubscription o node s p s'⌝⦄ := by
  mvcgen [rmwCreateSubscription]
  next node' _ s1 hs hcheck =>
    subst hs
    exact .failed (.refl _ _) (by simp_all [subscriptionCreated]) fun _ => rfl
  next node' _ s1 hs hcheck _ parts _ s2 hreader handle s3 hhandle name object topicName heq
      subscription hguid s4 hname _ s5 h5 =>
    subst hs h5
    cases heq
    have hall := (hreader.effect.trans hhandle.effect).trans hname.effect
    refine .failed hall.undoSubscription (by simp_all [subscriptionCreated]) fun _ => ?_
    exact hname.entities.trans (hhandle.entities.trans hreader.entities)
  next node' _ s1 hs hcheck _ parts _ s2 hreader handle s3 hhandle name object topicName heq
      subscription hguid s4 hname ok hfail s5 hregister _ s6 h6 =>
    obtain ⟨hok, e, rfl, he⟩ := hregister
    subst hs h6
    cases heq
    have hall := (hreader.effect.trans hhandle.effect).trans hname.effect
    have hentities := hname.entities.trans (hhandle.entities.trans hreader.entities)
    have hregistered : subscriptionRegistered o s4 = subscriptionRegistered o s1 := by
      rw [subscriptionRegistered, hall.impl, subscriptionRegistered]
    refine .failed (hall.withEntities e).undoSubscription ?_ fun hlive => ?_
    · simp_all [subscriptionCreated]
    · have hnew : subscription ∉ s4.entities.subscriptions :=
        subscription_notMem hall hentities hlive (by simp [subscription])
      have he := he hnew
      simp_all
  next node' _ s1 hs hcheck _ parts _ s2 hreader handle s3 hhandle name object topicName heq
      subscription hguid s4 hname ok hok' s5 hregister _ s6 h6 =>
    obtain ⟨hok, e, rfl, he⟩ := hregister
    subst hs h6
    cases heq
    have hall := (hreader.effect.trans hhandle.effect).trans hname.effect
    have hentities := hname.entities.trans (hhandle.entities.trans hreader.entities)
    have hregistered : subscriptionRegistered o s4 = subscriptionRegistered o s1 := by
      rw [subscriptionRegistered, hall.impl, subscriptionRegistered]
    have hobjects : subscription.objects = parts.objects ∪ {object} ∪ {topicName} := by
      simp [Subscription.objects, subscription, ReaderParts.objects]
      grind
    refine ⟨?_, ?_, ?_, ?_, ?_, ?_⟩
    · exact (hall.congr hobjects.symm).withEntities _
    · have h1 := hreader.isSome
      have h2 := hhandle.isSome
      have h3 := hname.isSome
      simp_all [subscriptionCreated]
    · rintro q ⟨⟩
      exact ⟨rfl, rfl⟩
    · rintro q ⟨⟩
      rw [hobjects]
      obtain ⟨htopic, hfiltered, himpl, hreader', hcondition⟩ := hreader.kinds _ rfl
      refine ⟨hhandle.kind object rfl, by simp [subscription], ?_⟩
      intro y hy hisHandle
      simp only [ReaderParts.objects, Finset.mem_union, Finset.mem_singleton] at hy
      rcases hy with (((((rfl | rfl) | rfl) | rfl) | rfl) | rfl) | rfl
      · simp [htopic, Kind.isHandle] at hisHandle
      · simp [hfiltered, Kind.isHandle] at hisHandle
      · simp [himpl, Kind.isHandle] at hisHandle
      · simp [hreader', Kind.isHandle] at hisHandle
      · simp [hcondition, Kind.isHandle] at hisHandle
      · rfl
      · simp [hname.kind _ rfl, Kind.isHandle] at hisHandle
    · rintro q ⟨⟩ impl' ⟨⟩
      obtain ⟨htopic, hfiltered, himpl, hreader', hcondition⟩ := hreader.kinds _ rfl
      exact ⟨rfl, htopic, hfiltered, hreader', hcondition⟩
    · intro hlive
      have hnew : subscription ∉ s4.entities.subscriptions :=
        subscription_notMem hall hentities hlive (by simp [subscription])
      have he := he hnew
      simp_all
  next node' _ s1 hs hcheck _ parts _ s2 hreader handle s3 hhandle name _ hnone heq s4 hname
      _ s5 h5 =>
    subst hs h5 heq
    have hall := (hreader.effect.trans hhandle.effect).trans hname.effect
    refine .failed hall.undoSubscription ?_ fun _ => ?_
    · simp only [subscriptionCreated, ← hhandle.isSome, ← hname.isSome]
      cases handle <;> cases name <;> simp_all
    · exact hname.entities.trans (hhandle.entities.trans hreader.entities)
  next node' _ s1 hs hcheck parts _ hnone heq s2 hreader =>
    subst hs heq
    cases parts with
    | some parts => exact (hnone parts rfl).elim
    | none =>
        refine .failed hreader.effect ?_ fun _ => hreader.entities
        simp [subscriptionCreated, ← hreader.isSome]
  next node' hnone heq s1 hs =>
    subst hs heq
    obtain rfl := eq_none_of_forall hnone
    exact .failed (.refl _ _) (by simp [subscriptionCreated]) fun _ => rfl

/-- When zzdds deletes the entities of a subscription. -/
def subscriptionDeleted (o : Outcomes) : Bool :=
  o (.delete .topic) && o (.delete .contentFilteredTopic) && o (.delete .dataReader) &&
    o (.delete .readCondition)

/-- The destruction of a subscription, whether zzdds deletes its entities or
not. -/
structure DestroysSubscription (o : Outcomes) (p : Subscription) (s : State) (r : Ret)
    (s' : State) : Prop where
  heap : s'.heap = s.heap.free p.objects
  refused : ∀ x ∈ s'.refused, x ∈ s.refused ∨ Refuses o x.kind
  context : s'.context = s.context
  impl : s'.impl = s.impl
  entities : s'.entities = (s.entities.removeSubscription p).leave
  ret : r = .ok ∨ r = .error
  ok : ∀ impl ∈ p.data, impl.topic.kind = .topic →
    impl.filteredTopic.kind = .contentFilteredTopic → impl.reader.kind = .dataReader →
    impl.readCondition.kind = .readCondition → (r = .ok ↔ subscriptionDeleted o = true)

@[spec] theorem rmwDestroySubscription_spec (o : Outcomes) (node : Option Node) (p : Subscription)
    (s : State) (hnode : ∃ n ∈ node, n.Valid) (hp : p.Valid) (hcontext : s.context.impl.isSome) :
    ⦃fun s' => ⌜s' = s⌝⦄ rmwDestroySubscription o node (some p)
    ⦃⇓ r s' => ⌜DestroysSubscription o p s r s'⌝⦄ := by
  obtain ⟨node, rfl, hnode⟩ := hnode
  mvcgen [rmwDestroySubscription]
  next impl himpl hidentifier s1 hs => exact (hidentifier hnode.1).elim
  next impl himpl hidentifier s1 hs hinvalid =>
    subst hs
    simp [validNode_of_valid hnode hcontext] at hinvalid
  next impl himpl hidentifier s1 hs _ hidentifier' => exact (hidentifier' hp.1).elim
  next impl himpl hidentifier s1 hs _ _ _ s2 h2 ok3 s3 h3 ok4 s4 h4 ok5 s5 h5 ok6 s6 h6 _ s7 h7
      _ s8 h8 _ s9 h9 _ deleted s10 h10 =>
    subst hs h2 h7 h8 h9 h10
    obtain ⟨rfl, rfl⟩ := h3
    obtain ⟨rfl, rfl⟩ := h4
    obtain ⟨rfl, rfl⟩ := h5
    obtain ⟨rfl, rfl⟩ := h6
    refine ⟨?_, ?_, rfl, rfl, by simp, ?_, ?_⟩
    · simp only [State.free, State.delete, State.withEntities, Heap.free_free,
        Subscription.objects, himpl, Option.map_some, Option.toFinset_some]
      congr 1
      ext x
      simp only [Finset.mem_union]
      tauto
    · intro x hx
      rcases State.refused_delete hx with hx | hx
      · rcases State.refused_delete hx with hx | hx
        · rcases State.refused_delete hx with hx | hx
          · exact State.refused_delete hx
          · exact .inr hx
        · exact .inr hx
      · exact .inr hx
    · split <;> simp
    · intro impl' himpl' htopic hfiltered hreader hcondition
      cases Option.mem_unique himpl himpl'
      have hdeleted : deleted = subscriptionDeleted o := by
        simp [deleted, subscriptionDeleted, htopic, hfiltered, hreader, hcondition,
          Bool.and_assoc]
      rw [hdeleted]
      split <;> simp_all
  next data hnone hdata s1 hs =>
    have hsome := hp.2
    cases data with
    | some impl => exact (hnone impl rfl).elim
    | none => simp [hdata] at hsome

end Lifecycle

end RmwZzdds
