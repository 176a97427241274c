import RmwZzdds.Lifecycle.GraphChannel

/-!
# Initialization of a context

`rmw_init` copies the options, builds the implementation with its zzdds
entities and the guard condition of the graph, and at last the graph channel.
Each failing step gives back what the steps before it have made.
-/

namespace RmwZzdds

open Ownership Std.Do

namespace Lifecycle

open Service (Guid)

set_option mvcgen.warning false

/-! ## Options -/

/-- What a failing copy of an option returns. -/
abbrev CopyError := OptionPart → { ret : Ret // ret ≠ .ok }

def InitOptions.objects (options : InitOptions) : Finset Obj :=
  (options.enclave.map (·.object)).toFinset ∪
    (options.discoveryOptions.staticPeers.map (·.object)).toFinset ∪
    (options.securityOptions.securityRootPath.map (·.object)).toFinset

/-- `cleanup_options`. -/
def cleanupOptions (options : InitOptions) : RmwM Unit := do
  deallocate (options.enclave.map (·.object))
  deallocate (options.discoveryOptions.staticPeers.map (·.object))
  deallocate (options.securityOptions.securityRootPath.map (·.object))

/-- The copy of the memory of an option, unless it has none. -/
def copyPart {α : Type} (o : Outcomes) (part : OptionPart) (x : Option (Owned α)) :
    RmwM (Option (Option (Owned α))) := do
  let some x := x
    | return some none
  let copy ← create o (.option part)
  return copy.map fun object => some ⟨x.value, object⟩

/-- `copy_options`. -/
def copyOptions (o : Outcomes) (error : CopyError) (src : InitOptions) :
    RmwM (Except Ret InitOptions) := do
  let result : InitOptions := { InitOptions.zero with
    instanceId := src.instanceId
    implementationIdentifier := some identifier
    domainId := src.domainId }
  let some securityRootPath ← copyPart o .security src.securityOptions.securityRootPath
    | cleanupOptions result
      return .error (error .security)
  let result := { result with
    securityOptions := { src.securityOptions with securityRootPath } }
  let some staticPeers ← copyPart o .discovery src.discoveryOptions.staticPeers
    | cleanupOptions result
      return .error (error .discovery)
  let result := { result with
    discoveryOptions := { src.discoveryOptions with staticPeers } }
  let some enclave ← copyPart o .enclave src.enclave
    | cleanupOptions result
      return .error (error .enclave)
  return .ok { result with enclave }

/-! ## The entities of zzdds -/

def DdsContext.objects (dds : DdsContext) : Finset Obj :=
  dds.subscriber.toFinset ∪ dds.publisher.toFinset ∪ dds.participant.toFinset ∪
    dds.factory.toFinset

def ContextImpl.withDds (dds : DdsContext) (c : ContextImpl) : ContextImpl := { c with dds }

/-- No entity of zzdds. -/
def DdsContext.nil : DdsContext := ⟨none, none, none, none⟩

/-- The deletion of an entity with what it contains, if it is there. -/
def deleteEntity (o : Outcomes) (x : Option Obj) : RmwM Bool := do
  let some x := x
    | return true
  let deleted ← ddsDelete o x
  return deleted && o (.deleteContained x.kind)

/-- `DdsContext::reset`. -/
def resetDds (o : Outcomes) : RmwM Bool := do
  let dds := (← get).impl.dds
  let subscriber ← deleteEntity o (dds.participant.bind fun _ => dds.subscriber)
  let publisher ← deleteEntity o (dds.participant.bind fun _ => dds.publisher)
  let participant ← deleteEntity o dds.participant
  deallocate dds.factory
  modifyImpl (·.withDds .nil)
  return participant && publisher && subscriber

/-- `DdsContext::initialize`. -/
def initializeDds (o : Outcomes) : RmwM Bool := do
  let _ ← resetDds o
  let factory ← create o .domainParticipantFactory
  modifyImpl (·.withDds ⟨factory, none, none, none⟩)
  if factory.isNone then
    return false
  let participant ← create o .domainParticipant
  modifyImpl (·.withDds ⟨factory, participant, none, none⟩)
  if participant.isNone then
    let _ ← resetDds o
    return false
  let publisher ← create o .ddsPublisher
  modifyImpl (·.withDds ⟨factory, participant, publisher, none⟩)
  if publisher.isNone then
    let _ ← resetDds o
    return false
  let subscriber ← create o .ddsSubscriber
  modifyImpl (·.withDds ⟨factory, participant, publisher, subscriber⟩)
  if subscriber.isNone then
    let _ ← resetDds o
    return false
  return true

/-- The publisher and the subscriber belong to the participant. -/
def DdsContext.Owned (dds : DdsContext) : Prop :=
  dds.participant = none → dds.publisher = none ∧ dds.subscriber = none

@[spec] theorem deleteEntity_spec (o : Outcomes) (x : Option Obj) (s : State) :
    ⦃fun s' => ⌜s' = s⌝⦄ deleteEntity o x
    ⦃⇓ _ s' => ⌜Dismantles (Refuses o) s x.toFinset s.impl s.entities s'⌝⦄ := by
  mvcgen [deleteEntity]
  next x s1 hs deleted s2 h2 =>
    subst hs
    obtain ⟨rfl, -⟩ := h2
    exact ⟨⟨by simp [State.delete], fun _ => State.refused_delete, rfl⟩, rfl, rfl⟩
  next x hnone heq s1 hs =>
    subst hs heq
    obtain rfl := eq_none_of_forall hnone
    exact .nothing rfl rfl rfl

@[spec] theorem resetDds_spec (o : Outcomes) (s : State) (howned : s.impl.dds.Owned) :
    ⦃fun s' => ⌜s' = s⌝⦄ resetDds o
    ⦃⇓ _ s' => ⌜Dismantles (Refuses o) s s.impl.dds.objects (s.impl.withDds .nil)
      s.entities s'⌝⦄ := by
  mvcgen [resetDds]
  next s1 hs dds _ s2 h2 _ s3 h3 _ s4 h4 _ s5 h5 _ s6 h6 =>
    subst hs h5 h6
    have hall := (h2.toReleases.trans h3.toReleases).trans h4.toReleases
    have hobjects : dds.objects = (dds.participant.bind fun _ => dds.subscriber).toFinset ∪
        (dds.participant.bind fun _ => dds.publisher).toFinset ∪ dds.participant.toFinset ∪
        dds.factory.toFinset := by
      cases hparticipant : dds.participant with
      | none =>
        obtain ⟨hpublisher, hsubscriber⟩ := howned hparticipant
        have hpublisher' : dds.publisher = none := hpublisher
        have hsubscriber' : dds.subscriber = none := hsubscriber
        simp [DdsContext.objects, hparticipant, hpublisher', hsubscriber']
      | some participant => simp [DdsContext.objects, hparticipant]
    refine ⟨⟨?_, hall.refused, hall.context⟩, ?_, ?_⟩
    · rw [hobjects]
      simp only [State.heap_onImpl, State.free, hall.heap, Heap.free_free]
    · rw [State.impl_onImpl, State.free, h4.impl, h3.impl, h2.impl]
    · exact h4.entities.trans (h3.entities.trans h2.entities)

/-- zzdds makes all entities of a context. -/
def ddsInitialized (o : Outcomes) : Bool :=
  o (.create .domainParticipantFactory) && o (.create .domainParticipant) &&
    o (.create .ddsPublisher) && o (.create .ddsSubscriber)

/-- A part of the entities of zzdds, made since `s`. -/
structure DdsBuilding (o : Outcomes) (s s' : State) : Prop where
  account : Account (Refuses o) s s'.impl.dds.objects s'
  context : s'.context = s.context
  impl : s'.impl = s.impl.withDds s'.impl.dds
  entities : s'.entities = s.entities

namespace DdsBuilding

variable {o : Outcomes} {s s1 s2 : State}

theorem refl (o : Outcomes) (hdds : s.impl.dds = .nil) : DdsBuilding o s s where
  account := (Account.refl _ s).congr (by rw [hdds]; rfl)
  context := rfl
  impl := rfl
  entities := rfl

theorem create {kind : Kind} {x : Option Obj} {dds : DdsContext} (h : DdsBuilding o s s1)
    (hcreate : Creates o kind s1 x s2) (hdds : dds.objects = s1.impl.dds.objects ∪ x.toFinset) :
    DdsBuilding o s (s2.onImpl (·.withDds dds)) where
  account := ((h.account.effect hcreate.effect fun _ hk => hk).onImpl _).congr hdds.symm
  context := hcreate.effect.context.trans h.context
  impl := by
    rw [State.impl_onImpl, hcreate.effect.impl, h.impl]
    rfl
  entities := hcreate.entities.trans h.entities

section

variable {a b c x : Option Obj}

theorem factory (h : DdsBuilding o s s1) (hnil : s1.impl.dds = .nil)
    (hx : Creates o .domainParticipantFactory s1 x s2) :
    DdsBuilding o s (s2.onImpl (·.withDds ⟨x, none, none, none⟩)) :=
  h.create hx (by rw [hnil]; rfl)

theorem participant (h : DdsBuilding o s (s1.onImpl (·.withDds ⟨a, none, none, none⟩)))
    (hx : Creates o .domainParticipant (s1.onImpl (·.withDds ⟨a, none, none, none⟩)) x s2) :
    DdsBuilding o s (s2.onImpl (·.withDds ⟨a, x, none, none⟩)) :=
  h.create hx (by
    simp only [DdsContext.objects, State.impl_onImpl, ContextImpl.withDds, Option.toFinset_none]
    grind)

theorem publisher (h : DdsBuilding o s
      (s1.onImpl (·.withDds ⟨a, b, none, none⟩)))
    (hx : Creates o .ddsPublisher (s1.onImpl (·.withDds ⟨a, b, none, none⟩)) x
      s2) :
    DdsBuilding o s (s2.onImpl (·.withDds ⟨a, b, x, none⟩)) :=
  h.create hx (by
    simp only [DdsContext.objects, State.impl_onImpl, ContextImpl.withDds, Option.toFinset_none]
    grind)

theorem subscriber (h : DdsBuilding o s
      (s1.onImpl (·.withDds ⟨a, b, c, none⟩)))
    (hx : Creates o .ddsSubscriber
      (s1.onImpl (·.withDds ⟨a, b, c, none⟩)) x s2) :
    DdsBuilding o s (s2.onImpl (·.withDds ⟨a, b, c, x⟩)) :=
  h.create hx (by
    simp only [DdsContext.objects, State.impl_onImpl, ContextImpl.withDds, Option.toFinset_none]
    grind)

end

theorem reset (h : DdsBuilding o s s1) (hreset : Dismantles (Refuses o) s1 s1.impl.dds.objects
    (s1.impl.withDds .nil) s1.entities s2) : DdsBuilding o s s2 ∧ s2.impl.dds = .nil := by
  have hnil : s2.impl.dds = .nil := congrArg (·.dds) hreset.impl
  refine ⟨⟨?_, hreset.context.trans h.context, ?_, hreset.entities.trans h.entities⟩, hnil⟩
  · exact (h.account.close hreset.toReleases).congr (by rw [hnil]; rfl)
  · rw [hreset.impl, h.impl]
    rfl

end DdsBuilding

/-- What `DdsContext::initialize` does. -/
structure InitializesDds (o : Outcomes) (s : State) (ok : Bool) (s' : State) : Prop where
  building : DdsBuilding o s s'
  initialized : ok = ddsInitialized o
  owned : s'.impl.dds.Owned
  failed : ok = false → s'.impl.dds = .nil

theorem InitializesDds.of_reset {o : Outcomes} {s s1 s2 : State} (h : DdsBuilding o s s1)
    (hreset : Dismantles (Refuses o) s1 s1.impl.dds.objects (s1.impl.withDds .nil) s1.entities s2)
    (hfail : ddsInitialized o = false) : InitializesDds o s false s2 := by
  obtain ⟨hbuilding, hnil⟩ := h.reset hreset
  exact ⟨hbuilding, hfail.symm, by rw [hnil]; exact fun _ => ⟨rfl, rfl⟩, fun _ => hnil⟩

@[spec] theorem initializeDds_spec (o : Outcomes) (s : State) (hdds : s.impl.dds = .nil) :
    ⦃fun s' => ⌜s' = s⌝⦄ initializeDds o ⦃⇓ ok s' => ⌜InitializesDds o s ok s'⌝⦄ := by
  mvcgen [initializeDds]
  next s1 hs =>
    subst hs
    rw [hdds]
    exact fun _ => ⟨rfl, rfl⟩
  next s1 hs _ s2 h2 factory s3 hfactory _ hnone s4 h4 =>
    obtain rfl := Option.isNone_iff_eq_none.mp hnone
    subst hs h4
    obtain ⟨hbuilding, hnil⟩ := (DdsBuilding.refl o hdds).reset h2
    have hfail := hfactory.isSome
    refine ⟨hbuilding.create hfactory (by rw [hnil]; rfl), ?_, fun _ => ⟨rfl, rfl⟩, fun _ => rfl⟩
    simp [ddsInitialized, ← hfail]
  next s1 hs _ s2 h2 factory s3 hfactory _ hsome s4 h4 participant s5 hparticipant _ hnone s6 h6 =>
    subst hs h6
    exact fun _ => ⟨rfl, rfl⟩
  next s1 hs _ s2 h2 factory s3 hfactory _ hsome s4 h4 participant s5 hparticipant _ hnone s6 h6
      _ s7 hreset =>
    obtain rfl := Option.isNone_iff_eq_none.mp hnone
    subst hs h4 h6
    obtain ⟨hbuilding, hnil⟩ := (DdsBuilding.refl o hdds).reset h2
    have hbuilt := (hbuilding.factory hnil hfactory).participant hparticipant
    exact .of_reset hbuilt hreset (by simp [ddsInitialized, ← hparticipant.isSome])
  next s1 hs _ s2 h2 factory s3 hfactory _ hsome s4 h4 participant s5 hparticipant _ hsome' s6 h6
      publisher s7 hpublisher _ hnone s8 h8 =>
    subst hs h8
    rintro rfl
    simp at hsome'
  next s1 hs _ s2 h2 factory s3 hfactory _ hsome s4 h4 participant s5 hparticipant _ hsome' s6 h6
      publisher s7 hpublisher _ hnone s8 h8 _ s9 hreset =>
    obtain rfl := Option.isNone_iff_eq_none.mp hnone
    subst hs h4 h6 h8
    obtain ⟨hbuilding, hnil⟩ := (DdsBuilding.refl o hdds).reset h2
    have hbuilt := ((hbuilding.factory hnil hfactory).participant hparticipant).publisher hpublisher
    exact .of_reset hbuilt hreset (by simp [ddsInitialized, ← hpublisher.isSome])
  next s1 hs _ s2 h2 factory s3 hfactory _ hsome s4 h4 participant s5 hparticipant _ hsome' s6 h6
      publisher s7 hpublisher _ hsome'' s8 h8 subscriber s9 hsubscriber _ hnone s10 h10 =>
    subst hs h10
    rintro rfl
    simp at hsome'
  next s1 hs _ s2 h2 factory s3 hfactory _ hsome s4 h4 participant s5 hparticipant _ hsome' s6 h6
      publisher s7 hpublisher _ hsome'' s8 h8 subscriber s9 hsubscriber _ hnone s10 h10 _ s11
      hreset =>
    obtain rfl := Option.isNone_iff_eq_none.mp hnone
    subst hs h4 h6 h8 h10
    obtain ⟨hbuilding, hnil⟩ := (DdsBuilding.refl o hdds).reset h2
    have hbuilt := (((hbuilding.factory hnil hfactory).participant hparticipant).publisher
      hpublisher).subscriber hsubscriber
    exact .of_reset hbuilt hreset (by simp [ddsInitialized, ← hsubscriber.isSome])
  next s1 hs _ s2 h2 factory s3 hfactory _ hsome s4 h4 participant s5 hparticipant _ hsome' s6 h6
      publisher s7 hpublisher _ hsome'' s8 h8 subscriber s9 hsubscriber _ hlast s10 h10 =>
    subst hs h4 h6 h8 h10
    obtain ⟨hbuilding, hnil⟩ := (DdsBuilding.refl o hdds).reset h2
    have hbuilt := (((hbuilding.factory hnil hfactory).participant hparticipant).publisher
      hpublisher).subscriber hsubscriber
    refine ⟨hbuilt, ?_, ?_, by simp⟩
    · rw [ddsInitialized, ← hfactory.isSome, ← hparticipant.isSome, ← hpublisher.isSome,
        ← hsubscriber.isSome]
      simp_all [Option.isSome_iff_ne_none]
    · rintro rfl
      simp at hsome'

/-! ## Copies of options -/

/-- The memory of an option that a context copies. -/
def partsCopied (o : Outcomes) (options : InitOptions) : Bool :=
  (options.securityOptions.securityRootPath.isNone || o (.create (.option .security))) &&
    (options.discoveryOptions.staticPeers.isNone || o (.create (.option .discovery))) &&
    (options.enclave.isNone || o (.create (.option .enclave)))

@[spec] theorem copyPart_spec {α : Type} (o : Outcomes) (part : OptionPart) (x : Option (Owned α))
    (s : State) :
    ⦃fun s' => ⌜s' = s⌝⦄ copyPart o part x
    ⦃⇓ copy s' => ⌜Effect (Refuses o) s (copy.elim ∅ fun y => (y.map (·.object)).toFinset) s' ∧
      s'.entities = s.entities ∧
      copy.isSome = (x.isNone || o (.create (.option part)))⌝⦄ := by
  mvcgen [copyPart]
  next x s1 hs copy s2 h2 =>
    subst hs
    refine ⟨?_, h2.entities, by simpa using h2.isSome⟩
    cases copy <;> exact h2.effect
  next x hnone heq s1 hs =>
    subst hs heq
    obtain rfl := eq_none_of_forall hnone
    exact ⟨.refl _ _, rfl, rfl⟩

@[spec] theorem cleanupOptions_spec (options : InitOptions) (s : State) :
    ⦃fun s' => ⌜s' = s⌝⦄ cleanupOptions options ⦃⇓ _ s' => ⌜s' = s.free options.objects⌝⦄ := by
  mvcgen [cleanupOptions]
  next s1 hs _ s2 h2 _ s3 h3 _ s4 =>
    intro h4
    subst hs h2 h3 h4
    simp [InitOptions.objects]

/-- What `copy_options` does. -/
structure CopiesOptions (o : Outcomes) (src : InitOptions) (s : State)
    (r : Except Ret InitOptions) (s' : State) : Prop where
  effect : Effect (Refuses o) s (r.toOption.elim ∅ InitOptions.objects) s'
  entities : s'.entities = s.entities
  isSome : r.toOption.isSome = partsCopied o src
  error : ∀ ret, r = .error ret → ret ≠ .ok

theorem CopiesOptions.failed {o : Outcomes} {src : InitOptions} {s s' : State}
    (error : { ret : Ret // ret ≠ .ok }) (h : Effect (Refuses o) s ∅ s')
    (hentities : s'.entities = s.entities) (hfail : partsCopied o src = false) :
    CopiesOptions o src s (.error error.val) s' where
  effect := h
  entities := hentities
  isSome := hfail.symm
  error := by
    rintro ret ⟨⟩
    exact error.property

@[spec] theorem copyOptions_spec (o : Outcomes) (error : CopyError) (src : InitOptions)
    (s : State) :
    ⦃fun s' => ⌜s' = s⌝⦄ copyOptions o error src
    ⦃⇓ r s' => ⌜CopiesOptions o src s r s'⌝⦄ := by
  mvcgen [copyOptions]
  next result0 s1 hs _ security _ result1 s2 h2 _ discovery _ result2 s3 h3 _ enclave _ s4 h4 =>
    subst hs
    have hall := (h2.1.trans h3.1).trans h4.1
    refine ⟨hall.congr ?_, h4.2.1.trans (h3.2.1.trans h2.2.1), ?_, by simp⟩
    · simp only [Except.toOption, Option.elim_some, InitOptions.objects, result2, result1]
      ac_rfl
    · simp [partsCopied, ← h2.2.2, ← h3.2.2, ← h4.2.2, Except.toOption]
  next result0 s1 hs _ security _ result1 s2 h2 _ discovery _ result2 s3 h3 enclave _ hnone heq
      s4 h4 _ s5 h5 =>
    obtain rfl := eq_none_of_forall hnone
    subst hs h5
    have hall := (h2.1.trans h3.1).trans h4.1
    refine .failed (error .enclave) (hall.undo ?_) (h4.2.1.trans (h3.2.1.trans h2.2.1)) ?_
    · simp [InitOptions.objects, InitOptions.zero, result0, result1, result2, Finset.union_comm]
    · simp [partsCopied, ← h4.2.2]
  next result0 s1 hs _ security _ result1 s2 h2 discovery _ hnone heq s3 h3 _ s4 h4 =>
    obtain rfl := eq_none_of_forall hnone
    subst hs h4
    refine .failed (error .discovery) ((h2.1.trans h3.1).undo ?_) (h3.2.1.trans h2.2.1) ?_
    · simp [InitOptions.objects, InitOptions.zero, result0, result1]
    · simp [partsCopied, ← h3.2.2]
  next result0 s1 hs security _ hnone heq s2 h2 _ s3 h3 =>
    obtain rfl := eq_none_of_forall hnone
    subst hs h3
    refine .failed (error .security) (h2.1.undo ?_) h2.2.1 ?_
    · simp [InitOptions.objects, InitOptions.zero, result0]
    · simp [partsCopied, ← h2.2.2]

/-! ## The guard condition of the graph -/

/-- The objects of the graph guard condition. -/
def ContextImpl.graphGuardObjects (c : ContextImpl) : Finset Obj :=
  c.graphGuardNative.toFinset ∪ (c.graphGuardImpl.map (·.object)).toFinset ∪
    (c.graphGuardHandle.map (·.object)).toFinset

def ContextImpl.withGraphGuard (native impl handle : Option Obj) (c : ContextImpl) :
    ContextImpl :=
  { c with
    graphGuardNative := native
    graphGuardImpl := impl.map fun object => { object, native }
    graphGuardHandle := handle.map fun object =>
      { object, implementationIdentifier := none, data := none } }

/-- The fields of the handle once everything is there. -/
def ContextImpl.linkGraphGuard (c : ContextImpl) : ContextImpl :=
  { c with graphGuardHandle := c.graphGuardHandle.map fun guard =>
      { guard with implementationIdentifier := some identifier, data := c.graphGuardImpl } }

def createGraphGuard (o : Outcomes) : RmwM Bool := do
  let native ← create o .guardCondition
  let impl ← create o .guardConditionImpl
  let handle ← create o .graphGuardHandle
  modifyImpl (·.withGraphGuard native impl handle)
  return native.isSome && impl.isSome && handle.isSome

def destroyGraphGuard : RmwM Unit := do
  let c := (← get).impl
  deallocate (c.graphGuardHandle.map (·.object))
  deallocate (c.graphGuardImpl.map (·.object))
  deallocate c.graphGuardNative

/-! ## The call -/

/-- `RMW_DEFAULT_DOMAIN_ID`. -/
def defaultDomainId : ℕ := 2 ^ 64 - 1

/-- The checks of `rmw_init`, with the domain it uses. -/
def initChecks (options : Option InitOptions) (contextIsNull : Bool) (context : Context) :
    Except Ret (InitOptions × ℕ) := do
  let some options := options
    | throw .invalidArgument
  if contextIsNull then
    throw .invalidArgument
  if options.implementationIdentifier.isNone || options.enclave.isNone then
    throw .invalidArgument
  if options.implementationIdentifier ≠ some identifier then
    throw .incorrectRmwImplementation
  if context.implementationIdentifier.isSome || context.impl.isSome then
    throw .invalidArgument
  if options.securityOptions.enforceSecurity = .enforce then
    throw .unsupported
  let domain := if options.domainId = defaultDomainId then 0 else options.domainId
  if domain > 2 ^ 32 - 1 then
    throw .invalidArgument
  return (options, domain)

def State.withContext (s : State) (context : Context) : State := { s with context }

/-- The state after the constructor of the implementation. -/
def State.construct (s : State) : State := { s with impl := .new, entities := .empty }

/-- The end of every roll-back of `rmw_init` behind the zzdds entities. -/
def releaseContext (o : Outcomes) (options : InitOptions) (impl : Obj) : RmwM Unit := do
  let _ ← resetDds o
  deallocate (some impl)
  cleanupOptions options

def modifyState (f : State → State) : RmwM Unit := modify f

@[spec] theorem modifyState_spec (f : State → State) (s : State) :
    ⦃fun s' => ⌜s' = s⌝⦄ modifyState f ⦃⇓ _ s' => ⌜s' = f s⌝⦄ := by
  mvcgen [modifyState]
  next s1 hs _ =>
    subst hs
    rfl

/-- `rmw_init` behind its checks. -/
def initializeContext (o : Call → Outcomes) (error : CopyError) (guid : Guid)
    (options : InitOptions) (domain : ℕ) : RmwM Ret := do
  match ← copyOptions (o .init) error options with
  | .error ret => return ret
  | .ok copied =>
    let some impl ← create (o .init) .contextImpl
      | cleanupOptions copied
        return .badAlloc
    modifyState State.construct
    if !(← initializeDds (o .init)) then
      deallocate (some impl)
      cleanupOptions copied
      return .error
    if !(o .init .participantExtension && o .init .getRtpsGuid) then
      releaseContext (o .init) copied impl
      return .error
    modifyState (·.withContext {
      instanceId := options.instanceId
      implementationIdentifier := some identifier
      options := copied
      actualDomainId := domain
      impl := some impl })
    if !(← createGraphGuard (o .init)) then
      destroyGraphGuard
      releaseContext (o .init) copied impl
      modifyState (·.withContext .zero)
      return .badAlloc
    modifyImpl ContextImpl.linkGraphGuard
    let ret ← initializeGraphChannel o guid
    if ret ≠ .ok then
      destroyGraphGuard
      releaseContext (o .init) copied impl
      modifyState (·.withContext .zero)
      return ret
    return .ok

/-- `rmw_init`. -/
def rmwInit (o : Call → Outcomes) (error : CopyError) (guid : Guid)
    (options : Option InitOptions) (contextIsNull : Bool) : RmwM Ret := do
  match initChecks options contextIsNull (← get).context with
  | .error ret => return ret
  | .ok (options, domain) => initializeContext o error guid options domain

@[spec] theorem createGraphGuard_spec (o : Outcomes) (s : State) :
    ⦃fun s' => ⌜s' = s⌝⦄ createGraphGuard o
    ⦃⇓ ok s' => ⌜Account (Refuses o) s s'.impl.graphGuardObjects s' ∧ s'.context = s.context ∧
      (∃ native impl handle, s'.impl = s.impl.withGraphGuard native impl handle) ∧
      s'.entities = s.entities ∧ ok = ([Kind.guardCondition, .guardConditionImpl,
        .graphGuardHandle].all fun k => o (.create k))⌝⦄ := by
  mvcgen [createGraphGuard]
  next s1 hs native s2 h2 impl s3 h3 handle s4 h4 _ s5 h5 =>
    subst hs h5
    have hall := (h2.effect.trans h3.effect).trans h4.effect
    refine ⟨?_, hall.context, ⟨native, impl, handle, ?_⟩, ?_, ?_⟩
    · refine (((Account.refl _ s1).effect hall fun _ hk => hk).onImpl _).congr ?_
      simp [ContextImpl.graphGuardObjects, ContextImpl.withGraphGuard, Function.comp_def]
    · rw [State.impl_onImpl, hall.impl]
    · exact h4.entities.trans (h3.entities.trans h2.entities)
    · simp [h2.isSome, h3.isSome, h4.isSome, Bool.and_assoc]

@[spec] theorem destroyGraphGuard_spec (s : State) :
    ⦃fun s' => ⌜s' = s⌝⦄ destroyGraphGuard
    ⦃⇓ _ s' => ⌜s' = s.free s.impl.graphGuardObjects⌝⦄ := by
  mvcgen [destroyGraphGuard]
  next s1 hs c _ s2 h2 _ s3 h3 _ s4 =>
    intro h4
    subst hs h2 h3 h4
    simp only [State.free_free, ContextImpl.graphGuardObjects]
    congr 1
    grind

@[spec] theorem releaseContext_spec (o : Outcomes) (options : InitOptions) (impl : Obj) (s : State)
    (howned : s.impl.dds.Owned) :
    ⦃fun s' => ⌜s' = s⌝⦄ releaseContext o options impl
    ⦃⇓ _ s' => ⌜Releases (Refuses o) s (s.impl.dds.objects ∪ {impl} ∪ options.objects) s'⌝⦄ := by
  mvcgen [releaseContext]
  next s1 hs =>
    subst hs
    exact howned
  next s1 hs _ s2 h2 _ s3 h3 _ s4 =>
    intro h4
    subst hs h3 h4
    refine ⟨?_, h2.refused, h2.context⟩
    simp [State.free, h2.heap]

/-- The steps of `rmw_init` before the graph channel succeed. -/
def initPrepared (o : Outcomes) (options : InitOptions) : Bool :=
  partsCopied o options && o (.create .contextImpl) && ddsInitialized o &&
    (o .participantExtension && o .getRtpsGuid) &&
    [Kind.guardCondition, .guardConditionImpl, .graphGuardHandle].all fun k => o (.create k)

/-- What `rmw_init` does once its arguments are accepted. -/
structure InitializesContext (o : Call → Outcomes) (options : InitOptions) (s : State) (r : Ret)
    (s' : State) : Prop where
  ok : r = .ok ↔ initPrepared (o .init) options = true ∧ initializeRet o = .ok
  working : r = .ok → (s'.impl.Working ↔ channelStarted o = true)
  released : r ≠ .ok → Account (RefusesIn o) s ∅ s'
  context : r ≠ .ok → s'.context = s.context ∨ s'.context = .zero

/-- A step before the graph channel fails. -/
theorem InitializesContext.unprepared {o : Call → Outcomes} {options : InitOptions} {s s' : State}
    {r : Ret} (hr : r ≠ .ok) (hfail : initPrepared (o .init) options = false)
    (h : Account (RefusesIn o) s ∅ s') (hcontext : s'.context = s.context ∨ s'.context = .zero) :
    InitializesContext o options s r s' where
  ok := by simp [hr, hfail]
  working := fun hok => (hr hok).elim
  released := fun _ => h
  context := fun _ => hcontext

/-- The context with its zzdds entities, before it is announced to the user. -/
structure Constructed (o : Call → Outcomes) (s : State) (xs : Finset Obj) (s' : State) : Prop where
  account : Account (RefusesIn o) s (xs ∪ s'.impl.dds.objects) s'
  impl : s'.impl = ContextImpl.new.withDds s'.impl.dds
  entities : s'.entities = .empty
  context : s'.context = s.context
  owned : s'.impl.dds.Owned

theorem Constructed.of_creates {o : Call → Outcomes} {options copied : InitOptions} {impl : Obj}
    {ok : Bool} {s s1 s2 s3 : State} (hcopy : CopiesOptions (o .init) options s (.ok copied) s1)
    (hcreate : Creates (o .init) .contextImpl s1 (some impl) s2)
    (hdds : InitializesDds (o .init) s2.construct ok s3) :
    Constructed o s (copied.objects ∪ {impl}) s3 := by
  have hall := ((Account.refl (RefusesIn o) s).effect hcopy.effect fun _ hk => ⟨_, hk⟩).effect
    hcreate.effect fun _ hk => ⟨_, hk⟩
  refine ⟨?_, hdds.building.impl, hdds.building.entities, ?_, hdds.owned⟩
  · have hdds' : Account (RefusesIn o) s2 s3.impl.dds.objects s3 :=
      ⟨hdds.building.account.owns, fun x hx =>
        (hdds.building.account.refused x hx).imp_right fun hk => ⟨_, hk⟩⟩
    refine (hall.trans hdds').congr ?_
    simp [Except.toOption]
  · exact hdds.building.context.trans (hcreate.effect.context.trans hcopy.effect.context)

/-- The context before its graph channel. -/
structure Guarded (o : Call → Outcomes) (s : State) (xs : Finset Obj) (s' : State) : Prop where
  account : Account (RefusesIn o) s (xs ∪ s'.impl.dds.objects ∪ s'.impl.graphGuardObjects) s'
  owned : s'.impl.dds.Owned

theorem Constructed.guarded {o : Call → Outcomes} {s s1 s2 : State} {xs : Finset Obj}
    {context : Context} (h : Constructed o s xs s1)
    (hguard : Account (Refuses (o .init)) (s1.withContext context) s2.impl.graphGuardObjects s2)
    (hdds : s2.impl.dds = s1.impl.dds) : Guarded o s xs s2 := by
  have hguard' : Account (RefusesIn o) s1 s2.impl.graphGuardObjects s2 :=
    ⟨hguard.owns, fun x hx => (hguard.refused x hx).imp_right fun hk => ⟨_, hk⟩⟩
  refine ⟨?_, hdds ▸ h.owned⟩
  rw [hdds]
  exact h.account.trans hguard'

/-- The end of every roll-back of `rmw_init`. -/
theorem Guarded.released {o : Call → Outcomes} {s s1 s2 : State} {copied : InitOptions} {impl : Obj}
    (h : Guarded o s (copied.objects ∪ {impl}) s1)
    (hrelease : Releases (Refuses (o .init)) (s1.free s1.impl.graphGuardObjects)
      (s1.impl.dds.objects ∪ {impl} ∪ copied.objects) s2) : Account (RefusesIn o) s ∅ s2 := by
  refine h.account.close ⟨?_, ?_, hrelease.context⟩
  · rw [hrelease.heap]
    simp only [State.free, Heap.free_free]
    congr 1
    grind
  · exact fun x hx => (hrelease.refused x hx).imp_right fun hk => ⟨_, hk⟩

/-- The roll-back without entities of zzdds. -/
theorem Constructed.released {o : Call → Outcomes} {s s1 : State} {copied : InitOptions} {impl : Obj}
    (h : Constructed o s (copied.objects ∪ {impl}) s1) (hdds : s1.impl.dds = .nil) :
    Account (RefusesIn o) s ∅ ((s1.free (some impl).toFinset).free copied.objects) := by
  refine h.account.close ⟨?_, fun x hx => .inl hx, rfl⟩
  rw [hdds]
  simp only [State.free, Heap.free_free, DdsContext.objects, DdsContext.nil]
  congr 1
  simp [Finset.union_comm]

theorem Constructed.linked {o : Call → Outcomes} {s s1 s2 : State} {xs : Finset Obj}
    {context : Context} {native impl handle : Option Obj} (h : Constructed o s xs s1)
    (hguard : Account (Refuses (o .init)) (s1.withContext context) s2.impl.graphGuardObjects s2)
    (himpl : s2.impl = s1.impl.withGraphGuard native impl handle) :
    Guarded o s xs (s2.onImpl ContextImpl.linkGraphGuard) := by
  have hguarded := h.guarded hguard (congrArg (·.dds) himpl)
  have hobjects : s2.impl.linkGraphGuard.graphGuardObjects = s2.impl.graphGuardObjects := by
    simp [ContextImpl.graphGuardObjects, ContextImpl.linkGraphGuard, Function.comp_def]
  refine ⟨(hguarded.account.onImpl _).congr ?_, hguarded.owned⟩
  rw [State.impl_onImpl, hobjects]
  rfl

/-- The context in which the channel is made. -/
theorem Constructed.fresh {o : Call → Outcomes} {s s1 s2 : State} {xs : Finset Obj}
    {instanceId actualDomainId : ℕ} {options : InitOptions} {x : Obj}
    {native impl handle : Option Obj} (h : Constructed o s xs s1)
    (hcontext : s2.context = ⟨instanceId, some identifier, options, actualDomainId, some x⟩)
    (himpl : s2.impl = s1.impl.withGraphGuard native impl handle)
    (hentities : s2.entities = s1.entities) :
    (s2.onImpl ContextImpl.linkGraphGuard).Fresh := by
  refine ⟨?_, ?_, ?_, hentities.trans h.entities⟩
  · rw [State.accepts, State.validContext, State.context_onImpl, hcontext, State.impl_onImpl,
      himpl, h.impl]
    simp [ContextImpl.linkGraphGuard, ContextImpl.withGraphGuard, ContextImpl.withDds,
      ContextImpl.new]
  · rw [State.impl_onImpl, himpl, h.impl]
    rfl
  · rw [State.impl_onImpl, himpl, h.impl]
    rfl

/-- The channel leaves the rest of the context alone. -/
theorem Guarded.channel {o : Call → Outcomes} {s s1 s2 : State} {xs : Finset Obj} {r : Ret}
    (h : Guarded o s xs s1) (hchannel : InitializesChannel o s1 r s2) (hr : r ≠ .ok) :
    Guarded o s xs s2 := by
  have hstarted : channelStarted o = false := by
    rw [← Bool.not_eq_true]
    intro hstarted
    simp only [channelStarted, Bool.and_eq_true] at hstarted
    exact hr (hchannel.ret.trans (by simp [initializeRet, hstarted]))
  have hdds : s2.impl.dds = s1.impl.dds := congrArg (·.dds) hchannel.rest
  have hguard : s2.impl.graphGuardObjects = s1.impl.graphGuardObjects :=
    congrArg (·.graphGuardObjects) hchannel.rest
  refine ⟨?_, hdds ▸ h.owned⟩
  rw [hdds, hguard]
  refine (h.account.trans hchannel.account).congr ?_
  rw [(hchannel.gone hstarted).1, Finset.union_empty]

@[spec] theorem initializeContext_spec (o : Call → Outcomes) (error : CopyError) (guid : Guid)
    (options : InitOptions) (domain : ℕ) (s : State) :
    ⦃fun s' => ⌜s' = s⌝⦄ initializeContext o error guid options domain
    ⦃⇓ r s' => ⌜InitializesContext o options s r s'⌝⦄ := by
  mvcgen [initializeContext]
  next s1 hs _ ret _ s2 h2 =>
    subst hs
    have hfail := h2.isSome
    refine .unprepared (h2.error ret rfl) ?_ ?_ (.inl h2.effect.context)
    · simp [initPrepared, ← hfail, Except.toOption]
    · exact (Account.refl _ s1).effect h2.effect fun _ hk => ⟨_, hk⟩
  next s1 hs _ copied _ s2 h2 _ impl _ s3 h3 _ s4 h4 =>
    subst hs h4
    rfl
  next s1 hs _ copied _ s2 h2 _ impl _ s3 h3 _ s4 h4 ok hfail s5 h5 _ s6 h6 _ s7 h7 =>
    subst hs h4 h6 h7
    have hbuilt := Constructed.of_creates h2 h3 h5
    have hfail' : ok = false := by simpa using hfail
    have hreleased := hbuilt.released (h5.failed hfail')
    refine .unprepared (by simp) ?_ hreleased (.inl hbuilt.context)
    simp [initPrepared, ← h5.initialized, hfail']
  next s1 hs _ copied _ s2 h2 _ impl _ s3 h3 _ s4 h4 ok hok hfail s5 h5 => exact h5.owned
  -- the extension or the GUID of the participant is missing
  next s1 hs _ copied _ s2 h2 _ impl _ s3 h3 _ s4 h4 ok hok hfail s5 h5 _ s6 h6 =>
    subst hs h4
    have hbuilt := Constructed.of_creates h2 h3 h5
    have hguard : s5.impl.graphGuardObjects = ∅ := by
      rw [h5.building.impl]
      rfl
    have hguarded : Guarded o s1 (copied.objects ∪ {impl}) s5 :=
      ⟨hbuilt.account.congr (by rw [hguard, Finset.union_empty]), hbuilt.owned⟩
    refine .unprepared (by simp) ?_ (hguarded.released ?_) (.inl ?_)
    · simp only [initPrepared, Bool.not_eq_true'] at hfail ⊢
      simp [hfail]
    · rw [hguard]
      exact ⟨by simpa [State.free] using h6.heap, h6.refused, h6.context⟩
    · exact h6.context.trans hbuilt.context
  next s1 hs _ copied _ s2 h2 _ impl _ s3 h3 _ s4 h4 ok hok hguid s5 h5 _ s6 h6 made hfail s7 h7
      _ s8 h8 =>
    subst hs h4 h6 h8
    have hbuilt := Constructed.of_creates h2 h3 h5
    obtain ⟨hguard, hcontext, ⟨native, guardImpl, handle, himpl⟩, hentities, hmade⟩ := h7
    have hdds : s7.impl.dds = s5.impl.dds := congrArg (·.dds) himpl
    exact (hbuilt.guarded hguard hdds).owned
  -- a part of the guard condition is missing
  next s1 hs _ copied _ s2 h2 _ impl _ s3 h3 _ s4 h4 ok hok hguid s5 h5 _ s6 h6 made hfail s7 h7
      _ s8 h8 _ s9 h9 _ s10 h10 =>
    subst hs h4 h6 h8 h10
    have hbuilt := Constructed.of_creates h2 h3 h5
    obtain ⟨hguard, hcontext, ⟨native, guardImpl, handle, himpl⟩, hentities, hmade⟩ := h7
    have hdds : s7.impl.dds = s5.impl.dds := congrArg (·.dds) himpl
    have hreleased := (hbuilt.guarded hguard hdds).released h9
    refine .unprepared (by simp) ?_ ⟨hreleased.owns, hreleased.refused⟩ (.inr rfl)
    have hfail' : made = false := by simpa using hfail
    rw [initPrepared, ← hmade, hfail', Bool.and_false]
  -- the channel starts from a fresh context
  next s1 hs _ copied _ s2 h2 _ impl _ s3 h3 _ s4 h4 ok hok hguid s5 h5 _ s6 h6 made hmade s7 h7
      _ s8 h8 =>
    subst hs h4 h6 h8
    have hbuilt := Constructed.of_creates h2 h3 h5
    obtain ⟨hguard, hcontext, ⟨native, guardImpl, handle, himpl⟩, hentities, hmade'⟩ := h7
    exact hbuilt.fresh hcontext himpl hentities
  next s1 hs _ copied _ s2 h2 _ impl _ s3 h3 _ s4 h4 ok hok hguid s5 h5 _ s6 h6 made hmade s7 h7
      _ s8 h8 ret hfail s9 h9 _ s10 h10 =>
    subst hs h4 h6 h8 h10
    have hbuilt := Constructed.of_creates h2 h3 h5
    obtain ⟨hguard, hcontext, ⟨native, guardImpl, handle, himpl⟩, hentities, hmade'⟩ := h7
    exact ((hbuilt.linked hguard himpl).channel h9 hfail).owned
  -- the channel fails
  next s1 hs _ copied _ s2 h2 _ impl _ s3 h3 _ s4 h4 ok hok hguid s5 h5 _ s6 h6 made hmade s7 h7
      _ s8 h8 ret hfail s9 h9 _ s10 h10 _ s11 h11 _ s12 h12 =>
    subst hs h4 h6 h8 h10 h12
    have hbuilt := Constructed.of_creates h2 h3 h5
    obtain ⟨hguard, hcontext, ⟨native, guardImpl, handle, himpl⟩, hentities, hmade'⟩ := h7
    have hreleased := ((hbuilt.linked hguard himpl).channel h9 hfail).released h11
    refine ⟨?_, fun hok => (hfail hok).elim, fun _ => ⟨hreleased.owns, hreleased.refused⟩,
      fun _ => .inr rfl⟩
    simp [hfail, ← h9.ret]
  -- the channel is there, as far as its result says
  next s1 hs _ copied _ s2 h2 _ impl _ s3 h3 _ s4 h4 ok hok hguid s5 h5 _ s6 h6 made hmade s7 h7
      _ s8 h8 ret hret s9 h9 =>
    subst hs h4 h6 h8
    obtain ⟨hguard, hcontext, ⟨native, guardImpl, handle, himpl⟩, hentities, hmade'⟩ := h7
    have hret' : ret = .ok := by simpa using hret
    refine ⟨?_, fun _ => ⟨fun hworking => ?_, h9.working⟩, by simp, by simp⟩
    · have hcopied := h2.isSome
      have himpl' := h3.isSome
      have hprepared : initPrepared (o .init) options = true := by
        rw [initPrepared, ← hcopied, ← himpl', ← h5.initialized, ← hmade']
        simp_all [Except.toOption]
      simp [hprepared, ← h9.ret, hret']
    · by_contra hstarted
      exact (h9.gone (Bool.eq_false_of_not_eq_true hstarted)).2 hworking
  next s1 hs _ copied _ s2 h2 impl _ hnone heq s3 h3 _ s4 h4 =>
    obtain rfl := eq_none_of_forall hnone
    subst hs h4
    have hcopied := (Account.refl (RefusesIn o) s1).effect h2.effect fun _ hk => ⟨_, hk⟩
    have hall := hcopied.effect h3.effect fun _ hk => ⟨_, hk⟩
    refine .unprepared (by simp) ?_ (hall.close ⟨?_, fun x hx => .inl hx, rfl⟩) (.inl ?_)
    · simp [initPrepared, ← h3.isSome]
    · simp [State.free, Except.toOption]
    · exact h3.effect.context.trans h2.effect.context

@[spec] theorem rmwInit_spec (o : Call → Outcomes) (error : CopyError) (guid : Guid)
    (options : Option InitOptions) (contextIsNull : Bool) (s : State) :
    ⦃fun s' => ⌜s' = s⌝⦄ rmwInit o error guid options contextIsNull
    ⦃⇓ r s' => ⌜match initChecks options contextIsNull s.context with
      | .error ret => r = ret ∧ s' = s
      | .ok (options, _) => InitializesContext o options s r s'⌝⦄ := by
  mvcgen [rmwInit]
  next s1 hs ret hchecks =>
    subst hs
    rw [hchecks]
    exact ⟨rfl, rfl⟩
  next s1 hs options' domain hchecks r s2 =>
    intro h2
    subst hs
    rw [hchecks]
    exact h2

/-! ## The contract of `rmw_init` -/

/-- What `rmw_init` promises.  A rejected call touches nothing, and an entity
that zzdds has refused to delete is the only trace of a failed one. -/
structure InitContract (o : Call → Outcomes) (options : Option InitOptions) (contextIsNull : Bool)
    (s : State) (r : Ret) (s' : State) : Prop where
  working : r = .ok → s'.impl.Working
  rejected : ∀ ret, initChecks options contextIsNull s.context = .error ret → s' = s
  context : r ≠ .ok → s.context = .zero → s'.context = .zero
  live : r ≠ .ok → s'.heap.live = s.heap.live
  refused : r ≠ .ok → ∀ x ∈ s'.refused, x ∈ s.refused ∨ RefusesIn o x.kind

/-- The clean-up of the endpoints that exist succeeds. -/
def cleanupSucceeds (o : Call → Outcomes) : Bool :=
  (!channelSubscriptionCreated (o .createSubscription) ||
      subscriptionDeleted (o .destroySubscription)) &&
    (!channelPublisherCreated (o .createPublisher) || publisherDeleted (o .destroyPublisher))

/-- The graph node exists, an endpoint or the guard condition of the channel
does not, and the result of the clean-up takes the place of the failure. -/
def initMisreported (o : Call → Outcomes) (options : InitOptions) : Bool :=
  initPrepared (o .init) options && channelNodeCreated (o .createNode) &&
    !channelEntitiesCreated o && cleanupSucceeds o

theorem channelRet_eq_ok (o : Call → Outcomes) :
    channelRet o (channelSubscriptionCreated (o .createSubscription))
      (channelPublisherCreated (o .createPublisher)) = .ok ↔ cleanupSucceeds o = true := by
  simp only [channelRet, cleanupSucceeds, stageRet, Ret.and]
  cases channelSubscriptionCreated (o .createSubscription) <;>
    cases channelPublisherCreated (o .createPublisher) <;>
    cases subscriptionDeleted (o .destroySubscription) <;>
    cases publisherDeleted (o .destroyPublisher) <;> simp

/-- When the result of the channel is not the truth about it. -/
theorem initializeRet_eq_ok (o : Call → Outcomes) : initializeRet o = .ok ↔
    channelStarted o = true ∨ channelNodeCreated (o .createNode) = true ∧
      channelEntitiesCreated o = false ∧ cleanupSucceeds o = true := by
  unfold initializeRet channelStarted
  cases channelNodeCreated (o .createNode) <;> cases hentities : channelEntitiesCreated o <;>
    cases listenerStarted o <;> simp [channelRet_eq_ok]

theorem channelStarted_of_misreported {o : Call → Outcomes} {options : InitOptions}
    (h : initMisreported o options = true) : channelStarted o = false := by
  simp only [initMisreported, Bool.and_eq_true, Bool.not_eq_true'] at h
  simp [channelStarted, h.1.2]

/-- A rejected call. -/
theorem initChecks_ne_ok {options : Option InitOptions} {contextIsNull : Bool} {context : Context}
    {ret : Ret} (h : initChecks options contextIsNull context = .error ret) : ret ≠ .ok := by
  rintro rfl
  unfold initChecks at h
  cases options with
  | none => simp [throw, throwThe, MonadExceptOf.throw] at h
  | some options =>
    simp [throw, throwThe, MonadExceptOf.throw, bind, Except.bind, pure, Except.pure] at h
    grind

theorem InitializesContext.contract {o : Call → Outcomes} {options : InitOptions}
    {contextIsNull : Bool} {s s' : State} {r : Ret} {given : Option InitOptions} {domain : ℕ}
    (h : InitializesContext o options s r s')
    (hchecks : initChecks given contextIsNull s.context = .ok (options, domain)) :
    InitContract o given contextIsNull s r s' ↔ initMisreported o options = false := by
  have hok := h.ok
  rw [initializeRet_eq_ok] at hok
  constructor
  · intro hcontract
    rw [← Bool.not_eq_true]
    intro hmis
    have hstarted := channelStarted_of_misreported hmis
    simp only [initMisreported, Bool.and_eq_true, Bool.not_eq_true'] at hmis
    have hr : r = .ok := hok.mpr ⟨hmis.1.1.1, .inr ⟨hmis.1.1.2, hmis.1.2, hmis.2⟩⟩
    have hworking := (h.working hr).mp (hcontract.working hr)
    exact Bool.false_ne_true (hstarted.symm.trans hworking)
  · intro hmis
    refine ⟨fun hr => ?_, ?_, fun hr hzero => ?_, fun hr => ?_, fun hr => (h.released hr).refused⟩
    · obtain ⟨hprepared, hstarted | ⟨hnode, hentities, hcleanup⟩⟩ := hok.mp hr
      · exact (h.working hr).mpr hstarted
      · simp [initMisreported, hprepared, hnode, hentities, hcleanup] at hmis
    · intro ret hret
      simp [hchecks] at hret
    · rcases h.context hr with hcontext | hcontext
      · exact hcontext.trans hzero
      · exact hcontext
    · exact (h.released hr).owns.restored

/-- `rmw_init` keeps its contract exactly when it does not report the result
of a clean-up. -/
theorem rmw_init_contract (o : Call → Outcomes) (error : CopyError) (guid : Guid)
    (options : Option InitOptions) (contextIsNull : Bool) (s : State) :
    InitContract o options contextIsNull s
        ((rmwInit o error guid options contextIsNull).run s).1
        ((rmwInit o error guid options contextIsNull).run s).2 ↔
      ∀ q, initChecks options contextIsNull s.context = .ok q →
        initMisreported o q.1 = false := by
  have hspec := run_of_spec (rmwInit_spec o error guid options contextIsNull s)
  revert hspec
  cases hchecks : initChecks options contextIsNull s.context with
  | error ret =>
    rintro ⟨hr, hs⟩
    have hne := initChecks_ne_ok hchecks
    refine ⟨fun _ q hq => by simp at hq, fun _ => ?_⟩
    refine ⟨fun hok => (hne (hr.symm.trans hok)).elim, fun _ _ => hs, ?_, ?_, ?_⟩
    · exact fun _ hzero => (congrArg (·.context) hs).trans hzero
    · exact fun _ => congrArg (·.heap.live) hs
    · intro _ x hx
      rw [hs] at hx
      exact .inl hx
  | ok q =>
    intro hspec
    simp only [Except.ok.injEq, forall_eq']
    exact hspec.contract hchecks

/-! ### A failure that is reported as success -/

/-- zzdds makes everything but the data writer of the channel. -/
def writerMissing : Call → Outcomes :=
  fun call step => !(call = .createPublisher && step = .create .dataWriter)

def defaultOptions : InitOptions := { InitOptions.zero with
  implementationIdentifier := some identifier
  enclave := some ⟨"/", ⟨.option .enclave, 0⟩⟩ }

/-- An empty heap and a context that is zero initialized. -/
def State.zero : State := ⟨.empty, ∅, .empty, .zero, .new⟩

def Guid.zero : Guid := Service.Guid.zero

/-- `rmw_init` breaks its contract. -/
theorem rmw_init_reports_success : ¬ InitContract writerMissing (some defaultOptions) false .zero
    ((rmwInit writerMissing (fun _ => ⟨.badAlloc, by decide⟩) Guid.zero (some defaultOptions)
      false).run .zero).1
    ((rmwInit writerMissing (fun _ => ⟨.badAlloc, by decide⟩) Guid.zero (some defaultOptions)
      false).run .zero).2 := by
  have hchecks : initChecks (some defaultOptions) false State.zero.context =
      .ok (defaultOptions, 0) := by rfl
  have hspec := run_of_spec (rmwInit_spec writerMissing (fun _ => ⟨.badAlloc, by decide⟩) Guid.zero
    (some defaultOptions) false .zero)
  rw [hchecks] at hspec
  rw [hspec.contract hchecks]
  decide

end Lifecycle

end RmwZzdds
