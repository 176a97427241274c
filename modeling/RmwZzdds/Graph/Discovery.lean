import Mathlib.Logic.Function.Basic
import RmwZzdds.Graph.Cache
import RmwZzdds.Library.Transition
import RmwZzdds.Return

/-!
# Discovery of remote endpoints

zzdds announces the endpoints of other participants as samples of two built-in
readers, one for writers and one for readers.  `refresh_discovered_endpoints`
takes what has arrived and brings the graph cache up to date.  A map from the
instance handles to the GUIDs says which endpoint has departed when a sample
without data arrives.

*Parsing.*  The payloads are parsed by generated code and the user data by
`rmw_dds_common` (`BuiltinParser`).

*Steps.*  A refresh holds the mutex of the context and is one step.  The graph
listener takes the updates of other participants about their nodes, and the
context's own calls change the cache for its own endpoints.
-/

namespace RmwZzdds.Graph

open Service (Guid ddsGuidSize)

/-! ## Samples -/

/-- `DDS_ReliabilityQosPolicyKind`. -/
inductive ReliabilityKind where
  | bestEffort
  | reliable
deriving DecidableEq, Repr

/-- `DDS_DurabilityQosPolicyKind`. -/
inductive DurabilityKind where
  | volatile
  | transientLocal
  | transient
  | persistent
deriving DecidableEq, Repr

/-- `DDS_LivelinessQosPolicyKind`. -/
inductive LivelinessKind where
  | automatic
  | manualByParticipant
  | manualByTopic
deriving DecidableEq, Repr

/-- `DDS_PublicationBuiltinTopicData` and `DDS_SubscriptionBuiltinTopicData`.
The names may be null. -/
structure BuiltinTopicData where
  topicName : Option Name
  typeName : Option Name
  userData : List UInt8
  reliability : ReliabilityKind
  durability : DurabilityKind
  liveliness : LivelinessKind

/-- What `parse_sertype_hash_from_user_data` returns. -/
inductive SertypeHash (TypeHash : Type*) where
  | ok (hash : TypeHash)
  | unsupported
  | error

/-- The code that parses the payloads and the user data. -/
structure BuiltinParser (TypeHash : Type*) where
  /-- `rosidl_get_zero_initialized_type_hash`. -/
  zeroTypeHash : TypeHash
  /-- The payload of a reader or of a writer. -/
  deserialize : Bool → List UInt8 → Option BuiltinTopicData
  parseTypeHash : List UInt8 → Option TypeHash
  parseSertypeHash : List UInt8 → SertypeHash TypeHash

/-- `DDS_SampleInfo`, as far as discovery reads it. -/
structure SampleInfo (Handle : Type*) where
  instanceHandle : Handle
  validData : Bool

/-- The sequences that `DDS_DataReader_take_raw` fills. -/
structure Batch (Handle : Type*) where
  payloads : List (List UInt8)
  hashes : List UInt8
  infos : List (SampleInfo Handle)

/-- The bytes of a GUID whose octets are zero. -/
def zeroGuid : Guid := Guid.zero

/-- The octets of a key hash, if the sequence has them. -/
def keyHash (hashes : List UInt8) (index : Nat) : Option Guid :=
  let offset := index * ddsGuidSize
  if h : offset + ddsGuidSize ≤ hashes.length then
    some ⟨(hashes.drop offset).take ddsGuidSize, by
      rw [List.length_take, List.length_drop]
      omega⟩
  else none

/-- `endpoint_gid`. -/
def endpointGid (hashes : List UInt8) (index : Nat) : Guid :=
  (keyHash hashes index).getD zeroGuid

/-- The participant of an endpoint: the prefix of its GUID with the entity id of
participants. -/
def participantOf (guid : Guid) : Guid where
  bytes := guid.bytes.take 12 ++ [0x00, 0x00, 0x01, 0xc1]
  length_eq := by
    rw [List.length_append, List.length_take, guid.length_eq]
    rfl

/-- `participant_gid`. -/
def participantGid (hashes : List UInt8) (index : Nat) : Guid :=
  ((keyHash hashes index).map participantOf).getD zeroGuid

/-- What the loop of `consume_reader` sees of a sample. -/
structure Sample (Handle : Type*) where
  instanceHandle : Handle
  validData : Bool
  payload : Option (List UInt8)
  endpoint : Guid
  participant : Guid

/-- The samples of a batch. -/
def Batch.samples {Handle : Type*} (batch : Batch Handle) : List (Sample Handle) :=
  batch.infos.mapIdx fun i info =>
    { instanceHandle := info.instanceHandle
      validData := info.validData
      payload := batch.payloads[i]?
      endpoint := endpointGid batch.hashes i
      participant := participantGid batch.hashes i }

/-! ## Parsing -/

/-- The topic of the updates about nodes. -/
def discoveryTopic : Name := "rt/ros_discovery_info".toList

section Parsing

variable {TypeHash Handle : Type*} (parser : BuiltinParser TypeHash)

/-- The type hash and the service type hash in the user data. -/
def BuiltinParser.typeHashes (userData : List UInt8) : Option (TypeHash × Option TypeHash) :=
  if userData.length = 0 then some (parser.zeroTypeHash, none)
  else
    match parser.parseTypeHash userData with
    | none => none
    | some typeHash =>
        match parser.parseSertypeHash userData with
        | .ok serviceTypeHash => some (typeHash, some serviceTypeHash)
        | .unsupported => some (typeHash, none)
        | .error => none

/-- The quality of service of a discovered endpoint. -/
def BuiltinTopicData.qos (data : BuiltinTopicData) : Qos where
  reliability := if data.reliability = .reliable then .reliable else .bestEffort
  durability := if data.durability = .volatile then .volatile else .transientLocal
  liveliness := if data.liveliness = .automatic then .automatic else .manualByTopic

/-- The endpoint that a sample with data announces.  The outer `none` is a
sample that `consume_reader` cannot parse, the inner one an endpoint of the
topic `rt/ros_discovery_info`, which it skips. -/
def BuiltinParser.announced (readers : Bool) (sample : Sample Handle) :
    Option (Option (EntityInfo TypeHash)) :=
  match sample.payload.bind (parser.deserialize readers) with
  | none => none
  | some data =>
      if data.topicName = some discoveryTopic then some none
      else
        match parser.typeHashes data.userData with
        | none => none
        | some (typeHash, serviceTypeHash) =>
            some (some
              { topicName := data.topicName.getD []
                typeName := data.typeName.getD []
                typeHash := typeHash
                participant := sample.participant
                qos := data.qos
                serviceTypeHash := serviceTypeHash })

end Parsing

/-! ## Consuming a reader -/

/-- The data that `consume_reader` works on: the cache, the instances of the
reader, and whether the cache has changed. -/
structure Progress (Cache Handle : Type*) where
  cache : Cache
  instances : Handle → Option Guid
  changed : Bool

section Consuming

variable {Cache TypeHash Node Handle : Type*} [DecidableEq Handle]
  (graph : GraphCache Cache TypeHash Node) (parser : BuiltinParser TypeHash)

/-- A sample without data: the endpoint of the instance has departed. -/
def Progress.depart (readers : Bool) (handle : Handle) (p : Progress Cache Handle) :
    Progress Cache Handle :=
  match p.instances handle with
  | none => p
  | some found =>
      let (cache, removed) := graph.removeEntity found readers p.cache
      { cache := cache
        instances := Function.update p.instances handle none
        changed := removed || p.changed }

/-- A sample that announces an endpoint. -/
def Progress.record (readers : Bool) (sample : Sample Handle) (info : EntityInfo TypeHash)
    (p : Progress Cache Handle) : Progress Cache Handle :=
  let (cache, added) := graph.addEntity sample.endpoint info readers
    (graph.addParticipant sample.participant [] p.cache)
  { cache := cache
    instances := Function.update p.instances sample.instanceHandle (some sample.endpoint)
    changed := added || p.changed }

/-- The loop of `consume_reader`.  It stops at a sample it cannot parse. -/
def consumeSamples (readers : Bool) :
    List (Sample Handle) → Progress Cache Handle → Ret × Progress Cache Handle
  | [], p => (.ok, p)
  | sample :: samples, p =>
      if !sample.validData then
        consumeSamples readers samples (p.depart graph readers sample.instanceHandle)
      else
        match parser.announced readers sample with
        | none => (.error, p)
        | some none => consumeSamples readers samples p
        | some (some info) =>
            consumeSamples readers samples (p.record graph readers sample info)

/-- How taking from a built-in reader ends.  `returned` says whether the loan
could be returned. -/
inductive Take (Handle : Type*) where
  | noData
  | error
  | ok (batch : Batch Handle) (returned : Bool)

/-- The samples taken. -/
def Take.samples : Take Handle → List (Sample Handle)
  | .noData | .error => []
  | .ok batch _ => batch.samples

/-- `consume_reader`. -/
def consumeReader (readers : Bool) (take : Take Handle) (p : Progress Cache Handle) :
    Ret × Progress Cache Handle :=
  match take with
  | .noData => (.ok, p)
  | .error => (.error, p)
  | .ok batch returned =>
      let (result, p) := consumeSamples graph parser readers batch.samples p
      (if result = .ok ∧ returned = true then .ok else .error, p)

/-! ## The context -/

/-- The fields of the context that discovery uses. -/
structure Context (Cache Handle : Type*) where
  /-- `common.gid`. -/
  gid : Guid
  graphCache : Cache
  discoveredWriterInstances : Handle → Option Guid
  discoveredReaderInstances : Handle → Option Guid

/-- The instances of the built-in reader for writers or for readers. -/
def Context.instances (c : Context Cache Handle) (readers : Bool) : Handle → Option Guid :=
  if readers then c.discoveredReaderInstances else c.discoveredWriterInstances

/-- What `consume_reader` gets for one of the built-in readers. -/
def Context.progress (c : Context Cache Handle) (readers changed : Bool) :
    Progress Cache Handle :=
  { cache := c.graphCache, instances := c.instances readers, changed := changed }

/-- The context with the cache and the instances of one built-in reader as
`consume_reader` left them. -/
def Context.withProgress (readers : Bool) (p : Progress Cache Handle)
    (c : Context Cache Handle) : Context Cache Handle :=
  if readers then { c with graphCache := p.cache, discoveredReaderInstances := p.instances }
  else { c with graphCache := p.cache, discoveredWriterInstances := p.instances }

/-- `consume_reader` on the writers or on the readers of the context. -/
def Context.consume (readers : Bool) (take : Take Handle) (changed : Bool)
    (c : Context Cache Handle) : Ret × Context Cache Handle × Bool :=
  let (result, p) := consumeReader graph parser readers take (c.progress readers changed)
  (result, c.withProgress readers p, p.changed)

/-- The outcome of `refresh_discovered_endpoints`.  `notified` says whether the
graph guard was triggered. -/
structure Refreshed (Cache Handle : Type*) where
  ret : Ret
  context : Context Cache Handle
  notified : Bool

/-- `refresh_discovered_endpoints`.  `lookups` says whether both built-in readers
were found. -/
def refreshDiscoveredEndpoints (lookups : Bool) (publications subscriptions : Take Handle)
    (c : Context Cache Handle) : Refreshed Cache Handle :=
  if !lookups then ⟨.error, c, false⟩
  else
    let (result, c, changed) := c.consume graph parser false publications false
    let (result, c, changed) :=
      if result = .ok then c.consume graph parser true subscriptions changed
      else (result, c, changed)
    ⟨result, c, decide (result = .ok) && changed⟩

/-- What the graph listener does with a message it has taken. -/
def updateParticipantEntities (message : ParticipantEntitiesInfo Node)
    (c : Context Cache Handle) : Context Cache Handle :=
  if message.gid ≠ c.gid then
    { c with graphCache := graph.updateParticipantEntities message c.graphCache }
  else c

end Consuming

/-! ## Runs -/

/-- What zzdds says about the endpoints behind the instance handles: each has one
GUID and one topic, and none of them belongs to the context itself. -/
structure Identity (Handle : Type*) where
  guid : Bool → Handle → Guid
  guid_injective : ∀ readers, Function.Injective (guid readers)
  topic : Bool → Handle → Option Name
  isLocal : Set Guid
  guid_remote : ∀ readers handle, guid readers handle ∉ isLocal

/-- The samples with data have the GUIDs and the topics of their instances. -/
def Identity.Matches {TypeHash Handle : Type*} (identity : Identity Handle)
    (parser : BuiltinParser TypeHash) (readers : Bool) (samples : List (Sample Handle)) : Prop :=
  ∀ sample ∈ samples, sample.validData = true →
    sample.endpoint = identity.guid readers sample.instanceHandle ∧
      ∀ data, sample.payload.bind (parser.deserialize readers) = some data →
        data.topicName = identity.topic readers sample.instanceHandle

/-- The steps of discovery. -/
inductive Action (Cache Node Handle : Type*) where
  | refresh (lookups : Bool) (publications subscriptions : Take Handle)
  /-- The graph listener has taken a message. -/
  | update (message : ParticipantEntitiesInfo Node)
  /-- The context's own calls change the cache. -/
  | changeLocal (cache : Cache)

/-- The samples of a step from the readers or from the writers. -/
def Action.samples {Cache Node Handle : Type*} (readers : Bool) :
    Action Cache Node Handle → List (Sample Handle)
  | .refresh _ publications subscriptions =>
      if readers then subscriptions.samples else publications.samples
  | .update _ | .changeLocal _ => []

section Runs

variable {Cache TypeHash Node Handle : Type*} [DecidableEq Handle]
  (graph : GraphCache Cache TypeHash Node) (parser : BuiltinParser TypeHash)
  (identity : Identity Handle)

/-- Right after `rmw_init` only the context itself is in the cache. -/
def Context.Initial (c : Context Cache Handle) : Prop :=
  (∀ readers, graph.entities c.graphCache readers ⊆ identity.isLocal) ∧
    (∀ guid ≠ c.gid, graph.participant c.graphCache guid = none) ∧
    ∀ readers handle, c.instances readers handle = none

/-- The steps.  The context's own calls touch its own endpoints and its own
participant. -/
inductive Step (c : Context Cache Handle) :
    Action Cache Node Handle → Context Cache Handle → Prop where
  | refresh {lookups : Bool} {publications subscriptions : Take Handle} :
      identity.Matches parser false publications.samples →
      identity.Matches parser true subscriptions.samples →
      Step c (.refresh lookups publications subscriptions)
        (refreshDiscoveredEndpoints graph parser lookups publications subscriptions c).context
  | update (message : ParticipantEntitiesInfo Node) :
      Step c (.update message) (updateParticipantEntities graph message c)
  | changeLocal {cache : Cache} :
      (∀ readers, graph.entities cache readers \ identity.isLocal =
        graph.entities c.graphCache readers \ identity.isLocal) →
      (∀ guid ≠ c.gid, graph.participant cache guid = graph.participant c.graphCache guid) →
      Step c (.changeLocal cache) { c with graphCache := cache }

/-- The runs of discovery. -/
def system : Transition.System (Context Cache Handle) (Action Cache Node Handle) where
  init := Context.Initial graph identity
  step := Step graph parser identity

/-- A refresh consumes both readers without error. -/
def ConsumesWithoutError (c : Context Cache Handle) : Action Cache Node Handle → Prop
  | .refresh lookups publications subscriptions =>
      (refreshDiscoveredEndpoints graph parser lookups publications subscriptions c).ret = .ok
  | .update _ | .changeLocal _ => True

end Runs

end RmwZzdds.Graph
