import RmwZzdds.DataPlane.ActualQos
import RmwZzdds.Graph.Discovery
import RmwZzdds.Service.NameAcceptance

/-!
# What is told of an endpoint

A participant records an endpoint it creates in its own graph cache, and zzdds
announces the endpoint to the other participants, which record what they read
in the announcement.  `Endpoint.info` is the first record and
`Endpoint.RemoteInfo` the second one.  They say the same of the topic, the
types, the reliability and the liveliness.  A durability beyond transient local
is reported as volatile by the one and as transient local by the other, and a
service type hash that is not set is lost on the way.

The type hashes travel in the user data of the endpoint.  The hash of a service
reaches its endpoints by a variable of the thread, which `ServiceHashOverride`
sets for the duration of the call and then resets.
-/

namespace RmwZzdds.Graph

open DataPlane.Qos (DdsDurability DdsLiveliness DdsQos DdsReliability EndpointQos RmwQosProfile
  applyQos_applies endpointQos resolvedQos)
open Service (Guid validateTopic)

/-! ## Kinds -/

def reliabilityKind : DdsReliability → ReliabilityKind
  | .bestEffort => .bestEffort
  | .reliable => .reliable

def durabilityKind : DdsDurability → DurabilityKind
  | .volatile => .volatile
  | .transientLocal => .transientLocal
  | .transient => .transient
  | .persistent => .persistent

def livelinessKind : DdsLiveliness → LivelinessKind
  | .automatic => .automatic
  | .manualByParticipant => .manualByParticipant
  | .manualByTopic => .manualByTopic

/-- The fields of a resolved profile in which discovered endpoints differ. -/
def Qos.ofProfile (profile : RmwQosProfile) : Qos where
  reliability := if profile.reliability = .reliable then .reliable else .bestEffort
  durability := if profile.durability = .volatile then .volatile else .transientLocal
  liveliness := if profile.liveliness = .automatic then .automatic else .manualByTopic

/-! ## Creation -/

section Creation

variable {TypeHash : Type}

/-- What the creation of an endpoint uses of other packages: the check of names
of rmw, the encoding of type hashes of `rmw_dds_common`, and the default QoS of
readers and of writers. -/
structure Libraries (TypeHash : Type) where
  validate : Name → Bool
  encodeTypeHash : TypeHash → Option (List UInt8)
  encodeSertypeHash : TypeHash → Option (List UInt8)
  defaultQos : Bool → DdsQos

/-- The arguments of `rmw_create_publisher` and `rmw_create_subscription`, with
what their type support says. -/
structure EndpointRequest (TypeHash : Type) where
  reader : Bool
  topicName : Name
  qos : RmwQosProfile
  avoidRosNamespaceConventions : Bool
  typeName : Name
  typeHash : TypeHash

/-- An endpoint that zzdds has made. -/
structure Endpoint (TypeHash : Type) where
  guid : Guid
  participant : Guid
  reader : Bool
  topic : Name
  typeName : Name
  typeHash : TypeHash
  serviceTypeHash : Option TypeHash
  userData : List UInt8
  qos : EndpointQos

variable (lib : Libraries TypeHash)

/-- The user data that `attach_type_hash` attaches. -/
def attachTypeHash (serviceHash : Option TypeHash) (typeHash : TypeHash) : Option (List UInt8) :=
  (lib.encodeTypeHash typeHash).bind fun encoded =>
    match serviceHash with
    | none => some encoded
    | some serviceHash => (lib.encodeSertypeHash serviceHash).map (encoded ++ ·)

/-- `rmw_create_publisher` and `rmw_create_subscription`, up to the endpoint that
they have zzdds make.  `zzdds` is the GUID of the reader or of the writer, if it
is made, and `serviceHash` is `service_type_hash_override()`. -/
def createEndpoint (participant : Guid) (zzdds : Bool → Option Guid)
    (request : EndpointRequest TypeHash) (serviceHash : Option TypeHash) :
    Option (Endpoint TypeHash) := do
  guard (validateTopic lib.validate (some request.topicName) request.avoidRosNamespaceConventions)
  let topic ← ddsTopicName request.topicName request.avoidRosNamespaceConventions
  let qos ← endpointQos request.qos (lib.defaultQos request.reader)
  let userData ← attachTypeHash lib serviceHash request.typeHash
  let guid ← zzdds request.reader
  return {
    guid := guid
    participant := participant
    reader := request.reader
    topic := topic
    typeName := request.typeName
    typeHash := request.typeHash
    serviceTypeHash := serviceHash
    userData := userData
    qos := qos }

/-- Programs of a thread, with `current_service_type_hash`. -/
abbrev ThreadM (TypeHash : Type) := StateM (Option TypeHash)

/-- The arguments of `rmw_create_client` and `rmw_create_service`, with what their
type support says. -/
structure ServiceRequest (TypeHash : Type) where
  name : Name
  qos : RmwQosProfile
  avoidRosNamespaceConventions : Bool
  requestTypeName : Name
  responseTypeName : Name
  typeHash : TypeHash

/-- The request for one of the endpoints of a client or a service.  A
`message_handle` has no type hash. -/
def ServiceRequest.endpoint (r : ServiceRequest TypeHash) (zeroTypeHash : TypeHash) (reader : Bool)
    (topicName typeName : Name) : EndpointRequest TypeHash where
  reader := reader
  topicName := topicName
  qos := r.qos
  avoidRosNamespaceConventions := r.avoidRosNamespaceConventions
  typeName := typeName
  typeHash := zeroTypeHash

variable (zeroTypeHash : TypeHash)

/-- The two endpoints of a client or a service.  The second one is not asked for
without the first. -/
def createPair (participant : Guid) (zzdds : Bool → Option Guid) (typeHash : TypeHash)
    (first second : EndpointRequest TypeHash) : ThreadM TypeHash (List (Endpoint TypeHash)) := do
  set (some typeHash)
  let some endpoint := createEndpoint lib participant zzdds first (← get)
    | set (none : Option TypeHash)
      return []
  let other := createEndpoint lib participant zzdds second (← get)
  set (none : Option TypeHash)
  return endpoint :: other.toList

/-- The endpoints that `rmw_create_client` has zzdds make. -/
def createClient (participant : Guid) (zzdds : Bool → Option Guid) (r : ServiceRequest TypeHash) :
    ThreadM TypeHash (List (Endpoint TypeHash)) :=
  match serviceTopics r.name with
  | none => return []
  | some (requestTopic, responseTopic) =>
      createPair lib participant zzdds r.typeHash
        (r.endpoint zeroTypeHash false requestTopic r.requestTypeName)
        (r.endpoint zeroTypeHash true responseTopic r.responseTypeName)

/-- The endpoints that `rmw_create_service` has zzdds make. -/
def createService (participant : Guid) (zzdds : Bool → Option Guid) (r : ServiceRequest TypeHash) :
    ThreadM TypeHash (List (Endpoint TypeHash)) :=
  match serviceTopics r.name with
  | none => return []
  | some (requestTopic, responseTopic) =>
      createPair lib participant zzdds r.typeHash
        (r.endpoint zeroTypeHash true requestTopic r.requestTypeName)
        (r.endpoint zeroTypeHash false responseTopic r.responseTypeName)

/-- The calls that create endpoints. -/
inductive CreationCall (TypeHash : Type) where
  | endpoint (request : EndpointRequest TypeHash)
  | client (request : ServiceRequest TypeHash)
  | service (request : ServiceRequest TypeHash)

def CreationCall.perform (participant : Guid) (zzdds : Bool → Option Guid) :
    CreationCall TypeHash → ThreadM TypeHash (List (Endpoint TypeHash))
  | .endpoint request =>
      return (createEndpoint lib participant zzdds request (← get)).toList
  | .client request => createClient lib zeroTypeHash participant zzdds request
  | .service request => createService lib zeroTypeHash participant zzdds request

/-- The endpoints that a call asks for, each with its service type hash. -/
def CreationCall.requests : CreationCall TypeHash →
    List (EndpointRequest TypeHash × Option TypeHash)
  | .endpoint request => [(request, none)]
  | .client r =>
      (serviceTopics r.name).toList.flatMap fun (requestTopic, responseTopic) =>
        [(r.endpoint zeroTypeHash false requestTopic r.requestTypeName, some r.typeHash),
          (r.endpoint zeroTypeHash true responseTopic r.responseTypeName, some r.typeHash)]
  | .service r =>
      (serviceTopics r.name).toList.flatMap fun (requestTopic, responseTopic) =>
        [(r.endpoint zeroTypeHash true requestTopic r.requestTypeName, some r.typeHash),
          (r.endpoint zeroTypeHash false responseTopic r.responseTypeName, some r.typeHash)]

/-- The endpoint has been made as a request asks for it. -/
structure Endpoint.Made (participant : Guid) (zzdds : Bool → Option Guid)
    (request : EndpointRequest TypeHash) (serviceHash : Option TypeHash)
    (e : Endpoint TypeHash) : Prop where
  guid : zzdds e.reader = some e.guid
  participant : e.participant = participant
  reader : e.reader = request.reader
  topic : ddsTopicName request.topicName request.avoidRosNamespaceConventions = some e.topic
  valid : validateTopic lib.validate (some request.topicName)
    request.avoidRosNamespaceConventions = true
  typeName : e.typeName = request.typeName
  typeHash : e.typeHash = request.typeHash
  serviceTypeHash : e.serviceTypeHash = serviceHash
  userData : attachTypeHash lib serviceHash request.typeHash = some e.userData
  qos : endpointQos request.qos (lib.defaultQos request.reader) = some e.qos

section Made

variable {lib} {zeroTypeHash} {participant : Guid} {zzdds : Bool → Option Guid}
  {request : EndpointRequest TypeHash} {r : ServiceRequest TypeHash}
  {serviceHash : Option TypeHash} {e : Endpoint TypeHash}

theorem createEndpoint_made
    (h : createEndpoint lib participant zzdds request serviceHash = some e) :
    e.Made lib participant zzdds request serviceHash := by
  simp only [createEndpoint, bind, Option.bind_eq_some_iff, pure, Option.some.injEq] at h
  obtain ⟨_, hvalid, topic, htopic, qos, hqos, userData, huserData, guid, hguid, rfl⟩ := h
  exact ⟨hguid, rfl, rfl, htopic, by simpa using hvalid, rfl, rfl, rfl, huserData, hqos⟩

/-- The two requests of a client or a service end with the variable reset. -/
theorem createPair_made {typeHash : TypeHash} {first second : EndpointRequest TypeHash}
    {es : List (Endpoint TypeHash)} {serviceHash' : Option TypeHash}
    (h : (createPair lib participant zzdds typeHash first second).run serviceHash' =
      (es, serviceHash)) :
    serviceHash = none ∧ ∀ e ∈ es, e.Made lib participant zzdds first (some typeHash) ∨
      e.Made lib participant zzdds second (some typeHash) := by
  have hrun : (createPair lib participant zzdds typeHash first second).run serviceHash' =
      (match createEndpoint lib participant zzdds first (some typeHash) with
        | none => []
        | some endpoint =>
            endpoint :: (createEndpoint lib participant zzdds second (some typeHash)).toList,
        none) := by
    cases hfirst : createEndpoint lib participant zzdds first (some typeHash) <;>
      · simp only [createPair, StateT.run_bind, StateT.run_set, StateT.run_get, pure_bind, hfirst]
        rfl
  rw [hrun] at h
  obtain ⟨rfl, rfl⟩ := Prod.mk.inj h
  refine ⟨rfl, fun e he => ?_⟩
  cases hfirst : createEndpoint lib participant zzdds first (some typeHash) with
  | none => simp [hfirst] at he
  | some endpoint =>
      rw [hfirst] at he
      obtain rfl | hsecond := List.mem_cons.mp he
      · exact .inl (createEndpoint_made hfirst)
      · exact .inr (createEndpoint_made (Option.mem_toList.mp hsecond))

/-- A client or a service asks for nothing if there are no topics of its name. -/
theorem optionalPair_made {topics : Option (Name × Name)} {typeHash : TypeHash}
    {first second : Name × Name → EndpointRequest TypeHash} {es : List (Endpoint TypeHash)}
    (h : (topics.elim (pure []) fun names =>
      createPair lib participant zzdds typeHash (first names) (second names)).run none =
        (es, serviceHash)) :
    serviceHash = none ∧
      ∀ e ∈ es, ∃ r ∈ topics.toList.flatMap fun names =>
        [(first names, some typeHash), (second names, some typeHash)],
          e.Made lib participant zzdds r.1 r.2 := by
  cases topics with
  | none =>
      obtain ⟨rfl, rfl⟩ := Prod.mk.inj h
      exact ⟨rfl, fun e he => absurd he List.not_mem_nil⟩
  | some names =>
      obtain ⟨hreset, hmade⟩ := createPair_made h
      refine ⟨hreset, fun e he => ?_⟩
      simpa using hmade e he

/-- A call makes endpoints that it asks for, and leaves the variable of its thread
reset. -/
theorem perform_made (call : CreationCall TypeHash) {es : List (Endpoint TypeHash)}
    (h : (call.perform lib zeroTypeHash participant zzdds).run none = (es, serviceHash)) :
    serviceHash = none ∧
      ∀ e ∈ es, ∃ r ∈ call.requests zeroTypeHash, e.Made lib participant zzdds r.1 r.2 := by
  cases call with
  | endpoint request =>
      obtain ⟨rfl, rfl⟩ := Prod.mk.inj h
      refine ⟨rfl, fun e he => ⟨_, List.mem_singleton_self _, ?_⟩⟩
      exact createEndpoint_made (Option.mem_toList.mp he)
  | client r =>
      refine optionalPair_made ?_
      rw [← h, CreationCall.perform, createClient]
      cases serviceTopics r.name <;> rfl
  | service r =>
      refine optionalPair_made ?_
      rw [← h, CreationCall.perform, createService]
      cases serviceTopics r.name <;> rfl

end Made

/-! ## Records -/

/-- What the creating context passes to `add_entity`. -/
def Endpoint.info (e : Endpoint TypeHash) : EntityInfo TypeHash where
  topicName := e.topic
  typeName := e.typeName
  typeHash := e.typeHash
  participant := e.participant
  qos := .ofProfile e.qos.qos
  serviceTypeHash := e.serviceTypeHash

/-- What zzdds announces of an endpoint. -/
def Endpoint.announcement (e : Endpoint TypeHash) : BuiltinTopicData where
  topicName := some e.topic
  typeName := some e.typeName
  userData := e.userData
  reliability := reliabilityKind e.qos.dds.reliability
  durability := durabilityKind e.qos.dds.durability
  liveliness := livelinessKind e.qos.dds.liveliness

/-- What the documentation of `rmw_dds_common` says about type hashes in user
data.  There is no text for a hash that is not set. -/
structure BuiltinParser.Decodes (parser : BuiltinParser TypeHash) (lib : Libraries TypeHash) :
    Prop where
  unset : ∀ {hash text}, lib.encodeTypeHash hash = some text →
    (text = [] ↔ hash = parser.zeroTypeHash)
  serviceUnset : ∀ {hash text}, lib.encodeSertypeHash hash = some text →
    (text = [] ↔ hash = parser.zeroTypeHash)
  typeHash : ∀ {hash text}, lib.encodeTypeHash hash = some text → text ≠ [] →
    parser.parseTypeHash text = some hash
  typeHash_append : ∀ {hash serviceHash text serviceText},
    lib.encodeTypeHash hash = some text → lib.encodeSertypeHash serviceHash = some serviceText →
    serviceText ≠ [] → parser.parseTypeHash (text ++ serviceText) = some hash
  noServiceHash : ∀ {hash text}, lib.encodeTypeHash hash = some text → text ≠ [] →
    parser.parseSertypeHash text = .unsupported
  serviceHash : ∀ {hash serviceHash text serviceText},
    lib.encodeTypeHash hash = some text → lib.encodeSertypeHash serviceHash = some serviceText →
    serviceText ≠ [] → parser.parseSertypeHash (text ++ serviceText) = .ok serviceHash

/-- What another participant records of an endpoint. -/
structure Endpoint.RemoteInfo (e : Endpoint TypeHash) (zeroTypeHash : TypeHash)
    (info : EntityInfo TypeHash) : Prop where
  topicName : info.topicName = e.topic
  typeName : info.typeName = e.typeName
  typeHash : info.typeHash = e.typeHash
  participant : info.participant = e.participant
  qos : info.qos = e.announcement.qos
  serviceTypeHash : ∀ hash, info.serviceTypeHash = some hash ↔
    e.serviceTypeHash = some hash ∧ hash ≠ zeroTypeHash

section Records

variable {lib} {zeroTypeHash} {parser : BuiltinParser TypeHash} {participant : Guid}
  {zzdds : Bool → Option Guid} {request : EndpointRequest TypeHash}
  {serviceHash : Option TypeHash} {e : Endpoint TypeHash}

/-- The hashes that come out of the user data. -/
theorem typeHashes_attached {hash : TypeHash} {userData : List UInt8}
    (hparser : parser.Decodes lib) (h : attachTypeHash lib serviceHash hash = some userData) :
    ∃ found, parser.typeHashes userData = some (hash, found) ∧
      ∀ other, found = some other ↔ serviceHash = some other ∧ other ≠ parser.zeroTypeHash := by
  cases htext : lib.encodeTypeHash hash with
  | none =>
      rw [attachTypeHash, htext] at h
      cases h
  | some text =>
      -- Without a text for the service hash.
      have hplain : ∃ found, parser.typeHashes text = some (hash, found) ∧ found = none := by
        rw [BuiltinParser.typeHashes]
        by_cases hempty : text = []
        · subst hempty
          rw [(hparser.unset htext).mp rfl]
          exact ⟨none, rfl, rfl⟩
        · rw [if_neg (by simpa using hempty), hparser.typeHash htext hempty,
            hparser.noServiceHash htext hempty]
          exact ⟨none, rfl, rfl⟩
      rw [attachTypeHash, htext] at h
      cases serviceHash with
      | none =>
          cases h
          obtain ⟨found, hfound, rfl⟩ := hplain
          exact ⟨none, hfound, fun other => by simp⟩
      | some serviceHash =>
          obtain ⟨serviceText, hservice, rfl⟩ := Option.map_eq_some_iff.mp h
          have hzero := hparser.serviceUnset hservice
          by_cases hempty : serviceText = []
          · subst hempty
            obtain ⟨found, hfound, rfl⟩ := hplain
            rw [List.append_nil]
            refine ⟨none, hfound, fun other => ⟨nofun, ?_⟩⟩
            rintro ⟨⟨⟩, hset⟩
            exact absurd (hzero.mp rfl) hset
          · refine ⟨some serviceHash, ?_, fun other => ?_⟩
            · rw [BuiltinParser.typeHashes, if_neg (by simp [hempty]),
                hparser.typeHash_append htext hservice hempty,
                hparser.serviceHash htext hservice hempty]
            · refine ⟨fun heq => ⟨heq, ?_⟩, And.left⟩
              cases heq
              exact fun hunset => hempty (hzero.mpr hunset)

/-- What `consume_reader` reads in an announcement. -/
theorem announced_made {Handle : Type} {readers : Bool} {sample : Sample Handle}
    (hparser : parser.Decodes lib) (he : e.Made lib participant zzdds request serviceHash)
    (hpayload : sample.payload.bind (parser.deserialize readers) = some e.announcement)
    (hparticipant : sample.participant = e.participant) :
    ∃ announced, parser.announced readers sample = some announced ∧
      ∀ info, announced = some info → e.RemoteInfo parser.zeroTypeHash info := by
  obtain ⟨found, hhashes, hfound⟩ := typeHashes_attached hparser he.userData
  rw [BuiltinParser.announced, hpayload]
  by_cases hdiscovery : e.announcement.topicName = some discoveryTopic
  · exact ⟨none, by simp [hdiscovery], nofun⟩
  · simp only [hdiscovery, if_false]
    rw [show e.announcement.userData = e.userData from rfl, hhashes]
    refine ⟨_, rfl, ?_⟩
    rintro info ⟨⟩
    exact ⟨rfl, rfl, he.typeHash.symm, hparticipant, rfl, by rw [he.serviceTypeHash]; exact hfound⟩

/-- The fields of a resolved profile, as `add_entity` gets them. -/
theorem ofProfile_resolvedQos (requested : RmwQosProfile) (dds : DdsQos) :
    Qos.ofProfile (resolvedQos requested dds) =
      ⟨if dds.reliability = .reliable then .reliable else .bestEffort,
        if dds.durability = .transientLocal then .transientLocal else .volatile,
        if dds.liveliness = .manualByTopic then .manualByTopic else .automatic⟩ := by
  simp only [Qos.ofProfile, resolvedQos]
  cases dds.reliability <;> cases dds.durability <;> cases dds.liveliness <;> split <;> rfl

/-- The QoS of the two records. -/
theorem qos_made (he : e.Made lib participant zzdds request serviceHash) :
    e.announcement.qos.reliability = e.info.qos.reliability ∧
      e.announcement.qos.liveliness = e.info.qos.liveliness ∧
      (e.announcement.qos.durability = e.info.qos.durability ↔
        (request.qos.durability = .systemDefault →
          (lib.defaultQos request.reader).durability = .volatile ∨
            (lib.defaultQos request.reader).durability = .transientLocal)) := by
  have hqos := he.qos
  simp only [endpointQos, bind, Option.bind_eq_some_iff, pure, Option.some.injEq] at hqos
  obtain ⟨applied, happlied, heq⟩ := hqos
  have happlies := applyQos_applies happlied
  rw [← happlies.durability]
  simp only [Endpoint.announcement, Endpoint.info, BuiltinTopicData.qos, ← heq,
    ofProfile_resolvedQos]
  refine ⟨?_, ?_, ?_⟩
  · cases applied.reliability <;> rfl
  · obtain hkind | hkind := happlies.liveliness <;> rw [hkind] <;> rfl
  · cases applied.durability <;> simp [durabilityKind]

end Records

end Creation

/-! ## Type hashes as text -/

/-- A type hash that is set, by the digits of its text. -/
structure HashDigits where
  digits : List UInt8
  length_eq : digits.length = 64

/-- The keys of the user data, each with the beginning of a text of a type hash. -/
def typeHashKey : List UInt8 := "typehash=RIHS01_".toList.map fun c => UInt8.ofNat c.toNat

def sertypeHashKey : List UInt8 := "sertypehash=RIHS01_".toList.map fun c => UInt8.ofNat c.toNat

/-- A type hash behind its key, and nothing for one that is not set. -/
def hashText (key : List UInt8) : Option HashDigits → List UInt8
  | none => []
  | some hash => key ++ (hash.digits ++ [0x3b])

/-- The type hash behind a key at the beginning of a text. -/
def hashOf (key text : List UInt8) : Option HashDigits :=
  if key.isPrefixOf text then
    if h : ((text.drop key.length).take 64).length = 64 then some ⟨_, h⟩ else none
  else none

theorem hashOf_hashText (key : List UInt8) (hash : HashDigits) (rest : List UInt8) :
    hashOf key (hashText key (some hash) ++ rest) = some hash := by
  have hdigits : ((hashText key (some hash) ++ rest).drop key.length).take 64 = hash.digits := by
    rw [hashText, List.append_assoc, List.drop_left, List.append_assoc, ← hash.length_eq,
      List.take_left]
  have hprefix : key.isPrefixOf (hashText key (some hash) ++ rest) = true := by
    rw [List.isPrefixOf_iff_prefix, hashText, List.append_assoc]
    exact List.prefix_append _ _
  simp only [hashOf, hprefix, if_true, hdigits, hash.length_eq, dif_pos]

/-- The text of a service type hash begins with another key. -/
theorem hashOf_sertype (hash : Option HashDigits) :
    hashOf typeHashKey (hashText sertypeHashKey hash) = none := by
  cases hash with
  | none => rfl
  | some hash => rfl

/-- Libraries that write type hashes as text. -/
def textLibraries : Libraries (Option HashDigits) where
  validate := Service.validateFullName
  encodeTypeHash hash := some (hashText typeHashKey hash)
  encodeSertypeHash hash := some (hashText sertypeHashKey hash)
  defaultQos _ :=
    { reliability := .reliable
      durability := .volatile
      history := .keepLast
      depth := 1
      deadline := .infinite
      lifespan := none
      liveliness := .automatic
      leaseDuration := .infinite }

/-- The parser of these texts, for payloads that `builtin` reads. -/
def textParser (builtin : Bool → List UInt8 → Option BuiltinTopicData) :
    BuiltinParser (Option HashDigits) where
  zeroTypeHash := none
  deserialize := builtin
  parseTypeHash text := some (hashOf typeHashKey text)
  parseSertypeHash text :=
    match hashOf sertypeHashKey
        (if (hashOf typeHashKey text).isSome then text.drop (typeHashKey.length + 65) else text) with
    | some hash => .ok (some hash)
    | none => .unsupported

theorem hashText_eq_nil {key : List UInt8} (hkey : key ≠ []) (hash : Option HashDigits) :
    hashText key hash = [] ↔ hash = none := by
  cases hash <;> simp [hashText, hkey]

theorem drop_hashText (hash : HashDigits) (rest : List UInt8) :
    (hashText typeHashKey (some hash) ++ rest).drop (typeHashKey.length + 65) = rest := by
  have hlength : (hashText typeHashKey (some hash)).length = typeHashKey.length + 65 := by
    simp [hashText, hash.length_eq]
  rw [← hlength, List.drop_left]

theorem textParser_decodes (builtin : Bool → List UInt8 → Option BuiltinTopicData) :
    (textParser builtin).Decodes textLibraries where
  unset := by
    rintro hash text ⟨⟩
    exact hashText_eq_nil (by decide) hash
  serviceUnset := by
    rintro hash text ⟨⟩
    exact hashText_eq_nil (by decide) hash
  typeHash := by
    rintro hash text ⟨⟩ hset
    cases hash with
    | none => exact absurd rfl hset
    | some hash =>
        have hhash := hashOf_hashText typeHashKey hash []
        rw [List.append_nil] at hhash
        exact congrArg some hhash
  typeHash_append := by
    rintro hash serviceHash text serviceText ⟨⟩ ⟨⟩ -
    cases hash with
    | none => exact congrArg some (hashOf_sertype serviceHash)
    | some hash => exact congrArg some (hashOf_hashText typeHashKey hash _)
  noServiceHash := by
    rintro hash text ⟨⟩ hset
    cases hash with
    | none => exact absurd rfl hset
    | some hash =>
        have hhash := hashOf_hashText typeHashKey hash []
        have hdrop := drop_hashText hash []
        rw [List.append_nil] at hhash hdrop
        simp only [textParser, hhash, Option.isSome_some, if_true, hdrop]
        rfl
  serviceHash := by
    rintro hash serviceHash text serviceText ⟨⟩ ⟨⟩ hset
    cases serviceHash with
    | none => exact absurd rfl hset
    | some serviceHash =>
        have hservice := hashOf_hashText sertypeHashKey serviceHash []
        rw [List.append_nil] at hservice
        cases hash with
        | none =>
            simp only [textParser, hashText, List.nil_append]
            rw [show hashOf typeHashKey (sertypeHashKey ++ (serviceHash.digits ++ [0x3b])) = none from
              hashOf_sertype (some serviceHash)]
            simp only [Option.isSome_none, Bool.false_eq_true, if_false]
            rw [show hashOf sertypeHashKey (sertypeHashKey ++ (serviceHash.digits ++ [0x3b])) =
              some serviceHash from hservice]
        | some hash =>
            simp only [textParser, hashOf_hashText, Option.isSome_some, if_true, drop_hashText,
              hservice]

end RmwZzdds.Graph
