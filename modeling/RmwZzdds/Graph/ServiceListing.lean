import Mathlib.Data.Char
import Mathlib.Data.List.Lex
import RmwZzdds.Graph.TypeNames
import RmwZzdds.Library.Multimap
import RmwZzdds.Return

/-!
# Listings of services

The graph cache knows of endpoints, not of services.  A service of a node is
found again as a reader of its request topic and a writer of its reply topic,
and a client as the converse.  Which service an endpoint belongs to is read off
the name of its topic, and the type of the service off the type of the endpoint.

The topics of a service have their prefix behind that of ROS.  A service whose
topics are named without the conventions of ROS is not found, and endpoints that
have names of this form by themselves are taken for a service.
-/

namespace RmwZzdds.Graph

/-! ## Names and types -/

/-- `NamesAndTypes`. -/
abbrev NamesAndTypes := Multimap Name Name

/-- `rmw_names_and_types_t`. -/
abbrev RmwNamesAndTypes := List (Name × List Name)

/-- A listing shows a type under a name. -/
def RmwNamesAndTypes.Lists (listing : RmwNamesAndTypes) (name type : Name) : Prop :=
  ∃ types, (name, types) ∈ listing ∧ type ∈ types

/-- `identity_name`. -/
def identityName (name : Name) : Name := name

/-- The loop of `extract_service_topics` over the types of a topic. -/
def insertServiceTypes (result : NamesAndTypes) (service : Name) (types : List Name) :
    NamesAndTypes :=
  types.foldl (fun result type => result.insert service (demangleDdsServiceType type)) result

/-- `extract_service_topics`. -/
def extractServiceTopics (endpoints : RmwNamesAndTypes) (front ending : Name) : NamesAndTypes :=
  endpoints.foldl (fun result (topic, types) =>
    if topic.length ≤ front.length + ending.length ∨ ¬ front <+: topic ∨ ¬ ending <:+ topic then
      result
    else
      let service :=
        (topic.drop front.length).take (topic.length - front.length - ending.length)
      insertServiceTypes result service types) Multimap.empty

/-- The loop of `intersect_services` over the types of a service. -/
def intersectTypes (result : NamesAndTypes) (name : Name) (first second : Finset Name) :
    NamesAndTypes :=
  first.sort.foldl (fun result type =>
    if type ∈ second then result.insert name type else result) result

/-- `intersect_services`. -/
def intersectServices (first second : NamesAndTypes) : NamesAndTypes :=
  first.keys.sort.foldl (fun result name =>
    if name ∉ second.keys then result
    else intersectTypes result name (first.values name) (second.values name)) Multimap.empty

/-- `fill_names_and_types`. -/
def fillNamesAndTypes (values : NamesAndTypes) (allocates : Bool) : Ret × RmwNamesAndTypes :=
  if allocates then (.ok, values.toList) else (.badAlloc, [])

/-- The queries of the graph cache for the endpoints of a node, which take its name and
namespace and the two functions for the names. -/
structure NodeQueries where
  getReaderNamesAndTypesByNode :
    Name → Name → (Name → Name) → (Name → Name) → Ret × RmwNamesAndTypes
  getWriterNamesAndTypesByNode :
    Name → Name → (Name → Name) → (Name → Name) → Ret × RmwNamesAndTypes

/-- `get_service_names_and_types_from_cache`. -/
def getServiceNamesAndTypesFromCache (graphCache : NodeQueries) (allocates : Bool)
    (nodeName nodeNamespace : Name) (clients : Bool) : Ret × RmwNamesAndTypes :=
  let readers :=
    graphCache.getReaderNamesAndTypesByNode nodeName nodeNamespace identityName identityName
  let writers :=
    graphCache.getWriterNamesAndTypesByNode nodeName nodeNamespace identityName identityName
  let requestEndpoints := if clients then writers else readers
  let replyEndpoints := if clients then readers else writers
  if requestEndpoints.1 ≠ .ok then (requestEndpoints.1, [])
  else if replyEndpoints.1 ≠ .ok then (replyEndpoints.1, [])
  else
    let requests := extractServiceTopics requestEndpoints.2 "rt/rq".toList "Request".toList
    let replies := extractServiceTopics replyEndpoints.2 "rt/rr".toList "Reply".toList
    fillNamesAndTypes (intersectServices requests replies) allocates

/-! ## What is listed -/

theorem holds_insertServiceTypes {result : NamesAndTypes} {service : Name} {types : List Name}
    {name type : Name} : (insertServiceTypes result service types).Holds name type ↔
      result.Holds name type ∨ service = name ∧ ∃ t ∈ types, demangleDdsServiceType t = type := by
  rw [insertServiceTypes, Multimap.holds_foldl
    (fun t name type => service = name ∧ demangleDdsServiceType t = type)
    (fun _ _ _ _ => Multimap.holds_insert)]
  simp only [and_left_comm, exists_and_left]

/-- A name between a prefix and an ending is cut out. -/
theorem eq_append_iff {topic front ending name : Name} (hname : name ≠ []) :
    topic = front ++ name ++ ending ↔
      ¬ (topic.length ≤ front.length + ending.length ∨ ¬ front <+: topic ∨ ¬ ending <:+ topic) ∧
        (topic.drop front.length).take (topic.length - front.length - ending.length) = name := by
  rw [not_or, not_or, not_not, not_not, not_le]
  constructor
  · rintro rfl
    have hpositive := List.length_pos_iff.mpr hname
    refine ⟨⟨?_, ?_, List.suffix_append ..⟩, ?_⟩
    · simp only [List.length_append]
      omega
    · rw [List.append_assoc]
      exact List.prefix_append ..
    · rw [List.append_assoc, List.drop_left, List.length_append, List.length_append,
        Nat.add_sub_cancel_left, Nat.add_sub_cancel, List.take_left]
  · rintro ⟨⟨hlength, ⟨rest, rfl⟩, hending⟩, hcut⟩
    rw [List.drop_left, List.length_append, Nat.add_sub_cancel_left] at hcut
    have hrest : ending <:+ rest := by
      refine List.suffix_of_suffix_length_le hending (List.suffix_append ..) ?_
      rw [List.length_append] at hlength
      omega
    obtain ⟨middle, rfl⟩ := hrest
    rw [List.length_append, Nat.add_sub_cancel, List.take_left] at hcut
    rw [hcut, List.append_assoc]

/-- An endpoint on a topic of a service. -/
def ServesOn (front ending name type : Name) (endpoint : Name × Name) : Prop :=
  endpoint.1 = front ++ name ++ ending ∧ demangleDdsServiceType endpoint.2 = type

theorem holds_extractServiceTopics {endpoints : RmwNamesAndTypes} {front ending name type : Name} :
    (extractServiceTopics endpoints front ending).Holds name type ↔
      name ≠ [] ∧ ∃ topic t, endpoints.Lists topic t ∧ ServesOn front ending name type (topic, t) := by
  have hstep : ∀ (result : NamesAndTypes) (entry : Name × List Name) (name type : Name),
      Multimap.Holds (
        if entry.1.length ≤ front.length + ending.length ∨ ¬ front <+: entry.1 ∨
          ¬ ending <:+ entry.1 then result
        else insertServiceTypes result ((entry.1.drop front.length).take
          (entry.1.length - front.length - ending.length)) entry.2) name type ↔
        result.Holds name type ∨ name ≠ [] ∧ entry.1 = front ++ name ++ ending ∧
          ∃ t ∈ entry.2, demangleDdsServiceType t = type := by
    intro result entry name type
    split
    next hother =>
      refine (or_iff_left ?_).symm
      rintro ⟨hname, htopic, -⟩
      exact ((eq_append_iff hname).mp htopic).1 hother
    next hservice =>
      rw [holds_insertServiceTypes]
      refine or_congr_right ⟨?_, ?_⟩
      · rintro ⟨rfl, htype⟩
        have hname : (entry.1.drop front.length).take
            (entry.1.length - front.length - ending.length) ≠ [] := by
          intro hnil
          have hlength := congrArg List.length hnil
          rw [List.length_take, List.length_drop, List.length_nil] at hlength
          omega
        exact ⟨hname, (eq_append_iff hname).mpr ⟨hservice, rfl⟩, htype⟩
      · rintro ⟨hname, htopic, htype⟩
        exact ⟨((eq_append_iff hname).mp htopic).2, htype⟩
  rw [extractServiceTopics, Multimap.holds_foldl _ hstep]
  simp only [Multimap.not_holds_empty, false_or, RmwNamesAndTypes.Lists, ServesOn]
  constructor
  · rintro ⟨⟨topic, types⟩, hentry, hname, htopic, t, ht, htype⟩
    exact ⟨hname, topic, t, ⟨types, hentry, ht⟩, htopic, htype⟩
  · rintro ⟨hname, topic, t, ⟨types, hentry, ht⟩, htopic, htype⟩
    exact ⟨(topic, types), hentry, hname, htopic, t, ht, htype⟩

theorem holds_intersectTypes {result : NamesAndTypes} {name : Name} {first second : Finset Name}
    {name' type : Name} : (intersectTypes result name first second).Holds name' type ↔
      result.Holds name' type ∨ name = name' ∧ type ∈ first ∧ type ∈ second := by
  have hstep : ∀ (result : NamesAndTypes) (t name' type : Name),
      Multimap.Holds (if t ∈ second then result.insert name t else result) name' type ↔
        result.Holds name' type ∨ name = name' ∧ t = type ∧ type ∈ second := by
    intro result t name' type
    split
    next hsecond =>
      rw [Multimap.holds_insert]
      refine or_congr_right (and_congr_right fun _ => ⟨?_, And.left⟩)
      rintro rfl
      exact ⟨rfl, hsecond⟩
    next hother =>
      refine (or_iff_left ?_).symm
      rintro ⟨-, rfl, hsecond⟩
      exact hother hsecond
  rw [intersectTypes, Multimap.holds_foldl _ hstep]
  simp only [Finset.mem_sort]
  refine or_congr_right ⟨?_, ?_⟩
  · rintro ⟨t, hfirst, hname, rfl, hsecond⟩
    exact ⟨hname, hfirst, hsecond⟩
  · rintro ⟨hname, hfirst, hsecond⟩
    exact ⟨type, hfirst, hname, rfl, hsecond⟩

theorem holds_intersectServices {first second : NamesAndTypes} {name type : Name} :
    (intersectServices first second).Holds name type ↔
      first.Holds name type ∧ second.Holds name type := by
  have hstep : ∀ (result : NamesAndTypes) (name name' type : Name),
      Multimap.Holds (if name ∉ second.keys then result
        else intersectTypes result name (first.values name) (second.values name)) name' type ↔
        result.Holds name' type ∨ name = name' ∧ first.Holds name' type ∧
          second.Holds name' type := by
    intro result name name' type
    split
    next habsent =>
      refine (or_iff_left ?_).symm
      rintro ⟨rfl, -, hsecond⟩
      exact habsent ((second.mem_keys name).mpr ⟨type, hsecond⟩)
    next =>
      rw [holds_intersectTypes]
      refine or_congr_right (and_congr_right ?_)
      rintro rfl
      exact Iff.rfl
  rw [intersectServices, Multimap.holds_foldl _ hstep]
  simp only [Multimap.not_holds_empty, false_or, Finset.mem_sort]
  constructor
  · rintro ⟨name', -, rfl, hboth⟩
    exact hboth
  · intro hboth
    exact ⟨name, (first.mem_keys name).mpr ⟨type, hboth.1⟩, rfl, hboth⟩

/-- The graph cache has these readers and writers of a node, as pairs of the names
of a topic and a type. -/
structure NodeQueries.Reports (graphCache : NodeQueries) (nodeName nodeNamespace : Name)
    (readers writers : Set (Name × Name)) : Prop where
  readers : ∃ listing, graphCache.getReaderNamesAndTypesByNode nodeName nodeNamespace identityName
    identityName = (.ok, listing) ∧ ∀ topic type, listing.Lists topic type ↔ (topic, type) ∈ readers
  writers : ∃ listing, graphCache.getWriterNamesAndTypesByNode nodeName nodeNamespace identityName
    identityName = (.ok, listing) ∧ ∀ topic type, listing.Lists topic type ↔ (topic, type) ∈ writers

/-- A reader or writer of the requests of a service. -/
abbrev ServesRequests := ServesOn "rt/rq".toList "Request".toList

/-- A reader or writer of the replies of a service. -/
abbrev ServesReplies := ServesOn "rt/rr".toList "Reply".toList

/-- The services that two listings of endpoints show. -/
def pairedServices (requestEndpoints replyEndpoints : RmwNamesAndTypes) : NamesAndTypes :=
  intersectServices (extractServiceTopics requestEndpoints "rt/rq".toList "Request".toList)
    (extractServiceTopics replyEndpoints "rt/rr".toList "Reply".toList)

theorem holds_pairedServices {requestEndpoints replyEndpoints : RmwNamesAndTypes}
    {requests replies : Set (Name × Name)}
    (hrequests : ∀ topic type, requestEndpoints.Lists topic type ↔ (topic, type) ∈ requests)
    (hreplies : ∀ topic type, replyEndpoints.Lists topic type ↔ (topic, type) ∈ replies)
    (name type : Name) : (pairedServices requestEndpoints replyEndpoints).Holds name type ↔
      name ≠ [] ∧ (∃ endpoint ∈ requests, ServesRequests name type endpoint) ∧
        ∃ endpoint ∈ replies, ServesReplies name type endpoint := by
  rw [pairedServices, holds_intersectServices, holds_extractServiceTopics,
    holds_extractServiceTopics, Prod.exists, Prod.exists, ← and_and_left]
  simp only [hrequests, hreplies]

/-- A service is listed if both its requests and its replies are served. -/
theorem lists_iff {graphCache : NodeQueries} {nodeName nodeNamespace : Name}
    {readers writers : Set (Name × Name)}
    (h : graphCache.Reports nodeName nodeNamespace readers writers) (clients : Bool) :
    ∃ listing, getServiceNamesAndTypesFromCache graphCache true nodeName nodeNamespace clients =
        (.ok, listing) ∧
      (∀ entry ∈ listing, entry.2 ≠ []) ∧
      ∀ name type, listing.Lists name type ↔ name ≠ [] ∧
        (∃ endpoint ∈ if clients then writers else readers, ServesRequests name type endpoint) ∧
        ∃ endpoint ∈ if clients then readers else writers, ServesReplies name type endpoint := by
  obtain ⟨readerListing, hreaders, hlistsReaders⟩ := h.readers
  obtain ⟨writerListing, hwriters, hlistsWriters⟩ := h.writers
  cases clients with
  | false =>
      refine ⟨(pairedServices readerListing writerListing).toList, ?_,
        fun _ => Multimap.ne_nil_of_mem_toList, fun name type => ?_⟩
      · simp [getServiceNamesAndTypesFromCache, hreaders, hwriters, fillNamesAndTypes,
          pairedServices]
      · rw [RmwNamesAndTypes.Lists, Multimap.mem_toList]
        exact holds_pairedServices hlistsReaders hlistsWriters name type
  | true =>
      refine ⟨(pairedServices writerListing readerListing).toList, ?_,
        fun _ => Multimap.ne_nil_of_mem_toList, fun name type => ?_⟩
      · simp [getServiceNamesAndTypesFromCache, hreaders, hwriters, fillNamesAndTypes,
          pairedServices]
      · rw [RmwNamesAndTypes.Lists, Multimap.mem_toList]
        exact holds_pairedServices hlistsWriters hlistsReaders name type

/-! ## The endpoints of a node -/

/-- A service or a client of a node. -/
structure ServiceUse where
  name : Name
  type : NamespacedType
  native : Bool
  /-- The DDS topics. -/
  request : Name
  reply : Name
  topics : ∃ requestTopic replyTopic, serviceTopics name = some (requestTopic, replyTopic) ∧
    ddsTopicName requestTopic native = some request ∧ ddsTopicName replyTopic native = some reply

/-- A publisher or a subscription of a node. -/
structure TopicUse where
  topic : Name
  native : Bool
  ddsTopic : Name
  ddsType : Name
  named : ddsTopicName topic native = some ddsTopic

/-- The readers of a node, from the services whose requests it reads, those whose
replies it reads and its subscriptions; or its writers in the same way. -/
def endpoints (requested replied : List ServiceUse) (topics : List TopicUse) : Set (Name × Name) :=
  { endpoint | (∃ s ∈ requested, endpoint = (s.request, ddsTypeName s.type.request)) ∨
    (∃ s ∈ replied, endpoint = (s.reply, ddsTypeName s.type.response)) ∨
    ∃ t ∈ topics, endpoint = (t.ddsTopic, t.ddsType) }

/-- What a node holds. -/
structure Holdings where
  services : List ServiceUse
  clients : List ServiceUse
  publishers : List TopicUse
  subscriptions : List TopicUse

def Holdings.readers (held : Holdings) : Set (Name × Name) :=
  endpoints held.services held.clients held.subscriptions

def Holdings.writers (held : Holdings) : Set (Name × Name) :=
  endpoints held.clients held.services held.publishers

/-- The name of a service type in a listing. -/
def NamespacedType.listedName (service : NamespacedType) : Name :=
  demangleDdsServiceType (ddsTypeName service.request)

/-- The topic does not look like a topic of a service. -/
structure TopicUse.Ordinary (use : TopicUse) : Prop where
  ros : use.native = false → ¬ HasServicePrefix use.topic
  native : use.native = true → ¬ "rt/rq".toList <+: use.topic ∧ ¬ "rt/rr".toList <+: use.topic

theorem ddsTopicName_native {name topic : Name} (h : ddsTopicName name true = some topic) :
    topic = name := by
  simp only [ddsTopicName, if_true, List.nil_append] at h
  split at h
  · cases h
  · exact (Option.some.inj h).symm

theorem serviceTopics_eq {name request reply : Name}
    (h : serviceTopics name = some (request, reply)) :
    name ≠ [] ∧ request = "/rq".toList ++ name ++ "Request".toList ∧
      reply = "/rr".toList ++ name ++ "Reply".toList := by
  unfold serviceTopics at h
  split at h
  · cases h
  next hname =>
    cases h
    refine ⟨?_, rfl, rfl⟩
    rintro rfl
    exact hname (.inl nofun)

namespace ServiceUse

/-- The topics of a service have the prefix of ROS before their own, or not. -/
theorem topics_eq (s : ServiceUse) :
    s.request = (if s.native then [] else "rt".toList) ++
        ("/rq".toList ++ s.name ++ "Request".toList) ∧
      s.reply = (if s.native then [] else "rt".toList) ++
        ("/rr".toList ++ s.name ++ "Reply".toList) := by
  obtain ⟨requestTopic, replyTopic, hservice, hrequest, hreply⟩ := s.topics
  obtain ⟨-, rfl, rfl⟩ := serviceTopics_eq hservice
  cases hnative : s.native with
  | true =>
      rw [hnative] at hrequest hreply
      exact ⟨ddsTopicName_native hrequest, ddsTopicName_native hreply⟩
  | false =>
      rw [hnative] at hrequest hreply
      exact ⟨ddsTopicName_eq hrequest, ddsTopicName_eq hreply⟩

theorem name_ne_nil (s : ServiceUse) : s.name ≠ [] := by
  obtain ⟨_, _, hservice, -⟩ := s.topics
  exact (serviceTopics_eq hservice).1

/-- A topic with the prefix of ROS shows the name in it, and one without does not. -/
theorem prefixed_eq_iff (front ending : Name) {name name' : Name}
    (hfront : front.head? = some '/') (native : Bool) :
    (if native then [] else "rt".toList) ++ (front ++ name ++ ending) =
        "rt".toList ++ front ++ name' ++ ending ↔
      native = false ∧ name = name' := by
  cases native with
  | true =>
      simp only [if_true, List.nil_append, Bool.true_eq_false, false_and, iff_false]
      intro h
      have hhead := congrArg List.head? h
      rw [List.append_assoc, List.head?_append, hfront] at hhead
      cases hhead
  | false =>
      simp only [Bool.false_eq_true, if_false, true_and, List.append_assoc,
        List.append_cancel_left_eq, List.append_cancel_right_eq]

theorem servesRequests_request (s : ServiceUse) (name type ddsType : Name) :
    ServesRequests name type (s.request, ddsType) ↔
      (s.native = false ∧ s.name = name) ∧ demangleDdsServiceType ddsType = type := by
  rw [← prefixed_eq_iff "/rq".toList "Request".toList rfl s.native, ← s.topics_eq.1]
  exact Iff.rfl

theorem servesReplies_reply (s : ServiceUse) (name type ddsType : Name) :
    ServesReplies name type (s.reply, ddsType) ↔
      (s.native = false ∧ s.name = name) ∧ demangleDdsServiceType ddsType = type := by
  rw [← prefixed_eq_iff "/rr".toList "Reply".toList rfl s.native, ← s.topics_eq.2]
  exact Iff.rfl

end ServiceUse

theorem ServesOn.front_isPrefix {front ending name type : Name} {endpoint : Name × Name}
    (h : ServesOn front ending name type endpoint) : front <+: endpoint.1 := by
  rw [h.1, List.append_assoc]
  exact List.prefix_append ..

/-- A topic with the mark of one role is none of the other role. -/
theorem not_servesOn_of_role {native : Bool} (role : Name) {rest front ending name type : Name}
    {endpoint : Name × Name} (hlength : "rt".toList.length + role.length ≤ front.length)
    (hrole : ¬ role <+: front ∧ ¬ "rt".toList ++ role <+: front)
    (htopic : endpoint.1 = (if native then [] else "rt".toList) ++ (role ++ rest)) :
    ¬ ServesOn front ending name type endpoint := by
  intro h
  have hmark : (if native then [] else "rt".toList) ++ role <+: endpoint.1 := by
    rw [htopic, ← List.append_assoc]
    exact List.prefix_append ..
  cases native with
  | true =>
      exact hrole.1 (List.prefix_of_prefix_length_le hmark h.front_isPrefix
        ((Nat.le_add_left ..).trans hlength))
  | false =>
      refine hrole.2 (List.prefix_of_prefix_length_le hmark h.front_isPrefix ?_)
      rw [← List.length_append] at hlength
      exact hlength

namespace ServiceUse

theorem not_servesRequests_reply (s : ServiceUse) (name type ddsType : Name) :
    ¬ ServesRequests name type (s.reply, ddsType) :=
  not_servesOn_of_role "/rr".toList (by decide) (by decide)
    (s.topics_eq.2.trans (congrArg _ (List.append_assoc ..)))

theorem not_servesReplies_request (s : ServiceUse) (name type ddsType : Name) :
    ¬ ServesReplies name type (s.request, ddsType) :=
  not_servesOn_of_role "/rq".toList (by decide) (by decide)
    (s.topics_eq.1.trans (congrArg _ (List.append_assoc ..)))

end ServiceUse

/-- The DDS topic of an ordinary topic is that of no service. -/
theorem TopicUse.Ordinary.not_isPrefix {use : TopicUse} (h : use.Ordinary) :
    ¬ "rt/rq".toList <+: use.ddsTopic ∧ ¬ "rt/rr".toList <+: use.ddsTopic := by
  have hnamed := use.named
  cases hnative : use.native with
  | true =>
      rw [hnative] at hnamed
      rw [ddsTopicName_native hnamed]
      exact h.native hnative
  | false =>
      rw [hnative] at hnamed
      rw [ddsTopicName_eq hnamed]
      have hros := h.ros hnative
      rw [HasServicePrefix, not_or] at hros
      exact ⟨fun hrequest => hros.1 ((List.prefix_append_right_inj "rt".toList).mp hrequest),
        fun hreply => hros.2 ((List.prefix_append_right_inj "rt".toList).mp hreply)⟩

/-- The requests among the endpoints are those of services. -/
theorem exists_servesRequests {requested replied : List ServiceUse} {topics : List TopicUse}
    (htopics : ∀ use ∈ topics, use.Ordinary) (name type : Name) :
    (∃ endpoint ∈ endpoints requested replied topics, ServesRequests name type endpoint) ↔
      ∃ s ∈ requested, s.native = false ∧ s.name = name ∧ s.type.listedName = type := by
  constructor
  · rintro ⟨endpoint, hendpoint, hserves⟩
    rcases hendpoint with ⟨s, hs, rfl⟩ | ⟨s, -, rfl⟩ | ⟨use, huse, rfl⟩
    · obtain ⟨⟨hnative, hname⟩, htype⟩ := (s.servesRequests_request ..).mp hserves
      exact ⟨s, hs, hnative, hname, htype⟩
    · exact (s.not_servesRequests_reply _ _ _ hserves).elim
    · exact ((htopics use huse).not_isPrefix.1 hserves.front_isPrefix).elim
  · rintro ⟨s, hs, hnative, hname, htype⟩
    exact ⟨_, .inl ⟨s, hs, rfl⟩, (s.servesRequests_request ..).mpr ⟨⟨hnative, hname⟩, htype⟩⟩

/-- Both messages of a service tell its type. -/
theorem listedName_response (service : NamespacedType) :
    demangleDdsServiceType (ddsTypeName service.response) = service.listedName := by
  obtain ⟨hrequest, hresponse⟩ := demangleDdsServiceType_ddsTypeName service
  rw [hresponse, NamespacedType.listedName, hrequest]

/-- The replies among the endpoints are those of services. -/
theorem exists_servesReplies {requested replied : List ServiceUse} {topics : List TopicUse}
    (htopics : ∀ use ∈ topics, use.Ordinary) (name type : Name) :
    (∃ endpoint ∈ endpoints requested replied topics, ServesReplies name type endpoint) ↔
      ∃ s ∈ replied, s.native = false ∧ s.name = name ∧ s.type.listedName = type := by
  constructor
  · rintro ⟨endpoint, hendpoint, hserves⟩
    rcases hendpoint with ⟨s, -, rfl⟩ | ⟨s, hs, rfl⟩ | ⟨use, huse, rfl⟩
    · exact (s.not_servesReplies_request _ _ _ hserves).elim
    · obtain ⟨⟨hnative, hname⟩, htype⟩ := (s.servesReplies_reply ..).mp hserves
      rw [listedName_response] at htype
      exact ⟨s, hs, hnative, hname, htype⟩
    · exact ((htopics use huse).not_isPrefix.2 hserves.front_isPrefix).elim
  · rintro ⟨s, hs, hnative, hname, htype⟩
    refine ⟨_, .inr (.inl ⟨s, hs, rfl⟩), (s.servesReplies_reply ..).mpr ⟨⟨hnative, hname⟩, ?_⟩⟩
    rw [listedName_response, htype]

/-- What a node holds is what has both requests and replies. -/
theorem paired_iff_held {held : Holdings}
    (hordinary : ∀ use ∈ held.publishers ++ held.subscriptions, use.Ordinary) (clients : Bool)
    (name type : Name) :
    (name ≠ [] ∧
      (∃ endpoint ∈ if clients then held.writers else held.readers,
        ServesRequests name type endpoint) ∧
      ∃ endpoint ∈ if clients then held.readers else held.writers,
        ServesReplies name type endpoint) ↔
      ∃ s ∈ if clients then held.clients else held.services,
        s.native = false ∧ s.name = name ∧ s.type.listedName = type := by
  have hpublishers : ∀ use ∈ held.publishers, use.Ordinary :=
    fun use huse => hordinary use (List.mem_append_left _ huse)
  have hsubscriptions : ∀ use ∈ held.subscriptions, use.Ordinary :=
    fun use huse => hordinary use (List.mem_append_right _ huse)
  have hnamed : ∀ s : ServiceUse,
      s.native = false ∧ s.name = name ∧ s.type.listedName = type → name ≠ [] := by
    rintro s ⟨-, rfl, -⟩
    exact s.name_ne_nil
  cases clients with
  | false =>
      simp only [Bool.false_eq_true, if_false, Holdings.readers, Holdings.writers,
        exists_servesRequests hsubscriptions, exists_servesReplies hpublishers, and_self]
      exact and_iff_right_of_imp fun ⟨s, _, hs⟩ => hnamed s hs
  | true =>
      simp only [if_true, Holdings.readers, Holdings.writers,
        exists_servesRequests hpublishers, exists_servesReplies hsubscriptions, and_self]
      exact and_iff_right_of_imp fun ⟨s, _, hs⟩ => hnamed s hs

/-- The listings of a node show its services and its clients, of those that follow the
naming of ROS, and nothing that has requests or replies only. -/
theorem service_listing_exact (graphCache : NodeQueries) (nodeName nodeNamespace : Name)
    (clients : Bool) (readers writers : Set (Name × Name))
    (h : graphCache.Reports nodeName nodeNamespace readers writers) :
    ∃ listing, getServiceNamesAndTypesFromCache graphCache true nodeName nodeNamespace clients =
        (.ok, listing) ∧
      (∀ held : Holdings, held.readers = readers → held.writers = writers →
        (∀ use ∈ held.publishers ++ held.subscriptions, use.Ordinary) →
        ∀ name type, listing.Lists name type ↔
          ∃ s ∈ if clients then held.clients else held.services,
            s.native = false ∧ s.name = name ∧ s.type.listedName = type) ∧
      (∀ entry ∈ listing, entry.2 ≠ []) ∧
      ∀ name type, listing.Lists name type →
        (∃ endpoint ∈ if clients then writers else readers, ServesRequests name type endpoint) ∧
        ∃ endpoint ∈ if clients then readers else writers, ServesReplies name type endpoint := by
  obtain ⟨listing, hlisting, hne, hlists⟩ := lists_iff h clients
  refine ⟨listing, hlisting, ?_, hne, fun name type hname => ((hlists name type).mp hname).2⟩
  rintro held rfl rfl hordinary name type
  rw [hlists, paired_iff_held hordinary]

/-! ## Names of other conventions -/

/-- The endpoints in a list. -/
def endpointList (requested replied : List ServiceUse) (topics : List TopicUse) :
    List (Name × Name) :=
  requested.map (fun s => (s.request, ddsTypeName s.type.request)) ++
    (replied.map (fun s => (s.reply, ddsTypeName s.type.response)) ++
      topics.map (fun use => (use.ddsTopic, use.ddsType)))

/-- The answer of the graph cache about some endpoints. -/
def answer (pairs : List (Name × Name)) (demangleTopic demangleType : Name → Name) :
    RmwNamesAndTypes :=
  pairs.map fun endpoint => (demangleTopic endpoint.1, [demangleType endpoint.2])

/-- A graph cache that knows one node. -/
def Holdings.graphCache (held : Holdings) : NodeQueries where
  getReaderNamesAndTypesByNode _ _ demangleTopic demangleType := (.ok,
    answer (endpointList held.services held.clients held.subscriptions) demangleTopic demangleType)
  getWriterNamesAndTypesByNode _ _ demangleTopic demangleType := (.ok,
    answer (endpointList held.clients held.services held.publishers) demangleTopic demangleType)

theorem lists_answer (pairs : List (Name × Name)) (topic type : Name) :
    (answer pairs identityName identityName).Lists topic type ↔ (topic, type) ∈ pairs := by
  constructor
  · rintro ⟨types, hentry, htype⟩
    obtain ⟨endpoint, hendpoint, heq⟩ := List.mem_map.mp hentry
    cases heq
    rw [List.mem_singleton.mp htype]
    exact hendpoint
  · intro hendpoint
    exact ⟨_, List.mem_map_of_mem hendpoint, List.mem_singleton_self _⟩

theorem mem_endpointList (requested replied : List ServiceUse) (topics : List TopicUse)
    (endpoint : Name × Name) : endpoint ∈ endpointList requested replied topics ↔
      endpoint ∈ endpoints requested replied topics := by
  simp only [endpointList, endpoints, List.mem_append, List.mem_map, Set.mem_ofPred_eq,
    eq_comm (a := endpoint)]

theorem Holdings.reports (held : Holdings) (nodeName nodeNamespace : Name) :
    held.graphCache.Reports nodeName nodeNamespace held.readers held.writers where
  readers := ⟨_, rfl, fun topic type =>
    (lists_answer _ topic type).trans (mem_endpointList ..)⟩
  writers := ⟨_, rfl, fun topic type =>
    (lists_answer _ topic type).trans (mem_endpointList ..)⟩

/-- The listing shows all that is held. -/
def Holdings.ListsExactly (held : Holdings) (clients : Bool) : Prop :=
  ∀ graphCache nodeName nodeNamespace,
    NodeQueries.Reports graphCache nodeName nodeNamespace held.readers held.writers →
    ∃ listing, getServiceNamesAndTypesFromCache graphCache true nodeName nodeNamespace clients =
        (.ok, listing) ∧
      ∀ name type, listing.Lists name type ↔
        ∃ s ∈ if clients then held.clients else held.services,
          s.name = name ∧ s.type.listedName = type

/-- What an exact listing shows has both requests and replies. -/
theorem Holdings.ListsExactly.paired_iff {held : Holdings} {clients : Bool}
    (h : held.ListsExactly clients) (name type : Name) :
    (∃ s ∈ if clients then held.clients else held.services,
      s.name = name ∧ s.type.listedName = type) ↔ name ≠ [] ∧
      (∃ endpoint ∈ if clients then held.writers else held.readers,
        ServesRequests name type endpoint) ∧
      ∃ endpoint ∈ if clients then held.readers else held.writers,
        ServesReplies name type endpoint := by
  obtain ⟨listing, hlisting, hexact⟩ := h held.graphCache [] [] (held.reports [] [])
  obtain ⟨listing', hlisting', -, hlists⟩ := lists_iff (held.reports [] []) clients
  rw [hlisting] at hlisting'
  obtain rfl := (Prod.mk.inj hlisting').2
  rw [← hexact, hlists]

/-- A service and its name without the conventions of ROS. -/
def nativeAdd : ServiceUse where
  name := "/add".toList
  type := aSendGoal
  native := true
  request := "/rq/addRequest".toList
  reply := "/rr/addReply".toList
  topics := ⟨"/rq/addRequest".toList, "/rr/addReply".toList, by decide, by decide, by decide⟩

/-- The same service with the conventions of ROS. -/
def rosAdd : ServiceUse where
  name := "/add".toList
  type := aSendGoal
  native := false
  request := "rt/rq/addRequest".toList
  reply := "rt/rr/addReply".toList
  topics := ⟨"/rq/addRequest".toList, "/rr/addReply".toList, by decide, by decide, by decide⟩

/-- A topic of another convention with the name of a DDS topic. -/
def nativeTopic (name ddsType : Name) (hfits : ddsTopicName name true = some name) : TopicUse where
  topic := name
  native := true
  ddsTopic := name
  ddsType := ddsType
  named := hfits

/-- A service without the naming of ROS is not listed, and topics without it that
have the names of the topics of a service are. -/
theorem native_service_not_listed :
    (¬ ∀ (held : Holdings) (clients : Bool), held.publishers = [] → held.subscriptions = [] →
      held.ListsExactly clients) ∧
    ¬ ∀ (held : Holdings) (clients : Bool), held.services = [] → held.clients = [] →
      (∀ use ∈ held.publishers ++ held.subscriptions, ¬ HasServicePrefix use.topic) →
      held.ListsExactly clients := by
  constructor
  · intro h
    have hexact := h ⟨[nativeAdd], [], [], []⟩ false rfl rfl
    have hadd := (hexact.paired_iff _ _).mp ⟨nativeAdd, List.mem_cons_self, rfl, rfl⟩
    have hordinary : ∀ use ∈ ([] : List TopicUse) ++ [], use.Ordinary := fun _ huse => nomatch huse
    obtain ⟨s, hs, hnative, -⟩ := (paired_iff_held hordinary false _ _).mp hadd
    rw [List.mem_singleton.mp hs] at hnative
    cases hnative
  · intro h
    have hexact := h
      ⟨[], [], [nativeTopic rosAdd.reply (ddsTypeName aSendGoal.response) (by decide)],
        [nativeTopic rosAdd.request (ddsTypeName aSendGoal.request) (by decide)]⟩ false rfl rfl
      (by decide)
    have hrequests : ServesRequests rosAdd.name aSendGoal.listedName
        (rosAdd.request, ddsTypeName aSendGoal.request) :=
      (rosAdd.servesRequests_request ..).mpr ⟨⟨rfl, rfl⟩, rfl⟩
    have hreplies : ServesReplies rosAdd.name aSendGoal.listedName
        (rosAdd.reply, ddsTypeName aSendGoal.response) :=
      (rosAdd.servesReplies_reply ..).mpr ⟨⟨rfl, rfl⟩, listedName_response aSendGoal⟩
    obtain ⟨s, hs, -⟩ := (hexact.paired_iff rosAdd.name aSendGoal.listedName).mpr
      ⟨rosAdd.name_ne_nil, ⟨_, .inr (.inr ⟨_, List.mem_cons_self, rfl⟩), hrequests⟩,
        ⟨_, .inr (.inr ⟨_, List.mem_cons_self, rfl⟩), hreplies⟩⟩
    cases hs

/-- A node with a service and a client of the same name. -/
def addNode : Holdings where
  services := [rosAdd]
  clients := [rosAdd]
  publishers := []
  subscriptions := []

/-- Its services are listed. -/
theorem add_listing_exact :
    ∃ listing, getServiceNamesAndTypesFromCache addNode.graphCache true [] [] false =
        (.ok, listing) ∧
      ∀ name type, listing.Lists name type ↔ ∃ s ∈ addNode.services,
        s.native = false ∧ s.name = name ∧ s.type.listedName = type := by
  obtain ⟨listing, hlisting, hlists, -⟩ := service_listing_exact addNode.graphCache [] [] false
    addNode.readers addNode.writers (addNode.reports [] [])
  exact ⟨listing, hlisting, hlists addNode rfl rfl fun _ huse => nomatch huse⟩

end RmwZzdds.Graph
