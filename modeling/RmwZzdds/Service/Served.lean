import RmwZzdds.DataPlane.Publish
import RmwZzdds.Service.Correlation

/-!
# Calls of a typed service

The clients and servers of a service have generated type supports, each one in its
own language.

A request id leads from a response that a client takes back to the one call that it
answers.  `Remembered` follows the messages on the way: a written request is that of
a call, and a server has an id only from a take that it has made.  With the round
trip of the generated code this makes a service a procedure call: the server has
received the value that the client has sent, and the client receives the value that
the server has answered with (`served`).
-/

namespace RmwZzdds.Service

open Codec (Language Members ZidlCdr)
open DataPlane.Publishing (PublisherCallbacks octetSupports readable)

/-! ## Histories of messages -/

section

variable {Client Server Request Response : Type*}

namespace State

/-- A call of a client that has a sequence number. -/
def Sent (s : State Client Server Request Response) (call : CallId) (client : Client)
    (request : Request) (sequence : Int64) : Prop :=
  ∃ stage, s.sends call = some ⟨client, request, stage⟩ ∧ stage.sequence = some sequence

theorem Sent.sequenceOf {s : State Client Server Request Response} {call : CallId}
    {client : Client} {request : Request} {sequence : Int64}
    (h : s.Sent call client request sequence) : s.sequenceOf call = some (client, sequence) := by
  obtain ⟨stage, hcall, hsequence⟩ := h
  simp [State.sequenceOf, hcall, hsequence]

end State

/-- A message that was sent as another one was received. -/
def Carried {M : Type*} (callbacks : Callbacks M) (readerInit : List UInt8 → Bool)
    (sent old received : M) : Prop :=
  ∃ payload, callbacks.Encodes sent payload ∧ callbacks.Decodes readerInit payload old received

variable (d : Deployment Client Request Response)

/-- A take of a server that has returned a request. -/
def Received (s : State Client Server Request Response) (server : Server) (id : RequestId)
    (t : Take Server Request) (r : TakeResult Request) : Prop :=
  (∃ call, s.requests.takes call = some t) ∧ t.owner = server ∧ d.takeRequest t = some r ∧
    r.taken = some true ∧ r.info.requestId = id

/-- Written requests are those of calls, and the ids of a server are those of its
takes. -/
structure Remembered (s : State Client Server Request Response) : Prop where
  requested : ∀ wire ∈ s.requests.written, ∃ call client request sequence payload,
    s.Sent call client request sequence ∧ wire = frame ⟨d.guid client, sequence⟩ payload ∧
      d.typesupport.request.Encodes request payload
  obtained : ∀ server, ∀ id ∈ s.obtained server, ∃ t r, Received d s server id t r

/-- What a step does to the histories of requests. -/
structure RequestStep (s s' : State Client Server Request Response) : Prop where
  sent : ∀ call client request sequence, s.Sent call client request sequence →
    s'.Sent call client request sequence
  takes : ∀ call t, s.requests.takes call = some t → (d.takeRequest t).isSome = true →
    s'.requests.takes call = some t
  written : ∀ wire ∈ s'.requests.written, wire ∈ s.requests.written ∨
    ∃ call client request sequence payload, s'.Sent call client request sequence ∧
      wire = frame ⟨d.guid client, sequence⟩ payload ∧
      d.typesupport.request.Encodes request payload
  obtained : ∀ server, ∀ id ∈ s'.obtained server, id ∈ s.obtained server ∨
    ∃ t r, Received d s' server id t r

variable {d} {s s' : State Client Server Request Response}

/-- A call keeps its client, its request and its number. -/
theorem State.Sent.update {call : CallId} {send : Send Client Request}
    (hsends : s'.sends = Function.update s.sends call (some send))
    (hkeeps : ∀ old sequence, s.sends call = some old → old.stage.sequence = some sequence →
      old.client = send.client ∧ old.request = send.request ∧ send.stage.sequence = some sequence)
    {call' : CallId} {client : Client} {request : Request} {sequence : Int64}
    (h : s.Sent call' client request sequence) : s'.Sent call' client request sequence := by
  obtain ⟨stage, hcall, hsequence⟩ := h
  by_cases hsame : call' = call
  · subst hsame
    obtain ⟨rfl, rfl, hstage⟩ := hkeeps _ sequence hcall hsequence
    exact ⟨send.stage, by rw [hsends, Function.update_self], hstage⟩
  · exact ⟨stage, by rw [hsends, Function.update_of_ne hsame, hcall], hsequence⟩

/-- A step of a call, which may write its request. -/
theorem RequestStep.call {call : CallId} {send : Send Client Request}
    (hsends : s'.sends = Function.update s.sends call (some send))
    (hkeeps : ∀ old sequence, s.sends call = some old → old.stage.sequence = some sequence →
      old.client = send.client ∧ old.request = send.request ∧ send.stage.sequence = some sequence)
    (htakes : s'.requests.takes = s.requests.takes) (hobtained : s'.obtained = s.obtained)
    (hwritten : ∀ wire ∈ s'.requests.written, wire ∈ s.requests.written ∨
      ∃ sequence payload, send.stage.sequence = some sequence ∧
        wire = frame ⟨d.guid send.client, sequence⟩ payload ∧
        d.typesupport.request.Encodes send.request payload) : RequestStep d s s' where
  sent _ _ _ _ hsent := hsent.update hsends hkeeps
  takes _ _ ht _ := htakes ▸ ht
  written wire hwire := by
    obtain hold | ⟨sequence, payload, hsequence, hframe, hencodes⟩ := hwritten wire hwire
    · exact .inl hold
    · have hsent : s'.Sent call send.client send.request sequence :=
        ⟨send.stage, by rw [hsends, Function.update_self], hsequence⟩
      exact .inr ⟨call, send.client, send.request, sequence, payload, hsent, hframe, hencodes⟩
  obtained server id hid := .inl (hobtained ▸ hid)

/-- A step that touches the request topic only. -/
theorem RequestStep.topic (hsends : s'.sends = s.sends)
    (hwritten : s'.requests.written = s.requests.written)
    (htakes : ∀ call t, s.requests.takes call = some t → (d.takeRequest t).isSome = true →
      s'.requests.takes call = some t)
    (hobtained : ∀ server, ∀ id ∈ s'.obtained server, id ∈ s.obtained server ∨
      ∃ t r, Received d s' server id t r) : RequestStep d s s' where
  sent call client request sequence hsent := by
    obtain ⟨stage, hcall, hsequence⟩ := hsent
    exact ⟨stage, hsends ▸ hcall, hsequence⟩
  takes := htakes
  written wire hwire := .inl (hwritten ▸ hwire)
  obtained := hobtained

/-- A step that touches neither. -/
theorem RequestStep.idle (hsends : s'.sends = s.sends) (hrequests : s'.requests = s.requests)
    (hobtained : s'.obtained = s.obtained) : RequestStep d s s' :=
  .topic hsends (congrArg _ hrequests) (fun _ _ ht _ => hrequests ▸ ht) fun _ _ hid =>
    .inl (hobtained ▸ hid)

theorem mem_obtainedBy {t : Take Server Request} {id : RequestId} (h : id ∈ d.obtainedBy t) :
    ∃ r, d.takeRequest t = some r ∧ r.taken = some true ∧ r.info.requestId = id := by
  simp only [Deployment.obtainedBy] at h
  split at h
  next r hr =>
    split at h
    next htaken =>
      obtain rfl := List.mem_singleton.mp h
      exact ⟨r, hr, htaken, rfl⟩
    next => cases h
  next => cases h

variable [DecidableEq Client] [DecidableEq Server] {a : Action Client Server Request Response}

theorem requestStep_of_next [Rcutils] (h : d.next s a = some s') : RequestStep d s s' := by
  cases a with
  | beginSend call client request gid =>
      simp only [Deployment.next] at h
      split at h
      · cases h
      next hcall =>
        split at h <;> cases h
        · refine .call rfl ?_ rfl rfl fun _ hwire => .inl hwire
          intro old sequence hold
          rw [hcall] at hold
          cases hold
        · exact .idle rfl rfl rfl
  | fetchSequence call =>
      simp only [Deployment.next] at h
      split at h
      next client request hcall =>
        cases h
        refine .call rfl ?_ rfl rfl fun _ hwire => .inl hwire
        -- a call that fetches has no number yet
        intro old sequence hold hsequence
        rw [hcall] at hold
        cases hold
        cases hsequence
      next => cases h
  | publishRequest call o =>
      simp only [Deployment.next] at h
      split at h
      next client request sequence hcall =>
        rcases hpublish : publishServiceMessage d.typesupport.request request
          ⟨d.guid client, sequence⟩ o with ⟨ret, written⟩
        rw [hpublish] at h
        cases h
        refine .call rfl ?_ rfl rfl ?_
        · intro old sequence' hold hsequence
          rw [hcall] at hold
          cases hold
          exact ⟨rfl, rfl, hsequence⟩
        · intro wire hwire
          obtain hold | hnew := List.mem_append.mp hwire
          · exact .inl hold
          · obtain rfl := Option.mem_toList.mp hnew
            obtain ⟨payload, hframe, hencodes⟩ := publishServiceMessage_written hpublish
            exact .inr ⟨sequence, payload, rfl, hframe, hencodes⟩
      next => cases h
  | deliverRequest server index =>
      obtain ⟨topic, htopic, rfl⟩ := Option.map_eq_some_iff.mp h
      have htakes : topic.takes = s.requests.takes := by
        obtain ⟨wire, -, rfl⟩ := Option.map_eq_some_iff.mp htopic
        rfl
      exact .topic rfl (Topic.written_of_deliver htopic) (fun _ _ ht _ => htakes ▸ ht)
        fun _ _ hid => .inl hid
  | beginTakeRequest call server info request init =>
      obtain ⟨topic, htopic, rfl⟩ := Option.map_eq_some_iff.mp h
      refine .topic rfl (Topic.written_of_beginTake htopic) ?_ fun _ _ hid => .inl hid
      intro call' t ht _
      simp only [Topic.beginTake] at htopic
      split at htopic
      · cases htopic
      next hcall =>
        cases htopic
        have hne : call' ≠ call := by
          rintro rfl
          rw [hcall] at ht
          cases ht
        show Function.update s.requests.takes call _ call' = some t
        rw [Function.update_of_ne hne, ht]
  | passRequest call event =>
      obtain ⟨⟨t, topic⟩, htopic, rfl⟩ := Option.map_eq_some_iff.mp h
      refine .topic rfl (Topic.written_of_pass htopic) ?_ ?_
      · obtain ⟨old, _, _, hold, hresult, -, -, rfl⟩ := Topic.pass_eq_some htopic
        intro call' t' ht' hreturned
        -- a take that has returned makes no further pass
        have hne : call' ≠ call := by
          rintro rfl
          obtain rfl := Option.some.inj (ht'.symm.trans hold)
          rw [hresult] at hreturned
          cases hreturned
        show Function.update s.requests.takes call _ call' = some t'
        rw [Function.update_of_ne hne, ht']
      · intro server id hid
        obtain ⟨rfl, hmem⟩ | ⟨-, hold⟩ := Table.mem_update hid
        · obtain hold | hnew := List.mem_append.mp hmem
          · exact .inl hold
          · obtain ⟨r, hr, htaken, rfl⟩ := mem_obtainedBy hnew
            exact .inr ⟨t, r, ⟨call, Topic.takes_of_pass htopic⟩, rfl, hr, htaken, rfl⟩
        · exact .inl hold
  | sendResponse server requestId response o =>
      simp only [Deployment.next, Option.ite_none_right_eq_some] at h
      obtain ⟨-, h⟩ := h
      cases h
      exact .idle rfl rfl rfl
  | beginTakeResponse call client info response gid init =>
      simp only [Deployment.next] at h
      split at h
      · obtain ⟨_, -, rfl⟩ := Option.map_eq_some_iff.mp h
        exact .idle rfl rfl rfl
      · cases h
        exact .idle rfl rfl rfl
  | deliverResponse client index | passResponse call event =>
      obtain ⟨_, -, rfl⟩ := Option.map_eq_some_iff.mp h
      exact .idle rfl rfl rfl

omit [DecidableEq Client] [DecidableEq Server] in
theorem Remembered.step (hs : Remembered d s) (h : RequestStep d s s') : Remembered d s' where
  requested wire hwire := by
    obtain hold | hnew := h.written wire hwire
    · obtain ⟨call, client, request, sequence, payload, hsent, hframe, hencodes⟩ :=
        hs.requested wire hold
      have hsent := h.sent call client request sequence hsent
      exact ⟨call, client, request, sequence, payload, hsent, hframe, hencodes⟩
    · exact hnew
  obtained server id hid := by
    obtain hold | hnew := h.obtained server id hid
    · obtain ⟨t, r, ⟨call, htake⟩, howner, hr, htaken, hsame⟩ := hs.obtained server id hold
      have htake := h.takes call t htake (by rw [hr]; rfl)
      exact ⟨t, r, ⟨call, htake⟩, howner, hr, htaken, hsame⟩
    · exact hnew

theorem remembered_reachable [Rcutils] (h : d.system.Reachable s) : Remembered d s := by
  refine h.invariant (I := Remembered d) ?_ ?_
  · rintro s rfl
    exact ⟨fun _ hwire => absurd hwire List.not_mem_nil, fun _ _ hid => absurd hid List.not_mem_nil⟩
  · exact fun s a s' hs hstep => hs.step (requestStep_of_next hstep)

omit [DecidableEq Client] [DecidableEq Server] in
/-- A server has received what the call with the id has sent. -/
theorem Remembered.carried (hs : Remembered d s) (hgenuine : s.requests.Genuine) {server : Server}
    {id : RequestId} {t : Take Server Request} {r : TakeResult Request}
    (h : Received d s server id t r) :
    ∃ call client request, s.Sent call client request id.sequenceNumber ∧
      d.guid client = id.writerGuid ∧
      Carried d.typesupport.request d.readerInit request t.message r.message := by
  obtain ⟨⟨call, htake⟩, -, hr, htaken, rfl⟩ := h
  obtain ⟨o, ho, hpass⟩ := takeServiceMessage_taken hr htaken
  obtain ⟨wire, hwire, hlt, hhead, -, hdecodes⟩ := takePass_taken hpass htaken
  obtain ⟨call', client, request, sequence, payload, hsent, rfl, hencodes⟩ :=
    hs.requested wire (hgenuine.takes call t htake o ho wire hwire)
  rw [requestIdOf_frame] at hhead
  rw [payloadOf_frame] at hdecodes
  rw [hhead]
  exact ⟨call', client, request, hsent, rfl, payload, hencodes, hdecodes⟩

/-- A response that a client takes, the call that it answers, and the request and
the response on the server's side. -/
structure Served (d : Deployment Client Request Response)
    (s : State Client Server Request Response) (t : Take Client Response)
    (r : TakeResult Response) (call : CallId) (request : Request) (server : Server)
    (t' : Take Server Request) (r' : TakeResult Request) (response : Response) : Prop where
  sent : s.Sent call t.owner request r.info.requestId.sequenceNumber
  /-- No other call of the client has the number. -/
  only : ∀ call', s.sequenceOf call' = some (t.owner, r.info.requestId.sequenceNumber) →
    call' = call
  received : Received d s server r.info.requestId t' r'
  request : Carried d.typesupport.request d.readerInit request t'.message r'.message
  answered : (server, r.info.requestId, response) ∈ s.answered
  response : Carried d.typesupport.response d.readerInit response t.message r.message

/-- Every response that a client takes has gone all the way. -/
theorem exists_served [Rcutils] (h : (d.system.restrict FewRequests).Reachable s) {call : CallId}
    {t : Take Client Response} {r : TakeResult Response} (ht : s.responses.takes call = some t)
    (hr : d.takeResponse t = some r) (htaken : r.taken = some true) :
    ∃ call request server t' r' response,
      Served d s t r call request server t' r' response := by
  have hnumbered := numbered_reachable h
  have htraced := traced_reachable h.of_restrict
  have hremembered := remembered_reachable h.of_restrict
  obtain ⟨hown, -, server, response, payload, hanswered, hencodes, hdecodes⟩ :=
    htraced.answers ht hr htaken
  obtain ⟨t', r', hreceived⟩ :=
    hremembered.obtained server _ (htraced.answered server _ response hanswered)
  obtain ⟨call', client, request, hsent, hclient, hcarried⟩ :=
    hremembered.carried htraced.requests hreceived
  obtain rfl : client = t.owner := d.guid_injective (hclient.trans hown)
  refine ⟨call', request, server, t', r', response, hsent, ?_, hreceived, hcarried, hanswered,
    payload, hencodes, hdecodes⟩
  exact fun call'' hcall'' => hnumbered.unique call'' call' _ _ hcall'' hsent.sequenceOf

end

/-! ## Typed messages -/

section

variable {z : ZidlCdr} {members : Members}

/-- A message in one of the two languages. -/
structure AnyMessage (members : Members) where
  language : Language
  message : language.Message members

def AnyMessage.value (m : AnyMessage members) : members.Value := m.language.value members m.message

/-- The generated type supports of a message.  Each message goes to that of its
language. -/
def anyCallbacks (support : (language : Language) → PublisherCallbacks z language members) :
    Callbacks (AnyMessage members) where
  hasKey := members.hasKey
  getSerializedSize m := (support m.language).getSerializedSize m.message
  serialize m capacity := (support m.language).serialize m.message capacity
  deserialize bytes m :=
    let (success, message) := (support m.language).deserialize bytes m.message
    (success, ⟨m.language, message⟩)

/-- What is carried keeps its value, between any two languages. -/
theorem Carried.value_eq (hz : z.Lawful)
    {support : (language : Language) → PublisherCallbacks z language members}
    {sent old received : AnyMessage members}
    (h : Carried (anyCallbacks support) (readable z) sent old received) :
    received.value = sent.value := by
  obtain ⟨payload, ⟨hserialize, -⟩, -, hdeserialize⟩ := h
  have hencodes := (support sent.language).encodes_of_serialize hserialize
  obtain ⟨-, hreads⟩ := hencodes.reads hz (support old.language).toTypeSupport
  obtain ⟨-, hvalue⟩ := hreads old.message
  obtain ⟨-, rfl⟩ := Prod.mk.inj hdeserialize
  exact hvalue

variable {Client Server : Type*} {requestMembers responseMembers : Members}

/-- Clients and servers with generated type supports. -/
def typed (guid : Client → Guid) (hguid : Function.Injective guid)
    (request : (language : Language) → PublisherCallbacks z language requestMembers)
    (response : (language : Language) → PublisherCallbacks z language responseMembers) :
    Deployment Client (AnyMessage requestMembers) (AnyMessage responseMembers) where
  guid := guid
  guid_injective := hguid
  typesupport := ⟨anyCallbacks request, anyCallbacks response⟩
  readerInit := readable z

variable [DecidableEq Client] [DecidableEq Server] {guid : Client → Guid}
  {hguid : Function.Injective guid}
  {request : (language : Language) → PublisherCallbacks z language requestMembers}
  {response : (language : Language) → PublisherCallbacks z language responseMembers}
  {s : State Client Server (AnyMessage requestMembers) (AnyMessage responseMembers)}

/-- A response that a client takes belongs to exactly one of its calls.  A server has
received the value of the request of this call under its id, and the value of the
response is what the server has answered the id with. -/
theorem served [Rcutils] (hz : z.Lawful)
    (h : ((typed guid hguid request response).system.restrict FewRequests).Reachable s)
    {call : CallId} {t : Take Client (AnyMessage responseMembers)}
    {r : TakeResult (AnyMessage responseMembers)} (ht : s.responses.takes call = some t)
    (hr : (typed guid hguid request response).takeResponse t = some r)
    (htaken : r.taken = some true) :
    ∃ call sent server t' r' answer,
      Served (typed guid hguid request response) s t r call sent server t' r' answer ∧
        r'.message.value = sent.value ∧ r.message.value = answer.value := by
  obtain ⟨call', sent, server, t', r', answer, hserved⟩ := exists_served h ht hr htaken
  exact ⟨call', sent, server, t', r', answer, hserved, hserved.request.value_eq hz,
    hserved.response.value_eq hz⟩

end

/-! ## A client in C and a server in C++ -/

attribute [local instance] Rcutils.documented

/-- Two clients and a server of a service of octets. -/
def octetService :
    Deployment Bool (AnyMessage DataPlane.octetRecord) (AnyMessage DataPlane.octetRecord) :=
  typed twoClients.guid twoClients.guid_injective octetSupports octetSupports

/-- The second client sends an octet in C, the server takes it in C++ and answers
with another one. -/
def answeredInCpp : List (Action Bool Unit (AnyMessage DataPlane.octetRecord)
    (AnyMessage DataPlane.octetRecord)) :=
  let published : PublishOutcome := ⟨.ok, some [0, 0, 0, 0, 0], .ok, true⟩
  let info : ServiceInfo := ⟨0, 0, ⟨twoClients.guid false, 0⟩⟩
  let inC (octet : UInt8) : AnyMessage DataPlane.octetRecord := ⟨.c, octet⟩
  let inCpp (octet : UInt8) : AnyMessage DataPlane.octetRecord := ⟨.cpp, octet⟩
  [.beginSend 0 true (inC 7) true, .fetchSequence 0, .publishRequest 0 published,
    .deliverRequest () 0, .beginTakeRequest 0 () info (inCpp 0) .ok, .passRequest 0 (.sample ⟨0, 0⟩),
    .sendResponse () ⟨twoClients.guid true, 1⟩ (inCpp 17) published,
    .deliverResponse true 0, .beginTakeResponse 0 true info (inC 0) true .ok,
    .passResponse 0 (.sample ⟨0, 0⟩)]

/-- What the second client's take has returned. -/
def octetTaken (s : State Bool Unit (AnyMessage DataPlane.octetRecord)
    (AnyMessage DataPlane.octetRecord)) : Option (Option Bool × UInt8) :=
  (s.responses.takes 0).bind fun t => (octetService.takeResponse t).map fun r =>
    (r.taken, r.message.value)

/-- The client receives the octet that the server has answered with. -/
theorem served_octet :
    ∃ (s : State Bool Unit (AnyMessage DataPlane.octetRecord) (AnyMessage DataPlane.octetRecord))
      (t : Take Bool (AnyMessage DataPlane.octetRecord))
      (r : TakeResult (AnyMessage DataPlane.octetRecord)),
      octetService.takeResponse t = some r ∧ r.message.value = (17 : UInt8) ∧
        ∃ call sent server t' r' answer, Served octetService s t r call sent server t' r' answer ∧
          r'.message.value = sent.value ∧ r.message.value = answer.value := by
  have hexec : (Transition.exec (Transition.filterNext FewRequests octetService.next)
      State.start answeredInCpp).map octetTaken = some (some (some true, 17)) := by
    decide +kernel
  obtain ⟨s, hs, htaken⟩ := Transition.exists_reachable_of_exec _ _ _ hexec
  have hreach := Transition.reachable_restrict_of_filterNext hs
  simp only [octetTaken, Option.bind_eq_some_iff, Option.map_eq_some_iff] at htaken
  obtain ⟨t, ht, r, hr, hboth⟩ := htaken
  obtain ⟨htaken, hmessage⟩ := Prod.mk.inj hboth
  exact ⟨s, t, r, hr, hmessage, served Codec.xcdr1_lawful hreach ht hr htaken⟩

end RmwZzdds.Service
