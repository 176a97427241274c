import RmwZzdds.Service.Interleaving

/-!
# Request and response correlation

Every client counts its requests from one, and every response reaches every
client.  So a response is told apart by the client's GUID in its head and by a
sequence number that no two requests of one client share.

`Numbered` is the invariant of the sequence numbers, which needs that no client
sends `2 ^ 63` requests.  `Traced` follows a request id from the request that
carried it to the server and back: written requests carry ids in use, servers
obtain such ids only, and written responses are answers to obtained ids.
-/

namespace RmwZzdds.Service

variable {Client Server Request Response : Type*}

namespace State

variable {s : State Client Server Request Response}

theorem sequenceOf_withSend (call : CallId) (send : Send Client Request) :
    (s.withSend call send).sequenceOf =
      Function.update s.sequenceOf call
        (send.stage.sequence.map fun sequence => (send.client, sequence)) := by
  funext call'
  by_cases hcall : call' = call
  · subst hcall
    simp [sequenceOf, withSend]
  · simp [sequenceOf, withSend, Function.update_of_ne hcall]

/-- A send that keeps its number changes no number. -/
theorem sequenceOf_withSend_of_eq {call : CallId} {send : Send Client Request}
    (h : (send.stage.sequence.map fun sequence => (send.client, sequence)) =
      s.sequenceOf call) :
    (s.withSend call send).sequenceOf = s.sequenceOf := by
  rw [sequenceOf_withSend, h, Function.update_eq_self]

end State

/-! ## Sequence numbers -/

/-- No client gets to its request number `2 ^ 63`. -/
def FewRequests (s : State Client Server Request Response) :
    Action Client Server Request Response → Prop
  | .fetchSequence call => ∀ send ∈ s.sends call, s.fetched send.client + 1 < 2 ^ 63
  | _ => True

instance (s : State Client Server Request Response) :
    (a : Action Client Server Request Response) → Decidable (FewRequests s a)
  | .fetchSequence call =>
      inferInstanceAs (Decidable (∀ send ∈ s.sends call, s.fetched send.client + 1 < 2 ^ 63))
  | .beginSend .. | .publishRequest .. | .deliverRequest .. | .beginTakeRequest .. |
    .passRequest .. | .sendResponse .. | .deliverResponse .. | .beginTakeResponse .. |
    .passResponse .. => inferInstanceAs (Decidable True)

section

variable [DecidableEq Client] [DecidableEq Server] {d : Deployment Client Request Response}
  {s s' : State Client Server Request Response} {a : Action Client Server Request Response}

/-- What one step does to the sequence numbers. -/
inductive NumberStep (s : State Client Server Request Response) :
    Action Client Server Request Response → State Client Server Request Response → Prop where
  | idle {a : Action Client Server Request Response}
      {s' : State Client Server Request Response} :
      s'.nextSequence = s.nextSequence → s'.fetched = s.fetched →
      s'.sequenceOf = s.sequenceOf → NumberStep s a s'
  | fetch {call : CallId} {client : Client} {request : Request}
      {s' : State Client Server Request Response} :
      s.sends call = some ⟨client, request, .gotGid⟩ →
      s'.nextSequence =
        Function.update s.nextSequence client (s.nextSequence client + 1) →
      s'.fetched = Function.update s.fetched client (s.fetched client + 1) →
      s'.sequenceOf =
        Function.update s.sequenceOf call (some (client, s.nextSequence client)) →
      NumberStep s (.fetchSequence call) s'

theorem numberStep_of_next [Rcutils] (h : d.next s a = some s') : NumberStep s a s' := by
  cases a with
  | beginSend call client request gid =>
      simp only [Deployment.next] at h
      split at h
      · cases h
      next hcall =>
        have hsame : none = s.sequenceOf call := by simp [State.sequenceOf, hcall]
        split at h <;> cases h
        · exact .idle rfl rfl (State.sequenceOf_withSend_of_eq hsame)
        · exact .idle rfl rfl rfl
  | fetchSequence call =>
      simp only [Deployment.next] at h
      split at h
      next client request hcall =>
        cases h
        exact .fetch hcall rfl rfl (State.sequenceOf_withSend ..)
      next => cases h
  | publishRequest call o =>
      simp only [Deployment.next] at h
      split at h
      next client request sequence hcall =>
        cases h
        have hsame : some (client, sequence) = s.sequenceOf call := by
          simp [State.sequenceOf, hcall, SendStage.sequence]
        exact .idle rfl rfl (State.sequenceOf_withSend_of_eq hsame)
      next => cases h
  | sendResponse server requestId response o =>
      simp only [Deployment.next, Option.ite_none_right_eq_some] at h
      obtain ⟨-, h⟩ := h
      cases h
      exact .idle rfl rfl rfl
  | beginTakeResponse call client info response gid init =>
      simp only [Deployment.next] at h
      split at h
      · obtain ⟨_, -, rfl⟩ := Option.map_eq_some_iff.mp h
        exact .idle rfl rfl rfl
      · cases h
        exact .idle rfl rfl rfl
  | deliverRequest server index | beginTakeRequest call server info request init
  | passRequest call event | deliverResponse client index | passResponse call event =>
      obtain ⟨_, -, rfl⟩ := Option.map_eq_some_iff.mp h
      exact .idle rfl rfl rfl

/-- A call keeps its sequence number. -/
theorem sequenceOf_of_next [Rcutils] (h : d.next s a = some s') {call : CallId} {p : Client × Int64}
    (hp : s.sequenceOf call = some p) : s'.sequenceOf call = some p := by
  cases numberStep_of_next h with
  | idle _ _ hsequence => rw [hsequence, hp]
  | @fetch call' client request _ hcall' _ _ hsequence =>
      have hne : call ≠ call' := by
        rintro rfl
        simp [State.sequenceOf, hcall', SendStage.sequence] at hp
      rw [hsequence, Function.update_of_ne hne, hp]

/-- A client's numbers are those up to the count of its fetches, and no two
calls share one. -/
structure Numbered (s : State Client Server Request Response) : Prop where
  next_eq : ∀ client, s.nextSequence client = Int64.ofNat (s.fetched client + 1)
  fetched_lt : ∀ client, s.fetched client < 2 ^ 63
  toInt_le : ∀ call client sequence, s.sequenceOf call = some (client, sequence) →
    sequence.toInt ≤ s.fetched client
  unique : ∀ call call' client sequence, s.sequenceOf call = some (client, sequence) →
    s.sequenceOf call' = some (client, sequence) → call = call'

omit [DecidableEq Server] in
theorem Numbered.fetch {call : CallId} {client : Client} (hs : Numbered s)
    (hfew : s.fetched client + 1 < 2 ^ 63)
    (hnext : s'.nextSequence =
      Function.update s.nextSequence client (s.nextSequence client + 1))
    (hfetched : s'.fetched = Function.update s.fetched client (s.fetched client + 1))
    (hsequence : s'.sequenceOf =
      Function.update s.sequenceOf call (some (client, s.nextSequence client))) :
    Numbered s' := by
  have htoInt : (s.nextSequence client).toInt = s.fetched client + 1 := by
    rw [hs.next_eq, Int64.toInt_ofNat_of_lt hfew, Nat.cast_succ]
  -- the number just fetched is above all the client has used
  have hfresh : ∀ call', s.sequenceOf call' ≠ some (client, s.nextSequence client) := by
    intro call' hcall'
    have := hs.toInt_le call' client _ hcall'
    omega
  constructor
  · intro client'
    rw [hnext, hfetched]
    by_cases hclient : client' = client
    · subst hclient
      rw [Function.update_self, Function.update_self, hs.next_eq, Int64.ofNat_add (_ + 1)]
      rfl
    · rw [Function.update_of_ne hclient, Function.update_of_ne hclient, hs.next_eq]
  · intro client'
    rw [hfetched]
    by_cases hclient : client' = client
    · subst hclient
      rwa [Function.update_self]
    · rw [Function.update_of_ne hclient]
      exact hs.fetched_lt client'
  · intro call' client' sequence hcall'
    have hle : s.fetched client' ≤ s'.fetched client' := by
      rw [hfetched, Function.update_apply]
      split
      next heq =>
        subst heq
        omega
      next => exact le_rfl
    rw [hsequence] at hcall'
    rcases Table.update_eq_some hcall' with ⟨-, ⟨⟩⟩ | ⟨-, hold⟩
    · rw [htoInt, hfetched, Function.update_self, Nat.cast_succ]
    · have := hs.toInt_le call' client' sequence hold
      omega
  · intro call1 call2 client' sequence h1 h2
    rw [hsequence] at h1 h2
    rcases Table.update_eq_some h1 with ⟨rfl, ⟨⟩⟩ | ⟨-, hold⟩
    · rcases Table.update_eq_some h2 with ⟨rfl, -⟩ | ⟨-, h2⟩
      · rfl
      · exact absurd h2 (hfresh call2)
    · rcases Table.update_eq_some h2 with ⟨-, ⟨⟩⟩ | ⟨-, h2⟩
      · exact absurd hold (hfresh call1)
      · exact hs.unique call1 call2 client' sequence hold h2

theorem numbered_step [Rcutils] (hs : Numbered s) (hfew : FewRequests s a)
    (h : d.next s a = some s') : Numbered s' := by
  cases numberStep_of_next h with
  | idle hnext hfetched hsequence =>
      constructor
      · rw [hnext, hfetched]
        exact hs.next_eq
      · rw [hfetched]
        exact hs.fetched_lt
      · rw [hsequence, hfetched]
        exact hs.toInt_le
      · rw [hsequence]
        exact hs.unique
  | fetch hcall hnext hfetched hsequence =>
      exact hs.fetch (hfew _ hcall) hnext hfetched hsequence

theorem numbered_reachable [Rcutils] (h : (d.system.restrict FewRequests).Reachable s) :
    Numbered s := by
  refine h.invariant (I := Numbered) ?_ ?_
  · rintro s rfl
    exact ⟨fun _ => rfl, fun _ => by simp [State.start], nofun, nofun⟩
  · intro s a s' hs hstep
    exact numbered_step hs hstep.1 hstep.2

/-! ## Request ids -/

/-- A request of the id's client uses the id's sequence number. -/
def Used (d : Deployment Client Request Response) (s : State Client Server Request Response)
    (id : RequestId) : Prop :=
  ∃ call client, s.sequenceOf call = some (client, id.sequenceNumber) ∧
    d.guid client = id.writerGuid

theorem Used.of_next [Rcutils] {id : RequestId} (hused : Used d s id) (h : d.next s a = some s') :
    Used d s' id := by
  obtain ⟨call, client, hcall, hguid⟩ := hused
  exact ⟨call, client, sequenceOf_of_next h hcall, hguid⟩

/-- The way of a request id: on written requests, in the hands of a server, in
the calls that answer it, and on written responses. -/
structure Traced (d : Deployment Client Request Response)
    (s : State Client Server Request Response) : Prop where
  requests : s.requests.Genuine
  responses : s.responses.Genuine
  requested : ∀ wire ∈ s.requests.written, ∃ id payload, wire = frame id payload ∧ Used d s id
  obtained : ∀ server, ∀ id ∈ s.obtained server, Used d s id
  answered : ∀ server id response, (server, id, response) ∈ s.answered → id ∈ s.obtained server
  responded : ∀ wire ∈ s.responses.written, ∃ server id response payload,
    (server, id, response) ∈ s.answered ∧ wire = frame id payload ∧
      d.typesupport.response.Encodes response payload

omit [DecidableEq Client] [DecidableEq Server] in
/-- What a take of a request returns is the id of a written request. -/
theorem Traced.used_of_obtainedBy (hs : Traced d s) {call : CallId} {t : Take Server Request}
    {topic : Topic Server Request} (htopic : topic.Genuine)
    (hwritten : topic.written = s.requests.written) (ht : topic.takes call = some t)
    {id : RequestId} (hid : id ∈ d.obtainedBy t) : Used d s id := by
  simp only [Deployment.obtainedBy] at hid
  split at hid
  next r hr =>
    split at hid
    next htaken =>
      obtain rfl := List.mem_singleton.mp hid
      obtain ⟨o, ho, hpass⟩ := takeServiceMessage_taken hr htaken
      obtain ⟨wire, hwire, hlt, hhead, -, -⟩ := takePass_taken hpass htaken
      obtain ⟨id, payload, rfl, hused⟩ :=
        hs.requested wire (hwritten ▸ htopic.takes call t ht o ho wire hwire)
      rwa [hhead, requestIdOf_frame]
    next => cases hid
  next => cases hid

omit [DecidableEq Client] [DecidableEq Server] in
theorem traced_start : Traced d (State.start : State Client Server Request Response) where
  requests := .empty
  responses := .empty
  requested := nofun
  obtained := nofun
  answered := nofun
  responded := nofun

theorem traced_step [Rcutils] (hs : Traced d s) (h : d.next s a = some s') : Traced d s' := by
  have hused : ∀ id, Used d s id → Used d s' id := fun id hid => hid.of_next h
  have hrequested : ∀ wire ∈ s.requests.written, ∃ id payload,
      wire = frame id payload ∧ Used d s' id := by
    intro wire hwire
    obtain ⟨id, payload, hframe, hid⟩ := hs.requested wire hwire
    exact ⟨id, payload, hframe, hused id hid⟩
  have hobtained : ∀ server, ∀ id ∈ s.obtained server, Used d s' id :=
    fun server id hid => hused id (hs.obtained server id hid)
  cases a with
  | beginSend call client request gid =>
      simp only [Deployment.next] at h
      split at h
      · cases h
      · split at h <;> cases h
        · exact ⟨hs.requests, hs.responses, hrequested, hobtained, hs.answered, hs.responded⟩
        · exact hs
  | fetchSequence call =>
      simp only [Deployment.next] at h
      split at h
      · cases h
        exact ⟨hs.requests, hs.responses, hrequested, hobtained, hs.answered, hs.responded⟩
      · cases h
  | publishRequest call o =>
      simp only [Deployment.next] at h
      split at h
      next client request sequence hcall =>
        rcases hpublish : publishServiceMessage d.typesupport.request request
          ⟨d.guid client, sequence⟩ o with ⟨ret, written⟩
        rw [hpublish] at h
        cases h
        have hnew : Used d s ⟨d.guid client, sequence⟩ :=
          ⟨call, client, by simp [State.sequenceOf, hcall, SendStage.sequence], rfl⟩
        refine ⟨hs.requests.write written, hs.responses, ?_, hobtained, hs.answered,
          hs.responded⟩
        intro wire hwire
        rcases List.mem_append.mp hwire with hold | hwire
        · exact hrequested wire hold
        · rw [Option.mem_toList] at hwire
          cases hwire
          obtain ⟨payload, hframe, -⟩ := publishServiceMessage_written hpublish
          exact ⟨_, payload, hframe, hused _ hnew⟩
      next => cases h
  | deliverRequest server index =>
      obtain ⟨topic, htopic, rfl⟩ := Option.map_eq_some_iff.mp h
      have hwritten : topic.written = s.requests.written := Topic.written_of_deliver htopic
      exact ⟨hs.requests.deliver htopic, hs.responses, hwritten ▸ hrequested, hobtained,
        hs.answered, hs.responded⟩
  | beginTakeRequest call server info request init =>
      obtain ⟨topic, htopic, rfl⟩ := Option.map_eq_some_iff.mp h
      have hwritten : topic.written = s.requests.written := Topic.written_of_beginTake htopic
      exact ⟨hs.requests.beginTake rfl htopic, hs.responses, hwritten ▸ hrequested, hobtained,
        hs.answered, hs.responded⟩
  | passRequest call event =>
      obtain ⟨⟨t, topic⟩, htopic, rfl⟩ := Option.map_eq_some_iff.mp h
      have hwritten : topic.written = s.requests.written := Topic.written_of_pass htopic
      have hgenuine := hs.requests.pass htopic
      refine ⟨hgenuine, hs.responses, hwritten ▸ hrequested, ?_, ?_, hs.responded⟩
      · intro server id hid
        rcases Table.mem_update hid with ⟨rfl, hmem⟩ | ⟨-, hold⟩
        · rcases List.mem_append.mp hmem with hold | hnew
          · exact hobtained _ id hold
          · exact hused id
              (hs.used_of_obtainedBy hgenuine hwritten (Topic.takes_of_pass htopic) hnew)
        · exact hobtained server id hold
      · intro server id response ha
        have hold := hs.answered server id response ha
        show id ∈ Function.update s.obtained t.owner _ server
        rw [Function.update_apply]
        split
        next heq => exact List.mem_append_left _ (heq ▸ hold)
        next => exact hold
  | sendResponse server requestId response o =>
      simp only [Deployment.next, Option.ite_none_right_eq_some] at h
      obtain ⟨hid, h⟩ := h
      rcases hpublish : publishServiceMessage d.typesupport.response response requestId o with
        ⟨ret, written⟩
      rw [hpublish] at h
      cases h
      refine ⟨hs.requests, hs.responses.write written, hrequested, hobtained, ?_, ?_⟩
      · intro server' id response' ha
        rcases List.mem_append.mp ha with hold | hnew
        · exact hs.answered server' id response' hold
        · cases List.mem_singleton.mp hnew
          exact hid
      · intro wire hwire
        rcases List.mem_append.mp hwire with hold | hwire
        · obtain ⟨server', id, response', payload, ha, hrest⟩ := hs.responded wire hold
          exact ⟨server', id, response', payload, List.mem_append_left _ ha, hrest⟩
        · rw [Option.mem_toList] at hwire
          cases hwire
          obtain ⟨payload, hframe, hencodes⟩ := publishServiceMessage_written hpublish
          exact ⟨server, requestId, response, payload,
            List.mem_append_right _ (List.mem_singleton_self _), hframe, hencodes⟩
  | deliverResponse client index =>
      obtain ⟨topic, htopic, rfl⟩ := Option.map_eq_some_iff.mp h
      have hwritten : topic.written = s.responses.written := Topic.written_of_deliver htopic
      exact ⟨hs.requests, hs.responses.deliver htopic, hrequested, hobtained, hs.answered,
        hwritten ▸ hs.responded⟩
  | beginTakeResponse call client info response gid init =>
      simp only [Deployment.next] at h
      split at h
      · obtain ⟨topic, htopic, rfl⟩ := Option.map_eq_some_iff.mp h
        have hwritten : topic.written = s.responses.written := Topic.written_of_beginTake htopic
        exact ⟨hs.requests, hs.responses.beginTake rfl htopic, hrequested, hobtained, hs.answered,
          hwritten ▸ hs.responded⟩
      · cases h
        exact hs
  | passResponse call event =>
      obtain ⟨⟨t, topic⟩, htopic, rfl⟩ := Option.map_eq_some_iff.mp h
      have hwritten : topic.written = s.responses.written := Topic.written_of_pass htopic
      exact ⟨hs.requests, hs.responses.pass htopic, hrequested, hobtained, hs.answered,
        hwritten ▸ hs.responded⟩

theorem traced_reachable [Rcutils] (h : d.system.Reachable s) : Traced d s := by
  refine h.invariant (I := Traced d) ?_ ?_
  · rintro s rfl
    exact traced_start
  · intro s a s' hs hstep
    exact traced_step hs hstep

/-! ## Correlation -/

/-- A response that a client takes. -/
structure Answers (d : Deployment Client Request Response)
    (s : State Client Server Request Response) (t : Take Client Response)
    (r : TakeResult Response) : Prop where
  /-- It carries the client's GUID. -/
  own : r.info.requestId.writerGuid = d.guid t.owner
  /-- The client has used its sequence number. -/
  requested : ∃ call, s.sequenceOf call = some (t.owner, r.info.requestId.sequenceNumber)
  /-- Its payload is what a server answered the request with. -/
  answered : ∃ server response payload, (server, r.info.requestId, response) ∈ s.answered ∧
    d.typesupport.response.Encodes response payload ∧
    d.typesupport.response.Decodes d.readerInit payload t.message r.message

omit [DecidableEq Server] [DecidableEq Client] in
theorem Traced.answers (hs : Traced d s) {call : CallId} {t : Take Client Response}
    {r : TakeResult Response} (ht : s.responses.takes call = some t)
    (hr : d.takeResponse t = some r) (htaken : r.taken = some true) : Answers d s t r := by
  obtain ⟨o, ho, hpass⟩ := takeServiceMessage_taken hr htaken
  obtain ⟨wire, hwire, hlt, hhead, hguid, hdecodes⟩ := takePass_taken hpass htaken
  obtain ⟨server, id, response, payload, hanswered, rfl, hencodes⟩ :=
    hs.responded wire (hs.responses.takes call t ht o ho wire hwire)
  rw [requestIdOf_frame] at hhead
  rw [payloadOf_frame] at hdecodes
  have hown : r.info.requestId.writerGuid = d.guid t.owner := hguid _ rfl
  subst hhead
  obtain ⟨send, client, hsend, hclient⟩ := hs.obtained server _ (hs.answered _ _ _ hanswered)
  obtain rfl : client = t.owner := d.guid_injective (hclient.trans hown)
  exact ⟨hown, ⟨send, hsend⟩, server, response, payload, hanswered, hencodes, hdecodes⟩

omit [DecidableEq Server] [DecidableEq Client] in
/-- A take goes on after a response for another client. -/
theorem Traced.skips (hs : Traced d s) {t : Take Client Response}
    (ht : d.takeResponse t = none) {id : RequestId} {payload : List UInt8}
    (hwritten : frame id payload ∈ s.responses.written)
    (hguid : id.writerGuid ≠ d.guid t.owner) (info : MessageInfo) :
    d.takeResponse { t with outcomes := t.outcomes ++ [.sample (frame id payload) info] } =
      none := by
  obtain ⟨_, id', _, payload', -, hframe, -, hlen⟩ := hs.responded _ hwritten
  have hpayload : payload = payload' := by
    rw [← payloadOf_frame id payload, hframe, payloadOf_frame]
  rw [Deployment.takeResponse, takeServiceMessage_append ht]
  exact takePass_of_ne (hpayload ▸ Nat.lt_of_lt_of_le (by omega) hlen) hguid info

/-- Requests of one client have sequence numbers of their own, a client takes
answers to its own requests only, and it skips those to other clients. -/
theorem responses_correlated [Rcutils] {s : State Client Server Request Response}
    (h : (d.system.restrict FewRequests).Reachable s) :
    (∀ call call' client sequence, s.sequenceOf call = some (client, sequence) →
      s.sequenceOf call' = some (client, sequence) → call = call') ∧
    (∀ call t r, s.responses.takes call = some t → d.takeResponse t = some r →
      r.taken = some true → Answers d s t r) ∧
    (∀ (t : Take Client Response) id payload info, d.takeResponse t = none →
      frame id payload ∈ s.responses.written → id.writerGuid ≠ d.guid t.owner →
      d.takeResponse { t with outcomes := t.outcomes ++ [.sample (frame id payload) info] } =
        none) := by
  have hnumbered : Numbered s := numbered_reachable h
  have htraced : Traced d s := traced_reachable h.of_restrict
  refine ⟨hnumbered.unique, ?_, ?_⟩
  · intro call t r ht hr htaken
    exact htraced.answers ht hr htaken
  · intro t id payload info ht hwritten hguid
    exact htraced.skips ht hwritten hguid info

end

/-! ## Two clients and one server -/

/-- Messages of one octet, behind a CDR encapsulation header. -/
def octetCallbacks : Callbacks UInt8 where
  hasKey := false
  getSerializedSize _ := 5
  serialize message capacity :=
    if 5 ≤ capacity then (true, [0, 1, 0, 0, message]) else (false, [])
  deserialize bytes old :=
    match bytes with
    | [_, _, _, _, message] => (true, message)
    | _ => (false, old)

def twoClients : Deployment Bool UInt8 UInt8 where
  guid client := ⟨List.replicate 16 (if client then 1 else 0), by simp⟩
  guid_injective := by
    intro a b h
    have hbytes := congrArg Guid.bytes h
    cases a <;> cases b <;> first | rfl | cases hbytes
  typesupport := ⟨octetCallbacks, octetCallbacks⟩
  readerInit bytes := bytes.take 2 = [0, 1]

/-- Both clients send their first request, the server answers both, and each
answer reaches the second client, the one for the first client first. -/
def crossedResponses : List (Action Bool Unit UInt8 UInt8) :=
  let published : PublishOutcome := ⟨.ok, some [0, 0, 0, 0, 0], .ok, true⟩
  let info : ServiceInfo := ⟨0, 0, ⟨twoClients.guid false, 0⟩⟩
  [.beginSend 0 false 7 true, .beginSend 1 true 8 true, .fetchSequence 1, .fetchSequence 0,
    .publishRequest 0 published, .publishRequest 1 published,
    .deliverRequest () 1, .deliverRequest () 0,
    .beginTakeRequest 0 () info 0 .ok, .passRequest 0 (.sample ⟨0, 0⟩),
    .beginTakeRequest 1 () info 0 .ok, .passRequest 1 (.sample ⟨0, 0⟩),
    .sendResponse () ⟨twoClients.guid false, 1⟩ 17 published,
    .sendResponse () ⟨twoClients.guid true, 1⟩ 18 published,
    .deliverResponse true 0, .deliverResponse true 1,
    .beginTakeResponse 0 true info 0 true .ok,
    .passResponse 0 (.sample ⟨0, 0⟩), .passResponse 0 (.sample ⟨0, 0⟩)]

/-- What the second client's take has returned in a state. -/
def secondTake (s : State Bool Unit UInt8 UInt8) : Option (Nat × Option Bool × UInt8) :=
  (s.responses.takes 0).bind fun t => (twoClients.takeResponse t).map fun r =>
    (t.outcomes.length, r.taken, r.message)

attribute [local instance] Rcutils.documented

/-- The second client's take skips the first answer and returns the second. -/
theorem responses_correlated_crossed :
    ∃ (s : State Bool Unit UInt8 UInt8) (t : Take Bool UInt8) (r : TakeResult UInt8),
      (twoClients.system.restrict FewRequests).Reachable s ∧ s.responses.takes 0 = some t ∧
        t.outcomes.length = 2 ∧ twoClients.takeResponse t = some r ∧ r.message = 18 ∧
        Answers twoClients s t r := by
  have hexec : (Transition.exec (Transition.filterNext FewRequests twoClients.next)
      State.start crossedResponses).map secondTake = some (some (2, some true, 18)) := by
    decide +kernel
  obtain ⟨s, hs, hsecond⟩ := Transition.exists_reachable_of_exec _ _ _ hexec
  have hreach := Transition.reachable_restrict_of_filterNext hs
  simp only [secondTake, Option.bind_eq_some_iff, Option.map_eq_some_iff, Prod.mk.injEq] at hsecond
  obtain ⟨t, ht, r, hr, hlen, htaken, hmessage⟩ := hsecond
  obtain ⟨-, hanswers, -⟩ := responses_correlated (d := twoClients) hreach
  exact ⟨s, t, r, hreach, ht, hlen, hr, hmessage, hanswers 0 t r ht hr htaken⟩

end RmwZzdds.Service
