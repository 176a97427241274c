import RmwZzdds.Graph.Announcement
import RmwZzdds.Graph.Participants

/-!
# Participants of a domain

The participants of a domain create and destroy endpoints, and each of them has a
graph cache.  Its own endpoints it records itself, the others it learns of by
refreshes (`refresh_discovered_endpoints`).

*Steps.*  A call that creates endpoints is one step up to the endpoints that
zzdds makes.  Recording an endpoint, forgetting it and deleting it are steps of
their own, so that a creation may fail between them and a destruction may leave
one of them out.  The steps of all participants interleave.

*Records.*  Whatever the caches of a domain say of an endpoint describes one
request of one call (`endpoint_described`).
-/

namespace RmwZzdds.Graph

open DataPlane.Qos (endpointQos)
open Service (Guid)
open Transition

/-! ## The records of a cache -/

/-- What a graph cache has recorded of its endpoints, as its documentation says.
An endpoint that it has already is not recorded again. -/
structure GraphCache.Records {Cache TypeHash Node : Type*}
    (graph : GraphCache Cache TypeHash Node) where
  entity : Cache → Bool → Guid → Option (EntityInfo TypeHash)
  mem_entities : ∀ cache readers guid,
    guid ∈ graph.entities cache readers ↔ (entity cache readers guid).isSome
  addEntity : ∀ cache guid info readers other found,
    entity (graph.addEntity guid info readers cache).1 other found =
      if other = readers ∧ found = guid then some ((entity cache readers guid).getD info)
      else entity cache other found
  removeEntity : ∀ cache guid readers other found,
    entity (graph.removeEntity guid readers cache).1 other found =
      if other = readers ∧ found = guid then none else entity cache other found
  addParticipant : ∀ cache guid enclave,
    entity (graph.addParticipant guid enclave cache) = entity cache
  updateParticipantEntities : ∀ cache message,
    entity (graph.updateParticipantEntities message cache) = entity cache

def Tables.records {TypeHash Node : Type} :
    (Tables.graphCache : GraphCache (Tables TypeHash Node) TypeHash Node).Records where
  entity t := t.entity
  mem_entities _ _ _ := Iff.rfl
  addEntity t guid info readers other found := by
    cases hentry : t.entity readers guid with
    | none =>
        simp only [Tables.graphCache, hentry, Tables.withEntity, Function.update_apply,
          Option.getD_none]
        split_ifs <;> simp_all
    | some old =>
        simp only [Tables.graphCache, hentry, Option.getD_some]
        split_ifs <;> simp_all
  removeEntity t guid readers other found := by
    simp only [Tables.graphCache, Tables.withEntity, Function.update_apply]
    split_ifs <;> simp_all
  addParticipant _ _ _ := rfl
  updateParticipantEntities _ _ := rfl

/-! ## Domains -/

/-- What the participants of a domain share: the packages they are built with, and
what zzdds says of instances.  Nothing is said of the endpoints in `foreign`,
which belong to other implementations. -/
structure Setting (P Cache TypeHash Node Handle : Type) where
  graph : GraphCache Cache TypeHash Node
  records : graph.Records
  parser : BuiltinParser TypeHash
  lib : Libraries TypeHash
  identity : P → Identity Handle
  foreign : Set Guid

/-- The participants of a domain, with `current_service_type_hash` of their
threads, and the endpoints that zzdds has ever made for them. -/
structure Domain (P Thread Cache Handle TypeHash : Type) where
  contexts : P → Context Cache Handle
  serviceTypeHash : P → Thread → Option TypeHash
  endpoints : Guid → Option (Endpoint TypeHash)
  alive : Set Guid

/-- The steps of a domain. -/
inductive DomainAction (P Thread Cache TypeHash Node Handle : Type) where
  /-- A call makes endpoints. -/
  | create (p : P) (thread : Thread) (call : CreationCall TypeHash) (zzdds : Bool → Option Guid)
  /-- `add_entity` by the call that has made the endpoint. -/
  | add (p : P) (guid : Guid)
  /-- `remove_writer` or `remove_reader`, by a creation that fails or by a
  destruction. -/
  | remove (p : P) (readers : Bool) (guid : Guid)
  /-- zzdds deletes an endpoint. -/
  | delete (guid : Guid)
  | refresh (p : P) (lookups : Bool) (publications subscriptions : Take Handle)
  /-- The graph listener has taken a message. -/
  | update (p : P) (message : ParticipantEntitiesInfo Node)
  /-- `add_node_graph`, `add_publisher_graph` and the like. -/
  | changeNodes (p : P) (cache : Cache)

section Steps

variable {P Thread Cache TypeHash Node Handle : Type} [DecidableEq P] [DecidableEq Thread]
  [DecidableEq Handle]

namespace Domain

def withContext (d : Domain P Thread Cache Handle TypeHash) (p : P) (c : Context Cache Handle) :
    Domain P Thread Cache Handle TypeHash :=
  { d with contexts := Function.update d.contexts p c }

def withCache (d : Domain P Thread Cache Handle TypeHash) (p : P) (cache : Cache) :
    Domain P Thread Cache Handle TypeHash :=
  d.withContext p { d.contexts p with graphCache := cache }

/-- The domain after an endpoint has been made. -/
def withEndpoint (d : Domain P Thread Cache Handle TypeHash) (e : Endpoint TypeHash) :
    Domain P Thread Cache Handle TypeHash :=
  { d with
    endpoints := Function.update d.endpoints e.guid (some e)
    alive := insert e.guid d.alive }

def withServiceTypeHash (d : Domain P Thread Cache Handle TypeHash) (p : P) (thread : Thread)
    (hash : Option TypeHash) : Domain P Thread Cache Handle TypeHash :=
  { d with
    serviceTypeHash :=
      Function.update d.serviceTypeHash p (Function.update (d.serviceTypeHash p) thread hash) }

variable (d : Domain P Thread Cache Handle TypeHash)

omit [DecidableEq Thread] [DecidableEq Handle] in
theorem contexts_withContext (p : P) (c : Context Cache Handle) :
    (d.withContext p c).contexts = Function.update d.contexts p c := rfl

omit [DecidableEq P] [DecidableEq Thread] [DecidableEq Handle] in
theorem endpoints_withEndpoint (e : Endpoint TypeHash) :
    (d.withEndpoint e).endpoints = Function.update d.endpoints e.guid (some e) := rfl

omit [DecidableEq Handle] in
theorem serviceTypeHash_withServiceTypeHash (p : P) (thread : Thread) (hash : Option TypeHash) :
    (d.withServiceTypeHash p thread hash).serviceTypeHash =
      Function.update d.serviceTypeHash p (Function.update (d.serviceTypeHash p) thread hash) := rfl

end Domain

namespace Setting

variable (S : Setting P Cache TypeHash Node Handle)

/-- The GUIDs that zzdds gives to new endpoints of a participant. -/
structure Assigns (d : Domain P Thread Cache Handle TypeHash) (p : P)
    (zzdds : Bool → Option Guid) : Prop where
  fresh : ∀ reader guid, zzdds reader = some guid → d.endpoints guid = none
  proper : ∀ reader guid, zzdds reader = some guid → guid ≠ zeroGuid ∧ guid ∉ S.foreign
  participant : ∀ reader guid, zzdds reader = some guid → participantOf guid = (d.contexts p).gid
  distinct : ∀ guid, zzdds true = some guid → zzdds false ≠ some guid

/-- The samples with data that a participant gets announce endpoints of others. -/
def Announces (d : Domain P Thread Cache Handle TypeHash) (p : P) (readers : Bool)
    (samples : List (Sample Handle)) : Prop :=
  (S.identity p).Matches S.parser readers samples ∧
    ∀ sample ∈ samples, sample.validData = true → sample.endpoint ∉ S.foreign →
      ∃ e, d.endpoints sample.endpoint = some e ∧ e.reader = readers ∧
        e.participant ≠ (d.contexts p).gid ∧
        sample.payload.bind (S.parser.deserialize readers) = some e.announcement

/-- Right after `rmw_init` of all participants. -/
structure Initial (d : Domain P Thread Cache Handle TypeHash) : Prop where
  contexts : ∀ p, (d.contexts p).Initial S.graph (S.identity p)
  isLocal : ∀ p, (S.identity p).isLocal = {guid | participantOf guid = (d.contexts p).gid}
  entities : ∀ p readers, S.graph.entities (d.contexts p).graphCache readers = ∅
  serviceTypeHash : ∀ p thread, d.serviceTypeHash p thread = none
  endpoints : ∀ guid, d.endpoints guid = none
  alive : d.alive = ∅

inductive Step (d : Domain P Thread Cache Handle TypeHash) :
    DomainAction P Thread Cache TypeHash Node Handle → Domain P Thread Cache Handle TypeHash →
      Prop where
  | create {p : P} {thread : Thread} {call : CreationCall TypeHash} {zzdds : Bool → Option Guid}
      {es : List (Endpoint TypeHash)} {hash : Option TypeHash} :
      S.Assigns d p zzdds →
      (call.perform S.lib S.parser.zeroTypeHash (d.contexts p).gid zzdds).run
        (d.serviceTypeHash p thread) = (es, hash) →
      Step d (.create p thread call zzdds)
        ((es.foldl Domain.withEndpoint d).withServiceTypeHash p thread hash)
  | add {p : P} {e : Endpoint TypeHash} :
      d.endpoints e.guid = some e → e.participant = (d.contexts p).gid →
      Step d (.add p e.guid)
        (d.withCache p (S.graph.addEntity e.guid e.info e.reader (d.contexts p).graphCache).1)
  | remove {p : P} {readers : Bool} {guid : Guid} :
      participantOf guid = (d.contexts p).gid →
      Step d (.remove p readers guid)
        (d.withCache p (S.graph.removeEntity guid readers (d.contexts p).graphCache).1)
  | delete (guid : Guid) : Step d (.delete guid) { d with alive := d.alive \ {guid} }
  | refresh {p : P} {lookups : Bool} {publications subscriptions : Take Handle} :
      S.Announces d p false publications.samples → S.Announces d p true subscriptions.samples →
      Step d (.refresh p lookups publications subscriptions)
        (d.withContext p (refreshDiscoveredEndpoints S.graph S.parser lookups publications
          subscriptions (d.contexts p)).context)
  | update (p : P) (message : ParticipantEntitiesInfo Node) :
      Step d (.update p message)
        (d.withContext p (updateParticipantEntities S.graph message (d.contexts p)))
  | changeNodes {p : P} {cache : Cache} :
      S.records.entity cache = S.records.entity (d.contexts p).graphCache →
      (∀ guid ≠ (d.contexts p).gid, S.graph.participant cache guid =
        S.graph.participant (d.contexts p).graphCache guid) →
      Step d (.changeNodes p cache) (d.withCache p cache)

/-- The runs of a domain. -/
def system : System (Domain P Thread Cache Handle TypeHash)
    (DomainAction P Thread Cache TypeHash Node Handle) where
  init := S.Initial
  step := S.Step

end Setting

/-! ## What a refresh records -/

section Refresh

variable {graph : GraphCache Cache TypeHash Node} {records : graph.Records}
  {parser : BuiltinParser TypeHash} {Good : Bool → Guid → EntityInfo TypeHash → Prop}

/-- All the cache has recorded is good. -/
def AllGood (records : graph.Records) (Good : Bool → Guid → EntityInfo TypeHash → Prop)
    (cache : Cache) : Prop :=
  ∀ readers guid info, records.entity cache readers guid = some info → Good readers guid info

omit [DecidableEq Handle] in
theorem AllGood.addEntity {cache : Cache} (h : AllGood records Good cache) {readers : Bool}
    {guid : Guid} {info : EntityInfo TypeHash} (hinfo : Good readers guid info) :
    AllGood records Good (graph.addEntity guid info readers cache).1 := by
  intro other found info' hinfo'
  rw [records.addEntity] at hinfo'
  split at hinfo'
  next hsame =>
    obtain ⟨rfl, rfl⟩ := hsame
    cases hold : records.entity cache other found with
    | none =>
        rw [hold] at hinfo'
        cases hinfo'
        exact hinfo
    | some old =>
        rw [hold] at hinfo'
        cases hinfo'
        exact h other found _ hold
  next => exact h other found info' hinfo'

omit [DecidableEq Handle] in
theorem AllGood.removeEntity {cache : Cache} (h : AllGood records Good cache) (readers : Bool)
    (guid : Guid) : AllGood records Good (graph.removeEntity guid readers cache).1 := by
  intro other found info hinfo
  rw [records.removeEntity] at hinfo
  split at hinfo
  · cases hinfo
  · exact h other found info hinfo

theorem AllGood.depart {p : Progress Cache Handle} (h : AllGood records Good p.cache)
    (readers : Bool) (handle : Handle) :
    AllGood records Good (p.depart graph readers handle).cache := by
  rw [Progress.depart]
  split
  · exact h
  · exact h.removeEntity readers _

theorem AllGood.record {p : Progress Cache Handle} (h : AllGood records Good p.cache)
    {readers : Bool} {sample : Sample Handle} {info : EntityInfo TypeHash}
    (hinfo : Good readers sample.endpoint info) :
    AllGood records Good (p.record graph readers sample info).cache := by
  refine AllGood.addEntity (fun other found info' hinfo' => ?_) hinfo
  rw [records.addParticipant] at hinfo'
  exact h other found info' hinfo'

/-- The samples announce what is good. -/
def AnnounceGood (parser : BuiltinParser TypeHash)
    (Good : Bool → Guid → EntityInfo TypeHash → Prop) (readers : Bool)
    (samples : List (Sample Handle)) : Prop :=
  ∀ sample ∈ samples, sample.validData = true → ∀ info,
    parser.announced readers sample = some (some info) → Good readers sample.endpoint info

theorem AllGood.consumeSamples {readers : Bool} {samples : List (Sample Handle)}
    {p : Progress Cache Handle} (h : AllGood records Good p.cache)
    (hsamples : AnnounceGood parser Good readers samples) :
    AllGood records Good (consumeSamples graph parser readers samples p).2.cache := by
  induction samples generalizing p with
  | nil => exact h
  | cons sample samples ih =>
      have hrest : AnnounceGood parser Good readers samples := fun other hother =>
        hsamples other (List.mem_cons_of_mem _ hother)
      rw [Graph.consumeSamples]
      split
      · exact ih (h.depart readers _) hrest
      next hvalid =>
        split
        · exact h
        · exact ih h hrest
        next info hannounced =>
          refine ih (h.record ?_) hrest
          exact hsamples sample (List.mem_cons_self ..) (by simpa using hvalid) info hannounced

theorem AllGood.consume {c : Context Cache Handle} (h : AllGood records Good c.graphCache)
    {readers : Bool} (changed : Bool) {take : Take Handle}
    (hsamples : AnnounceGood parser Good readers take.samples) :
    AllGood records Good (c.consume graph parser readers take changed).2.1.graphCache := by
  rw [Context.consume]
  show AllGood records Good ((c.withProgress readers _).graphCache)
  rw [graphCache_withProgress]
  cases take with
  | noData => exact h
  | error => exact h
  | ok batch returned => exact AllGood.consumeSamples (p := c.progress readers changed) h hsamples

/-- A refresh, with or without an error. -/
theorem AllGood.refresh {c : Context Cache Handle} (h : AllGood records Good c.graphCache)
    {lookups : Bool} {publications subscriptions : Take Handle}
    (hwriters : AnnounceGood parser Good false publications.samples)
    (hreaders : AnnounceGood parser Good true subscriptions.samples) :
    AllGood records Good (refreshDiscoveredEndpoints graph parser lookups publications
      subscriptions c).context.graphCache := by
  have hfirst := h.consume false hwriters
  rw [refreshDiscoveredEndpoints]
  cases lookups with
  | false => exact h
  | true =>
      simp only [Bool.not_true, Bool.false_eq_true, if_false]
      split
      · exact hfirst.consume _ hreaders
      · exact hfirst

end Refresh

/-! ## Endpoints -/

omit [DecidableEq Handle] in
/-- A sample tells the participant of its endpoint. -/
theorem participant_of_samples {take : Take Handle} {sample : Sample Handle}
    (h : sample ∈ take.samples) (hguid : sample.endpoint ≠ zeroGuid) :
    sample.participant = participantOf sample.endpoint := by
  cases take with
  | noData => cases h
  | error => cases h
  | ok batch returned =>
      obtain ⟨i, info, -, rfl⟩ := List.mem_mapIdx.mp h
      show participantGid batch.hashes i = participantOf (endpointGid batch.hashes i)
      have hne : endpointGid batch.hashes i ≠ zeroGuid := hguid
      rw [participantGid, endpointGid]
      rw [endpointGid] at hne
      cases hkey : keyHash batch.hashes i with
      | none =>
          rw [hkey] at hne
          exact absurd rfl hne
      | some guid => rfl

section Endpoints

variable {d : Domain P Thread Cache Handle TypeHash} {e : Endpoint TypeHash}
  {es : List (Endpoint TypeHash)} {guid : Guid}

omit [DecidableEq P] [DecidableEq Thread] [DecidableEq Handle] in
@[simp] theorem contexts_foldl (d : Domain P Thread Cache Handle TypeHash)
    (es : List (Endpoint TypeHash)) : (es.foldl Domain.withEndpoint d).contexts = d.contexts := by
  induction es generalizing d with
  | nil => rfl
  | cons e es ih => exact ih (d.withEndpoint e)

omit [DecidableEq P] [DecidableEq Thread] [DecidableEq Handle] in
@[simp] theorem serviceTypeHash_foldl (d : Domain P Thread Cache Handle TypeHash)
    (es : List (Endpoint TypeHash)) :
    (es.foldl Domain.withEndpoint d).serviceTypeHash = d.serviceTypeHash := by
  induction es generalizing d with
  | nil => rfl
  | cons e es ih => exact ih (d.withEndpoint e)

omit [DecidableEq P] [DecidableEq Thread] [DecidableEq Handle] in
/-- An endpoint is one there was, or a new one. -/
theorem endpoints_foldl (h : (es.foldl Domain.withEndpoint d).endpoints guid = some e) :
    d.endpoints guid = some e ∨ e ∈ es ∧ e.guid = guid := by
  induction es generalizing d with
  | nil => exact .inl h
  | cons first es ih =>
      obtain hold | ⟨hmem, hguid⟩ := ih h
      · by_cases hfirst : guid = first.guid
        · subst hfirst
          rw [Domain.endpoints_withEndpoint, Function.update_self] at hold
          cases hold
          exact .inr ⟨List.mem_cons_self .., rfl⟩
        · rw [Domain.endpoints_withEndpoint, Function.update_of_ne hfirst] at hold
          exact .inl hold
      · exact .inr ⟨List.mem_cons_of_mem _ hmem, hguid⟩

omit [DecidableEq P] [DecidableEq Thread] [DecidableEq Handle] in
/-- The endpoints there were stay. -/
theorem endpoints_foldl_of_some (hnew : ∀ other ∈ es, d.endpoints other.guid = none)
    (h : d.endpoints guid = some e) :
    (es.foldl Domain.withEndpoint d).endpoints guid = some e := by
  have hne : ∀ other ∈ es, guid ≠ other.guid := by
    rintro other hother rfl
    rw [hnew other hother] at h
    cases h
  clear hnew
  induction es generalizing d with
  | nil => exact h
  | cons first es ih =>
      refine ih ?_ fun other hother => hne other (List.mem_cons_of_mem _ hother)
      rw [Domain.endpoints_withEndpoint, Function.update_of_ne (hne first (List.mem_cons_self ..))]
      exact h

end Endpoints

/-! ## Runs -/

namespace Setting

variable {S : Setting P Cache TypeHash Node Handle} {d₀ d d' : Domain P Thread Cache Handle TypeHash}
  {as : List (DomainAction P Thread Cache TypeHash Node Handle)}
  {a : DomainAction P Thread Cache TypeHash Node Handle}

/-- A call of the run has asked for the endpoint. -/
def Requested (S : Setting P Cache TypeHash Node Handle)
    (d₀ : Domain P Thread Cache Handle TypeHash)
    (as : List (DomainAction P Thread Cache TypeHash Node Handle)) (e : Endpoint TypeHash)
    (r : EndpointRequest TypeHash × Option TypeHash) : Prop :=
  ∃ p thread call zzdds, .create p thread call zzdds ∈ as ∧
    participantOf e.guid = (d₀.contexts p).gid ∧ r ∈ call.requests S.parser.zeroTypeHash ∧
    e.Made S.lib (d₀.contexts p).gid zzdds r.1 r.2

/-- What a cache may have of an endpoint. -/
def Explains (S : Setting P Cache TypeHash Node Handle)
    (endpoints : Guid → Option (Endpoint TypeHash)) (readers : Bool) (guid : Guid)
    (info : EntityInfo TypeHash) : Prop :=
  guid ∉ S.foreign → ∃ e, endpoints guid = some e ∧ e.reader = readers ∧
    (info = e.info ∨ e.RemoteInfo S.parser.zeroTypeHash info)

/-- The invariant of a domain. -/
structure Sound (S : Setting P Cache TypeHash Node Handle)
    (d₀ : Domain P Thread Cache Handle TypeHash)
    (as : List (DomainAction P Thread Cache TypeHash Node Handle))
    (d : Domain P Thread Cache Handle TypeHash) : Prop where
  gid : ∀ p, (d.contexts p).gid = (d₀.contexts p).gid
  serviceTypeHash : ∀ p thread, d.serviceTypeHash p thread = none
  guid : ∀ guid e, d.endpoints guid = some e → e.guid = guid ∧ guid ≠ zeroGuid
  requested : ∀ guid e, d.endpoints guid = some e → ∃ r, S.Requested d₀ as e r
  entity : ∀ p, AllGood S.records (S.Explains d.endpoints) (d.contexts p).graphCache

omit [DecidableEq P] [DecidableEq Thread] [DecidableEq Handle] in
theorem Initial.sound (h : S.Initial d₀) : S.Sound d₀ [] d₀ where
  gid _ := rfl
  serviceTypeHash := h.serviceTypeHash
  guid guid e he := by
    rw [h.endpoints] at he
    cases he
  requested guid e he := by
    rw [h.endpoints] at he
    cases he
  entity p readers guid info hinfo := by
    have hmem := (S.records.mem_entities _ _ _).mpr (Option.isSome_of_mem hinfo)
    rw [h.entities p readers] at hmem
    exact absurd hmem (Set.notMem_empty _)

omit [DecidableEq P] [DecidableEq Thread] [DecidableEq Handle] in
theorem Requested.mono {e : Endpoint TypeHash} {r : EndpointRequest TypeHash × Option TypeHash}
    (h : S.Requested d₀ as e r) (a : DomainAction P Thread Cache TypeHash Node Handle) :
    S.Requested d₀ (as ++ [a]) e r := by
  obtain ⟨p, thread, call, zzdds, hmem, hrest⟩ := h
  exact ⟨p, thread, call, zzdds, List.mem_append_left _ hmem, hrest⟩

omit [DecidableEq Thread] [DecidableEq Handle] in
/-- A step that changes one context only. -/
theorem Sound.withContext (h : S.Sound d₀ as d) {p : P} {c : Context Cache Handle}
    (hgid : c.gid = (d.contexts p).gid)
    (hentity : AllGood S.records (S.Explains d.endpoints) c.graphCache) :
    S.Sound d₀ (as ++ [a]) (d.withContext p c) where
  gid q := by
    by_cases hq : q = p
    · subst hq
      rw [Domain.contexts_withContext, Function.update_self, hgid, h.gid]
    · rw [Domain.contexts_withContext, Function.update_of_ne hq, h.gid]
  serviceTypeHash := h.serviceTypeHash
  guid := h.guid
  requested guid e he := (h.requested guid e he).imp fun _ hr => hr.mono a
  entity q := by
    by_cases hq : q = p
    · subst hq
      rw [Domain.contexts_withContext, Function.update_self]
      exact hentity
    · rw [Domain.contexts_withContext, Function.update_of_ne hq]
      exact h.entity q

omit [DecidableEq P] [DecidableEq Thread] [DecidableEq Handle] in
/-- The samples announce what the endpoints explain. -/
theorem Sound.announceGood (hparser : S.parser.Decodes S.lib) (h : S.Sound d₀ as d) {p : P}
    {readers : Bool} {take : Take Handle} (hannounces : S.Announces d p readers take.samples) :
    AnnounceGood S.parser (S.Explains d.endpoints) readers take.samples := by
  intro sample hsample hvalid info hannounced hforeign
  obtain ⟨e, he, hreader, -, hpayload⟩ := hannounces.2 sample hsample hvalid hforeign
  obtain ⟨hguid, hproper⟩ := h.guid _ e he
  obtain ⟨r, q, thread, call, zzdds, -, hparticipant, -, hmade⟩ := h.requested _ e he
  have hsame : sample.participant = e.participant := by
    rw [hmade.participant, ← hparticipant, hguid]
    exact participant_of_samples hsample hproper
  obtain ⟨announced, heq, hremote⟩ := announced_made hparser hmade hpayload hsame
  rw [heq] at hannounced
  cases hannounced
  exact ⟨e, he, hreader, .inr (hremote info rfl)⟩

omit [DecidableEq Handle] in
/-- A call that makes endpoints. -/
theorem Sound.create (h : S.Sound d₀ as d) {p : P} {thread : Thread} {call : CreationCall TypeHash}
    {zzdds : Bool → Option Guid} {es : List (Endpoint TypeHash)} {hash : Option TypeHash}
    (hassigns : S.Assigns d p zzdds)
    (hperform : (call.perform S.lib S.parser.zeroTypeHash (d.contexts p).gid zzdds).run
      (d.serviceTypeHash p thread) = (es, hash)) :
    S.Sound d₀ (as ++ [.create p thread call zzdds])
      ((es.foldl Domain.withEndpoint d).withServiceTypeHash p thread hash) := by
  rw [h.serviceTypeHash] at hperform
  obtain ⟨rfl, hmade⟩ := perform_made call hperform
  have hguid (e : Endpoint TypeHash) (he : e ∈ es) : zzdds e.reader = some e.guid := by
    obtain ⟨r, -, hr⟩ := hmade e he
    exact hr.guid
  have hfresh : ∀ e ∈ es, d.endpoints e.guid = none := fun e he => hassigns.fresh _ _ (hguid e he)
  constructor
  · intro q
    rw [Domain.withServiceTypeHash, contexts_foldl]
    exact h.gid q
  · intro q other
    rw [Domain.serviceTypeHash_withServiceTypeHash, serviceTypeHash_foldl]
    by_cases hq : q = p
    · subst hq
      by_cases hother : other = thread
      · subst hother
        rw [Function.update_self, Function.update_self]
      · rw [Function.update_self, Function.update_of_ne hother]
        exact h.serviceTypeHash q other
    · rw [Function.update_of_ne hq]
      exact h.serviceTypeHash q other
  · intro guid e he
    obtain hold | ⟨hnew, rfl⟩ := endpoints_foldl he
    · exact h.guid guid e hold
    · exact ⟨rfl, (hassigns.proper _ _ (hguid e hnew)).1⟩
  · intro guid e he
    obtain hold | ⟨hnew, rfl⟩ := endpoints_foldl he
    · exact (h.requested guid e hold).imp fun _ hr => hr.mono _
    · obtain ⟨r, hr, hrmade⟩ := hmade e hnew
      refine ⟨r, p, thread, call, zzdds, List.mem_append_right _ (List.mem_singleton_self _), ?_,
        hr, ?_⟩
      · rw [hassigns.participant _ _ (hguid e hnew), h.gid]
      · rw [← h.gid]
        exact hrmade
  · intro q readers guid info hinfo hforeign
    rw [Domain.withServiceTypeHash, contexts_foldl] at hinfo
    obtain ⟨e, he, hrest⟩ := h.entity q readers guid info hinfo hforeign
    exact ⟨e, endpoints_foldl_of_some hfresh he, hrest⟩

/-- What the records are explained by is kept by every step. -/
theorem Sound.step (hparser : S.parser.Decodes S.lib) (h : S.Sound d₀ as d)
    (hstep : S.Step d a d') : S.Sound d₀ (as ++ [a]) d' := by
  cases hstep with
  | create hassigns hperform => exact h.create hassigns hperform
  | @add p e he hparticipant =>
      refine h.withContext rfl ((h.entity p).addEntity fun _ => ?_)
      exact ⟨e, he, rfl, .inl rfl⟩
  | @remove p readers guid hparticipant =>
      exact h.withContext rfl ((h.entity p).removeEntity readers guid)
  | delete guid =>
      exact ⟨h.gid, h.serviceTypeHash, h.guid,
        fun guid e he => (h.requested guid e he).imp fun _ hr => hr.mono _, h.entity⟩
  | refresh hwriters hreaders =>
      refine h.withContext (gid_refresh _ _ _) ?_
      exact (h.entity _).refresh (h.announceGood hparser hwriters) (h.announceGood hparser hreaders)
  | update p message =>
      rw [updateParticipantEntities]
      split
      · refine h.withContext rfl ?_
        intro readers guid info hinfo
        rw [S.records.updateParticipantEntities] at hinfo
        exact h.entity p readers guid info hinfo
      · exact h.withContext rfl (h.entity p)
  | @changeNodes p cache hsame hparticipants =>
      refine h.withContext rfl ?_
      intro readers guid info hinfo
      rw [hsame] at hinfo
      exact h.entity p readers guid info hinfo

theorem Sound.of_run (hparser : S.parser.Decodes S.lib) (hrun : S.system.Run d₀ as d)
    (hinit : S.Initial d₀) : S.Sound d₀ as d :=
  hrun.history hinit.sound fun _ _ _ _ _ hsound hstep => hsound.step hparser hstep

end Setting

/-! ## The records of a domain -/

/-- The record says what was asked for.  Only a participant that keeps a durability
beyond transient local, by the default of DDS, may tell another one, and nothing
is said of service type hashes that are not set. -/
structure EntityInfo.Describes (lib : Libraries TypeHash) (zeroTypeHash : TypeHash)
    (info : EntityInfo TypeHash) (r : EndpointRequest TypeHash × Option TypeHash) : Prop where
  topicName : ddsTopicName r.1.topicName r.1.avoidRosNamespaceConventions = some info.topicName
  typeName : info.typeName = r.1.typeName
  typeHash : info.typeHash = r.1.typeHash
  serviceTypeHash : ∀ hash ≠ zeroTypeHash, info.serviceTypeHash = some hash ↔ r.2 = some hash
  qos : ∃ qos ∈ endpointQos r.1.qos (lib.defaultQos r.1.reader),
    info.qos.reliability = (Qos.ofProfile qos.actualQos).reliability ∧
      info.qos.liveliness = (Qos.ofProfile qos.actualQos).liveliness ∧
      ((r.1.qos.durability = .systemDefault →
          (lib.defaultQos r.1.reader).durability = .volatile ∨
            (lib.defaultQos r.1.reader).durability = .transientLocal) →
        info.qos.durability = (Qos.ofProfile qos.actualQos).durability)

section Describing

variable {lib : Libraries TypeHash} {zeroTypeHash : TypeHash} {participant : Guid}
  {zzdds : Bool → Option Guid} {r : EndpointRequest TypeHash × Option TypeHash}
  {e : Endpoint TypeHash}

omit [DecidableEq P] [DecidableEq Thread] [DecidableEq Handle] in
theorem describes_info (he : e.Made lib participant zzdds r.1 r.2) :
    e.info.Describes lib zeroTypeHash r where
  topicName := he.topic
  typeName := he.typeName
  typeHash := he.typeHash
  serviceTypeHash hash _ := by rw [← he.serviceTypeHash]; rfl
  qos := ⟨e.qos, he.qos, rfl, rfl, fun _ => rfl⟩

omit [DecidableEq P] [DecidableEq Thread] [DecidableEq Handle] in
theorem describes_remoteInfo (he : e.Made lib participant zzdds r.1 r.2)
    {info : EntityInfo TypeHash} (hinfo : e.RemoteInfo zeroTypeHash info) :
    info.Describes lib zeroTypeHash r := by
  obtain ⟨hreliability, hliveliness, hdurability⟩ := qos_made he
  constructor
  · rw [hinfo.topicName]
    exact he.topic
  · exact hinfo.typeName.trans he.typeName
  · exact hinfo.typeHash.trans he.typeHash
  · intro hash hset
    rw [hinfo.serviceTypeHash, he.serviceTypeHash, and_iff_left hset]
  · refine ⟨e.qos, he.qos, ?_⟩
    rw [hinfo.qos]
    exact ⟨hreliability, hliveliness, hdurability.mpr⟩

end Describing

namespace Setting

variable {S : Setting P Cache TypeHash Node Handle} {d₀ d : Domain P Thread Cache Handle TypeHash}
  {as : List (DomainAction P Thread Cache TypeHash Node Handle)} {p : P} {readers : Bool}
  {guid : Guid} {info : EntityInfo TypeHash}

/-- A participant has asked for the endpoint, and what any cache has recorded of it
describes that request. -/
def DescribedAlike (S : Setting P Cache TypeHash Node Handle)
    (d₀ : Domain P Thread Cache Handle TypeHash)
    (as : List (DomainAction P Thread Cache TypeHash Node Handle))
    (d : Domain P Thread Cache Handle TypeHash) (readers : Bool) (guid : Guid) : Prop :=
  ∃ owner thread call zzdds r, .create owner thread call zzdds ∈ as ∧
    participantOf guid = (d₀.contexts owner).gid ∧ zzdds readers = some guid ∧
    r ∈ call.requests S.parser.zeroTypeHash ∧ r.1.reader = readers ∧
    ∀ q info, S.records.entity (d.contexts q).graphCache readers guid = some info →
      info.Describes S.lib S.parser.zeroTypeHash r ∧ info.participant = participantOf guid

/-- In every run, what the caches of the domain have recorded of an endpoint
describes one request, of a call that its participant has made. -/
theorem endpoint_described (hparser : S.parser.Decodes S.lib) (hrun : S.system.Run d₀ as d)
    (hinit : S.Initial d₀)
    (hinfo : S.records.entity (d.contexts p).graphCache readers guid = some info)
    (hforeign : guid ∉ S.foreign) : S.DescribedAlike d₀ as d readers guid := by
  have hsound := Sound.of_run hparser hrun hinit
  obtain ⟨e, he, hreader, -⟩ := hsound.entity p readers guid info hinfo hforeign
  obtain ⟨rfl, -⟩ := hsound.guid guid e he
  obtain ⟨r, owner, thread, call, zzdds, hmem, hparticipant, hr, hmade⟩ := hsound.requested _ e he
  refine ⟨owner, thread, call, zzdds, r, hmem, hparticipant, ?_, hr, ?_, ?_⟩
  · rw [← hreader]
    exact hmade.guid
  · exact hmade.reader.symm.trans hreader
  · intro q info' hinfo'
    obtain ⟨e', he', -, hexplained⟩ := hsound.entity q readers _ info' hinfo' hforeign
    rw [he] at he'
    cases he'
    have hown : e.participant = participantOf e.guid := hmade.participant.trans hparticipant.symm
    obtain rfl | hremote := hexplained
    · exact ⟨describes_info hmade, hown⟩
    · exact ⟨describes_remoteInfo hmade hremote, hremote.participant.trans hown⟩

end Setting

end Steps

/-! ## Two participants -/

/-- The endpoints of two participants. -/
def pairGuid (p endpoint : Bool) : Guid where
  bytes := List.replicate 12 (if p then 1 else 2) ++ [0, 0, 0, if endpoint then 7 else 2]
  length_eq := by cases p <;> rfl

def pairGid (p : Bool) : Guid := participantOf (pairGuid p true)

/-- Each of the two sees the endpoints of the other one. -/
def pairIdentity (p : Bool) : Identity Bool where
  guid _ := pairGuid (!p)
  guid_injective _ := Bool.injective_iff.mpr (by cases p <;> decide)
  topic reader _ := some (if reader then "rt/rq/addRequest".toList else "rt/rr/addReply".toList)
  isLocal := {guid | participantOf guid = pairGid p}
  guid_remote _ endpoint := by
    show participantOf (pairGuid (!p) endpoint) ≠ pairGid p
    cases p <;> cases endpoint <;> decide

def addHash : HashDigits := ⟨List.replicate 64 0x61, rfl⟩

/-- The request for the service `/add`. -/
def addRequest : ServiceRequest (Option HashDigits) where
  name := "/add".toList
  qos :=
    { history := .keepLast
      depth := 10
      reliability := .reliable
      durability := .volatile
      deadline := ⟨0, 0⟩
      lifespan := ⟨0, 0⟩
      liveliness := .automatic
      livelinessLeaseDuration := ⟨0, 0⟩ }
  avoidRosNamespaceConventions := false
  requestTypeName := "p::srv::dds_::Add_Request_".toList
  responseTypeName := "p::srv::dds_::Add_Response_".toList
  typeHash := some addHash

/-- What zzdds makes for the service. -/
def addGuids (reader : Bool) : Option Guid := some (pairGuid true reader)

def addEndpoints : List (Endpoint (Option HashDigits)) :=
  (((CreationCall.service addRequest).perform textLibraries none (pairGid true) addGuids).run none).1

/-- The payloads are the announcements of the endpoints of the service. -/
def addBuiltin (readers : Bool) (_ : List UInt8) : Option BuiltinTopicData :=
  (addEndpoints.find? fun e => e.reader = readers).map Endpoint.announcement

def pairSetting :
    Setting Bool (Tables (Option HashDigits) String) (Option HashDigits) String Bool where
  graph := Tables.graphCache
  records := Tables.records
  parser := textParser addBuiltin
  lib := textLibraries
  identity := pairIdentity
  foreign := ∅

def pairDomain : Domain Bool Unit (Tables (Option HashDigits) String) Bool (Option HashDigits) where
  contexts p :=
    { gid := pairGid p
      graphCache := Tables.empty
      discoveredWriterInstances := fun _ => none
      discoveredReaderInstances := fun _ => none }
  serviceTypeHash _ _ := none
  endpoints _ := none
  alive := ∅

/-- What the other participant takes of the endpoints of the service. -/
def addTake (readers : Bool) : Take Bool :=
  .ok ⟨[[0]], (pairGuid true readers).bytes, [⟨readers, true⟩]⟩ true

theorem samples_addTake (readers : Bool) : (addTake readers).samples =
    [⟨readers, true, some [0], pairGuid true readers, participantOf (pairGuid true readers)⟩] := by
  cases readers <;> rfl

def addActions : List (DomainAction Bool Unit (Tables (Option HashDigits) String)
    (Option HashDigits) String Bool) :=
  [.create true () (.service addRequest) addGuids, .add true (pairGuid true true),
    .refresh false true (addTake false) (addTake true)]

theorem pairDomain_initial : pairSetting.Initial pairDomain where
  contexts p := by
    refine ⟨?_, fun _ _ => rfl, ?_⟩
    · intro readers guid hmem
      cases hmem
    · intro readers handle
      cases readers <;> rfl
  isLocal _ := rfl
  entities _ readers := Set.eq_empty_of_forall_notMem fun _ hmem => by cases hmem
  serviceTypeHash _ _ := rfl
  endpoints _ := rfl
  alive := rfl

theorem addGuids_assigns : pairSetting.Assigns pairDomain true addGuids where
  fresh _ _ _ := rfl
  proper := by
    rintro reader guid ⟨⟩
    exact ⟨by cases reader <;> decide, Set.notMem_empty _⟩
  participant := by
    rintro reader guid ⟨⟩
    cases reader <;> rfl
  distinct := by
    rintro guid ⟨⟩
    decide

def addEndpoint (reader : Bool) : Endpoint (Option HashDigits) :=
  (addEndpoints.find? fun e => e.reader = reader).get (by cases reader <;> rfl)

/-- The run in which the service is created, recorded and discovered. -/
theorem exists_addRun : ∃ d, pairSetting.system.Run pairDomain addActions d ∧
    ∃ info, pairSetting.records.entity (d.contexts false).graphCache true (pairGuid true true) =
      some info := by
  have hcreate : pairSetting.Step pairDomain (.create true () (.service addRequest) addGuids) _ :=
    .create addGuids_assigns rfl
  have hadd : pairSetting.Step _ (.add true (pairGuid true true)) _ :=
    .add (d := (addEndpoints.foldl Domain.withEndpoint pairDomain).withServiceTypeHash true () none)
      (p := true) (e := addEndpoint true) rfl rfl
  have hannounces (readers : Bool) : pairSetting.Announces
      (((addEndpoints.foldl Domain.withEndpoint pairDomain).withServiceTypeHash true ()
        none).withCache true (pairSetting.graph.addEntity (pairGuid true true) (addEndpoint true).info
          true Tables.empty).1) false readers (addTake readers).samples := by
    constructor
    · intro sample hsample _
      rw [samples_addTake] at hsample
      obtain rfl := List.mem_singleton.mp hsample
      refine ⟨rfl, ?_⟩
      cases readers <;> · rintro data ⟨⟩; rfl
    · intro sample hsample _ _
      rw [samples_addTake] at hsample
      obtain rfl := List.mem_singleton.mp hsample
      refine ⟨addEndpoint readers, ?_⟩
      cases readers
      · exact ⟨rfl, rfl, by decide, rfl⟩
      · exact ⟨rfl, rfl, by decide, rfl⟩
  exact ⟨_, .cons hcreate (.cons hadd (.cons (.refresh (hannounces false) (hannounces true))
    (.nil _))), _, rfl⟩

theorem endpoint_described_add : ∃ d, pairSetting.system.Run pairDomain addActions d ∧
    pairSetting.DescribedAlike pairDomain addActions d true (pairGuid true true) := by
  obtain ⟨d, hrun, info, hinfo⟩ := exists_addRun
  exact ⟨d, hrun, Setting.endpoint_described (textParser_decodes _) hrun pairDomain_initial hinfo
    (Set.notMem_empty _)⟩

end RmwZzdds.Graph
