import RmwZzdds.Graph.Discovered

/-!
# Participants in the graph cache

A participant gets an entry in the cache with the first of its endpoints that is
recorded, or with its first update about nodes.  Nothing removes an entry, so
its nodes stay in the graph after all its endpoints have departed
(`participant_entry`).
-/

namespace RmwZzdds.Graph

open Service (Guid)
open Transition

variable {Cache TypeHash Node Handle : Type*} [DecidableEq Handle]
  {graph : GraphCache Cache TypeHash Node} {parser : BuiltinParser TypeHash}
  {identity : Identity Handle} {c c' : Context Cache Handle} {guid : Guid}
  {as : List (Action Cache Node Handle)}

/-- The sample announces an endpoint of the participant for the cache. -/
def Announces (parser : BuiltinParser TypeHash) (readers : Bool) (guid : Guid)
    (sample : Sample Handle) : Prop :=
  (announcement parser readers sample).isSome ∧ sample.participant = guid

/-- The step records an endpoint of the participant or an update from it. -/
def Action.Records (parser : BuiltinParser TypeHash) (guid : Guid) :
    Action Cache Node Handle → Prop
  | .refresh _ publications subscriptions =>
      (∃ sample ∈ publications.samples, Announces parser false guid sample) ∨
        ∃ sample ∈ subscriptions.samples, Announces parser true guid sample
  | .update message => message.gid = guid
  | .changeLocal _ => False

/-! ## Samples -/

theorem participant_record (hgraph : graph.Lawful) (readers : Bool) (p : Progress Cache Handle)
    (sample : Sample Handle) (info : EntityInfo TypeHash) :
    graph.participant (p.record graph readers sample info).cache guid = none ↔
      graph.participant p.cache guid = none ∧ sample.participant ≠ guid := by
  have hentry : graph.participant (p.record graph readers sample info).cache =
      Function.update (graph.participant p.cache) sample.participant
        (some ((graph.participant p.cache sample.participant).getD [])) := by
    refine (hgraph.participant_addEntity _ _ _ _).trans ?_
    exact hgraph.participant_addParticipant _ _ _
  rw [hentry]
  by_cases hguid : guid = sample.participant
  · simp [hguid]
  · simp [Function.update_of_ne hguid, Ne.symm hguid]

theorem participant_depart (hgraph : graph.Lawful) (readers : Bool) (p : Progress Cache Handle)
    (handle : Handle) :
    graph.participant (p.depart graph readers handle).cache = graph.participant p.cache := by
  rw [Progress.depart]
  split
  · rfl
  · exact hgraph.participant_removeEntity _ _ _

theorem participant_apply (hgraph : graph.Lawful) (readers : Bool) (p : Progress Cache Handle)
    (sample : Sample Handle) :
    graph.participant (p.apply graph parser readers sample).cache guid = none ↔
      graph.participant p.cache guid = none ∧ ¬ Announces parser readers guid sample := by
  rw [Progress.apply, Announces]
  cases hvalid : sample.validData with
  | false =>
      rw [if_neg Bool.false_ne_true, participant_depart hgraph]
      simp [announcement, hvalid]
  | true =>
      rw [if_pos rfl]
      cases hann : announcement parser readers sample with
      | none => simp
      | some info =>
          simp only [Option.isSome_some, true_and]
          exact participant_record hgraph readers p sample info

theorem participant_foldl (hgraph : graph.Lawful) (readers : Bool)
    (samples : List (Sample Handle)) (p : Progress Cache Handle) :
    graph.participant (samples.foldl (Progress.apply graph parser readers) p).cache guid = none ↔
      graph.participant p.cache guid = none ∧
        ¬ ∃ sample ∈ samples, Announces parser readers guid sample := by
  induction samples generalizing p with
  | nil => simp
  | cons sample samples ih =>
      rw [List.foldl_cons, ih, participant_apply hgraph, and_assoc, List.exists_mem_cons_iff,
        not_or]

/-! ## Steps -/

theorem participant_refresh (hgraph : graph.Lawful) {lookups : Bool}
    {publications subscriptions : Take Handle}
    (hok : (refreshDiscoveredEndpoints graph parser lookups publications subscriptions c).ret =
      .ok) :
    graph.participant (refreshDiscoveredEndpoints graph parser lookups publications subscriptions
        c).context.graphCache guid = none ↔
      graph.participant c.graphCache guid = none ∧
        ¬ (.refresh lookups publications subscriptions : Action Cache Node Handle).Records parser
          guid := by
  obtain ⟨-, -, hrefresh⟩ := refresh_of_ok hok
  rw [hrefresh]
  refine (participant_foldl hgraph true subscriptions.samples _).trans ?_
  rw [Context.progress, graphCache_withProgress]
  refine (and_congr_left' (participant_foldl hgraph false publications.samples _)).trans ?_
  rw [and_assoc, ← not_or]
  rfl

theorem participant_step (hgraph : graph.Lawful) {a : Action Cache Node Handle}
    (hstep : Step graph parser identity c a c') (hok : ConsumesWithoutError graph parser c a)
    (hremote : guid ≠ c.gid) :
    graph.participant c'.graphCache guid = none ↔
      graph.participant c.graphCache guid = none ∧ ¬ a.Records parser guid := by
  cases hstep with
  | refresh => exact participant_refresh hgraph hok
  | update message =>
      rw [updateParticipantEntities, Action.Records]
      by_cases hguid : message.gid = guid
      · subst hguid
        rw [if_pos hremote, hgraph.participant_updateParticipantEntities]
        simp
      · split
        · rw [hgraph.participant_updateParticipantEntities,
            Function.update_of_ne (Ne.symm hguid), and_iff_left hguid]
        · rw [and_iff_left hguid]
  | changeLocal _ hparticipants =>
      rw [hparticipants guid hremote]
      exact (and_iff_left not_false).symm

theorem gid_consume (readers : Bool) (batch : Take Handle) (changed : Bool) :
    (c.consume graph parser readers batch changed).2.1.gid = c.gid := by
  cases readers <;> rfl

theorem gid_refresh (lookups : Bool) (publications subscriptions : Take Handle) :
    (refreshDiscoveredEndpoints graph parser lookups publications subscriptions c).context.gid =
      c.gid := by
  cases lookups with
  | false => rfl
  | true =>
      rw [refreshDiscoveredEndpoints]
      simp only [Bool.not_true, Bool.false_eq_true, if_false]
      split
      · exact (gid_consume true _ _).trans (gid_consume false _ _)
      · exact gid_consume false _ _

theorem gid_step {a : Action Cache Node Handle} (hstep : Step graph parser identity c a c') :
    c'.gid = c.gid := by
  cases hstep with
  | refresh => exact gid_refresh _ _ _
  | update message =>
      rw [updateParticipantEntities]
      split <;> rfl
  | changeLocal => rfl

/-! ## Runs -/

/-- Another participant has no entry just if none of its endpoints was ever
recorded and no update from it received. -/
theorem participant_entry (hgraph : graph.Lawful) {c₀ : Context Cache Handle}
    (hinit : c₀.Initial graph identity)
    (h : ((system graph parser identity).restrict (ConsumesWithoutError graph parser)).Run c₀ as c)
    (hremote : guid ≠ c₀.gid) :
    graph.participant c.graphCache guid = none ↔ ∀ a ∈ as, ¬ a.Records parser guid := by
  have hrun : c.gid = c₀.gid ∧
      (graph.participant c.graphCache guid = none ↔ ∀ a ∈ as, ¬ a.Records parser guid) := by
    refine h.history (I := fun as c => c.gid = c₀.gid ∧
      (graph.participant c.graphCache guid = none ↔ ∀ a ∈ as, ¬ a.Records parser guid)) ?_ ?_
    · simp [hinit.2.1 guid hremote]
    · rintro bs t b t' _ ⟨hgid, hentry⟩ ⟨hok, hstep⟩
      refine ⟨(gid_step hstep).trans hgid, ?_⟩
      rw [participant_step hgraph hstep hok (hgid ▸ hremote), hentry, List.forall_mem_append,
        List.forall_mem_singleton]
  exact hrun.2

/-! ## Departed participants -/

/-- All endpoints of the participant have departed with a refresh, and nothing has
come from it since. -/
def Departed (identity : Identity Handle) (guid : Guid) (as : List (Action Cache Node Handle)) :
    Prop :=
  ∃ bs lookups publications subscriptions cs,
    as = bs ++ .refresh lookups publications subscriptions :: cs ∧
    (∀ readers handle, participantOf (identity.guid readers handle) = guid →
      ¬ LatestValid readers handle (bs ++ [.refresh lookups publications subscriptions])) ∧
    ∀ a ∈ cs,
      (∀ readers, ∀ sample ∈ a.samples readers,
        participantOf (identity.guid readers sample.instanceHandle) ≠ guid) ∧
      ∀ message, a = .update message → message.gid ≠ guid

/-- Two samples of writers that have departed. -/
def departedTake : Take Bool :=
  .ok
    { payloads := []
      hashes := []
      infos := [⟨true, false⟩, ⟨false, false⟩] } true

/-- Two writers are discovered, their participant names its node, and both
depart. -/
def chatterActions : List (Action (Tables Unit String) String Bool) :=
  [.refresh true (chatterTake [0, 1, 0, 0] [0, 1, 0, 0]) .noData,
    .update ⟨participantOf (remoteGuid true), ["talker"]⟩,
    .refresh true departedTake .noData]

theorem samples_departedTake :
    departedTake.samples =
      [⟨true, false, none, zeroGuid, zeroGuid⟩, ⟨false, false, none, zeroGuid, zeroGuid⟩] := rfl

theorem matches_departedTake :
    chatterIdentity.Matches chatterParser false departedTake.samples := by
  intro sample hsample hvalid
  rw [samples_departedTake] at hsample
  obtain rfl | hsample := List.mem_cons.mp hsample
  · cases hvalid
  · rw [List.mem_singleton.mp hsample] at hvalid
    cases hvalid

/-- Neither writer is there after the three steps. -/
theorem not_latestValid_chatterActions (readers handle : Bool) :
    ¬ LatestValid readers handle chatterActions := by
  rintro ⟨sample, hsample, hvalid⟩
  cases readers with
  | true => cases hsample
  | false =>
      cases handle with
      | true =>
          obtain rfl : (⟨true, false, none, zeroGuid, zeroGuid⟩ : Sample Bool) = sample :=
            Option.some.inj hsample
          cases hvalid
      | false =>
          obtain rfl : (⟨false, false, none, zeroGuid, zeroGuid⟩ : Sample Bool) = sample :=
            Option.some.inj hsample
          cases hvalid

/-- The node of a participant that has departed is still in the graph. -/
theorem talker_remains :
    ¬ ∀ c : Context (Tables Unit String) Bool,
      ∀ as guid, ((system Tables.graphCache chatterParser chatterIdentity).restrict
        (ConsumesWithoutError Tables.graphCache chatterParser)).Run lonelyContext as c →
      guid ≠ lonelyContext.gid → Departed chatterIdentity guid as →
      Tables.graphCache.participant c.graphCache guid = none := by
  intro h
  have hrun : ((system Tables.graphCache chatterParser chatterIdentity).restrict
      (ConsumesWithoutError Tables.graphCache chatterParser)).Run lonelyContext chatterActions _ :=
    .cons ⟨by rfl, .refresh (matches_chatterTake _ _) nofun⟩
      (.cons ⟨trivial, .update _⟩ (.cons ⟨by rfl, .refresh matches_departedTake nofun⟩ (.nil _)))
  have hgone := h _ _ (participantOf (remoteGuid true)) hrun (by decide) ?_
  · have hstays : some ["talker"] = none := hgone
    cases hstays
  · refine ⟨chatterActions.take 2, true, departedTake, .noData, [], rfl, ?_, nofun⟩
    exact fun readers handle _ => not_latestValid_chatterActions readers handle

/-- No entry for a participant that has announced nothing. -/
theorem stranger_absent :
    ∃ c : Context (Tables Unit String) Bool,
      c.discoveredWriterInstances = (fun handle => some (remoteGuid handle)) ∧
      Tables.graphCache.participant c.graphCache
        ⟨List.replicate 16 9, List.length_replicate ..⟩ = none := by
  have hrun : ((system Tables.graphCache chatterParser chatterIdentity).restrict
      (ConsumesWithoutError Tables.graphCache chatterParser)).Run lonelyContext
      [.refresh true (chatterTake [0, 1, 0, 0] [0, 1, 0, 0]) .noData] _ :=
    .cons ⟨by rfl, .refresh (matches_chatterTake _ _) nofun⟩ (.nil _)
  refine ⟨_, ?_, (participant_entry Tables.lawful initial_lonelyContext hrun ?_).mpr ?_⟩
  · funext handle
    cases handle <;> rfl
  · decide
  · intro a ha
    rw [List.mem_singleton.mp ha, Action.Records, samples_chatterTake]
    rintro (⟨sample, hsample, -, hguid⟩ | ⟨sample, hsample, -⟩)
    · obtain rfl | hsample := List.mem_cons.mp hsample
      · revert hguid
        decide
      · rw [List.mem_singleton.mp hsample] at hguid
        revert hguid
        decide
    · cases hsample

end RmwZzdds.Graph
