import RmwZzdds.Graph.Signals
import RmwZzdds.Graph.Stopping

/-!
# What the graph listener hears

*Refinement.*  Beside the steps of the other threads, a run of the channel does
to the context just the updates of the messages that the thread has handled
(`Channel.project`), so all that is known of the runs of discovery is known of
it.

*Messages.*  They are handled in the order in which their samples have arrived,
each at most once.  A sample that a newer one has replaced is not handled.
-/

namespace RmwZzdds.Graph

open DataPlane (RawTake ReturnCode Visible rmwTake takeSample)
open Service (Guid)
open Transition

/-! ## Taking -/

section Taking

variable {M Instance : Type*}

/-- The message in a sample, if taking it gives one. -/
def decodes (sub : DataPlane.Subscription M Instance) (blank : M) (raw : RawTake Instance) :
    Option M :=
  let result := takeSample sub .ok blank (raw.visible .ok)
  if result.ret = .ok ∧ result.taken = true then some result.message else none

variable {sub : DataPlane.Subscription M Instance} {blank : M}

theorem takeVisibleSample_suffix (returned : ReturnCode) (queue : List (RawTake Instance)) :
    (sub.takeVisibleSample returned queue).2 <:+ queue := by
  induction queue with
  | nil => exact List.suffix_refl []
  | cons raw queue ih =>
      rw [DataPlane.Subscription.takeVisibleSample]
      split
      · exact ih.trans (List.suffix_cons raw queue)
      · exact List.suffix_cons raw queue

/-- A sample that is found is the last of those removed. -/
theorem takeVisibleSample_ok {returned : ReturnCode} {queue rest : List (RawTake Instance)}
    {payload : List UInt8} {info : DataPlane.SampleInfo Instance}
    (h : sub.takeVisibleSample returned queue = (.ok (payload, info), rest)) :
    ∃ skipped raw, queue = skipped ++ raw :: rest ∧
      raw.visible returned = .ok (payload, info) := by
  induction queue with
  | nil => cases h
  | cons raw queue ih =>
      rw [DataPlane.Subscription.takeVisibleSample] at h
      split at h
      · obtain ⟨skipped, raw', rfl, hvisible⟩ := ih h
        exact ⟨raw :: skipped, raw', rfl, hvisible⟩
      · obtain ⟨hvisible, rfl⟩ := Prod.mk.inj h
        exact ⟨[], raw, rfl, hvisible⟩

/-- A message that `rmw_take` returns is that of one sample, and the samples behind
it stay. -/
theorem rmwTake_taken {returned : ReturnCode} {queue rest : List (RawTake Instance)}
    {result : DataPlane.TakeResult M} (h : rmwTake sub returned blank queue = (result, rest))
    (hret : result.ret = .ok) (htaken : result.taken = true) :
    ∃ skipped raw, queue = skipped ++ raw :: rest ∧ decodes sub blank raw = some result.message := by
  rw [rmwTake] at h
  obtain ⟨hresult, hrest⟩ := Prod.mk.inj h
  cases hvisible : sub.takeVisibleSample returned queue with
  | mk visible rest' =>
      rw [hvisible] at hresult hrest
      cases hrest
      cases visible with
      | error code =>
          cases code <;> · rw [← hresult] at htaken; cases htaken
      | ok sample =>
          obtain ⟨payload, info⟩ := sample
          obtain ⟨skipped, raw, rfl, hraw⟩ := takeVisibleSample_ok hvisible
          refine ⟨skipped, raw, rfl, ?_⟩
          have hreturned : returned = .ok := by
            by_contra hne
            rw [← hresult, takeSample] at htaken
            simp [hne] at htaken
          subst hreturned
          rw [decodes, hraw, hresult, if_pos ⟨hret, htaken⟩]

/-- A take that fails leaves the samples. -/
theorem rmwTake_failed (returned : ReturnCode) (queue : List (RawTake Instance)) :
    rmwTake sub returned blank (⟨.error, [], []⟩ :: queue) = (⟨.error, blank, false⟩, queue) := by
  rw [rmwTake, DataPlane.Subscription.takeVisibleSample, if_neg]
  · rfl
  · exact Bool.false_ne_true

/-- The samples that a take leaves are the last ones. -/
theorem rmwTake_suffix (returned : ReturnCode) (queue : List (RawTake Instance)) :
    (rmwTake sub returned blank queue).2 <:+ queue :=
  takeVisibleSample_suffix returned queue

end Taking

/-! ## Labels -/

section Labels

variable {Cache Node Handle Instance : Type*}

/-- What discovery sees of a step. -/
def ChannelAction.discovery : ChannelAction Cache Node Handle Instance →
    Option (Action Cache Node Handle)
  | .thread (.handle message) => some (.update message)
  | .discover action => some action
  | _ => none

/-- The message that the thread handles in a step. -/
def ChannelAction.handled : ChannelAction Cache Node Handle Instance →
    Option (ParticipantEntitiesInfo Node)
  | .thread (.handle message) => some message
  | _ => none

/-- The sample that arrives in a step. -/
def ChannelAction.arrived : ChannelAction Cache Node Handle Instance → Option (RawTake Instance)
  | .arrive _ sample => some sample
  | _ => none

/-- The step changes the cache for another participant. -/
def ChannelAction.Changes (gid : Guid) (a : ChannelAction Cache Node Handle Instance) : Prop :=
  ∃ message, a = .thread (.handle message) ∧ message.gid ≠ gid

/-- The nodes in the last of the messages of a participant. -/
def lastNodes (guid : Guid) (messages : List (ParticipantEntitiesInfo Node)) :
    Option (List Node) :=
  ((messages.filter fun message => message.gid = guid).getLast?).map
    ParticipantEntitiesInfo.nodeEntitiesInfoSeq

theorem lastNodes_concat (guid : Guid) (messages : List (ParticipantEntitiesInfo Node))
    (message : ParticipantEntitiesInfo Node) :
    lastNodes guid (messages ++ [message]) =
      if message.gid = guid then some message.nodeEntitiesInfoSeq else lastNodes guid messages := by
  rw [lastNodes, List.filter_append]
  by_cases hguid : message.gid = guid <;> simp [hguid, lastNodes]

end Labels

variable {Cache TypeHash Node Handle Instance : Type*} {graph : GraphCache Cache TypeHash Node}
  {parser : BuiltinParser TypeHash} {identity : Identity Handle}
  {sub : DataPlane.Subscription (ParticipantEntitiesInfo Node) Instance}
  {blank : ParticipantEntitiesInfo Node}

/-! ## The nodes of a participant -/

/-- The nodes that the cache has of a participant. -/
def Context.nodes (graph : GraphCache Cache TypeHash Node) (guid : Guid)
    (c : Context Cache Handle) : List Node :=
  (graph.participant c.graphCache guid).getD []

section Nodes

variable {c c' : Context Cache Handle} {guid : Guid}

theorem nodes_update (hgraph : graph.Lawful) (message : ParticipantEntitiesInfo Node)
    (hremote : guid ≠ c.gid) :
    (updateParticipantEntities graph message c).nodes graph guid =
      if message.gid = guid then message.nodeEntitiesInfoSeq else c.nodes graph guid := by
  rw [updateParticipantEntities]
  by_cases hguid : message.gid = guid
  · subst hguid
    rw [if_pos hremote, if_pos rfl, Context.nodes, hgraph.participant_updateParticipantEntities,
      Function.update_self, Option.getD_some]
  · rw [if_neg hguid]
    split
    · rw [Context.nodes, hgraph.participant_updateParticipantEntities,
        Function.update_of_ne (Ne.symm hguid), Context.nodes]
    · rfl

variable [DecidableEq Handle]

theorem nodes_apply (hgraph : graph.Lawful) (readers : Bool) (p : Progress Cache Handle)
    (sample : Sample Handle) :
    (graph.participant (p.apply graph parser readers sample).cache guid).getD [] =
      (graph.participant p.cache guid).getD [] := by
  rw [Progress.apply]
  split
  · split
    · rfl
    · next info _ =>
        have hentry := (hgraph.participant_addEntity sample.endpoint info readers
          (graph.addParticipant sample.participant [] p.cache)).trans
            (hgraph.participant_addParticipant _ _ _)
        show (graph.participant (graph.addEntity sample.endpoint info readers
          (graph.addParticipant sample.participant [] p.cache)).1 guid).getD [] = _
        rw [hentry]
        by_cases hguid : guid = sample.participant
        · subst hguid
          rw [Function.update_self, Option.getD_some]
        · rw [Function.update_of_ne hguid]
  · rw [participant_depart hgraph]

theorem nodes_consume (hgraph : graph.Lawful) (readers changed : Bool) (take : Take Handle) :
    (c.consume graph parser readers take changed).2.1.nodes graph guid = c.nodes graph guid := by
  have hfold : ∀ (samples : List (Sample Handle)) (p : Progress Cache Handle),
      (graph.participant (samples.foldl (Progress.apply graph parser readers) p).cache guid).getD
        [] = (graph.participant p.cache guid).getD [] := by
    intro samples
    induction samples with
    | nil => exact fun p => rfl
    | cons sample samples ih =>
        intro p
        rw [List.foldl_cons, ih, nodes_apply hgraph]
  rw [Context.nodes, consume_snd, graphCache_withProgress]
  exact hfold _ _

/-- A refresh leaves the nodes as they are, with or without an error. -/
theorem nodes_refresh (hgraph : graph.Lawful) (lookups : Bool)
    (publications subscriptions : Take Handle) :
    (refreshDiscoveredEndpoints graph parser lookups publications subscriptions c).context.nodes
      graph guid = c.nodes graph guid := by
  cases lookups with
  | false => rfl
  | true =>
      simp only [refreshDiscoveredEndpoints, Bool.not_true, Bool.false_eq_true, if_false]
      split
      · exact (nodes_consume hgraph true _ _).trans (nodes_consume hgraph false _ _)
      · exact nodes_consume hgraph false _ _

/-- A step of discovery leaves the nodes of another participant, unless it is an
update. -/
theorem nodes_step (hgraph : graph.Lawful) {a : Action Cache Node Handle}
    (hstep : Graph.Step graph parser identity c a c') (hne : ∀ message, a ≠ .update message)
    (hremote : guid ≠ c.gid) : c'.nodes graph guid = c.nodes graph guid := by
  cases hstep with
  | refresh => exact nodes_refresh hgraph _ _ _
  | update message => exact absurd rfl (hne message)
  | changeLocal _ hparticipants => exact congrArg (Option.getD · []) (hparticipants guid hremote)

end Nodes

/-! ## Runs -/

namespace Channel

variable {s s₀ s' : Channel Cache Node Handle Instance}

/-- The message that the thread has in hand. -/
def inHand (s : Channel Cache Node Handle Instance) : List (ParticipantEntitiesInfo Node) :=
  match s.thread with
  | .handling message => [message]
  | _ => []

/-- The messages that the thread has not handled yet. -/
def pending (sub : DataPlane.Subscription (ParticipantEntitiesInfo Node) Instance)
    (blank : ParticipantEntitiesInfo Node) (s : Channel Cache Node Handle Instance) :
    List (ParticipantEntitiesInfo Node) :=
  s.inHand ++ s.queue.filterMap (decodes sub blank)

/-- A step of the thread puts off no message and brings none forward. -/
theorem pending_thread {action : ThreadAction Node}
    (hstep : ThreadStep graph sub blank s action s') :
    ((ChannelAction.thread action : ChannelAction Cache Node Handle Instance).handled.toList ++
      s'.pending sub blank).Sublist (s.pending sub blank) := by
  have hmoved (hqueue : s'.queue = s.queue) (hhand : ∀ message, s'.thread ≠ .handling message) :
      (s'.pending sub blank).Sublist (s.pending sub blank) := by
    have hnil : s'.inHand = [] := by
      rw [inHand]
      split
      · next message hthread => exact absurd hthread (hhand message)
      · rfl
    rw [pending, pending, hnil, hqueue]
    exact List.sublist_append_right _ _
  cases hstep with
  | created => exact hmoved rfl (by simp [withThread])
  | notCreated => exact hmoved rfl (by simp [withThread])
  | check =>
      refine hmoved rfl fun message => ?_
      simp only [withThread]
      split <;> simp
  | enter => exact hmoved rfl (by simp [withThread])
  | wait => exact List.Sublist.refl _
  | @resume call arrays value =>
      refine hmoved rfl fun message => ?_
      obtain hafter | hafter | hafter := afterWait_cases Node value <;> simp [withThread, hafter]
  | @take failed returned result queue hthread htake =>
      have hempty : s.inHand = [] := by rw [inHand, hthread]
      rw [pending, pending, hempty, List.nil_append]
      cases failed with
      | true =>
          rw [if_pos rfl, rmwTake_failed] at htake
          cases htake
          exact List.Sublist.refl _
      | false =>
          rw [if_neg Bool.false_ne_true] at htake
          by_cases htaken : result.ret = .ok ∧ result.taken = true
          · obtain ⟨skipped, raw, hqueue, hraw⟩ := rmwTake_taken htake htaken.1 htaken.2
            rw [hqueue, List.filterMap_append, List.filterMap_cons_some hraw]
            simp only [withThread, inHand, if_pos htaken]
            exact List.sublist_append_right _ _
          · have hsuffix : (rmwTake sub returned blank s.queue).2 <:+ s.queue :=
              rmwTake_suffix returned s.queue
            rw [htake] at hsuffix
            simp only [withThread, inHand, if_neg htaken]
            exact hsuffix.sublist.filterMap _
  | @handle message hthread =>
      have hhand : s.inHand = [message] := by rw [inHand, hthread]
      have hempty : ({ s.withThread (if message.gid ≠ s.context.gid then .notifying else .checking)
          with context := updateParticipantEntities graph message s.context } :
            Channel Cache Node Handle Instance).inHand = [] := by
        simp only [inHand, withThread]
        split_ifs <;> rfl
      rw [pending, pending, hhand, hempty]
      exact List.Sublist.refl _
  | notify => exact hmoved rfl (by simp [withThread])
  | leave => exact hmoved rfl (by simp [withThread])

variable [DecidableEq Node] [DecidableEq Handle]
  {as : List (ChannelAction Cache Node Handle Instance)}
  {a : ChannelAction Cache Node Handle Instance}

theorem pending_step (hstep : Step graph parser identity sub blank s a s') :
    (a.handled.toList ++ s'.pending sub blank).Sublist
      (s.pending sub blank ++ a.arrived.toList.filterMap (decodes sub blank)) := by
  cases hstep with
  | thread action hnext =>
      refine (pending_thread (threadStep_of_next hnext)).trans ?_
      exact List.sublist_append_left _ _
  | caller action hnext =>
      have hkept : s'.pending sub blank = s.pending sub blank := by
        cases callerStep_of_next hnext <;> rfl
      rw [hkept]
      exact List.sublist_append_left _ _
  | arrive sample hkept =>
      simp only [pending, ChannelAction.handled, ChannelAction.arrived, Option.toList_none,
        Option.toList_some, List.nil_append, List.filterMap_append, List.append_assoc]
      exact ((hkept.filterMap _).append_right _).append_left _
  | discover hdiscover hne => exact List.sublist_append_left _ _

/-- A step of the channel is one of discovery, or leaves the context. -/
theorem does_step (hstep : Step graph parser identity sub blank s a s') :
    (Graph.system graph parser identity).Does s.context a.discovery s'.context := by
  cases hstep with
  | thread action hnext =>
      cases threadStep_of_next hnext with
      | @handle message hthread => exact Graph.Step.update message
      | _ => rfl
  | caller action hnext => cases callerStep_of_next hnext <;> rfl
  | arrive sample hkept => rfl
  | discover hdiscover hne => exact hdiscover

omit [DecidableEq Node] [DecidableEq Handle] in
theorem filterMap_concat {α β : Type*} (f : α → Option β) (as : List α) (a : α) :
    (as ++ [a]).filterMap f = as.filterMap f ++ (f a).toList := by
  rw [List.filterMap_append, List.filterMap_cons, List.filterMap_nil]
  cases f a <;> rfl

/-- A run goes on with a step of the thread. -/
theorem run_thread {s s' s'' : Channel (Tables Unit String) String Bool Unit}
    {as : List (ChannelAction (Tables Unit String) String Bool Unit)}
    (hrun : lonelySystem.Run s as s') (action : ThreadAction String)
    (h : s'.threadNext Tables.graphCache talkerSubscription blankMessage action = some s'') :
    lonelySystem.Run s (as ++ [.thread action]) s'' :=
  hrun.append (.cons (.thread action h) (.nil s''))

def talkerMessage : ParticipantEntitiesInfo String := ⟨participantOf (remoteGuid true), ["talker"]⟩

/-- A message arrives, wakes the thread and is handled. -/
theorem exists_handled : ∃ as s, lonelySystem.Run lonelyChannel as s ∧
    as.filterMap ChannelAction.handled = [talkerMessage] ∧ s.thread = .notifying := by
  have hcreated := run_thread (.nil lonelyChannel) (.create true) rfl
  have harrived := hcreated.append
    (.cons (.arrive ⟨.ok, [[0]], [⟨true, (), 0, 0⟩]⟩ (List.nil_sublist _)) (.nil _))
  have hchecked := run_thread harrived .check rfl
  have hentered := run_thread hchecked (.enter true) rfl
  have hattached := run_thread hentered (.wait (.attach 0 .attached)) rfl
  have hattached := run_thread hattached (.wait (.attach 0 .attached)) rfl
  have hwoken := run_thread hattached (.wait (.wake 0 .ok [.other .sub])) rfl
  have hdetached := run_thread hwoken (.wait (.detach 0 true)) rfl
  have hdetached := run_thread hdetached (.wait (.detach 0 true)) rfl
  have hvisiting := run_thread hdetached (.wait (.detached 0)) rfl
  have hnullified := run_thread hvisiting (.wait (.nullify 0)) rfl
  have hreturned := run_thread hnullified (.wait (.finish 0)) rfl
  have hresumed := run_thread hreturned .resume rfl
  have htaken := run_thread hresumed (.take false .ok) rfl
  have hhandled := run_thread htaken (.handle talkerMessage) rfl
  exact ⟨_, _, hhandled, rfl, rfl⟩

/-- Every run of the channel is, for the context, a run of discovery whose updates
are the messages that the thread has handled.  These and the ones still to be
handled are among those that have arrived, in their order. -/
theorem listener_refines (hrun : (system graph parser identity sub blank).Run s₀ as s)
    (hinit : s₀.Initial graph identity) :
    (Graph.system graph parser identity).Run s₀.context (as.filterMap ChannelAction.discovery)
        s.context ∧
      (as.filterMap ChannelAction.handled ++ s.pending sub blank).Sublist
        ((s₀.queue ++ as.filterMap ChannelAction.arrived).filterMap (decodes sub blank)) := by
  constructor
  · exact hrun.project fun _ _ _ hstep => does_step hstep
  · refine hrun.history (I := fun as s => (as.filterMap ChannelAction.handled ++
      s.pending sub blank).Sublist
        ((s₀.queue ++ as.filterMap ChannelAction.arrived).filterMap (decodes sub blank))) ?_ ?_
    · have hempty : s₀.inHand = [] := by rw [inHand, hinit.thread]
      rw [pending, hempty, List.filterMap_nil, List.filterMap_nil, List.append_nil]
      exact List.Sublist.refl _
    · intro bs t b t' _ hbefore hstep
      rw [filterMap_concat, filterMap_concat, List.append_assoc, ← List.append_assoc s₀.queue,
        List.filterMap_append]
      refine ((pending_step hstep).append_left _).trans ?_
      rw [← List.append_assoc]
      exact hbefore.append_right _

theorem listener_refines_handled : ∃ as s, lonelySystem.Run lonelyChannel as s ∧
    as.filterMap ChannelAction.handled = [talkerMessage] ∧
    (as.filterMap ChannelAction.handled ++ s.pending talkerSubscription blankMessage).Sublist
      ((as.filterMap ChannelAction.arrived).filterMap (decodes talkerSubscription blankMessage)) := by
  obtain ⟨as, s, hrun, hhandled, -⟩ := exists_handled
  exact ⟨as, s, hrun, hhandled, (listener_refines hrun lonelyChannel_initial).2⟩

/-- When the thread comes to `notify_graph_change`, and when it leaves it. -/
theorem notifying_step (hstep : Step graph parser identity sub blank s a s') :
    s'.thread = .notifying ↔
      a.Changes s.context.gid ∨ s.thread = .notifying ∧ a ≠ .thread .notify := by
  cases hstep with
  | thread action hnext =>
      cases threadStep_of_next hnext with
      | created hthread => simp [ChannelAction.Changes, withThread, hthread]
      | notCreated hthread => simp [ChannelAction.Changes, withThread, hthread]
      | check hthread =>
          simp only [ChannelAction.Changes, withThread, hthread]
          split_ifs <;> simp
      | enter hthread => simp [ChannelAction.Changes, withThread, hthread]
      | wait hthread => simp [ChannelAction.Changes, hthread]
      | @resume call arrays value hthread =>
          obtain hafter | hafter | hafter := afterWait_cases Node value <;>
            simp [ChannelAction.Changes, withThread, hthread, hafter]
      | take hthread =>
          simp only [ChannelAction.Changes, withThread, hthread]
          split_ifs <;> simp
      | handle hthread =>
          simp only [ChannelAction.Changes, withThread, hthread]
          split_ifs with hremote <;> simp [hremote]
      | notify hthread => simp [ChannelAction.Changes, withThread]
      | leave hthread => simp [ChannelAction.Changes, withThread, hthread]
  | caller action hnext =>
      have hthread : s'.thread = s.thread := by cases callerStep_of_next hnext <;> rfl
      simp [ChannelAction.Changes, hthread]
  | arrive sample hkept => simp [ChannelAction.Changes]
  | discover hdiscover hne => simp [ChannelAction.Changes]

/-- What a step does to the nodes of another participant. -/
theorem nodes_step (hgraph : graph.Lawful) (hstep : Step graph parser identity sub blank s a s')
    {guid : Guid} (hremote : guid ≠ s.context.gid) (messages : List (ParticipantEntitiesInfo Node))
    (h : s.context.nodes graph guid = (lastNodes guid messages).getD []) :
    s'.context.nodes graph guid = (lastNodes guid (messages ++ a.handled.toList)).getD [] := by
  have hsame {c : Context Cache Handle} (hc : c.nodes graph guid = s.context.nodes graph guid)
      (hhandled : a.handled = none) :
      c.nodes graph guid = (lastNodes guid (messages ++ a.handled.toList)).getD [] := by
    rw [hc, hhandled, Option.toList_none, List.append_nil]
    exact h
  cases hstep with
  | thread action hnext =>
      cases threadStep_of_next hnext with
      | @handle message hthread =>
          show (updateParticipantEntities graph message s.context).nodes graph guid =
            (lastNodes guid (messages ++ [message])).getD []
          rw [nodes_update hgraph message hremote, lastNodes_concat]
          split_ifs
          · rfl
          · exact h
      | _ => exact hsame rfl rfl
  | caller action hnext =>
      have hcontext : s'.context = s.context := by cases callerStep_of_next hnext <;> rfl
      exact hsame (congrArg _ hcontext) rfl
  | arrive sample hkept => exact hsame rfl rfl
  | discover hdiscover hne => exact hsame (Graph.nodes_step hgraph hdiscover hne hremote) rfl

theorem gid_channel_step (hstep : Step graph parser identity sub blank s a s') :
    s'.context.gid = s.context.gid := by
  have hdoes := does_step hstep
  cases hdiscovery : a.discovery with
  | none =>
      rw [hdiscovery] at hdoes
      rw [show s'.context = s.context from hdoes]
  | some action =>
      rw [hdiscovery] at hdoes
      exact gid_step hdoes

/-- In every run, the nodes that the cache has of another participant are those of
its last message that the thread has handled, and the graph guard has been triggered
since, unless the thread is about to. -/
theorem listener_announces (hgraph : graph.Lawful)
    (hrun : (system graph parser identity sub blank).Run s₀ as s)
    (hinit : s₀.Initial graph identity) :
    (∀ guid ≠ s₀.context.gid, s.context.nodes graph guid =
        (lastNodes guid (as.filterMap ChannelAction.handled)).getD []) ∧
      (Since (ChannelAction.Changes s₀.context.gid) (· = .thread .notify) as ↔
        s.thread = .notifying) := by
  have hkept := hrun.history (I := fun as s => s.context.gid = s₀.context.gid ∧
    (∀ guid ≠ s₀.context.gid, s.context.nodes graph guid =
      (lastNodes guid (as.filterMap ChannelAction.handled)).getD []) ∧
    (Since (ChannelAction.Changes s₀.context.gid) (· = .thread .notify) as ↔
      s.thread = .notifying)) ?_ ?_
  · exact hkept.2
  · refine ⟨rfl, ?_, ?_⟩
    · intro guid hremote
      rw [Context.nodes, hinit.context.2.1 guid hremote]
      rfl
    · rw [hinit.thread]
      exact ⟨fun h => absurd h (not_since_nil _ _), nofun⟩
  · rintro bs t b t' - ⟨hgid, hnodes, hsignal⟩ hstep
    refine ⟨(gid_channel_step hstep).trans hgid, ?_, ?_⟩
    · intro guid hremote
      rw [filterMap_concat]
      exact nodes_step hgraph hstep (hgid ▸ hremote) _ (hnodes guid hremote)
    · rw [since_concat, hsignal, notifying_step hstep, hgid]

theorem listener_announces_handled : ∃ as s, lonelySystem.Run lonelyChannel as s ∧
    s.context.nodes Tables.graphCache (participantOf (remoteGuid true)) = ["talker"] := by
  obtain ⟨as, s, hrun, hhandled, -⟩ := exists_handled
  have hnodes := (listener_announces Tables.lawful hrun lonelyChannel_initial).1
    (participantOf (remoteGuid true)) (by decide)
  rw [hhandled] at hnodes
  exact ⟨as, s, hrun, hnodes⟩

end Channel

end RmwZzdds.Graph
