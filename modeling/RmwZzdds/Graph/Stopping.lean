import RmwZzdds.Graph.Listener

/-!
# Stopping the graph listener

*Order.*  The objects of the channel are destroyed behind the join, so no step
uses them afterwards (`objects_live`).

*The wake-up.*  A wait resets the guard condition, and so the thread can lose a
trigger.  But it loses only one that comes after its wait has woken, and the
flag is set before the guard is triggered: the thread either finds the guard
triggered, or sees the flag before it waits again (`Released`).
-/

namespace RmwZzdds.Graph

open Transition

/-! ## Uses -/

section

variable {Cache Node Handle Instance : Type*}

/-- A step that may use the subscription.  The thread may at each of its steps. -/
def ChannelAction.usesSub : ChannelAction Cache Node Handle Instance → Bool
  | .thread _ | .caller .destroySub => true
  | _ => false

/-- A step that may use the guard condition. -/
def ChannelAction.usesGuard : ChannelAction Cache Node Handle Instance → Bool
  | .thread _ | .caller (.trigger _) | .caller .destroyGuard => true
  | _ => false

def ChannelAction.isThread : ChannelAction Cache Node Handle Instance → Bool
  | .thread _ => true
  | _ => false

/-- Neither zzdds nor the allocation fails. -/
def ThreadAction.succeeds : ThreadAction Node → Bool
  | .create ok => ok
  | .enter reserved => reserved
  | .wait action => action.succeeds
  | .take failed returned => !failed && returned == .ok
  | .check | .resume | .handle _ | .notify | .leave => true

end

namespace Channel

variable {Cache TypeHash Node Handle Instance : Type*}
  {graph : GraphCache Cache TypeHash Node} {parser : BuiltinParser TypeHash}
  {identity : Identity Handle}
  {sub : DataPlane.Subscription (ParticipantEntitiesInfo Node) Instance}
  {blank : ParticipantEntitiesInfo Node} {s s' : Channel Cache Node Handle Instance}

/-! ## The order of the calls -/

/-- What the calls that start and stop the thread keep. -/
structure Ordered (s : Channel Cache Node Handle Instance) : Prop where
  stored : ∀ final, s.caller = .stored final → s.threadIsRunning = false
  joined : s.joinable = false → s.thread = .exited
  stopped : s.caller = .stopped ∨ s.caller = .subDestroyed ∨ s.caller = .finalized →
    s.joinable = false
  subLive : s.subLive = true ∨ s.caller = .subDestroyed ∨ s.caller = .finalized
  guardLive : s.guardLive = true ∨ s.caller = .finalized

namespace Ordered

/-- The thread moves on. -/
theorem thread {action : ThreadAction Node} (h : s.Ordered)
    (hstep : ThreadStep graph sub blank s action s') : s'.Ordered := by
  have hjoinable : s.joinable = true := by
    rw [← Bool.not_eq_false]
    exact fun hjoined => hstep.ne_exited (h.joined hjoined)
  obtain ⟨hstored, -, hstopped, hsub, hguard⟩ := h
  have hjoined : ∀ {P : Prop}, s.joinable = false → P := by
    intro P hfalse
    rw [hjoinable] at hfalse
    cases hfalse
  cases hstep with
  | created => exact ⟨hstored, hjoined, hstopped, hsub, hguard⟩
  | notCreated => exact ⟨fun _ _ => rfl, hjoined, hstopped, hsub, hguard⟩
  | check => exact ⟨hstored, hjoined, hstopped, hsub, hguard⟩
  | enter => exact ⟨hstored, hjoined, hstopped, hsub, hguard⟩
  | wait => exact ⟨hstored, hjoined, hstopped, hsub, hguard⟩
  | resume => exact ⟨hstored, hjoined, hstopped, hsub, hguard⟩
  | take => exact ⟨hstored, hjoined, hstopped, hsub, hguard⟩
  | handle => exact ⟨hstored, hjoined, hstopped, hsub, hguard⟩
  | notify => exact ⟨hstored, hjoined, hstopped, hsub, hguard⟩
  | leave => exact ⟨hstored, hjoined, hstopped, hsub, hguard⟩

/-- A call moves on. -/
theorem caller {action : CallerAction} (h : s.Ordered) (hstep : CallerStep s action s') :
    s'.Ordered := by
  obtain ⟨hstored, hjoined, hstopped, hsub, hguard⟩ := h
  cases hstep with
  | started hcaller => constructor <;> simp_all
  | store hcaller => constructor <;> simp_all
  | trigger hcaller => constructor <;> simp_all
  | @join final hcaller hexited =>
      have hthread : s.thread = .exited := by
        cases hjoinable : s.joinable with
        | true => exact hexited hjoinable
        | false => exact hjoined hjoinable
      constructor <;> cases final <;> simp_all
  | destroySub hcaller => constructor <;> simp_all
  | destroyGuard hcaller => constructor <;> simp_all

theorem initial (h : s.Initial graph identity) : s.Ordered where
  stored final hcaller := by
    rw [h.caller] at hcaller
    cases hcaller
  joined hjoined := by
    rw [h.joinable] at hjoined
    cases hjoined
  stopped hcaller := by
    rw [h.caller] at hcaller
    simp at hcaller
  subLive := .inl h.subLive
  guardLive := .inl h.guardLive

end Ordered

variable [DecidableEq Node] [DecidableEq Handle]

theorem Ordered.step {a : ChannelAction Cache Node Handle Instance} (h : s.Ordered)
    (hstep : Step graph parser identity sub blank s a s') : s'.Ordered := by
  cases hstep with
  | thread action hnext => exact h.thread (threadStep_of_next hnext)
  | caller action hnext => exact h.caller (callerStep_of_next hnext)
  | arrive sample hkept => exact ⟨h.stored, h.joined, h.stopped, h.subLive, h.guardLive⟩
  | discover hdiscover hne => exact ⟨h.stored, h.joined, h.stopped, h.subLive, h.guardLive⟩

theorem ordered_reachable (h : (system graph parser identity sub blank).Reachable s) :
    s.Ordered :=
  h.invariant (fun _ h0 => .initial h0) fun _ _ _ hs hstep => hs.step hstep

/-- In every run, no step uses the subscription or the guard condition of the
channel once it has been destroyed, and each of them is destroyed at most once. -/
theorem objects_live {a : ChannelAction Cache Node Handle Instance}
    (h : (system graph parser identity sub blank).Reachable s)
    (hstep : Step graph parser identity sub blank s a s') :
    (a.usesSub = true → s.subLive = true) ∧ (a.usesGuard = true → s.guardLive = true) := by
  have hordered := ordered_reachable h
  have hlive : s.caller ≠ .finalized → s.guardLive = true := hordered.guardLive.resolve_right
  have hsub : s.caller ≠ .subDestroyed → s.caller ≠ .finalized → s.subLive = true := by
    intro hdestroyed hfinalized
    exact hordered.subLive.resolve_right (not_or.mpr ⟨hdestroyed, hfinalized⟩)
  cases hstep with
  | thread action hnext =>
      have hrunning := (threadStep_of_next hnext).ne_exited
      have hnot (hcaller : s.caller = .stopped ∨ s.caller = .subDestroyed ∨
          s.caller = .finalized) : False :=
        hrunning (hordered.joined (hordered.stopped hcaller))
      constructor
      · exact fun _ => hsub (fun hc => hnot (.inr (.inl hc))) fun hc => hnot (.inr (.inr hc))
      · exact fun _ => hlive fun hc => hnot (.inr (.inr hc))
  | caller action hnext =>
      cases callerStep_of_next hnext with
      | started => exact ⟨nofun, nofun⟩
      | store => exact ⟨nofun, nofun⟩
      | trigger hcaller => exact ⟨nofun, fun _ => hlive (by simp [hcaller])⟩
      | join => exact ⟨nofun, nofun⟩
      | destroySub hcaller =>
          exact ⟨fun _ => hsub (by simp [hcaller]) (by simp [hcaller]), nofun⟩
      | destroyGuard hcaller =>
          exact ⟨nofun, fun _ => hlive (by simp [hcaller])⟩
  | arrive => exact ⟨nofun, nofun⟩
  | discover => exact ⟨nofun, nofun⟩

/-! ## A channel -/

/-- A subscription that reads a node of another participant in every payload. -/
def talkerSubscription : DataPlane.Subscription (ParticipantEntitiesInfo String) Unit where
  callbacks :=
    { hasKey := false
      getSerializedSize _ := 0
      serialize _ _ := (false, [])
      deserialize _ _ := (true, ⟨participantOf (remoteGuid true), ["talker"]⟩) }
  ignoreLocalPublications := false
  localPublicationGuids := ∅
  publicationGuid _ := none
  readerInit payload := !payload.isEmpty

def blankMessage : ParticipantEntitiesInfo String := ⟨zeroGuid, []⟩

/-- The channel of a context without endpoints. -/
def lonelyChannel : Channel (Tables Unit String) String Bool Unit where
  context := lonelyContext
  wait := .start 2
  queue := []
  threadIsRunning := true
  thread := .creating
  startup := none
  joinable := true
  caller := .starting
  subLive := true
  guardLive := true

def lonelySystem : System (Channel (Tables Unit String) String Bool Unit)
    (ChannelAction (Tables Unit String) String Bool Unit) :=
  system Tables.graphCache chatterParser chatterIdentity talkerSubscription blankMessage

theorem lonelyChannel_initial : lonelyChannel.Initial Tables.graphCache chatterIdentity :=
  ⟨initial_lonelyContext, rfl, rfl, rfl, rfl, rfl, rfl, rfl, rfl⟩

theorem lonelyChannel_reachable : lonelySystem.Reachable lonelyChannel :=
  .init lonelyChannel_initial

/-- `stop_graph_listener` has triggered the guard condition, and a run has followed
with the labels `as`. -/
def StopsWith (as : List (ChannelAction (Tables Unit String) String Bool Unit))
    (s'' : Channel (Tables Unit String) String Bool Unit) : Prop :=
  ∃ s s', lonelySystem.Reachable s ∧ lonelySystem.step s (.caller (.trigger true)) s' ∧
    lonelySystem.Run s' as s''

theorem stopsWith_trigger {s s' : Channel (Tables Unit String) String Bool Unit}
    (h : lonelySystem.Reachable s) (hnext : s.callerNext (.trigger true) = some s') :
    StopsWith [] s' :=
  ⟨s, s', h, .caller (.trigger true) hnext, .nil s'⟩

theorem StopsWith.thread {s s' : Channel (Tables Unit String) String Bool Unit}
    {as : List (ChannelAction (Tables Unit String) String Bool Unit)} (h : StopsWith as s)
    (action : ThreadAction String)
    (hnext : s.threadNext Tables.graphCache talkerSubscription blankMessage action = some s') :
    StopsWith (as ++ [.thread action]) s' := by
  obtain ⟨s₀, s₁, hs₀, htrigger, hrun⟩ := h
  exact ⟨s₀, s₁, hs₀, htrigger, hrun.append (.cons (.thread action hnext) (.nil s'))⟩

/-- The thread is in the zzdds wait while `stop_graph_listener` sets the flag and
triggers the guard condition, and exits. -/
theorem exists_stopsWith : ∃ as s, StopsWith as s ∧ s.thread = .exited := by
  have hcreated := lonelyChannel_reachable.step (.thread (.create true) rfl)
  have hstarted := hcreated.step (.caller .started rfl)
  have hchecked := hstarted.step (.thread .check rfl)
  have hentered := hchecked.step (.thread (.enter true) rfl)
  have hsub := hentered.step (.thread (.wait (.attach 0 .attached)) rfl)
  have hguard := hsub.step (.thread (.wait (.attach 0 .attached)) rfl)
  have hstored := hguard.step (.caller (.store true) rfl)
  have htriggered := stopsWith_trigger hstored rfl
  have hwoken := htriggered.thread (.wait (.wake 0 .ok [.guard .listenerThreadGc])) rfl
  have hdetached := hwoken.thread (.wait (.detach 0 true)) rfl
  have hdetached := hdetached.thread (.wait (.detach 0 true)) rfl
  have hvisiting := hdetached.thread (.wait (.detached 0)) rfl
  have hreset := hvisiting.thread (.wait (.reset 0 .listenerThreadGc)) rfl
  have hreturned := hreset.thread (.wait (.finish 0)) rfl
  have hresumed := hreturned.thread .resume rfl
  have hchecked := hresumed.thread .check rfl
  exact ⟨_, _, hchecked.thread .leave rfl, rfl⟩

theorem objects_live_stopping : ∃ s s', lonelySystem.Reachable s ∧
    lonelySystem.step s (.caller (.trigger true)) s' ∧ s.guardLive = true := by
  obtain ⟨as, s'', ⟨s, s', hs, htrigger, -⟩, -⟩ := exists_stopsWith
  exact ⟨s, s', hs, htrigger, (objects_live hs htrigger).2 rfl⟩

/-! ## The wait of the thread -/

omit [DecidableEq Node] [DecidableEq Handle]

/-- Where the thread goes on after `rmw_wait`. -/
theorem afterWait_cases (Node : Type*)
    (value : Wait.WaitReturn ListenerGuard ListenerCondition) :
    (afterWait value : Thread Node) = .leaving ∨ (afterWait value : Thread Node) = .taking ∨
      (afterWait value : Thread Node) = .checking := by
  rw [afterWait]
  split
  · exact .inl rfl
  · split
    · exact .inr (.inl rfl)
    · exact .inr (.inr rfl)

/-- What the wait set has to do with the thread. -/
structure Waits (s : Channel Cache Node Handle Instance) : Prop where
  valid : s.wait.Valid
  capacity : s.wait.maxConditions = 2
  entered : ∀ call, s.thread = .waiting call →
    ∃ stage, s.wait.calls call = some ⟨listenerArrays, stage⟩ ∧ stage.Filled ∧
      stage.remaining listenerArrays ≤ 8
  current : ∀ call, s.wait.current = some call → s.thread = .waiting call ∧
    ∀ arrays value, s.wait.calls call ≠ some ⟨arrays, .returned value⟩

namespace Waits

/-- The thread moves on and stays out of `rmw_wait`. -/
theorem outside (h : s.Waits) (hwait : s'.wait = s.wait)
    (hidle : ∀ call, s.wait.current ≠ some call)
    (hthread : ∀ call, s'.thread ≠ .waiting call) : s'.Waits where
  valid := hwait ▸ h.valid
  capacity := hwait ▸ h.capacity
  entered call hcall := absurd hcall (hthread call)
  current call hcall := absurd (hwait ▸ hcall) (hidle call)

/-- Outside of `rmw_wait` no call is in progress. -/
theorem idle (h : s.Waits) (hthread : ∀ call, s.thread ≠ .waiting call) (call : Nat) :
    s.wait.current ≠ some call :=
  fun hcurrent => hthread call (h.current call hcurrent).1

theorem enter {reserved : Bool} {wait : Wait.State ListenerGuard ListenerCondition}
    (h : s.Waits) (hbegin : Wait.Step s.wait (.begin listenerArrays none reserved) wait) :
    { s.withThread (.waiting s.wait.nextCall) with wait := wait }.Waits := by
  have hvalid := h.valid.step hbegin
  have hcapacity := (Wait.maxConditions_step hbegin).trans h.capacity
  cases hbegin with
  | refused hcurrent hchecks =>
      refine ⟨hvalid, hcapacity, ?_, ?_⟩
      · rintro call ⟨⟩
        exact ⟨_, Function.update_self .., trivial, Nat.zero_le _⟩
      · intro call hcall
        exact absurd (hcurrent.symm.trans hcall) (Option.some_ne_none call).symm
  | begun hcurrent hchecks =>
      refine ⟨hvalid, hcapacity, ?_, ?_⟩
      · rintro call ⟨⟩
        exact ⟨_, Function.update_self .., trivial, Nat.le_refl _⟩
      · rintro call ⟨⟩
        refine ⟨rfl, fun arrays value hreturned => ?_⟩
        have hself := s.wait.calls_withCall s.wait.nextCall
          ⟨listenerArrays, .attaching [] listenerArrays.attachments⟩
        cases hself.symm.trans hreturned

theorem wait {call : Nat} {action : Wait.Action ListenerGuard ListenerCondition}
    {wait : Wait.State ListenerGuard ListenerCondition} (h : s.Waits)
    (hthread : s.thread = .waiting call) (hcall : action.call = some call)
    (hstep : Wait.Step s.wait action wait) : { s with wait := wait }.Waits := by
  obtain ⟨stage, hstage, hfilled, hle⟩ := h.entered call hthread
  obtain ⟨new, hnew, hmoves⟩ := Wait.remaining_step hstep hcall hstage
  refine ⟨h.valid.step hstep, (Wait.maxConditions_step hstep).trans h.capacity, ?_, ?_⟩
  · intro other hother
    rw [show s.thread = _ from hother] at hthread
    cases hthread
    obtain ⟨arrays, stage'⟩ := new
    obtain rfl : arrays = listenerArrays := hmoves.arrays
    have harrays : none ∉ listenerArrays.guardConditions := by decide
    exact ⟨stage', hnew, hmoves.filled harrays hfilled, hmoves.remaining.le.trans hle⟩
  · intro other hother
    have hcurrent : wait.current = some other := hother
    obtain hnone | ⟨hsame, hprogress⟩ := hmoves.current
    · rw [hnone] at hcurrent
      cases hcurrent
    · rw [hsame] at hcurrent
      have hwaiting := (h.current other hcurrent).1
      rw [hwaiting] at hthread
      cases hthread
      refine ⟨hwaiting, fun arrays value hreturned => ?_⟩
      rw [show wait.calls call = _ from hreturned] at hnew
      cases hnew
      exact hprogress value rfl

theorem thread {action : ThreadAction Node} (h : s.Waits)
    (hstep : ThreadStep graph sub blank s action s') : s'.Waits := by
  cases hstep with
  | created hthread =>
      exact h.outside rfl (h.idle (by simp [hthread])) nofun
  | notCreated hthread =>
      exact h.outside rfl (h.idle (by simp [hthread])) nofun
  | check hthread =>
      refine h.outside rfl (h.idle (by simp [hthread])) fun call => ?_
      simp only [withThread]
      split <;> simp
  | enter hthread hbegin => exact h.enter hbegin
  | wait hthread hcall hwait => exact h.wait hthread hcall hwait
  | @resume call arrays value hthread hreturned =>
      refine h.outside rfl (fun other hcurrent => ?_) fun other => ?_
      · obtain ⟨hwaiting, hprogress⟩ := h.current other hcurrent
        rw [hwaiting] at hthread
        cases hthread
        exact hprogress arrays value hreturned
      · obtain hafter | hafter | hafter := afterWait_cases Node value <;>
          simp [withThread, hafter]
  | take hthread =>
      refine h.outside rfl (h.idle (by simp [hthread])) fun call => ?_
      simp only [withThread]
      split <;> simp
  | handle hthread =>
      refine h.outside rfl (h.idle (by simp [hthread])) fun call => ?_
      simp only [withThread]
      split <;> simp
  | notify hthread =>
      exact h.outside rfl (h.idle (by simp [hthread])) nofun
  | leave hthread =>
      exact h.outside rfl (h.idle (by simp [hthread])) nofun

theorem caller {action : CallerAction} (h : s.Waits) (hstep : CallerStep s action s') :
    s'.Waits := by
  cases hstep with
  | started => exact ⟨h.valid, h.capacity, h.entered, h.current⟩
  | store => exact ⟨h.valid, h.capacity, h.entered, h.current⟩
  | @trigger final ok hcaller =>
      cases ok with
      | false => exact ⟨h.valid, h.capacity, h.entered, h.current⟩
      | true =>
          have hvalid := h.valid.step (.trigger ListenerGuard.listenerThreadGc)
          exact ⟨hvalid, h.capacity, h.entered, h.current⟩
  | join => exact ⟨h.valid, h.capacity, h.entered, h.current⟩
  | destroySub => exact ⟨h.valid, h.capacity, h.entered, h.current⟩
  | destroyGuard => exact ⟨h.valid, h.capacity, h.entered, h.current⟩

theorem initial (h : s.Initial graph identity) : s.Waits where
  valid := h.wait ▸ .start 2
  capacity := by rw [h.wait]; rfl
  entered call hcall := by
    rw [h.thread] at hcall
    cases hcall
  current call hcall := by
    rw [h.wait] at hcall
    cases hcall

end Waits

/-! ## The wake-up -/

/-- The thread is about to wait, or in the zzdds wait. -/
def beforeWake (s : Channel Cache Node Handle Instance) : Bool :=
  match s.thread with
  | .entering => true
  | .waiting call => (s.wait.calls call).any fun wait => wait.stage.beforeWake
  | _ => false

/-- The thread has been told to stop, and will not miss it. -/
structure Released (s : Channel Cache Node Handle Instance) : Prop where
  flag : s.threadIsRunning = false
  triggered : s.beforeWake = true → s.wait.triggered .listenerThreadGc = true

namespace Released

theorem thread {action : ThreadAction Node} (h : s.Released) (hwaits : s.Waits)
    (hstep : ThreadStep graph sub blank s action s') : s'.Released := by
  cases hstep with
  | created => exact ⟨h.flag, nofun⟩
  | notCreated => exact ⟨rfl, nofun⟩
  | check =>
      refine ⟨h.flag, ?_⟩
      rw [h.flag]
      exact nofun
  | enter hthread hbegin =>
      have htriggered := h.triggered (by rw [beforeWake, hthread])
      refine ⟨h.flag, fun _ => ?_⟩
      refine (Wait.triggered_step hbegin _).mpr (.inr ⟨htriggered, ?_⟩)
      rintro ⟨call, ⟨⟩⟩
  | @wait call action wait hthread hcall hwait =>
      obtain ⟨stage, hstage, -, -⟩ := hwaits.entered call hthread
      obtain ⟨new, hnew, hmoves⟩ := Wait.remaining_step hwait hcall hstage
      refine ⟨h.flag, fun hbefore => ?_⟩
      simp only [beforeWake, hthread, hnew, Option.any_some] at hbefore
      obtain ⟨hold, hsame⟩ := hmoves.beforeWake hbefore
      show wait.triggered _ = true
      rw [hsame]
      exact h.triggered (by simp only [beforeWake, hthread, hstage, Option.any_some, hold])
  | @resume call arrays value =>
      refine ⟨h.flag, ?_⟩
      obtain hafter | hafter | hafter := afterWait_cases Node value <;>
        simp [beforeWake, withThread, hafter]
  | take =>
      refine ⟨h.flag, ?_⟩
      simp only [beforeWake, withThread]
      split <;> split_ifs at * <;> simp_all
  | handle =>
      refine ⟨h.flag, ?_⟩
      simp only [beforeWake, withThread]
      split <;> split_ifs at * <;> simp_all
  | notify => exact ⟨h.flag, nofun⟩
  | leave => exact ⟨h.flag, nofun⟩

theorem caller {action : CallerAction} (h : s.Released) (hstep : CallerStep s action s') :
    s'.Released := by
  cases hstep with
  | started => exact ⟨h.flag, h.triggered⟩
  | store => exact ⟨rfl, h.triggered⟩
  | @trigger final ok hcaller =>
      cases ok with
      | false => exact ⟨h.flag, h.triggered⟩
      | true => exact ⟨h.flag, fun _ => s.wait.triggered_setTriggerValue _ true⟩
  | join => exact ⟨h.flag, h.triggered⟩
  | destroySub => exact ⟨h.flag, h.triggered⟩
  | destroyGuard => exact ⟨h.flag, h.triggered⟩

/-- A trigger releases the thread, wherever it is. -/
theorem of_trigger (h : s.Ordered) (hstep : CallerStep s (.trigger true) s') : s'.Released := by
  cases hstep with
  | trigger hcaller =>
      exact ⟨h.stored _ hcaller, fun _ => s.wait.triggered_setTriggerValue _ true⟩

end Released

/-! ## The steps that are left -/

/-- An upper bound of the steps that the thread has left, once it has been told to
stop. -/
def rank (s : Channel Cache Node Handle Instance) : Nat :=
  match s.thread with
  | .creating => 3
  | .checking => 2
  | .entering => 15
  | .waiting call => 6 + (s.wait.calls call).elim 0 Wait.WaitCall.remaining
  | .taking => 5
  | .handling _ => 4
  | .notifying => 3
  | .leaving => 1
  | .exited => 0

theorem rank_le (h : s.Waits) : s.rank ≤ 15 := by
  rw [rank]
  split
  case h_4 call hthread =>
    obtain ⟨stage, hstage, -, hle⟩ := h.entered call hthread
    rw [hstage]
    exact Nat.add_le_add_left (Nat.le_succ_of_le hle) 6
  all_goals decide

/-- Each step of a thread that has been told to stop brings it nearer to its
end. -/
theorem rank_thread {action : ThreadAction Node} (h : s.Released) (hwaits : s.Waits)
    (hstep : ThreadStep graph sub blank s action s') : s'.rank < s.rank := by
  cases hstep with
  | created hthread => simp [rank, withThread, hthread]
  | notCreated hthread => simp [rank, withThread, hthread]
  | check hthread => simp [rank, withThread, hthread, h.flag]
  | enter hthread hbegin =>
      obtain ⟨stage, hstage, -, hle⟩ := (hwaits.enter hbegin).entered _ rfl
      simp only [rank, withThread, hthread]
      rw [show _ = _ from hstage]
      exact Nat.lt_succ_of_le (Nat.add_le_add_left hle 6)
  | @wait call action wait hthread hcall hwait =>
      obtain ⟨stage, hstage, -, -⟩ := hwaits.entered call hthread
      obtain ⟨new, hnew, hmoves⟩ := Wait.remaining_step hwait hcall hstage
      have hlt := hmoves.remaining
      simp only [rank, hthread, hnew, hstage, Option.elim_some]
      omega
  | @resume call arrays value hthread hreturned =>
      obtain hafter | hafter | hafter := afterWait_cases Node value <;>
        simp only [rank, withThread, hthread, hreturned, hafter] <;> omega
  | take hthread =>
      simp only [rank, withThread, hthread]
      split_ifs <;> simp
  | handle hthread =>
      simp only [rank, withThread, hthread]
      split_ifs <;> simp
  | notify hthread => simp [rank, withThread, hthread]
  | leave hthread => simp [rank, withThread, hthread]

theorem rank_caller {action : CallerAction} (hstep : CallerStep s action s') :
    s'.rank = s.rank := by
  cases hstep with
  | @trigger final ok hcaller => cases ok <;> rfl
  | _ => rfl

/-! ## The thread goes on -/

/-- The conditions with which the zzdds wait of the thread returns. -/
def activeConditions (s : Channel Cache Node Handle Instance) :
    List (Wait.Condition ListenerGuard ListenerCondition) :=
  s.wait.attached.filter fun
    | .guard guard => s.wait.triggered guard
    | .other _ => !s.queue.isEmpty

theorem guard_mem_activeConditions {guard : ListenerGuard} :
    .guard guard ∈ s.activeConditions ↔
      .guard guard ∈ s.wait.attached ∧ s.wait.triggered guard = true :=
  List.mem_filter

theorem other_mem_activeConditions {other : ListenerCondition} :
    .other other ∈ s.activeConditions ↔
      .other other ∈ s.wait.attached ∧ (!s.queue.isEmpty) = true :=
  List.mem_filter

/-- The wait of a thread that will not miss its wake-up returns. -/
theorem exists_wake (h : s.Released) {call : Nat} (hthread : s.thread = .waiting call)
    {stage : Wait.Stage ListenerGuard ListenerCondition}
    (hstage : s.wait.calls call = some ⟨listenerArrays, stage⟩) (hasleep : stage.asleep = true)
    (hvalid : s.wait.Valid) :
    s.mayWake (.wake call .ok s.activeConditions) = true ∧
      (s.wait.next (.wake call .ok s.activeConditions)).isSome = true := by
  have htriggered := h.triggered (by
    simp only [beforeWake, hthread, hstage, Option.any_some]
    cases stage with
    | attaching => rfl
    | _ => cases hasleep)
  cases stage with
  | attaching attached rest =>
      cases rest with
      | cons => cases hasleep
      | nil =>
          obtain ⟨hall, hattached⟩ := hvalid.stage call _ hstage
          rw [List.map_nil, List.append_nil] at hall
          have hguard : .guard .listenerThreadGc ∈ s.wait.attached := by
            refine hattached _ ?_
            rw [show attached = listenerArrays.attachments.map _ from hall]
            exact List.mem_cons_of_mem _ (List.mem_cons_self ..)
          have hactive := guard_mem_activeConditions.mpr ⟨hguard, htriggered⟩
          have hreturns : s.wait.Returns s.activeConditions .ok := by
            refine ⟨fun condition hmem => (List.mem_filter.mp hmem).1, fun condition hmem => ?_⟩
            cases condition with
            | guard guard => exact guard_mem_activeConditions.trans (and_iff_right hmem)
            | other other => trivial
          constructor
          · simp only [mayWake, Bool.and_eq_true, Bool.not_eq_true', List.isEmpty_eq_false_iff,
              beq_iff_eq]
            refine ⟨List.ne_nil_of_mem hactive, ?_⟩
            rw [Bool.eq_iff_iff, decide_eq_true_iff, Bool.and_eq_true, decide_eq_true_iff]
            exact other_mem_activeConditions
          · rw [Wait.State.next]
            simp only [hstage, hreturns, if_true, Option.isSome_some]
  | _ => cases hasleep

/-- A thread that will not miss its wake-up can go on until it has exited. -/
theorem Released.exists_next [DecidableEq Node] (graph : GraphCache Cache TypeHash Node)
    (sub : DataPlane.Subscription (ParticipantEntitiesInfo Node) Instance)
    (blank : ParticipantEntitiesInfo Node) (h : s.Released) (hwaits : s.Waits) :
    s.thread = .exited ∨ ∃ action : ThreadAction Node, action.succeeds = true ∧
      (s.threadNext graph sub blank action).isSome = true := by
  cases hthread : s.thread with
  | creating => exact .inr ⟨.create true, rfl, by simp [threadNext, hthread]⟩
  | checking => exact .inr ⟨.check, rfl, by simp [threadNext, hthread]⟩
  | entering =>
      refine .inr ⟨.enter true, rfl, ?_⟩
      have hidle : s.wait.current = none := by
        rw [Option.eq_none_iff_forall_ne_some]
        exact hwaits.idle (by simp [hthread])
      have hchecks : Wait.waitChecks 2 listenerArrays none true = none := by decide
      rw [← hwaits.capacity] at hchecks
      simp [threadNext, hthread, Wait.State.next, hidle, hchecks]
  | waiting call =>
      obtain ⟨stage, hstage, hfilled, -⟩ := hwaits.entered call hthread
      cases hasleep : stage.asleep with
      | true =>
          obtain ⟨hwake, hnext⟩ := exists_wake h hthread hstage hasleep hwaits.valid
          refine .inr ⟨.wait (.wake call .ok s.activeConditions), rfl, ?_⟩
          simp [threadNext, hthread, hwake, hnext, Wait.Action.call]
      | false =>
          by_cases hreturned : ∃ value, stage = .returned value
          · obtain ⟨value, rfl⟩ := hreturned
            exact .inr ⟨.resume, rfl, by simp [threadNext, hthread, hstage]⟩
          · rw [not_exists] at hreturned
            obtain ⟨action, hcall, hsucceeds, hwake, hnext⟩ :=
              Wait.exists_next hstage hfilled hasleep hreturned
            refine .inr ⟨.wait action, hsucceeds, ?_⟩
            have hmay : s.mayWake action = true := by
              cases action with
              | wake other result active =>
                  cases hcall
                  exact absurd rfl (hwake result active)
              | _ => rfl
            simp [threadNext, hthread, hcall, hmay, hnext]
  | taking => exact .inr ⟨.take false .ok, rfl, by simp [threadNext, hthread]⟩
  | handling message => exact .inr ⟨.handle message, rfl, by simp [threadNext, hthread]⟩
  | notifying => exact .inr ⟨.notify, rfl, by simp [threadNext, hthread]⟩
  | leaving => exact .inr ⟨.leave, rfl, by simp [threadNext, hthread]⟩
  | exited => exact .inl rfl

/-! ## Runs -/

variable [DecidableEq Node] [DecidableEq Handle]

theorem Waits.step {a : ChannelAction Cache Node Handle Instance} (h : s.Waits)
    (hstep : Step graph parser identity sub blank s a s') : s'.Waits := by
  cases hstep with
  | thread action hnext => exact h.thread (threadStep_of_next hnext)
  | caller action hnext => exact h.caller (callerStep_of_next hnext)
  | arrive sample hkept => exact ⟨h.valid, h.capacity, h.entered, h.current⟩
  | discover hdiscover hne => exact ⟨h.valid, h.capacity, h.entered, h.current⟩

theorem waits_reachable (h : (system graph parser identity sub blank).Reachable s) : s.Waits :=
  h.invariant (fun _ h0 => .initial h0) fun _ _ _ hs hstep => hs.step hstep

theorem Released.step {a : ChannelAction Cache Node Handle Instance} (h : s.Released)
    (hwaits : s.Waits) (hstep : Step graph parser identity sub blank s a s') : s'.Released := by
  cases hstep with
  | thread action hnext => exact h.thread hwaits (threadStep_of_next hnext)
  | caller action hnext => exact h.caller (callerStep_of_next hnext)
  | arrive sample hkept => exact ⟨h.flag, h.triggered⟩
  | discover hdiscover hne => exact ⟨h.flag, h.triggered⟩

theorem rank_step {a : ChannelAction Cache Node Handle Instance} (h : s.Released)
    (hwaits : s.Waits) (hstep : Step graph parser identity sub blank s a s') :
    if a.isThread then s'.rank < s.rank else s'.rank = s.rank := by
  cases hstep with
  | thread action hnext => exact rank_thread h hwaits (threadStep_of_next hnext)
  | caller action hnext => exact rank_caller (callerStep_of_next hnext)
  | arrive sample hkept => rfl
  | discover hdiscover hne => rfl

/-- Once `stop_graph_listener` has triggered the guard condition, the thread takes
at most fifteen more steps, however the others interleave, and until it has exited
it can take one that waits for no other: the join returns. -/
theorem stop_joins {s'' : Channel Cache Node Handle Instance}
    {as : List (ChannelAction Cache Node Handle Instance)}
    (h : (system graph parser identity sub blank).Reachable s)
    (htrigger : Step graph parser identity sub blank s (.caller (.trigger true)) s')
    (hrun : (system graph parser identity sub blank).Run s' as s'') :
    as.countP ChannelAction.isThread ≤ 15 ∧
      (s''.thread = .exited ∨ ∃ action : ThreadAction Node, action.succeeds = true ∧
        (s''.threadNext graph sub blank action).isSome = true) := by
  have hstart : s'.Released ∧ s'.Waits := by
    constructor
    · cases htrigger with
      | caller action hnext => exact .of_trigger (ordered_reachable h) (callerStep_of_next hnext)
    · exact (waits_reachable h).step htrigger
  have hkept : ∀ (t : Channel Cache Node Handle Instance) a t', t.Released ∧ t.Waits →
      Step graph parser identity sub blank t a t' → t'.Released ∧ t'.Waits :=
    fun t a t' ht hstep => ⟨ht.1.step ht.2 hstep, ht.2.step hstep⟩
  constructor
  · have hcount := hrun.countP_add_le ChannelAction.isThread rank hkept
      (fun t a t' ht hstep hmine => by
        have hrank := rank_step ht.1 ht.2 hstep
        rwa [if_pos hmine] at hrank)
      (fun t a t' ht hstep hmine => by
        have hrank := rank_step ht.1 ht.2 hstep
        rw [hmine, if_neg Bool.false_ne_true] at hrank
        exact hrank.le)
      hstart
    have hle := rank_le hstart.2
    omega
  · obtain ⟨hreleased, hwaits⟩ :=
      hrun.invariant hstart fun t a t' _ ht hstep => hkept t a t' ht hstep
    exact hreleased.exists_next graph sub blank hwaits

theorem stop_joins_stopping : ∃ as s, StopsWith as s ∧ s.thread = .exited ∧
    as.countP ChannelAction.isThread ≤ 15 := by
  obtain ⟨as, s, ⟨s₀, s₁, hs₀, htrigger, hrun⟩, hexited⟩ := exists_stopsWith
  exact ⟨as, s, ⟨s₀, s₁, hs₀, htrigger, hrun⟩, hexited, (stop_joins hs₀ htrigger hrun).1⟩

end Channel

end RmwZzdds.Graph
