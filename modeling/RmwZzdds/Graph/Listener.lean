import RmwZzdds.DataPlane.Take
import RmwZzdds.Graph.Participants
import RmwZzdds.Library.Progress
import RmwZzdds.Wait.Progress

/-!
# The graph listener

`initialize_graph_channel` starts a thread that waits on the subscription of the
graph channel and on a guard condition of its own.  It takes one message a
round, and one of another participant goes to the graph cache and to the graph
guard.  `stop_graph_listener` sets a flag, triggers the guard condition and joins
the thread, and `finalize_graph_channel` destroys the channel afterwards.

*Steps.*  The thread takes one step for each access of what it shares with
others.  In `rmw_wait` these are the steps of `Wait.State.next`.  The calls of
`rmw_init`, `rmw_shutdown` and `rmw_context_fini` follow each other, so their
parts that concern the channel are one sequence of steps.  Any other thread
refreshes the graph cache or changes it, and messages arrive.

*zzdds.*  A wait without a time limit returns with an active condition or an
error.  The condition of the subscription is active if there is a sample to
take.  Samples that have not been taken may be replaced by newer ones.
-/

namespace RmwZzdds.Graph

open DataPlane (RawTake ReturnCode rmwTake)

deriving instance DecidableEq for ParticipantEntitiesInfo

/-! ## The channel -/

/-- The guard conditions of the wait set. -/
inductive ListenerGuard where
  | listenerThreadGc
deriving DecidableEq, Repr

/-- The other conditions of the wait set. -/
inductive ListenerCondition where
  | sub
deriving DecidableEq, Repr

/-- What the thread passes to `rmw_wait`. -/
def listenerArrays : Wait.Arrays ListenerGuard ListenerCondition where
  subscriptions := [some .sub]
  guardConditions := [some .listenerThreadGc]
  services := []
  clients := []
  events := []

/-- Where the thread is. -/
inductive Thread (Node : Type*) where
  /-- Before `rmw_create_wait_set`. -/
  | creating
  /-- At the condition of the loop. -/
  | checking
  /-- Before `rmw_wait`. -/
  | entering
  | waiting (call : Nat)
  /-- Before `rmw_take`. -/
  | taking
  /-- With a message it has taken. -/
  | handling (message : ParticipantEntitiesInfo Node)
  /-- Before `notify_graph_change`. -/
  | notifying
  /-- Before `rmw_destroy_wait_set`. -/
  | leaving
  | exited

/-- Where the calls are that start and stop the thread.  `final` is a call of
`stop_graph_listener` by `finalize_graph_channel`. -/
inductive Caller where
  /-- `initialize_graph_channel` waits for the thread to start. -/
  | starting
  | outside
  /-- The flag is set. -/
  | stored (final : Bool)
  /-- Before `listener_thread.join()`. -/
  | joining (final : Bool)
  /-- Before the subscription is destroyed. -/
  | stopped
  /-- Before the guard condition is destroyed. -/
  | subDestroyed
  | finalized
deriving DecidableEq

/-- The graph channel of a context. -/
structure Channel (Cache Node Handle Instance : Type*) where
  context : Context Cache Handle
  /-- The wait set of the thread, and the guard condition. -/
  wait : Wait.State ListenerGuard ListenerCondition
  /-- The samples that `common.sub` has. -/
  queue : List (RawTake Instance)
  threadIsRunning : Bool
  thread : Thread Node
  /-- What the thread has told of its start. -/
  startup : Option Bool
  joinable : Bool
  caller : Caller
  subLive : Bool
  guardLive : Bool

/-- The steps of the thread.  The flags and outcomes say how zzdds and the
allocation went. -/
inductive ThreadAction (Node : Type*) where
  | create (ok : Bool)
  | check
  | enter (reserved : Bool)
  | wait (action : Wait.Action ListenerGuard ListenerCondition)
  | resume
  | take (failed : Bool) (returned : ReturnCode)
  | handle (message : ParticipantEntitiesInfo Node)
  | notify
  | leave

/-- The steps of the calls that start and stop the thread. -/
inductive CallerAction where
  | started
  | store (final : Bool)
  | trigger (ok : Bool)
  | join
  | destroySub
  | destroyGuard
deriving DecidableEq

namespace Channel

variable {Cache TypeHash Node Handle Instance : Type*}

/-- What zzdds promises of the wait of the thread. -/
def mayWake (s : Channel Cache Node Handle Instance) :
    Wait.Action ListenerGuard ListenerCondition → Bool
  | .wake _ .ok active =>
      !active.isEmpty && (decide (.other .sub ∈ active) ==
        (decide (.other .sub ∈ s.wait.attached) && !s.queue.isEmpty))
  | .wake _ .timeout _ => false
  | _ => true

/-- The channel after the thread has come to another point. -/
def withThread (s : Channel Cache Node Handle Instance) (thread : Thread Node) :
    Channel Cache Node Handle Instance :=
  { s with thread := thread }

/-- Where the thread goes on after a call of `rmw_wait`. -/
def afterWait (value : Wait.WaitReturn ListenerGuard ListenerCondition) : Thread Node :=
  if value.ret ≠ .ok then .leaving
  else if (value.arrays.subscriptions.head?.bind id).isSome then .taking
  else .checking

/-- The thread function of `initialize_graph_channel`.  `blank` is a message as its
constructor leaves it. -/
def threadNext (graph : GraphCache Cache TypeHash Node)
    (sub : DataPlane.Subscription (ParticipantEntitiesInfo Node) Instance)
    (blank : ParticipantEntitiesInfo Node) [DecidableEq Node]
    (s : Channel Cache Node Handle Instance) :
    ThreadAction Node → Option (Channel Cache Node Handle Instance)
  | .create ok =>
      match s.thread with
      | .creating =>
          if ok then some { s.withThread .checking with startup := some true }
          else
            some { s.withThread .exited with
              threadIsRunning := false
              startup := some false }
      | _ => none
  | .check =>
      match s.thread with
      | .checking => some (s.withThread (if s.threadIsRunning then .entering else .leaving))
      | _ => none
  | .enter reserved =>
      match s.thread with
      | .entering =>
          (s.wait.next (.begin listenerArrays none reserved)).map fun wait =>
            { s.withThread (.waiting s.wait.nextCall) with wait := wait }
      | _ => none
  | .wait action =>
      match s.thread with
      | .waiting call =>
          if action.call = some call ∧ s.mayWake action = true then
            (s.wait.next action).map fun wait => { s with wait := wait }
          else none
      | _ => none
  | .resume =>
      match s.thread with
      | .waiting call =>
          match s.wait.calls call with
          | some ⟨_, .returned value⟩ => some (s.withThread (afterWait value))
          | _ => none
      | _ => none
  | .take failed returned =>
      match s.thread with
      | .taking =>
          let (result, queue) := rmwTake sub returned blank
            (if failed then ⟨.error, [], []⟩ :: s.queue else s.queue)
          let thread :=
            if result.ret = .ok ∧ result.taken = true then .handling result.message
            else .checking
          some { s.withThread thread with queue := queue }
      | _ => none
  | .handle message =>
      match s.thread with
      | .handling taken =>
          if taken = message then
            some { s.withThread (if message.gid ≠ s.context.gid then .notifying else .checking) with
              context := updateParticipantEntities graph message s.context }
          else none
      | _ => none
  | .notify =>
      match s.thread with
      | .notifying => some (s.withThread .checking)
      | _ => none
  | .leave =>
      match s.thread with
      | .leaving => some (s.withThread .exited)
      | _ => none

/-- `stop_graph_listener`, and what starts the thread before and destroys the
channel behind it. -/
def callerNext (s : Channel Cache Node Handle Instance) :
    CallerAction → Option (Channel Cache Node Handle Instance)
  | .started =>
      if s.caller = .starting ∧ s.startup.isSome then some { s with caller := .outside } else none
  | .store final =>
      if s.caller = .outside then
        some { s with
          threadIsRunning := false
          caller := .stored final }
      else none
  | .trigger ok =>
      match s.caller with
      | .stored final =>
          (s.wait.next (.trigger .listenerThreadGc ok)).map fun wait =>
            { s with
              wait := wait
              caller := .joining final }
      | _ => none
  | .join =>
      match s.caller with
      | .joining final =>
          let exited := match s.thread with
            | .exited => true
            | _ => false
          if s.joinable && !exited then none
          else
            some { s with
              joinable := false
              caller := if final then .stopped else .outside }
      | _ => none
  | .destroySub =>
      if s.caller = .stopped then
        some { s with
          subLive := false
          caller := .subDestroyed }
      else none
  | .destroyGuard =>
      if s.caller = .subDestroyed then
        some { s with
          guardLive := false
          caller := .finalized }
      else none

end Channel

/-! ## Runs -/

/-- The steps. -/
inductive ChannelAction (Cache Node Handle Instance : Type*) where
  | thread (action : ThreadAction Node)
  | caller (action : CallerAction)
  /-- A sample arrives, and `kept` are those before it that are still there. -/
  | arrive (kept : List (RawTake Instance)) (sample : RawTake Instance)
  /-- Another thread refreshes the graph cache or changes it. -/
  | discover (action : Action Cache Node Handle)

namespace Channel

section

variable {Cache TypeHash Node Handle Instance : Type*} [DecidableEq Node] [DecidableEq Handle]
  (graph : GraphCache Cache TypeHash Node) (parser : BuiltinParser TypeHash)
  (identity : Identity Handle)
  (sub : DataPlane.Subscription (ParticipantEntitiesInfo Node) Instance)
  (blank : ParticipantEntitiesInfo Node)

/-- Right before the thread is started. -/
structure Initial (s : Channel Cache Node Handle Instance) : Prop where
  context : s.context.Initial graph identity
  wait : s.wait = .start 2
  threadIsRunning : s.threadIsRunning = true
  thread : s.thread = .creating
  startup : s.startup = none
  joinable : s.joinable = true
  caller : s.caller = .starting
  subLive : s.subLive = true
  guardLive : s.guardLive = true

/-- The steps. -/
inductive Step (s : Channel Cache Node Handle Instance) :
    ChannelAction Cache Node Handle Instance → Channel Cache Node Handle Instance → Prop where
  | thread (action : ThreadAction Node) {s' : Channel Cache Node Handle Instance} :
      s.threadNext graph sub blank action = some s' → Step s (.thread action) s'
  | caller (action : CallerAction) {s' : Channel Cache Node Handle Instance} :
      s.callerNext action = some s' → Step s (.caller action) s'
  | arrive {kept : List (RawTake Instance)} (sample : RawTake Instance) :
      kept.Sublist s.queue → Step s (.arrive kept sample) { s with queue := kept ++ [sample] }
  | discover {action : Action Cache Node Handle} {context : Context Cache Handle} :
      Graph.Step graph parser identity s.context action context →
      (∀ message, action ≠ .update message) →
      Step s (.discover action) { s with context := context }

/-- The runs of the channel. -/
def system : Transition.System (Channel Cache Node Handle Instance)
    (ChannelAction Cache Node Handle Instance) where
  init := Initial graph identity
  step := Step graph parser identity sub blank

end

/-! ## Inversion -/

variable {Cache TypeHash Node Handle Instance : Type*} {graph : GraphCache Cache TypeHash Node}
  {sub : DataPlane.Subscription (ParticipantEntitiesInfo Node) Instance}
  {blank : ParticipantEntitiesInfo Node} {s s' : Channel Cache Node Handle Instance}

/-- What a step of the thread does. -/
inductive ThreadStep (graph : GraphCache Cache TypeHash Node)
    (sub : DataPlane.Subscription (ParticipantEntitiesInfo Node) Instance)
    (blank : ParticipantEntitiesInfo Node) (s : Channel Cache Node Handle Instance) :
    ThreadAction Node → Channel Cache Node Handle Instance → Prop where
  | created : s.thread = .creating →
      ThreadStep graph sub blank s (.create true)
        { s.withThread .checking with startup := some true }
  | notCreated : s.thread = .creating →
      ThreadStep graph sub blank s (.create false)
        { s.withThread .exited with
          threadIsRunning := false
          startup := some false }
  | check : s.thread = .checking →
      ThreadStep graph sub blank s .check
        (s.withThread (if s.threadIsRunning then .entering else .leaving))
  | enter {reserved : Bool} {wait : Wait.State ListenerGuard ListenerCondition} :
      s.thread = .entering → Wait.Step s.wait (.begin listenerArrays none reserved) wait →
      ThreadStep graph sub blank s (.enter reserved)
        { s.withThread (.waiting s.wait.nextCall) with wait := wait }
  | wait {call : Nat} {action : Wait.Action ListenerGuard ListenerCondition}
      {wait : Wait.State ListenerGuard ListenerCondition} :
      s.thread = .waiting call → action.call = some call → Wait.Step s.wait action wait →
      ThreadStep graph sub blank s (.wait action) { s with wait := wait }
  | resume {call : Nat} {arrays : Wait.Arrays ListenerGuard ListenerCondition}
      {value : Wait.WaitReturn ListenerGuard ListenerCondition} :
      s.thread = .waiting call → s.wait.calls call = some ⟨arrays, .returned value⟩ →
      ThreadStep graph sub blank s .resume (s.withThread (afterWait value))
  | take {failed : Bool} {returned : ReturnCode}
      {result : DataPlane.TakeResult (ParticipantEntitiesInfo Node)}
      {queue : List (RawTake Instance)} :
      s.thread = .taking →
      rmwTake sub returned blank (if failed then ⟨.error, [], []⟩ :: s.queue else s.queue) =
        (result, queue) →
      ThreadStep graph sub blank s (.take failed returned)
        { s.withThread (if result.ret = .ok ∧ result.taken = true then .handling result.message
            else .checking) with queue := queue }
  | handle {message : ParticipantEntitiesInfo Node} : s.thread = .handling message →
      ThreadStep graph sub blank s (.handle message)
        { s.withThread (if message.gid ≠ s.context.gid then .notifying else .checking) with
          context := updateParticipantEntities graph message s.context }
  | notify : s.thread = .notifying → ThreadStep graph sub blank s .notify (s.withThread .checking)
  | leave : s.thread = .leaving → ThreadStep graph sub blank s .leave (s.withThread .exited)

theorem threadStep_of_next [DecidableEq Node] {action : ThreadAction Node}
    (h : s.threadNext graph sub blank action = some s') :
    ThreadStep graph sub blank s action s' := by
  cases action with
  | create ok =>
      simp only [threadNext] at h
      split at h
      · next hthread =>
          cases ok with
          | true =>
              cases h
              exact .created hthread
          | false =>
              cases h
              exact .notCreated hthread
      · cases h
  | check =>
      simp only [threadNext] at h
      split at h
      · next hthread =>
          cases h
          exact .check hthread
      · cases h
  | enter reserved =>
      simp only [threadNext] at h
      split at h
      · next hthread =>
          rw [Option.map_eq_some_iff] at h
          obtain ⟨wait, hnext, h⟩ := h
          cases h
          exact .enter hthread (Wait.step_of_next hnext)
      · cases h
  | wait action =>
      simp only [threadNext] at h
      split at h
      · next hthread =>
          rw [Option.ite_none_right_eq_some, Option.map_eq_some_iff] at h
          obtain ⟨⟨hcall, -⟩, wait, hnext, h⟩ := h
          cases h
          exact .wait hthread hcall (Wait.step_of_next hnext)
      · cases h
  | resume =>
      simp only [threadNext] at h
      split at h
      · next hthread =>
          split at h
          · next hcall =>
              cases h
              exact .resume hthread hcall
          · cases h
      · cases h
  | take failed returned =>
      simp only [threadNext] at h
      split at h
      · next hthread =>
          cases h
          exact .take hthread rfl
      · cases h
  | handle message =>
      simp only [threadNext] at h
      split at h
      · next taken hthread =>
          rw [Option.ite_none_right_eq_some] at h
          obtain ⟨rfl, h⟩ := h
          cases h
          exact .handle hthread
      · cases h
  | notify =>
      simp only [threadNext] at h
      split at h
      · next hthread =>
          cases h
          exact .notify hthread
      · cases h
  | leave =>
      simp only [threadNext] at h
      split at h
      · next hthread =>
          cases h
          exact .leave hthread
      · cases h

/-- The thread takes no step once it has exited. -/
theorem ThreadStep.ne_exited {action : ThreadAction Node}
    (h : ThreadStep graph sub blank s action s') : s.thread ≠ .exited := by
  intro hexited
  cases h <;> simp_all only [reduceCtorEq]

/-- What a step of the calls does. -/
inductive CallerStep (s : Channel Cache Node Handle Instance) :
    CallerAction → Channel Cache Node Handle Instance → Prop where
  | started : s.caller = .starting → s.startup.isSome = true →
      CallerStep s .started { s with caller := .outside }
  | store {final : Bool} : s.caller = .outside →
      CallerStep s (.store final)
        { s with
          threadIsRunning := false
          caller := .stored final }
  | trigger {final ok : Bool} : s.caller = .stored final →
      CallerStep s (.trigger ok)
        { s with
          wait := if ok then s.wait.setTriggerValue .listenerThreadGc true else s.wait
          caller := .joining final }
  | join {final : Bool} : s.caller = .joining final → (s.joinable = true → s.thread = .exited) →
      CallerStep s .join
        { s with
          joinable := false
          caller := if final then .stopped else .outside }
  | destroySub : s.caller = .stopped →
      CallerStep s .destroySub
        { s with
          subLive := false
          caller := .subDestroyed }
  | destroyGuard : s.caller = .subDestroyed →
      CallerStep s .destroyGuard
        { s with
          guardLive := false
          caller := .finalized }

theorem callerStep_of_next {action : CallerAction} (h : s.callerNext action = some s') :
    CallerStep s action s' := by
  cases action with
  | started =>
      simp only [callerNext, Option.ite_none_right_eq_some] at h
      obtain ⟨⟨hcaller, hstartup⟩, h⟩ := h
      cases h
      exact .started hcaller hstartup
  | store final =>
      simp only [callerNext, Option.ite_none_right_eq_some] at h
      obtain ⟨hcaller, h⟩ := h
      cases h
      exact .store hcaller
  | trigger ok =>
      simp only [callerNext] at h
      split at h
      · next hcaller =>
          cases h
          exact .trigger hcaller
      · cases h
  | join =>
      simp only [callerNext] at h
      split at h
      · next final hcaller =>
          rw [Option.ite_none_left_eq_some] at h
          obtain ⟨hexited, h⟩ := h
          cases h
          refine .join hcaller fun hjoinable => ?_
          rw [hjoinable, Bool.true_and, Bool.not_eq_true', Bool.not_eq_false] at hexited
          split at hexited
          · next hthread => exact hthread
          · cases hexited
      · cases h
  | destroySub =>
      simp only [callerNext, Option.ite_none_right_eq_some] at h
      obtain ⟨hcaller, h⟩ := h
      cases h
      exact .destroySub hcaller
  | destroyGuard =>
      simp only [callerNext, Option.ite_none_right_eq_some] at h
      obtain ⟨hcaller, h⟩ := h
      cases h
      exact .destroyGuard hcaller

end Channel

end RmwZzdds.Graph
