import Mathlib.Data.Finset.Card
import RmwZzdds.Library.Table
import RmwZzdds.Library.Transition
import RmwZzdds.Event.Endpoint
import RmwZzdds.Return
import RmwZzdds.Service.Topic

/-!
# Service availability

A client asks whether a server is available by two counts: the request readers
its request writer is matched with, and the response writers that are ready for
its response reader.  zzdds keeps the first, and `reliable_writer_ready_listener`
the second.

*Servers.*  Any number of them come and go.  `rmw_create_service` creates the
request reader before the response writer, and `rmw_destroy_service` destroys
the writer first.  The client learns of each endpoint on its own, at any time
after the endpoint was created, and may lose and find it again.

*Calls.*  `rmw_service_server_is_available` reads the two counts one after the
other, so it takes two steps and discovery may go on in between.
-/

namespace RmwZzdds.Service.Availability

open Event Transition

/-! ## The two counts -/

/-- `rmw_publisher_count_matched_subscriptions` of the request publisher, whose
publication matched event is `slot`. -/
def rmwPublisherCountMatchedSubscriptions (slot : EventSlot .matched)
    (got : Option (Status .matched)) : Except Ret Nat :=
  match (slot.readMatchedCount got).2.1 with
  | none => .error .error
  | some count => .ok count

/-- `reliable_writer_ready_listener`. -/
def reliableWriterReadyListener (reliableWriterReadyCount : Int32) (isReady : Bool) : Int32 :=
  reliableWriterReadyCount + if isReady then 1 else -1

/-- What `rmw_service_server_is_available` reports once it has both counts. -/
def isAvailable (requestReaders : Nat) (reliableWriterReadyCount : Int32) : Bool :=
  let responseWriterReady := decide (0 < reliableWriterReadyCount)
  decide (0 < requestReaders) && responseWriterReady

/-- The count of matched readers is zzdds's, unless that is negative. -/
theorem countMatchedSubscriptions_some (slot : EventSlot .matched) (now : Status .matched) :
    rmwPublisherCountMatchedSubscriptions slot (some now) =
      .ok (if EventSlot.currentCount now < 0 then 0 else toSizeT (EventSlot.currentCount now)) := by
  have hcount : (slot.readMatchedCount (some now)).2.1 =
      some (if EventSlot.currentCount now < 0 then 0
        else toSizeT (EventSlot.currentCount now)) := by
    simp only [EventSlot.readMatchedCount]
    split
    · next hfailed => exact absurd hfailed (by simp [EventSlot.readStatus])
    · split
      · rfl
      · split <;> rfl
  rw [rmwPublisherCountMatchedSubscriptions, hcount]

/-! ## Servers and what the client knows of them -/

/-- Which endpoints of a server exist. -/
inductive Phase where
  | absent
  /-- `rmw_create_service` has created the request reader. -/
  | requestReader
  /-- It could not create the response writer and removed the reader. -/
  | rolledBack
  | serving
  /-- `rmw_destroy_service` has destroyed the response writer. -/
  | writerDestroyed
  | destroyed
deriving DecidableEq

/-- Whether the server has had a response writer. -/
def Phase.hadWriter : Phase → Bool
  | .serving | .writerDestroyed | .destroyed => true
  | .absent | .requestReader | .rolledBack => false

/-- The servers of a service and one of its clients. -/
structure State (Server : Type*) where
  phase : Server → Phase
  /-- The servers whose request reader the request writer is matched with. -/
  matched : Finset Server
  /-- The servers whose response writer is ready for the response reader. -/
  ready : Finset Server
  reliableWriterReadyCount : Int32
  /-- The calls of `rmw_service_server_is_available` that have counted the
  request readers. -/
  calls : CallId → Option Nat

/-- The steps.  `created` says whether `rmw_create_service` got its response
writer, and `got` is what zzdds's status getter returned. -/
inductive Action (Server : Type*) where
  | createRequestReader (server : Server)
  | createResponseWriter (server : Server) (created : Bool)
  | destroyResponseWriter (server : Server)
  | destroyRequestReader (server : Server)
  | readerMatched (server : Server)
  | readerUnmatched (server : Server)
  | writerReady (server : Server) (isReady : Bool)
  | countMatched (call : CallId) (slot : EventSlot .matched) (got : Option (Status .matched))
  | loadReady (call : CallId)

variable {Server : Type*}

namespace State

def start : State Server where
  phase _ := .absent
  matched := ∅
  ready := ∅
  reliableWriterReadyCount := 0
  calls _ := none

/-- The state with a server in another phase. -/
def withPhase [DecidableEq Server] (s : State Server) (server : Server) (phase : Phase) :
    State Server :=
  { s with phase := Function.update s.phase server phase }

/-- The state with another entry for a call. -/
def withCall (s : State Server) (call : CallId) (entry : Option Nat) : State Server :=
  { s with calls := Function.update s.calls call entry }

/-- The current count of zzdds's publication matched status. -/
def currentCount (s : State Server) : Int32 := Int32.ofNat s.matched.card

/-- What a call that has counted the request readers reports if it loads the
other count now. -/
def report (s : State Server) (call : CallId) : Option Bool :=
  (s.calls call).map fun requestReaders =>
    isAvailable requestReaders s.reliableWriterReadyCount

/-- One step, if it can be taken. -/
def next [DecidableEq Server] (s : State Server) : Action Server → Option (State Server)
  | .createRequestReader server =>
      if s.phase server = .absent then some (s.withPhase server .requestReader) else none
  | .createResponseWriter server created =>
      if s.phase server = .requestReader then
        some (s.withPhase server (if created then .serving else .rolledBack))
      else none
  | .destroyResponseWriter server =>
      if s.phase server = .serving then some (s.withPhase server .writerDestroyed) else none
  | .destroyRequestReader server =>
      if s.phase server = .writerDestroyed then some (s.withPhase server .destroyed) else none
  | .readerMatched server =>
      if s.phase server ≠ .absent ∧ server ∉ s.matched then
        some { s with matched := insert server s.matched }
      else none
  | .readerUnmatched server =>
      if server ∈ s.matched then some { s with matched := s.matched.erase server } else none
  | .writerReady server true =>
      if (s.phase server).hadWriter ∧ server ∉ s.ready then
        some { s with
          ready := insert server s.ready
          reliableWriterReadyCount :=
            reliableWriterReadyListener s.reliableWriterReadyCount true }
      else none
  | .writerReady server false =>
      if server ∈ s.ready then
        some { s with
          ready := s.ready.erase server
          reliableWriterReadyCount :=
            reliableWriterReadyListener s.reliableWriterReadyCount false }
      else none
  | .countMatched call slot got =>
      if s.calls call = none ∧ ∀ now ∈ got, EventSlot.currentCount now = s.currentCount then
        match rmwPublisherCountMatchedSubscriptions slot got with
        | .error _ => some s
        | .ok requestReaders => some (s.withCall call (some requestReaders))
      else none
  | .loadReady call =>
      if s.calls call = none then none else some (s.withCall call none)

end State

/-- The runs of the servers, the client's discovery and its calls. -/
def system (Server : Type*) [DecidableEq Server] : System (State Server) (Action Server) :=
  .ofNext .start State.next

namespace State

variable {s s' : State Server} {a : Action Server}

/-! ## What the counts say -/

/-- `reliable_writer_ready_count` is the number of ready writers, as an
`int32_t`. -/
def Counted (s : State Server) : Prop :=
  s.reliableWriterReadyCount = Int32.ofNat s.ready.card

theorem counted_start : (start : State Server).Counted := rfl

theorem Counted.ready_nonempty (h : s.Counted) (hpos : 0 < s.reliableWriterReadyCount) :
    s.ready.Nonempty := by
  rw [Finset.nonempty_iff_ne_empty]
  intro hempty
  rw [h, hempty, Finset.card_empty] at hpos
  exact absurd hpos (by decide)

/-- A call finds a request reader only if one is matched. -/
theorem matched_nonempty {slot : EventSlot .matched} {now : Status .matched}
    {requestReaders : Nat} (hnow : EventSlot.currentCount now = s.currentCount)
    (hcount : rmwPublisherCountMatchedSubscriptions slot (some now) = .ok requestReaders)
    (hpos : 0 < requestReaders) : s.matched.Nonempty := by
  rw [countMatchedSubscriptions_some, hnow] at hcount
  cases hcount
  rw [Finset.nonempty_iff_ne_empty]
  intro hempty
  rw [currentCount, hempty, Finset.card_empty] at hpos
  exact absurd hpos (by decide)

/-- The listener keeps the count. -/
theorem Counted.step [DecidableEq Server] (h : s.Counted) (hstep : s.next a = some s') :
    s'.Counted := by
  cases a with
  | writerReady server isReady =>
      cases isReady with
      | true =>
          simp only [next, Option.ite_none_right_eq_some, Option.some.injEq] at hstep
          obtain ⟨⟨-, hnew⟩, rfl⟩ := hstep
          rw [Counted, Finset.card_insert_of_notMem hnew, reliableWriterReadyListener, h]
          exact (Int32.ofNat_add _ 1).symm
      | false =>
          simp only [next, Option.ite_none_right_eq_some, Option.some.injEq] at hstep
          obtain ⟨hmem, rfl⟩ := hstep
          have hcard := Finset.card_erase_add_one hmem
          rw [Counted, reliableWriterReadyListener, h, ← hcard, Int32.ofNat_add,
            Int32.add_assoc]
          exact Int32.add_zero _
  | countMatched call slot got =>
      simp only [next, Option.ite_none_right_eq_some] at hstep
      obtain ⟨-, hstep⟩ := hstep
      split at hstep <;> cases hstep <;> exact h
  | loadReady call =>
      simp only [next, Option.ite_none_left_eq_some, Option.some.injEq] at hstep
      obtain ⟨-, rfl⟩ := hstep
      exact h
  | _ =>
      simp only [next, Option.ite_none_right_eq_some, Option.some.injEq] at hstep
      obtain ⟨-, rfl⟩ := hstep
      exact h

/-! ## One server with both endpoints -/

/-- Some server has both its request reader matched and its response writer
ready. -/
def HasServer (s : State Server) : Prop := ∃ server ∈ s.matched, server ∈ s.ready

/-- A request reader is matched, or was when a call in progress counted them. -/
def SeesReader (s : State Server) : Prop :=
  s.matched.Nonempty ∨ ∃ call, ∃ requestReaders ∈ s.calls call, 0 < requestReaders

/-- Both counts can be found positive only if some server has both endpoints. -/
def Refers (s : State Server) : Prop := s.SeesReader → s.ready.Nonempty → s.HasServer

/-- The step does not leave the client with endpoints of different servers
only.

An endpoint that is discovered is the first of either kind, or completes its
server, or some server is complete already.  An endpoint that is lost leaves a
complete server, or no endpoint of one kind. -/
def KeepsServer (s : State Server) : Action Server → Prop
  | .readerMatched server => s.ready = ∅ ∨ server ∈ s.ready ∨ s.HasServer
  | .writerReady server true => ¬ s.SeesReader ∨ server ∈ s.matched ∨ s.HasServer
  | .readerUnmatched server =>
      s.ready = ∅ ∨ (∃ other ∈ s.matched, other ∈ s.ready ∧ other ≠ server) ∨
        s.matched = {server} ∧ ∀ call, ∀ requestReaders ∈ s.calls call, requestReaders = 0
  | .writerReady server false =>
      s.ready = {server} ∨ (∃ other ∈ s.matched, other ∈ s.ready ∧ other ≠ server) ∨
        ¬ s.SeesReader
  | _ => True

theorem refers_start : (start : State Server).Refers := by
  intro _ hready
  exact absurd hready Finset.not_nonempty_empty

/-- A step that discovers and loses nothing keeps the invariant, if a call that
sees a reader after it saw one before. -/
theorem Refers.of_sees (h : s.Refers) (hmatched : s'.matched = s.matched)
    (hready : s'.ready = s.ready) (hsees : s'.SeesReader → s.SeesReader) : s'.Refers := by
  intro hsees' hready'
  rw [HasServer, hmatched, hready]
  rw [hready] at hready'
  exact h (hsees hsees') hready'

/-- A call counts the request readers, or ends. -/
theorem Refers.withCall (h : s.Refers) (call : CallId) {entry : Option Nat}
    (hcount : ∀ requestReaders ∈ entry, 0 < requestReaders → s.matched.Nonempty) :
    (s.withCall call entry).Refers := by
  refine h.of_sees rfl rfl ?_
  rintro (hmatched | ⟨call', requestReaders, hmem, hpos⟩)
  · exact .inl hmatched
  · obtain ⟨-, hentry⟩ | ⟨-, hold⟩ := Table.update_eq_some hmem
    · exact .inl (hcount requestReaders hentry hpos)
    · exact .inr ⟨call', requestReaders, hold, hpos⟩

section Discovery

variable [DecidableEq Server] {server : Server}

theorem refers_readerMatched_iff :
    ({ s with matched := insert server s.matched } : State Server).Refers ↔
      s.KeepsServer (.readerMatched server) := by
  constructor
  · intro h'
    rcases s.ready.eq_empty_or_nonempty with hready | hready
    · exact .inl hready
    · obtain ⟨other, hmatched, hother⟩ := h' (.inl ⟨server, Finset.mem_insert_self ..⟩) hready
      obtain rfl | hmatched := Finset.mem_insert.mp hmatched
      · exact .inr (.inl hother)
      · exact .inr (.inr ⟨other, hmatched, hother⟩)
  · rintro (hready | hserver | ⟨other, hmatched, hother⟩) - hready'
    · exact absurd hready (Finset.nonempty_iff_ne_empty.mp hready')
    · exact ⟨server, Finset.mem_insert_self .., hserver⟩
    · exact ⟨other, Finset.mem_insert_of_mem hmatched, hother⟩

theorem refers_readerUnmatched_iff (hmem : server ∈ s.matched) :
    ({ s with matched := s.matched.erase server } : State Server).Refers ↔
      s.KeepsServer (.readerUnmatched server) := by
  constructor
  · intro h'
    rcases s.ready.eq_empty_or_nonempty with hready | hready
    · exact .inl hready
    by_cases hsees : ({ s with matched := s.matched.erase server } : State Server).SeesReader
    · obtain ⟨other, hmatched, hother⟩ := h' hsees hready
      obtain ⟨hne, hmatched⟩ := Finset.mem_erase.mp hmatched
      exact .inr (.inl ⟨other, hmatched, hother, hne⟩)
    · rw [SeesReader, not_or, Finset.not_nonempty_iff_eq_empty] at hsees
      obtain ⟨hempty, hcalls⟩ := hsees
      refine .inr (.inr ⟨?_, ?_⟩)
      · have hrest : s.matched.erase server = ∅ := hempty
        rw [← Finset.insert_erase hmem, hrest]
        rfl
      · intro call requestReaders hcall
        by_contra hne
        exact hcalls ⟨call, requestReaders, hcall, Nat.pos_of_ne_zero hne⟩
  · rintro (hready | ⟨other, hmatched, hother, hne⟩ | ⟨hmatched, hcalls⟩) hsees hready'
    · exact absurd hready (Finset.nonempty_iff_ne_empty.mp hready')
    · exact ⟨other, Finset.mem_erase_of_ne_of_mem hne hmatched, hother⟩
    · obtain hsees | ⟨call, requestReaders, hcall, hpos⟩ := hsees
      · simp [hmatched] at hsees
      · exact absurd (hcalls call requestReaders hcall) (Nat.ne_of_gt hpos)

theorem refers_writerReady_iff (count : Int32) :
    ({ s with ready := insert server s.ready
              reliableWriterReadyCount := count } : State Server).Refers ↔
      s.KeepsServer (.writerReady server true) := by
  constructor
  · intro h'
    by_cases hsees : s.SeesReader
    · obtain ⟨other, hmatched, hother⟩ := h' hsees ⟨server, Finset.mem_insert_self ..⟩
      obtain rfl | hother := Finset.mem_insert.mp hother
      · exact .inr (.inl hmatched)
      · exact .inr (.inr ⟨other, hmatched, hother⟩)
    · exact .inl hsees
  · rintro (hsees | hserver | ⟨other, hmatched, hother⟩) hsees' -
    · exact absurd hsees' hsees
    · exact ⟨server, hserver, Finset.mem_insert_self ..⟩
    · exact ⟨other, hmatched, Finset.mem_insert_of_mem hother⟩

theorem refers_writerNotReady_iff (count : Int32) (hmem : server ∈ s.ready) :
    ({ s with ready := s.ready.erase server
              reliableWriterReadyCount := count } : State Server).Refers ↔
      s.KeepsServer (.writerReady server false) := by
  constructor
  · intro h'
    by_cases hsees : s.SeesReader
    · rcases (s.ready.erase server).eq_empty_or_nonempty with hempty | hready
      · left
        rw [← Finset.insert_erase hmem, hempty]
        rfl
      · obtain ⟨other, hmatched, hother⟩ := h' hsees hready
        obtain ⟨hne, hother⟩ := Finset.mem_erase.mp hother
        exact .inr (.inl ⟨other, hmatched, hother, hne⟩)
    · exact .inr (.inr hsees)
  · rintro (hready | ⟨other, hmatched, hother, hne⟩ | hsees) hsees' hready'
    · simp [hready] at hready'
    · exact ⟨other, hmatched, Finset.mem_erase_of_ne_of_mem hne hother⟩
    · exact absurd hsees' hsees

/-- A step keeps the invariant just if it keeps a complete server. -/
theorem Refers.step_iff (h : s.Refers) (hstep : s.next a = some s') :
    s'.Refers ↔ s.KeepsServer a := by
  cases a with
  | readerMatched server =>
      simp only [next, Option.ite_none_right_eq_some, Option.some.injEq] at hstep
      obtain ⟨-, rfl⟩ := hstep
      exact refers_readerMatched_iff
  | readerUnmatched server =>
      simp only [next, Option.ite_none_right_eq_some, Option.some.injEq] at hstep
      obtain ⟨hmem, rfl⟩ := hstep
      exact refers_readerUnmatched_iff hmem
  | writerReady server isReady =>
      cases isReady with
      | true =>
          simp only [next, Option.ite_none_right_eq_some, Option.some.injEq] at hstep
          obtain ⟨-, rfl⟩ := hstep
          exact refers_writerReady_iff _
      | false =>
          simp only [next, Option.ite_none_right_eq_some, Option.some.injEq] at hstep
          obtain ⟨hmem, rfl⟩ := hstep
          exact refers_writerNotReady_iff _ hmem
  | countMatched call slot got =>
      refine ⟨fun _ => trivial, fun _ => ?_⟩
      simp only [next, Option.ite_none_right_eq_some] at hstep
      obtain ⟨⟨-, hgot⟩, hstep⟩ := hstep
      split at hstep
      · cases hstep
        exact h
      · next requestReaders hcount =>
          cases hstep
          refine h.withCall call ?_
          rintro _ ⟨⟩ hpos
          cases got with
          | none => cases hcount
          | some now => exact matched_nonempty (hgot now rfl) hcount hpos
  | loadReady call =>
      refine ⟨fun _ => trivial, fun _ => ?_⟩
      simp only [next, Option.ite_none_left_eq_some, Option.some.injEq] at hstep
      obtain ⟨-, rfl⟩ := hstep
      exact h.withCall call (fun _ hmem => by cases hmem)
  | _ =>
      refine ⟨fun _ => trivial, fun _ => ?_⟩
      simp only [next, Option.ite_none_right_eq_some, Option.some.injEq] at hstep
      obtain ⟨-, rfl⟩ := hstep
      exact h

end Discovery

/-! ## Runs -/

variable [DecidableEq Server]

theorem counted_reachable (h : (system Server).Reachable s) : s.Counted := by
  refine h.invariant ?_ ?_
  · rintro _ rfl
    exact counted_start
  · intro t a t' ht hstep
    exact ht.step hstep

theorem refers_reachable (h : ((system Server).restrict KeepsServer).Reachable s) :
    s.Refers := by
  refine h.invariant ?_ ?_
  · rintro _ rfl
    exact refers_start
  · rintro t a t' ht ⟨hkeeps, hstep⟩
    exact (ht.step_iff hstep).mpr hkeeps

omit [DecidableEq Server] in
/-- A call that reports true has found a positive count of either kind. -/
theorem sees_of_report {call : CallId} (hreport : s.report call = some true) :
    s.SeesReader ∧ 0 < s.reliableWriterReadyCount := by
  simp only [report, Option.map_eq_some_iff, isAvailable, Bool.and_eq_true,
    decide_eq_true_eq] at hreport
  obtain ⟨requestReaders, hcall, hpos, hready⟩ := hreport
  exact ⟨.inr ⟨call, requestReaders, hcall, hpos⟩, hready⟩

end State

/-- If every step keeps a complete server, availability refers to one. -/
theorem service_server_is_available [DecidableEq Server] {s : State Server}
    (h : ((system Server).restrict State.KeepsServer).Reachable s) {call : CallId}
    (hreport : s.report call = some true) :
    ∃ server ∈ s.matched, server ∈ s.ready := by
  obtain ⟨hsees, hcount⟩ := State.sees_of_report hreport
  exact State.refers_reachable h hsees
    ((State.counted_reachable h.of_restrict).ready_nonempty hcount)

/-- zzdds's getter finds as many request readers as are matched. -/
def readersMatched (readers : Int32) : Option (Status .matched) :=
  some { totalCount := readers, currentCount := readers : MatchedStatus }

/-- The client discovers the two endpoints of its only server. -/
theorem one_server_available :
    ∃ s : State ℕ, s.report 0 = some true ∧ ∃ server ∈ s.matched, server ∈ s.ready := by
  have hcreated : ((system ℕ).restrict State.KeepsServer).Reachable _ :=
    .step (a := .createResponseWriter 0 true)
      (.step (a := .createRequestReader 0) (.init rfl) ⟨trivial, rfl⟩) ⟨trivial, rfl⟩
  have hdiscovered : ((system ℕ).restrict State.KeepsServer).Reachable _ :=
    .step (a := .writerReady 0 true)
      (.step (a := .readerMatched 0) hcreated ⟨.inl rfl, rfl⟩) ⟨.inr (.inl (by decide)), rfl⟩
  have hcalled : ((system ℕ).restrict State.KeepsServer).Reachable _ :=
    .step (a := .countMatched 0 (EventSlot.create .matched) (readersMatched 1)) hdiscovered
      ⟨trivial, rfl⟩
  have hserver :=
    service_server_is_available hcalled (show State.report _ 0 = some true by rfl)
  exact ⟨_, by rfl, hserver⟩

/-- Two servers start.  The client discovers the request reader of the one and
the response writer of the other. -/
theorem two_servers_available :
    ¬ ∀ s : State ℕ, (system ℕ).Reachable s → ∀ call, s.report call = some true →
      ∃ server ∈ s.matched, server ∈ s.ready := by
  intro h
  have hrun : ∃ s : State ℕ, (system ℕ).Reachable s ∧
      (s.report 0, s.matched, s.ready) = (some true, {0}, {1}) :=
    exists_reachable_of_exec
      [.createRequestReader 0, .createResponseWriter 0 true,
        .createRequestReader 1, .createResponseWriter 1 true,
        .readerMatched 0, .writerReady 1 true,
        .countMatched 0 (EventSlot.create .matched) (readersMatched 1)]
      (fun s : State ℕ => (s.report 0, s.matched, s.ready)) _ (by rfl)
  obtain ⟨s, hs, hview⟩ := hrun
  simp only [Prod.mk.injEq] at hview
  obtain ⟨hreport, hmatched, hready⟩ := hview
  obtain ⟨server, hserver, hserver'⟩ := h s hs 0 hreport
  rw [hmatched, Finset.mem_singleton] at hserver
  rw [hready, hserver] at hserver'
  exact absurd hserver' (by decide)

/-! ## The condition is exact -/

theorem int32_ofNat_pos {n : Nat} (hpos : 0 < n) (hlt : n < 2 ^ 31) : 0 < Int32.ofNat n := by
  rw [Int32.lt_iff_toInt_lt, Int32.toInt_ofNat_of_lt hlt]
  exact Int.natCast_pos.mpr hpos

theorem toSizeT_pos {x : Int32} (hpos : 0 < x) : 0 < toSizeT x := by
  rw [Int32.lt_iff_toInt_lt] at hpos
  have hvalue := toSizeT_of_nonneg (Int.le_of_lt hpos)
  exact Int.natCast_pos.mp (hvalue ▸ hpos)

/-- After any other step a call can report true although no server has both
endpoints, as long as the counts do not overflow. -/
theorem reports_without_server [DecidableEq Server] {s s' : State Server} {a : Action Server}
    (h : ((system Server).restrict State.KeepsServer).Reachable s) (hstep : s.next a = some s')
    (hkeeps : ¬ s.KeepsServer a) (hmatched : s'.matched.card < 2 ^ 31)
    (hready : s'.ready.card < 2 ^ 31) {call : CallId} (hcall : s'.calls call = none) :
    ∃ t, (system Server).Reachable t ∧ (∃ call, t.report call = some true) ∧
      ¬ ∃ server ∈ t.matched, server ∈ t.ready := by
  have hs' : (system Server).Reachable s' := .step h.of_restrict hstep
  have hwrong : ¬ s'.Refers := fun hrefers =>
    hkeeps (((State.refers_reachable h).step_iff hstep).mp hrefers)
  simp only [State.Refers, Classical.not_imp] at hwrong
  obtain ⟨hsees, hwriter, hnone⟩ := hwrong
  have hcount : 0 < s'.reliableWriterReadyCount := by
    rw [State.counted_reachable hs']
    exact int32_ofNat_pos (Finset.card_pos.mpr hwriter) hready
  obtain hreader | ⟨call', requestReaders, hcall', hpos⟩ := hsees
  · have hcurrent : 0 < s'.currentCount :=
      int32_ofNat_pos (Finset.card_pos.mpr hreader) hmatched
    refine ⟨s'.withCall call (some (toSizeT s'.currentCount)),
      .step (a := .countMatched call (EventSlot.create .matched)
        (readersMatched s'.currentCount)) hs' ?_, ⟨call, ?_⟩, hnone⟩
    · have hgot : ∀ now ∈ readersMatched s'.currentCount,
          EventSlot.currentCount now = s'.currentCount := by
        rintro _ ⟨⟩
        rfl
      have hcounted : rmwPublisherCountMatchedSubscriptions (EventSlot.create .matched)
          (readersMatched s'.currentCount) = .ok (toSizeT s'.currentCount) := by
        rw [readersMatched, countMatchedSubscriptions_some]
        exact congrArg Except.ok (if_neg (Int32.not_lt.mpr (Int32.le_of_lt hcurrent)))
      show s'.next _ = _
      rw [State.next, if_pos ⟨hcall, hgot⟩, hcounted]
    · simp [State.report, State.withCall, isAvailable, toSizeT_pos hcurrent, hcount]
  · refine ⟨s', hs', ⟨call', ?_⟩, hnone⟩
    rw [Option.mem_def] at hcall'
    simp [State.report, hcall', isAvailable, hpos, hcount]

end RmwZzdds.Service.Availability
