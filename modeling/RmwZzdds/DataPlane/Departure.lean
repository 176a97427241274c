import RmwZzdds.DataPlane.Delivery
import RmwZzdds.Library.Table
import RmwZzdds.Service.Message

/-!
# Departing writers

The takes that fill a message info look for the GUID of the writer when they
have the sample already.  The runs here have any number of such calls, samples
that arrive and writers that depart, in any order.  A call takes a step for each
sample it removes from the reader and one for what it does with it.

The calls return their loans and get the memory they ask for, so that only the
writers decide what is lost.
-/

namespace RmwZzdds.DataPlane.Departure

open Service (Guid)
open Transition

/-! ## Calls -/

/-- A call that fills a message info. -/
inductive TakeCall (M : Type*) where
  | withInfo (message : M) (messageInfo : MessageInfo)
  | serializedWithInfo (m : SerializedMessage) (messageInfo : MessageInfo)
  | loanedWithInfo (created : M) (messageInfo : MessageInfo)
  | request (info : Service.ServiceInfo) (message : M)
  /-- The GUID is that of the client. -/
  | response (guid : Guid) (info : Service.ServiceInfo) (message : M)

/-- `rmw_message_info_t` as it is initialized. -/
def zeroMessageInfo : MessageInfo := ⟨0, 0, 0, 0, none, false⟩

section

variable {M Handle : Type*} (s : Subscription M Handle)

/-- What a take of the wire message means to `take_service_message`. -/
def wireOutcome (result : TakeResult SerializedMessage) (messageInfo : MessageInfo) :
    Service.TakeOutcome :=
  if result.ret ≠ .ok then .failed
  else if !result.taken then .noData
  else
    .sample result.message.content
      ⟨.ofInt messageInfo.sourceTimestamp, .ofInt messageInfo.receivedTimestamp⟩

/-- A pass of the loop of `take_service_message`, and the wire message behind it. -/
def servicePass [Rcutils] (now : Option Int) (memory : List UInt8) (expectedGuid : Option Guid)
    (info : Service.ServiceInfo) (message : M) (wire : SerializedMessage)
    (visible : Visible Handle) : Option (Service.TakeResult M) × SerializedMessage :=
  let (result, messageInfo) := takeSampleSerializedWithInfo s now (some memory)
    { wire with bufferLength := 0 } zeroMessageInfo visible
  (Service.takePass s.readerInit s.callbacks expectedGuid info message
    (wireOutcome result messageInfo), result.message)

namespace TakeCall

/-- The taken flag of a call that has found a sample, unless it goes on with the next. -/
def finish [Rcutils] (now : Option Int) (memory : List UInt8) (wire : SerializedMessage)
    (visible : Visible Handle) : TakeCall M → Option Bool × SerializedMessage
  | withInfo message messageInfo =>
      (some (takeSampleWithInfo s now message messageInfo visible).1.taken, wire)
  | serializedWithInfo m messageInfo =>
      (some (takeSampleSerializedWithInfo s now (some memory) m messageInfo visible).1.taken, wire)
  | loanedWithInfo created messageInfo =>
      (some (takeSampleLoaned s .ok now true created (some messageInfo) visible).1.taken, wire)
  | request info message =>
      let (result, wire) := servicePass s now memory none info message wire visible
      (result.map (·.taken = some true), wire)
  | response guid info message =>
      let (result, wire) := servicePass s now memory (some guid) info message wire visible
      (result.map (·.taken = some true), wire)

/-- The payload is a service message that decodes, to a client with the GUID if there
is one. -/
def ServiceDecodes (expectedGuid : Option Guid) (message : M) (payload : List UInt8) : Prop :=
  ∃ h : Service.requestHeaderSize < payload.length,
    (∀ guid ∈ expectedGuid, (Service.requestIdOf payload h).writerGuid = guid) ∧
    (rmwDeserialize s.readerInit (.view (Service.payloadOf payload)) (some s.callbacks)
      (some message)).1 = .ok

/-- The payload can be decoded by the call, and is for it. -/
def Decodes (payload : List UInt8) : TakeCall M → Prop
  | withInfo message _ | loanedWithInfo message _ => (s.decode payload message).1 = true
  | serializedWithInfo _ _ => True
  | request _ message => ServiceDecodes s none message payload
  | response guid _ message => ServiceDecodes s (some guid) message payload

end TakeCall

end

/-! ## Runs -/

/-- What a call has removed from the reader. -/
structure Removal (M Handle : Type*) where
  call : TakeCall M
  raw : RawTake Handle
  skipped : Bool

/-- Where a call is, with the wire message of a service call. -/
inductive Stage (M Handle : Type*) where
  | looping (call : TakeCall M) (wire : SerializedMessage)
  /-- It has the sample of the removal with the number. -/
  | holding (number : ℕ) (call : TakeCall M) (raw : RawTake Handle) (wire : SerializedMessage)

structure State (Caller M Handle : Type*) where
  queue : List (RawTake Handle)
  departed : Handle → Bool
  calls : Caller → Option (Stage M Handle)
  removals : List (Removal M Handle)
  /-- The removals whose samples were returned. -/
  returned : List ℕ

inductive Action (Caller M Handle : Type*) where
  | arrive (raw : RawTake Handle)
  | depart (handle : Handle)
  | begin (caller : Caller) (call : TakeCall M)
  /-- `DDS_DataReader_take_raw`, and the check whether the sample is local. -/
  | remove (caller : Caller)
  /-- What the call does with the sample. -/
  | finish (caller : Caller) (now : Option Int) (memory : List UInt8)

section

variable {Caller M Handle : Type*} [DecidableEq Caller] [DecidableEq Handle]

/-- The subscription without the GUIDs of the writers that have departed. -/
def State.subscription (s : Subscription M Handle) (w : State Caller M Handle) :
    Subscription M Handle :=
  { s with
    publicationGuid := fun handle => if w.departed handle then none else s.publicationGuid handle }

def State.setCall (w : State Caller M Handle) (caller : Caller) (stage : Option (Stage M Handle)) :
    State Caller M Handle :=
  { w with calls := Function.update w.calls caller stage }

/-- One step. -/
def next [Rcutils] (s : Subscription M Handle) (w : State Caller M Handle) :
    Action Caller M Handle → Option (State Caller M Handle)
  | .arrive raw => some { w with queue := w.queue ++ [raw] }
  | .depart handle => some { w with departed := Function.update w.departed handle true }
  | .begin caller call =>
      match w.calls caller with
      | none => some (w.setCall caller (some (.looping call .empty)))
      | some _ => none
  | .remove caller =>
      match w.calls caller, w.queue with
      | some (.looping _ _), [] => some (w.setCall caller none)
      | some (.looping call wire), raw :: queue =>
          if (w.subscription s).passes raw then
            some { w with
              queue := queue
              removals := w.removals ++ [⟨call, raw, true⟩] }
          else
            some { w.setCall caller (some (.holding w.removals.length call raw wire)) with
              queue := queue
              removals := w.removals ++ [⟨call, raw, false⟩] }
      | _, _ => none
  | .finish caller now memory =>
      match w.calls caller with
      | some (.holding number call raw wire) =>
          match call.finish (w.subscription s) now memory wire (raw.visible .ok) with
          | (none, wire) => some (w.setCall caller (some (.looping call wire)))
          | (some taken, _) =>
              some { w.setCall caller none with
                returned := if taken then number :: w.returned else w.returned }
      | _ => none

/-- No call has begun. -/
def State.start : State Caller M Handle where
  queue := []
  departed _ := false
  calls _ := none
  removals := []
  returned := []

def system [Rcutils] (s : Subscription M Handle) :
    System (State Caller M Handle) (Action Caller M Handle) :=
  .ofNext .start (next s)

/-- The sample should be returned. -/
structure Removal.Wanted (s : Subscription M Handle) (removal : Removal M Handle) (x : Sample Handle) :
    Prop where
  raw : removal.raw = x.raw
  visible : removal.skipped = false
  valid : x.info.validData = true
  decodes : removal.call.Decodes s x.payload

/-- Every sample that was removed and should be returned was returned, or the call still
has it. -/
def State.NoneLost (s : Subscription M Handle) (w : State Caller M Handle) : Prop :=
  ∀ number removal x, w.removals[number]? = some removal → removal.Wanted s x →
    number ∈ w.returned ∨
      ∃ caller call raw wire, w.calls caller = some (.holding number call raw wire)

/-- When a call fills the message info for a sample that should be returned, the writer is
still matched. -/
def WriterMatched (s : Subscription M Handle) (w : State Caller M Handle) :
    Action Caller M Handle → Prop
  | .finish caller _ _ => ∀ number call raw wire x,
      w.calls caller = some (.holding number call raw wire) →
      Removal.Wanted s ⟨call, raw, false⟩ x →
      ((w.subscription s).publicationGuid x.info.publicationHandle).isSome = true
  | _ => True

end

/-! ## One sample -/

section

variable {M Handle : Type*} {s : Subscription M Handle} {x : Sample Handle}

theorem valid_reset {wire : SerializedMessage} (h : wire.valid = true) :
    ({ wire with bufferLength := 0 } : SerializedMessage).valid = true := by
  simp only [SerializedMessage.valid, Bool.and_eq_true, decide_eq_true_eq] at h ⊢
  exact ⟨⟨h.1.1, Nat.zero_le _⟩, h.2⟩

theorem takeSampleSerializedWithInfo_taken [Rcutils] (hvalid : x.info.validData = true)
    (m : SerializedMessage) (now : Option Int) (memory : List UInt8) (messageInfo : MessageInfo) :
    (takeSampleSerializedWithInfo s now (some memory) m messageInfo
      (.ok (x.payload, x.info))).1.taken = (s.publicationGuid x.info.publicationHandle).isSome := by
  have hfilled : ∀ m', (fillSerializedWithInfo s now m' x.payload x.info).1.taken =
      (s.publicationGuid x.info.publicationHandle).isSome := by
    intro m'
    cases hmatched : (s.publicationGuid x.info.publicationHandle).isSome <;>
      simp [fillSerializedWithInfo, fillMessageInfo, hmatched]
  rw [takeSampleSerializedWithInfo, if_pos hvalid]
  by_cases hgrow : m.bufferCapacity < x.payload.length
  · rw [if_pos hgrow, Rcutils.uint8ArrayResize_of_lt hgrow]
    exact hfilled _
  · rw [if_neg hgrow]
    exact hfilled _

/-- A pass that finds a service message for the caller ends the call, and takes the message
if its writer is matched. -/
theorem servicePass_decodes [Rcutils] {expectedGuid : Option Guid} {info : Service.ServiceInfo}
    {message : M} {wire : SerializedMessage} (hwire : wire.valid = true)
    (hvalid : x.info.validData = true)
    (hdecodes : TakeCall.ServiceDecodes s expectedGuid message x.payload) (now : Option Int)
    (memory : List UInt8) :
    (servicePass s now memory expectedGuid info message wire (.ok (x.payload, x.info))).1.map
        (fun result => decide (result.taken = some true)) =
      some (s.publicationGuid x.info.publicationHandle).isSome := by
  obtain ⟨m', htaken, -, hcontent⟩ := takeSampleSerializedWithInfo_valid s x.payload
    hvalid (valid_reset hwire) now memory zeroMessageInfo
  obtain ⟨hlength, hguid, hread⟩ := hdecodes
  rw [servicePass, htaken]
  cases hmatched : (s.publicationGuid x.info.publicationHandle).isSome with
  | false => rfl
  | true =>
      have hany : (expectedGuid.any fun guid =>
          decide (guid ≠ (Service.requestIdOf x.payload hlength).writerGuid)) = false := by
        cases expectedGuid with
        | none => rfl
        | some guid => simp [hguid guid rfl]
      have hpass : ∀ source, Service.takePass s.readerInit s.callbacks expectedGuid info message
          (.sample x.payload source) = some ⟨.ok, some true,
            ⟨source.sourceTimestamp, source.receivedTimestamp,
              Service.requestIdOf x.payload hlength⟩,
            (rmwDeserialize s.readerInit (.view (Service.payloadOf x.payload)) (some s.callbacks)
              (some message)).2.getD message⟩ := by
        intro source
        simp only [Service.takePass, Service.rmwTakeSerializedMessageWithInfo,
          dif_neg (Nat.not_le_of_lt hlength), hany]
        rw [if_neg Bool.false_ne_true]
        generalize rmwDeserialize s.readerInit (.view (Service.payloadOf x.payload))
          (some s.callbacks) (some message) = read at hread
        obtain ⟨ret, target⟩ := read
        obtain rfl : ret = .ok := hread
        rfl
      simp [wireOutcome, hcontent, hpass]

/-- A call that has a sample for it takes it if the writer is matched. -/
theorem finish_decodes [Rcutils] {call : TakeCall M} (hvalid : x.info.validData = true)
    (hdecodes : call.Decodes s x.payload) {wire : SerializedMessage} (hwire : wire.valid = true)
    (now : Option Int) (memory : List UInt8) :
    (call.finish s now memory wire (x.raw.visible .ok)).1 =
      some (s.publicationGuid x.info.publicationHandle).isSome := by
  have hvisible : x.raw.visible .ok = .ok (x.payload, x.info) := visible_eq_ok.mpr rfl
  have hfilled : ∀ now, (fillMessageInfo s now x.info).1 =
      (s.publicationGuid x.info.publicationHandle).isSome := fun _ => rfl
  rw [hvisible]
  cases call with
  | withInfo message messageInfo =>
      have hdecoded : (s.decode x.payload message).1 = true := hdecodes
      cases hmatched : (s.publicationGuid x.info.publicationHandle).isSome <;>
        simp [TakeCall.finish, takeSampleWithInfo, hvalid, hdecoded, hfilled, hmatched]
  | serializedWithInfo m messageInfo =>
      exact congrArg some (takeSampleSerializedWithInfo_taken hvalid m now memory messageInfo)
  | loanedWithInfo created messageInfo =>
      have hdecoded : (s.decode x.payload created).1 = true := hdecodes
      cases hmatched : (s.publicationGuid x.info.publicationHandle).isSome <;>
        simp [TakeCall.finish, takeSampleLoaned, hvalid, hdecoded, hfilled, hmatched]
  | request info message => exact servicePass_decodes hwire hvalid hdecodes now memory
  | response guid info message => exact servicePass_decodes hwire hvalid hdecodes now memory

/-- A pass leaves a valid wire message. -/
theorem valid_servicePass [Rcutils] (expectedGuid : Option Guid) (serviceInfo : Service.ServiceInfo)
    (message : M) {wire : SerializedMessage} (hwire : wire.valid = true) (now : Option Int)
    (memory : List UInt8) (visible : Visible Handle) :
    (servicePass s now memory expectedGuid serviceInfo message wire visible).2.valid = true := by
  have hreset := valid_reset hwire
  match visible with
  | .error .noData | .error .ok | .error .error => exact hreset
  | .ok (payload, info) =>
      cases hvalid : info.validData with
      | false =>
          have hsame : (servicePass s now memory expectedGuid serviceInfo message wire
              (.ok (payload, info))).2 = { wire with bufferLength := 0 } := by
            simp [servicePass, takeSampleSerializedWithInfo, hvalid]
          rw [hsame]
          exact hreset
      | true =>
          obtain ⟨m', htaken, hm', -⟩ := takeSampleSerializedWithInfo_valid s payload
            hvalid hreset now memory zeroMessageInfo
          rw [servicePass, htaken]
          cases (s.publicationGuid info.publicationHandle).isSome <;> exact hm'

theorem valid_finish [Rcutils] (call : TakeCall M) {wire : SerializedMessage}
    (hwire : wire.valid = true) (now : Option Int) (memory : List UInt8)
    (visible : Visible Handle) :
    (call.finish s now memory wire visible).2.valid = true := by
  cases call with
  | withInfo | serializedWithInfo | loanedWithInfo => exact hwire
  | request info message => exact valid_servicePass none info message hwire now memory visible
  | response guid info message =>
      exact valid_servicePass (some guid) info message hwire now memory visible

end

set_option linter.unusedSectionVars false

/-! ## The invariant -/

section

variable {Caller M Handle : Type*} {s : Subscription M Handle} {w w' : State Caller M Handle}

def Stage.wire : Stage M Handle → SerializedMessage
  | looping _ wire | holding _ _ _ wire => wire

/-- The call has the sample of the removal. -/
def Stage.Holds (number : ℕ) (removal : Removal M Handle) : Stage M Handle → Prop
  | looping _ _ => False
  | holding number' call raw _ => number' = number ∧ removal = ⟨call, raw, false⟩

/-- What holds of the samples that the calls have. -/
structure State.Sound (w : State Caller M Handle) : Prop where
  wire : ∀ caller stage, w.calls caller = some stage → stage.wire.valid = true
  held : ∀ caller stage number removal, w.calls caller = some stage → stage.Holds number removal →
    w.removals[number]? = some removal ∧ number ∉ w.returned
  unique : ∀ caller caller' stage stage' number removal removal', w.calls caller = some stage →
    w.calls caller' = some stage' → stage.Holds number removal → stage'.Holds number removal' →
    caller = caller'
  returned : ∀ number ∈ w.returned, number < w.removals.length

theorem State.Sound.lt (h : w.Sound) {caller : Caller} {stage : Stage M Handle} {number : ℕ}
    {removal : Removal M Handle} (hstage : w.calls caller = some stage)
    (hholds : stage.Holds number removal) : number < w.removals.length :=
  (List.getElem?_eq_some_iff.mp (h.held caller stage number removal hstage hholds).1).1

variable [DecidableEq Caller] [DecidableEq Handle]

/-- One call gets on.  It may return the sample that it had, and have the sample of a new
removal. -/
theorem State.Sound.update (h : w.Sound) {caller : Caller} {entry : Option (Stage M Handle)}
    (extra : List (Removal M Handle)) (hcalls : w'.calls = Function.update w.calls caller entry)
    (hremovals : w'.removals = w.removals ++ extra)
    (hreturned : ∀ number ∈ w'.returned, number ∈ w.returned ∨
      ∃ stage removal, w.calls caller = some stage ∧ stage.Holds number removal)
    (hwire : ∀ stage ∈ entry, stage.wire.valid = true)
    (hheld : ∀ stage ∈ entry, ∀ number removal, stage.Holds number removal →
      w.removals.length ≤ number ∧ w'.removals[number]? = some removal) : w'.Sound := by
  have hlt : ∀ number ∈ w'.returned, number < w.removals.length := by
    intro number hnumber
    obtain hold | ⟨stage, removal, hstage, hholds⟩ := hreturned number hnumber
    · exact h.returned number hold
    · exact h.lt hstage hholds
  constructor
  · intro caller' stage hstage
    rw [hcalls] at hstage
    obtain ⟨rfl, hentry⟩ | ⟨-, hold⟩ := Table.update_eq_some hstage
    · exact hwire stage hentry
    · exact h.wire caller' stage hold
  · intro caller' stage number removal hstage hholds
    rw [hcalls] at hstage
    obtain ⟨rfl, hentry⟩ | ⟨hne, hold⟩ := Table.update_eq_some hstage
    · obtain ⟨hge, hremoval⟩ := hheld stage hentry number removal hholds
      exact ⟨hremoval, fun hnumber => Nat.not_lt_of_le hge (hlt number hnumber)⟩
    · obtain ⟨hremoval, hunreturned⟩ := h.held caller' stage number removal hold hholds
      refine ⟨?_, ?_⟩
      · rw [hremovals, List.getElem?_append_left (h.lt hold hholds)]
        exact hremoval
      · intro hnumber
        obtain hback | ⟨stage', removal', hstage', hholds'⟩ := hreturned number hnumber
        · exact hunreturned hback
        · exact hne (h.unique caller' caller stage stage' number removal removal' hold hstage' hholds
            hholds')
  · intro caller₁ caller₂ stage₁ stage₂ number removal₁ removal₂ hstage₁ hstage₂ hholds₁ hholds₂
    rw [hcalls] at hstage₁ hstage₂
    obtain ⟨rfl, hentry₁⟩ | ⟨-, hold₁⟩ := Table.update_eq_some hstage₁
    · obtain ⟨rfl, -⟩ | ⟨-, hold₂⟩ := Table.update_eq_some hstage₂
      · rfl
      · have hge := (hheld stage₁ hentry₁ number removal₁ hholds₁).1
        exact absurd (h.lt hold₂ hholds₂) (Nat.not_lt_of_le hge)
    · obtain ⟨rfl, hentry₂⟩ | ⟨-, hold₂⟩ := Table.update_eq_some hstage₂
      · have hge := (hheld stage₂ hentry₂ number removal₂ hholds₂).1
        exact absurd (h.lt hold₁ hholds₁) (Nat.not_lt_of_le hge)
      · exact h.unique caller₁ caller₂ stage₁ stage₂ number removal₁ removal₂ hold₁ hold₂ hholds₁
          hholds₂
  · intro number hnumber
    rw [hremovals, List.length_append]
    exact Nat.lt_add_right _ (hlt number hnumber)

/-- A skipped sample is removed. -/
theorem State.Sound.skip (h : w.Sound) (hcalls : w'.calls = w.calls)
    (hreturned : w'.returned = w.returned) {removal : Removal M Handle}
    (hremovals : w'.removals = w.removals ++ [removal]) : w'.Sound := by
  constructor
  · rw [hcalls]
    exact h.wire
  · intro caller stage number removal' hstage hholds
    rw [hcalls] at hstage
    rw [hremovals, hreturned, List.getElem?_append_left (h.lt hstage hholds)]
    exact h.held caller stage number removal' hstage hholds
  · rw [hcalls]
    exact h.unique
  · intro number hnumber
    rw [hreturned] at hnumber
    rw [hremovals, List.length_append]
    exact Nat.lt_add_right _ (h.returned number hnumber)

theorem State.Sound.next [Rcutils] {a : Action Caller M Handle} (h : w.Sound)
    (hnext : next s w a = some w') : w'.Sound := by
  cases a with
  | arrive raw | depart handle =>
      cases hnext
      exact ⟨h.wire, h.held, h.unique, h.returned⟩
  | begin caller call =>
      simp only [Departure.next] at hnext
      split at hnext
      · cases hnext
        refine h.update [] rfl (List.append_nil _).symm (fun _ => .inl) ?_ ?_
        · rintro _ ⟨⟩
          rfl
        · rintro _ ⟨⟩ number removal hholds
          exact hholds.elim
      · cases hnext
  | remove caller =>
      simp only [Departure.next] at hnext
      split at hnext
      · cases hnext
        exact h.update [] rfl (List.append_nil _).symm (fun _ => .inl) (fun _ hstage => nomatch hstage)
          fun _ hstage => nomatch hstage
      · next call wire raw queue hcall hqueue =>
        have hwire := h.wire caller _ hcall
        split at hnext
        · cases hnext
          exact h.skip rfl rfl rfl
        · cases hnext
          refine h.update _ rfl rfl (fun _ => .inl) ?_ ?_
          · rintro _ ⟨⟩
            exact hwire
          · rintro _ ⟨⟩ number removal ⟨rfl, rfl⟩
            exact ⟨Nat.le_refl _, List.getElem?_concat_length⟩
      · cases hnext
  | finish caller now memory =>
      simp only [Departure.next] at hnext
      split at hnext
      · next number call raw wire hcall =>
        have hold : wire.valid = true := h.wire caller _ hcall
        have hwire := valid_finish (s := w.subscription s) call hold now memory (raw.visible .ok)
        split at hnext
        · next wire' hfinish =>
          cases hnext
          rw [hfinish] at hwire
          refine h.update [] rfl (List.append_nil _).symm (fun _ => .inl) ?_ ?_
          · rintro _ ⟨⟩
            exact hwire
          · rintro _ ⟨⟩ number removal hholds
            exact hholds.elim
        · next taken wire' hfinish =>
          cases hnext
          refine h.update [] rfl (List.append_nil _).symm ?_ (fun _ hstage => nomatch hstage)
            fun _ hstage => nomatch hstage
          intro number' hnumber
          cases taken with
          | false => exact .inl hnumber
          | true =>
              obtain rfl | hold := List.mem_cons.mp hnumber
              · exact .inr ⟨_, _, hcall, rfl, rfl⟩
              · exact .inl hold
      · cases hnext

theorem sound_of_reachable [Rcutils] (hw : (system s).Reachable w) : w.Sound := by
  refine hw.invariant ?_ ?_
  · rintro _ rfl
    constructor
    · exact fun _ _ hstage => nomatch hstage
    · exact fun _ _ _ _ hstage => nomatch hstage
    · exact fun _ _ _ _ _ _ _ hstage => nomatch hstage
    · exact fun _ hnumber => nomatch hnumber
  · intro w a w' h hnext
    exact h.next hnext

/-! ## Lost samples -/

/-- One call gets on.  It returns the sample that it had if that is wanted, and has the
wanted ones that it removes. -/
theorem State.NoneLost.update (h : w.NoneLost s) {caller : Caller}
    {entry : Option (Stage M Handle)} (extra : List (Removal M Handle))
    (hcalls : w'.calls = Function.update w.calls caller entry)
    (hremovals : w'.removals = w.removals ++ extra)
    (hreturned : ∀ number ∈ w.returned, number ∈ w'.returned)
    (hold : ∀ number call raw wire removal x, w.calls caller = some (.holding number call raw wire) →
      w.removals[number]? = some removal → removal.Wanted s x → number ∈ w'.returned)
    (hnew : ∀ i removal x, extra[i]? = some removal → removal.Wanted s x →
      ∃ call raw wire, entry = some (.holding (w.removals.length + i) call raw wire)) :
    w'.NoneLost s := by
  intro number removal x hremoval hwanted
  rw [hremovals] at hremoval
  obtain hlt | hge := Nat.lt_or_ge number w.removals.length
  · rw [List.getElem?_append_left hlt] at hremoval
    obtain hback | ⟨caller', call, raw, wire, hholds⟩ := h number removal x hremoval hwanted
    · exact .inl (hreturned number hback)
    · by_cases hcaller : caller' = caller
      · subst hcaller
        exact .inl (hold number call raw wire removal x hholds hremoval hwanted)
      · refine .inr ⟨caller', call, raw, wire, ?_⟩
        rw [hcalls, Function.update_of_ne hcaller]
        exact hholds
  · rw [List.getElem?_append_right hge] at hremoval
    obtain ⟨call, raw, wire, rfl⟩ := hnew _ removal x hremoval hwanted
    refine .inr ⟨caller, call, raw, wire, ?_⟩
    rw [hcalls, Function.update_self, Nat.add_sub_cancel' hge]

theorem none_new {p : ℕ → Removal M Handle → Sample Handle → Prop} :
    ∀ i removal x, ([] : List (Removal M Handle))[i]? = some removal →
      removal.Wanted s x → p i removal x := by
  intro i removal x hremoval
  rw [List.getElem?_nil] at hremoval
  cases hremoval

/-- A wanted sample is returned if the writer is matched. -/
theorem finish_wanted [Rcutils] (h : w.Sound) {caller : Caller} {number : ℕ} {call : TakeCall M}
    {raw : RawTake Handle} {wire : SerializedMessage} {x : Sample Handle}
    (hcall : w.calls caller = some (.holding number call raw wire))
    (hwanted : Removal.Wanted s ⟨call, raw, false⟩ x) (now : Option Int) (memory : List UInt8) :
    (call.finish (w.subscription s) now memory wire (raw.visible .ok)).1 =
      some ((w.subscription s).publicationGuid x.info.publicationHandle).isSome := by
  obtain rfl : raw = x.raw := hwanted.raw
  have hdecodes : call.Decodes (w.subscription s) x.payload := hwanted.decodes
  have hwire : wire.valid = true := h.wire caller _ hcall
  exact finish_decodes hwanted.valid hdecodes hwire now memory

theorem State.NoneLost.next [Rcutils] {a : Action Caller M Handle} (h : w.NoneLost s)
    (hsound : w.Sound) (hmatched : WriterMatched s w a) (hnext : next s w a = some w') :
    w'.NoneLost s := by
  cases a with
  | arrive raw | depart handle =>
      cases hnext
      exact h
  | begin caller call =>
      simp only [Departure.next] at hnext
      split at hnext
      · next hcall =>
        cases hnext
        refine h.update [] rfl (List.append_nil _).symm (fun _ => id) ?_ none_new
        intro _ _ _ _ _ _ hholds
        cases hcall.symm.trans hholds
      · cases hnext
  | remove caller =>
      simp only [Departure.next] at hnext
      split at hnext
      · next hcall _ =>
        cases hnext
        refine h.update [] rfl (List.append_nil _).symm (fun _ => id) ?_ none_new
        intro _ _ _ _ _ _ hholds
        cases hcall.symm.trans hholds
      · next call wire raw queue hcall hqueue =>
        split at hnext
        · cases hnext
          refine h.update _ (Function.update_eq_self caller _).symm rfl (fun _ => id) ?_ ?_
          · intro _ _ _ _ _ _ hholds
            cases hcall.symm.trans hholds
          · intro i removal x hremoval hwanted
            obtain rfl := List.mem_singleton.mp (List.mem_of_getElem? hremoval)
            exact absurd hwanted.visible Bool.true_eq_false.mp
        · cases hnext
          refine h.update _ rfl rfl (fun _ => id) ?_ ?_
          · intro _ _ _ _ _ _ hholds
            cases hcall.symm.trans hholds
          · intro i removal x hremoval hwanted
            obtain ⟨hi, -⟩ := List.getElem?_eq_some_iff.mp hremoval
            obtain rfl : i = 0 := Nat.lt_one_iff.mp hi
            exact ⟨call, raw, wire, rfl⟩
      · cases hnext
  | finish caller now memory =>
      simp only [Departure.next] at hnext
      split at hnext
      · next number call raw wire hcall =>
        have hheld := hsound.held caller _ number ⟨call, raw, false⟩ hcall ⟨rfl, rfl⟩
        have hfinish : ∀ x, Removal.Wanted s ⟨call, raw, false⟩ x →
            (call.finish (w.subscription s) now memory wire (raw.visible .ok)).1 = some true := by
          intro x hwanted
          rw [finish_wanted hsound hcall hwanted, hmatched number call raw wire x hcall hwanted]
        split at hnext
        · next wire' hgoes =>
          cases hnext
          refine h.update [] rfl (List.append_nil _).symm (fun _ => id) ?_ none_new
          intro number' call' raw' wire'' removal x hcall' hremoval hwanted
          cases hcall.symm.trans hcall'
          cases hheld.1.symm.trans hremoval
          have hends := hfinish x hwanted
          rw [hgoes] at hends
          cases hends
        · next taken wire' hends =>
          cases hnext
          refine h.update [] rfl (List.append_nil _).symm ?_ ?_ none_new
          · intro number' hnumber'
            cases taken with
            | false => exact hnumber'
            | true => exact List.mem_cons_of_mem _ hnumber'
          · intro number' call' raw' wire'' removal x hcall' hremoval hwanted
            cases hcall.symm.trans hcall'
            cases hheld.1.symm.trans hremoval
            have htaken := hfinish x hwanted
            rw [hends] at htaken
            obtain rfl := Option.some.inj htaken
            exact List.mem_cons_self ..
      · cases hnext

/-- A wanted sample is lost if the writer is not matched. -/
theorem lost_of_unmatched [Rcutils] {a : Action Caller M Handle} (hsound : w.Sound)
    (hunmatched : ¬ WriterMatched s w a) (hnext : next s w a = some w') : ¬ w'.NoneLost s := by
  cases a with
  | finish caller now memory =>
      simp only [WriterMatched, not_forall, Bool.not_eq_true] at hunmatched
      obtain ⟨number, call, raw, wire, x, hcall, hwanted, hgone⟩ := hunmatched
      have hfinish := finish_wanted hsound hcall hwanted now memory
      obtain ⟨hremoval, hunreturned⟩ :=
        hsound.held caller _ number ⟨call, raw, false⟩ hcall ⟨rfl, rfl⟩
      simp only [Departure.next, hcall] at hnext
      rw [hgone] at hfinish
      split at hnext
      · next hgoes =>
        rw [hgoes] at hfinish
        cases hfinish
      · next taken wire' hends =>
        rw [hends] at hfinish
        obtain rfl := Option.some.inj hfinish
        cases hnext
        intro hnone
        obtain hback | ⟨caller', call', raw', wire'', hholds⟩ :=
          hnone number _ x hremoval hwanted
        · exact hunreturned hback
        · obtain ⟨rfl, ⟨⟩⟩ | ⟨hne, hold⟩ := Table.update_eq_some hholds
          exact hne (hsound.unique caller' caller _ _ number _ _ hold hcall ⟨rfl, rfl⟩ ⟨rfl, rfl⟩)
  | arrive | depart | begin | remove => exact absurd trivial hunmatched

/-- No sample is lost as long as the writers are matched when the message infos are filled.
A call that fills one later loses its sample. -/
theorem samples_returned [Rcutils] {w : State Caller M Handle}
    (hw : ((system s).restrict (WriterMatched s)).Reachable w) :
    w.NoneLost s ∧ ∀ a w', (system s).step w a w' → ¬ WriterMatched s w a → ¬ w'.NoneLost s := by
  have hsound : ∀ w : State Caller M Handle, ((system s).restrict (WriterMatched s)).Reachable w → w.Sound :=
    fun w h => sound_of_reachable h.of_restrict
  refine ⟨?_, fun a w' hnext hunmatched => lost_of_unmatched (hsound w hw) hunmatched hnext⟩
  refine hw.invariant_of hsound ?_ ?_
  · rintro _ rfl
    exact fun _ _ _ hremoval => nomatch hremoval
  · intro w a w' hsound h hstep
    exact h.next hsound hstep.1 hstep.2

end

/-! ## The last sample of a writer -/

attribute [local instance] Rcutils.documented

/-- A subscription for messages of nothing. -/
def plain : Subscription Unit Unit where
  toSubscriptionImpl := ignoring
  localPublicationGuids := ∅
  publicationGuid _ := some (writerGuid false)
  readerInit _ := true

def plainSample : Sample Unit := ⟨[0, 1, 0, 0], ⟨true, (), 0, 0⟩⟩

/-- The sample arrives, and a take removes it. -/
def beginTake : List (Action Unit Unit Unit) :=
  [.arrive plainSample.raw, .begin () (.withInfo () zeroMessageInfo), .remove ()]

theorem reachable_next [Rcutils] {s : Subscription Unit Unit} {w w' : State Unit Unit Unit}
    (hw : ((system s).restrict (WriterMatched s)).Reachable w) (a : Action Unit Unit Unit)
    (hmatched : WriterMatched s w a) (hnext : next s w a = some w') :
    ((system s).restrict (WriterMatched s)).Reachable w' :=
  hw.step ⟨hmatched, hnext⟩

/-- The sample is returned if the writer departs behind the take. -/
theorem last_sample_returned :
    ∃ w : State Unit Unit Unit, w.NoneLost plain ∧ w.removals.length = 1 ∧ w.returned = [0] := by
  have hexec : exec (next plain) (.start : State Unit Unit Unit) beginTake = some _ := rfl
  have hbegun := reachable_restrict_of_exec (P := WriterMatched plain) (.init rfl) hexec
    (by simp [beginTake, WriterMatched])
  have hfinished := reachable_next hbegun (.finish () none []) (fun _ _ _ _ _ _ _ => rfl) rfl
  have hdeparted := reachable_next hfinished (.depart ()) trivial rfl
  exact ⟨_, (samples_returned hdeparted).1, rfl, rfl⟩

/-- It is lost if the writer departs while the take has it. -/
theorem last_sample_lost : ¬ ∀ w : State Unit Unit Unit, (system plain).Reachable w →
    w.NoneLost plain := by
  intro h
  let as := beginTake ++ [.depart (), .finish () none []]
  obtain ⟨w, hexec, hremovals, hreturned, hcalls⟩ :
      ∃ w, exec (next plain) (.start : State Unit Unit Unit) as = some w ∧
        w.removals = [⟨.withInfo () zeroMessageInfo, plainSample.raw, false⟩] ∧
        w.returned = [] ∧ w.calls () = none :=
    ⟨_, rfl, rfl, rfl, rfl⟩
  have hremoval : w.removals[0]? = some ⟨.withInfo () zeroMessageInfo, plainSample.raw, false⟩ := by
    rw [hremovals]
    rfl
  obtain hback | ⟨caller, call, raw, wire, hholds⟩ := h w ((run_of_exec hexec).reachable (.init rfl))
    0 _ plainSample hremoval ⟨rfl, rfl, rfl, rfl⟩
  · rw [hreturned] at hback
    cases hback
  · cases hcalls.symm.trans hholds

end RmwZzdds.DataPlane.Departure
