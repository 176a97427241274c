import Mathlib.Data.Finset.Basic
import Mathlib.Logic.Function.Basic
import RmwZzdds.Library.Transition
import RmwZzdds.Return

/-!
# Loaned messages

An endpoint keeps the pointers of the messages it has lent in a set that the
mutex of the context guards.  A borrow or a take creates a message and puts it
there before it is handed out, and a give-back or a publish takes it out again
before it is destroyed.  Every access of the set is a step of its own, and so is
what a call does between two of them, in any order over any number of calls.

A pointer that was freed may be that of a later message.  So messages are
numbered here, and an entry of the set has the number of its message.  The calls
see the pointers only.
-/

namespace RmwZzdds.DataPlane.Loan

open Transition

/-! ## Messages -/

/-- A message that `create_ros_message` has made for an endpoint. -/
structure Message (Endpoint Pointer : Type*) where
  endpoint : Endpoint
  pointer : Pointer
  /-- How many messages were made before. -/
  number : ℕ
deriving DecidableEq

/-- What happens to a message. -/
inductive Event (Endpoint Pointer : Type*) where
  | created (message : Message Endpoint Pointer)
  /-- It is passed to a callback other than the one that destroys it. -/
  | used (message : Message Endpoint Pointer)
  | destroyed (message : Message Endpoint Pointer)
  /-- It is handed to the user. -/
  | handed (message : Message Endpoint Pointer)
  /-- It is taken out of the set by a give-back or a publish. -/
  | givenBack (message : Message Endpoint Pointer)
deriving DecidableEq

/-! ## Calls -/

/-- Where a call is.  All but `publishing` and `dropping` are on the way to hand the
message to the user. -/
inductive Call (Endpoint Pointer : Type*) where
  /-- `take_compatibility_loan` has created the message. -/
  | taking (message : Message Endpoint Pointer) (withInfo : Bool)
  | recording (message : Message Endpoint Pointer) (withInfo : Bool)
  /-- It has recorded the message and fills the message info. -/
  | resolving (message : Message Endpoint Pointer)
  /-- The message info could not be filled. -/
  | withdrawing (message : Message Endpoint Pointer)
  | handing (message : Message Endpoint Pointer)
  /-- `rmw_publish_loaned_message` has taken the message out of the set. -/
  | publishing (message : Message Endpoint Pointer)
  /-- The message has still to be destroyed. -/
  | dropping (message : Message Endpoint Pointer) (ret : Ret)

namespace Call

variable {Endpoint Pointer : Type*}

def message : Call Endpoint Pointer → Message Endpoint Pointer
  | taking message _ | recording message _ | resolving message | withdrawing message
  | handing message | publishing message | dropping message _ => message

/-- The call has put its message into the set. -/
def registered : Call Endpoint Pointer → Bool
  | resolving _ | withdrawing _ | handing _ => true
  | taking _ _ | recording _ _ | publishing _ | dropping _ _ => false

/-- The message may still be handed to the user. -/
def fresh : Call Endpoint Pointer → Bool
  | taking _ _ | recording _ _ | resolving _ | withdrawing _ | handing _ => true
  | publishing _ | dropping _ _ => false

end Call

/-- How `take_compatibility_loan` gets on until it has returned the raw loan.
`deserialized` is the result of the callback, if the payload could be opened. -/
inductive Found where
  | noData
  | error
  | sample (validData : Bool) (deserialized : Option Bool) (returned : Bool)

/-- The callback reads into the message. -/
def Found.reads : Found → Bool
  | sample validData deserialized _ => validData && deserialized.isSome
  | noData | error => false

/-- What `take_compatibility_loan` does next. -/
def Found.next {Endpoint Pointer : Type*} (message : Message Endpoint Pointer)
    (withInfo : Bool) : Found → Call Endpoint Pointer
  | noData => .dropping message .ok
  | error => .dropping message .error
  | sample validData deserialized returned =>
      let decoded := !validData || deserialized = some true
      if !returned then .dropping message .error
      else if !decoded then .dropping message .error
      else if !validData then .dropping message .ok
      else .recording message withInfo

/-! ## Steps -/

structure State (Endpoint Caller Pointer : Type*) where
  /-- The messages created and not destroyed. -/
  live : Finset (Message Endpoint Pointer)
  /-- How many messages were created. -/
  created : ℕ
  loanedMessages : Endpoint → List (Message Endpoint Pointer)
  /-- The calls in progress. -/
  calls : Caller → Option (Call Endpoint Pointer)
  /-- The endpoints that were destroyed. -/
  gone : Endpoint → Bool
  log : List (Event Endpoint Pointer)
  /-- What the calls have returned. -/
  results : List (Caller × Ret)

inductive Action (Endpoint Caller Pointer : Type*) where
  /-- A call of `rmw_borrow_loaned_message` creates a message, or fails to. -/
  | borrow (caller : Caller) (endpoint : Endpoint) (pointer : Option Pointer)
  /-- A call of `rmw_take_loaned_message` or `rmw_take_loaned_message_with_info` creates
  one. -/
  | take (caller : Caller) (endpoint : Endpoint) (withInfo : Bool) (pointer : Option Pointer)
  | find (caller : Caller) (found : Found)
  | record (caller : Caller) (inserted : Bool)
  | resolve (caller : Caller) (resolved : Bool)
  | withdraw (caller : Caller)
  | hand (caller : Caller)
  /-- `rmw_return_loaned_message_from_publisher` or its sibling for subscriptions. -/
  | giveBack (caller : Caller) (endpoint : Endpoint) (pointer : Pointer)
  | publish (caller : Caller) (endpoint : Endpoint) (pointer : Pointer)
  /-- `rmw_publish` inside `rmw_publish_loaned_message`. -/
  | write (caller : Caller) (opened : Bool) (ret : Ret)
  | drop (caller : Caller)
  /-- `rmw_destroy_publisher` or `rmw_destroy_subscription`. -/
  | destroy (endpoint : Endpoint)

namespace State

variable {Endpoint Caller Pointer : Type*} [DecidableEq Endpoint] [DecidableEq Caller]
  [DecidableEq Pointer]

/-- A call gets on. -/
def setCall (s : State Endpoint Caller Pointer) (caller : Caller) (call : Call Endpoint Pointer) :
    State Endpoint Caller Pointer :=
  { s with calls := Function.update s.calls caller (some call) }

/-- A call returns. -/
def finish (s : State Endpoint Caller Pointer) (caller : Caller) (ret : Ret) :
    State Endpoint Caller Pointer :=
  { s with
    calls := Function.update s.calls caller none
    results := s.results ++ [(caller, ret)] }

def emit (s : State Endpoint Caller Pointer) (event : Event Endpoint Pointer) :
    State Endpoint Caller Pointer :=
  { s with log := s.log ++ [event] }

/-- The call has nothing in progress, and the endpoint is there. -/
def idle (s : State Endpoint Caller Pointer) (caller : Caller) (endpoint : Endpoint) : Bool :=
  (s.calls caller).isNone && !s.gone endpoint

/-- The message that the pointer is of in the set of an endpoint. -/
def loaned (s : State Endpoint Caller Pointer) (endpoint : Endpoint) (pointer : Pointer) :
    Option (Message Endpoint Pointer) :=
  (s.loanedMessages endpoint).find? fun message => message.pointer = pointer

/-- `loaned_messages.insert`. -/
def insert (s : State Endpoint Caller Pointer) (message : Message Endpoint Pointer) :
    State Endpoint Caller Pointer :=
  if (s.loaned message.endpoint message.pointer).isSome then s
  else
    { s with
      loanedMessages := Function.update s.loanedMessages message.endpoint
        (message :: s.loanedMessages message.endpoint) }

/-- `loaned_messages.erase`. -/
def erase (s : State Endpoint Caller Pointer) (endpoint : Endpoint) (pointer : Pointer) :
    State Endpoint Caller Pointer :=
  { s with
    loanedMessages := Function.update s.loanedMessages endpoint
      ((s.loanedMessages endpoint).filter fun message => message.pointer ≠ pointer) }

def addMessage (s : State Endpoint Caller Pointer) (message : Message Endpoint Pointer) :
    State Endpoint Caller Pointer :=
  { s with
    live := Insert.insert message s.live
    created := s.created + 1 }.emit (.created message)

/-- `create_ros_message` for a call that is then at `call`.  No two live messages are
at one pointer. -/
def create (s : State Endpoint Caller Pointer) (caller : Caller) (endpoint : Endpoint)
    (pointer : Option Pointer) (call : Message Endpoint Pointer → Call Endpoint Pointer) :
    Option (State Endpoint Caller Pointer) :=
  match pointer with
  | none => some (s.finish caller .badAlloc)
  | some pointer =>
      let message : Message Endpoint Pointer := ⟨endpoint, pointer, s.created⟩
      if ∃ other ∈ s.live, other.pointer = pointer then none
      else some ((s.addMessage message).setCall caller (call message))

/-- `destroy_ros_message`. -/
def destroyMessage (s : State Endpoint Caller Pointer) (message : Message Endpoint Pointer) :
    State Endpoint Caller Pointer :=
  { s with live := s.live.erase message }.emit (.destroyed message)

/-- The start of a give-back or of a publish, that is then at `call`. -/
def takeOut (s : State Endpoint Caller Pointer) (caller : Caller) (endpoint : Endpoint)
    (pointer : Pointer) (call : Message Endpoint Pointer → Call Endpoint Pointer) :
    State Endpoint Caller Pointer :=
  match s.loaned endpoint pointer with
  | none => s.finish caller .error
  | some message =>
      ((s.erase endpoint pointer).setCall caller (call message)).emit (.givenBack message)

/-- The end of `rmw_destroy_publisher` and `rmw_destroy_subscription`. -/
def destroyEndpoint (s : State Endpoint Caller Pointer) (endpoint : Endpoint) :
    State Endpoint Caller Pointer :=
  let emptied := (s.loanedMessages endpoint).foldl destroyMessage s
  { emptied with
    loanedMessages := Function.update emptied.loanedMessages endpoint []
    gone := Function.update emptied.gone endpoint true }

end State

section

variable {Endpoint Caller Pointer : Type*} [DecidableEq Endpoint] [DecidableEq Caller]
  [DecidableEq Pointer]

/-- One step.  `publisher` says which endpoints are publishers. -/
def next (publisher : Endpoint → Bool) (s : State Endpoint Caller Pointer) :
    Action Endpoint Caller Pointer → Option (State Endpoint Caller Pointer)
  | .borrow caller endpoint pointer =>
      if s.idle caller endpoint && publisher endpoint then
        s.create caller endpoint pointer fun message => .recording message false
      else none
  | .take caller endpoint withInfo pointer =>
      if s.idle caller endpoint && !publisher endpoint then
        s.create caller endpoint pointer fun message => .taking message withInfo
      else none
  | .find caller found =>
      match s.calls caller with
      | some (.taking message withInfo) =>
          let s := if found.reads then s.emit (.used message) else s
          some (s.setCall caller (found.next message withInfo))
      | _ => none
  | .record caller inserted =>
      match s.calls caller with
      | some (.recording message withInfo) =>
          if inserted then
            let call := if withInfo then .resolving message else .handing message
            some ((s.insert message).setCall caller call)
          else some (s.setCall caller (.dropping message .badAlloc))
      | _ => none
  | .resolve caller resolved =>
      match s.calls caller with
      | some (.resolving message) =>
          some (s.setCall caller (if resolved then .handing message else .withdrawing message))
      | _ => none
  | .withdraw caller =>
      match s.calls caller with
      | some (.withdrawing message) =>
          some ((s.erase message.endpoint message.pointer).setCall caller (.dropping message .error))
      | _ => none
  | .hand caller =>
      match s.calls caller with
      | some (.handing message) => some ((s.finish caller .ok).emit (.handed message))
      | _ => none
  | .giveBack caller endpoint pointer =>
      if s.idle caller endpoint then
        some (s.takeOut caller endpoint pointer fun message => .dropping message .ok)
      else none
  | .publish caller endpoint pointer =>
      if s.idle caller endpoint && publisher endpoint then
        some (s.takeOut caller endpoint pointer .publishing)
      else none
  | .write caller opened ret =>
      match s.calls caller with
      | some (.publishing message) =>
          let s := if opened then s.emit (.used message) else s
          some (s.setCall caller (.dropping message ret))
      | _ => none
  | .drop caller =>
      match s.calls caller with
      | some (.dropping message ret) => some ((s.destroyMessage message).finish caller ret)
      | _ => none
  | .destroy endpoint => if s.gone endpoint then none else some (s.destroyEndpoint endpoint)

/-- An endpoint is destroyed when no call on it is in progress. -/
def DestroysUnused (s : State Endpoint Caller Pointer) : Action Endpoint Caller Pointer → Prop
  | .destroy endpoint => ∀ caller call, s.calls caller = some call →
      call.message.endpoint ≠ endpoint
  | _ => True

/-- Nothing was created yet. -/
def State.start : State Endpoint Caller Pointer where
  live := ∅
  created := 0
  loanedMessages _ := []
  calls _ := none
  gone _ := false
  log := []
  results := []

/-- The runs of all calls on the endpoints. -/
def system (publisher : Endpoint → Bool) :
    System (State Endpoint Caller Pointer) (Action Endpoint Caller Pointer) :=
  (System.ofNext .start (next publisher)).restrict DestroysUnused

end

end RmwZzdds.DataPlane.Loan
