import RmwZzdds.Library.Transition
import RmwZzdds.Service.Topic

/-!
# The clients and servers of one service

Any number of clients and servers share a request topic and a response topic.
A step is one atomic access of a call: the `fetch_add` on a client's sequence
number, one write, or one pass of a take.  Deliveries are steps of their own.

*Calls.*  `rmw_send_request` goes through `beginSend`, `fetchSequence` and
`publishRequest`.  A call whose `rmw_get_gid_for_publisher` fails returns at
once and touches nothing.

*Histories.*  `fetched`, `obtained` and `answered` record what happened.  The
calls never read them, and servers answer only ids they have in `obtained`.
-/

namespace RmwZzdds.Service

/-- The callbacks for the two messages of a service. -/
structure ServiceTypeSupport (Request Response : Type*) where
  request : Callbacks Request
  response : Callbacks Response

/-- The clients of a service with the GUIDs of their request writers. -/
structure Deployment (Client Request Response : Type*) where
  guid : Client → Guid
  guid_injective : Function.Injective guid
  typesupport : ServiceTypeSupport Request Response
  readerInit : List UInt8 → Bool

/-- Where a call of `rmw_send_request` is. -/
inductive SendStage where
  | gotGid
  | fetched (sequence : Int64)
  | returned (sequence : Int64) (ret : Ret)

/-- The sequence number a call uses, once it has one. -/
def SendStage.sequence : SendStage → Option Int64
  | .gotGid => none
  | .fetched sequence => some sequence
  | .returned sequence _ => some sequence

/-- A call of `rmw_send_request`. -/
structure Send (Client Request : Type*) where
  client : Client
  request : Request
  stage : SendStage

variable {Client Server Request Response : Type*}

/-- The two topics and the calls in progress. -/
structure State (Client Server Request Response : Type*) where
  nextSequence : Client → Int64
  sends : CallId → Option (Send Client Request)
  requests : Topic Server Request
  responses : Topic Client Response
  /-- How often a client's sequence number has been fetched. -/
  fetched : Client → Nat
  /-- The ids that takes of a server have returned. -/
  obtained : Server → List RequestId
  /-- The calls of `rmw_send_response`. -/
  answered : List (Server × RequestId × Response)

namespace State

def start : State Client Server Request Response where
  nextSequence _ := 1
  sends _ := none
  requests := Topic.empty
  responses := Topic.empty
  fetched _ := 0
  obtained _ := []
  answered := []

/-- The client and the sequence number of a call of `rmw_send_request`. -/
def sequenceOf (s : State Client Server Request Response) (call : CallId) :
    Option (Client × Int64) :=
  (s.sends call).bind fun send => send.stage.sequence.map fun sequence => (send.client, sequence)

/-- The state with a call of `rmw_send_request` at another stage. -/
def withSend (s : State Client Server Request Response) (call : CallId)
    (send : Send Client Request) : State Client Server Request Response :=
  { s with sends := Function.update s.sends call (some send) }

end State

/-- The steps.  `gid` says whether `rmw_get_gid_for_publisher` succeeds. -/
inductive Action (Client Server Request Response : Type*) where
  | beginSend (call : CallId) (client : Client) (request : Request) (gid : Bool)
  | fetchSequence (call : CallId)
  | publishRequest (call : CallId) (o : PublishOutcome)
  | deliverRequest (server : Server) (index : Nat)
  | beginTakeRequest (call : CallId) (server : Server) (info : ServiceInfo) (request : Request)
      (init : Ret)
  | passRequest (call : CallId) (event : TakeEvent)
  | sendResponse (server : Server) (requestId : RequestId) (response : Response)
      (o : PublishOutcome)
  | deliverResponse (client : Client) (index : Nat)
  | beginTakeResponse (call : CallId) (client : Client) (info : ServiceInfo)
      (response : Response) (gid : Bool) (init : Ret)
  | passResponse (call : CallId) (event : TakeEvent)

namespace Deployment

variable (d : Deployment Client Request Response)

/-- What `rmw_take_request` returns. -/
def takeRequest (t : Take Server Request) : Option (TakeResult Request) :=
  takeServiceMessage d.readerInit d.typesupport.request none t.info t.message t.init t.outcomes

/-- What `rmw_take_response` returns. -/
def takeResponse (t : Take Client Response) : Option (TakeResult Response) :=
  takeServiceMessage d.readerInit d.typesupport.response (some (d.guid t.owner)) t.info t.message
    t.init t.outcomes

/-- The ids a take of a request returns. -/
def obtainedBy (t : Take Server Request) : List RequestId :=
  match d.takeRequest t with
  | some r => if r.taken = some true then [r.info.requestId] else []
  | none => []

variable [DecidableEq Client] [DecidableEq Server]

/-- The state after a step, if the step is possible. -/
def next [Rcutils] (s : State Client Server Request Response) :
    Action Client Server Request Response → Option (State Client Server Request Response)
  | .beginSend call client request gid =>
      match s.sends call with
      | some _ => none
      | none => if gid then some (s.withSend call ⟨client, request, .gotGid⟩) else some s
  | .fetchSequence call =>
      match s.sends call with
      | some ⟨client, request, .gotGid⟩ =>
          let sequence := s.nextSequence client
          some { s.withSend call ⟨client, request, .fetched sequence⟩ with
            nextSequence := Function.update s.nextSequence client (sequence + 1)
            fetched := Function.update s.fetched client (s.fetched client + 1) }
      | _ => none
  | .publishRequest call o =>
      match s.sends call with
      | some ⟨client, request, .fetched sequence⟩ =>
          let (ret, wire) :=
            publishServiceMessage d.typesupport.request request ⟨d.guid client, sequence⟩ o
          some { s.withSend call ⟨client, request, .returned sequence ret⟩ with
            requests := s.requests.write wire }
      | _ => none
  | .deliverRequest server index =>
      (s.requests.deliver server index).map fun requests => { s with requests := requests }
  | .beginTakeRequest call server info request init =>
      (s.requests.beginTake call ⟨server, info, request, init, []⟩).map fun requests =>
        { s with requests := requests }
  | .passRequest call event =>
      (s.requests.pass d.takeRequest call event).map fun (t, requests) =>
        { s with
          requests := requests
          obtained :=
            Function.update s.obtained t.owner (s.obtained t.owner ++ d.obtainedBy t) }
  | .sendResponse server requestId response o =>
      if requestId ∈ s.obtained server then
        let (_, wire) := publishServiceMessage d.typesupport.response response requestId o
        some { s with
          responses := s.responses.write wire
          answered := s.answered ++ [(server, requestId, response)] }
      else none
  | .deliverResponse client index =>
      (s.responses.deliver client index).map fun responses => { s with responses := responses }
  | .beginTakeResponse call client info response gid init =>
      if gid then
        (s.responses.beginTake call ⟨client, info, response, init, []⟩).map fun responses =>
          { s with responses := responses }
      else some s
  | .passResponse call event =>
      (s.responses.pass d.takeResponse call event).map fun (_, responses) =>
        { s with responses := responses }

/-- The runs of the clients and servers of a service. -/
def system [Rcutils] :
    Transition.System (State Client Server Request Response)
      (Action Client Server Request Response) :=
  Transition.System.ofNext State.start d.next

end Deployment

end RmwZzdds.Service
