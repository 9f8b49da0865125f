import Gossip.Semantics.ApiServer
import Gossip.Semantics.Circle

/-! # Processes

The program around a detector. It adds the seeds of its command line as neighbours and serves
two endpoints over HTTP, one that shows the report of the server and one that adds a neighbour.
Nobody catches what is thrown while a request is handled, so the process dies of it. What JSON
texts stand for and what becomes of a payload is up to the libraries. -/

namespace Gossip

open Foundation

/-! ## Seeds -/

def seedServer (conversion : Utils.DigitConversion) (host : Host) (name : Text) :
    Except Utils.ParseError Server :=
  (Utils.parseHostPort conversion name).map fun ipPort =>
    let hostname := String.ofList ipPort.1
    let ip := if Utils.parseIp ipPort.1 then hostname else host.inetAddress hostname
    { hostname := hostname, port := ipPort.2.toInt32.toInt, ipAddr := some ip }

/-! ## Endpoints -/

structure JsonConversion where
  jsonStringToMessage : Text → Option Server
  serverToJsonString : Server → Text
  reportToJsonString : SwimReport → Text

namespace Api

inductive Field
  | contentType
  | location
  | accessControlAllowOrigin
deriving DecidableEq, Repr

structure Answer where
  response : Response
  fields : List (Field × Text)

def statusOk : Nat := 200

/-- `http::status::created`. -/
def created : Nat := 201

/-- What is assumed of `prepare_payload` besides: it does not throw on what the endpoints
answer when all is well. -/
structure EndpointPayload extends Payload where
  acceptsAnswers : ∀ response, response.result = statusOk ∨ response.result = created →
    ∃ prepared, prepare response = .ok prepared

def defaultVersion : UInt32 := 11

section Endpoints

variable {Cost : Type} (costs : CostArithmetic Cost) (json : JsonConversion)
  (detector : GossipFailureDetector)

/-- The handler of GET requests for `report`. -/
def getReport (cors : Option Text) (sort : LamportSort) (aliveNow suspectedNow : UInt64)
    (request : Request) : Answer where
  response :=
    { version := request.version
      result := statusOk
      body := json.reportToJsonString
        (detector.server.prepareReport costs sort aliveNow suspectedNow)
      server := none }
  fields := cors.toList.map (fun domain => (.accessControlAllowOrigin, domain)) ++
    [(.contentType, "application/json".toList)]

/-- The handler of POST requests for `server`. -/
def postServer (contact : Contact) (request : Request) : GossipFailureDetector × Answer :=
  match json.jsonStringToMessage request.body with
  | some neighbor =>
      (detector.addNeighbor neighbor contact,
        { response :=
            { version := defaultVersion
              result := created
              body := "\x7b \"result\": \"added\", \"server\": ".toList ++
                json.serverToJsonString neighbor ++ "\x7d".toList
              server := none }
          fields := [(.contentType, "application/json".toList),
            (.location, "/server/".toList ++ neighbor.hostname.toList)] })
  | none =>
      (detector,
        { response :=
            { version := defaultVersion
              result := badRequest
              body := "Not a valid JSON representation of a server:".toList ++ request.body
              server := none }
          fields := [(.contentType, "text/plain".toList)] })

def endpoints (cors : Option Text) (sort : LamportSort) (aliveNow suspectedNow : UInt64)
    (contact : Contact) : ApiServer :=
  (ApiServer.create.addGet "report".toList fun request =>
    (getReport costs json detector cors sort aliveNow suspectedNow request).response).addPost
      "server".toList fun request => (postServer json detector contact request).2.response

end Endpoints

end Api

/-! ## Circles of processes -/

/-- What a process finds on its machine, and how it was started. -/
structure Environment where
  conversion : Utils.DigitConversion
  json : JsonConversion
  payload : Api.EndpointPayload
  host : Host
  cors : Option Text

structure Community (Node : Type) where
  circle : Circle Node
  responses : Node → List Api.Response
  terminated : Node → Bool

/-- Neither a request nor the detector has killed the process. -/
def Community.Lives {Node : Type} (community : Community Node) (node : Node) : Prop :=
  community.terminated node = false ∧
    ∃ participant, community.circle.processes node = .ok participant

/-- What can happen. Neighbours are only added for seeds and by requests. -/
inductive CommunityEvent (Node : Type)
  | seed (node : Node) (name : Text) (contact : Contact)
  /-- A request has been read, or could not be. The other arguments are for the handler that
  it reaches. -/
  | request (node : Node) (request : Api.Request) (ec : Option Api.ErrorCode)
      (sort : LamportSort) (aliveNow suspectedNow : UInt64) (contact : Contact)
  | threads (event : { event : CircleEvent Node // event.host? = none })

def CommunityEvent.node {Node : Type} : CommunityEvent Node → Node
  | .seed node .. | .request node .. => node
  | .threads event => event.val.node

section Machine

variable {Node Cost : Type} (transport : Transport) (costs : CostArithmetic Cost)
  (environment : Node → Environment)

def Participant.serve (environment : Environment) (participant : Participant)
    (request : Api.Request) (ec : Option Api.ErrorCode) (sort : LamportSort)
    (aliveNow suspectedNow : UInt64) (contact : Contact) :
    Participant × Except Api.Thrown Api.Response :=
  let handling := Api.handleRequest environment.payload.toPayload
    (Api.endpoints costs environment.json participant.detector environment.cors sort aliveNow
      suspectedNow contact) request ec
  (match handling.invoked with
    | some (.post, _) =>
        { participant with
          detector :=
            (Api.postServer environment.json participant.detector contact request).1 }
    | _ => participant,
    handling.outcome)

variable [DecidableEq Node]

def Community.respond (community : Community Node) (node : Node) (response : Api.Response) :
    Except Fault Participant → Node → List Api.Response
  | .ok _ => Function.update community.responses node (community.responses node ++ [response])
  | .error _ => community.responses

def Community.serve (community : Community Node) (node : Node)
    (served : Participant × Except Api.Thrown Api.Response) : Community Node :=
  let circle := community.circle.advance transport node fun _ => (served.1, none)
  match served.2 with
  | .error _ =>
      { community with
        circle := circle
        terminated := Function.update community.terminated node true }
  | .ok response =>
      { community with
        circle := circle
        responses := community.respond node response (circle.processes node) }

def Community.act (community : Community Node) (event : CommunityEvent Node) : Community Node :=
  if community.terminated event.node then community
  else
    match event with
    | .seed node name contact =>
        match seedServer (environment node).conversion (environment node).host name with
        | .error _ => community
        | .ok server =>
            { community with
              circle := community.circle.act transport costs
                (.addNeighbor node server contact) }
    | .request node request ec sort aliveNow suspectedNow contact =>
        match community.circle.processes node with
        | .error _ => community
        | .ok participant =>
            community.serve transport node (participant.serve costs (environment node) request
              ec sort aliveNow suspectedNow contact)
    | .threads event =>
        { community with circle := community.circle.act transport costs event }

def communityMachine : Machine (Community Node) (CommunityEvent Node) :=
  ⟨Community.act transport costs environment⟩

end Machine

def Community.create {Node : Type} (configurations : Node → Configuration) : Community Node where
  circle := .create configurations
  responses _ := []
  terminated _ := false

end Gossip
