import Gossip.Semantics.Utils

/-! # The REST server

How `HttpConnection::handleRequest` answers a request. `substr` throws when the target is
too short. What `prepare_payload` does is up to Boost, and a parameter here. -/

namespace Gossip.Api

open Foundation

/-- `http::verb`. The verbs other than GET and POST are treated alike. -/
inductive Verb
  | get
  | post
  | other (name : Text)
deriving DecidableEq, Repr

structure Request where
  version : UInt32
  method : Verb
  target : Text
  body : Text
deriving DecidableEq, Repr

structure Response where
  version : UInt32
  result : Nat
  body : Text
  server : Option Text
deriving DecidableEq, Repr

def badRequest : Nat := 400

def notFound : Nat := 404

/-- `error_code`, of which only the text is used. -/
structure ErrorCode where
  what : Text
deriving DecidableEq, Repr

/-- What Boost may throw: from `substr`, and from `prepare_payload`. -/
inductive Thrown
  | outOfRange
  | payload
deriving DecidableEq, Repr

abbrev ApiFunctionType := Request → Response

structure ApiServer where
  posts : Text → Option ApiFunctionType
  gets : Text → Option ApiFunctionType

namespace ApiServer

def create : ApiServer := ⟨fun _ => none, fun _ => none⟩

def addGet (server : ApiServer) (target : Text) (func : ApiFunctionType) : ApiServer :=
  { server with gets := Function.update server.gets target (some func) }

def addPost (server : ApiServer) (target : Text) (func : ApiFunctionType) : ApiServer :=
  { server with posts := Function.update server.posts target (some func) }

end ApiServer

/-- `set(http::field::server, ...)`. -/
def Response.setServer (response : Response) (name : Text) : Response :=
  { response with server := some name }

/-- `prepare_payload`, and what is assumed of it: it leaves the status alone, and it does
not throw on the two responses that the server makes of its own. -/
structure Payload where
  prepare : Response → Except Thrown Response
  keepsResult : ∀ response prepared, prepare response = .ok prepared →
    prepared.result = response.result
  acceptsOwn : ∀ response, response.result = badRequest ∨ response.result = notFound →
    ∃ prepared, prepare response = .ok prepared

structure Handling where
  invoked : Option (Verb × Text)
  outcome : Except Thrown Response

/-- A case of the `switch`: call the handler if there is one. -/
def invoke (handlers : Text → Option ApiFunctionType) (target : Text) (req : Request)
    (res : Response) : Option (Verb × Text) × Response :=
  match handlers target with
  | some value => (some (req.method, target), value req)
  | none => (none, res)

def dispatch (server : ApiServer) (target : Text) (req : Request) (res : Response) :
    Option (Verb × Text) × Response :=
  match req.method with
  | .post => invoke server.posts target req res
  | .get => invoke server.gets target req res
  | .other _ => (none, res)

/-- `handleRequest`, up to the call of `respond`. The target is cut before the error code
of the read is looked at. -/
def handleRequest (payload : Payload) (server : ApiServer) (req : Request)
    (ec : Option ErrorCode) : Handling :=
  let versioned : Bool := lastOccurrence "/api/v1".toList req.target = some 0
  match req.target.substr (if versioned then "/api/v1/".toList.length else 1) with
  | .error _ => ⟨none, .error .outOfRange⟩
  | .ok target =>
      let res : Response :=
        ⟨req.version, notFound, "Unknown API endpoint".toList, none⟩
      let handled :=
        match ec with
        | some ec => (none, { res with result := badRequest, body := ec.what })
        | none => dispatch server target req res
      ⟨handled.1, payload.prepare (handled.2.setServer "apierver".toList)⟩

end Gossip.Api
