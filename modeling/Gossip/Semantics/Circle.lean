import Gossip.Semantics.Listening
import Mathlib.Logic.Function.Basic

/-! # Gossip circles

Detectors in processes of their own, each of them with its listening loop and with the threads
that forward requests. Messages travel as bytes. What was posted stays in the network and can
be delivered at any time, in any order, more than once and to anybody, and whether a contact is
answered is up to the network too. The operations of one process follow each other. A process
can die, and the others go on. -/

namespace Gossip

open Foundation

/-- What a detector is constructed with, and what its constructor has found in memory. -/
structure Configuration where
  host : Host
  hostName : String
  statusCb : Bool
  port : UInt16
  gracePeriod : Int64
  numReports : UInt32
  numForwards : UInt32

/-- The name under which the clients of a detector introduce themselves. -/
def Configuration.identity (configuration : Configuration) : Key :=
  toLex (if configuration.hostName = "" then configuration.host.hostname
    else configuration.hostName, configuration.port.toNat)

/-- The name that the code has for the detector itself. -/
def Configuration.self (configuration : Configuration) : Key :=
  toLex (configuration.host.hostname, configuration.port.toNat)

/-- What the libraries do with messages: `SerializeAsString` and `ParseFromArray` of protobuf,
and the endpoints that ZeroMQ refuses. -/
structure Transport where
  serializeAsString : SwimEnvelope → List UInt8
  parseFromArray : List UInt8 → Option SwimEnvelope
  /-- What arrives is what was sent; or nothing, since a message that is too long is not
  serialized; or it cannot be parsed, since one of its texts is not UTF-8. -/
  faithful : ∀ envelope,
    parseFromArray (serializeAsString envelope) = some envelope ∨
      parseFromArray (serializeAsString envelope) = some {} ∨
      parseFromArray (serializeAsString envelope) = none
  refuses : String → Bool

def Transport.ofTable (table : List SwimEnvelope) : Transport where
  serializeAsString envelope :=
    match table.findIdx? (· = envelope) with
    | some index => List.replicate (index + 1) 0
    | none => []
  parseFromArray
    | [] => some {}
    | _ :: rest => table[rest.length]?
  faithful envelope := by
    cases found : table.findIdx? (· = envelope) with
    | none => exact .inr (.inl rfl)
    | some index =>
        rcases List.findIdx?_eq_some_iff_getElem.mp found with ⟨inside, same, -⟩
        have stored : table[index]? = some envelope := by
          rw [List.getElem?_eq_getElem inside, of_decide_eq_true same]
        left
        simpa [List.replicate_succ] using stored
  refuses _ := false

/-- A detector, the threads of `OnForwardRequest` that are still to run and what its loop has
replied so far. -/
structure Participant where
  detector : GossipFailureDetector
  forwards : List Forward := []
  replies : List Reply := []

namespace Participant

def create (configuration : Configuration) : Participant where
  detector := .create configuration.host configuration.hostName configuration.statusCb
    configuration.port configuration.gracePeriod configuration.numReports
    configuration.numForwards

def listener (participant : Participant) : Listener where
  server := participant.detector.server
  forwards := participant.forwards
  replies := participant.replies

def resume (participant : Participant) (listener : Listener) : Participant where
  detector := { participant.detector with server := listener.server }
  forwards := listener.forwards
  replies := listener.replies

def heard (participant : Participant) : Except Fault Listener → Participant × Option Fault
  | .ok listener => (participant.resume listener, none)
  | .error fault => (participant, some fault)

end Participant

structure Packet where
  dest : Server
  bytes : List UInt8

def Posting.packet (transport : Transport) (posting : Posting) : Packet where
  dest := posting.dest
  bytes := transport.serializeAsString posting.envelope

/-- The processes, as long as they live, and the messages on their way. -/
structure Circle (Node : Type) where
  processes : Node → Except Fault Participant
  network : List Packet := []

inductive Setting
  | numReports (value : UInt32)
  | numForwards (value : UInt32)
  | gracePeriod (value : Int64)
deriving DecidableEq

def GossipFailureDetector.set (detector : GossipFailureDetector) :
    Setting → GossipFailureDetector
  | .numReports value => { detector with numReports := value }
  | .numForwards value => { detector with numForwards := value }
  | .gracePeriod value => { detector with gracePeriod := value }

def GossipFailureDetector.Outcome.fault? {α : Type} : Outcome α → Option Fault
  | .thrown _ => some .emptySet
  | .returned _ | .unfinished => none

inductive CircleEvent (Node : Type)
  | addNeighbor (node : Node) (host : Server) (contact : Contact)
  | sendReport (node : Node) (sort : LamportSort) (type : ReportType)
      (aliveNow suspectedNow : UInt64) (draw : Nat) (contacts : Server → Contact)
  | pingRandomSuspected (node : Node) (draw : Nat) (contacts : Server → Contact)
  | garbageCollectSuspected (node : Node) (sort : LamportSort)
      (aliveNow suspectedNow now : UInt64) (seconds : Server → UInt64)
  | set (node : Node) (setting : Setting)
  /-- A thread of `OnForwardRequest` runs. -/
  | forward (node : Node) (index : Nat) (seconds : UInt64) (answered : Bool) (now : UInt64)
  | deliver (node : Node) (index : Nat) (now : UInt64)

def CircleEvent.node {Node : Type} : CircleEvent Node → Node
  | .addNeighbor node .. | .sendReport node .. | .pingRandomSuspected node ..
  | .garbageCollectSuspected node .. | .set node _ | .forward node .. | .deliver node .. => node

def CircleEvent.host? {Node : Type} : CircleEvent Node → Option Server
  | .addNeighbor _ host _ => some host
  | .sendReport .. | .pingRandomSuspected .. | .garbageCollectSuspected .. | .set ..
  | .forward .. | .deliver .. => none

section Machine

variable {Node Cost : Type} (transport : Transport) (costs : CostArithmetic Cost)

def Participant.act (network : List Packet) (participant : Participant) :
    CircleEvent Node → Participant × Option Fault
  | .addNeighbor _ host contact =>
      ({ participant with detector := participant.detector.addNeighbor host contact }, none)
  | .sendReport _ sort type aliveNow suspectedNow draw contacts =>
      let result := participant.detector.sendReport costs sort type aliveNow suspectedNow draw
        contacts
      ({ participant with detector := result.1 }, result.2.fault?)
  | .pingRandomSuspected _ draw contacts =>
      ({ participant with
        detector := participant.detector.pingRandomSuspected draw contacts }, none)
  | .garbageCollectSuspected _ sort aliveNow suspectedNow now seconds =>
      ({ participant with
        detector := participant.detector.garbageCollectSuspected costs sort aliveNow
          suspectedNow now seconds }, none)
  | .set _ setting => ({ participant with detector := participant.detector.set setting }, none)
  | .forward _ index seconds answered now =>
      participant.heard (participant.listener.background index seconds answered now)
  | .deliver _ index now =>
      match network[index]? with
      | some packet =>
          participant.heard
            (participant.listener.receive transport.parseFromArray packet.bytes now)
      | none => (participant, none)

theorem Participant.act_deliver {network : List Packet} {index : Nat} {packet : Packet}
    (found : network[index]? = some packet) (participant : Participant) (node : Node)
    (now : UInt64) :
    participant.act transport costs network (.deliver node index now) =
      participant.heard
        (participant.listener.receive transport.parseFromArray packet.bytes now) := by
  simp [act, found]

theorem Participant.act_deliver_none {network : List Packet} {index : Nat}
    (absent : network[index]? = none) (participant : Participant) (node : Node)
    (now : UInt64) :
    participant.act transport costs network (.deliver node index now) = (participant, none) := by
  simp [act, absent]

def Participant.posted (before after : Participant) : List Posting :=
  after.detector.server.postings.drop before.detector.server.postings.length

/-- The postings for which `connect` does not throw. -/
def Transport.accepts (posting : Posting) : Bool :=
  !transport.refuses (SwimClient.destinationUri posting.dest)

def Participant.packets (before after : Participant) : List Packet :=
  ((before.posted after).takeWhile transport.accepts).map (Posting.packet transport)

def Participant.survives (before : Participant) (reaction : Participant × Option Fault) :
    Except Fault Participant :=
  if (before.posted reaction.1).all transport.accepts then
    match reaction.2 with
    | none => .ok reaction.1
    | some fault => .error fault
  else .error .endpoint

variable [DecidableEq Node]

/-- A process reacts to something, if it still lives. -/
def Circle.advance (circle : Circle Node) (node : Node)
    (react : Participant → Participant × Option Fault) : Circle Node :=
  match circle.processes node with
  | .error _ => circle
  | .ok before =>
      { processes := Function.update circle.processes node
          (before.survives transport (react before))
        network := circle.network ++ before.packets transport (react before).1 }

def Circle.act (circle : Circle Node) (event : CircleEvent Node) : Circle Node :=
  circle.advance transport event.node fun participant =>
    participant.act transport costs circle.network event

def circleMachine : Machine (Circle Node) (CircleEvent Node) := ⟨Circle.act transport costs⟩

end Machine

/-- Freshly constructed detectors, nothing in the network. -/
def Circle.create {Node : Type} (configurations : Node → Configuration) : Circle Node where
  processes node := .ok (.create (configurations node))

/-! ## Open circles -/

/-- What can happen when not only the members of a circle send messages. -/
inductive OpenEvent (Node : Type)
  | inside (event : CircleEvent Node)
  | intrude (node : Node) (bytes : List UInt8) (now : UInt64)

def OpenEvent.node {Node : Type} : OpenEvent Node → Node
  | .inside event => event.node
  | .intrude node .. => node

section OpenMachine

variable {Node Cost : Type} (transport : Transport) (costs : CostArithmetic Cost)

def Participant.react (network : List Packet) (participant : Participant) :
    OpenEvent Node → Participant × Option Fault
  | .inside event => participant.act transport costs network event
  | .intrude _ bytes now =>
      participant.heard (participant.listener.receive transport.parseFromArray bytes now)

variable [DecidableEq Node]

def openMachine : Machine (Circle Node) (OpenEvent Node) :=
  ⟨fun circle event => circle.advance transport event.node fun participant =>
    participant.react transport costs circle.network event⟩

end OpenMachine

end Gossip
