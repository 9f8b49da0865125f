import Gossip.Foundation.Execution
import Gossip.Semantics.Detector

/-! # Sequential runs

The operations that change a server, and those of the detector around it, as
the inputs of two machines. A run is any sequence of them, with arbitrary
arguments and arbitrary answers from the network. -/

namespace Gossip

open Foundation

/-- An operation of the server. `OnForwardRequest` is two of them, because its
second half runs in a thread of its own. -/
inductive ServerOperation
  | updateLamportTime (time : UInt64)
  | addAlive (subject : Server) (timestamp : UInt64)
  | reportSuspected (subject : Server) (timestamp : UInt64)
  | removeSuspected (subject : Server) (removeType : RemoveType) (seconds : UInt64)
  | onUpdate (client : Server) (now : UInt64)
  | onReport (sender : Server) (report : SwimReport) (now : UInt64)
  | onForwardRequest (sender : Server) (now : UInt64)
  | forwardPing (sender destination : Server) (seconds : UInt64) (answered : Bool)
      (now : UInt64)

def SwimServer.operate (server : SwimServer) : ServerOperation → SwimServer
  | .updateLamportTime time => server.updateLamportTime time
  | .addAlive subject timestamp => (server.addAlive subject timestamp).1
  | .reportSuspected subject timestamp => (server.reportSuspected subject timestamp).1
  | .removeSuspected subject removeType seconds =>
      server.removeSuspected subject removeType seconds
  | .onUpdate client now => server.onUpdate client now
  | .onReport sender report now => server.onReport sender report now
  | .onForwardRequest sender now => server.onForwardRequest sender now
  | .forwardPing sender destination seconds answered now =>
      server.forwardPing sender destination seconds answered now

def serverMachine : Machine SwimServer ServerOperation := ⟨SwimServer.operate⟩

/-- An operation of the detector, or one of its server. -/
inductive DetectorOperation
  | server (operation : ServerOperation)
  | addNeighbor (host : Server) (contact : Contact)
  | sendReport (type : ReportType) (aliveNow suspectedNow : UInt64) (draw : Nat)
      (contacts : Server → Contact)
  | pingRandomSuspected (draw : Nat) (contacts : Server → Contact)
  | garbageCollectSuspected (aliveNow suspectedNow now : UInt64)
      (seconds : Server → UInt64)

section Detector

variable {Cost : Type} (costs : CostArithmetic Cost) (sort : LamportSort)

def GossipFailureDetector.operate (detector : GossipFailureDetector) :
    DetectorOperation → GossipFailureDetector
  | .server operation => { detector with server := detector.server.operate operation }
  | .addNeighbor host contact => detector.addNeighbor host contact
  | .sendReport type aliveNow suspectedNow draw contacts =>
      (detector.sendReport costs sort type aliveNow suspectedNow draw contacts).1
  | .pingRandomSuspected draw contacts => detector.pingRandomSuspected draw contacts
  | .garbageCollectSuspected aliveNow suspectedNow now seconds =>
      detector.garbageCollectSuspected costs sort aliveNow suspectedNow now seconds

def detectorMachine : Machine GossipFailureDetector DetectorOperation :=
  ⟨GossipFailureDetector.operate costs sort⟩

end Detector

end Gossip
