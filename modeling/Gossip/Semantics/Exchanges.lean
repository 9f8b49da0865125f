import Gossip.Semantics.Listening
import Mathlib.Logic.Function.Basic

/-! # Exchanges between servers

A cluster as the threads of its servers and detectors drive it. A thread that has
something to send goes through several steps: it prepares a report, if it is to send
one, reads the Lamport clock, builds a client, lets the client post the message and acts
on the answer. Between any two of these other threads take steps and messages are
received. What was posted stays in the network and can be delivered at any time, in any
order and more than once.

A thread may turn to any server here. The code chooses among those it knows, those it was
asked to ping and those that have reported it as suspected; the ping that `OnReport` sends
to the last is an errand like the others, and the list of postings of the server, in
which the sequential model records it, plays no part. -/

namespace Gossip

open Foundation SwimServer

/-! ## What a client is built for -/

inductive Errand
  | addNeighbor (host : Server)
  | sendReport (other : Server) (report : SwimReport)
  /-- The request that `SendReport` makes of `forward` after a failure. -/
  | requestPing (forward other : Server)
  | pingRandomSuspected (suspect : Server)
  /-- The thread of `OnForwardRequest`; `seconds` is the time that `MakeRecord` reads. -/
  | forwardPing (sender destination : Server) (seconds : UInt64)
  /-- The answer of `OnReport` to a report of the server's own death. -/
  | pingBack (reportSender : Server)
deriving DecidableEq, Repr

structure Failure where
  key : Key
  time : UInt64
deriving DecidableEq

namespace Errand

def dest : Errand → Server
  | .addNeighbor host => host
  | .sendReport other _ => other
  | .requestPing forward _ => forward
  | .pingRandomSuspected suspect => suspect
  | .forwardPing _ destination _ => destination
  | .pingBack reportSender => reportSender

def report? : Errand → Option SwimReport
  | .sendReport _ report => some report
  | .forwardPing sender destination seconds =>
      some { sender := sender, suspected := [makeRecord destination seconds] }
  | _ => none

def posting (client : SwimClient) : Errand → Posting
  | .addNeighbor _ | .pingRandomSuspected _ | .pingBack _ => client.ping.2
  | .sendReport _ report => (client.send report).2
  | .requestPing _ other => (client.requestPing other).2
  | .forwardPing sender destination seconds =>
      (client.send
        { sender := sender, suspected := [makeRecord destination seconds] }).2

def conclusion (answered : Bool) (now : UInt64) : Errand → List ServerOperation
  | .addNeighbor other | .sendReport other _ =>
      if answered then [.addAlive other now] else [.reportSuspected other now]
  | .pingRandomSuspected suspect => if answered then [.addAlive suspect now] else []
  | .forwardPing _ destination _ =>
      if answered then [] else [.reportSuspected destination now]
  | .requestPing .. | .pingBack _ => []

def failure? (answered : Bool) (now : UInt64) : Errand → Option Failure
  | .addNeighbor other | .sendReport other _ | .forwardPing _ other _ =>
      if answered then none else some ⟨other.key, now⟩
  | .requestPing .. | .pingRandomSuspected _ | .pingBack _ => none

def Ready (reports : List SwimReport) : Errand → Prop
  | .sendReport _ report => report ∈ reports
  | _ => True

instance (reports : List SwimReport) : ∀ errand : Errand, Decidable (errand.Ready reports)
  | .sendReport _ report => inferInstanceAs (Decidable (report ∈ reports))
  | .addNeighbor _ | .requestPing .. | .pingRandomSuspected _ | .forwardPing ..
  | .pingBack _ => isTrue trivial

@[simp] theorem posting_report (client : SwimClient) (errand : Errand) :
    (errand.posting client).envelope.report = errand.report? := by
  cases errand <;> rfl

@[simp] theorem posting_lamportTime (client : SwimClient) (errand : Errand) :
    (errand.posting client).envelope.lamportTime = client.lamportTime + 1 := by
  cases errand <;> rfl

@[simp] theorem posting_dest (client : SwimClient) (errand : Errand) :
    (errand.posting client).dest = client.dest := by
  cases errand <;> rfl

theorem posting_handleable (client : SwimClient) (errand : Errand) :
    (errand.posting client).envelope.Handleable := by
  cases errand <;>
    simp [posting, SwimClient.ping, SwimClient.send, SwimClient.requestPing,
      SwimClient.postMessage, SwimEnvelope.Handleable]

theorem conclusion_cases (errand : Errand) (answered : Bool) (now : UInt64) :
    errand.conclusion answered now = [] ∨
      errand.conclusion answered now = [.addAlive errand.dest now] ∨
      errand.conclusion answered now = [.reportSuspected errand.dest now] ∧
        errand.failure? answered now = some ⟨errand.dest.key, now⟩ := by
  cases errand <;> cases answered <;> simp [conclusion, failure?, dest]

theorem conclusion_noClock (errand : Errand) (answered : Bool) (now : UInt64) :
    ∀ operation ∈ errand.conclusion answered now,
      ∀ time, operation ≠ .updateLamportTime time := by
  rcases errand.conclusion_cases answered now with equal | equal | ⟨equal, -⟩ <;>
    simp [equal]

end Errand

theorem GossipFailureDetector.create_client (host : Host) (hostName : String)
    (statusCb : Bool) (port : UInt16) (gracePeriod : Int64) (numReports numForwards : UInt32)
    (dest : Server) :
    (create host hostName statusCb port gracePeriod numReports numForwards).client dest =
      (create host hostName statusCb port gracePeriod numReports
        numForwards).server.client dest := by
  by_cases unnamed : hostName = "" <;>
    simp [create, client, SwimServer.client, SwimServer.create, SwimClient.create, unnamed]

/-! ## One server with its threads -/

/-- The Lamport clock as a thread has read it. `reports` are the reports that were
prepared by then and `processed` is the number of messages processed by then. -/
structure Reading where
  time : UInt64
  reports : List SwimReport
  processed : Nat
deriving DecidableEq

inductive Phase
  | built
  | posted
  | concluded
deriving DecidableEq, Repr

/-- A client and what it is for. `past` are the envelopes that its server had sent or
processed when the client was built; nothing that the servers do depends on it. -/
structure Exchange where
  client : SwimClient
  errand : Errand
  reading : Reading
  past : List SwimEnvelope
  phase : Phase := .built
deriving DecidableEq

structure Sent where
  posting : Posting
  past : List SwimEnvelope
deriving DecidableEq

structure Station where
  server : SwimServer
  /-- Reports for which only `alive_` has been copied. -/
  copies : List SwimReport := []
  reports : List SwimReport := []
  readings : List Reading := []
  exchanges : List Exchange := []
  processed : Nat := 0
  past : List SwimEnvelope := []

/-- What can happen at a node. Threads, messages and half-prepared reports are chosen by
their number. -/
inductive ExchangeEvent (Node : Type)
  /-- The two critical sections of `PrepareReport`. -/
  | copyAlive (node : Node) (sort : LamportSort) (now : UInt64)
  | copySuspected (node : Node) (copy : Nat) (sort : LamportSort) (now : UInt64)
  | read (node : Node)
  | build (node : Node) (reading : Nat) (errand : Errand)
  | post (node : Node) (exchange : Nat)
  | conclude (node : Node) (exchange : Nat) (answered : Bool) (now : UInt64)
  | evict (node : Node) (subject : Server) (seconds : UInt64)
  | deliver (node : Node) (index : Nat) (now : UInt64)

def ExchangeEvent.node {Node : Type} : ExchangeEvent Node → Node
  | .copyAlive node .. | .copySuspected node .. | .read node | .build node ..
  | .post node _ | .conclude node .. | .evict node .. | .deliver node .. => node

namespace Station

variable {Node Cost : Type} (costs : CostArithmetic Cost) (network : List Sent)
  (station : Station)

def exchangeIn (phase : Phase) (index : Nat) : Option Exchange :=
  station.exchanges[index]?.filter fun exchange => exchange.phase = phase

def operations : ExchangeEvent Node → List ServerOperation
  | .conclude _ index answered now =>
      (station.exchangeIn .posted index).elim [] fun exchange =>
        exchange.errand.conclusion answered now
  | .evict _ subject seconds => [.removeSuspected subject .evicted seconds]
  | .deliver _ index now =>
      network[index]?.elim [] fun sent => sent.posting.envelope.operations now
  | .copyAlive .. | .copySuspected .. | .read _ | .build .. | .post .. => []

def sent? : ExchangeEvent Node → Option Sent
  | .post _ index =>
      (station.exchangeIn .built index).map fun exchange =>
        { posting := exchange.errand.posting exchange.client, past := exchange.past }
  | _ => none

def failure? : ExchangeEvent Node → Option Failure
  | .conclude _ index answered now =>
      (station.exchangeIn .posted index).bind fun exchange =>
        exchange.errand.failure? answered now
  | _ => none

def client (reading : Reading) (errand : Errand) : SwimClient :=
  .create station.server.host station.server.hostName reading.time errand.dest
    station.server.port.toNat

def buildExchange (reading : Reading) (errand : Errand) : Exchange where
  client := station.client reading errand
  errand := errand
  reading := reading
  past := station.past

def advance (index : Nat) (phase : Phase) : List Exchange :=
  station.exchanges.modify index fun exchange => { exchange with phase := phase }

theorem forall_advance {holds : Exchange → Prop}
    (phaseless : ∀ exchange phase, holds exchange → holds { exchange with phase := phase })
    (all : ∀ exchange ∈ station.exchanges, holds exchange) (index : Nat) (phase : Phase) :
    ∀ exchange ∈ station.advance index phase, holds exchange := by
  intro exchange member
  rcases List.mem_iff_getElem?.mp member with ⟨position, found⟩
  rw [advance, List.getElem?_modify] at found
  rcases Option.map_eq_some_iff.mp found with ⟨original, stored, rfl⟩
  have before := all original (List.mem_of_getElem? stored)
  split
  · exact phaseless _ _ before
  · exact before

def act (event : ExchangeEvent Node) : Station :=
  let server := serverMachine.run station.server (station.operations network event)
  match event with
  | .copyAlive _ sort now =>
      { station with copies := station.copies ++ [server.startReport costs sort now] }
  | .copySuspected _ copy sort now =>
      station.copies[copy]?.elim station fun report =>
        { station with
          reports := station.reports ++ [server.finishReport costs sort report now] }
  | .read _ =>
      { station with
        readings := station.readings ++
          [⟨server.lamportTime, station.reports, station.processed⟩] }
  | .build _ reading errand =>
      station.readings[reading]?.elim station fun reading =>
        if errand.Ready reading.reports then
          { station with
            exchanges := station.exchanges ++ [station.buildExchange reading errand] }
        else station
  | .post _ index =>
      (station.exchangeIn .built index).elim station fun exchange =>
        { station with
          past := station.past ++ [(exchange.errand.posting exchange.client).envelope]
          exchanges := station.advance index .posted }
  | .conclude _ index _ _ =>
      (station.exchangeIn .posted index).elim station fun _ =>
        { station with server := server, exchanges := station.advance index .concluded }
  | .evict .. => { station with server := server }
  | .deliver _ index _ =>
      network[index]?.elim station fun sent =>
        { station with
          server := server
          processed := station.processed + 1
          past := station.past ++ [sent.posting.envelope] }

theorem act_server (event : ExchangeEvent Node) :
    (station.act costs network event).server =
      serverMachine.run station.server (station.operations network event) := by
  cases event with
  | copyAlive | read | evict => rfl
  | copySuspected node copy sort now =>
      simp only [act]
      cases station.copies[copy]? <;> rfl
  | build node reading errand =>
      simp only [act]
      cases station.readings[reading]? with
      | none => rfl
      | some reading =>
          simp only [Option.elim_some]
          split <;> rfl
  | post node index =>
      simp only [act]
      cases station.exchangeIn .built index <;> rfl
  | conclude node index answered now =>
      simp only [act, operations]
      cases station.exchangeIn .posted index <;> rfl
  | deliver node index now =>
      simp only [act, operations]
      cases network[index]? <;> rfl

inductive Moves : ExchangeEvent Node → Station → List Sent → List Failure → Prop
  | idle (event : ExchangeEvent Node) : Moves event station [] []
  | copyAlive (node : Node) (sort : LamportSort) (now : UInt64) :
      Moves (.copyAlive node sort now)
        { station with
          copies := station.copies ++ [station.server.startReport costs sort now] } [] []
  | copySuspected (node : Node) (copy : Nat) (sort : LamportSort) (now : UInt64)
      (report : SwimReport) (found : station.copies[copy]? = some report) :
      Moves (.copySuspected node copy sort now)
        { station with
          reports := station.reports ++
            [station.server.finishReport costs sort report now] } [] []
  | read (node : Node) :
      Moves (.read node)
        { station with
          readings := station.readings ++
            [⟨station.server.lamportTime, station.reports, station.processed⟩] } [] []
  | build (node : Node) (index : Nat) (errand : Errand) (reading : Reading)
      (found : station.readings[index]? = some reading)
      (ready : errand.Ready reading.reports) :
      Moves (.build node index errand)
        { station with
          exchanges := station.exchanges ++ [station.buildExchange reading errand] } [] []
  | post (node : Node) (index : Nat) (exchange : Exchange)
      (found : station.exchanges[index]? = some exchange) (unsent : exchange.phase = .built) :
      Moves (.post node index)
        { station with
          past := station.past ++ [(exchange.errand.posting exchange.client).envelope]
          exchanges := station.advance index .posted }
        [⟨exchange.errand.posting exchange.client, exchange.past⟩] []
  | conclude (node : Node) (index : Nat) (answered : Bool) (now : UInt64)
      (exchange : Exchange) (found : station.exchanges[index]? = some exchange)
      (waiting : exchange.phase = .posted) :
      Moves (.conclude node index answered now)
        { station with
          server :=
            serverMachine.run station.server (exchange.errand.conclusion answered now)
          exchanges := station.advance index .concluded }
        [] (exchange.errand.failure? answered now).toList
  | evict (node : Node) (subject : Server) (seconds : UInt64) :
      Moves (.evict node subject seconds)
        { station with server := station.server.removeSuspected subject .evicted seconds }
        [] []
  | deliver (node : Node) (index : Nat) (now : UInt64) (sent : Sent)
      (found : network[index]? = some sent) :
      Moves (.deliver node index now)
        { station with
          server := station.server.process sent.posting.envelope now
          processed := station.processed + 1
          past := station.past ++ [sent.posting.envelope] } [] []

theorem act_moves (event : ExchangeEvent Node) :
    station.Moves costs network event (station.act costs network event)
      (station.sent? event).toList (station.failure? event).toList := by
  cases event with
  | copyAlive node sort now => exact .copyAlive node sort now
  | read node => exact .read node
  | evict node subject seconds => exact .evict node subject seconds
  | copySuspected node copy sort now =>
      simp only [act]
      cases found : station.copies[copy]? with
      | none => exact .idle _
      | some report => exact .copySuspected node copy sort now report found
  | build node index errand =>
      simp only [act]
      cases found : station.readings[index]? with
      | none => exact .idle _
      | some reading =>
          simp only [Option.elim_some]
          split
          next ready => exact .build node index errand reading found ready
          next => exact .idle _
  | post node index =>
      simp only [act, sent?]
      cases found : station.exchangeIn .built index with
      | none => exact .idle _
      | some exchange =>
          have parts := Option.filter_eq_some_iff.mp found
          exact .post node index exchange parts.1 (by simpa using parts.2)
  | conclude node index answered now =>
      simp only [act, operations, failure?]
      cases found : station.exchangeIn .posted index with
      | none => exact .idle _
      | some exchange =>
          have parts := Option.filter_eq_some_iff.mp found
          exact .conclude node index answered now exchange parts.1 (by simpa using parts.2)
  | deliver node index now =>
      simp only [act, operations]
      cases found : network[index]? with
      | none => exact .idle _
      | some sent => exact .deliver node index now sent found

variable {costs network station} in
theorem Moves.handleable {event : ExchangeEvent Node} {after : Station} {sent : List Sent}
    {failures : List Failure}
    (moves : station.Moves costs network event after sent failures) :
    ∀ message ∈ sent, message.posting.envelope.Handleable := by
  cases moves with
  | post node index exchange found unsent =>
      simpa using exchange.errand.posting_handleable exchange.client
  | _ => simp

end Station

/-! ## Clusters -/

/-- Servers with their threads, the messages sent so far and the failed contacts so far;
nothing depends on the last. -/
structure Deployment (Node : Type) where
  stations : Node → Station
  network : List Sent := []
  failures : List Failure := []

section Machine

variable {Node Cost : Type} (costs : CostArithmetic Cost) [DecidableEq Node]

def Deployment.act (deployment : Deployment Node) (event : ExchangeEvent Node) :
    Deployment Node :=
  let station := deployment.stations event.node
  { stations := Function.update deployment.stations event.node
      (station.act costs deployment.network event)
    network := deployment.network ++ (station.sent? event).toList
    failures := deployment.failures ++ (station.failure? event).toList }

theorem Deployment.act_eq (deployment : Deployment Node) (event : ExchangeEvent Node) :
    ∃ after sent failures,
      (deployment.stations event.node).Moves costs deployment.network event after sent
        failures ∧
      deployment.act costs event =
        { stations := Function.update deployment.stations event.node after
          network := deployment.network ++ sent
          failures := deployment.failures ++ failures } :=
  ⟨_, _, _, Station.act_moves costs _ _ event, rfl⟩

def exchangeMachine : Machine (Deployment Node) (ExchangeEvent Node) :=
  ⟨Deployment.act costs⟩

@[simp] theorem exchangeMachine_step (deployment : Deployment Node)
    (event : ExchangeEvent Node) :
    (exchangeMachine costs).step deployment event = deployment.act costs event := rfl

end Machine

/-- Freshly constructed servers, nothing under way. -/
def Deployment.create {Node : Type} (settings : Node → Host × String × UInt16 × Bool) :
    Deployment Node where
  stations node :=
    let (host, hostName, port, statusCb) := settings node
    { server := .create host hostName port statusCb }

end Gossip
