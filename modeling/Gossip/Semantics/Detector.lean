import Gossip.Semantics.Report

/-! # The failure detector

A `GossipFailureDetector` drives one server: it chooses neighbours, sends them
reports, suspects those that do not answer and evicts suspects whose grace
period is over. What the network and the random engine decide is an input. -/

namespace Gossip

open Foundation

/-- The outcome of contacting one server: whether it answered, and the current
time read afterwards. -/
structure Contact where
  answered : Bool
  now : UInt64

inductive ReportType
  | full
  | single
deriving DecidableEq, Repr

structure GossipFailureDetector where
  server : SwimServer
  gracePeriod : Int64
  hostName : String
  numReports : UInt32
  numForwards : UInt32
  roundRobinIndex : UInt64 := 0

namespace GossipFailureDetector

/-- The constructor. It takes `num_reports_` and `num_forwards_` from members that are declared
after them and do not have their values yet, so that they can be anything. -/
def create (host : Host) (hostName : String) (statusCb : Bool) (port : UInt16)
    (gracePeriod : Int64) (numReports numForwards : UInt32) : GossipFailureDetector where
  server := .create host hostName port statusCb
  gracePeriod := gracePeriod
  hostName := hostName
  numReports := numReports
  numForwards := numForwards

inductive Outcome (α : Type)
  | returned (value : α)
  | thrown (exception : EmptySet)
  | unfinished
deriving DecidableEq

abbrev Result (α : Type) := GossipFailureDetector × Outcome α

def Result.andThen {α β : Type} (result : Result α)
    (next : GossipFailureDetector → α → Result β) : Result β :=
  match result with
  | (detector, .returned value) => next detector value
  | (detector, .thrown exception) => (detector, .thrown exception)
  | (detector, .unfinished) => (detector, .unfinished)

/-- A client for one exchange with `dest`. -/
def client (detector : GossipFailureDetector) (dest : Server) : SwimClient :=
  .create detector.server.host detector.hostName detector.server.lamportTime dest
    detector.server.port.toNat

def post (detector : GossipFailureDetector) (posting : Posting) :
    GossipFailureDetector :=
  { detector with server := detector.server.post posting }

def addAlive (detector : GossipFailureDetector) (subject : Server)
    (timestamp : UInt64) : GossipFailureDetector :=
  { detector with server := (detector.server.addAlive subject timestamp).1 }

def reportSuspected (detector : GossipFailureDetector) (subject : Server)
    (timestamp : UInt64) : GossipFailureDetector :=
  { detector with server := (detector.server.reportSuspected subject timestamp).1 }

/-! ## Choosing neighbours -/

/-- `int n = std::min(k, static_cast<unsigned int>(alive_size()))`. -/
def neighborCount (k : UInt32) (aliveSize : Nat) : Int :=
  let size := UInt32.ofNat aliveSize
  (if size < k then size else k).toInt32.toInt

/-- The round-robin loop of `GetUniqueNeighbors`. Nothing in it bounds the number
of turns, so the turns are counted down and a loop that runs out of them is
unfinished. -/
def roundRobin (server : SwimServer) (n : Int) : (turns : Nat) → (idx : Int) →
    (index : UInt64) → (others : OrderedSet Server.key) →
    UInt64 × Outcome (OrderedSet Server.key)
  | 0, _, index, _ => (index, .unfinished)
  | turns + 1, idx, index, others =>
      if idx < n then
        let size := server.alive.toList.length
        let index := if UInt64.ofNat size - 1 < index then 0 else index
        match server.getNeighborByIndex index.toNat with
        | .error exception => (index + 1, .thrown exception)
        | .ok other =>
            if other.same server.self then
              if size ≤ 1 then (index + 1, .returned others)
              else roundRobin server n turns idx (index + 1) others
            else
              roundRobin server n turns (idx + 1) (index + 1) (others.insert other).1
      else (index, .returned others)

/-- The random loop of `GetUniqueNeighbors`, with the draws of the random engine
as an input. -/
def randomNeighbors (server : SwimServer) (draws : Nat → Nat) : (remaining : Nat) →
    (collisions : Nat) → (others : OrderedSet Server.key) → OrderedSet Server.key
  | 0, _, others => others
  | remaining + 1, collisions, others =>
      match server.getRandomNeighbor (draws remaining) with
      | .error _ => randomNeighbors server draws remaining collisions others
      | .ok other =>
          let (grown, inserted) := others.insert other
          if inserted then randomNeighbors server draws remaining collisions grown
          else if 3 < collisions + 1 then grown
          else randomNeighbors server draws remaining (collisions + 1) grown

/-- `GetUniqueNeighbors(k)`. A turn that does not count is spent on the server
itself, and at least one that counts lies between two of them. -/
def getUniqueNeighbors (detector : GossipFailureDetector) (k : UInt32) :
    Result (List Server) :=
  let n := neighborCount k detector.server.alive.toList.length
  let (index, outcome) :=
    roundRobin detector.server n (2 * n.toNat + 2) 0 detector.roundRobinIndex .empty
  let selection : Result (OrderedSet Server.key) :=
    ({ detector with roundRobinIndex := index }, outcome)
  selection.andThen fun detector others => (detector, .returned others.toList)

/-- `GetUniqueNeighbors(k, false)`. -/
def getRandomNeighbors (detector : GossipFailureDetector) (k : UInt32)
    (draws : Nat → Nat) : List Server :=
  (randomNeighbors detector.server draws
    (neighborCount k detector.server.alive.toList.length).toNat 0 .empty).toList

/-! ## Sending reports -/

/-- Ask each of `forwards` to ping `other`. -/
def requestPings (detector : GossipFailureDetector) (other : Server)
    (forwards : List Server) : GossipFailureDetector :=
  forwards.foldl
    (fun detector forward =>
      detector.post ((detector.client forward).requestPing other).2)
    detector

/-- `SendReport(client, report, other)`. -/
def sendReportTo (detector : GossipFailureDetector) (report : SwimReport)
    (other : Server) (contact : Contact) : Result Bool :=
  let detector := detector.post ((detector.client other).send report).2
  if contact.answered then (detector, .returned true)
  else
    let detector := detector.reportSuspected other contact.now
    (detector.getUniqueNeighbors detector.numForwards).andThen fun detector forwards =>
      (detector.requestPings other forwards, .returned false)

/-- `SendReport(client, report, other)` and the `AddAlive` of a server that
answered. -/
def contactNeighbor (detector : GossipFailureDetector) (report : SwimReport)
    (other : Server) (contact : Contact) : Result Unit :=
  (detector.sendReportTo report other contact).andThen fun detector answered =>
    if answered then (detector.addAlive other contact.now, .returned ())
    else (detector, .returned ())

def contactNeighbors (report : SwimReport) (contacts : Server → Contact) :
    GossipFailureDetector → List Server → Result Unit
  | detector, [] => (detector, .returned ())
  | detector, other :: rest =>
      (detector.contactNeighbor report other (contacts other)).andThen
        fun detector _ => contactNeighbors report contacts detector rest

section Reporting

variable {Cost : Type} (costs : CostArithmetic Cost) (sort : LamportSort)

/-- `SendReport(type)`. `draw` is the random choice of a single report. -/
def sendReport (detector : GossipFailureDetector) (type : ReportType)
    (aliveNow suspectedNow : UInt64) (draw : Nat) (contacts : Server → Contact) :
    Result Unit :=
  if detector.server.alive.toList.isEmpty then (detector, .returned ())
  else
    let report := detector.server.prepareReport costs sort aliveNow suspectedNow
    match type with
    | .full =>
        (detector.getUniqueNeighbors detector.numReports).andThen
          fun detector others => contactNeighbors report contacts detector others
    | .single =>
        match detector.server.getRandomNeighbor draw with
        | .error _ => (detector, .returned ())
        | .ok other =>
            -- The handler around this branch also covers the forward requests.
            match detector.contactNeighbor report other (contacts other) with
            | (detector, .thrown _) => (detector, .returned ())
            | result => result

/-! ## Suspects -/

def pingRandomSuspected (detector : GossipFailureDetector) (draw : Nat)
    (contacts : Server → Contact) : GossipFailureDetector :=
  match detector.server.getRandomSuspect draw with
  | .error _ => detector
  | .ok suspect =>
      let detector := detector.post (detector.client suspect).ping.2
      if (contacts suspect).answered then
        detector.addAlive suspect (contacts suspect).now
      else detector

/-- `long expiredTime`, as it is read in the comparison with a timestamp. -/
def expiredTime (detector : GossipFailureDetector) (now : UInt64) : UInt64 :=
  (now - detector.gracePeriod.toUInt64).toInt64.toUInt64

/-- One turn of the loop of `GarbageCollectSuspected`. -/
def collectSuspect (expired : UInt64) (seconds : Server → UInt64) (server : SwimServer)
    (record : ServerRecord) : SwimServer :=
  if record.timestamp < expired then
    server.removeSuspected record.server .evicted (seconds record.server)
  else server

/-- `GarbageCollectSuspected`. The first two times are those read for the report,
`now` the one `expiredTime` is computed from, and `seconds` the system clock
when a record is made for the callback. -/
def garbageCollectSuspected (detector : GossipFailureDetector)
    (aliveNow suspectedNow now : UInt64) (seconds : Server → UInt64) :
    GossipFailureDetector :=
  let report := detector.server.prepareReport costs sort aliveNow suspectedNow
  { detector with
    server := report.suspected.foldl (collectSuspect (detector.expiredTime now) seconds)
      detector.server }

end Reporting

def addNeighbor (detector : GossipFailureDetector) (host : Server)
    (contact : Contact) : GossipFailureDetector :=
  let detector := detector.post (detector.client host).ping.2
  if contact.answered then detector.addAlive host contact.now
  else detector.reportSuspected host contact.now

end GossipFailureDetector

end Gossip
