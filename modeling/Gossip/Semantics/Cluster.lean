import Gossip.Semantics.Listening
import Gossip.Semantics.Report

/-! # Clusters

Servers that exchange messages. What one of them posts stays in the network and
can be delivered at any time, in any order and more than once. Besides its state,
every server carries a record of how it came to its present opinion of each
other server; the code has no such record, and nothing that the servers do
depends on it. -/

namespace Gossip

open Foundation SwimServer

/-! ## Where an opinion comes from -/

inductive Origin
  /-- By a message from that server, or by trying to contact it. The time is that
  of the server's Lamport clock. -/
  | firstHand (time : UInt64)
  /-- By a record of a report that was received. `root` is the time of the
  first-hand observation that the record goes back to. -/
  | relayed (record : ServerRecord) (root : UInt64)
deriving DecidableEq, Repr

def Origin.root : Origin → UInt64
  | .firstHand time => time
  | .relayed _ root => root

structure Message where
  posting : Posting
  origin : Key → Option Origin

def relayedBy (sent : Key → Option Origin) (record : ServerRecord) : Origin :=
  .relayed record (((sent record.key).map Origin.root).getD record.lamportTime)

/-- The origin of an opinion that a record of `sender`'s report gives rise to. What a
server says about itself is first-hand. -/
def recordOrigin (sender : Server) (time : UInt64) (sent : Key → Option Origin)
    (record : ServerRecord) : Origin :=
  if record.key = sender.key then .firstHand time else relayedBy sent record

structure Peer where
  server : SwimServer
  origin : Key → Option Origin := fun _ => none

namespace Peer

def learn (peer : Peer) (key : Key) (origin : Option Origin) : Key → Option Origin :=
  fun other => if key = other then origin else peer.origin other

def updateLamportTime (peer : Peer) (time : UInt64) : Peer :=
  { peer with server := peer.server.updateLamportTime time }

def post (peer : Peer) (posting : Posting) : Peer :=
  { peer with server := peer.server.post posting }

def addAlive (peer : Peer) (subject : Server) (timestamp : UInt64) (origin : Origin) :
    Peer where
  server := (peer.server.addAlive subject timestamp).1
  origin := if subject.port = 0 then peer.origin else peer.learn subject.key (some origin)

/-- A server that is suspected already stays so for its old reason. -/
def reportSuspected (peer : Peer) (subject : Server) (timestamp : UInt64)
    (origin : Origin) : Peer where
  server := (peer.server.reportSuspected subject timestamp).1
  origin :=
    if subject.port = 0 then peer.origin
    else if subject.same peer.server.self then peer.learn subject.key (some origin)
    else if peer.server.suspected.contains subject.key then peer.origin
    else peer.learn subject.key (some origin)

def evict (peer : Peer) (removed : Server) (seconds : UInt64) : Peer where
  server := peer.server.removeSuspected removed .evicted seconds
  origin :=
    if peer.server.suspected.contains removed.key then peer.learn removed.key none
    else peer.origin

def onAliveRecord (origin : ServerRecord → Origin) (peer : Peer) (record : ServerRecord) :
    Peer where
  server := peer.server.onAliveRecord record
  origin :=
    if record.server.same peer.server.self then peer.origin
    else if (peer.server.suspected.find? record.key).any
        fun found => record.lamportTime < found.lamportTime then peer.origin
    else
      (peer.addAlive record.server record.timestamp (origin record)).origin

def onSuspectedRecord (origin : ServerRecord → Origin) (reportSender : Server)
    (peer : Peer) (record : ServerRecord) : Peer where
  server := SwimServer.onSuspectedRecord reportSender peer.server record
  origin :=
    if record.server.same peer.server.self then peer.origin
    else if (peer.server.alive.find? record.key).any
        fun found => record.lamportTime < found.lamportTime then peer.origin
    else
      (peer.reportSuspected record.server record.timestamp (origin record)).origin

def onReport (peer : Peer) (sender : Server) (report : SwimReport) (now : UInt64)
    (sent : Key → Option Origin) : Peer :=
  let origin := recordOrigin sender peer.server.lamportTime sent
  let peer := peer.addAlive sender now (.firstHand peer.server.lamportTime)
  let peer := report.alive.foldl (onAliveRecord origin) peer
  report.suspected.foldl (onSuspectedRecord origin report.sender) peer

def onUpdate (peer : Peer) (client : Server) (now : UInt64) : Peer where
  server := peer.server.onUpdate client now
  origin := (peer.addAlive client now (.firstHand peer.server.lamportTime)).origin

def onForwardRequest (peer : Peer) (sender : Server) (now : UInt64) : Peer :=
  peer.addAlive sender now (.firstHand peer.server.lamportTime)

def receive (peer : Peer) (message : Message) (now : UInt64) : Peer :=
  let envelope := message.posting.envelope
  let ticked := peer.updateLamportTime envelope.lamportTime
  match envelope.type, envelope.sender, envelope.report with
  | .statusUpdate, some sender, _ => ticked.onUpdate sender now
  | .statusReport, some sender, some report =>
      ticked.onReport sender report now message.origin
  | .statusRequest, some sender, _ => ticked.onForwardRequest sender now
  | _, _, _ => peer

/-! ## The server does what it does without the record -/

theorem onReport_server (peer : Peer) (sender : Server) (report : SwimReport)
    (now : UInt64) (sent : Key → Option Origin) :
    (peer.onReport sender report now sent).server =
      peer.server.onReport sender report now := by
  have aliveLoop (origin : ServerRecord → Origin) (peer : Peer)
      (records : List ServerRecord) :
      (records.foldl (onAliveRecord origin) peer).server =
        records.foldl SwimServer.onAliveRecord peer.server := by
    induction records generalizing peer with
    | nil => rfl
    | cons record records induction => exact induction _
  have suspectedLoop (origin : ServerRecord → Origin) (peer : Peer)
      (records : List ServerRecord) :
      (records.foldl (onSuspectedRecord origin report.sender) peer).server =
        records.foldl (SwimServer.onSuspectedRecord report.sender) peer.server := by
    induction records generalizing peer with
    | nil => rfl
    | cons record records induction => exact induction _
  rw [onReport, suspectedLoop, aliveLoop]
  rfl

theorem receive_server (peer : Peer) (message : Message) (now : UInt64) :
    (peer.receive message now).server =
      serverMachine.run peer.server (message.posting.envelope.operations now) := by
  rcases message with ⟨⟨dest, type, sender, lamportTime, report, destinationServer⟩, sent⟩
  cases type <;> cases sender <;> cases report <;> try rfl
  exact onReport_server _ _ _ _ _

end Peer

/-! ## Nodes and the network -/

structure Cluster (Node : Type) where
  peers : Node → Peer
  network : List Message := []

inductive ClusterEvent (Node : Type)
  | contact (node : Node) (subject : Server) (answered : Bool) (now : UInt64)
  | evict (node : Node) (subject : Server) (seconds : UInt64)
  | gossip (node : Node) (dest : Server) (sort : LamportSort)
      (aliveNow suspectedNow : UInt64)
  | ping (node : Node) (dest : Server)
  | requestPing (node : Node) (dest other : Server)
  /-- The report that the thread of `OnForwardRequest` sends. -/
  | forward (node : Node) (sender destination : Server) (seconds : UInt64)
  | deliver (node : Node) (index : Nat) (now : UInt64)

def ClusterEvent.node {Node : Type} : ClusterEvent Node → Node
  | .contact node .. | .evict node .. | .gossip node .. | .ping node _
  | .requestPing node .. | .forward node .. | .deliver node .. => node

section Machine

variable {Node Cost : Type} (costs : CostArithmetic Cost)

def Peer.act (network : List Message) (peer : Peer) : ClusterEvent Node → Peer
  | .contact _ subject answered now =>
      let origin := Origin.firstHand peer.server.lamportTime
      if answered then peer.addAlive subject now origin
      else peer.reportSuspected subject now origin
  | .evict _ subject seconds => peer.evict subject seconds
  | .gossip _ dest sort aliveNow suspectedNow =>
      peer.post ((peer.server.client dest).send
        (peer.server.prepareReport costs sort aliveNow suspectedNow)).2
  | .ping _ dest => peer.post (peer.server.client dest).ping.2
  | .requestPing _ dest other => peer.post ((peer.server.client dest).requestPing other).2
  | .forward _ sender destination seconds =>
      peer.post ((peer.server.client destination).send
        { sender := sender, suspected := [makeRecord destination seconds] }).2
  | .deliver _ index now =>
      match network[index]? with
      | some message => peer.receive message now
      | none => peer

def posted (before after : Peer) : List Message :=
  (after.server.postings.drop before.server.postings.length).map fun posting =>
    { posting := posting, origin := after.origin }

variable [DecidableEq Node]

def Cluster.act (cluster : Cluster Node) (event : ClusterEvent Node) : Cluster Node :=
  let before := cluster.peers event.node
  let after := before.act costs cluster.network event
  { peers := Function.update cluster.peers event.node after
    network := cluster.network ++ posted before after }

def clusterMachine : Machine (Cluster Node) (ClusterEvent Node) := ⟨Cluster.act costs⟩

@[simp] theorem clusterMachine_step (cluster : Cluster Node) (event : ClusterEvent Node) :
    (clusterMachine costs).step cluster event = cluster.act costs event := rfl

end Machine

/-- Freshly constructed servers, nothing in the network. -/
def Cluster.create {Node : Type} (settings : Node → Host × String × UInt16 × Bool) :
    Cluster Node where
  peers node :=
    let (host, hostName, port, statusCb) := settings node
    { server := .create host hostName port statusCb }

end Gossip
