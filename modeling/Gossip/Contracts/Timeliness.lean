import Gossip.Contracts.Membership
import Gossip.Semantics.Views

/-! # Times in a cluster

No record is newer than the clock of the server that holds it, and every message
is newer than the records in it, as long as no clock wraps around. -/

namespace Gossip

open Foundation SwimServer

/-! ## Messages are newer than the records in them -/

def Posting.WellTimed (posting : Posting) : Prop :=
  ∀ report, posting.envelope.report = some report →
    ∀ turn ∈ report.turns, turn.record.lamportTime < posting.envelope.lamportTime

namespace SwimServer

theorem send_wellTimed {server : SwimServer} (fits : server.lamportTime.toNat + 1 < 2 ^ 64)
    (dest : Server) {report : SwimReport}
    (bounded : ∀ turn ∈ report.turns, turn.record.lamportTime ≤ server.lamportTime) :
    ((server.client dest).send report).2.WellTimed := by
  rintro sent equal turn member
  cases equal
  have atMost := UInt64.le_iff_toNat_le.mp (bounded turn member)
  have later : (server.lamportTime + 1).toNat = server.lamportTime.toNat + 1 := by
    simp [UInt64.toNat_add]
    omega
  apply UInt64.lt_iff_toNat_lt.mpr
  calc turn.record.lamportTime.toNat
      ≤ server.lamportTime.toNat := atMost
    _ < (server.lamportTime + 1).toNat := by omega

theorem wellTimed_of_report_eq_none {posting : Posting}
    (absent : posting.envelope.report = none) : posting.WellTimed := by
  intro report equal
  rw [absent] at equal
  cases equal

end SwimServer

def Primitive.PostsWellTimed (step : Primitive) : Prop :=
  ∀ posting, step.posting? = some posting → posting.WellTimed

namespace SwimServer

def Works (before after : SwimServer) : Prop :=
  ∃ steps, primitiveMachine.run before steps = after ∧
    ∀ step ∈ steps, step.PostsWellTimed

theorem Works.reaches {before after : SwimServer} (works : before.Works after) :
    before.Reaches after :=
  works.imp fun _ leads => leads.1

theorem Works.postings {before after : SwimServer} (works : before.Works after) :
    ∀ posting ∈ after.postings.drop before.postings.length, posting.WellTimed := by
  rcases works with ⟨steps, rfl, wellTimed⟩
  intro posting member
  rw [run_postings, List.drop_left, List.mem_filterMap] at member
  rcases member with ⟨step, member, posted⟩
  exact wellTimed step member posting posted

theorem Works.post (server : SwimServer) {posting : Posting}
    (wellTimed : posting.WellTimed) : server.Works (server.post posting) := by
  refine ⟨[.post posting], rfl, ?_⟩
  simpa [Primitive.PostsWellTimed, Primitive.posting?] using wellTimed

theorem works_operate (server : SwimServer) (operation : ServerOperation)
    (noClock : ∀ time, operation ≠ .updateLamportTime time)
    (wellTimed : ∀ step ∈ server.calls operation, step.PostsWellTimed) :
    server.Works (server.operate operation) :=
  ⟨_, run_calls server operation noClock, wellTimed⟩

theorem works_of_quiet (server : SwimServer) (operation : ServerOperation)
    (noClock : ∀ time, operation ≠ .updateLamportTime time)
    (quiet : (server.calls operation).filterMap Primitive.posting? = []) :
    server.Works (server.operate operation) := by
  apply works_operate server operation noClock
  intro step member posting posted
  have sent : posting ∈ (server.calls operation).filterMap Primitive.posting? :=
    List.mem_filterMap.mpr ⟨step, member, posted⟩
  rw [quiet] at sent
  cases sent

theorem onReportCalls_wellTimed (server : SwimServer) (sender : Server)
    (report : SwimReport) (now : UInt64) :
    ∀ step ∈ server.onReportCalls sender report now, step.PostsWellTimed := by
  intro step member
  cases server.mem_onReportCalls sender report now step member with
  | ping => simpa [Primitive.PostsWellTimed, Primitive.posting?] using
      wellTimed_of_report_eq_none rfl
  | _ => simp [Primitive.PostsWellTimed, Primitive.posting?]

end SwimServer

namespace Peer

theorem receive_works (peer : Peer) (message : Message) (now : UInt64) :
    peer.receive message now = peer ∨
      (peer.server.updateLamportTime message.posting.envelope.lamportTime).Works
        (peer.receive message now).server := by
  simp only [receive]
  split
  · right
    exact works_of_quiet _ (.onUpdate _ now) (by simp) rfl
  · right
    rw [onReport_server]
    exact works_operate _ (.onReport _ _ now) (by simp) (onReportCalls_wellTimed _ _ _ _)
  · right
    exact works_of_quiet _ (.onForwardRequest _ now) (by simp) rfl
  · exact .inl rfl

end Peer

section Steps

variable {Node Cost : Type} (costs : CostArithmetic Cost)

/-- No 64-bit clock wraps around in this event: neither that of the node nor the
copy that a client increments. -/
def Peer.ClockFits (network : List Message) (peer : Peer) : ClusterEvent Node → Prop
  | .contact .. | .evict .. => True
  | .gossip .. | .ping .. | .requestPing .. | .forward .. =>
      peer.server.lamportTime.toNat + 1 < 2 ^ 64
  | .deliver _ index _ =>
      ∀ message ∈ network[index]?,
        peer.server.ClockFits message.posting.envelope.lamportTime

instance (network : List Message) (peer : Peer) :
    ∀ event : ClusterEvent Node, Decidable (peer.ClockFits network event)
  | .contact .. | .evict .. => isTrue trivial
  | .gossip .. | .ping .. | .requestPing .. | .forward .. =>
      inferInstanceAs (Decidable (_ < _))
  | .deliver .. => inferInstanceAs (Decidable (∀ message ∈ _, _))

theorem prepareReport_bounded {server : SwimServer} (stamped : server.Stamped)
    (sort : LamportSort) (aliveNow suspectedNow : UInt64) :
    ∀ turn ∈ (server.prepareReport costs sort aliveNow suspectedNow).turns,
      turn.record.lamportTime ≤ server.lamportTime := by
  intro turn member
  simp only [SwimReport.turns, List.mem_append, List.mem_map] at member
  rcases member with ⟨record, member, rfl⟩ | ⟨record, member, rfl⟩
  · have stored := mem_of_mem_addRecordsToBudget costs sort member
    exact (stamped record.key).alive record (OrderedSet.find?_of_mem stored)
  · have stored := mem_of_mem_addRecordsToBudget costs sort member
    exact (stamped record.key).suspected record (OrderedSet.find?_of_mem stored)

theorem Peer.act_works {network : List Message} {peer : Peer} {event : ClusterEvent Node}
    (stamped : peer.server.Stamped) (fits : peer.ClockFits network event) :
    peer.server.Works (peer.act costs network event).server ∨
      ∃ time, peer.server.ClockFits time ∧
        (peer.server.updateLamportTime time).Works
          (peer.act costs network event).server := by
  cases event with
  | contact node subject answered now =>
      left
      cases answered with
      | true => exact works_of_quiet _ (.addAlive subject now) (by simp) rfl
      | false => exact works_of_quiet _ (.reportSuspected subject now) (by simp) rfl
  | evict node subject seconds =>
      left
      exact works_of_quiet _ (.removeSuspected subject .evicted seconds) (by simp) rfl
  | gossip node dest sort aliveNow suspectedNow =>
      left
      apply Works.post
      exact send_wellTimed fits dest
        (prepareReport_bounded costs stamped sort aliveNow suspectedNow)
  | ping node dest => exact .inl (.post _ (wellTimed_of_report_eq_none rfl))
  | requestPing node dest other => exact .inl (.post _ (wellTimed_of_report_eq_none rfl))
  | forward node sender destination seconds =>
      left
      apply Works.post
      apply send_wellTimed fits destination
      simp [SwimReport.turns, Turn.record, makeRecord]
  | deliver node index now =>
      simp only [Peer.act]
      cases found : network[index]? with
      | none => exact .inl ⟨[], rfl, by simp⟩
      | some message =>
          rcases peer.receive_works message now with same | works
          · left
            exact ⟨[], congrArg server same.symm, by simp⟩
          · right
            exact ⟨_, fits message found, works⟩

theorem Peer.act_sound (network : List Message) {peer : Peer} (event : ClusterEvent Node)
    (sound : peer.server.Sound) : (peer.act costs network event).server.Sound := by
  cases event with
  | contact node subject answered now =>
      cases answered with
      | true => exact sound.operate (.addAlive subject now)
      | false => exact sound.operate (.reportSuspected subject now)
  | evict node subject seconds =>
      exact sound.operate (.removeSuspected subject .evicted seconds)
  | gossip | ping | requestPing | forward => exact sound
  | deliver node index now =>
      simp only [Peer.act]
      cases network[index]? with
      | none => exact sound
      | some message =>
          rw [receive_server]
          exact sound.run (message.posting.envelope.operations now)

theorem Peer.act_stamped {network : List Message} {peer : Peer} {event : ClusterEvent Node}
    (stamped : peer.server.Stamped) (fits : peer.ClockFits network event) :
    (peer.act costs network event).server.Stamped := by
  rcases act_works costs stamped fits with works | ⟨time, clockFits, works⟩
  · exact Entry.stamped_invariant.reaches works.reaches stamped
  · exact Entry.stamped_invariant.reaches works.reaches
      (stamped.updateLamportTime clockFits)

theorem Peer.posted_wellTimed {network : List Message} {peer : Peer}
    {event : ClusterEvent Node} (stamped : peer.server.Stamped)
    (fits : peer.ClockFits network event) :
    ∀ message ∈ posted peer (peer.act costs network event),
      message.posting.WellTimed := by
  intro message member
  rcases List.mem_map.mp member with ⟨posting, added, rfl⟩
  rcases act_works costs stamped fits with works | ⟨time, -, works⟩
  · exact works.postings posting added
  · exact works.postings posting added

/-! ## Clusters -/

namespace Cluster

def Sound (cluster : Cluster Node) : Prop := ∀ node, (cluster.peers node).server.Sound

structure Timely (cluster : Cluster Node) : Prop where
  stamped : ∀ node, (cluster.peers node).server.Stamped
  wellTimed : ∀ message ∈ cluster.network, message.posting.WellTimed

def ClockFits (cluster : Cluster Node) (event : ClusterEvent Node) : Prop :=
  (cluster.peers event.node).ClockFits cluster.network event

instance (cluster : Cluster Node) (event : ClusterEvent Node) :
    Decidable (cluster.ClockFits event) :=
  inferInstanceAs (Decidable ((cluster.peers event.node).ClockFits cluster.network event))

section Create

variable (settings : Node → Host × String × UInt16 × Bool)

theorem create_sound : (Cluster.create settings).Sound :=
  fun _ => SwimServer.create_sound _ _ _ _

theorem create_timely : (Cluster.create settings).Timely where
  stamped _ := create_stamped _ _ _ _
  wellTimed := by simp [Cluster.create]

end Create

variable [DecidableEq Node] {cluster : Cluster Node} {event : ClusterEvent Node}

theorem forall_peers_act (holds : Peer → Prop) (before : ∀ node, holds (cluster.peers node))
    (acting : holds ((cluster.peers event.node).act costs cluster.network event)) :
    ∀ node, holds ((cluster.act costs event).peers node) := by
  intro node
  by_cases equal : node = event.node
  · subst equal
    simpa [Cluster.act] using acting
  · simpa [Cluster.act, equal] using before node

theorem Sound.act (sound : cluster.Sound) : (cluster.act costs event).Sound :=
  forall_peers_act costs (fun peer => peer.server.Sound) sound
    (Peer.act_sound costs _ event (sound event.node))

theorem Timely.act (timely : cluster.Timely) (fits : cluster.ClockFits event) :
    (cluster.act costs event).Timely := by
  have stamped := timely.stamped event.node
  refine ⟨forall_peers_act costs (fun peer => peer.server.Stamped) timely.stamped
    (Peer.act_stamped costs stamped fits), ?_⟩
  intro message member
  rcases List.mem_append.mp member with old | new
  · exact timely.wellTimed message old
  · exact Peer.posted_wellTimed costs stamped fits message new

end Cluster

theorem timely_run [DecidableEq Node] (settings : Node → Host × String × UInt16 × Bool)
    {events : List (ClusterEvent Node)}
    (clockFits : (clusterMachine costs).Along Cluster.ClockFits (.create settings) events) :
    ((clusterMachine costs).run (.create settings) events).Timely :=
  (clusterMachine costs).run_invariant Cluster.Timely
    (fun _ _ timely fits => timely.act costs fits) (Cluster.create_timely settings)
    clockFits

end Steps

end Gossip
