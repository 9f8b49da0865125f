import Gossip.Contracts.Timeliness

/-! # Relayed records

The time of a record that is relayed should say when the event was observed. A
server that takes up a record of a report stamps it with its own clock, which is
ahead of the envelope and so of the record. -/

namespace Gossip

open Foundation SwimServer

/-! ## Records that are taken up -/

namespace View

variable {settings : Settings} {clock : UInt64} {origin : ServerRecord → Origin}
  {view : View}

def Ignores (settings : Settings) (view : View) : Turn → Prop
  | .alive record =>
      Pointless settings record ∨ view.suspected.any (record.lamportTime < ·)
  | .suspected record =>
      Pointless settings record ∨ view.alive.any (record.lamportTime < ·) ∨
        view.suspected.isSome

def FirstHand (view : View) : Prop :=
  ∀ record root, view.origin ≠ some (.relayed record root)

def Apart (view : View) : Prop := view.alive = none ∨ view.suspected = none

structure Rejuvenated (clock : UInt64) (view : View) : Prop where
  apart : view.Apart
  stamped : view.alive = some clock ∨ view.suspected = some clock
  relayed : ∃ record root,
    view.origin = some (.relayed record root) ∧ record.lamportTime < clock

theorem turn_of_ignores (apart : view.Apart) {turn : Turn}
    (ignored : view.Ignores settings turn) :
    view.turn settings clock origin turn = view := by
  cases turn with
  | alive record => exact if_pos ignored
  | suspected record =>
      simp only [View.turn, onSuspectedRecord]
      split
      · rfl
      next current =>
        have known : view.suspected.isSome := by
          rcases ignored with pointless | stale | known
          · exact absurd (.inl pointless) current
          · exact absurd (.inr stale) current
          · exact known
        have absent : view.alive = none := by
          rcases apart with absent | absent
          · exact absent
          · simp [absent] at known
        rw [if_pos known, ← absent]

def Relays (origin : ServerRecord → Origin) (record : ServerRecord) : Prop :=
  ∃ root, origin record = .relayed record root

theorem turn_of_not_ignores {turn : Turn} (relays : Relays origin turn.record)
    (timely : turn.record.lamportTime < clock) (taken : ¬ view.Ignores settings turn) :
    (view.turn settings clock origin turn).Rejuvenated clock := by
  rcases relays with ⟨root, relays⟩
  cases turn with
  | alive record =>
      simp only [Ignores] at taken
      rw [View.turn, onAliveRecord, if_neg taken]
      exact ⟨.inr rfl, .inl rfl, record, root, congrArg some relays, timely⟩
  | suspected record =>
      simp only [Ignores, not_or] at taken
      rw [View.turn, onSuspectedRecord, if_neg (not_or.mpr ⟨taken.1, taken.2.1⟩),
        if_neg taken.2.2]
      exact ⟨.inl rfl, .inr rfl, record, root, congrArg some relays, timely⟩

theorem Rejuvenated.turns (rejuvenated : view.Rejuvenated clock) {turns : List Turn}
    (relays : ∀ turn ∈ turns, Relays origin turn.record)
    (timely : ∀ turn ∈ turns, turn.record.lamportTime < clock) :
    (turns.foldl (View.turn settings clock origin) view).Rejuvenated clock := by
  induction turns generalizing view with
  | nil => exact rejuvenated
  | cons turn turns induction =>
      rw [List.forall_mem_cons] at relays timely
      refine induction ?_ relays.2 timely.2
      by_cases ignored : view.Ignores settings turn
      · rwa [turn_of_ignores rejuvenated.apart ignored]
      · exact turn_of_not_ignores relays.1 timely.1 ignored

theorem turns_of_ignores (apart : view.Apart) {turns : List Turn}
    (ignored : ∀ turn ∈ turns, view.Ignores settings turn) :
    turns.foldl (View.turn settings clock origin) view = view := by
  induction turns with
  | nil => rfl
  | cons turn turns induction =>
      rw [List.forall_mem_cons] at ignored
      rw [List.foldl_cons, turn_of_ignores apart ignored.1, induction ignored.2]

theorem turns_of_not_ignores (apart : view.Apart) {turns : List Turn}
    (relays : ∀ turn ∈ turns, Relays origin turn.record)
    (timely : ∀ turn ∈ turns, turn.record.lamportTime < clock)
    (taken : ¬ ∀ turn ∈ turns, view.Ignores settings turn) :
    (turns.foldl (View.turn settings clock origin) view).Rejuvenated clock := by
  induction turns with
  | nil => simp at taken
  | cons turn turns induction =>
      rw [List.forall_mem_cons] at relays timely taken
      rw [List.foldl_cons]
      by_cases ignored : view.Ignores settings turn
      · rw [turn_of_ignores apart ignored]
        exact induction relays.2 timely.2 fun rest => taken ⟨ignored, rest⟩
      · exact (turn_of_not_ignores relays.1 timely.1 ignored).turns relays.2 timely.2

theorem turns_firstHand {turns : List Turn}
    (direct : ∀ turn ∈ turns, origin turn.record = .firstHand clock)
    (firstHand : view.FirstHand) :
    (turns.foldl (View.turn settings clock origin) view).FirstHand := by
  induction turns generalizing view with
  | nil => exact firstHand
  | cons turn turns induction =>
      rw [List.forall_mem_cons] at direct
      refine induction direct.2 ?_
      cases turn with
      | alive record =>
          have own : origin record = .firstHand clock := direct.1
          simp only [View.turn, onAliveRecord, own]
          split
          · exact firstHand
          · simp [FirstHand]
      | suspected record =>
          have own : origin record = .firstHand clock := direct.1
          simp only [View.turn, onSuspectedRecord, own]
          split
          · exact firstHand
          split
          · exact firstHand
          · simp [FirstHand]

end View

/-- The record is not taken up by a server that hears it from `sender`. -/
def SwimServer.Ignores (server : SwimServer) (sender : Server) : Turn → Prop
  | .alive record =>
      View.Pointless server.toSettings record ∨ record.key = sender.key ∨
        (server.suspected.find? record.key).any
          fun found => record.lamportTime < found.lamportTime
  | .suspected record =>
      View.Pointless server.toSettings record ∨ record.key = sender.key ∨
        ((server.alive.find? record.key).any
          fun found => record.lamportTime < found.lamportTime) ∨
        server.suspected.contains record.key

instance (server : SwimServer) (sender : Server) :
    ∀ turn, Decidable (server.Ignores sender turn)
  | .alive _ => inferInstanceAs (Decidable (_ ∨ _ ∨ _))
  | .suspected _ => inferInstanceAs (Decidable (_ ∨ _ ∨ _ ∨ _))

theorem SwimServer.ignores_of_sender (server : SwimServer) {sender : Server} {turn : Turn}
    (own : turn.record.key = sender.key) : server.Ignores sender turn := by
  cases turn with
  | alive record => exact .inr (.inl own)
  | suspected record => exact .inr (.inl own)

namespace Peer

variable (peer : Peer) {sender : Server} {report : SwimReport} (now : UInt64)
  (sent : Key → Option Origin)

theorem heard_ignores_iff {turn : Turn} (other : turn.record.key ≠ sender.key) :
    ((peer.heard sender now).view turn.record.key).Ignores peer.server.toSettings turn ↔
      peer.server.Ignores sender turn := by
  rw [heard, view_addAlive, if_neg fun heard => other heard.1.symm]
  cases turn with
  | alive record =>
      simp only [Turn.record] at other
      simp [View.Ignores, SwimServer.Ignores, Turn.record, view, Entry.view,
        any_lamportTime, other]
  | suspected record =>
      simp only [Turn.record] at other
      simp [View.Ignores, SwimServer.Ignores, Turn.record, view, Entry.view,
        any_lamportTime, other, OrderedSet.contains]

theorem heard_apart (sound : peer.server.Sound) (key : Key) :
    ((peer.heard sender now).view key).Apart := by
  have kept : (peer.heard sender now).server.Sound := sound.operate (.addAlive sender now)
  rcases (kept key).disjoint with absent | absent
  · exact .inl (by simp only [view, Entry.view, absent, Option.map_none])
  · exact .inr (by simp only [view, Entry.view, absent, Option.map_none])

theorem view_onReport_of_ignores (sound : peer.server.Sound)
    (ignored : ∀ turn ∈ report.turns, peer.server.Ignores sender turn) {key : Key}
    (other : key ≠ sender.key) :
    (peer.onReport sender report now sent).view key = (peer.heard sender now).view key := by
  rw [view_onReport]
  apply View.turns_of_ignores (heard_apart peer now sound key)
  intro turn member
  rcases List.mem_filter.mp member with ⟨reported, about⟩
  have about : turn.record.key = key := of_decide_eq_true about
  rw [← about] at other ⊢
  exact (heard_ignores_iff peer now other).mpr (ignored turn reported)

theorem view_onReport_of_not_ignores (sound : peer.server.Sound)
    (timely : ∀ turn ∈ report.turns, turn.record.lamportTime < peer.server.lamportTime)
    (taken : ¬ ∀ turn ∈ report.turns, peer.server.Ignores sender turn) :
    ∃ key, ((peer.onReport sender report now sent).view key).Rejuvenated
      peer.server.lamportTime := by
  simp only [not_forall] at taken
  rcases taken with ⟨turn, member, taken⟩
  have other : turn.record.key ≠ sender.key :=
    fun own => taken (peer.server.ignores_of_sender own)
  refine ⟨turn.record.key, ?_⟩
  rw [view_onReport]
  apply View.turns_of_not_ignores (heard_apart peer now sound _)
  · intro next nextMember
    have about := of_decide_eq_true (List.mem_filter.mp nextMember).2
    exact ⟨_, if_neg (about ▸ other)⟩
  · intro next nextMember
    exact timely next (List.mem_of_mem_filter nextMember)
  · intro ignored
    apply taken
    apply (heard_ignores_iff peer now other).mp
    exact ignored turn (List.mem_filter.mpr ⟨member, decide_eq_true rfl⟩)

end Peer

section Steps

variable {Node Cost : Type} (costs : CostArithmetic Cost)

/-! ## Opinions of a peer -/

namespace Peer

def FirstHand (peer : Peer) : Prop := ∀ key, (peer.view key).FirstHand

/-- While an opinion that a record of a report has given rise to stands, no report
gives the server in question a newer time than that record. -/
def ReportsFaithfully (peer : Peer) : Prop :=
  ∀ key record root, peer.origin key = some (.relayed record root) →
    ∀ sort aliveNow suspectedNow,
      ∀ turn ∈ (peer.server.prepareReport costs sort aliveNow suspectedNow).turns,
        turn.record.key = key → turn.record.lamportTime ≤ record.lamportTime

/-- No record of the report that this message may carry is taken up. -/
def Ignores (peer : Peer) (envelope : SwimEnvelope) : Prop :=
  ∀ sender ∈ envelope.sender, ∀ report ∈ envelope.report,
    envelope.type = .statusReport → ∀ turn ∈ report.turns, peer.server.Ignores sender turn

instance (peer : Peer) (envelope : SwimEnvelope) : Decidable (peer.Ignores envelope) :=
  inferInstanceAs (Decidable (∀ sender ∈ _, ∀ report ∈ _, _ → _))

theorem FirstHand.learn {peer : Peer} (firstHand : peer.FirstHand) (key : Key)
    {origin : Option Origin}
    (known : ∀ record root, origin ≠ some (.relayed record root)) (other : Key)
    (record : ServerRecord) (root : UInt64) :
    peer.learn key origin other ≠ some (.relayed record root) := by
  unfold Peer.learn
  split
  · exact known record root
  · exact firstHand other record root

theorem FirstHand.addAlive {peer : Peer} (firstHand : peer.FirstHand) (subject : Server)
    (timestamp time : UInt64) :
    (peer.addAlive subject timestamp (.firstHand time)).FirstHand := by
  simp only [Peer.addAlive, FirstHand]
  split
  · exact firstHand
  · exact firstHand.learn subject.key (by simp)

theorem FirstHand.reportSuspected {peer : Peer} (firstHand : peer.FirstHand)
    (subject : Server) (timestamp time : UInt64) :
    (peer.reportSuspected subject timestamp (.firstHand time)).FirstHand := by
  simp only [Peer.reportSuspected, FirstHand]
  split
  · exact firstHand
  split
  · exact firstHand.learn subject.key (by simp)
  split
  · exact firstHand
  · exact firstHand.learn subject.key (by simp)

theorem FirstHand.evict {peer : Peer} (firstHand : peer.FirstHand) (removed : Server)
    (seconds : UInt64) : (peer.evict removed seconds).FirstHand := by
  simp only [Peer.evict, FirstHand]
  split
  · exact firstHand.learn removed.key (by simp)
  · exact firstHand

theorem FirstHand.reportsFaithfully {peer : Peer} (firstHand : peer.FirstHand) :
    peer.ReportsFaithfully costs :=
  fun key record root relayed => absurd relayed (firstHand key record root)

section Receive

variable {peer : Peer} {message : Message} (now : UInt64)

theorem timely_of_wellTimed {report : SwimReport}
    (fits : peer.server.ClockFits message.posting.envelope.lamportTime)
    (wellTimed : message.posting.WellTimed)
    (carried : message.posting.envelope.report = some report) :
    ∀ turn ∈ report.turns, turn.record.lamportTime <
      (peer.updateLamportTime message.posting.envelope.lamportTime).server.lamportTime := by
  intro turn member
  have inEnvelope := wellTimed report carried turn member
  have inClock := fits.lt.2
  exact UInt64.lt_trans inEnvelope inClock

theorem FirstHand.onReport {sender : Server} {report : SwimReport}
    {sent : Key → Option Origin} (firstHand : peer.FirstHand) (sound : peer.server.Sound)
    (ignored : ∀ turn ∈ report.turns, peer.server.Ignores sender turn) :
    (peer.onReport sender report now sent).FirstHand := by
  have heard : (peer.heard sender now).FirstHand :=
    firstHand.addAlive sender now peer.server.lamportTime
  intro key
  by_cases own : key = sender.key
  · rw [view_onReport]
    apply View.turns_firstHand _ (heard key)
    intro turn member
    exact if_pos ((of_decide_eq_true (List.mem_filter.mp member).2).trans own)
  · rw [view_onReport_of_ignores peer now sent sound ignored own]
    exact heard key

theorem FirstHand.receive (firstHand : peer.FirstHand) (sound : peer.server.Sound)
    (ignored : peer.Ignores message.posting.envelope) :
    (peer.receive message now).FirstHand := by
  have ticked : (peer.updateLamportTime message.posting.envelope.lamportTime).FirstHand :=
    firstHand
  simp only [Peer.receive]
  split
  · exact ticked.addAlive _ now _
  next sender report type sentBy carried =>
    exact ticked.onReport now (sound.updateLamportTime _)
      (ignored sender sentBy report carried type)
  · exact ticked.addAlive _ now _
  · exact firstHand

theorem receive_rejuvenated (sound : peer.server.Sound)
    (fits : peer.server.ClockFits message.posting.envelope.lamportTime)
    (wellTimed : message.posting.WellTimed)
    (taken : ¬ peer.Ignores message.posting.envelope) :
    ∃ key, ((peer.receive message now).view key).Rejuvenated
      (peer.receive message now).server.lamportTime := by
  simp only [Ignores, not_forall, exists_prop] at taken
  rcases taken with ⟨sender, sentBy, report, carried, type, turn, member, taken⟩
  have handled : peer.receive message now =
      (peer.updateLamportTime message.posting.envelope.lamportTime).onReport sender report
        now message.origin := by
    simp only [receive, type, Option.mem_def.mp sentBy, Option.mem_def.mp carried]
  rw [handled, onReport_server, onReport_lamportTime]
  exact view_onReport_of_not_ignores _ now message.origin (sound.updateLamportTime _)
    (timely_of_wellTimed fits wellTimed carried)
    fun ignored => taken (ignored turn member)

end Receive

theorem exists_reported
    (affordable : costs.overBudget (costs.add costs.zero (costs.cost 0)) = false)
    {peer : Peer} (stamped : peer.server.Stamped) {key : Key}
    (present : (peer.view key).alive = some peer.server.lamportTime ∨
      (peer.view key).suspected = some peer.server.lamportTime) :
    ∃ sort aliveNow suspectedNow,
      ∃ turn ∈ (peer.server.prepareReport costs sort aliveNow suspectedNow).turns,
        turn.record.key = key ∧ turn.record.lamportTime = peer.server.lamportTime := by
  simp only [view, Entry.view, Option.map_eq_some_iff] at present
  rcases present with ⟨stored, found, time⟩ | ⟨stored, found, time⟩
  · have reported := mem_addRecordsToBudget_of_newest affordable
      (OrderedSet.mem_of_find? found) (by
        intro other member
        rw [time]
        exact (stamped other.key).alive other (OrderedSet.find?_of_mem member))
    exact ⟨leadingSort stored, stored.timestamp, 0, .alive stored,
      by simpa [SwimReport.turns, prepareReport] using reported,
      OrderedSet.key_of_find? found, time⟩
  · have reported := mem_addRecordsToBudget_of_newest affordable
      (OrderedSet.mem_of_find? found) (by
        intro other member
        rw [time]
        exact (stamped other.key).suspected other (OrderedSet.find?_of_mem member))
    exact ⟨leadingSort stored, 0, stored.timestamp, .suspected stored,
      by simpa [SwimReport.turns, prepareReport] using reported,
      OrderedSet.key_of_find? found, time⟩

theorem not_reportsFaithfully_of_rejuvenated
    (affordable : costs.overBudget (costs.add costs.zero (costs.cost 0)) = false)
    {peer : Peer} (stamped : peer.server.Stamped) {key : Key}
    (rejuvenated : (peer.view key).Rejuvenated peer.server.lamportTime) :
    ¬ peer.ReportsFaithfully costs := by
  intro faithful
  rcases rejuvenated.relayed with ⟨record, root, relayed, older⟩
  rcases exists_reported costs affordable stamped rejuvenated.stamped with
    ⟨sort, aliveNow, suspectedNow, turn, member, about, time⟩
  have atMost := faithful key record root relayed sort aliveNow suspectedNow turn member
    about
  rw [time] at atMost
  exact absurd older (UInt64.not_lt.mpr atMost)

end Peer

/-! ## Clusters -/

namespace Cluster

def FirstHand (cluster : Cluster Node) : Prop := ∀ node, (cluster.peers node).FirstHand

/-- No record of a received report is taken up in this event. -/
def Ignores (cluster : Cluster Node) : ClusterEvent Node → Prop
  | .deliver node index _ =>
      ∀ message ∈ cluster.network[index]?,
        (cluster.peers node).Ignores message.posting.envelope
  | _ => True

instance (cluster : Cluster Node) :
    ∀ event : ClusterEvent Node, Decidable (cluster.Ignores event)
  | .deliver .. => inferInstanceAs (Decidable (∀ message ∈ _, _))
  | .contact .. | .evict .. | .gossip .. | .ping .. | .requestPing .. | .forward .. =>
      isTrue trivial

/-- A first-hand contact gives way to a relayed suspicion only when the suspicion was
not observed before the contact. -/
def KeepsContacts (step : Machine.Step (Cluster Node) (ClusterEvent Node)) : Prop :=
  ∀ node key time record root,
    (step.before.peers node).server.alive.contains key →
    (step.before.peers node).origin key = some (.firstHand time) →
    (step.after.peers node).server.suspected.contains key →
    (step.after.peers node).origin key = some (.relayed record root) → ¬ root < time

/-- Relaying does not make information look newer in this step. -/
def NeverRejuvenates (step : Machine.Step (Cluster Node) (ClusterEvent Node)) : Prop :=
  (∀ node, (step.after.peers node).ReportsFaithfully costs) ∧ KeepsContacts step

theorem FirstHand.neverRejuvenates
    {step : Machine.Step (Cluster Node) (ClusterEvent Node)}
    (firstHand : step.after.FirstHand) : NeverRejuvenates costs step := by
  constructor
  · intro node
    exact (firstHand node).reportsFaithfully costs
  · intro node key time record root _ _ _ relayed
    exact absurd relayed (firstHand node key record root)

theorem create_firstHand (settings : Node → Host × String × UInt16 × Bool) :
    (Cluster.create settings).FirstHand := by
  intro node key record root relayed
  cases relayed

variable [DecidableEq Node] {cluster : Cluster Node} {event : ClusterEvent Node}

theorem FirstHand.act (firstHand : cluster.FirstHand) (sound : cluster.Sound)
    (ignored : cluster.Ignores event) : (cluster.act costs event).FirstHand := by
  apply forall_peers_act costs Peer.FirstHand firstHand
  have before := firstHand event.node
  cases event with
  | contact node subject answered now =>
      cases answered with
      | true => exact before.addAlive subject now _
      | false => exact before.reportSuspected subject now _
  | evict node subject seconds => exact before.evict subject seconds
  | gossip | ping | requestPing | forward => exact before
  | deliver node index now =>
      simp only [Peer.act]
      cases found : cluster.network[index]? with
      | none => exact before
      | some message => exact before.receive now (sound node) (ignored message found)

theorem not_reportsFaithfully_of_not_ignores
    (affordable : costs.overBudget (costs.add costs.zero (costs.cost 0)) = false)
    (sound : cluster.Sound) (timely : cluster.Timely) (fits : cluster.ClockFits event)
    (taken : ¬ cluster.Ignores event) :
    ¬ ∀ node, ((cluster.act costs event).peers node).ReportsFaithfully costs := by
  intro faithful
  have after := timely.act costs fits
  cases event with
  | contact | evict | gossip | ping | requestPing | forward => exact taken trivial
  | deliver node index now =>
      simp only [Ignores, not_forall] at taken
      rcases taken with ⟨message, found, taken⟩
      have received : ((cluster.act costs (.deliver node index now)).peers node) =
          (cluster.peers node).receive message now := by
        simp only [Cluster.act, ClusterEvent.node, Function.update_self, Peer.act,
          Option.mem_def.mp found]
      have wellTimed := timely.wellTimed message (List.mem_of_getElem? found)
      rcases Peer.receive_rejuvenated now (sound node) (fits message found) wellTimed
        taken with ⟨key, rejuvenated⟩
      rw [← received] at rejuvenated
      exact Peer.not_reportsFaithfully_of_rejuvenated costs affordable (after.stamped node)
        rejuvenated (faithful node)

end Cluster

section Runs

variable [DecidableEq Node] (settings : Node → Host × String × UInt16 × Bool)
  (events : List (ClusterEvent Node))

theorem neverRejuvenates_of_ignores
    (ignored : (clusterMachine costs).Along Cluster.Ignores (.create settings) events) :
    ∀ step ∈ (clusterMachine costs).trace (.create settings) events,
      Cluster.NeverRejuvenates costs step := by
  have guarded := ignored.and_invariant (fun cluster => cluster.Sound ∧ cluster.FirstHand)
    (fun cluster event holds ignored =>
      ⟨holds.1.act costs, holds.2.act costs holds.1 ignored⟩)
    ⟨Cluster.create_sound settings, Cluster.create_firstHand settings⟩
  intro step member
  rcases guarded.of_mem_trace member with ⟨after, holds, ignored⟩
  apply Cluster.FirstHand.neverRejuvenates
  rw [after]
  exact holds.2.act costs holds.1 ignored

/-- In every run in which no server takes up a record of a report, relayed information
never looks newer than it is. While no clock wraps around and the budget of a report
pays for a record of age zero, these are the only such runs. -/
theorem relaying_never_rejuvenates_iff :
    ((clusterMachine costs).Along Cluster.Ignores (.create settings) events →
      ∀ step ∈ (clusterMachine costs).trace (.create settings) events,
        Cluster.NeverRejuvenates costs step) ∧
    ((clusterMachine costs).Along Cluster.ClockFits (.create settings) events →
      costs.overBudget (costs.add costs.zero (costs.cost 0)) = false →
      (∀ step ∈ (clusterMachine costs).trace (.create settings) events,
        Cluster.NeverRejuvenates costs step) →
      (clusterMachine costs).Along Cluster.Ignores (.create settings) events) := by
  refine ⟨neverRejuvenates_of_ignores costs settings events, ?_⟩
  intro clockFits affordable
  apply Iff.mp
  apply (clusterMachine costs).forall_mem_trace_iff_along
    (fun cluster => cluster.Sound ∧ cluster.Timely ∧ cluster.FirstHand) _ _ _ _ clockFits
  · rintro cluster event ⟨sound, timely, firstHand⟩ fits ignored
    exact ⟨sound.act costs, timely.act costs fits, firstHand.act costs sound ignored⟩
  · rintro cluster event ⟨sound, timely, firstHand⟩ fits
    constructor
    · intro never
      by_contra taken
      exact Cluster.not_reportsFaithfully_of_not_ignores costs affordable sound timely fits
        taken never.1
    · intro ignored
      exact Cluster.FirstHand.neverRejuvenates costs (firstHand.act costs sound ignored)
  · exact ⟨Cluster.create_sound settings, Cluster.create_timely settings,
      Cluster.create_firstHand settings⟩

end Runs

end Steps

/-! ## Hearsay -/

def fourNodes (node : Fin 4) : Host × String × UInt16 × Bool :=
  (⟨["a", "b", "c", "s"].get node, fun _ => "10.0.0.1"⟩, "", 9000, false)

def serverOf (node : Fin 4) : Server :=
  { hostname := ["a", "b", "c", "s"].get node, port := 9000 }

/-- Node 3 pings node 0. Node 2 cannot reach node 3 and tells node 0 so. -/
def oneHop : List (ClusterEvent (Fin 4)) :=
  [.ping 3 (serverOf 0), .deliver 0 0 1000, .contact 2 (serverOf 3) false 1000,
    .gossip 2 (serverOf 0) stableSort 1000 1000, .deliver 0 1 1000]

theorem relaying_never_rejuvenates_in_one_hop :
    (clusterMachine exactCosts).Along Cluster.Ignores (.create fourNodes) oneHop ∧
      ∀ step ∈ (clusterMachine exactCosts).trace (.create fourNodes) oneHop,
        Cluster.NeverRejuvenates exactCosts step :=
  ⟨by decide +kernel,
    (relaying_never_rejuvenates_iff exactCosts fourNodes oneHop).1 (by decide +kernel)⟩

def twoHops : List (ClusterEvent (Fin 4)) :=
  [.ping 3 (serverOf 0), .deliver 0 0 1000, .contact 2 (serverOf 3) false 1000,
    .gossip 2 (serverOf 1) stableSort 1000 1000, .deliver 1 1 1000,
    .gossip 1 (serverOf 0) stableSort 1000 1000, .deliver 0 2 1000]

/-- Node 2 suspects node 3 at time 0, node 1 reports that with time 2, and the
contact that node 0 has had at time 2 is overruled. -/
theorem relaying_rejuvenates_in_two_hops :
    let steps := (clusterMachine exactCosts).trace (.create fourNodes) twoHops
    (¬ ∀ step ∈ steps, ∀ node, (step.after.peers node).ReportsFaithfully exactCosts) ∧
      ¬ ∀ step ∈ steps, Cluster.KeepsContacts step := by
  let suspicion (time : UInt64) : ServerRecord :=
    { server := { serverOf 3 with ipAddr := some "" }, timestamp := 1000, lamportTime := time }
  constructor
  · intro faithful
    have atMost := faithful _ (List.get_mem _ ⟨4, by decide⟩) 1 (serverOf 3).key
      (suspicion 0) 0 (by decide +kernel) stableSort 1000 1000 (.suspected (suspicion 2))
      (by decide +kernel) rfl
    exact absurd atMost (by decide)
  · intro keeps
    exact keeps _ (List.get_mem _ ⟨6, by decide⟩) 0 (serverOf 3).key 2 (suspicion 2) 0
      (by decide +kernel) (by decide +kernel) (by decide +kernel) (by decide +kernel)
      (by decide)

end Gossip
