import Gossip.Contracts.ForwardRequests

/-! # Detecting failures

Servers have failed and do not answer any more. The rounds of full reports come to each of
them in turn, although every failure that is noticed takes a server out of the set that is
being walked around and sends the walk ahead by the forward requests. After a number of rounds
that is known beforehand, the alive set holds those that answer and nobody else. -/

namespace Gossip

open Foundation

/-! ## The others, by their keys -/

namespace SwimServer

variable {before after : SwimServer}

theorem isOther_eq (server : SwimServer) (neighbor : Server) :
    server.isOther neighbor = decide (neighbor.key ≠ server.self.key) := by
  rw [Bool.eq_iff_iff, isOther_iff, decide_eq_true_iff]

theorem keys_others (server : SwimServer) :
    server.others.map Server.key =
      (server.alive.toList.map ServerRecord.key).filter (· ≠ server.self.key) := by
  rw [others, neighbors, List.filter_map, List.map_map, List.filter_map]
  congr 1
  exact List.filter_congr fun record _ => server.isOther_eq record.server

theorem othersBefore_eq (server : SwimServer) (index : UInt64) :
    server.othersBefore index =
      rank (· ≠ server.self.key) (server.alive.toList.map ServerRecord.key) index.toNat := by
  rw [othersBefore, rank, rank, neighbors, ← List.map_take, ← List.map_take, List.filter_map,
    List.filter_map, List.length_map, List.length_map]
  congr 1
  exact List.filter_congr fun record _ => server.isOther_eq record.server

theorem nodup_keys_others (server : SwimServer) : (server.others.map Server.key).Nodup :=
  nodup_keys_of_sublist List.filter_sublist

theorem length_others_le_of_contains (settings : after.toSettings = before.toSettings)
    (included : ∀ key, after.alive.contains key = true → before.alive.contains key = true) :
    after.others.length ≤ before.others.length := by
  have subset : after.others.map Server.key ⊆ before.others.map Server.key := by
    intro key member
    rw [mem_keys_others, settings] at member
    exact mem_keys_others.mpr ⟨included key member.1, member.2⟩
  simpa using (after.nodup_keys_others.subperm subset).length_le

end SwimServer

/-! ## The configuration -/

namespace GossipFailureDetector

def Drives (before after : GossipFailureDetector) : Prop :=
  ∃ server index, after = { before with server := server, roundRobinIndex := index }

namespace Drives

variable {before middle after : GossipFailureDetector}

theorem refl (detector : GossipFailureDetector) : Drives detector detector := ⟨_, _, rfl⟩

theorem trans (first : Drives before middle) (second : Drives middle after) :
    Drives before after := by
  rcases first with ⟨_, _, rfl⟩
  rcases second with ⟨_, _, rfl⟩
  exact ⟨_, _, rfl⟩

theorem server (detector : GossipFailureDetector) (server : SwimServer) :
    Drives detector { detector with server := server } := ⟨_, _, rfl⟩

theorem numReports (drives : Drives before after) : after.numReports = before.numReports := by
  rcases drives with ⟨_, _, rfl⟩
  rfl

theorem andThen {α β : Type} {result : Result α} {next : GossipFailureDetector → α → Result β}
    (first : Drives before result.1)
    (second : ∀ detector value, Drives detector (next detector value).1) :
    Drives before (result.andThen next).1 := by
  rcases result with ⟨detector, outcome⟩
  cases outcome with
  | returned value => exact first.trans (second detector value)
  | thrown | unfinished => exact first

theorem getUniqueNeighbors (detector : GossipFailureDetector) (k : UInt32) :
    Drives detector (detector.getUniqueNeighbors k).1 := by
  rw [getUniqueNeighbors_eq rfl rfl]
  exact ⟨_, _, rfl⟩

theorem requestPings (detector : GossipFailureDetector) (other : Server)
    (forwards : List Server) : Drives detector (detector.requestPings other forwards) := by
  induction forwards generalizing detector with
  | nil => exact .refl detector
  | cons forward forwards induction => exact (Drives.server detector _).trans (induction _)

theorem contactNeighbor (detector : GossipFailureDetector) (report : SwimReport)
    (other : Server) (contact : Contact) :
    Drives detector (detector.contactNeighbor report other contact).1 := by
  apply andThen
  · unfold sendReportTo
    dsimp only
    split
    · exact .server detector _
    · have suspected : Drives detector ((detector.post
        ((detector.client other).send report).2).reportSuspected other contact.now) :=
        .server detector _
      exact andThen (suspected.trans (getUniqueNeighbors _ _))
        fun detector forwards => requestPings detector other forwards
  · intro detector answered
    split
    · exact .server detector _
    · exact .refl detector

theorem contactNeighbors (report : SwimReport) (contacts : Server → Contact)
    (detector : GossipFailureDetector) (others : List Server) :
    Drives detector
      (GossipFailureDetector.contactNeighbors report contacts detector others).1 := by
  induction others generalizing detector with
  | nil => exact .refl detector
  | cons other others induction =>
      exact andThen (contactNeighbor detector report other _) fun detector _ => induction detector

section Operations

variable {Cost : Type} (costs : CostArithmetic Cost) (sort : LamportSort)

theorem sendReport (detector : GossipFailureDetector) (type : ReportType)
    (aliveNow suspectedNow : UInt64) (draw : Nat) (contacts : Server → Contact) :
    Drives detector
      (detector.sendReport costs sort type aliveNow suspectedNow draw contacts).1 := by
  unfold GossipFailureDetector.sendReport
  split
  · exact .refl detector
  cases type with
  | full =>
      exact andThen (getUniqueNeighbors detector _)
        fun detector others => contactNeighbors _ contacts detector others
  | single =>
      cases chosen : detector.server.getRandomNeighbor draw with
      | error => exact .refl detector
      | ok other =>
          have contacted := contactNeighbor detector
            (detector.server.prepareReport costs sort aliveNow suspectedNow) other
            (contacts other)
          dsimp only
          split
          next thrown =>
            rw [thrown] at contacted
            exact contacted
          next => exact contacted

theorem operate (detector : GossipFailureDetector) (operation : DetectorOperation) :
    Drives detector (detector.operate costs sort operation) := by
  cases operation with
  | server | garbageCollectSuspected => exact .server detector _
  | addNeighbor host contact =>
      unfold GossipFailureDetector.operate GossipFailureDetector.addNeighbor
      dsimp only
      split <;> exact .server detector _
  | sendReport type aliveNow suspectedNow draw contacts =>
      exact .sendReport costs sort detector type aliveNow suspectedNow draw contacts
  | pingRandomSuspected draw contacts =>
      unfold GossipFailureDetector.operate GossipFailureDetector.pingRandomSuspected
      dsimp only
      split
      · exact .refl detector
      · split <;> exact .server detector _

end Operations

end Drives

/-! ## One round -/

theorem contactNeighbors_roundRobinIndex (report : SwimReport) {contacts : Server → Contact}
    (detector : GossipFailureDetector) {others : List Server}
    (answered : ∀ other ∈ others, (contacts other).answered = true) :
    (contactNeighbors report contacts detector others).1.roundRobinIndex =
      detector.roundRobinIndex := by
  induction others generalizing detector with
  | nil => rfl
  | cons other others induction =>
      rw [List.forall_mem_cons] at answered
      have contacted : detector.contactNeighbor report other (contacts other) =
          ((detector.post ((detector.client other).send report).2).addAlive other
            (contacts other).now, .returned ()) := by
        simp [contactNeighbor, sendReportTo, answered.1, Result.andThen]
      rw [contactNeighbors, contacted]
      exact induction _ answered.2

section Rounds

variable {Cost : Type} (costs : CostArithmetic Cost) (sort : LamportSort)
  {detector : GossipFailureDetector}

theorem sendReport_goesOn (addressable : detector.server.Addressable)
    (aliveNow suspectedNow : UInt64) (draw : Nat) {contacts : Server → Contact}
    (answered : ∀ other ∈ (detector.selected detector.numReports).toList,
      (contacts other).answered = true) :
    detector.GoesOn detector.numReports
      (detector.sendReport costs sort .full aliveNow suspectedNow draw
        contacts).1.roundRobinIndex := by
  by_cases empty : detector.server.alive.toList.isEmpty = true
  · intro someOther
    rw [SwimServer.others, SwimServer.neighbors, List.isEmpty_iff.mp empty] at someOther
    exact absurd rfl someOther
  · rcases detector.getUniqueNeighbors_returns addressable detector.numReports with
      ⟨index, result, goesOn⟩
    have reported : detector.sendReport costs sort .full aliveNow suspectedNow draw contacts =
        contactNeighbors (detector.server.prepareReport costs sort aliveNow suspectedNow)
          contacts { detector with roundRobinIndex := index }
          (detector.selected detector.numReports).toList := by
      simp only [sendReport, empty]
      rw [if_neg Bool.false_ne_true, result]
      rfl
    rw [reported, contactNeighbors_roundRobinIndex _ _ answered]
    exact goesOn

end Rounds

/-! ## Failed servers -/

/-- Nobody becomes alive, nobody that works ceases to be, and the walk goes on from where it is
as long as the set is the same. -/
structure Spares (failed : Key → Bool) (before after : GossipFailureDetector) : Prop where
  joins : ∀ key, after.server.alive.contains key = true →
    before.server.alive.contains key = true
  leaves : ∀ key, failed key = false → before.server.alive.contains key = true →
    after.server.alive.contains key = true
  waits : (∀ key, after.server.alive.contains key = before.server.alive.contains key) →
    after.roundRobinIndex = before.roundRobinIndex

def roundsLeft (failed : Key → Bool) (bound : Nat) (detector : GossipFailureDetector) : Nat :=
  walksLeft failed detector.numReports.toNat bound (detector.server.others.map Server.key)
    (detector.server.othersBefore detector.roundRobinIndex)

structure Watches (failed : Key → Bool) (bound : Nat) (detector : GossipFailureDetector) :
    Prop where
  sound : detector.server.Sound
  works : failed detector.server.self.key = false
  small : detector.server.alive.toList.length < 2 ^ 31
  reports : 0 < detector.numReports.toNat
  bounded : detector.server.others.length ≤ bound * detector.numReports.toNat

section Failures

variable {failed : Key → Bool} {bound : Nat} {before after : GossipFailureDetector}
  (settings : after.server.toSettings = before.server.toSettings)
  (drives : Drives before after)

include settings drives

theorem Watches.of_joins (watches : before.Watches failed bound) (sound : after.server.Sound)
    (joins : ∀ key, after.server.alive.contains key = true →
      before.server.alive.contains key = true) : after.Watches failed bound where
  sound := sound
  works := by
    rw [settings]
    exact watches.works
  small := Nat.lt_of_le_of_lt (OrderedSet.length_le_of_contains joins) watches.small
  reports := by
    rw [drives.numReports]
    exact watches.reports
  bounded := by
    rw [drives.numReports]
    exact (SwimServer.length_others_le_of_contains settings joins).trans watches.bounded

theorem roundsLeft_of_same
    (same : ∀ key, after.server.alive.contains key = before.server.alive.contains key) :
    roundsLeft failed bound after = walksLeft failed before.numReports.toNat bound
      (before.server.others.map Server.key)
      (before.server.othersBefore after.roundRobinIndex) := by
  have keys := OrderedSet.keys_eq_of_contains same
  rw [roundsLeft, SwimServer.keys_others, SwimServer.keys_others, SwimServer.othersBefore_eq,
    SwimServer.othersBefore_eq, keys, settings, drives.numReports]

theorem roundsLeft_of_lost (watches : before.Watches failed bound)
    (joins : ∀ key, after.server.alive.contains key = true →
      before.server.alive.contains key = true)
    {key : Key} (broken : failed key = true)
    (known : before.server.alive.contains key = true)
    (lost : after.server.alive.contains key = false) :
    roundsLeft failed bound after ≤ roundsLeft failed bound before - 1 := by
  have foreign : key ≠ before.server.self.key := by
    rintro rfl
    rw [watches.works] at broken
    cases broken
  have included : after.server.others.map Server.key ⊆ before.server.others.map Server.key := by
    intro other member
    rw [SwimServer.mem_keys_others, settings] at member
    exact SwimServer.mem_keys_others.mpr ⟨joins other member.1, member.2⟩
  have lacks : key ∉ after.server.others.map Server.key := by
    intro member
    rw [SwimServer.mem_keys_others, lost] at member
    cases member.1
  have fewer := countP_lt_of_lacks after.server.nodup_keys_others included
    (SwimServer.mem_keys_others.mpr ⟨known, foreign⟩) lacks broken
  have long : (after.server.others.map Server.key).length ≤ bound * before.numReports.toNat := by
    rw [List.length_map]
    exact (SwimServer.length_others_le_of_contains settings joins).trans watches.bounded
  rw [roundsLeft, roundsLeft, drives.numReports]
  exact walksLeft_of_met fewer long _ _

theorem Spares.roundsLeft_le (spares : Spares failed before after)
    (watches : before.Watches failed bound) :
    roundsLeft failed bound after ≤ roundsLeft failed bound before := by
  by_cases same : ∀ key, after.server.alive.contains key = before.server.alive.contains key
  · rw [roundsLeft_of_same settings drives same, spares.waits same, roundsLeft]
  · rcases not_forall.mp same with ⟨key, different⟩
    have lost : after.server.alive.contains key = false := by
      cases present : after.server.alive.contains key with
      | false => rfl
      | true => exact absurd (present.trans (spares.joins key present).symm) different
    have known : before.server.alive.contains key = true := by
      rw [lost] at different
      exact Bool.eq_true_of_not_eq_false (Ne.symm different)
    have broken : failed key = true := by
      cases working : failed key with
      | true => rfl
      | false =>
          rw [spares.leaves key working known] at lost
          cases lost
    have fewer := roundsLeft_of_lost settings drives watches spares.joins broken known lost
    omega

end Failures

end GossipFailureDetector

/-! ## Rounds notice failures -/

namespace FullRound

variable {failed : Key → Bool} {contacts : Server → Contact} {before after : SwimServer}
  {contacted : List Server} (round : FullRound contacts before after contacted)

include round

theorem known {other : Server} (member : other ∈ contacted) :
    before.alive.contains other.key = true :=
  (SwimServer.mem_keys_others.mp (List.mem_map_of_mem (round.others other member))).1

theorem joins (key : Key) (present : after.alive.contains key = true) :
    before.alive.contains key = true := by
  by_cases touched : key ∈ contacted.map Server.key
  · rcases List.mem_map.mp touched with ⟨other, member, rfl⟩
    exact round.known member
  · rwa [OrderedSet.contains, ← (round.untouched key touched).1]

theorem leaves (answers : ∀ other, (contacts other).answered = !failed other.key) (key : Key)
    (works : failed key = false) (present : before.alive.contains key = true) :
    after.alive.contains key = true := by
  by_cases touched : key ∈ contacted.map Server.key
  · rcases List.mem_map.mp touched with ⟨other, member, rfl⟩
    rcases round.answered other member (by rw [answers, works]; rfl) with ⟨⟨_, _, found⟩, _⟩
    rw [OrderedSet.contains, found]
    rfl
  · rwa [OrderedSet.contains, (round.untouched key touched).1]

theorem same (answers : ∀ other, (contacts other).answered = !failed other.key)
    (working : ∀ other ∈ contacted, failed other.key = false) (key : Key) :
    after.alive.contains key = before.alive.contains key := by
  rw [Bool.eq_iff_iff]
  refine ⟨round.joins key, ?_⟩
  intro present
  by_cases touched : key ∈ contacted.map Server.key
  · rcases List.mem_map.mp touched with ⟨other, member, rfl⟩
    exact round.leaves answers other.key (working other member) present
  · rwa [OrderedSet.contains, (round.untouched key touched).1]

end FullRound

namespace GossipFailureDetector

section Runs

variable {Cost : Type} (costs : CostArithmetic Cost) (sort : LamportSort)

theorem sendReport_notices {failed : Key → Bool} {bound : Nat} {detector : GossipFailureDetector}
    (watches : detector.Watches failed bound) (aliveNow suspectedNow : UInt64) (draw : Nat)
    {contacts : Server → Contact}
    (answers : ∀ other, (contacts other).answered = !failed other.key) :
    let after := (detector.sendReport costs sort .full aliveNow suspectedNow draw contacts).1
    (∀ key, after.server.alive.contains key = true →
      detector.server.alive.contains key = true) ∧
    (∀ key, failed key = false → detector.server.alive.contains key = true →
      after.server.alive.contains key = true) ∧
    roundsLeft failed bound after ≤ roundsLeft failed bound detector - 1 := by
  intro after
  have small := watches.small
  have addressable : detector.server.Addressable := by
    unfold SwimServer.Addressable
    omega
  have settings : after.server.toSettings = detector.server.toSettings :=
    (reaches_sendReport costs sort detector .full aliveNow suspectedNow draw
      contacts).hasFrame.1
  have drives : Drives detector after :=
    .sendReport costs sort detector .full aliveNow suspectedNow draw contacts
  have round : FullRound contacts detector.server after.server
      (detector.selected detector.numReports).toList := by
    rcases detector.sendReport_full costs sort watches.sound.refusesPortZero addressable aliveNow
      suspectedNow draw contacts with ⟨reached, result, round⟩
    have same : after = reached := congrArg Prod.fst result
    rwa [same]
  refine ⟨round.joins, round.leaves answers, ?_⟩
  by_cases working : ∀ other ∈ (detector.selected detector.numReports).toList,
      failed other.key = false
  · -- Everybody answers, and the walk goes on.
    have goesOn := sendReport_goesOn costs sort addressable aliveNow suspectedNow draw
      fun other member => by rw [answers, working other member]; rfl
    have missed : ∀ key ∈ cyclicSlice (detector.server.others.map Server.key)
        (detector.server.othersBefore detector.roundRobinIndex)
        (turnsCounted detector.numReports detector.server.alive.toList.length),
        failed key = false := by
      rw [cyclicSlice_map]
      intro key member
      rcases List.mem_map.mp member with ⟨other, met, rfl⟩
      exact working other (detector.mem_selected.mpr met)
    have enough : turnsCounted detector.numReports detector.server.alive.toList.length =
        detector.numReports.toNat ∨ (detector.server.others.map Server.key).length ≤
          turnsCounted detector.numReports detector.server.alive.toList.length := by
      have fewer := length_others_le detector.server
      rw [turnsCounted_of_lt _ small, List.length_map]
      omega
    rw [roundsLeft_of_same settings drives (round.same answers working)]
    by_cases someOther : detector.server.others = []
    · simp [someOther, walksLeft]
    · refine walksLeft_of_missed watches.reports enough missed ?_
      rw [List.length_map]
      exact goesOn someOther
  · rcases not_forall.mp working with ⟨other, noticed⟩
    rcases Classical.not_imp.mp noticed with ⟨member, broken⟩
    have failing : failed other.key = true := Bool.eq_true_of_not_eq_false broken
    exact roundsLeft_of_lost settings drives watches round.joins failing (round.known member)
      (round.failed other member (by rw [answers, failing]; rfl)).2

def isFullRound : DetectorOperation → Bool
  | .sendReport .full .. => true
  | .sendReport .single .. | .server _ | .addNeighbor .. | .pingRandomSuspected ..
  | .garbageCollectSuspected .. => false

/-- In a round exactly those answer that have not failed. Besides, anything can happen that
spares those that work and lets nobody in. -/
def Settled (failed : Key → Bool) (detector : GossipFailureDetector) : DetectorOperation → Prop
  | .sendReport .full _ _ _ contacts => ∀ other, (contacts other).answered = !failed other.key
  | operation => Spares failed detector (detector.operate costs sort operation)

theorem operate_toSettings (detector : GossipFailureDetector) (operation : DetectorOperation) :
    (detector.operate costs sort operation).server.toSettings = detector.server.toSettings := by
  by_cases clock : ∃ time, operation = .server (.updateLamportTime time)
  · rcases clock with ⟨time, rfl⟩
    rfl
  · exact (detector.reaches_operate costs sort operation
      fun time equal => clock ⟨time, equal⟩).hasFrame.1

structure Notices (failed : Key → Bool) (bound : Nat) (before after : GossipFailureDetector)
    (operation : DetectorOperation) : Prop where
  joins : ∀ key, after.server.alive.contains key = true →
    before.server.alive.contains key = true
  leaves : ∀ key, failed key = false → before.server.alive.contains key = true →
    after.server.alive.contains key = true
  rounds : roundsLeft failed bound after ≤
    roundsLeft failed bound before - if isFullRound operation then 1 else 0

variable {failed : Key → Bool} {bound : Nat} {detector : GossipFailureDetector}

theorem Settled.notices (watches : detector.Watches failed bound)
    {operation : DetectorOperation} (settled : Settled costs sort failed detector operation) :
    Notices failed bound detector (detector.operate costs sort operation) operation := by
  have settings := detector.operate_toSettings costs sort operation
  have drives := Drives.operate costs sort detector operation
  have between (spares : Spares failed detector (detector.operate costs sort operation))
      (noRound : isFullRound operation = false) :
      Notices failed bound detector (detector.operate costs sort operation) operation := by
    refine ⟨spares.joins, spares.leaves, ?_⟩
    rw [noRound, if_neg Bool.false_ne_true]
    exact spares.roundsLeft_le settings drives watches
  cases operation with
  | sendReport type aliveNow suspectedNow draw contacts =>
      cases type with
      | full =>
          rcases sendReport_notices costs sort watches aliveNow suspectedNow draw settled with
            ⟨joins, leaves, rounds⟩
          exact ⟨joins, leaves, rounds⟩
      | single => exact between settled rfl
  | _ => exact between settled rfl

theorem Watches.operate (watches : detector.Watches failed bound)
    {operation : DetectorOperation} (settled : Settled costs sort failed detector operation) :
    (detector.operate costs sort operation).Watches failed bound :=
  .of_joins (detector.operate_toSettings costs sort operation)
    (Drives.operate costs sort detector operation) watches
    (operate_sound costs sort operation watches.sound) (settled.notices costs sort watches).joins

theorem Watches.run (watches : detector.Watches failed bound)
    {operations : List DetectorOperation}
    (settled : (detectorMachine costs sort).Along (Settled costs sort failed) detector operations)
    (enough : (detector.server.others.map Server.key).countP failed * bound ≤
      operations.countP isFullRound) (key : Key) :
    ((detectorMachine costs sort).run detector operations).server.alive.contains key =
      (detector.server.alive.contains key && !failed key) := by
  let final := (detectorMachine costs sort).run detector operations
  have kept : final.Watches failed bound ∧
      (final.server.alive.contains key = true → detector.server.alive.contains key = true) ∧
      (failed key = false → detector.server.alive.contains key = true →
        final.server.alive.contains key = true) := by
    refine (detectorMachine costs sort).run_invariant
      (fun state => state.Watches failed bound ∧
        (state.server.alive.contains key = true → detector.server.alive.contains key = true) ∧
        (failed key = false → detector.server.alive.contains key = true →
          state.server.alive.contains key = true)) ?_ ⟨watches, id, fun _ => id⟩ settled
    rintro state operation ⟨watches, joined, left⟩ settled
    have notices := settled.notices costs sort watches
    exact ⟨watches.operate costs sort settled,
      fun present => joined (notices.joins key present),
      fun works present => notices.leaves key works (left works present)⟩
  have rounds : roundsLeft failed bound final ≤
      roundsLeft failed bound detector - operations.countP isFullRound :=
    (detectorMachine costs sort).run_rank (fun state => state.Watches failed bound)
      (roundsLeft failed bound) isFullRound
      (fun state operation watches settled => watches.operate costs sort settled)
      (fun state operation watches settled => (settled.notices costs sort watches).rounds)
      watches settled
  have start : roundsLeft failed bound detector ≤
      (detector.server.others.map Server.key).countP failed * bound :=
    walksLeft_le (by rw [List.length_map]; exact watches.bounded) _
  have noticed := none_of_walksLeft (show roundsLeft failed bound final = 0 by omega)
  rcases kept with ⟨finalWatches, joined, left⟩
  rw [Bool.eq_iff_iff, Bool.and_eq_true, Bool.not_eq_true']
  constructor
  · intro present
    refine ⟨joined present, ?_⟩
    by_cases here : key = final.server.self.key
    · rw [here]
      exact finalWatches.works
    · exact noticed key (SwimServer.mem_keys_others.mpr ⟨present, here⟩)
  · rintro ⟨present, works⟩
    exact left works present

end Runs

/-- Every failure is noticed, and no failure is imagined. Take any state that a detector has
come to, and from then on let some servers, but not this one, have failed. In any run in
which nobody becomes alive and nobody that works ceases to be, the alive set holds exactly the
servers of that state that have not failed once there have been, for each failure among the
others, as many rounds of full reports as it takes to contact everybody. -/
theorem failures_are_noticed {Cost : Type} (costs : CostArithmetic Cost) (sort : LamportSort)
    {fresh : GossipFailureDetector} {host : Host} {hostName : String} {port : UInt16}
    {statusCb : Bool} (created : fresh.server = .create host hostName port statusCb)
    (earlier : List DetectorOperation) {detector : GossipFailureDetector}
    (reached : (detectorMachine costs sort).run fresh earlier = detector)
    (small : detector.server.alive.toList.length < 2 ^ 31)
    (reports : 0 < detector.numReports.toNat) {failed : Key → Bool}
    (works : failed detector.server.self.key = false) {operations : List DetectorOperation}
    (settled : (detectorMachine costs sort).Along (Settled costs sort failed) detector operations)
    (enough : (detector.server.others.map Server.key).countP failed *
        ((detector.server.others.length + detector.numReports.toNat - 1) /
          detector.numReports.toNat) ≤ operations.countP isFullRound) (key : Key) :
    ((detectorMachine costs sort).run detector operations).server.alive.contains key =
      (detector.server.alive.contains key && !failed key) := by
  have sound : detector.server.Sound := by
    rw [← reached]
    exact (detectorMachine costs sort).run_keeps (fun detector => detector.server.Sound)
      (fun _ operation sound => operate_sound costs sort operation sound) fresh earlier
      (created ▸ SwimServer.create_sound _ _ _ _)
  refine Watches.run costs sort ⟨sound, works, small, reports, ?_⟩ settled enough key
  have rest := Nat.lt_div_mul_add reports (a := detector.server.others.length +
    detector.numReports.toNat - 1)
  omega

theorem failures_are_noticed_in_two_rounds :
    let fresh : GossipFailureDetector :=
      { GossipFailureDetector.create ⟨"node", fun _ => "10.0.0.1"⟩ "" true 9000 1000 6 3 with
        numReports := 2 }
    let earlier : List DetectorOperation :=
      [.addNeighbor { hostname := "alpha", port := 9001 } ⟨true, 1⟩,
        .addNeighbor { hostname := "beta", port := 9002 } ⟨true, 2⟩,
        .addNeighbor { hostname := "omega", port := 9003 } ⟨true, 3⟩]
    let detector := (detectorMachine exactCosts stableSort).run fresh earlier
    let failed : Key → Bool := fun key => key = toLex ("omega", 9003)
    let contacts : Server → Contact := fun other => ⟨!failed other.key, 10⟩
    let operations : List DetectorOperation :=
      [.sendReport .full 4 4 0 contacts, .server (.updateLamportTime 7),
        .sendReport .full 5 5 0 contacts]
    detector.server.alive.contains (toLex ("omega", 9003)) = true ∧
      ((detectorMachine exactCosts stableSort).run detector
        operations).server.alive.contains (toLex ("omega", 9003)) = false := by
  intro fresh earlier detector failed contacts operations
  have answers (other : Server) : (contacts other).answered = !failed other.key := rfl
  have between (detector : GossipFailureDetector) :
      Settled exactCosts stableSort failed detector (.server (.updateLamportTime 7)) :=
    ⟨fun _ present => present, fun _ _ present => present, fun _ => rfl⟩
  have settled : (detectorMachine exactCosts stableSort).Along
      (Settled exactCosts stableSort failed) detector operations :=
    ⟨answers, between _, answers, trivial⟩
  have noticed := failures_are_noticed exactCosts stableSort
    (show fresh.server = .create ⟨"node", fun _ => "10.0.0.1"⟩ "" 9000 true from rfl) earlier rfl
    (by decide) (by decide) (by decide) settled (by decide) (toLex ("omega", 9003))
  refine ⟨by decide, noticed.trans ?_⟩
  decide

end GossipFailureDetector

end Gossip
