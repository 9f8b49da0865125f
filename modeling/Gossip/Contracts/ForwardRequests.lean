import Gossip.Contracts.SelfGossip

/-! # Forward requests

When a report cannot be delivered, its destination is suspected and some of the alive are
asked to ping it. They are chosen from what `ReportSuspected` has left, so that neither the
server itself nor the suspect is among them. -/

namespace Gossip

open Foundation GossipFailureDetector

/-! ## What `ReportSuspected` leaves -/

def SwimServer.revives (server : SwimServer) (other : Server) : Bool :=
  other.key = server.self.key && other.port ≠ 0

def SwimServer.without (server : SwimServer) (other : Server) : List Server :=
  server.neighbors.filter fun neighbor => !neighbor.same other

/-- The alive servers that can be asked about `other`. -/
def SwimServer.eligible (server : SwimServer) (other : Server) : List Server :=
  server.others.filter fun neighbor => !neighbor.same other

/-- How many servers are alive when the forwards are chosen. -/
def SwimServer.aliveAfterSuspicion (server : SwimServer) (other : Server) : Nat :=
  (server.without other).length + if server.revives other then 1 else 0

namespace SwimServer

variable {server : SwimServer} {other : Server}

theorem mem_keys_neighbors {key : Key} :
    key ∈ server.neighbors.map Server.key ↔ server.alive.contains key = true := by
  rw [neighbors, List.map_map]
  exact OrderedSet.mem_keys_iff

theorem length_eq_of_keys {first second : List Server}
    (firstNodup : (first.map Server.key).Nodup) (secondNodup : (second.map Server.key).Nodup)
    (same : ∀ key, key ∈ first.map Server.key ↔ key ∈ second.map Server.key) :
    first.length = second.length := by
  have perm := (List.perm_ext_iff_of_nodup firstNodup secondNodup).mpr same
  simpa using perm.length_eq

theorem mem_keys_filter {servers : List Server} {keeps : Server → Bool} {dropped : Key}
    (byKey : ∀ server, keeps server = true ↔ server.key ≠ dropped) {key : Key} :
    key ∈ (servers.filter keeps).map Server.key ↔
      key ∈ servers.map Server.key ∧ key ≠ dropped := by
  simp only [List.mem_map, List.mem_filter]
  constructor
  · rintro ⟨found, ⟨member, kept⟩, rfl⟩
    exact ⟨⟨found, member, rfl⟩, (byKey found).mp kept⟩
  · rintro ⟨⟨found, member, rfl⟩, kept⟩
    exact ⟨found, ⟨member, (byKey found).mpr kept⟩, rfl⟩

theorem not_same_iff (second first : Server) :
    (!first.same second) = true ↔ first.key ≠ second.key := by
  simp [← Bool.not_eq_true, Server.same_iff]

theorem mem_keys_without {key : Key} :
    key ∈ (server.without other).map Server.key ↔
      server.alive.contains key = true ∧ key ≠ other.key := by
  rw [without, mem_keys_filter (not_same_iff other), mem_keys_neighbors]

theorem mem_keys_others {key : Key} :
    key ∈ server.others.map Server.key ↔
      server.alive.contains key = true ∧ key ≠ server.self.key := by
  rw [others, mem_keys_filter fun neighbor => isOther_iff, mem_keys_neighbors]

theorem mem_keys_eligible {key : Key} :
    key ∈ (server.eligible other).map Server.key ↔
      (server.alive.contains key = true ∧ key ≠ server.self.key) ∧ key ≠ other.key := by
  rw [eligible, mem_keys_filter (not_same_iff other), mem_keys_others]

theorem nodup_keys_of_sublist {part : List Server} (sublist : part.Sublist server.neighbors) :
    (part.map Server.key).Nodup :=
  server.nodup_keys_neighbors.sublist (sublist.map _)

theorem revives_iff :
    server.revives other = true ↔ other.key = server.self.key ∧ other.port ≠ 0 := by
  simp [revives]

theorem contains_reportSuspected (refuses : server.RefusesPortZero) (timestamp : UInt64)
    (key : Key) :
    (server.reportSuspected other timestamp).1.alive.contains key = true ↔
      if key = other.key then server.revives other = true
      else server.alive.contains key = true := by
  rw [OrderedSet.contains, ← entry_alive, entry_reportSuspected, revives_iff]
  by_cases same : other.key = key
  · subst same
    rw [if_pos rfl, if_pos rfl, Entry.offerSuspected]
    by_cases zero : other.port = 0
    · have refused : server.alive.contains other.key = false := refuses other.key zero
      rw [if_pos zero, entry_alive, ← OrderedSet.contains, refused]
      simp [zero]
    · rw [if_neg zero]
      by_cases isSelf : other.key = server.self.key <;> simp [isSelf, zero]
  · rw [if_neg same, if_neg (Ne.symm same), entry_alive, OrderedSet.contains]

variable (server other)

theorem length_reportSuspected (refuses : server.RefusesPortZero) (timestamp : UInt64) :
    (server.reportSuspected other timestamp).1.alive.toList.length =
      server.aliveAfterSuspicion other := by
  have known : ∀ key, (server.reportSuspected other timestamp).1.alive.contains key = true ↔ _ :=
    contains_reportSuspected refuses timestamp
  have nodup := (server.reportSuspected other timestamp).1.nodup_keys_neighbors
  have rest : ((server.without other).map Server.key).Nodup :=
    nodup_keys_of_sublist List.filter_sublist
  have absent : other.key ∉ (server.without other).map Server.key := by
    simp [mem_keys_without]
  rw [← length_neighbors, aliveAfterSuspicion]
  split
  next revives =>
    rw [← List.length_cons (a := other)]
    apply length_eq_of_keys nodup
    · rw [List.map_cons, List.nodup_cons]
      exact ⟨absent, rest⟩
    · intro key
      rw [mem_keys_neighbors, known, List.map_cons, List.mem_cons, mem_keys_without]
      split <;> simp [*]
  next dead =>
    apply length_eq_of_keys nodup rest
    intro key
    rw [mem_keys_neighbors, known, mem_keys_without]
    split <;> simp [*]

theorem mem_keys_others_reportSuspected (refuses : server.RefusesPortZero)
    (timestamp : UInt64) (key : Key) :
    key ∈ (server.reportSuspected other timestamp).1.others.map Server.key ↔
      key ∈ (server.eligible other).map Server.key := by
  have settings : (server.reportSuspected other timestamp).1.toSettings = server.toSettings := by
    simp
  rw [mem_keys_others, mem_keys_eligible, contains_reportSuspected refuses, settings]
  split
  next same =>
    subst same
    rw [revives_iff]
    tauto
  next different => tauto

theorem length_others_reportSuspected (refuses : server.RefusesPortZero)
    (timestamp : UInt64) :
    (server.reportSuspected other timestamp).1.others.length =
      (server.eligible other).length := by
  apply length_eq_of_keys
  · exact nodup_keys_of_sublist List.filter_sublist
  · exact nodup_keys_of_sublist (List.filter_sublist.trans List.filter_sublist)
  · exact mem_keys_others_reportSuspected server other refuses timestamp

variable {other}

theorem suspected_reportSuspected (port : other.port ≠ 0)
    (foreign : other.key ≠ server.self.key) (timestamp : UInt64) :
    (server.reportSuspected other timestamp).1.suspected.contains other.key = true := by
  rw [OrderedSet.contains, ← entry_suspected, entry_reportSuspected, if_pos rfl,
    Entry.offerSuspected, if_neg port, if_neg foreign, Entry.reportSuspected_suspected]
  rfl

end SwimServer

/-! ## The requests -/

def SwimServer.pingRequests (server : SwimServer) : List (Server × Option Server) :=
  (server.postings.filter fun posting => posting.envelope.type = .statusRequest).map
    fun posting => (posting.dest, posting.envelope.destinationServer)

namespace GossipFailureDetector

variable (detector : GossipFailureDetector)

theorem requestPings_eq (other : Server) (forwards : List Server) :
    (detector.requestPings other forwards).server =
      { detector.server with
        postings := detector.server.postings ++ forwards.map fun forward =>
          ((detector.client forward).requestPing other).2 } := by
  induction forwards generalizing detector with
  | nil => simp [requestPings]
  | cons forward forwards induction =>
      refine (induction (detector.post ((detector.client forward).requestPing other).2)).trans ?_
      simp [post, SwimServer.post, client]

theorem pingRequests_requestPings (other : Server) (forwards : List Server) :
    (detector.requestPings other forwards).server.pingRequests =
      detector.server.pingRequests ++ forwards.map fun forward => (forward, some other) := by
  rw [requestPings_eq]
  simp [SwimServer.pingRequests, SwimClient.requestPing, SwimClient.postMessage, client,
    SwimClient.create, List.filter_map, Function.comp_def]

theorem pingRequests_perform {server : SwimServer} (primitive : Primitive)
    (silent : primitive.posting? = none) :
    (server.perform primitive).pingRequests = server.pingRequests := by
  rw [SwimServer.pingRequests, SwimServer.perform_postings, silent]
  simp [SwimServer.pingRequests]

theorem pingRequests_send (report : SwimReport) (other : Server) :
    (detector.server.post ((detector.client other).send report).2).pingRequests =
      detector.server.pingRequests := by
  simp [SwimServer.pingRequests, SwimServer.post, SwimClient.send, SwimClient.postMessage]

def suspecting (report : SwimReport) (other : Server) (now : UInt64) :
    GossipFailureDetector :=
  (detector.post ((detector.client other).send report).2).reportSuspected other now

/-- What comes of a report that `other` did not answer: some others are asked to ping it,
and it is suspected. -/
structure Forwards (other : Server) (result : Result Bool) (forwards : List Server) : Prop where
  returned : result.2 = .returned false
  requests : result.1.server.pingRequests =
    detector.server.pingRequests ++ forwards.map fun forward => (forward, some other)
  distinct : (forwards.map Server.key).Nodup
  alive : ∀ forward ∈ forwards, forward ∈ result.1.server.neighbors
  foreign : ∀ forward ∈ forwards,
    forward.key ≠ detector.server.self.key ∧ forward.key ≠ other.key
  suspected : other.key ≠ detector.server.self.key → other.port ≠ 0 →
    result.1.server.suspected.contains other.key = true

def ForwardsExactly (other : Server) (result : Result Bool) : Prop :=
  ∃ forwards, detector.Forwards other result forwards ∧
    forwards.length = min detector.numForwards.toNat (detector.server.eligible other).length

theorem Forwards.length_eq {detector : GossipFailureDetector} {other : Server}
    {result : Result Bool} {first second : List Server}
    (forwardsFirst : detector.Forwards other result first)
    (forwardsSecond : detector.Forwards other result second) : first.length = second.length := by
  have same := congrArg List.length
    (forwardsFirst.requests.symm.trans forwardsSecond.requests)
  simpa using same

theorem sendReportTo_of_failed (report : SwimReport) {other : Server} {contact : Contact}
    (failed : contact.answered = false)
    (addressable : (detector.suspecting report other contact.now).server.Addressable) :
    ∃ after, detector.sendReportTo report other contact = (after, .returned false) ∧
      after.server.alive = (detector.suspecting report other contact.now).server.alive ∧
      after.server.suspected =
        (detector.suspecting report other contact.now).server.suspected ∧
      after.server.pingRequests = detector.server.pingRequests ++
        ((detector.suspecting report other contact.now).selected
          detector.numForwards).toList.map fun forward => (forward, some other) := by
  let suspecting := detector.suspecting report other contact.now
  rcases suspecting.getUniqueNeighbors_returns addressable detector.numForwards with
    ⟨index, result, _⟩
  let moved : GossipFailureDetector := { suspecting with roundRobinIndex := index }
  let forwards := (suspecting.selected detector.numForwards).toList
  refine ⟨moved.requestPings other forwards, ?_, ?_, ?_, ?_⟩
  · simp only [sendReportTo, failed]
    rw [if_neg Bool.false_ne_true]
    change Result.andThen (suspecting.getUniqueNeighbors detector.numForwards) _ = _
    rw [result]
    rfl
  · rw [requestPings_eq]
  · rw [requestPings_eq]
  · rw [pingRequests_requestPings]
    congr 1
    exact (pingRequests_perform (.reportSuspected other contact.now) rfl).trans
      (detector.pingRequests_send report other)

section Selection

theorem alive_suspecting (report : SwimReport) (other : Server)
    (refuses : detector.server.RefusesPortZero) (now : UInt64) :
    (detector.suspecting report other now).server.alive.toList.length =
      detector.server.aliveAfterSuspicion other :=
  (detector.server.post _).length_reportSuspected other refuses now

theorem aliveAfterSuspicion_le (server : SwimServer) (other : Server) :
    server.aliveAfterSuspicion other ≤ server.alive.toList.length + 1 := by
  have fewer : (server.without other).length ≤ server.neighbors.length :=
    List.length_filter_le _ _
  rw [SwimServer.length_neighbors] at fewer
  rw [SwimServer.aliveAfterSuspicion]
  split <;> omega

theorem length_eligible_le (server : SwimServer) (other : Server) :
    (server.eligible other).length ≤ server.aliveAfterSuspicion other := by
  have fewer : (server.eligible other).length ≤ (server.without other).length :=
    (List.filter_sublist.filter _).length_le
  exact fewer.trans (Nat.le_add_right _ _)

variable {report : SwimReport} {other : Server} {contact : Contact}

theorem foreign_of_selected (refuses : detector.server.RefusesPortZero) {now : UInt64}
    {forward : Server}
    (listed : forward ∈ (detector.suspecting report other now).server.others) :
    forward.key ≠ detector.server.self.key ∧ forward.key ≠ other.key := by
  have key : forward.key ∈ (detector.server.eligible other).map Server.key :=
    ((detector.server.post _).mem_keys_others_reportSuspected other refuses now
      forward.key).mp (List.mem_map_of_mem listed)
  rw [SwimServer.mem_keys_eligible] at key
  exact ⟨key.1.2, key.2⟩

variable (report other)

theorem sendReportTo_forwards (refuses : detector.server.RefusesPortZero)
    (room : detector.server.alive.toList.length + 1 < 2 ^ 64)
    (failed : contact.answered = false) :
    ∃ forwards, detector.Forwards other (detector.sendReportTo report other contact) forwards ∧
      forwards.length =
        min (turnsCounted detector.numForwards (detector.server.aliveAfterSuspicion other))
          (detector.server.eligible other).length := by
  have size := detector.alive_suspecting report other refuses contact.now
  have count : (detector.suspecting report other contact.now).server.others.length =
      (detector.server.eligible other).length :=
    (detector.server.post _).length_others_reportSuspected other refuses contact.now
  have addressable : (detector.suspecting report other contact.now).server.Addressable := by
    have bound := aliveAfterSuspicion_le detector.server other
    rw [SwimServer.Addressable, size]
    omega
  have length := (detector.suspecting report other contact.now).length_selected
    detector.numForwards
  rw [size, count] at length
  rcases detector.sendReportTo_of_failed report failed addressable with
    ⟨after, result, alive, suspected, requests⟩
  rw [result]
  refine ⟨_, ⟨rfl, requests, OrderedSet.nodup_keys _, ?_, ?_, ?_⟩, length⟩
  · intro forward member
    have listed := mem_others_of_selected _ member
    rw [SwimServer.neighbors, alive]
    exact (SwimServer.mem_others.mp listed).1
  · intro forward member
    exact detector.foreign_of_selected refuses (mem_others_of_selected _ member)
  · intro foreign port
    rw [suspected]
    exact (detector.server.post _).suspected_reportSuspected port foreign contact.now

theorem forwardsExactly_iff (refuses : detector.server.RefusesPortZero)
    (room : detector.server.alive.toList.length + 1 < 2 ^ 64)
    (failed : contact.answered = false) :
    detector.ForwardsExactly other (detector.sendReportTo report other contact) ↔
      min (turnsCounted detector.numForwards (detector.server.aliveAfterSuspicion other))
          (detector.server.eligible other).length =
        min detector.numForwards.toNat (detector.server.eligible other).length := by
  rcases detector.sendReportTo_forwards report other refuses room failed with
    ⟨forwards, sent, length⟩
  rw [← length]
  constructor
  · rintro ⟨others, alsoSent, exactly⟩
    rw [← exactly, sent.length_eq alsoSent]
  · intro exactly
    exact ⟨forwards, sent, exactly⟩

end Selection

/-- The forward requests about a server that did not answer go to as many others as they
should exactly when enough turns count, which is so when fewer than `2 ^ 31` servers are
alive. -/
theorem forward_requests_exact_iff {Cost : Type} {costs : CostArithmetic Cost}
    {sort : LamportSort} (reachable : detector.server.Reachable costs sort)
    (room : detector.server.alive.toList.length + 1 < 2 ^ 64) (report : SwimReport)
    (other : Server) {contact : Contact} (failed : contact.answered = false) :
    (detector.ForwardsExactly other (detector.sendReportTo report other contact) ↔
      min (turnsCounted detector.numForwards (detector.server.aliveAfterSuspicion other))
          (detector.server.eligible other).length =
        min detector.numForwards.toNat (detector.server.eligible other).length) ∧
      (detector.server.aliveAfterSuspicion other < 2 ^ 31 →
        detector.ForwardsExactly other (detector.sendReportTo report other contact)) := by
  have refuses := reachable.refusesPortZero
  have exactly := detector.forwardsExactly_iff report other refuses room failed
  refine ⟨exactly, fun small => ?_⟩
  have bound := length_eligible_le detector.server other
  rw [exactly, turnsCounted_of_lt _ small]
  omega

theorem forward_requests_exact_of_two :
    let self : Server := { hostname := "node", port := 9000 }
    let peer : Server := { hostname := "peer", port := 9001 }
    let started : GossipFailureDetector :=
      { server := .create ⟨"node", fun _ => "10.0.0.1"⟩ "" 9000 true
        gracePeriod := 1000
        hostName := ""
        numReports := 6
        numForwards := 3
        roundRobinIndex := 3 }
    let detector := (detectorMachine exactCosts stableSort).run started
      [.server (.addAlive { hostname := "alpha", port := 9002 } 1), .server (.addAlive self 2),
        .server (.addAlive { hostname := "omega", port := 9003 } 3),
        .server (.addAlive peer 4)]
    (detector.server.eligible peer).length = 2 ∧ detector.ForwardsExactly peer
      (detector.sendReportTo {} peer ⟨false, 100⟩) := by
  intro self peer started detector
  have reachable : detector.server.Reachable exactCosts stableSort := .sequential rfl _
  refine ⟨by decide, ?_⟩
  exact (detector.forward_requests_exact_iff reachable (by decide) {} peer rfl).2 (by decide)

/-! ## Very many servers -/

def gone : Server := { hostname := "gone", port := 7 }

theorem crowdMember_ne_gone (number : Nat) : (crowdMember number).key ≠ gone.key := by
  by_cases zero : number = 0 <;> simp [crowdMember, zero, Server.key, gone]

theorem not_same_gone_of_crowded (size : Nat) :
    ∀ neighbor ∈ (crowded size).neighbors, (!neighbor.same gone) = true := by
  intro neighbor member
  rw [SwimServer.not_same_iff]
  have known := SwimServer.mem_keys_neighbors.mp (List.mem_map_of_mem member)
  rcases List.mem_map.mp ((contains_crowded size _).mp known) with ⟨number, _, same⟩
  rw [← same]
  exact crowdMember_ne_gone number

theorem length_eligible_crowded (size : Nat) :
    ((crowded size).eligible gone).length = size := by
  have all : (crowded size).eligible gone = (crowded size).others := by
    apply List.filter_eq_self.mpr
    intro neighbor member
    exact not_same_gone_of_crowded size neighbor (SwimServer.mem_others.mp member).1
  rw [all, length_others_crowded]

theorem aliveAfterSuspicion_crowded (size : Nat) :
    (crowded size).aliveAfterSuspicion gone = size := by
  have all : (crowded size).without gone = (crowded size).neighbors :=
    List.filter_eq_self.mpr (not_same_gone_of_crowded size)
  have foreign : (crowded size).revives gone = false := by
    rw [← Bool.not_eq_true, SwimServer.revives_iff, crowded, SwimServer.run_toSettings]
    simp [gone, Server.key, SwimServer.create, Settings.self]
  rw [SwimServer.aliveAfterSuspicion, all, foreign, SwimServer.length_neighbors, length_crowded]
  rfl

theorem room_crowded : (crowded (2 ^ 31)).alive.toList.length + 1 < 2 ^ 64 := by
  rw [length_crowded]
  decide

section Crowd

variable {detector : GossipFailureDetector} (server : detector.server = crowded (2 ^ 31))
  (numForwards : detector.numForwards = 2147483648) (report : SwimReport) {contact : Contact}
  (failed : contact.answered = false)

include server

theorem refusesPortZero_of_crowded : detector.server.RefusesPortZero := by
  rw [server]
  exact (reachable_crowded exactCosts stableSort _).refusesPortZero

include numForwards failed

theorem not_forwardsExactly_of_crowded :
    ¬ detector.ForwardsExactly gone (detector.sendReportTo report gone contact) := by
  have refuses := refusesPortZero_of_crowded server
  rw [detector.forwardsExactly_iff report gone refuses (server ▸ room_crowded) failed, server,
    numForwards, aliveAfterSuspicion_crowded, length_eligible_crowded]
  decide

theorem pingRequests_of_crowded :
    (detector.sendReportTo report gone contact).1.server.pingRequests =
      (crowded (2 ^ 31)).pingRequests := by
  have refuses := refusesPortZero_of_crowded server
  rcases detector.sendReportTo_forwards report gone refuses (server ▸ room_crowded) failed with
    ⟨forwards, sent, length⟩
  have noTurns : turnsCounted 2147483648 (2 ^ 31) = 0 := by decide
  rw [server, numForwards, aliveAfterSuspicion_crowded, noTurns, Nat.zero_min,
    List.length_eq_zero_iff] at length
  rw [sent.requests, length, List.map_nil, List.append_nil, server]

end Crowd

/-- `2 ^ 31` servers are alive and as many are to be asked about one that has left. The
number is negative as an `int`, and nobody is asked. -/
theorem crowd_never_asked :
    let detector : GossipFailureDetector :=
      { server := crowded (2 ^ 31)
        gracePeriod := 1000
        hostName := ""
        numReports := 6
        numForwards := 2147483648 }
    (crowded (2 ^ 31)).Reachable exactCosts stableSort ∧
      (crowded (2 ^ 31)).alive.toList.length + 1 < 2 ^ 64 ∧
      ((crowded (2 ^ 31)).eligible gone).length = 2 ^ 31 ∧
      (detector.sendReportTo {} gone ⟨false, 100⟩).1.server.pingRequests =
        (crowded (2 ^ 31)).pingRequests ∧
      ¬ detector.ForwardsExactly gone (detector.sendReportTo {} gone ⟨false, 100⟩) := by
  intro detector
  refine ⟨reachable_crowded _ _ _, room_crowded, length_eligible_crowded _, ?_, ?_⟩
  · exact pingRequests_of_crowded rfl rfl {} rfl
  · exact not_forwardsExactly_of_crowded rfl rfl {} rfl

end GossipFailureDetector

end Gossip
