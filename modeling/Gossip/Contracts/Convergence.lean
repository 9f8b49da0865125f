import Gossip.Contracts.ClosedCircle
import Gossip.Foundation.Dissemination

/-! # Convergence

Reports carry what a detector knows to those that it knows. As long as nobody collects
suspects, what a detector knows only grows, and after a few phases in which the reports have
come through everybody knows everybody. -/

namespace Gossip

open Foundation SwimServer

/-! ## What a report teaches -/

def SwimReport.keys (report : SwimReport) : List Key :=
  (report.alive ++ report.suspected).map ServerRecord.key

namespace SwimServer

def knownKeys (server : SwimServer) : List Key :=
  (server.alive.toList ++ server.suspected.toList).map ServerRecord.key

theorem knows_iff (server : SwimServer) (key : Key) :
    server.Knows key ↔ key ∈ server.knownKeys := by
  rw [knownKeys, List.map_append, List.mem_append, OrderedSet.mem_keys_iff,
    OrderedSet.mem_keys_iff]
  rfl

theorem knows_addAlive (server : SwimServer) {subject : Server} (port : subject.port ≠ 0)
    (timestamp : UInt64) : (server.addAlive subject timestamp).1.Knows subject.key := by
  left
  rw [← entry_alive, entry_addAlive, if_pos rfl, Entry.offerAlive, if_neg port]
  simp

section Records

variable {server : SwimServer} {record : ServerRecord}

theorem knows_onAliveRecord (other : record.key ≠ server.self.key)
    (port : record.server.port ≠ 0) : (server.onAliveRecord record).Knows record.key := by
  rw [Knows, ← entry_alive, ← entry_suspected, entry_onAliveRecord, if_pos rfl,
    Entry.onAliveRecord, if_neg other]
  split
  next stale =>
    -- It is suspected on newer evidence.
    rcases Entry.exists_of_any_stale stale with ⟨found, known, -⟩
    exact .inr (by rw [known]; rfl)
  next => simp [Entry.offerAlive, port]

theorem knows_onSuspectedRecord (reportSender : Server) (other : record.key ≠ server.self.key)
    (port : record.server.port ≠ 0) :
    (onSuspectedRecord reportSender server record).Knows record.key := by
  rw [Knows, ← entry_alive, ← entry_suspected, entry_onSuspectedRecord, if_pos rfl,
    Entry.onSuspectedRecord, if_neg other]
  split
  next stale =>
    rcases Entry.exists_of_any_stale stale with ⟨found, known, -⟩
    exact .inl (by rw [known]; rfl)
  next => simp [Entry.offerSuspected, port, other]

end Records

theorem knows_foldl {step : SwimServer → ServerRecord → SwimServer}
    (settings : ∀ server record, (step server record).toSettings = server.toSettings)
    (keeps : ∀ server record key, server.Knows key → (step server record).Knows key)
    {records : List ServerRecord} {record : ServerRecord} (member : record ∈ records)
    {server : SwimServer}
    (learns : ∀ other : SwimServer, other.toSettings = server.toSettings →
      (step other record).Knows record.key) :
    (records.foldl step server).Knows record.key := by
  induction records generalizing server with
  | nil => cases member
  | cons first records induction =>
      rcases List.mem_cons.mp member with rfl | later
      · exact Machine.run_keeps ⟨step⟩ (fun server => server.Knows record.key)
          (fun server other known => keeps server other record.key known) _ records
          (learns server rfl)
      · apply induction later
        intro other same
        exact learns other (same.trans (settings server first))

theorem Knows.onAliveRecord {server : SwimServer} {key : Key} (known : server.Knows key)
    (record : ServerRecord) : (server.onAliveRecord record).Knows key := by
  have reaches : server.ReachesBy (fun step => step.Within .any ∧ step.Keeps)
      (server.onAliveRecord record) := reachesBy_onAliveRecord (Set.mem_univ record.key)
  exact reaches.knows (fun _ allowed => allowed.2) known

theorem Knows.onSuspectedRecord {server : SwimServer} {key : Key} (known : server.Knows key)
    (reportSender : Server) (record : ServerRecord) :
    (onSuspectedRecord reportSender server record).Knows key := by
  have reaches : server.ReachesBy (fun step => step.Within .any ∧ step.Keeps)
      (SwimServer.onSuspectedRecord reportSender server record) :=
    reachesBy_onSuspectedRecord (fun _ => Set.mem_univ _) (.inl (Set.mem_univ _))
      ⟨Set.mem_univ record.key, Set.mem_univ record.key⟩
  exact reaches.knows (fun _ allowed => allowed.2) known

theorem Knows.afterRecords {server : SwimServer} {key : Key} (known : server.Knows key)
    (report : SwimReport) :
    (report.suspected.foldl (SwimServer.onSuspectedRecord report.sender)
      (report.alive.foldl SwimServer.onAliveRecord server)).Knows key := by
  have alive : (report.alive.foldl SwimServer.onAliveRecord server).Knows key :=
    Machine.run_keeps ⟨SwimServer.onAliveRecord⟩ (fun server => server.Knows key)
      (fun _ record known => known.onAliveRecord record) server report.alive known
  exact Machine.run_keeps ⟨SwimServer.onSuspectedRecord report.sender⟩
    (fun server => server.Knows key)
    (fun _ record known => known.onSuspectedRecord report.sender record) _ report.suspected alive

theorem knows_onReport_sender (server : SwimServer) {sender : Server} (port : sender.port ≠ 0)
    (report : SwimReport) (now : UInt64) : (server.onReport sender report now).Knows sender.key :=
  (server.knows_addAlive port now).afterRecords report

theorem knows_onReport (server : SwimServer) (sender : Server) {report : SwimReport}
    (now : UInt64) {key : Key} (listed : key ∈ report.keys) (other : key ≠ server.self.key)
    (port : Key.port key ≠ 0) : (server.onReport sender report now).Knows key := by
  rcases List.mem_map.mp listed with ⟨record, member, rfl⟩
  have heard : HasFrame server.toSettings server.lamportTime (server.addAlive sender now).1 := by
    simp [HasFrame]
  rcases List.mem_append.mp member with alive | suspected
  · refine Machine.run_keeps ⟨SwimServer.onSuspectedRecord report.sender⟩
      (fun server => server.Knows record.key)
      (fun server other known => known.onSuspectedRecord report.sender other) _ _ ?_
    refine knows_foldl (by simp) (fun _ record _ known => known.onAliveRecord record) alive ?_
    intro later same
    exact knows_onAliveRecord (by rwa [same, heard.1]) port
  · refine knows_foldl (by simp)
      (fun _ record _ known => known.onSuspectedRecord report.sender record) suspected ?_
    intro later same
    exact knows_onSuspectedRecord report.sender
      (by rwa [same, (heard.onAliveRecords report.alive).1]) port

end SwimServer

/-! ## Messages that arrive -/

def Packet.tells (transport : Transport) (sender : Key) (keys : List Key) (packet : Packet) :
    Bool :=
  (transport.parseFromArray packet.bytes).any fun envelope =>
    envelope.type = .statusReport && envelope.sender.any (fun server => server.key = sender) &&
      envelope.report.any fun report => keys.all fun key => report.keys.contains key

theorem Packet.exists_of_tells {transport : Transport} {sender : Key} {keys : List Key}
    {packet : Packet} (tells : packet.tells transport sender keys = true) :
    ∃ time server report destination,
      transport.parseFromArray packet.bytes =
        some ⟨.statusReport, some server, time, some report, destination⟩ ∧
      server.key = sender ∧ ∀ key ∈ keys, key ∈ report.keys := by
  rcases (Option.any_eq_true _ _).mp tells with ⟨envelope, parsed, content⟩
  simp only [Bool.and_eq_true, decide_eq_true_eq, Option.any_eq_true, List.all_eq_true,
    List.contains_iff_mem] at content
  rcases envelope with ⟨type, sentBy, time, report?, destination⟩
  rcases content with ⟨⟨rfl, server, rfl, named⟩, report, rfl, lists⟩
  exact ⟨time, server, report, destination, parsed, named, lists⟩

namespace Circle

def Lives {Node : Type} (circle : Circle Node) (node : Node) : Prop :=
  ∃ participant, circle.processes node = .ok participant

def knownKeys {Node : Type} (circle : Circle Node) (node : Node) : List Key :=
  match circle.processes node with
  | .ok participant => participant.detector.server.knownKeys
  | .error _ => []

theorem knows_iff {Node : Type} (circle : Circle Node) (node : Node) (key : Key) :
    circle.Knows node key ↔ key ∈ circle.knownKeys node := by
  unfold Knows knownKeys
  split
  next participant alive => simp [alive, SwimServer.knows_iff]
  next fault dead => simp [dead]

instance {Node : Type} (circle : Circle Node) (node : Node) (key : Key) :
    Decidable (circle.Knows node key) :=
  decidable_of_iff _ (circle.knows_iff node key).symm

instance {Node : Type} (circle : Circle Node) (node : Node) : Decidable (circle.Lives node) :=
  match shape : circle.processes node with
  | .ok participant => isTrue ⟨participant, shape⟩
  | .error _ => isFalse (by simp [Lives, shape])

section Deliver

variable {Node Cost : Type} [DecidableEq Node] {transport : Transport}
  (costs : CostArithmetic Cost)

theorem knows_of_deliver {circle : Circle Node} {listener : Node} {index : Nat} {now : UInt64}
    (lives : (circle.act transport costs (.deliver listener index now)).Lives listener)
    {packet : Packet} (found : circle.network[index]? = some packet) {sender : Key}
    {keys : List Key} (tells : packet.tells transport sender keys = true) {own : Key}
    (self : ∀ participant, circle.processes listener = .ok participant →
      participant.detector.server.self.key = own) :
    (Key.port sender ≠ 0 →
        (circle.act transport costs (.deliver listener index now)).Knows listener sender) ∧
      ∀ key ∈ keys, key ≠ own → Key.port key ≠ 0 →
        (circle.act transport costs (.deliver listener index now)).Knows listener key := by
  rcases Packet.exists_of_tells tells with
    ⟨time, sender, report, destination, parsed, rfl, lists⟩
  rcases lives with ⟨after, alive⟩
  rcases of_advance_here alive with ⟨before, process, handled⟩
  have server : after.detector.server =
      before.detector.server.receiveReport time sender report now := by
    rw [handled, Participant.act_deliver transport costs found, Listener.receive, parsed]
    rfl
  constructor
  · intro port
    refine ⟨after, alive, ?_⟩
    rw [server]
    exact knows_onReport_sender _ port report now
  · intro key listed other port
    refine ⟨after, alive, ?_⟩
    rw [server]
    exact knows_onReport _ sender now (lists key listed) (by rwa [← self before process] at other)
      port

end Deliver

/-! ## Phases -/

section Phases

variable {Node Cost : Type} [DecidableEq Node] (transport : Transport)
  (costs : CostArithmetic Cost) (configurations : Node → Configuration)

def after (circle : Circle Node) (events : List (CircleEvent Node)) : Circle Node :=
  (circleMachine transport costs).run circle events

/-- A phase in which nobody collects suspects, and in which everybody has sent to each of those
that it knew a report of all that it knew, and the report has arrived. -/
structure Phase (circle : Circle Node) (events : List (CircleEvent Node)) : Prop where
  spares : ∀ event ∈ events, ¬ event.Collects
  informs : ∀ teller listener, teller ≠ listener →
    circle.Knows teller (configurations listener).identity →
      ∃ earlier later index now, events = earlier ++ .deliver listener index now :: later ∧
        (circle.after transport costs earlier).network[index]?.any (Packet.tells transport
          (configurations teller).identity (circle.knownKeys teller)) = true

def phaseMachine : Machine (Circle Node) (List (CircleEvent Node)) :=
  ⟨Circle.after transport costs⟩

def Acquainted (circle : Circle Node) (node other : Node) : Prop :=
  circle.Knows node (configurations other).identity

structure Proper (circle : Circle Node) : Prop where
  situated : circle.Situated transport .any
  self : ∀ node participant, circle.processes node = .ok participant →
    participant.detector.server.self.key = (configurations node).self

variable {transport configurations}

omit [DecidableEq Node] in
theorem confines_any (circle : Circle Node) (event : CircleEvent Node) :
    circle.Confines .any event := fun participant _ => participant.confines_any event

theorem Proper.act {circle : Circle Node} (proper : circle.Proper transport configurations)
    (event : CircleEvent Node) :
    (circle.act transport costs event).Proper transport configurations := by
  refine ⟨proper.situated.act costs (circle.confines_any event), fun node participant alive => ?_⟩
  rcases of_advance alive with same | ⟨before, rfl, process, rfl⟩
  · exact proper.self node participant same
  · have goes := proper.situated.goes costs (circle.confines_any event) process
    rw [← proper.self _ before process, goes.settings]

theorem Proper.after {circle : Circle Node} (proper : circle.Proper transport configurations)
    (events : List (CircleEvent Node)) :
    (circle.after transport costs events).Proper transport configurations :=
  (circleMachine transport costs).run_keeps (Circle.Proper transport configurations)
    (fun _ event holds => holds.act costs event) circle events proper

theorem lives_of_act {circle : Circle Node} {event : CircleEvent Node} {node : Node}
    (lives : (circle.act transport costs event).Lives node) : circle.Lives node := by
  rcases lives with ⟨participant, alive⟩
  rcases of_advance alive with same | ⟨before, rfl, process, -⟩
  · exact ⟨participant, same⟩
  · exact ⟨before, process⟩

theorem lives_of_after {circle : Circle Node} {events : List (CircleEvent Node)} {node : Node}
    (lives : (circle.after transport costs events).Lives node) : circle.Lives node := by
  induction events generalizing circle with
  | nil => exact lives
  | cons event events induction => exact lives_of_act costs (induction lives)

theorem Proper.knows_act {circle : Circle Node} (proper : circle.Proper transport configurations)
    {event : CircleEvent Node} (spares : ¬ event.Collects) {node : Node} {key : Key}
    (known : circle.Knows node key) (lives : (circle.act transport costs event).Lives node) :
    (circle.act transport costs event).Knows node key := by
  rcases known with ⟨before, process, knows⟩
  rcases lives with ⟨participant, alive⟩
  rcases of_advance alive with same | ⟨other, rfl, reacted, rfl⟩
  · cases Except.ok.inj (process.symm.trans same)
    exact ⟨_, alive, knows⟩
  · cases Except.ok.inj (process.symm.trans reacted)
    have goes := proper.situated.goes costs (circle.confines_any event) process
    exact ⟨_, alive, goes.knows spares key knows⟩

theorem Proper.knows_after {circle : Circle Node}
    (proper : circle.Proper transport configurations) {events : List (CircleEvent Node)}
    (spares : ∀ event ∈ events, ¬ event.Collects) {node : Node} {key : Key}
    (known : circle.Knows node key) (lives : (circle.after transport costs events).Lives node) :
    (circle.after transport costs events).Knows node key := by
  induction events generalizing circle with
  | nil => exact known
  | cons event events induction =>
      rw [List.forall_mem_cons] at spares
      have survived : (circle.act transport costs event).Lives node :=
        lives_of_after costs lives
      exact induction (proper.act costs event) spares.2
        (proper.knows_act costs spares.1 known survived) lives

theorem Phase.teaches {circle : Circle Node} (proper : circle.Proper transport configurations)
    {events : List (CircleEvent Node)}
    (phase : circle.Phase transport costs configurations events) {teller listener : Node}
    (lives : (circle.after transport costs events).Lives listener)
    (different : teller ≠ listener)
    (known : circle.Knows teller (configurations listener).identity) :
    (Key.port (configurations teller).identity ≠ 0 →
      (circle.after transport costs events).Knows listener (configurations teller).identity) ∧
    ∀ key, circle.Knows teller key → key ≠ (configurations listener).self →
      Key.port key ≠ 0 → (circle.after transport costs events).Knows listener key := by
  rcases phase.informs teller listener different known with
    ⟨earlier, later, index, now, rfl, arrives⟩
  rcases (Option.any_eq_true _ _).mp arrives with ⟨packet, found, tells⟩
  have before := proper.after costs earlier
  have arrived := before.act costs (.deliver listener index now)
  have split : circle.after transport costs (earlier ++ .deliver listener index now :: later) =
      ((circle.after transport costs earlier).act transport costs
        (.deliver listener index now)).after transport costs later :=
    Machine.run_append _ _ _ _
  rw [split] at lives ⊢
  have spared : ∀ event ∈ later, ¬ event.Collects :=
    fun event member => phase.spares event (by simp [member])
  rcases knows_of_deliver costs (lives_of_after costs lives) found tells (before.self listener)
    with ⟨sender, listed⟩
  constructor
  · exact fun port => arrived.knows_after costs spared (sender port) lives
  · intro key keyKnown other port
    have taught := listed key ((circle.knows_iff teller key).mp keyKnown) other port
    exact arrived.knows_after costs spared taught lives

theorem Phase.exchanged {circle : Circle Node} (proper : circle.Proper transport configurations)
    {events : List (CircleEvent Node)}
    (phase : circle.Phase transport costs configurations events)
    (live : ∀ node, (circle.after transport costs events).Lives node)
    (ported : ∀ node, Key.port (configurations node).identity ≠ 0)
    (distinct : ∀ node other, node ≠ other →
      (configurations other).identity ≠ (configurations node).self) :
    Exchanged (circle.Acquainted configurations)
      ((circle.after transport costs events).Acquainted configurations) where
  remembers node _ known := proper.knows_after costs phase.spares known (live node)
  introduces teller listener different known :=
    (phase.teaches costs proper (live listener) different known).1 (ported teller)
  shares _ listener subject different others known knownToo :=
    (phase.teaches costs proper (live listener) different known).2 _ knownToo
      (distinct listener subject others) (ported subject)

theorem Proper.rounds {circle : Circle Node} (proper : circle.Proper transport configurations)
    (ported : ∀ node, Key.port (configurations node).identity ≠ 0)
    (distinct : ∀ node other, node ≠ other →
      (configurations other).identity ≠ (configurations node).self)
    {phases : List (List (CircleEvent Node))}
    (fair : (phaseMachine transport costs).Along (Phase transport costs configurations) circle
      phases)
    (live : ∀ node, ((phaseMachine transport costs).run circle phases).Lives node) :
    ((phaseMachine transport costs).run circle phases).Proper transport configurations ∧
      Rounds phases.length (circle.Acquainted configurations)
        (((phaseMachine transport costs).run circle phases).Acquainted configurations) := by
  induction phases using List.reverseRecOn with
  | nil => exact ⟨proper, .none _⟩
  | append_singleton phases events induction =>
      rw [Machine.along_append] at fair
      rw [Machine.run_append] at live ⊢
      rcases induction fair.1 fun node => lives_of_after costs (live node) with
        ⟨reached, rounds⟩
      rw [List.length_append]
      exact ⟨reached.after costs events,
        .more rounds (fair.2.1.exchanged costs reached live ported distinct)⟩

omit [DecidableEq Node] in
theorem create_proper (configurations : Node → Configuration) :
    (create configurations).Proper transport configurations where
  situated := create_situated_any transport configurations
  self node participant found := by
    cases found
    rfl

end Phases

end Circle

/-- Gossip reaches everybody, and soon. Take any state that a circle of detectors with different
names and ports other than zero has come to, and any two members that are connected by a
chain of acquaintances there. After phases that everybody survives and in which all reports come
through, one more than the logarithm of the length of the chain, the two know each other. -/
theorem circle_converges {Node Cost : Type} [DecidableEq Node] (transport : Transport)
    (costs : CostArithmetic Cost) (configurations : Node → Configuration)
    (ported : ∀ node, (configurations node).port ≠ 0)
    (distinct : ∀ node other, node ≠ other →
      (configurations other).identity ≠ (configurations node).self)
    (events : List (CircleEvent Node)) {phases : List (List (CircleEvent Node))}
    (fair : (Circle.phaseMachine transport costs).Along
      (Circle.Phase transport costs configurations)
      ((Circle.create configurations).after transport costs events) phases)
    (live : ∀ node, ((Circle.phaseMachine transport costs).run
      ((Circle.create configurations).after transport costs events) phases).Lives node)
    {first last : Node} (different : first ≠ last)
    (walk : (SimpleGraph.fromRel (((Circle.create configurations).after transport costs
      events).Acquainted configurations)).Walk first last)
    (near : 2 * walk.length ≤ 2 ^ phases.length) :
    ((Circle.phaseMachine transport costs).run
      ((Circle.create configurations).after transport costs events) phases).Knows first
        (configurations last).identity := by
  have start : ((Circle.create configurations).after transport costs events).Proper transport
      configurations := (Circle.create_proper configurations).after costs events
  have identityPorted (node : Node) : Key.port (configurations node).identity ≠ 0 := by
    intro zero
    apply ported node
    apply UInt16.toNat_inj.mp
    exact Int.ofNat_eq_zero.mp zero
  have rounds := (start.rounds costs identityPorted distinct fair live).2
  cases length : phases.length with
  | zero =>
      rw [length] at near
      exact absurd (walk.eq_of_length_eq_zero (by omega)) different
  | succ count =>
      rw [length] at near rounds
      exact rounds.knows_of_walk walk (by omega) different

theorem circle_converges_after_one_report :
    let configurations : Bool → Configuration := fun node =>
      ⟨⟨if node then "left" else "right", fun _ => "10.0.0.1"⟩, "", false, 9000, 1000, 6, 3⟩
    let left : Server := { hostname := "left", port := 9000, ipAddr := some "10.0.0.1" }
    let right : Server := { hostname := "right", port := 9000 }
    let transport := Transport.ofTable
      [{ type := .statusReport
         sender := some left
         lamportTime := 1
         report := some
           { sender := left
             alive := [{ server := { right with ipAddr := some "" }, timestamp := 5000 }] } }]
    let events : List (CircleEvent Bool) := [.addNeighbor true right ⟨true, 5000⟩]
    let phase : List (CircleEvent Bool) :=
      [.sendReport true stableSort .full 6000 6000 0 fun _ => ⟨true, 6000⟩,
        .deliver false 1 6000]
    ((Circle.phaseMachine transport exactCosts).run
      ((Circle.create configurations).after transport exactCosts events) [phase]).Knows false
        (configurations true).identity := by
  intro configurations left right transport events phase
  have known : ((Circle.create configurations).after transport exactCosts events).Acquainted
      configurations true false := by
    unfold Circle.Acquainted
    decide +kernel
  have unknown : ¬((Circle.create configurations).after transport exactCosts events).Knows false
      (configurations true).identity := by
    decide +kernel
  have fair : (Circle.phaseMachine transport exactCosts).Along
      (Circle.Phase transport exactCosts configurations)
      ((Circle.create configurations).after transport exactCosts events) [phase] := by
    refine ⟨⟨?_, ?_⟩, trivial⟩
    · simp [phase, CircleEvent.Collects]
    · intro teller listener different knows
      cases teller with
      | false =>
          cases listener with
          | false => exact absurd rfl different
          | true => exact absurd knows unknown
      | true =>
          cases listener with
          | false =>
              refine ⟨phase.take 1, [], 1, 6000, rfl, ?_⟩
              decide +kernel
          | true => exact absurd rfl different
  have adjacent : (SimpleGraph.fromRel (((Circle.create configurations).after transport
      exactCosts events).Acquainted configurations)).Adj false true :=
    (SimpleGraph.fromRel_adj _ _ _).mpr ⟨by decide, .inr known⟩
  apply circle_converges transport exactCosts configurations (by decide) (by decide) events fair
    (by decide +kernel) (by decide) adjacent.toWalk
  simp

end Gossip
