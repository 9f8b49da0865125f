import Gossip.Contracts.Hearing

/-! # The clock condition

What a server has sent or processed before it builds a client should bear an earlier
time than what the client sends. A client counts its own message on a copy of the clock,
so of two clients that are built while nothing is received the second repeats the time of
the first. The condition holds as long as a server receives a message between any two
clients and builds each client right after it has read the clock. -/

namespace Gossip

open Foundation SwimServer

/-- The envelope is later than all that its server had sent or processed when the client
was built. -/
def Sent.AfterPast (sent : Sent) : Prop :=
  ∀ earlier ∈ sent.past, earlier.lamportTime < sent.posting.envelope.lamportTime

instance (sent : Sent) : Decidable sent.AfterPast :=
  inferInstanceAs (Decidable (∀ earlier ∈ _, _))

/-- When a client is built, the clock was read since the last message was processed, and
a message was processed since the clock was read for any client that has already sent. -/
def Station.ReadsAfresh {Node : Type} (station : Station) : ExchangeEvent Node → Prop
  | .build _ index _ => ∀ reading ∈ station.readings[index]?,
      reading.processed = station.processed ∧
        ∀ exchange ∈ station.exchanges, exchange.phase ≠ .built →
          exchange.reading.processed < station.processed
  | _ => True

instance {Node : Type} (station : Station) :
    ∀ event : ExchangeEvent Node, Decidable (station.ReadsAfresh event)
  | .build .. => inferInstanceAs (Decidable (∀ reading ∈ _, _))
  | .copyAlive .. | .copySuspected .. | .read _ | .post .. | .conclude .. | .evict ..
  | .deliver .. => isTrue trivial

/-! ## Clocks and what was read off them -/

/-- A reading is as old as the number of messages processed since says. -/
def Reading.Consistent (lamportTime : UInt64) (processed : Nat) (reading : Reading) : Prop :=
  reading.processed = processed ∧ reading.time = lamportTime ∨
    reading.processed < processed ∧ reading.time < lamportTime

theorem Reading.Consistent.later {earlier later : UInt64} {processed : Nat}
    {reading : Reading} (consistent : reading.Consistent earlier processed)
    (advances : earlier < later) : reading.Consistent later (processed + 1) := by
  right
  rcases consistent with ⟨count, time⟩ | ⟨count, time⟩
  · exact ⟨by omega, time ▸ advances⟩
  · exact ⟨by omega, UInt64.lt_trans time advances⟩

def Station.SentAt (station : Station) (time : UInt64) : Prop :=
  ∃ exchange ∈ station.exchanges, exchange.phase ≠ .built ∧
    time = exchange.reading.time + 1

structure Exchange.Ordered (lamportTime : UInt64) (processed : Nat) (exchange : Exchange) :
    Prop where
  client : exchange.client.lamportTime = exchange.reading.time
  reading : exchange.reading.Consistent lamportTime processed
  past : ∀ earlier ∈ exchange.past, earlier.lamportTime ≤ exchange.reading.time

structure Station.Ordered (station : Station) : Prop where
  readings : ∀ reading ∈ station.readings,
    reading.Consistent station.server.lamportTime station.processed
  exchanges : ∀ exchange ∈ station.exchanges,
    exchange.Ordered station.server.lamportTime station.processed
  past : ∀ earlier ∈ station.past, earlier.lamportTime < station.server.lamportTime ∨
    station.SentAt earlier.lamportTime

theorem Station.SentAt.advance {station after : Station} {time : UInt64}
    (sentAt : station.SentAt time) (index : Nat) {phase : Phase} (sent : phase ≠ .built)
    (equal : after.exchanges = station.advance index phase) : after.SentAt time := by
  rcases sentAt with ⟨exchange, member, phaseSent, rfl⟩
  rcases List.mem_iff_getElem?.mp member with ⟨position, found⟩
  have moved : (station.advance index phase)[position]? =
      some (if index = position then { exchange with phase := phase } else exchange) := by
    rw [Station.advance, List.getElem?_modify, found]
    split <;> rfl
  refine ⟨_, equal ▸ List.mem_of_getElem? moved, ?_, ?_⟩
  · split
    · exact sent
    · exact phaseSent
  · split <;> rfl

theorem Station.Ordered.past_le {station : Station} (ordered : station.Ordered)
    (processed : ∀ exchange ∈ station.exchanges, exchange.phase ≠ .built →
      exchange.reading.processed < station.processed) :
    ∀ earlier ∈ station.past, earlier.lamportTime ≤ station.server.lamportTime := by
  intro earlier member
  rcases ordered.past earlier member with below | ⟨exchange, stored, sent, equal⟩
  · exact UInt64.le_of_lt below
  · have counted := processed exchange stored sent
    rcases (ordered.exchanges exchange stored).reading with ⟨count, -⟩ | ⟨-, time⟩
    · omega
    · rw [equal, UInt64.le_iff_toNat_le, UInt64.toNat_add, UInt64.toNat_one]
      rw [UInt64.lt_iff_toNat_lt] at time
      omega

section Steps

variable {Node Cost : Type} (costs : CostArithmetic Cost)

theorem Station.Ordered.withServer {station : Station} (ordered : station.Ordered)
    {server : SwimServer} (same : server.lamportTime = station.server.lamportTime) :
    { station with server := server }.Ordered where
  readings := by simpa only [same] using ordered.readings
  exchanges := by simpa only [same] using ordered.exchanges
  past earlier member := by
    rw [same]
    exact ordered.past earlier member

theorem Station.Ordered.advance {station : Station} (ordered : station.Ordered) (index : Nat)
    (phase : Phase) (sent : phase ≠ .built) :
    { station with exchanges := station.advance index phase }.Ordered where
  readings := ordered.readings
  exchanges := station.forall_advance
    (fun _ _ ordered => ⟨ordered.client, ordered.reading, ordered.past⟩) ordered.exchanges _ _
  past earlier member :=
    (ordered.past earlier member).imp_right fun sentAt => sentAt.advance index sent rfl

theorem Station.Ordered.build {station : Station} (ordered : station.Ordered) {index : Nat}
    {reading : Reading} (found : station.readings[index]? = some reading)
    (afresh : reading.processed = station.processed ∧
      ∀ exchange ∈ station.exchanges, exchange.phase ≠ .built →
        exchange.reading.processed < station.processed) (errand : Errand) :
    { station with
      exchanges := station.exchanges ++ [station.buildExchange reading errand] }.Ordered := by
  have consistent := ordered.readings reading (List.mem_of_getElem? found)
  have time : reading.time = station.server.lamportTime := by
    rcases consistent with ⟨-, time⟩ | ⟨count, -⟩
    · exact time
    · omega
  refine { ordered with exchanges := ?_, past := ?_ }
  · rw [List.forall_mem_append, List.forall_mem_singleton]
    refine ⟨ordered.exchanges, rfl, consistent, ?_⟩
    rw [show (station.buildExchange reading errand).reading.time =
      station.server.lamportTime from time]
    exact ordered.past_le afresh.2
  · intro earlier member
    refine (ordered.past earlier member).imp_right ?_
    rintro ⟨exchange, stored, rest⟩
    exact ⟨exchange, List.mem_append_left _ stored, rest⟩

theorem Exchange.posting_afterPast {exchange : Exchange} {lamportTime : UInt64}
    {processed : Nat} (ordered : exchange.Ordered lamportTime processed)
    (fits : exchange.client.lamportTime.toNat + 1 < 2 ^ 64) :
    Sent.AfterPast ⟨exchange.errand.posting exchange.client, exchange.past⟩ := by
  intro earlier member
  have atMost := UInt64.le_iff_toNat_le.mp (ordered.past earlier member)
  rw [← ordered.client] at atMost
  rw [Errand.posting_lamportTime, UInt64.lt_iff_toNat_lt, UInt64.toNat_add,
    UInt64.toNat_one, Nat.mod_eq_of_lt fits]
  omega

theorem Station.Ordered.moves {network : List Sent} {station after : Station}
    {event : ExchangeEvent Node} {sent : List Sent} {failures : List Failure}
    (moves : station.Moves costs network event after sent failures)
    (ordered : station.Ordered) (fits : station.ClockFits network event)
    (afresh : station.ReadsAfresh event)
    (handleable : ∀ message ∈ network, message.posting.envelope.Handleable) :
    after.Ordered ∧ ∀ message ∈ sent, message.AfterPast := by
  cases moves with
  | idle | copyAlive | copySuspected =>
      exact ⟨⟨ordered.readings, ordered.exchanges, ordered.past⟩, by simp⟩
  | read node =>
      refine ⟨{ ordered with readings := ?_ }, by simp⟩
      rw [List.forall_mem_append, List.forall_mem_singleton]
      exact ⟨ordered.readings, .inl ⟨rfl, rfl⟩⟩
  | build node index errand reading found ready =>
      exact ⟨ordered.build found (afresh reading found) errand, by simp⟩
  | post node index exchange found unsent =>
      have here := ordered.exchanges exchange (List.mem_of_getElem? found)
      have changed := ordered.advance index .posted (by simp)
      refine ⟨{ changed with past := ?_ }, ?_⟩
      · rw [List.forall_mem_append, List.forall_mem_singleton]
        have moved : (station.advance index .posted)[index]? =
            some { exchange with phase := .posted } := by
          simp [Station.advance, found]
        exact ⟨changed.past,
          .inr ⟨_, List.mem_of_getElem? moved, by simp, by simp [here.client]⟩⟩
      · simpa using Exchange.posting_afterPast here (fits exchange found)
  | conclude node index answered now exchange found waiting =>
      have reaches := station.server.reaches_run
        (exchange.errand.conclusion_noClock answered now)
      have changed :=
        (ordered.withServer reaches.hasFrame.2).advance index .concluded (by simp)
      exact ⟨changed, by simp⟩
  | evict node subject seconds =>
      have reaches := Reaches.perform station.server
        (.removeSuspected subject .evicted seconds)
      exact ⟨ordered.withServer reaches.hasFrame.2, by simp⟩
  | deliver node index now message found =>
      have advances : station.server.Advances (message.posting.envelope, now) :=
        ⟨handleable message (List.mem_of_getElem? found), fits message found⟩
      refine ⟨⟨?_, ?_, ?_⟩, by simp⟩
      · exact fun reading member => (ordered.readings reading member).later advances.lt.1
      · exact fun exchange member =>
          have before := ordered.exchanges exchange member
          ⟨before.client, before.reading.later advances.lt.1, before.past⟩
      · rw [List.forall_mem_append, List.forall_mem_singleton]
        refine ⟨fun earlier member => ?_, .inl advances.lt.2⟩
        exact (ordered.past earlier member).imp_left
          fun below => UInt64.lt_trans below advances.lt.1

/-! ## Clusters -/

namespace Deployment

/-- Every envelope is later than the past of its client. -/
def ClockCondition (deployment : Deployment Node) : Prop :=
  ∀ sent ∈ deployment.network, sent.AfterPast

instance (deployment : Deployment Node) : Decidable deployment.ClockCondition :=
  inferInstanceAs (Decidable (∀ sent ∈ _, _))

structure Ordered (deployment : Deployment Node) : Prop where
  stations : ∀ node, (deployment.stations node).Ordered
  handleable : ∀ sent ∈ deployment.network, sent.posting.envelope.Handleable
  clockCondition : deployment.ClockCondition

/-- No clock wraps around, and clients are built from fresh readings. -/
def Careful (deployment : Deployment Node) (event : ExchangeEvent Node) : Prop :=
  deployment.ClockFits event ∧ (deployment.stations event.node).ReadsAfresh event

instance (deployment : Deployment Node) (event : ExchangeEvent Node) :
    Decidable (deployment.Careful event) :=
  inferInstanceAs (Decidable (_ ∧ _))

theorem create_ordered (settings : Node → Host × String × UInt16 × Bool) :
    (Deployment.create settings).Ordered where
  stations node :=
    { readings := by simp [create]
      exchanges := by simp [create]
      past := by simp [create] }
  handleable := by simp [create]
  clockCondition := by simp [ClockCondition, create]

theorem Ordered.act [DecidableEq Node] {deployment : Deployment Node}
    {event : ExchangeEvent Node} (ordered : deployment.Ordered)
    (careful : deployment.Careful event) : (deployment.act costs event).Ordered := by
  rcases deployment.act_eq costs event with ⟨after, sent, failures, moves, equal⟩
  have step := (ordered.stations event.node).moves costs moves careful.1 careful.2
    ordered.handleable
  rw [equal]
  refine ⟨?_, List.forall_mem_append.mpr ⟨ordered.handleable, ?_⟩,
    List.forall_mem_append.mpr ⟨ordered.clockCondition, step.2⟩⟩
  · exact (Function.forall_update_iff _ fun _ (station : Station) => station.Ordered).mpr
      ⟨step.1, fun node _ => ordered.stations node⟩
  · exact moves.handleable

end Deployment

/-- In every run in which no clock wraps around and every client is built from a fresh
reading, what a server sends is later than all it had sent or processed when it built the
client. -/
theorem clock_condition_of_careful [DecidableEq Node]
    (settings : Node → Host × String × UInt16 × Bool) (events : List (ExchangeEvent Node))
    (careful : (exchangeMachine costs).Along Deployment.Careful (.create settings) events) :
    ((exchangeMachine costs).run (.create settings) events).ClockCondition :=
  ((exchangeMachine costs).run_invariant Deployment.Ordered
    (fun _ _ ordered careful => ordered.act costs careful)
    (Deployment.create_ordered settings) careful).clockCondition

end Steps

/-- Node `a` adds two neighbours one after the other. -/
def twoPings : List (ExchangeEvent Site) :=
  [.read .a, .build .a 0 (.addNeighbor { hostname := "b", port := 9000 }), .post .a 0,
    .conclude .a 0 true 1000,
    .read .a, .build .a 1 (.addNeighbor { hostname := "c", port := 9000 }), .post .a 1]

/-- The second ping bears the time of the first. -/
theorem second_ping_repeats_time :
    (exchangeMachine exactCosts).Along Deployment.ClockFits (.create twoNodes) twoPings ∧
      ((exchangeMachine exactCosts).run (.create twoNodes) twoPings).network.map
        (fun sent => sent.posting.envelope.lamportTime) = [1, 1] ∧
      ¬ ((exchangeMachine exactCosts).run (.create twoNodes) twoPings).ClockCondition := by
  decide +kernel

/-- The same with a ping of node `b` that arrives in between. -/
def pingInBetween : List (ExchangeEvent Site) :=
  [.read .a, .build .a 0 (.addNeighbor { hostname := "b", port := 9000 }), .post .a 0,
    .conclude .a 0 true 1000,
    .read .b, .build .b 0 (.addNeighbor { hostname := "a", port := 9000 }), .post .b 0,
    .deliver .a 1 1000,
    .read .a, .build .a 1 (.addNeighbor { hostname := "c", port := 9000 }), .post .a 1]

theorem clock_condition_with_ping_in_between :
    (exchangeMachine exactCosts).Along Deployment.Careful (.create twoNodes)
        pingInBetween ∧
      ((exchangeMachine exactCosts).run (.create twoNodes) pingInBetween).ClockCondition :=
  have careful : (exchangeMachine exactCosts).Along Deployment.Careful (.create twoNodes)
      pingInBetween := by decide +kernel
  ⟨careful, clock_condition_of_careful exactCosts twoNodes pingInBetween careful⟩

end Gossip
