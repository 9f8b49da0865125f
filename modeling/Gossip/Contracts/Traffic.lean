import Gossip.Contracts.ClosedCircle
import Gossip.Contracts.RoundRobin
import Gossip.Foundation.Accounting

/-! # Traffic

Messages lead to messages: a request to ping a server leads to a report, and a report to a
ping when the receiver finds itself among the suspects. Here it ends. So what a circle sends
is paid for by the calls that began it, and in a circle in which nobody calls anything the
traffic dies down, in whatever order the messages arrive. -/

namespace Gossip

open Foundation SwimServer

/-- How many more messages can follow from a message. A request is forwarded as a report, and
whoever a report suspects answers with a ping. -/
def EnvelopeType.consequences : EnvelopeType → Nat
  | .statusRequest => 2
  | .statusReport => 1
  | .statusUpdate | .statusUnknown | .statusBroadcast | .unrecognized _ => 0

def Posting.price (posting : Posting) : Nat := 1 + posting.envelope.type.consequences

/-! ## Servers -/

namespace SwimServer

def spent (server : SwimServer) : Nat := (server.postings.map Posting.price).sum

theorem spent_perform (server : SwimServer) (step : Primitive) :
    (server.perform step).spent = server.spent + step.posting?.elim 0 Posting.price := by
  rw [spent, perform_postings, List.map_append, List.sum_append]
  cases step.posting? <;> simp [spent]

@[simp] theorem spent_addAlive (server : SwimServer) (subject : Server) (timestamp : UInt64) :
    (server.addAlive subject timestamp).1.spent = server.spent :=
  server.spent_perform (.addAlive subject timestamp)

@[simp] theorem spent_reportSuspected (server : SwimServer) (subject : Server)
    (timestamp : UInt64) :
    (server.reportSuspected subject timestamp).1.spent = server.spent :=
  server.spent_perform (.reportSuspected subject timestamp)

@[simp] theorem spent_removeSuspected (server : SwimServer) (subject : Server)
    (removeType : RemoveType) (seconds : UInt64) :
    (server.removeSuspected subject removeType seconds).spent = server.spent :=
  server.spent_perform (.removeSuspected subject removeType seconds)

@[simp] theorem spent_post (server : SwimServer) (posting : Posting) :
    (server.post posting).spent = server.spent + posting.price :=
  server.spent_perform (.post posting)

@[simp] theorem spent_updateLamportTime (server : SwimServer) (time : UInt64) :
    (server.updateLamportTime time).spent = server.spent := rfl

theorem spent_onAliveRecord (server : SwimServer) (record : ServerRecord) :
    (server.onAliveRecord record).spent = server.spent := by
  rw [← run_aliveRecordCalls, aliveRecordCalls]
  split
  · rfl
  · split
    · rfl
    · simp [spent_perform, Primitive.posting?]

theorem spent_onSuspectedRecord (reportSender : Server) (server : SwimServer)
    (record : ServerRecord) :
    (onSuspectedRecord reportSender server record).spent =
      server.spent + if record.key = server.self.key then 1 else 0 := by
  rw [← run_suspectedRecordCalls, suspectedRecordCalls]
  simp only [Server.same_iff, ServerRecord.server_key]
  split
  · exact server.spent_perform (.post _)
  · split
    · rfl
    · simp [spent_perform, Primitive.posting?]

theorem spent_onSuspectedRecords (reportSender : Server) (server : SwimServer)
    (records : List ServerRecord) :
    (records.foldl (onSuspectedRecord reportSender) server).spent =
      server.spent + (records.map ServerRecord.key).count server.self.key := by
  induction records generalizing server with
  | nil => simp
  | cons record records induction =>
      have same : (onSuspectedRecord reportSender server record).self = server.self := by
        rw [Settings.self, Settings.self, onSuspectedRecord_toSettings]
      rw [List.foldl_cons, induction, spent_onSuspectedRecord, same, List.map_cons,
        List.count_cons]
      simp only [beq_iff_eq]
      omega

theorem spent_onReport_le (server : SwimServer) (sender : Server) {report : SwimReport}
    (distinct : (report.suspected.map ServerRecord.key).Nodup) (now : UInt64) :
    (server.onReport sender report now).spent ≤ server.spent + 1 := by
  have alive : (report.alive.foldl onAliveRecord (server.addAlive sender now).1).spent =
      server.spent :=
    Machine.run_keeps ⟨onAliveRecord⟩ (fun state => state.spent = server.spent)
      (fun state record same => (spent_onAliveRecord state record).trans same) _ report.alive
      (spent_addAlive server sender now)
  rw [onReport, spent_onSuspectedRecords, alive]
  exact Nat.add_le_add_left (List.nodup_iff_count_le_one.mp distinct _) _

theorem spent_forwardPing (server : SwimServer) (sender destination : Server)
    (seconds : UInt64) (answered : Bool) (now : UInt64) :
    (server.forwardPing sender destination seconds answered now).spent = server.spent + 2 := by
  unfold forwardPing
  dsimp only
  split
  · exact spent_post _ _
  · exact (spent_reportSuspected _ _ _).trans (spent_post _ _)

end SwimServer

/-! ## Detectors -/

structure GossipFailureDetector.Spends (amount : Nat) (before after : GossipFailureDetector) :
    Prop where
  numReports : after.numReports = before.numReports
  numForwards : after.numForwards = before.numForwards
  spent : after.server.spent ≤ before.server.spent + amount

namespace GossipFailureDetector

namespace Spends

variable {amount other : Nat} {before middle after : GossipFailureDetector}

theorem refl (detector : GossipFailureDetector) : Spends 0 detector detector :=
  ⟨rfl, rfl, le_rfl⟩

theorem trans (first : Spends amount before middle) (second : Spends other middle after) :
    Spends (amount + other) before after where
  numReports := second.numReports.trans first.numReports
  numForwards := second.numForwards.trans first.numForwards
  spent := by
    have firstSpent := first.spent
    have secondSpent := second.spent
    omega

theorem mono (spends : Spends amount before after) (enough : amount ≤ other) :
    Spends other before after :=
  ⟨spends.numReports, spends.numForwards, spends.spent.trans (Nat.add_le_add_left enough _)⟩

theorem post (detector : GossipFailureDetector) (posting : Posting) :
    Spends posting.price detector (detector.post posting) :=
  ⟨rfl, rfl, (spent_post _ _).le⟩

theorem addAlive (detector : GossipFailureDetector) (subject : Server) (timestamp : UInt64) :
    Spends 0 detector (detector.addAlive subject timestamp) :=
  ⟨rfl, rfl, (spent_addAlive _ _ _).le⟩

theorem reportSuspected (detector : GossipFailureDetector) (subject : Server)
    (timestamp : UInt64) : Spends 0 detector (detector.reportSuspected subject timestamp) :=
  ⟨rfl, rfl, (spent_reportSuspected _ _ _).le⟩

theorem andThen {α β : Type} {result : Result α} {next : GossipFailureDetector → α → Result β}
    (first : Spends amount before result.1)
    (second : ∀ detector value, result = (detector, .returned value) →
      Spends amount before detector → Spends other detector (next detector value).1) :
    Spends (amount + other) before (result.andThen next).1 := by
  rcases result with ⟨detector, outcome⟩
  cases outcome with
  | returned value => exact first.trans (second detector value rfl first)
  | thrown | unfinished => exact first.mono (Nat.le_add_right _ _)

end Spends

/-! ### Neighbours -/

theorem length_le_of_roundRobin {server : SwimServer} {n idx : Int} {turns : Nat}
    {index last : UInt64} {gathered others : OrderedSet Server.key}
    (walked : roundRobin server n turns idx index gathered = (last, .returned others)) :
    others.toList.length ≤ gathered.toList.length + (n - idx).toNat := by
  induction turns generalizing idx index gathered with
  | zero => simp [roundRobin] at walked
  | succ turns induction =>
      simp only [roundRobin] at walked
      split at walked
      next counts =>
        split at walked
        · simp at walked
        next other _ =>
          split at walked
          · split at walked
            · cases walked
              exact Nat.le_add_right _ _
            · exact induction walked
          · have rest := induction walked
            have grown := gathered.length_insert_le other
            omega
      next =>
        cases walked
        exact Nat.le_add_right _ _

theorem neighborCount_le (k : UInt32) (aliveSize : Nat) :
    (neighborCount k aliveSize).toNat ≤ k.toNat := by
  rw [toNat_neighborCount, turnsCounted]
  split <;> omega

theorem Spends.getUniqueNeighbors (detector : GossipFailureDetector) (k : UInt32) :
    Spends 0 detector (detector.getUniqueNeighbors k).1 := by
  rw [getUniqueNeighbors_eq rfl rfl]
  exact ⟨rfl, rfl, le_rfl⟩

theorem length_le_of_getUniqueNeighbors {detector after : GossipFailureDetector} {k : UInt32}
    {others : List Server} (chosen : detector.getUniqueNeighbors k = (after, .returned others)) :
    others.length ≤ k.toNat := by
  rcases roundRobin_of_getUniqueNeighbors chosen with ⟨last, gathered, walked, rfl⟩
  have length := length_le_of_roundRobin walked
  have bound := neighborCount_le k detector.server.alive.toList.length
  simp only [OrderedSet.empty, List.length_nil, Nat.zero_add, Int.sub_zero] at length
  exact length.trans bound

/-! ### Reports -/

theorem Spends.requestPings (detector : GossipFailureDetector) (other : Server)
    (forwards : List Server) :
    Spends (forwards.length * 3) detector (detector.requestPings other forwards) := by
  induction forwards generalizing detector with
  | nil => exact .refl detector
  | cons forward forwards induction =>
      have asked := Spends.post detector ((detector.client forward).requestPing other).2
      refine (asked.trans (induction _)).mono ?_
      rw [List.length_cons, Nat.succ_mul, Nat.add_comm]
      exact le_rfl

def contactPrice (detector : GossipFailureDetector) : Nat := 2 + detector.numForwards.toNat * 3

theorem Spends.contactPrice_eq {amount : Nat} {before after : GossipFailureDetector}
    (spends : Spends amount before after) : after.contactPrice = before.contactPrice := by
  rw [contactPrice, contactPrice, spends.numForwards]

theorem Spends.sendReportTo (detector : GossipFailureDetector) (report : SwimReport)
    (other : Server) (contact : Contact) :
    Spends detector.contactPrice detector (detector.sendReportTo report other contact).1 := by
  have sent := Spends.post detector ((detector.client other).send report).2
  unfold GossipFailureDetector.sendReportTo
  dsimp only
  split
  · exact sent.mono (Nat.le_add_right _ _)
  · have suspected := sent.trans (.reportSuspected _ other contact.now)
    refine Spends.andThen (suspected.trans (.getUniqueNeighbors _ _)) ?_
    intro after forwards chosen _
    refine (Spends.requestPings after other forwards).mono ?_
    exact Nat.mul_le_mul_right 3 (length_le_of_getUniqueNeighbors chosen)

theorem Spends.contactNeighbor (detector : GossipFailureDetector) (report : SwimReport)
    (other : Server) (contact : Contact) :
    Spends detector.contactPrice detector (detector.contactNeighbor report other contact).1 := by
  change Spends (detector.contactPrice + 0) detector _
  refine Spends.andThen (.sendReportTo detector report other contact) ?_
  intro after answered _ _
  split
  · exact .addAlive after other contact.now
  · exact .refl after

theorem Spends.contactNeighbors (report : SwimReport) (contacts : Server → Contact)
    (detector : GossipFailureDetector) (others : List Server) :
    Spends (others.length * detector.contactPrice) detector
      (GossipFailureDetector.contactNeighbors report contacts detector others).1 := by
  induction others generalizing detector with
  | nil => exact (Spends.refl detector).mono (Nat.zero_le _)
  | cons other others induction =>
      have contacted := Spends.contactNeighbor detector report other (contacts other)
      rw [List.length_cons, Nat.succ_mul, Nat.add_comm]
      refine Spends.andThen contacted ?_
      intro after _ _ spends
      rw [← spends.contactPrice_eq]
      exact induction after

section Reporting

variable {Cost : Type} (costs : CostArithmetic Cost) (sort : LamportSort)

def reportPrice (detector : GossipFailureDetector) : ReportType → Nat
  | .full => detector.numReports.toNat * detector.contactPrice
  | .single => detector.contactPrice

theorem Spends.sendReport (detector : GossipFailureDetector) (type : ReportType)
    (aliveNow suspectedNow : UInt64) (draw : Nat) (contacts : Server → Contact) :
    Spends (detector.reportPrice type) detector
      (detector.sendReport costs sort type aliveNow suspectedNow draw contacts).1 := by
  unfold GossipFailureDetector.sendReport
  split
  · exact (Spends.refl detector).mono (Nat.zero_le _)
  cases type with
  | full =>
      have chosen := Spends.getUniqueNeighbors detector detector.numReports
      rw [reportPrice, ← Nat.zero_add (_ * _)]
      refine Spends.andThen chosen ?_
      intro after others returned spends
      refine (Spends.contactNeighbors _ contacts after others).mono ?_
      rw [spends.contactPrice_eq]
      exact Nat.mul_le_mul_right _ (length_le_of_getUniqueNeighbors returned)
  | single =>
      cases found : detector.server.getRandomNeighbor draw with
      | error => exact (Spends.refl detector).mono (Nat.zero_le _)
      | ok other =>
          have contacted := Spends.contactNeighbor detector
            (detector.server.prepareReport costs sort aliveNow suspectedNow) other
            (contacts other)
          dsimp only
          split
          next thrown =>
            rw [thrown] at contacted
            exact contacted
          next => exact contacted

theorem Spends.garbageCollectSuspected (detector : GossipFailureDetector)
    (aliveNow suspectedNow now : UInt64) (seconds : Server → UInt64) :
    Spends 0 detector
      (detector.garbageCollectSuspected costs sort aliveNow suspectedNow now seconds) := by
  have reaches := detector.reachesBy_garbageCollectSuspected costs sort aliveNow suspectedNow now
    seconds
  refine ⟨rfl, rfl, (reaches.keeps (fun server => server.spent = detector.server.spent) ?_
    rfl).le⟩
  intro server step same removes
  cases step with
  | removeSuspected => rwa [← spent_removeSuspected] at same
  | _ => exact absurd trivial removes

end Reporting

/-! ### Single messages -/

theorem Spends.addNeighbor (detector : GossipFailureDetector) (host : Server)
    (contact : Contact) : Spends 1 detector (detector.addNeighbor host contact) := by
  have asked := Spends.post detector (detector.client host).ping.2
  unfold GossipFailureDetector.addNeighbor
  dsimp only
  split
  · exact asked.trans (.addAlive _ host contact.now)
  · exact asked.trans (.reportSuspected _ host contact.now)

theorem Spends.pingRandomSuspected (detector : GossipFailureDetector) (draw : Nat)
    (contacts : Server → Contact) :
    Spends 1 detector (detector.pingRandomSuspected draw contacts) := by
  unfold GossipFailureDetector.pingRandomSuspected
  cases detector.server.getRandomSuspect draw with
  | error => exact (Spends.refl detector).mono (Nat.zero_le _)
  | ok suspect =>
      have asked := Spends.post detector (detector.client suspect).ping.2
      dsimp only
      split
      · exact asked.trans (.addAlive _ suspect _)
      · exact asked

end GossipFailureDetector

/-! ## Participants -/

section Packets

variable (transport : Transport)

def Packet.consequences (packet : Packet) : Nat :=
  (transport.parseFromArray packet.bytes).elim 0 fun envelope => envelope.type.consequences

def Packet.price (packet : Packet) : Nat := 1 + packet.consequences transport

theorem Posting.price_packet_le (posting : Posting) :
    (posting.packet transport).price transport ≤ posting.price := by
  refine Nat.add_le_add_left ?_ 1
  rw [Packet.consequences, packet]
  rcases transport.faithful posting.envelope with same | empty | unread
  · rw [same]
    exact le_rfl
  · rw [empty]
    exact Nat.zero_le _
  · rw [unread]
    exact Nat.zero_le _

end Packets

def Participant.debt (participant : Participant) : Nat :=
  participant.detector.server.spent + participant.forwards.length * 2

theorem SwimEnvelope.Made.debt_dispatch_le {scope : Scope} {envelope : SwimEnvelope}
    (made : envelope.Made scope) {listener next : Listener} {now : UInt64}
    (dispatched : listener.dispatch envelope now = .ok next) :
    next.server.spent + next.forwards.length * 2 ≤
      listener.server.spent + listener.forwards.length * 2 + envelope.type.consequences := by
  cases made with
  | ping lamportTime named =>
      cases dispatched
      exact Nat.add_le_add_right (spent_addAlive _ _ _).le _
  | @send lamportTime sender named report within =>
      cases dispatched
      have heard := spent_onReport_le (listener.server.updateLamportTime lamportTime) sender
        within.distinct now
      rw [spent_updateLamportTime] at heard
      simp only [EnvelopeType.consequences, receiveReport]
      omega
  | @requestPing lamportTime sender named other blamed =>
      cases dispatched
      have heard := spent_addAlive (listener.server.updateLamportTime lamportTime) sender now
      rw [spent_updateLamportTime] at heard
      simp only [EnvelopeType.consequences, receiveRequest, onForwardRequest, List.length_append,
        List.length_singleton]
      omega

theorem Packet.Made.debt_dispatch_le {transport : Transport} {scope : Scope} {packet : Packet}
    (made : packet.Made transport scope) {envelope : SwimEnvelope}
    (parsed : transport.parseFromArray packet.bytes = some envelope) {listener next : Listener}
    {now : UInt64} (dispatched : listener.dispatch envelope now = .ok next) :
    next.server.spent + next.forwards.length * 2 ≤
      listener.server.spent + listener.forwards.length * 2 + packet.consequences transport := by
  rw [consequences, parsed]
  rcases made with ⟨sent, sentMade, bytes⟩
  rw [bytes] at parsed
  rcases transport.faithful sent with same | empty | unread
  · cases Option.some.inj (same.symm.trans parsed)
    exact sentMade.debt_dispatch_le dispatched
  · cases Option.some.inj (empty.symm.trans parsed)
    cases dispatched
    exact Nat.le_add_right _ _
  · rw [unread] at parsed
    cases parsed

def Setting.Bounded (reports forwards : Nat) : Setting → Prop
  | .numReports value => value.toNat ≤ reports
  | .numForwards value => value.toNat ≤ forwards
  | .gracePeriod _ => True

namespace CircleEvent

variable {Node : Type}

/-- The calls that begin something, with what can follow from it: a ping, or reports to as many
neighbours as a round has, each with its answer and, should it fail, with the requests, the
reports and the answers that follow. -/
def price (reports forwards : Nat) : CircleEvent Node → Nat
  | .addNeighbor .. | .pingRandomSuspected .. => 1
  | .sendReport _ _ .single .. => 2 + forwards * 3
  | .sendReport _ _ .full .. => reports * (2 + forwards * 3)
  | .garbageCollectSuspected .. | .set .. | .forward .. | .deliver .. => 0

/-- The event sets nothing to more than these numbers. -/
def Bounded (reports forwards : Nat) : CircleEvent Node → Prop
  | .set _ setting => setting.Bounded reports forwards
  | .addNeighbor .. | .sendReport .. | .pingRandomSuspected .. | .garbageCollectSuspected ..
  | .forward .. | .deliver .. => True

def delivery? : CircleEvent Node → Option Nat
  | .deliver _ index _ => some index
  | .addNeighbor .. | .sendReport .. | .pingRandomSuspected .. | .garbageCollectSuspected ..
  | .set .. | .forward .. => none

section Credit

variable (transport : Transport)

def credit (network : List Packet) (event : CircleEvent Node) : Nat :=
  event.delivery?.elim 0 (amountAt (Packet.consequences transport) network)

theorem credit_append_le (network more : List Packet) (event : CircleEvent Node) :
    event.credit transport network ≤ event.credit transport (network ++ more) := by
  unfold credit
  cases event.delivery? with
  | none => exact le_rfl
  | some index => exact amountAt_append_le _ network more index

theorem sum_credit_le (network : List Packet) {events : List (CircleEvent Node)}
    (once : (events.filterMap delivery?).Nodup) :
    (events.map (credit transport network)).sum ≤
      (network.map (Packet.consequences transport)).sum := by
  have deliveries : (events.map (credit transport network)).sum =
      ((events.filterMap delivery?).map
        (amountAt (Packet.consequences transport) network)).sum := by
    clear once
    induction events with
    | nil => rfl
    | cons event events induction =>
        rw [List.map_cons, List.sum_cons, induction, credit]
        cases arrives : event.delivery? with
        | none => simp [arrives]
        | some index => simp [arrives]
  rw [deliveries]
  exact sum_amountAt_le _ network once

end Credit

end CircleEvent

/-- A participant that sends no more reports and requests at a time than these numbers. -/
structure Participant.Bounded (reports forwards : Nat) (participant : Participant) : Prop where
  numReports : participant.detector.numReports.toNat ≤ reports
  numForwards : participant.detector.numForwards.toNat ≤ forwards

structure Participant.Pays (reports forwards amount : Nat) (before after : Participant) :
    Prop where
  bounded : after.Bounded reports forwards
  debt : after.debt ≤ before.debt + amount

namespace Participant

variable {transport : Transport} {participant : Participant} {reports forwards : Nat}

theorem Pays.of_spends (bounded : participant.Bounded reports forwards) {amount : Nat}
    {after : GossipFailureDetector}
    (spends : GossipFailureDetector.Spends amount participant.detector after) :
    Pays reports forwards amount participant { participant with detector := after } where
  bounded := ⟨spends.numReports ▸ bounded.numReports, spends.numForwards ▸ bounded.numForwards⟩
  debt := by
    have spent := spends.spent
    simp only [Participant.debt]
    omega

theorem Pays.refl (bounded : participant.Bounded reports forwards) (amount : Nat) :
    Pays reports forwards amount participant participant :=
  ⟨bounded, Nat.le_add_right _ _⟩

theorem Bounded.contactPrice_le (bounded : participant.Bounded reports forwards) :
    participant.detector.contactPrice ≤ 2 + forwards * 3 :=
  Nat.add_le_add_left (Nat.mul_le_mul_right 3 bounded.numForwards) 2

theorem Pays.forward (bounded : participant.Bounded reports forwards) (index : Nat)
    (seconds : UInt64) (answered : Bool) (now : UInt64) :
    Pays reports forwards 0 participant
      (participant.heard (participant.listener.background index seconds answered now)).1 := by
  unfold Listener.background
  cases found : participant.listener.forwards[index]? with
  | none => exact .refl bounded 0
  | some forward =>
      have inside : index < participant.forwards.length :=
        (List.getElem?_eq_some_iff.mp found).1
      have erased := List.length_eraseIdx_of_lt inside
      cases known : forward.destination with
      | none =>
          simp only [known, dereference]
          exact .refl bounded 0
      | some destination =>
          simp only [known, dereference]
          have sent := spent_forwardPing participant.detector.server forward.sender destination
            seconds answered now
          refine ⟨⟨bounded.numReports, bounded.numForwards⟩, ?_⟩
          change (participant.detector.server.forwardPing forward.sender destination seconds
            answered now).spent + (participant.forwards.eraseIdx index).length * 2 ≤
              participant.detector.server.spent + participant.forwards.length * 2 + 0
          omega

theorem Pays.receive (bounded : participant.Bounded reports forwards) {scope : Scope}
    {packet : Packet} (made : packet.Made transport scope) (now : UInt64) :
    Pays reports forwards (packet.consequences transport) participant (participant.heard
      (participant.listener.receive transport.parseFromArray packet.bytes now)).1 := by
  unfold Listener.receive
  cases parsed : transport.parseFromArray packet.bytes with
  | none => exact ⟨⟨bounded.numReports, bounded.numForwards⟩, Nat.le_add_right _ _⟩
  | some envelope =>
      dsimp only
      cases dispatched : participant.listener.dispatch envelope now with
      | error fault => exact .refl bounded _
      | ok next =>
          exact ⟨⟨bounded.numReports, bounded.numForwards⟩,
            made.debt_dispatch_le parsed dispatched⟩

theorem Pays.set (bounded : participant.Bounded reports forwards) {setting : Setting}
    (fits : setting.Bounded reports forwards) :
    Pays reports forwards 0 participant
      { participant with detector := participant.detector.set setting } := by
  cases setting with
  | numReports value => exact ⟨⟨fits, bounded.numForwards⟩, le_rfl⟩
  | numForwards value => exact ⟨⟨bounded.numReports, fits⟩, le_rfl⟩
  | gracePeriod value => exact ⟨⟨bounded.numReports, bounded.numForwards⟩, le_rfl⟩

section Events

variable {Node Cost : Type} (costs : CostArithmetic Cost) {scope : Scope}

theorem Pays.act (bounded : participant.Bounded reports forwards) {network : List Packet}
    (made : ∀ packet ∈ network, packet.Made transport scope) {event : CircleEvent Node}
    (fits : event.Bounded reports forwards) :
    Pays reports forwards (event.price reports forwards + event.credit transport network)
      participant (participant.act transport costs network event).1 := by
  cases event with
  | addNeighbor node host contact =>
      exact .of_spends bounded (.addNeighbor participant.detector host contact)
  | sendReport node sort type aliveNow suspectedNow draw contacts =>
      refine .of_spends bounded ((GossipFailureDetector.Spends.sendReport costs sort
        participant.detector type aliveNow suspectedNow draw contacts).mono ?_)
      cases type with
      | full => exact Nat.mul_le_mul bounded.numReports bounded.contactPrice_le
      | single => exact bounded.contactPrice_le
  | pingRandomSuspected node draw contacts =>
      exact .of_spends bounded (.pingRandomSuspected participant.detector draw contacts)
  | garbageCollectSuspected node sort aliveNow suspectedNow now seconds =>
      exact .of_spends bounded (.garbageCollectSuspected costs sort participant.detector
        aliveNow suspectedNow now seconds)
  | set node setting => exact .set bounded fits
  | forward node index seconds answered now => exact .forward bounded index seconds answered now
  | deliver node index now =>
      rw [CircleEvent.price, CircleEvent.credit, CircleEvent.delivery?, Option.elim_some,
        Nat.zero_add]
      cases found : network[index]? with
      | none =>
          rw [act_deliver_none transport costs found participant node now]
          exact .refl bounded _
      | some packet =>
          rw [act_deliver transport costs found participant node now, amountAt_of_some _ found]
          exact .receive bounded (made packet (List.mem_of_getElem? found)) now

end Events

end Participant

/-! ## Circles -/

section Runs

variable {Node Cost : Type} (transport : Transport) (costs : CostArithmetic Cost) {scope : Scope}
  {reports forwards : Nat}

def waiting : Except Fault Participant → Nat
  | .ok participant => participant.forwards.length
  | .error _ => 0

theorem waiting_survives_le (before : Participant) (reaction : Participant × Option Fault) :
    waiting (before.survives transport reaction) ≤ reaction.1.forwards.length := by
  unfold Participant.survives
  split
  · split
    · exact le_rfl
    · exact Nat.zero_le _
  · exact Nat.zero_le _

theorem Participant.price_packets_le {collects : Prop} {before after : Participant}
    (goes : Goes scope collects before after) :
    ((before.packets transport after).map (Packet.price transport)).sum +
      before.detector.server.spent ≤ after.detector.server.spent := by
  rcases goes.postings with ⟨new, posted, -⟩
  have cheaper : ((before.packets transport after).map (Packet.price transport)).sum ≤
      (new.map Posting.price).sum := by
    rw [packets, Participant.posted, posted, List.drop_left, List.map_map]
    calc ((new.takeWhile transport.accepts).map
          (Packet.price transport ∘ Posting.packet transport)).sum
        ≤ ((new.takeWhile transport.accepts).map Posting.price).sum :=
          List.sum_le_sum fun posting _ => posting.price_packet_le transport
      _ ≤ (new.map Posting.price).sum :=
          ((List.takeWhile_sublist _).map _).sum_le_sum fun _ _ => Nat.zero_le _
  rw [spent, spent, posted, List.map_append, List.sum_append]
  omega

variable [Fintype Node]

def Circle.debt (circle : Circle Node) : Nat :=
  (circle.network.map (Packet.price transport)).sum +
    (∑ node, waiting (circle.processes node)) * 2

theorem Circle.debt_create (configurations : Node → Configuration) :
    (Circle.create configurations).debt transport = 0 := by
  simp [debt, create, waiting, Participant.create]

theorem Circle.length_network_le_debt (circle : Circle Node) :
    circle.network.length + (circle.network.map (Packet.consequences transport)).sum ≤
      circle.debt transport := by
  have total : (circle.network.map (Packet.price transport)).sum =
      circle.network.length + (circle.network.map (Packet.consequences transport)).sum := by
    change (circle.network.map fun packet => 1 + packet.consequences transport).sum = _
    rw [List.sum_map_add]
    simp
  rw [debt, total]
  exact Nat.le_add_right _ _

/-- Every process that lives is within the bounds. -/
def Circle.Bounded (reports forwards : Nat) (circle : Circle Node) : Prop :=
  ∀ node participant, circle.processes node = .ok participant →
    participant.Bounded reports forwards

variable [DecidableEq Node]

structure Circle.Pays (reports forwards amount : Nat) (before after : Circle Node) : Prop where
  situated : after.Situated transport .any
  bounded : after.Bounded reports forwards
  network : ∃ more, after.network = before.network ++ more
  debt : after.debt transport ≤ before.debt transport + amount

theorem Circle.Situated.pays {circle : Circle Node} (situated : circle.Situated transport .any)
    (bounded : circle.Bounded reports forwards) {event : CircleEvent Node}
    (fits : event.Bounded reports forwards) :
    circle.Pays transport reports forwards
      (event.price reports forwards + event.credit transport circle.network)
      (circle.act transport costs event) := by
  have confines : circle.Confines .any event :=
    fun participant _ => participant.confines_any event
  have after := situated.act costs confines
  cases process : circle.processes event.node with
  | error fault =>
      rw [Circle.act_of_dead costs process]
      exact ⟨situated, bounded, ⟨[], (List.append_nil _).symm⟩, Nat.le_add_right _ _⟩
  | ok before =>
      have goes := situated.goes costs confines process
      have pays := Participant.Pays.act costs (bounded event.node before process)
        situated.network fits
      refine ⟨after, ?_, ⟨_, Circle.advance_network process⟩, ?_⟩
      · intro node participant alive
        rcases Circle.of_advance alive with same | ⟨reacting, rfl, reacted, rfl⟩
        · exact bounded node participant same
        · cases Except.ok.inj (process.symm.trans reacted)
          exact pays.bounded
      · have posted := Participant.price_packets_le transport goes
        have forwarded := sum_update waiting circle.processes event.node
          (before.survives transport (before.act transport costs circle.network event))
        have left := waiting_survives_le transport before
          (before.act transport costs circle.network event)
        have owed := pays.debt
        have here : waiting (circle.processes event.node) = before.forwards.length := by
          rw [process]
          rfl
        have acted : circle.act transport costs event =
            { processes := Function.update circle.processes event.node
                (before.survives transport (before.act transport costs circle.network event))
              network := circle.network ++ before.packets transport
                (before.act transport costs circle.network event).1 } := by
          rw [Circle.act, Circle.advance, process]
        simp only [Participant.debt] at owed
        rw [acted]
        simp only [Circle.debt, List.map_append, List.sum_append]
        omega

theorem Circle.Situated.pays_run {circle : Circle Node}
    (situated : circle.Situated transport .any) (bounded : circle.Bounded reports forwards)
    {events : List (CircleEvent Node)}
    (fits : ∀ event ∈ events, event.Bounded reports forwards) :
    let final := (circleMachine transport costs).run circle events
    circle.Pays transport reports forwards
      ((events.map (CircleEvent.price reports forwards)).sum +
        (events.map (CircleEvent.credit transport final.network)).sum) final := by
  induction events generalizing circle with
  | nil => exact ⟨situated, bounded, ⟨[], by simp⟩, by simp⟩
  | cons event events induction =>
      intro final
      rw [List.forall_mem_cons] at fits
      have first := situated.pays transport costs bounded fits.1
      have rest := induction first.situated first.bounded fits.2
      rcases first.network with ⟨posted, grown⟩
      rcases rest.network with ⟨more, grownAgain⟩
      have network : final.network = circle.network ++ (posted ++ more) := by
        rw [← List.append_assoc, ← grown]
        exact grownAgain
      refine ⟨rest.situated, rest.bounded, ⟨_, network⟩, ?_⟩
      have earlier := event.credit_append_le transport circle.network (posted ++ more)
      rw [← network] at earlier
      have firstDebt := first.debt
      have restDebt : final.debt transport ≤ (circle.act transport costs event).debt transport +
          ((events.map (CircleEvent.price reports forwards)).sum +
            (events.map (CircleEvent.credit transport final.network)).sum) := rest.debt
      simp only [List.map_cons, List.sum_cons]
      omega

end Runs

end Gossip
