import Gossip.Contracts.LamportClock
import Gossip.Semantics.Exchanges

/-! # Hearing from a server

Whoever sends a message is alive for the receiver once the message has been processed,
even when the report in it says otherwise. The reason is a matter of times: a record is
never newer than the envelope it travels in, and the receiver's clock moves past the
envelope before the report is looked at. -/

namespace Gossip

open Foundation SwimServer

/-! ## The sender of a message -/

namespace Entry

variable (settings : Settings) (lamportTime : UInt64)

def Heard (entry : Entry) : Prop :=
  entry.alive.map ServerRecord.lamportTime = some lamportTime ∧ entry.suspected = none

variable {settings lamportTime} {entry : Entry}

theorem Heard.onAliveRecord (heard : entry.Heard lamportTime) (record : ServerRecord) :
    (entry.onAliveRecord settings lamportTime record).Heard lamportTime := by
  by_cases own : record.key = settings.self.key
  · rwa [Entry.onAliveRecord, if_pos own]
  by_cases port : record.server.port = 0
  · exact ⟨(onAliveRecord_of_portless lamportTime port).1.trans heard.1,
      (onAliveRecord_of_portless lamportTime port).2.trans heard.2⟩
  · apply onAliveRecord_of_current lamportTime own port
    intro found known
    rw [heard.2] at known
    cases known

theorem Heard.onSuspectedRecord (heard : entry.Heard lamportTime) {record : ServerRecord}
    (older : record.lamportTime < lamportTime) :
    (entry.onSuspectedRecord settings lamportTime record).Heard lamportTime := by
  rcases Option.map_eq_some_iff.mp heard.1 with ⟨found, known, time⟩
  rwa [onSuspectedRecord_of_stale lamportTime known (time ▸ older)]

theorem Heard.foldl {step : Entry → ServerRecord → Entry} {records : List ServerRecord}
    (stepHeard : ∀ entry : Entry, entry.Heard lamportTime → ∀ record ∈ records,
      (step entry record).Heard lamportTime)
    (heard : entry.Heard lamportTime) : (records.foldl step entry).Heard lamportTime := by
  induction records generalizing entry with
  | nil => exact heard
  | cons record records induction =>
      exact induction (fun entry heard other member =>
        stepHeard entry heard other (List.mem_cons_of_mem _ member))
        (stepHeard entry heard record (by simp))

theorem heard_onReport (entry : Entry) {sender : Server} (port : sender.port ≠ 0)
    {report : SwimReport}
    (older : ∀ record ∈ report.suspected, record.lamportTime < lamportTime) (now : UInt64) :
    (entry.onReport settings lamportTime sender.key sender report now).Heard
      lamportTime := by
  have afterSender : (entry.offerAlive settings lamportTime sender now).Heard
      lamportTime := by
    refine ⟨offerAlive_lamportTime lamportTime port now, ?_⟩
    rw [offerAlive, if_neg port, addAlive_suspected]
  simp only [onReport, if_true]
  apply Heard.foldl
  · intro entry heard record member
    exact heard.onSuspectedRecord (older record (List.mem_of_mem_filter member))
  · apply Heard.foldl _ afterSender
    intro entry heard record _
    exact heard.onAliveRecord record

end Entry

namespace SwimServer

/-- The server is in `alive_` and not in `suspected_`. -/
def HasHeard (server : SwimServer) (key : Key) : Prop :=
  server.alive.contains key = true ∧ server.suspected.contains key = false

instance (server : SwimServer) (key : Key) : Decidable (server.HasHeard key) :=
  inferInstanceAs (Decidable (_ ∧ _))

theorem hasHeard_of_heard {server : SwimServer} {key : Key} (lamportTime : UInt64)
    (heard : (server.entry key).Heard lamportTime) : server.HasHeard key := by
  rcases Option.map_eq_some_iff.mp heard.1 with ⟨found, known, -⟩
  rw [entry_alive] at known
  have unsuspected := heard.2
  rw [entry_suspected] at unsuspected
  exact ⟨by simp [OrderedSet.contains, known], by simp [OrderedSet.contains, unsuspected]⟩

theorem addAlive_hasHeard (server : SwimServer) {subject : Server}
    (port : subject.port ≠ 0) (timestamp : UInt64) :
    (server.addAlive subject timestamp).1.HasHeard subject.key := by
  apply hasHeard_of_heard server.lamportTime
  rw [entry_addAlive, if_pos rfl]
  refine ⟨Entry.offerAlive_lamportTime server.lamportTime port timestamp, ?_⟩
  rw [Entry.offerAlive, if_neg port, Entry.addAlive_suspected]

theorem onUpdate_hasHeard (server : SwimServer) {client : Server} (port : client.port ≠ 0)
    (now : UInt64) : (server.onUpdate client now).HasHeard client.key := by
  have added := server.addAlive_hasHeard port now
  refine ⟨added.1, ?_⟩
  simp [onUpdate, OrderedSet.contains_erase]

theorem onReport_hasHeard (server : SwimServer) {sender : Server} (port : sender.port ≠ 0)
    {report : SwimReport}
    (older : ∀ record ∈ report.suspected, record.lamportTime < server.lamportTime)
    (now : UInt64) : (server.onReport sender report now).HasHeard sender.key := by
  apply hasHeard_of_heard server.lamportTime
  rw [entry_onReport]
  exact Entry.heard_onReport _ port older now

end SwimServer

/-! ## Times -/

def SwimReport.Within (time : UInt64) (report : SwimReport) : Prop :=
  ∀ record ∈ report.alive ++ report.suspected, record.lamportTime ≤ time

theorem SwimReport.Within.mono {earlier later : UInt64} (order : earlier ≤ later)
    {report : SwimReport} (within : report.Within earlier) : report.Within later :=
  fun record member => UInt64.le_trans (within record member) order

structure Station.Timely (station : Station) : Prop where
  stamped : station.server.Stamped
  copies : ∀ report ∈ station.copies, report.Within station.server.lamportTime
  reports : ∀ report ∈ station.reports, report.Within station.server.lamportTime
  readings : ∀ reading ∈ station.readings, reading.time ≤ station.server.lamportTime ∧
    ∀ report ∈ reading.reports, report.Within reading.time
  exchanges : ∀ exchange ∈ station.exchanges, ∀ report ∈ exchange.errand.report?,
    report.Within exchange.client.lamportTime

structure Posting.Timely (posting : Posting) : Prop where
  handleable : posting.envelope.Handleable
  newer : ∀ report ∈ posting.envelope.report, ∀ record ∈ report.alive ++ report.suspected,
    record.lamportTime < posting.envelope.lamportTime

/-- Neither the clock of the server nor the copy that a client increments wraps around. -/
def Station.ClockFits {Node : Type} (network : List Sent) (station : Station) :
    ExchangeEvent Node → Prop
  | .post _ index => ∀ exchange ∈ station.exchanges[index]?,
      exchange.client.lamportTime.toNat + 1 < 2 ^ 64
  | .deliver _ index _ => ∀ sent ∈ network[index]?,
      station.server.ClockFits sent.posting.envelope.lamportTime
  | _ => True

instance Station.decidableClockFits {Node : Type} (network : List Sent) (station : Station) :
    ∀ event : ExchangeEvent Node, Decidable (station.ClockFits network event)
  | .post .. => inferInstanceAs (Decidable (∀ exchange ∈ _, _))
  | .deliver .. => inferInstanceAs (Decidable (∀ sent ∈ _, _))
  | .copyAlive .. | .copySuspected .. | .read _ | .build .. | .conclude .. | .evict .. =>
      isTrue trivial

section Steps

variable {Node Cost : Type} (costs : CostArithmetic Cost)

theorem addRecordsToBudget_within {set : ServerRecordsSet} {time : UInt64}
    (stamped : ∀ key record, set.find? key = some record → record.lamportTime ≤ time)
    (sort : LamportSort) (now : UInt64) :
    ∀ record ∈ addRecordsToBudget costs sort now set.toList, record.lamportTime ≤ time := by
  intro record member
  have stored := mem_of_mem_addRecordsToBudget costs sort member
  exact stamped record.key record (OrderedSet.find?_of_mem stored)

theorem startReport_within {server : SwimServer} (stamped : server.Stamped)
    (sort : LamportSort) (now : UInt64) :
    (server.startReport costs sort now).Within server.lamportTime := by
  intro record member
  rw [startReport, List.append_nil] at member
  exact addRecordsToBudget_within costs (fun key => (stamped key).alive) sort now record
    member

theorem finishReport_within {server : SwimServer} (stamped : server.Stamped)
    {report : SwimReport} (within : report.Within server.lamportTime) (sort : LamportSort)
    (now : UInt64) :
    (server.finishReport costs sort report now).Within server.lamportTime := by
  intro record member
  rcases List.mem_append.mp member with member | member
  · exact within record (List.mem_append_left _ member)
  · exact addRecordsToBudget_within costs (fun key => (stamped key).suspected) sort now
      record member

theorem Exchange.posting_timely {exchange : Exchange}
    (within : ∀ report ∈ exchange.errand.report?,
      report.Within exchange.client.lamportTime)
    (fits : exchange.client.lamportTime.toNat + 1 < 2 ^ 64) :
    (exchange.errand.posting exchange.client).Timely := by
  refine ⟨exchange.errand.posting_handleable exchange.client, ?_⟩
  rw [Errand.posting_report, Errand.posting_lamportTime]
  intro report sent record member
  have atMost := UInt64.le_iff_toNat_le.mp (within report sent record member)
  rw [UInt64.lt_iff_toNat_lt, UInt64.toNat_add, UInt64.toNat_one, Nat.mod_eq_of_lt fits]
  omega

theorem Errand.Ready.within {errand : Errand} {reading : Reading}
    (ready : errand.Ready reading.reports)
    (prepared : ∀ report ∈ reading.reports, report.Within reading.time) :
    ∀ report ∈ errand.report?, report.Within reading.time := by
  cases errand with
  | sendReport other report => simpa [report?] using prepared report ready
  | forwardPing sender destination seconds =>
      simp [report?, SwimReport.Within, makeRecord]
  | addNeighbor | requestPing | pingRandomSuspected | pingBack => simp [report?]

theorem Station.Timely.withServer {station : Station} (timely : station.Timely)
    {server : SwimServer} (stamped : server.Stamped)
    (order : station.server.lamportTime ≤ server.lamportTime) :
    { station with server := server }.Timely where
  stamped := stamped
  copies report member := (timely.copies report member).mono order
  reports report member := (timely.reports report member).mono order
  readings reading member :=
    ⟨UInt64.le_trans (timely.readings reading member).1 order,
      (timely.readings reading member).2⟩
  exchanges := timely.exchanges

theorem Station.Timely.moves {network : List Sent} {station after : Station}
    {event : ExchangeEvent Node} {sent : List Sent} {failures : List Failure}
    (moves : station.Moves costs network event after sent failures)
    (timely : station.Timely) (fits : station.ClockFits network event)
    (posted : ∀ message ∈ network, message.posting.Timely) :
    after.Timely ∧ ∀ message ∈ sent, message.posting.Timely := by
  cases moves with
  | idle => exact ⟨timely, by simp⟩
  | copyAlive node sort now =>
      refine ⟨{ timely with copies := ?_ }, by simp⟩
      rw [List.forall_mem_append, List.forall_mem_singleton]
      exact ⟨timely.copies, startReport_within costs timely.stamped sort now⟩
  | copySuspected node copy sort now report found =>
      refine ⟨{ timely with reports := ?_ }, by simp⟩
      have copied := timely.copies _ (List.mem_of_getElem? found)
      rw [List.forall_mem_append, List.forall_mem_singleton]
      exact ⟨timely.reports, finishReport_within costs timely.stamped copied sort now⟩
  | read node =>
      refine ⟨{ timely with readings := ?_ }, by simp⟩
      rw [List.forall_mem_append, List.forall_mem_singleton]
      exact ⟨timely.readings, UInt64.le_refl _, timely.reports⟩
  | build node index errand reading found ready =>
      refine ⟨{ timely with exchanges := ?_ }, by simp⟩
      have prepared := (timely.readings _ (List.mem_of_getElem? found)).2
      rw [List.forall_mem_append, List.forall_mem_singleton]
      exact ⟨timely.exchanges, ready.within prepared⟩
  | post node index exchange found unsent =>
      have within := timely.exchanges _ (List.mem_of_getElem? found)
      refine ⟨{ timely with exchanges := ?_ }, ?_⟩
      · exact station.forall_advance (fun _ _ within => within) timely.exchanges _ _
      · simpa using Exchange.posting_timely within (fits _ found)
  | conclude node index answered now exchange found waiting =>
      have reaches := station.server.reaches_run
        (exchange.errand.conclusion_noClock answered now)
      have stamped := Entry.stamped_invariant.reaches reaches timely.stamped
      have changed := timely.withServer stamped (UInt64.le_of_eq reaches.hasFrame.2.symm)
      refine ⟨{ changed with exchanges := ?_ }, by simp⟩
      exact station.forall_advance (fun _ _ within => within) timely.exchanges _ _
  | evict node subject seconds =>
      have reaches := Reaches.perform station.server
        (.removeSuspected subject .evicted seconds)
      have stamped := Entry.stamped_invariant.reaches reaches timely.stamped
      exact ⟨timely.withServer stamped (UInt64.le_of_eq reaches.hasFrame.2.symm), by simp⟩
  | deliver node index now message found =>
      have handleable := (posted _ (List.mem_of_getElem? found)).handleable
      have clockFits := fits _ found
      have reaches := station.server.process_reaches handleable now
      have stamped := Entry.stamped_invariant.reaches reaches
        (timely.stamped.updateLamportTime clockFits)
      have order := clockFits.lt.1
      rw [← station.server.process_lamportTime handleable now] at order
      have changed := timely.withServer stamped (UInt64.le_of_lt order)
      exact ⟨{ changed with stamped := stamped }, by simp⟩

/-! ## Clusters -/

namespace Deployment

structure Timely (deployment : Deployment Node) : Prop where
  stations : ∀ node, (deployment.stations node).Timely
  network : ∀ message ∈ deployment.network, message.posting.Timely

def ClockFits (deployment : Deployment Node) (event : ExchangeEvent Node) : Prop :=
  (deployment.stations event.node).ClockFits deployment.network event

instance (deployment : Deployment Node) (event : ExchangeEvent Node) :
    Decidable (deployment.ClockFits event) :=
  inferInstanceAs (Decidable (Station.ClockFits _ _ event))

theorem create_timely (settings : Node → Host × String × UInt16 × Bool) :
    (Deployment.create settings).Timely where
  stations node :=
    { stamped := create_stamped _ _ _ _
      copies := by simp [create]
      reports := by simp [create]
      readings := by simp [create]
      exchanges := by simp [create] }
  network := by simp [create]

theorem Timely.act [DecidableEq Node] {deployment : Deployment Node}
    {event : ExchangeEvent Node} (timely : deployment.Timely)
    (fits : deployment.ClockFits event) : (deployment.act costs event).Timely := by
  rcases deployment.act_eq costs event with ⟨after, sent, failures, moves, equal⟩
  have step := (timely.stations event.node).moves costs moves fits timely.network
  rw [equal]
  refine ⟨?_, List.forall_mem_append.mpr ⟨timely.network, step.2⟩⟩
  exact (Function.forall_update_iff _ fun _ (station : Station) => station.Timely).mpr
    ⟨step.1, fun node _ => timely.stations node⟩

end Deployment

end Steps

theorem SwimServer.process_hasHeard {server : SwimServer} {posting : Posting}
    (timely : posting.Timely) (fits : server.ClockFits posting.envelope.lamportTime)
    {sender : Server} (from_ : posting.envelope.sender = some sender)
    (port : sender.port ≠ 0) (now : UInt64) :
    (server.process posting.envelope now).HasHeard sender.key := by
  rcases server.process_eq timely.handleable now with ⟨operation, handler, equal⟩
  rw [equal]
  cases handler with
  | onUpdate client =>
      cases client.symm.trans from_
      exact onUpdate_hasHeard _ port now
  | onForwardRequest client =>
      cases client.symm.trans from_
      exact addAlive_hasHeard _ port now
  | onReport client reported =>
      cases client.symm.trans from_
      apply onReport_hasHeard _ port
      intro record member
      have older := timely.newer _ reported record (List.mem_append_right _ member)
      exact UInt64.lt_trans older fits.lt.2

/-- In every run of a cluster in which no clock wraps around, the sender of a message is
alive for the receiver, and not suspected, right after the message was processed. -/
theorem hearing_makes_alive {Node Cost : Type} [DecidableEq Node]
    (costs : CostArithmetic Cost) (settings : Node → Host × String × UInt16 × Bool)
    (events : List (ExchangeEvent Node))
    (clockFits : (exchangeMachine costs).Along Deployment.ClockFits (.create settings)
      events) :
    ∀ step ∈ (exchangeMachine costs).trace (.create settings) events,
      ∀ node index now, step.input = .deliver node index now →
        ∀ sent, step.before.network[index]? = some sent →
          ∀ sender, sent.posting.envelope.sender = some sender → sender.port ≠ 0 →
            (step.after.stations node).server.HasHeard sender.key := by
  have guarded := clockFits.and_invariant Deployment.Timely
    (fun _ _ timely fits => timely.act costs fits) (Deployment.create_timely settings)
  intro step member node index now delivers sent found sender from_ port
  rcases guarded.of_mem_trace member with ⟨result, timely, fits⟩
  rw [delivers] at result fits
  have here : (step.after.stations node).server =
      (step.before.stations node).server.process sent.posting.envelope now := by
    rw [result]
    simp [Deployment.act, ExchangeEvent.node, Station.act_server, Station.operations, found,
      process]
  rw [here]
  exact process_hasHeard (timely.network sent (List.mem_of_getElem? found)) (fits sent found)
    from_ port now

/-! ## A server that reports itself -/

inductive Site
  | a
  | b
deriving DecidableEq

/-- The server on the second machine goes by another name. -/
def twoNodes : Site → Host × String × UInt16 × Bool
  | .a => (⟨"a", fun _ => "10.0.0.1"⟩, "", 9000, false)
  | .b => (⟨"b", fun _ => "10.0.0.1"⟩, "alias", 9000, false)

def aliasServer : Server := { hostname := "alias", port := 9000 }

def selfReport : SwimReport where
  sender := { hostname := "b", port := 9000, ipAddr := some "10.0.0.1" }
  suspected :=
    [{ server := { aliasServer with ipAddr := some "" }, timestamp := 1000 }]

def reportsItself : List (ExchangeEvent Site) :=
  [.read .b, .build .b 0 (.addNeighbor aliasServer), .post .b 0, .conclude .b 0 false 1000,
    .copyAlive .b stableSort 1000, .copySuspected .b 0 stableSort 1000, .read .b,
    .build .b 1 (.sendReport { hostname := "a", port := 9000 } selfReport), .post .b 1,
    .deliver .a 1 1000]

theorem hearing_makes_alive_against_own_report :
    let deployment :=
      (exchangeMachine exactCosts).run (.create twoNodes) (reportsItself.take 9)
    let last : Machine.Step (Deployment Site) (ExchangeEvent Site) :=
      ⟨deployment, .deliver .a 1 1000, deployment.act exactCosts (.deliver .a 1 1000)⟩
    (∃ sent, deployment.network[1]? = some sent ∧
        sent.posting.envelope.report = some selfReport) ∧
      (last.after.stations .a).server.HasHeard aliasServer.key := by
  intro deployment last
  have found : (deployment.network[1]?).map (fun sent => sent.posting.envelope.report) =
      some (some selfReport) := by decide +kernel
  rcases Option.map_eq_some_iff.mp found with ⟨sent, posted, reported⟩
  refine ⟨⟨sent, posted, reported⟩, ?_⟩
  let self : Server := { aliasServer with ipAddr := some "10.0.0.1" }
  have sender : (deployment.network[1]?).map (fun sent =>
      sent.posting.envelope.sender) = some (some self) := by decide +kernel
  rw [posted, Option.map_some, Option.some.injEq] at sender
  have heard : (last.after.stations .a).server.HasHeard self.key :=
    hearing_makes_alive exactCosts twoNodes reportsItself (by decide +kernel) last
      (List.mem_of_getElem? (i := 9) rfl) .a 1 1000 rfl sent posted self sender (by decide)
  exact heard

end Gossip
