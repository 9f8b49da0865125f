import Gossip.Contracts.Hearing

/-! # The eviction timer

When a suspect is evicted depends on the timestamp of its record. Wherever that record has
been reported, the timestamp is the time of a contact that failed, and it does not move
while the server is suspected. -/

namespace Gossip

open Foundation SwimServer

/-! ## Where suspicions come from -/

def ServerRecord.Explained (failures : List Failure) (record : ServerRecord) : Prop :=
  ⟨record.key, record.timestamp⟩ ∈ failures

theorem ServerRecord.Explained.mono {failures : List Failure} {record : ServerRecord}
    (explained : record.Explained failures) (more : List Failure) :
    record.Explained (failures ++ more) :=
  List.mem_append_left more explained

def SwimReport.Explained (failures : List Failure) (dest : Key) (report : SwimReport) :
    Prop :=
  ∀ record ∈ report.suspected, record.Explained failures ∨ record.key = dest

theorem SwimReport.Explained.mono {failures : List Failure} {dest : Key}
    {report : SwimReport} (explained : report.Explained failures dest)
    (more : List Failure) : report.Explained (failures ++ more) dest :=
  fun record member =>
    (explained record member).imp_left fun explained => explained.mono more

namespace SwimServer

def Explained (failures : List Failure) (server : SwimServer) : Prop :=
  ∀ key record, server.suspected.find? key = some record → record.Explained failures

def Justified (failures : List Failure) (server : SwimServer) : Primitive → Prop
  | .reportSuspected subject timestamp =>
      ⟨subject.key, timestamp⟩ ∈ failures ∨ subject.key = server.self.key
  | _ => True

theorem Explained.perform {failures : List Failure} {server : SwimServer}
    (explained : server.Explained failures) (primitive : Primitive)
    (justified : server.Justified failures primitive) :
    (server.perform primitive).Explained failures := by
  intro key record found
  rw [← entry_suspected, entry_perform] at found
  split at found
  next about =>
    cases primitive with
    | addAlive subject timestamp =>
        rw [Entry.perform, Entry.offerAlive] at found
        split at found
        · exact explained key record found
        · simp at found
    | reportSuspected subject timestamp =>
        rw [Entry.perform, Entry.offerSuspected] at found
        split at found
        · exact explained key record found
        · split at found
          · simp at found
          next other =>
            have failed := justified.resolve_right other
            rw [Entry.reportSuspected_suspected, Option.some.injEq] at found
            cases known : (server.entry key).suspected with
            | none =>
                rw [known] at found
                exact found ▸ failed
            | some stored =>
                rw [known, Option.getD_some] at found
                exact explained key record (known.trans (congrArg some found))
    | removeSuspected subject removeType seconds => simp [Entry.perform] at found
    | raiseAlive raised => exact explained key record found
    | raiseSuspected raised =>
        rcases Option.map_eq_some_iff.mp found with ⟨stored, known, rfl⟩
        have before := explained key stored known
        unfold Entry.raised
        split
        · exact before
        · exact before
    | post posting => exact explained key record found
  next => exact explained key record found

theorem Explained.calls {failures : List Failure} {server : SwimServer}
    (explained : server.Explained failures) {steps : List Primitive}
    (justified : ∀ step ∈ steps, server.Justified failures step) :
    (primitiveMachine.run server steps).Explained failures := by
  induction steps generalizing server with
  | nil => exact explained
  | cons step steps induction =>
      rw [List.forall_mem_cons] at justified
      apply induction (explained.perform step justified.1)
      intro other member
      have before := justified.2 other member
      cases other with
      | reportSuspected subject timestamp => simpa [Justified, Settings.self] using before
      | _ => trivial

theorem Explained.operate {failures : List Failure} {server : SwimServer}
    (explained : server.Explained failures) {operation : ServerOperation}
    (justified : ∀ step ∈ server.calls operation, server.Justified failures step) :
    (server.operate operation).Explained failures := by
  by_cases clock : ∃ time, operation = .updateLamportTime time
  · rcases clock with ⟨time, rfl⟩
    exact explained
  · rw [← run_calls server operation fun time equal => clock ⟨time, equal⟩]
    exact explained.calls justified

theorem Explained.process {failures : List Failure} {server : SwimServer}
    (explained : server.Explained failures) {message : SwimEnvelope}
    (handleable : message.Handleable)
    (reported : ∀ report ∈ message.report, report.Explained failures server.self.key)
    (now : UInt64) : (server.process message now).Explained failures := by
  have ticked : (server.updateLamportTime message.lamportTime).Explained failures :=
    explained
  rcases server.process_eq handleable now with ⟨operation, handler, equal⟩
  rw [equal]
  apply ticked.operate
  cases handler with
  | onUpdate | onForwardRequest => simp [SwimServer.calls, Justified]
  | onReport client received =>
      intro step member
      cases mem_onReportCalls _ _ _ now step member with
      | reportSuspected listed => exact reported _ received _ listed
      | _ => trivial

end SwimServer

/-! ## Clusters -/

structure Station.Explained (failures : List Failure) (station : Station) : Prop where
  stored : station.server.Explained failures
  reports : ∀ report ∈ station.reports, ∀ record ∈ report.suspected,
    record.Explained failures
  readings : ∀ reading ∈ station.readings, ∀ report ∈ reading.reports,
    ∀ record ∈ report.suspected, record.Explained failures
  exchanges : ∀ exchange ∈ station.exchanges, ∀ report ∈ exchange.errand.report?,
    report.Explained failures exchange.client.dest.key

theorem Station.Explained.mono {failures : List Failure} {station : Station}
    (explained : station.Explained failures) (more : List Failure) :
    station.Explained (failures ++ more) where
  stored key record found := (explained.stored key record found).mono more
  reports report member record listed :=
    (explained.reports report member record listed).mono more
  readings reading read report member record listed :=
    (explained.readings reading read report member record listed).mono more
  exchanges exchange member report sent :=
    (explained.exchanges exchange member report sent).mono more

def Posting.Explained (failures : List Failure) (posting : Posting) : Prop :=
  ∀ report ∈ posting.envelope.report, report.Explained failures posting.dest.key

theorem Errand.Ready.explained {errand : Errand} {reports : List SwimReport}
    {failures : List Failure} (ready : errand.Ready reports)
    (prepared : ∀ report ∈ reports, ∀ record ∈ report.suspected,
      record.Explained failures) :
    ∀ report ∈ errand.report?, report.Explained failures errand.dest.key := by
  cases errand with
  | sendReport other report =>
      rintro _ ⟨⟩ record listed
      exact .inl (prepared report ready record listed)
  | forwardPing sender destination seconds =>
      rintro _ ⟨⟩ record listed
      rw [List.mem_singleton.mp listed]
      exact .inr rfl
  | addNeighbor | requestPing | pingRandomSuspected | pingBack => simp [report?]

theorem SwimServer.Explained.conclude {failures : List Failure} {server : SwimServer}
    (explained : server.Explained failures) (errand : Errand) (answered : Bool)
    (now : UInt64) :
    (serverMachine.run server (errand.conclusion answered now)).Explained
      (failures ++ (errand.failure? answered now).toList) := by
  have before : server.Explained (failures ++ (errand.failure? answered now).toList) :=
    fun key record found => (explained key record found).mono _
  rcases errand.conclusion_cases answered now with equal | equal | ⟨equal, failed⟩
  · rw [equal]
    exact before
  · rw [equal]
    exact before.perform (.addAlive errand.dest now) trivial
  · rw [equal]
    exact before.perform (.reportSuspected errand.dest now) (.inl (by simp [failed]))

section Steps

variable {Node Cost : Type} (costs : CostArithmetic Cost)

/-- A message reaches only the server whose identity it is addressed to. -/
def Station.Addressed (network : List Sent) (station : Station) :
    ExchangeEvent Node → Prop
  | .deliver _ index _ => ∀ sent ∈ network[index]?,
      sent.posting.dest.key = station.server.self.key
  | _ => True

instance (network : List Sent) (station : Station) :
    ∀ event : ExchangeEvent Node, Decidable (station.Addressed network event)
  | .deliver .. => inferInstanceAs (Decidable (∀ sent ∈ _, _))
  | .copyAlive .. | .copySuspected .. | .read _ | .build .. | .post .. | .conclude ..
  | .evict .. => isTrue trivial

theorem finishReport_explained {failures : List Failure} {server : SwimServer}
    (explained : server.Explained failures) (sort : LamportSort) (report : SwimReport)
    (now : UInt64) :
    ∀ record ∈ (server.finishReport costs sort report now).suspected,
      record.Explained failures := by
  intro record member
  have stored := mem_of_mem_addRecordsToBudget costs sort member
  exact explained record.key record (OrderedSet.find?_of_mem stored)

theorem Station.Explained.moves {network : List Sent} {station after : Station}
    {event : ExchangeEvent Node} {sent : List Sent} {failures new : List Failure}
    (moves : station.Moves costs network event after sent new)
    (explained : station.Explained failures) (addressed : station.Addressed network event)
    (handleable : ∀ message ∈ network, message.posting.envelope.Handleable)
    (posted : ∀ message ∈ network, message.posting.Explained failures) :
    after.Explained (failures ++ new) ∧
      ∀ message ∈ sent, message.posting.Explained (failures ++ new) := by
  have before := explained.mono new
  cases moves with
  | idle | copyAlive =>
      exact ⟨⟨before.stored, before.reports, before.readings, before.exchanges⟩, by simp⟩
  | copySuspected node copy sort now report found =>
      refine ⟨{ before with reports := ?_ }, by simp⟩
      rw [List.forall_mem_append, List.forall_mem_singleton]
      exact ⟨before.reports, finishReport_explained costs before.stored sort report now⟩
  | read node =>
      refine ⟨{ before with readings := ?_ }, by simp⟩
      rw [List.forall_mem_append, List.forall_mem_singleton]
      exact ⟨before.readings, before.reports⟩
  | build node index errand reading found ready =>
      refine ⟨{ before with exchanges := ?_ }, by simp⟩
      have prepared := before.readings reading (List.mem_of_getElem? found)
      rw [List.forall_mem_append, List.forall_mem_singleton]
      exact ⟨before.exchanges, ready.explained prepared⟩
  | post node index exchange found unsent =>
      have here := before.exchanges exchange (List.mem_of_getElem? found)
      refine ⟨{ before with exchanges := ?_ }, ?_⟩
      · exact station.forall_advance (fun _ _ explained => explained) before.exchanges _ _
      · rw [List.forall_mem_singleton, Posting.Explained, Errand.posting_report,
          Errand.posting_dest]
        exact here
  | conclude node index answered now exchange found waiting =>
      have stored := explained.stored.conclude exchange.errand answered now
      refine ⟨{ before with stored := stored, exchanges := ?_ }, by simp⟩
      exact station.forall_advance (fun _ _ explained => explained) before.exchanges _ _
  | evict node subject seconds =>
      have stored := before.stored.perform (.removeSuspected subject .evicted seconds)
        trivial
      exact ⟨{ before with stored := stored }, by simp⟩
  | deliver node index now message found =>
      have member := List.mem_of_getElem? found
      have reported := posted message member
      rw [Posting.Explained, addressed message found] at reported
      have stored := explained.stored.process (handleable message member) reported now
      rw [List.append_nil]
      exact ⟨{ explained with stored := stored }, by simp⟩

namespace Deployment

structure Explained (deployment : Deployment Node) : Prop where
  stations : ∀ node, (deployment.stations node).Explained deployment.failures
  handleable : ∀ sent ∈ deployment.network, sent.posting.envelope.Handleable
  network : ∀ sent ∈ deployment.network, sent.posting.Explained deployment.failures

def Addressed (deployment : Deployment Node) (event : ExchangeEvent Node) : Prop :=
  (deployment.stations event.node).Addressed deployment.network event

instance (deployment : Deployment Node) (event : ExchangeEvent Node) :
    Decidable (deployment.Addressed event) :=
  inferInstanceAs (Decidable (Station.Addressed _ _ event))

theorem create_explained (settings : Node → Host × String × UInt16 × Bool) :
    (Deployment.create settings).Explained where
  stations node :=
    { stored := by simp [SwimServer.Explained, create, SwimServer.create]
      reports := by simp [create]
      readings := by simp [create]
      exchanges := by simp [create] }
  handleable := by simp [create]
  network := by simp [create]

theorem Explained.act [DecidableEq Node] {deployment : Deployment Node}
    {event : ExchangeEvent Node} (explained : deployment.Explained)
    (addressed : deployment.Addressed event) :
    (deployment.act costs event).Explained := by
  rcases deployment.act_eq costs event with ⟨after, sent, failures, moves, equal⟩
  have step := (explained.stations event.node).moves costs moves addressed
    explained.handleable explained.network
  rw [equal]
  refine ⟨?_, List.forall_mem_append.mpr ⟨explained.handleable, moves.handleable⟩,
    List.forall_mem_append.mpr ⟨?_, step.2⟩⟩
  · exact (Function.forall_update_iff _ fun _ (station : Station) =>
      station.Explained (deployment.failures ++ failures)).mpr
      ⟨step.1, fun node _ => (explained.stations node).mono failures⟩
  · intro message member report reported
    exact (explained.network message member report reported).mono failures

end Deployment

/-! ## How long a server stays suspected -/

def SwimServer.timer (server : SwimServer) (key : Key) : Option (UInt64 × UInt64) :=
  (server.suspected.find? key).map fun record => (record.timestamp, record.lamportTime)

def SwimServer.StaysSuspected (key : Key) (server : SwimServer) (event : Event) : Prop :=
  server.suspected.contains key = true ∧ (server.react event).suspected.contains key = true

instance (key : Key) (server : SwimServer) (event : Event) :
    Decidable (server.StaysSuspected key event) :=
  inferInstanceAs (Decidable (_ ∧ _))

theorem Entry.perform_timer (settings : Settings) (lamportTime : UInt64) {entry : Entry}
    {record : ServerRecord} (suspected : entry.suspected = some record)
    (primitive : Primitive) :
    (entry.perform settings lamportTime primitive).suspected = none ∨
      (entry.perform settings lamportTime primitive).suspected.map
        (fun record => (record.timestamp, record.lamportTime)) =
          some (record.timestamp, record.lamportTime) := by
  cases primitive with
  | addAlive subject timestamp =>
      rw [perform, offerAlive]
      split
      · simp [suspected]
      · simp
  | reportSuspected subject timestamp =>
      rw [perform, offerSuspected]
      split
      · simp [suspected]
      · split
        · simp
        · simp [suspected]
  | removeSuspected subject removeType seconds => simp [perform]
  | raiseAlive incoming => simp [perform, suspected]
  | raiseSuspected incoming =>
      simp [perform, suspected]
  | post posting => simp [perform, suspected]

theorem SwimServer.react_timer {server : SwimServer} {key : Key} {event : Event}
    (stays : server.StaysSuspected key event) :
    (server.react event).timer key = server.timer key := by
  cases event with
  | tick time => rfl
  | call primitive =>
      rcases OrderedSet.contains_iff.mp stays.1 with ⟨record, before⟩
      rcases OrderedSet.contains_iff.mp stays.2 with ⟨later, after⟩
      have stored : (server.entry key).suspected = some record := before
      have acted := entry_perform server primitive key
      split at acted
      next =>
        have entryAfter : ((server.entry key).perform server.toSettings server.lamportTime
            primitive).suspected = some later := by
          rw [← acted]
          exact after
        rcases Entry.perform_timer server.toSettings server.lamportTime stored primitive
          with ended | kept
        · rw [entryAfter] at ended
          cases ended
        · rw [entryAfter] at kept
          simpa [timer, before, after] using kept
      next =>
        have same : (server.react (.call primitive)).suspected.find? key =
            server.suspected.find? key := congrArg Entry.suspected acted
        rw [timer, same, timer]

variable [DecidableEq Node]

def Deployment.history (node : Node) : Deployment Node → List (ExchangeEvent Node) →
    List Event
  | _, [] => []
  | deployment, event :: events =>
      let station := deployment.stations node
      (if event.node = node then
        station.server.events (station.operations deployment.network event)
      else []) ++ history node (deployment.act costs event) events

theorem Deployment.history_append (node : Node) (deployment : Deployment Node)
    (first second : List (ExchangeEvent Node)) :
    deployment.history costs node (first ++ second) =
      deployment.history costs node first ++
        ((exchangeMachine costs).run deployment first).history costs node second := by
  induction first generalizing deployment with
  | nil => rfl
  | cons event events induction =>
      rw [List.cons_append, history, induction, history, List.append_assoc]
      rfl

theorem Deployment.run_history (node : Node) (deployment : Deployment Node)
    (events : List (ExchangeEvent Node)) :
    eventMachine.run (deployment.stations node).server
        (deployment.history costs node events) =
      (((exchangeMachine costs).run deployment events).stations node).server := by
  induction events generalizing deployment with
  | nil => rfl
  | cons event events induction =>
      rw [history, Machine.run_append, Machine.run_cons, ← induction]
      congr 1
      by_cases here : event.node = node
      · subst here
        simp [run_events, Deployment.act, Station.act_server]
      · simp [here, Deployment.act, Function.update_of_ne (Ne.symm here)]

/-- In every run of a cluster in which messages reach only the servers they are addressed
to, the timestamp of every suspicion is the time of a contact with the suspected server
that failed, and as long as a server stays suspected, through however many calls, the
timestamp and the Lamport time of its record do not change. -/
theorem gossip_cannot_postpone_eviction
    (settings : Node → Host × String × UInt16 × Bool) (events : List (ExchangeEvent Node))
    (addressed : (exchangeMachine costs).Along Deployment.Addressed (.create settings)
      events) :
    let start := Deployment.create settings
    let deployment := (exchangeMachine costs).run start events
    (∀ node, ∀ record ∈ (deployment.stations node).server.suspected.toList,
      ⟨record.key, record.timestamp⟩ ∈ deployment.failures) ∧
    ∀ node,
      eventMachine.run (start.stations node).server (start.history costs node events) =
        (deployment.stations node).server ∧
      ∀ key first stay last, start.history costs node events = first ++ stay ++ last →
        let entered := eventMachine.run (start.stations node).server first
        eventMachine.Along (StaysSuspected key) entered stay →
          (eventMachine.run entered stay).timer key = entered.timer key := by
  intro start deployment
  constructor
  · intro node record member
    have explained := (exchangeMachine costs).run_invariant Deployment.Explained
      (fun _ _ explained addressed => explained.act costs addressed)
      (Deployment.create_explained settings) addressed
    exact (explained.stations node).stored record.key record (OrderedSet.find?_of_mem member)
  · intro node
    refine ⟨start.run_history costs node events, ?_⟩
    intro key first stay last _ entered stays
    exact eventMachine.run_invariant
      (fun server => server.timer key = entered.timer key)
      (fun server event same stays => (server.react_timer stays).trans same) rfl stays

end Steps

def failedContact : SwimReport where
  sender := { hostname := "a", port := 9000, ipAddr := some "10.0.0.1" }
  suspected :=
    [{ server := { hostname := "c", port := 9000, ipAddr := some "" }, timestamp := 1000 }]

def relayedFailure : List (ExchangeEvent Site) :=
  [.read .a, .build .a 0 (.addNeighbor { hostname := "c", port := 9000 }), .post .a 0,
    .conclude .a 0 false 1000,
    .copyAlive .a stableSort 1500, .copySuspected .a 0 stableSort 1500, .read .a,
    .build .a 1 (.sendReport { hostname := "b", port := 9000 } failedContact), .post .a 1,
    .deliver .b 1 2000]

def relayedTwice : List (ExchangeEvent Site) := relayedFailure ++ [.deliver .b 1 3000]

theorem gossip_cannot_postpone_eviction_at_second_node :
    let start : Deployment Site := .create twoNodes
    let entered := ((exchangeMachine exactCosts).run start relayedFailure).stations .b
    let deployment := (exchangeMachine exactCosts).run start relayedTwice
    ((deployment.stations .b).server.suspected.toList.map ServerRecord.timestamp = [1000] ∧
      ∀ record ∈ (deployment.stations .b).server.suspected.toList,
        ⟨record.key, record.timestamp⟩ ∈ deployment.failures) ∧
    (deployment.stations .b).server.timer (toLex ("c", 9000)) =
      entered.server.timer (toLex ("c", 9000)) := by
  have stays : eventMachine.Along (StaysSuspected (toLex ("c", 9000)))
      (eventMachine.run ((Deployment.create twoNodes).stations .b).server
        ((Deployment.create twoNodes).history exactCosts .b relayedFailure))
      (((exchangeMachine exactCosts).run (.create twoNodes) relayedFailure).history exactCosts .b
        [.deliver .b 1 3000]) := by
    decide +kernel
  have times : (((exchangeMachine exactCosts).run (.create twoNodes)
      relayedTwice).stations .b).server.suspected.toList.map ServerRecord.timestamp = [1000] := by
    decide +kernel
  have addressed : (exchangeMachine exactCosts).Along Deployment.Addressed (.create twoNodes)
      relayedTwice := by
    decide +kernel
  have split : (Deployment.create twoNodes).history exactCosts .b relayedTwice =
      (Deployment.create twoNodes).history exactCosts .b relayedFailure ++
        ((exchangeMachine exactCosts).run (.create twoNodes) relayedFailure).history exactCosts .b
          [.deliver .b 1 3000] ++ [] := by
    rw [relayedTwice, Deployment.history_append, List.append_nil]
  have entered := Deployment.run_history exactCosts .b (.create twoNodes) relayedFailure
  rcases gossip_cannot_postpone_eviction exactCosts twoNodes relayedTwice addressed with
    ⟨explained, unmoved⟩
  rcases unmoved .b with ⟨reached, unmoved⟩
  have kept := unmoved _ _ _ _ split stays
  rw [← Machine.run_append, ← List.append_nil (_ ++ _), ← split, reached, entered] at kept
  exact ⟨⟨times, explained .b⟩, kept⟩

end Gossip
