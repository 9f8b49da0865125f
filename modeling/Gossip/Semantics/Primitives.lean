import Gossip.Semantics.Entry
import Gossip.Semantics.Operations

/-! # The calls an operation is made of

Every handler of the server and every procedure of the detector changes the two
sets by a sequence of calls to `AddAlive`, `ReportSuspected` and
`RemoveSuspected`, the incarnation updates of `OnReport`, and posted messages.
An invariant that these calls keep is kept by every operation; the clock is the
only part of the state that they leave alone. -/

namespace Gossip

open Foundation SwimServer

/-- One call. The erase at the end of `OnUpdate` is a `RemoveSuspected` that
fires no callback. -/
inductive Primitive
  | addAlive (subject : Server) (timestamp : UInt64)
  | reportSuspected (subject : Server) (timestamp : UInt64)
  | removeSuspected (subject : Server) (removeType : RemoveType) (seconds : UInt64)
  | raiseAlive (record : ServerRecord)
  | raiseSuspected (record : ServerRecord)
  | post (posting : Posting)

def Primitive.subject? : Primitive → Option Key
  | .addAlive subject _ => some subject.key
  | .reportSuspected subject _ => some subject.key
  | .removeSuspected subject _ _ => some subject.key
  | .raiseAlive record => some record.key
  | .raiseSuspected record => some record.key
  | .post _ => none

def Primitive.posting? : Primitive → Option Posting
  | .post posting => some posting
  | _ => none

def SwimServer.perform (server : SwimServer) : Primitive → SwimServer
  | .addAlive subject timestamp => (server.addAlive subject timestamp).1
  | .reportSuspected subject timestamp => (server.reportSuspected subject timestamp).1
  | .removeSuspected subject removeType seconds =>
      server.removeSuspected subject removeType seconds
  | .raiseAlive record =>
      { server with alive := raiseIncarnation server.alive record }
  | .raiseSuspected record =>
      { server with suspected := raiseIncarnation server.suspected record }
  | .post posting => server.post posting

def primitiveMachine : Machine SwimServer Primitive := ⟨SwimServer.perform⟩

@[simp] theorem primitiveMachine_step (server : SwimServer) (primitive : Primitive) :
    primitiveMachine.step server primitive = server.perform primitive := rfl

def Entry.perform (settings : Settings) (lamportTime : UInt64) (entry : Entry) :
    Primitive → Entry
  | .addAlive subject timestamp =>
      entry.offerAlive settings lamportTime subject timestamp
  | .reportSuspected subject timestamp =>
      entry.offerSuspected settings lamportTime subject timestamp
  | .removeSuspected subject removeType seconds =>
      entry.removeSuspected settings subject removeType seconds
  | .raiseAlive record => { entry with alive := entry.alive.map (raised record) }
  | .raiseSuspected record =>
      { entry with suspected := entry.suspected.map (raised record) }
  | .post _ => entry

namespace SwimServer

@[simp] theorem perform_toSettings (server : SwimServer) (primitive : Primitive) :
    (server.perform primitive).toSettings = server.toSettings := by
  cases primitive <;> simp [perform, post]

@[simp] theorem perform_lamportTime (server : SwimServer) (primitive : Primitive) :
    (server.perform primitive).lamportTime = server.lamportTime := by
  cases primitive <;> simp [perform, post]

theorem perform_postings (server : SwimServer) (primitive : Primitive) :
    (server.perform primitive).postings =
      server.postings ++ primitive.posting?.toList := by
  cases primitive <;> simp [perform, post, Primitive.posting?]

theorem run_postings (server : SwimServer) (steps : List Primitive) :
    (primitiveMachine.run server steps).postings =
      server.postings ++ steps.filterMap Primitive.posting? := by
  induction steps generalizing server with
  | nil => simp
  | cons step steps induction =>
      rw [Machine.run_cons, induction, primitiveMachine_step, perform_postings]
      cases posted : step.posting? <;> simp [posted]

theorem entry_perform (server : SwimServer) (primitive : Primitive) (key : Key) :
    (server.perform primitive).entry key =
      if primitive.subject? = some key then
        (server.entry key).perform server.toSettings server.lamportTime primitive
      else server.entry key := by
  cases primitive with
  | addAlive subject timestamp =>
      simpa [perform, Primitive.subject?, Entry.perform] using
        entry_addAlive server subject timestamp key
  | reportSuspected subject timestamp =>
      simpa [perform, Primitive.subject?, Entry.perform] using
        entry_reportSuspected server subject timestamp key
  | removeSuspected subject removeType seconds =>
      simpa [perform, Primitive.subject?, Entry.perform] using
        entry_removeSuspected server subject removeType seconds key
  | raiseAlive record =>
      simp only [perform, entry_setAlive, find?_raiseIncarnation, Primitive.subject?,
        Option.some.injEq, Entry.perform]
      split <;> rfl
  | raiseSuspected record =>
      simp only [perform, entry_setSuspected, find?_raiseIncarnation,
        Primitive.subject?, Option.some.injEq, Entry.perform]
      split <;> rfl
  | post posting => simp [perform, Primitive.subject?]

/-! ## Operations as sequences of calls -/

/-- The calls made in one turn of the first loop of `OnReport`. -/
def aliveRecordCalls (server : SwimServer) (record : ServerRecord) : List Primitive :=
  if record.server.same server.self then []
  else if (server.suspected.find? record.key).any
      fun found => record.lamportTime < found.lamportTime then []
  else [.addAlive record.server record.timestamp, .raiseAlive record]

/-- The calls made in one turn of the second loop of `OnReport`. -/
def suspectedRecordCalls (reportSender : Server) (server : SwimServer)
    (record : ServerRecord) : List Primitive :=
  if record.server.same server.self then
    [.post (server.client reportSender).ping.2]
  else if (server.alive.find? record.key).any
      fun found => record.lamportTime < found.lamportTime then []
  else [.reportSuspected record.server record.timestamp, .raiseSuspected record]

/-- The calls made by a loop whose turns make the calls `turn`. -/
def loopCalls (turn : SwimServer → ServerRecord → List Primitive) :
    SwimServer → List ServerRecord → List Primitive
  | _, [] => []
  | server, record :: records =>
      turn server record ++
        loopCalls turn (primitiveMachine.run server (turn server record)) records

def onReportCalls (server : SwimServer) (sender : Server) (report : SwimReport)
    (now : UInt64) : List Primitive :=
  let afterSender := (server.addAlive sender now).1
  let afterAlive := report.alive.foldl onAliveRecord afterSender
  .addAlive sender now :: (loopCalls aliveRecordCalls afterSender report.alive ++
    loopCalls (suspectedRecordCalls report.sender) afterAlive report.suspected)

def forwardPingCalls (server : SwimServer) (sender destination : Server)
    (seconds : UInt64) (answered : Bool) (now : UInt64) : List Primitive :=
  let report : SwimReport :=
    { sender := sender, suspected := [makeRecord destination seconds] }
  .post ((server.client destination).send report).2 ::
    if answered then [] else [.reportSuspected destination now]

def calls (server : SwimServer) : ServerOperation → List Primitive
  | .updateLamportTime _ => []
  | .addAlive subject timestamp => [.addAlive subject timestamp]
  | .reportSuspected subject timestamp => [.reportSuspected subject timestamp]
  | .removeSuspected subject removeType seconds =>
      [.removeSuspected subject removeType seconds]
  | .onUpdate client now => [.addAlive client now, .removeSuspected client .alive now]
  | .onReport sender report now => server.onReportCalls sender report now
  | .onForwardRequest sender now => [.addAlive sender now]
  | .forwardPing sender destination seconds answered now =>
      server.forwardPingCalls sender destination seconds answered now

theorem run_aliveRecordCalls (server : SwimServer) (record : ServerRecord) :
    primitiveMachine.run server (server.aliveRecordCalls record) =
      server.onAliveRecord record := by
  simp only [aliveRecordCalls, onAliveRecord]
  split
  · rfl
  · split <;> rfl

theorem run_suspectedRecordCalls (reportSender : Server) (server : SwimServer)
    (record : ServerRecord) :
    primitiveMachine.run server (suspectedRecordCalls reportSender server record) =
      onSuspectedRecord reportSender server record := by
  simp only [suspectedRecordCalls, onSuspectedRecord]
  split
  · rfl
  · split <;> rfl

theorem run_loopCalls {turn : SwimServer → ServerRecord → List Primitive}
    {step : SwimServer → ServerRecord → SwimServer}
    (turnStep : ∀ server record,
      primitiveMachine.run server (turn server record) = step server record)
    (server : SwimServer) (records : List ServerRecord) :
    primitiveMachine.run server (loopCalls turn server records) =
      records.foldl step server := by
  induction records generalizing server with
  | nil => rfl
  | cons record records induction =>
      rw [loopCalls, Machine.run_append, induction, turnStep]
      rfl

theorem mem_loopCalls {turn : SwimServer → ServerRecord → List Primitive}
    {holds : Primitive → Prop} {records : List ServerRecord}
    (turnHolds : ∀ server, ∀ record ∈ records, ∀ step ∈ turn server record, holds step)
    (server : SwimServer) : ∀ step ∈ loopCalls turn server records, holds step := by
  induction records generalizing server with
  | nil => simp [loopCalls]
  | cons record records induction =>
      intro step member
      rcases List.mem_append.mp member with member | member
      · exact turnHolds server record (by simp) step member
      · exact induction (fun server other member =>
          turnHolds server other (List.mem_cons_of_mem _ member)) _ step member

/-- The calls that `OnReport` can make. -/
inductive ReportCall (sender : Server) (report : SwimReport) (now : UInt64) :
    Primitive → Prop
  | sender : ReportCall sender report now (.addAlive sender now)
  | addAlive {record : ServerRecord} (member : record ∈ report.alive) :
      ReportCall sender report now (.addAlive record.server record.timestamp)
  | raiseAlive {record : ServerRecord} (member : record ∈ report.alive) :
      ReportCall sender report now (.raiseAlive record)
  | ping (server : SwimServer) :
      ReportCall sender report now (.post (server.client report.sender).ping.2)
  | reportSuspected {record : ServerRecord} (member : record ∈ report.suspected) :
      ReportCall sender report now (.reportSuspected record.server record.timestamp)
  | raiseSuspected {record : ServerRecord} (member : record ∈ report.suspected) :
      ReportCall sender report now (.raiseSuspected record)

theorem mem_onReportCalls (server : SwimServer) (sender : Server) (report : SwimReport)
    (now : UInt64) :
    ∀ step ∈ server.onReportCalls sender report now,
      ReportCall sender report now step := by
  have aliveTurn (server : SwimServer) : ∀ record ∈ report.alive,
      ∀ step ∈ server.aliveRecordCalls record, ReportCall sender report now step := by
    intro record member
    unfold aliveRecordCalls
    split
    · simp
    · split
      · simp
      · simpa using ⟨ReportCall.addAlive member, ReportCall.raiseAlive member⟩
  have suspectedTurn (server : SwimServer) : ∀ record ∈ report.suspected,
      ∀ step ∈ suspectedRecordCalls report.sender server record,
        ReportCall sender report now step := by
    intro record member
    unfold suspectedRecordCalls
    split
    · simpa using ReportCall.ping server
    · split
      · simp
      · simpa using ⟨ReportCall.reportSuspected member, ReportCall.raiseSuspected member⟩
  simp only [onReportCalls, List.forall_mem_cons, List.forall_mem_append]
  exact ⟨.sender, mem_loopCalls aliveTurn _, mem_loopCalls suspectedTurn _⟩

theorem removeSuspected_alive_eq (server : SwimServer) (removed : Server)
    (seconds : UInt64) :
    server.removeSuspected removed .alive seconds =
      { server with suspected := server.suspected.erase removed.key } := by
  simp [removeSuspected]

theorem run_calls (server : SwimServer) (operation : ServerOperation)
    (noClock : ∀ time, operation ≠ .updateLamportTime time) :
    primitiveMachine.run server (server.calls operation) =
      server.operate operation := by
  cases operation with
  | updateLamportTime time => exact absurd rfl (noClock time)
  | addAlive | reportSuspected | removeSuspected | onForwardRequest => rfl
  | onUpdate client now =>
      simp [calls, operate, onUpdate, perform, removeSuspected_alive_eq]
  | onReport sender report now =>
      simp only [calls, operate, onReportCalls, onReport, Machine.run_cons,
        Machine.run_append, primitiveMachine_step, perform,
        run_loopCalls run_aliveRecordCalls,
        run_loopCalls (run_suspectedRecordCalls report.sender)]
  | forwardPing sender destination seconds answered now =>
      cases answered <;> rfl

def Reaches (before after : SwimServer) : Prop :=
  ∃ steps, primitiveMachine.run before steps = after

theorem Reaches.refl (server : SwimServer) : server.Reaches server := ⟨[], rfl⟩

theorem Reaches.trans {before middle after : SwimServer}
    (first : before.Reaches middle) (second : middle.Reaches after) :
    before.Reaches after := by
  rcases first with ⟨firstSteps, rfl⟩
  rcases second with ⟨secondSteps, rfl⟩
  exact ⟨firstSteps ++ secondSteps, Machine.run_append _ _ _ _⟩

theorem Reaches.perform (server : SwimServer) (primitive : Primitive) :
    server.Reaches (server.perform primitive) := ⟨[primitive], rfl⟩

theorem Reaches.foldl {α : Type} {step : SwimServer → α → SwimServer}
    (stepReaches : ∀ (server : SwimServer) value, server.Reaches (step server value))
    (server : SwimServer) (values : List α) :
    server.Reaches (values.foldl step server) := by
  induction values generalizing server with
  | nil => exact .refl server
  | cons value values induction => exact (stepReaches server value).trans (induction _)

theorem Reaches.hasFrame {before after : SwimServer} (reaches : before.Reaches after) :
    HasFrame before.toSettings before.lamportTime after := by
  rcases reaches with ⟨steps, rfl⟩
  exact Machine.run_keeps primitiveMachine
    (HasFrame before.toSettings before.lamportTime)
    (fun server primitive holds => by simpa [HasFrame] using holds) before steps
    ⟨rfl, rfl⟩

theorem reaches_operate (server : SwimServer) (operation : ServerOperation)
    (noClock : ∀ time, operation ≠ .updateLamportTime time) :
    server.Reaches (server.operate operation) :=
  ⟨_, run_calls server operation noClock⟩

theorem reaches_run (server : SwimServer) {operations : List ServerOperation}
    (noClock : ∀ operation ∈ operations, ∀ time, operation ≠ .updateLamportTime time) :
    server.Reaches (serverMachine.run server operations) := by
  induction operations generalizing server with
  | nil => exact .refl server
  | cons operation operations induction =>
      rw [List.forall_mem_cons] at noClock
      exact (server.reaches_operate operation noClock.1).trans (induction _ noClock.2)

@[simp] theorem operate_toSettings (server : SwimServer) (operation : ServerOperation) :
    (server.operate operation).toSettings = server.toSettings := by
  by_cases clock : ∃ time, operation = .updateLamportTime time
  · rcases clock with ⟨time, rfl⟩
    rfl
  · exact (server.reaches_operate operation
      fun time equal => clock ⟨time, equal⟩).hasFrame.1

@[simp] theorem run_toSettings (server : SwimServer) (operations : List ServerOperation) :
    (serverMachine.run server operations).toSettings = server.toSettings :=
  serverMachine.run_keeps (fun state => state.toSettings = server.toSettings)
    (fun state operation holds => (operate_toSettings state operation).trans holds)
    server operations rfl

def Everywhere (holds : Settings → UInt64 → Key → Entry → Prop)
    (server : SwimServer) : Prop :=
  ∀ key, holds server.toSettings server.lamportTime key (server.entry key)

end SwimServer

def EntryInvariant (holds : Settings → UInt64 → Key → Entry → Prop) : Prop :=
  ∀ settings lamportTime key entry (primitive : Primitive),
    primitive.subject? = some key → holds settings lamportTime key entry →
      holds settings lamportTime key (entry.perform settings lamportTime primitive)

theorem EntryInvariant.perform {holds : Settings → UInt64 → Key → Entry → Prop}
    (kept : EntryInvariant holds) {server : SwimServer} (primitive : Primitive)
    (before : server.Everywhere holds) : (server.perform primitive).Everywhere holds := by
  intro key
  rw [perform_toSettings, perform_lamportTime, entry_perform]
  split
  next about => exact kept _ _ key _ primitive about (before key)
  next => exact before key

theorem EntryInvariant.reaches {holds : Settings → UInt64 → Key → Entry → Prop}
    (kept : EntryInvariant holds) {before after : SwimServer}
    (reaches : before.Reaches after) (holdsBefore : before.Everywhere holds) :
    after.Everywhere holds := by
  rcases reaches with ⟨steps, rfl⟩
  exact Machine.run_keeps primitiveMachine (Everywhere holds)
    (fun server primitive holds => kept.perform primitive holds) before steps
    holdsBefore

section Clockless

variable {holds : Settings → Key → Entry → Prop}
  (kept : EntryInvariant fun settings _ => holds settings)

include kept

theorem EntryInvariant.operate {server : SwimServer} (operation : ServerOperation)
    (before : server.Everywhere fun settings _ => holds settings) :
    (server.operate operation).Everywhere fun settings _ => holds settings := by
  by_cases clock : ∃ time, operation = .updateLamportTime time
  · rcases clock with ⟨time, rfl⟩
    exact before
  · apply kept.reaches _ before
    exact server.reaches_operate operation fun time equal => clock ⟨time, equal⟩

theorem EntryInvariant.run {server : SwimServer} (operations : List ServerOperation)
    (before : server.Everywhere fun settings _ => holds settings) :
    (serverMachine.run server operations).Everywhere fun settings _ => holds settings :=
  serverMachine.run_keeps (Everywhere fun settings _ => holds settings)
    (fun _ operation before => kept.operate operation before) server operations before

end Clockless

/-! ## Runs of the server, call by call -/

inductive Event
  | call (primitive : Primitive)
  | tick (time : UInt64)

def SwimServer.react (server : SwimServer) : Event → SwimServer
  | .call primitive => server.perform primitive
  | .tick time => server.updateLamportTime time

def eventMachine : Machine SwimServer Event := ⟨SwimServer.react⟩

@[simp] theorem eventMachine_step (server : SwimServer) (event : Event) :
    eventMachine.step server event = server.react event := rfl

namespace SwimServer

def operationEvents (server : SwimServer) : ServerOperation → List Event
  | .updateLamportTime time => [.tick time]
  | operation => (server.calls operation).map .call

def events (server : SwimServer) : List ServerOperation → List Event
  | [] => []
  | operation :: operations =>
      server.operationEvents operation ++ events (server.operate operation) operations

theorem run_map_call (server : SwimServer) (steps : List Primitive) :
    eventMachine.run server (steps.map .call) = primitiveMachine.run server steps := by
  induction steps generalizing server with
  | nil => rfl
  | cons step steps induction => exact induction _

theorem run_operationEvents (server : SwimServer) (operation : ServerOperation) :
    eventMachine.run server (server.operationEvents operation) =
      server.operate operation := by
  cases operation with
  | updateLamportTime time => rfl
  | _ =>
      rw [operationEvents, run_map_call, run_calls]
      · simp
      · simp

theorem run_events (server : SwimServer) (operations : List ServerOperation) :
    eventMachine.run server (server.events operations) =
      serverMachine.run server operations := by
  induction operations generalizing server with
  | nil => rfl
  | cons operation operations induction =>
      rw [events, Machine.run_append, run_operationEvents, induction]
      rfl

theorem along_events {guard : SwimServer → Event → Prop} {invariant : SwimServer → Prop}
    {allowed : ServerOperation → Prop}
    (operationGuarded : ∀ server operation, invariant server → allowed operation →
      eventMachine.Along guard server (server.operationEvents operation))
    (operationKeeps : ∀ server operation, invariant server → allowed operation →
      invariant (server.operate operation))
    {server : SwimServer} (holds : invariant server) {operations : List ServerOperation}
    (allAllowed : ∀ operation ∈ operations, allowed operation) :
    eventMachine.Along guard server (server.events operations) := by
  induction operations generalizing server with
  | nil => trivial
  | cons operation operations induction =>
      have first := allAllowed operation (by simp)
      apply (Machine.along_append _ _ _ _ _).mpr
      refine ⟨operationGuarded server operation holds first, ?_⟩
      rw [run_operationEvents]
      exact induction (operationKeeps server operation holds first)
        fun other member => allAllowed other (List.mem_cons_of_mem _ member)

end SwimServer

/-! ## The detector -/

namespace GossipFailureDetector

theorem reaches_post (detector : GossipFailureDetector) (posting : Posting) :
    detector.server.Reaches (detector.post posting).server :=
  Reaches.perform _ (.post posting)

theorem reaches_addAlive (detector : GossipFailureDetector) (subject : Server)
    (timestamp : UInt64) :
    detector.server.Reaches (detector.addAlive subject timestamp).server :=
  Reaches.perform _ (.addAlive subject timestamp)

theorem reaches_reportSuspected (detector : GossipFailureDetector) (subject : Server)
    (timestamp : UInt64) :
    detector.server.Reaches (detector.reportSuspected subject timestamp).server :=
  Reaches.perform _ (.reportSuspected subject timestamp)

theorem reaches_andThen {α β : Type} {server : SwimServer} {result : Result α}
    {next : GossipFailureDetector → α → Result β}
    (first : server.Reaches result.1.server)
    (second : ∀ (detector : GossipFailureDetector) value,
      detector.server.Reaches (next detector value).1.server) :
    server.Reaches (result.andThen next).1.server := by
  rcases result with ⟨detector, outcome⟩
  cases outcome with
  | returned value => exact first.trans (second detector value)
  | thrown | unfinished => exact first

def Outcome.map {α β : Type} (transform : α → β) : Outcome α → Outcome β
  | .returned value => .returned (transform value)
  | .thrown exception => .thrown exception
  | .unfinished => .unfinished

theorem getUniqueNeighbors_eq {detector : GossipFailureDetector} {k : UInt32} {n : Int}
    (count : neighborCount k detector.server.alive.toList.length = n) {index : UInt64}
    {outcome : Outcome (OrderedSet Server.key)}
    (walked : roundRobin detector.server n (2 * n.toNat + 2) 0 detector.roundRobinIndex
      .empty = (index, outcome)) :
    detector.getUniqueNeighbors k =
      ({ detector with roundRobinIndex := index }, outcome.map OrderedSet.toList) := by
  simp only [getUniqueNeighbors, count, walked]
  cases outcome <;> rfl

@[simp] theorem getUniqueNeighbors_server (detector : GossipFailureDetector)
    (k : UInt32) : (detector.getUniqueNeighbors k).1.server = detector.server := by
  rw [getUniqueNeighbors_eq rfl rfl]

theorem reaches_getUniqueNeighbors (detector : GossipFailureDetector) (k : UInt32) :
    detector.server.Reaches (detector.getUniqueNeighbors k).1.server := by
  rw [getUniqueNeighbors_server]
  exact .refl _

theorem reaches_requestPings (detector : GossipFailureDetector) (other : Server)
    (forwards : List Server) :
    detector.server.Reaches (detector.requestPings other forwards).server := by
  induction forwards generalizing detector with
  | nil => exact .refl _
  | cons forward forwards induction =>
      exact (reaches_post detector _).trans (induction _)

theorem reaches_sendReportTo (detector : GossipFailureDetector) (report : SwimReport)
    (other : Server) (contact : Contact) :
    detector.server.Reaches (detector.sendReportTo report other contact).1.server := by
  simp only [sendReportTo]
  have sent := reaches_post detector ((detector.client other).send report).2
  split
  · exact sent
  · apply reaches_andThen
    · exact (sent.trans (reaches_reportSuspected _ other contact.now)).trans
        (reaches_getUniqueNeighbors _ _)
    · intro detector forwards
      exact reaches_requestPings detector other forwards

theorem reaches_contactNeighbor (detector : GossipFailureDetector)
    (report : SwimReport) (other : Server) (contact : Contact) :
    detector.server.Reaches
      (detector.contactNeighbor report other contact).1.server := by
  apply reaches_andThen (reaches_sendReportTo detector report other contact)
  intro detector answered
  split
  · exact reaches_addAlive detector other contact.now
  · exact .refl _

theorem reaches_contactNeighbors (report : SwimReport) (contacts : Server → Contact)
    (detector : GossipFailureDetector) (others : List Server) :
    detector.server.Reaches
      (contactNeighbors report contacts detector others).1.server := by
  induction others generalizing detector with
  | nil => exact .refl _
  | cons other others induction =>
      apply reaches_andThen (reaches_contactNeighbor detector report other _)
      intro detector _
      exact induction detector

section Reporting

variable {Cost : Type} (costs : CostArithmetic Cost) (sort : LamportSort)

theorem reaches_sendReport (detector : GossipFailureDetector) (type : ReportType)
    (aliveNow suspectedNow : UInt64) (draw : Nat) (contacts : Server → Contact) :
    detector.server.Reaches
      (detector.sendReport costs sort type aliveNow suspectedNow draw
        contacts).1.server := by
  simp only [sendReport]
  split
  · exact .refl _
  · cases type with
    | full =>
        apply reaches_andThen (reaches_getUniqueNeighbors detector detector.numReports)
        intro detector others
        exact reaches_contactNeighbors _ contacts detector others
    | single =>
        dsimp only
        split
        · exact .refl _
        · rename_i other chosen
          have contacted := reaches_contactNeighbor detector
            (detector.server.prepareReport costs sort aliveNow suspectedNow) other
            (contacts other)
          split
          · rename_i result
            rwa [result] at contacted
          · exact contacted

theorem reaches_pingRandomSuspected (detector : GossipFailureDetector) (draw : Nat)
    (contacts : Server → Contact) :
    detector.server.Reaches (detector.pingRandomSuspected draw contacts).server := by
  simp only [pingRandomSuspected]
  split
  · exact .refl _
  · split
    · exact (reaches_post detector _).trans (reaches_addAlive _ _ _)
    · exact reaches_post detector _

theorem reaches_garbageCollectSuspected (detector : GossipFailureDetector)
    (aliveNow suspectedNow now : UInt64) (seconds : Server → UInt64) :
    detector.server.Reaches (detector.garbageCollectSuspected costs sort aliveNow
      suspectedNow now seconds).server := by
  apply Reaches.foldl
  intro server record
  simp only [collectSuspect]
  split
  · exact Reaches.perform server
      (.removeSuspected record.server .evicted (seconds record.server))
  · exact .refl _

theorem reaches_addNeighbor (detector : GossipFailureDetector) (host : Server)
    (contact : Contact) :
    detector.server.Reaches (detector.addNeighbor host contact).server := by
  simp only [addNeighbor]
  split
  · exact (reaches_post detector _).trans (reaches_addAlive _ _ _)
  · exact (reaches_post detector _).trans (reaches_reportSuspected _ _ _)

theorem reaches_operate (detector : GossipFailureDetector)
    (operation : DetectorOperation)
    (noClock : ∀ time, operation ≠ .server (.updateLamportTime time)) :
    detector.server.Reaches (detector.operate costs sort operation).server := by
  cases operation with
  | server operation =>
      apply SwimServer.reaches_operate
      rintro time rfl
      exact noClock time rfl
  | addNeighbor host contact => exact reaches_addNeighbor detector host contact
  | sendReport type aliveNow suspectedNow draw contacts =>
      exact reaches_sendReport costs sort detector type aliveNow suspectedNow draw contacts
  | pingRandomSuspected draw contacts =>
      exact reaches_pingRandomSuspected detector draw contacts
  | garbageCollectSuspected aliveNow suspectedNow now seconds =>
      exact reaches_garbageCollectSuspected costs sort detector aliveNow suspectedNow now
        seconds

end Reporting

end GossipFailureDetector

end Gossip
