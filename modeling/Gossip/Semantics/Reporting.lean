import Gossip.Semantics.Preparing

/-! # Reports that are sent while the sets change

`SendReport` looks at the set of alive servers again and again, and locks it anew each
time. Here a call of it is the sequence of its critical sections, beside the threads of
the other operations and other calls of its own. The index of the round robin belongs to
the detector and is shared by all calls. -/

namespace Gossip

open Foundation SwimServer GossipFailureDetector

/-! ## Choosing neighbours -/

/-- A call of `GetUniqueNeighbors`, by the section that comes next. -/
inductive Choosing
  | counting (k : UInt32)
  /-- `alive_size`, for the check of the index. -/
  | comparing (n idx : Int) (others : OrderedSet Server.key)
  | looking (n idx : Int) (others : OrderedSet Server.key)
  /-- `alive_size`, after the server itself was met. -/
  | rechecking (n idx : Int) (others : OrderedSet Server.key)
  | chosen (others : OrderedSet Server.key)
  | threw

namespace Choosing

def turn (n idx : Int) (others : OrderedSet Server.key) : Choosing :=
  if idx < n then .comparing n idx others else .chosen others

def finished : Choosing → Bool
  | .chosen _ | .threw => true
  | _ => false

def exec (detector : GossipFailureDetector) : Choosing → GossipFailureDetector × Choosing
  | .counting k =>
      (detector, turn (neighborCount k detector.server.alive.toList.length) 0 .empty)
  | .comparing n idx others =>
      let size := detector.server.alive.toList.length
      let index := detector.roundRobinIndex
      ({ detector with
          roundRobinIndex := if UInt64.ofNat size - 1 < index then 0 else index },
        .looking n idx others)
  | .looking n idx others =>
      let index := detector.roundRobinIndex
      ({ detector with roundRobinIndex := index + 1 },
        match detector.server.getNeighborByIndex index.toNat with
        | .error _ => .threw
        | .ok other =>
            if other.same detector.server.self then .rechecking n idx others
            else turn n (idx + 1) (others.insert other).1)
  | .rechecking n idx others =>
      (detector,
        if detector.server.alive.toList.length ≤ 1 then .chosen others
        else turn n idx others)
  | choosing => (detector, choosing)

end Choosing

/-! ## Reports -/

structure Round where
  type : ReportType
  report : SwimReport
  remaining : List Server

inductive Purpose
  | neighbors (report : SwimReport)
  | forwards (round : Round) (other : Server)

/-- Whether an exception leaves `SendReport` depends on where it is thrown: only single
reports have a handler. -/
def Purpose.type : Purpose → ReportType
  | .neighbors _ => .full
  | .forwards round _ => round.type

inductive Update
  | suspect (round : Round) (other : Server)
  | greet (round : Round)

/-- A call of `SendReport`, by the section that comes next. -/
inductive Reporter
  | checking (type : ReportType) (aliveNow suspectedNow : UInt64)
  | preparing (type : ReportType) (preparation : Preparation)
  | choosing (purpose : Purpose) (selection : Choosing)
  | drawing (report : SwimReport)
  | sending (round : Round) (other : Server)
  | updating (update : Update) (thread : Thread)
  | requesting (round : Round) (other : Server) (lamportTime : UInt64)
      (forwards : List Server)
  | returned
  | escaped (type : ReportType)

structure Choice where
  answered : Bool
  now : UInt64
  draw : Nat

def Round.next (round : Round) : Reporter :=
  match round.remaining with
  | [] => .returned
  | other :: remaining => .sending { round with remaining := remaining } other

def Purpose.chosen (detector : GossipFailureDetector) (others : OrderedSet Server.key) :
    Purpose → Reporter
  | .neighbors report => Round.next ⟨.full, report, others.toList⟩
  | .forwards round other =>
      .requesting round other detector.server.lamportTime others.toList

/-- What becomes of a call in which `empty_set` is thrown. -/
def ReportType.threw : ReportType → Reporter
  | .full => .escaped .full
  | .single => .returned

def Update.done (detector : GossipFailureDetector) : Update → Reporter
  | .suspect round other =>
      .choosing (.forwards round other) (.counting detector.numForwards)
  | .greet round => round.next

section Steps

variable {Cost : Type} (costs : CostArithmetic Cost) (sort : LamportSort)

def Reporter.exec (detector : GossipFailureDetector) (choice : Choice) :
    Reporter → GossipFailureDetector × Reporter
  | .checking type aliveNow suspectedNow =>
      (detector,
        if detector.server.alive.toList.isEmpty then .returned
        else .preparing type (.copyAlive aliveNow suspectedNow))
  | .preparing type (.returned report) =>
      (detector,
        match type with
        | .full => .choosing (.neighbors report) (.counting detector.numReports)
        | .single => .drawing report)
  | .preparing type preparation =>
      (detector, .preparing type (preparation.exec costs sort detector.server))
  | .choosing purpose (.chosen others) => (detector, purpose.chosen detector others)
  | .choosing purpose .threw => (detector, purpose.type.threw)
  | .choosing purpose selection =>
      ((selection.exec detector).1, .choosing purpose (selection.exec detector).2)
  | .drawing report =>
      (detector,
        match detector.server.getRandomNeighbor choice.draw with
        | .error _ => .returned
        | .ok other => .sending ⟨.single, report, []⟩ other)
  | .sending round other =>
      (detector.post ((detector.client other).send round.report).2,
        if choice.answered then
          .updating (.greet round) { sections := [.addAlive other choice.now] }
        else
          .updating (.suspect round other)
            { sections := [.reportSuspected other choice.now] })
  | .updating update thread =>
      if thread.Done then (detector, update.done detector)
      else
        ({ detector with server := (thread.exec detector.server).1 },
          .updating update (thread.exec detector.server).2)
  | .requesting round _ _ [] => (detector, round.next)
  | .requesting round other lamportTime (forward :: forwards) =>
      let client := SwimClient.create detector.server.host detector.hostName lamportTime
        forward detector.server.port.toNat
      (detector.post (client.requestPing other).2,
        .requesting round other lamportTime forwards)
  | reporter => (detector, reporter)

/-! ## Reports beside other operations -/

/-- A detector, the threads of the operations of its server and the calls of
`SendReport`. -/
structure Reporting where
  detector : GossipFailureDetector
  threads : List Thread := []
  reporters : List Reporter := []

inductive ReportingEvent
  | operation (operation : ServerOperation)
  | operate (index : Nat)
  | report (type : ReportType) (aliveNow suspectedNow : UInt64)
  /-- A call of `SendReport` takes its next step. -/
  | advance (index : Nat) (choice : Choice)

def Reporting.react (reporting : Reporting) : ReportingEvent → Reporting
  | .operation operation =>
      { reporting with threads := reporting.threads ++ [operation.thread] }
  | .operate index =>
      match reporting.threads[index]? with
      | none => reporting
      | some thread =>
          { reporting with
            detector :=
              { reporting.detector with
                server := (thread.exec reporting.detector.server).1 }
            threads := reporting.threads.set index
              (thread.exec reporting.detector.server).2 }
  | .report type aliveNow suspectedNow =>
      { reporting with
        reporters := reporting.reporters ++ [.checking type aliveNow suspectedNow] }
  | .advance index choice =>
      match reporting.reporters[index]? with
      | none => reporting
      | some reporter =>
          { reporting with
            detector := (reporter.exec costs sort reporting.detector choice).1
            reporters := reporting.reporters.set index
              (reporter.exec costs sort reporting.detector choice).2 }

def reportingMachine : Machine Reporting ReportingEvent := ⟨Reporting.react costs sort⟩

end Steps

/-! ## A call that nothing interferes with -/

inductive Choosing.Leads : GossipFailureDetector → Choosing → GossipFailureDetector →
    Choosing → Prop
  | refl (detector : GossipFailureDetector) (choosing : Choosing) :
      Leads detector choosing detector choosing
  | step {detector after : GossipFailureDetector} {choosing final : Choosing}
      (unfinished : choosing.finished = false)
      (rest : Leads (choosing.exec detector).1 (choosing.exec detector).2 after final) :
      Leads detector choosing after final

def Choosing.ends : Outcome (OrderedSet Server.key) → Option Choosing
  | .returned others => some (.chosen others)
  | .thrown _ => some .threw
  | .unfinished => none

namespace Choosing

theorem leads_comparing {detector after : GossipFailureDetector} {n idx : Int}
    {others : OrderedSet Server.key} {index : UInt64} {next final : Choosing}
    (checked : (if UInt64.ofNat detector.server.alive.toList.length - 1 <
        detector.roundRobinIndex then 0 else detector.roundRobinIndex) = index)
    (looked : ((looking n idx others).exec { detector with roundRobinIndex := index }).2 = next)
    (rest : Leads { detector with roundRobinIndex := index + 1 } next after final) :
    Leads detector (comparing n idx others) after final := by
  subst checked looked
  exact .step rfl (.step rfl rest)

theorem leads_roundRobin (detector : GossipFailureDetector) {n idx : Int} {turns : Nat}
    {others : OrderedSet Server.key} {index : UInt64}
    {outcome : Outcome (OrderedSet Server.key)} {final : Choosing}
    (walked : roundRobin detector.server n turns idx detector.roundRobinIndex others =
      (index, outcome)) (ending : ends outcome = some final) :
    Leads detector (turn n idx others) { detector with roundRobinIndex := index } final := by
  induction turns generalizing detector idx others with
  | zero =>
      cases walked
      cases ending
  | succ turns induction =>
      simp only [roundRobin] at walked
      generalize checked : (if UInt64.ofNat detector.server.alive.toList.length - 1 <
        detector.roundRobinIndex then 0 else detector.roundRobinIndex) = current at walked
      by_cases unfinished : idx < n
      · rw [if_pos unfinished] at walked
        rw [turn, if_pos unfinished]
        cases lookup : detector.server.getNeighborByIndex current.toNat with
        | error exception =>
            rw [lookup] at walked
            cases walked
            cases ending
            exact leads_comparing checked (by simp only [exec, lookup]) (.refl _ _)
        | ok other =>
            simp only [lookup] at walked
            by_cases isSelf : other.same detector.server.self = true
            · rw [if_pos isSelf] at walked
              have looked : ((looking n idx others).exec
                  { detector with roundRobinIndex := current }).2 = rechecking n idx others := by
                simp only [exec, lookup, if_pos isSelf]
              apply leads_comparing checked looked
              apply Leads.step rfl
              simp only [exec]
              by_cases few : detector.server.alive.toList.length ≤ 1
              · rw [if_pos few] at walked ⊢
                cases walked
                cases ending
                exact .refl _ _
              · rw [if_neg few] at walked ⊢
                exact induction { detector with roundRobinIndex := current + 1 } walked
            · rw [if_neg isSelf] at walked
              have looked : ((looking n idx others).exec
                  { detector with roundRobinIndex := current }).2 =
                    turn n (idx + 1) (others.insert other).1 := by
                simp only [exec, lookup, if_neg isSelf]
              apply leads_comparing checked looked
              exact induction { detector with roundRobinIndex := current + 1 } walked
      · rw [if_neg unfinished] at walked
        cases walked
        cases ending
        rw [turn, if_neg unfinished]
        exact .refl _ _

theorem leads_getUniqueNeighbors (detector : GossipFailureDetector) (k : UInt32)
    {after : GossipFailureDetector} {outcome : Outcome (List Server)}
    (result : detector.getUniqueNeighbors k = (after, outcome)) :
    (∀ forwards, outcome = .returned forwards →
      ∃ others : OrderedSet Server.key, forwards = others.toList ∧
        Leads detector (.counting k) after (.chosen others)) ∧
      (∀ exception, outcome = .thrown exception →
        Leads detector (.counting k) after .threw) := by
  rcases walked : roundRobin detector.server
      (neighborCount k detector.server.alive.toList.length)
      (2 * (neighborCount k detector.server.alive.toList.length).toNat + 2) 0
      detector.roundRobinIndex .empty with ⟨index, ended⟩
  rw [getUniqueNeighbors_eq rfl walked] at result
  cases result
  have leads {final : Choosing} (ending : ends ended = some final) :
      Leads detector (.counting k) { detector with roundRobinIndex := index } final :=
    .step rfl (leads_roundRobin detector walked ending)
  constructor
  · intro forwards returned
    cases ended with
    | returned others =>
        cases returned
        exact ⟨others, rfl, leads rfl⟩
    | thrown exception => cases returned
    | unfinished => cases returned
  · intro exception thrown
    cases ended with
    | returned others => cases thrown
    | thrown exception => exact leads rfl
    | unfinished => cases thrown

end Choosing

section Alone

variable {Cost : Type} (costs : CostArithmetic Cost) (sort : LamportSort)
  (contacts : Server → Contact) (draw : Nat)

def Reporter.choice : Reporter → Choice
  | .sending _ other => ⟨(contacts other).answered, (contacts other).now, draw⟩
  | _ => ⟨false, 0, draw⟩

inductive Reporter.Leads : GossipFailureDetector → Reporter → GossipFailureDetector →
    Reporter → Prop
  | refl (detector : GossipFailureDetector) (reporter : Reporter) :
      Leads detector reporter detector reporter
  | step {detector after : GossipFailureDetector} {reporter final : Reporter}
      (rest : Leads (reporter.exec costs sort detector (reporter.choice contacts draw)).1
        (reporter.exec costs sort detector (reporter.choice contacts draw)).2 after final) :
      Leads detector reporter after final

namespace Reporter

variable {costs sort contacts draw}

theorem Leads.trans {detector middle after : GossipFailureDetector}
    {reporter between final : Reporter}
    (first : Leads costs sort contacts draw detector reporter middle between)
    (second : Leads costs sort contacts draw middle between after final) :
    Leads costs sort contacts draw detector reporter after final := by
  induction first with
  | refl => exact second
  | step _ induction => exact .step (induction second)

theorem exec_choosing {detector : GossipFailureDetector} {choice : Choice}
    (purpose : Purpose) {selection : Choosing} (unfinished : selection.finished = false) :
    exec costs sort detector choice (.choosing purpose selection) =
      ((selection.exec detector).1, .choosing purpose (selection.exec detector).2) := by
  cases selection with
  | chosen | threw => cases unfinished
  | _ => rfl

theorem leads_choosing {detector after : GossipFailureDetector} (purpose : Purpose)
    {selection final : Choosing} (leads : selection.Leads detector after final) :
    Leads costs sort contacts draw detector (.choosing purpose selection) after
      (.choosing purpose final) := by
  induction leads with
  | refl => exact .refl _ _
  | step unfinished _ induction =>
      apply Leads.step
      rw [exec_choosing purpose unfinished]
      exact induction

/-- A selection and what is done with the chosen ones. The call ends in the same way
whatever they are chosen for when the selection throws. -/
theorem leads_counting (purpose : Purpose) (k : UInt32) (detector : GossipFailureDetector)
    {next : GossipFailureDetector → List Server → Result Unit}
    {after : GossipFailureDetector} {outcome : Outcome Unit} {final : Reporter}
    (result : (detector.getUniqueNeighbors k).andThen next = (after, outcome))
    (proceeds : ∀ moved (others : OrderedSet Server.key),
      next moved others.toList = (after, outcome) →
      Leads costs sort contacts draw moved (purpose.chosen moved others) after final)
    (throws : ∀ exception, outcome = .thrown exception → purpose.type.threw = final)
    (finished : outcome ≠ .unfinished) :
    Leads costs sort contacts draw detector (.choosing purpose (.counting k)) after final := by
  rcases selected : detector.getUniqueNeighbors k with ⟨moved, ended⟩
  have leads := Choosing.leads_getUniqueNeighbors detector k selected
  rw [selected] at result
  cases ended with
  | returned others =>
      rcases leads.1 others rfl with ⟨set, rfl, chosen⟩
      exact (leads_choosing purpose chosen).trans (.step (proceeds moved set result))
  | thrown exception =>
      cases result
      rw [← throws exception rfl]
      exact (leads_choosing purpose (leads.2 exception rfl)).trans (.step (.refl _ _))
  | unfinished =>
      cases result
      exact absurd rfl finished

theorem leads_updating (update : Update) {server after : SwimServer} {thread : Thread}
    (finishes : thread.Finishes server after) (detector : GossipFailureDetector)
    (same : detector.server = server) :
    Leads costs sort contacts draw detector (.updating update thread)
      { detector with server := after } (update.done { detector with server := after }) := by
  induction finishes generalizing detector with
  | @done server thread finished =>
      subst same
      apply Leads.step
      rw [exec, if_pos finished]
      exact .refl _ _
  | @step server after thread rest induction =>
      subst same
      by_cases finished : thread.Done
      · have idle : thread.exec detector.server = (detector.server, thread) := by
          rcases thread with ⟨inside, sections⟩
          rcases finished with ⟨rfl, rfl⟩
          rfl
        rw [idle] at induction
        exact induction detector rfl
      · apply Leads.step
        rw [exec, if_neg finished]
        exact induction { detector with server := (thread.exec detector.server).1 } rfl

theorem leads_requesting (round : Round) (other : Server) (forwards : List Server)
    (detector : GossipFailureDetector) {lamportTime : UInt64}
    (current : detector.server.lamportTime = lamportTime) :
    Leads costs sort contacts draw detector (.requesting round other lamportTime forwards)
      (detector.requestPings other forwards) round.next := by
  subst current
  induction forwards generalizing detector with
  | nil => exact .step (.refl _ _)
  | cons forward forwards induction =>
      exact .step (induction (detector.post ((detector.client forward).requestPing other).2))

/-- How a contact ends in a call of `SendReport`. -/
def ends (round : Round) : Outcome Unit → Option Reporter
  | .returned _ => some round.next
  | .thrown _ => some round.type.threw
  | .unfinished => none

theorem leads_forwards (round : Round) (other : Server) (suspecting : GossipFailureDetector)
    {after : GossipFailureDetector} {outcome : Outcome Unit} {final : Reporter}
    (result : (suspecting.getUniqueNeighbors suspecting.numForwards).andThen
      (fun detector forwards => (detector.requestPings other forwards, .returned ())) =
        (after, outcome))
    (ending : ends round outcome = some final) :
    Leads costs sort contacts draw suspecting
      (.choosing (.forwards round other) (.counting suspecting.numForwards)) after final := by
  apply leads_counting (.forwards round other) suspecting.numForwards suspecting result
  case proceeds =>
    intro moved others requested
    cases requested
    cases ending
    exact leads_requesting round other others.toList moved rfl
  case throws =>
    rintro exception rfl
    cases ending
    rfl
  case finished =>
    rintro rfl
    cases ending

theorem leads_contactNeighbor (round : Round) (other : Server)
    (detector : GossipFailureDetector) {after : GossipFailureDetector}
    {outcome : Outcome Unit} {final : Reporter}
    (result : detector.contactNeighbor round.report other (contacts other) = (after, outcome))
    (ending : ends round outcome = some final) :
    Leads costs sort contacts draw detector (.sending round other) after final := by
  let posted := detector.post ((detector.client other).send round.report).2
  apply Leads.step
  cases answered : (contacts other).answered with
  | true =>
      have sent : exec costs sort detector (choice contacts draw (.sending round other))
          (.sending round other) =
          (posted, .updating (.greet round)
            { sections := [.addAlive other (contacts other).now] }) := by
        simp [exec, choice, answered, posted]
      have greeted : detector.contactNeighbor round.report other (contacts other) =
          (posted.addAlive other (contacts other).now, .returned ()) := by
        simp [contactNeighbor, sendReportTo, answered, Result.andThen, posted]
      rw [sent]
      rw [greeted] at result
      cases result
      cases ending
      exact leads_updating (.greet round)
        (Thread.finishes_addAlive posted.server other (contacts other).now) posted rfl
  | false =>
      have sent : exec costs sort detector (choice contacts draw (.sending round other))
          (.sending round other) =
          (posted, .updating (.suspect round other)
            { sections := [.reportSuspected other (contacts other).now] }) := by
        simp [exec, choice, answered, posted]
      let suspecting := posted.reportSuspected other (contacts other).now
      have asked : detector.contactNeighbor round.report other (contacts other) =
          (suspecting.getUniqueNeighbors suspecting.numForwards).andThen
            (fun detector forwards => (detector.requestPings other forwards, .returned ())) := by
        simp only [contactNeighbor, sendReportTo, answered]
        rw [if_neg Bool.false_ne_true]
        change Result.andThen (Result.andThen (suspecting.getUniqueNeighbors _) _) _ = _
        rcases suspecting.getUniqueNeighbors suspecting.numForwards with ⟨moved, ended⟩
        cases ended <;> rfl
      rw [sent]
      rw [asked] at result
      exact (leads_updating (.suspect round other) (Thread.finishes_reportSuspected
        posted.server other (contacts other).now) posted rfl).trans
        (leads_forwards round other suspecting result ending)

/-- How a call of `SendReport` ends. -/
def ended : Outcome Unit → Option Reporter
  | .returned _ => some .returned
  | .thrown _ => some (.escaped .full)
  | .unfinished => none

theorem leads_contactNeighbors (report : SwimReport) (others : List Server)
    (detector : GossipFailureDetector) {after : GossipFailureDetector}
    {outcome : Outcome Unit} {final : Reporter}
    (result : contactNeighbors report contacts detector others = (after, outcome))
    (ending : ended outcome = some final) :
    Leads costs sort contacts draw detector (Round.next ⟨.full, report, others⟩) after
      final := by
  induction others generalizing detector with
  | nil =>
      cases result
      cases ending
      exact .refl _ _
  | cons other others induction =>
      rw [contactNeighbors] at result
      rcases contacted : detector.contactNeighbor report other (contacts other) with
        ⟨middle, ended⟩
      rw [contacted] at result
      have first {between : Reporter} (ends : ends ⟨.full, report, others⟩ ended =
          some between) : Leads costs sort contacts draw detector
            (.sending ⟨.full, report, others⟩ other) middle between :=
        leads_contactNeighbor ⟨.full, report, others⟩ other detector contacted ends
      cases ended with
      | returned _ => exact (first rfl).trans (induction middle result)
      | thrown exception =>
          cases result
          cases ending
          exact first rfl
      | unfinished =>
          cases result
          cases ending

theorem leads_prepareReport (type : ReportType) (aliveNow suspectedNow : UInt64)
    (detector : GossipFailureDetector) :
    Leads costs sort contacts draw detector (.preparing type (.copyAlive aliveNow suspectedNow))
      detector (.preparing type (.returned (detector.server.prepareReport costs sort aliveNow
        suspectedNow))) :=
  .step (.step (.refl _ _))

theorem leads_full (report : SwimReport) (detector : GossipFailureDetector)
    {after : GossipFailureDetector} {outcome : Outcome Unit} {final : Reporter}
    (result : (detector.getUniqueNeighbors detector.numReports).andThen
      (fun detector others => contactNeighbors report contacts detector others) =
        (after, outcome))
    (ending : ended outcome = some final) :
    Leads costs sort contacts draw detector
      (.choosing (.neighbors report) (.counting detector.numReports)) after final := by
  apply leads_counting (.neighbors report) detector.numReports detector result
  case proceeds =>
    intro moved others contacted
    exact leads_contactNeighbors report others.toList moved contacted ending
  case throws =>
    rintro exception rfl
    cases ending
    rfl
  case finished =>
    rintro rfl
    cases ending

theorem leads_single (report : SwimReport) (detector : GossipFailureDetector)
    {after : GossipFailureDetector} {outcome : Outcome Unit} {final : Reporter}
    (result : (match detector.server.getRandomNeighbor draw with
      | .error _ => (detector, Outcome.returned ())
      | .ok other =>
          match detector.contactNeighbor report other (contacts other) with
          | (detector, .thrown _) => (detector, .returned ())
          | result => result) = (after, outcome))
    (ending : ended outcome = some final) :
    Leads costs sort contacts draw detector (.drawing report) after final := by
  apply Leads.step
  simp only [exec, choice]
  split at result
  next =>
    cases result
    cases ending
    exact .refl _ _
  next other _ =>
    rcases contacted : detector.contactNeighbor report other (contacts other) with
      ⟨middle, contactEnded⟩
    rw [contacted] at result
    have leads {between : Reporter} (ends : ends ⟨.single, report, []⟩ contactEnded =
        some between) : Leads costs sort contacts draw detector
          (.sending ⟨.single, report, []⟩ other) middle between :=
      leads_contactNeighbor ⟨.single, report, []⟩ other detector contacted ends
    cases contactEnded with
    | returned _ =>
        cases result
        cases ending
        exact leads rfl
    | thrown exception =>
        cases result
        cases ending
        exact leads rfl
    | unfinished =>
        cases result
        cases ending

theorem leads_sendReport (type : ReportType) (aliveNow suspectedNow : UInt64)
    (detector : GossipFailureDetector) {after : GossipFailureDetector}
    {outcome : Outcome Unit} {final : Reporter}
    (result : detector.sendReport costs sort type aliveNow suspectedNow draw contacts =
      (after, outcome))
    (ending : ended outcome = some final) :
    Leads costs sort contacts draw detector (.checking type aliveNow suspectedNow) after
      final := by
  apply Leads.step
  simp only [exec]
  rw [sendReport] at result
  split at result
  next empty =>
    cases result
    cases ending
    rw [if_pos empty]
    exact .refl _ _
  next nonempty =>
    rw [if_neg nonempty]
    refine (leads_prepareReport type aliveNow suspectedNow detector).trans (.step ?_)
    cases type with
    | full => exact leads_full _ detector result ending
    | single => exact leads_single _ detector result ending

end Reporter

end Alone

end Gossip
