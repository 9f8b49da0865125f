import Gossip.Contracts.RoundRobin
import Gossip.Semantics.Reporting

/-! # Empty sets and report threads

`GetNeighborByIndex` throws when nobody is alive. A selection only gets there after it has
seen somebody alive, but it has released the lock since. In a single report the exception
is caught, in a full report it leaves the thread. -/

namespace Gossip

open Foundation GossipFailureDetector

/-! ## Selections -/

def Choosing.relies : Choosing → Bool
  | .comparing _ _ _ | .looking _ _ _ => true
  | _ => false

structure Choosing.Fine (server : SwimServer) (selection : Choosing) : Prop where
  notThrown : selection ≠ .threw
  somebody : selection.relies = true → server.alive.toList ≠ []

namespace Choosing

variable {detector : GossipFailureDetector}

@[simp] theorem exec_server (selection : Choosing) :
    (selection.exec detector).1.server = detector.server := by
  cases selection <;> rfl

theorem fine_of_relies_eq_false {server : SwimServer} {selection : Choosing}
    (notThrown : selection ≠ .threw) (unreliant : selection.relies = false) :
    selection.Fine server := by
  refine ⟨notThrown, ?_⟩
  intro relies
  rw [unreliant] at relies
  cases relies

theorem fine_turn {server : SwimServer} {n idx : Int} {others : OrderedSet Server.key}
    (somebody : idx < n → server.alive.toList ≠ []) : (turn n idx others).Fine server := by
  unfold turn
  split
  next unfinished => exact ⟨by simp, fun _ => somebody unfinished⟩
  next => exact fine_of_relies_eq_false (by simp) rfl

theorem exists_getNeighborByIndex {server : SwimServer} (somebody : server.alive.toList ≠ [])
    (index : Nat) : ∃ other, server.getNeighborByIndex index = .ok other := by
  unfold SwimServer.getNeighborByIndex
  split
  next empty => exact absurd empty somebody
  next => exact ⟨_, rfl⟩

theorem Fine.exec {selection : Choosing} (fine : selection.Fine detector.server) :
    (selection.exec detector).2.Fine detector.server := by
  cases selection with
  | counting k =>
      apply fine_turn
      intro positive empty
      exact detector.not_pos_neighborCount k (by simp [empty]) positive
  | comparing n idx others => exact ⟨by simp [Choosing.exec], fun _ => fine.somebody rfl⟩
  | looking n idx others =>
      have somebody := fine.somebody rfl
      rcases exists_getNeighborByIndex somebody detector.roundRobinIndex.toNat with
        ⟨other, found⟩
      simp only [Choosing.exec, found]
      split
      · exact fine_of_relies_eq_false (by simp) rfl
      · exact fine_turn fun _ => somebody
  | rechecking n idx others =>
      simp only [Choosing.exec]
      split
      next => exact fine_of_relies_eq_false (by simp) rfl
      next several =>
        apply fine_turn
        intro _ empty
        simp [empty] at several
  | chosen others => exact fine
  | threw => exact absurd rfl fine.notThrown

end Choosing

/-! ## Reports -/

def Reporter.relies : Reporter → Bool
  | .choosing purpose selection => purpose.type = .full && selection.relies
  | _ => false

def Reporter.Fine (server : SwimServer) : Reporter → Prop
  | .choosing purpose selection => purpose.type = .full → selection.Fine server
  | .escaped _ => False
  | _ => True

namespace Reporter

theorem fine_next (server : SwimServer) (round : Round) : round.next.Fine server := by
  unfold Round.next
  split <;> trivial

theorem fine_counting (server : SwimServer) (purpose : Purpose) (k : UInt32) :
    Fine server (.choosing purpose (.counting k)) :=
  fun _ => Choosing.fine_of_relies_eq_false (by simp) rfl

theorem Fine.of_relies {before after : SwimServer} {reporter : Reporter}
    (fine : reporter.Fine before)
    (somebody : reporter.relies = true → after.alive.toList ≠ []) : reporter.Fine after := by
  cases reporter with
  | choosing purpose selection =>
      intro full
      refine ⟨(fine full).notThrown, fun relies => somebody ?_⟩
      simp [Reporter.relies, full, relies]
  | escaped => exact fine
  | _ => trivial

variable {Cost : Type} (costs : CostArithmetic Cost) (sort : LamportSort)

theorem Fine.exec {detector : GossipFailureDetector} (choice : Choice) {reporter : Reporter}
    (fine : reporter.Fine detector.server) :
    (reporter.exec costs sort detector choice).2.Fine
      (reporter.exec costs sort detector choice).1.server := by
  cases reporter with
  | checking type aliveNow suspectedNow =>
      simp only [Reporter.exec]
      split <;> trivial
  | preparing type preparation =>
      cases preparation with
      | returned report =>
          cases type with
          | full => exact fine_counting _ _ _
          | single => trivial
      | copyAlive => trivial
      | copySuspected => trivial
  | choosing purpose selection =>
      by_cases finished : selection.finished = true
      · cases selection with
        | chosen others =>
            cases purpose with
            | neighbors report => exact fine_next _ _
            | forwards round other => trivial
        | threw =>
            cases type : purpose.type with
            | full => exact absurd rfl (fine type).notThrown
            | single =>
                simp only [Reporter.exec, type]
                trivial
        | _ => cases finished
      · rw [Bool.not_eq_true] at finished
        rw [exec_choosing purpose finished]
        intro full
        rw [Choosing.exec_server]
        exact (fine full).exec
  | drawing report =>
      simp only [Reporter.exec]
      split <;> trivial
  | sending round other =>
      simp only [Reporter.exec]
      split <;> trivial
  | updating update thread =>
      simp only [Reporter.exec]
      split
      next =>
        cases update with
        | suspect round other => exact fine_counting _ _ _
        | greet round => exact fine_next _ _
      next => trivial
  | requesting round other lamportTime forwards =>
      cases forwards with
      | nil => exact fine_next _ _
      | cons forward forwards => trivial
  | returned => trivial
  | escaped => exact fine

end Reporter

/-! ## Runs -/

section Runs

variable {Cost : Type} (costs : CostArithmetic Cost) (sort : LamportSort)

/-- The step does not take the last server from the alive while a full report relies on
there being one. -/
def Reporting.LeavesSomebody (reporting : Reporting) (event : ReportingEvent) : Prop :=
  reporting.reporters.any Reporter.relies = true →
    ((reportingMachine costs sort).step reporting event).detector.server.alive.toList ≠ []

instance (reporting : Reporting) (event : ReportingEvent) :
    Decidable (reporting.LeavesSomebody costs sort event) := by
  unfold Reporting.LeavesSomebody
  infer_instance

def Reporting.Fine (reporting : Reporting) : Prop :=
  ∀ reporter ∈ reporting.reporters, reporter.Fine reporting.detector.server

theorem Reporting.mem_reporters_step {reporting : Reporting} {event : ReportingEvent}
    {reporter : Reporter}
    (member : reporter ∈ ((reportingMachine costs sort).step reporting event).reporters) :
    reporter ∈ reporting.reporters ∨
      (∃ type aliveNow suspectedNow, reporter = .checking type aliveNow suspectedNow) ∨
      ∃ old ∈ reporting.reporters, ∃ choice,
        ((reportingMachine costs sort).step reporting event).detector =
            (old.exec costs sort reporting.detector choice).1 ∧
          reporter = (old.exec costs sort reporting.detector choice).2 := by
  cases event with
  | operation operation => exact .inl member
  | operate index =>
      simp only [reportingMachine, Reporting.react] at member
      split at member <;> exact .inl member
  | report type aliveNow suspectedNow =>
      rcases List.mem_append.mp member with old | new
      · exact .inl old
      · exact .inr (.inl ⟨type, aliveNow, suspectedNow, List.mem_singleton.mp new⟩)
  | advance index choice =>
      cases present : reporting.reporters[index]? with
      | none =>
          simp only [reportingMachine, Reporting.react, present] at member
          exact .inl member
      | some old =>
          simp only [reportingMachine, Reporting.react, present] at member ⊢
          rcases List.mem_or_eq_of_mem_set member with kept | rfl
          · exact .inl kept
          · exact .inr (.inr ⟨old, List.mem_of_getElem? present, choice, rfl, rfl⟩)

theorem Reporting.Fine.step {reporting : Reporting} (fine : reporting.Fine)
    {event : ReportingEvent} (leaves : reporting.LeavesSomebody costs sort event) :
    ((reportingMachine costs sort).step reporting event).Fine := by
  intro reporter member
  rcases Reporting.mem_reporters_step costs sort member with
    old | ⟨type, aliveNow, suspectedNow, rfl⟩ | ⟨old, present, choice, detector, rfl⟩
  · exact (fine reporter old).of_relies fun relies =>
      leaves (List.any_eq_true.mpr ⟨reporter, old, relies⟩)
  · trivial
  · rw [detector]
    exact (fine old present).exec costs sort choice

/-- No `empty_set` leaves a report thread, as long as no step takes the last server from
the alive between a point at which a full report has seen one and its next lookup. -/
theorem empty_set_never_escapes (detector : GossipFailureDetector) (threads : List Thread)
    (events : List ReportingEvent)
    (leaves : (reportingMachine costs sort).Along (Reporting.LeavesSomebody costs sort)
      { detector, threads } events) (type : ReportType) :
    .escaped type ∉
      ((reportingMachine costs sort).run { detector, threads } events).reporters := by
  have fine : ((reportingMachine costs sort).run { detector, threads } events).Fine :=
    (reportingMachine costs sort).run_invariant Reporting.Fine
      (fun _ _ fine leaves => fine.step costs sort leaves) (by simp [Reporting.Fine]) leaves
  exact fun escaped => fine _ escaped

end Runs

theorem empty_set_never_escapes_of_two :
    let started : GossipFailureDetector :=
      { server := serverMachine.run (.create ⟨"node", fun _ => "10.0.0.1"⟩ "" 9000 true)
          [.addAlive { hostname := "alpha", port := 9002 } 1,
            .addAlive { hostname := "peer", port := 9001 } 2]
        gracePeriod := 1000
        hostName := ""
        numReports := 6
        numForwards := 3 }
    let choice : Choice := ⟨true, 10, 0⟩
    let events : List ReportingEvent :=
      [.report .full 5 5, .advance 0 choice, .advance 0 choice, .advance 0 choice,
        .advance 0 choice, .advance 0 choice,
        .operation (.reportSuspected { hostname := "peer", port := 9001 } 6), .operate 0,
        .operate 0, .advance 0 choice, .advance 0 choice]
    let final := (reportingMachine exactCosts stableSort).run { detector := started } events
    final.detector.server.alive.toList.length = 1 ∧
      ∀ type, .escaped type ∉ final.reporters := by
  intro started choice events final
  refine ⟨by decide +kernel, ?_⟩
  exact empty_set_never_escapes exactCosts stableSort started [] events (by decide +kernel)

/-- The only neighbour is suspected by another thread after a full report has counted it. -/
theorem empty_set_escapes :
    let started : GossipFailureDetector :=
      { server := serverMachine.run (.create ⟨"node", fun _ => "10.0.0.1"⟩ "" 9000 true)
          [.addAlive { hostname := "peer", port := 9001 } 2]
        gracePeriod := 1000
        hostName := ""
        numReports := 6
        numForwards := 3 }
    let choice : Choice := ⟨true, 10, 0⟩
    let events : List ReportingEvent :=
      [.report .full 5 5, .advance 0 choice, .advance 0 choice, .advance 0 choice,
        .advance 0 choice, .advance 0 choice,
        .operation (.reportSuspected { hostname := "peer", port := 9001 } 6), .operate 0,
        .operate 0, .advance 0 choice, .advance 0 choice, .advance 0 choice]
    ((reportingMachine exactCosts stableSort).run { detector := started } events).reporters =
      [.escaped .full] := by
  rfl

end Gossip
