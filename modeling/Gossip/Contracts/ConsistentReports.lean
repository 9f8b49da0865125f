import Gossip.Contracts.Interleavings
import Gossip.Semantics.Preparing

/-! # Reports that contradict themselves

Operations that do not overlap with each other keep the two sets disjoint at every
moment. A report is a copy of both, made at two moments, and a server that is moved
to the suspects between the two is listed twice. -/

namespace Gossip

open Foundation SwimServer

/-- No server is listed both as alive and as suspected. -/
def SwimReport.Consistent (report : SwimReport) : Prop :=
  ∀ alive ∈ report.alive, ∀ suspected ∈ report.suspected, alive.key ≠ suspected.key

instance (report : SwimReport) : Decidable report.Consistent :=
  inferInstanceAs (Decidable (∀ alive ∈ report.alive, _))

namespace Preparing

/-- Every report that has been returned is consistent. -/
def Consistent (preparing : Preparing) : Prop :=
  ∀ preparation ∈ preparing.preparations, ∀ report ∈ preparation.report?,
    report.Consistent

/-- Operations do not overlap with each other: one is started only when no other is
in progress. -/
def Sequential (preparing : Preparing) : PreparingEvent → Prop
  | .operation (.spawn _) => preparing.threads.Idle
  | _ => True

instance (preparing : Preparing) : ∀ event, Decidable (preparing.Sequential event)
  | .operation (.spawn _) => inferInstanceAs (Decidable preparing.threads.Idle)
  | .operation (.advance _) | .prepare .. | .copy _ => isTrue trivial

/-- No server is put among the suspects that is listed as alive in a report for
which the suspects are still to be copied. -/
def Steady (preparing : Preparing) : PreparingEvent → Prop
  | .operation (.advance index) =>
      ∀ act ∈ preparing.threads.threads[index]?.bind Thread.acts,
        act.2 = .enterSuspected → ∀ preparation ∈ preparing.preparations,
          ∀ record ∈ preparation.listed, record.key ≠ act.1
  | _ => True

instance (preparing : Preparing) : ∀ event, Decidable (preparing.Steady event)
  | .operation (.advance _) => inferInstanceAs (Decidable (∀ act ∈ _, _))
  | .operation (.spawn _) | .prepare .. | .copy _ => isTrue trivial

end Preparing

/-! ## Operations one after the other -/

namespace Threads

def Busy (thread : Thread) : Bool := !decide thread.Done

theorem not_busy {thread : Thread} : Busy thread = false ↔ thread.Done := by
  simp [Busy]

def OneByOne (pool : Threads) : Prop := AtMostOne Busy pool.threads

theorem position_of_done {thread : Thread} (done : thread.Done) (key : Key) :
    thread.position key = .outside := by
  simp [Thread.position, Thread.moving, done.1]

theorem acts_of_done {thread : Thread} (done : thread.Done) : thread.acts = none := by
  simp [Thread.acts, done.1, done.2]

theorem exec_of_done {thread : Thread} (done : thread.Done) (tracked : Tracked) :
    (tracked.exec thread).2 = thread := by
  rcases thread with ⟨inside, sections⟩
  rcases done with ⟨rfl, rfl⟩
  rfl

theorem OneByOne.step {pool : Threads} (one : pool.OneByOne)
    (decision : Decision ServerOperation)
    (free : ∀ operation, decision = .spawn operation → pool.Idle) :
    (threadMachine.step pool decision).OneByOne := by
  cases decision with
  | spawn operation =>
      apply AtMostOne.append one
      intro _ thread member
      exact not_busy.mpr (free operation rfl thread member)
  | advance index =>
      cases present : pool.threads[index]? with
      | none =>
          rw [threadMachine, Pool.machine_advance_none _ _ present]
          exact one
      | some thread =>
          rw [threadMachine, Pool.machine_advance _ _ present]
          apply AtMostOne.set one present
          intro busyNext
          rw [← Bool.not_eq_false, not_busy]
          intro done
          rw [exec_of_done done, not_busy.mpr done] at busyNext
          cases busyNext

theorem OneByOne.undisturbed {pool : Threads} (one : pool.OneByOne)
    (decision : Decision ServerOperation) : pool.Undisturbed decision := by
  cases decision with
  | spawn operation => trivial
  | advance index =>
      rintro ⟨key, action⟩ acting other otherMember
      cases present : pool.threads[index]? with
      | none => simp [present] at acting
      | some thread =>
          have acts : thread.acts = some (key, action) := by simpa [present] using acting
          have busy : Busy thread = true := by
            rw [← Bool.not_eq_false, not_busy]
            intro done
            rw [acts_of_done done] at acts
            cases acts
          have starts := (thread.exec_performs pool.shared.server key).starts
          have acted : thread.action key = action := by simp [Thread.action, acts]
          rw [acted] at starts
          rcases List.mem_iff_getElem?.mp otherMember with ⟨position, found⟩
          by_cases same : Busy other = true
          · obtain rfl := one present found busy same
            obtain rfl := Option.some.inj (present.symm.trans found)
            cases action <;> simp_all [Action.Starts, Action.crosses]
          · rw [Bool.not_eq_true, not_busy] at same
            rw [position_of_done same key]
            cases action <;> rfl

end Threads

/-! ## Reports between their two copies -/

section Reports

variable {Cost : Type} (costs : CostArithmetic Cost) (sort : LamportSort)

structure Preparation.Agrees (preparation : Preparation) (server : SwimServer) : Prop where
  listed : ∀ record ∈ preparation.listed, server.suspected.contains record.key = false
  returned : ∀ report ∈ preparation.report?, report.Consistent

theorem contains_of_reported {set : ServerRecordsSet} {now : UInt64}
    {record : ServerRecord}
    (member : record ∈ addRecordsToBudget costs sort now set.toList) :
    set.contains record.key = true :=
  OrderedSet.contains_of_mem (mem_of_mem_addRecordsToBudget costs sort member)

theorem Preparation.Agrees.exec {preparation : Preparation} {server : SwimServer}
    (agrees : preparation.Agrees server)
    (disjoint : ∀ key, ¬ (server.alive.contains key = true ∧
      server.suspected.contains key = true)) :
    (preparation.exec costs sort server).Agrees server := by
  cases preparation with
  | copyAlive aliveNow suspectedNow =>
      constructor
      · intro record member
        rw [← Bool.not_eq_true]
        intro suspected
        exact disjoint record.key ⟨contains_of_reported costs sort member, suspected⟩
      · simp [Preparation.exec, report?]
  | copySuspected report suspectedNow =>
      constructor
      · simp [Preparation.exec, Preparation.listed]
      · simp only [Preparation.exec, report?, Option.mem_some_iff, forall_eq']
        intro alive aliveMember suspect suspectMember equal
        have absent := agrees.listed alive aliveMember
        rw [equal, contains_of_reported costs sort suspectMember] at absent
        cases absent
  | returned report => exact agrees

namespace Preparing

structure Accurate (preparing : Preparing) : Prop where
  separated : ∀ key, preparing.threads.Separated key
  oneByOne : preparing.threads.OneByOne
  agrees : ∀ preparation ∈ preparing.preparations,
    preparation.Agrees preparing.threads.shared.server

theorem create_accurate (host : Host) (hostName : String) (port : UInt16)
    (statusCb : Bool) : (create host hostName port statusCb).Accurate where
  separated := Threads.create_separated host hostName port statusCb
  oneByOne := AtMostOne.nil
  agrees := by simp [create]

theorem Accurate.agrees_advance {preparing : Preparing} (accurate : preparing.Accurate)
    {decision : Decision ServerOperation}
    (steady : preparing.Steady (.operation decision)) {preparation : Preparation}
    (member : preparation ∈ preparing.preparations) :
    preparation.Agrees
      (threadMachine.step preparing.threads decision).shared.server := by
  have agrees := accurate.agrees preparation member
  refine ⟨fun record listed => ?_, agrees.returned⟩
  have absent := agrees.listed record listed
  rcases Threads.step_cases preparing.threads decision record.key with
    rests | ⟨index, thread, next, rfl, advances⟩
  · rw [rests.shared]
    exact absent
  · rw [advances.performs.suspected, absent]
    by_cases enters : thread.action record.key = .enterSuspected
    · have acts := thread.acts_of_action record.key (by simp [enters])
      have allowed := steady (record.key, thread.action record.key)
        (by simp [advances.present, acts]) enters preparation member record listed
      exact absurd rfl allowed
    · cases action : thread.action record.key <;> simp_all [Action.suspected]

theorem Accurate.step {preparing : Preparing} (accurate : preparing.Accurate)
    {event : PreparingEvent} (sequential : preparing.Sequential event)
    (steady : preparing.Steady event) :
    ((preparingMachine costs sort).step preparing event).Accurate := by
  cases event with
  | operation decision =>
      constructor
      · intro key
        exact (accurate.separated key).step (accurate.oneByOne.undisturbed decision)
      · apply accurate.oneByOne.step decision
        rintro operation rfl
        exact sequential
      · intro preparation member
        exact accurate.agrees_advance steady member
  | prepare aliveNow suspectedNow =>
      refine ⟨accurate.separated, accurate.oneByOne, ?_⟩
      intro preparation member
      rcases List.mem_append.mp member with old | new
      · exact accurate.agrees preparation old
      · rw [List.mem_singleton.mp new]
        exact ⟨by simp [Preparation.listed], by simp [Preparation.report?]⟩
  | copy index =>
      simp only [preparingMachine, react]
      split
      · exact accurate
      next preparation present =>
        refine ⟨accurate.separated, accurate.oneByOne, ?_⟩
        apply forall_mem_set accurate.agrees
        apply (accurate.agrees preparation (List.mem_of_getElem? present)).exec costs sort
        intro key
        exact (accurate.separated key).disjoint

/-- In every interleaving of reports with operations that do not overlap with each
other, every report is consistent, provided no server that a report lists as alive
comes to be suspected before the suspects are copied. -/
theorem reports_consistent_of_steady (host : Host) (hostName : String) (port : UInt16)
    (statusCb : Bool) (events : List PreparingEvent)
    (guarded : (preparingMachine costs sort).Along
      (fun preparing event => preparing.Sequential event ∧ preparing.Steady event)
      (create host hostName port statusCb) events) :
    ((preparingMachine costs sort).run (create host hostName port statusCb)
      events).Consistent := by
  have accurate := (preparingMachine costs sort).run_invariant Accurate
    (fun preparing event accurate guard => accurate.step costs sort guard.1 guard.2)
    (create_accurate host hostName port statusCb) guarded
  intro preparation member
  exact (accurate.agrees preparation member).returned

end Preparing

end Reports

theorem Preparing.reports_consistent_of_other_suspect :
    ((preparingMachine exactCosts stableSort).run
      (create ⟨"node", fun _ => "10.0.0.1"⟩ "" 9000 true)
      [.operation (.spawn (.addAlive { hostname := "peer", port := 9001 } 10)),
        .operation (.advance 0), .operation (.advance 0), .operation (.advance 0),
        .operation (.advance 0), .prepare 10 11, .copy 0,
        .operation (.spawn (.onUpdate { hostname := "peer", port := 9001 } 11)),
        .operation (.advance 1), .operation (.advance 1), .operation (.advance 1),
        .operation (.advance 1), .operation (.advance 1),
        .operation (.spawn (.reportSuspected { hostname := "other", port := 9002 } 11)),
        .operation (.advance 2), .operation (.advance 2), .operation (.advance 2),
        .operation (.advance 2), .copy 0]).Consistent :=
  reports_consistent_of_steady exactCosts stableSort ⟨"node", fun _ => "10.0.0.1"⟩ "" 9000
    true _ (by decide +kernel)

/-- A neighbour comes to be suspected between the two copies. -/
theorem Preparing.suspected_between_copies_listed_twice :
    let peer : Server := { hostname := "peer", port := 9001 }
    let events : List PreparingEvent :=
      [.operation (.spawn (.addAlive peer 10)),
        .operation (.advance 0), .operation (.advance 0), .operation (.advance 0),
        .operation (.advance 0), .prepare 10 11, .copy 0,
        .operation (.spawn (.reportSuspected peer 11)),
        .operation (.advance 1), .operation (.advance 1), .operation (.advance 1),
        .operation (.advance 1), .copy 0]
    let start := create ⟨"node", fun _ => "10.0.0.1"⟩ "" 9000 true
    (preparingMachine exactCosts stableSort).Along Sequential start events ∧
      ∃ report, ((preparingMachine exactCosts stableSort).run start events).preparations =
          [.returned report] ∧
        report.alive.map ServerRecord.key = [peer.key] ∧
        report.suspected.map ServerRecord.key = [peer.key] ∧ ¬ report.Consistent := by
  refine ⟨by decide +kernel, ?_⟩
  refine ⟨{ sender := { hostname := "node", port := 9000, ipAddr := some "10.0.0.1" }
            alive := [{ server := { hostname := "peer", port := 9001, ipAddr := some "" }
                        timestamp := 10 }]
            suspected := [{ server := { hostname := "peer", port := 9001, ipAddr := some "" }
                            timestamp := 11 }] }, ?_⟩
  exact ⟨by decide +kernel, rfl, rfl, by decide⟩

end Gossip
