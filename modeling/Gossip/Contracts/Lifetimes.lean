import Gossip.Semantics.Lifecycle

/-! # Lifetimes of listening loops

`isRunning()` is false as soon as `stop()` has been called, whether or not the loop has
noticed. So it depends on the delays whether a server that is restarted or destroyed has
stopped listening. -/

namespace Gossip

open Foundation

namespace Statement

def exclusive : Statement → Bool
  | .stop | .initAllBackgroundThreads | .startBackgroundThread => false
  | .stopAllBackgroundThreads | .sleep | .join _ | .wait _ | .restart | .checkRestarted
  | .destroyDetector | .awaitStopped _ | .checkStopped | .destroyServer | .complete _ => true

def harmless : Statement → Bool
  | .stop | .initAllBackgroundThreads | .startBackgroundThread | .sleep | .join _ | .wait _
  | .checkRestarted | .awaitStopped _ | .checkStopped => true
  | .stopAllBackgroundThreads | .restart | .destroyDetector | .destroyServer
  | .complete _ => false

def closing : Statement → Bool
  | .destroyServer | .complete _ => true
  | statement => statement.harmless

theorem harmless_exec {statement : Statement} (state : Lifecycle)
    (harmless : statement.harmless = true) :
    ∀ next ∈ (statement.exec state).2, next.harmless = true := by
  cases statement with
  | stop | startBackgroundThread | sleep | checkRestarted | checkStopped =>
      exact List.forall_mem_nil _
  | initAllBackgroundThreads =>
      simp only [exec]
      split <;> decide
  | join index | wait index =>
      simp only [exec]
      split <;> simp [Statement.harmless]
  | awaitStopped retries =>
      simp only [exec]
      split <;> simp [Statement.harmless]
  | stopAllBackgroundThreads | restart | destroyDetector | destroyServer | complete =>
      cases harmless

theorem not_exclusive_exec {statement : Statement} (state : Lifecycle)
    (apart : statement.exclusive = false) :
    ∀ next ∈ (statement.exec state).2, next.exclusive = false := by
  cases statement with
  | stop | startBackgroundThread => exact List.forall_mem_nil _
  | initAllBackgroundThreads =>
      simp only [exec]
      split <;> decide
  | stopAllBackgroundThreads | sleep | join | wait | restart | checkRestarted | destroyDetector
  | awaitStopped | checkStopped | destroyServer | complete => cases apart

theorem closing_exec {statement : Statement} (state : Lifecycle)
    (closing : statement.closing = true) :
    ∀ next ∈ (statement.exec state).2, next.closing = true := by
  have closes (next : Statement) (harmless : next.harmless = true) :
      next.closing = true := by
    cases next <;> first | exact harmless | cases harmless
  cases statement with
  | destroyServer => simp [exec, Statement.closing, Statement.harmless]
  | complete part => exact List.forall_mem_nil _
  | stopAllBackgroundThreads | restart | destroyDetector => cases closing
  | stop | initAllBackgroundThreads | startBackgroundThread | sleep | join | wait
  | checkRestarted | awaitStopped | checkStopped =>
      exact fun next member => closes next (harmless_exec state rfl next member)

end Statement

namespace Lifecycle

/-- There is one listening loop at most, and none when a destructor has returned. -/
structure Lifetimes (state : Lifecycle) : Prop where
  one : AtMostOne ListeningLoop.executing state.loops
  destroyed : state.destroyed ≠ [] → state.Quiet

/-! ## Delays that suffice -/

def exclusive (routine : List Statement) : Bool := routine.any Statement.exclusive

/-- Nothing is destroyed, and none of the calls that must not overlap is in progress. -/
def Free (state : Lifecycle) : Prop :=
  state.destroyed = [] ∧ ∀ routine ∈ state.calls, exclusive routine = false

/-- The wait for the server to stop is long enough, if it is going to be restarted or
destroyed. The destructor of a detector does not come while `start()` has still to clear the
flag. -/
def Allows (state : Lifecycle) (routine : List Statement) : Prop :=
  (routine.head? = some .sleep → .restart ∈ routine ∨ .destroyServer ∈ routine →
    state.Quiet) ∧
  (routine.head? = some .destroyDetector → state.Started)

/-- Besides, what must not overlap does not, and neither `start()` nor the destructor of a
server is called while the server listens. -/
def Orderly (state : Lifecycle) : Event → Prop
  | .begin .stop | .begin .initAllBackgroundThreads => True
  | .begin .stopAllBackgroundThreads | .begin .destroyDetector => state.Free
  | .begin .start | .begin .destroyServer => state.Free ∧ state.Quiet
  | .advance index => ∀ routine ∈ state.calls[index]?, state.Allows routine
  | .loop _ _ | .background _ => True

instance (state : Lifecycle) : Decidable state.Free :=
  inferInstanceAs (Decidable (_ ∧ ∀ routine ∈ state.calls, _))

instance (state : Lifecycle) (routine : List Statement) :
    Decidable (state.Allows routine) :=
  inferInstanceAs (Decidable (_ ∧ _))

instance (state : Lifecycle) : ∀ event, Decidable (state.Orderly event)
  | .begin .stop | .begin .initAllBackgroundThreads => isTrue trivial
  | .begin .stopAllBackgroundThreads | .begin .destroyDetector =>
      inferInstanceAs (Decidable state.Free)
  | .begin .start | .begin .destroyServer => inferInstanceAs (Decidable (_ ∧ _))
  | .advance _ => inferInstanceAs (Decidable (∀ routine ∈ _, _))
  | .loop _ _ | .background _ => isTrue trivial

/-! ## The calls, step by step -/

def lastSteps : List Statement := [.destroyServer, .complete .detector]

inductive Outlined (state : Lifecycle) : List Statement → Prop
  | harmless {routine : List Statement}
      (harmless : ∀ statement ∈ routine, statement.harmless = true) : Outlined state routine
  | stopAll (intact : state.destroyed = []) : Outlined state [.stopAllBackgroundThreads]
  | stopping (intact : state.destroyed = []) :
      Outlined state [.stop, .sleep, .join 0, .restart, .checkRestarted]
  | sleeping (intact : state.destroyed = []) :
      Outlined state [.sleep, .join 0, .restart, .checkRestarted]
  | joining (index : Nat) (intact : state.destroyed = []) (quiet : state.Quiet) :
      Outlined state [.join index, .restart, .checkRestarted]
  | waiting (index : Nat) (intact : state.destroyed = []) (quiet : state.Quiet) :
      Outlined state [.wait index, .restart, .checkRestarted]
  | restarting (intact : state.destroyed = []) (quiet : state.Quiet) :
      Outlined state [.restart, .checkRestarted]
  | closing {routine : List Statement} (quiet : state.Quiet)
      (closing : ∀ statement ∈ routine, statement.closing = true) : Outlined state routine
  | destroying : Outlined state [.destroyDetector]
  | telling (started : state.Started) :
      Outlined state
        (.stop :: .awaitStopped 5 :: .checkStopped :: .stopAllBackgroundThreads :: lastSteps)
  | awaiting (retries : Nat) (told : state.Told) :
      Outlined state
        (.awaitStopped retries :: .checkStopped :: .stopAllBackgroundThreads :: lastSteps)
  | checking (told : state.Told) :
      Outlined state (.checkStopped :: .stopAllBackgroundThreads :: lastSteps)
  | draining (told : state.Told) :
      Outlined state (.stopAllBackgroundThreads :: lastSteps)
  | sleepingLast : Outlined state (.sleep :: .join 0 :: lastSteps)

theorem Outlined.of_not_exclusive (state : Lifecycle) {routine : List Statement}
    (apart : exclusive routine = false) : state.Outlined routine := by
  refine .harmless fun statement member => ?_
  have alone := List.any_eq_false.mp apart statement member
  cases statement <;> first | rfl | exact absurd rfl alone

theorem Outlined.of_changes {state after : Lifecycle} {routine : List Statement}
    (outlined : state.Outlined routine) (changes : Changes state after)
    (same : after.destroyed = state.destroyed) : after.Outlined routine := by
  cases outlined with
  | harmless harmless => exact .harmless harmless
  | stopAll intact => exact .stopAll (same.trans intact)
  | stopping intact => exact .stopping (same.trans intact)
  | sleeping intact => exact .sleeping (same.trans intact)
  | joining index intact quiet =>
      exact .joining index (same.trans intact) (changes.quiet quiet)
  | waiting index intact quiet =>
      exact .waiting index (same.trans intact) (changes.quiet quiet)
  | restarting intact quiet => exact .restarting (same.trans intact) (changes.quiet quiet)
  | closing quiet closing => exact .closing (changes.quiet quiet) closing
  | destroying => exact .destroying
  | telling started => exact .telling (changes.started started)
  | awaiting retries told => exact .awaiting retries (changes.told told)
  | checking told => exact .checking (changes.told told)
  | draining told => exact .draining (changes.told told)
  | sleepingLast => exact .sleepingLast

theorem Outlined.exec {state : Lifecycle} {statement : Statement} {rest : List Statement}
    (outlined : state.Outlined (statement :: rest)) (allows : state.Allows (statement :: rest))
    (calls : List (List Statement)) :
    Outlined { (statement.exec state).1 with calls := calls }
      ((statement.exec state).2 ++ rest) := by
  cases outlined with
  | harmless harmless =>
      rcases List.forall_mem_cons.mp harmless with ⟨first, others⟩
      exact .harmless
        (List.forall_mem_append.mpr ⟨Statement.harmless_exec state first, others⟩)
  | stopAll intact =>
      by_cases running : state.isRunning = true
      · simp only [Statement.exec, running, if_true]
        exact .stopping intact
      · simp only [Statement.exec, running]
        exact .harmless (by decide)
  | stopping intact => exact .sleeping intact
  | sleeping intact => exact .joining 0 intact (allows.1 rfl (.inl (by decide)))
  | joining index intact quiet =>
      simp only [Statement.exec]
      split
      · exact .restarting intact quiet
      · exact .joining (index + 1) intact quiet
      · exact .waiting index intact quiet
  | waiting index intact quiet =>
      simp only [Statement.exec]
      split
      · exact .joining (index + 1) intact quiet
      · exact .waiting index intact quiet
  | restarting =>
      exact .harmless (List.forall_mem_singleton.mpr rfl)
  | closing quiet closing =>
      rcases List.forall_mem_cons.mp closing with ⟨first, others⟩
      have stays : statement ≠ .restart := by
        rintro rfl
        cases first
      have changes := exec_changes state calls stays
      exact .closing (changes.quiet quiet)
        (List.forall_mem_append.mpr ⟨Statement.closing_exec state first, others⟩)
  | destroying =>
      have started : state.Started := allows.2 rfl
      by_cases running : state.isRunning = true
      · simp only [Statement.exec, running, if_true]
        exact .telling started
      · simp only [Statement.exec, running]
        exact .draining ⟨by simpa [Lifecycle.isRunning] using running, started⟩
  | telling started => exact .awaiting 5 ⟨rfl, started⟩
  | awaiting retries told =>
      have steps : (Statement.exec state (.awaitStopped retries)).2 = [] := by
        simp [Statement.exec, told.not_running]
      rw [steps]
      exact .checking ((exec_changes state calls (by simp)).told told)
  | checking told =>
      exact .draining ((exec_changes state calls (by simp)).told told)
  | draining told =>
      have steps : (Statement.exec state .stopAllBackgroundThreads).2 =
          [.sleep, .join 0] := by
        simp [Statement.exec, told.not_running]
      rw [steps]
      exact .sleepingLast
  | sleepingLast =>
      refine .closing (allows.1 rfl (.inr (by decide))) ?_
      simp [Statement.exec, lastSteps, Statement.closing, Statement.harmless]

/-! ## Runs -/

structure Accounted (state : Lifecycle) : Prop where
  lifetimes : state.Lifetimes
  outlined : ∀ routine ∈ state.calls, state.Outlined routine
  alone : AtMostOne exclusive state.calls

theorem Lifetimes.of_changes {state after : Lifecycle} (lifetimes : state.Lifetimes)
    (changes : Changes state after) (same : after.destroyed = state.destroyed) :
    after.Lifetimes := by
  constructor
  · cases changes with
    | rest loops | stop loops => exact loops ▸ lifetimes.one
    | turn index loop next present loops proceeds =>
        exact loops ▸ lifetimes.one.set present proceeds.executing
  · intro destroyed
    exact changes.quiet (lifetimes.destroyed (same ▸ destroyed))

theorem Lifetimes.launch {state : Lifecycle} (lifetimes : state.Lifetimes)
    (intact : state.destroyed = []) (quiet : state.Quiet) : state.launch.Lifetimes :=
  ⟨lifetimes.one.append fun _ => quiet, fun destroyed => absurd intact destroyed⟩

namespace Accounted

variable {state after : Lifecycle}

theorem of_changes (accounted : state.Accounted) (changes : Changes state after)
    (same : after.destroyed = state.destroyed) (calls : after.calls = state.calls) :
    after.Accounted := by
  refine ⟨accounted.lifetimes.of_changes changes same, ?_, calls ▸ accounted.alone⟩
  intro routine member
  rw [calls] at member
  exact (accounted.outlined routine member).of_changes changes same

theorem launch (accounted : state.Accounted) (free : state.Free) (quiet : state.Quiet) :
    state.launch.Accounted :=
  ⟨accounted.lifetimes.launch free.1 quiet,
    fun routine member => .of_not_exclusive _ (free.2 routine member), accounted.alone⟩

theorem call (accounted : state.Accounted) {first : Statement}
    (outlined : state.Outlined [first])
    (free : first.exclusive = true → state.Free) : (state.call first).Accounted := by
  have changes : Changes state (state.call first) := .rest rfl rfl
  refine ⟨accounted.lifetimes.of_changes changes rfl, ?_, ?_⟩
  · refine List.forall_mem_append.mpr ⟨fun routine member => ?_, ?_⟩
    · exact (accounted.outlined routine member).of_changes changes rfl
    · exact List.forall_mem_singleton.mpr (outlined.of_changes changes rfl)
  · refine accounted.alone.append fun excluding => ?_
    exact (free (by simpa [exclusive] using excluding)).2

theorem begin (accounted : state.Accounted) {procedure : Procedure}
    (orderly : state.Orderly (.begin procedure)) : (state.begin procedure).Accounted := by
  cases procedure with
  | start => exact accounted.launch orderly.1 orderly.2
  | stop | initAllBackgroundThreads =>
      exact accounted.call (.harmless (by decide)) (fun excluding => by cases excluding)
  | stopAllBackgroundThreads => exact accounted.call (.stopAll orderly.1) fun _ => orderly
  | destroyServer =>
      exact accounted.call (.closing orderly.2 (by decide)) fun _ => orderly.1
  | destroyDetector => exact accounted.call .destroying fun _ => orderly

theorem exclusive_of_exec {statement : Statement} {rest : List Statement}
    (excluding : exclusive ((statement.exec state).2 ++ rest) = true) :
    exclusive (statement :: rest) = true := by
  rcases List.any_eq_true.mp excluding with ⟨next, member, isExclusive⟩
  rcases List.mem_append.mp member with new | old
  · cases apart : statement.exclusive with
    | true => simp [exclusive, apart]
    | false =>
        rw [Statement.not_exclusive_exec state apart next new] at isExclusive
        cases isExclusive
  · exact List.any_eq_true.mpr ⟨next, List.mem_cons_of_mem _ old, isExclusive⟩

theorem advance_exclusive (accounted : state.Accounted) {index : Nat} {statement : Statement}
    {rest : List Statement} (present : state.calls[index]? = some (statement :: rest))
    (allows : state.Allows (statement :: rest)) (excluding : statement.exclusive = true)
    (lifetimes : Lifetimes
      { (statement.exec state).1 with
        calls := state.calls.set index ((statement.exec state).2 ++ rest) }) :
    Accounted
      { (statement.exec state).1 with
        calls := state.calls.set index ((statement.exec state).2 ++ rest) } := by
  have outlined := accounted.outlined _ (List.mem_of_getElem? present)
  refine ⟨lifetimes, fun routine member => ?_, ?_⟩
  · rcases accounted.alone.others present (by simp [exclusive, excluding]) member with
      rfl | apart
    · exact outlined.exec allows _
    · exact .of_not_exclusive _ apart
  · exact accounted.alone.set present exclusive_of_exec

theorem advance (accounted : state.Accounted) {index : Nat}
    (orderly : state.Orderly (.advance index)) : (state.advance index).Accounted := by
  unfold Lifecycle.advance
  split
  next statement rest present =>
    have allows := orderly _ present
    have outlined := accounted.outlined _ (List.mem_of_getElem? present)
    by_cases launches : statement = .restart
    · subst launches
      refine accounted.advance_exclusive present allows rfl ?_
      cases outlined with
      | restarting intact quiet =>
          exact (accounted.lifetimes.launch intact quiet).of_changes (.rest rfl rfl) rfl
      | harmless harmless => cases harmless _ List.mem_cons_self
      | closing quiet closing => cases closing _ List.mem_cons_self
    by_cases completes : ∃ part, statement = .complete part
    · rcases completes with ⟨part, rfl⟩
      refine accounted.advance_exclusive present allows rfl ?_
      cases outlined with
      | closing quiet closing => exact ⟨accounted.lifetimes.one, fun _ => quiet⟩
      | harmless harmless => cases harmless _ List.mem_cons_self
    have same : (statement.exec state).1.destroyed = state.destroyed :=
      exec_destroyed state fun part equal => completes ⟨part, equal⟩
    have changes := exec_changes state
      (state.calls.set index ((statement.exec state).2 ++ rest)) launches
    refine ⟨accounted.lifetimes.of_changes changes same, ?_,
      accounted.alone.set present exclusive_of_exec⟩
    exact forall_mem_set
      (fun routine member => (accounted.outlined routine member).of_changes changes same)
      (outlined.exec allows _)
  next => exact accounted

theorem act (accounted : state.Accounted) {event : Event} (orderly : state.Orderly event) :
    (state.act event).Accounted := by
  unfold Lifecycle.act
  split
  · exact accounted
  cases event with
  | begin procedure => exact accounted.begin orderly
  | advance index => exact accounted.advance orderly
  | loop index outcome =>
      refine accounted.of_changes (turn_changes state index outcome) ?_ ?_ <;>
      · simp only [turn]
        split
        · rfl
        · split <;> rfl
  | background index => exact accounted.of_changes (.rest rfl rfl) rfl rfl

end Accounted

theorem create_accounted : create.Accounted :=
  ⟨⟨.nil, fun destroyed => absurd rfl destroyed⟩, List.forall_mem_nil _, .nil⟩

/-- In every interleaving in which the server has always stopped listening before it is
restarted or destroyed, there is one listening loop at most, and none when a destructor has
returned. -/
theorem lifetimes_of_orderly (events : List Event)
    (orderly : lifecycleMachine.Along Orderly create events) :
    (lifecycleMachine.run create events).Lifetimes := by
  have accounted := lifecycleMachine.run_invariant Accounted
    (fun state event accounted orderly => accounted.act orderly) create_accounted orderly
  exact accounted.lifetimes

theorem lifetimes_after_patient_restart :
    let events : List Event :=
      List.flatten
        [.begin .start :: List.replicate 4 (.loop 0 true),
          [.begin .stopAllBackgroundThreads, .advance 0, .advance 0],
          List.replicate 3 (.loop 0 false), List.replicate 3 (.advance 0),
          List.replicate 4 (.loop 1 true), [.advance 0],
          .begin .destroyDetector :: List.replicate 5 (.advance 1),
          List.replicate 3 (.loop 1 false), List.replicate 7 (.advance 1)]
    (lifecycleMachine.run create events).loops.length = 2 ∧
      (lifecycleMachine.run create events).destroyed = [.detector, .server] ∧
      (lifecycleMachine.run create events).Lifetimes := by
  intro events
  exact ⟨by decide +kernel, by decide +kernel,
    lifetimes_of_orderly events (by decide +kernel)⟩

/-- While the loop polls, its detector is destroyed, and the other time the server is
restarted. -/
theorem polling_loop_outlives_stop :
    let polling : List Event := .begin .start :: List.replicate 4 (.loop 0 true)
    let destroyed := lifecycleMachine.run (lifecycleMachine.run create polling)
      (.begin .destroyDetector :: List.replicate 12 (.advance 0))
    let restarted := lifecycleMachine.run (lifecycleMachine.run create polling)
      (.begin .stopAllBackgroundThreads :: List.replicate 5 (.advance 0))
    (destroyed.destroyed = [.detector, .server] ∧ destroyed.loops = [{ phase := .poll }] ∧
      ¬ destroyed.Lifetimes) ∧
    (restarted.loops = [{ phase := .poll }, { phase := .create }] ∧
      ¬ restarted.Lifetimes) := by
  intro polling destroyed restarted
  have loops : restarted.loops = [{ phase := .poll }, { phase := .create }] := by
    decide +kernel
  refine ⟨⟨by decide +kernel, by decide +kernel, fun lifetimes => ?_⟩, loops,
    fun lifetimes => ?_⟩
  · exact absurd (lifetimes.destroyed (by decide +kernel)) (by decide +kernel)
  · have equal : (0 : Nat) = 1 := lifetimes.one (by rw [loops]; rfl) (by rw [loops]; rfl)
      rfl rfl
    cases equal

end Lifecycle

end Gossip
