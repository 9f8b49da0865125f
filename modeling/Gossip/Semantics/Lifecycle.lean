import Gossip.Foundation.Interleaving

/-! # Starting and stopping a server

The listening loop runs in a thread of its own. The only thing that it shares with those who
start and stop it is the flag `stopped_`. Every access to the flag is a step, and a delay is
a step that comes late. -/

namespace Gossip

open Foundation

/-! ## The listening loop -/

/-- What an invocation of `start()` does next. -/
inductive LoopPhase
  | create
  | bind
  | clear
  | test
  | poll
  /-- The second look at `stopped_`, after `poll` has returned. -/
  | recheck (ready : Bool)
  | handle
  | leave
  | returned
deriving DecidableEq, Repr

structure ListeningLoop where
  phase : LoopPhase := .create
  handled : Nat := 0
deriving DecidableEq, Repr

namespace ListeningLoop

def executing (loop : ListeningLoop) : Bool := loop.phase ≠ .returned

/-- `start()` has been invoked and has not cleared the flag. -/
def starting (loop : ListeningLoop) : Bool :=
  match loop.phase with
  | .create | .bind | .clear => true
  | .test | .poll | .recheck _ | .handle | .leave | .returned => false

def listening (loop : ListeningLoop) : Bool :=
  match loop.phase with
  | .create | .bind | .returned => false
  | .clear | .test | .poll | .recheck _ | .handle | .leave => true

/-- The next step, with the flag before and after it. `outcome` is the answer of the system:
whether there is a socket, whether it can be bound, whether a message has come and whether it
can be received. Nobody catches the exception when the address is taken, and the process
dies. -/
def exec (stopped taken outcome : Bool) (loop : ListeningLoop) :
    Option (Bool × ListeningLoop) :=
  match loop.phase with
  | .create =>
      some (stopped, { loop with phase := if outcome then .bind else .returned })
  | .bind =>
      if outcome && !taken then some (stopped, { loop with phase := .clear }) else none
  | .clear => some (false, { loop with phase := .test })
  | .test => some (stopped, { loop with phase := if stopped then .leave else .poll })
  | .poll => some (stopped, { loop with phase := .recheck outcome })
  | .recheck ready =>
      some (stopped,
        { loop with
          phase := if stopped then .leave else if ready then .handle else .test })
  | .handle =>
      if outcome then some (stopped, { phase := .test, handled := loop.handled + 1 })
      else none
  | .leave => some (stopped, { loop with phase := .returned })
  | .returned => some (stopped, loop)

end ListeningLoop

/-! ## Calls -/

inductive BackgroundPhase
  | test
  | work
  | finished
  /-- It has finished and has been joined, so that it is not `joinable()`. -/
  | joined
deriving DecidableEq, Repr

def BackgroundPhase.exec (stopped : Bool) : BackgroundPhase → BackgroundPhase
  | .test => if stopped then .finished else .work
  | .work => .test
  | .finished => .finished
  | .joined => .joined

inductive Part
  | server
  | detector
deriving DecidableEq, Repr

/-- A step of a call. Those that are named after a function stand for its beginning. -/
inductive Statement
  | stop
  | initAllBackgroundThreads
  | startBackgroundThread
  | stopAllBackgroundThreads
  /-- The brief wait of `StopAllBackgroundThreads` for the server to stop. -/
  | sleep
  | join (index : Nat)
  | wait (index : Nat)
  | restart
  | checkRestarted
  | destroyDetector
  | awaitStopped (retries : Nat)
  | checkStopped
  | destroyServer
  | complete (part : Part)
deriving DecidableEq, Repr

/-- What the owner of a server or a detector can call. `start` is also what the constructor of
a detector does. -/
inductive Procedure
  | start
  | stop
  | initAllBackgroundThreads
  | stopAllBackgroundThreads
  | destroyServer
  | destroyDetector
deriving DecidableEq, Repr

/-- A server in its process. `calls` has what is left to do of every call, and `destroyed`
the destructors that have returned. -/
structure Lifecycle where
  stopped : Bool := true
  loops : List ListeningLoop := []
  background : List BackgroundPhase := []
  calls : List (List Statement) := []
  destroyed : List Part := []
  aborted : Bool := false
deriving DecidableEq, Repr

namespace Lifecycle

def isRunning (state : Lifecycle) : Bool := !state.stopped

def create : Lifecycle := {}

/-- `start()` is invoked in a new thread. -/
def launch (state : Lifecycle) : Lifecycle :=
  { state with loops := state.loops ++ [{}] }

end Lifecycle

def Statement.exec (state : Lifecycle) : Statement → Lifecycle × List Statement
  | .stop => ({ state with stopped := true }, [])
  | .initAllBackgroundThreads =>
      (state, if state.isRunning then List.replicate 4 .startBackgroundThread else [])
  | .startBackgroundThread =>
      ({ state with background := state.background ++ [.test] }, [])
  | .stopAllBackgroundThreads =>
      (state,
        if state.isRunning then [.stop, .sleep, .join 0, .restart, .checkRestarted]
        else [.sleep, .join 0])
  | .sleep => (state, [])
  | .join index =>
      (state,
        match state.background[index]? with
        | none => []
        | some .joined => [.join (index + 1)]
        | some _ => [.wait index])
  -- a thread can be joined once, and who waits for it any longer waits forever
  | .wait index =>
      if state.background[index]? = some .finished then
        ({ state with background := state.background.set index .joined }, [.join (index + 1)])
      else (state, [.wait index])
  | .restart => (state.launch, [])
  | .checkRestarted =>
      (if state.isRunning then state else { state with aborted := true }, [])
  | .destroyDetector =>
      (state,
        (if state.isRunning then [.stop, .awaitStopped 5, .checkStopped] else []) ++
          [.stopAllBackgroundThreads, .destroyServer, .complete .detector])
  | .awaitStopped retries =>
      (state,
        if state.isRunning && 0 < retries then [.awaitStopped (retries - 1)] else [])
  | .checkStopped =>
      (if state.isRunning then { state with aborted := true } else state, [])
  | .destroyServer => (state, [.stop, .awaitStopped 5, .complete .server])
  | .complete part => ({ state with destroyed := part :: state.destroyed }, [])

namespace Lifecycle

def call (state : Lifecycle) (first : Statement) : Lifecycle :=
  { state with calls := state.calls ++ [[first]] }

def begin (state : Lifecycle) : Procedure → Lifecycle
  | .start => state.launch
  | .stop => state.call .stop
  | .initAllBackgroundThreads => state.call .initAllBackgroundThreads
  | .stopAllBackgroundThreads => state.call .stopAllBackgroundThreads
  | .destroyServer => state.call .destroyServer
  | .destroyDetector => state.call .destroyDetector

inductive Event
  | begin (procedure : Procedure)
  | advance (index : Nat)
  | loop (index : Nat) (outcome : Bool)
  | background (index : Nat)
deriving DecidableEq, Repr

def advance (state : Lifecycle) (index : Nat) : Lifecycle :=
  match state.calls[index]? with
  | some (statement :: rest) =>
      let (after, more) := statement.exec state
      { after with calls := state.calls.set index (more ++ rest) }
  | _ => state

def turn (state : Lifecycle) (index : Nat) (outcome : Bool) : Lifecycle :=
  match state.loops[index]? with
  | none => state
  | some loop =>
      match loop.exec state.stopped (state.loops.any ListeningLoop.listening) outcome with
      | none => { state with aborted := true }
      | some (stopped, next) =>
          { state with stopped := stopped, loops := state.loops.set index next }

def act (state : Lifecycle) (event : Event) : Lifecycle :=
  if state.aborted then state
  else
    match event with
    | .begin procedure => state.begin procedure
    | .advance index => state.advance index
    | .loop index outcome => state.turn index outcome
    | .background index =>
        { state with background := state.background.modify index (·.exec state.stopped) }

end Lifecycle

def lifecycleMachine : Machine Lifecycle Lifecycle.Event := ⟨Lifecycle.act⟩

/-! ## What a step can do -/

namespace ListeningLoop

def due (loop : ListeningLoop) : Nat :=
  loop.handled + if loop.phase = .handle then 1 else 0

theorem handled_le_due (loop : ListeningLoop) : loop.handled ≤ loop.due :=
  Nat.le_add_right _ _

/-- What a step of a loop can do, where the flag is `stopped` before and `after` after it. -/
structure Proceeds (stopped after : Bool) (loop next : ListeningLoop) : Prop where
  executing : next.executing = true → loop.executing = true
  starting : next.starting = true → loop.starting = true
  flag : loop.starting = false → after = stopped
  due : stopped = true → loop.starting = false → next.due = loop.due

theorem exec_proceeds {stopped taken outcome after : Bool} {loop next : ListeningLoop}
    (exec : loop.exec stopped taken outcome = some (after, next)) :
    Proceeds stopped after loop next := by
  rcases loop with ⟨phase, handled⟩
  cases phase with
  | create | clear | poll | leave | returned =>
      cases exec
      constructor <;> simp [executing, starting, ListeningLoop.due]
  | bind =>
      simp only [ListeningLoop.exec, Option.ite_none_right_eq_some] at exec
      cases exec.2
      constructor <;> simp [executing, starting]
  | test =>
      cases exec
      cases stopped <;> constructor <;> simp [executing, starting, ListeningLoop.due]
  | recheck ready =>
      cases exec
      cases stopped <;> cases ready <;> constructor <;>
        simp [executing, starting, ListeningLoop.due]
  | handle =>
      simp only [ListeningLoop.exec, Option.ite_none_right_eq_some] at exec
      cases exec.2
      constructor <;> simp [executing, starting, ListeningLoop.due]

end ListeningLoop

namespace Lifecycle

/-- No invocation of `start()` is executing. -/
def Quiet (state : Lifecycle) : Prop := ∀ loop ∈ state.loops, loop.executing = false

/-- No invocation of `start()` has still to clear the flag. -/
def Started (state : Lifecycle) : Prop := ∀ loop ∈ state.loops, loop.starting = false

instance (state : Lifecycle) : Decidable state.Quiet :=
  inferInstanceAs (Decidable (∀ loop ∈ state.loops, _))

instance (state : Lifecycle) : Decidable state.Started :=
  inferInstanceAs (Decidable (∀ loop ∈ state.loops, _))

/-- The flag is set, and nobody is going to clear it. -/
structure Told (state : Lifecycle) : Prop where
  stopped : state.stopped = true
  started : state.Started

theorem Told.not_running {state : Lifecycle} (told : state.Told) :
    state.isRunning = false := by
  simp [isRunning, told.stopped]

/-- All that can happen to the flag and the loops unless `start()` is invoked. -/
inductive Changes (state after : Lifecycle) : Prop
  | rest (loops : after.loops = state.loops) (stopped : after.stopped = state.stopped)
  | stop (loops : after.loops = state.loops) (stopped : after.stopped = true)
  | turn (index : Nat) (loop next : ListeningLoop)
      (present : state.loops[index]? = some loop)
      (loops : after.loops = state.loops.set index next)
      (proceeds : ListeningLoop.Proceeds state.stopped after.stopped loop next)

namespace Changes

variable {state after : Lifecycle}

theorem forall_loops (changes : Changes state after) {holds : ListeningLoop → Bool}
    (proceeds : ∀ {loop next : ListeningLoop},
      ListeningLoop.Proceeds state.stopped after.stopped loop next →
        holds next = true → holds loop = true)
    (before : ∀ loop ∈ state.loops, holds loop = false) :
    ∀ loop ∈ after.loops, holds loop = false := by
  cases changes with
  | rest loops | stop loops =>
      rw [loops]
      exact before
  | turn index loop next present loops step =>
      rw [loops]
      refine forall_mem_set before (Bool.eq_false_iff.mpr fun nextHolds => ?_)
      have contrary := proceeds step nextHolds
      rw [before loop (List.mem_of_getElem? present)] at contrary
      cases contrary

theorem quiet (changes : Changes state after) (quiet : state.Quiet) : after.Quiet :=
  changes.forall_loops (fun proceeds => proceeds.executing) quiet

theorem started (changes : Changes state after) (started : state.Started) : after.Started :=
  changes.forall_loops (fun proceeds => proceeds.starting) started

theorem told (changes : Changes state after) (told : state.Told) : after.Told := by
  refine ⟨?_, changes.started told.started⟩
  cases changes with
  | rest loops stopped => exact stopped.trans told.stopped
  | stop loops stopped => exact stopped
  | turn index loop next present loops proceeds =>
      exact (proceeds.flag (told.started loop (List.mem_of_getElem? present))).trans
        told.stopped

theorem due (changes : Changes state after) (told : state.Told) :
    after.loops.map ListeningLoop.due = state.loops.map ListeningLoop.due := by
  cases changes with
  | rest loops | stop loops => rw [loops]
  | turn index loop next present loops proceeds =>
      have same := proceeds.due told.stopped
        (told.started loop (List.mem_of_getElem? present))
      have position : index < state.loops.length := (List.getElem?_eq_some_iff.mp present).1
      rw [loops, List.map_set, same]
      apply List.ext_getElem?
      intro other
      by_cases equal : index = other
      · subst equal
        rw [List.getElem?_set_self (by simpa using position), List.getElem?_map, present]
        rfl
      · rw [List.getElem?_set_ne equal]

end Changes

theorem turn_changes (state : Lifecycle) (index : Nat) (outcome : Bool) :
    Changes state (state.turn index outcome) := by
  unfold turn
  split
  next => exact .rest rfl rfl
  next loop present =>
    split
    next => exact .rest rfl rfl
    next stopped next exec =>
      exact .turn index loop next present rfl (ListeningLoop.exec_proceeds exec)

theorem exec_changes {statement : Statement} (state : Lifecycle)
    (calls : List (List Statement)) (stays : statement ≠ .restart) :
    Changes state { (statement.exec state).1 with calls := calls } := by
  cases statement with
  | stop => exact .stop rfl rfl
  | restart => contradiction
  | checkRestarted | checkStopped | wait =>
      simp only [Statement.exec]
      split <;> exact .rest rfl rfl
  | initAllBackgroundThreads | startBackgroundThread | stopAllBackgroundThreads | sleep
  | join | destroyDetector | awaitStopped | destroyServer | complete => exact .rest rfl rfl

theorem exec_destroyed {statement : Statement} (state : Lifecycle)
    (goesOn : ∀ part, statement ≠ .complete part) :
    (statement.exec state).1.destroyed = state.destroyed := by
  cases statement with
  | complete part => exact absurd rfl (goesOn part)
  | checkRestarted | checkStopped | wait =>
      simp only [Statement.exec]
      split <;> rfl
  | stop | initAllBackgroundThreads | startBackgroundThread | stopAllBackgroundThreads
  | sleep | join | restart | destroyDetector | awaitStopped | destroyServer => rfl

end Lifecycle

end Gossip
