import Gossip.Semantics.Lifecycle
import Mathlib.Algebra.BigOperators.Group.List.Basic
import Mathlib.Algebra.GroupWithZero.Nat

/-! # Joining the background threads

`StopAllBackgroundThreads` joins one thread after the other. When it has joined all of them
they are over for good, whatever the others do in the meantime. It does not wait forever
either: once the server has been told to stop, a background thread takes two more turns at
most, and a call that still has to wait for something gets to its end. Nothing protects
`threads_`, so that all this rests on callers who take turns. -/

namespace Gossip

open Foundation

/-! ## Taking turns -/

namespace Statement

def usesThreads : Statement → Bool
  | .initAllBackgroundThreads | .startBackgroundThread | .stopAllBackgroundThreads | .join _
  | .wait _ | .destroyDetector => true
  | .stop | .sleep | .restart | .checkRestarted | .awaitStopped _ | .checkStopped
  | .destroyServer | .complete _ => false

def destroys : Statement → Bool
  | .destroyDetector | .destroyServer | .complete _ => true
  | .stop | .initAllBackgroundThreads | .startBackgroundThread | .stopAllBackgroundThreads
  | .sleep | .join _ | .wait _ | .restart | .checkRestarted | .awaitStopped _
  | .checkStopped => false

theorem usesThreads_exec {statement : Statement} (state : Lifecycle)
    (apart : statement.usesThreads = false) :
    ∀ next ∈ (statement.exec state).2, next.usesThreads = false := by
  cases statement with
  | initAllBackgroundThreads | startBackgroundThread | stopAllBackgroundThreads | join | wait
  | destroyDetector => cases apart
  | stop | sleep | restart | checkRestarted | checkStopped | complete =>
      exact List.forall_mem_nil _
  | awaitStopped retries =>
      simp only [exec]
      split <;> simp [usesThreads]
  | destroyServer => simp [exec, usesThreads]

end Statement

namespace Lifecycle

def usesThreads (routine : List Statement) : Bool := routine.any Statement.usesThreads

/-- Whether a call may be made while this is left to do of another one: two calls must not use
`threads_` at once, and a destructor must not overlap with anything. -/
def mayOverlap (routine : List Statement) : Procedure → Bool
  | .start | .stop => !routine.any Statement.destroys
  | .initAllBackgroundThreads | .stopAllBackgroundThreads =>
      !routine.any Statement.destroys && !usesThreads routine
  | .destroyServer | .destroyDetector => routine.isEmpty

def admits (state : Lifecycle) : Event → Bool
  | .begin procedure =>
      state.destroyed.isEmpty && state.calls.all fun routine => mayOverlap routine procedure
  | .advance _ | .loop _ _ | .background _ => true

def proceed (state : Lifecycle) (event : Event) : Lifecycle :=
  if state.admits event then state.act event else state

end Lifecycle

/-- A server and its detector in the hands of careful callers. -/
def carefulMachine : Machine Lifecycle Lifecycle.Event := ⟨Lifecycle.proceed⟩

namespace Lifecycle

theorem proceed_keeps (invariant : Lifecycle → Prop) {state : Lifecycle} {event : Event}
    (holds : invariant state) (acts : invariant (state.act event)) :
    invariant (state.proceed event) := by
  unfold proceed
  split
  · exact acts
  · exact holds

/-! ## Background threads -/

def Joined (count : Nat) (state : Lifecycle) : Prop :=
  ∀ thread < count, state.background[thread]? = some .joined

inductive Manages (state after : Lifecycle) : Prop
  | rest (background : after.background = state.background)
  | start (background : after.background = state.background ++ [.test])
  | turn (index : Nat)
      (background : after.background =
        state.background.modify index (BackgroundPhase.exec state.stopped))
  | join (index : Nat) (finished : state.background[index]? = some .finished)
      (background : after.background = state.background.set index .joined)

theorem exec_background {statement : Statement} (state : Lifecycle)
    (other : statement ≠ .startBackgroundThread) (passes : ∀ index, statement ≠ .wait index) :
    (statement.exec state).1.background = state.background := by
  cases statement with
  | startBackgroundThread => exact absurd rfl other
  | wait index => exact absurd rfl (passes index)
  | checkRestarted | checkStopped =>
      simp only [Statement.exec]
      split <;> rfl
  | stop | initAllBackgroundThreads | stopAllBackgroundThreads | sleep | join | restart
  | destroyDetector | awaitStopped | destroyServer | complete => rfl

theorem exec_length {statement : Statement} (state : Lifecycle)
    (other : statement ≠ .startBackgroundThread) :
    (statement.exec state).1.background.length = state.background.length := by
  by_cases waits : ∃ index, statement = .wait index
  · rcases waits with ⟨index, rfl⟩
    simp only [Statement.exec]
    split
    · exact List.length_set
    · rfl
  · rw [exec_background state other fun index same => waits ⟨index, same⟩]

theorem exec_manages (state : Lifecycle) (statement : Statement) (calls : List (List Statement)) :
    Manages state { (statement.exec state).1 with calls := calls } := by
  by_cases starts : statement = .startBackgroundThread
  · subst starts
    exact .start rfl
  by_cases waits : ∃ index, statement = .wait index
  · rcases waits with ⟨index, rfl⟩
    simp only [Statement.exec]
    split
    next finished => exact .join index finished rfl
    next => exact .rest rfl
  · exact .rest (exec_background state starts fun index same => waits ⟨index, same⟩)

theorem advance_manages (state : Lifecycle) (index : Nat) :
    Manages state (state.advance index) := by
  unfold advance
  split
  next statement rest present => exact exec_manages state statement _
  next => exact .rest rfl

theorem turn_background (state : Lifecycle) (index : Nat) (outcome : Bool) :
    (state.turn index outcome).background = state.background := by
  unfold turn
  split
  · rfl
  · split <;> rfl

theorem act_manages (state : Lifecycle) (event : Event) : Manages state (state.act event) := by
  unfold act
  split
  · exact .rest rfl
  cases event with
  | begin procedure => cases procedure <;> exact .rest rfl
  | advance index => exact state.advance_manages index
  | loop index outcome => exact .rest (state.turn_background index outcome)
  | background index => exact .turn index rfl

namespace Manages

variable {state after : Lifecycle}

theorem length_le (manages : Manages state after) :
    state.background.length ≤ after.background.length := by
  cases manages with
  | rest background => exact Nat.le_of_eq (congrArg List.length background).symm
  | start background => simp [background]
  | turn index background => simp [background]
  | join index finished background => simp [background]

theorem keeps (manages : Manages state after) (holds : BackgroundPhase → Prop)
    (turns : ∀ phase stopped, holds phase → holds (phase.exec stopped))
    {thread : Nat} (joins : state.background[thread]? = some .finished → holds .joined)
    {phase : BackgroundPhase} (found : state.background[thread]? = some phase)
    (before : holds phase) :
    ∃ next, after.background[thread]? = some next ∧ holds next := by
  have inside := (List.getElem?_eq_some_iff.mp found).1
  cases manages with
  | rest background => exact ⟨phase, by rw [background, found], before⟩
  | start background =>
      exact ⟨phase, by rw [background, List.getElem?_append_left inside, found], before⟩
  | turn index background =>
      rw [background, List.getElem?_modify, found]
      by_cases here : index = thread
      · exact ⟨_, by simp [here], turns phase state.stopped before⟩
      · exact ⟨phase, by simp [here], before⟩
  | join index finished background =>
      by_cases here : index = thread
      · subst here
        exact ⟨.joined, by rw [background, List.getElem?_set_self inside], joins finished⟩
      · exact ⟨phase, by rw [background, List.getElem?_set_ne here, found], before⟩

theorem joined (manages : Manages state after) {count : Nat} (joined : state.Joined count) :
    after.Joined count := by
  intro thread below
  rcases manages.keeps (· = .joined) (fun phase stopped same => by rw [same]; rfl)
    (fun _ => rfl) (joined thread below) rfl with ⟨next, found, rfl⟩
  exact found

end Manages

theorem Joined.run {count : Nat} {state : Lifecycle} (joined : state.Joined count)
    (events : List Event) : (carefulMachine.run state events).Joined count :=
  carefulMachine.run_keeps (Joined count)
    (fun state event joined =>
      proceed_keeps (Joined count) joined ((state.act_manages event).joined joined))
    state events joined

/-! ## Calls -/

theorem act_calls {state : Lifecycle} {index : Nat} {routine : List Statement}
    (present : state.calls[index]? = some routine) (event : Event) :
    (state.act event).calls[index]? = some routine ∨
      ∃ statement rest, event = .advance index ∧ routine = statement :: rest ∧
        (state.act event).calls[index]? = some ((statement.exec state).2 ++ rest) ∧
        (state.act event).background = (statement.exec state).1.background := by
  have inside := (List.getElem?_eq_some_iff.mp present).1
  unfold act
  split
  · exact .inl present
  cases event with
  | begin procedure =>
      left
      cases procedure with
      | start => exact present
      | stop | initAllBackgroundThreads | stopAllBackgroundThreads | destroyServer
      | destroyDetector => exact (List.getElem?_append_left inside).trans present
  | loop other outcome =>
      left
      rw [← present]
      simp only [turn]
      split
      · rfl
      · split <;> rfl
  | background other => exact .inl present
  | advance other =>
      simp only [advance]
      split
      next statement rest found =>
        by_cases here : other = index
        · subst here
          exact .inr ⟨statement, rest, rfl, Option.some.inj (present.symm.trans found),
            List.getElem?_set_self inside, rfl⟩
        · exact .inl ((List.getElem?_set_ne here).trans present)
      next => exact .inl present

/-! ## Waiting for all -/

/-- The call is in the loop that joins the threads, at this thread. -/
def AtLoop (index position : Nat) (rest : List Statement) (state : Lifecycle) : Prop :=
  state.calls[index]? = some (.join position :: rest) ∨
    state.calls[index]? = some (.wait position :: rest)

structure Joins (count index : Nat) (rest : List Statement) (state : Lifecycle) : Prop where
  present : count ≤ state.background.length
  progress : state.Joined count ∨
    ∃ position, state.AtLoop index position rest ∧ state.Joined position

theorem Joined.succ {state : Lifecycle} {position : Nat} (joined : state.Joined position)
    (next : state.background[position]? = some .joined) : state.Joined (position + 1) := by
  intro thread below
  rcases Nat.lt_succ_iff_lt_or_eq.mp below with earlier | rfl
  · exact joined thread earlier
  · exact next

theorem Joins.act {count index : Nat} {rest : List Statement} {state : Lifecycle}
    (joins : state.Joins count index rest) (event : Event) :
    (state.act event).Joins count index rest := by
  have manages := state.act_manages event
  refine ⟨Nat.le_trans joins.present manages.length_le, ?_⟩
  rcases joins.progress with joined | ⟨position, joining | waiting, joined⟩
  · exact .inl (manages.joined joined)
  · have kept := manages.joined joined
    rcases act_calls joining event with still | ⟨statement, others, -, equal, next, background⟩
    · exact .inr ⟨position, .inl still, kept⟩
    cases equal
    rw [Statement.exec] at next
    cases found : state.background[position]? with
    | none =>
        left
        intro thread below
        have outside := List.getElem?_eq_none_iff.mp found
        have present := joins.present
        exact kept thread (by omega)
    | some phase =>
        right
        rw [found] at next
        cases phase with
        | joined => exact ⟨position + 1, .inl next, kept.succ (background ▸ found)⟩
        | test | work | finished => exact ⟨position, .inr next, kept⟩
  · have kept := manages.joined joined
    right
    rcases act_calls waiting event with still | ⟨statement, others, -, equal, next, background⟩
    · exact ⟨position, .inr still, kept⟩
    cases equal
    rw [Statement.exec] at next background
    by_cases finished : state.background[position]? = some .finished
    · rw [if_pos finished] at next background
      have inside := (List.getElem?_eq_some_iff.mp finished).1
      refine ⟨position + 1, .inl next, kept.succ ?_⟩
      rw [background]
      exact List.getElem?_set_self inside
    · rw [if_neg finished] at next
      exact ⟨position, .inr next, kept⟩

/-- Whoever leaves the loop that joins the background threads has joined every thread that was
there when it entered the loop, and none of them ever works again: whatever other calls are
made by callers who take turns, and whether the server is restarted or not. -/
theorem join_waits_for_all (before during later : List Event) {index : Nat}
    {rest : List Statement}
    (enters : (carefulMachine.run create before).calls[index]? = some (.join 0 :: rest))
    (left : ∀ position,
      ¬ (carefulMachine.run create (before ++ during)).AtLoop index position rest) :
    (carefulMachine.run create (before ++ during ++ later)).Joined
      (carefulMachine.run create before).background.length := by
  let state := carefulMachine.run create before
  have start : state.Joins state.background.length index rest :=
    ⟨Nat.le_refl _,
      .inr ⟨0, .inl enters, fun thread below => absurd below (Nat.not_lt_zero thread)⟩⟩
  have joins := carefulMachine.run_keeps (Joins state.background.length index rest)
    (fun _ event joins => proceed_keeps (Joins _ _ _) joins (joins.act event)) state during start
  rw [Machine.run_append] at left
  have joined : (carefulMachine.run state during).Joined state.background.length := by
    rcases joins.progress with joined | ⟨position, joining, -⟩
    · exact joined
    · exact absurd joining (left position)
  rw [Machine.run_append, Machine.run_append]
  exact joined.run later

def threadsStarted : List Event :=
  [.begin .start, .loop 0 true, .loop 0 true, .loop 0 true, .begin .initAllBackgroundThreads,
    .advance 0, .advance 0, .advance 0, .advance 0, .advance 0]

def stopBegun : List Event :=
  threadsStarted ++ [.begin .stopAllBackgroundThreads, .advance 1, .advance 1]

theorem join_waits_before_restart :
    let before : List Event := stopBegun ++ [.advance 1]
    let during : List Event :=
      [.background 0, .advance 1, .background 1, .background 2, .background 3] ++
        List.replicate 8 (.advance 1)
    let later : List Event := [.advance 1, .background 2, .loop 1 true]
    (carefulMachine.run create before).background = List.replicate 4 .test ∧
      (carefulMachine.run create (before ++ during ++ later)).Joined
        (carefulMachine.run create before).background.length := by
  intro before during later
  have enters : (carefulMachine.run create before).calls[1]? =
      some [.join 0, .restart, .checkRestarted] := by decide
  have passed : (carefulMachine.run create (before ++ during)).calls[1]? =
      some [.restart, .checkRestarted] := by decide
  exact ⟨by decide, join_waits_for_all before during later enters (by simp [AtLoop, passed])⟩

/-! ## Nobody joins twice -/

def Unjoined (background : List BackgroundPhase) (position : Nat) : Prop :=
  ∃ phase, background[position]? = some phase ∧ phase ≠ .joined

theorem Unjoined.append {background : List BackgroundPhase} {position : Nat}
    (unjoined : Unjoined background position) (more : List BackgroundPhase) :
    Unjoined (background ++ more) position := by
  rcases unjoined with ⟨phase, found, fresh⟩
  have inside := (List.getElem?_eq_some_iff.mp found).1
  exact ⟨phase, by rw [List.getElem?_append_left inside, found], fresh⟩

theorem Unjoined.modify {background : List BackgroundPhase} {position : Nat}
    (unjoined : Unjoined background position) (stopped : Bool) (index : Nat) :
    Unjoined (background.modify index (BackgroundPhase.exec stopped)) position := by
  rcases unjoined with ⟨phase, found, fresh⟩
  rw [Unjoined, List.getElem?_modify, found]
  by_cases here : index = position
  · refine ⟨phase.exec stopped, by simp [here], ?_⟩
    cases phase with
    | joined => exact absurd rfl fresh
    | test | work | finished => cases stopped <;> simp [BackgroundPhase.exec]
  · exact ⟨phase, by simp [here], fresh⟩

structure Placed (background : List BackgroundPhase) (routine : List Statement) : Prop where
  tail : ∀ position, .wait position ∉ routine.tail
  head : ∀ position, routine.head? = some (.wait position) → Unjoined background position

theorem Placed.append {background : List BackgroundPhase} {more rest : List Statement}
    (alone : ∀ position, .wait position ∈ more →
      more = [.wait position] ∧ Unjoined background position)
    (free : ∀ position, .wait position ∉ rest) : Placed background (more ++ rest) := by
  cases more with
  | nil =>
      refine ⟨fun position member => free position (List.mem_of_mem_tail member), ?_⟩
      exact fun position first => absurd (List.mem_of_head? first) (free position)
  | cons first others =>
      constructor
      · intro position member
        rcases List.mem_append.mp member with own | later
        · have single := (alone position (List.mem_cons_of_mem _ own)).1
          rw [(List.cons.inj single).2] at own
          cases own
        · exact free position later
      · intro position same
        cases Option.some.inj same
        exact (alone position List.mem_cons_self).2

theorem exec_waits {state : Lifecycle} {statement : Statement}
    (still : ∀ position, statement = .wait position → Unjoined state.background position)
    (position : Nat) (member : .wait position ∈ (statement.exec state).2) :
    (statement.exec state).2 = [.wait position] ∧
      Unjoined (statement.exec state).1.background position := by
  cases statement with
  | stop | startBackgroundThread | sleep | restart | checkRestarted | checkStopped | complete =>
      cases member
  | initAllBackgroundThreads | stopAllBackgroundThreads | destroyDetector | awaitStopped =>
      simp only [Statement.exec] at member
      split at member <;> simp at member
  | destroyServer => simp [Statement.exec] at member
  | join index =>
      simp only [Statement.exec] at member ⊢
      split at member
      next => cases member
      next => simp at member
      next phase fresh found =>
        cases List.mem_singleton.mp member
        exact ⟨rfl, phase, found, fresh⟩
  | wait index =>
      simp only [Statement.exec] at member ⊢
      split at member
      next => simp at member
      next unfinished =>
        cases List.mem_singleton.mp member
        rw [if_neg unfinished]
        exact ⟨rfl, still position rfl⟩

structure TakesTurns (state : Lifecycle) : Prop where
  alone : AtMostOne usesThreads state.calls
  placed : ∀ (index : Nat) routine, state.calls[index]? = some routine →
    Placed state.background routine

namespace TakesTurns

variable {state after : Lifecycle}

theorem of_calls (turns : state.TakesTurns) (calls : after.calls = state.calls)
    (kept : ∀ position, Unjoined state.background position →
      Unjoined after.background position) : after.TakesTurns := by
  refine ⟨calls ▸ turns.alone, ?_⟩
  intro index routine present
  have placed := turns.placed index routine (calls ▸ present)
  exact ⟨placed.tail, fun position first => kept position (placed.head position first)⟩

theorem call (turns : state.TakesTurns) {first : Statement}
    (free : first.usesThreads = true → ∀ routine ∈ state.calls, usesThreads routine = false)
    (passes : ∀ position, first ≠ .wait position) : (state.call first).TakesTurns := by
  constructor
  · apply turns.alone.append
    intro uses
    exact free (by simpa [usesThreads] using uses)
  · intro index routine present
    rcases List.mem_append.mp (List.mem_of_getElem? present) with old | new
    · rcases List.mem_iff_getElem?.mp old with ⟨other, found⟩
      exact turns.placed other routine found
    · cases List.mem_singleton.mp new
      refine ⟨fun position => List.not_mem_nil, ?_⟩
      exact fun position same => absurd (Option.some.inj same) (passes position)

theorem begin (turns : state.TakesTurns) {procedure : Procedure}
    (admitted : state.admits (.begin procedure) = true) :
    (state.begin procedure).TakesTurns := by
  have allowed := List.all_eq_true.mp ((Bool.and_eq_true _ _).mp admitted).2
  cases procedure with
  | start => exact turns.of_calls rfl fun _ unjoined => unjoined
  | stop => exact turns.call (by simp [Statement.usesThreads]) (by simp)
  | initAllBackgroundThreads | stopAllBackgroundThreads =>
      refine turns.call (fun _ routine member => ?_) (by simp)
      have apart := allowed routine member
      simp only [mayOverlap, Bool.and_eq_true, Bool.not_eq_true'] at apart
      exact apart.2
  | destroyServer => exact turns.call (by simp [Statement.usesThreads]) (by simp)
  | destroyDetector =>
      refine turns.call (fun _ routine member => ?_) (by simp)
      have returned := allowed routine member
      rw [mayOverlap, List.isEmpty_iff] at returned
      rw [returned]
      rfl

theorem advance (turns : state.TakesTurns) (index : Nat) :
    (state.advance index).TakesTurns := by
  unfold Lifecycle.advance
  split
  next statement rest present =>
    have placed := turns.placed index _ present
    have still (position : Nat) (waits : statement = .wait position) :
        Unjoined state.background position :=
      placed.head position (by rw [waits]; rfl)
    constructor
    · apply turns.alone.set present
      intro uses
      simp only [usesThreads, List.any_append, List.any_cons, Bool.or_eq_true] at uses ⊢
      refine uses.imp_left fun own => ?_
      by_contra apart
      rcases List.any_eq_true.mp own with ⟨next, member, uses⟩
      rw [Statement.usesThreads_exec state (Bool.eq_false_iff.mpr apart) next member] at uses
      cases uses
    · intro other routine found
      by_cases here : index = other
      · subst here
        have inside := (List.getElem?_eq_some_iff.mp present).1
        cases Option.some.inj ((List.getElem?_set_self inside).symm.trans found)
        exact .append (exec_waits still) placed.tail
      · rw [List.getElem?_set_ne here] at found
        have otherPlaced := turns.placed other routine found
        refine ⟨otherPlaced.tail, fun position first => ?_⟩
        have unjoined := otherPlaced.head position first
        -- two calls that wait for threads would be two that use them
        have passes (joined : Nat) : statement ≠ .wait joined := by
          rintro rfl
          have uses : usesThreads routine = true :=
            List.any_eq_true.mpr ⟨_, List.mem_of_head? first, rfl⟩
          exact here (turns.alone present found rfl uses)
        by_cases starts : statement = .startBackgroundThread
        · subst starts
          exact unjoined.append [.test]
        · rw [exec_background state starts passes]
          exact unjoined
  next => exact turns

theorem proceed (turns : state.TakesTurns) (event : Event) :
    (state.proceed event).TakesTurns := by
  unfold Lifecycle.proceed
  split
  next admitted =>
    unfold act
    split
    · exact turns
    cases event with
    | begin procedure => exact turns.begin admitted
    | advance index => exact turns.advance index
    | loop index outcome =>
        refine turns.of_calls ?_ fun position unjoined => ?_
        · simp only [turn]
          split
          · rfl
          · split <;> rfl
        · rw [state.turn_background index outcome]
          exact unjoined
    | background index =>
        exact turns.of_calls rfl fun position unjoined => unjoined.modify state.stopped index
  next => exact turns

theorem run_create (events : List Event) : (carefulMachine.run create events).TakesTurns :=
  carefulMachine.run_keeps TakesTurns (fun _ event turns => turns.proceed event) create events
    ⟨.nil, fun _ _ present => by cases present⟩

end TakesTurns

end Lifecycle

/-! ## Getting to the end -/

def BackgroundPhase.over : BackgroundPhase → Bool
  | .finished | .joined => true
  | .test | .work => false

def BackgroundPhase.turnsLeft : BackgroundPhase → Nat
  | .work => 2
  | .test => 1
  | .finished | .joined => 0

theorem BackgroundPhase.turnsLeft_exec (phase : BackgroundPhase) :
    (phase.exec true).turnsLeft = phase.turnsLeft - 1 := by
  cases phase <;> rfl

/-- How many steps can follow from a step, with it, when no more threads are started and none
has to be waited for. -/
def Statement.effort (threads : Nat) : Statement → Nat
  | .stop | .startBackgroundThread | .sleep | .restart | .checkRestarted | .checkStopped
  | .complete _ => 1
  | .initAllBackgroundThreads => 5
  | .join index => 2 * (threads - index) + 2
  | .wait index => 2 * (threads - index) + 1
  | .stopAllBackgroundThreads => 2 * threads + 7
  | .awaitStopped retries => retries + 1
  | .destroyServer => 9
  | .destroyDetector => 2 * threads + 26

def stepsLeft (threads : Nat) (routine : List Statement) : Nat :=
  (routine.map (Statement.effort threads)).sum

theorem stepsLeft_cons (threads : Nat) (statement : Statement) (rest : List Statement) :
    stepsLeft threads (statement :: rest) =
      statement.effort threads + stepsLeft threads rest := by
  simp [stepsLeft]

theorem stepsLeft_append (threads : Nat) (first second : List Statement) :
    stepsLeft threads (first ++ second) = stepsLeft threads first + stepsLeft threads second := by
  simp [stepsLeft]

theorem eq_nil_of_stepsLeft {threads : Nat} {routine : List Statement}
    (none : stepsLeft threads routine = 0) : routine = [] := by
  cases routine with
  | nil => rfl
  | cons statement rest =>
      have positive : 0 < statement.effort threads := by
        cases statement <;> simp [Statement.effort]
      rw [stepsLeft_cons] at none
      omega

namespace Lifecycle

def Finished (count : Nat) (state : Lifecycle) : Prop :=
  ∀ thread < count, ∃ phase, state.background[thread]? = some phase ∧ phase.over = true

theorem Manages.finished {state after : Lifecycle} (manages : Manages state after) {count : Nat}
    (finished : state.Finished count) : after.Finished count := by
  intro thread below
  rcases finished thread below with ⟨phase, found, isOver⟩
  refine manages.keeps (·.over = true) (fun phase stopped isOver => ?_) (fun _ => rfl) found isOver
  cases phase with
  | test | work => cases isOver
  | finished | joined => rfl

end Lifecycle

theorem Statement.stepsLeft_exec (state : Lifecycle) (statement : Statement)
    (still : ∀ position, statement = .wait position →
      Lifecycle.Unjoined state.background position) :
    let threads := state.background.length
    stepsLeft threads (statement.exec state).2 ≤ statement.effort threads ∧
      (state.Finished threads →
        stepsLeft threads (statement.exec state).2 < statement.effort threads) := by
  intro threads
  suffices behind : stepsLeft threads (statement.exec state).2 < statement.effort threads ∨
      (∃ index, statement = .wait index ∧ state.background[index]? ≠ some .finished ∧
        (statement.exec state).2 = [.wait index]) by
    rcases behind with less | ⟨index, rfl, unfinished, again⟩
    · exact ⟨Nat.le_of_lt less, fun _ => less⟩
    · refine ⟨by simp [again, stepsLeft], fun finished => absurd ?_ unfinished⟩
      rcases still index rfl with ⟨phase, found, fresh⟩
      rcases finished index (List.getElem?_eq_some_iff.mp found).1 with ⟨same, sameFound, isOver⟩
      cases Option.some.inj (found.symm.trans sameFound)
      cases phase with
      | finished => exact found
      | joined => exact absurd rfl fresh
      | test | work => cases isOver
  cases statement with
  | stop | startBackgroundThread | sleep | restart | checkRestarted | checkStopped | complete =>
      left
      simp [exec, stepsLeft, effort]
  | initAllBackgroundThreads | stopAllBackgroundThreads | destroyDetector =>
      left
      simp only [exec]
      split <;> simp [stepsLeft, effort] <;> omega
  | destroyServer =>
      left
      simp [exec, stepsLeft, effort]
  | awaitStopped retries =>
      left
      simp only [exec]
      split
      next waits =>
        have some := (Bool.and_eq_true _ _).mp waits
        have positive := of_decide_eq_true some.2
        simp only [stepsLeft, effort, List.map_cons, List.map_nil, List.sum_cons, List.sum_nil]
        omega
      next => simp [stepsLeft, effort]
  | join index =>
      left
      cases found : state.background[index]? with
      | none => simp [exec, found, stepsLeft, effort]
      | some phase =>
          have inside : index < threads := (List.getElem?_eq_some_iff.mp found).1
          cases phase with
          | joined =>
              simp only [exec, found, stepsLeft, effort, List.map_cons, List.map_nil,
                List.sum_cons, List.sum_nil]
              omega
          | test | work | finished => simp [exec, found, stepsLeft, effort]
  | wait index =>
      by_cases finished : state.background[index]? = some .finished
      · left
        have inside : index < threads := (List.getElem?_eq_some_iff.mp finished).1
        simp only [exec, if_pos finished, stepsLeft, effort, List.map_cons, List.map_nil,
          List.sum_cons, List.sum_nil]
        omega
      · exact .inr ⟨index, rfl, finished, by simp [exec, finished]⟩

namespace Lifecycle

def next? (state : Lifecycle) : Event → Option Statement
  | .advance index => state.calls[index]?.bind List.head?
  | .begin _ | .loop _ _ | .background _ => none

/-- The process survives the event, and no background thread is started. -/
def Steady (state : Lifecycle) (event : Event) : Prop :=
  (state.proceed event).aborted = false ∧ state.next? event ≠ some .startBackgroundThread

/-- Besides, `start()` is not invoked. -/
def Calm (state : Lifecycle) (event : Event) : Prop :=
  state.Steady event ∧ event ≠ .begin .start ∧ state.next? event ≠ some .restart

instance (state : Lifecycle) (event : Event) : Decidable (state.Steady event) :=
  inferInstanceAs (Decidable (_ ∧ _))

instance (state : Lifecycle) (event : Event) : Decidable (state.Calm event) :=
  inferInstanceAs (Decidable (_ ∧ _))

variable {state : Lifecycle} {event : Event}

theorem Calm.changes (calm : state.Calm event) : Changes state (state.proceed event) := by
  rcases calm with ⟨-, begins, restarts⟩
  refine proceed_keeps (Changes state) (.rest rfl rfl) ?_
  unfold act
  split
  · exact .rest rfl rfl
  cases event with
  | begin procedure =>
      cases procedure with
      | start => exact absurd rfl begins
      | stop | initAllBackgroundThreads | stopAllBackgroundThreads | destroyServer
      | destroyDetector => exact .rest rfl rfl
  | advance index =>
      simp only [advance]
      split
      next statement rest found =>
        apply exec_changes
        rintro rfl
        exact restarts (by rw [next?, found]; rfl)
      next => exact .rest rfl rfl
  | loop index outcome => exact state.turn_changes index outcome
  | background index => exact .rest rfl rfl

theorem proceed_manages (state : Lifecycle) (event : Event) :
    Manages state (state.proceed event) :=
  proceed_keeps (Manages state) (.rest rfl) (state.act_manages event)

theorem Steady.length (steady : state.Steady event) :
    (state.proceed event).background.length = state.background.length := by
  refine proceed_keeps (fun after => after.background.length = state.background.length) rfl ?_
  unfold act
  split
  · rfl
  cases event with
  | begin procedure => cases procedure <;> rfl
  | advance index =>
      simp only [advance]
      split
      next statement rest found =>
        apply exec_length
        rintro rfl
        exact steady.2 (by rw [next?, found]; rfl)
      next => rfl
  | loop index outcome => rw [state.turn_background index outcome]
  | background index => exact List.length_modify ..

def turnsLeft (thread : Nat) (state : Lifecycle) : Nat :=
  state.background[thread]?.elim 0 BackgroundPhase.turnsLeft

theorem turnsLeft_le (thread : Nat) (state : Lifecycle) : state.turnsLeft thread ≤ 2 := by
  unfold turnsLeft
  cases state.background[thread]? with
  | none => simp
  | some phase => cases phase <;> simp [BackgroundPhase.turnsLeft]

theorem over_of_turnsLeft {thread : Nat} (present : thread < state.background.length)
    (none : state.turnsLeft thread = 0) :
    ∃ phase, state.background[thread]? = some phase ∧ phase.over = true := by
  rw [turnsLeft, List.getElem?_eq_getElem present] at none
  rw [List.getElem?_eq_getElem present]
  refine ⟨_, rfl, ?_⟩
  cases phase : state.background[thread] with
  | finished | joined => rfl
  | test | work => simp [phase, BackgroundPhase.turnsLeft] at none

theorem turnsLeft_turn (thread : Nat) {after : Lifecycle}
    (background : after.background =
      state.background.modify thread (BackgroundPhase.exec true)) :
    after.turnsLeft thread = state.turnsLeft thread - 1 := by
  rw [turnsLeft, turnsLeft, background, List.getElem?_modify]
  cases state.background[thread]? with
  | none => simp
  | some phase => simp [BackgroundPhase.turnsLeft_exec]

theorem Manages.turnsLeft_le {after : Lifecycle} (manages : Manages state after)
    (length : after.background.length = state.background.length)
    (stopped : state.stopped = true) (thread : Nat) :
    after.turnsLeft thread ≤ state.turnsLeft thread := by
  cases manages with
  | rest background => exact Nat.le_of_eq (by rw [turnsLeft, background, turnsLeft])
  | start background => simp [background] at length
  | turn index background =>
      rw [stopped] at background
      by_cases here : index = thread
      · subst here
        rw [turnsLeft_turn index background]
        exact Nat.sub_le _ _
      · rw [turnsLeft, background, List.getElem?_modify, turnsLeft]
        simp [here]
  | join index finished background =>
      by_cases here : index = thread
      · subst here
        have inside := (List.getElem?_eq_some_iff.mp finished).1
        rw [turnsLeft, background, List.getElem?_set_self inside]
        exact Nat.zero_le _
      · exact Nat.le_of_eq (by rw [turnsLeft, background, List.getElem?_set_ne here, turnsLeft])

/-- A turn of a thread that is told to stop brings it nearer to its end, and nothing else that
can happen takes it away from there. -/
theorem Steady.turnsLeft_le (steady : state.Steady event) (alive : state.aborted = false)
    (stopped : state.stopped = true) (thread : Nat) :
    (state.proceed event).turnsLeft thread ≤
      state.turnsLeft thread - if event = .background thread then 1 else 0 := by
  by_cases own : event = .background thread
  · subst own
    have background : (state.proceed (.background thread)).background =
        state.background.modify thread (BackgroundPhase.exec true) := by
      simp [proceed, admits, act, alive, stopped]
    exact Nat.le_of_eq (by rw [turnsLeft_turn thread background, if_pos rfl])
  · rw [if_neg own]
    exact (state.proceed_manages event).turnsLeft_le steady.length stopped thread

structure InHand (threads index : Nat) (state : Lifecycle) : Prop where
  alive : state.aborted = false
  turns : state.TakesTurns
  threads : state.background.length = threads
  call : ∃ routine, state.calls[index]? = some routine

def callSteps (threads index : Nat) (state : Lifecycle) : Nat :=
  state.calls[index]?.elim 0 (stepsLeft threads)

theorem proceed_calls {index : Nat} {routine : List Statement}
    (present : state.calls[index]? = some routine) (event : Event) :
    (state.proceed event).calls[index]? = some routine ∨
      ∃ statement rest, event = .advance index ∧ routine = statement :: rest ∧
        (state.proceed event).calls[index]? = some ((statement.exec state).2 ++ rest) := by
  refine proceed_keeps (fun after => after.calls[index]? = some routine ∨
    ∃ statement rest, event = .advance index ∧ routine = statement :: rest ∧
      after.calls[index]? = some ((statement.exec state).2 ++ rest)) (.inl present) ?_
  rcases act_calls present event with same | ⟨statement, rest, own, split, next, -⟩
  · exact .inl same
  · exact .inr ⟨statement, rest, own, split, next⟩

namespace InHand

variable {threads index : Nat}

theorem proceed (inHand : state.InHand threads index) (steady : state.Steady event) :
    (state.proceed event).InHand threads index := by
  rcases inHand.call with ⟨routine, present⟩
  refine ⟨steady.1, inHand.turns.proceed event, steady.length.trans inHand.threads, ?_⟩
  rcases proceed_calls present event with same | ⟨statement, rest, -, -, next⟩
  · exact ⟨routine, same⟩
  · exact ⟨_, next⟩

theorem stepsLeft_exec (inHand : state.InHand threads index) {statement : Statement}
    {rest : List Statement} (present : state.calls[index]? = some (statement :: rest)) :
    stepsLeft threads ((statement.exec state).2 ++ rest) ≤
        stepsLeft threads (statement :: rest) ∧
      (state.Finished threads → stepsLeft threads ((statement.exec state).2 ++ rest) <
        stepsLeft threads (statement :: rest)) := by
  have placed := inHand.turns.placed index _ present
  have behind := statement.stepsLeft_exec state
    fun position waits => placed.head position (by rw [waits]; rfl)
  rw [inHand.threads] at behind
  rw [stepsLeft_append, stepsLeft_cons]
  exact ⟨Nat.add_le_add_right behind.1 _, fun finished =>
    Nat.add_lt_add_right (behind.2 finished) _⟩

theorem callSteps_le (inHand : state.InHand threads index) (event : Event) :
    (state.proceed event).callSteps threads index ≤ state.callSteps threads index := by
  rcases inHand.call with ⟨routine, present⟩
  rw [callSteps, callSteps, present]
  rcases proceed_calls present event with same | ⟨statement, rest, -, rfl, next⟩
  · exact Nat.le_of_eq (by rw [same])
  · rw [next]
    exact (inHand.stepsLeft_exec present).1

theorem callSteps_advance (inHand : state.InHand threads index)
    (finished : state.Finished threads) :
    (state.proceed (.advance index)).callSteps threads index ≤
      state.callSteps threads index - 1 := by
  rcases inHand.call with ⟨routine, present⟩
  cases routine with
  | nil =>
      have least := inHand.callSteps_le (.advance index)
      rw [callSteps, callSteps, present] at least ⊢
      exact least
  | cons statement rest =>
      have inside := (List.getElem?_eq_some_iff.mp present).1
      have next : (state.proceed (.advance index)).calls[index]? =
          some ((statement.exec state).2 ++ rest) := by
        simp only [Lifecycle.proceed, admits, Lifecycle.act, Lifecycle.advance, inHand.alive,
          present, Bool.false_eq_true, if_false, if_true]
        exact List.getElem?_set_self inside
      have less := (inHand.stepsLeft_exec present).2 finished
      rw [callSteps, callSteps, next, present, Option.elim_some, Option.elim_some]
      omega

end InHand

theorem carefulMachine_step (state : Lifecycle) (event : Event) :
    carefulMachine.step state event = state.proceed event := rfl

theorem InHand.finished {threads index : Nat} (inHand : state.InHand threads index)
    (told : state.Told) {events : List Event} (calm : carefulMachine.Along Calm state events)
    (turns : ∀ thread < threads, 2 ≤ events.countP (· = .background thread)) :
    (carefulMachine.run state events).InHand threads index ∧
      (carefulMachine.run state events).Finished threads := by
  have kept (state : Lifecycle) (event : Event) (holds : state.InHand threads index ∧ state.Told)
      (calm : state.Calm event) :
      (state.proceed event).InHand threads index ∧ (state.proceed event).Told :=
    ⟨holds.1.proceed calm.1, calm.changes.told holds.2⟩
  have after := carefulMachine.run_invariant (fun state => state.InHand threads index ∧ state.Told)
    kept ⟨inHand, told⟩ calm
  refine ⟨after.1, ?_⟩
  intro thread below
  have left := carefulMachine.run_rank
    (fun state => state.InHand threads index ∧ state.Told) (turnsLeft thread)
    (fun event => event = .background thread) kept
    (fun state event holds calm => by
      have nearer := calm.1.turnsLeft_le holds.1.alive holds.2.stopped thread
      simpa [carefulMachine_step] using nearer)
    ⟨inHand, told⟩ calm
  have most := state.turnsLeft_le thread
  have enough := turns thread below
  exact over_of_turnsLeft (after.1.threads.symm ▸ below) (by omega)

theorem InHand.returns {threads index : Nat} (inHand : state.InHand threads index)
    (finished : state.Finished threads) {events : List Event}
    (steady : carefulMachine.Along Steady state events)
    (enough : state.callSteps threads index ≤ events.countP (· = .advance index)) :
    (carefulMachine.run state events).calls[index]? = some [] := by
  have kept (state : Lifecycle) (event : Event)
      (holds : state.InHand threads index ∧ state.Finished threads) (steady : state.Steady event) :
      (state.proceed event).InHand threads index ∧ (state.proceed event).Finished threads :=
    ⟨holds.1.proceed steady, (state.proceed_manages event).finished holds.2⟩
  have after := carefulMachine.run_invariant
    (fun state => state.InHand threads index ∧ state.Finished threads) kept ⟨inHand, finished⟩
    steady
  have left := carefulMachine.run_rank
    (fun state => state.InHand threads index ∧ state.Finished threads) (callSteps threads index)
    (fun event => event = .advance index) kept
    (fun state event holds _ => by
      by_cases own : event = .advance index
      · subst own
        simpa [carefulMachine_step] using holds.1.callSteps_advance holds.2
      · simpa [own, carefulMachine_step] using holds.1.callSteps_le event)
    ⟨inHand, finished⟩ steady
  rcases after.1.call with ⟨routine, present⟩
  have none : (carefulMachine.run state events).callSteps threads index = 0 := by omega
  rw [callSteps, present] at none
  rw [present, eq_nil_of_stepsLeft none]

/-- Nobody waits forever. Take any state in which callers who take turns have told the server
to stop, and any call that is in progress then. When every background thread has had two turns
while the server is not started again, and the call has then had as many turns as it can still
take steps, it has returned and the threads are over: also a call that joins the threads, that
waits for the server to stop, or that restarts the server before it returns. -/
theorem calls_return (before first second : List Event)
    (told : (carefulMachine.run create before).Told)
    (alive : (carefulMachine.run create before).aborted = false) {index : Nat}
    {routine : List Statement}
    (inProgress : (carefulMachine.run create before).calls[index]? = some routine)
    (calm : carefulMachine.Along Calm (carefulMachine.run create before) first)
    (steady : carefulMachine.Along Steady (carefulMachine.run create (before ++ first)) second)
    (turns : ∀ thread < (carefulMachine.run create before).background.length,
      2 ≤ first.countP (· = .background thread))
    (enough : stepsLeft (carefulMachine.run create before).background.length routine ≤
      second.countP (· = .advance index)) :
    let final := carefulMachine.run create (before ++ first ++ second)
    final.calls[index]? = some [] ∧
      final.Finished (carefulMachine.run create before).background.length := by
  let state := carefulMachine.run create before
  have inHand : state.InHand state.background.length index :=
    ⟨alive, .run_create before, rfl, routine, inProgress⟩
  rcases inHand.finished told calm turns with ⟨after, finished⟩
  have steps : state.callSteps state.background.length index =
      stepsLeft state.background.length routine := by
    rw [callSteps, inProgress]
    rfl
  have fewer := (carefulMachine.run_invariant
    (fun other => other.InHand state.background.length index ∧
      other.callSteps state.background.length index ≤
        state.callSteps state.background.length index)
    (fun _ event holds calm =>
      ⟨holds.1.proceed calm.1, Nat.le_trans (holds.1.callSteps_le event) holds.2⟩)
    ⟨inHand, Nat.le_refl _⟩ calm).2
  rw [Machine.run_append] at steady
  rw [Machine.run_append, Machine.run_append]
  have reached : (carefulMachine.run state first).callSteps state.background.length index ≤
      second.countP (· = .advance index) :=
    Nat.le_trans fewer (Nat.le_trans (Nat.le_of_eq steps) enough)
  refine ⟨after.returns finished steady reached, ?_⟩
  exact carefulMachine.run_keeps (Finished state.background.length)
    (fun other event holds => (other.proceed_manages event).finished holds) _ second finished

theorem calls_return_after_restart :
    let first : List Event :=
      [.background 0, .background 1, .background 2, .background 3, .loop 0 false,
        .background 0, .background 1, .background 2, .background 3, .loop 0 false]
    let second : List Event :=
      List.replicate 11 (.advance 1) ++ List.replicate 3 (.loop 1 true) ++
        List.replicate 2 (.advance 1)
    let final := carefulMachine.run create (stopBegun ++ first ++ second)
    final.calls[1]? = some [] ∧ final.Finished 4 := by
  intro first second
  have told : (carefulMachine.run create stopBegun).Told := ⟨by decide, by decide⟩
  have inProgress : (carefulMachine.run create stopBegun).calls[1]? =
      some [.sleep, .join 0, .restart, .checkRestarted] := by
    decide
  exact calls_return stopBegun first second told (by decide) inProgress (by decide) (by decide)
    (by decide) (by decide)

end Lifecycle

end Gossip
