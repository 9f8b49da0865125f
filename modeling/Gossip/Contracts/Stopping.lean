import Gossip.Semantics.Lifecycle

/-! # Stops that are heeded

`stop()` sets a flag and returns. It is heeded unless it comes while `start()` has still to
clear the flag. -/

namespace Gossip

open Foundation

namespace Lifecycle

/-- A step of a loop, or a call of `stop()` or a step of it, as long as no other calls are
there. -/
def Event.StopsOnly : Event → Prop
  | .begin procedure => procedure = .stop
  | .advance _ | .loop _ _ | .background _ => True

instance : ∀ event : Event, Decidable event.StopsOnly
  | .begin procedure => inferInstanceAs (Decidable (procedure = _))
  | .advance _ | .loop _ _ | .background _ => isTrue trivial

/-- `start()` has just been invoked. -/
def launched (stopped : Bool) : Lifecycle := { stopped := stopped, loops := [{}] }

structure Solitary (state : Lifecycle) : Prop where
  loop : ∃ loop, state.loops = [loop]
  calls : ∀ routine ∈ state.calls, routine = [] ∨ routine = [.stop]

/-- The server is not running, and its loop has handled no envelope that it had not received
when it was told to stop. -/
structure Heeds (told after : Lifecycle) : Prop where
  isRunning : after.isRunning = false
  handled : ∃ loop next, told.loops = [loop] ∧ after.loops = [next] ∧
    next.handled ≤ loop.due

theorem launched_solitary (stopped : Bool) : (launched stopped).Solitary :=
  ⟨⟨_, rfl⟩, List.forall_mem_nil _⟩

theorem Changes.loops_length {state after : Lifecycle} (changes : Changes state after) :
    after.loops.length = state.loops.length := by
  cases changes with
  | rest loops | stop loops => rw [loops]
  | turn index loop next present loops => rw [loops, List.length_set]

theorem Solitary.of_changes {state after : Lifecycle} (solitary : state.Solitary)
    (changes : Changes state after)
    (calls : ∀ routine ∈ after.calls, routine = [] ∨ routine = [.stop]) :
    after.Solitary := by
  rcases solitary.loop with ⟨loop, alone⟩
  exact ⟨List.length_eq_one_iff.mp (changes.loops_length.trans (by rw [alone]; rfl)), calls⟩

theorem Solitary.act {state : Lifecycle} (solitary : state.Solitary) {event : Event}
    (stopsOnly : event.StopsOnly) :
    (state.act event).Solitary ∧ Changes state (state.act event) := by
  suffices changes : Changes state (state.act event) ∧
      ∀ routine ∈ (state.act event).calls, routine = [] ∨ routine = [.stop] from
    ⟨solitary.of_changes changes.1 changes.2, changes.1⟩
  unfold Lifecycle.act
  split
  · exact ⟨.rest rfl rfl, solitary.calls⟩
  cases event with
  | begin procedure =>
      cases (stopsOnly : procedure = .stop)
      refine ⟨.rest rfl rfl, List.forall_mem_append.mpr ⟨solitary.calls, ?_⟩⟩
      exact List.forall_mem_singleton.mpr (.inr rfl)
  | advance index =>
      simp only [advance]
      split
      next statement rest present =>
        rcases solitary.calls _ (List.mem_of_getElem? present) with none | stop
        · cases none
        · cases stop
          exact ⟨exec_changes state _ (by decide), forall_mem_set solitary.calls (.inl rfl)⟩
      next => exact ⟨.rest rfl rfl, solitary.calls⟩
  | loop index outcome =>
      refine ⟨turn_changes state index outcome, ?_⟩
      simp only [turn]
      split
      · exact solitary.calls
      · split <;> exact solitary.calls
  | background index => exact ⟨.rest rfl rfl, solitary.calls⟩

theorem Solitary.run {state : Lifecycle} (solitary : state.Solitary) {events : List Event}
    (stopsOnly : ∀ event ∈ events, event.StopsOnly) :
    (lifecycleMachine.run state events).Solitary := by
  induction events generalizing state with
  | nil => exact solitary
  | cons event events induction =>
      rcases List.forall_mem_cons.mp stopsOnly with ⟨first, rest⟩
      exact induction (solitary.act first).1 rest

theorem Solitary.run_told {state : Lifecycle} (solitary : state.Solitary) (told : state.Told)
    {events : List Event} (stopsOnly : ∀ event ∈ events, event.StopsOnly) :
    (lifecycleMachine.run state events).Told ∧
      (lifecycleMachine.run state events).loops.map ListeningLoop.due =
        state.loops.map ListeningLoop.due := by
  induction events generalizing state with
  | nil => exact ⟨told, rfl⟩
  | cons event events induction =>
      rcases List.forall_mem_cons.mp stopsOnly with ⟨first, rest⟩
      rcases solitary.act first with ⟨still, changes⟩
      rcases induction still (changes.told told) rest with ⟨stays, same⟩
      exact ⟨stays, same.trans (changes.due told)⟩

theorem Solitary.heeds {state : Lifecycle} (solitary : state.Solitary) (told : state.Told)
    {events : List Event} (stopsOnly : ∀ event ∈ events, event.StopsOnly) :
    state.Heeds (lifecycleMachine.run state events) := by
  rcases solitary.run_told told stopsOnly with ⟨stays, same⟩
  rcases solitary.loop with ⟨loop, alone⟩
  rcases (solitary.run stopsOnly).loop with ⟨next, nextAlone⟩
  refine ⟨stays.not_running, loop, next, alone, nextAlone, ?_⟩
  rw [alone, nextAlone] at same
  calc
    next.handled ≤ next.due := next.handled_le_due
    _ = loop.due := List.head_eq_of_cons_eq same

def preparations : LoopPhase → List Event
  | .create => [.loop 0 true, .loop 0 true, .loop 0 true]
  | .bind => [.loop 0 true, .loop 0 true]
  | .clear => [.loop 0 true]
  | _ => []

theorem isRunning_preparations {state : Lifecycle} {loop : ListeningLoop}
    (alive : state.aborted = false) (alone : state.loops = [loop])
    (starting : loop.starting = true) :
    (lifecycleMachine.run state (preparations loop.phase)).isRunning = true := by
  rcases loop with ⟨phase, handled⟩
  rcases state with ⟨stopped, loops, background, calls, destroyed, aborted⟩
  cases alive
  cases alone
  cases phase with
  | create | bind | clear => rfl
  | test | poll | recheck | handle | leave | returned => cases starting

theorem preparations_stopsOnly (phase : LoopPhase) :
    ∀ event ∈ preparations phase, event.StopsOnly := by
  cases phase <;> simp [preparations, Event.StopsOnly]

theorem Solitary.heeds_iff {state : Lifecycle} (solitary : state.Solitary)
    (alive : state.aborted = false) (stopped : state.stopped = true) :
    (∀ later : List Event, (∀ event ∈ later, event.StopsOnly) →
      state.Heeds (lifecycleMachine.run state later)) ↔ state.Started := by
  constructor
  · intro heeded loop member
    rcases solitary.loop with ⟨only, alone⟩
    rw [alone, List.mem_singleton] at member
    subst member
    have idle := (heeded _ (preparations_stopsOnly loop.phase)).isRunning
    cases starting : loop.starting with
    | false => rfl
    | true =>
        rw [isRunning_preparations alive alone starting] at idle
        cases idle
  · intro started later stopsOnly
    exact solitary.heeds ⟨stopped, started⟩ stopsOnly

/-- Among an invocation of `start()` and any calls of `stop()`, one of the latter is heeded
ever after exactly if the former has cleared the flag. -/
theorem stop_heeded_iff (stopped : Bool) (first : List Event) (index : Nat)
    (stopsOnly : ∀ event ∈ first, event.StopsOnly)
    (alive : (lifecycleMachine.run (launched stopped) first).aborted = false)
    (stops : (lifecycleMachine.run (launched stopped) first).calls[index]? = some [.stop]) :
    (∀ later : List Event, (∀ event ∈ later, event.StopsOnly) →
      (lifecycleMachine.run (launched stopped) (first ++ [.advance index])).Heeds
        (lifecycleMachine.run (launched stopped) (first ++ [.advance index] ++ later))) ↔
      (lifecycleMachine.run (launched stopped) first).Started := by
  have solitary := (launched_solitary stopped).run stopsOnly
  have step : lifecycleMachine.run (launched stopped) (first ++ [.advance index]) =
      (lifecycleMachine.run (launched stopped) first).act (.advance index) :=
    lifecycleMachine.run_append _ _ _
  simp only [Machine.run_append _ _ (first ++ [Event.advance index]), step]
  generalize lifecycleMachine.run (launched stopped) first = state at *
  have told : state.act (.advance index) =
      { state with stopped := true, calls := state.calls.set index [] } := by
    simp [Lifecycle.act, alive, advance, stops, Statement.exec]
  have stopping : (Event.advance index).StopsOnly := trivial
  have still : (state.act (.advance index)).Solitary := (solitary.act stopping).1
  rw [told] at still ⊢
  exact still.heeds_iff alive rfl

theorem stop_heeded_with_envelope_in_hand :
    let first : List Event :=
      [.loop 0 true, .loop 0 true, .loop 0 true, .loop 0 true, .loop 0 true, .loop 0 true,
        .begin .stop]
    (lifecycleMachine.run (launched true) first).isRunning = true ∧
      ∀ later : List Event, (∀ event ∈ later, event.StopsOnly) →
        (lifecycleMachine.run (launched true) (first ++ [.advance 0])).Heeds
          (lifecycleMachine.run (launched true) (first ++ [.advance 0] ++ later)) :=
  ⟨by decide,
    (stop_heeded_iff true _ 0 (by decide) (by decide) (by decide)).mpr (by decide)⟩

/-- A server is stopped before `start()` has bound its socket. It runs, and handles two
envelopes. -/
theorem stop_lost_while_starting :
    let told := lifecycleMachine.run (launched true) [.begin .stop, .advance 0]
    let after := lifecycleMachine.run told (List.replicate 11 (.loop 0 true))
    told.calls = [[]] ∧ after.isRunning = true ∧
      after.loops = [{ phase := .test, handled := 2 }] ∧ ¬ told.Heeds after := by
  refine ⟨by decide, by decide, by decide, fun heeds => ?_⟩
  exact absurd heeds.isRunning (by decide)

end Lifecycle

end Gossip
