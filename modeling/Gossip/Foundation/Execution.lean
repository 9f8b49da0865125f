/-! # Runs of a step function

A machine reacts to one input at a time. Facts about whole runs follow from
facts about one step: an invariant that every step keeps holds at the end of
every run, and a run whose every step meets a guard keeps any invariant that
guarded steps keep. -/

namespace Foundation

/-- A deterministic machine. A nondeterministic system is one whose inputs name
the choices that were made. -/
structure Machine (State Input : Type) where
  step : State → Input → State

namespace Machine

variable {State Input : Type} (machine : Machine State Input)

def run (state : State) (inputs : List Input) : State :=
  inputs.foldl machine.step state

@[simp] theorem run_nil (state : State) : machine.run state [] = state := rfl

@[simp] theorem run_cons (state : State) (input : Input) (inputs : List Input) :
    machine.run state (input :: inputs) =
      machine.run (machine.step state input) inputs := rfl

theorem run_append (state : State) (first second : List Input) :
    machine.run state (first ++ second) =
      machine.run (machine.run state first) second := by
  simp [run]

/-- Every step of the run meets the guard in the state it is taken from. -/
def Along (guard : State → Input → Prop) : State → List Input → Prop
  | _, [] => True
  | state, input :: inputs =>
      guard state input ∧ Along guard (machine.step state input) inputs

instance decidableAlong (guard : State → Input → Prop)
    [∀ state input, Decidable (guard state input)] :
    ∀ state inputs, Decidable (machine.Along guard state inputs)
  | _, [] => isTrue trivial
  | state, input :: inputs =>
      have := decidableAlong guard (machine.step state input) inputs
      inferInstanceAs (Decidable (_ ∧ _))

theorem along_append (guard : State → Input → Prop) (state : State)
    (first second : List Input) :
    machine.Along guard state (first ++ second) ↔
      machine.Along guard state first ∧
        machine.Along guard (machine.run state first) second := by
  induction first generalizing state with
  | nil => simp [Along]
  | cons input first induction => simp [Along, induction, and_assoc]

theorem along_of_forall_mem {guard : State → Input → Prop} {inputs : List Input}
    (guarded : ∀ input ∈ inputs, ∀ state, guard state input) (state : State) :
    machine.Along guard state inputs := by
  induction inputs generalizing state with
  | nil => trivial
  | cons input inputs induction =>
      rw [List.forall_mem_cons] at guarded
      exact ⟨guarded.1 state, induction guarded.2 _⟩

structure Step (State Input : Type) where
  before : State
  input : Input
  after : State

def trace : State → List Input → List (Step State Input)
  | _, [] => []
  | state, input :: inputs =>
      ⟨state, input, machine.step state input⟩ ::
        trace (machine.step state input) inputs

theorem Along.of_mem_trace {machine : Machine State Input}
    {guard : State → Input → Prop} {state : State} {inputs : List Input}
    (guarded : machine.Along guard state inputs) {step : Step State Input}
    (member : step ∈ machine.trace state inputs) :
    step.after = machine.step step.before step.input ∧
      guard step.before step.input := by
  induction inputs generalizing state with
  | nil => cases member
  | cons input inputs induction =>
      rcases List.mem_cons.mp member with equal | member
      · subst equal
        exact ⟨rfl, guarded.1⟩
      · exact induction guarded.2 member

theorem along_iff_forall_mem_trace {guard : State → Input → Prop} {state : State}
    {inputs : List Input} :
    machine.Along guard state inputs ↔
      ∀ step ∈ machine.trace state inputs, guard step.before step.input := by
  induction inputs generalizing state with
  | nil => simp [Along, trace]
  | cons input inputs induction => rw [Along, trace, List.forall_mem_cons, induction]

theorem input_mem_of_mem_trace {state : State} {inputs : List Input} {step : Step State Input}
    (member : step ∈ machine.trace state inputs) : step.input ∈ inputs := by
  induction inputs generalizing state with
  | nil => cases member
  | cons input inputs induction =>
      rcases List.mem_cons.mp member with rfl | later
      · exact List.mem_cons_self
      · exact List.mem_cons_of_mem _ (induction later)

theorem Along.and_invariant {machine : Machine State Input}
    {guard : State → Input → Prop} (invariant : State → Prop)
    (stepKeeps : ∀ state input, invariant state → guard state input →
      invariant (machine.step state input))
    {state : State} {inputs : List Input} (holds : invariant state)
    (guarded : machine.Along guard state inputs) :
    machine.Along (fun state input => invariant state ∧ guard state input) state
      inputs := by
  induction inputs generalizing state with
  | nil => trivial
  | cons input inputs induction =>
      exact ⟨⟨holds, guarded.1⟩,
        induction (stepKeeps state input holds guarded.1) guarded.2⟩

/-- When, in good states, the steps with a property are those that meet the guard,
and these keep the state good, a run whose every step has the property is a run
whose every step meets the guard. -/
theorem forall_mem_trace_iff_along {assumed guard : State → Input → Prop}
    (good : State → Prop) (property : Step State Input → Prop)
    (kept : ∀ state input, good state → assumed state input → guard state input →
      good (machine.step state input))
    (characterized : ∀ state input, good state → assumed state input →
      (property ⟨state, input, machine.step state input⟩ ↔ guard state input))
    {state : State} {inputs : List Input} (holds : good state)
    (assumedAlong : machine.Along assumed state inputs) :
    (∀ step ∈ machine.trace state inputs, property step) ↔
      machine.Along guard state inputs := by
  induction inputs generalizing state with
  | nil => simp [trace, Along]
  | cons input inputs induction =>
      rw [trace, List.forall_mem_cons, Along,
        characterized state input holds assumedAlong.1]
      exact and_congr_right fun guarded =>
        induction (kept state input holds assumedAlong.1 guarded) assumedAlong.2

theorem run_invariant {guard : State → Input → Prop} (invariant : State → Prop)
    (stepKeeps : ∀ state input, invariant state → guard state input →
      invariant (machine.step state input))
    {state : State} {inputs : List Input} (holds : invariant state)
    (guarded : machine.Along guard state inputs) :
    invariant (machine.run state inputs) := by
  induction inputs generalizing state with
  | nil => exact holds
  | cons input inputs induction =>
      exact induction (stepKeeps state input holds guarded.1) guarded.2

theorem run_rank {guard : State → Input → Prop} (invariant : State → Prop)
    (rank : State → Nat) (lowers : Input → Bool)
    (stepKeeps : ∀ state input, invariant state → guard state input →
      invariant (machine.step state input))
    (stepRank : ∀ state input, invariant state → guard state input →
      rank (machine.step state input) ≤ rank state - if lowers input then 1 else 0)
    {state : State} {inputs : List Input} (holds : invariant state)
    (guarded : machine.Along guard state inputs) :
    rank (machine.run state inputs) ≤ rank state - inputs.countP lowers := by
  induction inputs generalizing state with
  | nil => simp
  | cons input inputs induction =>
      have first := stepRank state input holds guarded.1
      have rest := induction (stepKeeps state input holds guarded.1) guarded.2
      rw [run_cons, List.countP_cons]
      omega

theorem run_keeps (invariant : State → Prop)
    (stepKeeps : ∀ state input, invariant state →
      invariant (machine.step state input))
    (state : State) (inputs : List Input) (holds : invariant state) :
    invariant (machine.run state inputs) := by
  induction inputs generalizing state with
  | nil => exact holds
  | cons input inputs induction =>
      exact induction _ (stepKeeps state input holds)

/-- When a step that breaks the guard takes a good state to a bad one, and bad
states stay bad, a run with a step that breaks the guard ends in a bad state. -/
theorem run_violated {guard : State → Input → Prop} (good bad : State → Prop)
    (kept : ∀ state input, good state → guard state input →
      good (machine.step state input))
    (lost : ∀ state input, good state → ¬ guard state input →
      bad (machine.step state input))
    (stays : ∀ state input, bad state → bad (machine.step state input))
    {state : State} {inputs : List Input} (holds : good state)
    (violated : ¬ machine.Along guard state inputs) : bad (machine.run state inputs) := by
  induction inputs generalizing state with
  | nil => exact absurd trivial violated
  | cons input inputs induction =>
      by_cases guarded : guard state input
      · exact induction (kept state input holds guarded)
          fun rest => violated ⟨guarded, rest⟩
      · exact machine.run_keeps bad stays _ inputs (lost state input holds guarded)

/-- When another machine keeps up with every step by taking it too or by waiting, it keeps
up with every run by taking some of its steps. -/
theorem run_matched {Other : Type} {other : Machine Other Input}
    (related : State → Other → Prop)
    (stepMatched : ∀ state partner input, related state partner →
      ∃ schedule : List Input, schedule.Sublist [input] ∧
        related (machine.step state input) (other.run partner schedule))
    {state : State} {partner : Other} (holds : related state partner) (inputs : List Input) :
    ∃ schedule : List Input, schedule.Sublist inputs ∧
      related (machine.run state inputs) (other.run partner schedule) := by
  induction inputs generalizing state partner with
  | nil => exact ⟨[], .refl _, holds⟩
  | cons input inputs induction =>
      rcases stepMatched state partner input holds with ⟨first, taken, matched⟩
      rcases induction matched with ⟨second, others, related⟩
      refine ⟨first ++ second, taken.append others, ?_⟩
      rw [run_append]
      exact related

/-- A run seen through a projection. When the inputs that are not `relevant`
leave the view alone and the others act on it by `localStep`, only the relevant
inputs of a run matter to the view. -/
theorem run_project {View : Type} (invariant : State → Prop) (project : State → View)
    (relevant : Input → Bool) (localStep : View → Input → View)
    (stepKeeps : ∀ state input, invariant state →
      invariant (machine.step state input))
    (stepProject : ∀ state input, invariant state →
      project (machine.step state input) =
        if relevant input then localStep (project state) input else project state)
    (state : State) (inputs : List Input) (holds : invariant state) :
    project (machine.run state inputs) =
      (inputs.filter relevant).foldl localStep (project state) := by
  induction inputs generalizing state with
  | nil => rfl
  | cons input inputs induction =>
      rw [run_cons, induction _ (stepKeeps state input holds),
        stepProject state input holds]
      cases related : relevant input <;> simp [related]

end Machine

end Foundation
