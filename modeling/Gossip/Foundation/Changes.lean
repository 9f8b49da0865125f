import Gossip.Foundation.Execution

/-! # Sequences of changes

The values that a changing quantity takes on, with repetitions left out. A log
that gains exactly the new value whenever the quantity changes is the sequence
of its changes. -/

namespace Foundation

variable {α : Type} [DecidableEq α]

/-- The values reached by changes, when the quantity is `current` at first and
is then observed to have each of the given values in turn. -/
def changes (current : α) : List α → List α
  | [] => []
  | next :: rest =>
      if next = current then changes current rest else next :: changes next rest

theorem changes_cons (current next : α) (rest : List α) :
    changes current (next :: rest) = changes current [next] ++ changes next rest := by
  simp only [changes]
  split
  next unchanged => simp [unchanged]
  next => simp

namespace Machine

variable {State Input : Type} (machine : Machine State Input)

/-- When every step extends the log by what is announced of the change it makes
to the view, if any, the log of a run is what it was before, followed by what is
announced of the changes along the run. -/
theorem run_log_eq_changes {β : Type} {guard : State → Input → Prop} (view : State → α)
    (announced : α → β) (log : State → List β)
    (logged : ∀ state input, guard state input →
      log (machine.step state input) = log state ++
        (changes (view state) [view (machine.step state input)]).map announced)
    {state : State} {inputs : List Input} (guarded : machine.Along guard state inputs) :
    log (machine.run state inputs) =
      log state ++ (changes (view state)
        ((machine.trace state inputs).map fun step => view step.after)).map announced := by
  induction inputs generalizing state with
  | nil => simp [trace, changes]
  | cons input inputs induction =>
      rw [run_cons, induction guarded.2, logged state input guarded.1,
        List.append_assoc, ← List.map_append, ← changes_cons]
      rfl

end Machine

end Foundation
