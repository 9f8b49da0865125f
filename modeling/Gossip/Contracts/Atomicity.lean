import Gossip.Semantics.CriticalSections

/-! # Sections are atomic

What the threads of a server can do statement by statement, they can do section by section:
no thread ever sees a set in the middle of a section of another one, and a report is made
from the two sets as they were at one moment each. A status callback is the exception, since
it reads the record that `AddAlive` has put in `alive_` without the mutex. The threads never get
in a deadlock. -/

namespace Gossip

open Foundation SwimServer

/-! ## Sections take effect as a whole -/

/-- Threads that have taken single statements look like threads that have taken whole
sections, as far as this can be told without looking into a section. -/
structure LockedTasks.LooksLike (locked : LockedTasks) (tasks : Tasks) : Prop where
  surroundings : locked.shared.shared.surroundings = tasks.shared.surroundings
  sets : ∀ mutex, locked.shared.held mutex = false →
    locked.shared.shared.guarded mutex = tasks.shared.guarded mutex
  count : locked.threads.length = tasks.threads.length
  outside : ∀ (index : Nat) (task : Task), locked.threads[index]? = some (.outside task) →
    tasks.threads[index]? = some task

/-- A server without a status callback: whatever is read of its records is read in a
section. -/
abbrev Unobserved := { server : SwimServer // server.statusCb = false }

section Runs

variable {Cost : Type} (costs : CostArithmetic Cost) (sort : LamportSort)

theorem LockedTasks.refines_create (server : SwimServer) :
    (serverSections costs sort).Refines (LockedTasks.create server) (Tasks.create server) where
  exclusive _ := rfl
  rest := rfl
  cells _ _ := rfl
  threads _ := .none

variable {costs sort} in
theorem LockedTasks.looksLike_of_refines {locked : LockedTasks} {tasks : Tasks}
    (refines : (serverSections costs sort).Refines locked tasks) : locked.LooksLike tasks where
  surroundings := refines.rest
  sets := refines.cells
  count := refines.length_eq
  outside index task present := by
    rcases refines.follows present with ⟨same, found, ⟨⟩⟩
    exact found

/-- Whatever the threads of a server do statement by statement, there is an order of whole
sections, one for each section that has taken effect, that leads to the same sets and
leaves the threads with the same to do. -/
theorem sections_take_effect_atomically (server : Unobserved)
    (decisions : List (Decision Assignment)) :
    ∃ schedule : List (Decision Assignment), schedule.Sublist decisions ∧
      ((lockedTaskMachine costs sort).run (.create server.val) decisions).LooksLike
        ((taskMachine costs sort).run (.create server.val) schedule) := by
  rcases (serverSections costs sort).run_refines Assignment.task
    (LockedTasks.refines_create costs sort server.val) decisions with ⟨schedule, taken, refines⟩
  exact ⟨schedule, taken, LockedTasks.looksLike_of_refines refines⟩

/-! ## No deadlock -/

theorem Thread.Finishes.iterate {server after : SwimServer} {thread : Thread}
    (finishes : thread.Finishes server after) :
    ∃ count : Nat, ((fun state : SwimServer × Task => state.2.exec costs sort state.1)^[count]
      (server, .operation thread)).2.Done := by
  induction finishes with
  | done finished => exact ⟨0, finished⟩
  | step rest induction =>
      rcases induction with ⟨count, done⟩
      exact ⟨count + 1, done⟩

theorem Thread.exists_finishes (server : SwimServer) (thread : Thread) :
    ∃ after, thread.Finishes server after := by
  rcases thread with ⟨inside, sections⟩
  have outside (server : SwimServer) :
      ∃ after, Finishes server { sections := sections } after :=
    ⟨_, finishes_sections server sections⟩
  have next (server : SwimServer) (inside : Inside)
      (rest : ∃ after, Finishes (inside.exec server).1 ⟨(inside.exec server).2, sections⟩ after) :
      ∃ after, Finishes server ⟨some inside, sections⟩ after :=
    rest.imp fun _ finishes => .inside finishes
  have inserted (server : SwimServer) (record : ServerRecord) :
      ∃ after, Finishes server ⟨some (.insertAlive record), sections⟩ after := by
    apply next
    simp only [Inside.exec]
    split
    · exact next _ _ (outside _)
    · exact next _ _ (outside _)
  have suspected (server : SwimServer) (record : ServerRecord) :
      ∃ after, Finishes server ⟨some (.insertSuspected record), sections⟩ after := by
    apply next
    simp only [Inside.exec]
    split
    · exact next _ _ (outside _)
    · exact outside _
  cases inside with
  | none => exact outside server
  | some inside =>
      cases inside with
      | stampAlive subject timestamp => exact next _ _ (inserted _ _)
      | insertAlive record => exact inserted server record
      | refreshAlive record => exact next _ _ (outside _)
      | eraseAlive record => exact next _ _ (suspected _ _)
      | insertSuspected record => exact suspected server record
      | fire callback => exact next _ _ (outside _)

theorem Task.finishes (server : SwimServer) (task : Task) :
    ∃ count : Nat, ((fun state : SwimServer × Task => state.2.exec costs sort state.1)^[count]
      (server, task)).2.Done := by
  cases task with
  | operation thread =>
      rcases Thread.exists_finishes server thread with ⟨after, finishes⟩
      exact finishes.iterate costs sort
  | preparation progress =>
      cases progress with
      | copyAlive => exact ⟨2, rfl⟩
      | copySuspected => exact ⟨1, rfl⟩
      | returned => exact ⟨0, rfl⟩

/-- At no point of a run are the threads in a deadlock: there are turns after which every
operation and every preparation has come to its end and both mutexes are free. -/
theorem threads_never_deadlock (server : SwimServer) (decisions : List (Decision Assignment)) :
    ∃ turns : List Nat,
      let after := (lockedTaskMachine costs sort).run (.create server)
        (decisions ++ turns.map .advance)
      (∀ mutex, after.shared.held mutex = false) ∧
        ∀ running ∈ after.threads, ∃ task : Task, running = .outside task ∧ task.Done := by
  rcases (serverSections costs sort).run_refines Assignment.task
    (LockedTasks.refines_create costs sort server) decisions with ⟨schedule, -, refines⟩
  rcases Sections.leads_finished (Task.finishes costs sort) refines with
    ⟨after, ⟨turns, reached⟩, free, done⟩
  refine ⟨turns, ?_⟩
  rw [Machine.run_append]
  have final : (lockedTaskMachine costs sort).run ((lockedTaskMachine costs sort).run
      (.create server) decisions) (turns.map .advance) = after := reached
  rw [final]
  exact ⟨free, done⟩

end Runs

end Gossip
