import Gossip.Foundation.Locking
import Mathlib.Logic.Function.Iterate

/-! # Threads that can always be brought to their ends

A thread holds one mutex at a time and never waits while it holds one. So a thread that is
inside a section can leave it whatever the others do, and when nobody is inside a section
everybody can go on. -/

namespace Foundation

namespace Sections

variable {Shared Mutex Cell Rest Ambient Local Operation : Type} [DecidableEq Mutex]
  (sections : Sections Shared Mutex Cell Rest Ambient Local) (start : Operation → Local)

def Leads (before after : Pool (Locked Shared Mutex) (Running Mutex Cell Ambient Local)) :
    Prop :=
  ∃ turns : List Nat,
    (sections.lockedMachine start).run before (turns.map .advance) = after

namespace Leads

variable {sections start}
  {before middle after : Pool (Locked Shared Mutex) (Running Mutex Cell Ambient Local)}

theorem refl (pool : Pool (Locked Shared Mutex) (Running Mutex Cell Ambient Local)) :
    sections.Leads start pool pool := ⟨[], rfl⟩

theorem trans (first : sections.Leads start before middle)
    (second : sections.Leads start middle after) : sections.Leads start before after := by
  rcases first with ⟨turns, rfl⟩
  rcases second with ⟨further, rfl⟩
  refine ⟨turns ++ further, ?_⟩
  rw [List.map_append, Machine.run_append]

theorem turn {locked : Locked Shared Mutex}
    {threads : List (Running Mutex Cell Ambient Local)} {index : Nat}
    (inRange : index < threads.length) (running : Running Mutex Cell Ambient Local) :
    sections.Leads start ⟨locked, threads.set index running⟩
      ⟨(sections.stepInto locked running).1,
        threads.set index (sections.stepInto locked running).2⟩ := by
  refine ⟨[index], ?_⟩
  rw [List.map_singleton, Machine.run_cons, Machine.run_nil, lockedMachine,
    Pool.machine_advance _ _ (List.getElem?_set_self inRange), List.set_set]

end Leads

/-! ## One thread, while the others wait -/

section Alone

variable (held : Mutex → Bool) {threads : List (Running Mutex Cell Ambient Local)}
  {index : Nat} (inRange : index < threads.length)

include inRange

theorem leads_body (mutex : Mutex) (body : Body Cell Ambient Local) (shared : Shared) :
    sections.Leads start ⟨⟨shared, held⟩, threads.set index (.inside mutex body)⟩
      ⟨⟨sections.put shared mutex (body.run (sections.ambient (sections.rest shared))
            (sections.cell shared mutex)).1, Function.update held mutex false⟩,
        threads.set index (.outside (body.run (sections.ambient (sections.rest shared))
          (sections.cell shared mutex)).2)⟩ := by
  induction body generalizing shared with
  | leave result =>
      have same : sections.put shared mutex (sections.cell shared mutex) = shared := by
        apply sections.ext
        · rw [sections.cell_put, Function.update_eq_self]
        · rw [sections.rest_put]
      simp only [Body.run]
      rw [same]
      exact .turn inRange _
  | write change rest induction =>
      have written := induction (sections.put shared mutex (change (sections.cell shared mutex)))
      have same (content : Cell) : sections.put (sections.put shared mutex
          (change (sections.cell shared mutex))) mutex content =
            sections.put shared mutex content := by
        apply sections.ext
        · rw [sections.cell_put, sections.cell_put, sections.cell_put, Function.update_idem]
        · rw [sections.rest_put, sections.rest_put, sections.rest_put]
      rw [same, sections.rest_put, sections.cell_put, Function.update_self] at written
      exact (Leads.turn inRange _).trans written
  | read next induction =>
      exact (Leads.turn inRange _).trans (induction (sections.cell shared mutex) shared)
  | load next induction =>
      exact (Leads.turn inRange _).trans
        (induction (sections.ambient (sections.rest shared)) shared)

theorem leads_exec (available : ∀ mutex, held mutex = false) (shared : Shared)
    (thread : Local) :
    sections.Leads start ⟨⟨shared, held⟩, threads.set index (.outside thread)⟩
      ⟨⟨(sections.exec shared thread).1, held⟩,
        threads.set index (.outside (sections.exec shared thread).2)⟩ := by
  have entered : sections.Leads start ⟨⟨shared, held⟩, threads.set index (.outside thread)⟩
      ⟨(sections.stepInto ⟨shared, held⟩ (.outside thread)).1, threads.set index
        (sections.stepInto ⟨shared, held⟩ (.outside thread)).2⟩ := .turn inRange _
  cases planned : sections.body? (sections.rest shared) thread with
  | none =>
      rw [stepInto_free planned] at entered
      exact entered
  | some next =>
      rcases next with ⟨mutex, body⟩
      rw [stepInto_acquires planned (available mutex)] at entered
      have left := entered.trans (sections.leads_body start _ inRange mutex body shared)
      have released : Function.update (Function.update held mutex true) mutex false = held := by
        rw [Function.update_idem, ← available mutex, Function.update_eq_self]
      rw [released] at left
      rw [sections.exec_section _ _ _ _ planned]
      exact left

theorem leads_iterate (available : ∀ mutex, held mutex = false) (shared : Shared)
    (thread : Local) (count : Nat) :
    ∃ after, sections.Leads start ⟨⟨shared, held⟩, threads.set index (.outside thread)⟩
      ⟨⟨after, held⟩, threads.set index
        (.outside ((fun state => sections.exec state.1 state.2)^[count] (shared, thread)).2)⟩ := by
  induction count generalizing shared thread with
  | zero => exact ⟨shared, .refl _⟩
  | succ count induction =>
      rcases induction (sections.exec shared thread).1 (sections.exec shared thread).2 with
        ⟨after, leads⟩
      exact ⟨after, (sections.leads_exec start held inRange available shared thread).trans leads⟩

end Alone

/-! ## All threads -/

section All

variable {sections start} {before meets : Running Mutex Cell Ambient Local → Prop}

/-- What each thread can be brought to while the others wait, all threads can be brought to
one after the other. `free` is what a thread may rely on meanwhile. -/
theorem leads_all (free : (Mutex → Bool) → Prop)
    (each : ∀ shared held (threads : List (Running Mutex Cell Ambient Local)) index running,
      free held → index < threads.length → before running →
        ∃ after heldAfter reached, free heldAfter ∧ meets reached ∧
          sections.Leads start ⟨⟨shared, held⟩, threads.set index running⟩
            ⟨⟨after, heldAfter⟩, threads.set index reached⟩)
    (pool : Pool (Locked Shared Mutex) (Running Mutex Cell Ambient Local))
    (freeNow : free pool.shared.held) (starts : ∀ running ∈ pool.threads, before running) :
    ∃ after, sections.Leads start pool after ∧ free after.shared.held ∧
      ∀ running ∈ after.threads, meets running := by
  rcases pool with ⟨⟨shared, held⟩, threads⟩
  -- The induction is on the threads that have not been brought there yet.
  have brought (remaining reached : List (Running Mutex Cell Ambient Local)) (shared : Shared)
      (held : Mutex → Bool) (freeThen : free held)
      (starts : ∀ running ∈ remaining, before running)
      (done : ∀ running ∈ reached, meets running) :
      ∃ after, sections.Leads start ⟨⟨shared, held⟩, reached ++ remaining⟩ after ∧
        free after.shared.held ∧ ∀ running ∈ after.threads, meets running := by
    induction remaining generalizing reached shared held with
    | nil => exact ⟨_, .refl _, freeThen, by simpa using done⟩
    | cons running remaining induction =>
        rw [List.forall_mem_cons] at starts
        have here (next : Running Mutex Cell Ambient Local) :
            (reached ++ running :: remaining).set reached.length next =
              (reached ++ [next]) ++ remaining := by
          rw [List.set_append_right _ _ (Nat.le_refl _), Nat.sub_self, List.set_cons_zero,
            List.append_assoc, List.singleton_append]
        rcases each shared held (reached ++ running :: remaining) reached.length running
          freeThen (by simp) starts.1 with ⟨after, heldAfter, next, freeAfter, met, first⟩
        rw [here, here, List.append_assoc, List.singleton_append] at first
        have doneAfter : ∀ other ∈ reached ++ [next], meets other := by
          rw [List.forall_mem_append]
          exact ⟨done, by simpa using met⟩
        rcases induction (reached ++ [next]) after heldAfter freeAfter starts.2 doneAfter with
          ⟨final, second, rest⟩
        exact ⟨final, first.trans second, rest⟩
  exact brought threads [] shared held freeNow starts (by simp)

theorem leads_outside (pool : Pool (Locked Shared Mutex) (Running Mutex Cell Ambient Local)) :
    ∃ after, sections.Leads start pool after ∧
      ∀ running ∈ after.threads, ∃ thread, running = .outside thread := by
  refine (leads_all (fun _ => True) ?_ pool trivial
    fun _ _ => trivial).imp fun after brought => ⟨brought.1, brought.2.2⟩
  intro shared held threads index running _ inRange _
  cases running with
  | outside thread => exact ⟨shared, held, .outside thread, trivial, ⟨thread, rfl⟩, .refl _⟩
  | inside mutex body =>
      exact ⟨_, _, _, trivial, ⟨_, rfl⟩,
        sections.leads_body start held inRange mutex body shared⟩

theorem leads_finished {finished : Local → Prop}
    (finishes : ∀ shared thread, ∃ count : Nat,
      finished ((fun state : Shared × Local => sections.exec state.1 state.2)^[count]
        (shared, thread)).2)
    {pool : Pool (Locked Shared Mutex) (Running Mutex Cell Ambient Local)}
    {atomic : Pool Shared Local} (refines : sections.Refines pool atomic) :
    ∃ after, sections.Leads start pool after ∧ (∀ mutex, after.shared.held mutex = false) ∧
      ∀ running ∈ after.threads, ∃ thread, running = .outside thread ∧ finished thread := by
  rcases leads_outside pool with ⟨middle, left, outside⟩
  -- Nobody is inside a section any more, so no mutex is held.
  have available : ∀ mutex, middle.shared.held mutex = false := by
    rcases left with ⟨turns, rfl⟩
    rcases sections.run_refines start refines (turns.map .advance) with ⟨schedule, -, related⟩
    intro mutex
    apply related.exclusive.held_eq_false
    intro running member
    rcases outside running member with ⟨thread, rfl⟩
    rfl
  refine (leads_all (fun held => ∀ mutex, held mutex = false) ?_ middle available outside).imp
    fun after brought => ⟨left.trans brought.1, brought.2⟩
  rintro shared held threads index _ free inRange ⟨thread, rfl⟩
  rcases finishes shared thread with ⟨count, done⟩
  rcases sections.leads_iterate start held inRange free shared thread count with
    ⟨after, leads⟩
  exact ⟨after, held, _, free, ⟨_, rfl, done⟩, leads⟩

end All

end Sections

end Foundation
