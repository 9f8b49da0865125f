import Gossip.Foundation.Execution

/-! # Interleaved threads

Threads that share a state and take one atomic step at a time, in any order. New
threads can be started at any moment. The inputs of the machine are the
decisions of the scheduler, so a run is one interleaving. -/

namespace Foundation

structure Pool (Shared Local : Type) where
  shared : Shared
  threads : List Local

/-- The next decision: start an operation, or let a thread take a step. -/
inductive Decision (Operation : Type)
  | spawn (operation : Operation)
  | advance (index : Nat)
deriving DecidableEq, Repr

/-! ## Lists of threads -/

section Lists

variable {α : Type} {holds : α → Bool} {values : List α} {index : Nat} {old new : α}

theorem forall_mem_set {meets : α → Prop} (before : ∀ value ∈ values, meets value)
    (meetsNew : meets new) : ∀ value ∈ values.set index new, meets value := by
  intro value member
  rcases List.mem_or_eq_of_mem_set member with kept | rfl
  · exact before value kept
  · exact meetsNew

def AtMostOne (holds : α → Bool) (values : List α) : Prop :=
  ∀ ⦃i j : Nat⦄ ⦃first second : α⦄, values[i]? = some first → values[j]? = some second →
    holds first = true → holds second = true → i = j

theorem AtMostOne.nil : AtMostOne holds [] := by
  intro i j first second atFirst
  cases atFirst

theorem AtMostOne.set (one : AtMostOne holds values) (present : values[index]? = some old)
    (holdsOld : holds new = true → holds old = true) :
    AtMostOne holds (values.set index new) := by
  have before {i : Nat} {value : α} (found : (values.set index new)[i]? = some value)
      (holdsValue : holds value = true) :
      ∃ earlier, values[i]? = some earlier ∧ holds earlier = true := by
    by_cases equal : index = i
    · subst equal
      rw [List.getElem?_set_self (List.getElem?_eq_some_iff.mp present).1] at found
      cases found
      exact ⟨old, present, holdsOld holdsValue⟩
    · rw [List.getElem?_set_ne equal] at found
      exact ⟨value, found, holdsValue⟩
  intro i j first second atFirst atSecond holdsFirst holdsSecond
  rcases before atFirst holdsFirst with ⟨_, atFirst, holdsFirst⟩
  rcases before atSecond holdsSecond with ⟨_, atSecond, holdsSecond⟩
  exact one atFirst atSecond holdsFirst holdsSecond

theorem AtMostOne.append (one : AtMostOne holds values)
    (free : holds new = true → ∀ value ∈ values, holds value = false) :
    AtMostOne holds (values ++ [new]) := by
  have located {i : Nat} {value : α} (found : (values ++ [new])[i]? = some value) :
      values[i]? = some value ∨ i = values.length ∧ value = new := by
    rcases Nat.lt_trichotomy i values.length with below | equal | above
    · rw [List.getElem?_append_left below] at found
      exact .inl found
    · subst equal
      simp only [List.getElem?_concat_length, Option.some.injEq] at found
      exact .inr ⟨rfl, found.symm⟩
    · rw [List.getElem?_eq_none (by simp; omega)] at found
      cases found
  have never {i : Nat} {value : α} (found : values[i]? = some value)
      (holdsValue : holds value = true) (holdsNew : holds new = true) : False := by
    rw [free holdsNew value (List.mem_of_getElem? found)] at holdsValue
    cases holdsValue
  intro i j first second atFirst atSecond holdsFirst holdsSecond
  rcases located atFirst with foundFirst | ⟨rfl, rfl⟩
  · rcases located atSecond with foundSecond | ⟨rfl, rfl⟩
    · exact one foundFirst foundSecond holdsFirst holdsSecond
    · exact (never foundFirst holdsFirst holdsSecond).elim
  · rcases located atSecond with foundSecond | ⟨rfl, rfl⟩
    · exact (never foundSecond holdsSecond holdsFirst).elim
    · rfl

theorem AtMostOne.others (one : AtMostOne holds values) (present : values[index]? = some old)
    (holdsOld : holds old = true) {other : α} (member : other ∈ values.set index new) :
    other = new ∨ holds other = false := by
  rcases List.mem_iff_getElem?.mp member with ⟨i, found⟩
  by_cases equal : index = i
  · subst equal
    rw [List.getElem?_set_self (List.getElem?_eq_some_iff.mp present).1] at found
    exact .inl (Option.some.inj found).symm
  · rw [List.getElem?_set_ne equal] at found
    refine .inr (Bool.eq_false_iff.mpr fun holdsOther => equal ?_)
    exact one present found holdsOld holdsOther

end Lists

namespace Pool

variable {Shared Local Operation : Type} (start : Operation → Local)
  (exec : Shared → Local → Shared × Local)

def schedule (pool : Pool Shared Local) : Decision Operation → Pool Shared Local
  | .spawn operation => { pool with threads := pool.threads ++ [start operation] }
  | .advance index =>
      match pool.threads[index]? with
      | none => pool
      | some thread =>
          let (shared, thread) := exec pool.shared thread
          { shared := shared, threads := pool.threads.set index thread }

def machine : Machine (Pool Shared Local) (Decision Operation) := ⟨schedule start exec⟩

theorem machine_advance_none {pool : Pool Shared Local} {index : Nat}
    (missing : pool.threads[index]? = none) :
    (machine start exec).step pool (.advance index) = pool := by
  simp [machine, schedule, missing]

theorem machine_advance {pool : Pool Shared Local} {index : Nat} {thread : Local}
    (present : pool.threads[index]? = some thread) :
    (machine start exec).step pool (.advance index) =
      { shared := (exec pool.shared thread).1
        threads := pool.threads.set index (exec pool.shared thread).2 } := by
  simp [machine, schedule, present]

theorem mem_set_of_ne {threads : List Local} {index : Nat} {thread current other : Local}
    (present : threads[index]? = some current) (member : other ∈ threads)
    (different : other ≠ current) : other ∈ threads.set index thread := by
  rcases List.mem_iff_getElem?.mp member with ⟨position, found⟩
  have elsewhere : index ≠ position := by
    rintro rfl
    exact different (Option.some.inj (found.symm.trans present))
  apply List.mem_iff_getElem?.mpr
  exact ⟨position, by rw [List.getElem?_set_ne elsewhere, found]⟩

theorem mem_set_self {threads : List Local} {index : Nat} {thread current : Local}
    (present : threads[index]? = some current) : thread ∈ threads.set index thread := by
  apply List.mem_iff_getElem?.mpr
  exact ⟨index, by
    rw [List.getElem?_set_self (List.getElem?_eq_some_iff.mp present).1]⟩

structure Meets (sharedHolds : Shared → Prop) (localHolds : Shared → Local → Prop)
    (pool : Pool Shared Local) : Prop where
  shared : sharedHolds pool.shared
  threads : ∀ thread ∈ pool.threads, localHolds pool.shared thread

/-- Such an invariant is kept when new threads meet it and a thread that takes a step keeps
it for itself and for all others. -/
theorem Meets.step {sharedHolds : Shared → Prop} {localHolds : Shared → Local → Prop}
    {pool : Pool Shared Local} (meets : pool.Meets sharedHolds localHolds)
    (decision : Decision Operation)
    (spawned : ∀ operation, decision = .spawn operation →
      localHolds pool.shared (start operation))
    (advanced : ∀ index thread, decision = .advance index →
      pool.threads[index]? = some thread →
        sharedHolds (exec pool.shared thread).1 ∧
          localHolds (exec pool.shared thread).1 (exec pool.shared thread).2 ∧
          ∀ other ∈ pool.threads, localHolds (exec pool.shared thread).1 other) :
    ((machine start exec).step pool decision).Meets sharedHolds localHolds := by
  cases decision with
  | spawn operation =>
      refine ⟨meets.shared, fun thread member => ?_⟩
      rcases List.mem_append.mp member with old | new
      · exact meets.threads thread old
      · rw [List.mem_singleton.mp new]
        exact spawned operation rfl
  | advance index =>
      cases present : pool.threads[index]? with
      | none =>
          rw [machine_advance_none start exec present]
          exact meets
      | some current =>
          rcases advanced index current rfl present with ⟨shared, own, others⟩
          rw [machine_advance start exec present]
          exact ⟨shared, forall_mem_set others own⟩

end Pool

end Foundation
