import Gossip.Foundation.Locking
import Mathlib.Data.List.Induction
import Mathlib.Logic.Function.Iterate

/-! # Threads that do not get in each other's way

Each thread has a footprint: the parts of the shared state that it looks at or changes.
Threads whose footprints are disjoint do what each of them does alone, whatever the
interleaving; so all interleavings in which they come to their ends lead to the same
state. -/

namespace Foundation

def Decision.operation? {Operation : Type} : Decision Operation → Option Operation
  | .spawn operation => some operation
  | .advance _ => none

/-- What threads look at and change. `ambient` is what all of them look at and the calm
ones do not change. -/
structure Footprints (Shared Local Key View Ambient : Type) where
  exec : Shared → Local → Shared × Local
  view : Shared → Key → View
  ambient : Shared → Ambient
  Touches : Local → Key → Prop
  Calm : Local → Prop
  Done : Local → Prop
  calm_exec : ∀ shared thread, Calm thread → Calm (exec shared thread).2
  ambient_exec : ∀ shared thread, Calm thread → ambient (exec shared thread).1 = ambient shared
  touches_exec : ∀ shared thread key, Touches (exec shared thread).2 key → Touches thread key
  view_exec : ∀ shared thread key, Calm thread → ¬ Touches thread key →
    view (exec shared thread).1 key = view shared key
  exec_congr : ∀ left right thread, Calm thread → ambient left = ambient right →
    (∀ key, Touches thread key → view left key = view right key) →
      (exec left thread).2 = (exec right thread).2 ∧
        ∀ key, Touches thread key →
          view (exec left thread).1 key = view (exec right thread).1 key
  exec_done : ∀ shared thread, Done thread → exec shared thread = (shared, thread)

namespace Footprints

variable {Shared Local Key View Ambient Operation : Type}
  (prints : Footprints Shared Local Key View Ambient) (start : Operation → Local)

def alone (shared : Shared) (thread : Local) (count : Nat) : Shared × Local :=
  (fun state : Shared × Local => prints.exec state.1 state.2)^[count] (shared, thread)

theorem alone_succ (shared : Shared) (thread : Local) (count : Nat) :
    prints.alone shared thread (count + 1) =
      prints.exec (prints.alone shared thread count).1 (prints.alone shared thread count).2 := by
  rw [alone, Function.iterate_succ_apply']
  rfl

theorem alone_done {shared : Shared} {thread : Local} {count : Nat}
    (done : prints.Done (prints.alone shared thread count).2) (further : Nat) :
    prints.alone shared thread (count + further) = prints.alone shared thread count := by
  induction further with
  | zero => rfl
  | succ further induction =>
      rw [← Nat.add_assoc, alone_succ, induction, prints.exec_done _ _ done]

theorem alone_eq_of_done {shared : Shared} {thread : Local} {first second : Nat}
    (firstDone : prints.Done (prints.alone shared thread first).2)
    (secondDone : prints.Done (prints.alone shared thread second).2) :
    prints.alone shared thread first = prints.alone shared thread second := by
  rcases Nat.le_total first second with least | least
  · rcases Nat.exists_eq_add_of_le least with ⟨further, rfl⟩
    rw [prints.alone_done firstDone]
  · rcases Nat.exists_eq_add_of_le least with ⟨further, rfl⟩
    rw [prints.alone_done secondDone]

theorem alone_calm {thread : Local} (calm : prints.Calm thread) (shared : Shared)
    (count : Nat) :
    prints.Calm (prints.alone shared thread count).2 ∧
      prints.ambient (prints.alone shared thread count).1 = prints.ambient shared := by
  induction count with
  | zero => exact ⟨calm, rfl⟩
  | succ count induction =>
      rw [alone_succ]
      exact ⟨prints.calm_exec _ _ induction.1,
        (prints.ambient_exec _ _ induction.1).trans induction.2⟩

theorem touches_of_alone {shared : Shared} {thread : Local} {count : Nat} {key : Key}
    (touches : prints.Touches (prints.alone shared thread count).2 key) :
    prints.Touches thread key := by
  induction count with
  | zero => exact touches
  | succ count induction =>
      rw [alone_succ] at touches
      exact induction (prints.touches_exec _ _ _ touches)

def Disjoint (operations : List Operation) : Prop :=
  operations.Pairwise fun first second =>
    ∀ key, prints.Touches (start first) key → ¬ prints.Touches (start second) key

variable {prints start} in
theorem Disjoint.not_touches {operations : List Operation}
    (disjoint : prints.Disjoint start operations) {i j : Nat} {first second : Operation}
    (atFirst : operations[i]? = some first) (atSecond : operations[j]? = some second)
    (different : i ≠ j) {key : Key} (touches : prints.Touches (start first) key) :
    ¬ prints.Touches (start second) key := by
  rcases List.getElem?_eq_some_iff.mp atFirst with ⟨firstInRange, rfl⟩
  rcases List.getElem?_eq_some_iff.mp atSecond with ⟨secondInRange, rfl⟩
  rcases Nat.lt_or_gt_of_ne different with before | after
  · exact List.pairwise_iff_getElem.mp disjoint i j firstInRange secondInRange before key touches
  · intro alsoTouches
    exact List.pairwise_iff_getElem.mp disjoint j i secondInRange firstInRange after key
      alsoTouches touches

def Progress (initial shared : Shared) (operation : Operation) (thread : Local) : Prop :=
  ∃ count, thread = (prints.alone initial (start operation) count).2 ∧
    ∀ key, prints.Touches (start operation) key →
      prints.view shared key =
        prints.view (prints.alone initial (start operation) count).1 key

structure Independent (initial : Shared) (operations : List Operation)
    (pool : Pool Shared Local) : Prop where
  ambient : prints.ambient pool.shared = prints.ambient initial
  threads : ∀ index : Nat, Option.Rel (prints.Progress start initial pool.shared)
    operations[index]? pool.threads[index]?
  others : ∀ key, (∀ operation ∈ operations, ¬ prints.Touches (start operation) key) →
    prints.view pool.shared key = prints.view initial key

namespace Progress

variable {prints start} {initial shared after : Shared} {operation : Operation}
  {thread : Local}

theorem touches (progress : prints.Progress start initial shared operation thread) {key : Key}
    (touched : prints.Touches thread key) : prints.Touches (start operation) key := by
  rcases progress with ⟨count, rfl, -⟩
  exact prints.touches_of_alone touched

theorem calm (progress : prints.Progress start initial shared operation thread)
    (calm : prints.Calm (start operation)) : prints.Calm thread := by
  rcases progress with ⟨count, rfl, -⟩
  exact (prints.alone_calm calm initial count).1

theorem congr (progress : prints.Progress start initial shared operation thread)
    (same : ∀ key, prints.Touches (start operation) key →
      prints.view after key = prints.view shared key) :
    prints.Progress start initial after operation thread := by
  rcases progress with ⟨count, equal, views⟩
  exact ⟨count, equal, fun key touched => (same key touched).trans (views key touched)⟩

theorem step (progress : prints.Progress start initial shared operation thread)
    (calm : prints.Calm (start operation))
    (ambient : prints.ambient shared = prints.ambient initial) :
    prints.Progress start initial (prints.exec shared thread).1 operation
        (prints.exec shared thread).2 ∧
      prints.ambient (prints.exec shared thread).1 = prints.ambient initial := by
  have touches {key : Key} (touched : prints.Touches thread key) := progress.touches touched
  rcases progress with ⟨count, rfl, views⟩
  have calmThen := prints.alone_calm calm initial count
  have same := prints.exec_congr shared (prints.alone initial (start operation) count).1
    (prints.alone initial (start operation) count).2 calmThen.1
    (ambient.trans calmThen.2.symm)
    fun key touched => views key (touches touched)
  refine ⟨⟨count + 1, ?_, ?_⟩, (prints.ambient_exec _ _ calmThen.1).trans ambient⟩
  · rw [alone_succ, same.1]
  · intro key touched
    rw [alone_succ]
    by_cases now : prints.Touches (prints.alone initial (start operation) count).2 key
    · exact same.2 key now
    · rw [prints.view_exec _ _ _ calmThen.1 now, prints.view_exec _ _ _ calmThen.1 now]
      exact views key touched

end Progress

namespace Independent

variable {prints start} {initial : Shared} {operations : List Operation}
  {pool : Pool Shared Local}

theorem operation (independent : prints.Independent start initial operations pool)
    {index : Nat} {thread : Local} (present : pool.threads[index]? = some thread) :
    ∃ operation, operations[index]? = some operation ∧
      prints.Progress start initial pool.shared operation thread := by
  have related := independent.threads index
  rw [present] at related
  generalize operations[index]? = found at related
  cases related with
  | some progress => exact ⟨_, rfl, progress⟩

theorem spawn (independent : prints.Independent start initial operations pool)
    {operation : Operation} (disjoint : prints.Disjoint start (operations ++ [operation])) :
    prints.Independent start initial (operations ++ [operation])
      ((Pool.machine start prints.exec).step pool (.spawn operation)) where
  ambient := independent.ambient
  threads := by
    apply rel_concat independent.threads
    refine ⟨0, rfl, ?_⟩
    intro key touches
    apply independent.others
    intro earlier member alsoTouches
    exact (List.pairwise_append.mp disjoint).2.2 earlier member operation (by simp) key
      alsoTouches touches
  others key untouched := by
    apply independent.others
    intro earlier member
    exact untouched earlier (List.mem_append_left _ member)

theorem advance (independent : prints.Independent start initial operations pool)
    (disjoint : prints.Disjoint start operations)
    (calm : ∀ operation ∈ operations, prints.Calm (start operation)) (index : Nat) :
    prints.Independent start initial operations
      ((Pool.machine start prints.exec).step pool (.advance index)) := by
  cases present : pool.threads[index]? with
  | none =>
      rw [Pool.machine_advance_none _ _ present]
      exact independent
  | some thread =>
      rcases independent.operation present with ⟨operation, started, progress⟩
      have member : operation ∈ operations := List.mem_of_getElem? started
      have stepped := progress.step (calm operation member) independent.ambient
      have calmThread := progress.calm (calm operation member)
      rw [Pool.machine_advance _ _ present]
      refine ⟨stepped.2, ?_, ?_⟩
      · intro position
        by_cases here : index = position
        · subst here
          rw [started, List.getElem?_set_self (List.getElem?_eq_some_iff.mp present).1]
          exact .some stepped.1
        · rw [List.getElem?_set_ne here]
          have related := independent.threads position
          generalize other : operations[position]? = found at related ⊢
          generalize pool.threads[position]? = running at related ⊢
          cases related with
          | none => exact .none
          | some elsewhere =>
              refine .some (elsewhere.congr ?_)
              intro key touched
              apply prints.view_exec _ _ _ calmThread
              intro alsoTouched
              exact disjoint.not_touches other started (Ne.symm here) touched
                (progress.touches alsoTouched)
      · intro key untouched
        rw [prints.view_exec _ _ _ calmThread
          fun touched => untouched operation member (progress.touches touched)]
        exact independent.others key untouched

theorem finished (independent : prints.Independent start initial operations pool)
    (done : ∀ thread ∈ pool.threads, prints.Done thread) {operation : Operation}
    (member : operation ∈ operations) {key : Key}
    (touches : prints.Touches (start operation) key) :
    ∃ count, prints.Done (prints.alone initial (start operation) count).2 ∧
      prints.view pool.shared key =
        prints.view (prints.alone initial (start operation) count).1 key := by
  rcases List.mem_iff_getElem?.mp member with ⟨index, started⟩
  have related := independent.threads index
  rw [started] at related
  generalize present : pool.threads[index]? = found at related
  cases related with
  | some progress =>
      rcases progress with ⟨count, rfl, views⟩
      exact ⟨count, done _ (List.mem_of_getElem? present), views key touches⟩

end Independent

section Runs

variable (initial : Shared)

theorem independent_run {decisions : List (Decision Operation)}
    (disjoint : prints.Disjoint start (decisions.filterMap Decision.operation?))
    (calm : ∀ operation ∈ decisions.filterMap Decision.operation?,
      prints.Calm (start operation)) :
    prints.Independent start initial (decisions.filterMap Decision.operation?)
      ((Pool.machine start prints.exec).run ⟨initial, []⟩ decisions) := by
  induction decisions using List.reverseRecOn with
  | nil => exact ⟨rfl, fun _ => .none, fun _ _ => rfl⟩
  | append_singleton decisions decision induction =>
      rw [List.filterMap_append] at disjoint calm ⊢
      have before := induction (disjoint.sublist (List.sublist_append_left _ _))
        fun operation member => calm operation (List.mem_append_left _ member)
      rw [Machine.run_append]
      cases decision with
      | spawn operation => exact before.spawn disjoint
      | advance index =>
          simp only [List.filterMap_cons, Decision.operation?, List.filterMap_nil,
            List.append_nil] at disjoint calm ⊢
          exact before.advance disjoint calm index

theorem view_run_eq {first second : List (Decision Operation)}
    (same : (first.filterMap Decision.operation?).Perm (second.filterMap Decision.operation?))
    (disjoint : prints.Disjoint start (first.filterMap Decision.operation?))
    (calm : ∀ operation ∈ first.filterMap Decision.operation?, prints.Calm (start operation))
    (firstDone : ∀ thread ∈ ((Pool.machine start prints.exec).run ⟨initial, []⟩ first).threads,
      prints.Done thread)
    (secondDone : ∀ thread ∈
      ((Pool.machine start prints.exec).run ⟨initial, []⟩ second).threads,
        prints.Done thread) (key : Key) :
    prints.view ((Pool.machine start prints.exec).run ⟨initial, []⟩ first).shared key =
      prints.view ((Pool.machine start prints.exec).run ⟨initial, []⟩ second).shared key := by
  have symmetric : ∀ {left right : Operation},
      (∀ key, prints.Touches (start left) key → ¬ prints.Touches (start right) key) →
        ∀ key, prints.Touches (start right) key → ¬ prints.Touches (start left) key :=
    fun apart key right left => apart key left right
  have one := prints.independent_run start initial disjoint calm
  have other := prints.independent_run start initial (same.pairwise disjoint symmetric)
    fun operation member => calm operation (same.mem_iff.mpr member)
  by_cases touched : ∃ operation ∈ first.filterMap Decision.operation?,
      prints.Touches (start operation) key
  · rcases touched with ⟨operation, member, touches⟩
    rcases one.finished firstDone member touches with ⟨count, done, equal⟩
    rcases other.finished secondDone (same.mem_iff.mp member) touches with
      ⟨others, alsoDone, alsoEqual⟩
    rw [equal, alsoEqual, prints.alone_eq_of_done done alsoDone]
  · have untouched : ∀ operation ∈ first.filterMap Decision.operation?,
        ¬ prints.Touches (start operation) key :=
      fun operation member touches => touched ⟨operation, member, touches⟩
    rw [one.others key untouched, other.others key
      fun operation member => untouched operation (same.mem_iff.mpr member)]

end Runs

end Footprints

end Foundation
