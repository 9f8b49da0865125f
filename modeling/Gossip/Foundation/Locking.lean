import Gossip.Foundation.Interleaving
import Mathlib.Data.List.Perm.Basic
import Mathlib.Logic.Function.Basic

/-! # Critical sections

Threads share cells that are protected by a mutex each, and a rest that is not. A
critical section is a program of many statements on one cell. When all accesses to a cell
are made with its mutex held, and a section loads from the rest at most once, the sections
are atomic: what the threads can do statement by statement they can do section by section,
in the order in which the sections take effect. When no thread waits for a mutex while it
holds another one, the threads can always be brought to their ends. -/

namespace Foundation

theorem set_found {α : Type} {values : List α} {index : Nat} {value : α}
    (found : values[index]? = some value) : values.set index value = values := by
  rcases List.getElem?_eq_some_iff.mp found with ⟨inRange, equal⟩
  rw [← equal, List.set_getElem_self]

section Related

variable {α β : Type} {related : α → β → Prop} {left : List α} {right : List β}
  (all : ∀ index : Nat, Option.Rel related left[index]? right[index]?)

include all

theorem length_eq_of_rel : left.length = right.length := by
  have rightEnd : right[left.length]? = none := by
    have atEnd := all left.length
    rw [List.getElem?_eq_none (Nat.le_refl _)] at atEnd
    generalize right[left.length]? = found at atEnd ⊢
    cases atEnd
    rfl
  have leftEnd : left[right.length]? = none := by
    have atEnd := all right.length
    rw [List.getElem?_eq_none (Nat.le_refl right.length)] at atEnd
    generalize left[right.length]? = found at atEnd ⊢
    cases atEnd
    rfl
  exact Nat.le_antisymm (List.getElem?_eq_none_iff.mp leftEnd)
    (List.getElem?_eq_none_iff.mp rightEnd)

theorem rel_concat {first : α} {second : β} (last : related first second) (index : Nat) :
    Option.Rel related (left ++ [first])[index]? (right ++ [second])[index]? := by
  have same := length_eq_of_rel all
  rcases Nat.lt_trichotomy index left.length with below | here | above
  · rw [List.getElem?_append_left below, List.getElem?_append_left (by omega)]
    exact all index
  · subst here
    rw [List.getElem?_concat_length, same, List.getElem?_concat_length]
    exact .some last
  · rw [List.getElem?_eq_none (by simp; omega), List.getElem?_eq_none (by simp; omega)]
    exact .none

end Related

/-! ## Programs on a cell -/

/-- What a thread does while it holds a mutex: statements that look at the cell or change
it, and loads of what is shared without a mutex. -/
inductive Body (Cell Ambient Result : Type)
  | leave (result : Result)
  | write (change : Cell → Cell) (rest : Body Cell Ambient Result)
  | read (next : Cell → Body Cell Ambient Result)
  | load (next : Ambient → Body Cell Ambient Result)

namespace Body

variable {Cell Ambient Result : Type}

/-- All statements, one after the other, when nothing interferes. -/
def run (ambient : Ambient) : Cell → Body Cell Ambient Result → Cell × Result
  | cell, .leave result => (cell, result)
  | cell, .write change rest => run ambient (change cell) rest
  | cell, .read next => run ambient cell (next cell)
  | cell, .load next => run ambient cell (next ambient)

def LoadsNothing : Body Cell Ambient Result → Prop
  | .leave _ => True
  | .write _ rest => rest.LoadsNothing
  | .read next => ∀ cell, (next cell).LoadsNothing
  | .load _ => False

def LoadsOnce : Body Cell Ambient Result → Prop
  | .leave _ => True
  | .write _ rest => rest.LoadsOnce
  | .read next => ∀ cell, (next cell).LoadsOnce
  | .load next => ∀ ambient, (next ambient).LoadsNothing

theorem LoadsNothing.loadsOnce {body : Body Cell Ambient Result}
    (nothing : body.LoadsNothing) : body.LoadsOnce := by
  induction body with
  | leave result => trivial
  | write change rest induction => exact induction nothing
  | read next induction => exact fun cell => induction cell (nothing cell)
  | load next => exact nothing.elim

theorem LoadsNothing.run_eq {body : Body Cell Ambient Result}
    (nothing : body.LoadsNothing) (first second : Ambient) (cell : Cell) :
    body.run first cell = body.run second cell := by
  induction body generalizing cell with
  | leave result => rfl
  | write change rest induction => exact induction nothing (change cell)
  | read next induction => exact induction cell (nothing cell) cell
  | load next => exact nothing.elim

/-- The same statements, and what is made of their result. -/
def map {Other : Type} (transform : Result → Other) :
    Body Cell Ambient Result → Body Cell Ambient Other
  | .leave result => .leave (transform result)
  | .write change rest => .write change (rest.map transform)
  | .read next => .read fun cell => (next cell).map transform
  | .load next => .load fun ambient => (next ambient).map transform

theorem run_map {Other : Type} (transform : Result → Other)
    (body : Body Cell Ambient Result) (ambient : Ambient) (cell : Cell) :
    (body.map transform).run ambient cell =
      ((body.run ambient cell).1, transform (body.run ambient cell).2) := by
  induction body generalizing cell with
  | leave result => rfl
  | write change rest induction => exact induction (change cell)
  | read next induction => exact induction cell cell
  | load next induction => exact induction ambient cell

theorem LoadsNothing.map {Other : Type} {body : Body Cell Ambient Result}
    (nothing : body.LoadsNothing) (transform : Result → Other) :
    (body.map transform).LoadsNothing := by
  induction body with
  | leave result => trivial
  | write change rest induction => exact induction nothing
  | read next induction => exact fun cell => induction cell (nothing cell)
  | load next => exact nothing.elim

theorem LoadsOnce.map {Other : Type} {body : Body Cell Ambient Result}
    (once : body.LoadsOnce) (transform : Result → Other) :
    (body.map transform).LoadsOnce := by
  induction body with
  | leave result => trivial
  | write change rest induction => exact induction once
  | read next induction => exact fun cell => induction cell (once cell)
  | load next => exact fun ambient => (once ambient).map transform

end Body

/-! ## Threads with critical sections -/

structure Layout (Shared Mutex Cell Rest : Type) [DecidableEq Mutex] where
  cell : Shared → Mutex → Cell
  put : Shared → Mutex → Cell → Shared
  rest : Shared → Rest
  cell_put : ∀ shared mutex content,
    cell (put shared mutex content) = Function.update (cell shared) mutex content
  rest_put : ∀ shared mutex content, rest (put shared mutex content) = rest shared
  ext : ∀ left right, cell left = cell right → rest left = rest right → left = right

/-- Threads that take whole sections as their steps, and the program of each section.
A thread whose next step has no program touches no cell in it. Which program comes next is
not changed by what other threads do. -/
structure Sections (Shared Mutex Cell Rest Ambient Local : Type) [DecidableEq Mutex] extends
    Layout Shared Mutex Cell Rest where
  ambient : Rest → Ambient
  body? : Rest → Local → Option (Mutex × Body Cell Ambient Local)
  exec : Shared → Local → Shared × Local
  body_stable : ∀ shared moving, body? (rest (exec shared moving).1) = body? (rest shared)
  body_loadsOnce : ∀ rest thread mutex body,
    body? rest thread = some (mutex, body) → body.LoadsOnce
  exec_section : ∀ shared thread mutex body, body? (rest shared) thread = some (mutex, body) →
    exec shared thread =
      (put shared mutex (body.run (ambient (rest shared)) (cell shared mutex)).1,
        (body.run (ambient (rest shared)) (cell shared mutex)).2)
  exec_cell : ∀ shared thread, body? (rest shared) thread = none →
    cell (exec shared thread).1 = cell shared
  exec_rest : ∀ left right thread, body? (rest left) thread = none → rest left = rest right →
    rest (exec left thread).1 = rest (exec right thread).1 ∧
      (exec left thread).2 = (exec right thread).2

inductive Running (Mutex Cell Ambient Local : Type)
  | outside (thread : Local)
  | inside (mutex : Mutex) (body : Body Cell Ambient Local)

structure Locked (Shared Mutex : Type) where
  shared : Shared
  held : Mutex → Bool := fun _ => false

namespace Running

variable {Mutex Cell Ambient Local : Type} [DecidableEq Mutex]

def holds (mutex : Mutex) : Running Mutex Cell Ambient Local → Bool
  | .outside _ => false
  | .inside own _ => own = mutex

@[simp] theorem holds_outside (mutex : Mutex) (thread : Local) :
    holds mutex (outside thread : Running Mutex Cell Ambient Local) = false := rfl

@[simp] theorem holds_inside (mutex own : Mutex) (body : Body Cell Ambient Local) :
    holds mutex (inside own body) = decide (own = mutex) := rfl

end Running

namespace Sections

variable {Shared Mutex Cell Rest Ambient Local Operation : Type} [DecidableEq Mutex]
  (sections : Sections Shared Mutex Cell Rest Ambient Local) (start : Operation → Local)

def stepInto (locked : Locked Shared Mutex) :
    Running Mutex Cell Ambient Local →
      Locked Shared Mutex × Running Mutex Cell Ambient Local
  | .outside thread =>
      match sections.body? (sections.rest locked.shared) thread with
      | none =>
          ({ locked with shared := (sections.exec locked.shared thread).1 },
            .outside (sections.exec locked.shared thread).2)
      | some (mutex, body) =>
          if locked.held mutex then (locked, .outside thread)
          else ({ locked with held := Function.update locked.held mutex true },
            .inside mutex body)
  | .inside mutex (.leave result) =>
      ({ locked with held := Function.update locked.held mutex false }, .outside result)
  | .inside mutex (.write change rest) =>
      ({ locked with
          shared := sections.put locked.shared mutex
            (change (sections.cell locked.shared mutex)) },
        .inside mutex rest)
  | .inside mutex (.read next) =>
      (locked, .inside mutex (next (sections.cell locked.shared mutex)))
  | .inside mutex (.load next) =>
      (locked, .inside mutex (next (sections.ambient (sections.rest locked.shared))))

def lockedMachine : Machine (Pool (Locked Shared Mutex) (Running Mutex Cell Ambient Local))
    (Decision Operation) :=
  Pool.machine (fun operation => .outside (start operation)) sections.stepInto

def atomicMachine : Machine (Pool Shared Local) (Decision Operation) :=
  Pool.machine start sections.exec

/-! ### The statements -/

section Statements

variable {sections} {locked : Locked Shared Mutex} {thread : Local} {mutex : Mutex}
  {body : Body Cell Ambient Local}

theorem stepInto_free
    (free : sections.body? (sections.rest locked.shared) thread = none) :
    sections.stepInto locked (.outside thread) =
      ({ locked with shared := (sections.exec locked.shared thread).1 },
        .outside (sections.exec locked.shared thread).2) := by
  simp [stepInto, free]

theorem stepInto_waits
    (planned : sections.body? (sections.rest locked.shared) thread = some (mutex, body))
    (taken : locked.held mutex = true) :
    sections.stepInto locked (.outside thread) = (locked, .outside thread) := by
  simp [stepInto, planned, taken]

theorem stepInto_acquires
    (planned : sections.body? (sections.rest locked.shared) thread = some (mutex, body))
    (available : locked.held mutex = false) :
    sections.stepInto locked (.outside thread) =
      ({ locked with held := Function.update locked.held mutex true },
        .inside mutex body) := by
  simp [stepInto, planned, available]

end Statements

/-! ## Mutual exclusion -/

def Exclusive (pool : Pool (Locked Shared Mutex) (Running Mutex Cell Ambient Local)) : Prop :=
  ∀ mutex, pool.threads.countP (Running.holds mutex) = (pool.shared.held mutex).toNat

namespace Exclusive

variable {pool : Pool (Locked Shared Mutex) (Running Mutex Cell Ambient Local)}
  {mutex : Mutex} {index : Nat} {old new : Running Mutex Cell Ambient Local}

theorem holds_eq_false (exclusive : Exclusive pool) (available : pool.shared.held mutex = false)
    {running : Running Mutex Cell Ambient Local} (member : running ∈ pool.threads) :
    running.holds mutex = false := by
  have none : pool.threads.countP (Running.holds mutex) = 0 := by
    rw [exclusive mutex, available]
    rfl
  simpa using List.countP_eq_zero.mp none running member

theorem held_of_holds (exclusive : Exclusive pool)
    {running : Running Mutex Cell Ambient Local} (member : running ∈ pool.threads)
    (holds : running.holds mutex = true) : pool.shared.held mutex = true := by
  by_contra available
  rw [Bool.not_eq_true] at available
  rw [exclusive.holds_eq_false available member] at holds
  cases holds

theorem held_eq_false (exclusive : Exclusive pool)
    (free : ∀ running ∈ pool.threads, running.holds mutex = false) :
    pool.shared.held mutex = false := by
  have counted := exclusive mutex
  rw [List.countP_eq_zero.mpr (by simpa using free)] at counted
  cases held : pool.shared.held mutex with
  | false => rfl
  | true =>
      rw [held] at counted
      cases counted

theorem set (exclusive : Exclusive pool) (present : pool.threads[index]? = some old)
    {locked : Locked Shared Mutex}
    (counted : ∀ mutex, (locked.held mutex).toNat + (old.holds mutex).toNat =
      (pool.shared.held mutex).toNat + (new.holds mutex).toNat) :
    Exclusive ⟨locked, pool.threads.set index new⟩ := by
  intro mutex
  rcases List.getElem?_eq_some_iff.mp present with ⟨inRange, found⟩
  have atIndex : (if pool.threads[index].holds mutex = true then 1 else 0) =
      (old.holds mutex).toNat := by
    rw [found]
    cases old.holds mutex <;> rfl
  have bound : (old.holds mutex).toNat ≤ pool.threads.countP (Running.holds mutex) := by
    cases holds : old.holds mutex with
    | false => exact Nat.zero_le _
    | true => exact List.countP_pos_iff.mpr ⟨old, List.mem_of_getElem? present, holds⟩
  have newCount : (if new.holds mutex = true then 1 else 0) = (new.holds mutex).toNat := by
    cases new.holds mutex <;> rfl
  have total := counted mutex
  have before := exclusive mutex
  rw [List.countP_set inRange, atIndex, newCount]
  dsimp only
  omega

theorem others (exclusive : Exclusive pool) (present : pool.threads[index]? = some old)
    (holds : old.holds mutex = true) {position : Nat} (elsewhere : index ≠ position)
    {other : Running Mutex Cell Ambient Local} (found : pool.threads[position]? = some other) :
    other.holds mutex = false := by
  by_contra alsoHolds
  rw [Bool.not_eq_false] at alsoHolds
  rcases List.getElem?_eq_some_iff.mp present with ⟨inRange, atIndex⟩
  -- Without the first thread there would still be one that holds the mutex.
  have remaining : 0 < (pool.threads.eraseIdx index).countP (Running.holds mutex) := by
    apply List.countP_pos_iff.mpr
    refine ⟨other, ?_, alsoHolds⟩
    exact List.mem_eraseIdx_iff_getElem?.mpr ⟨position, elsewhere.symm, found⟩
  have counted := (List.getElem_cons_eraseIdx_perm inRange).countP_eq (Running.holds mutex)
  rw [List.countP_cons, atIndex, if_pos holds, exclusive mutex] at counted
  have one : (pool.shared.held mutex).toNat ≤ 1 := Bool.toNat_le _
  omega

end Exclusive

/-! ## Statements that add up to sections -/

/-- How far a thread has got, against what the thread with whole sections has left to do.
Until a section has loaded all that it is going to load, it has not taken effect; from then
on it has, and only the cell still has to catch up. -/
inductive Follows (rest : Rest) (own whole : Mutex → Cell) :
    Running Mutex Cell Ambient Local → Local → Prop
  | outside (thread : Local) : Follows rest own whole (.outside thread) thread
  | pending {mutex : Mutex} {body entire : Body Cell Ambient Local} {thread : Local}
      (planned : sections.body? rest thread = some (mutex, entire)) (once : body.LoadsOnce)
      (loads : ¬ body.LoadsNothing)
      (agree : ∀ ambient,
        entire.run ambient (whole mutex) = body.run ambient (own mutex)) :
      Follows rest own whole (.inside mutex body) thread
  | effective {mutex : Mutex} {body : Body Cell Ambient Local} {thread : Local}
      (nothing : body.LoadsNothing)
      (agree : ∀ ambient, body.run ambient (own mutex) = (whole mutex, thread)) :
      Follows rest own whole (.inside mutex body) thread

variable {sections} in
theorem Follows.congr {rest after : Rest} {own whole ownAfter wholeAfter : Mutex → Cell}
    {running : Running Mutex Cell Ambient Local} {thread : Local}
    (follows : sections.Follows rest own whole running thread)
    (stable : sections.body? after = sections.body? rest)
    (same : ∀ mutex, running.holds mutex = true →
      ownAfter mutex = own mutex ∧ wholeAfter mutex = whole mutex) :
    sections.Follows after ownAfter wholeAfter running thread := by
  cases follows with
  | outside => exact .outside thread
  | @pending mutex body entire _ planned once loads agree =>
      have cells := same mutex (by simp)
      refine .pending (by rw [stable, planned]) once loads ?_
      intro ambient
      rw [cells.1, cells.2, agree]
  | @effective mutex body _ nothing agree =>
      have cells := same mutex (by simp)
      refine .effective nothing ?_
      intro ambient
      rw [cells.1, cells.2, agree]

/-- The threads have the same to do in both ways of counting steps, and the cells that
nobody holds have the same content. -/
structure Refines (pool : Pool (Locked Shared Mutex) (Running Mutex Cell Ambient Local))
    (atomic : Pool Shared Local) : Prop where
  exclusive : Exclusive pool
  rest : sections.rest pool.shared.shared = sections.rest atomic.shared
  cells : ∀ mutex, pool.shared.held mutex = false →
    sections.cell pool.shared.shared mutex = sections.cell atomic.shared mutex
  threads : ∀ index : Nat, Option.Rel
    (sections.Follows (sections.rest atomic.shared) (sections.cell pool.shared.shared)
      (sections.cell atomic.shared)) pool.threads[index]? atomic.threads[index]?

namespace Refines

variable {sections}
  {pool : Pool (Locked Shared Mutex) (Running Mutex Cell Ambient Local)}
  {atomic : Pool Shared Local} {index : Nat}
  {old new : Running Mutex Cell Ambient Local} {thread moved : Local}

theorem follows (refines : sections.Refines pool atomic)
    (present : pool.threads[index]? = some old) :
    ∃ thread, atomic.threads[index]? = some thread ∧
      sections.Follows (sections.rest atomic.shared) (sections.cell pool.shared.shared)
        (sections.cell atomic.shared) old thread := by
  have related := refines.threads index
  rw [present] at related
  generalize atomic.threads[index]? = found at related
  cases related with
  | some follows => exact ⟨_, rfl, follows⟩

theorem length_eq (refines : sections.Refines pool atomic) :
    pool.threads.length = atomic.threads.length :=
  length_eq_of_rel refines.threads

/-- A thread has moved, in one way of counting or in both. The other threads are not
affected, because the cells that they hold are left alone. -/
theorem set (refines : sections.Refines pool atomic)
    (present : pool.threads[index]? = some old) (found : atomic.threads[index]? = some thread)
    {locked : Locked Shared Mutex} {shared : Shared}
    (counted : ∀ mutex, (locked.held mutex).toNat + (old.holds mutex).toNat =
      (pool.shared.held mutex).toNat + (new.holds mutex).toNat)
    (rest : sections.rest locked.shared = sections.rest shared)
    (cells : ∀ mutex, locked.held mutex = false →
      sections.cell locked.shared mutex = sections.cell shared mutex)
    (stable : sections.body? (sections.rest shared) =
      sections.body? (sections.rest atomic.shared))
    (others : ∀ mutex, pool.shared.held mutex = true → old.holds mutex = false →
      sections.cell locked.shared mutex = sections.cell pool.shared.shared mutex ∧
        sections.cell shared mutex = sections.cell atomic.shared mutex)
    (own : sections.Follows (sections.rest shared) (sections.cell locked.shared)
      (sections.cell shared) new moved) :
    sections.Refines ⟨locked, pool.threads.set index new⟩
      ⟨shared, atomic.threads.set index moved⟩ := by
  refine ⟨refines.exclusive.set present counted, rest, cells, ?_⟩
  intro position
  by_cases here : index = position
  · subst here
    rw [List.getElem?_set_self (List.getElem?_eq_some_iff.mp present).1,
      List.getElem?_set_self (List.getElem?_eq_some_iff.mp found).1]
    exact .some own
  · rw [List.getElem?_set_ne here, List.getElem?_set_ne here]
    have related := refines.threads position
    cases running : pool.threads[position]? with
    | none =>
        rw [running] at related
        cases waiting : atomic.threads[position]? with
        | none => exact .none
        | some other =>
            rw [waiting] at related
            cases related
    | some running' =>
        rcases refines.follows running with ⟨other, waiting, follows⟩
        rw [waiting]
        refine .some (follows.congr stable ?_)
        intro mutex holds
        apply others mutex (refines.exclusive.held_of_holds (List.mem_of_getElem? running) holds)
        by_contra alsoHolds
        rw [Bool.not_eq_false] at alsoHolds
        rw [refines.exclusive.others present alsoHolds here running] at holds
        cases holds

/-! ### Inside a section -/

section Inside

variable {mutex : Mutex} {body entire : Body Cell Ambient Local} {shared : Shared}
  (refines : sections.Refines pool atomic) (present : pool.threads[index]? = some old)
  (found : atomic.threads[index]? = some thread)
  (own : old.holds mutex = pool.shared.held mutex)
  (only : ∀ other, other ≠ mutex → old.holds other = false)
  (rest : sections.rest shared = sections.rest pool.shared.shared)
  (cells : ∀ other, other ≠ mutex →
    sections.cell shared other = sections.cell pool.shared.shared other)
  (planned : sections.body? (sections.rest atomic.shared) thread = some (mutex, entire))

include refines present found own only rest cells

theorem setInside {whole : Shared} (restWhole : sections.rest whole = sections.rest atomic.shared)
    (cellsWhole : ∀ other, other ≠ mutex →
      sections.cell whole other = sections.cell atomic.shared other)
    (follows : sections.Follows (sections.rest whole) (sections.cell shared)
      (sections.cell whole) (.inside mutex body) moved) :
    sections.Refines
      ⟨⟨shared, Function.update pool.shared.held mutex true⟩,
        pool.threads.set index (.inside mutex body)⟩
      ⟨whole, atomic.threads.set index moved⟩ := by
  apply refines.set present found
  case counted =>
    intro other
    by_cases here : other = mutex
    · subst here
      simp [own, Nat.add_comm]
    · simp [here, Ne.symm here, only other here]
  case rest => rw [rest, refines.rest, restWhole]
  case cells =>
    intro other available
    by_cases here : other = mutex
    · subst here
      simp at available
    · dsimp only at available
      rw [Function.update_of_ne here] at available
      rw [cells other here, refines.cells other available, cellsWhole other here]
  case stable => rw [restWhole]
  case others =>
    intro other held free
    have different : other ≠ mutex := by
      rintro rfl
      rw [own, held] at free
      cases free
    exact ⟨cells other different, cellsWhole other different⟩
  case own => exact follows

theorem goesOn
    (follows : sections.Follows (sections.rest atomic.shared) (sections.cell shared)
      (sections.cell atomic.shared) (.inside mutex body) thread) :
    sections.Refines
      ⟨⟨shared, Function.update pool.shared.held mutex true⟩,
        pool.threads.set index (.inside mutex body)⟩ atomic := by
  have moved := refines.setInside present found own only rest cells rfl (fun _ _ => rfl) follows
  rwa [set_found found] at moved

include planned

theorem takesEffect (start : Operation → Local) (nothing : body.LoadsNothing)
    (agree : entire.run (sections.ambient (sections.rest atomic.shared))
        (sections.cell atomic.shared mutex) =
      body.run (sections.ambient (sections.rest atomic.shared))
        (sections.cell shared mutex)) :
    sections.Refines
      ⟨⟨shared, Function.update pool.shared.held mutex true⟩,
        pool.threads.set index (.inside mutex body)⟩
      ((sections.atomicMachine start).step atomic (.advance index)) := by
  rw [atomicMachine, Pool.machine_advance start sections.exec found,
    sections.exec_section _ _ _ _ planned]
  apply refines.setInside present found own only rest cells
  case restWhole => rw [sections.rest_put]
  case cellsWhole =>
    intro other different
    rw [sections.cell_put, Function.update_of_ne different]
  case follows =>
    apply Follows.effective nothing
    intro ambient
    rw [nothing.run_eq ambient (sections.ambient (sections.rest atomic.shared)), agree,
      sections.cell_put, Function.update_self]

theorem settles (start : Operation → Local) (once : body.LoadsOnce)
    (agree : ∀ ambient, entire.run ambient (sections.cell atomic.shared mutex) =
      body.run ambient (sections.cell shared mutex)) :
    ∃ schedule : List (Decision Operation), schedule.Sublist [.advance index] ∧
      sections.Refines
        ⟨⟨shared, Function.update pool.shared.held mutex true⟩,
          pool.threads.set index (.inside mutex body)⟩
        ((sections.atomicMachine start).run atomic schedule) := by
  by_cases nothing : body.LoadsNothing
  · exact ⟨[.advance index], .refl _,
      refines.takesEffect present found own only rest cells planned start nothing (agree _)⟩
  · exact ⟨[], List.nil_sublist _, refines.goesOn present found own only rest cells
      (.pending planned once nothing agree)⟩

end Inside

/-! ### One statement -/

theorem advance_outside (start : Operation → Local) (refines : sections.Refines pool atomic)
    (present : pool.threads[index]? = some (.outside thread)) :
    ∃ schedule : List (Decision Operation), schedule.Sublist [.advance index] ∧
      sections.Refines
        ⟨(sections.stepInto pool.shared (.outside thread)).1,
          pool.threads.set index (sections.stepInto pool.shared (.outside thread)).2⟩
        ((sections.atomicMachine start).run atomic schedule) := by
  rcases refines.follows present with ⟨thread, found, ⟨⟩⟩
  cases planned : sections.body? (sections.rest atomic.shared) thread with
  | none =>
      refine ⟨[.advance index], .refl _, ?_⟩
      rw [stepInto_free (by rw [refines.rest, planned]), Machine.run_cons, Machine.run_nil,
        atomicMachine, Pool.machine_advance start sections.exec found]
      have free : sections.body? (sections.rest pool.shared.shared) thread = none := by
        rw [refines.rest, planned]
      have same := sections.exec_rest _ _ thread free refines.rest
      apply refines.set present found
      case counted => intro mutex; rfl
      case rest => exact same.1
      case cells =>
        intro mutex available
        rw [sections.exec_cell _ _ free, sections.exec_cell _ _ planned]
        exact refines.cells mutex available
      case stable => rw [sections.body_stable]
      case others =>
        intro mutex _ _
        rw [sections.exec_cell _ _ free, sections.exec_cell _ _ planned]
        exact ⟨rfl, rfl⟩
      case own =>
        rw [same.2]
        exact .outside _
  | some next =>
      rcases next with ⟨mutex, body⟩
      have ready : sections.body? (sections.rest pool.shared.shared) thread =
          some (mutex, body) := by rw [refines.rest, planned]
      cases available : pool.shared.held mutex with
      | true =>
          refine ⟨[], List.nil_sublist _, ?_⟩
          rw [stepInto_waits ready available, set_found present]
          exact refines
      | false =>
          rw [stepInto_acquires ready available]
          apply refines.settles present found
          case own => exact available.symm
          case only => intro other _; rfl
          case rest => rfl
          case cells => intro other _; rfl
          case planned => exact planned
          case once => exact sections.body_loadsOnce _ _ _ _ planned
          case agree =>
            intro ambient
            rw [refines.cells mutex available]

theorem releases (refines : sections.Refines pool atomic) {mutex : Mutex} {result : Local}
    (present : pool.threads[index]? = some (.inside mutex (.leave result)))
    (found : atomic.threads[index]? = some result) (held : pool.shared.held mutex = true)
    (sameCell : sections.cell pool.shared.shared mutex = sections.cell atomic.shared mutex) :
    sections.Refines
      ⟨⟨pool.shared.shared, Function.update pool.shared.held mutex false⟩,
        pool.threads.set index (.outside result)⟩ atomic := by
  have released : sections.Refines
      ⟨⟨pool.shared.shared, Function.update pool.shared.held mutex false⟩,
        pool.threads.set index (.outside result)⟩
      ⟨atomic.shared, atomic.threads.set index result⟩ := by
    apply refines.set present found
    case counted =>
      intro other
      by_cases here : other = mutex
      · subst here
        simp [held]
      · simp [here, Ne.symm here]
    case rest => exact refines.rest
    case cells =>
      intro other available
      by_cases here : other = mutex
      · rw [here, sameCell]
      · dsimp only at available
        rw [Function.update_of_ne here] at available
        exact refines.cells other available
    case stable => rfl
    case others => intro other _ _; exact ⟨rfl, rfl⟩
    case own => exact .outside result
  rwa [set_found found] at released

theorem advance_inside (start : Operation → Local) (refines : sections.Refines pool atomic)
    {mutex : Mutex} {body : Body Cell Ambient Local}
    (present : pool.threads[index]? = some (.inside mutex body)) :
    ∃ schedule : List (Decision Operation), schedule.Sublist [.advance index] ∧
      sections.Refines
        ⟨(sections.stepInto pool.shared (.inside mutex body)).1,
          pool.threads.set index (sections.stepInto pool.shared (.inside mutex body)).2⟩
        ((sections.atomicMachine start).run atomic schedule) := by
  rcases refines.follows present with ⟨thread, found, follows⟩
  have held : pool.shared.held mutex = true :=
    refines.exclusive.held_of_holds (List.mem_of_getElem? present) (by simp)
  have own : (Running.inside mutex body).holds mutex = pool.shared.held mutex := by
    simp [held]
  have only (other : Mutex) (different : other ≠ mutex) :
      (Running.inside mutex body).holds other = false := by
    simp [Ne.symm different]
  have unchanged : Function.update pool.shared.held mutex true = pool.shared.held := by
    rw [← held, Function.update_eq_self]
  cases body with
  | leave result =>
      cases follows with
      | pending _ _ loads _ => exact (loads trivial).elim
      | effective _ agree =>
          have equal := agree (sections.ambient (sections.rest atomic.shared))
          simp only [Body.run, Prod.mk.injEq] at equal
          rcases equal with ⟨sameCell, rfl⟩
          refine ⟨[], List.nil_sublist _, ?_⟩
          exact refines.releases present found held sameCell
  | write change rest =>
      refine ⟨[], List.nil_sublist _, ?_⟩
      have moved : sections.Follows (sections.rest atomic.shared)
          (sections.cell (sections.put pool.shared.shared mutex
            (change (sections.cell pool.shared.shared mutex))))
          (sections.cell atomic.shared) (.inside mutex rest) thread := by
        have here : sections.cell (sections.put pool.shared.shared mutex
            (change (sections.cell pool.shared.shared mutex))) mutex =
              change (sections.cell pool.shared.shared mutex) := by
          rw [sections.cell_put, Function.update_self]
        cases follows with
        | pending planned once loads agree =>
            exact .pending planned once loads fun ambient => by rw [agree, here]; rfl
        | effective nothing agree =>
            exact .effective nothing fun ambient => by rw [← agree ambient, here]; rfl
      have next := refines.goesOn present found own only (sections.rest_put _ _ _)
        (fun other different => by rw [sections.cell_put, Function.update_of_ne different]) moved
      rwa [unchanged] at next
  | read next =>
      cases follows with
      | pending planned once loads agree =>
          have settled := refines.settles present found own only rfl (fun _ _ => rfl) planned
            start (once (sections.cell pool.shared.shared mutex)) agree
          rwa [unchanged] at settled
      | effective nothing agree =>
          have next := refines.goesOn present found own only rfl (fun _ _ => rfl)
            (.effective (nothing (sections.cell pool.shared.shared mutex)) agree)
          rw [unchanged] at next
          exact ⟨[], List.nil_sublist _, next⟩
  | load next =>
      cases follows with
      | pending planned once loads agree =>
          refine ⟨[.advance index], .refl _, ?_⟩
          have effect := refines.takesEffect present found own only rfl (fun _ _ => rfl) planned
            start (once (sections.ambient (sections.rest pool.shared.shared)))
            (by rw [agree, refines.rest]; rfl)
          rwa [unchanged] at effect
      | effective nothing agree => exact nothing.elim

theorem spawn (start : Operation → Local) (refines : sections.Refines pool atomic)
    (operation : Operation) :
    sections.Refines ((sections.lockedMachine start).step pool (.spawn operation))
      ((sections.atomicMachine start).step atomic (.spawn operation)) := by
  refine ⟨?_, refines.rest, refines.cells, ?_⟩
  · intro mutex
    simp [lockedMachine, Pool.machine, Pool.schedule, refines.exclusive mutex]
  · exact rel_concat refines.threads (.outside (start operation))

theorem step (start : Operation → Local) (refines : sections.Refines pool atomic)
    (decision : Decision Operation) :
    ∃ schedule : List (Decision Operation), schedule.Sublist [decision] ∧
      sections.Refines ((sections.lockedMachine start).step pool decision)
        ((sections.atomicMachine start).run atomic schedule) := by
  cases decision with
  | spawn operation => exact ⟨[.spawn operation], .refl _, refines.spawn start operation⟩
  | advance index =>
      cases present : pool.threads[index]? with
      | none =>
          refine ⟨[], List.nil_sublist _, ?_⟩
          rw [lockedMachine, Pool.machine_advance_none _ _ present]
          exact refines
      | some running =>
          rw [lockedMachine, Pool.machine_advance _ _ present]
          cases running with
          | outside thread => exact refines.advance_outside start present
          | inside mutex body => exact refines.advance_inside start present

end Refines

/-- Whatever the threads do statement by statement, they can do section by section, and the
sections take effect in the order of some of the statements. -/
theorem run_refines {pool : Pool (Locked Shared Mutex) (Running Mutex Cell Ambient Local)}
    {atomic : Pool Shared Local} (refines : sections.Refines pool atomic)
    (decisions : List (Decision Operation)) :
    ∃ schedule : List (Decision Operation), schedule.Sublist decisions ∧
      sections.Refines ((sections.lockedMachine start).run pool decisions)
        ((sections.atomicMachine start).run atomic schedule) := by
  apply Machine.run_matched _ sections.Refines _ refines
  intro state partner decision related
  exact related.step start decision

end Sections

end Foundation
