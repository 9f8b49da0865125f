import Gossip.Foundation.BudgetedPrefix
import Mathlib.Algebra.Order.BigOperators.Group.List
import Mathlib.Data.List.Perm.Subperm
import Mathlib.Data.List.Sort

/-! # Budgets and sums

With costs that add up exactly, the prefix cut off by a budget is the one whose
total cost fits while that of the next longer prefix does not. The largest choice
of elements that fits a budget is found by taking the cheapest first. -/

namespace Foundation

section Totals

variable {α Cost : Type} (accumulate : Cost → α → Cost) (exceeds : Cost → Bool)

theorem takeWithin_within {running : Cost} (start : exceeds running = false)
    (values : List α) :
    exceeds ((takeWithin accumulate exceeds running values).foldl accumulate running) =
      false := by
  induction values generalizing running with
  | nil => exact start
  | cons value rest induction =>
      simp only [takeWithin]
      split
      · exact start
      next within => exact induction (by simpa using within)

theorem takeWithin_maximal (running : Cost) (values : List α) :
    takeWithin accumulate exceeds running values = values ∨
      ∃ next, takeWithin accumulate exceeds running values ++ [next] <+: values ∧
        exceeds ((takeWithin accumulate exceeds running values ++ [next]).foldl accumulate
          running) = true := by
  induction values generalizing running with
  | nil => exact .inl rfl
  | cons value rest induction =>
      simp only [takeWithin]
      split
      next exceeds => exact .inr ⟨value, by simp, by simpa using exceeds⟩
      next =>
        rcases induction (accumulate running value) with whole | ⟨next, isPrefix, exceeds⟩
        · exact .inl (by rw [whole])
        · exact .inr ⟨next, List.cons_prefix_cons.mpr ⟨rfl, isPrefix⟩, exceeds⟩

end Totals

section Cheapest

variable {α Cost : Type} [LinearOrder Cost] (cost : α → Cost)

def byCost (values : List α) : List α :=
  values.insertionSort fun left right => cost left ≤ cost right

theorem byCost_perm (values : List α) : (byCost cost values).Perm values :=
  List.perm_insertionSort _ values

theorem byCost_ascending (values : List α) :
    (byCost cost values).Pairwise fun left right => cost left ≤ cost right := by
  have : Std.Total fun left right : α => cost left ≤ cost right :=
    ⟨fun left right => le_total (cost left) (cost right)⟩
  have : IsTrans α fun left right => cost left ≤ cost right :=
    ⟨fun _ _ _ => le_trans⟩
  exact List.pairwise_insertionSort _ values

def cheapest (count : Nat) (values : List α) : List α := (byCost cost values).take count

theorem cheapest_subperm (count : Nat) (values : List α) :
    (cheapest cost count values).Subperm values :=
  (List.take_sublist _ _).subperm.trans (byCost_perm cost values).subperm

theorem length_cheapest {count : Nat} {values : List α} (enough : count ≤ values.length) :
    (cheapest cost count values).length = count := by
  rw [cheapest, List.length_take, (byCost_perm cost values).length_eq, Nat.min_eq_left enough]

end Cheapest

section Sums

variable {α Cost : Type} [AddCommMonoid Cost] (cost : α → Cost)

def total (values : List α) : Cost := (values.map cost).sum

@[simp] theorem total_nil : total cost ([] : List α) = 0 := rfl

@[simp] theorem total_cons (value : α) (values : List α) :
    total cost (value :: values) = cost value + total cost values := by
  simp [total]

@[simp] theorem total_append (first second : List α) :
    total cost (first ++ second) = total cost first + total cost second := by
  simp [total]

theorem total_perm {first second : List α} (perm : first.Perm second) :
    total cost first = total cost second :=
  (perm.map cost).sum_eq

theorem foldl_add_eq_total (running : Cost) (values : List α) :
    values.foldl (fun running value => running + cost value) running =
      running + total cost values := by
  induction values generalizing running with
  | nil => simp
  | cons value rest induction => rw [List.foldl_cons, induction, total_cons, add_assoc]

variable [LinearOrder Cost] [IsOrderedAddMonoid Cost]

theorem total_nonneg {values : List α} (nonneg : ∀ value, 0 ≤ cost value) :
    0 ≤ total cost values :=
  List.sum_nonneg (by simpa using fun value _ => nonneg value)

theorem total_le_of_isPrefix (nonneg : ∀ value, 0 ≤ cost value) {part values : List α}
    (isPrefix : part <+: values) : total cost part ≤ total cost values := by
  rcases isPrefix with ⟨rest, rfl⟩
  rw [total_append]
  exact le_add_of_nonneg_right (total_nonneg cost nonneg)

theorem total_take_le_of_sublist {chosen values : List α}
    (ascending : values.Pairwise fun left right => cost left ≤ cost right)
    (sublist : chosen.Sublist values) :
    total cost (values.take chosen.length) ≤ total cost chosen := by
  induction sublist with
  | slnil => simp
  | @cons chosen values skipped sublist induction =>
      rw [List.pairwise_cons] at ascending
      cases chosen with
      | nil => simp
      | cons first chosen =>
          -- The skipped element costs no more than the last of those that replace it.
          have short : chosen.length < values.length := sublist.length_le
          have replaced : values.take (chosen.length + 1) =
              values.take chosen.length ++ [values[chosen.length]] := by
            simp
          have cheaper := ascending.1 _ (List.getElem_mem short)
          have rest := induction ascending.2
          rw [List.length_cons, replaced, total_append] at rest
          rw [List.length_cons, List.take_succ_cons, total_cons, add_comm]
          exact le_trans (add_le_add le_rfl (by simpa using cheaper)) rest
  | @cons_cons chosen values common sublist induction =>
      rw [List.pairwise_cons] at ascending
      rw [List.length_cons, List.take_succ_cons, total_cons, total_cons]
      exact add_le_add le_rfl (induction ascending.2)

theorem total_cheapest_le {selection values : List α}
    (selected : selection.Subperm values) :
    total cost (cheapest cost selection.length values) ≤ total cost selection := by
  rcases selected.trans (byCost_perm cost values).symm.subperm with ⟨chosen, perm, sublist⟩
  have least := total_take_le_of_sublist cost (byCost_ascending cost values) sublist
  rwa [perm.length_eq, total_perm cost perm] at least

theorem total_cheapest_mono (nonneg : ∀ value, 0 ≤ cost value) {fewer more : Nat}
    (ordered : fewer ≤ more) (values : List α) :
    total cost (cheapest cost fewer values) ≤ total cost (cheapest cost more values) :=
  total_le_of_isPrefix cost nonneg (List.take_prefix_take_left ordered)

/-- No selection that fits the budget is larger than a given number exactly when the
cheapest selection that is larger by one does not fit. -/
theorem affordable_length_le_iff (nonneg : ∀ value, 0 ≤ cost value) {budget : Cost}
    {count : Nat} {values : List α} (short : count < values.length) :
    (∀ selection : List α, selection.Subperm values → total cost selection ≤ budget →
        selection.length ≤ count) ↔
      budget < total cost (cheapest cost (count + 1) values) := by
  constructor
  · intro bounded
    by_contra fits
    have longer := bounded _ (cheapest_subperm cost (count + 1) values) (not_lt.mp fits)
    rw [length_cheapest cost short] at longer
    exact absurd longer (Nat.not_succ_le_self count)
  · intro exceeds selection selected affordable
    by_contra longer
    have fits := calc
      total cost (cheapest cost (count + 1) values)
          ≤ total cost (cheapest cost selection.length values) :=
        total_cheapest_mono cost nonneg (Nat.lt_of_not_le longer) values
      _ ≤ total cost selection := total_cheapest_le cost selected
      _ ≤ budget := affordable
    exact absurd exceeds fits.not_gt

end Sums

end Foundation
