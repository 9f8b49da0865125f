import Mathlib.Algebra.BigOperators.Group.List.Basic
import Mathlib.Algebra.GroupWithZero.Nat
import Mathlib.Algebra.Order.BigOperators.Group.Finset
import Mathlib.Data.Finset.Range
import Mathlib.Data.Fintype.BigOperators

/-! # Amounts

An amount is stored with each element of a list that may still grow at its end. Whoever takes
what is stored at certain positions, at each of them once, never takes more than there is. -/

namespace Foundation

variable {α : Type} (amount : α → Nat)

def amountAt (values : List α) (position : Nat) : Nat := values[position]?.elim 0 amount

theorem amountAt_of_some {values : List α} {position : Nat} {value : α}
    (found : values[position]? = some value) : amountAt amount values position = amount value := by
  rw [amountAt, found]
  rfl

theorem amountAt_of_none {values : List α} {position : Nat} (absent : values[position]? = none) :
    amountAt amount values position = 0 := by
  rw [amountAt, absent]
  rfl

theorem amountAt_append_le (values more : List α) (position : Nat) :
    amountAt amount values position ≤ amountAt amount (values ++ more) position := by
  cases found : values[position]? with
  | none =>
      rw [amountAt_of_none amount found]
      exact Nat.zero_le _
  | some value =>
      have still : (values ++ more)[position]? = some value := by
        rw [List.getElem?_append_left (List.getElem?_eq_some_iff.mp found).1]
        exact found
      rw [amountAt_of_some amount found, amountAt_of_some amount still]

theorem map_amountAt_range (values : List α) :
    (List.range values.length).map (amountAt amount values) = values.map amount := by
  apply List.ext_getElem?
  intro position
  rw [List.getElem?_map, List.getElem?_map]
  by_cases inside : position < values.length
  · rw [List.getElem?_range inside]
    simp [amountAt, inside]
  · simp [inside]

theorem sum_amountAt_le (values : List α) {positions : List Nat} (once : positions.Nodup) :
    (positions.map (amountAt amount values)).sum ≤ (values.map amount).sum := by
  have inside : ∀ position ∈ positions.toFinset, amountAt amount values position ≠ 0 →
      position ∈ (List.range values.length).toFinset := by
    intro position _ stored
    by_contra outside
    refine stored (amountAt_of_none amount (List.getElem?_eq_none_iff.mpr ?_))
    simpa using outside
  calc (positions.map (amountAt amount values)).sum
      = ∑ position ∈ positions.toFinset, amountAt amount values position :=
        (List.sum_toFinset _ once).symm
    _ ≤ ∑ position ∈ (List.range values.length).toFinset, amountAt amount values position :=
        Finset.sum_le_sum_of_ne_zero inside
    _ = (values.map amount).sum := by
        rw [List.sum_toFinset _ List.nodup_range, map_amountAt_range]

theorem sum_update {ι : Type} [Fintype ι] [DecidableEq ι] (values : ι → α) (index : ι)
    (value : α) :
    (∑ other, amount (Function.update values index value other)) + amount (values index) =
      (∑ other, amount (values other)) + amount value := by
  have others : ∑ other ∈ Finset.univ.erase index,
      amount (Function.update values index value other) =
        ∑ other ∈ Finset.univ.erase index, amount (values other) := by
    apply Finset.sum_congr rfl
    intro other member
    rw [Function.update_of_ne (Finset.ne_of_mem_erase member)]
  rw [← Finset.add_sum_erase _ _ (Finset.mem_univ index), others,
    ← Finset.add_sum_erase Finset.univ (fun other => amount (values other))
      (Finset.mem_univ index), Function.update_self]
  omega

end Foundation
