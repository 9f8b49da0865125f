import Mathlib.Data.List.Infix

/-! # Prefixes cut off by a budget

Walking down a list, every element adds to a running cost, and the walk stops
at the first element that takes the running cost over the budget. The cost type
is arbitrary: nothing here needs the costs to be added exactly. -/

namespace Foundation

variable {α Cost : Type} (accumulate : Cost → α → Cost) (exceeds : Cost → Bool)

def takeWithin : Cost → List α → List α
  | _, [] => []
  | running, value :: rest =>
      let running := accumulate running value
      if exceeds running then [] else value :: takeWithin running rest

def fitsWithin : Cost → List α → Bool
  | _, [] => true
  | running, value :: rest =>
      let running := accumulate running value
      !exceeds running && fitsWithin running rest

theorem takeWithin_isPrefix (running : Cost) (values : List α) :
    takeWithin accumulate exceeds running values <+: values := by
  induction values generalizing running with
  | nil => simp [takeWithin]
  | cons value rest induction =>
      simp only [takeWithin]
      split
      · simp
      · exact List.prefix_cons_inj value |>.mpr (induction _)

theorem isPrefix_takeWithin_iff (running : Cost) (part values : List α) :
    part <+: takeWithin accumulate exceeds running values ↔
      part <+: values ∧ fitsWithin accumulate exceeds running part = true := by
  induction values generalizing running part with
  | nil =>
      cases part with
      | nil => simp [takeWithin, fitsWithin]
      | cons value part => simp [takeWithin]
  | cons head rest induction =>
      cases part with
      | nil => simp [fitsWithin]
      | cons value part =>
          simp only [takeWithin, fitsWithin]
          cases exceeded : exceeds (accumulate running head) with
          | true =>
              simp only [if_true, List.prefix_nil, reduceCtorEq, false_iff, not_and]
              intro isPrefix
              rcases List.cons_prefix_cons.mp isPrefix with ⟨rfl, -⟩
              simp [exceeded]
          | false =>
              simp only [Bool.false_eq_true, if_false, List.cons_prefix_cons, induction]
              constructor
              · rintro ⟨rfl, isPrefix, fits⟩
                exact ⟨⟨rfl, isPrefix⟩, by simp [exceeded, fits]⟩
              · rintro ⟨⟨rfl, isPrefix⟩, fits⟩
                exact ⟨rfl, isPrefix, by simpa [exceeded] using fits⟩

theorem le_length_takeWithin_iff (running : Cost) (count : Nat) (values : List α) :
    count ≤ (takeWithin accumulate exceeds running values).length ↔
      count ≤ values.length ∧
        fitsWithin accumulate exceeds running (values.take count) = true := by
  have isPrefix := takeWithin_isPrefix accumulate exceeds running values
  have exactly := isPrefix_takeWithin_iff accumulate exceeds running (values.take count) values
  constructor
  · intro enough
    have inside := enough.trans isPrefix.length_le
    have sameLength : (values.take count).length = count := List.length_take_of_le inside
    refine ⟨inside, (exactly.mp ?_).2⟩
    exact List.prefix_of_prefix_length_le (List.take_prefix _ _) isPrefix (by omega)
  · rintro ⟨inside, fits⟩
    have shorter := (exactly.mpr ⟨List.take_prefix _ _, fits⟩).length_le
    rwa [List.length_take_of_le inside] at shorter

theorem mem_takeWithin_iff (running : Cost) (value : α) (values : List α) :
    value ∈ takeWithin accumulate exceeds running values ↔
      ∃ before after, values = before ++ value :: after ∧
        fitsWithin accumulate exceeds running (before ++ [value]) = true := by
  constructor
  · intro member
    rcases List.append_of_mem member with ⟨before, after, taken⟩
    have isPrefix : before ++ [value] <+:
        takeWithin accumulate exceeds running values := by
      rw [taken]
      exact ⟨after, by simp⟩
    rcases (isPrefix_takeWithin_iff accumulate exceeds running _ values).mp isPrefix with
      ⟨⟨rest, whole⟩, fits⟩
    exact ⟨before, rest, by simpa using whole.symm, fits⟩
  · rintro ⟨before, after, rfl, fits⟩
    have isPrefix := (isPrefix_takeWithin_iff accumulate exceeds running
      (before ++ [value]) (before ++ value :: after)).mpr
        ⟨⟨after, by simp⟩, fits⟩
    exact isPrefix.subset (by simp)

end Foundation
