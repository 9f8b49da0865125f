import Mathlib.Order.Lattice
import Mathlib.Data.List.Basic
import Mathlib.Data.List.Pairwise
import Mathlib.Data.List.Perm.Subperm
import Mathlib.Data.List.Nodup

/-! # Ordered sets of records

A set whose elements are kept in strictly ascending order of a key, as an
ordered associative container keeps them. Every operation is described by what
it does to the element stored under one key, so a development that uses these
sets never has to look at the underlying lists. -/

namespace Foundation

/-! ## Insertion into an ascending list -/

section AscendingList

variable {α κ : Type} [LinearOrder κ] (key : α → κ)

/-- Insert at the position of the key. An element with the same key keeps its
place and the new one is dropped. -/
def insertAscending (value : α) : List α → List α
  | [] => [value]
  | head :: tail =>
      if key value < key head then value :: head :: tail
      else if key head < key value then head :: insertAscending value tail
      else head :: tail

theorem eq_or_mem_of_mem_insertAscending {value other : α} {values : List α}
    (member : other ∈ insertAscending key value values) :
    other = value ∨ other ∈ values := by
  induction values with
  | nil => simpa [insertAscending] using member
  | cons head tail induction =>
      simp only [insertAscending] at member
      split at member
      · simpa using member
      · split at member
        · rcases List.mem_cons.mp member with equal | member
          · exact .inr (by simp [equal])
          · exact (induction member).imp_right (List.mem_cons_of_mem head)
        · exact .inr member

theorem insertAscending_pairwise (value : α) {values : List α}
    (ascending : values.Pairwise fun left right => key left < key right) :
    (insertAscending key value values).Pairwise
      fun left right => key left < key right := by
  induction values with
  | nil => simp [insertAscending]
  | cons head tail induction =>
      have parts := List.pairwise_cons.mp ascending
      simp only [insertAscending]
      split
      next before =>
        apply List.Pairwise.cons _ ascending
        intro other member
        rcases List.mem_cons.mp member with equal | member
        · exact equal ▸ before
        · exact before.trans (parts.1 other member)
      next =>
        split
        next after =>
          apply List.Pairwise.cons _ (induction parts.2)
          intro other member
          rcases eq_or_mem_of_mem_insertAscending key member with equal | member
          · exact equal ▸ after
          · exact parts.1 other member
        next => exact ascending

theorem find?_eq_none_of_lt {wanted : κ} {values : List α}
    (above : ∀ value ∈ values, wanted < key value) :
    (values.find? fun value => key value = wanted) = none := by
  rw [List.find?_eq_none]
  intro value member
  simpa using (above value member).ne'

theorem find?_insertAscending (value : α) (wanted : κ) {values : List α}
    (ascending : values.Pairwise fun left right => key left < key right) :
    ((insertAscending key value values).find? fun other => key other = wanted) =
      if key value = wanted then
        (values.find? fun other => key other = wanted).or (some value)
      else values.find? fun other => key other = wanted := by
  induction values with
  | nil => by_cases equal : key value = wanted <;> simp [insertAscending, equal]
  | cons head tail induction =>
      have parts := List.pairwise_cons.mp ascending
      simp only [insertAscending]
      split
      next before =>
        have absent : ((head :: tail).find? fun other => key other = key value) =
            none := by
          apply find?_eq_none_of_lt
          intro other member
          rcases List.mem_cons.mp member with equal | member
          · exact equal ▸ before
          · exact before.trans (parts.1 other member)
        by_cases equal : key value = wanted
        · subst equal
          rw [absent]
          simp
        · simp [equal]
      next =>
        split
        next after =>
          rw [List.find?_cons, List.find?_cons, induction parts.2]
          by_cases equal : key head = wanted
          · have different : key value ≠ wanted := fun same =>
              after.ne (equal.trans same.symm)
            simp [equal, different]
          · simp [equal]
        next notBefore notAfter =>
          have equal : key value = key head :=
            le_antisymm (not_lt.mp notAfter) (not_lt.mp notBefore)
          by_cases same : key value = wanted
          · simp [same, equal ▸ same]
          · simp [same]

end AscendingList

/-! ## Lists in which keys tell elements apart -/

section Keyed

variable {α κ : Type} [DecidableEq κ] (key : α → κ)

theorem filter_key_eq_find? (wanted : κ) {values : List α}
    (distinct : (values.map key).Nodup) :
    (values.filter fun value => key value = wanted) =
      (values.find? fun value => key value = wanted).toList := by
  induction values with
  | nil => rfl
  | cons head tail induction =>
      rw [List.map_cons, List.nodup_cons] at distinct
      by_cases equal : key head = wanted
      · have absent : (tail.filter fun value => key value = wanted) = [] := by
          rw [List.filter_eq_nil_iff]
          intro value member same
          apply distinct.1
          rw [equal, ← of_decide_eq_true same]
          exact List.mem_map_of_mem member
        simp [equal, absent]
      · simpa [equal] using induction distinct.2

theorem find?_eq_of_perm (wanted : κ) {left right : List α} (perm : left.Perm right)
    (distinct : (right.map key).Nodup) :
    (left.find? fun value => key value = wanted) =
      right.find? fun value => key value = wanted := by
  have filtered := perm.filter fun value => decide (key value = wanted)
  rw [filter_key_eq_find? key wanted distinct,
    filter_key_eq_find? key wanted ((perm.map key).nodup_iff.mpr distinct)] at filtered
  cases found : right.find? fun value => decide (key value = wanted) with
  | none => simpa [found] using filtered
  | some value => simpa [found] using filtered

theorem perm_of_filter_key_eq [DecidableEq α] {left right : List α}
    (equal : ∀ wanted, (left.filter fun value => key value = wanted) =
      right.filter fun value => key value = wanted) : left.Perm right := by
  rw [List.perm_iff_count]
  intro value
  have here : ∀ values : List α,
      (values.filter fun other => key other = key value).count value = values.count value :=
    fun values => List.count_filter (by simp)
  rw [← here left, ← here right, equal]

end Keyed

/-! ## The set -/

@[ext] structure OrderedSet {α κ : Type} [LinearOrder κ] (key : α → κ) where
  toList : List α
  ascending : toList.Pairwise fun left right => key left < key right

namespace OrderedSet

variable {α κ : Type} [LinearOrder κ] {key : α → κ}

def empty : OrderedSet key where
  toList := []
  ascending := .nil

def find? (set : OrderedSet key) (wanted : κ) : Option α :=
  set.toList.find? fun value => key value = wanted

def contains (set : OrderedSet key) (wanted : κ) : Bool :=
  (set.find? wanted).isSome

def insert (set : OrderedSet key) (value : α) : OrderedSet key × Bool :=
  (⟨insertAscending key value set.toList,
      insertAscending_pairwise key value set.ascending⟩,
    !set.contains (key value))

/-- Insert by moving an owning pointer: a successful insertion takes the
element out of the caller's pointer, which is left null. -/
def insertMoved (set : OrderedSet key) (value : α) :
    OrderedSet key × Bool × Option α :=
  let (grown, inserted) := set.insert value
  (grown, inserted, if inserted then none else some value)

def erase (set : OrderedSet key) (wanted : κ) : OrderedSet key where
  toList := set.toList.filter fun value => key value ≠ wanted
  ascending := set.ascending.filter _

/-- Change the element stored under a key in place. The change must not touch
the key, on which the position of the element depends. -/
def modify (set : OrderedSet key) (wanted : κ) (change : α → α)
    (keepsKey : ∀ value, key (change value) = key value) : OrderedSet key where
  toList := set.toList.map fun value =>
    if key value = wanted then change value else value
  ascending := by
    apply List.Pairwise.map _ _ set.ascending
    intro left right before
    have same : ∀ value, key (if key value = wanted then change value else value) =
        key value := by
      intro value
      split
      · exact keepsKey value
      · rfl
    rwa [same, same]

@[simp] theorem find?_empty (wanted : κ) :
    (empty : OrderedSet key).find? wanted = none := rfl

@[grind →] theorem key_of_find? {set : OrderedSet key} {wanted : κ} {value : α}
    (found : set.find? wanted = some value) : key value = wanted := by
  simpa using List.find?_some found

theorem mem_of_find? {set : OrderedSet key} {wanted : κ} {value : α}
    (found : set.find? wanted = some value) : value ∈ set.toList :=
  List.mem_of_find?_eq_some found

theorem find?_of_mem {set : OrderedSet key} {value : α}
    (member : value ∈ set.toList) : set.find? (key value) = some value := by
  rcases set with ⟨values, ascending⟩
  simp only [find?] at member ⊢
  induction values with
  | nil => cases member
  | cons head tail induction =>
      have parts := List.pairwise_cons.mp ascending
      rcases List.mem_cons.mp member with equal | member
      · simp [equal]
      · have different : key head ≠ key value := (parts.1 value member).ne
        rw [List.find?_cons_of_neg (by simpa using different)]
        exact induction parts.2 member

theorem mem_toList_iff {set : OrderedSet key} {value : α} :
    value ∈ set.toList ↔ set.find? (key value) = some value :=
  ⟨find?_of_mem, mem_of_find?⟩

theorem nodup_keys (set : OrderedSet key) : (set.toList.map key).Nodup :=
  List.pairwise_map.mpr (set.ascending.imp fun before => before.ne)

theorem nodup_toList (set : OrderedSet key) : set.toList.Nodup :=
  set.nodup_keys.of_map

theorem ext_find? {left right : OrderedSet key}
    (equal : ∀ wanted, left.find? wanted = right.find? wanted) : left = right := by
  have sameElements : ∀ value, value ∈ left.toList ↔ value ∈ right.toList := by
    intro value
    rw [mem_toList_iff, mem_toList_iff, equal]
  have perm : left.toList.Perm right.toList :=
    (List.perm_ext_iff_of_nodup left.nodup_toList right.nodup_toList).mpr sameElements
  apply OrderedSet.ext
  refine perm.eq_of_pairwise ?_ left.ascending right.ascending
  intro first second _ _ below above
  exact absurd (below.trans above) (lt_irrefl _)

theorem find?_insert (set : OrderedSet key) (value : α) (wanted : κ) :
    (set.insert value).1.find? wanted =
      if key value = wanted then (set.find? wanted).or (some value)
      else set.find? wanted :=
  find?_insertAscending key value wanted set.ascending

theorem eq_or_mem_of_mem_insert {set : OrderedSet key} {value other : α}
    (member : other ∈ (set.insert value).1.toList) : other = value ∨ other ∈ set.toList :=
  eq_or_mem_of_mem_insertAscending key member

@[simp] theorem insert_snd (set : OrderedSet key) (value : α) :
    (set.insert value).2 = !set.contains (key value) := rfl

@[simp] theorem insertMoved_fst (set : OrderedSet key) (value : α) :
    (set.insertMoved value).1 = (set.insert value).1 := rfl

@[simp] theorem insertMoved_inserted (set : OrderedSet key) (value : α) :
    (set.insertMoved value).2.1 = !set.contains (key value) := rfl

@[simp] theorem insertMoved_pointer (set : OrderedSet key) (value : α) :
    (set.insertMoved value).2.2 =
      if set.contains (key value) then some value else none := by
  cases taken : set.contains (key value) <;> simp [insertMoved, taken]

theorem find?_erase (set : OrderedSet key) (removed wanted : κ) :
    (set.erase removed).find? wanted =
      if removed = wanted then none else set.find? wanted := by
  simp only [erase, find?, List.find?_filter]
  split
  next equal =>
    rw [List.find?_eq_none]
    intro value _
    simp [equal]
  next different =>
    congr 1
    funext value
    by_cases same : key value = wanted
    · simp [same, Ne.symm different]
    · simp [same]

theorem find?_modify (set : OrderedSet key) (changed wanted : κ) (change : α → α)
    (keepsKey : ∀ value, key (change value) = key value) :
    (set.modify changed change keepsKey).find? wanted =
      if changed = wanted then (set.find? wanted).map change
      else set.find? wanted := by
  simp only [modify, find?, List.find?_map]
  have sameKey : ((fun value => decide (key value = wanted)) ∘ fun value =>
      if key value = changed then change value else value) =
      fun value => decide (key value = wanted) := by
    funext value
    simp only [Function.comp]
    split
    · rw [keepsKey]
    · rfl
  rw [sameKey]
  cases found : set.toList.find? fun value => decide (key value = wanted) with
  | none => simp
  | some value =>
      have atKey : key value = wanted := by simpa using List.find?_some found
      by_cases equal : changed = wanted
      · simp [atKey, equal]
      · simp [atKey, Ne.symm equal, equal]

theorem contains_iff {set : OrderedSet key} {wanted : κ} :
    set.contains wanted = true ↔ ∃ value, set.find? wanted = some value := by
  simp [contains, Option.isSome_iff_exists]

theorem contains_insert (set : OrderedSet key) (value : α) (wanted : κ) :
    (set.insert value).1.contains wanted =
      if key value = wanted then true else set.contains wanted := by
  simp only [contains, find?_insert]
  split <;> simp

theorem contains_erase (set : OrderedSet key) (removed wanted : κ) :
    (set.erase removed).contains wanted =
      if removed = wanted then false else set.contains wanted := by
  simp only [contains, find?_erase]
  split <;> simp

theorem contains_modify (set : OrderedSet key) (changed wanted : κ) (change : α → α)
    (keepsKey : ∀ value, key (change value) = key value) :
    (set.modify changed change keepsKey).contains wanted = set.contains wanted := by
  simp only [contains, find?_modify]
  split <;> simp

theorem mem_keys_iff {set : OrderedSet key} {wanted : κ} :
    wanted ∈ set.toList.map key ↔ set.contains wanted = true := by
  rw [contains_iff, List.mem_map]
  constructor
  · rintro ⟨value, member, rfl⟩
    exact ⟨value, find?_of_mem member⟩
  · rintro ⟨value, found⟩
    exact ⟨value, mem_of_find? found, key_of_find? found⟩

theorem contains_of_mem {set : OrderedSet key} {value : α} (member : value ∈ set.toList) :
    set.contains (key value) = true :=
  mem_keys_iff.mp (List.mem_map_of_mem member)

theorem length_le_of_contains {left right : OrderedSet key}
    (included : ∀ wanted, left.contains wanted = true → right.contains wanted = true) :
    left.toList.length ≤ right.toList.length := by
  have subset : left.toList.map key ⊆ right.toList.map key := by
    intro wanted member
    rw [mem_keys_iff] at member ⊢
    exact included wanted member
  simpa using (left.nodup_keys.subperm subset).length_le

theorem length_insert_le (set : OrderedSet key) (value : α) :
    (set.insert value).1.toList.length ≤ set.toList.length + 1 := by
  have subset : (set.insert value).1.toList ⊆ value :: set.toList := fun other member =>
    List.mem_cons.mpr (eq_or_mem_of_mem_insert member)
  exact ((nodup_keys _).of_map.subperm subset).length_le

theorem keys_eq_of_contains {left right : OrderedSet key}
    (same : ∀ wanted, left.contains wanted = right.contains wanted) :
    left.toList.map key = right.toList.map key := by
  have sameKeys : ∀ wanted, wanted ∈ left.toList.map key ↔ wanted ∈ right.toList.map key := by
    intro wanted
    rw [mem_keys_iff, mem_keys_iff, same]
  have perm : (left.toList.map key).Perm (right.toList.map key) :=
    (List.perm_ext_iff_of_nodup left.nodup_keys right.nodup_keys).mpr sameKeys
  refine perm.eq_of_pairwise ?_ (List.pairwise_map.mpr left.ascending)
    (List.pairwise_map.mpr right.ascending)
  intro first second _ _ below above
  exact absurd (below.trans above) (lt_irrefl _)

/-! ### Several elements -/

def insertAll (set : OrderedSet key) (values : List α) : OrderedSet key :=
  values.foldl (fun set value => (set.insert value).1) set

@[simp] theorem insertAll_nil (set : OrderedSet key) : set.insertAll [] = set := rfl

theorem insertAll_cons (set : OrderedSet key) (value : α) (values : List α) :
    set.insertAll (value :: values) = (set.insert value).1.insertAll values := rfl

theorem find?_insertAll (set : OrderedSet key) (values : List α) (wanted : κ) :
    (set.insertAll values).find? wanted =
      (set.find? wanted).or (values.find? fun value => key value = wanted) := by
  induction values generalizing set with
  | nil => simp
  | cons value values induction =>
      rw [insertAll_cons, induction, find?_insert]
      by_cases equal : key value = wanted <;> simp [equal]

theorem mem_insertAll_empty {values : List α}
    (distinct : ∀ left ∈ values, ∀ right ∈ values, key left = key right → left = right)
    {value : α} : value ∈ ((empty : OrderedSet key).insertAll values).toList ↔
      value ∈ values := by
  rw [mem_toList_iff, find?_insertAll, find?_empty, Option.none_or]
  constructor
  · exact List.mem_of_find?_eq_some
  · intro member
    cases found : values.find? fun other => key other = key value with
    | none => simpa using List.find?_eq_none.mp found value member
    | some other =>
        have same : key other = key value := by simpa using List.find?_some found
        rw [distinct other (List.mem_of_find?_eq_some found) value member same]

end OrderedSet

end Foundation
