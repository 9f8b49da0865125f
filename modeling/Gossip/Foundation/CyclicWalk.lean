import Mathlib.Data.List.Perm.Subperm
import Mathlib.Data.List.Rotate
import Mathlib.Data.Nat.ModEq

/-! # Walking around a list

A list is walked over and over, each walk going on where the last one ended. Some of
the values do not count. The values that count, in the order in which they are met,
are a slice of their own cyclic order, and its length is what decides which of them
have been met. -/

namespace Foundation

variable {α : Type}

/-! ## Slices of a cyclic order -/

def cyclicSlice (values : List α) (start count : Nat) : List α :=
  (List.range count).filterMap fun offset => values[(start + offset) % values.length]?

section Slices

variable {values : List α} {start count : Nat}

@[simp] theorem cyclicSlice_zero (values : List α) (start : Nat) :
    cyclicSlice values start 0 = [] := rfl

@[simp] theorem cyclicSlice_nil (start count : Nat) :
    cyclicSlice ([] : List α) start count = [] := by
  simp [cyclicSlice]

theorem cyclicSlice_add (values : List α) (start first second : Nat) :
    cyclicSlice values start (first + second) =
      cyclicSlice values start first ++ cyclicSlice values (start + first) second := by
  simp [cyclicSlice, List.range_add, List.filterMap_map, Nat.add_assoc]

theorem cyclicSlice_congr {other : Nat} (same : start ≡ other [MOD values.length])
    (count : Nat) : cyclicSlice values start count = cyclicSlice values other count := by
  have position (offset : Nat) :
      (start + offset) % values.length = (other + offset) % values.length :=
    Nat.ModEq.add_right offset same
  simp [cyclicSlice, position]

theorem cyclicSlice_one {value : α} (met : values[start % values.length]? = some value) :
    cyclicSlice values start 1 = [value] := by
  simp [cyclicSlice, met]

theorem cyclicSlice_map {β : Type} (change : α → β) (values : List α) (start count : Nat) :
    cyclicSlice (values.map change) start count = (cyclicSlice values start count).map change := by
  simp [cyclicSlice, List.map_filterMap]

theorem mem_of_mem_cyclicSlice {value : α} (member : value ∈ cyclicSlice values start count) :
    value ∈ values := by
  rcases List.mem_filterMap.mp member with ⟨offset, _, met⟩
  exact List.mem_of_getElem? met

theorem cyclicSlice_eq_take (short : count ≤ values.length) :
    cyclicSlice values start count = (values.rotate start).take count := by
  induction count with
  | zero => rfl
  | succ count induction =>
      have inside : count < (values.rotate start).length := by
        rw [List.length_rotate]
        exact short
      have met : values[(start + count) % values.length]? =
          some (values.rotate start)[count] := by
        rw [Nat.add_comm, ← List.getElem?_rotate short, List.getElem?_eq_getElem inside]
      rw [cyclicSlice_add, cyclicSlice_one met, induction (Nat.le_of_lt short),
        List.take_succ_eq_append_getElem inside]

theorem nodup_cyclicSlice (nodup : values.Nodup) (short : count ≤ values.length) :
    (cyclicSlice values start count).Nodup := by
  rw [cyclicSlice_eq_take short]
  exact (List.nodup_rotate.mpr nodup).sublist (List.take_sublist _ _)

theorem length_cyclicSlice (short : count ≤ values.length) :
    (cyclicSlice values start count).length = count := by
  rw [cyclicSlice_eq_take short, List.length_take, List.length_rotate]
  exact Nat.min_eq_left short

theorem mem_cyclicSlice_of_length_le (long : values.length ≤ count) {value : α}
    (member : value ∈ values) : value ∈ cyclicSlice values start count := by
  rcases Nat.exists_eq_add_of_le long with ⟨rest, rfl⟩
  rw [cyclicSlice_add, cyclicSlice_eq_take (Nat.le_refl _)]
  apply List.mem_append_left
  rw [List.take_of_length_le (by simp)]
  exact List.mem_rotate.mpr member

theorem length_of_mem_iff_mem_cyclicSlice (nodup : values.Nodup) {met : List α}
    (metNodup : met.Nodup)
    (same : ∀ value, value ∈ met ↔ value ∈ cyclicSlice values start count) :
    met.length = min count values.length := by
  by_cases short : count ≤ values.length
  · have perm := (List.perm_ext_iff_of_nodup metNodup
      (nodup_cyclicSlice nodup short)).mpr same
    rw [perm.length_eq, length_cyclicSlice short, Nat.min_eq_left short]
  · have long : values.length ≤ count := Nat.le_of_not_le short
    have everything : ∀ value, value ∈ met ↔ value ∈ values := by
      intro value
      rw [same]
      exact ⟨mem_of_mem_cyclicSlice, mem_cyclicSlice_of_length_le long⟩
    have perm := (List.perm_ext_iff_of_nodup metNodup nodup).mpr everything
    rw [perm.length_eq, Nat.min_eq_right long]

theorem forall_mem_cyclicSlice_iff (nodup : values.Nodup) :
    (∀ value ∈ values, value ∈ cyclicSlice values start count) ↔
      values.length ≤ count := by
  constructor
  · intro met
    by_contra short
    have within : count ≤ values.length := Nat.le_of_not_le short
    have bound := (nodup.subperm met).length_le
    rw [length_cyclicSlice within] at bound
    exact short bound
  · intro long value member
    exact mem_cyclicSlice_of_length_le long member

end Slices

/-! ## Values that count -/

def rank (counts : α → Bool) (values : List α) (index : Nat) : Nat :=
  ((values.take index).filter counts).length

section Ranks

variable {counts : α → Bool} {values : List α} {index : Nat}

@[simp] theorem rank_zero (counts : α → Bool) (values : List α) :
    rank counts values 0 = 0 := rfl

theorem rank_of_length_le (past : values.length ≤ index) :
    rank counts values index = (values.filter counts).length := by
  rw [rank, List.take_of_length_le past]

theorem rank_succ {value : α} (met : values[index]? = some value) :
    rank counts values (index + 1) =
      rank counts values index + if counts value then 1 else 0 := by
  rw [rank, List.take_add_one, met, Option.toList_some, List.filter_append,
    List.length_append]
  split <;> simp_all [rank]

theorem getElem?_rank {value : α} (met : values[index]? = some value)
    (counting : counts value = true) :
    (values.filter counts)[rank counts values index]? = some value := by
  rcases List.getElem?_eq_some_iff.mp met with ⟨inside, rfl⟩
  have split : values = values.take index ++ values[index] :: values.drop (index + 1) := by
    simp
  have filtered : values.filter counts = (values.take index).filter counts ++
      values[index] :: (values.drop (index + 1)).filter counts := by
    conv => lhs; rw [split]
    rw [List.filter_append, List.filter_cons_of_pos counting]
  rw [filtered, rank, List.getElem?_append_right (Nat.le_refl _), Nat.sub_self]
  rfl

end Ranks

/-! ## Searches -/

theorem countP_lt_of_lacks {wanted : α → Bool} {few many : List α} (nodup : few.Nodup)
    (included : few ⊆ many) {value : α} (member : value ∈ many) (lacks : value ∉ few)
    (isWanted : wanted value = true) : few.countP wanted < many.countP wanted := by
  have distinct : (value :: few.filter wanted).Nodup :=
    List.nodup_cons.mpr ⟨fun again => lacks (List.mem_of_mem_filter again), nodup.filter _⟩
  have subset : value :: few.filter wanted ⊆ many.filter wanted := by
    intro other otherMember
    rcases List.mem_cons.mp otherMember with rfl | later
    · exact List.mem_filter.mpr ⟨member, isWanted⟩
    · have kept := List.mem_filter.mp later
      exact List.mem_filter.mpr ⟨included kept.1, kept.2⟩
  rw [List.countP_eq_length_filter, List.countP_eq_length_filter]
  exact (distinct.subperm subset).length_le

section Searches

variable {wanted : α → Bool} {values : List α} {start next count : Nat}

def distance (wanted : α → Bool) (values : List α) (start : Nat) : Nat :=
  (values.rotate start).findIdx wanted

theorem distance_lt (present : ∃ value ∈ values, wanted value = true) (start : Nat) :
    distance wanted values start < values.length := by
  rw [distance, ← List.length_rotate values start]
  apply List.findIdx_lt_length_of_exists
  simpa using present

theorem distance_congr (same : start ≡ next [MOD values.length]) :
    distance wanted values start = distance wanted values next := by
  rw [distance, ← List.rotate_mod, same, List.rotate_mod, distance]

theorem distance_of_missed (short : count ≤ values.length)
    (missed : ∀ value ∈ cyclicSlice values start count, wanted value = false)
    (present : ∃ value ∈ values, wanted value = true) :
    distance wanted values start = distance wanted values (start + count) + count := by
  rw [cyclicSlice_eq_take short] at missed
  have inside : count ≤ (values.rotate start).length := by
    rwa [List.length_rotate]
  have walked : ((values.rotate start).take count).length = count := List.length_take_of_le inside
  have ahead : ∃ value ∈ (values.rotate start).drop count, wanted value = true := by
    rcases present with ⟨value, member, isWanted⟩
    rw [← List.mem_rotate (n := start), ← List.take_append_drop count (values.rotate start),
      List.mem_append] at member
    rcases member with behind | ahead
    · rw [missed value behind] at isWanted
      cases isWanted
    · exact ⟨value, ahead, isWanted⟩
  have behind : ((values.rotate start).take count).findIdx wanted = count := by
    rw [List.findIdx_eq_length_of_false missed, walked]
  have split : values.rotate start =
      (values.rotate start).take count ++ (values.rotate start).drop count :=
    (List.take_append_drop _ _).symm
  rw [distance, distance, ← List.rotate_rotate, List.rotate_eq_drop_append_take inside,
    List.findIdx_append, if_pos (List.findIdx_lt_length_of_exists ahead)]
  conv => lhs; rw [split]
  rw [List.findIdx_append, behind, walked, if_neg (Nat.lt_irrefl _)]

/-- How many walks of a length are left before nothing is wanted any more, when each walk that
meets something wanted takes something wanted away and the list can be walked around in
`bound` walks. -/
def walksLeft (wanted : α → Bool) (length bound : Nat) (values : List α) (start : Nat) : Nat :=
  match values.countP wanted with
  | 0 => 0
  | count + 1 => count * bound + distance wanted values start / length + 1

variable {length bound : Nat}

theorem walksLeft_of_none (none : values.countP wanted = 0) (start : Nat) :
    walksLeft wanted length bound values start = 0 := by
  rw [walksLeft, none]

theorem walksLeft_of_some (some : values.countP wanted = count + 1) (start : Nat) :
    walksLeft wanted length bound values start =
      count * bound + distance wanted values start / length + 1 := by
  rw [walksLeft, some]

theorem exists_of_countP (some : values.countP wanted = count + 1) :
    ∃ value ∈ values, wanted value = true :=
  List.countP_pos_iff.mp (by omega)

theorem none_of_walksLeft (finished : walksLeft wanted length bound values start = 0) :
    ∀ value ∈ values, wanted value = false := by
  have none : values.countP wanted = 0 := by
    cases left : values.countP wanted with
    | zero => rfl
    | succ count =>
        rw [walksLeft_of_some left] at finished
        cases finished
  simpa using List.countP_eq_zero.mp none

theorem walksLeft_le (long : values.length ≤ bound * length) (start : Nat) :
    walksLeft wanted length bound values start ≤ values.countP wanted * bound := by
  cases left : values.countP wanted with
  | zero => simp [walksLeft_of_none left]
  | succ count =>
      have near := distance_lt (exists_of_countP left) start
      have around : distance wanted values start / length < bound :=
        Nat.div_lt_of_lt_mul (by rw [Nat.mul_comm]; omega)
      rw [walksLeft_of_some left, Nat.succ_mul]
      omega

theorem walksLeft_of_missed (positive : 0 < length)
    (enough : count = length ∨ values.length ≤ count)
    (missed : ∀ value ∈ cyclicSlice values start count, wanted value = false)
    (goesOn : next ≡ start + count [MOD values.length]) :
    walksLeft wanted length bound values next ≤
      walksLeft wanted length bound values start - 1 := by
  cases left : values.countP wanted with
  | zero => simp [walksLeft_of_none left]
  | succ rest =>
      rcases exists_of_countP left with ⟨value, member, isWanted⟩
      have longer (long : values.length ≤ count) : False := by
        have met : value ∈ cyclicSlice values start count :=
          mem_cyclicSlice_of_length_le long member
        rw [missed value met] at isWanted
        cases isWanted
      have short : count ≤ values.length := by
        by_contra long
        exact longer (by omega)
      have same : count = length := enough.resolve_right longer
      have nearer := distance_of_missed short missed ⟨value, member, isWanted⟩
      rw [← distance_congr goesOn, same] at nearer
      rw [walksLeft_of_some left, walksLeft_of_some left, nearer, Nat.add_div_right _ positive]
      omega

theorem walksLeft_of_met {fewer : List α} (less : fewer.countP wanted < values.countP wanted)
    (long : fewer.length ≤ bound * length) (start next : Nat) :
    walksLeft wanted length bound fewer next ≤
      walksLeft wanted length bound values start - 1 := by
  cases left : values.countP wanted with
  | zero => omega
  | succ rest =>
      rw [walksLeft_of_some left, Nat.add_sub_cancel]
      calc walksLeft wanted length bound fewer next
          ≤ fewer.countP wanted * bound := walksLeft_le long next
        _ ≤ rest * bound := Nat.mul_le_mul_right bound (by omega)
        _ ≤ rest * bound + distance wanted values start / length := Nat.le_add_right _ _

end Searches

end Foundation
