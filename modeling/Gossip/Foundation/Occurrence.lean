import Mathlib.Data.List.DropRight
import Mathlib.Data.List.Infix

/-! # Where a pattern occurs

The first and the last position of a pattern in a text, as the standard searches of a
string compute them, and the pieces between the occurrences of a separator. -/

namespace Foundation

variable {α : Type} [DecidableEq α]

def firstOccurrence (pattern : List α) : List α → Option Nat
  | [] => if pattern = [] then some 0 else none
  | first :: rest =>
      if pattern.isPrefixOf (first :: rest) then some 0
      else (firstOccurrence pattern rest).map (· + 1)

def lastOccurrence (pattern : List α) : List α → Option Nat
  | [] => if pattern = [] then some 0 else none
  | first :: rest =>
      match lastOccurrence pattern rest with
      | some position => some (position + 1)
      | none => if pattern.isPrefixOf (first :: rest) then some 0 else none

variable {pattern text : List α}

theorem firstOccurrence_eq_zero_iff :
    firstOccurrence pattern text = some 0 ↔ pattern <+: text := by
  cases text with
  | nil => simp [firstOccurrence]
  | cons first rest =>
      simp only [firstOccurrence, List.isPrefixOf_iff_prefix]
      split <;> simp [*]

theorem firstOccurrence_eq_none_iff :
    firstOccurrence pattern text = none ↔ ¬ pattern <:+: text := by
  induction text with
  | nil => simp [firstOccurrence]
  | cons first rest induction =>
      simp only [firstOccurrence, List.isPrefixOf_iff_prefix, List.infix_cons_iff]
      split <;> simp [*]

theorem add_length_le_of_firstOccurrence {position : Nat}
    (found : firstOccurrence pattern text = some position) :
    position + pattern.length ≤ text.length := by
  induction text generalizing position with
  | nil =>
      rw [firstOccurrence] at found
      split at found
      next empty =>
        cases found
        simp [empty]
      next => cases found
  | cons first rest induction =>
      rw [firstOccurrence] at found
      split at found
      next isPrefix =>
        cases found
        rw [Nat.zero_add]
        exact (List.isPrefixOf_iff_prefix.mp isPrefix).length_le
      next =>
        rcases Option.map_eq_some_iff.mp found with ⟨later, foundLater, rfl⟩
        have bound := induction foundLater
        rw [List.length_cons]
        omega

theorem firstOccurrence_append_of_not_mem {head : α} {tail piece : List α}
    (absent : head ∉ piece) (rest : List α) :
    firstOccurrence (head :: tail) (piece ++ rest) =
      (firstOccurrence (head :: tail) rest).map (piece.length + ·) := by
  induction piece with
  | nil => simp
  | cons first piece induction =>
      rw [List.mem_cons, not_or] at absent
      have notHere : ¬ (head :: tail).isPrefixOf (first :: (piece ++ rest)) = true := by
        rw [List.isPrefixOf_iff_prefix, List.cons_prefix_cons]
        exact fun both => absent.1 both.1
      rw [List.cons_append, firstOccurrence, if_neg notHere, induction absent.2,
        Option.map_map]
      congr 1
      funext position
      simp only [Function.comp_apply, List.length_cons]
      omega

theorem lastOccurrence_eq_none_iff :
    lastOccurrence pattern text = none ↔ ¬ pattern <:+: text := by
  induction text with
  | nil => simp [lastOccurrence]
  | cons first rest induction =>
      rw [List.infix_cons_iff, not_or, ← induction, lastOccurrence]
      cases lastOccurrence pattern rest with
      | none => simp
      | some position => simp

theorem lastOccurrence_eq_zero_iff (nonempty : pattern ≠ []) :
    lastOccurrence pattern text = some 0 ↔
      pattern <+: text ∧ ¬ pattern <:+: text.tail := by
  cases text with
  | nil => simp [lastOccurrence, nonempty]
  | cons first rest =>
      rw [List.tail_cons, ← lastOccurrence_eq_none_iff, lastOccurrence]
      cases lastOccurrence pattern rest with
      | none => simp
      | some position => simp

/-! ## Pieces -/

theorem induction_on_pieces {motive : List α → Prop} (separator : α)
    (last : ∀ piece, separator ∉ piece → motive piece)
    (next : ∀ piece rest, separator ∉ piece → motive rest →
      motive (piece ++ separator :: rest)) (text : List α) : motive text := by
  induction size : text.length using Nat.strong_induction_on generalizing text with
  | _ size induction =>
      subst size
      by_cases member : separator ∈ text
      · rcases List.eq_append_cons_of_mem member with ⟨piece, rest, rfl, absent⟩
        apply next piece rest absent
        apply induction rest.length _ rest rfl
        rw [List.length_append, List.length_cons]
        omega
      · exact last text member

omit [DecidableEq α] in
theorem rtakeWhile_append_cons {accepts : α → Bool} {refused : α}
    (stops : accepts refused = false) (front rest : List α) :
    (front ++ refused :: rest).rtakeWhile accepts = rest.rtakeWhile accepts := by
  simp only [List.rtakeWhile, List.reverse_append, List.reverse_cons, List.append_assoc,
    List.singleton_append]
  rw [List.takeWhile_append, List.takeWhile_cons_of_neg (by simp [stops]), List.append_nil]
  split
  next whole => rw [(List.takeWhile_prefix accepts).eq_of_length whole]
  next => rfl

theorem getLast?_splitOn (separator : α) (text : List α) :
    (text.splitOn separator).getLast? = some (text.rtakeWhile (· ≠ separator)) := by
  induction text using induction_on_pieces separator with
  | last piece absent =>
      have whole : piece.rtakeWhile (· ≠ separator) = piece := by
        rw [List.rtakeWhile_eq_self_iff]
        intro value member
        rw [decide_eq_true_eq]
        intro same
        exact absent (same ▸ member)
      rw [List.splitOn_eq_singleton absent, whole]
      rfl
  | next piece rest absent induction =>
      rw [List.splitOn_append_cons_self_of_not_mem absent, List.getLast?_cons, induction,
        rtakeWhile_append_cons (by simp)]
      rfl

end Foundation
