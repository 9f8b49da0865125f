import Gossip.Contracts.Splitting

/-! # Trimming what was split

`trim` removes the spaces at both ends of a text. `split` applies it to the values that its
loop finds, and not to what remains after the last separator. -/

namespace Gossip.Utils

open Foundation

/-! ## Trimming -/

def IsBlank (text : Text) : Prop := ∀ character ∈ text, character = ' '

structure Trimmed (text : Text) : Prop where
  begins : text.head? ≠ some ' '
  ends : text.getLast? ≠ some ' '

/-- The spaces at both ends were removed, and nothing else. -/
structure Trims (str trimmed : Text) : Prop where
  removed : ∃ left right, str = left ++ trimmed ++ right ∧ IsBlank left ∧ IsBlank right
  trimmed : Trimmed trimmed

theorem IsBlank.reverse {text : Text} (blank : IsBlank text) : IsBlank text.reverse := by
  intro character member
  exact blank character (List.mem_reverse.mp member)

theorem IsBlank.findIdx?_eq_none {text : Text} (blank : IsBlank text) :
    text.findIdx? (· ≠ ' ') = none := by
  rw [List.findIdx?_eq_none_iff]
  intro character member
  simp [blank character member]

theorem IsBlank.findIdx?_append {left : Text} (blank : IsBlank left) {rest : Text}
    (nonempty : rest ≠ []) (begins : rest.head? ≠ some ' ') :
    (left ++ rest).findIdx? (· ≠ ' ') = some left.length := by
  cases rest with
  | nil => exact absurd rfl nonempty
  | cons first rest =>
      have visible : first ≠ ' ' := by simpa using begins
      rw [List.findIdx?_append, blank.findIdx?_eq_none, List.findIdx?_cons]
      simp [visible]

theorem trim_of_blank {str : Text} (blank : IsBlank str) : trim str = [] := by
  rw [trim, blank.findIdx?_eq_none]

theorem trim_of_trims {str trimmed : Text} (trims : Trims str trimmed) :
    trim str = trimmed := by
  rcases trims.removed with ⟨left, right, rfl, leftBlank, rightBlank⟩
  by_cases empty : trimmed = []
  · subst empty
    apply trim_of_blank
    rw [List.append_nil]
    intro character member
    rcases List.mem_append.mp member with inLeft | inRight
    · exact leftBlank character inLeft
    · exact rightBlank character inRight
  · have strBegin : (left ++ trimmed ++ right).findIdx? (· ≠ ' ') = some left.length := by
      rw [List.append_assoc]
      apply leftBlank.findIdx?_append (by simp [empty])
      rw [List.head?_append_of_ne_nil _ empty]
      exact trims.trimmed.begins
    have fromBehind : (left ++ trimmed ++ right).reverse.findIdx? (· ≠ ' ') =
        some right.length := by
      rw [List.reverse_append, List.reverse_append,
        rightBlank.reverse.findIdx?_append (by simp [empty]), List.length_reverse]
      rw [List.head?_append_of_ne_nil _ (by simpa using empty), List.head?_reverse]
      exact trims.trimmed.ends
    have positive := List.length_pos_iff.mpr empty
    have count : (left ++ trimmed ++ right).length - 1 - right.length - left.length + 1 =
        trimmed.length := by
      rw [List.length_append, List.length_append]
      omega
    rw [trim, findLastNotOf, strBegin, fromBehind]
    simp only [Option.map_some, count]
    rw [List.append_assoc, List.drop_left, List.take_left]

theorem exists_trims (str : Text) : ∃ trimmed, Trims str trimmed := by
  let rest := str.dropWhile (· = ' ')
  let trimmed := rest.rdropWhile (· = ' ')
  refine ⟨trimmed, ⟨str.takeWhile (· = ' '), rest.rtakeWhile (· = ' '), ?_, ?_, ?_⟩, ?_, ?_⟩
  · rw [List.append_assoc, List.rdropWhile_append_rtakeWhile, List.takeWhile_append_dropWhile]
  · intro character member
    simpa using List.mem_takeWhile_imp member
  · intro character member
    simpa using List.mem_rtakeWhile_imp member
  · intro begins
    rcases List.rdropWhile_prefix (· = ' ') rest with ⟨right, equal⟩
    have restBegins : rest.head? = some ' ' := by
      rw [← equal, List.head?_append, begins]
      rfl
    have stops := List.head?_dropWhile_not (· = ' ') str
    rw [restBegins] at stops
    cases stops
  · intro ends
    have nonempty : trimmed ≠ [] := by
      intro empty
      rw [empty] at ends
      cases ends
    rw [List.getLast?_eq_some_getLast nonempty, Option.some.injEq] at ends
    exact List.rdropWhile_last_not (· = ' ') rest nonempty (by simpa using ends)

theorem trims_trim (str : Text) : Trims str (trim str) := by
  rcases exists_trims str with ⟨trimmed, trims⟩
  rw [trim_of_trims trims]
  exact trims

theorem trim_eq_self_iff (text : Text) : trim text = text ↔ Trimmed text := by
  constructor
  · intro same
    rw [← same]
    exact (trims_trim text).trimmed
  · intro trimmed
    exact trim_of_trims ⟨⟨[], [], by simp, by simp [IsBlank], by simp [IsBlank]⟩, trimmed⟩

/-! ## The values of a list -/

theorem elements_map_trim_iff {pieces : List Text} {last : Text}
    (isLast : pieces.getLast? = some last) :
    elements true true pieces = (elements false true pieces).map trim ↔ Trimmed last := by
  induction pieces with
  | nil => cases isLast
  | cons piece rest induction =>
      cases rest with
      | nil =>
          cases isLast
          rw [elements, elements, ← trim_eq_self_iff]
          by_cases empty : piece = []
          · subst empty
            exact iff_of_true rfl rfl
          · rw [kept_of_nonempty empty, List.map_singleton, List.singleton_inj]
            exact eq_comm
      | cons next rest =>
          rw [List.getLast?_cons_cons] at isLast
          rw [← induction isLast, elements, elements, kept_preserving, kept_preserving,
            List.map_append]
          exact List.append_right_inj [trim piece]

/-- Splitting with trimming is trimming what splitting without it returns, and no value is
left with a space at one of its ends. -/
structure TrimsUniformly (separator : Char) (text : Text) : Prop where
  elementwise : ∃ values, split text [separator] false true = .ok values ∧
    split text [separator] true true = .ok (values.map trim)
  clean : ∀ values, split text [separator] true true = .ok values →
    ∀ value ∈ values, Trimmed value

/-- `trim` does what it should, and `split` leaves what follows the last separator as it
is. -/
theorem trimsUniformly_iff (separator : Char) (text : Text) :
    (∀ str, Trims str (trim str)) ∧
      (TrimsUniformly separator text ↔ Trimmed (text.rtakeWhile (· ≠ separator))) := by
  refine ⟨trims_trim, ?_⟩
  rw [← elements_map_trim_iff (getLast?_splitOn separator text)]
  constructor
  · intro uniformly
    rcases uniformly.elementwise with ⟨values, plain, trimmed⟩
    rw [split_eq] at plain trimmed
    cases plain
    exact Except.ok.inj trimmed
  · intro same
    refine ⟨⟨_, split_eq separator text, ?_⟩, ?_⟩
    · rw [split_eq, same]
    · intro values trimmed value member
      rw [split_eq, same] at trimmed
      cases trimmed
      rcases List.mem_map.mp member with ⟨untrimmed, _, rfl⟩
      exact (trims_trim untrimmed).trimmed

/-- The last value keeps its space. -/
theorem last_value_keeps_space :
    split "a, b".toList ",".toList false true = .ok ["a".toList, " b".toList] ∧
      split "a, b".toList ",".toList true true = .ok ["a".toList, " b".toList] ∧
      trim " b".toList = "b".toList ∧ ¬ TrimsUniformly ',' "a, b".toList := by
  have same : split "a, b".toList ",".toList true true = .ok ["a".toList, " b".toList] := by
    decide +kernel
  refine ⟨by decide +kernel, same, by decide, ?_⟩
  intro uniformly
  have trimmed := uniformly.clean _ same " b".toList (by simp)
  exact trimmed.begins rfl

end Gossip.Utils
