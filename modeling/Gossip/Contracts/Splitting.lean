import Gossip.Semantics.Utils

/-! # Splitting what was joined

`split` finds the whole separator but skips only its first character. Every turn of its
loop therefore drops exactly one character, while joining has put in a whole separator
between two elements. -/

namespace Gossip.Utils

open Foundation

/-! ## Joining -/

theorem vec2StrLoop_false (sep out : Text) (vec : List Text) :
    vec2StrLoop sep false out vec = out ++ vec.flatMap (sep ++ ·) := by
  induction vec generalizing out with
  | nil => simp [vec2StrLoop]
  | cons t vec induction => simp [vec2StrLoop, induction]

@[simp] theorem vec2Str_nil (sep : Text) : vec2Str [] sep = [] := rfl

theorem vec2Str_cons (sep t : Text) (vec : List Text) :
    vec2Str (t :: vec) sep = t ++ vec.flatMap (sep ++ ·) := by
  rw [vec2Str, vec2StrLoop, vec2StrLoop_false, List.nil_append]

@[simp] theorem vec2Str_singleton (sep t : Text) : vec2Str [t] sep = t := by
  simp [vec2Str_cons]

theorem vec2Str_cons_cons (sep first second : Text) (vec : List Text) :
    vec2Str (first :: second :: vec) sep =
      first ++ (sep ++ vec2Str (second :: vec) sep) := by
  simp only [vec2Str_cons, List.flatMap_cons, List.append_assoc]

theorem vec2Str_eq_intercalate (sep : Text) (vec : List Text) :
    vec2Str vec sep = sep.intercalate vec := by
  induction vec with
  | nil => rfl
  | cons first vec induction =>
      cases vec with
      | nil => simp
      | cons second vec =>
          rw [vec2Str_cons_cons, induction, List.intercalate_cons_cons, List.append_assoc]

theorem length_vec2Str (sep t : Text) (vec : List Text) :
    (vec2Str (t :: vec) sep).length =
      ((t :: vec).map List.length).sum + vec.length * sep.length := by
  induction vec generalizing t with
  | nil => simp
  | cons second vec induction =>
      simp only [vec2Str_cons_cons, List.length_append, induction, List.map_cons,
        List.sum_cons, List.length_cons, Nat.succ_mul]
      omega

/-! ## The loop -/

def kept (trimSpaces preserveEmpty : Bool) (piece : Text) : List Text :=
  let value := if trimSpaces then trim piece else piece
  if !value.isEmpty || preserveEmpty then [value] else []

@[simp] theorem kept_preserving (trimSpaces : Bool) (piece : Text) :
    kept trimSpaces true piece = [if trimSpaces then trim piece else piece] := by
  simp [kept]

theorem kept_of_nonempty {piece : Text} (nonempty : piece ≠ []) :
    kept false false piece = [piece] := by
  simp [kept, nonempty]

def elements (trimSpaces preserveEmpty : Bool) : List Text → List Text
  | [] => []
  | [last] => kept false false last
  | piece :: next :: rest =>
      kept trimSpaces preserveEmpty piece ++ elements trimSpaces preserveEmpty (next :: rest)

section Loop

variable {trimSpaces preserveEmpty : Bool}

theorem elements_cons (piece : Text) {rest : List Text} (more : rest ≠ []) :
    elements trimSpaces preserveEmpty (piece :: rest) =
      kept trimSpaces preserveEmpty piece ++ elements trimSpaces preserveEmpty rest := by
  cases rest with
  | nil => exact absurd rfl more
  | cons next rest => rfl

theorem splitLoop_of_none {sep remains : Text} (results : List Text)
    (absent : firstOccurrence sep remains = none) :
    splitLoop sep trimSpaces preserveEmpty remains results =
      .ok (results ++ kept false false remains) := by
  rw [splitLoop, absent]
  cases remains <;> simp [kept]

theorem splitLoop_of_some {sep remains : Text} (results : List Text) {pos : Nat}
    (found : firstOccurrence sep remains = some pos) (nonempty : sep ≠ []) :
    splitLoop sep trimSpaces preserveEmpty remains results =
      splitLoop sep trimSpaces preserveEmpty (remains.drop (pos + 1))
        (results ++ kept trimSpaces preserveEmpty (remains.take pos)) := by
  have inside := add_length_le_of_firstOccurrence found
  have some := List.length_pos_iff.mpr nonempty
  have fits : ¬ remains.length < pos + 1 := by omega
  rw [splitLoop, found]
  simp only [if_neg fits, kept]
  generalize (if trimSpaces then trim (remains.take pos) else remains.take pos) = value
  by_cases added : (!value.isEmpty || preserveEmpty) = true
  · rw [if_pos added, if_pos added]
  · rw [if_neg added, if_neg added, List.append_nil]

theorem firstOccurrence_eq_none_of_not_mem {head : Char} {tail text : Text}
    (absent : head ∉ text) : firstOccurrence (head :: tail) text = none := by
  rw [firstOccurrence_eq_none_iff]
  intro occurs
  exact absent (occurs.subset List.mem_cons_self)

theorem splitLoop_piece {separator : Char} {piece : Text} (absent : separator ∉ piece)
    (rest : Text) (results : List Text) :
    splitLoop [separator] trimSpaces preserveEmpty (piece ++ separator :: rest) results =
      splitLoop [separator] trimSpaces preserveEmpty rest
        (results ++ kept trimSpaces preserveEmpty piece) := by
  have start : firstOccurrence [separator] (separator :: rest) = some 0 :=
    firstOccurrence_eq_zero_iff.mpr (List.prefix_append [separator] rest)
  have found : firstOccurrence [separator] (piece ++ separator :: rest) =
      some piece.length := by
    rw [firstOccurrence_append_of_not_mem absent, start]
    rfl
  rw [splitLoop_of_some results found (List.cons_ne_nil _ _)]
  simp [← List.drop_drop]

theorem splitLoop_eq (separator : Char) (remains : Text) (results : List Text) :
    splitLoop [separator] trimSpaces preserveEmpty remains results =
      .ok (results ++ elements trimSpaces preserveEmpty (remains.splitOn separator)) := by
  induction remains using induction_on_pieces separator generalizing results with
  | last piece absent =>
      rw [splitLoop_of_none results (firstOccurrence_eq_none_of_not_mem absent),
        List.splitOn_eq_singleton absent, elements]
  | next piece rest absent induction =>
      rw [splitLoop_piece absent, induction, List.splitOn_append_cons_self_of_not_mem absent,
        elements_cons piece (List.splitOn_ne_nil _ _), List.append_assoc]

theorem split_eq (separator : Char) (text : Text) :
    split text [separator] trimSpaces preserveEmpty =
      .ok (elements trimSpaces preserveEmpty (text.splitOn separator)) :=
  splitLoop_eq separator text []

end Loop

/-! ## Splitting what was joined -/

/-- What may be joined: no element contains a character of the separator, and the last
element is not empty. -/
structure Joinable (sep : Text) (vec : List Text) : Prop where
  absent : ∀ t ∈ vec, ∀ character ∈ sep, character ∉ t
  last : ∀ t ∈ vec.getLast?, t ≠ []

theorem Joinable.tail {sep first second : Text} {vec : List Text}
    (joinable : Joinable sep (first :: second :: vec)) : Joinable sep (second :: vec) :=
  ⟨fun t member => joinable.absent t (List.mem_cons_of_mem _ member),
    by simpa using joinable.last⟩

theorem Joinable.elements_eq {sep : Text} {vec : List Text} (joinable : Joinable sep vec) :
    elements false true vec = vec := by
  induction vec with
  | nil => rfl
  | cons first vec induction =>
      cases vec with
      | nil => exact kept_of_nonempty (joinable.last first rfl)
      | cons second vec =>
          rw [elements, induction joinable.tail, kept_preserving]
          rfl

theorem split_vec2Str {separator : Char} {vec : List Text}
    (joinable : Joinable [separator] vec) :
    split (vec2Str vec [separator]) [separator] false true = .ok vec := by
  cases vec with
  | nil =>
      rw [split_eq, vec2Str_nil, List.splitOn_nil]
      rfl
  | cons first vec =>
      have absent : ∀ t ∈ first :: vec, separator ∉ t := fun t member =>
        joinable.absent t member separator List.mem_cons_self
      rw [split_eq, vec2Str_eq_intercalate,
        List.splitOn_intercalate separator absent (List.cons_ne_nil _ _), joinable.elements_eq]

theorem length_of_splitLoop {sep : Text} (long : 2 ≤ sep.length) {remains : Text}
    {results values : List Text} (nonempty : remains ≠ [])
    (done : splitLoop sep false true remains results = .ok values) :
    ∃ pieces, values = results ++ pieces ∧
      remains.length + 1 = (pieces.map List.length).sum + pieces.length := by
  induction bound : remains.length using Nat.strong_induction_on generalizing remains
    results with
  | _ size induction =>
      subst bound
      cases found : firstOccurrence sep remains with
      | none =>
          rw [splitLoop_of_none results found, kept_of_nonempty nonempty] at done
          cases done
          exact ⟨[remains], rfl, by simp⟩
      | some pos =>
          have inside := add_length_le_of_firstOccurrence found
          have sepNonempty : sep ≠ [] := List.ne_nil_of_length_pos (by omega)
          have restLength : (remains.drop (pos + 1)).length = remains.length - (pos + 1) :=
            List.length_drop
          have restNonempty : remains.drop (pos + 1) ≠ [] :=
            List.ne_nil_of_length_pos (by omega)
          rw [splitLoop_of_some results found sepNonempty, kept_preserving] at done
          rcases induction _ (by omega) restNonempty done rfl with ⟨pieces, rfl, counted⟩
          refine ⟨remains.take pos :: pieces, by simp, ?_⟩
          simp only [List.map_cons, List.sum_cons, List.length_cons, List.length_take]
          omega

/-- `split` undoes `Vec2Str` when there is nothing to split or the separator is one
character long. -/
theorem split_vec2Str_iff {sep : Text} {vec : List Text} (nonempty : sep ≠ [])
    (joinable : Joinable sep vec) :
    split (vec2Str vec sep) sep false true = .ok vec ↔
      sep.length = 1 ∨ vec.length ≤ 1 := by
  constructor
  · intro done
    by_contra! large
    have positive := List.length_pos_iff.mpr nonempty
    match vec, large with
    | first :: second :: vec, large =>
        have counted := length_vec2Str sep first (second :: vec)
        have joinedNonempty : vec2Str (first :: second :: vec) sep ≠ [] := by
          simp [vec2Str_cons_cons, nonempty]
        rcases length_of_splitLoop (by omega) joinedNonempty done with
          ⟨pieces, rfl, missing⟩
        have more := Nat.mul_le_mul_left (second :: vec).length
          (show 2 ≤ sep.length by omega)
        simp only [List.length_cons] at counted missing more
        omega
  · rintro (one | short)
    · rcases List.length_eq_one_iff.mp one with ⟨separator, rfl⟩
      exact split_vec2Str joinable
    · rcases List.exists_cons_of_ne_nil nonempty with ⟨head, tail, rfl⟩
      match vec, short with
      | [], _ => simp [split, splitLoop, firstOccurrence]
      | [t], _ =>
          have absent : head ∉ t :=
            joinable.absent t List.mem_cons_self head List.mem_cons_self
          rw [vec2Str_singleton, split, splitLoop_of_none []
            (firstOccurrence_eq_none_of_not_mem absent), kept_of_nonempty (joinable.last t rfl)]
          rfl

theorem split_vec2Str_empty_elements :
    split (vec2Str ["".toList, "".toList, "a".toList] ",".toList) ",".toList false true =
      .ok ["".toList, "".toList, "a".toList] :=
  (split_vec2Str_iff (by simp) ⟨by simp, by simp⟩).mpr (.inl rfl)

/-- The second character of the separator is taken for a part of the next element. -/
theorem split_keeps_separator :
    Joinable ", ".toList ["a".toList, "b".toList] ∧
      split (vec2Str ["a".toList, "b".toList] ", ".toList) ", ".toList false true =
        .ok ["a".toList, " b".toList] :=
  ⟨⟨by simp, by simp⟩, by decide +kernel⟩

end Gossip.Utils
