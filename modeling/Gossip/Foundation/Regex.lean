import Mathlib.Data.List.Basic

/-! # Patterns with groups

Regular expressions that remember what their groups have matched. A matcher tries the
alternatives in a fixed order: `successes` lists everything it can find, in that order,
and `fullMatch` takes the first that uses up the text. Which texts match, and with which
captures, is described without the order by `Derives`. -/

namespace Foundation

inductive Regex (α : Type)
  | nothing
  | one (accepts : α → Bool)
  | sequence (first second : Regex α)
  | either (first second : Regex α)
  | repeated (body : Regex α)
  | group (number : Nat) (body : Regex α)

abbrev Captures (α : Type) := List (Nat × List α)

namespace Captures

variable {α : Type}

def read (captures : Captures α) (number : Nat) : List α :=
  ((captures.filter fun capture => capture.1 = number).getLast?.map Prod.snd).getD []

theorem read_append_of_forall_ne {first second : Captures α} {number : Nat}
    (others : ∀ capture ∈ second, capture.1 ≠ number) :
    read (first ++ second) number = read first number := by
  have none : (second.filter fun capture => capture.1 = number) = [] := by
    simpa [List.filter_eq_nil_iff] using others
  rw [read, List.filter_append, none, List.append_nil, read]

theorem read_append_singleton (first : Captures α) (number : Nat) (text : List α) :
    read (first ++ [(number, text)]) number = text := by
  simp [read, List.filter_append]

end Captures

namespace Regex

variable {α : Type}

def plus (body : Regex α) : Regex α := .sequence body (.repeated body)

def optional (body : Regex α) : Regex α := .either body .nothing

def atMost : Nat → Regex α → Regex α
  | 0, _ => .nothing
  | count + 1, body => optional (.sequence body (atMost count body))

def times : Nat → Regex α → Regex α
  | 0, _ => .nothing
  | count + 1, body => .sequence body (times count body)

abbrev Success (α : Type) := List α × Captures α

def Success.andThen (success : Success α) (next : List α → List (Success α)) :
    List (Success α) :=
  (next success.1).map fun later => (later.1, success.2 ++ later.2)

/-- The successes of a repetition. Every turn takes something from the text, so that
there are no more turns than the text is long. -/
def repetitions (body : List α → List (Success α)) : Nat → List α → List (Success α)
  | 0, text => [(text, [])]
  | turns + 1, text =>
      ((body text).filter fun success => success.1.length < text.length).flatMap
        (fun success => success.andThen (repetitions body turns)) ++ [(text, [])]

def successes : Regex α → List α → List (Success α)
  | .nothing, text => [(text, [])]
  | .one _, [] => []
  | .one accepts, first :: rest => if accepts first then [(rest, [])] else []
  | .sequence first second, text =>
      (first.successes text).flatMap fun success => success.andThen second.successes
  | .either first second, text => first.successes text ++ second.successes text
  | .repeated body, text => repetitions body.successes text.length text
  | .group number body, text =>
      (body.successes text).map fun success =>
        (success.1,
          success.2 ++ [(number, text.take (text.length - success.1.length))])

def fullMatch (pattern : Regex α) (text : List α) : Option (Captures α) :=
  ((pattern.successes text).find? fun success => success.1.isEmpty).map Prod.snd

inductive Derives : Regex α → List α → Captures α → Prop
  | nothing : Derives .nothing [] []
  | one {accepts : α → Bool} {value : α} (accepted : accepts value = true) :
      Derives (.one accepts) [value] []
  | sequence {first second : Regex α} {firstText secondText : List α}
      {firstCaptures secondCaptures : Captures α}
      (firstDerives : Derives first firstText firstCaptures)
      (secondDerives : Derives second secondText secondCaptures) :
      Derives (.sequence first second) (firstText ++ secondText)
        (firstCaptures ++ secondCaptures)
  | first {first second : Regex α} {text : List α} {captures : Captures α}
      (derives : Derives first text captures) :
      Derives (.either first second) text captures
  | second {first second : Regex α} {text : List α} {captures : Captures α}
      (derives : Derives second text captures) :
      Derives (.either first second) text captures
  | finished {body : Regex α} : Derives (.repeated body) [] []
  | turn {body : Regex α} {firstText restText : List α}
      {firstCaptures restCaptures : Captures α}
      (firstDerives : Derives body firstText firstCaptures) (nonempty : firstText ≠ [])
      (restDerives : Derives (.repeated body) restText restCaptures) :
      Derives (.repeated body) (firstText ++ restText) (firstCaptures ++ restCaptures)
  | group {number : Nat} {body : Regex α} {text : List α} {captures : Captures α}
      (derives : Derives body text captures) :
      Derives (.group number body) text (captures ++ [(number, text)])

/-! ## The matcher finds what can be derived -/

def Takes (pattern : Regex α) (text rest : List α) (captures : Captures α) : Prop :=
  ∃ used, text = used ++ rest ∧ pattern.Derives used captures

theorem mem_andThen {success : Success α} {next : List α → List (Success α)}
    {rest : List α} {captures : Captures α} :
    (rest, captures) ∈ success.andThen next ↔
      ∃ later, (rest, later) ∈ next success.1 ∧ captures = success.2 ++ later := by
  simp only [Success.andThen, List.mem_map, Prod.mk.injEq]
  constructor
  · rintro ⟨⟨_, later⟩, member, rfl, rfl⟩
    exact ⟨later, member, rfl⟩
  · rintro ⟨later, member, rfl⟩
    exact ⟨(rest, later), member, rfl, rfl⟩

section Takes

variable {text rest : List α} {captures : Captures α}

theorem takes_nothing_iff :
    Regex.nothing.Takes text rest captures ↔ text = rest ∧ captures = [] := by
  constructor
  · rintro ⟨_, rfl, derives⟩
    cases derives
    exact ⟨rfl, rfl⟩
  · rintro ⟨rfl, rfl⟩
    exact ⟨[], rfl, .nothing⟩

theorem takes_one_iff {accepts : α → Bool} :
    (Regex.one accepts).Takes text rest captures ↔
      ∃ value, accepts value = true ∧ text = value :: rest ∧ captures = [] := by
  constructor
  · rintro ⟨_, rfl, derives⟩
    cases derives with
    | @one _ value accepted => exact ⟨value, accepted, rfl, rfl⟩
  · rintro ⟨value, accepted, rfl, rfl⟩
    exact ⟨[value], rfl, .one accepted⟩

theorem takes_sequence_iff {first second : Regex α} :
    (Regex.sequence first second).Takes text rest captures ↔
      ∃ middle firstCaptures, first.Takes text middle firstCaptures ∧
        ∃ secondCaptures, second.Takes middle rest secondCaptures ∧
          captures = firstCaptures ++ secondCaptures := by
  constructor
  · rintro ⟨_, rfl, derives⟩
    cases derives with
    | @sequence _ _ firstUsed secondUsed firstCaptures secondCaptures firstDerives
        secondDerives =>
        exact ⟨secondUsed ++ rest, firstCaptures,
          ⟨firstUsed, List.append_assoc _ _ _, firstDerives⟩, secondCaptures,
          ⟨secondUsed, rfl, secondDerives⟩, rfl⟩
  · rintro ⟨_, firstCaptures, ⟨firstUsed, rfl, firstDerives⟩, secondCaptures,
      ⟨secondUsed, rfl, secondDerives⟩, rfl⟩
    exact ⟨firstUsed ++ secondUsed, (List.append_assoc _ _ _).symm,
      .sequence firstDerives secondDerives⟩

theorem takes_either_iff {first second : Regex α} :
    (Regex.either first second).Takes text rest captures ↔
      first.Takes text rest captures ∨ second.Takes text rest captures := by
  constructor
  · rintro ⟨used, split, derives⟩
    cases derives with
    | first derives => exact .inl ⟨used, split, derives⟩
    | second derives => exact .inr ⟨used, split, derives⟩
  · rintro (⟨used, split, derives⟩ | ⟨used, split, derives⟩)
    · exact ⟨used, split, .first derives⟩
    · exact ⟨used, split, .second derives⟩

theorem takes_group_iff {number : Nat} {body : Regex α} :
    (Regex.group number body).Takes text rest captures ↔
      ∃ inner, body.Takes text rest inner ∧
        captures = inner ++ [(number, text.take (text.length - rest.length))] := by
  constructor
  · rintro ⟨used, rfl, derives⟩
    cases derives with
    | @group _ _ _ inner derives => exact ⟨inner, ⟨used, rfl, derives⟩, by simp⟩
  · rintro ⟨inner, ⟨used, rfl, derives⟩, rfl⟩
    exact ⟨used, rfl, by simpa using .group derives⟩

end Takes

theorem Takes.turn {body : Regex α} {text middle rest : List α}
    {firstCaptures restCaptures : Captures α}
    (takesFirst : body.Takes text middle firstCaptures)
    (shorter : middle.length < text.length)
    (takesRest : (Regex.repeated body).Takes middle rest restCaptures) :
    (Regex.repeated body).Takes text rest (firstCaptures ++ restCaptures) := by
  rcases takesFirst with ⟨firstUsed, rfl, firstDerives⟩
  rcases takesRest with ⟨restUsed, rfl, restDerives⟩
  have nonempty : firstUsed ≠ [] := by
    rintro rfl
    simp at shorter
  exact ⟨firstUsed ++ restUsed, (List.append_assoc _ _ _).symm,
    .turn firstDerives nonempty restDerives⟩

section Repetitions

variable {body : Regex α} {search : List α → List (Success α)}
  (exactly : ∀ text rest captures,
    (rest, captures) ∈ search text ↔ body.Takes text rest captures)

include exactly

theorem takes_of_mem_repetitions {turns : Nat} {text rest : List α}
    {captures : Captures α} (member : (rest, captures) ∈ repetitions search turns text) :
    (Regex.repeated body).Takes text rest captures := by
  induction turns generalizing text captures with
  | zero =>
      cases List.mem_singleton.mp member
      exact ⟨[], rfl, .finished⟩
  | succ turns induction =>
      rw [repetitions, List.mem_append, List.mem_singleton, List.mem_flatMap] at member
      rcases member with ⟨⟨middle, firstCaptures⟩, found, later⟩ | done
      · rw [List.mem_filter, decide_eq_true_eq] at found
        rcases mem_andThen.mp later with ⟨restCaptures, foundLater, rfl⟩
        exact .turn ((exactly _ _ _).mp found.1) found.2 (induction foundLater)
      · cases done
        exact ⟨[], rfl, .finished⟩

theorem mem_repetitions_of_derives {turns : Nat} {used rest : List α}
    {captures : Captures α} (derives : Derives (.repeated body) used captures)
    (enough : used.length ≤ turns) :
    (rest, captures) ∈ repetitions search turns (used ++ rest) := by
  induction turns generalizing used captures with
  | zero =>
      obtain rfl := List.length_eq_zero_iff.mp (Nat.le_zero.mp enough)
      generalize empty : ([] : List α) = used at derives
      cases derives with
      | finished => exact List.mem_singleton_self _
      | turn _ nonempty _ =>
          rw [eq_comm, List.append_eq_nil_iff] at empty
          exact absurd empty.1 nonempty
  | succ turns induction =>
      rw [repetitions, List.mem_append, List.mem_singleton, List.mem_flatMap]
      cases derives with
      | finished => exact .inr rfl
      | @turn _ firstUsed restUsed firstCaptures restCaptures firstDerives nonempty
          restDerives =>
          have some := List.length_pos_iff.mpr nonempty
          rw [List.length_append] at enough
          refine .inl ⟨(restUsed ++ rest, firstCaptures), ?_, ?_⟩
          · rw [List.mem_filter, decide_eq_true_eq, exactly]
            refine ⟨⟨firstUsed, List.append_assoc _ _ _, firstDerives⟩, ?_⟩
            simp only [List.length_append]
            omega
          · exact mem_andThen.mpr ⟨restCaptures, induction restDerives (by omega), rfl⟩

end Repetitions

theorem mem_successes_iff (pattern : Regex α) (text rest : List α)
    (captures : Captures α) :
    (rest, captures) ∈ pattern.successes text ↔ pattern.Takes text rest captures := by
  induction pattern generalizing text rest captures with
  | nothing =>
      rw [successes, List.mem_singleton, Prod.mk.injEq, takes_nothing_iff, eq_comm]
  | one accepts =>
      rw [takes_one_iff]
      cases text with
      | nil => simp [successes]
      | cons first others =>
          rw [successes]
          split
          next accepted =>
            rw [List.mem_singleton, Prod.mk.injEq]
            constructor
            · rintro ⟨rfl, rfl⟩
              exact ⟨first, accepted, rfl, rfl⟩
            · rintro ⟨value, _, equal, rfl⟩
              exact ⟨(List.cons.inj equal).2.symm, rfl⟩
          next refused =>
            constructor
            · intro member
              cases member
            · rintro ⟨value, accepted, equal, _⟩
              rw [← (List.cons.inj equal).1] at accepted
              exact absurd accepted refused
  | sequence first second firstInduction secondInduction =>
      rw [successes, List.mem_flatMap, takes_sequence_iff]
      simp only [Prod.exists, mem_andThen, firstInduction, secondInduction]
  | either first second firstInduction secondInduction =>
      rw [successes, List.mem_append, firstInduction, secondInduction, takes_either_iff]
  | repeated body induction =>
      constructor
      · exact takes_of_mem_repetitions induction
      · rintro ⟨used, rfl, derives⟩
        exact mem_repetitions_of_derives induction derives (by simp)
  | group number body induction =>
      rw [successes, List.mem_map, takes_group_iff]
      simp only [Prod.exists, Prod.mk.injEq, induction]
      constructor
      · rintro ⟨innerRest, inner, takes, rfl, rfl⟩
        exact ⟨inner, takes, rfl⟩
      · rintro ⟨inner, takes, rfl⟩
        exact ⟨rest, inner, takes, rfl, rfl⟩

theorem derives_of_fullMatch {pattern : Regex α} {text : List α} {captures : Captures α}
    (found : pattern.fullMatch text = some captures) : pattern.Derives text captures := by
  rcases Option.map_eq_some_iff.mp found with ⟨⟨rest, inner⟩, first, rfl⟩
  have accepted := List.find?_some first
  obtain rfl : rest = [] := List.isEmpty_iff.mp accepted
  rcases (mem_successes_iff _ _ _ _).mp (List.mem_of_find?_eq_some first) with
    ⟨used, rfl, derives⟩
  rw [List.append_nil]
  exact derives

theorem exists_fullMatch_of_derives {pattern : Regex α} {text : List α}
    {captures : Captures α} (derives : pattern.Derives text captures) :
    ∃ found, pattern.fullMatch text = some found := by
  have member : ([], captures) ∈ pattern.successes text :=
    (mem_successes_iff _ _ _ _).mpr ⟨text, (List.append_nil _).symm, derives⟩
  rw [← Option.isSome_iff_exists, fullMatch, Option.isSome_map, List.find?_isSome]
  exact ⟨_, member, rfl⟩

/-! ## Particular patterns -/

def classes : Regex α → List (α → Bool)
  | .nothing => []
  | .one accepts => [accepts]
  | .sequence first second => first.classes ++ second.classes
  | .either first second => first.classes ++ second.classes
  | .repeated body => body.classes
  | .group _ body => body.classes

theorem Derives.exists_class {pattern : Regex α} {text : List α} {captures : Captures α}
    (derives : pattern.Derives text captures) :
    ∀ value ∈ text, ∃ accepts ∈ pattern.classes, accepts value = true := by
  induction derives with
  | nothing | finished => simp
  | one accepted => simpa [classes] using accepted
  | sequence _ _ firstInduction secondInduction =>
      simp only [classes, List.mem_append]
      rintro value (member | member)
      · rcases firstInduction value member with ⟨accepts, inside, accepted⟩
        exact ⟨accepts, .inl inside, accepted⟩
      · rcases secondInduction value member with ⟨accepts, inside, accepted⟩
        exact ⟨accepts, .inr inside, accepted⟩
  | first _ induction =>
      intro value member
      rcases induction value member with ⟨accepts, inside, accepted⟩
      exact ⟨accepts, List.mem_append_left _ inside, accepted⟩
  | second _ induction =>
      intro value member
      rcases induction value member with ⟨accepts, inside, accepted⟩
      exact ⟨accepts, List.mem_append_right _ inside, accepted⟩
  | turn _ _ _ firstInduction restInduction =>
      rw [List.forall_mem_append]
      exact ⟨firstInduction, restInduction⟩
  | group _ induction => exact induction

theorem derives_one_iff {accepts : α → Bool} {text : List α} {captures : Captures α} :
    Derives (.one accepts) text captures ↔
      ∃ value, accepts value = true ∧ text = [value] ∧ captures = [] := by
  constructor
  · intro derives
    cases derives with
    | one accepted => exact ⟨_, accepted, rfl, rfl⟩
  · rintro ⟨value, accepted, rfl, rfl⟩
    exact .one accepted

theorem derives_sequence_iff {first second : Regex α} {text : List α}
    {captures : Captures α} :
    Derives (.sequence first second) text captures ↔
      ∃ firstText secondText firstCaptures secondCaptures,
        text = firstText ++ secondText ∧ captures = firstCaptures ++ secondCaptures ∧
          first.Derives firstText firstCaptures ∧
          second.Derives secondText secondCaptures := by
  constructor
  · intro derives
    cases derives with
    | sequence firstDerives secondDerives =>
        exact ⟨_, _, _, _, rfl, rfl, firstDerives, secondDerives⟩
  · rintro ⟨_, _, _, _, rfl, rfl, firstDerives, secondDerives⟩
    exact .sequence firstDerives secondDerives

theorem derives_group_iff {number : Nat} {body : Regex α} {text : List α}
    {captures : Captures α} :
    Derives (.group number body) text captures ↔
      ∃ inner, body.Derives text inner ∧ captures = inner ++ [(number, text)] := by
  constructor
  · intro derives
    cases derives with
    | group inner => exact ⟨_, inner, rfl⟩
  · rintro ⟨_, inner, rfl⟩
    exact .group inner

theorem derives_repeated_one_iff {accepts : α → Bool} {text : List α}
    {captures : Captures α} :
    Derives (.repeated (.one accepts)) text captures ↔
      (∀ value ∈ text, accepts value = true) ∧ captures = [] := by
  constructor
  · intro derives
    generalize equal : Regex.repeated (.one accepts) = pattern at derives
    induction derives with
    | finished => simp
    | turn firstDerives _ _ _ restInduction =>
        cases equal
        rcases derives_one_iff.mp firstDerives with ⟨value, accepted, rfl, rfl⟩
        rcases restInduction rfl with ⟨all, rfl⟩
        rw [List.singleton_append, List.forall_mem_cons]
        exact ⟨⟨accepted, all⟩, rfl⟩
    | _ => cases equal
  · rintro ⟨all, rfl⟩
    induction text with
    | nil => exact .finished
    | cons value rest induction =>
        rw [List.forall_mem_cons] at all
        exact .turn (.one all.1) (by simp) (induction all.2)

theorem derives_plus_one_iff {accepts : α → Bool} {text : List α}
    {captures : Captures α} :
    (plus (.one accepts)).Derives text captures ↔
      text ≠ [] ∧ (∀ value ∈ text, accepts value = true) ∧ captures = [] := by
  rw [plus, derives_sequence_iff]
  constructor
  · rintro ⟨_, rest, _, _, rfl, rfl, firstDerives, restDerives⟩
    rcases derives_one_iff.mp firstDerives with ⟨value, accepted, rfl, rfl⟩
    rcases derives_repeated_one_iff.mp restDerives with ⟨all, rfl⟩
    rw [List.singleton_append, List.forall_mem_cons]
    exact ⟨by simp, ⟨accepted, all⟩, rfl⟩
  · rintro ⟨nonempty, all, rfl⟩
    cases text with
    | nil => exact absurd rfl nonempty
    | cons value rest =>
        rw [List.forall_mem_cons] at all
        exact ⟨[value], rest, [], [], rfl, rfl, .one all.1,
          derives_repeated_one_iff.mpr ⟨all.2, rfl⟩⟩

theorem derives_atMost_one_iff {accepts : α → Bool} {count : Nat} {text : List α}
    {captures : Captures α} :
    (atMost count (.one accepts)).Derives text captures ↔
      text.length ≤ count ∧ (∀ value ∈ text, accepts value = true) ∧ captures = [] := by
  induction count generalizing text captures with
  | zero =>
      constructor
      · intro derives
        cases derives
        simp
      · rintro ⟨short, _, rfl⟩
        obtain rfl := List.length_eq_zero_iff.mp (Nat.le_zero.mp short)
        exact .nothing
  | succ count induction =>
      constructor
      · intro derives
        cases derives with
        | first derives =>
            rcases derives_sequence_iff.mp derives with
              ⟨_, rest, _, _, rfl, rfl, firstDerives, restDerives⟩
            rcases derives_one_iff.mp firstDerives with ⟨value, accepted, rfl, rfl⟩
            rcases induction.mp restDerives with ⟨short, all, rfl⟩
            rw [List.singleton_append, List.forall_mem_cons, List.length_cons]
            exact ⟨Nat.succ_le_succ short, ⟨accepted, all⟩, rfl⟩
        | second derives =>
            cases derives
            simp
      · rintro ⟨short, all, rfl⟩
        cases text with
        | nil => exact .second .nothing
        | cons value rest =>
            rw [List.forall_mem_cons] at all
            exact .first (.sequence (.one all.1)
              (induction.mpr ⟨Nat.le_of_succ_le_succ short, all.2, rfl⟩))

end Regex

end Foundation
