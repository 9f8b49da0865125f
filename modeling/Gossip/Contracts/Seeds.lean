import Gossip.Contracts.Addresses

/-! # Lists of seeds

A list of seeds that is given as one token, joined with commas. `validate` tokenizes it
at blanks, of which it has none, so that the whole list comes out as one value. -/

namespace Gossip.Utils

open Foundation

structure Seed where
  host : Text
  digits : Text
  isHost : IsHost host
  noComma : ',' ∉ host
  noColon : ':' ∉ host
  isPort : IsNumeral digits
  inRange : decimalValue digits ≤ 65535

namespace Seed

def text (seed : Seed) : Text := seed.host ++ ':' :: seed.digits

def address (seed : Seed) : Text × UInt32 :=
  (seed.host, UInt32.ofNat (decimalValue seed.digits))

theorem isHostPort (seed : Seed) : IsHostPort seed.text seed.host seed.digits :=
  ⟨rfl, seed.isHost, seed.isPort⟩

theorem text_ne_nil (seed : Seed) : seed.text ≠ [] := by
  simp [text]

theorem visible (seed : Seed) : ∀ value ∈ seed.text, isSpace value = false := by
  rw [text, List.forall_mem_append, List.forall_mem_cons]
  exact ⟨seed.isHost.visible, rfl,
    fun value member => isSpace_eq_false_of_isDigit (seed.isPort.digits value member)⟩

theorem not_comma_isPrefix (seed : Seed) (rest : Text) :
    ¬ ",".toList <+: seed.text ++ rest := by
  have nonempty := seed.isHost.nonempty
  have noComma := seed.noComma
  rw [text]
  cases equal : seed.host with
  | nil => exact absurd equal nonempty
  | cons first others =>
      rw [equal, List.mem_cons, not_or] at noComma
      simpa using noComma.1

theorem parseHostPort_text (conversion : DigitConversion) (seed : Seed) :
    parseHostPort conversion seed.text = .ok seed.address := by
  have small := seed.inRange
  have value := toNat_atoi conversion seed.isPort (by omega)
  rw [parseHostPort_of_isHostPort conversion seed.isHostPort, address, ← value,
    UInt32.ofNat_toNat]

end Seed

def joined (seeds : List Seed) : Text := ",".toList.intercalate (seeds.map Seed.text)

theorem joined_cons (seed : Seed) (seeds : List Seed) :
    ∃ rest, joined (seed :: seeds) = seed.text ++ rest := by
  cases seeds with
  | nil => exact ⟨[], by simp [joined]⟩
  | cons next seeds =>
      exact ⟨",".toList ++ joined (next :: seeds), by
        simp only [joined, List.map_cons, List.intercalate_cons_cons, List.append_assoc]⟩

theorem visible_joined (seeds : List Seed) :
    ∀ value ∈ joined seeds, isSpace value = false := by
  induction seeds with
  | nil => simp [joined]
  | cons seed seeds induction =>
      cases seeds with
      | nil => simpa [joined] using seed.visible
      | cons next seeds =>
          rw [joined, List.map_cons, List.map_cons, List.intercalate_cons_cons,
            ← List.map_cons, ← joined, List.forall_mem_append, List.forall_mem_append]
          exact ⟨⟨seed.visible, by simp [isSpace]⟩, induction⟩

theorem validate_joined (tokenizer : Tokenizer) (seeds : List Seed) :
    validate tokenizer [] [joined seeds] = if seeds.isEmpty then [] else [joined seeds] := by
  have blank : ' ' ∉ joined seeds := fun member => by
    simpa [isSpace] using visible_joined seeds ' ' member
  have start : firstOccurrence ",".toList (joined seeds) ≠ some 0 := by
    rw [ne_eq, firstOccurrence_eq_zero_iff]
    cases seeds with
    | nil => simp [joined]
    | cons seed seeds =>
        rcases joined_cons seed seeds with ⟨rest, equal⟩
        rw [equal]
        exact seed.not_comma_isPrefix rest
  have same : (joined seeds).isEmpty = seeds.isEmpty := by
    cases seeds with
    | nil => rfl
    | cons seed seeds =>
        rcases joined_cons seed seeds with ⟨rest, equal⟩
        have nonempty : seed.text ++ rest ≠ [] := List.append_ne_nil_of_left_ne_nil
          seed.text_ne_nil rest
        rw [equal, List.isEmpty_eq_false_iff.mpr nonempty, List.isEmpty_cons]
  simp only [validate, List.foldl_cons, List.foldl_nil, if_pos start, List.nil_append,
    tokenizer.whole ' ' _ blank, same]

/-- Parsing the values of the option yields the seeds. -/
def Recovers (tokenizer : Tokenizer) (conversion : DigitConversion) (seeds : List Seed) : Prop :=
  (validate tokenizer [] [joined seeds]).mapM (parseHostPort conversion) =
    .ok (seeds.map Seed.address)

theorem recovers_iff (tokenizer : Tokenizer) (conversion : DigitConversion) (seeds : List Seed) :
    Recovers tokenizer conversion seeds ↔ seeds.length ≤ 1 := by
  rw [Recovers, validate_joined]
  match seeds with
  | [] => simp [pure, Except.pure]
  | [seed] =>
      have alone : joined [seed] = seed.text := by simp [joined]
      simp [alone, seed.parseHostPort_text conversion, pure, Except.pure, bind, Except.bind]
  | first :: second :: rest =>
      -- there is one value, so that at most one address can come out
      cases parsed : parseHostPort conversion (joined (first :: second :: rest)) <;>
        simp [parsed, pure, Except.pure, bind, Except.bind]

/-- A tokenizer that drops the separators and empty tokens. -/
def splitting : Tokenizer where
  tokenize separator text := (text.splitOn separator).filter fun token => !token.isEmpty
  whole separator text absent := by
    rw [List.splitOn_eq_singleton absent]
    cases text <;> rfl

/-- Two seeds are read as one server with a comma in its name. -/
theorem two_seeds_become_one :
    ∃ first second : Seed, joined [first, second] = "a:1,b:2".toList ∧
      (validate splitting [] [joined [first, second]]).mapM (parseHostPort .strtol) =
        .ok [("a:1,b".toList, 2)] ∧
      ¬ Recovers splitting .strtol [first, second] := by
  refine ⟨⟨"a".toList, "1".toList, ⟨by simp, by simp [isSpace]⟩, by simp, by simp,
      ⟨by simp, by simp [Char.isDigit]⟩, by decide⟩,
    ⟨"b".toList, "2".toList, ⟨by simp, by simp [isSpace]⟩, by simp, by simp,
      ⟨by simp, by simp [Char.isDigit]⟩, by decide⟩, rfl, by decide +kernel, ?_⟩
  intro recovers
  have two := congrArg (Except.map List.length) recovers
  revert two
  decide +kernel

end Gossip.Utils
