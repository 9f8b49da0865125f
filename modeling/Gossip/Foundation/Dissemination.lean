import Mathlib.Combinatorics.SimpleGraph.Paths

/-! # Spreading knowledge by exchanges

Nodes that know of one another tell those they know what they know. A round in which
everybody has done so at least once doubles the distance over which knowledge has come. -/

namespace Foundation

variable {Node : Type}

/-- Whom everybody knows before and after a round in which each node has told all those it
knew whom it knew. -/
structure Exchanged (before after : Node → Node → Prop) : Prop where
  remembers : ∀ node other, before node other → after node other
  introduces : ∀ teller listener, teller ≠ listener → before teller listener →
    after listener teller
  shares : ∀ teller listener subject, teller ≠ listener → listener ≠ subject →
    before teller listener → before teller subject → after listener subject

inductive Rounds : Nat → (Node → Node → Prop) → (Node → Node → Prop) → Prop
  | none (knows : Node → Node → Prop) : Rounds 0 knows knows
  | more {count : Nat} {before middle after : Node → Node → Prop}
      (earlier : Rounds count before middle) (last : Exchanged middle after) :
      Rounds (count + 1) before after

/-- Two nodes that at first are connected by a chain of acquaintances, of whichever of two
neighbours knows the other, know each other after a number of rounds that is logarithmic in
the length of the chain. -/
theorem Rounds.knows_of_walk {count : Nat} {before after : Node → Node → Prop}
    (rounds : Rounds (count + 1) before after) {first last : Node}
    (walk : (SimpleGraph.fromRel before).Walk first last) (near : walk.length ≤ 2 ^ count)
    (different : first ≠ last) : after first last := by
  induction count generalizing after first last with
  | zero =>
      cases rounds with
      | more earlier exchange =>
          cases earlier
          have positive : walk.length ≠ 0 := fun zero => different (walk.eq_of_length_eq_zero zero)
          have adjacent : (SimpleGraph.fromRel before).Adj first last :=
            walk.adj_of_length_eq_one (by omega)
          rcases ((SimpleGraph.fromRel_adj _ _ _).mp adjacent).2 with known | known
          · exact exchange.remembers first last known
          · exact exchange.introduces last first different.symm known
  | succ count induction =>
      cases rounds with
      | @more _ _ middle _ earlier exchange =>
          -- Whoever stands in the middle of the chain tells each of its ends of the other.
          have firstHalf : (walk.take (2 ^ count)).length ≤ 2 ^ count := by
            rw [SimpleGraph.Walk.take_length]
            exact Nat.min_le_left _ _
          have secondHalf : (walk.drop (2 ^ count)).length ≤ 2 ^ count := by
            rw [SimpleGraph.Walk.drop_length]
            omega
          by_cases atFirst : walk.getVert (2 ^ count) = first
          · have known := induction earlier (walk.drop _) secondHalf (by rwa [atFirst])
            rw [atFirst] at known
            exact exchange.remembers first last known
          by_cases atLast : walk.getVert (2 ^ count) = last
          · have known := induction earlier (walk.take _) firstHalf (by rwa [atLast])
            rw [atLast] at known
            exact exchange.remembers first last known
          have knowsFirst := induction earlier (walk.take _).reverse
            (by rwa [SimpleGraph.Walk.length_reverse]) atFirst
          have knowsLast := induction earlier (walk.drop _) secondHalf atLast
          exact exchange.shares _ first last atFirst different knowsFirst knowsLast

end Foundation
