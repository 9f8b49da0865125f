import Gossip.Foundation.BudgetedSelection
import Gossip.Semantics.Preparing
import Mathlib.Algebra.Order.Field.Basic
import Mathlib.Algebra.Order.Ring.Abs
import Mathlib.Data.Rat.Cast.Order
import Mathlib.Tactic.Ring

/-! # Which records get into a report

A report takes the records of a set by descending Lamport time until one of them
does not fit the budget any more. The cost of a record is the square of its age,
so that both the order and the cost of records whose timestamps come from other
machines can differ from what their timestamps suggest. -/

namespace Gossip

open Foundation SwimServer

/-! ## The cost of a record -/

def signedAge (now timestamp : UInt64) : Int :=
  Int.bmod ((now.toNat : Int) - timestamp.toNat) (2 ^ 64)

def charge (now : UInt64) (record : ServerRecord) : ℚ :=
  (((signedAge now record.timestamp).tdiv 1000 : ℤ) : ℚ) ^ 2 / 100

theorem ageInSeconds_eq (now timestamp : UInt64) :
    ageInSeconds now timestamp = (signedAge now timestamp).tdiv 1000 := by
  have difference : (now - timestamp).toInt64.toInt = signedAge now timestamp := by
    rw [UInt64.toInt64, Int64.toInt, Int64.toBitVec, UInt64.toBitVec_sub,
      BitVec.toInt_sub, signedAge, BitVec.toInt_eq_toNat_bmod, BitVec.toInt_eq_toNat_bmod,
      ← Int.sub_bmod]
    rfl
  rw [ageInSeconds, difference]

theorem runningCost_exactCosts (now : UInt64) (running : ℚ) (record : ServerRecord) :
    runningCost exactCosts now running record = running + charge now record := by
  simp only [runningCost, exactCosts, ageInSeconds_eq, charge, kTimeDecayConstant]
  ring

/-- How far a timestamp is from the current time, in whole seconds and in either
direction. Both differences are taken modulo `2 ^ 64`. -/
def secondsAway (now timestamp : UInt64) : Nat :=
  min (now - timestamp).toNat (timestamp - now).toNat / 1000

theorem natAbs_signedAge (now timestamp : UInt64) :
    (signedAge now timestamp).natAbs =
      min (now - timestamp).toNat (timestamp - now).toNat := by
  have nowBound := now.toNat_lt
  have timestampBound := timestamp.toNat_lt
  rw [signedAge, UInt64.toNat_sub, UInt64.toNat_sub]
  by_cases past : timestamp.toNat ≤ now.toNat
  · have age : ((now.toNat : Int) - timestamp.toNat) % (2 ^ 64 : Nat) =
        now.toNat - timestamp.toNat := by omega
    rw [Int.bmod, age]
    split <;> omega
  · have age : ((now.toNat : Int) - timestamp.toNat) % (2 ^ 64 : Nat) =
        2 ^ 64 + now.toNat - timestamp.toNat := by omega
    rw [Int.bmod, age]
    split <;> omega

theorem natAbs_seconds (now timestamp : UInt64) :
    ((signedAge now timestamp).tdiv 1000).natAbs = secondsAway now timestamp := by
  rw [Int.natAbs_tdiv, natAbs_signedAge]
  rfl

theorem charge_le_iff (now : UInt64) (left right : ServerRecord) :
    charge now left ≤ charge now right ↔
      secondsAway now left.timestamp ≤ secondsAway now right.timestamp := by
  rw [charge, charge, div_le_div_iff_of_pos_right (by norm_num), sq_le_sq,
    ← Int.cast_abs, ← Int.cast_abs, Int.cast_le, Int.abs_eq_natAbs, Int.abs_eq_natAbs,
    Int.ofNat_le, natAbs_seconds, natAbs_seconds]

theorem secondsAway_of_le {now timestamp : UInt64} (past : timestamp ≤ now)
    (recent : now.toNat - timestamp.toNat < 2 ^ 63) :
    secondsAway now timestamp = (now.toNat - timestamp.toNat) / 1000 := by
  have behind : (now - timestamp).toNat = now.toNat - timestamp.toNat :=
    UInt64.toNat_sub_of_le _ _ past
  have nowBound := now.toNat_lt
  rw [UInt64.le_iff_toNat_le] at past
  rw [secondsAway, behind, UInt64.toNat_sub, Nat.min_eq_left]
  omega

theorem secondsAway_antitone {now older newer : UInt64} (ordered : older ≤ newer)
    (past : newer ≤ now) (recent : now.toNat - older.toNat < 2 ^ 63) :
    secondsAway now newer ≤ secondsAway now older := by
  have closer : now.toNat - newer.toNat ≤ now.toNat - older.toNat :=
    Nat.sub_le_sub_left (UInt64.le_iff_toNat_le.mp ordered) _
  rw [secondsAway_of_le (UInt64.le_trans ordered past) recent,
    secondsAway_of_le past (Nat.lt_of_le_of_lt closer recent)]
  exact Nat.div_le_div_right closer

/-- A record with a larger timestamp is charged no more exactly when it is, in whole
seconds, no further from the current time. That is so when neither timestamp is
ahead of the current time, unless the older is so old that the sign is lost. -/
theorem fresher_charged_no_more_iff (now : UInt64) (older newer : ServerRecord)
    (ordered : older.timestamp ≤ newer.timestamp) (running : ℚ) :
    (runningCost exactCosts now running newer ≤ runningCost exactCosts now running older ↔
        secondsAway now newer.timestamp ≤ secondsAway now older.timestamp) ∧
      (newer.timestamp ≤ now → now.toNat - older.timestamp.toNat < 2 ^ 63 →
        secondsAway now newer.timestamp ≤ secondsAway now older.timestamp) := by
  constructor
  · rw [runningCost_exactCosts, runningCost_exactCosts, add_le_add_iff_left, charge_le_iff]
  · exact secondsAway_antitone ordered

theorem fresher_charged_no_more_of_small_skew :
    let older : ServerRecord := { timestamp := 90000 }
    let newer : ServerRecord := { timestamp := 105000 }
    runningCost exactCosts 100000 0 newer ≤ runningCost exactCosts 100000 0 older :=
  ((fresher_charged_no_more_iff 100000 { timestamp := 90000 } { timestamp := 105000 }
    (by decide) 0).1).mpr (by decide)

/-- The peer's clock is 200 seconds ahead: its record costs more than the budget, while
the record of a contact that has just been made costs nothing. -/
theorem fresher_charged_more_than_budget :
    let contact : ServerRecord := { timestamp := 100000 }
    let ahead : ServerRecord := { timestamp := 300000 }
    contact.timestamp ≤ ahead.timestamp ∧
      runningCost exactCosts 100000 0 contact = 0 ∧
      runningCost exactCosts 100000 0 ahead = 400 ∧
      ¬ runningCost exactCosts 100000 0 ahead ≤
        runningCost exactCosts 100000 0 contact := by
  decide +kernel

/-! ## The prefix that is reported -/

structure MaximalPrefix (now : UInt64) (records part arrangement : List ServerRecord) :
    Prop where
  perm : arrangement.Perm records
  descending : arrangement.Pairwise fun left right => right.lamportTime ≤ left.lamportTime
  isPrefix : part <+: arrangement
  within : total (charge now) part ≤ kTimeDecayBudget
  maximal : part = arrangement ∨ ∃ next, part ++ [next] <+: arrangement ∧
    kTimeDecayBudget < total (charge now) (part ++ [next])

theorem addRecordsToBudget_eq (sort : LamportSort) (now : UInt64)
    (records : List ServerRecord) :
    addRecordsToBudget exactCosts sort now records =
      takeWithin (fun running record => running + charge now record)
        (fun running => decide (kTimeDecayBudget < running)) 0 (sort.sort records) := by
  have charges : runningCost exactCosts now =
      fun running record => running + charge now record := by
    funext running record
    exact runningCost_exactCosts now running record
  rw [addRecordsToBudget, charges]
  rfl

theorem maximalPrefix_addRecordsToBudget (sort : LamportSort) (now : UInt64)
    (records : List ServerRecord) :
    MaximalPrefix now records (addRecordsToBudget exactCosts sort now records)
      (sort.sort records) := by
  rw [addRecordsToBudget_eq]
  constructor
  · exact sort.perm records
  · exact sort.descending records
  · exact takeWithin_isPrefix _ _ _ _
  · have start : decide (kTimeDecayBudget < (0 : ℚ)) = false := by decide +kernel
    have within := takeWithin_within (fun running record => running + charge now record)
      (fun running => decide (kTimeDecayBudget < running)) start (sort.sort records)
    rw [foldl_add_eq_total, zero_add] at within
    simpa using within
  · rcases takeWithin_maximal (fun running record => running + charge now record)
      (fun running => decide (kTimeDecayBudget < running)) 0 (sort.sort records) with
      whole | ⟨next, isPrefix, exceeds⟩
    · exact .inl whole
    · rw [foldl_add_eq_total, zero_add, decide_eq_true_eq] at exceeds
      exact .inr ⟨next, isPrefix, exceeds⟩

/-- Each list of a report is a longest prefix that fits a budget of its own, and a
call of `PrepareReport` that returns it changes nothing else. -/
theorem prepareReport_maximal_prefixes (sort : LamportSort) (preparing : Preparing)
    (aliveNow suspectedNow : UInt64) :
    let server := preparing.threads.shared.server
    let report := server.prepareReport exactCosts sort aliveNow suspectedNow
    (∃ arrangement, MaximalPrefix aliveNow server.alive.toList report.alive
        arrangement) ∧
      (∃ arrangement, MaximalPrefix suspectedNow server.suspected.toList report.suspected
        arrangement) ∧
      (preparingMachine exactCosts sort).run preparing
          [.prepare aliveNow suspectedNow, .copy preparing.preparations.length,
            .copy preparing.preparations.length] =
        { preparing with
          preparations := preparing.preparations ++ [.returned report] } := by
  intro server report
  refine ⟨⟨sort.sort server.alive.toList, ?_⟩, ⟨sort.sort server.suspected.toList, ?_⟩, ?_⟩
  · exact maximalPrefix_addRecordsToBudget sort aliveNow server.alive.toList
  · exact maximalPrefix_addRecordsToBudget sort suspectedNow server.suspected.toList
  · exact preparing.run_prepare exactCosts sort aliveNow suspectedNow

/-! ## As many records as possible, the most recent first

Nothing here depends on how the source rounds its sums: the report is cut by the running
cost of any arithmetic, and a selection is judged by the exact sum of its costs. -/

/-- What the costs of an arithmetic are worth as numbers. A `double` is a rational. -/
structure CostArithmetic.Valuation {Cost : Type} (costs : CostArithmetic Cost) where
  value : Cost → ℚ
  nonneg : ∀ seconds, 0 ≤ value (costs.cost seconds)

def exactValuation : exactCosts.Valuation where
  value := id
  nonneg seconds := by
    have square : exactCosts.cost seconds = kTimeDecayConstant * (seconds * seconds) :=
      mul_assoc _ _ _
    rw [id, square]
    exact mul_nonneg (by decide +kernel) (mul_self_nonneg _)

section Selection

variable {Cost : Type} {costs : CostArithmetic Cost} (valuation : costs.Valuation)
  (sort : LamportSort) (now : UInt64) (records : List ServerRecord)

def CostArithmetic.Valuation.price (record : ServerRecord) : ℚ :=
  valuation.value (costs.cost (ageInSeconds now record.timestamp))

structure MostRecentFirst (part : List ServerRecord) : Prop where
  upwards : ∀ record ∈ part, ∀ newer ∈ records, record.timestamp < newer.timestamp →
    newer ∈ part
  largest : ∀ selection : List ServerRecord, selection.Nodup →
    (∀ record ∈ selection, record ∈ records) →
      total (valuation.price now) selection ≤ kTimeDecayBudget →
        selection.length ≤ part.length

variable (costs) in
def cut : Nat :=
  (takeWithin (runningCost costs now) costs.overBudget costs.zero (sort.sort records)).length

def Selectable : Prop :=
  cut costs sort now records = records.length ∨
    ((∀ kept ∈ (sort.sort records).take (cut costs sort now records),
        ∀ dropped ∈ (sort.sort records).drop (cut costs sort now records),
          dropped.timestamp ≤ kept.timestamp) ∧
      kTimeDecayBudget <
        total (valuation.price now)
          (cheapest (valuation.price now) (cut costs sort now records + 1) records))

instance : Decidable (Selectable valuation sort now records) :=
  inferInstanceAs (Decidable (_ ∨ _))

theorem addRecordsToBudget_eq_take :
    addRecordsToBudget costs sort now records =
      (sort.sort records).take (cut costs sort now records) :=
  List.prefix_iff_eq_take.mp (takeWithin_isPrefix _ _ _ _)

theorem length_addRecordsToBudget :
    (addRecordsToBudget costs sort now records).length = cut costs sort now records := rfl

theorem cut_le : cut costs sort now records ≤ records.length := by
  rw [cut, ← (sort.perm records).length_eq]
  exact (takeWithin_isPrefix _ _ _ _).length_le

theorem mostRecentFirst_of_whole
    (whole : cut costs sort now records = records.length) :
    MostRecentFirst valuation now records (addRecordsToBudget costs sort now records) := by
  have all : addRecordsToBudget costs sort now records = sort.sort records := by
    rw [addRecordsToBudget_eq_take, whole, ← (sort.perm records).length_eq, List.take_length]
  constructor
  · intro _ _ newer member _
    rw [all]
    exact (sort.perm records).symm.subset member
  · intro selection nodup members _
    rw [length_addRecordsToBudget, whole]
    exact (nodup.subperm members).length_le

variable {records} in
theorem upwards_iff (distinct : records.Nodup) :
    (∀ record ∈ addRecordsToBudget costs sort now records, ∀ newer ∈ records,
        record.timestamp < newer.timestamp →
          newer ∈ addRecordsToBudget costs sort now records) ↔
      ∀ kept ∈ (sort.sort records).take (cut costs sort now records),
        ∀ dropped ∈ (sort.sort records).drop (cut costs sort now records),
          dropped.timestamp ≤ kept.timestamp := by
  have arranged : ∀ record, record ∈ records ↔
      record ∈ (sort.sort records).take (cut costs sort now records) ∨
        record ∈ (sort.sort records).drop (cut costs sort now records) := by
    intro record
    rw [← List.mem_append, List.take_append_drop, (sort.perm records).mem_iff]
  have disjoint := List.disjoint_take_drop ((sort.perm records).nodup_iff.mpr distinct)
    (le_refl (cut costs sort now records))
  rw [addRecordsToBudget_eq_take]
  constructor
  · intro upwards kept member dropped after
    rw [← UInt64.not_lt]
    intro newer
    exact disjoint (upwards kept member dropped ((arranged dropped).mpr (.inr after)) newer)
      after
  · intro recent record member newer known larger
    rcases (arranged newer).mp known with before | after
    · exact before
    · exact absurd larger (UInt64.not_lt.mpr (recent record member newer after))

variable {records} in
theorem largest_iff (distinct : records.Nodup)
    (short : cut costs sort now records < records.length) :
    (∀ selection : List ServerRecord, selection.Nodup →
        (∀ record ∈ selection, record ∈ records) →
          total (valuation.price now) selection ≤ kTimeDecayBudget →
            selection.length ≤ (addRecordsToBudget costs sort now records).length) ↔
      kTimeDecayBudget < total (valuation.price now)
        (cheapest (valuation.price now) (cut costs sort now records + 1) records) := by
  rw [length_addRecordsToBudget,
    ← affordable_length_le_iff (valuation.price now) (fun _ => valuation.nonneg _) short]
  constructor
  · intro largest selection selected
    have nodup : selection.Nodup := by
      rcases selected with ⟨chosen, perm, sublist⟩
      exact perm.nodup_iff.mp (distinct.sublist sublist)
    exact largest selection nodup selected.subset
  · intro largest selection nodup members
    exact largest selection (nodup.subperm members)

variable {records} in
theorem mostRecentFirst_iff (distinct : records.Nodup) :
    MostRecentFirst valuation now records (addRecordsToBudget costs sort now records) ↔
      Selectable valuation sort now records := by
  rcases (cut_le sort now records).eq_or_lt with whole | short
  · exact ⟨fun _ => .inl whole, fun _ => mostRecentFirst_of_whole valuation sort now _ whole⟩
  constructor
  · intro recent
    exact .inr ⟨(upwards_iff sort now distinct).mp recent.upwards,
      (largest_iff valuation sort now distinct short).mp recent.largest⟩
  · rintro (whole | ⟨newest, exceeds⟩)
    · exact absurd whole short.ne
    · exact ⟨(upwards_iff sort now distinct).mpr newest,
        (largest_iff valuation sort now distinct short).mpr exceeds⟩

end Selection

-- The order differs from the one by timestamp, but not across the cut.
example : Selectable exactValuation stableSort 300000
    [{ timestamp := 298000, lamportTime := 9 }, { timestamp := 299000, lamportTime := 5 },
      { timestamp := 100000, lamportTime := 1 }] := by decide +kernel

end Gossip
