import Gossip.Contracts.ReportRound
import Gossip.Contracts.ReportSelection

/-! # The size of reports

The client sends a report as it is. How many records are in it is therefore decided by the
budget alone, and the budget charges nothing for a record that is less than a second
old. -/

namespace Gossip

open Foundation SwimServer GossipFailureDetector

def Posting.records (posting : Posting) : Nat :=
  match posting.envelope.report with
  | some report => report.alive.length + report.suspected.length
  | none => 0

section Bound

variable {Cost : Type} (costs : CostArithmetic Cost) (sort : LamportSort)

def Affordable (now : UInt64) (records : List ServerRecord) (count : Nat) : Prop :=
  fitsWithin (runningCost costs now) costs.overBudget costs.zero
    ((sort.sort records).take count) = true

theorem le_length_addRecordsToBudget_iff (now : UInt64) (records : List ServerRecord)
    (count : Nat) :
    count ≤ (addRecordsToBudget costs sort now records).length ↔
      count ≤ records.length ∧ Affordable costs sort now records count := by
  rw [addRecordsToBudget, le_length_takeWithin_iff, (sort.perm records).length_eq]
  rfl

theorem records_send (client : SwimClient) (report : SwimReport) :
    (client.send report).2.records = report.alive.length + report.suspected.length := rfl

theorem lt_add_iff_exists (limit first second : Nat) :
    limit < first + second ↔ ∃ i j, limit < i + j ∧ i ≤ first ∧ j ≤ second := by
  constructor
  · intro longer
    exact ⟨first, second, longer, Nat.le_refl _, Nat.le_refl _⟩
  · rintro ⟨i, j, longer, firstReaches, secondReaches⟩
    omega

/-- A posted report stays within the limit of the client exactly when the budget does not
pay for more records than that. -/
theorem report_within_limit_iff (server : SwimServer) (client : LimitedClient)
    (aliveNow suspectedNow : UInt64) :
    let report := server.prepareReport costs sort aliveNow suspectedNow
    let limit := client.maxAllowedReports.toNat
    ((client.toSwimClient.send report).2.records ≤ limit ↔
      ∀ i ≤ server.alive.toList.length, ∀ j ≤ server.suspected.toList.length,
        limit < i + j →
          ¬ (Affordable costs sort aliveNow server.alive.toList i ∧
            Affordable costs sort suspectedNow server.suspected.toList j)) ∧
      (server.alive.toList.length + server.suspected.toList.length ≤ limit →
        (client.toSwimClient.send report).2.records ≤ limit) := by
  intro report limit
  have exactly : limit < report.alive.length + report.suspected.length ↔
      ∃ i j, limit < i + j ∧
        (i ≤ server.alive.toList.length ∧
          Affordable costs sort aliveNow server.alive.toList i) ∧
        (j ≤ server.suspected.toList.length ∧
          Affordable costs sort suspectedNow server.suspected.toList j) := by
    rw [lt_add_iff_exists]
    simp only [← le_length_addRecordsToBudget_iff]
    rfl
  have bounded : (client.toSwimClient.send report).2.records ≤ limit ↔
      ∀ i ≤ server.alive.toList.length, ∀ j ≤ server.suspected.toList.length,
        limit < i + j →
          ¬ (Affordable costs sort aliveNow server.alive.toList i ∧
            Affordable costs sort suspectedNow server.suspected.toList j) := by
    rw [records_send, ← Nat.not_lt, exactly]
    constructor
    · rintro small i inside j insideToo longer ⟨alive, suspected⟩
      exact small ⟨i, j, longer, ⟨inside, alive⟩, insideToo, suspected⟩
    · rintro small ⟨i, j, longer, ⟨inside, alive⟩, insideToo, suspected⟩
      exact small i inside j insideToo longer ⟨alive, suspected⟩
  refine ⟨bounded, fun few => bounded.mpr ?_⟩
  intro i inside j insideToo longer
  omega

end Bound

/-! ## Records that cost nothing -/

theorem affordable_exactCosts_of_free (sort : LamportSort) {now : UInt64}
    {records : List ServerRecord}
    (free : ∀ record ∈ records, ageInSeconds now record.timestamp = 0) (count : Nat) :
    Affordable exactCosts sort now records count := by
  have freeFirst : ∀ record ∈ (sort.sort records).take count,
      ageInSeconds now record.timestamp = 0 := fun record member =>
    free record ((sort.perm records).subset (List.mem_of_mem_take member))
  rw [Affordable]
  generalize (sort.sort records).take count = first at freeFirst
  induction first with
  | nil => rfl
  | cons record first induction =>
      rw [List.forall_mem_cons] at freeFirst
      have unchanged : runningCost exactCosts now exactCosts.zero record =
          exactCosts.zero := by
        simp [runningCost, exactCosts, freeFirst.1]
      have within : exactCosts.overBudget exactCosts.zero = false := by decide +kernel
      rw [fitsWithin, unchanged, within, induction freeFirst.2]
      rfl

theorem timestamp_crowded (size : Nat) :
    ∀ record ∈ (crowded size).alive.toList, record.timestamp = 0 := by
  induction size with
  | zero => simp [crowded, crowd, SwimServer.create, OrderedSet.empty]
  | succ size induction =>
      intro record member
      have found : (crowded (size + 1)).alive.find? record.key = some record :=
        OrderedSet.find?_of_mem member
      rw [crowded_succ, ← SwimServer.entry_alive, SwimServer.entry_addAlive] at found
      split at found
      next same =>
        rw [Entry.offerAlive, if_neg (crowdMember_port size), Entry.addAlive_alive,
          Option.some.injEq] at found
        rw [← found]
        split <;> rfl
      next => exact induction record (OrderedSet.mem_of_find? found)

theorem affordable_crowded (sort : LamportSort) (size count : Nat) :
    Affordable exactCosts sort 500 (crowded size).alive.toList count := by
  apply affordable_exactCosts_of_free
  intro record member
  rw [timestamp_crowded size record member]
  decide

/-- 257 servers have been heard from within the last second. All of them are reported, by
a client that is to report 256. -/
theorem report_exceeds_limit :
    let client : LimitedClient :=
      { SwimClient.create ⟨"node", fun _ => "10.0.0.1"⟩ "" 0 (crowdMember 0) 9000 with }
    let report := (crowded 257).prepareReport exactCosts stableSort 500 500
    (crowded 257).Reachable exactCosts stableSort ∧ client.maxAllowedReports = 256 ∧
      ¬ (client.toSwimClient.send report).2.records ≤ client.maxAllowedReports.toNat := by
  intro client report
  refine ⟨reachable_crowded _ _ _, rfl, ?_⟩
  intro small
  have bounded := le_length_addRecordsToBudget_iff exactCosts stableSort 500
    (crowded 257).alive.toList 257
  have all : 257 ≤ report.alive.length :=
    bounded.mpr ⟨(length_crowded 257).ge, affordable_crowded stableSort 257 257⟩
  have limit : client.maxAllowedReports.toNat = 256 := rfl
  rw [records_send, limit] at small
  omega

end Gossip
