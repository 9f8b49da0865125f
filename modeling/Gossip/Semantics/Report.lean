import Gossip.Foundation.BudgetedPrefix
import Gossip.Semantics.SwimServer
import Mathlib.Data.List.Sort
import Mathlib.Data.Rat.Defs

/-! # Reports

`PrepareReport` copies the records of each set, sorts them by descending
Lamport time and adds them to the report until a budget that charges old
records more is used up. -/

namespace Gossip

open Foundation

/-- What `std::sort` promises for the comparator of `AddRecordsToBudget`: some
arrangement of the records by descending Lamport time. Records with equal
Lamport times can come in any order. -/
structure LamportSort where
  sort : List ServerRecord → List ServerRecord
  perm : ∀ records, (sort records).Perm records
  descending : ∀ records, (sort records).Pairwise
    fun left right => right.lamportTime ≤ left.lamportTime

/-- The arithmetic of costs. The source computes in `double`; nothing that is
proved for an arbitrary arithmetic depends on how sums are rounded. -/
structure CostArithmetic (Cost : Type) where
  zero : Cost
  add : Cost → Cost → Cost
  cost : Int → Cost
  /-- Whether a running cost is over `kTimeDecayBudget`. -/
  overBudget : Cost → Bool

def kTimeDecayConstant : ℚ := 1 / 100

def kTimeDecayBudget : ℚ := 300

def exactCosts : CostArithmetic ℚ where
  zero := 0
  add := (· + ·)
  cost seconds := kTimeDecayConstant * seconds * seconds
  overBudget running := kTimeDecayBudget < running

def ageInSeconds (now timestamp : UInt64) : Int :=
  (now - timestamp).toInt64.toInt.tdiv 1000

section Budget

variable {Cost : Type} (costs : CostArithmetic Cost) (sort : LamportSort)

/-- `running_cost` after one more record. -/
def runningCost (now : UInt64) (running : Cost) (record : ServerRecord) : Cost :=
  costs.add running (costs.cost (ageInSeconds now record.timestamp))

/-- The records that `AddRecordsToBudget` adds to the report. -/
def addRecordsToBudget (now : UInt64) (records : List ServerRecord) :
    List ServerRecord :=
  takeWithin (runningCost costs now) costs.overBudget costs.zero (sort.sort records)

/-- `PrepareReport`. Each of the two lists reads the current time anew. -/
def SwimServer.prepareReport (server : SwimServer) (aliveNow suspectedNow : UInt64) :
    SwimReport where
  sender := { server.self with incarnation := server.incarnation }
  alive := addRecordsToBudget costs sort aliveNow server.alive.toList
  suspected := addRecordsToBudget costs sort suspectedNow server.suspected.toList

/-- `PrepareReport` up to the point where it has copied `alive_`. -/
def SwimServer.startReport (server : SwimServer) (aliveNow : UInt64) : SwimReport where
  sender := { server.self with incarnation := server.incarnation }
  alive := addRecordsToBudget costs sort aliveNow server.alive.toList

/-- The rest of `PrepareReport`, from the copy of `suspected_` on. -/
def SwimServer.finishReport (server : SwimServer) (report : SwimReport)
    (suspectedNow : UInt64) : SwimReport :=
  { report with
    suspected := addRecordsToBudget costs sort suspectedNow server.suspected.toList }

theorem SwimServer.finishReport_startReport (server : SwimServer)
    (aliveNow suspectedNow : UInt64) :
    server.finishReport costs sort (server.startReport costs sort aliveNow) suspectedNow =
      server.prepareReport costs sort aliveNow suspectedNow := rfl

theorem mem_of_mem_addRecordsToBudget {now : UInt64} {records : List ServerRecord}
    {record : ServerRecord}
    (member : record ∈ addRecordsToBudget costs sort now records) :
    record ∈ records :=
  (sort.perm records).subset ((takeWithin_isPrefix _ _ _ _).subset member)

end Budget

def stableSort : LamportSort where
  sort records := records.insertionSort
    fun left right => right.lamportTime ≤ left.lamportTime
  perm records := List.perm_insertionSort _ records
  descending records := by
    have : Std.Total fun left right : ServerRecord =>
        right.lamportTime ≤ left.lamportTime := ⟨fun left right => by grind⟩
    have : IsTrans ServerRecord fun left right =>
        right.lamportTime ≤ left.lamportTime := ⟨fun left middle right => by grind⟩
    exact List.pairwise_insertionSort _ records

/-- The arrangement that puts `first` before the records that are as new. -/
def leadingSort (first : ServerRecord) : LamportSort where
  sort records :=
    if first ∈ records ∧ ∀ record ∈ records, record.lamportTime ≤ first.lamportTime then
      first :: stableSort.sort (records.erase first)
    else stableSort.sort records
  perm records := by
    split
    next leads =>
      exact ((stableSort.perm _).cons first).trans (List.perm_cons_erase leads.1).symm
    next => exact stableSort.perm records
  descending records := by
    split
    next leads =>
      refine List.pairwise_cons.mpr ⟨?_, stableSort.descending _⟩
      intro record member
      exact leads.2 record (List.mem_of_mem_erase ((stableSort.perm _).subset member))
    next => exact stableSort.descending records

theorem ageInSeconds_self (now : UInt64) : ageInSeconds now now = 0 := by
  simp [ageInSeconds]

theorem mem_addRecordsToBudget_of_newest {Cost : Type} {costs : CostArithmetic Cost}
    (affordable : costs.overBudget (costs.add costs.zero (costs.cost 0)) = false)
    {records : List ServerRecord} {record : ServerRecord} (member : record ∈ records)
    (newest : ∀ other ∈ records, other.lamportTime ≤ record.lamportTime) :
    record ∈ addRecordsToBudget costs (leadingSort record) record.timestamp records := by
  have leads : (leadingSort record).sort records =
      record :: stableSort.sort (records.erase record) := if_pos ⟨member, newest⟩
  simp [addRecordsToBudget, leads, takeWithin, runningCost, ageInSeconds_self, affordable]

end Gossip
