import Gossip.Semantics.Primitives
import Mathlib.Algebra.Ring.Int.Defs

/-! # Eviction of suspects

`GarbageCollectSuspected` is meant to go through the set of suspects and evict
those whose grace period is over. It goes through the suspects of a report
instead, which stops where the budget of the report does. -/

namespace Gossip

open Foundation SwimServer

/-! ## The loop over the report -/

def removal (seconds : Server → UInt64) (record : ServerRecord) : Callback where
  subject := record.key
  record := some (makeRecord record.server (seconds record.server))
  status := .removed

def olderThan (expired : UInt64) (records : List ServerRecord) : List ServerRecord :=
  records.filter fun record => record.timestamp < expired

theorem olderThan_cons_of_old {expired : UInt64} {record : ServerRecord}
    (old : record.timestamp < expired) (records : List ServerRecord) :
    olderThan expired (record :: records) = record :: olderThan expired records := by
  simp [olderThan, old]

theorem olderThan_cons_of_young {expired : UInt64} {record : ServerRecord}
    (young : ¬ record.timestamp < expired) (records : List ServerRecord) :
    olderThan expired (record :: records) = olderThan expired records := by
  simp [olderThan, young]

theorem mem_olderThan {expired : UInt64} {records : List ServerRecord}
    {record : ServerRecord} :
    record ∈ olderThan expired records ↔
      record ∈ records ∧ record.timestamp < expired := by
  simp [olderThan]

namespace SwimServer

theorem removeSuspected_callbacks {server : SwimServer} {removed : Server}
    (enabled : server.statusCb = true) (known : server.suspected.contains removed.key)
    (seconds : UInt64) :
    (server.removeSuspected removed .evicted seconds).callbacks =
      server.callbacks ++
        [{ subject := removed.key
           record := some (makeRecord removed seconds)
           status := .removed }] := by
  simp [removeSuspected, known, notify, enabled]

theorem find?_suspected_removeSuspected (server : SwimServer) (removed : Server)
    (removeType : RemoveType) (seconds : UInt64) (key : Key) :
    (server.removeSuspected removed removeType seconds).suspected.find? key =
      if removed.key = key then none else server.suspected.find? key := by
  rw [← entry_suspected, entry_removeSuspected]
  split <;> simp

end SwimServer

namespace GossipFailureDetector

variable {expired : UInt64} {seconds : Server → UInt64}

theorem collectSuspects_alive (server : SwimServer) (records : List ServerRecord) :
    (records.foldl (collectSuspect expired seconds) server).alive = server.alive := by
  induction records generalizing server with
  | nil => rfl
  | cons record records induction =>
      rw [List.foldl_cons, induction, collectSuspect]
      split <;> simp

theorem find?_collectSuspects (server : SwimServer) (records : List ServerRecord)
    (key : Key) :
    (records.foldl (collectSuspect expired seconds) server).suspected.find? key =
      if key ∈ (olderThan expired records).map ServerRecord.key then none
      else server.suspected.find? key := by
  induction records generalizing server with
  | nil => simp [olderThan]
  | cons record records induction =>
      rw [List.foldl_cons, induction]
      by_cases old : record.timestamp < expired
      · rw [collectSuspect, if_pos old, olderThan_cons_of_old old,
          find?_suspected_removeSuspected, ServerRecord.server_key, List.map_cons]
        by_cases equal : record.key = key
        · simp [equal]
        · simp [List.mem_cons, Ne.symm equal, equal]
      · rw [collectSuspect, if_neg old, olderThan_cons_of_young old]

/-- Every old record that is met is announced once: the servers are different,
and each is still suspected when its turn comes. -/
theorem callbacks_collectSuspects {server : SwimServer} (enabled : server.statusCb = true)
    {records : List ServerRecord} (distinct : (records.map ServerRecord.key).Nodup)
    (known : ∀ record ∈ records, server.suspected.contains record.key) :
    (records.foldl (collectSuspect expired seconds) server).callbacks =
      server.callbacks ++ (olderThan expired records).map (removal seconds) := by
  induction records generalizing server with
  | nil => simp [olderThan]
  | cons record records induction =>
      rw [List.map_cons, List.nodup_cons] at distinct
      rw [List.forall_mem_cons] at known
      rw [List.foldl_cons]
      by_cases old : record.timestamp < expired
      · rw [collectSuspect, if_pos old, induction]
        · rw [removeSuspected_callbacks enabled known.1, olderThan_cons_of_old old]
          simp [removal]
        · simpa using enabled
        · exact distinct.2
        · intro other member
          have different : record.key ≠ other.key := fun equal =>
            distinct.1 (equal ▸ List.mem_map_of_mem member)
          simpa [OrderedSet.contains, find?_suspected_removeSuspected, different] using
            known.2 other member
      · rw [collectSuspect, if_neg old, induction enabled distinct.2 known.2,
          olderThan_cons_of_young old]

/-! ## Exact eviction -/

/-- By the time `now` the grace period of a suspect is over. -/
def Expired (detector : GossipFailureDetector) (now : UInt64) (record : ServerRecord) :
    Prop :=
  (record.timestamp.toNat : Int) < now.toNat - detector.gracePeriod.toInt

instance (detector : GossipFailureDetector) (now : UInt64) (record : ServerRecord) :
    Decidable (detector.Expired now record) :=
  inferInstanceAs (Decidable (_ < _))

/-- The code takes the difference in 64 bits. Only a negative grace period makes it
too large for them. -/
def BelowCutoff (detector : GossipFailureDetector) (now : UInt64)
    (record : ServerRecord) : Prop :=
  (record.timestamp.toNat : Int) < (now.toNat - detector.gracePeriod.toInt) % 2 ^ 64

theorem lt_expiredTime_iff (detector : GossipFailureDetector) (now : UInt64)
    (record : ServerRecord) :
    record.timestamp < detector.expiredTime now ↔ detector.BelowCutoff now record := by
  have signed : detector.gracePeriod.toInt =
      if 2 * detector.gracePeriod.toUInt64.toNat < 2 ^ 64 then
        (detector.gracePeriod.toUInt64.toNat : Int)
      else detector.gracePeriod.toUInt64.toNat - 2 ^ 64 := by
    exact BitVec.toInt_eq_toNat_cond _
  have difference : (detector.expiredTime now).toNat =
      (2 ^ 64 - detector.gracePeriod.toUInt64.toNat + now.toNat) % 2 ^ 64 := by
    exact UInt64.toNat_sub _ _
  have graceBound := detector.gracePeriod.toUInt64.toNat_lt
  have nowBound := now.toNat_lt
  rw [BelowCutoff, UInt64.lt_iff_toNat_lt, difference]
  split at signed <;> omega

theorem expired_of_belowCutoff {detector : GossipFailureDetector} {now : UInt64}
    (elapsed : detector.gracePeriod.toInt ≤ now.toNat) {record : ServerRecord}
    (below : detector.BelowCutoff now record) : detector.Expired now record := by
  unfold BelowCutoff at below
  unfold Expired
  omega

/-- What a collection at `now` is to do: the suspects whose grace period is over
leave the set, with one callback each, and nothing else happens. -/
structure EvictsExactly (before after : GossipFailureDetector) (now : UInt64)
    (seconds : Server → UInt64) : Prop where
  suspected : ∀ record, record ∈ after.server.suspected.toList ↔
    record ∈ before.server.suspected.toList ∧ ¬ before.Expired now record
  alive : after.server.alive = before.server.alive
  callbacks : ∃ fired, after.server.callbacks = before.server.callbacks ++ fired ∧
    fired.Perm ((before.server.suspected.toList.filter
      fun record => before.Expired now record).map (removal seconds))

section Collection

variable {Cost : Type} (costs : CostArithmetic Cost) (sort : LamportSort)

/-- The record comes early enough in the report: the cost of the suspects from
the newest one down to it is within the budget. -/
def WithinBudget (server : SwimServer) (now : UInt64) (record : ServerRecord) : Prop :=
  ∃ newer older, sort.sort server.suspected.toList = newer ++ record :: older ∧
    fitsWithin (runningCost costs now) costs.overBudget costs.zero
      (newer ++ [record]) = true

theorem nodup_addRecordsToBudget (now : UInt64) (set : ServerRecordsSet) :
    ((addRecordsToBudget costs sort now set.toList).map ServerRecord.key).Nodup := by
  have sorted : ((sort.sort set.toList).map ServerRecord.key).Nodup :=
    ((sort.perm set.toList).map ServerRecord.key).nodup_iff.mpr set.nodup_keys
  exact sorted.sublist ((takeWithin_isPrefix _ _ _ _).sublist.map _)

theorem mem_addRecordsToBudget_iff (server : SwimServer) (now : UInt64)
    (record : ServerRecord) :
    record ∈ addRecordsToBudget costs sort now server.suspected.toList ↔
      WithinBudget costs sort server now record :=
  mem_takeWithin_iff _ _ _ _ _

theorem mem_suspected_garbageCollectSuspected (detector : GossipFailureDetector)
    (aliveNow suspectedNow now : UInt64) (seconds : Server → UInt64)
    (record : ServerRecord) :
    record ∈ (detector.garbageCollectSuspected costs sort aliveNow suspectedNow now
        seconds).server.suspected.toList ↔
      record ∈ detector.server.suspected.toList ∧
        record ∉ olderThan (detector.expiredTime now)
          (addRecordsToBudget costs sort suspectedNow
            detector.server.suspected.toList) := by
  rw [OrderedSet.mem_toList_iff, OrderedSet.mem_toList_iff]
  simp only [garbageCollectSuspected, prepareReport, find?_collectSuspects]
  constructor
  · intro found
    split at found
    next => cases found
    next kept => exact ⟨found, fun removed => kept (List.mem_map_of_mem removed)⟩
  · rintro ⟨found, kept⟩
    rw [if_neg]
    · exact found
    · -- A record that is reported under the key of this one is this one.
      rintro removed
      rcases List.mem_map.mp removed with ⟨other, member, sameKey⟩
      have stored := OrderedSet.find?_of_mem
        (mem_of_mem_addRecordsToBudget costs sort (mem_olderThan.mp member).1)
      rw [sameKey, found, Option.some.injEq] at stored
      exact kept (stored ▸ member)

theorem olderThan_report_perm {detector : GossipFailureDetector} {now : UInt64}
    (elapsed : detector.gracePeriod.toInt ≤ now.toNat)
    (within : ∀ record ∈ detector.server.suspected.toList, detector.Expired now record →
      WithinBudget costs sort detector.server now record ∧
        detector.BelowCutoff now record) :
    (olderThan (detector.expiredTime now)
      (addRecordsToBudget costs sort now detector.server.suspected.toList)).Perm
        (detector.server.suspected.toList.filter
          fun record => detector.Expired now record) := by
  have reported : (addRecordsToBudget costs sort now
      detector.server.suspected.toList).Nodup :=
    (nodup_addRecordsToBudget costs sort now detector.server.suspected).of_map _
  have stored := detector.server.suspected.nodup_toList
  apply (List.perm_ext_iff_of_nodup (reported.filter _) (stored.filter _)).mpr
  intro record
  rw [← olderThan, mem_olderThan, List.mem_filter, decide_eq_true_eq, lt_expiredTime_iff]
  constructor
  · rintro ⟨member, below⟩
    exact ⟨mem_of_mem_addRecordsToBudget costs sort member,
      expired_of_belowCutoff elapsed below⟩
  · rintro ⟨member, expired⟩
    rcases within record member expired with ⟨within, below⟩
    exact ⟨(mem_addRecordsToBudget_iff costs sort _ _ _).mpr within, below⟩

/-- A collection at `now` is exact if and only if all suspects whose grace period
is over come within the budget of the report, and below the cutoff in 64 bits. -/
theorem eviction_exact_iff_within_budget (detector : GossipFailureDetector)
    (now : UInt64) (seconds : Server → UInt64)
    (enabled : detector.server.statusCb = true)
    (elapsed : detector.gracePeriod.toInt ≤ now.toNat) :
    EvictsExactly detector
        (detector.garbageCollectSuspected costs sort now now now seconds) now seconds ↔
      ∀ record ∈ detector.server.suspected.toList, detector.Expired now record →
        WithinBudget costs sort detector.server now record ∧
          detector.BelowCutoff now record := by
  have suspected := mem_suspected_garbageCollectSuspected costs sort detector now now now
    seconds
  simp only [mem_olderThan, mem_addRecordsToBudget_iff, lt_expiredTime_iff] at suspected
  constructor
  · intro evicts record member expired
    by_contra remains
    have kept := (suspected record).mpr ⟨member, remains⟩
    exact ((evicts.suspected record).mp kept).2 expired
  · intro within
    constructor
    · intro record
      rw [suspected]
      constructor
      · rintro ⟨member, kept⟩
        exact ⟨member, fun expired => kept (within record member expired)⟩
      · rintro ⟨member, unexpired⟩
        exact ⟨member, fun removed => unexpired (expired_of_belowCutoff elapsed removed.2)⟩
    · exact collectSuspects_alive _ _
    · refine ⟨_, callbacks_collectSuspects enabled
        (nodup_addRecordsToBudget costs sort now detector.server.suspected) ?_,
        (olderThan_report_perm costs sort elapsed within).map _⟩
      intro record member
      exact OrderedSet.contains_iff.mpr ⟨record, OrderedSet.find?_of_mem
        (mem_of_mem_addRecordsToBudget costs sort member)⟩

end Collection

theorem eviction_exact_for_young_suspect :
    let peer : Server := { hostname := "peer", port := 9001 }
    let detector := (create ⟨"node", fun _ => "10.0.0.1"⟩ "" true 9000 1000 6 3).addNeighbor
      peer ⟨false, 5000⟩
    (detector.server.suspected.toList.map ServerRecord.key = [peer.key]) ∧
      EvictsExactly detector
        (detector.garbageCollectSuspected exactCosts stableSort 15000 15000 15000
          fun _ => 15) 15000 fun _ => 15 := by
  intro peer detector
  refine ⟨by decide +kernel, (eviction_exact_iff_within_budget exactCosts stableSort
    detector 15000 (fun _ => 15) (by decide) (by decide)).mpr ?_⟩
  intro record member _
  rw [← mem_addRecordsToBudget_iff, ← lt_expiredTime_iff]
  revert record
  decide +kernel

/-- A suspect of a thousand seconds' standing, with a grace period of one, costs
more than the budget allows. It is not reported, and so it is never evicted. -/
theorem old_suspect_is_not_evicted :
    let peer : Server := { hostname := "peer", port := 9001 }
    let detector := (create ⟨"node", fun _ => "10.0.0.1"⟩ "" true 9000 1000 6 3).addNeighbor
      peer ⟨false, 5000⟩
    let after := detector.garbageCollectSuspected exactCosts stableSort 1005000 1005000
      1005000 fun _ => 1005
    detector.server.statusCb = true ∧
      (∀ record ∈ detector.server.suspected.toList, detector.Expired 1005000 record) ∧
      after.server.suspected.toList = detector.server.suspected.toList ∧
      after.server.suspected.toList ≠ [] ∧
      ¬ EvictsExactly detector after 1005000 fun _ => 1005 := by
  intro peer detector after
  have expired : ∀ record ∈ after.server.suspected.toList,
      detector.Expired 1005000 record := by decide +kernel
  refine ⟨by decide, by decide +kernel, by decide +kernel, by decide +kernel,
    fun evicts => ?_⟩
  have member : stampedRecord 0 peer 5000 ∈ after.server.suspected.toList := by
    decide +kernel
  exact ((evicts.suspected _).mp member).2 (expired _ member)

end GossipFailureDetector

end Gossip
