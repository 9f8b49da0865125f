import Gossip.Semantics.Collector

/-! # Premature evictions

A collection decides on a copy of the suspects and erases by key. What it erases has expired
as long as no server that it still has to erase is suspected anew in the meantime. -/

namespace Gossip

open Foundation SwimServer

/-- The suspect that the next step of the thread inserts, unless it is there already. -/
def Worker.inserts? : Worker → Option ServerRecord
  | .operation ⟨some (.insertSuspected record), _⟩ => some record
  | _ => none

def Worker.collector? : Worker → Option Collector
  | .operation _ => none
  | .collection collector => some collector

def Collector.pending (collector : Collector) : List Key :=
  (collector.remaining.filter
    fun record => record.timestamp < collector.collection.expired).map ServerRecord.key

def Collector.Rightful (server : SwimServer) (collector : Collector) : Prop :=
  ∀ key ∈ collector.pending, ∀ found ∈ server.suspected.find? key,
    found.timestamp < collector.collection.expired

/-! ## Threads of the server -/

def SwimServer.AsOld (server : SwimServer) (key : Key) (found : ServerRecord) : Prop :=
  ∃ before, server.suspected.find? key = some before ∧ found.timestamp = before.timestamp

theorem SwimServer.asOld_of_erase {server : SwimServer} {key erased : Key}
    {found : ServerRecord}
    (after : (server.suspected.erase erased).find? key = some found) :
    server.AsOld key found := by
  rw [OrderedSet.find?_erase] at after
  split at after
  · contradiction
  · exact ⟨found, after, rfl⟩

theorem Section.asOld_exec {server : SwimServer} {first : Section} {key : Key}
    {found : ServerRecord}
    (after : (first.exec server).server.suspected.find? key = some found) :
    server.AsOld key found := by
  cases first with
  | addAlive subject timestamp =>
      by_cases port : subject.port = 0
      · simp only [Section.exec, port, if_true] at after
        exact ⟨found, after, rfl⟩
      · simp only [Section.exec, port, if_false] at after
        exact asOld_of_erase after
  | reportSuspected subject timestamp =>
      simp only [Section.exec, apply_ite Continuation.server, ite_self] at after
      exact ⟨found, after, rfl⟩
  | removeSuspected | eraseReturned => exact asOld_of_erase after
  | raiseSuspected record =>
      simp only [Section.exec, find?_raiseIncarnation] at after
      split at after
      · rcases Option.map_eq_some_iff.mp after with ⟨before, known, rfl⟩
        exact ⟨before, known, Entry.raised_timestamp record before⟩
      · exact ⟨found, after, rfl⟩
  | checkAlive | checkSuspected | raiseAlive | ping | forward | updateLamportTime
  | storeLamportTime =>
      exact ⟨found, after, rfl⟩

theorem Thread.asOld_exec {server : SwimServer} {thread : Thread} {key : Key}
    {found : ServerRecord}
    (after : (thread.exec server).1.suspected.find? key = some found) :
    server.AsOld key found ∨
      server.suspected.contains key = false ∧ found.key = key ∧
        (Worker.operation thread).inserts? = some found := by
  rcases thread with ⟨inside, sections⟩
  cases inside with
  | none =>
      cases sections with
      | nil => exact .inl ⟨found, after, rfl⟩
      | cons first rest => exact .inl (Section.asOld_exec after)
  | some inside =>
      cases inside with
      | insertSuspected record =>
          simp only [Thread.exec, Inside.exec, OrderedSet.insertMoved_fst,
            OrderedSet.find?_insert] at after
          split at after
          next equal =>
            rcases Option.or_eq_some_iff.mp after with old | ⟨unknown, new⟩
            · exact .inl ⟨found, old, rfl⟩
            · cases new
              exact .inr ⟨by simp [OrderedSet.contains, unknown], equal, rfl⟩
          next => exact .inl ⟨found, after, rfl⟩
      | fire callback =>
          simp only [Thread.exec, Inside.exec, notify_suspected] at after
          exact .inl ⟨found, after, rfl⟩
      | stampAlive | insertAlive | refreshAlive | eraseAlive =>
          exact .inl ⟨found, after, rfl⟩

/-! ## Collections -/

namespace Collector

variable {Cost : Type} (costs : CostArithmetic Cost)

theorem asOld_exec {server : SwimServer} {collector : Collector} {key : Key}
    {found : ServerRecord}
    (after : (collector.exec costs server).1.suspected.find? key = some found) :
    server.AsOld key found := by
  rcases collector with ⟨collection, phase⟩
  match phase with
  | .copyAlive | .copySuspected | .collect [] => exact ⟨found, after, rfl⟩
  | .fire callback rest =>
      simp only [exec, notify_suspected] at after
      exact ⟨found, after, rfl⟩
  | .collect (record :: rest) =>
      by_cases expired : record.timestamp < collection.expired
      · simp only [exec, collect, expired, if_true] at after
        exact asOld_of_erase after
      · simp only [exec, collect, expired, if_false] at after
        exact ⟨found, after, rfl⟩

theorem mem_pending {collector : Collector} {key : Key} :
    key ∈ collector.pending ↔
      ∃ record ∈ collector.remaining, record.timestamp < collector.collection.expired ∧
        record.key = key := by
  simp [pending, and_assoc]

theorem mem_pending_of_erases {collector : Collector} {key : Key}
    (erases : collector.erases? = some key) : key ∈ collector.pending := by
  rcases collector with ⟨collection, phase⟩
  match phase with
  | .copyAlive | .copySuspected | .collect [] | .fire _ _ => cases erases
  | .collect (record :: rest) =>
      simp only [erases?] at erases
      split at erases
      next expired =>
        cases erases
        exact mem_pending.mpr ⟨record, List.mem_cons_self, expired, rfl⟩
      next => cases erases

theorem remaining_exec {server : SwimServer} {collector : Collector} {record : ServerRecord}
    (member : record ∈ (collector.exec costs server).2.remaining) :
    record ∈ collector.remaining ∨ record ∈ server.suspected.toList := by
  rcases collector with ⟨collection, phase⟩
  match phase with
  | .copyAlive | .collect [] | .fire _ _ => exact .inl member
  | .copySuspected => exact .inr (mem_of_mem_addRecordsToBudget costs _ member)
  | .collect (first :: rest) =>
      refine .inl (List.mem_cons_of_mem first ?_)
      simp only [exec, collect] at member
      split at member
      next => split at member <;> exact member
      next => exact member

theorem Rightful.of_asOld {server after : SwimServer} {collector : Collector}
    (rightful : collector.Rightful server)
    (asOld : ∀ key ∈ collector.pending, ∀ found ∈ after.suspected.find? key,
      server.AsOld key found ∨ found.timestamp < collector.collection.expired) :
    collector.Rightful after := by
  intro key pending found known
  rcases asOld key pending found known with ⟨before, stored, same⟩ | expired
  · rw [same]
    exact rightful key pending before stored
  · exact expired

theorem Rightful.exec {server : SwimServer} {collector : Collector}
    (rightful : collector.Rightful server) :
    (collector.exec costs server).2.Rightful (collector.exec costs server).1 := by
  intro key pending found known
  rcases mem_pending.mp pending with ⟨record, member, expired, rfl⟩
  rcases asOld_exec costs known with ⟨before, stored, same⟩
  rw [same]
  rcases remaining_exec costs member with old | copied
  · exact rightful record.key (mem_pending.mpr ⟨record, old, expired, rfl⟩) before stored
  · rw [OrderedSet.find?_of_mem copied] at stored
    cases stored
    exact expired

end Collector

/-! ## Interleavings -/

/-- No server that a collection has still to erase is suspected anew, unless this suspicion
has expired as well. -/
def Workers.Spares (pool : Workers) : Decision Job → Prop
  | .spawn _ => True
  | .advance index => ∀ record ∈ pool.threads[index]?.bind Worker.inserts?,
      pool.shared.server.suspected.contains record.key = false →
        ∀ worker ∈ pool.threads, ∀ collector ∈ worker.collector?,
          record.key ∈ collector.pending →
            record.timestamp < collector.collection.expired

instance (pool : Workers) : ∀ decision, Decidable (pool.Spares decision)
  | .spawn _ => isTrue trivial
  | .advance _ => inferInstanceAs (Decidable (∀ record ∈ _, _))

/-- Every record that a collection has erased had expired. -/
def Watched.EvictsExpired (watched : Watched) : Prop :=
  ∀ eviction ∈ watched.evictions, eviction.record.timestamp < eviction.expired

instance (watched : Watched) : Decidable watched.EvictsExpired :=
  inferInstanceAs (Decidable (∀ eviction ∈ watched.evictions, _))

def Worker.Rightful (watched : Watched) (worker : Worker) : Prop :=
  ∀ collector ∈ worker.collector?, collector.Rightful watched.server

section Runs

variable {Cost : Type} (costs : CostArithmetic Cost)

theorem Watched.EvictsExpired.exec {watched : Watched} (expired : watched.EvictsExpired)
    {worker : Worker} (rightful : worker.Rightful watched) :
    (worker.exec costs watched).1.EvictsExpired := by
  cases worker with
  | operation thread => exact expired
  | collection collector =>
      refine List.forall_mem_append.mpr ⟨expired, fun eviction member => ?_⟩
      rcases List.mem_map.mp member with ⟨record, erased, rfl⟩
      rcases Option.bind_eq_some_iff.mp (Option.mem_toList.mp erased) with
        ⟨key, erases, known⟩
      exact rightful collector rfl key (Collector.mem_pending_of_erases erases) record known

theorem Workers.rightful_exec {pool : Workers} {index : Nat} {worker : Worker}
    (rightful : ∀ worker ∈ pool.threads, worker.Rightful pool.shared)
    (present : pool.threads[index]? = some worker) (spares : pool.Spares (.advance index)) :
    (worker.exec costs pool.shared).2.Rightful (worker.exec costs pool.shared).1 ∧
      ∀ other ∈ pool.threads, other.Rightful (worker.exec costs pool.shared).1 := by
  cases worker with
  | operation thread =>
      refine ⟨fun _ absent => (Option.not_mem_none _ absent).elim, ?_⟩
      intro other member collector isCollector
      refine (rightful other member collector isCollector).of_asOld ?_
      intro key pending found known
      rcases Thread.asOld_exec known with old | ⟨unknown, rfl, inserts⟩
      · exact .inl old
      · refine .inr (spares found ?_ unknown other member collector isCollector pending)
        rw [present]
        exact inserts
  | collection own =>
      have ownRightful := rightful _ (List.mem_of_getElem? present) own rfl
      refine ⟨?_, fun other member collector isCollector => ?_⟩
      · rintro _ ⟨⟩
        exact ownRightful.exec costs
      · exact (rightful other member collector isCollector).of_asOld
          fun _ _ _ known => .inl (Collector.asOld_exec costs known)

theorem Job.worker_rightful (watched : Watched) (job : Job) :
    job.worker.Rightful watched := by
  cases job with
  | operation called =>
      intro collector absent
      cases absent
  | collect collection =>
      rintro _ ⟨⟩ key pending
      cases pending

/-- In every interleaving in which no server that a collection has still to erase is suspected
anew, what a collection erases from the suspects has expired. -/
theorem evictions_are_due (host : Host) (hostName : String) (port : UInt16) (statusCb : Bool)
    (decisions : List (Decision Job))
    (spares : (workerMachine costs).Along Workers.Spares
      (Workers.create host hostName port statusCb) decisions) :
    ((workerMachine costs).run (Workers.create host hostName port statusCb)
      decisions).shared.EvictsExpired := by
  have initially : (Workers.create host hostName port statusCb).Meets Watched.EvictsExpired
      Worker.Rightful :=
    ⟨List.forall_mem_nil _, List.forall_mem_nil _⟩
  refine ((workerMachine costs).run_invariant
    (fun pool => pool.Meets Watched.EvictsExpired Worker.Rightful) ?_ initially spares).shared
  intro pool decision meets guard
  refine meets.step Job.worker (Worker.exec costs) decision
    (fun job _ => job.worker_rightful pool.shared) ?_
  rintro index worker rfl present
  have rightful := meets.threads worker (List.mem_of_getElem? present)
  exact ⟨meets.shared.exec costs rightful,
    Workers.rightful_exec costs meets.threads present guard⟩

end Runs

theorem eviction_is_due_beside_new_suspect :
    let pool := (workerMachine exactCosts).run
      (Workers.create ⟨"node", fun _ => "10.0.0.1"⟩ "" 9000 true)
      [.spawn (.operation (.reportSuspected { hostname := "peer", port := 9001 } 10)),
        .advance 0, .advance 0, .advance 0, .advance 0,
        .spawn (.collect ⟨100, stableSort, 110, fun _ => 110⟩),
        .spawn (.operation (.reportSuspected { hostname := "other", port := 9002 } 109)),
        .advance 1, .advance 2, .advance 1, .advance 2, .advance 2, .advance 1]
    pool.shared.evictions.length = 1 ∧ pool.shared.EvictsExpired :=
  ⟨by decide +kernel,
    evictions_are_due exactCosts ⟨"node", fun _ => "10.0.0.1"⟩ "" 9000 true _
      (by decide +kernel)⟩

/-- After a collection has copied the suspects, a peer among them is heard from and suspected
again. The collection erases the new suspicion. -/
theorem new_suspicion_is_evicted :
    let pool := (workerMachine exactCosts).run
      (Workers.create ⟨"node", fun _ => "10.0.0.1"⟩ "" 9000 true)
      [.spawn (.operation (.reportSuspected { hostname := "peer", port := 9001 } 10)),
        .advance 0, .advance 0, .advance 0, .advance 0,
        .spawn (.collect ⟨100, stableSort, 110, fun _ => 110⟩),
        .advance 1, .advance 1,
        .spawn (.operation (.addAlive { hostname := "peer", port := 9001 } 111)),
        .advance 2, .advance 2, .advance 2, .advance 2,
        .spawn (.operation (.reportSuspected { hostname := "peer", port := 9001 } 112)),
        .advance 3, .advance 3, .advance 3, .advance 3,
        .advance 1]
    pool.shared.evictions.map (fun eviction =>
        (eviction.record.key, eviction.record.timestamp, eviction.expired)) =
      [(toLex ("peer", 9001), 112, 100)] ∧ ¬ pool.shared.EvictsExpired := by
  exact ⟨by decide +kernel, by decide +kernel⟩

end Gossip
