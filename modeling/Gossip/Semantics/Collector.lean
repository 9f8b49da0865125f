import Gossip.Semantics.Threads

/-! # Collections as threads

`GarbageCollectSuspected` copies the suspects in one critical section and erases those that
have expired in one section each, by their keys. Other operations can run in between. -/

namespace Gossip

open Foundation SwimServer

/-- A call of `GarbageCollectSuspected`, with the times that it reads. `expired` is
`expiredTime`. -/
structure Collection where
  expired : UInt64
  sort : LamportSort
  suspectedNow : UInt64
  seconds : Server → UInt64

inductive CollectorPhase
  /-- The two sections of `PrepareReport`. -/
  | copyAlive
  | copySuspected
  | collect (suspects : List ServerRecord)
  | fire (callback : Callback) (suspects : List ServerRecord)

structure Collector where
  collection : Collection
  phase : CollectorPhase := .copyAlive

namespace Collector

def remaining (collector : Collector) : List ServerRecord :=
  match collector.phase with
  | .copyAlive | .copySuspected => []
  | .collect suspects | .fire _ suspects => suspects

def erases? (collector : Collector) : Option Key :=
  match collector.phase with
  | .collect (record :: _) =>
      if record.timestamp < collector.collection.expired then some record.key else none
  | _ => none

variable {Cost : Type} (costs : CostArithmetic Cost)

def collect (server : SwimServer) (collection : Collection) (record : ServerRecord)
    (rest : List ServerRecord) : SwimServer × CollectorPhase :=
  if record.timestamp < collection.expired then
    ({ server with suspected := server.suspected.erase record.key },
      if server.suspected.contains record.key then
        .fire
          { subject := record.key
            record := some (makeRecord record.server (collection.seconds record.server))
            status := .removed }
          rest
      else .collect rest)
  else (server, .collect rest)

def exec (server : SwimServer) (collector : Collector) : SwimServer × Collector :=
  let (server, phase) : SwimServer × CollectorPhase :=
    match collector.phase with
    | .copyAlive => (server, .copySuspected)
    | .copySuspected =>
        (server, .collect (addRecordsToBudget costs collector.collection.sort
          collector.collection.suspectedNow server.suspected.toList))
    | .collect [] => (server, .collect [])
    | .collect (record :: rest) => collect server collector.collection record rest
    | .fire callback rest => (server.notify callback, .collect rest)
  (server, { collector with phase := phase })

/-! ## A collection that runs alone -/

inductive Finishes : SwimServer → Collector → SwimServer → Prop
  | done (server : SwimServer) (collection : Collection) :
      Finishes server ⟨collection, .collect []⟩ server
  | step {server after : SwimServer} {collector : Collector}
      (rest : Finishes (exec costs server collector).1 (exec costs server collector).2 after) :
      Finishes server collector after

theorem finishes_collect (server : SwimServer) (collection : Collection)
    (suspects : List ServerRecord) :
    Finishes costs server ⟨collection, .collect suspects⟩
      (suspects.foldl
        (GossipFailureDetector.collectSuspect collection.expired collection.seconds)
        server) := by
  induction suspects generalizing server with
  | nil => exact .done server collection
  | cons record rest induction =>
      apply Finishes.step
      rw [List.foldl_cons, GossipFailureDetector.collectSuspect]
      by_cases expired : record.timestamp < collection.expired
      · by_cases known : server.suspected.contains record.key = true
        · simp only [exec, collect, expired, known, if_true]
          apply Finishes.step
          simpa [exec, removeSuspected, known] using induction _
        · simp only [exec, collect, expired, known, if_true]
          simpa [removeSuspected, known] using induction _
      · simp only [exec, collect, expired, if_false]
        exact induction server

theorem finishes_garbageCollectSuspected (detector : GossipFailureDetector)
    (sort : LamportSort) (aliveNow suspectedNow now : UInt64) (seconds : Server → UInt64) :
    Finishes costs detector.server
      { collection := ⟨detector.expiredTime now, sort, suspectedNow, seconds⟩ }
      (detector.garbageCollectSuspected costs sort aliveNow suspectedNow now
        seconds).server := by
  apply Finishes.step
  apply Finishes.step
  exact finishes_collect costs detector.server _ _

end Collector

/-! ## Collections among other operations -/

structure Eviction where
  record : ServerRecord
  expired : UInt64
deriving DecidableEq

structure Watched where
  server : SwimServer
  evictions : List Eviction := []

inductive Worker
  | operation (thread : Thread)
  | collection (collector : Collector)

inductive Job
  | operation (called : ServerOperation)
  | collect (collection : Collection)

def Job.worker : Job → Worker
  | .operation called => .operation called.thread
  | .collect collection => .collection { collection := collection }

section Workers

variable {Cost : Type} (costs : CostArithmetic Cost)

def Worker.exec (watched : Watched) : Worker → Watched × Worker
  | .operation thread =>
      let (server, next) := thread.exec watched.server
      ({ watched with server := server }, .operation next)
  | .collection collector =>
      let (server, next) := collector.exec costs watched.server
      ({ server := server
         evictions := watched.evictions ++
           ((collector.erases?.bind watched.server.suspected.find?).toList.map
             fun record => ⟨record, collector.collection.expired⟩) },
        .collection next)

/-- Operations of a server and collections of its detector, in any interleaving. -/
abbrev Workers := Pool Watched Worker

def workerMachine : Machine Workers (Decision Job) :=
  Pool.machine Job.worker (Worker.exec costs)

end Workers

def Workers.create (host : Host) (hostName : String) (port : UInt16) (statusCb : Bool) :
    Workers where
  shared := { server := .create host hostName port statusCb }
  threads := []

end Gossip
