import Gossip.Foundation.Completion
import Gossip.Semantics.Preparing

/-! # Critical sections, statement by statement

Every access to `alive_` and `suspected_` is made under `alive_mutex_` or
`suspected_mutex_`, and no section takes the other mutex. Here each section is the program
between its `mutex_guard` and the end of the block: a call to a set, a load of the Lamport
clock and an assignment to a field of a stored record are statements of their own, and
other threads can run between any two of them. -/

namespace Gossip

open Foundation SwimServer

/-- `alive_mutex_` and `suspected_mutex_`. -/
inductive ServerMutex
  | alive
  | suspected
deriving DecidableEq, Repr

structure Surroundings where
  settings : Settings
  lamportTime : UInt64
  callbacks : List Callback
  postings : List Posting

namespace SwimServer

def surroundings (server : SwimServer) : Surroundings where
  settings := server.toSettings
  lamportTime := server.lamportTime
  callbacks := server.callbacks
  postings := server.postings

def guarded (server : SwimServer) : ServerMutex → ServerRecordsSet
  | .alive => server.alive
  | .suspected => server.suspected

def setGuarded (server : SwimServer) (mutex : ServerMutex) (set : ServerRecordsSet) :
    SwimServer :=
  match mutex with
  | .alive => { server with alive := set }
  | .suspected => { server with suspected := set }

end SwimServer

def serverLayout : Layout SwimServer ServerMutex ServerRecordsSet Surroundings where
  cell := guarded
  put := setGuarded
  rest := surroundings
  cell_put server mutex set := by
    funext other
    cases mutex <;> cases other <;> rfl
  rest_put server mutex set := by cases mutex <;> rfl
  ext left right cells rest := by
    have alive := congrFun cells .alive
    have suspected := congrFun cells .suspected
    rcases left with ⟨settings, lamportTime, leftAlive, leftSuspected, callbacks, postings⟩
    rcases right
    cases rest
    cases alive
    cases suspected
    rfl

/-! ## Programs -/

abbrev SetBody (Result : Type) := Body ServerRecordsSet UInt64 Result

section Programs

variable {Result : Type}

/-- The loop of `PrepareReport` that copies a set, with the records copied so far. -/
def copyFrom (finish : List ServerRecord → Result) :
    (turns : Nat) → (records : List ServerRecord) → SetBody Result
  | 0, records => .leave (finish records)
  | turns + 1, records =>
      .read fun set =>
        match set.toList[records.length]? with
        | none => .leave (finish records)
        | some record => copyFrom finish turns (records ++ [record])

def copyRecords (finish : List ServerRecord → Result) : SetBody Result :=
  .read fun set => copyFrom finish set.toList.length []

/-- The end of both loops of `OnReport`. Between the two calls the record is in no set. -/
def raiseRecord (record : ServerRecord) (result : Result) : SetBody Result :=
  .read fun set =>
    match set.find? record.key with
    | none => .leave result
    | some found =>
        if found.server.incarnation < record.server.incarnation then
          .write (fun set => set.erase found.key)
            (.write
              (fun set =>
                (set.insert
                  { found with
                    server :=
                      { found.server with incarnation := record.server.incarnation } }).1)
              (.leave result))
        else .leave result

/-- `set_timestamp` on a stored record. -/
def setTimestamp (timestamp : UInt64) (record : ServerRecord) : ServerRecord :=
  { record with timestamp := timestamp }

theorem setTimestamp_key (timestamp : UInt64) (record : ServerRecord) :
    (setTimestamp timestamp record).key = record.key := rfl

/-- `set_lamport_time` on a stored record. -/
def setLamportTime (lamportTime : UInt64) (record : ServerRecord) : ServerRecord :=
  { record with lamportTime := lamportTime }

theorem setLamportTime_key (lamportTime : UInt64) (record : ServerRecord) :
    (setLamportTime lamportTime record).key = record.key := rfl

/-- The second section of `AddAlive`: the two times are set one after the other, and the
clock is read in between. -/
def refreshRecord (record : ServerRecord) (result : Result) : SetBody Result :=
  .read fun set =>
    match set.find? record.key with
    | none => .leave result
    | some _ =>
        .write
          (fun set => set.modify record.key (setTimestamp record.timestamp)
            (setTimestamp_key _))
          (.load fun lamportTime =>
            .write
              (fun set => set.modify record.key (setLamportTime lamportTime)
                (setLamportTime_key _))
              (.leave result))

def inspect (next : ServerRecordsSet → Result) : SetBody Result :=
  .read fun set => .leave (next set)

def call (effective : ServerRecordsSet → Bool) (change : ServerRecordsSet → ServerRecordsSet)
    (next : Bool → Result) : SetBody Result :=
  .read fun set => .write change (.leave (next (effective set)))

end Programs

def Section.body? (settings : Settings) (rest : List Section) :
    Section → Option (ServerMutex × SetBody Thread)
  | .addAlive subject timestamp =>
      if subject.port = 0 then none
      else some (.suspected, call (fun set => set.contains subject.key)
        (fun set => set.erase subject.key)
        fun _ => ⟨some (.stampAlive subject timestamp), rest⟩)
  | .removeSuspected removed removeType seconds =>
      some (.suspected, call (fun set => set.contains removed.key)
        (fun set => set.erase removed.key)
        fun found =>
          ⟨if found && removeType = .evicted then
              some (.fire
                { subject := removed.key
                  record := some (makeRecord removed seconds)
                  status := .removed })
            else none, rest⟩)
  | .eraseReturned client =>
      some (.suspected, call (fun set => set.contains client.key)
        (fun set => set.erase client.key) fun _ => ⟨none, rest⟩)
  | .checkAlive record =>
      if record.server.same settings.self then none
      else some (.suspected, inspect fun set =>
        ⟨none, (if (set.find? record.key).any
            fun found => record.lamportTime < found.lamportTime then []
          else [.addAlive record.server record.timestamp, .raiseAlive record]) ++ rest⟩)
  | .raiseAlive record => some (.alive, raiseRecord record ⟨none, rest⟩)
  | .checkSuspected _ record =>
      if record.server.same settings.self then none
      else some (.alive, inspect fun set =>
        ⟨none, (if (set.find? record.key).any
            fun found => record.lamportTime < found.lamportTime then []
          else
            [.reportSuspected record.server record.timestamp, .raiseSuspected record]) ++ rest⟩)
  | .raiseSuspected record => some (.suspected, raiseRecord record ⟨none, rest⟩)
  | .reportSuspected .. | .ping _ | .forward .. | .updateLamportTime _
  | .storeLamportTime _ => none

def Inside.body? (sections : List Section) : Inside → Option (ServerMutex × SetBody Thread)
  | .insertAlive record =>
      some (.alive, call (fun set => !set.contains record.key) (fun set => (set.insert record).1)
        fun inserted =>
          ⟨some (if inserted then
              .fire { subject := record.key, record := some record, status := .alive }
            else .refreshAlive record), sections⟩)
  | .refreshAlive record => some (.alive, refreshRecord record ⟨none, sections⟩)
  | .eraseAlive record =>
      some (.alive, call (fun set => set.contains record.key) (fun set => set.erase record.key)
        fun _ => ⟨some (.insertSuspected record), sections⟩)
  | .insertSuspected record =>
      some (.suspected, call (fun set => !set.contains record.key)
        (fun set => (set.insertMoved record).1)
        fun inserted =>
          ⟨if inserted then
              some (.fire
                { subject := record.key
                  record := if inserted then none else some record
                  status := .suspect })
            else none, sections⟩)
  | .stampAlive .. | .fire _ => none

def Thread.body? (settings : Settings) (thread : Thread) :
    Option (ServerMutex × SetBody Thread) :=
  match thread.inside, thread.sections with
  | some inside, sections => inside.body? sections
  | none, first :: rest => first.body? settings rest
  | none, [] => none

/-! ## A program that runs alone does what the section does -/

section Runs

variable {Result : Type} (time : UInt64) (set : ServerRecordsSet)

@[simp] theorem inspect_run (next : ServerRecordsSet → Result) :
    (inspect next).run time set = (set, next set) := rfl

@[simp] theorem call_run (effective : ServerRecordsSet → Bool)
    (change : ServerRecordsSet → ServerRecordsSet) (next : Bool → Result) :
    (call effective change next).run time set = (change set, next (effective set)) := rfl

theorem copyFrom_run (finish : List ServerRecord → Result) (turns : Nat)
    {records : List ServerRecord} (copied : records = set.toList.take records.length)
    (enough : set.toList.length ≤ records.length + turns) :
    (copyFrom finish turns records).run time set = (set, finish set.toList) := by
  induction turns generalizing records with
  | zero =>
      rw [List.take_of_length_le (by omega)] at copied
      rw [copied]
      rfl
  | succ turns induction =>
      simp only [copyFrom, Body.run]
      cases found : set.toList[records.length]? with
      | none =>
          rw [List.take_of_length_le (List.getElem?_eq_none_iff.mp found)] at copied
          simp only [Body.run]
          rw [copied]
      | some record =>
          apply induction
          · rw [List.length_append, List.length_singleton, List.take_add_one, found, ← copied]
            rfl
          · rw [List.length_append, List.length_singleton]
            omega

@[simp] theorem copyRecords_run (finish : List ServerRecord → Result) :
    (copyRecords finish).run time set = (set, finish set.toList) :=
  copyFrom_run time set finish _ rfl (by simp)

@[simp] theorem raiseRecord_run (record : ServerRecord) (result : Result) :
    (raiseRecord record result).run time set = (raiseIncarnation set record, result) := by
  simp only [raiseRecord, raiseIncarnation, Body.run]
  cases set.find? record.key with
  | none => rfl
  | some found =>
      dsimp only
      split <;> rfl

@[simp] theorem refreshRecord_run (record : ServerRecord) (result : Result) :
    (refreshRecord record result).run time set =
      (set.modify record.key (refreshed record.timestamp time) (refreshed_key _ _), result) := by
  simp only [refreshRecord, Body.run]
  cases found : set.find? record.key with
  | none =>
      have absent : set.modify record.key (refreshed record.timestamp time)
          (refreshed_key _ _) = set := by
        apply OrderedSet.ext_find?
        intro wanted
        rw [OrderedSet.find?_modify]
        split
        next equal => rw [← equal, found, Option.map_none]
        next => rfl
      rw [absent]
      rfl
  | some stored =>
      simp only [Body.run, Prod.mk.injEq, and_true]
      apply OrderedSet.ext_find?
      intro wanted
      simp only [OrderedSet.find?_modify]
      split
      · rw [Option.map_map]
        rfl
      · rfl

end Runs

/-! ## Tasks -/

/-- What a thread is busy with: an operation of the server, or a call of `PrepareReport`. -/
inductive Task
  | operation (thread : Thread)
  | preparation (progress : Preparation)

inductive Assignment
  | operation (called : ServerOperation)
  | prepare (aliveNow suspectedNow : UInt64)

def Assignment.task : Assignment → Task
  | .operation called => .operation called.thread
  | .prepare aliveNow suspectedNow => .preparation (.copyAlive aliveNow suspectedNow)

def Task.Done : Task → Prop
  | .operation thread => thread.Done
  | .preparation progress => progress.report?.isSome

section Tasks

variable {Cost : Type} (costs : CostArithmetic Cost) (sort : LamportSort)

/-- The sections of `PrepareReport`. The records that were copied are sorted and selected
after the mutex has been given back. -/
def Preparation.body? (settings : Settings) :
    Preparation → Option (ServerMutex × SetBody Task)
  | .copyAlive aliveNow suspectedNow =>
      some (.alive, copyRecords fun records =>
        .preparation (.copySuspected
          { sender := { settings.self with incarnation := settings.incarnation }
            alive := addRecordsToBudget costs sort aliveNow records } suspectedNow))
  | .copySuspected report suspectedNow =>
      some (.suspected, copyRecords fun records =>
        .preparation (.returned
          { report with suspected := addRecordsToBudget costs sort suspectedNow records }))
  | .returned _ => none

def Task.body? (settings : Settings) : Task → Option (ServerMutex × SetBody Task)
  | .operation thread =>
      (thread.body? settings).map fun next => (next.1, next.2.map .operation)
  | .preparation progress => progress.body? costs sort settings

def Task.exec (server : SwimServer) : Task → SwimServer × Task
  | .operation thread => ((thread.exec server).1, .operation (thread.exec server).2)
  | .preparation progress => (server, .preparation (progress.exec costs sort server))

/-! ### The programs fit the sections -/

theorem Section.body_run {server : SwimServer} {first : Section} {rest : List Section}
    {mutex : ServerMutex} {body : SetBody Thread}
    (planned : first.body? server.toSettings rest = some (mutex, body)) :
    ((first.exec server).server,
        (⟨(first.exec server).inside, (first.exec server).sections ++ rest⟩ : Thread)) =
      (server.setGuarded mutex (body.run server.lamportTime (server.guarded mutex)).1,
        (body.run server.lamportTime (server.guarded mutex)).2) := by
  cases first with
  | reportSuspected | ping | forward | updateLamportTime | storeLamportTime => cases planned
  | addAlive subject timestamp =>
      simp only [Section.body?] at planned
      split at planned
      · cases planned
      next port =>
        cases planned
        simp [Section.exec, port, setGuarded, guarded]
  | removeSuspected | eraseReturned | raiseAlive | raiseSuspected =>
      cases planned
      simp [Section.exec, setGuarded, guarded]
  | checkAlive record =>
      simp only [Section.body?] at planned
      split at planned
      · cases planned
      next other =>
        cases planned
        simp [Section.exec, other, setGuarded, guarded]
  | checkSuspected reportSender record =>
      simp only [Section.body?] at planned
      split at planned
      · cases planned
      next other =>
        cases planned
        simp [Section.exec, other, setGuarded, guarded]

theorem Inside.body_run {server : SwimServer} {inside : Inside} {sections : List Section}
    {mutex : ServerMutex} {body : SetBody Thread}
    (planned : inside.body? sections = some (mutex, body)) :
    ((inside.exec server).1, (⟨(inside.exec server).2, sections⟩ : Thread)) =
      (server.setGuarded mutex (body.run server.lamportTime (server.guarded mutex)).1,
        (body.run server.lamportTime (server.guarded mutex)).2) := by
  cases inside with
  | stampAlive | fire => cases planned
  | insertAlive | refreshAlive | eraseAlive =>
      cases planned
      simp [Inside.exec, setGuarded, guarded]
  | insertSuspected record =>
      cases planned
      cases taken : server.suspected.contains record.key <;>
        simp [Inside.exec, setGuarded, guarded, taken]

theorem Thread.body_run {server : SwimServer} {thread : Thread} {mutex : ServerMutex}
    {body : SetBody Thread}
    (planned : thread.body? server.toSettings = some (mutex, body)) :
    thread.exec server =
      (server.setGuarded mutex (body.run server.lamportTime (server.guarded mutex)).1,
        (body.run server.lamportTime (server.guarded mutex)).2) := by
  rcases thread with ⟨inside, sections⟩
  cases inside with
  | some inside => exact Inside.body_run planned
  | none =>
      cases sections with
      | nil => cases planned
      | cons first rest => exact Section.body_run planned

theorem Task.body_run {server : SwimServer} {task : Task} {mutex : ServerMutex}
    {body : SetBody Task}
    (planned : task.body? costs sort server.toSettings = some (mutex, body)) :
    task.exec costs sort server =
      (server.setGuarded mutex (body.run server.lamportTime (server.guarded mutex)).1,
        (body.run server.lamportTime (server.guarded mutex)).2) := by
  cases task with
  | operation thread =>
      rcases Option.map_eq_some_iff.mp planned with ⟨⟨mutex, own⟩, found, equal⟩
      cases equal
      rw [Body.run_map, exec, Thread.body_run found]
  | preparation progress =>
      cases progress with
      | returned => cases planned
      | copyAlive | copySuspected =>
          cases planned
          simp [exec, Preparation.exec, startReport, finishReport, setGuarded, guarded]

/-! ### The clock is read at most once in a section -/

theorem copyFrom_loadsNothing {Result : Type} (finish : List ServerRecord → Result)
    (turns : Nat) (records : List ServerRecord) :
    (copyFrom finish turns records).LoadsNothing := by
  induction turns generalizing records with
  | zero => trivial
  | succ turns induction =>
      intro set
      dsimp only
      cases set.toList[records.length]? with
      | none => trivial
      | some record => exact induction _

theorem raiseRecord_loadsNothing {Result : Type} (record : ServerRecord) (result : Result) :
    (raiseRecord record result).LoadsNothing := by
  intro set
  dsimp only
  cases set.find? record.key with
  | none => trivial
  | some found =>
      dsimp only
      split <;> trivial

theorem refreshRecord_loadsOnce {Result : Type} (record : ServerRecord) (result : Result) :
    (refreshRecord record result).LoadsOnce := by
  intro set
  dsimp only
  cases set.find? record.key with
  | none => trivial
  | some found => exact fun _ => trivial

theorem Section.body_loadsOnce {settings : Settings} {first : Section} {rest : List Section}
    {mutex : ServerMutex} {body : SetBody Thread}
    (planned : first.body? settings rest = some (mutex, body)) : body.LoadsOnce := by
  cases first with
  | reportSuspected | ping | forward | updateLamportTime | storeLamportTime => cases planned
  | removeSuspected | eraseReturned =>
      cases planned
      exact fun _ => trivial
  | raiseAlive record | raiseSuspected record =>
      cases planned
      exact (raiseRecord_loadsNothing record _).loadsOnce
  | addAlive | checkAlive | checkSuspected =>
      simp only [Section.body?] at planned
      split at planned
      · cases planned
      · cases planned
        exact fun _ => trivial

theorem Inside.body_loadsOnce {inside : Inside} {sections : List Section}
    {mutex : ServerMutex} {body : SetBody Thread}
    (planned : inside.body? sections = some (mutex, body)) : body.LoadsOnce := by
  cases inside with
  | stampAlive | fire => cases planned
  | insertAlive | eraseAlive | insertSuspected =>
      cases planned
      exact fun _ => trivial
  | refreshAlive record =>
      cases planned
      exact refreshRecord_loadsOnce record _

theorem Thread.body_loadsOnce {settings : Settings} {thread : Thread} {mutex : ServerMutex}
    {body : SetBody Thread} (planned : thread.body? settings = some (mutex, body)) :
    body.LoadsOnce := by
  rcases thread with ⟨inside, sections⟩
  cases inside with
  | some inside => exact Inside.body_loadsOnce planned
  | none =>
      cases sections with
      | nil => cases planned
      | cons first rest => exact Section.body_loadsOnce planned

theorem Task.body_loadsOnce {settings : Settings} {task : Task} {mutex : ServerMutex}
    {body : SetBody Task} (planned : task.body? costs sort settings = some (mutex, body)) :
    body.LoadsOnce := by
  cases task with
  | operation thread =>
      rcases Option.map_eq_some_iff.mp planned with ⟨⟨mutex, own⟩, found, equal⟩
      cases equal
      exact (Thread.body_loadsOnce found).map _
  | preparation progress =>
      cases progress with
      | returned => cases planned
      | copyAlive | copySuspected =>
          cases planned
          exact fun set => (copyFrom_loadsNothing _ _ _).loadsOnce

/-! ### Steps without a section -/

structure Unguarded (server : SwimServer) (thread : Thread) : Prop where
  alive : (thread.exec server).1.alive = server.alive
  suspected : (thread.exec server).1.suspected = server.suspected
  same : ∀ other : SwimServer, server.surroundings = other.surroundings →
    (thread.exec server).1.surroundings = (thread.exec other).1.surroundings ∧
      (thread.exec server).2 = (thread.exec other).2

theorem Inside.unguarded {inside : Inside} {sections : List Section}
    (free : inside.body? sections = none) (server : SwimServer) :
    Unguarded server ⟨some inside, sections⟩ := by
  cases inside with
  | insertAlive | refreshAlive | eraseAlive | insertSuspected => cases free
  | stampAlive subject timestamp =>
      refine ⟨rfl, rfl, ?_⟩
      intro other equal
      cases server
      cases other
      cases equal
      exact ⟨rfl, rfl⟩
  | fire callback =>
      refine ⟨notify_alive server callback, notify_suspected server callback, ?_⟩
      intro other equal
      cases server
      cases other
      cases equal
      refine ⟨?_, rfl⟩
      simp only [Thread.exec, Inside.exec, notify]
      split <;> rfl

theorem Section.unguarded {first : Section} {rest : List Section} {server : SwimServer}
    (free : first.body? server.toSettings rest = none) :
    Unguarded server ⟨none, first :: rest⟩ := by
  cases first with
  | removeSuspected | eraseReturned | raiseAlive | raiseSuspected => cases free
  | ping | forward | updateLamportTime | storeLamportTime =>
      refine ⟨rfl, rfl, ?_⟩
      intro other equal
      cases server
      cases other
      cases equal
      exact ⟨rfl, rfl⟩
  | addAlive subject timestamp =>
      have port : subject.port = 0 := by
        by_contra port
        simp [Section.body?, port] at free
      refine ⟨?_, ?_, ?_⟩
      · simp [Thread.exec, Section.exec, port]
      · simp [Thread.exec, Section.exec, port]
      · intro other equal
        simp [Thread.exec, Section.exec, port, equal]
  | reportSuspected subject timestamp =>
      have unchanged (server : SwimServer) :
          (Thread.exec server ⟨none, .reportSuspected subject timestamp :: rest⟩).1 =
            server := by
        simp only [Thread.exec, Section.exec]
        split
        · rfl
        · split <;> rfl
      refine ⟨by rw [unchanged], by rw [unchanged], ?_⟩
      intro other equal
      rw [unchanged, unchanged]
      refine ⟨equal, ?_⟩
      cases server
      cases other
      cases equal
      simp only [Thread.exec, Section.exec]
      split
      · rfl
      · split <;> rfl
  | checkAlive record | checkSuspected reportSender record =>
      have isSelf : record.server.same server.self = true := by
        by_contra other
        simp [Section.body?, other] at free
      refine ⟨rfl, rfl, ?_⟩
      intro other equal
      have alsoSelf : record.server.same other.self = true := by
        rwa [show other.self = server.self from congrArg (fun s => s.settings.self) equal.symm]
      simp [Thread.exec, Section.exec, isSelf, alsoSelf, equal]

theorem Thread.unguarded {thread : Thread} {server : SwimServer}
    (free : thread.body? server.toSettings = none) : Unguarded server thread := by
  rcases thread with ⟨inside, sections⟩
  cases inside with
  | some inside => exact Inside.unguarded free server
  | none =>
      cases sections with
      | nil => exact ⟨rfl, rfl, fun other equal => ⟨equal, rfl⟩⟩
      | cons first rest => exact Section.unguarded free

theorem Thread.exec_toSettings (thread : Thread) (server : SwimServer) :
    (thread.exec server).1.toSettings = server.toSettings := by
  rcases thread with ⟨inside, sections⟩
  cases inside with
  | some inside =>
      cases inside with
      | fire callback => exact notify_toSettings server callback
      | _ => rfl
  | none =>
      cases sections with
      | nil => rfl
      | cons first rest =>
          cases first with
          | addAlive | reportSuspected =>
              simp only [Thread.exec, Section.exec]
              split
              · rfl
              · first
                | rfl
                | split <;> rfl
          | _ => rfl

/-! ## The server's sections -/

def serverSections :
    Sections SwimServer ServerMutex ServerRecordsSet Surroundings UInt64 Task where
  toLayout := serverLayout
  ambient := Surroundings.lamportTime
  body? rest := Task.body? costs sort rest.settings
  exec := Task.exec costs sort
  body_stable server task := by
    have same : (task.exec costs sort server).1.toSettings = server.toSettings := by
      cases task with
      | operation thread => exact thread.exec_toSettings server
      | preparation progress => rfl
    exact congrArg (Task.body? costs sort) same
  body_loadsOnce rest task mutex body planned := Task.body_loadsOnce costs sort planned
  exec_section server task mutex body planned := Task.body_run costs sort planned
  exec_cell server task free := by
    cases task with
    | operation thread =>
        have kept := Thread.unguarded (Option.map_eq_none_iff.mp free)
        funext mutex
        cases mutex with
        | alive => exact kept.alive
        | suspected => exact kept.suspected
    | preparation progress => rfl
  exec_rest left right task free equal := by
    cases task with
    | operation thread =>
        have kept := (Thread.unguarded (Option.map_eq_none_iff.mp free)).same right equal
        exact ⟨kept.1, congrArg Task.operation kept.2⟩
    | preparation progress =>
        cases progress with
        | returned report => exact ⟨equal, rfl⟩
        | copyAlive | copySuspected => cases free

abbrev Tasks := Pool SwimServer Task

abbrev LockedTasks := Pool (Locked SwimServer ServerMutex)
  (Running ServerMutex ServerRecordsSet UInt64 Task)

def taskMachine : Machine Tasks (Decision Assignment) :=
  (serverSections costs sort).atomicMachine Assignment.task

def lockedTaskMachine : Machine LockedTasks (Decision Assignment) :=
  (serverSections costs sort).lockedMachine Assignment.task

def Tasks.create (server : SwimServer) : Tasks := ⟨server, []⟩

def LockedTasks.create (server : SwimServer) : LockedTasks := ⟨{ shared := server }, []⟩

end Tasks

end Gossip
