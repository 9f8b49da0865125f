import Gossip.Foundation.Noninterference
import Gossip.Semantics.CriticalSections

/-! # Operations about different servers

Operations that run at the same time and are about different servers do not get in each
other's way: whatever the interleaving of their critical sections is, the two sets end up as
if the operations had been called one after the other, in any order. -/

namespace Gossip

open Foundation SwimServer

/-! ## The servers that an operation is about -/

def Section.keys : Section → List Key
  | .addAlive subject _ | .reportSuspected subject _ | .removeSuspected subject _ _
  | .eraseReturned subject => [subject.key]
  | .checkAlive record | .raiseAlive record | .checkSuspected _ record
  | .raiseSuspected record => [record.key]
  | .ping _ | .forward .. | .updateLamportTime _ | .storeLamportTime _ => []

def Inside.key : Inside → Key
  | .stampAlive subject _ => subject.key
  | .insertAlive record | .refreshAlive record | .eraseAlive record
  | .insertSuspected record => record.key
  | .fire callback => callback.subject

def Thread.keys (thread : Thread) : List Key :=
  thread.inside.toList.map Inside.key ++ thread.sections.flatMap Section.keys

def Section.Calm (first : Section) : Prop :=
  ∀ time, first ≠ .updateLamportTime time ∧ first ≠ .storeLamportTime time

/-! ## One step, one server -/

structure Confined {Result : Type} (keys : List Key) (exec : SwimServer → SwimServer × Result) :
    Prop where
  frame : ∀ server, ∀ key ∉ keys, (exec server).1.entry key = server.entry key
  settings : ∀ server, (exec server).1.toSettings = server.toSettings
  lamportTime : ∀ server, (exec server).1.lamportTime = server.lamportTime
  result : ∀ left right : SwimServer, left.toSettings = right.toSettings →
    left.lamportTime = right.lamportTime →
    (∀ key ∈ keys, left.entry key = right.entry key) → (exec left).2 = (exec right).2
  entries : ∀ left right : SwimServer, left.toSettings = right.toSettings →
    left.lamportTime = right.lamportTime →
    (∀ key ∈ keys, left.entry key = right.entry key) →
      ∀ key ∈ keys, (exec left).1.entry key = (exec right).1.entry key

theorem Confined.mono {Result : Type} {keys more : List Key}
    {exec : SwimServer → SwimServer × Result} (confined : Confined keys exec)
    (subset : keys ⊆ more) : Confined more exec where
  frame server key absent := confined.frame server key fun member => absent (subset member)
  settings := confined.settings
  lamportTime := confined.lamportTime
  result left right sameSettings sameTime same :=
    confined.result left right sameSettings sameTime fun key member => same key (subset member)
  entries left right sameSettings sameTime same := by
    intro key member
    by_cases about : key ∈ keys
    · exact confined.entries left right sameSettings sameTime
        (fun key member => same key (subset member)) key about
    · rw [confined.frame left key about, confined.frame right key about, same key member]

theorem Confined.map {First Second : Type} {keys : List Key}
    {exec : SwimServer → SwimServer × First} (confined : Confined keys exec)
    (transform : First → Second) :
    Confined keys fun server => ((exec server).1, transform (exec server).2) where
  frame := confined.frame
  settings := confined.settings
  lamportTime := confined.lamportTime
  result left right sameSettings sameTime same :=
    congrArg transform (confined.result left right sameSettings sameTime same)
  entries := confined.entries

/-- The record that is stored in the set of a mutex. -/
def Entry.guarded (entry : Entry) : ServerMutex → Option ServerRecord
  | .alive => entry.alive
  | .suspected => entry.suspected

def Entry.setGuarded (entry : Entry) (mutex : ServerMutex) (stored : Option ServerRecord) :
    Entry :=
  match mutex with
  | .alive => { entry with alive := stored }
  | .suspected => { entry with suspected := stored }

theorem find?_guarded (server : SwimServer) (mutex : ServerMutex) (key : Key) :
    (server.guarded mutex).find? key = (server.entry key).guarded mutex := by
  cases mutex <;> rfl

theorem entry_setGuarded (server : SwimServer) (mutex : ServerMutex) (set : ServerRecordsSet)
    (key : Key) :
    (server.setGuarded mutex set).entry key =
      (server.entry key).setGuarded mutex (set.find? key) := by
  cases mutex <;> rfl

theorem Entry.setGuarded_self (entry : Entry) (mutex : ServerMutex) :
    entry.setGuarded mutex (entry.guarded mutex) = entry := by
  cases mutex <;> rfl

theorem Confined.of_guarded {Result : Type} (mutex : ServerMutex) (key : Key)
    {change : UInt64 → ServerRecordsSet → ServerRecordsSet}
    (effect : UInt64 → Option ServerRecord → Option ServerRecord)
    (changed : ∀ time set wanted, (change time set).find? wanted =
      if key = wanted then effect time (set.find? wanted) else set.find? wanted)
    (next : Settings → Option ServerRecord → Result) :
    Confined [key] fun server =>
      (server.setGuarded mutex (change server.lamportTime (server.guarded mutex)),
        next server.toSettings ((server.guarded mutex).find? key)) where
  frame server other absent := by
    have different : key ≠ other := by simpa [eq_comm] using absent
    rw [entry_setGuarded, changed, if_neg different, find?_guarded, Entry.setGuarded_self]
  settings server := by cases mutex <;> rfl
  lamportTime server := by cases mutex <;> rfl
  result left right sameSettings _ same := by
    dsimp only
    rw [find?_guarded, find?_guarded, same key (by simp), sameSettings]
  entries left right _ sameTime same := by
    intro other member
    cases List.mem_singleton.mp member
    rw [entry_setGuarded, entry_setGuarded, changed, changed, if_pos rfl, if_pos rfl,
      find?_guarded, find?_guarded, sameTime, same key member]

theorem Confined.quiet {Result : Type} (keys : List Key) (act : SwimServer → SwimServer)
    (entry : ∀ server key, (act server).entry key = server.entry key)
    (settings : ∀ server, (act server).toSettings = server.toSettings)
    (lamportTime : ∀ server, (act server).lamportTime = server.lamportTime)
    (next : Settings → UInt64 → Result) :
    Confined keys fun server => (act server, next server.toSettings server.lamportTime) where
  frame server key _ := entry server key
  settings := settings
  lamportTime := lamportTime
  result left right sameSettings sameTime _ := by
    dsimp only
    rw [sameSettings, sameTime]
  entries left right _ _ same := by
    intro key member
    rw [entry, entry, same key member]

theorem Confined.idle {Result : Type} (keys : List Key) (next : Settings → UInt64 → Result) :
    Confined keys fun server => (server, next server.toSettings server.lamportTime) :=
  .quiet keys id (fun _ _ => rfl) (fun _ => rfl) (fun _ => rfl) next

theorem Inside.confined (inside : Inside) :
    Confined [inside.key] fun server => inside.exec server := by
  cases inside with
  | stampAlive subject timestamp =>
      exact .idle [subject.key] fun _ time =>
        some (Inside.insertAlive (stampedRecord time subject timestamp))
  | insertAlive record =>
      exact .of_guarded .alive record.key (fun _ stored => stored.or (some record))
        (fun _ set wanted => set.find?_insert record wanted)
        fun _ stored => some (if !stored.isSome then
          Inside.fire { subject := record.key, record := some record, status := .alive }
        else Inside.refreshAlive record)
  | refreshAlive record =>
      exact .of_guarded .alive record.key
        (fun time stored => stored.map (refreshed record.timestamp time))
        (fun _ set wanted => set.find?_modify record.key wanted _ (refreshed_key _ _))
        fun _ _ => none
  | eraseAlive record =>
      exact .of_guarded .alive record.key (fun _ _ => none)
        (fun _ set wanted => set.find?_erase record.key wanted)
        fun _ _ => some (Inside.insertSuspected record)
  | insertSuspected record =>
      exact .of_guarded .suspected record.key (fun _ stored => stored.or (some record))
        (fun _ set wanted => set.find?_insert record wanted)
        fun _ stored => if !stored.isSome then
          some (Inside.fire
            { subject := record.key
              record := if !stored.isSome then none else some record
              status := .suspect })
        else none
  | fire callback =>
      refine ⟨?_, ?_, ?_, ?_, ?_⟩
      · intro server other absent
        have different : callback.subject ≠ other := by simpa [key, eq_comm] using absent
        simp [exec, entry_notify, different]
      · intro server
        exact notify_toSettings server callback
      · intro server
        exact notify_lamportTime server callback
      · intro left right _ _ _
        rfl
      · intro left right sameSettings _ same other member
        cases List.mem_singleton.mp member
        have entries := same callback.subject member
        simp [exec, key, entry_notify, entries, sameSettings]

/-- What a section leads to, as the thread that goes on from there. -/
def Section.step (rest : List Section) (first : Section) (server : SwimServer) :
    SwimServer × Thread :=
  ((first.exec server).server,
    ⟨(first.exec server).inside, (first.exec server).sections ++ rest⟩)

theorem Section.confined (rest : List Section) {first : Section} (calm : first.Calm) :
    Confined first.keys (first.step rest) := by
  cases first with
  | updateLamportTime time => exact absurd rfl (calm time).1
  | storeLamportTime time => exact absurd rfl (calm time).2
  | addAlive subject timestamp =>
      by_cases port : subject.port = 0
      · have skipped : (Section.addAlive subject timestamp).step rest =
            fun server => (server, ⟨none, [] ++ rest⟩) := by
          funext server
          simp [step, exec, port]
        rw [skipped]
        exact .idle _ fun _ _ => (⟨none, [] ++ rest⟩ : Thread)
      · have entered : (Section.addAlive subject timestamp).step rest = fun server =>
            ({ server with suspected := server.suspected.erase subject.key },
              ⟨some (.stampAlive subject timestamp), [] ++ rest⟩) := by
          funext server
          simp [step, exec, port]
        rw [entered]
        exact .of_guarded .suspected subject.key (fun _ _ => none)
          (fun _ set wanted => set.find?_erase subject.key wanted)
          fun _ _ => (⟨some (.stampAlive subject timestamp), [] ++ rest⟩ : Thread)
  | reportSuspected subject timestamp =>
      have chosen : (Section.reportSuspected subject timestamp).step rest = fun server =>
          (server,
            if subject.port = 0 then ⟨none, [] ++ rest⟩
            else if subject.same server.toSettings.self then
              ⟨none, [.addAlive subject timestamp] ++ rest⟩
            else ⟨some (.eraseAlive
              (stampedRecord server.lamportTime subject timestamp)), [] ++ rest⟩) := by
        funext server
        simp only [step, exec]
        split
        · rfl
        · split <;> rfl
      rw [chosen]
      exact .idle _ fun settings time =>
        if subject.port = 0 then (⟨none, [] ++ rest⟩ : Thread)
        else if subject.same settings.self then ⟨none, [.addAlive subject timestamp] ++ rest⟩
        else ⟨some (.eraseAlive (stampedRecord time subject timestamp)), [] ++ rest⟩
  | removeSuspected removed removeType seconds =>
      exact .of_guarded .suspected removed.key (fun _ _ => none)
        (fun _ set wanted => set.find?_erase removed.key wanted)
        fun _ stored =>
          (⟨if stored.isSome && removeType = .evicted then
              some (Inside.fire
                { subject := removed.key
                  record := some (makeRecord removed seconds)
                  status := .removed })
            else none, [] ++ rest⟩ : Thread)
  | eraseReturned client =>
      exact .of_guarded .suspected client.key (fun _ _ => none)
        (fun _ set wanted => set.find?_erase client.key wanted)
        fun _ _ => (⟨none, [] ++ rest⟩ : Thread)
  | checkAlive record =>
      exact .of_guarded .suspected record.key (fun _ stored => stored)
        (fun _ _ _ => (ite_self _).symm)
        fun settings stored =>
          (⟨none, (if record.server.same settings.self then []
            else if stored.any fun found => record.lamportTime < found.lamportTime then []
            else [.addAlive record.server record.timestamp, .raiseAlive record]) ++ rest⟩ :
              Thread)
  | raiseAlive record =>
      exact .of_guarded .alive record.key (fun _ stored => stored.map (Entry.raised record))
        (fun _ set wanted => find?_raiseIncarnation set record wanted)
        fun _ _ => (⟨none, [] ++ rest⟩ : Thread)
  | checkSuspected reportSender record =>
      exact .of_guarded .alive record.key (fun _ stored => stored)
        (fun _ _ _ => (ite_self _).symm)
        fun settings stored =>
          (⟨none, (if record.server.same settings.self then [.ping reportSender]
            else if stored.any fun found => record.lamportTime < found.lamportTime then []
            else [.reportSuspected record.server record.timestamp, .raiseSuspected record]) ++
              rest⟩ : Thread)
  | raiseSuspected record =>
      exact .of_guarded .suspected record.key
        (fun _ stored => stored.map (Entry.raised record))
        (fun _ set wanted => find?_raiseIncarnation set record wanted)
        fun _ _ => (⟨none, [] ++ rest⟩ : Thread)
  | ping dest =>
      exact .quiet [] (fun server => server.post (server.client dest).ping.2)
        (fun _ _ => rfl) (fun _ => rfl) (fun _ => rfl)
        fun _ _ => (⟨none, [] ++ rest⟩ : Thread)
  | forward sender destination seconds =>
      exact .quiet []
        (fun server => server.post ((server.client destination).send
          { sender := sender, suspected := [makeRecord destination seconds] }).2)
        (fun _ _ => rfl) (fun _ => rfl) (fun _ => rfl)
        fun _ _ => (⟨none, [] ++ rest⟩ : Thread)

/-! ## Threads -/

def Thread.Calm (thread : Thread) : Prop := ∀ first ∈ thread.sections, first.Calm

theorem Thread.confined {thread : Thread} (calm : thread.Calm) :
    Confined thread.keys fun server => thread.exec server := by
  rcases thread with ⟨inside, sections⟩
  cases inside with
  | some inside =>
      apply ((inside.confined).map fun next => (⟨next, sections⟩ : Thread)).mono
      exact List.subset_append_left _ _
  | none =>
      cases sections with
      | nil => exact .idle _ fun _ _ => (⟨none, []⟩ : Thread)
      | cons first rest =>
          apply (Section.confined rest (calm first (by simp))).mono
          exact List.subset_append_left _ _

theorem Inside.key_exec {server : SwimServer} {inside next : Inside}
    (goesOn : (inside.exec server).2 = some next) : next.key = inside.key := by
  cases inside with
  | stampAlive | eraseAlive =>
      cases goesOn
      rfl
  | refreshAlive | fire => cases goesOn
  | insertAlive record =>
      simp only [exec, Option.some.injEq] at goesOn
      subst goesOn
      split <;> rfl
  | insertSuspected record =>
      simp only [exec] at goesOn
      split at goesOn
      · cases goesOn
        rfl
      · cases goesOn

theorem Section.inside_exec {server : SwimServer} {first : Section} {inside : Inside}
    (entered : (first.exec server).inside = some inside) : first.keys = [inside.key] := by
  cases first with
  | eraseReturned | checkAlive | raiseAlive | checkSuspected | raiseSuspected | ping | forward
  | updateLamportTime | storeLamportTime => cases entered
  | addAlive subject timestamp =>
      simp only [exec] at entered
      split at entered
      · cases entered
      · cases entered
        rfl
  | reportSuspected subject timestamp =>
      simp only [exec] at entered
      split at entered
      · cases entered
      · split at entered
        · cases entered
        · cases entered
          rfl
  | removeSuspected removed removeType seconds =>
      simp only [exec] at entered
      split at entered
      · cases entered
        rfl
      · cases entered

theorem Section.sections_exec (server : SwimServer) (first : Section) :
    ∀ next ∈ (first.exec server).sections,
      (first.Calm → next.Calm) ∧ next.keys ⊆ first.keys := by
  cases first with
  | addAlive subject timestamp =>
      simp only [exec]
      split <;> simp
  | reportSuspected subject timestamp =>
      simp only [exec]
      split
      · simp
      · split
        · simp [Calm, keys]
        · simp
  | checkAlive record =>
      simp only [exec]
      split
      · simp
      · split <;> simp [Calm, keys]
  | checkSuspected reportSender record =>
      simp only [exec]
      split
      · simp [Calm, keys]
      · split <;> simp [Calm, keys]
  | updateLamportTime time => simp [exec, Calm, keys]
  | removeSuspected | eraseReturned | raiseAlive | raiseSuspected | ping | forward
  | storeLamportTime => simp [exec]

theorem Thread.calm_exec {server : SwimServer} {thread : Thread} (calm : thread.Calm) :
    (thread.exec server).2.Calm := by
  rcases thread with ⟨inside, sections⟩
  cases inside with
  | some inside => exact calm
  | none =>
      cases sections with
      | nil => exact calm
      | cons first rest =>
          intro next member
          rcases List.mem_append.mp member with new | old
          · exact (Section.sections_exec server first next new).1 (calm first List.mem_cons_self)
          · exact calm next (List.mem_cons_of_mem _ old)

theorem Thread.keys_exec (server : SwimServer) (thread : Thread) :
    (thread.exec server).2.keys ⊆ thread.keys := by
  intro key member
  rcases thread with ⟨inside, sections⟩
  cases inside with
  | some inside =>
      rcases List.mem_append.mp member with here | later
      · rcases List.mem_map.mp here with ⟨next, goesOn, rfl⟩
        rw [Inside.key_exec (Option.mem_toList.mp goesOn)]
        simp [keys]
      · exact List.mem_append_right _ later
  | none =>
      cases sections with
      | nil => exact member
      | cons first rest =>
          rcases List.mem_append.mp member with here | later
          · rcases List.mem_map.mp here with ⟨next, entered, rfl⟩
            have about := Section.inside_exec (Option.mem_toList.mp entered)
            simp [keys, about]
          · rcases List.mem_flatMap.mp later with ⟨next, stands, touched⟩
            apply List.mem_flatMap.mpr
            rcases List.mem_append.mp stands with new | old
            · exact ⟨first, by simp, (Section.sections_exec server first next new).2 touched⟩
            · exact ⟨next, List.mem_cons_of_mem _ old, touched⟩

/-! ## Interleavings -/

def threadFootprints : Footprints SwimServer Thread Key Entry (Settings × UInt64) where
  exec := Thread.exec
  view := entry
  ambient server := (server.toSettings, server.lamportTime)
  Touches thread key := key ∈ thread.keys
  Calm := Thread.Calm
  Done := Thread.Done
  calm_exec _ _ := Thread.calm_exec
  ambient_exec server thread calm := by
    have confined := thread.confined calm
    exact Prod.ext (confined.settings server) (confined.lamportTime server)
  touches_exec server thread key member := thread.keys_exec server member
  view_exec server thread key calm absent := (thread.confined calm).frame server key absent
  exec_congr left right thread calm ambient same := by
    have confined := thread.confined calm
    rcases Prod.mk.inj ambient with ⟨settings, lamportTime⟩
    exact ⟨confined.result left right settings lamportTime same,
      confined.entries left right settings lamportTime same⟩
  exec_done server thread done := by
    rcases thread with ⟨inside, sections⟩
    rcases done with ⟨rfl, rfl⟩
    rfl

def plainMachine : Machine (Pool SwimServer Thread) (Decision ServerOperation) :=
  Pool.machine ServerOperation.thread Thread.exec

theorem Threads.plain_step (pool : Threads) (decision : Decision ServerOperation) :
    plainMachine.step ⟨pool.shared.server, pool.threads⟩ decision =
      ⟨(threadMachine.step pool decision).shared.server,
        (threadMachine.step pool decision).threads⟩ := by
  cases decision with
  | spawn operation => rfl
  | advance index =>
      cases present : pool.threads[index]? with
      | none =>
          rw [threadMachine, Pool.machine_advance_none _ _ present]
          exact Pool.machine_advance_none _ _ present
      | some thread =>
          rw [threadMachine, Pool.machine_advance _ _ present]
          exact Pool.machine_advance _ _ present

theorem Threads.plain_run (pool : Threads) (decisions : List (Decision ServerOperation)) :
    plainMachine.run ⟨pool.shared.server, pool.threads⟩ decisions =
      ⟨(threadMachine.run pool decisions).shared.server,
        (threadMachine.run pool decisions).threads⟩ := by
  induction decisions generalizing pool with
  | nil => rfl
  | cons decision decisions induction =>
      rw [Machine.run_cons, plain_step, induction, Machine.run_cons]

theorem Thread.Finishes.advances {server after : SwimServer} {thread : Thread}
    (finishes : thread.Finishes server after) (others : List Thread) :
    ∃ (count : Nat) (last : Thread), last.Done ∧
      plainMachine.run ⟨server, others ++ [thread]⟩
        (List.replicate count (.advance others.length)) = ⟨after, others ++ [last]⟩ := by
  induction finishes with
  | @done server thread finished => exact ⟨0, thread, finished, rfl⟩
  | @step server after thread rest induction =>
      rcases induction with ⟨count, last, done, reached⟩
      refine ⟨count + 1, last, done, ?_⟩
      have stepped : plainMachine.step ⟨server, others ++ [thread]⟩ (.advance others.length) =
          ⟨(thread.exec server).1, others ++ [(thread.exec server).2]⟩ := by
        have present : (others ++ [thread])[others.length]? = some thread := by simp
        rw [plainMachine, Pool.machine_advance _ _ present]
        simp
      rw [List.replicate_succ, Machine.run_cons, stepped, reached]

theorem exists_sequential (server : SwimServer) (operations : List ServerOperation) :
    ∃ decisions : List (Decision ServerOperation),
      decisions.filterMap Decision.operation? = operations ∧
      (plainMachine.run ⟨server, []⟩ decisions).shared = serverMachine.run server operations ∧
      ∀ thread ∈ (plainMachine.run ⟨server, []⟩ decisions).threads, thread.Done := by
  induction operations using List.reverseRecOn with
  | nil => exact ⟨[], rfl, rfl, by simp [Machine.run]⟩
  | append_singleton operations operation induction =>
      rcases induction with ⟨decisions, started, shared, done⟩
      generalize reached : plainMachine.run ⟨server, []⟩ decisions = pool at shared done
      rcases pool with ⟨middle, threads⟩
      subst shared
      rcases (operation.thread_finishes (serverMachine.run server operations)).advances threads
        with ⟨count, last, lastDone, final⟩
      have run : plainMachine.run ⟨server, []⟩ (decisions ++
          .spawn operation :: List.replicate count (.advance threads.length)) =
          ⟨serverMachine.run server (operations ++ [operation]), threads ++ [last]⟩ := by
        rw [Machine.run_append, reached, Machine.run_cons, Machine.run_append]
        exact final
      refine ⟨decisions ++ .spawn operation ::
        List.replicate count (.advance threads.length), ?_, ?_, ?_⟩
      · simp [started, Decision.operation?, List.filterMap_replicate]
      · rw [run]
      · rw [run]
        intro thread member
        rcases List.mem_append.mp member with old | new
        · exact done thread old
        · rwa [List.mem_singleton.mp new]

/-- No two of the operations are about the same server. -/
def Separate (operations : List ServerOperation) : Prop :=
  operations.Pairwise fun first second =>
    ∀ key ∈ first.thread.keys, key ∉ second.thread.keys

instance Separate.decidable (operations : List ServerOperation) :
    Decidable (Separate operations) :=
  inferInstanceAs (Decidable (operations.Pairwise _))

def Threads.start (server : SwimServer) : Threads := ⟨{ server := server }, []⟩

/-- Operations about different servers, none of which updates the clock: when all of them
have come to their ends, the two sets, and the callbacks about each server, are as if they
had been called one after the other, in whatever order. -/
theorem Threads.serializes_of_separate (server : SwimServer)
    {decisions : List (Decision ServerOperation)} {order : List ServerOperation}
    (same : order.Perm (decisions.filterMap Decision.operation?))
    (separate : Separate order) (calm : ∀ operation ∈ order, operation.thread.Calm)
    (idle : (threadMachine.run (.start server) decisions).Idle) :
    let final := (threadMachine.run (.start server) decisions).shared.server
    let sequential := serverMachine.run server order
    final.alive = sequential.alive ∧ final.suspected = sequential.suspected ∧
      ∀ key, (final.entry key).callbacks = (sequential.entry key).callbacks := by
  rcases exists_sequential server order with ⟨sequence, rfl, shared, done⟩
  have plain : plainMachine.run ⟨server, []⟩ decisions =
      ⟨(threadMachine.run (.start server) decisions).shared.server,
        (threadMachine.run (.start server) decisions).threads⟩ :=
    Threads.plain_run (.start server) decisions
  have ended : ∀ thread ∈ (plainMachine.run ⟨server, []⟩ decisions).threads, thread.Done := by
    rw [plain]
    exact idle
  have entries (key : Key) :
      (threadMachine.run (.start server) decisions).shared.server.entry key =
        (serverMachine.run server (sequence.filterMap Decision.operation?)).entry key := by
    have equal : (plainMachine.run ⟨server, []⟩ sequence).shared.entry key =
        (plainMachine.run ⟨server, []⟩ decisions).shared.entry key :=
      threadFootprints.view_run_eq ServerOperation.thread server same separate calm done ended key
    rw [shared, plain] at equal
    exact equal.symm
  refine ⟨?_, ?_, fun key => congrArg Entry.callbacks (entries key)⟩
  · exact OrderedSet.ext_find? fun key => congrArg Entry.alive (entries key)
  · exact OrderedSet.ext_find? fun key => congrArg Entry.suspected (entries key)

theorem Threads.serializes_two_peers :
    let server := SwimServer.create ⟨"node", fun _ => "10.0.0.1"⟩ "" 9000 true
    let order : List ServerOperation :=
      [.addAlive { hostname := "peer", port := 9001 } 1,
        .reportSuspected { hostname := "other", port := 9002 } 2]
    let decisions : List (Decision ServerOperation) :=
      [.spawn (.reportSuspected { hostname := "other", port := 9002 } 2),
        .spawn (.addAlive { hostname := "peer", port := 9001 } 1),
        .advance 0, .advance 1, .advance 1, .advance 0, .advance 1, .advance 1, .advance 0,
        .advance 0]
    let final := (threadMachine.run (.start server) decisions).shared.server
    final.alive = (serverMachine.run server order).alive ∧
      final.suspected = (serverMachine.run server order).suspected := by
  intro server order decisions
  have serialized := Threads.serializes_of_separate server
    (show order.Perm (decisions.filterMap Decision.operation?) from List.Perm.swap ..)
    (show Separate order by decide)
    (by simp [order, ServerOperation.thread, ServerOperation.sections, Thread.Calm, Section.Calm])
    (by decide)
  exact ⟨serialized.1, serialized.2.1⟩

end Gossip
