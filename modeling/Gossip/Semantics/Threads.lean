import Gossip.Foundation.Interleaving
import Gossip.Semantics.Primitives

/-! # Operations as threads

The operations of a server run in several threads, and each of them locks one of
the two sets at a time. Here every operation is the sequence of its critical
sections. `AddAlive` and `ReportSuspected` take a server out of one set in one
section and put it in the other in a later one, so a thread can be stopped in
between. -/

namespace Gossip

open Foundation SwimServer

/-- The next section of an operation that is not inside `AddAlive` or
`ReportSuspected`. -/
inductive Section
  /-- The first section of `AddAlive`, which is in `RemoveSuspected`. -/
  | addAlive (subject : Server) (timestamp : UInt64)
  /-- `ReportSuspected` up to its first section. -/
  | reportSuspected (subject : Server) (timestamp : UInt64)
  | removeSuspected (subject : Server) (removeType : RemoveType) (seconds : UInt64)
  /-- The section that `OnUpdate` has of its own. -/
  | eraseReturned (client : Server)
  /-- The lookup in the first loop of `OnReport`. -/
  | checkAlive (record : ServerRecord)
  | raiseAlive (record : ServerRecord)
  /-- The lookup in the second loop of `OnReport`. -/
  | checkSuspected (reportSender : Server) (record : ServerRecord)
  | raiseSuspected (record : ServerRecord)
  | ping (dest : Server)
  | forward (sender destination : Server) (seconds : UInt64)
  /-- `UpdateLamportTime` up to its load of the clock. -/
  | updateLamportTime (time : UInt64)
  | storeLamportTime (time : UInt64)
deriving DecidableEq, Repr

/-- The next section of `AddAlive` or `ReportSuspected` after the first, or the
callback at the end of an operation. -/
inductive Inside
  | stampAlive (subject : Server) (timestamp : UInt64)
  | insertAlive (record : ServerRecord)
  | refreshAlive (record : ServerRecord)
  | eraseAlive (record : ServerRecord)
  | insertSuspected (record : ServerRecord)
  | fire (callback : Callback)
deriving DecidableEq

structure Thread where
  inside : Option Inside := none
  sections : List Section
deriving DecidableEq

structure Continuation where
  server : SwimServer
  inside : Option Inside := none
  sections : List Section := []

def Section.exec (server : SwimServer) : Section → Continuation
  | .addAlive subject timestamp =>
      if subject.port = 0 then { server := server }
      else
        { server := { server with suspected := server.suspected.erase subject.key }
          inside := some (.stampAlive subject timestamp) }
  | .reportSuspected subject timestamp =>
      if subject.port = 0 then { server := server }
      else if subject.same server.self then
        { server := server, sections := [.addAlive subject timestamp] }
      else
        { server := server
          inside := some (.eraseAlive
            (stampedRecord server.lamportTime subject timestamp)) }
  | .removeSuspected removed removeType seconds =>
      { server := { server with suspected := server.suspected.erase removed.key }
        inside :=
          if server.suspected.contains removed.key && removeType = .evicted then
            some (.fire
              { subject := removed.key
                record := some (makeRecord removed seconds)
                status := .removed })
          else none }
  | .eraseReturned client =>
      { server := { server with suspected := server.suspected.erase client.key } }
  | .checkAlive record =>
      { server := server
        sections :=
          if record.server.same server.self then []
          else if (server.suspected.find? record.key).any
              fun found => record.lamportTime < found.lamportTime then []
          else [.addAlive record.server record.timestamp, .raiseAlive record] }
  | .raiseAlive record =>
      { server := { server with alive := raiseIncarnation server.alive record } }
  | .checkSuspected reportSender record =>
      { server := server
        sections :=
          if record.server.same server.self then [.ping reportSender]
          else if (server.alive.find? record.key).any
              fun found => record.lamportTime < found.lamportTime then []
          else
            [.reportSuspected record.server record.timestamp, .raiseSuspected record] }
  | .raiseSuspected record =>
      { server := { server with suspected := raiseIncarnation server.suspected record } }
  | .ping dest => { server := server.post (server.client dest).ping.2 }
  | .forward sender destination seconds =>
      { server := server.post ((server.client destination).send
          { sender := sender, suspected := [makeRecord destination seconds] }).2 }
  | .updateLamportTime time =>
      { server := server
        sections := [.storeLamportTime (server.updateLamportTime time).lamportTime] }
  | .storeLamportTime time => { server := { server with lamportTime := time } }

def Inside.exec (server : SwimServer) : Inside → SwimServer × Option Inside
  | .stampAlive subject timestamp =>
      (server, some (.insertAlive (stampedRecord server.lamportTime subject timestamp)))
  | .insertAlive record =>
      let (alive, inserted) := server.alive.insert record
      ({ server with alive := alive },
        some (if inserted then
          .fire { subject := record.key, record := some record, status := .alive }
        else .refreshAlive record))
  | .refreshAlive record =>
      ({ server with
          alive := server.alive.modify record.key
            (refreshed record.timestamp server.lamportTime)
            (refreshed_key record.timestamp _) },
        none)
  | .eraseAlive record =>
      ({ server with alive := server.alive.erase record.key },
        some (.insertSuspected record))
  | .insertSuspected record =>
      let (suspected, inserted, pointer) := server.suspected.insertMoved record
      ({ server with suspected := suspected },
        if inserted then
          some (.fire { subject := record.key, record := pointer, status := .suspect })
        else none)
  | .fire callback => (server.notify callback, none)

namespace Thread

def exec (server : SwimServer) (thread : Thread) : SwimServer × Thread :=
  match thread.inside, thread.sections with
  | some inside, sections =>
      let (server, next) := inside.exec server
      (server, { inside := next, sections := sections })
  | none, first :: rest =>
      let next := first.exec server
      (next.server, { inside := next.inside, sections := next.sections ++ rest })
  | none, [] => (server, thread)

def Done (thread : Thread) : Prop := thread.inside = none ∧ thread.sections = []

instance (thread : Thread) : Decidable thread.Done :=
  inferInstanceAs (Decidable (_ ∧ _))

end Thread

def ServerOperation.sections : ServerOperation → List Section
  | .updateLamportTime time => [.updateLamportTime time]
  | .addAlive subject timestamp => [.addAlive subject timestamp]
  | .reportSuspected subject timestamp => [.reportSuspected subject timestamp]
  | .removeSuspected subject removeType seconds =>
      [.removeSuspected subject removeType seconds]
  | .onUpdate client now => [.addAlive client now, .eraseReturned client]
  | .onReport sender report now =>
      .addAlive sender now :: (report.alive.map .checkAlive ++
        report.suspected.map (.checkSuspected report.sender))
  | .onForwardRequest sender now => [.addAlive sender now]
  | .forwardPing sender destination seconds answered now =>
      .forward sender destination seconds ::
        if answered then [] else [.reportSuspected destination now]

def ServerOperation.thread (operation : ServerOperation) : Thread where
  sections := operation.sections

/-! ## A thread that runs alone -/

inductive Thread.Finishes : SwimServer → Thread → SwimServer → Prop
  | done {server : SwimServer} {thread : Thread} (finished : thread.Done) :
      Finishes server thread server
  | step {server after : SwimServer} {thread : Thread}
      (rest : Finishes (thread.exec server).1 (thread.exec server).2 after) :
      Finishes server thread after

namespace Thread

theorem Finishes.inside {server after : SwimServer} {inside : Inside}
    {sections : List Section}
    (rest : Finishes (inside.exec server).1 ⟨(inside.exec server).2, sections⟩ after) :
    Finishes server ⟨some inside, sections⟩ after := .step rest

theorem Finishes.section {server after : SwimServer} {first : Section}
    {sections : List Section}
    (rest : Finishes (first.exec server).server
      ⟨(first.exec server).inside, (first.exec server).sections ++ sections⟩ after) :
    Finishes server ⟨none, first :: sections⟩ after := .step rest

theorem Finishes.append {server middle after : SwimServer} {thread : Thread}
    {sections : List Section} (first : Finishes server thread middle)
    (second : Finishes middle { sections := sections } after) :
    Finishes server { thread with sections := thread.sections ++ sections } after := by
  induction first with
  | done finished =>
      rcases finished with ⟨outside, nothing⟩
      rw [outside, nothing]
      exact second
  | @step server after thread rest induction =>
      have continued := induction second
      rcases thread with ⟨inside, own⟩
      cases inside with
      | some inside => exact .inside continued
      | none =>
          cases own with
          | nil => exact continued
          | cons first own =>
              apply Finishes.section
              simpa [exec, List.append_assoc] using continued

end Thread

def Section.perform (server : SwimServer) : Section → SwimServer
  | .addAlive subject timestamp => (server.addAlive subject timestamp).1
  | .reportSuspected subject timestamp => (server.reportSuspected subject timestamp).1
  | .removeSuspected subject removeType seconds =>
      server.removeSuspected subject removeType seconds
  | .eraseReturned client =>
      { server with suspected := server.suspected.erase client.key }
  | .checkAlive record => server.onAliveRecord record
  | .raiseAlive record => { server with alive := raiseIncarnation server.alive record }
  | .checkSuspected reportSender record => onSuspectedRecord reportSender server record
  | .raiseSuspected record =>
      { server with suspected := raiseIncarnation server.suspected record }
  | .ping dest => server.post (server.client dest).ping.2
  | .forward sender destination seconds =>
      server.post ((server.client destination).send
        { sender := sender, suspected := [makeRecord destination seconds] }).2
  | .updateLamportTime time => server.updateLamportTime time
  | .storeLamportTime time => { server with lamportTime := time }

namespace Thread

theorem finishes_addAlive (server : SwimServer) (subject : Server) (timestamp : UInt64) :
    Finishes server { sections := [.addAlive subject timestamp] }
      (server.addAlive subject timestamp).1 := by
  apply Finishes.section
  by_cases port : subject.port = 0
  · simp only [Section.exec, SwimServer.addAlive, port, if_true]
    exact .done ⟨rfl, rfl⟩
  · simp only [Section.exec, port, if_false]
    apply Finishes.inside
    apply Finishes.inside
    cases known : server.alive.find? subject.key with
    | none =>
        rw [addAlive_of_unknown timestamp port known, removeSuspected_alive_eq]
        simp only [Inside.exec, OrderedSet.insert_snd, stampedRecord_key,
          OrderedSet.contains, known, Option.isSome_none, Bool.not_false, if_true]
        exact .inside (.done ⟨rfl, rfl⟩)
    | some record =>
        rw [addAlive_of_known timestamp port known, removeSuspected_alive_eq]
        simp only [Inside.exec, OrderedSet.insert_snd, stampedRecord_key,
          OrderedSet.contains, known, Option.isSome_some, Bool.not_true,
          Bool.false_eq_true, if_false]
        exact .inside (.done ⟨rfl, rfl⟩)

theorem finishes_reportSuspected (server : SwimServer) (subject : Server)
    (timestamp : UInt64) :
    Finishes server { sections := [.reportSuspected subject timestamp] }
      (server.reportSuspected subject timestamp).1 := by
  apply Finishes.section
  by_cases port : subject.port = 0
  · simp only [Section.exec, SwimServer.reportSuspected, port, if_true]
    exact .done ⟨rfl, rfl⟩
  by_cases isSelf : subject.same server.self = true
  · simp only [Section.exec, SwimServer.reportSuspected, port, isSelf, if_true, if_false]
    exact finishes_addAlive server subject timestamp
  · simp only [Section.exec, port, isSelf, Bool.false_eq_true, if_false]
    apply Finishes.inside
    apply Finishes.inside
    rw [Server.same_iff] at isSelf
    cases known : server.suspected.find? subject.key with
    | none =>
        rw [reportSuspected_of_unknown timestamp port isSelf known]
        simp only [Inside.exec, OrderedSet.insertMoved_fst, OrderedSet.insertMoved_inserted,
          OrderedSet.insertMoved_pointer, stampedRecord_key, OrderedSet.contains, known,
          Option.isSome_none, Bool.not_false, if_true]
        exact .inside (.done ⟨rfl, rfl⟩)
    | some record =>
        rw [reportSuspected_of_known timestamp port isSelf known]
        simp only [Inside.exec, OrderedSet.insertMoved_fst, OrderedSet.insertMoved_inserted,
          OrderedSet.insertMoved_pointer, stampedRecord_key, OrderedSet.contains, known,
          Option.isSome_some, Bool.not_true, Bool.false_eq_true, if_false]
        exact .done ⟨rfl, rfl⟩

theorem finishes_removeSuspected (server : SwimServer) (removed : Server)
    (removeType : RemoveType) (seconds : UInt64) :
    Finishes server { sections := [.removeSuspected removed removeType seconds] }
      (server.removeSuspected removed removeType seconds) := by
  apply Finishes.section
  simp only [Section.exec, SwimServer.removeSuspected]
  split
  · exact .inside (.done ⟨rfl, rfl⟩)
  · exact .done ⟨rfl, rfl⟩

theorem finishes_checkAlive (server : SwimServer) (record : ServerRecord) :
    Finishes server { sections := [.checkAlive record] } (server.onAliveRecord record) := by
  apply Finishes.section
  simp only [Section.exec, SwimServer.onAliveRecord]
  split
  · exact .done ⟨rfl, rfl⟩
  · split
    · exact .done ⟨rfl, rfl⟩
    · exact (finishes_addAlive server record.server record.timestamp).append
        (.section (.done ⟨rfl, rfl⟩))

theorem finishes_checkSuspected (server : SwimServer) (reportSender : Server)
    (record : ServerRecord) :
    Finishes server { sections := [.checkSuspected reportSender record] }
      (onSuspectedRecord reportSender server record) := by
  apply Finishes.section
  simp only [Section.exec, SwimServer.onSuspectedRecord]
  split
  · exact .section (.done ⟨rfl, rfl⟩)
  · split
    · exact .done ⟨rfl, rfl⟩
    · exact (finishes_reportSuspected server record.server record.timestamp).append
        (.section (.done ⟨rfl, rfl⟩))

theorem finishes_section (server : SwimServer) (first : Section) :
    Finishes server { sections := [first] } (first.perform server) := by
  cases first with
  | addAlive subject timestamp => exact finishes_addAlive server subject timestamp
  | reportSuspected subject timestamp =>
      exact finishes_reportSuspected server subject timestamp
  | removeSuspected subject removeType seconds =>
      exact finishes_removeSuspected server subject removeType seconds
  | checkAlive record => exact finishes_checkAlive server record
  | checkSuspected reportSender record =>
      exact finishes_checkSuspected server reportSender record
  | updateLamportTime time => exact .section (.section (.done ⟨rfl, rfl⟩))
  | eraseReturned | raiseAlive | raiseSuspected | ping | forward | storeLamportTime =>
      exact .section (.done ⟨rfl, rfl⟩)

theorem finishes_sections (server : SwimServer) (sections : List Section) :
    Finishes server { sections := sections } (sections.foldl Section.perform server) := by
  induction sections generalizing server with
  | nil => exact .done ⟨rfl, rfl⟩
  | cons first rest induction =>
      exact (finishes_section server first).append (induction _)

end Thread

theorem ServerOperation.foldl_sections (server : SwimServer) (operation : ServerOperation) :
    operation.sections.foldl Section.perform server = server.operate operation := by
  cases operation with
  | onReport sender report now =>
      simp only [sections, List.foldl_cons, List.foldl_append, List.foldl_map]
      rfl
  | forwardPing sender destination seconds answered now => cases answered <;> rfl
  | updateLamportTime | addAlive | reportSuspected | removeSuspected | onUpdate
  | onForwardRequest => rfl

theorem ServerOperation.thread_finishes (server : SwimServer)
    (operation : ServerOperation) :
    operation.thread.Finishes server (server.operate operation) := by
  rw [← operation.foldl_sections server]
  exact Thread.finishes_sections server operation.sections

end Gossip
