import Gossip.Foundation.Execution
import Gossip.Semantics.SwimServer

/-! # A server seen through one key

Every operation of the server acts on the record of one host name and port at a
time. Restricting the two sets and the callbacks to one key gives a small state
machine, and the theorems of this module say that each operation of the server
is that machine at the key it is about and the identity at every other key. -/

namespace Gossip

open Foundation SwimServer

@[ext] structure Entry where
  alive : Option ServerRecord
  suspected : Option ServerRecord
  callbacks : List Callback
deriving DecidableEq

namespace Entry

variable (settings : Settings) (lamportTime : UInt64)

def notify (entry : Entry) (callback : Callback) : Entry :=
  if settings.statusCb then
    { entry with callbacks := entry.callbacks ++ [callback] }
  else entry

def removeSuspected (entry : Entry) (removed : Server) (removeType : RemoveType)
    (seconds : UInt64) : Entry :=
  if entry.suspected.isSome && removeType = .evicted then
    notify settings { entry with suspected := none }
      { subject := removed.key
        record := some (makeRecord removed seconds)
        status := .removed }
  else { entry with suspected := none }

def addAlive (entry : Entry) (subject : Server) (timestamp : UInt64) : Entry :=
  match entry.alive with
  | none =>
      let record := stampedRecord lamportTime subject timestamp
      notify settings { entry with alive := some record, suspected := none }
        { subject := subject.key, record := some record, status := .alive }
  | some record =>
      { entry with
        alive := some (refreshed timestamp lamportTime record)
        suspected := none }

/-- `ReportSuspected` of a server other than the one that makes the report. -/
def reportSuspected (entry : Entry) (subject : Server) (timestamp : UInt64) : Entry :=
  match entry.suspected with
  | none =>
      notify settings
        { entry with
          alive := none
          suspected := some (stampedRecord lamportTime subject timestamp) }
        { subject := subject.key, record := none, status := .suspect }
  | some _ => { entry with alive := none }

@[simp] theorem notify_alive (entry : Entry) (callback : Callback) :
    (entry.notify settings callback).alive = entry.alive := by
  unfold notify
  split <;> rfl

@[simp] theorem notify_suspected (entry : Entry) (callback : Callback) :
    (entry.notify settings callback).suspected = entry.suspected := by
  unfold notify
  split <;> rfl

@[simp] theorem removeSuspected_alive (entry : Entry) (removed : Server)
    (removeType : RemoveType) (seconds : UInt64) :
    (entry.removeSuspected settings removed removeType seconds).alive = entry.alive := by
  unfold removeSuspected
  split <;> simp

@[simp] theorem removeSuspected_suspected (entry : Entry) (removed : Server)
    (removeType : RemoveType) (seconds : UInt64) :
    (entry.removeSuspected settings removed removeType seconds).suspected = none := by
  unfold removeSuspected
  split <;> simp

@[simp] theorem addAlive_alive (entry : Entry) (subject : Server) (timestamp : UInt64) :
    (entry.addAlive settings lamportTime subject timestamp).alive =
      some (match entry.alive with
        | none => stampedRecord lamportTime subject timestamp
        | some record => refreshed timestamp lamportTime record) := by
  unfold addAlive
  split <;> simp [*]

@[simp] theorem addAlive_suspected (entry : Entry) (subject : Server)
    (timestamp : UInt64) :
    (entry.addAlive settings lamportTime subject timestamp).suspected = none := by
  unfold addAlive
  split <;> simp

@[simp] theorem reportSuspected_alive (entry : Entry) (subject : Server)
    (timestamp : UInt64) :
    (entry.reportSuspected settings lamportTime subject timestamp).alive = none := by
  unfold reportSuspected
  split <;> simp

@[simp] theorem reportSuspected_suspected (entry : Entry) (subject : Server)
    (timestamp : UInt64) :
    (entry.reportSuspected settings lamportTime subject timestamp).suspected =
      some (entry.suspected.getD (stampedRecord lamportTime subject timestamp)) := by
  unfold reportSuspected
  split <;> simp [*]

def raised (incoming stored : ServerRecord) : ServerRecord :=
  if stored.server.incarnation < incoming.server.incarnation then
    { stored with
      server := { stored.server with incarnation := incoming.server.incarnation } }
  else stored

@[simp] theorem raised_lamportTime (incoming stored : ServerRecord) :
    (raised incoming stored).lamportTime = stored.lamportTime := by
  unfold raised
  split <;> rfl

@[simp] theorem raised_timestamp (incoming stored : ServerRecord) :
    (raised incoming stored).timestamp = stored.timestamp := by
  unfold raised
  split <;> rfl

/-- `AddAlive` with its port check. -/
def offerAlive (entry : Entry) (subject : Server) (timestamp : UInt64) : Entry :=
  if subject.port = 0 then entry
  else entry.addAlive settings lamportTime subject timestamp

/-- `ReportSuspected` with its checks. -/
def offerSuspected (entry : Entry) (subject : Server) (timestamp : UInt64) : Entry :=
  if subject.port = 0 then entry
  else if subject.key = settings.self.key then
    entry.addAlive settings lamportTime subject timestamp
  else entry.reportSuspected settings lamportTime subject timestamp

def onAliveRecord (entry : Entry) (record : ServerRecord) : Entry :=
  if record.key = settings.self.key then entry
  else if entry.suspected.any fun found => record.lamportTime < found.lamportTime then
    entry
  else
    let entry := entry.offerAlive settings lamportTime record.server record.timestamp
    { entry with alive := entry.alive.map (raised record) }

def onSuspectedRecord (entry : Entry) (record : ServerRecord) : Entry :=
  if record.key = settings.self.key then entry
  else if entry.alive.any fun found => record.lamportTime < found.lamportTime then entry
  else
    let entry :=
      entry.offerSuspected settings lamportTime record.server record.timestamp
    { entry with suspected := entry.suspected.map (raised record) }

def onReport (key : Key) (entry : Entry) (sender : Server) (report : SwimReport)
    (now : UInt64) : Entry :=
  let entry :=
    if sender.key = key then entry.offerAlive settings lamportTime sender now
    else entry
  let entry := (report.alive.filter fun record => record.key = key).foldl
    (onAliveRecord settings lamportTime) entry
  (report.suspected.filter fun record => record.key = key).foldl
    (onSuspectedRecord settings lamportTime) entry

/-! ### When a record of a report takes effect -/

theorem exists_of_any_stale {stored : Option ServerRecord} {record : ServerRecord}
    (stale : (stored.any fun found => record.lamportTime < found.lamportTime) = true) :
    ∃ found, stored = some found ∧ record.lamportTime < found.lamportTime := by
  rcases (Option.any_eq_true _ _).mp stale with ⟨found, known, newer⟩
  exact ⟨found, known, of_decide_eq_true newer⟩

theorem not_any_stale {stored : Option ServerRecord} {record : ServerRecord}
    (current : ∀ found, stored = some found → found.lamportTime ≤ record.lamportTime) :
    ¬ (stored.any fun found => record.lamportTime < found.lamportTime) = true := by
  intro stale
  rcases exists_of_any_stale stale with ⟨found, known, newer⟩
  exact UInt64.not_lt.mpr (current found known) newer

section Records

variable {settings} {entry : Entry} {record : ServerRecord}

theorem offerAlive_lamportTime {subject : Server} (port : subject.port ≠ 0)
    (timestamp : UInt64) :
    (entry.offerAlive settings lamportTime subject timestamp).alive.map
      ServerRecord.lamportTime = some lamportTime := by
  rw [offerAlive, if_neg port, addAlive_alive]
  cases entry.alive <;> rfl

theorem onAliveRecord_of_current (other : record.key ≠ settings.self.key)
    (port : record.server.port ≠ 0)
    (current : ∀ found, entry.suspected = some found →
      found.lamportTime ≤ record.lamportTime) :
    (entry.onAliveRecord settings lamportTime record).alive.map
        ServerRecord.lamportTime = some lamportTime ∧
      (entry.onAliveRecord settings lamportTime record).suspected = none := by
  have offered : (entry.offerAlive settings lamportTime record.server
      record.timestamp).alive.map ServerRecord.lamportTime = some lamportTime :=
    offerAlive_lamportTime lamportTime port record.timestamp
  rw [onAliveRecord, if_neg other, if_neg (not_any_stale current)]
  constructor
  · simpa [Function.comp_def] using offered
  · simp [offerAlive, port]

theorem onAliveRecord_of_stale {found : ServerRecord}
    (known : entry.suspected = some found)
    (stale : record.lamportTime < found.lamportTime) :
    entry.onAliveRecord settings lamportTime record = entry := by
  simp [onAliveRecord, known, stale]

theorem onSuspectedRecord_of_current (other : record.key ≠ settings.self.key)
    (port : record.server.port ≠ 0)
    (current : ∀ found, entry.alive = some found →
      found.lamportTime ≤ record.lamportTime) :
    (entry.onSuspectedRecord settings lamportTime record).alive = none ∧
      (entry.onSuspectedRecord settings lamportTime record).suspected.map
        ServerRecord.lamportTime =
          some ((entry.suspected.map ServerRecord.lamportTime).getD lamportTime) := by
  rw [onSuspectedRecord, if_neg other, if_neg (not_any_stale current)]
  constructor
  · simp [offerSuspected, port, other]
  · cases known : entry.suspected <;>
      simp [offerSuspected, port, other, known, stampedRecord]

theorem onSuspectedRecord_of_stale {found : ServerRecord}
    (known : entry.alive = some found)
    (stale : record.lamportTime < found.lamportTime) :
    entry.onSuspectedRecord settings lamportTime record = entry := by
  simp [onSuspectedRecord, known, stale]

theorem onAliveRecord_of_portless (port : record.server.port = 0) :
    (entry.onAliveRecord settings lamportTime record).alive.map
        ServerRecord.lamportTime = entry.alive.map ServerRecord.lamportTime ∧
      (entry.onAliveRecord settings lamportTime record).suspected = entry.suspected := by
  unfold onAliveRecord
  split
  · exact ⟨rfl, rfl⟩
  · split
    · exact ⟨rfl, rfl⟩
    · simp [offerAlive, port, Function.comp_def]

theorem onSuspectedRecord_of_portless (port : record.server.port = 0) :
    (entry.onSuspectedRecord settings lamportTime record).alive = entry.alive ∧
      (entry.onSuspectedRecord settings lamportTime record).suspected.map
        ServerRecord.lamportTime = entry.suspected.map ServerRecord.lamportTime := by
  unfold onSuspectedRecord
  split
  · exact ⟨rfl, rfl⟩
  · split
    · exact ⟨rfl, rfl⟩
    · simp [offerSuspected, port, Function.comp_def]

end Records

end Entry

namespace SwimServer

def entry (server : SwimServer) (key : Key) : Entry where
  alive := server.alive.find? key
  suspected := server.suspected.find? key
  callbacks := server.callbacks.filter fun callback => callback.subject = key

/-! ## What no operation on the sets changes -/

@[simp] theorem notify_toSettings (server : SwimServer) (callback : Callback) :
    (server.notify callback).toSettings = server.toSettings := by
  unfold notify
  split <;> rfl

@[simp] theorem notify_lamportTime (server : SwimServer) (callback : Callback) :
    (server.notify callback).lamportTime = server.lamportTime := by
  unfold notify
  split <;> rfl

@[simp] theorem notify_alive (server : SwimServer) (callback : Callback) :
    (server.notify callback).alive = server.alive := by
  unfold notify
  split <;> rfl

@[simp] theorem notify_suspected (server : SwimServer) (callback : Callback) :
    (server.notify callback).suspected = server.suspected := by
  unfold notify
  split <;> rfl

@[simp] theorem removeSuspected_toSettings (server : SwimServer) (removed : Server)
    (removeType : RemoveType) (seconds : UInt64) :
    (server.removeSuspected removed removeType seconds).toSettings =
      server.toSettings := by
  simp only [removeSuspected]
  split <;> simp

@[simp] theorem removeSuspected_lamportTime (server : SwimServer) (removed : Server)
    (removeType : RemoveType) (seconds : UInt64) :
    (server.removeSuspected removed removeType seconds).lamportTime =
      server.lamportTime := by
  simp only [removeSuspected]
  split <;> simp

@[simp] theorem removeSuspected_alive (server : SwimServer) (removed : Server)
    (removeType : RemoveType) (seconds : UInt64) :
    (server.removeSuspected removed removeType seconds).alive = server.alive := by
  simp only [removeSuspected]
  split <;> simp

@[simp] theorem addAlive_toSettings (server : SwimServer) (subject : Server)
    (timestamp : UInt64) :
    (server.addAlive subject timestamp).1.toSettings = server.toSettings := by
  simp only [addAlive]
  split
  · rfl
  · split <;> simp

@[simp] theorem addAlive_lamportTime (server : SwimServer) (subject : Server)
    (timestamp : UInt64) :
    (server.addAlive subject timestamp).1.lamportTime = server.lamportTime := by
  simp only [addAlive]
  split
  · rfl
  · split <;> simp

@[simp] theorem reportSuspected_toSettings (server : SwimServer) (subject : Server)
    (timestamp : UInt64) :
    (server.reportSuspected subject timestamp).1.toSettings = server.toSettings := by
  simp only [reportSuspected]
  split
  · rfl
  · split
    · simp
    · split <;> simp

@[simp] theorem reportSuspected_lamportTime (server : SwimServer) (subject : Server)
    (timestamp : UInt64) :
    (server.reportSuspected subject timestamp).1.lamportTime = server.lamportTime := by
  simp only [reportSuspected]
  split
  · rfl
  · split
    · simp
    · split <;> simp

@[simp] theorem notify_postings (server : SwimServer) (callback : Callback) :
    (server.notify callback).postings = server.postings := by
  unfold notify
  split <;> rfl

@[simp] theorem removeSuspected_postings (server : SwimServer) (removed : Server)
    (removeType : RemoveType) (seconds : UInt64) :
    (server.removeSuspected removed removeType seconds).postings = server.postings := by
  simp only [removeSuspected]
  split <;> simp

@[simp] theorem addAlive_postings (server : SwimServer) (subject : Server)
    (timestamp : UInt64) :
    (server.addAlive subject timestamp).1.postings = server.postings := by
  simp only [addAlive]
  split
  · rfl
  · split <;> simp

@[simp] theorem reportSuspected_postings (server : SwimServer) (subject : Server)
    (timestamp : UInt64) :
    (server.reportSuspected subject timestamp).1.postings = server.postings := by
  simp only [reportSuspected]
  split
  · rfl
  · split
    · simp
    · split <;> simp

/-! ## One operation, one key -/

@[simp] theorem entry_alive (server : SwimServer) (key : Key) :
    (server.entry key).alive = server.alive.find? key := rfl

@[simp] theorem entry_suspected (server : SwimServer) (key : Key) :
    (server.entry key).suspected = server.suspected.find? key := rfl

theorem entry_setAlive (server : SwimServer) (set : ServerRecordsSet) (key : Key) :
    { server with alive := set }.entry key =
      { server.entry key with alive := set.find? key } := rfl

theorem entry_setSuspected (server : SwimServer) (set : ServerRecordsSet) (key : Key) :
    { server with suspected := set }.entry key =
      { server.entry key with suspected := set.find? key } := rfl

@[simp] theorem entry_post (server : SwimServer) (posting : Posting) (key : Key) :
    (server.post posting).entry key = server.entry key := rfl

theorem entry_notify (server : SwimServer) (callback : Callback) (key : Key) :
    (server.notify callback).entry key =
      if callback.subject = key then
        (server.entry key).notify server.toSettings callback
      else server.entry key := by
  by_cases enabled : server.statusCb = true
  · by_cases equal : callback.subject = key <;>
      simp [notify, entry, Entry.notify, enabled, equal]
  · simp [notify, Entry.notify, enabled]

theorem entry_removeSuspected (server : SwimServer) (removed : Server)
    (removeType : RemoveType) (seconds : UInt64) (key : Key) :
    (server.removeSuspected removed removeType seconds).entry key =
      if removed.key = key then
        (server.entry key).removeSuspected server.toSettings removed removeType seconds
      else server.entry key := by
  have erased : { server with
      suspected := server.suspected.erase removed.key }.entry key =
      if removed.key = key then { server.entry key with suspected := none }
      else server.entry key := by
    rw [entry_setSuspected, OrderedSet.find?_erase]
    split <;> rfl
  by_cases evicts : server.suspected.contains removed.key ∧ removeType = .evicted
  · simp only [removeSuspected, evicts, decide_true, Bool.and_self, if_true,
      entry_notify, erased]
    by_cases equal : removed.key = key
    · subst equal
      simp_all [Entry.removeSuspected, OrderedSet.contains]
    · simp [equal]
  · have quiet : (server.suspected.contains removed.key &&
        decide (removeType = .evicted)) = false := by
      simpa using evicts
    simp only [removeSuspected, quiet, Bool.false_eq_true, if_false, erased]
    by_cases equal : removed.key = key
    · subst equal
      have quietHere : ((server.entry removed.key).suspected.isSome &&
          decide (removeType = .evicted)) = false := quiet
      simp only [Entry.removeSuspected, quietHere, Bool.false_eq_true, if_false]
    · simp [equal]

theorem addAlive_of_unknown {server : SwimServer} {subject : Server}
    (timestamp : UInt64) (port : subject.port ≠ 0)
    (unknown : server.alive.find? subject.key = none) :
    server.addAlive subject timestamp =
      ({ server.removeSuspected subject .alive timestamp with
          alive := (server.alive.insert
            (stampedRecord server.lamportTime subject timestamp)).1 }.notify
        { subject := subject.key
          record := some (stampedRecord server.lamportTime subject timestamp)
          status := .alive },
      true) := by
  simp [addAlive, port, OrderedSet.contains, unknown]

theorem addAlive_of_known {server : SwimServer} {subject : Server}
    {record : ServerRecord} (timestamp : UInt64) (port : subject.port ≠ 0)
    (known : server.alive.find? subject.key = some record) :
    server.addAlive subject timestamp =
      ({ server.removeSuspected subject .alive timestamp with
          alive := (server.alive.insert
            (stampedRecord server.lamportTime subject timestamp)).1.modify subject.key
              (refreshed timestamp server.lamportTime) (refreshed_key timestamp _) },
      false) := by
  simp [addAlive, port, OrderedSet.contains, known]

theorem entry_addAlive (server : SwimServer) (subject : Server) (timestamp : UInt64)
    (key : Key) :
    (server.addAlive subject timestamp).1.entry key =
      if subject.key = key then
        (server.entry key).offerAlive server.toSettings server.lamportTime subject
          timestamp
      else server.entry key := by
  by_cases portZero : subject.port = 0
  · simp [addAlive, Entry.offerAlive, portZero]
  have cleared := entry_removeSuspected server subject .alive timestamp key
  simp only [Entry.removeSuspected, reduceCtorEq, decide_false, Bool.and_false,
    Bool.false_eq_true, if_false] at cleared
  cases known : server.alive.find? subject.key with
  | none =>
      rw [addAlive_of_unknown timestamp portZero known, entry_notify, entry_setAlive,
        cleared, OrderedSet.find?_insert]
      by_cases equal : subject.key = key
      · subst equal
        simp [Entry.offerAlive, Entry.addAlive, portZero, known]
      · simp [equal, entry]
  | some record =>
      rw [addAlive_of_known timestamp portZero known, entry_setAlive, cleared,
        OrderedSet.find?_modify, OrderedSet.find?_insert]
      by_cases equal : subject.key = key
      · subst equal
        simp [Entry.offerAlive, Entry.addAlive, portZero, known]
      · simp [equal, entry]

theorem reportSuspected_of_unknown {server : SwimServer} {subject : Server}
    (timestamp : UInt64) (port : subject.port ≠ 0)
    (other : subject.key ≠ server.self.key)
    (unknown : server.suspected.find? subject.key = none) :
    server.reportSuspected subject timestamp =
      ({ server with
          alive := server.alive.erase subject.key
          suspected := (server.suspected.insert
            (stampedRecord server.lamportTime subject timestamp)).1 }.notify
        { subject := subject.key, record := none, status := .suspect },
      true) := by
  simp [reportSuspected, port, other, OrderedSet.contains, unknown]

theorem reportSuspected_of_known {server : SwimServer} {subject : Server}
    {record : ServerRecord} (timestamp : UInt64) (port : subject.port ≠ 0)
    (other : subject.key ≠ server.self.key)
    (known : server.suspected.find? subject.key = some record) :
    server.reportSuspected subject timestamp =
      ({ server with
          alive := server.alive.erase subject.key
          suspected := (server.suspected.insert
            (stampedRecord server.lamportTime subject timestamp)).1 },
      false) := by
  simp [reportSuspected, port, other, OrderedSet.contains, known]

theorem entry_reportSuspected (server : SwimServer) (subject : Server)
    (timestamp : UInt64) (key : Key) :
    (server.reportSuspected subject timestamp).1.entry key =
      if subject.key = key then
        (server.entry key).offerSuspected server.toSettings server.lamportTime subject
          timestamp
      else server.entry key := by
  by_cases portZero : subject.port = 0
  · simp [reportSuspected, Entry.offerSuspected, portZero]
  by_cases isSelf : subject.key = server.self.key
  · simp only [reportSuspected, portZero, Server.same_iff, isSelf, if_true, if_false,
      entry_addAlive]
    simp [Entry.offerAlive, Entry.offerSuspected, portZero, isSelf]
  cases known : server.suspected.find? subject.key with
  | none =>
      rw [reportSuspected_of_unknown timestamp portZero isSelf known, entry_notify]
      by_cases equal : subject.key = key
      · subst equal
        simp [Entry.offerSuspected, Entry.reportSuspected, portZero, isSelf, known, entry,
          OrderedSet.find?_erase, OrderedSet.find?_insert]
      · simp [equal, entry, OrderedSet.find?_erase, OrderedSet.find?_insert]
  | some record =>
      rw [reportSuspected_of_known timestamp portZero isSelf known]
      by_cases equal : subject.key = key
      · subst equal
        simp [Entry.offerSuspected, Entry.reportSuspected, portZero, isSelf, known, entry,
          OrderedSet.find?_erase, OrderedSet.find?_insert]
      · simp [equal, entry, OrderedSet.find?_erase, OrderedSet.find?_insert]

/-! ## Handlers -/

theorem find?_raiseIncarnation (set : ServerRecordsSet) (record : ServerRecord)
    (key : Key) :
    (raiseIncarnation set record).find? key =
      if record.key = key then (set.find? key).map (Entry.raised record)
      else set.find? key := by
  cases stored : set.find? record.key with
  | none =>
      simp only [raiseIncarnation, stored]
      by_cases equal : record.key = key
      · subst equal
        simp [stored]
      · simp [equal]
  | some found =>
      have foundKey : found.key = record.key := OrderedSet.key_of_find? stored
      by_cases newer : found.server.incarnation < record.server.incarnation
      · have raisedKey : (Entry.raised record found).key = record.key := by
          rw [← foundKey]
          simp [Entry.raised, newer, ServerRecord.key, Server.key]
        have result : raiseIncarnation set record =
            ((set.erase record.key).insert (Entry.raised record found)).1 := by
          simp [raiseIncarnation, stored, newer, Entry.raised, foundKey]
        rw [result, OrderedSet.find?_insert, OrderedSet.find?_erase, raisedKey]
        by_cases equal : record.key = key
        · subst equal
          simp [stored]
        · simp [equal]
      · simp only [raiseIncarnation, stored, newer, if_false]
        by_cases equal : record.key = key
        · subst equal
          simp [stored, Entry.raised, newer]
        · simp [equal]

@[simp] theorem onAliveRecord_toSettings (server : SwimServer) (record : ServerRecord) :
    (server.onAliveRecord record).toSettings = server.toSettings := by
  simp only [onAliveRecord]
  split
  · rfl
  · split <;> simp

@[simp] theorem onAliveRecord_lamportTime (server : SwimServer)
    (record : ServerRecord) :
    (server.onAliveRecord record).lamportTime = server.lamportTime := by
  simp only [onAliveRecord]
  split
  · rfl
  · split <;> simp

@[simp] theorem onSuspectedRecord_toSettings (reportSender : Server)
    (server : SwimServer) (record : ServerRecord) :
    (onSuspectedRecord reportSender server record).toSettings = server.toSettings := by
  simp only [onSuspectedRecord]
  split
  · rfl
  · split <;> simp

@[simp] theorem onSuspectedRecord_lamportTime (reportSender : Server)
    (server : SwimServer) (record : ServerRecord) :
    (onSuspectedRecord reportSender server record).lamportTime =
      server.lamportTime := by
  simp only [onSuspectedRecord]
  split
  · rfl
  · split <;> simp

theorem entry_onAliveRecord (server : SwimServer) (record : ServerRecord) (key : Key) :
    (server.onAliveRecord record).entry key =
      if record.key = key then
        (server.entry key).onAliveRecord server.toSettings server.lamportTime record
      else server.entry key := by
  have added := entry_addAlive server record.server record.timestamp key
  rw [ServerRecord.server_key] at added
  simp only [onAliveRecord, Entry.onAliveRecord, Server.same_iff,
    ServerRecord.server_key, entry_suspected]
  by_cases isSelf : record.key = server.self.key
  · simp [isSelf]
  by_cases equal : record.key = key
  · subst equal
    simp only [isSelf, if_true, if_false] at added ⊢
    by_cases stale : ((server.suspected.find? record.key).any fun found =>
        record.lamportTime < found.lamportTime) = true
    · simp [stale]
    · simp only [stale, Bool.false_eq_true, if_false, entry_setAlive,
        find?_raiseIncarnation, if_true, ← added, entry_alive]
  · simp only [isSelf, equal, if_false] at added ⊢
    split
    · rfl
    · rw [entry_setAlive, find?_raiseIncarnation, if_neg equal, ← entry_alive, added]

theorem entry_onSuspectedRecord (reportSender : Server) (server : SwimServer)
    (record : ServerRecord) (key : Key) :
    (onSuspectedRecord reportSender server record).entry key =
      if record.key = key then
        (server.entry key).onSuspectedRecord server.toSettings server.lamportTime record
      else server.entry key := by
  have reported := entry_reportSuspected server record.server record.timestamp key
  rw [ServerRecord.server_key] at reported
  simp only [onSuspectedRecord, Entry.onSuspectedRecord, Server.same_iff,
    ServerRecord.server_key, entry_alive]
  by_cases isSelf : record.key = server.self.key
  · simp [isSelf]
  by_cases equal : record.key = key
  · subst equal
    simp only [isSelf, if_true, if_false] at reported ⊢
    by_cases stale : ((server.alive.find? record.key).any fun found =>
        record.lamportTime < found.lamportTime) = true
    · simp [stale]
    · simp only [stale, Bool.false_eq_true, if_false, entry_setSuspected,
        find?_raiseIncarnation, if_true, ← reported, entry_suspected]
  · simp only [isSelf, equal, if_false] at reported ⊢
    split
    · rfl
    · rw [entry_setSuspected, find?_raiseIncarnation, if_neg equal, ← entry_suspected,
        reported]

def HasFrame (settings : Settings) (lamportTime : UInt64) (server : SwimServer) : Prop :=
  server.toSettings = settings ∧ server.lamportTime = lamportTime

theorem HasFrame.onAliveRecords {settings : Settings} {lamportTime : UInt64}
    {server : SwimServer} (holds : HasFrame settings lamportTime server)
    (records : List ServerRecord) :
    HasFrame settings lamportTime (records.foldl onAliveRecord server) :=
  Machine.run_keeps ⟨onAliveRecord⟩ (HasFrame settings lamportTime)
    (fun state record holds => by simpa [HasFrame] using holds) server records holds

theorem HasFrame.onSuspectedRecords {settings : Settings} {lamportTime : UInt64}
    {server : SwimServer} (holds : HasFrame settings lamportTime server)
    (reportSender : Server) (records : List ServerRecord) :
    HasFrame settings lamportTime
      (records.foldl (onSuspectedRecord reportSender) server) :=
  Machine.run_keeps ⟨onSuspectedRecord reportSender⟩ (HasFrame settings lamportTime)
    (fun state record holds => by simpa [HasFrame] using holds) server records holds

theorem onReport_hasFrame (server : SwimServer) (sender : Server) (report : SwimReport)
    (now : UInt64) :
    HasFrame server.toSettings server.lamportTime (server.onReport sender report now) :=
  have afterSender : HasFrame server.toSettings server.lamportTime
      (server.addAlive sender now).1 := by simp [HasFrame]
  (afterSender.onAliveRecords report.alive).onSuspectedRecords report.sender
    report.suspected

@[simp] theorem onReport_toSettings (server : SwimServer) (sender : Server)
    (report : SwimReport) (now : UInt64) :
    (server.onReport sender report now).toSettings = server.toSettings :=
  (onReport_hasFrame server sender report now).1

@[simp] theorem onReport_lamportTime (server : SwimServer) (sender : Server)
    (report : SwimReport) (now : UInt64) :
    (server.onReport sender report now).lamportTime = server.lamportTime :=
  (onReport_hasFrame server sender report now).2

theorem entry_onAliveRecords {settings : Settings} {lamportTime : UInt64}
    {server : SwimServer} (holds : HasFrame settings lamportTime server)
    (records : List ServerRecord) (key : Key) :
    (records.foldl onAliveRecord server).entry key =
      (records.filter fun record => record.key = key).foldl
        (Entry.onAliveRecord settings lamportTime) (server.entry key) := by
  apply Machine.run_project ⟨onAliveRecord⟩ (HasFrame settings lamportTime)
    (fun state => state.entry key) _ _ _ _ server records holds
  · intro state record holds
    simpa [HasFrame] using holds
  · intro state record holds
    rw [entry_onAliveRecord, holds.1, holds.2]
    simp

theorem entry_onSuspectedRecords {settings : Settings} {lamportTime : UInt64}
    {server : SwimServer} (holds : HasFrame settings lamportTime server)
    (reportSender : Server) (records : List ServerRecord) (key : Key) :
    (records.foldl (onSuspectedRecord reportSender) server).entry key =
      (records.filter fun record => record.key = key).foldl
        (Entry.onSuspectedRecord settings lamportTime) (server.entry key) := by
  apply Machine.run_project ⟨onSuspectedRecord reportSender⟩
    (HasFrame settings lamportTime) (fun state => state.entry key) _ _ _ _ server records
    holds
  · intro state record holds
    simpa [HasFrame] using holds
  · intro state record holds
    rw [entry_onSuspectedRecord, holds.1, holds.2]
    simp

theorem entry_onReport (server : SwimServer) (sender : Server) (report : SwimReport)
    (now : UInt64) (key : Key) :
    (server.onReport sender report now).entry key =
      (server.entry key).onReport server.toSettings server.lamportTime key sender report
        now := by
  have afterSender : HasFrame server.toSettings server.lamportTime
      (server.addAlive sender now).1 := by simp [HasFrame]
  rw [onReport, entry_onSuspectedRecords (afterSender.onAliveRecords report.alive),
    entry_onAliveRecords afterSender, entry_addAlive]
  rfl

theorem entry_onUpdate (server : SwimServer) (client : Server) (now : UInt64)
    (key : Key) :
    (server.onUpdate client now).entry key =
      if client.key = key then
        { (server.entry key).offerAlive server.toSettings server.lamportTime client now with
          suspected := none }
      else server.entry key := by
  rw [onUpdate, entry_setSuspected, entry_addAlive, OrderedSet.find?_erase]
  by_cases equal : client.key = key
  · simp [equal]
  · have untouched := entry_addAlive server client now key
    rw [if_neg equal] at untouched
    simp only [equal, if_false, ← untouched]
    rfl

end SwimServer

end Gossip
