import Gossip.Contracts.StatusCallbacks

/-! # The records that callbacks are given

An application that is only told a record and a status has to learn from the
record which server the status is about. `ReportSuspected` moves its record into
the set before it passes the pointer on, so a callback identifies its server
exactly when it does not announce a suspicion. -/

namespace Gossip

open Foundation SwimServer

def Callback.Identifies (callback : Callback) : Prop :=
  callback.record.map ServerRecord.key = some callback.subject

instance (callback : Callback) : Decidable callback.Identifies :=
  inferInstanceAs (Decidable (_ = _))

def SwimServer.CallbacksIdentify (server : SwimServer) : Prop :=
  ∀ callback ∈ server.callbacks, callback.Identifies

instance (server : SwimServer) : Decidable server.CallbacksIdentify :=
  inferInstanceAs (Decidable (∀ callback ∈ server.callbacks, callback.Identifies))

/-! ## An observer -/

/-- The status that a callback says a server has come to have. -/
def ServerStatus.reached : ServerStatus → Status
  | .alive => .alive
  | .suspect => .suspected
  | .removed | .unknown => .unknown

@[simp] theorem Status.reached_announced (status : Status) :
    status.announced.reached = status := by
  cases status <;> rfl

def observe (seen : Key → Status) (callback : Callback) : Key → Status :=
  match callback.record with
  | none => seen
  | some record => fun key => if record.key = key then callback.status.reached else seen key

def SwimServer.observed (server : SwimServer) : Key → Status :=
  server.callbacks.foldl observe fun _ => .unknown

def SwimServer.Observable (server : SwimServer) : Prop :=
  ∀ key, (server.observed key = .alive ↔ server.alive.contains key) ∧
    (server.observed key = .suspected ↔ server.suspected.contains key)

def lastReached (before : Status) (statuses : List ServerStatus) : Status :=
  statuses.foldl (fun _ status => status.reached) before

theorem lastReached_append_changes (before current next : Status)
    (statuses : List ServerStatus) (last : lastReached before statuses = current) :
    lastReached before (statuses ++ (changes current [next]).map Status.announced) =
      next := by
  simp only [lastReached, List.foldl_append, changes] at last ⊢
  split
  next same => simpa [same] using last
  next => simp

theorem foldl_observe {callbacks : List Callback}
    (identified : ∀ callback ∈ callbacks, callback.Identifies) (seen : Key → Status)
    (key : Key) :
    callbacks.foldl observe seen key = lastReached (seen key)
      ((callbacks.filter fun callback => callback.subject = key).map Callback.status) := by
  induction callbacks generalizing seen with
  | nil => rfl
  | cons callback callbacks induction =>
      rw [List.forall_mem_cons] at identified
      rcases Option.map_eq_some_iff.mp identified.1 with ⟨record, present, names⟩
      rw [List.foldl_cons, induction identified.2]
      by_cases equal : callback.subject = key
      · simp [observe, present, names, equal, lastReached]
      · simp [observe, present, names, equal]

theorem lastReached_callbacksFor {server : SwimServer} (announcing : server.Announcing)
    {operations : List ServerOperation}
    (evictions : ∀ operation ∈ operations, operation.OnlyEvicts) (key : Key)
    (initially : lastReached .unknown ((server.callbacksFor key).map Callback.status) =
      server.status key) :
    lastReached .unknown
      (((serverMachine.run server operations).callbacksFor key).map Callback.status) =
        (serverMachine.run server operations).status key := by
  rw [← run_events]
  apply eventMachine.run_invariant (fun server =>
    lastReached .unknown ((server.callbacksFor key).map Callback.status) =
      server.status key) _ initially (along_harmless announcing evictions)
  intro state event holds guarded
  have announced := react_announces guarded.1 guarded.2 key
  change List.map Callback.status ((state.react event).callbacksFor key) = _ at announced
  rw [eventMachine_step, announced]
  exact lastReached_append_changes _ _ _ _ holds

theorem Entry.status_eq_alive_iff (entry : Entry) :
    entry.status = .alive ↔ entry.alive.isSome := by
  cases alive : entry.alive <;> cases suspected : entry.suspected <;>
    simp [status, alive, suspected]

theorem Entry.status_eq_suspected_iff {settings : Settings} {key : Key} {entry : Entry}
    (sound : entry.Sound settings key) :
    entry.status = .suspected ↔ entry.suspected.isSome := by
  have disjoint := sound.disjoint
  cases alive : entry.alive <;> cases suspected : entry.suspected <;>
    simp_all [status]

theorem observable_of_identified (host : Host) (hostName : String) (port : UInt16)
    {operations : List ServerOperation}
    (evictions : ∀ operation ∈ operations, operation.OnlyEvicts)
    (identified : (serverMachine.run (create host hostName port true)
      operations).CallbacksIdentify) :
    (serverMachine.run (create host hostName port true) operations).Observable := by
  have announcing : (create host hostName port true).Announcing :=
    ⟨create_sound host hostName port true, rfl⟩
  have after := serverMachine.run_keeps Announcing
    (fun server operation holds => holds.operate operation) _ operations announcing
  intro key
  have same : (serverMachine.run (create host hostName port true) operations).observed key
      = (serverMachine.run (create host hostName port true) operations).status key := by
    rw [observed, foldl_observe identified]
    exact lastReached_callbacksFor announcing evictions key rfl
  rw [same]
  exact ⟨Entry.status_eq_alive_iff _, Entry.status_eq_suspected_iff (after.sound key)⟩

/-! ## Entries without suspicions -/

namespace Entry

def Identified (entry : Entry) : Prop :=
  ∀ callback ∈ entry.callbacks, callback.Identifies

structure Quiet (entry : Entry) : Prop where
  suspected : entry.suspected = none
  identified : entry.Identified

variable {settings : Settings} {lamportTime : UInt64} {entry : Entry}

theorem Identified.notify (identified : entry.Identified) {callback : Callback}
    (identifies : callback.Identifies) :
    (entry.notify settings callback).Identified := by
  unfold Entry.notify
  split
  · simpa [Identified, or_imp, forall_and] using ⟨identified, identifies⟩
  · exact identified

theorem Quiet.addAlive (quiet : entry.Quiet) (subject : Server) (timestamp : UInt64) :
    (entry.addAlive settings lamportTime subject timestamp).Quiet := by
  refine ⟨addAlive_suspected _ _ _ _ _, ?_⟩
  unfold Entry.addAlive
  split
  · apply Identified.notify
    · exact quiet.identified
    · rfl
  · exact quiet.identified

theorem Quiet.offerAlive (quiet : entry.Quiet) (subject : Server) (timestamp : UInt64) :
    (entry.offerAlive settings lamportTime subject timestamp).Quiet := by
  unfold Entry.offerAlive
  split
  · exact quiet
  · exact quiet.addAlive subject timestamp

theorem Quiet.onAliveRecord (quiet : entry.Quiet) (record : ServerRecord) :
    (entry.onAliveRecord settings lamportTime record).Quiet := by
  unfold Entry.onAliveRecord
  split
  · exact quiet
  · split
    · exact quiet
    · have offered : (entry.offerAlive settings lamportTime record.server
          record.timestamp).Quiet := quiet.offerAlive _ _
      exact ⟨offered.suspected, offered.identified⟩

theorem Quiet.onAliveRecords (quiet : entry.Quiet) (records : List ServerRecord) :
    (records.foldl (Entry.onAliveRecord settings lamportTime) entry).Quiet :=
  Machine.run_keeps ⟨Entry.onAliveRecord settings lamportTime⟩ Quiet
    (fun _ record quiet => quiet.onAliveRecord record) entry records quiet

theorem Quiet.removeSuspected (quiet : entry.Quiet) (removed : Server)
    (removeType : RemoveType) (seconds : UInt64) :
    (entry.removeSuspected settings removed removeType seconds).Quiet := by
  rw [removeSuspected_of_unsuspected removed removeType seconds quiet.suspected]
  exact quiet

theorem Quiet.reportSuspected (quiet : entry.Quiet) (enabled : settings.statusCb = true)
    (subject : Server) (timestamp : UInt64) :
    ¬ (entry.reportSuspected settings lamportTime subject timestamp).Identified := by
  intro identified
  have last := identified
    { subject := subject.key, record := none, status := .suspect } (by
      simp [Entry.reportSuspected, quiet.suspected, Entry.notify, enabled])
  simp [Callback.Identifies] at last

theorem callbacks_notify {callbacks : List Callback} (same : entry.callbacks = callbacks)
    (callback : Callback) :
    callbacks <+: (entry.notify settings callback).callbacks := by
  unfold Entry.notify
  split <;> simp [same]

theorem callbacks_perform (primitive : Primitive) :
    entry.callbacks <+: (entry.perform settings lamportTime primitive).callbacks := by
  have addAlive : ∀ subject timestamp, entry.callbacks <+:
      (entry.addAlive settings lamportTime subject timestamp).callbacks := by
    intro subject timestamp
    unfold Entry.addAlive
    split
    · apply callbacks_notify
      rfl
    · exact List.prefix_refl _
  cases primitive with
  | addAlive subject timestamp =>
      simp only [perform, Entry.offerAlive]
      split
      · exact List.prefix_refl _
      · exact addAlive subject timestamp
  | reportSuspected subject timestamp =>
      simp only [perform, offerSuspected]
      split
      · exact List.prefix_refl _
      · split
        · exact addAlive subject timestamp
        · unfold Entry.reportSuspected
          split
          · apply callbacks_notify
            rfl
          · exact List.prefix_refl _
  | removeSuspected subject removeType seconds =>
      simp only [perform, Entry.removeSuspected]
      split
      · apply callbacks_notify
        rfl
      · exact List.prefix_refl _
  | raiseAlive record | raiseSuspected record | post posting => exact List.prefix_refl _

theorem callbacks_onSuspectedRecord (record : ServerRecord) :
    entry.callbacks <+:
      (entry.onSuspectedRecord settings lamportTime record).callbacks := by
  unfold onSuspectedRecord
  split
  · exact List.prefix_refl _
  · split
    · exact List.prefix_refl _
    · exact callbacks_perform (.reportSuspected record.server record.timestamp)

theorem Identified.of_callbacks {before after : Entry} (identified : after.Identified)
    (grows : before.callbacks <+: after.callbacks) : before.Identified :=
  fun callback member => identified callback (grows.subset member)

def Ignores (settings : Settings) (entry : Entry) (record : ServerRecord) : Prop :=
  record.key = settings.self.key ∨ record.server.port = 0 ∨
    ∃ time, entry.alive.map ServerRecord.lamportTime = some time ∧
      record.lamportTime < time

theorem Quiet.onSuspectedRecord_of_ignores (quiet : entry.Quiet) {record : ServerRecord}
    (ignored : entry.Ignores settings record) :
    entry.onSuspectedRecord settings lamportTime record = entry := by
  rcases ignored with isSelf | port | ⟨time, known, older⟩
  · simp [onSuspectedRecord, isSelf]
  · unfold onSuspectedRecord
    split
    · rfl
    · split
      · rfl
      · ext1 <;> simp [offerSuspected, port, quiet.suspected]
  · rcases Option.map_eq_some_iff.mp known with ⟨found, present, rfl⟩
    simp [onSuspectedRecord, present, older]

theorem Quiet.onSuspectedRecord_of_not_ignores (quiet : entry.Quiet)
    (enabled : settings.statusCb = true) {record : ServerRecord}
    (notIgnored : ¬ entry.Ignores settings record) :
    ¬ (entry.onSuspectedRecord settings lamportTime record).Identified := by
  simp only [Ignores, not_or] at notIgnored
  have fresh : ¬ (entry.alive.any fun found =>
      decide (record.lamportTime < found.lamportTime)) = true := by
    simpa [Option.any_eq_true] using notIgnored.2.2
  have offered : entry.offerSuspected settings lamportTime record.server record.timestamp =
      entry.reportSuspected settings lamportTime record.server record.timestamp := by
    simp [offerSuspected, notIgnored]
  unfold onSuspectedRecord
  rw [if_neg notIgnored.1, if_neg fresh, offered]
  exact quiet.reportSuspected enabled record.server record.timestamp

theorem Quiet.onSuspectedRecords_of_ignores (quiet : entry.Quiet)
    {records : List ServerRecord}
    (ignored : ∀ record ∈ records, entry.Ignores settings record) :
    records.foldl (Entry.onSuspectedRecord settings lamportTime) entry = entry := by
  induction records with
  | nil => rfl
  | cons record records induction =>
      rw [List.forall_mem_cons] at ignored
      rw [List.foldl_cons, quiet.onSuspectedRecord_of_ignores ignored.1,
        induction ignored.2]

theorem Quiet.onSuspectedRecords_of_not_ignores (quiet : entry.Quiet)
    (enabled : settings.statusCb = true) {records : List ServerRecord}
    {record : ServerRecord} (member : record ∈ records)
    (notIgnored : ¬ entry.Ignores settings record) :
    ¬ (records.foldl (Entry.onSuspectedRecord settings lamportTime) entry).Identified := by
  induction records with
  | nil => cases member
  | cons first records induction =>
      by_cases ignored : entry.Ignores settings first
      · rw [List.foldl_cons, quiet.onSuspectedRecord_of_ignores ignored]
        rcases List.mem_cons.mp member with rfl | member
        · exact absurd ignored notIgnored
        · exact induction member
      · -- Once a suspicion has been announced, the callback stays in the log.
        exact Machine.run_keeps ⟨Entry.onSuspectedRecord settings lamportTime⟩
          (fun entry => ¬ entry.Identified)
          (fun _ record lost identified => lost
            (identified.of_callbacks (callbacks_onSuspectedRecord record)))
          _ records (quiet.onSuspectedRecord_of_not_ignores enabled ignored)

end Entry

/-! ## Operations that suspect nothing -/

namespace SwimServer

def lastHeard (server : SwimServer) (sender : Server) (report : SwimReport) (key : Key) :
    Option UInt64 :=
  if sender.key = key ∨ ∃ record ∈ report.alive, record.key = key then
    some server.lamportTime
  else (server.alive.find? key).map ServerRecord.lamportTime

/-- A suspicion in a report that is about the server itself, a server without a
port, or one that has been heard of since. -/
def Dismisses (server : SwimServer) (sender : Server) (report : SwimReport)
    (record : ServerRecord) : Prop :=
  record.key = server.self.key ∨ record.server.port = 0 ∨
    ∃ time, server.lastHeard sender report record.key = some time ∧
      record.lamportTime < time

/-- The operation suspects some server, when none is suspected yet. -/
def Suspects (server : SwimServer) : ServerOperation → Prop
  | .reportSuspected subject _ => subject.port ≠ 0 ∧ subject.key ≠ server.self.key
  | .forwardPing _ destination _ answered _ =>
      answered = false ∧ destination.port ≠ 0 ∧ destination.key ≠ server.self.key
  | .onReport sender report _ =>
      ∃ record ∈ report.suspected, ¬ server.Dismisses sender report record
  | _ => False

instance (server : SwimServer) (sender : Server) (report : SwimReport)
    (record : ServerRecord) : Decidable (server.Dismisses sender report record) :=
  inferInstanceAs (Decidable (_ ∨ _))

instance (server : SwimServer) : DecidablePred server.Suspects
  | .reportSuspected .. | .forwardPing .. => inferInstanceAs (Decidable (_ ∧ _))
  | .onReport _ report _ => inferInstanceAs (Decidable (∃ record ∈ report.suspected, _))
  | .updateLamportTime _ | .addAlive .. | .removeSuspected .. | .onUpdate ..
  | .onForwardRequest .. => isFalse id

end SwimServer

namespace Entry

variable {settings : Settings} {lamportTime : UInt64} {entry : Entry}

theorem onAliveRecords_lamportTime (quiet : entry.Quiet) {key : Key}
    (other : key ≠ settings.self.key) (port : Key.port key ≠ 0)
    {records : List ServerRecord} (about : ∀ record ∈ records, record.key = key) :
    (records.foldl (Entry.onAliveRecord settings lamportTime) entry).alive.map
      ServerRecord.lamportTime =
        if records = [] then entry.alive.map ServerRecord.lamportTime
        else some lamportTime := by
  induction records generalizing entry with
  | nil => simp
  | cons record records induction =>
      rw [List.forall_mem_cons] at about
      have stamped : (entry.onAliveRecord settings lamportTime record).alive.map
          ServerRecord.lamportTime = some lamportTime := by
        rw [← about.1] at other port
        exact (onAliveRecord_of_current lamportTime other port (by simp [quiet.suspected])).1
      rw [List.foldl_cons, induction (quiet.onAliveRecord record) about.2, stamped]
      simp

def takeAlive (settings : Settings) (lamportTime : UInt64) (key : Key) (entry : Entry)
    (sender : Server) (report : SwimReport) (now : UInt64) : Entry :=
  (report.alive.filter fun record => record.key = key).foldl
    (onAliveRecord settings lamportTime)
    (if sender.key = key then entry.offerAlive settings lamportTime sender now else entry)

theorem onReport_eq_takeAlive (key : Key) (sender : Server) (report : SwimReport)
    (now : UInt64) :
    entry.onReport settings lamportTime key sender report now =
      (report.suspected.filter fun record => record.key = key).foldl
        (onSuspectedRecord settings lamportTime)
        (entry.takeAlive settings lamportTime key sender report now) := rfl

theorem Quiet.takeAlive (quiet : entry.Quiet) (key : Key) (sender : Server)
    (report : SwimReport) (now : UInt64) :
    (entry.takeAlive settings lamportTime key sender report now).Quiet := by
  apply Quiet.onAliveRecords
  split
  · exact quiet.offerAlive sender now
  · exact quiet

theorem Quiet.takeAlive_lamportTime (quiet : entry.Quiet) {key : Key}
    (other : key ≠ settings.self.key) (port : Key.port key ≠ 0) (sender : Server)
    (report : SwimReport) (now : UInt64) :
    (entry.takeAlive settings lamportTime key sender report now).alive.map
      ServerRecord.lamportTime =
        if sender.key = key ∨ ∃ record ∈ report.alive, record.key = key then
          some lamportTime
        else entry.alive.map ServerRecord.lamportTime := by
  have about : ∀ record ∈ report.alive.filter fun record => record.key = key,
      record.key = key := by simp
  unfold Entry.takeAlive
  by_cases isSender : sender.key = key
  · subst isSender
    rw [if_pos rfl, onAliveRecords_lamportTime (quiet.offerAlive sender now) other port
      about]
    rw [Server.key_port] at port
    simp [offerAlive_lamportTime lamportTime port now]
  · rw [if_neg isSender, onAliveRecords_lamportTime quiet other port about]
    by_cases named : ∃ record ∈ report.alive, record.key = key
    · simp [named, isSender]
    · simp only [isSender, named, or_self, if_false]
      rw [if_pos]
      simpa using named

end Entry

namespace SwimServer

def Quiet (server : SwimServer) : Prop := ∀ key, (server.entry key).Quiet

theorem callbacksIdentify_iff (server : SwimServer) :
    server.CallbacksIdentify ↔ ∀ key, (server.entry key).Identified := by
  constructor
  · intro identify key callback member
    exact identify callback (List.mem_of_mem_filter member)
  · intro identified callback member
    exact identified callback.subject callback (List.mem_filter.mpr ⟨member, by simp⟩)

theorem Quiet.ignores_iff_dismisses {server : SwimServer} (quiet : server.Quiet)
    (sender : Server) (report : SwimReport) (now : UInt64) (record : ServerRecord) :
    ((server.entry record.key).takeAlive server.toSettings server.lamportTime record.key
      sender report now).Ignores server.toSettings record ↔
        server.Dismisses sender report record := by
  by_cases isSelf : record.key = server.self.key
  · exact iff_of_true (.inl isSelf) (.inl isSelf)
  by_cases port : record.server.port = 0
  · exact iff_of_true (.inr (.inl port)) (.inr (.inl port))
  rw [Entry.Ignores, (quiet record.key).takeAlive_lamportTime isSelf port]
  rfl

theorem Quiet.post {server : SwimServer} (quiet : server.Quiet) (posting : Posting) :
    (server.post posting).Quiet := quiet

theorem Quiet.addAlive {server : SwimServer} (quiet : server.Quiet) (subject : Server)
    (timestamp : UInt64) : (server.addAlive subject timestamp).1.Quiet := by
  intro key
  rw [entry_addAlive]
  split
  · exact (quiet key).offerAlive subject timestamp
  · exact quiet key

theorem Quiet.removeSuspected {server : SwimServer} (quiet : server.Quiet)
    (removed : Server) (removeType : RemoveType) (seconds : UInt64) :
    (server.removeSuspected removed removeType seconds).Quiet := by
  intro key
  rw [entry_removeSuspected]
  split
  · exact (quiet key).removeSuspected removed removeType seconds
  · exact quiet key

theorem Quiet.reportSuspected {server : SwimServer} (quiet : server.Quiet)
    {subject : Server} (timestamp : UInt64)
    (refused : subject.port = 0 ∨ subject.key = server.self.key) :
    (server.reportSuspected subject timestamp).1.Quiet := by
  intro key
  rw [entry_reportSuspected]
  split
  · unfold Entry.offerSuspected
    split
    · exact quiet key
    next port =>
      rw [if_pos (refused.resolve_left port)]
      exact (quiet key).addAlive subject timestamp
  · exact quiet key

theorem Quiet.onReport {server : SwimServer} (quiet : server.Quiet) {sender : Server}
    {report : SwimReport} (now : UInt64)
    (dismissed : ∀ record ∈ report.suspected, server.Dismisses sender report record) :
    (server.onReport sender report now).Quiet := by
  intro key
  have taken : ((server.entry key).takeAlive server.toSettings server.lamportTime key
      sender report now).Quiet := (quiet key).takeAlive key sender report now
  rw [entry_onReport, Entry.onReport_eq_takeAlive, taken.onSuspectedRecords_of_ignores]
  · exact taken
  · intro record member
    rcases List.mem_filter.mp member with ⟨reported, about⟩
    rw [decide_eq_true_eq] at about
    subst about
    exact (quiet.ignores_iff_dismisses sender report now record).mpr
      (dismissed record reported)

theorem Quiet.operate {server : SwimServer} (quiet : server.Quiet)
    {operation : ServerOperation} (unsuspicious : ¬ server.Suspects operation) :
    (server.operate operation).Quiet := by
  cases operation with
  | updateLamportTime time => exact quiet
  | addAlive subject timestamp => exact quiet.addAlive subject timestamp
  | onForwardRequest sender now => exact quiet.addAlive sender now
  | onUpdate client now =>
      rw [SwimServer.operate, onUpdate, ← removeSuspected_alive_eq _ client now]
      exact (quiet.addAlive client now).removeSuspected client .alive now
  | reportSuspected subject timestamp =>
      apply quiet.reportSuspected timestamp
      simpa [Suspects, Classical.or_iff_not_imp_left] using unsuspicious
  | removeSuspected subject removeType seconds =>
      exact quiet.removeSuspected subject removeType seconds
  | onReport sender report now =>
      apply quiet.onReport now
      simpa [Suspects] using unsuspicious
  | forwardPing sender destination seconds answered now =>
      cases answered with
      | true => exact quiet
      | false =>
          have refused : destination.port = 0 ∨ destination.key = server.self.key := by
            simpa [Suspects, Classical.or_iff_not_imp_left] using unsuspicious
          exact (quiet.post _).reportSuspected now refused

theorem Quiet.not_identify_reportSuspected {server : SwimServer} (quiet : server.Quiet)
    (enabled : server.statusCb = true) {subject : Server} (timestamp : UInt64)
    (port : subject.port ≠ 0) (other : subject.key ≠ server.self.key) :
    ¬ (server.reportSuspected subject timestamp).1.CallbacksIdentify := by
  rw [callbacksIdentify_iff]
  intro identified
  have here := identified subject.key
  rw [entry_reportSuspected, if_pos rfl, Entry.offerSuspected, if_neg port,
    if_neg other] at here
  exact (quiet subject.key).reportSuspected enabled subject timestamp here

theorem Quiet.not_identify_onReport {server : SwimServer} (quiet : server.Quiet)
    (enabled : server.statusCb = true) {sender : Server} {report : SwimReport}
    (now : UInt64) {record : ServerRecord} (reported : record ∈ report.suspected)
    (taken : ¬ server.Dismisses sender report record) :
    ¬ (server.onReport sender report now).CallbacksIdentify := by
  rw [callbacksIdentify_iff]
  intro identified
  have here := identified record.key
  rw [entry_onReport, Entry.onReport_eq_takeAlive] at here
  apply ((quiet record.key).takeAlive record.key sender report
    now).onSuspectedRecords_of_not_ignores enabled _ _ here
  · exact record
  · exact List.mem_filter.mpr ⟨reported, by simp⟩
  · rwa [quiet.ignores_iff_dismisses]

theorem Quiet.not_identify_operate {server : SwimServer} (quiet : server.Quiet)
    (enabled : server.statusCb = true) {operation : ServerOperation}
    (suspicious : server.Suspects operation) :
    ¬ (server.operate operation).CallbacksIdentify := by
  cases operation with
  | reportSuspected subject timestamp =>
      exact quiet.not_identify_reportSuspected enabled timestamp suspicious.1 suspicious.2
  | forwardPing sender destination seconds answered now =>
      rcases suspicious with ⟨rfl, port, other⟩
      exact (quiet.post _).not_identify_reportSuspected enabled now port other
  | onReport sender report now =>
      rcases suspicious with ⟨record, reported, taken⟩
      exact quiet.not_identify_onReport enabled now reported taken
  | _ => cases suspicious

theorem CallbacksIdentify.of_operate {server : SwimServer} (operation : ServerOperation)
    (identify : (server.operate operation).CallbacksIdentify) :
    server.CallbacksIdentify := by
  rw [← run_operationEvents] at identify
  by_contra missing
  apply eventMachine.run_keeps (fun server => ¬ server.CallbacksIdentify) _ server
    (server.operationEvents operation) missing identify
  intro state event missing identify
  apply missing
  cases event with
  | tick time => exact identify
  | call primitive =>
      rw [callbacksIdentify_iff] at identify ⊢
      intro key
      have after := identify key
      rw [eventMachine_step, react, entry_perform] at after
      split at after
      · exact after.of_callbacks (Entry.callbacks_perform primitive)
      · exact after

theorem create_quiet (host : Host) (hostName : String) (port : UInt16) (statusCb : Bool) :
    (create host hostName port statusCb).Quiet :=
  fun _ => ⟨rfl, nofun⟩

end SwimServer

/-- The callbacks of a run identify their servers, and an observer can rebuild
the sets from them, exactly when no operation of the run suspects anything. -/
theorem callbacks_identify_iff_nothing_suspected (host : Host) (hostName : String)
    (port : UInt16) (operations : List ServerOperation)
    (evictions : ∀ operation ∈ operations, operation.OnlyEvicts) :
    let server := SwimServer.create host hostName port true
    let after := serverMachine.run server operations
    (after.CallbacksIdentify ∧ after.Observable) ↔
      serverMachine.Along (fun server operation => ¬ server.Suspects operation) server
        operations := by
  intro server after
  have kept : ∀ (server : SwimServer) operation, server.Quiet ∧ server.Announcing →
      ¬ server.Suspects operation →
        (server.operate operation).Quiet ∧ (server.operate operation).Announcing := by
    intro server operation holds unsuspicious
    exact ⟨holds.1.operate unsuspicious, holds.2.operate operation⟩
  have initially : server.Quiet ∧ server.Announcing :=
    ⟨create_quiet host hostName port true, create_sound host hostName port true, rfl⟩
  constructor
  · rintro ⟨identify, -⟩
    by_contra violated
    refine serverMachine.run_violated (fun server => server.Quiet ∧ server.Announcing)
      (fun server => ¬ server.CallbacksIdentify) kept ?_ ?_ initially violated identify
    · intro server operation holds suspicious
      exact holds.1.not_identify_operate holds.2.enabled (Classical.not_not.mp suspicious)
    · intro server operation missing identify
      exact missing (identify.of_operate operation)
  · intro unsuspicious
    have quiet := serverMachine.run_invariant
      (fun server => server.Quiet ∧ server.Announcing) kept initially unsuspicious
    have identify : after.CallbacksIdentify :=
      after.callbacksIdentify_iff.mpr fun key => (quiet.1 key).identified
    exact ⟨identify, observable_of_identified host hostName port evictions identify⟩

theorem callbacks_identify_after_stale_suspicion :
    let peer : Server := { hostname := "peer", port := 9001 }
    let other : Server := { hostname := "other", port := 9002 }
    let operations : List ServerOperation :=
      [.updateLamportTime 3, .addAlive peer 10,
        .onReport other
          { suspected := [{ server := peer, timestamp := 9, lamportTime := 2 }] } 12,
        .onUpdate peer 13]
    let server := SwimServer.create ⟨"node", fun _ => "10.0.0.1"⟩ "" 9000 true
    (serverMachine.run server operations).CallbacksIdentify ∧
      (serverMachine.run server operations).Observable := by
  intro peer other operations server
  have unsuspicious : serverMachine.Along
      (fun server operation => ¬ server.Suspects operation) server operations := by
    decide
  exact (callbacks_identify_iff_nothing_suspected _ _ _ operations (by decide)).mpr unsuspicious

/-- The callback of one failed contact is given a null pointer, and an observer
never learns that the server is suspected. -/
theorem suspect_callback_is_null :
    let peer : Server := { hostname := "peer", port := 9001 }
    let operations : List ServerOperation := [.addAlive peer 10, .reportSuspected peer 11]
    let after := serverMachine.run
      (.create ⟨"node", fun _ => "10.0.0.1"⟩ "" 9000 true) operations
    (∀ operation ∈ operations, operation.OnlyEvicts) ∧
      after.callbacks.map Callback.record = [some (stampedRecord 0 peer 10), none] ∧
      ¬ after.CallbacksIdentify ∧ ¬ after.Observable := by
  refine ⟨by decide, by decide, by decide, fun observable => ?_⟩
  have suspected := (observable (toLex ("peer", 9001))).2.mpr (by decide)
  revert suspected
  decide

end Gossip
