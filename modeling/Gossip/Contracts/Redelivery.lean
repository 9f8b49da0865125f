import Gossip.Contracts.NewestInformation
import Gossip.Contracts.StaleRecords

/-! # A report that is delivered twice

Both passes compare the same records, but against different stored times: the
first pass stamps what it stores with the clock of the delivery, and the clock has
advanced by the second. What makes the second pass harmless is what the first
leaves behind for every record of the report: either a newer entry in the other
set, by which the record is skipped again, or the entry the record asks for. -/

namespace Gossip

open Foundation SwimServer

namespace Entry

variable {settings : Settings} {lamportTime : UInt64} {key : Key}

inductive KnowsAlive (settings : Settings) (entry : Entry) (record : ServerRecord) : Prop
  | self (isSelf : record.key = settings.self.key)
  | refused (port : record.server.port = 0) (absent : entry.alive = none)
  | older (found : ServerRecord) (known : entry.suspected = some found)
      (stale : record.lamportTime < found.lamportTime)
  | listed (found : ServerRecord) (clear : entry.suspected = none)
      (known : entry.alive = some found)
      (incarnation : record.server.incarnation ≤ found.server.incarnation)

inductive KnowsSuspected (settings : Settings) (entry : Entry) (record : ServerRecord) :
    Prop
  | self (isSelf : record.key = settings.self.key)
  | refused (port : record.server.port = 0) (absent : entry.suspected = none)
  | older (found : ServerRecord) (known : entry.alive = some found)
      (stale : record.lamportTime < found.lamportTime)
  | listed (found : ServerRecord) (clear : entry.alive = none)
      (known : entry.suspected = some found)
      (incarnation : record.server.incarnation ≤ found.server.incarnation)

structure SameButTimes (lamportTime : UInt64) (before after : Entry) : Prop where
  alive : after.alive = before.alive ∨ ∃ found timestamp, before.alive = some found ∧
    after.alive = some (refreshed timestamp lamportTime found)
  suspected : after.suspected = before.suspected
  callbacks : after.callbacks = before.callbacks

theorem SameButTimes.refl (lamportTime : UInt64) (entry : Entry) :
    entry.SameButTimes lamportTime entry := ⟨.inl rfl, rfl, rfl⟩

theorem incarnation_le_raised (record stored : ServerRecord) :
    record.server.incarnation ≤ (raised record stored).server.incarnation := by
  unfold raised
  split
  · exact UInt64.le_refl _
  · rename_i notSmaller
    exact UInt64.not_lt.mp notSmaller

theorem raised_of_le {record stored : ServerRecord}
    (known : record.server.incarnation ≤ stored.server.incarnation) :
    raised record stored = stored := by
  rw [raised, if_neg (UInt64.not_lt.mpr known)]

/-! ## The second pass -/

section SecondPass

variable {before current : Entry} {found record : ServerRecord}

theorem SameButTimes.addAlive (same : before.SameButTimes lamportTime current)
    (known : before.alive = some found) (clear : before.suspected = none)
    (subject : Server) (timestamp : UInt64) :
    before.SameButTimes lamportTime
      (current.addAlive settings lamportTime subject timestamp) := by
  have stored : ∃ stored, current.alive = some stored ∧
      refreshed timestamp lamportTime stored = refreshed timestamp lamportTime found := by
    rcases same.alive with equal | ⟨other, earlier, otherKnown, moved⟩
    · exact ⟨found, equal.trans known, rfl⟩
    · obtain rfl := Option.some.inj (known.symm.trans otherKnown)
      exact ⟨_, moved, rfl⟩
  rcases stored with ⟨stored, present, refreshes⟩
  rw [Entry.addAlive, present]
  exact ⟨.inr ⟨found, timestamp, known, congrArg some refreshes⟩, clear.symm,
    same.callbacks⟩

theorem SameButTimes.raiseAlive (same : before.SameButTimes lamportTime current)
    (known : before.alive = some found)
    (incarnation : record.server.incarnation ≤ found.server.incarnation) :
    before.SameButTimes lamportTime
      { current with alive := current.alive.map (raised record) } := by
  have unchanged : current.alive.map (raised record) = current.alive := by
    rcases same.alive with equal | ⟨other, timestamp, otherKnown, moved⟩
    · rw [equal, known, Option.map_some, raised_of_le incarnation]
    · obtain rfl := Option.some.inj (known.symm.trans otherKnown)
      rw [moved, Option.map_some, raised_of_le (by simpa [refreshed] using incarnation)]
  rw [unchanged]
  exact same

theorem SameButTimes.alive_eq_none (same : before.SameButTimes lamportTime current)
    (absent : before.alive = none) : current.alive = none := by
  rcases same.alive with equal | ⟨_, _, known, _⟩
  · exact equal.trans absent
  · simp [absent] at known

theorem SameButTimes.onAliveRecord (same : before.SameButTimes lamportTime current)
    (knows : before.KnowsAlive settings record) :
    before.SameButTimes lamportTime
      (current.onAliveRecord settings lamportTime record) := by
  cases knows with
  | self isSelf =>
      rw [Entry.onAliveRecord, if_pos isSelf]
      exact same
  | refused port absent =>
      have absentHere := same.alive_eq_none absent
      have unchanged : current.onAliveRecord settings lamportTime record = current := by
        rcases current with ⟨alive, suspected, callbacks⟩
        subst absentHere
        simp [Entry.onAliveRecord, offerAlive, port]
      rw [unchanged]
      exact same
  | older found known stale =>
      rw [onAliveRecord_of_stale lamportTime (same.suspected.trans known) stale]
      exact same
  | listed found clear known incarnation =>
      rw [Entry.onAliveRecord]
      split
      · exact same
      · rw [same.suspected, clear]
        simp only [Option.any_none, Bool.false_eq_true, if_false, offerAlive]
        split
        · exact same.raiseAlive known incarnation
        · exact (same.addAlive known clear _ _).raiseAlive known incarnation

theorem SameButTimes.onSuspectedRecord (same : before.SameButTimes lamportTime current)
    (stamped : before.Stamped lamportTime)
    (knows : before.KnowsSuspected settings record) :
    before.SameButTimes lamportTime
      (current.onSuspectedRecord settings lamportTime record) := by
  have unchanged : current.onSuspectedRecord settings lamportTime record = current := by
    cases knows with
    | self isSelf => rw [Entry.onSuspectedRecord, if_pos isSelf]
    | refused port absent =>
        have absentHere := same.suspected.trans absent
        rcases current with ⟨alive, suspected, callbacks⟩
        subst absentHere
        simp [Entry.onSuspectedRecord, offerSuspected, port]
    | older found known stale =>
        rcases same.alive with equal | ⟨other, timestamp, otherKnown, moved⟩
        · exact onSuspectedRecord_of_stale lamportTime (equal.trans known) stale
        · obtain rfl := Option.some.inj (known.symm.trans otherKnown)
          -- The record was stale already, and the clock has only advanced.
          have staleNow : record.lamportTime <
              (refreshed timestamp lamportTime found).lamportTime :=
            UInt64.lt_of_lt_of_le stale (stamped.alive found known)
          exact onSuspectedRecord_of_stale lamportTime moved staleNow
    | listed found clear known incarnation =>
        have clearHere := same.alive_eq_none clear
        have knownHere := same.suspected.trans known
        rcases current with ⟨alive, suspected, callbacks⟩
        subst clearHere knownHere
        by_cases isSelf : record.key = settings.self.key
        · rw [Entry.onSuspectedRecord, if_pos isSelf]
        · by_cases port : record.server.port = 0 <;>
            simp [Entry.onSuspectedRecord, offerSuspected, reportSuspected, isSelf, port,
              raised_of_le incarnation]
  rw [unchanged]
  exact same

end SecondPass

/-! ## The first pass -/

section FirstPass

variable (lamportTime) {entry : Entry} {record suspect : ServerRecord}

theorem Sound.offerAlive (sound : entry.Sound settings key) {subject : Server}
    (about : subject.key = key) (timestamp : UInt64) :
    (entry.offerAlive settings lamportTime subject timestamp).Sound settings key :=
  sound_invariant _ _ _ _ (.addAlive subject timestamp) (congrArg some about) sound

theorem Sound.onAliveRecord (sound : entry.Sound settings key)
    (about : record.key = key) :
    (entry.onAliveRecord settings lamportTime record).Sound settings key := by
  rw [Entry.onAliveRecord]
  split
  · exact sound
  · split
    · exact sound
    · exact sound_invariant settings lamportTime key _ (.raiseAlive record)
        (congrArg some about) (sound.offerAlive lamportTime about record.timestamp)

theorem Sound.knows_onAliveRecord (sound : entry.Sound settings key)
    (about : record.key = key) :
    (entry.onAliveRecord settings lamportTime record).KnowsAlive settings record := by
  by_cases isSelf : record.key = settings.self.key
  · exact .self isSelf
  by_cases stale : (entry.suspected.any fun found =>
      record.lamportTime < found.lamportTime) = true
  · rcases exists_of_any_stale stale with ⟨found, known, newer⟩
    rw [onAliveRecord_of_stale lamportTime known newer]
    exact .older found known newer
  rw [Entry.onAliveRecord, if_neg isSelf, if_neg stale]
  by_cases port : record.server.port = 0
  · have absent : entry.alive = none := (sound.refusesPortZero (about ▸ port)).1
    exact .refused port (by simp [Entry.offerAlive, port, absent])
  · simp only [Entry.offerAlive, if_neg port, addAlive_alive, Option.map_some]
    exact .listed _ (by simp) rfl (incarnation_le_raised record _)

theorem Sound.onAliveRecord_lamportTime (sound : entry.Sound settings key)
    (about : record.key = key) (other : key ≠ settings.self.key) (found : ServerRecord)
    (known : (entry.onAliveRecord settings lamportTime record).alive = some found) :
    found.lamportTime = lamportTime := by
  subst about
  by_cases stale : (entry.suspected.any fun found =>
      record.lamportTime < found.lamportTime) = true
  · rcases exists_of_any_stale stale with ⟨suspicion, suspected, newer⟩
    rw [onAliveRecord_of_stale lamportTime suspected newer] at known
    simpa [suspected, known] using sound.disjoint
  by_cases port : record.server.port = 0
  · have kept : (entry.onAliveRecord settings lamportTime record).alive.map
        ServerRecord.lamportTime = entry.alive.map ServerRecord.lamportTime :=
      (onAliveRecord_of_portless lamportTime port).1
    rw [known, (sound.refusesPortZero port).1] at kept
    cases kept
  · have current : ∀ found, entry.suspected = some found →
        found.lamportTime ≤ record.lamportTime := by
      intro suspicion suspected
      simpa [suspected] using stale
    have stored := (onAliveRecord_of_current lamportTime other port current).1
    simpa [known] using stored

theorem Sound.knows_onSuspectedRecord (sound : entry.Sound settings key)
    (about : record.key = key) :
    (entry.onSuspectedRecord settings lamportTime record).KnowsSuspected settings
      record := by
  by_cases isSelf : record.key = settings.self.key
  · exact .self isSelf
  by_cases stale : (entry.alive.any fun found =>
      record.lamportTime < found.lamportTime) = true
  · rcases exists_of_any_stale stale with ⟨found, known, newer⟩
    rw [onSuspectedRecord_of_stale lamportTime known newer]
    exact .older found known newer
  rw [Entry.onSuspectedRecord, if_neg isSelf, if_neg stale]
  by_cases port : record.server.port = 0
  · have absent : entry.suspected = none := (sound.refusesPortZero (about ▸ port)).2
    exact .refused port (by simp [offerSuspected, port, absent])
  · simp only [offerSuspected, port, ServerRecord.server_key, isSelf, if_false,
      reportSuspected_suspected, Option.map_some]
    exact .listed _ (by simp) rfl (incarnation_le_raised record _)

/-- A suspicion in the same report does not undo what an alive record of the report
has done: an entry that the alive record has refreshed is newer. -/
theorem KnowsAlive.onSuspectedRecord (knows : entry.KnowsAlive settings record)
    (sound : entry.Sound settings key) (about : record.key = key)
    (suspectAbout : suspect.key = key)
    (fresh : key ≠ settings.self.key → ∀ found, entry.alive = some found →
      suspect.lamportTime < found.lamportTime) :
    (entry.onSuspectedRecord settings lamportTime suspect).KnowsAlive settings
      record := by
  by_cases isSelf : key = settings.self.key
  · exact .self (about.trans isSelf)
  have other : suspect.key ≠ settings.self.key := suspectAbout ▸ isSelf
  cases knows with
  | self isSelfToo => exact absurd (about.symm.trans isSelfToo) isSelf
  | refused port absent =>
      have suspectPort : suspect.server.port = 0 :=
        (Server.port_eq_of_key (suspectAbout.trans about.symm)).trans port
      have kept : (entry.onSuspectedRecord settings lamportTime suspect).alive =
          entry.alive := (onSuspectedRecord_of_portless lamportTime suspectPort).1
      exact .refused port (kept.trans absent)
  | older found known stale =>
      have absent : entry.alive = none := by
        simpa [known] using sound.disjoint
      have suspectPort : suspect.server.port ≠ 0 := by
        intro port
        simpa [known] using (sound.refusesPortZero (suspectAbout ▸ port)).2
      have stands : entry.StillSuspects found entry.callbacks :=
        ⟨absent, ⟨found, known, rfl, rfl⟩, rfl⟩
      have standsOn : (entry.onSuspectedRecord settings lamportTime
          suspect).StillSuspects found entry.callbacks :=
        stands.onSuspectedRecord other suspectPort
      rcases standsOn.suspected with ⟨kept, keptKnown, _, sameTime⟩
      exact .older kept keptKnown (sameTime ▸ stale)
  | listed found clear known incarnation =>
      rw [onSuspectedRecord_of_stale lamportTime known (fresh isSelf found known)]
      exact .listed found clear known incarnation

end FirstPass

/-! ## Both passes -/

structure Absorbed (settings : Settings) (key : Key) (sender : Server)
    (report : SwimReport) (entry : Entry) : Prop where
  sender : sender.key = key → sender.port ≠ 0 →
    entry.suspected = none ∧ ∃ found, entry.alive = some found
  alive : ∀ record ∈ report.alive, record.key = key → entry.KnowsAlive settings record
  suspected : ∀ record ∈ report.suspected, record.key = key →
    entry.KnowsSuspected settings record

section Passes

variable {sender : Server} {report : SwimReport} {entry : Entry}

theorem Absorbed.sameButTimes (absorbed : entry.Absorbed settings key sender report)
    (stamped : entry.Stamped lamportTime) (now : UInt64) :
    entry.SameButTimes lamportTime
      (entry.onReport settings lamportTime key sender report now) := by
  have afterSender : entry.SameButTimes lamportTime (if sender.key = key then
      entry.offerAlive settings lamportTime sender now else entry) := by
    split
    next about =>
      rw [Entry.offerAlive]
      split
      · exact .refl lamportTime entry
      next port =>
        rcases absorbed.sender about port with ⟨clear, found, known⟩
        exact (SameButTimes.refl lamportTime entry).addAlive known clear sender now
    next => exact .refl lamportTime entry
  rw [Entry.onReport]
  apply List.foldlRecOn
  · apply List.foldlRecOn
    · exact afterSender
    · intro current same record member
      rcases mem_about member with ⟨listed, about⟩
      exact same.onAliveRecord (absorbed.alive record listed about)
  · intro current same record member
    rcases mem_about member with ⟨listed, about⟩
    exact same.onSuspectedRecord stamped (absorbed.suspected record listed about)

theorem about_eq_singleton {records : List ServerRecord}
    (unique : (records.map ServerRecord.key).Nodup) {record : ServerRecord}
    (member : record ∈ records) (about : record.key = key) :
    (records.filter fun record => record.key = key) = [record] := by
  induction records with
  | nil => cases member
  | cons first records induction =>
      rw [List.map_cons, List.nodup_cons] at unique
      rcases List.mem_cons.mp member with equal | member
      · subst equal
        rw [List.filter_cons_of_pos (by simpa using about), List.cons.injEq]
        refine ⟨rfl, List.filter_eq_nil_iff.mpr ?_⟩
        intro other otherMember otherAbout
        rw [decide_eq_true_eq] at otherAbout
        apply unique.1
        rw [about, ← otherAbout]
        exact List.mem_map_of_mem otherMember
      · have different : first.key ≠ key := by
          intro equal
          apply unique.1
          rw [equal, ← about]
          exact List.mem_map_of_mem member
        rw [List.filter_cons_of_neg (by simpa using different)]
        exact induction unique.2 member

theorem about_eq_nil_or_singleton {records : List ServerRecord}
    (unique : (records.map ServerRecord.key).Nodup) (key : Key) :
    (records.filter fun record => record.key = key) = [] ∨
      ∃ record ∈ records, record.key = key ∧
        (records.filter fun record => record.key = key) = [record] := by
  by_cases named : ∃ record ∈ records, record.key = key
  · rcases named with ⟨record, member, about⟩
    exact .inr ⟨record, member, about, about_eq_singleton unique member about⟩
  · refine .inl (List.filter_eq_nil_iff.mpr ?_)
    intro record member about
    exact named ⟨record, member, by simpa using about⟩

theorem stillAlive_onReport_of_sender (settings : Settings) (entry : Entry)
    (about : sender.key = key) (port : sender.port ≠ 0) (now : UInt64)
    (below : ∀ record ∈ report.suspected, record.lamportTime < lamportTime) :
    ∃ callbacks, (entry.onReport settings lamportTime key sender report now).StillAlive
      lamportTime callbacks := by
  refine ⟨(entry.addAlive settings lamportTime sender now).callbacks, ?_⟩
  have stands : (entry.addAlive settings lamportTime sender now).StillAlive lamportTime
      (entry.addAlive settings lamportTime sender now).callbacks := by
    refine ⟨⟨_, addAlive_alive .., ?_⟩, addAlive_suspected .., rfl⟩
    split <;> exact UInt64.le_refl _
  rw [Entry.onReport, if_pos about, Entry.offerAlive, if_neg port]
  apply stands.onRecords (UInt64.le_refl lamportTime)
  intro record member
  exact below record (mem_about member).1

theorem Sound.absorbed_onReport (sound : entry.Sound settings key) (now : UInt64)
    (uniqueAlive : (report.alive.map ServerRecord.key).Nodup)
    (uniqueSuspected : (report.suspected.map ServerRecord.key).Nodup)
    (below : ∀ record ∈ report.suspected, record.lamportTime < lamportTime) :
    (entry.onReport settings lamportTime key sender report now).Absorbed settings key
      sender report := by
  have soundSender : (if sender.key = key then
      entry.offerAlive settings lamportTime sender now else entry).Sound settings key := by
    split
    · exact sound.offerAlive lamportTime ‹_› now
    · exact sound
  constructor
  · intro about port
    rcases stillAlive_onReport_of_sender settings entry about port now below with
      ⟨callbacks, stands⟩
    rcases stands.alive with ⟨kept, known, _⟩
    exact ⟨stands.suspected, kept, known⟩
  · intro record member about
    have knows := soundSender.knows_onAliveRecord lamportTime about
    have soundAlive := soundSender.onAliveRecord lamportTime about
    rw [Entry.onReport, about_eq_singleton uniqueAlive member about]
    rcases about_eq_nil_or_singleton uniqueSuspected key with
      none | ⟨suspect, listed, suspectAbout, only⟩
    · rw [none]
      exact knows
    · rw [only]
      apply knows.onSuspectedRecord lamportTime soundAlive about suspectAbout
      intro other found known
      rw [soundSender.onAliveRecord_lamportTime lamportTime about other found known]
      exact below suspect listed
  · intro record member about
    rw [Entry.onReport, about_eq_singleton uniqueSuspected member about]
    apply Sound.knows_onSuspectedRecord lamportTime _ about
    rcases about_eq_nil_or_singleton uniqueAlive key with
      none | ⟨aliveRecord, listed, aliveAbout, only⟩
    · rw [none]
      exact soundSender
    · rw [only]
      exact soundSender.onAliveRecord lamportTime aliveAbout

end Passes

end Entry

/-! ## Servers -/

namespace SwimServer

theorem callbacks_notify {server : SwimServer} {callbacks : List Callback}
    (same : server.callbacks = callbacks) (callback : Callback) :
    callbacks <+: (server.notify callback).callbacks := by
  unfold notify
  split <;> simp [same]

theorem callbacks_removeSuspected (server : SwimServer) (removed : Server)
    (removeType : RemoveType) (seconds : UInt64) :
    server.callbacks <+: (server.removeSuspected removed removeType seconds).callbacks := by
  simp only [removeSuspected]
  split
  · apply callbacks_notify
    rfl
  · exact List.prefix_refl _

theorem callbacks_addAlive (server : SwimServer) (subject : Server) (timestamp : UInt64) :
    server.callbacks <+: (server.addAlive subject timestamp).1.callbacks := by
  have removed := server.callbacks_removeSuspected subject .alive timestamp
  simp only [addAlive]
  split
  · exact List.prefix_refl _
  · split
    · apply removed.trans
      apply callbacks_notify
      rfl
    · exact removed

theorem callbacks_reportSuspected (server : SwimServer) (subject : Server)
    (timestamp : UInt64) :
    server.callbacks <+: (server.reportSuspected subject timestamp).1.callbacks := by
  simp only [reportSuspected]
  split
  · exact List.prefix_refl _
  · split
    · exact server.callbacks_addAlive subject timestamp
    · split
      · apply callbacks_notify
        rfl
      · exact List.prefix_refl _

theorem callbacks_perform (server : SwimServer) (primitive : Primitive) :
    server.callbacks <+: (server.perform primitive).callbacks := by
  cases primitive with
  | addAlive subject timestamp => exact server.callbacks_addAlive subject timestamp
  | reportSuspected subject timestamp =>
      exact server.callbacks_reportSuspected subject timestamp
  | removeSuspected subject removeType seconds =>
      exact server.callbacks_removeSuspected subject removeType seconds
  | raiseAlive | raiseSuspected | post => exact List.prefix_refl _

theorem Reaches.callbacks {before after : SwimServer} (reaches : before.Reaches after) :
    before.callbacks <+: after.callbacks := by
  rcases reaches with ⟨steps, rfl⟩
  exact primitiveMachine.run_keeps (fun server => before.callbacks <+: server.callbacks)
    (fun server primitive grows => grows.trans (server.callbacks_perform primitive)) before
    steps (List.prefix_refl _)

theorem Reaches.callbacks_eq {before after : SwimServer} (reaches : before.Reaches after)
    (quiet : ∀ key, (after.entry key).callbacks = (before.entry key).callbacks) :
    after.callbacks = before.callbacks := by
  rcases reaches.callbacks with ⟨fired, appended⟩
  have noneFired : fired = [] := by
    apply List.eq_nil_iff_forall_not_mem.mpr
    intro callback member
    have same := quiet callback.subject
    simp only [entry, ← appended, List.filter_append, List.append_right_eq_self,
      List.filter_eq_nil_iff] at same
    exact same callback member (by simp)
  rw [← appended, noneFired, List.append_nil]

structure SameInformation (before after : SwimServer) : Prop where
  aliveKeys : ∀ key, after.alive.contains key = before.alive.contains key
  suspected : after.suspected = before.suspected
  incarnations : ∀ key,
    (after.alive.find? key).map (fun record => record.server.incarnation) =
      (before.alive.find? key).map fun record => record.server.incarnation
  callbacks : after.callbacks = before.callbacks

theorem Reaches.sameInformation {before after : SwimServer}
    (reaches : before.Reaches after) {lamportTime : UInt64}
    (same : ∀ key, (before.entry key).SameButTimes lamportTime (after.entry key)) :
    before.SameInformation after := by
  have alive : ∀ key, after.alive.find? key = before.alive.find? key ∨
      ∃ found timestamp, before.alive.find? key = some found ∧
        after.alive.find? key = some (refreshed timestamp lamportTime found) :=
    fun key => (same key).alive
  constructor
  · intro key
    rcases alive key with equal | ⟨found, timestamp, known, moved⟩
    · rw [OrderedSet.contains, equal, OrderedSet.contains]
    · rw [OrderedSet.contains, moved, OrderedSet.contains, known]
      rfl
  · exact OrderedSet.ext_find? fun key => (same key).suspected
  · intro key
    rcases alive key with equal | ⟨found, timestamp, known, moved⟩
    · rw [equal]
    · rw [moved, known]
      rfl
  · exact reaches.callbacks_eq fun key => (same key).callbacks

end SwimServer

/-- The handling of a delivery, as part of a run of the detector. -/
def Delivery.operations (delivery : Delivery) : List DetectorOperation :=
  [.server (.updateLamportTime delivery.lamportTime),
    .server (.onReport delivery.sender delivery.report delivery.now)]

/-- The records of the report are older than the envelope, and each list names a
server once. -/
structure Delivery.WellFormed (delivery : Delivery) : Prop where
  aliveBelow : ∀ record ∈ delivery.report.alive,
    record.lamportTime < delivery.lamportTime
  suspectedBelow : ∀ record ∈ delivery.report.suspected,
    record.lamportTime < delivery.lamportTime
  aliveUnique : (delivery.report.alive.map ServerRecord.key).Nodup
  suspectedUnique : (delivery.report.suspected.map ServerRecord.key).Nodup

namespace SwimServer

theorem Stamped.sameInformation {server : SwimServer} (stamped : server.Stamped)
    (delivery : Delivery) (fits : server.ClockFits delivery.lamportTime)
    (absorbed : ∀ key, (server.entry key).Absorbed server.toSettings key delivery.sender
      delivery.report) :
    server.SameInformation (server.deliver delivery) := by
  have ticked := stamped.updateLamportTime fits
  have reaches : (server.updateLamportTime delivery.lamportTime).Reaches
      (server.deliver delivery) :=
    reaches_operate _ (.onReport delivery.sender delivery.report delivery.now) (by simp)
  have same : ∀ key, ((server.updateLamportTime delivery.lamportTime).entry
      key).SameButTimes (server.clockAt delivery) ((server.deliver delivery).entry key) := by
    intro key
    rw [deliver, receiveReport, entry_onReport]
    exact (absorbed key).sameButTimes (ticked key) delivery.now
  have information := reaches.sameInformation same
  exact ⟨information.aliveKeys, information.suspected, information.incarnations,
    information.callbacks⟩

theorem Sound.absorbed_deliver {server : SwimServer} (sound : server.Sound)
    {delivery : Delivery} (wellFormed : delivery.WellFormed)
    (fits : server.ClockFits delivery.lamportTime) (key : Key) :
    ((server.deliver delivery).entry key).Absorbed (server.deliver delivery).toSettings
      key delivery.sender delivery.report := by
  rw [deliver_toSettings, deliver, receiveReport, entry_onReport]
  apply (sound.updateLamportTime delivery.lamportTime key).absorbed_onReport delivery.now
    wellFormed.aliveUnique wellFormed.suspectedUnique
  intro record member
  exact UInt64.lt_trans (wellFormed.suspectedBelow record member) fits.lt.2

theorem Stamped.deliver {server : SwimServer} (stamped : server.Stamped)
    {delivery : Delivery} (fits : server.ClockFits delivery.lamportTime) :
    (server.deliver delivery).Stamped :=
  Entry.stamped_invariant.reaches
    (reaches_operate _ (.onReport delivery.sender delivery.report delivery.now) (by simp))
    (stamped.updateLamportTime fits)

end SwimServer

/-- In every run of a detector around a fresh server that ends with the same envelope
handled twice, the second time changes nothing but times, as long as the clock does not
wrap around in either delivery or before. -/
theorem redelivery_harmless {Cost : Type} (costs : CostArithmetic Cost)
    (sort : LamportSort) (detector : GossipFailureDetector) (host : Host)
    (hostName : String) (port : UInt16) (statusCb : Bool)
    (fresh : detector.server = .create host hostName port statusCb)
    (operations : List DetectorOperation) (delivery : Delivery)
    (wellFormed : delivery.WellFormed) (later : UInt64)
    (clockFits : (detectorMachine costs sort).Along GossipFailureDetector.ClockFits
      detector (operations ++ delivery.operations ++
        { delivery with now := later }.operations)) :
    ((detectorMachine costs sort).run detector
        (operations ++ delivery.operations)).server.SameInformation
      ((detectorMachine costs sort).run detector (operations ++ delivery.operations ++
        { delivery with now := later }.operations)).server := by
  rw [Machine.along_append, Machine.along_append] at clockFits
  rcases clockFits with ⟨⟨before, first⟩, second⟩
  have valid := sound_stamped_run costs sort fresh before
  rw [Machine.run_append] at second
  rw [Machine.run_append, Machine.run_append _ _ (operations ++ delivery.operations),
    Machine.run_append]
  have absorbed := valid.1.absorbed_deliver wellFormed first.1
  have stamped := valid.2.deliver first.1
  exact stamped.sameInformation { delivery with now := later } second.1 absorbed

theorem redelivery_harmless_of_both_lists :
    let detector := GossipFailureDetector.create ⟨"node", fun _ => "10.0.0.1"⟩ "" true
      9000 1000 6 3
    let peer : Server := { hostname := "peer", port := 9001, incarnation := 3 }
    let other : Server := { hostname := "other", port := 9002 }
    let operations : List DetectorOperation :=
      [.server (.updateLamportTime 4), .server (.reportSuspected peer 5000)]
    let delivery : Delivery :=
      { lamportTime := 12
        sender := other
        report :=
          { alive := [{ server := peer, timestamp := 6000, lamportTime := 9 }]
            suspected :=
              [{ server := peer, timestamp := 7000, lamportTime := 11 },
                { server := other, timestamp := 7000, lamportTime := 11 }] }
        now := 8000 }
    ((detectorMachine exactCosts stableSort).run detector
        (operations ++ delivery.operations)).server.SameInformation
      ((detectorMachine exactCosts stableSort).run detector
        (operations ++ delivery.operations ++
          { delivery with now := 8100 }.operations)).server :=
  redelivery_harmless exactCosts stableSort _ ⟨"node", fun _ => "10.0.0.1"⟩ "" 9000 true
    rfl _ _ ⟨by decide, by decide, by decide, by decide⟩ 8100 (by decide +kernel)

/-- The second delivery wraps the clock around: the first has stamped the peer with the
largest Lamport time, the second stamps it with zero, and the suspected record of the
same report, which was older, is now newer. -/
theorem second_delivery_wraps :
    let detector := GossipFailureDetector.create ⟨"node", fun _ => "10.0.0.1"⟩ "" true
      9000 1000 6 3
    let peer : Server := { hostname := "peer", port := 9001 }
    let delivery : Delivery :=
      { lamportTime := 18446744073709551614
        sender := { hostname := "other", port := 9002 }
        report :=
          { alive := [{ server := peer, timestamp := 6000, lamportTime := 9 }]
            suspected := [{ server := peer, timestamp := 7000, lamportTime := 11 }] }
        now := 8000 }
    let first := ((detectorMachine exactCosts stableSort).run detector
      delivery.operations).server
    let second := ((detectorMachine exactCosts stableSort).run detector
      (delivery.operations ++ { delivery with now := 8100 }.operations)).server
    delivery.WellFormed ∧
      (detectorMachine exactCosts stableSort).Along GossipFailureDetector.ClockFits detector
        delivery.operations ∧
      first.suspected.toList = [] ∧
      second.suspected.toList.map ServerRecord.key = [peer.key] ∧
      second.callbacks.length = first.callbacks.length + 1 ∧
      ¬ first.SameInformation second := by
  intro detector peer delivery first second
  have nothing : first.suspected.toList = [] := by decide +kernel
  have suspects : second.suspected.toList.map ServerRecord.key = [peer.key] := by
    decide +kernel
  refine ⟨⟨by decide, by decide, by decide, by decide⟩, by decide +kernel, nothing,
    suspects, by decide +kernel, fun same => ?_⟩
  rw [same.suspected, nothing] at suspects
  cases suspects

end Gossip
