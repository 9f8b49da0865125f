import Gossip.Contracts.Membership

/-! # Stale records

`OnReport` skips an alive record that is older than the suspicion it would lift,
and a suspected record that is older than the contact it would deny. A report may
name one server any number of times in both lists, so the record that the check
reads can be changed by the report itself; the two relations below say what stays
as it was from one turn of a loop to the next. -/

namespace Gossip

open Foundation SwimServer

namespace Entry

variable {settings : Settings} {lamportTime : UInt64} {key : Key}

/-- The suspicion `found` stands, up to the incarnation of its record, and nobody
was told anything since. -/
structure StillSuspects (found : ServerRecord) (callbacks : List Callback)
    (entry : Entry) : Prop where
  alive : entry.alive = none
  suspected : ∃ kept, entry.suspected = some kept ∧
    kept.timestamp = found.timestamp ∧ kept.lamportTime = found.lamportTime
  callbacks : entry.callbacks = callbacks

/-- The server is still taken to be alive by a record no older than `since`, and
nobody was told anything since. -/
structure StillAlive (since : UInt64) (callbacks : List Callback) (entry : Entry) :
    Prop where
  alive : ∃ kept, entry.alive = some kept ∧ since ≤ kept.lamportTime
  suspected : entry.suspected = none
  callbacks : entry.callbacks = callbacks

section Turns

variable {found record : ServerRecord} {since : UInt64} {callbacks : List Callback}
  {entry : Entry}

theorem StillSuspects.onAliveRecord (stands : entry.StillSuspects found callbacks)
    (stale : record.lamportTime < found.lamportTime) :
    (entry.onAliveRecord settings lamportTime record).StillSuspects found callbacks := by
  rcases stands.suspected with ⟨kept, known, _, sameLamportTime⟩
  rw [← sameLamportTime] at stale
  rw [onAliveRecord_of_stale lamportTime known stale]
  exact stands

theorem StillSuspects.onSuspectedRecord (stands : entry.StillSuspects found callbacks)
    (other : record.key ≠ settings.self.key) (port : record.server.port ≠ 0) :
    (entry.onSuspectedRecord settings lamportTime record).StillSuspects found
      callbacks := by
  rcases stands.suspected with ⟨kept, known, sameTimestamp, sameLamportTime⟩
  have turn : entry.onSuspectedRecord settings lamportTime record =
      { entry with suspected := some (raised record kept) } := by
    rw [Entry.onSuspectedRecord, if_neg other, stands.alive]
    simp [offerSuspected, reportSuspected, other, port, known]
  rw [turn]
  exact ⟨stands.alive, ⟨_, rfl, by simpa using sameTimestamp, by simpa using
    sameLamportTime⟩, stands.callbacks⟩

theorem StillAlive.onAliveRecord (stands : entry.StillAlive since callbacks)
    (ticked : since ≤ lamportTime) :
    (entry.onAliveRecord settings lamportTime record).StillAlive since callbacks := by
  rcases stands.alive with ⟨kept, known, keptSince⟩
  rw [Entry.onAliveRecord, stands.suspected]
  split
  · exact stands
  simp only [Option.any_none, Bool.false_eq_true, if_false, offerAlive]
  split
  · rw [known]
    exact ⟨⟨_, rfl, by simpa using keptSince⟩, stands.suspected, stands.callbacks⟩
  · rw [addAlive, known]
    exact ⟨⟨_, rfl, by simpa [refreshed] using ticked⟩, rfl, stands.callbacks⟩

theorem StillAlive.onSuspectedRecord (stands : entry.StillAlive since callbacks)
    (stale : record.lamportTime < since) :
    (entry.onSuspectedRecord settings lamportTime record).StillAlive since
      callbacks := by
  rcases stands.alive with ⟨kept, known, keptSince⟩
  have staleHere : record.lamportTime < kept.lamportTime :=
    UInt64.lt_of_lt_of_le stale keptSince
  rw [onSuspectedRecord_of_stale lamportTime known staleHere]
  exact stands

end Turns

section Reports

variable {sender : Server} {report : SwimReport} {now : UInt64} {entry : Entry}
  {found : ServerRecord} {callbacks : List Callback}

theorem mem_about {records : List ServerRecord} {record : ServerRecord}
    (member : record ∈ records.filter fun record => record.key = key) :
    record ∈ records ∧ record.key = key := by
  simpa using List.mem_filter.mp member

theorem StillSuspects.onReport (stands : entry.StillSuspects found callbacks)
    (other : key ≠ settings.self.key) (port : Key.port key ≠ 0)
    (notSender : sender.key ≠ key)
    (stale : ∀ record ∈ report.alive, record.key = key →
      record.lamportTime < found.lamportTime) :
    (entry.onReport settings lamportTime key sender report now).StillSuspects found
      callbacks := by
  rw [Entry.onReport, if_neg notSender]
  apply List.foldlRecOn
  · apply List.foldlRecOn
    · exact stands
    · intro entry stands record member
      rcases mem_about member with ⟨listed, about⟩
      exact stands.onAliveRecord (stale record listed about)
  · intro entry stands record member
    rcases mem_about member with ⟨_, about⟩
    subst about
    exact stands.onSuspectedRecord other port

theorem StillAlive.onRecords {since : UInt64} (stands : entry.StillAlive since callbacks)
    (ticked : since ≤ lamportTime) (alive : List ServerRecord)
    {suspected : List ServerRecord}
    (stale : ∀ record ∈ suspected, record.lamportTime < since) :
    (suspected.foldl (Entry.onSuspectedRecord settings lamportTime)
      (alive.foldl (Entry.onAliveRecord settings lamportTime) entry)).StillAlive since
        callbacks := by
  apply List.foldlRecOn
  · apply List.foldlRecOn
    · exact stands
    · intro entry stands record _
      exact stands.onAliveRecord ticked
  · intro entry stands record member
    exact stands.onSuspectedRecord (stale record member)

theorem StillAlive.onReport {since : UInt64} (stands : entry.StillAlive since callbacks)
    (notSender : sender.key ≠ key) (ticked : since ≤ lamportTime)
    (stale : ∀ record ∈ report.suspected, record.key = key →
      record.lamportTime < since) :
    (entry.onReport settings lamportTime key sender report now).StillAlive since
      callbacks := by
  rw [Entry.onReport, if_neg notSender]
  apply stands.onRecords ticked
  intro record member
  rcases mem_about member with ⟨listed, about⟩
  exact stale record listed about

end Reports

end Entry

/-! ## Every reachable server -/

/-- What `OnReport` leaves as it was for a server that is neither the receiver nor
the sender. -/
structure SwimServer.IgnoresStale (before : SwimServer) (sender : Server)
    (report : SwimReport) (now : UInt64) (key : Key) : Prop where
  suspected : ∀ found, before.suspected.find? key = some found →
    (∀ record ∈ report.alive, record.key = key →
      record.lamportTime < found.lamportTime) →
    ((before.onReport sender report now).entry key).StillSuspects found
      (before.entry key).callbacks
  alive : ∀ found, before.alive.find? key = some found →
    (∀ record ∈ report.suspected, record.key = key →
      record.lamportTime < found.lamportTime) →
    ((before.onReport sender report now).entry key).StillAlive found.lamportTime
      (before.entry key).callbacks

theorem SwimServer.Sound.ignoresStale {server : SwimServer} (sound : server.Sound)
    (stamped : server.Stamped) {sender : Server} (report : SwimReport) (now : UInt64)
    {key : Key} (other : key ≠ server.self.key) (notSender : sender.key ≠ key) :
    server.IgnoresStale sender report now key where
  suspected := by
    intro found known stale
    have unknownAlive : server.alive.find? key = none := by
      simpa [known] using (sound key).disjoint
    have port : Key.port key ≠ 0 := by
      intro zero
      simpa [known] using ((sound key).refusesPortZero zero).2
    rw [entry_onReport]
    have stands : (server.entry key).StillSuspects found (server.entry key).callbacks :=
      ⟨unknownAlive, ⟨found, known, rfl, rfl⟩, rfl⟩
    exact stands.onReport other port notSender stale
  alive := by
    intro found known stale
    have unknownSuspected : server.suspected.find? key = none := by
      simpa [known] using (sound key).disjoint
    rw [entry_onReport]
    have stands : (server.entry key).StillAlive found.lamportTime
        (server.entry key).callbacks :=
      ⟨⟨found, known, UInt64.le_refl _⟩, unknownSuspected, rfl⟩
    exact stands.onReport notSender ((stamped key).alive found known) stale

/-- In every state that a detector around a fresh server reaches before its clock
wraps around, and for every report. -/
theorem stale_records_change_nothing {Cost : Type} (costs : CostArithmetic Cost)
    (sort : LamportSort) (detector : GossipFailureDetector) (host : Host)
    (hostName : String) (port : UInt16) (statusCb : Bool)
    (fresh : detector.server = .create host hostName port statusCb)
    (operations : List DetectorOperation)
    (clockFits : (detectorMachine costs sort).Along GossipFailureDetector.ClockFits
      detector operations)
    (sender : Server) (report : SwimReport) (now : UInt64) (key : Key)
    (other : key ≠ ((detectorMachine costs sort).run detector operations).server.self.key)
    (notSender : sender.key ≠ key) :
    ((detectorMachine costs sort).run detector operations).server.IgnoresStale sender
      report now key := by
  have valid := sound_stamped_run costs sort fresh clockFits
  exact valid.1.ignoresStale valid.2 report now other notSender

theorem stale_records_change_nothing_of_suspected :
    let detector := GossipFailureDetector.create ⟨"node", fun _ => "10.0.0.1"⟩ "" true
      9000 1000 6 3
    let peer : Server := { hostname := "peer", port := 9001 }
    let server := ((detectorMachine exactCosts stableSort).run detector
      [.server (.updateLamportTime 8),
        .server (.reportSuspected peer 5000)]).server
    let report : SwimReport :=
      { alive := [{ server := peer, timestamp := 6000, lamportTime := 8 }]
        suspected :=
          [{ server := peer, timestamp := 7000, lamportTime := 20 },
            { server := { peer with incarnation := 4 }, lamportTime := 1 }] }
    let found : ServerRecord :=
      { server := { peer with ipAddr := some "" }, timestamp := 5000, lamportTime := 9 }
    server.suspected.find? peer.key = some found ∧
      ((server.onReport { hostname := "other", port := 9002 } report 6500).entry
        peer.key).StillSuspects found (server.entry peer.key).callbacks := by
  refine ⟨by decide +kernel, ?_⟩
  exact (stale_records_change_nothing exactCosts stableSort _
    ⟨"node", fun _ => "10.0.0.1"⟩ "" 9000 true rfl _ (by decide +kernel) _ _ 6500 _
    (by decide +kernel) (by decide +kernel)).suspected _ (by decide +kernel) (by decide)

end Gossip
