import Gossip.Contracts.Membership

/-! # Incarnations

A move from one set to the other makes a new record, and a new record starts with
incarnation zero. The incarnation of a server that stays known grows as long as only such
servers move whose incarnation is zero, or about which a report brings one that is at least
as large. -/

namespace Gossip

open Foundation SwimServer

/-! ## Operations, one server at a time -/

inductive Happening
  | tick (time : UInt64)
  | addAlive (subject : Server) (timestamp : UInt64)
  | reportSuspected (subject : Server) (timestamp : UInt64)
  | removeSuspected (subject : Server) (removeType : RemoveType) (seconds : UInt64)
  /-- A turn of one of the two loops of `OnReport`. -/
  | aliveRecord (record : ServerRecord)
  | suspectedRecord (reportSender : Server) (record : ServerRecord)
  /-- The report that a thread of `OnForwardRequest` sends. -/
  | forward (sender destination : Server) (seconds : UInt64)

def SwimServer.undergo (server : SwimServer) : Happening → SwimServer
  | .tick time => server.updateLamportTime time
  | .addAlive subject timestamp => (server.addAlive subject timestamp).1
  | .reportSuspected subject timestamp => (server.reportSuspected subject timestamp).1
  | .removeSuspected subject removeType seconds =>
      server.removeSuspected subject removeType seconds
  | .aliveRecord record => server.onAliveRecord record
  | .suspectedRecord reportSender record => onSuspectedRecord reportSender server record
  | .forward sender destination seconds =>
      server.post ((server.client destination).send
        { sender := sender, suspected := [makeRecord destination seconds] }).2

def happeningMachine : Machine SwimServer Happening := ⟨SwimServer.undergo⟩

@[simp] theorem happeningMachine_step (server : SwimServer) (happening : Happening) :
    happeningMachine.step server happening = server.undergo happening := rfl

def ServerOperation.happenings : ServerOperation → List Happening
  | .updateLamportTime time => [.tick time]
  | .addAlive subject timestamp => [.addAlive subject timestamp]
  | .reportSuspected subject timestamp => [.reportSuspected subject timestamp]
  | .removeSuspected subject removeType seconds =>
      [.removeSuspected subject removeType seconds]
  | .onUpdate client now => [.addAlive client now, .removeSuspected client .alive now]
  | .onReport sender report now =>
      .addAlive sender now :: (report.alive.map .aliveRecord ++
        report.suspected.map (.suspectedRecord report.sender))
  | .onForwardRequest sender now => [.addAlive sender now]
  | .forwardPing sender destination seconds answered now =>
      .forward sender destination seconds ::
        if answered then [] else [.reportSuspected destination now]

theorem run_happenings (server : SwimServer) (operation : ServerOperation) :
    happeningMachine.run server operation.happenings = server.operate operation := by
  cases operation with
  | onUpdate client now =>
      simp [ServerOperation.happenings, undergo, operate, onUpdate, removeSuspected_alive_eq]
  | onReport sender report now =>
      simp [ServerOperation.happenings, Machine.run, happeningMachine, undergo, operate,
        onReport, List.foldl_map]
  | forwardPing sender destination seconds answered now => cases answered <;> rfl
  | updateLamportTime | addAlive | reportSuspected | removeSuspected | onForwardRequest =>
      rfl

theorem run_flatMap_happenings (server : SwimServer) (operations : List ServerOperation) :
    happeningMachine.run server (operations.flatMap ServerOperation.happenings) =
      serverMachine.run server operations := by
  induction operations generalizing server with
  | nil => rfl
  | cons operation operations induction =>
      rw [List.flatMap_cons, Machine.run_append, run_happenings, induction]
      rfl

/-! ## Incarnations -/

namespace Entry

def incarnation? (entry : Entry) : Option UInt64 :=
  (entry.alive.or entry.suspected).map fun record => record.server.incarnation

def KeepsIncarnation (before after : Entry) : Prop :=
  ∀ earlier later, before.incarnation? = some earlier → after.incarnation? = some later →
    earlier ≤ later

variable (settings : Settings) (lamportTime : UInt64) {key : Key} {entry : Entry}

theorem KeepsIncarnation.refl (entry : Entry) : entry.KeepsIncarnation entry := by
  intro earlier later before after
  rw [before] at after
  exact UInt64.le_of_eq (Option.some.inj after)

theorem keepsIncarnation_of_unknown (unknown : entry.incarnation? = none) (after : Entry) :
    entry.KeepsIncarnation after := by
  intro earlier later before
  rw [unknown] at before
  cases before

theorem keepsIncarnation_iff {after : Entry} {before later : ServerRecord}
    (known : entry.alive.or entry.suspected = some before)
    (stillKnown : after.alive.or after.suspected = some later) :
    entry.KeepsIncarnation after ↔ before.server.incarnation ≤ later.server.incarnation := by
  simp [KeepsIncarnation, incarnation?, known, stillKnown]

theorem Sound.port (sound : entry.Sound settings key) {subject : Server}
    (about : subject.key = key) {record : ServerRecord}
    (known : entry.alive.or entry.suspected = some record) : subject.port ≠ 0 := by
  intro zero
  have unknown := sound.refusesPortZero (by rw [← about, Server.key_port, zero])
  simp [unknown] at known

theorem Sound.cases (sound : entry.Sound settings key) :
    entry.alive = none ∧ entry.suspected = none ∨
      (∃ record, entry.alive = some record ∧ entry.suspected = none) ∨
      ∃ record, entry.alive = none ∧ entry.suspected = some record := by
  rcases sound.disjoint with absent | absent
  · cases known : entry.suspected <;> simp [absent]
  · cases known : entry.alive <;> simp [absent]

theorem keepsIncarnation_offerAlive (sound : entry.Sound settings key) {subject : Server}
    (about : subject.key = key) (timestamp : UInt64) :
    entry.KeepsIncarnation (entry.offerAlive settings lamportTime subject timestamp) ↔
      ∀ found, entry.suspected = some found → found.server.incarnation = 0 := by
  let after := entry.offerAlive settings lamportTime subject timestamp
  rcases sound.cases with ⟨alive, suspected⟩ | ⟨record, alive, suspected⟩ |
    ⟨record, alive, suspected⟩
  · simp [keepsIncarnation_of_unknown, incarnation?, alive, suspected]
  · have known : entry.alive.or entry.suspected = some record := by simp [alive]
    have port := sound.port settings about known
    have stillKnown : after.alive.or after.suspected =
        some (refreshed timestamp lamportTime record) := by
      simp [after, offerAlive, port, alive]
    rw [keepsIncarnation_iff known stillKnown]
    simp [suspected, refreshed]
  · have known : entry.alive.or entry.suspected = some record := by simp [alive, suspected]
    have port := sound.port settings about known
    have stillKnown : after.alive.or after.suspected =
        some (stampedRecord lamportTime subject timestamp) := by
      simp [after, offerAlive, port, alive]
    rw [keepsIncarnation_iff known stillKnown]
    simp [suspected, stampedRecord, makeRecord]

theorem keepsIncarnation_offerSuspected (sound : entry.Sound settings key)
    {subject : Server} (about : subject.key = key) (timestamp : UInt64) :
    entry.KeepsIncarnation (entry.offerSuspected settings lamportTime subject timestamp) ↔
      (key ≠ settings.self.key →
        ∀ found, entry.alive = some found → found.server.incarnation = 0) := by
  by_cases own : key = settings.self.key
  · have contact : entry.offerSuspected settings lamportTime subject timestamp =
        entry.offerAlive settings lamportTime subject timestamp := by
      rw [offerSuspected, offerAlive, if_pos (about.trans own)]
    rw [contact, keepsIncarnation_offerAlive settings lamportTime sound about]
    simp [own, sound.neverSuspectsSelf own]
  let after := entry.offerSuspected settings lamportTime subject timestamp
  have other : subject.key ≠ settings.self.key := about ▸ own
  rcases sound.cases with ⟨alive, suspected⟩ | ⟨record, alive, suspected⟩ |
    ⟨record, alive, suspected⟩
  · simp [keepsIncarnation_of_unknown, incarnation?, alive, suspected]
  · have known : entry.alive.or entry.suspected = some record := by simp [alive]
    have port := sound.port settings about known
    have stillKnown : after.alive.or after.suspected =
        some (stampedRecord lamportTime subject timestamp) := by
      simp [after, offerSuspected, port, other, suspected]
    rw [keepsIncarnation_iff known stillKnown]
    simp [alive, own, stampedRecord, makeRecord]
  · have known : entry.alive.or entry.suspected = some record := by simp [alive, suspected]
    have port := sound.port settings about known
    have stillKnown : after.alive.or after.suspected = some record := by
      simp [after, offerSuspected, port, other, suspected]
    rw [keepsIncarnation_iff known stillKnown]
    simp [alive]

theorem le_raised_incarnation (incoming stored : ServerRecord) :
    stored.server.incarnation ≤ (raised incoming stored).server.incarnation := by
  unfold raised
  split
  next larger => exact UInt64.le_of_lt larger
  next => exact UInt64.le_refl _

theorem raised_stampedRecord_incarnation (incoming : ServerRecord) (subject : Server)
    (timestamp : UInt64) :
    (raised incoming (stampedRecord lamportTime subject timestamp)).server.incarnation =
      incoming.server.incarnation := by
  unfold raised
  split
  next => rfl
  next notLarger => exact (UInt64.le_zero_iff.mp (UInt64.not_lt.mp notLarger)).symm

theorem keepsIncarnation_onAliveRecord (sound : entry.Sound settings key)
    {record : ServerRecord} (about : record.key = key) :
    entry.KeepsIncarnation (entry.onAliveRecord settings lamportTime record) ↔
      ∀ found, entry.suspected = some found →
        found.lamportTime ≤ record.lamportTime →
          found.server.incarnation ≤ record.server.incarnation := by
  by_cases own : record.key = settings.self.key
  · rw [onAliveRecord, if_pos own]
    simp [KeepsIncarnation.refl, sound.neverSuspectsSelf (about ▸ own)]
  let after := entry.onAliveRecord settings lamportTime record
  rcases sound.cases with ⟨alive, suspected⟩ | ⟨stored, alive, suspected⟩ |
    ⟨stored, alive, suspected⟩
  · simp [keepsIncarnation_of_unknown, incarnation?, alive, suspected]
  · have known : entry.alive.or entry.suspected = some stored := by simp [alive]
    have port := sound.port settings about known
    have stillKnown : after.alive.or after.suspected =
        some (raised record (refreshed record.timestamp lamportTime stored)) := by
      simp [after, onAliveRecord, own, offerAlive, port, alive, suspected]
    rw [keepsIncarnation_iff known stillKnown]
    have larger := le_raised_incarnation record
      (refreshed record.timestamp lamportTime stored)
    simpa [suspected, refreshed] using larger
  · by_cases current : stored.lamportTime ≤ record.lamportTime
    case neg =>
      rw [onAliveRecord_of_stale lamportTime suspected (UInt64.not_le.mp current)]
      simp [KeepsIncarnation.refl, suspected, current]
    have known : entry.alive.or entry.suspected = some stored := by simp [alive, suspected]
    have port := sound.port settings about known
    have stillKnown : after.alive.or after.suspected =
        some (raised record (stampedRecord lamportTime record.server record.timestamp)) := by
      simp [after, onAliveRecord, own, offerAlive, port, alive, suspected,
        UInt64.not_lt.mpr current]
    rw [keepsIncarnation_iff known stillKnown, raised_stampedRecord_incarnation]
    simp [suspected, current]

theorem keepsIncarnation_onSuspectedRecord (sound : entry.Sound settings key)
    {record : ServerRecord} (about : record.key = key) :
    entry.KeepsIncarnation (entry.onSuspectedRecord settings lamportTime record) ↔
      (key ≠ settings.self.key → ∀ found, entry.alive = some found →
        found.lamportTime ≤ record.lamportTime →
          found.server.incarnation ≤ record.server.incarnation) := by
  by_cases own : record.key = settings.self.key
  · rw [onSuspectedRecord, if_pos own]
    simp [KeepsIncarnation.refl, about ▸ own]
  let after := entry.onSuspectedRecord settings lamportTime record
  rcases sound.cases with ⟨alive, suspected⟩ | ⟨stored, alive, suspected⟩ |
    ⟨stored, alive, suspected⟩
  · simp [keepsIncarnation_of_unknown, incarnation?, alive, suspected]
  · by_cases current : stored.lamportTime ≤ record.lamportTime
    case neg =>
      rw [onSuspectedRecord_of_stale lamportTime alive (UInt64.not_le.mp current)]
      simp [KeepsIncarnation.refl, alive, current]
    have known : entry.alive.or entry.suspected = some stored := by simp [alive]
    have port := sound.port settings about known
    have stillKnown : after.alive.or after.suspected =
        some (raised record (stampedRecord lamportTime record.server record.timestamp)) := by
      simp [after, onSuspectedRecord, own, offerSuspected, port, alive, suspected,
        UInt64.not_lt.mpr current]
    rw [keepsIncarnation_iff known stillKnown, raised_stampedRecord_incarnation]
    simp [alive, current, about ▸ own]
  · have known : entry.alive.or entry.suspected = some stored := by simp [alive, suspected]
    have port := sound.port settings about known
    have stillKnown : after.alive.or after.suspected = some (raised record stored) := by
      simp [after, onSuspectedRecord, own, offerSuspected, port, alive, suspected]
    rw [keepsIncarnation_iff known stillKnown]
    simpa [alive] using le_raised_incarnation record stored

end Entry

namespace SwimServer

def incarnation? (server : SwimServer) (key : Key) : Option UInt64 :=
  (server.entry key).incarnation?

def MovesWisely (server : SwimServer) : Happening → Prop
  | .addAlive subject _ => ∀ found ∈ server.suspected.find? subject.key,
      found.server.incarnation = 0
  | .reportSuspected subject _ => subject.key ≠ server.self.key →
      ∀ found ∈ server.alive.find? subject.key, found.server.incarnation = 0
  | .aliveRecord record => ∀ found ∈ server.suspected.find? record.key,
      found.lamportTime ≤ record.lamportTime →
        found.server.incarnation ≤ record.server.incarnation
  | .suspectedRecord _ record => record.key ≠ server.self.key →
      ∀ found ∈ server.alive.find? record.key, found.lamportTime ≤ record.lamportTime →
        found.server.incarnation ≤ record.server.incarnation
  | .tick _ | .removeSuspected .. | .forward .. => True

instance (server : SwimServer) : ∀ happening, Decidable (server.MovesWisely happening)
  | .addAlive .. | .aliveRecord _ => inferInstanceAs (Decidable (∀ found ∈ _, _))
  | .reportSuspected .. | .suspectedRecord .. => inferInstanceAs (Decidable (_ → _))
  | .tick _ | .removeSuspected .. | .forward .. => isTrue trivial

theorem forall_keepsIncarnation_iff {server after : SwimServer} {subject : Key}
    (effect : Settings → UInt64 → Entry → Entry) {condition : Prop}
    (acts : ∀ key, after.entry key =
      if subject = key then
        effect server.toSettings server.lamportTime (server.entry key)
      else server.entry key)
    (keeps : (server.entry subject).KeepsIncarnation
      (effect server.toSettings server.lamportTime (server.entry subject)) ↔ condition) :
    (∀ key, (server.entry key).KeepsIncarnation (after.entry key)) ↔ condition := by
  rw [← keeps]
  constructor
  · intro all
    have here := all subject
    rwa [acts subject, if_pos rfl] at here
  · intro here key
    rw [acts key]
    split
    next about => exact about ▸ here
    next => exact .refl _

theorem keepsIncarnation_iff_movesWisely {server : SwimServer} (sound : server.Sound)
    (happening : Happening) :
    (∀ key, (server.entry key).KeepsIncarnation
      ((server.undergo happening).entry key)) ↔ server.MovesWisely happening := by
  cases happening with
  | tick time => exact iff_of_true (fun key => .refl _) trivial
  | forward sender destination seconds => exact iff_of_true (fun key => .refl _) trivial
  | addAlive subject timestamp =>
      exact forall_keepsIncarnation_iff
        (fun settings time entry => entry.offerAlive settings time subject timestamp)
        (server.entry_addAlive subject timestamp)
        (Entry.keepsIncarnation_offerAlive _ _ (sound subject.key) rfl timestamp)
  | reportSuspected subject timestamp =>
      exact forall_keepsIncarnation_iff
        (fun settings time entry => entry.offerSuspected settings time subject timestamp)
        (server.entry_reportSuspected subject timestamp)
        (Entry.keepsIncarnation_offerSuspected _ _ (sound subject.key) rfl timestamp)
  | aliveRecord record =>
      exact forall_keepsIncarnation_iff
        (fun settings time entry => entry.onAliveRecord settings time record)
        (server.entry_onAliveRecord record)
        (Entry.keepsIncarnation_onAliveRecord _ _ (sound record.key) rfl)
  | suspectedRecord reportSender record =>
      exact forall_keepsIncarnation_iff
        (fun settings time entry => entry.onSuspectedRecord settings time record)
        (entry_onSuspectedRecord reportSender server record)
        (Entry.keepsIncarnation_onSuspectedRecord _ _ (sound record.key) rfl)
  | removeSuspected subject removeType seconds =>
      refine forall_keepsIncarnation_iff
        (fun settings _ entry => entry.removeSuspected settings subject removeType seconds)
        (server.entry_removeSuspected subject removeType seconds)
        (iff_of_true ?_ trivial)
      -- A server that is still known after its suspicion has gone was alive all along.
      intro earlier later before after
      simp only [Entry.incarnation?, Entry.removeSuspected_alive,
        Entry.removeSuspected_suspected, Option.or_none] at after
      rcases Option.map_eq_some_iff.mp after with ⟨record, alive, rfl⟩
      simp only [Entry.incarnation?, alive, Option.some_or, Option.map_some,
        Option.some.injEq] at before
      exact UInt64.le_of_eq before.symm

theorem Sound.undergo {server : SwimServer} (sound : server.Sound) (happening : Happening) :
    (server.undergo happening).Sound := by
  cases happening with
  | tick time => exact sound
  | addAlive subject timestamp => exact sound.operate (.addAlive subject timestamp)
  | reportSuspected subject timestamp =>
      exact sound.operate (.reportSuspected subject timestamp)
  | removeSuspected subject removeType seconds =>
      exact sound.operate (.removeSuspected subject removeType seconds)
  | aliveRecord record =>
      exact Entry.sound_invariant.reaches ⟨_, server.run_aliveRecordCalls record⟩ sound
  | suspectedRecord reportSender record =>
      exact Entry.sound_invariant.reaches
        ⟨_, run_suspectedRecordCalls reportSender server record⟩ sound
  | forward sender destination seconds => exact sound

end SwimServer

def NeverLowersIncarnation (step : Machine.Step SwimServer Happening) : Prop :=
  ∀ key earlier later, step.before.incarnation? key = some earlier →
    step.after.incarnation? key = some later → earlier ≤ later

/-- In a run of a server, whatever the operations and the reports in them, no incarnation
of a known server ever goes down exactly when all moves between the sets are wise. -/
theorem incarnations_never_decrease_iff (host : Host) (hostName : String) (port : UInt16)
    (statusCb : Bool) (operations : List ServerOperation) :
    let server := create host hostName port statusCb
    let happenings := operations.flatMap ServerOperation.happenings
    happeningMachine.run server happenings = serverMachine.run server operations ∧
      ((∀ step ∈ happeningMachine.trace server happenings, NeverLowersIncarnation step) ↔
        happeningMachine.Along MovesWisely server happenings) := by
  intro server happenings
  refine ⟨run_flatMap_happenings server operations, ?_⟩
  have unrestricted : happeningMachine.Along (fun _ _ => True) server happenings :=
    happeningMachine.along_of_forall_mem (fun _ _ _ => trivial) server
  exact happeningMachine.forall_mem_trace_iff_along Sound NeverLowersIncarnation
    (fun _ happening sound _ _ => sound.undergo happening)
    (fun _ happening sound _ => keepsIncarnation_iff_movesWisely sound happening)
    (create_sound host hostName port statusCb) unrestricted

theorem incarnations_never_decrease_with_new_incarnation :
    let server := create ⟨"node", fun _ => "10.0.0.1"⟩ "" 9000 true
    let record (incarnation time : UInt64) : ServerRecord :=
      { server := { hostname := "peer", port := 9001, incarnation := incarnation }
        timestamp := 10
        lamportTime := time }
    let sender : Server := { hostname := "left", port := 9002 }
    ∀ step ∈ happeningMachine.trace server
      ([.onReport sender { alive := [record 5 1] } 11,
        .onReport sender { suspected := [record 6 2] } 12].flatMap
          ServerOperation.happenings), NeverLowersIncarnation step := by
  intro server record sender
  exact (incarnations_never_decrease_iff _ _ _ _ _).2.mpr (by decide)

/-- A report brings incarnation 5 of a peer; after a failed contact it is 0. -/
theorem incarnation_lost_in_move :
    let server := create ⟨"node", fun _ => "10.0.0.1"⟩ "" 9000 true
    let peer : Server := { hostname := "peer", port := 9001 }
    let record : ServerRecord :=
      { server := { peer with incarnation := 5 }, timestamp := 10, lamportTime := 1 }
    let operations : List ServerOperation :=
      [.onReport { hostname := "left", port := 9002 } { alive := [record] } 11,
        .reportSuspected peer 12]
    (serverMachine.run server (operations.take 1)).incarnation? peer.key = some 5 ∧
      (serverMachine.run server operations).incarnation? peer.key = some 0 ∧
      ¬ ∀ step ∈ happeningMachine.trace server
        (operations.flatMap ServerOperation.happenings), NeverLowersIncarnation step := by
  intro server peer record operations
  refine ⟨by decide, by decide, fun never => ?_⟩
  have notLower := never _ (List.get_mem _ ⟨2, by decide⟩) peer.key 5 0 (by decide) (by decide)
  exact absurd notLower (by decide)

end Gossip
