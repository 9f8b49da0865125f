import Gossip.Contracts.Membership
import Gossip.Foundation.Changes

/-! # Status transitions and callbacks

A server is unknown, alive or suspected. The documented state diagram allows
five transitions, and the status callback announces each of them once. -/

namespace Gossip

open Foundation SwimServer

/-! ## The state diagram -/

inductive Status
  | unknown
  | alive
  | suspected
deriving DecidableEq, Repr

namespace Status

def announced : Status → ServerStatus
  | .unknown => .removed
  | .alive => .alive
  | .suspected => .suspect

inductive Follows : Status → Status → Prop
  | discovered : Follows .unknown .alive
  | reported : Follows .unknown .suspected
  | failed : Follows .alive .suspected
  | recovered : Follows .suspected .alive
  | evicted : Follows .suspected .unknown

end Status

def Entry.status (entry : Entry) : Status :=
  match entry.alive, entry.suspected with
  | some _, _ => .alive
  | none, some _ => .suspected
  | none, none => .unknown

def SwimServer.status (server : SwimServer) (key : Key) : Status :=
  (server.entry key).status

def SwimServer.callbacksFor (server : SwimServer) (key : Key) : List Callback :=
  server.callbacks.filter fun callback => callback.subject = key

/-! ## One call -/

def Entry.Harmless (entry : Entry) : Primitive → Prop
  | .removeSuspected _ .alive _ => entry.suspected = none
  | _ => True

def Primitive.Moves (primitive : Primitive) (before after : Status) : Prop :=
  before = after ∨ before.Follows after ∧
    (after = .unknown → ∃ subject seconds,
      primitive = .removeSuspected subject .evicted seconds)

namespace Entry

def Announces (before after : Entry) : Prop :=
  after.callbacks.map Callback.status = before.callbacks.map Callback.status ++
    (changes before.status [after.status]).map Status.announced

theorem announces_of_same {before after : Entry} (status : after.status = before.status)
    (callbacks : after.callbacks = before.callbacks) : before.Announces after := by
  simp [Announces, status, callbacks, changes]

theorem status_of_alive {entry : Entry} {record : ServerRecord}
    (known : entry.alive = some record) : entry.status = .alive := by
  simp [status, known]

theorem status_of_suspected {entry : Entry} (notAlive : entry.alive = none)
    (known : entry.suspected.isSome) : entry.status = .suspected := by
  rcases Option.isSome_iff_exists.mp known with ⟨record, present⟩
  simp [status, notAlive, present]

theorem status_eq_unknown_iff (entry : Entry) :
    entry.status = .unknown ↔ entry.alive = none ∧ entry.suspected = none := by
  cases alive : entry.alive <;> cases suspected : entry.suspected <;>
    simp [status, alive, suspected]

theorem status_congr {first second : Entry}
    (alive : second.alive.isSome = first.alive.isSome)
    (suspected : second.suspected.isSome = first.suspected.isSome) :
    second.status = first.status := by
  unfold status
  cases firstAlive : first.alive <;> cases firstSuspected : first.suspected <;>
    cases secondAlive : second.alive <;> cases secondSuspected : second.suspected <;>
    simp_all

section Calls

variable {settings : Settings} {key : Key} {entry : Entry}

theorem addAlive_status (lamportTime : UInt64) (subject : Server) (timestamp : UInt64) :
    (entry.addAlive settings lamportTime subject timestamp).status = .alive := by
  simp [status]

theorem addAlive_announces (enabled : settings.statusCb = true) (lamportTime : UInt64)
    (subject : Server) (timestamp : UInt64) :
    entry.Announces (entry.addAlive settings lamportTime subject timestamp) := by
  cases known : entry.alive with
  | some record =>
      apply announces_of_same
      · rw [addAlive_status, status_of_alive known]
      · simp [addAlive, known]
  | none =>
      have wasNotAlive : Status.alive ≠ entry.status := by
        cases suspected : entry.suspected <;> simp [status, known, suspected]
      rw [Announces, addAlive_status]
      simp [addAlive, known, notify, enabled, changes, wasNotAlive, Status.announced]

theorem addAlive_moves (lamportTime : UInt64) (subject : Server) (timestamp : UInt64)
    (primitive : Primitive) :
    primitive.Moves entry.status
      (entry.addAlive settings lamportTime subject timestamp).status := by
  rw [addAlive_status]
  cases known : entry.status with
  | alive => exact .inl rfl
  | unknown => exact .inr ⟨.discovered, nofun⟩
  | suspected => exact .inr ⟨.recovered, nofun⟩

theorem reportSuspected_status (lamportTime : UInt64) (subject : Server)
    (timestamp : UInt64) :
    (entry.reportSuspected settings lamportTime subject timestamp).status =
      .suspected := by
  simp [status]

theorem reportSuspected_announces (enabled : settings.statusCb = true)
    (sound : entry.Sound settings key) (lamportTime : UInt64) (subject : Server)
    (timestamp : UInt64) :
    entry.Announces (entry.reportSuspected settings lamportTime subject timestamp) := by
  cases known : entry.suspected with
  | some record =>
      have notAlive : entry.alive = none := by simpa [known] using sound.disjoint
      apply announces_of_same
      · rw [reportSuspected_status]
        simp [status, known, notAlive]
      · simp [reportSuspected, known]
  | none =>
      have wasNotSuspected : Status.suspected ≠ entry.status := by
        cases alive : entry.alive <;> simp [status, known, alive]
      rw [Announces, reportSuspected_status]
      simp [reportSuspected, known, notify, enabled, changes, wasNotSuspected,
        Status.announced]

theorem reportSuspected_moves (lamportTime : UInt64) (subject : Server)
    (timestamp : UInt64) (primitive : Primitive) :
    primitive.Moves entry.status
      (entry.reportSuspected settings lamportTime subject timestamp).status := by
  rw [reportSuspected_status]
  cases known : entry.status with
  | alive => exact .inr ⟨.failed, nofun⟩
  | unknown => exact .inr ⟨.reported, nofun⟩
  | suspected => exact .inl rfl

theorem removeSuspected_of_unsuspected (subject : Server) (removeType : RemoveType)
    (seconds : UInt64) (known : entry.suspected = none) :
    entry.removeSuspected settings subject removeType seconds = entry := by
  ext1 <;> simp [removeSuspected, known]

theorem evict_announces (enabled : settings.statusCb = true)
    (sound : entry.Sound settings key) (subject : Server) (seconds : UInt64) :
    entry.Announces (entry.removeSuspected settings subject .evicted seconds) := by
  cases known : entry.suspected with
  | none =>
      rw [removeSuspected_of_unsuspected subject .evicted seconds known]
      exact announces_of_same rfl rfl
  | some record =>
      have notAlive : entry.alive = none := by simpa [known] using sound.disjoint
      simp [Announces, removeSuspected, known, notify, enabled, status, notAlive, changes,
        Status.announced]

theorem evict_moves (sound : entry.Sound settings key) (subject : Server)
    (seconds : UInt64) :
    (Primitive.removeSuspected subject .evicted seconds).Moves entry.status
      (entry.removeSuspected settings subject .evicted seconds).status := by
  cases known : entry.suspected with
  | none =>
      rw [removeSuspected_of_unsuspected subject .evicted seconds known]
      exact .inl rfl
  | some record =>
      have notAlive : entry.alive = none := by simpa [known] using sound.disjoint
      have before : entry.status = .suspected := by simp [status, known, notAlive]
      have after : (entry.removeSuspected settings subject .evicted seconds).status =
          .unknown := by
        simp [status, notAlive]
      rw [before, after]
      exact .inr ⟨.evicted, fun _ => ⟨subject, seconds, rfl⟩⟩

end Calls

theorem raise_status_alive (entry : Entry) (record : ServerRecord) :
    { entry with alive := entry.alive.map (raised record) }.status = entry.status := by
  apply status_congr <;> simp

theorem raise_status_suspected (entry : Entry) (record : ServerRecord) :
    { entry with suspected := entry.suspected.map (raised record) }.status =
      entry.status := by
  apply status_congr <;> simp

theorem perform_announces {settings : Settings} {key : Key} {entry : Entry}
    (enabled : settings.statusCb = true) (sound : entry.Sound settings key)
    (lamportTime : UInt64) {primitive : Primitive} (harmless : entry.Harmless primitive) :
    entry.Announces (entry.perform settings lamportTime primitive) := by
  cases primitive with
  | addAlive subject timestamp =>
      simp only [perform, offerAlive]
      split
      · exact announces_of_same rfl rfl
      · exact addAlive_announces enabled lamportTime subject timestamp
  | reportSuspected subject timestamp =>
      simp only [perform, offerSuspected]
      split
      · exact announces_of_same rfl rfl
      · split
        · exact addAlive_announces enabled lamportTime subject timestamp
        · exact reportSuspected_announces enabled sound lamportTime subject timestamp
  | removeSuspected subject removeType seconds =>
      cases removeType with
      | alive =>
          rw [perform, removeSuspected_of_unsuspected subject .alive seconds harmless]
          exact announces_of_same rfl rfl
      | evicted => exact evict_announces enabled sound subject seconds
  | raiseAlive record => exact announces_of_same (raise_status_alive entry record) rfl
  | raiseSuspected record =>
      exact announces_of_same (raise_status_suspected entry record) rfl
  | post posting => exact announces_of_same rfl rfl

theorem perform_moves {settings : Settings} {key : Key} {entry : Entry}
    (sound : entry.Sound settings key) (lamportTime : UInt64) {primitive : Primitive}
    (harmless : entry.Harmless primitive) :
    primitive.Moves entry.status
      (entry.perform settings lamportTime primitive).status := by
  cases primitive with
  | addAlive subject timestamp =>
      simp only [perform, offerAlive]
      split
      · exact .inl rfl
      · exact addAlive_moves lamportTime subject timestamp _
  | reportSuspected subject timestamp =>
      simp only [perform, offerSuspected]
      split
      · exact .inl rfl
      · split
        · exact addAlive_moves lamportTime subject timestamp _
        · exact reportSuspected_moves lamportTime subject timestamp _
  | removeSuspected subject removeType seconds =>
      cases removeType with
      | alive =>
          rw [perform, removeSuspected_of_unsuspected subject .alive seconds harmless]
          exact .inl rfl
      | evicted => exact evict_moves sound subject seconds
  | raiseAlive record => exact .inl (raise_status_alive entry record).symm
  | raiseSuspected record => exact .inl (raise_status_suspected entry record).symm
  | post posting => exact .inl rfl

end Entry

/-! ## Runs -/

/-- Servers leave the set of suspects for good only by eviction. -/
def ServerOperation.OnlyEvicts : ServerOperation → Prop
  | .removeSuspected _ removeType _ => removeType = .evicted
  | _ => True

instance : ∀ operation : ServerOperation, Decidable operation.OnlyEvicts
  | .removeSuspected _ removeType _ => inferInstanceAs (Decidable (removeType = .evicted))
  | .updateLamportTime _ | .addAlive .. | .reportSuspected .. | .onUpdate ..
  | .onReport .. | .onForwardRequest .. | .forwardPing .. => isTrue trivial

def SwimServer.Harmless (server : SwimServer) : Event → Prop
  | .call primitive => ∀ key, primitive.subject? = some key →
      (server.entry key).Harmless primitive
  | .tick _ => True

def Primitive.Harmless : Primitive → Prop
  | .removeSuspected _ removeType _ => removeType = .evicted
  | _ => True

theorem Primitive.Harmless.entry {primitive : Primitive} (harmless : primitive.Harmless)
    (entry : Entry) : entry.Harmless primitive := by
  cases primitive with
  | removeSuspected subject removeType seconds =>
      cases removeType with
      | alive => cases harmless
      | evicted => trivial
  | _ => trivial

namespace SwimServer

theorem onReportCalls_harmless (server : SwimServer) (sender : Server)
    (report : SwimReport) (now : UInt64) :
    ∀ step ∈ server.onReportCalls sender report now, step.Harmless := by
  intro step member
  cases server.mem_onReportCalls sender report now step member <;> trivial

theorem forwardPingCalls_harmless (server : SwimServer) (sender destination : Server)
    (seconds : UInt64) (answered : Bool) (now : UInt64) :
    ∀ step ∈ server.forwardPingCalls sender destination seconds answered now,
      step.Harmless := by
  cases answered <;> simp [forwardPingCalls, Primitive.Harmless]

theorem along_calls_harmless {steps : List Primitive}
    (harmless : ∀ step ∈ steps, step.Harmless) (server : SwimServer) :
    eventMachine.Along Harmless server (steps.map .call) := by
  apply Machine.along_of_forall_mem
  intro event member state
  rcases List.mem_map.mp member with ⟨step, stepMember, rfl⟩
  intro key about
  exact (harmless step stepMember).entry _

/-- After `AddAlive` of a server it is not suspected. With port 0 the call does
nothing, but such a server is never suspected. -/
theorem suspected_addAlive {server : SwimServer} (sound : server.Sound) (subject : Server)
    (timestamp : UInt64) :
    ((server.addAlive subject timestamp).1.entry subject.key).suspected = none := by
  rw [entry_addAlive, if_pos rfl, Entry.offerAlive]
  split
  next port => exact ((sound subject.key).refusesPortZero port).2
  next => exact Entry.addAlive_suspected _ _ _ _ _

theorem along_operation_harmless {server : SwimServer} (sound : server.Sound)
    {operation : ServerOperation} (evicts : operation.OnlyEvicts) :
    eventMachine.Along Harmless server (server.operationEvents operation) := by
  cases operation with
  | updateLamportTime time => exact ⟨trivial, trivial⟩
  | onUpdate client now =>
      refine ⟨fun key about => trivial, ?_, trivial⟩
      intro key about
      cases about
      exact suspected_addAlive sound client now
  | addAlive | reportSuspected | onForwardRequest =>
      exact ⟨fun key about => trivial, trivial⟩
  | removeSuspected subject removeType seconds =>
      cases evicts
      exact ⟨fun key about => trivial, trivial⟩
  | onReport sender report now =>
      exact along_calls_harmless (server.onReportCalls_harmless sender report now) server
  | forwardPing sender destination seconds answered now =>
      exact along_calls_harmless
        (server.forwardPingCalls_harmless sender destination seconds answered now) server

structure Announcing (server : SwimServer) : Prop where
  sound : server.Sound
  enabled : server.statusCb = true

theorem Announcing.react {server : SwimServer} (announcing : server.Announcing)
    (event : Event) : (server.react event).Announcing := by
  cases event with
  | tick time => exact ⟨announcing.sound, announcing.enabled⟩
  | call primitive =>
      refine ⟨Entry.sound_invariant.perform primitive announcing.sound, ?_⟩
      simpa [SwimServer.react] using announcing.enabled

theorem Announcing.operate {server : SwimServer} (announcing : server.Announcing)
    (operation : ServerOperation) : (server.operate operation).Announcing := by
  rw [← run_operationEvents]
  exact eventMachine.run_keeps Announcing (fun server event holds => holds.react event)
    server _ announcing

theorem react_announces {server : SwimServer} (announcing : server.Announcing)
    {event : Event} (harmless : server.Harmless event) (key : Key) :
    (server.entry key).Announces ((server.react event).entry key) := by
  cases event with
  | tick time => exact Entry.announces_of_same rfl rfl
  | call primitive =>
      rw [SwimServer.react, entry_perform]
      split
      next about =>
        exact Entry.perform_announces announcing.enabled (announcing.sound key)
          server.lamportTime (harmless key about)
      next => exact Entry.announces_of_same rfl rfl

def MovesAlongDiagram (server : SwimServer) (event : Event) (key : Key) : Prop :=
  let before := server.status key
  let after := (server.react event).status key
  before = after ∨ before.Follows after ∧
    (after = .unknown → ∃ subject seconds,
      event = .call (.removeSuspected subject .evicted seconds) ∧ subject.key = key)

theorem react_moves {server : SwimServer} (announcing : server.Announcing)
    {event : Event} (harmless : server.Harmless event) (key : Key) :
    server.MovesAlongDiagram event key := by
  cases event with
  | tick time => exact .inl rfl
  | call primitive =>
      simp only [MovesAlongDiagram, status, SwimServer.react, entry_perform]
      split
      next about =>
        rcases Entry.perform_moves (announcing.sound key) server.lamportTime
          (harmless key about) with unchanged | ⟨follows, evicted⟩
        · exact .inl unchanged
        · refine .inr ⟨follows, fun forgotten => ?_⟩
          rcases evicted forgotten with ⟨subject, seconds, rfl⟩
          exact ⟨subject, seconds, rfl, Option.some.inj about⟩
      next => exact .inl rfl

theorem along_harmless {server : SwimServer} (announcing : server.Announcing)
    {operations : List ServerOperation}
    (evictions : ∀ operation ∈ operations, operation.OnlyEvicts) :
    eventMachine.Along (fun server event => server.Announcing ∧ server.Harmless event)
      server (server.events operations) := by
  apply Machine.Along.and_invariant Announcing
    (fun server event holds _ => holds.react event) announcing
  exact along_events
    (fun server operation holds evicts => along_operation_harmless holds.sound evicts)
    (fun server operation holds _ => holds.operate operation) announcing evictions

end SwimServer

/-- In every run the status of a server moves along the diagram, call by call,
and the callbacks for it are the statuses it has come to have, in order. -/
theorem callbacks_announce_status_changes (host : Host) (hostName : String)
    (port : UInt16) (operations : List ServerOperation)
    (evictions : ∀ operation ∈ operations, operation.OnlyEvicts) (key : Key) :
    let server := SwimServer.create host hostName port true
    let steps := eventMachine.trace server (server.events operations)
    eventMachine.run server (server.events operations) =
      serverMachine.run server operations ∧
    (∀ step ∈ steps, step.after = step.before.react step.input ∧
      step.before.MovesAlongDiagram step.input key) ∧
    ((serverMachine.run server operations).callbacksFor key).map Callback.status =
      (changes .unknown (steps.map fun step => step.after.status key)).map
        Status.announced := by
  intro server steps
  have announcing : server.Announcing := ⟨create_sound host hostName port true, rfl⟩
  have guarded := along_harmless announcing evictions
  refine ⟨run_events server operations, ?_, ?_⟩
  · intro step member
    rcases guarded.of_mem_trace member with ⟨after, holds, harmless⟩
    exact ⟨after, react_moves holds harmless key⟩
  · have logged := eventMachine.run_log_eq_changes
      (fun server => server.status key) Status.announced
      (fun server => (server.callbacksFor key).map Callback.status)
      (fun state event holds => react_announces holds.1 holds.2 key) guarded
    rw [run_events] at logged
    exact logged

theorem callbacks_announce_recovery_and_eviction :
    let peer : Server := { hostname := "peer", port := 9001 }
    let other : Server := { hostname := "other", port := 9002 }
    let operations : List ServerOperation :=
      [.addAlive peer 10, .updateLamportTime 3,
        .onReport other
          { suspected := [{ server := peer, timestamp := 11, lamportTime := 3 }] } 12,
        .onUpdate peer 13, .reportSuspected peer 14, .removeSuspected peer .evicted 15]
    let server := SwimServer.create ⟨"node", fun _ => "10.0.0.1"⟩ "" 9000 true
    ((serverMachine.run server operations).callbacksFor peer.key).map Callback.status =
        [.alive, .suspect, .alive, .suspect, .removed] ∧
      ((serverMachine.run server operations).callbacksFor peer.key).map Callback.status =
        (changes .unknown ((eventMachine.trace server (server.events operations)).map
          fun step => step.after.status peer.key)).map Status.announced :=
  ⟨by decide, (callbacks_announce_status_changes ⟨"node", fun _ => "10.0.0.1"⟩ "" 9000 _
    (by decide) _).2.2⟩

end Gossip
