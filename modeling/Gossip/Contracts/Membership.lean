import Gossip.Semantics.Primitives

/-! # Membership invariant

What holds of the two sets at every point of every sequential run. -/

namespace Gossip

open Foundation SwimServer

structure Entry.Sound (settings : Settings) (key : Key) (entry : Entry) : Prop where
  disjoint : entry.alive = none ∨ entry.suspected = none
  refusesPortZero : Key.port key = 0 → entry.alive = none ∧ entry.suspected = none
  neverSuspectsSelf : key = settings.self.key → entry.suspected = none

structure Entry.Stamped (lamportTime : UInt64) (entry : Entry) : Prop where
  alive : ∀ record, entry.alive = some record → record.lamportTime ≤ lamportTime
  suspected : ∀ record, entry.suspected = some record →
    record.lamportTime ≤ lamportTime

namespace Entry

theorem Sound.addAlive {settings : Settings} {key : Key} {entry : Entry}
    (lamportTime : UInt64) {subject : Server} (timestamp : UInt64)
    (about : subject.key = key) (port : subject.port ≠ 0) :
    (entry.addAlive settings lamportTime subject timestamp).Sound settings key where
  disjoint := .inr (by simp)
  refusesPortZero := by
    intro zero
    rw [← about, Server.key_port] at zero
    exact absurd zero port
  neverSuspectsSelf := by simp

theorem Sound.reportSuspected {settings : Settings} {key : Key} {entry : Entry}
    (lamportTime : UInt64) {subject : Server} (timestamp : UInt64)
    (about : subject.key = key) (port : subject.port ≠ 0)
    (other : key ≠ settings.self.key) :
    (entry.reportSuspected settings lamportTime subject timestamp).Sound settings
      key where
  disjoint := .inl (by simp)
  refusesPortZero := by
    intro zero
    rw [← about, Server.key_port] at zero
    exact absurd zero port
  neverSuspectsSelf isSelf := absurd isSelf other

theorem sound_invariant : EntryInvariant fun settings _ key entry =>
    entry.Sound settings key := by
  intro settings lamportTime key entry primitive about sound
  cases primitive with
  | addAlive subject timestamp =>
      simp only [Primitive.subject?, Option.some.injEq] at about
      simp only [perform, offerAlive]
      split
      · exact sound
      · exact .addAlive lamportTime timestamp about ‹_›
  | reportSuspected subject timestamp =>
      simp only [Primitive.subject?, Option.some.injEq] at about
      simp only [perform, offerSuspected]
      split
      · exact sound
      · split
        · exact .addAlive lamportTime timestamp about ‹_›
        next other =>
          exact .reportSuspected lamportTime timestamp about ‹_› (about ▸ other)
  | removeSuspected subject removeType seconds =>
      constructor
      · simp [perform]
      · intro zero
        simpa [perform] using (sound.refusesPortZero zero).1
      · simp [perform]
  | raiseAlive record | raiseSuspected record =>
      constructor
      · simpa [perform] using sound.disjoint
      · simpa [perform] using sound.refusesPortZero
      · simpa [perform] using sound.neverSuspectsSelf
  | post posting => exact sound

theorem Stamped.addAlive {settings : Settings} {lamportTime : UInt64} {entry : Entry}
    (subject : Server) (timestamp : UInt64) :
    (entry.addAlive settings lamportTime subject timestamp).Stamped lamportTime where
  alive := by
    intro record stored
    rw [addAlive_alive, Option.some.injEq] at stored
    subst stored
    split <;> simp [stampedRecord, refreshed]
  suspected := by simp

theorem Stamped.reportSuspected {settings : Settings} {lamportTime : UInt64}
    {entry : Entry} (stamped : entry.Stamped lamportTime) (subject : Server)
    (timestamp : UInt64) :
    (entry.reportSuspected settings lamportTime subject timestamp).Stamped
      lamportTime where
  alive := by simp
  suspected := by
    intro record stored
    rw [reportSuspected_suspected, Option.some.injEq] at stored
    subst stored
    cases known : entry.suspected with
    | none => simp [stampedRecord]
    | some found => exact stamped.suspected found known

theorem stamped_invariant : EntryInvariant fun _ lamportTime _ entry =>
    entry.Stamped lamportTime := by
  intro settings lamportTime key entry primitive about stamped
  cases primitive with
  | addAlive subject timestamp =>
      simp only [perform, offerAlive]
      split
      · exact stamped
      · exact .addAlive subject timestamp
  | reportSuspected subject timestamp =>
      simp only [perform, offerSuspected]
      split
      · exact stamped
      · split
        · exact .addAlive subject timestamp
        · exact stamped.reportSuspected subject timestamp
  | removeSuspected subject removeType seconds =>
      exact ⟨by simpa [perform] using stamped.alive, by simp [perform]⟩
  | raiseAlive record =>
      exact ⟨by simpa [perform] using stamped.alive, stamped.suspected⟩
  | raiseSuspected record =>
      exact ⟨stamped.alive, by simpa [perform] using stamped.suspected⟩
  | post posting => exact stamped

end Entry

/-! ## Servers -/

def SwimServer.Sound (server : SwimServer) : Prop :=
  server.Everywhere fun settings _ key entry => entry.Sound settings key

def SwimServer.Stamped (server : SwimServer) : Prop :=
  server.Everywhere fun _ lamportTime _ entry => entry.Stamped lamportTime

namespace SwimServer

theorem create_sound (host : Host) (hostName : String) (port : UInt16)
    (statusCb : Bool) : (create host hostName port statusCb).Sound :=
  fun _ => ⟨.inl rfl, fun _ => ⟨rfl, rfl⟩, fun _ => rfl⟩

theorem create_stamped (host : Host) (hostName : String) (port : UInt16)
    (statusCb : Bool) : (create host hostName port statusCb).Stamped :=
  fun _ => ⟨by simp [create], by simp [create]⟩

theorem Sound.updateLamportTime {server : SwimServer} (sound : server.Sound)
    (time : UInt64) : (server.updateLamportTime time).Sound := sound

theorem Sound.operate {server : SwimServer} (sound : server.Sound)
    (operation : ServerOperation) : (server.operate operation).Sound :=
  Entry.sound_invariant.operate operation sound

theorem Sound.run {server : SwimServer} (sound : server.Sound)
    (operations : List ServerOperation) : (serverMachine.run server operations).Sound :=
  Entry.sound_invariant.run operations sound

theorem toNat_updateLamportTime (server : SwimServer) (time : UInt64) :
    (server.updateLamportTime time).lamportTime.toNat =
      (max server.lamportTime.toNat time.toNat + 1) % 2 ^ 64 := by
  simp only [updateLamportTime]
  split <;> rename_i order <;> rw [UInt64.lt_iff_toNat_lt] at order <;>
    simp [UInt64.toNat_add] <;> omega

def ClockFits (server : SwimServer) (time : UInt64) : Prop :=
  max server.lamportTime.toNat time.toNat + 1 < 2 ^ 64

instance (server : SwimServer) (time : UInt64) : Decidable (server.ClockFits time) :=
  inferInstanceAs (Decidable (_ < _))

theorem ClockFits.lt {server : SwimServer} {time : UInt64} (fits : server.ClockFits time) :
    server.lamportTime < (server.updateLamportTime time).lamportTime ∧
      time < (server.updateLamportTime time).lamportTime := by
  have clockBound : server.lamportTime.toNat + 1 < 2 ^ 64 := by
    unfold ClockFits at fits
    omega
  have timeBound : time.toNat + 1 < 2 ^ 64 := by
    unfold ClockFits at fits
    omega
  simp only [SwimServer.updateLamportTime, UInt64.lt_iff_toNat_lt]
  split <;> simp [UInt64.toNat_add] <;> omega

theorem Stamped.updateLamportTime {server : SwimServer} (stamped : server.Stamped)
    {time : UInt64} (fits : server.ClockFits time) :
    (server.updateLamportTime time).Stamped := by
  have advances := fits.lt.1
  intro key
  have before := stamped key
  constructor
  · intro record stored
    have := before.alive record stored
    grind
  · intro record stored
    have := before.suspected record stored
    grind

end SwimServer

/-- The 64-bit clock does not wrap around in this operation. -/
def GossipFailureDetector.ClockFits (detector : GossipFailureDetector) :
    DetectorOperation → Prop
  | .server (.updateLamportTime time) => detector.server.ClockFits time
  | _ => True

instance (detector : GossipFailureDetector) :
    ∀ operation, Decidable (detector.ClockFits operation)
  | .server (.updateLamportTime time) =>
      inferInstanceAs (Decidable (detector.server.ClockFits time))
  | .server (.addAlive ..) | .server (.reportSuspected ..)
  | .server (.removeSuspected ..) | .server (.onUpdate ..) | .server (.onReport ..)
  | .server (.onForwardRequest ..) | .server (.forwardPing ..) | .addNeighbor ..
  | .sendReport .. | .pingRandomSuspected .. | .garbageCollectSuspected .. =>
      isTrue trivial

/-! ## Runs -/

section Runs

variable {Cost : Type} (costs : CostArithmetic Cost) (sort : LamportSort)

theorem operate_sound {detector : GossipFailureDetector} (operation : DetectorOperation)
    (sound : detector.server.Sound) :
    (detector.operate costs sort operation).server.Sound := by
  by_cases clock : ∃ time, operation = .server (.updateLamportTime time)
  · rcases clock with ⟨time, rfl⟩
    exact sound.updateLamportTime time
  · apply Entry.sound_invariant.reaches _ sound
    exact detector.reaches_operate costs sort operation
      fun time equal => clock ⟨time, equal⟩

theorem operate_stamped {detector : GossipFailureDetector}
    {operation : DetectorOperation} (stamped : detector.server.Stamped)
    (fits : detector.ClockFits operation) :
    (detector.operate costs sort operation).server.Stamped := by
  by_cases clock : ∃ time, operation = .server (.updateLamportTime time)
  · rcases clock with ⟨time, rfl⟩
    exact stamped.updateLamportTime fits
  · apply Entry.stamped_invariant.reaches _ stamped
    exact detector.reaches_operate costs sort operation
      fun time equal => clock ⟨time, equal⟩

theorem sound_stamped_run {detector : GossipFailureDetector} {host : Host}
    {hostName : String} {port : UInt16} {statusCb : Bool}
    (fresh : detector.server = .create host hostName port statusCb)
    {operations : List DetectorOperation}
    (clockFits : (detectorMachine costs sort).Along GossipFailureDetector.ClockFits
      detector operations) :
    ((detectorMachine costs sort).run detector operations).server.Sound ∧
      ((detectorMachine costs sort).run detector operations).server.Stamped := by
  apply (detectorMachine costs sort).run_invariant
    (fun detector => detector.server.Sound ∧ detector.server.Stamped) _ _ clockFits
  · intro detector operation holds fits
    exact ⟨operate_sound costs sort operation holds.1,
      operate_stamped costs sort holds.2 fits⟩
  · rw [fresh]
    exact ⟨create_sound _ _ _ _, create_stamped _ _ _ _⟩

/-- The representation invariant of the two sets, in terms of the records they
hold. -/
structure SwimServer.MembershipInvariant (server : SwimServer) : Prop where
  aliveOrdered : server.alive.toList.Pairwise fun left right => left.less right
  suspectedOrdered : server.suspected.toList.Pairwise fun left right => left.less right
  aliveUnique : (server.alive.toList.map ServerRecord.key).Nodup
  suspectedUnique : (server.suspected.toList.map ServerRecord.key).Nodup
  disjoint : ∀ left ∈ server.alive.toList, ∀ right ∈ server.suspected.toList,
    left.key ≠ right.key
  alivePort : ∀ record ∈ server.alive.toList, record.server.port ≠ 0
  suspectedPort : ∀ record ∈ server.suspected.toList, record.server.port ≠ 0
  selfNotSuspected : ∀ record ∈ server.suspected.toList,
    record.server.same server.self = false
  aliveStamp : ∀ record ∈ server.alive.toList, record.lamportTime ≤ server.lamportTime
  suspectedStamp : ∀ record ∈ server.suspected.toList,
    record.lamportTime ≤ server.lamportTime

theorem ordered_of_set (set : ServerRecordsSet) :
    set.toList.Pairwise fun left right => left.less right :=
  set.ascending.imp fun before => (ServerRecord.less_iff _ _).mpr before

theorem SwimServer.membershipInvariant {server : SwimServer} (sound : server.Sound)
    (stamped : server.Stamped) : server.MembershipInvariant where
  aliveOrdered := ordered_of_set server.alive
  suspectedOrdered := ordered_of_set server.suspected
  aliveUnique := server.alive.nodup_keys
  suspectedUnique := server.suspected.nodup_keys
  disjoint := by
    intro left leftMember right rightMember equal
    have leftFound := OrderedSet.find?_of_mem leftMember
    have rightFound := OrderedSet.find?_of_mem rightMember
    rw [← equal] at rightFound
    have disjoint := (sound left.key).disjoint
    simp [leftFound, rightFound] at disjoint
  alivePort := by
    intro record member zero
    have found := OrderedSet.find?_of_mem member
    have refused := ((sound record.key).refusesPortZero zero).1
    simp [found] at refused
  suspectedPort := by
    intro record member zero
    have found := OrderedSet.find?_of_mem member
    have refused := ((sound record.key).refusesPortZero zero).2
    simp [found] at refused
  selfNotSuspected := by
    intro record member
    have found := OrderedSet.find?_of_mem member
    rw [← Bool.not_eq_true, Server.same_iff]
    intro isSelf
    have absent := (sound record.key).neverSuspectsSelf isSelf
    simp [found] at absent
  aliveStamp := by
    intro record member
    exact (stamped record.key).alive record (OrderedSet.find?_of_mem member)
  suspectedStamp := by
    intro record member
    exact (stamped record.key).suspected record (OrderedSet.find?_of_mem member)

/-- The invariant holds after every run of a detector around a fresh server. -/
theorem membership_invariant (detector : GossipFailureDetector) (host : Host)
    (hostName : String) (port : UInt16) (statusCb : Bool)
    (fresh : detector.server = .create host hostName port statusCb)
    (operations : List DetectorOperation)
    (clockFits : (detectorMachine costs sort).Along GossipFailureDetector.ClockFits
      detector operations) :
    ((detectorMachine costs sort).run detector operations).server.MembershipInvariant := by
  have valid := sound_stamped_run costs sort fresh clockFits
  exact membershipInvariant valid.1 valid.2

end Runs

theorem membership_invariant_after_eviction :
    let detector := GossipFailureDetector.create ⟨"node", fun _ => "10.0.0.1"⟩ "" true
      9000 1000 6 3
    let peer : Server := { hostname := "peer", port := 9001 }
    let operations : List DetectorOperation :=
      [.server (.updateLamportTime 7), .addNeighbor peer ⟨false, 5000⟩,
        .server (.updateLamportTime 9),
        .server (.onReport { hostname := "other", port := 9002 }
          { alive := [{ server := peer, timestamp := 4000, lamportTime := 3 }] } 6000),
        .garbageCollectSuspected 6500 6500 6500 fun _ => 6]
    ((detectorMachine exactCosts stableSort).run detector
      operations).server.MembershipInvariant :=
  membership_invariant exactCosts stableSort _ ⟨"node", fun _ => "10.0.0.1"⟩ "" 9000 true
    rfl _ (by decide +kernel)

end Gossip
