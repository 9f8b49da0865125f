import Gossip.Contracts.StatusCallbacks
import Gossip.Semantics.Listening

/-! # Which of two reports wins

Two reports that disagree about a server are delivered in one order or the
other. The record that is stored carries the receiver's clock and not the time
of the record that was received, so the newer information wins in both orders
only while the receiver's clock is behind it. -/

namespace Gossip

open Foundation SwimServer

/-- A `STATUS_REPORT` envelope, and when it is handled. -/
structure Delivery where
  lamportTime : UInt64
  sender : Server
  report : SwimReport
  now : UInt64
deriving DecidableEq, Repr

def SwimServer.deliver (server : SwimServer) (delivery : Delivery) : SwimServer :=
  server.receiveReport delivery.lamportTime delivery.sender delivery.report delivery.now

def recordsAbout (key : Key) (records : List ServerRecord) : List ServerRecord :=
  records.filter fun record => record.key = key

namespace Delivery

/-- All that a delivery by some other server says about `key` is that it was
alive. -/
structure OnlyAlive (delivery : Delivery) (key : Key) (record : ServerRecord) : Prop where
  sender : delivery.sender.key ≠ key
  alive : recordsAbout key delivery.report.alive = [record]
  suspected : recordsAbout key delivery.report.suspected = []
  before : record.lamportTime < delivery.lamportTime

/-- All that a delivery by some other server says about `key` is that it was
suspected. -/
structure OnlySuspected (delivery : Delivery) (key : Key) (record : ServerRecord) :
    Prop where
  sender : delivery.sender.key ≠ key
  alive : recordsAbout key delivery.report.alive = []
  suspected : recordsAbout key delivery.report.suspected = [record]
  before : record.lamportTime < delivery.lamportTime

theorem OnlyAlive.key {delivery : Delivery} {key : Key} {record : ServerRecord}
    (lists : delivery.OnlyAlive key record) : record.key = key := by
  have member : record ∈ recordsAbout key delivery.report.alive := by simp [lists.alive]
  simpa using (List.mem_filter.mp member).2

theorem OnlySuspected.key {delivery : Delivery} {key : Key} {record : ServerRecord}
    (lists : delivery.OnlySuspected key record) : record.key = key := by
  have member : record ∈ recordsAbout key delivery.report.suspected := by
    simp [lists.suspected]
  simpa using (List.mem_filter.mp member).2

end Delivery

namespace SwimServer

def clockAt (server : SwimServer) (delivery : Delivery) : UInt64 :=
  (server.updateLamportTime delivery.lamportTime).lamportTime

theorem toNat_clockAt (server : SwimServer) (delivery : Delivery) :
    (server.clockAt delivery).toNat =
      (max server.lamportTime.toNat delivery.lamportTime.toNat + 1) % 2 ^ 64 :=
  server.toNat_updateLamportTime delivery.lamportTime

@[simp] theorem deliver_toSettings (server : SwimServer) (delivery : Delivery) :
    (server.deliver delivery).toSettings = server.toSettings := by
  simp [deliver, receiveReport, updateLamportTime]

theorem entry_deliver_alive {server : SwimServer} {delivery : Delivery} {key : Key}
    {record : ServerRecord} (lists : delivery.OnlyAlive key record) :
    (server.deliver delivery).entry key =
      (server.entry key).onAliveRecord server.toSettings (server.clockAt delivery)
        record := by
  have alive := lists.alive
  have suspected := lists.suspected
  unfold recordsAbout at alive suspected
  rw [deliver, receiveReport, entry_onReport, Entry.onReport, if_neg lists.sender, alive,
    suspected]
  rfl

theorem entry_deliver_suspected {server : SwimServer} {delivery : Delivery} {key : Key}
    {record : ServerRecord} (lists : delivery.OnlySuspected key record) :
    (server.deliver delivery).entry key =
      (server.entry key).onSuspectedRecord server.toSettings (server.clockAt delivery)
        record := by
  have alive := lists.alive
  have suspected := lists.suspected
  unfold recordsAbout at alive suspected
  rw [deliver, receiveReport, entry_onReport, Entry.onReport, if_neg lists.sender, alive,
    suspected]
  rfl

end SwimServer

/-! ## Both orders -/

section Orders

variable {settings : Settings} {entry : Entry} {first second : UInt64}
  {alive suspected : ServerRecord}

/-- The alive record arrives first. It is stored with the clock of its delivery,
which is what the suspicion is then compared with. -/
theorem Entry.status_alive_then_suspected (absent : entry.status = .unknown)
    (aliveOther : alive.key ≠ settings.self.key) (alivePort : alive.server.port ≠ 0)
    (suspectedOther : suspected.key ≠ settings.self.key)
    (suspectedPort : suspected.server.port ≠ 0) :
    ((entry.onAliveRecord settings first alive).onSuspectedRecord settings second
      suspected).status =
        if suspected.lamportTime < first then .alive else .suspected := by
  rw [status_eq_unknown_iff] at absent
  have stored : (entry.onAliveRecord settings first alive).alive.map
      ServerRecord.lamportTime = some first :=
    (onAliveRecord_of_current first aliveOther alivePort (by simp [absent.2])).1
  rcases Option.map_eq_some_iff.mp stored with ⟨found, known, rfl⟩
  split
  next stale =>
    rw [onSuspectedRecord_of_stale second known stale]
    exact status_of_alive known
  next newer =>
    have current : ∀ record, (entry.onAliveRecord settings found.lamportTime alive).alive =
        some record → record.lamportTime ≤ suspected.lamportTime := by
      simpa [known] using newer
    have taken := onSuspectedRecord_of_current second suspectedOther suspectedPort current
    apply status_of_suspected taken.1
    rw [← Option.isSome_map, taken.2]
    rfl

theorem Entry.status_suspected_then_alive (absent : entry.status = .unknown)
    (aliveOther : alive.key ≠ settings.self.key) (alivePort : alive.server.port ≠ 0)
    (suspectedOther : suspected.key ≠ settings.self.key)
    (suspectedPort : suspected.server.port ≠ 0) :
    ((entry.onSuspectedRecord settings first suspected).onAliveRecord settings second
      alive).status =
        if alive.lamportTime < first then .suspected else .alive := by
  rw [status_eq_unknown_iff] at absent
  have noneAlive : ∀ record, entry.alive = some record →
      record.lamportTime ≤ suspected.lamportTime := by simp [absent.1]
  have stored := onSuspectedRecord_of_current first suspectedOther suspectedPort noneAlive
  rw [absent.2] at stored
  rcases Option.map_eq_some_iff.mp stored.2 with ⟨found, known, stamp⟩
  rw [Option.map_none, Option.getD_none] at stamp
  subst stamp
  split
  next stale =>
    rw [onAliveRecord_of_stale second known stale]
    exact status_of_suspected stored.1 (by simp [known])
  next newer =>
    have current : ∀ record,
        (entry.onSuspectedRecord settings found.lamportTime suspected).suspected =
          some record → record.lamportTime ≤ alive.lamportTime := by
      simpa [known] using newer
    have taken := onAliveRecord_of_current second aliveOther alivePort current
    rcases Option.map_eq_some_iff.mp taken.1 with ⟨record, present, _⟩
    exact status_of_alive present

end Orders

/-! ## The newest information -/

section Newest

variable {server : SwimServer} {key : Key} {aliveDelivery suspectedDelivery : Delivery}
  {alive suspected : ServerRecord}

theorem status_deliver_alive_first (other : key ≠ server.self.key)
    (port : Key.port key ≠ 0) (unknown : server.status key = .unknown)
    (listsAlive : aliveDelivery.OnlyAlive key alive)
    (listsSuspected : suspectedDelivery.OnlySuspected key suspected) :
    ((server.deliver aliveDelivery).deliver suspectedDelivery).status key =
      if suspected.lamportTime < server.clockAt aliveDelivery then .alive
      else .suspected := by
  rw [status, entry_deliver_suspected listsSuspected, entry_deliver_alive listsAlive,
    deliver_toSettings]
  have aliveKey := listsAlive.key
  have suspectedKey := listsSuspected.key
  apply Entry.status_alive_then_suspected unknown
  · rwa [aliveKey]
  · rwa [← ServerRecord.port_key, aliveKey]
  · rwa [suspectedKey]
  · rwa [← ServerRecord.port_key, suspectedKey]

theorem status_deliver_suspected_first (other : key ≠ server.self.key)
    (port : Key.port key ≠ 0) (unknown : server.status key = .unknown)
    (listsAlive : aliveDelivery.OnlyAlive key alive)
    (listsSuspected : suspectedDelivery.OnlySuspected key suspected) :
    ((server.deliver suspectedDelivery).deliver aliveDelivery).status key =
      if alive.lamportTime < server.clockAt suspectedDelivery then .suspected
      else .alive := by
  rw [status, entry_deliver_alive listsAlive, entry_deliver_suspected listsSuspected,
    deliver_toSettings]
  have aliveKey := listsAlive.key
  have suspectedKey := listsSuspected.key
  apply Entry.status_suspected_then_alive unknown
  · rwa [aliveKey]
  · rwa [← ServerRecord.port_key, aliveKey]
  · rwa [suspectedKey]
  · rwa [← ServerRecord.port_key, suspectedKey]

/-- In both orders the server at `key` ends up as the newer record says. -/
def SwimServer.NewestWins (server : SwimServer) (key : Key)
    (aliveDelivery suspectedDelivery : Delivery) (alive suspected : ServerRecord) : Prop :=
  let aliveFirst := (server.deliver aliveDelivery).deliver suspectedDelivery
  let suspectedFirst := (server.deliver suspectedDelivery).deliver aliveDelivery
  (suspected.lamportTime < alive.lamportTime →
    aliveFirst.status key = .alive ∧ suspectedFirst.status key = .alive) ∧
  (alive.lamportTime < suspected.lamportTime →
    aliveFirst.status key = .suspected ∧ suspectedFirst.status key = .suspected)

/-- The server's clock and the envelope of the older information are behind the
newer record, or that envelope makes the clock start again at 0; and the
delivery of the newer record does not. -/
def SwimServer.BehindNewest (server : SwimServer) (newest : ServerRecord)
    (newer older : Delivery) : Prop :=
  let atOlder := max server.lamportTime.toNat older.lamportTime.toNat
  (atOlder < newest.lamportTime.toNat ∨ atOlder = 2 ^ 64 - 1) ∧
    max server.lamportTime.toNat newer.lamportTime.toNat ≠ 2 ^ 64 - 1

instance (server : SwimServer) (newest : ServerRecord) (newer older : Delivery) :
    Decidable (server.BehindNewest newest newer older) :=
  inferInstanceAs (Decidable (_ ∧ _))

/-- The newer record is `newest`, which arrives with `newer`. The older one, of
time `time`, is compared with the clock at `newer`, and `newest` with the clock
at `older`. -/
theorem SwimServer.behindNewest_iff (server : SwimServer) {newest : ServerRecord}
    {newer older : Delivery} {time : UInt64} (order : time < newest.lamportTime)
    (before : newest.lamportTime < newer.lamportTime) :
    server.BehindNewest newest newer older ↔
      time < server.clockAt newer ∧ ¬ newest.lamportTime < server.clockAt older := by
  have newerClock := server.toNat_clockAt newer
  have olderClock := server.toNat_clockAt older
  rw [UInt64.lt_iff_toNat_lt] at order before
  have bound := server.lamportTime.toNat_lt
  have newerBound := newer.lamportTime.toNat_lt
  have olderBound := older.lamportTime.toNat_lt
  simp only [BehindNewest, UInt64.lt_iff_toNat_lt]
  omega

/-- Whichever of the two reports comes first, the newer information wins exactly
when the server's clock is behind it. -/
theorem newest_wins_iff_behind (other : key ≠ server.self.key) (port : Key.port key ≠ 0)
    (unknown : server.status key = .unknown)
    (listsAlive : aliveDelivery.OnlyAlive key alive)
    (listsSuspected : suspectedDelivery.OnlySuspected key suspected)
    (different : alive.lamportTime ≠ suspected.lamportTime) :
    server.NewestWins key aliveDelivery suspectedDelivery alive suspected ↔
      if suspected.lamportTime < alive.lamportTime then
        server.BehindNewest alive aliveDelivery suspectedDelivery
      else server.BehindNewest suspected suspectedDelivery aliveDelivery := by
  simp only [SwimServer.NewestWins,
    status_deliver_alive_first other port unknown listsAlive listsSuspected,
    status_deliver_suspected_first other port unknown listsAlive listsSuspected]
  by_cases order : suspected.lamportTime < alive.lamportTime
  · have notReverse : ¬ alive.lamportTime < suspected.lamportTime := by grind
    rw [if_pos order, server.behindNewest_iff order listsAlive.before]
    simp [order, notReverse]
  · have reverse : alive.lamportTime < suspected.lamportTime := by grind
    rw [if_neg order, server.behindNewest_iff reverse listsSuspected.before]
    simp [order, reverse, and_comm]

end Newest

theorem newest_wins_on_young_server :
    let server := SwimServer.create ⟨"node", fun _ => "10.0.0.1"⟩ "" 9000 true
    let peer : Server := { hostname := "peer", port := 9001 }
    let alive : ServerRecord := { server := peer, timestamp := 10, lamportTime := 1 }
    let suspected : ServerRecord := { server := peer, timestamp := 11, lamportTime := 5 }
    server.NewestWins peer.key
      ⟨2, { hostname := "left", port := 9002 }, { alive := [alive] }, 12⟩
      ⟨6, { hostname := "right", port := 9003 }, { suspected := [suspected] }, 13⟩
      alive suspected := by
  intro server peer alive suspected
  refine (newest_wins_iff_behind (by decide) (by decide) (by decide) ?_ ?_
    (by decide)).mpr (by decide)
  · exact ⟨by decide, by decide, by decide, by decide⟩
  · exact ⟨by decide, by decide, by decide, by decide⟩

/-- A peer was alive at 1 and is suspected since 50. The old news comes first, in
an envelope of time 100: it is stored as if it were of time 101, and the suspicion
is taken for stale. -/
theorem newest_loses_to_relayed_record :
    let server := SwimServer.create ⟨"node", fun _ => "10.0.0.1"⟩ "" 9000 true
    let peer : Server := { hostname := "peer", port := 9001 }
    let alive : ServerRecord := { server := peer, timestamp := 10, lamportTime := 1 }
    let suspected : ServerRecord := { server := peer, timestamp := 11, lamportTime := 50 }
    let aliveDelivery : Delivery :=
      ⟨100, { hostname := "left", port := 9002 }, { alive := [alive] }, 12⟩
    let suspectedDelivery : Delivery :=
      ⟨60, { hostname := "right", port := 9003 }, { suspected := [suspected] }, 13⟩
    peer.key ≠ server.self.key ∧ peer.port ≠ 0 ∧ server.status peer.key = .unknown ∧
      aliveDelivery.OnlyAlive peer.key alive ∧
      suspectedDelivery.OnlySuspected peer.key suspected ∧
      alive.lamportTime < suspected.lamportTime ∧
      ((server.deliver aliveDelivery).deliver suspectedDelivery).status peer.key = .alive ∧
      ¬ server.NewestWins peer.key aliveDelivery suspectedDelivery alive suspected := by
  intro server peer alive suspected aliveDelivery suspectedDelivery
  have wrong : ((server.deliver aliveDelivery).deliver suspectedDelivery).status
      peer.key = .alive := by decide
  refine ⟨by decide, by decide, by decide, ⟨by decide, by decide, by decide, by decide⟩,
    ⟨by decide, by decide, by decide, by decide⟩, by decide, wrong, fun wins => ?_⟩
  have right := (wins.2 (by decide)).1
  rw [wrong] at right
  cases right

end Gossip
