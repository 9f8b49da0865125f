import Gossip.Semantics.Cluster
import Gossip.Semantics.Entry

/-! # A peer seen through one key

Like an entry, but only the Lamport times of the records are kept, next to the
origin of the opinion. A report acts on such a view by those of its records that
are about the key. -/

namespace Gossip

open Foundation SwimServer

@[ext] structure View where
  alive : Option UInt64
  suspected : Option UInt64
  origin : Option Origin
deriving DecidableEq

def Entry.view (entry : Entry) (origin : Option Origin) : View where
  alive := entry.alive.map ServerRecord.lamportTime
  suspected := entry.suspected.map ServerRecord.lamportTime
  origin := origin

def Peer.view (peer : Peer) (key : Key) : View :=
  (peer.server.entry key).view (peer.origin key)

namespace View

def Pointless (settings : Settings) (record : ServerRecord) : Prop :=
  record.key = settings.self.key ∨ record.server.port = 0

instance (settings : Settings) (record : ServerRecord) :
    Decidable (Pointless settings record) :=
  inferInstanceAs (Decidable (_ ∨ _))

def onAliveRecord (settings : Settings) (clock : UInt64) (origin : ServerRecord → Origin)
    (view : View) (record : ServerRecord) : View :=
  if Pointless settings record ∨ view.suspected.any (record.lamportTime < ·) then view
  else
    { alive := some clock, suspected := none, origin := some (origin record) }

def onSuspectedRecord (settings : Settings) (clock : UInt64)
    (origin : ServerRecord → Origin) (view : View) (record : ServerRecord) : View :=
  if Pointless settings record ∨ view.alive.any (record.lamportTime < ·) then view
  else if view.suspected.isSome then { view with alive := none }
  else
    { alive := none, suspected := some clock, origin := some (origin record) }

end View

theorem any_lamportTime (stored : Option ServerRecord) (time : UInt64) :
    (stored.map ServerRecord.lamportTime).any (time < ·) =
      stored.any fun found => time < found.lamportTime := by
  cases stored <;> rfl

theorem current_of_not_any {stored : Option ServerRecord} {time : UInt64}
    (current : ¬ (stored.map ServerRecord.lamportTime).any (time < ·) = true) :
    ∀ found, stored = some found → found.lamportTime ≤ time := by
  rintro found rfl
  simpa using current

namespace Entry

variable {settings : Settings} {clock : UInt64} {entry : Entry} {record : ServerRecord}

theorem view_onAliveRecord (origin after : Option Origin) :
    (entry.onAliveRecord settings clock record).view after =
      if View.Pointless settings record ∨
          (entry.view origin).suspected.any (record.lamportTime < ·) then
        { entry.view origin with origin := after }
      else { alive := some clock, suspected := none, origin := after } := by
  by_cases isSelf : record.key = settings.self.key
  · simp [View.Pointless, isSelf, onAliveRecord, view]
  by_cases port : record.server.port = 0
  · rw [if_pos (.inl (.inr port)), view, (onAliveRecord_of_portless clock port).1,
      (onAliveRecord_of_portless clock port).2, view]
  by_cases stale : (entry.view origin).suspected.any (record.lamportTime < ·) = true
  · have ignored : entry.onAliveRecord settings clock record = entry := by
      rw [onAliveRecord, if_neg isSelf, if_pos]
      rwa [← any_lamportTime]
    rw [ignored, if_pos (.inr stale)]
    rfl
  · have taken := onAliveRecord_of_current clock isSelf port (current_of_not_any stale)
    rw [if_neg (by simp [View.Pointless, isSelf, port]; simpa using stale)]
    simp [view, taken]

theorem view_onSuspectedRecord (origin after : Option Origin) :
    (entry.onSuspectedRecord settings clock record).view after =
      if View.Pointless settings record ∨
          (entry.view origin).alive.any (record.lamportTime < ·) then
        { entry.view origin with origin := after }
      else
        { alive := none
          suspected := some ((entry.view origin).suspected.getD clock)
          origin := after } := by
  by_cases isSelf : record.key = settings.self.key
  · simp [View.Pointless, isSelf, onSuspectedRecord, view]
  by_cases port : record.server.port = 0
  · rw [if_pos (.inl (.inr port)), view, (onSuspectedRecord_of_portless clock port).1,
      (onSuspectedRecord_of_portless clock port).2, view]
  by_cases stale : (entry.view origin).alive.any (record.lamportTime < ·) = true
  · have ignored : entry.onSuspectedRecord settings clock record = entry := by
      rw [onSuspectedRecord, if_neg isSelf, if_pos]
      rwa [← any_lamportTime]
    rw [ignored, if_pos (.inr stale)]
    rfl
  · have taken := onSuspectedRecord_of_current clock isSelf port (current_of_not_any stale)
    rw [if_neg (by simp [View.Pointless, isSelf, port]; simpa using stale)]
    simp [view, taken]

end Entry

namespace Peer

theorem view_addAlive (peer : Peer) (subject : Server) (timestamp : UInt64)
    (origin : Origin) (key : Key) :
    (peer.addAlive subject timestamp origin).view key =
      if subject.key = key ∧ subject.port ≠ 0 then
        { alive := some peer.server.lamportTime, suspected := none, origin := some origin }
      else peer.view key := by
  simp only [view, addAlive, entry_addAlive]
  by_cases equal : subject.key = key
  · by_cases port : subject.port = 0
    · simp [equal, port, Entry.offerAlive]
    · have stamped : ((peer.server.entry key).offerAlive peer.server.toSettings
          peer.server.lamportTime subject timestamp).alive.map ServerRecord.lamportTime =
            some peer.server.lamportTime :=
        Entry.offerAlive_lamportTime peer.server.lamportTime port timestamp
      simp [equal, port, Entry.view, learn, stamped]
      simp [Entry.offerAlive, port]
  · simp only [equal, if_false, false_and]
    split <;> simp [learn, equal]

theorem onAliveRecord_origin (origin : ServerRecord → Origin) (peer : Peer)
    (record : ServerRecord) (key : Key) :
    (peer.onAliveRecord origin record).origin key =
      if record.key = key ∧ ¬ (View.Pointless peer.server.toSettings record ∨
          (peer.view record.key).suspected.any (record.lamportTime < ·)) then
        some (origin record)
      else peer.origin key := by
  have stale : (peer.view record.key).suspected.any (record.lamportTime < ·) =
      (peer.server.suspected.find? record.key).any
        fun found => record.lamportTime < found.lamportTime := any_lamportTime _ _
  rw [stale]
  simp only [onAliveRecord, addAlive, Server.same_iff, ServerRecord.server_key,
    View.Pointless]
  split
  · simp [*]
  split
  · simp [*]
  split
  · simp [*]
  · simp [learn, *]

theorem view_onAliveRecord (origin : ServerRecord → Origin) (peer : Peer)
    (record : ServerRecord) (key : Key) :
    (peer.onAliveRecord origin record).view key =
      if record.key = key then
        (peer.view key).onAliveRecord peer.server.toSettings peer.server.lamportTime origin
          record
      else peer.view key := by
  rw [view, onAliveRecord_origin]
  simp only [onAliveRecord, entry_onAliveRecord]
  by_cases equal : record.key = key
  · subst equal
    simp only [if_true, true_and, View.onAliveRecord]
    rw [Entry.view_onAliveRecord (peer.origin record.key), ← view]
    by_cases kept : View.Pointless peer.server.toSettings record ∨
        (peer.view record.key).suspected.any (record.lamportTime < ·)
    · simp only [kept, not_true, if_true, if_false]
      rfl
    · simp only [kept, not_false_eq_true, if_true, if_false]
  · simp [equal, view]

theorem onSuspectedRecord_origin (origin : ServerRecord → Origin) (reportSender : Server)
    (peer : Peer) (record : ServerRecord) (key : Key) :
    (peer.onSuspectedRecord origin reportSender record).origin key =
      if record.key = key ∧ ¬ (View.Pointless peer.server.toSettings record ∨
            (peer.view record.key).alive.any (record.lamportTime < ·)) ∧
          (peer.view record.key).suspected = none then
        some (origin record)
      else peer.origin key := by
  have stale : (peer.view record.key).alive.any (record.lamportTime < ·) =
      (peer.server.alive.find? record.key).any
        fun found => record.lamportTime < found.lamportTime := any_lamportTime _ _
  have absent : (peer.view record.key).suspected = none ↔
      ¬ peer.server.suspected.contains record.key = true := by
    simp [view, Entry.view, OrderedSet.contains]
  rw [stale]
  simp only [onSuspectedRecord, reportSuspected, Server.same_iff, ServerRecord.server_key,
    View.Pointless, absent]
  split
  · simp [*]
  split
  · simp [*]
  split
  · simp [*]
  by_cases known : peer.server.suspected.contains record.key = true
  · simp [known]
  · simp [learn, *]

theorem view_onSuspectedRecord (origin : ServerRecord → Origin) (reportSender : Server)
    (peer : Peer) (record : ServerRecord) (key : Key) :
    (peer.onSuspectedRecord origin reportSender record).view key =
      if record.key = key then
        (peer.view key).onSuspectedRecord peer.server.toSettings peer.server.lamportTime
          origin record
      else peer.view key := by
  rw [view, onSuspectedRecord_origin]
  simp only [onSuspectedRecord, entry_onSuspectedRecord]
  by_cases equal : record.key = key
  · subst equal
    simp only [if_true, true_and, View.onSuspectedRecord]
    rw [Entry.view_onSuspectedRecord (peer.origin record.key), ← view]
    by_cases kept : View.Pointless peer.server.toSettings record ∨
        (peer.view record.key).alive.any (record.lamportTime < ·)
    · simp only [kept, not_true, if_true, if_false, false_and]
      rfl
    · simp only [kept, not_false_eq_true, if_false, true_and]
      cases known : (peer.view record.key).suspected with
      | none => simp
      | some time =>
          simp [View.ext_iff]
          rfl
  · simp [equal, view]

/-! ## Whole reports -/

/-- What the loops of `OnReport` start from. -/
def heard (peer : Peer) (sender : Server) (now : UInt64) : Peer :=
  peer.addAlive sender now (.firstHand peer.server.lamportTime)

end Peer

/-- A turn of one of the two loops of `OnReport`. -/
inductive Turn
  | alive (record : ServerRecord)
  | suspected (record : ServerRecord)
deriving DecidableEq

def Turn.record : Turn → ServerRecord
  | .alive record | .suspected record => record

def SwimReport.turns (report : SwimReport) : List Turn :=
  report.alive.map .alive ++ report.suspected.map .suspected

def View.turn (settings : Settings) (clock : UInt64) (origin : ServerRecord → Origin)
    (view : View) : Turn → View
  | .alive record => view.onAliveRecord settings clock origin record
  | .suspected record => view.onSuspectedRecord settings clock origin record

namespace Peer

def turn (origin : ServerRecord → Origin) (reportSender : Server) (peer : Peer) :
    Turn → Peer
  | .alive record => peer.onAliveRecord origin record
  | .suspected record => peer.onSuspectedRecord origin reportSender record

def turnMachine (origin : ServerRecord → Origin) (reportSender : Server) :
    Machine Peer Turn := ⟨turn origin reportSender⟩

theorem onReport_eq_run (peer : Peer) (sender : Server) (report : SwimReport)
    (now : UInt64) (sent : Key → Option Origin) :
    peer.onReport sender report now sent =
      (turnMachine (recordOrigin sender peer.server.lamportTime sent) report.sender).run
        (peer.heard sender now) report.turns := by
  simp only [Machine.run, SwimReport.turns, List.foldl_append, List.foldl_map]
  rfl

theorem view_turn (origin : ServerRecord → Origin) (reportSender : Server) (peer : Peer)
    (turn : Turn) (key : Key) :
    (peer.turn origin reportSender turn).view key =
      if turn.record.key = key then
        (peer.view key).turn peer.server.toSettings peer.server.lamportTime origin turn
      else peer.view key := by
  cases turn with
  | alive record => exact view_onAliveRecord origin peer record key
  | suspected record => exact view_onSuspectedRecord origin reportSender peer record key

theorem view_onReport (peer : Peer) (sender : Server) (report : SwimReport)
    (now : UInt64) (sent : Key → Option Origin) (key : Key) :
    (peer.onReport sender report now sent).view key =
      (report.turns.filter fun turn => turn.record.key = key).foldl
        (View.turn peer.server.toSettings peer.server.lamportTime
          (recordOrigin sender peer.server.lamportTime sent))
        ((peer.heard sender now).view key) := by
  rw [onReport_eq_run]
  apply Machine.run_project (turnMachine _ report.sender)
    (fun state => HasFrame peer.server.toSettings peer.server.lamportTime state.server)
    (fun state => state.view key)
  · intro state turn frame
    cases turn <;> simpa [turnMachine, Peer.turn, HasFrame, onAliveRecord, onSuspectedRecord]
      using frame
  · intro state turn frame
    simp only [turnMachine, view_turn, frame.1, frame.2, decide_eq_true_eq]
  · simp [HasFrame, heard, addAlive]

end Peer

end Gossip
