import Gossip.Semantics.Entry

/-! # A report, one server at a time

What `OnReport` does about one server is determined by what it stores about that
server and by the few parts of the message that name it. The order in which a
report lists different servers makes no difference. -/

namespace Gossip

open Foundation SwimServer

/-! ## What a report does to one server -/

@[ext] structure Holding where
  alive : Option ServerRecord
  suspected : Option ServerRecord
deriving DecidableEq

namespace Holding

variable (lamportTime : UInt64)

/-- A contact with `subject`, or the news of one. -/
def addAlive (holding : Holding) (subject : Server) (timestamp : UInt64) : Holding :=
  if subject.port = 0 then holding
  else
    { alive :=
        some (match holding.alive with
          | none => stampedRecord lamportTime subject timestamp
          | some record => refreshed timestamp lamportTime record)
      suspected := none }

/-- A failed contact with `subject`, or the news of one. -/
def reportSuspected (holding : Holding) (subject : Server) (timestamp : UInt64) : Holding :=
  if subject.port = 0 then holding
  else
    { alive := none
      suspected :=
        some (holding.suspected.getD (stampedRecord lamportTime subject timestamp)) }

def onAliveRecord (holding : Holding) (record : ServerRecord) : Holding :=
  if holding.suspected.any fun found => record.lamportTime < found.lamportTime then holding
  else
    let added := holding.addAlive lamportTime record.server record.timestamp
    { added with alive := added.alive.map (Entry.raised record) }

def onSuspectedRecord (holding : Holding) (record : ServerRecord) : Holding :=
  if holding.alive.any fun found => record.lamportTime < found.lamportTime then holding
  else
    let reported := holding.reportSuspected lamportTime record.server record.timestamp
    { reported with suspected := reported.suspected.map (Entry.raised record) }

/-- What a report does to the records of one server: `sender` is the sender of the
message, if that is the server in question, `aliveRecord` and `suspectedRecord` are the
records of the report about it, and `own` says whether it is the receiver itself. -/
def onReport (own : Bool) (now : UInt64) (sender : Option Server)
    (aliveRecord suspectedRecord : Option ServerRecord) (holding : Holding) : Holding :=
  let holding := sender.elim holding fun sender => holding.addAlive lamportTime sender now
  if own then holding
  else
    let holding := aliveRecord.elim holding (holding.onAliveRecord lamportTime)
    suspectedRecord.elim holding (holding.onSuspectedRecord lamportTime)

end Holding

/-! ## The entry without its callbacks -/

namespace Entry

variable (settings : Settings) (lamportTime : UInt64)

def holding (entry : Entry) : Holding where
  alive := entry.alive
  suspected := entry.suspected

theorem holding_offerAlive (entry : Entry) (subject : Server) (timestamp : UInt64) :
    (entry.offerAlive settings lamportTime subject timestamp).holding =
      entry.holding.addAlive lamportTime subject timestamp := by
  unfold offerAlive Holding.addAlive
  split
  · rfl
  · cases known : entry.alive <;> simp [holding, known]

theorem holding_offerSuspected (entry : Entry) {subject : Server}
    (other : subject.key ≠ settings.self.key) (timestamp : UInt64) :
    (entry.offerSuspected settings lamportTime subject timestamp).holding =
      entry.holding.reportSuspected lamportTime subject timestamp := by
  rw [offerSuspected, Holding.reportSuspected, if_neg other]
  split
  · rfl
  · simp [holding]

theorem holding_aliveTurn {key : Key} (entry : Entry) {found : Option ServerRecord}
    (named : ∀ record ∈ found, record.key = key) :
    (found.toList.foldl (onAliveRecord settings lamportTime) entry).holding =
      if key = settings.self.key then entry.holding
      else found.elim entry.holding (entry.holding.onAliveRecord lamportTime) := by
  cases found with
  | none => simp
  | some record =>
      have atKey := named record rfl
      have offered := holding_offerAlive settings lamportTime entry record.server
        record.timestamp
      simp only [Option.toList_some, List.foldl_cons, List.foldl_nil, Option.elim_some,
        onAliveRecord, Holding.onAliveRecord, atKey, ← offered]
      split
      · rfl
      · exact apply_ite holding _ _ _

theorem holding_suspectedTurn {key : Key} (entry : Entry) {found : Option ServerRecord}
    (named : ∀ record ∈ found, record.key = key) :
    (found.toList.foldl (onSuspectedRecord settings lamportTime) entry).holding =
      if key = settings.self.key then entry.holding
      else found.elim entry.holding (entry.holding.onSuspectedRecord lamportTime) := by
  cases found with
  | none => simp
  | some record =>
      have atKey := named record rfl
      simp only [Option.toList_some, List.foldl_cons, List.foldl_nil, Option.elim_some,
        onSuspectedRecord, Holding.onSuspectedRecord, atKey]
      split
      next => rfl
      next other =>
        rw [← holding_offerSuspected settings lamportTime entry
          (by rwa [record.server_key, atKey])]
        exact apply_ite holding _ _ _

theorem holding_onReport (key : Key) (entry : Entry) (sender : Server)
    {report : SwimReport} (now : UInt64)
    (aliveDistinct : (report.alive.map ServerRecord.key).Nodup)
    (suspectedDistinct : (report.suspected.map ServerRecord.key).Nodup) :
    (entry.onReport settings lamportTime key sender report now).holding =
      entry.holding.onReport lamportTime (decide (key = settings.self.key)) now
        (if sender.key = key then some sender else none)
        (report.alive.find? fun record => record.key = key)
        (report.suspected.find? fun record => record.key = key) := by
  have named (records : List ServerRecord) :
      ∀ record ∈ records.find? fun record => decide (record.key = key),
        record.key = key :=
    fun record found => by simpa using List.find?_some found
  simp only [onReport, Holding.onReport, decide_eq_true_eq,
    filter_key_eq_find? ServerRecord.key key aliveDistinct,
    filter_key_eq_find? ServerRecord.key key suspectedDistinct,
    holding_suspectedTurn settings lamportTime _ (named report.suspected),
    holding_aliveTurn settings lamportTime _ (named report.alive)]
  have afterSender :
      (if sender.key = key then entry.offerAlive settings lamportTime sender now
        else entry).holding =
      (if sender.key = key then some sender else none).elim entry.holding fun sender =>
        entry.holding.addAlive lamportTime sender now := by
    split
    · exact holding_offerAlive settings lamportTime entry sender now
    · rfl
  rw [afterSender]
  split <;> rfl

end Entry

/-! ## Servers -/

namespace SwimServer

def holding (server : SwimServer) (key : Key) : Holding where
  alive := server.alive.find? key
  suspected := server.suspected.find? key

theorem entry_holding (server : SwimServer) (key : Key) :
    (server.entry key).holding = server.holding key := rfl

theorem agree_of_entry_eq {left right : SwimServer}
    (equal : ∀ key, left.entry key = right.entry key) :
    left.alive = right.alive ∧ left.suspected = right.suspected ∧
      left.callbacks.Perm right.callbacks :=
  ⟨OrderedSet.ext_find? fun key => congrArg Entry.alive (equal key),
    OrderedSet.ext_find? fun key => congrArg Entry.suspected (equal key),
    perm_of_filter_key_eq Callback.subject fun key =>
      congrArg Entry.callbacks (equal key)⟩

theorem entry_onReport_of_perm (server : SwimServer) (sender : Server) (now : UInt64)
    {report : SwimReport} (aliveDistinct : (report.alive.map ServerRecord.key).Nodup)
    (suspectedDistinct : (report.suspected.map ServerRecord.key).Nodup)
    {alive suspected : List ServerRecord} (alivePerm : alive.Perm report.alive)
    (suspectedPerm : suspected.Perm report.suspected) (key : Key) :
    (server.onReport sender { report with alive := alive, suspected := suspected }
        now).entry key =
      (server.onReport sender report now).entry key := by
  have aliveDistinct' := (alivePerm.map ServerRecord.key).nodup_iff.mpr aliveDistinct
  have suspectedDistinct' :=
    (suspectedPerm.map ServerRecord.key).nodup_iff.mpr suspectedDistinct
  simp only [entry_onReport, Entry.onReport,
    filter_key_eq_find? ServerRecord.key key aliveDistinct,
    filter_key_eq_find? ServerRecord.key key suspectedDistinct,
    filter_key_eq_find? ServerRecord.key key aliveDistinct',
    filter_key_eq_find? ServerRecord.key key suspectedDistinct',
    find?_eq_of_perm ServerRecord.key key alivePerm aliveDistinct,
    find?_eq_of_perm ServerRecord.key key suspectedPerm suspectedDistinct]

/-- When no server is listed twice among the healthy ones of a report, nor among the
suspected ones, what `OnReport` stores about each server depends on nothing but what was
stored about it, the clock, the current time and the parts of the message that name it;
and the order of the two lists matters neither to the sets nor to the callbacks. -/
theorem onReport_acts_independently (server : SwimServer) (sender : Server)
    (report : SwimReport) (now : UInt64)
    (aliveDistinct : (report.alive.map ServerRecord.key).Nodup)
    (suspectedDistinct : (report.suspected.map ServerRecord.key).Nodup) :
    (∀ key, (server.onReport sender report now).holding key =
      (server.holding key).onReport server.lamportTime (decide (key = server.self.key)) now
        (if sender.key = key then some sender else none)
        (report.alive.find? fun record => record.key = key)
        (report.suspected.find? fun record => record.key = key)) ∧
    ∀ alive suspected : List ServerRecord, alive.Perm report.alive →
      suspected.Perm report.suspected →
      let rearranged : SwimReport := { report with alive := alive, suspected := suspected }
      (server.onReport sender rearranged now).alive =
          (server.onReport sender report now).alive ∧
        (server.onReport sender rearranged now).suspected =
          (server.onReport sender report now).suspected ∧
        (server.onReport sender rearranged now).callbacks.Perm
          (server.onReport sender report now).callbacks := by
  constructor
  · intro key
    rw [← entry_holding, ← entry_holding, entry_onReport]
    exact Entry.holding_onReport _ _ key _ sender now aliveDistinct suspectedDistinct
  · intro alive suspected alivePerm suspectedPerm
    exact agree_of_entry_eq fun key =>
      entry_onReport_of_perm server sender now aliveDistinct suspectedDistinct alivePerm
        suspectedPerm key

theorem onReport_acts_independently_on_two_suspects :
    let server := create ⟨"node", fun _ => "10.0.0.1"⟩ "" 9000 true
    let left : Server := { hostname := "left", port := 9002 }
    let alive : ServerRecord :=
      { server := { hostname := "peer", port := 9001 }, timestamp := 10, lamportTime := 1 }
    let peer : ServerRecord := { alive with timestamp := 11, lamportTime := 5 }
    let right : ServerRecord :=
      { server := { hostname := "right", port := 9003 }, timestamp := 12, lamportTime := 4 }
    let report : SwimReport := { alive := [alive], suspected := [peer, right] }
    let swapped : SwimReport := { report with suspected := [right, peer] }
    (report.suspected.map ServerRecord.key).Nodup ∧
      (server.onReport left report 13).holding peer.key =
        Holding.onReport 0 false 13 none (some alive) (some peer) ⟨none, none⟩ ∧
      (server.onReport left swapped 13).suspected =
        (server.onReport left report 13).suspected ∧
      (server.onReport left swapped 13).callbacks.Perm
        (server.onReport left report 13).callbacks := by
  intro server left alive peer right report swapped
  have distinct : (report.suspected.map ServerRecord.key).Nodup := by decide
  have acts := onReport_acts_independently server left report 13 (by decide) distinct
  have rearranged := acts.2 [alive] [right, peer] (.refl _) (.swap _ _ _)
  exact ⟨distinct, acts.1 peer.key, rearranged.2⟩

end SwimServer

end Gossip
