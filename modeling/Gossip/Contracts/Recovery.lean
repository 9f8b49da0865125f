import Gossip.Contracts.Hearing

/-! # Recovery through a third server

A server that cannot reach another one asks a third to try. The third server passes on the
suspicion to the suspected server itself, in the name of the first, and the suspected
server answers the first with a ping. -/

namespace Gossip

open Foundation SwimServer

/-- The server goes by the host name of its machine. -/
def Settings.Named (settings : Settings) : Prop :=
  settings.hostName = settings.host.hostname

namespace SwimServer

theorem client_self_key {server : SwimServer} (named : server.Named) (dest : Server) :
    (server.client dest).self.key = server.self.key := by
  have host : server.hostName = server.host.hostname := named
  simp [client, SwimClient.create, Server.key, Settings.self, host]

theorem client_congr {settings : Settings} {lamportTime : UInt64}
    {left right : SwimServer} (leftFrame : HasFrame settings lamportTime left)
    (rightFrame : HasFrame settings lamportTime right) (dest : Server) :
    left.client dest = right.client dest := by
  have same := leftFrame.1.trans rightFrame.1.symm
  rw [client, client, leftFrame.2, rightFrame.2, congrArg Settings.host same,
    congrArg Settings.hostName same, congrArg Settings.port same]

/-! ## The suspected server -/

theorem process_forwarded {server : SwimServer} {destination : Server}
    (own : destination.key = server.self.key) (client : SwimClient) (sender : Server)
    (seconds now : UInt64) :
    let forwarded :=
      (client.send { sender := sender, suspected := [makeRecord destination seconds] }).2
    (server.process forwarded.envelope now).postings =
      server.postings ++
        [((server.updateLamportTime (client.lamportTime + 1)).client sender).ping.2] := by
  intro forwarded
  let ticked := server.updateLamportTime (client.lamportTime + 1)
  let heard := (ticked.addAlive client.self now).1
  have frame : HasFrame ticked.toSettings ticked.lamportTime heard := by
    simp [HasFrame, heard]
  have isSelf : (makeRecord destination seconds).server.same heard.self = true := by
    rw [Server.same_iff, frame.1]
    exact own
  calc (server.process forwarded.envelope now).postings
      = (onSuspectedRecord sender heard (makeRecord destination seconds)).postings := rfl
    _ = (heard.post (heard.client sender).ping.2).postings := by
        rw [onSuspectedRecord, if_pos isSelf]
    _ = server.postings ++ [(ticked.client sender).ping.2] := by
        rw [client_congr frame ⟨rfl, rfl⟩, post]
        simp [heard, ticked, updateLamportTime]

theorem unsuspected_self_invariant :
    EntryInvariant fun settings _ key entry =>
      key = settings.self.key → entry.suspected = none := by
  intro settings lamportTime key entry primitive about before own
  have unsuspected := before own
  cases primitive with
  | addAlive subject timestamp =>
      rw [Entry.perform, Entry.offerAlive]
      split
      · exact unsuspected
      · simp
  | reportSuspected subject timestamp =>
      have isSelf : subject.key = settings.self.key :=
        (Option.some.inj about).trans own
      rw [Entry.perform, Entry.offerSuspected, if_pos isSelf]
      split
      · exact unsuspected
      · simp
  | removeSuspected subject removeType seconds => simp [Entry.perform]
  | raiseAlive record => exact unsuspected
  | raiseSuspected record => simp [Entry.perform, unsuspected]
  | post posting => exact unsuspected

theorem run_not_suspects_self {server : SwimServer}
    (unsuspected : server.suspected.contains server.self.key = false)
    (operations : List ServerOperation) :
    (serverMachine.run server operations).suspected.contains server.self.key = false := by
  have before : server.Everywhere fun settings _ key entry =>
      key = settings.self.key → entry.suspected = none := by
    rintro key rfl
    simpa [OrderedSet.contains] using unsuspected
  have after := unsuspected_self_invariant.run operations before server.self.key
  rw [run_toSettings] at after
  simpa [OrderedSet.contains] using after rfl

/-! ## The server in between -/

theorem addAlive_suspected_of_contains {server : SwimServer} {subject : Server}
    {timestamp : UInt64} {key : Key}
    (suspected : (server.addAlive subject timestamp).1.suspected.contains key = true) :
    server.suspected.contains key = true := by
  have entered := congrArg Entry.suspected (server.entry_addAlive subject timestamp key)
  rcases OrderedSet.contains_iff.mp suspected with ⟨record, found⟩
  rw [entry_suspected, found] at entered
  apply OrderedSet.contains_iff.mpr
  refine ⟨record, ?_⟩
  split at entered
  · rw [Entry.offerAlive] at entered
    split at entered
    · exact entered.symm
    · simp at entered
  · exact entered.symm

def forwardedReport (server : SwimServer) (sender destination : Server)
    (seconds : UInt64) : Posting :=
  ((server.client destination).send
    { sender := sender, suspected := [makeRecord destination seconds] }).2

theorem forwardPing_postings (server : SwimServer) (sender destination : Server)
    (seconds : UInt64) (answered : Bool) (now : UInt64) :
    (server.forwardPing sender destination seconds answered now).postings =
      server.postings ++ [server.forwardedReport sender destination seconds] := by
  cases answered with
  | true => rfl
  | false =>
      rw [forwardPing, if_neg (by simp), reportSuspected_postings]
      rfl

end SwimServer

/-- Wherever the report finds the suspected server, it answers with one `STATUS_UPDATE`
addressed to the requestor, and wherever that finds the requestor, the suspected server is
alive for it from then on. -/
def Recovers (requestor target : Settings) (report : Posting) : Prop :=
  ∀ suspect : SwimServer, suspect.toSettings = target → ∀ now, ∃ ping,
    (suspect.process report.envelope now).postings = suspect.postings ++ [ping] ∧
    ping.envelope.type = .statusUpdate ∧ ping.dest.key = requestor.self.key ∧
    ∀ server : SwimServer, server.toSettings = requestor → ∀ now,
      (server.process ping.envelope now).HasHeard target.self.key

theorem recovers_of_forwarded (requestor : Settings) {target : Settings}
    (targetNamed : target.Named) (targetPort : target.port ≠ 0) {sender destination : Server}
    (asked : sender.key = requestor.self.key) (named : destination.key = target.self.key)
    (server : SwimServer) (seconds : UInt64) :
    Recovers requestor target (server.forwardedReport sender destination seconds) := by
  rintro suspect rfl now
  let client := server.client destination
  let ticked := suspect.updateLamportTime (client.lamportTime + 1)
  refine ⟨(ticked.client sender).ping.2, process_forwarded named client sender seconds now,
    rfl, asked, ?_⟩
  intro later _ arrival
  have port : (ticked.client sender).self.port ≠ 0 := by
    intro zero
    apply targetPort
    rw [← UInt16.toNat_inj]
    exact Int.ofNat_eq_zero.mp zero
  have heard := onUpdate_hasHeard
    (later.updateLamportTime ((ticked.client sender).lamportTime + 1)) port arrival
  have name : (ticked.client sender).self.key = ticked.self.key :=
    client_self_key targetNamed sender
  rw [name] at heard
  exact heard

/-- A server asks another one, in whatever state, to ping a third, which goes by the name of
its machine and has a port. The server in between starts a thread for that. When the thread
runs, with the server in whatever state by then, it sends one report, addressed to the third
server, and the third server recovers. The server in between suspects nobody on the way
unless the report is not answered, and the third server never suspects itself. -/
theorem mediated_recovery (requestor : SwimServer) (requestorNamed : requestor.Named)
    (target : Settings) (targetNamed : target.Named) (targetPort : target.port ≠ 0)
    (forwarder destination : Server) (named : destination.key = target.self.key) :
    let request := ((requestor.client forwarder).requestPing destination).2.envelope
    let thread : Forward := ⟨(requestor.client forwarder).self, some destination⟩
    (∀ (listener : Listener) (now : UInt64), ∃ next,
      listener.dispatch request now = .ok next ∧
      next.forwards = listener.forwards ++ [thread] ∧
      ∀ key, next.server.suspected.contains key = true →
        listener.server.suspected.contains key = true) ∧
    (∀ (listener : Listener) (index : Nat), listener.forwards[index]? = some thread →
      ∀ seconds answered now, ∃ next report,
        listener.background index seconds answered now = .ok next ∧
        next.server.postings = listener.server.postings ++ [report] ∧
        report.dest.key = target.self.key ∧
        Recovers requestor.toSettings target report ∧
        (answered = true → next.server.suspected = listener.server.suspected)) ∧
    ∀ suspect : SwimServer, suspect.toSettings = target →
      suspect.suspected.contains target.self.key = false → ∀ operations,
        (serverMachine.run suspect operations).suspected.contains target.self.key =
          false := by
  intro request thread
  refine ⟨?_, ?_, ?_⟩
  · intro listener now
    refine ⟨_, rfl, rfl, fun key suspected => ?_⟩
    have ticked : (listener.server.updateLamportTime request.lamportTime).suspected.contains
        key = true := addAlive_suspected_of_contains suspected
    exact ticked
  · intro listener index found seconds answered now
    have runs : listener.background index seconds answered now = .ok
        { listener with
          forwards := listener.forwards.eraseIdx index
          server := listener.server.forwardPing thread.sender destination seconds answered
            now } := by
      rw [Listener.background, found]
      rfl
    refine ⟨_, _, runs, forwardPing_postings _ _ _ _ _ _, named, ?_, ?_⟩
    · exact recovers_of_forwarded requestor.toSettings targetNamed targetPort
        (client_self_key requestorNamed forwarder) named listener.server seconds
    · rintro rfl
      rfl
  · rintro suspect rfl unsuspected operations
    exact run_not_suspects_self unsuspected operations

theorem mediated_recovery_of_three :
    let machine (name : String) : Host := ⟨name, fun _ => "10.0.0.1"⟩
    let requestor := SwimServer.create (machine "r") "" 9000 true
    let forwarder : Listener := { server := .create (machine "f") "" 9001 true }
    let target := (SwimServer.create (machine "d") "" 9002 true).toSettings
    let request := ((requestor.client forwarder.server.self).requestPing target.self).2
    ∃ next after report, forwarder.dispatch request.envelope 10 = .ok next ∧
      next.background 0 11 false 12 = .ok after ∧ after.server.postings = [report] ∧
      Recovers requestor.toSettings target report := by
  intro machine requestor forwarder target request
  have recovery := mediated_recovery requestor rfl target rfl (by decide)
    forwarder.server.self target.self rfl
  rcases recovery.1 forwarder 10 with ⟨next, dispatched, threads, -⟩
  rcases recovery.2.1 next 0 (by rw [threads]; rfl) 11 false 12 with
    ⟨after, report, runs, postings, -, recovers, -⟩
  refine ⟨next, after, report, dispatched, runs, ?_, recovers⟩
  rw [postings]
  cases dispatched
  rfl

end Gossip
