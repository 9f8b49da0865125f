import Gossip.Contracts.Membership
import Gossip.Semantics.Listening

/-! # The name a server goes by

A server introduces itself under its configured host name and recognizes itself
under the host name of the machine. It never suspects itself under the name it
goes by exactly when the two names agree. -/

namespace Gossip

open Foundation SwimServer

inductive Arrival
  | envelope (message : SwimEnvelope) (now : UInt64)
  | forward (sender destination : Server) (seconds : UInt64) (answered : Bool)
      (now : UInt64)
deriving DecidableEq, Repr

def Arrival.operations : Arrival → List ServerOperation
  | .envelope message now => message.operations now
  | .forward sender destination seconds answered now =>
      [.forwardPing sender destination seconds answered now]

namespace SwimServer

def afterArrivals (server : SwimServer) (arrivals : List Arrival) : SwimServer :=
  serverMachine.run server (arrivals.flatMap Arrival.operations)

def advertised (server : SwimServer) (dest : Server) : Server :=
  (server.client dest).self

theorem postMessage_sender (server : SwimServer) (dest : Server) (envelope : SwimEnvelope) :
    ((server.client dest).postMessage envelope).2.envelope.sender =
      some (server.advertised dest) := rfl

end SwimServer

/-- Whatever arrives, the server does not suspect the identity it advertises, and
it answers a report that does with a ping. -/
structure NeverSuspectsItself (host : Host) (hostName : String) (port : UInt16)
    (statusCb : Bool) : Prop where
  notSuspected : ∀ arrivals dest,
    let server := (create host hostName port statusCb).afterArrivals arrivals
    server.suspected.contains (server.advertised dest).key = false
  answers : ∀ server : SwimServer,
    server.toSettings = (create host hostName port statusCb).toSettings →
      ∀ reportSender dest record, record.key = (server.advertised dest).key →
        onSuspectedRecord reportSender server record =
          server.post (server.client reportSender).ping.2

namespace SwimServer

theorem create_advertised_key (host : Host) (hostName : String) (port : UInt16)
    (statusCb : Bool) (dest : Server) :
    ((create host hostName port statusCb).advertised dest).key =
      toLex (if hostName = "" then host.hostname else hostName, (port.toNat : Int)) := by
  by_cases unnamed : hostName = "" <;>
    simp [advertised, client, create, SwimClient.create, Server.key, unnamed]

theorem create_advertised_key_eq_self_iff (host : Host) (hostName : String)
    (port : UInt16) (statusCb : Bool) (dest : Server) :
    ((create host hostName port statusCb).advertised dest).key =
        (create host hostName port statusCb).self.key ↔
      hostName = "" ∨ hostName = host.hostname := by
  rw [create_advertised_key]
  change toLex (_, (port.toNat : Int)) = toLex (host.hostname, (port.toNat : Int)) ↔ _
  split <;> simp_all

theorem advertised_congr {left right : SwimServer} (same : left.toSettings = right.toSettings)
    (dest : Server) : (left.advertised dest).key = (right.advertised dest).key := by
  have host := congrArg Settings.host same
  have name := congrArg Settings.hostName same
  have port := congrArg Settings.port same
  simp only [advertised, client, SwimClient.create, Server.key, host, name, port]

@[simp] theorem afterArrivals_toSettings (server : SwimServer) (arrivals : List Arrival) :
    (server.afterArrivals arrivals).toSettings = server.toSettings :=
  run_toSettings server _

theorem advertised_key_eq_self {server : SwimServer} {host : Host} {hostName : String}
    {port : UInt16} {statusCb : Bool}
    (same : server.toSettings = (create host hostName port statusCb).toSettings)
    (agree : hostName = "" ∨ hostName = host.hostname) (dest : Server) :
    (server.advertised dest).key = server.self.key := by
  rw [advertised_congr same, same]
  exact (create_advertised_key_eq_self_iff host hostName port statusCb dest).mpr agree

end SwimServer

def accusation (record : ServerRecord) : SwimEnvelope where
  type := .statusReport
  sender := some {}
  lamportTime := 1
  report := some { suspected := [record] }

theorem suspected_after_accusation {server : SwimServer} {record : ServerRecord}
    (port : record.server.port ≠ 0) (other : record.key ≠ server.self.key)
    (unheard : server.alive.find? record.key = none) :
    (server.afterArrivals [.envelope (accusation record) 0]).suspected.contains
      record.key = true := by
  have received : server.afterArrivals [.envelope (accusation record) 0] =
      (server.updateLamportTime 1).onReport {} { suspected := [record] } 0 := rfl
  have notSender : ({} : Server).key ≠ record.key := by
    intro equal
    exact port (Server.port_eq_of_key equal).symm
  have current : ∀ found, (server.entry record.key).alive = some found →
      found.lamportTime ≤ record.lamportTime := by
    simp [unheard]
  have taken := Entry.onSuspectedRecord_of_current
    (server.updateLamportTime 1).lamportTime other port current
  have entryAfter : ((server.updateLamportTime 1).onReport {} { suspected := [record] }
      0).entry record.key = (server.entry record.key).onSuspectedRecord server.toSettings
        (server.updateLamportTime 1).lamportTime record := by
    rw [entry_onReport, Entry.onReport, if_neg notSender]
    simp only [List.filter_nil, List.foldl_nil, List.filter_cons, decide_true, if_true,
      List.foldl_cons]
    rfl
  rw [received, OrderedSet.contains, ← entry_suspected, entryAfter, ← Option.isSome_map,
    taken.2]
  rfl

/-- A server never suspects itself under the name it goes by exactly when that is
the name under which it recognizes itself. -/
theorem never_suspects_itself_iff_names_agree (host : Host) (hostName : String)
    (port : UInt16) (statusCb : Bool) (portNonzero : port ≠ 0) :
    NeverSuspectsItself host hostName port statusCb ↔
      hostName = "" ∨ hostName = host.hostname := by
  constructor
  · intro never
    by_contra different
    let server := create host hostName port statusCb
    let record : ServerRecord := { server := server.advertised {} }
    have other : record.key ≠ server.self.key := fun equal =>
      different ((create_advertised_key_eq_self_iff host hostName port statusCb {}).mp equal)
    have recordPort : record.server.port ≠ 0 := by
      intro zero
      have portZero : (port.toNat : Int) = 0 := zero
      exact portNonzero (UInt16.toNat.inj (by simpa using portZero))
    have suspected := suspected_after_accusation recordPort other rfl
    have unsuspected := never.notSuspected [.envelope (accusation record) 0] {}
    dsimp only at unsuspected
    rw [advertised_congr (afterArrivals_toSettings server _)] at unsuspected
    exact Bool.false_ne_true (unsuspected.symm.trans suspected)
  · intro agree
    constructor
    · intro arrivals dest server
      have sound : server.Sound := (create_sound host hostName port statusCb).run _
      have isSelf : (server.advertised dest).key = server.self.key :=
        advertised_key_eq_self (afterArrivals_toSettings _ arrivals) agree dest
      have absent := (sound (server.advertised dest).key).neverSuspectsSelf isSelf
      rw [entry_suspected] at absent
      simp [OrderedSet.contains, absent]
    · intro server same reportSender dest record named
      have isSelf : record.key = server.self.key :=
        named.trans (advertised_key_eq_self same agree dest)
      simp [onSuspectedRecord, isSelf]

theorem never_suspects_itself_without_host_name :
    NeverSuspectsItself ⟨"node", fun _ => "10.0.0.1"⟩ "" 9000 true :=
  (never_suspects_itself_iff_names_agree ⟨"node", fun _ => "10.0.0.1"⟩ "" 9000 true
    (by decide)).mpr (.inl rfl)

/-- A server on the machine `node` goes by the address `127.0.1.1`, and suspects
itself as soon as one report does. -/
theorem suspects_itself_under_configured_name :
    let server := create ⟨"node", fun _ => "10.0.0.1"⟩ "127.0.1.1" 9000 true
    let record : ServerRecord := { server := server.advertised {}, timestamp := 10 }
    let after := server.afterArrivals
      [.envelope
        { type := .statusReport
          sender := some { hostname := "peer", port := 9001 }
          lamportTime := 5
          report := some { suspected := [record] } } 11]
    after.suspected.contains (after.advertised {}).key = true ∧
      after.postings = [] ∧
      ¬ NeverSuspectsItself ⟨"node", fun _ => "10.0.0.1"⟩ "127.0.1.1" 9000 true := by
  intro server record after
  have suspected : after.suspected.contains (after.advertised {}).key = true := by decide
  refine ⟨suspected, by decide, fun never => ?_⟩
  exact Bool.false_ne_true ((never.notSuspected _ {}).symm.trans suspected)

end Gossip
