import Gossip.Contracts.Membership
import Gossip.Contracts.RoundRobin
import Gossip.Semantics.Actions

/-! # Rounds of full reports

A full report goes to the neighbours that one selection returns. Each of them is
refreshed or suspected as soon as it has answered or failed to. For one that failed, a
second selection chooses who is asked to ping it: this moves the shared index and reads
a set that has become smaller, but changes neither set, so that the first selection is
walked to its end. -/

namespace Gossip

open Foundation GossipFailureDetector

/-! ## Port zero -/

namespace SwimServer

def RefusesPortZero (server : SwimServer) : Prop :=
  ∀ key, Key.port key = 0 → server.alive.contains key = false

theorem Sound.refusesPortZero {server : SwimServer} (sound : server.Sound) :
    server.RefusesPortZero := by
  intro key zero
  have refused : server.alive.find? key = none := ((sound key).refusesPortZero zero).1
  rw [OrderedSet.contains, refused]
  rfl

end SwimServer

theorem Thread.port_of_leaveSuspected {thread : Thread} {key : Key}
    (leaves : thread.action key = .leaveSuspected) : Key.port key ≠ 0 := by
  have acts := thread.acts_of_action key (by simp [leaves])
  rw [leaves] at acts
  unfold Thread.acts at acts
  split at acts
  case h_4 subject timestamp rest _ _ =>
    split at acts
    · cases acts
    next port =>
      cases acts
      exact port
  all_goals cases acts

namespace Threads

structure Refuses (pool : Threads) (key : Key) : Prop where
  alive : pool.alive key = false
  position : ∀ thread ∈ pool.threads, thread.position key ≠ .towardsAlive

theorem Refuses.step {pool : Threads} {key : Key} (zero : Key.port key = 0)
    (refuses : pool.Refuses key) (decision : Decision ServerOperation) :
    (threadMachine.step pool decision).Refuses key := by
  rcases step_cases pool decision key with rests | ⟨index, thread, next, rfl, advances⟩
  · constructor
    · rw [Threads.alive, rests.shared]
      exact refuses.alive
    · intro thread member
      rcases rests.old thread member with old | outside
      · exact refuses.position thread old
      · simp [outside]
  · have present : thread ∈ pool.threads := List.mem_of_getElem? advances.present
    have away := refuses.position thread present
    have stays : thread.action key ≠ .leaveSuspected := fun leaves =>
      Thread.port_of_leaveSuspected leaves zero
    have alive : (threadMachine.step pool (.advance index)).alive key =
        (thread.action key).alive (pool.alive key) := advances.performs.alive
    have position := advances.performs.position
    have starts := advances.performs.starts
    generalize thread.action key = action at stays alive position starts
    constructor
    · -- Only a thread that is on its way to the alive gets there.
      rw [alive, refuses.alive]
      cases action with
      | enterAlive => exact absurd starts away
      | _ => rfl
    · intro other member
      rw [advances.threads] at member
      rcases List.mem_or_eq_of_mem_set member with old | rfl
      · exact refuses.position other old
      · rw [position]
        cases action with
        | leaveSuspected => exact absurd rfl stays
        | stay => exact away
        | _ => simp [Action.position]

theorem refusesPortZero_run (host : Host) (hostName : String) (port : UInt16)
    (statusCb : Bool) (decisions : List (Decision ServerOperation)) :
    (threadMachine.run (create host hostName port statusCb)
      decisions).shared.server.RefusesPortZero := by
  intro key zero
  have refuses := threadMachine.run_keeps (fun pool => pool.Refuses key)
    (fun pool decision refuses => refuses.step zero decision)
    (create host hostName port statusCb) decisions
    ⟨rfl, by simp [create]⟩
  exact refuses.alive

end Threads

section Reachable

variable {Cost : Type} (costs : CostArithmetic Cost) (sort : LamportSort)

/-- A state that operations lead to, whether they run one after the other or
overlap. -/
inductive SwimServer.Reachable : SwimServer → Prop
  | sequential {detector : GossipFailureDetector} {host : Host} {hostName : String}
      {port : UInt16} {statusCb : Bool}
      (fresh : detector.server = .create host hostName port statusCb)
      (operations : List DetectorOperation) :
      Reachable ((detectorMachine costs sort).run detector operations).server
  | overlapping (host : Host) (hostName : String) (port : UInt16) (statusCb : Bool)
      (decisions : List (Decision ServerOperation)) :
      Reachable (threadMachine.run (Threads.create host hostName port statusCb)
        decisions).shared.server

variable {costs sort}

theorem SwimServer.Reachable.refusesPortZero {server : SwimServer}
    (reachable : server.Reachable costs sort) : server.RefusesPortZero := by
  cases reachable with
  | @sequential detector _ _ _ _ fresh operations =>
      have sound := (detectorMachine costs sort).run_keeps
        (fun detector => detector.server.Sound)
        (fun _ operation sound => operate_sound costs sort operation sound) detector
        operations (fresh ▸ SwimServer.create_sound _ _ _ _)
      exact sound.refusesPortZero
  | overlapping host hostName port statusCb decisions =>
      exact Threads.refusesPortZero_run host hostName port statusCb decisions

end Reachable

/-! ## One contact -/

def Entry.contacted (settings : Settings) (lamportTime : UInt64) (entry : Entry)
    (other : Server) (contact : Contact) : Entry :=
  if contact.answered then entry.addAlive settings lamportTime other contact.now
  else entry.reportSuspected settings lamportTime other contact.now

def SwimServer.reportDestinations (server : SwimServer) : List Server :=
  (server.postings.filter fun posting => posting.envelope.type = .statusReport).map
    Posting.dest

structure SwimServer.Contacts (before after : SwimServer) (other : Server)
    (contact : Contact) : Prop where
  frame : HasFrame before.toSettings before.lamportTime after
  reported : after.reportDestinations = before.reportDestinations ++ [other]
  entry : ∀ key, after.entry key =
    if other.key = key then
      (before.entry key).contacted before.toSettings before.lamportTime other contact
    else before.entry key

structure SwimServer.CanContact (server : SwimServer) (other : Server) : Prop where
  alive : server.alive.contains other.key = true
  port : other.port ≠ 0
  foreign : other.key ≠ server.self.key

namespace SwimServer

theorem Addressable.of_contains {before after : SwimServer} (addressable : before.Addressable)
    (included : ∀ key, after.alive.contains key = true → before.alive.contains key = true) :
    after.Addressable :=
  Nat.lt_of_le_of_lt (OrderedSet.length_le_of_contains included) addressable

theorem Contacts.alive_of_ne {before after : SwimServer} {other : Server} {contact : Contact}
    (contacts : before.Contacts after other contact) {key : Key}
    (different : other.key ≠ key) : after.alive.contains key = before.alive.contains key := by
  have same := contacts.entry key
  rw [if_neg different] at same
  have alive : after.alive.find? key = before.alive.find? key := congrArg Entry.alive same
  rw [OrderedSet.contains, alive, OrderedSet.contains]

theorem Contacts.addressable {before after : SwimServer} {other : Server} {contact : Contact}
    (contacts : before.Contacts after other contact) (canContact : before.CanContact other)
    (addressable : before.Addressable) : after.Addressable := by
  apply addressable.of_contains
  intro key known
  by_cases equal : other.key = key
  · exact equal ▸ canContact.alive
  · rwa [← contacts.alive_of_ne equal]

theorem Contacts.canContact {before after : SwimServer} {other next : Server}
    {contact : Contact} (contacts : before.Contacts after other contact)
    (different : other.key ≠ next.key) (canContact : before.CanContact next) :
    after.CanContact next where
  alive := by
    rw [contacts.alive_of_ne different]
    exact canContact.alive
  port := canContact.port
  foreign := by
    rw [contacts.frame.1]
    exact canContact.foreign

end SwimServer

namespace GossipFailureDetector

variable (detector : GossipFailureDetector)

theorem reportDestinations_append {server : SwimServer} {requests : List Posting}
    (noReports : ∀ request ∈ requests, request.envelope.type ≠ .statusReport) :
    { server with postings := server.postings ++ requests }.reportDestinations =
      server.reportDestinations := by
  simp only [SwimServer.reportDestinations, List.filter_append, List.map_append]
  rw [List.append_right_eq_self, List.map_eq_nil_iff, List.filter_eq_nil_iff]
  simpa using noReports

theorem requestPings_server (other : Server) (forwards : List Server) :
    ∃ requests, (detector.requestPings other forwards).server =
        { detector.server with postings := detector.server.postings ++ requests } ∧
      ∀ request ∈ requests, request.envelope.type ≠ .statusReport := by
  induction forwards generalizing detector with
  | nil => exact ⟨[], by simp [requestPings], by simp⟩
  | cons forward forwards induction =>
      rcases induction (detector.post ((detector.client forward).requestPing other).2) with
        ⟨requests, result, noReports⟩
      refine ⟨((detector.client forward).requestPing other).2 :: requests, ?_, ?_⟩
      · refine result.trans ?_
        simp [post, SwimServer.post]
      · rw [List.forall_mem_cons]
        exact ⟨by simp [SwimClient.requestPing, SwimClient.postMessage], noReports⟩

theorem reportDestinations_send (report : SwimReport) (other : Server) :
    (detector.server.post ((detector.client other).send report).2).reportDestinations =
      detector.server.reportDestinations ++ [other] := by
  simp [SwimServer.reportDestinations, SwimServer.post, SwimClient.send,
    SwimClient.postMessage, client, SwimClient.create]

theorem reportDestinations_perform {server : SwimServer} {primitive : Primitive}
    (silent : primitive.posting? = none) :
    (server.perform primitive).reportDestinations = server.reportDestinations := by
  rw [SwimServer.reportDestinations, SwimServer.perform_postings, silent]
  simp [SwimServer.reportDestinations]

theorem contacts_perform (report : SwimReport) {other : Server} {contact : Contact}
    {primitive : Primitive} (silent : primitive.posting? = none)
    (about : primitive.subject? = some other.key)
    (changes : ∀ entry : Entry, entry.perform detector.server.toSettings
        detector.server.lamportTime primitive =
      entry.contacted detector.server.toSettings detector.server.lamportTime other contact) :
    detector.server.Contacts
      ((detector.server.post ((detector.client other).send report).2).perform primitive)
      other contact where
  frame := ⟨by simp [SwimServer.post], by simp [SwimServer.post]⟩
  reported := by
    rw [reportDestinations_perform silent, reportDestinations_send]
  entry := by
    intro key
    rw [SwimServer.entry_perform, about, SwimServer.entry_post]
    simp only [Option.some.injEq]
    split
    · exact changes _
    · rfl

theorem contacts_of_requests {before after : SwimServer} {other : Server} {contact : Contact}
    (contacts : before.Contacts after other contact) {requests : List Posting}
    (noReports : ∀ request ∈ requests, request.envelope.type ≠ .statusReport) :
    before.Contacts { after with postings := after.postings ++ requests } other contact where
  frame := contacts.frame
  reported := by
    rw [reportDestinations_append noReports, contacts.reported]
  entry := contacts.entry

theorem contactNeighbor_returns (report : SwimReport) {other : Server} (contact : Contact)
    (addressable : detector.server.Addressable)
    (canContact : detector.server.CanContact other) :
    ∃ after, detector.contactNeighbor report other contact = (after, .returned ()) ∧
      detector.server.Contacts after.server other contact := by
  cases answered : contact.answered with
  | true =>
      refine ⟨(detector.post ((detector.client other).send report).2).addAlive other
        contact.now, by simp [contactNeighbor, sendReportTo, answered, Result.andThen], ?_⟩
      have changes : ∀ entry : Entry, entry.perform detector.server.toSettings
          detector.server.lamportTime (.addAlive other contact.now) =
          entry.contacted detector.server.toSettings detector.server.lamportTime other
            contact := by
        simp [Entry.perform, Entry.offerAlive, Entry.contacted, canContact.port, answered]
      exact detector.contacts_perform report rfl rfl changes
  | false =>
      have changes : ∀ entry : Entry, entry.perform detector.server.toSettings
          detector.server.lamportTime (.reportSuspected other contact.now) =
          entry.contacted detector.server.toSettings detector.server.lamportTime other
            contact := by
        simp [Entry.perform, Entry.offerSuspected, Entry.contacted, canContact.port,
          canContact.foreign, answered]
      have contacts := detector.contacts_perform report rfl rfl changes
      let suspecting := (detector.post ((detector.client other).send report).2).reportSuspected
        other contact.now
      -- The forwards are chosen after the server has left the alive.
      rcases suspecting.getUniqueNeighbors_returns
        (contacts.addressable canContact addressable) suspecting.numForwards with
        ⟨index, result, _⟩
      let moved : GossipFailureDetector := { suspecting with roundRobinIndex := index }
      let forwards := (suspecting.selected suspecting.numForwards).toList
      rcases moved.requestPings_server other forwards with ⟨requests, posted, noReports⟩
      refine ⟨moved.requestPings other forwards, ?_, ?_⟩
      · simp only [contactNeighbor, sendReportTo, answered]
        rw [if_neg Bool.false_ne_true, result]
        rfl
      · rw [posted]
        exact contacts_of_requests contacts noReports

end GossipFailureDetector

/-! ## The loop -/

structure SwimServer.ContactsAll (contacts : Server → Contact) (before after : SwimServer)
    (others : List Server) : Prop where
  reported : after.reportDestinations = before.reportDestinations ++ others
  contacted : ∀ other ∈ others, after.entry other.key =
    (before.entry other.key).contacted before.toSettings before.lamportTime other
      (contacts other)
  untouched : ∀ key, key ∉ others.map Server.key → after.entry key = before.entry key

structure SwimServer.CanContactAll (server : SwimServer) (others : List Server) : Prop where
  distinct : (others.map Server.key).Nodup
  each : ∀ other ∈ others, server.CanContact other

namespace SwimServer

variable {contacts : Server → Contact} {before middle after : SwimServer} {other : Server}
  {others : List Server}

theorem ContactsAll.nil (contacts : Server → Contact) (server : SwimServer) :
    ContactsAll contacts server server [] where
  reported := (List.append_nil _).symm
  contacted := by simp
  untouched := fun _ _ => rfl

theorem ContactsAll.cons (first : before.Contacts middle other (contacts other))
    (rest : ContactsAll contacts middle after others)
    (new : other.key ∉ others.map Server.key) :
    ContactsAll contacts before after (other :: others) where
  reported := by
    rw [rest.reported, first.reported, List.append_assoc, List.singleton_append]
  contacted := by
    intro server member
    rcases List.mem_cons.mp member with rfl | later
    · rw [rest.untouched server.key new, first.entry, if_pos rfl]
    · have different : other.key ≠ server.key := fun same =>
        new (same ▸ List.mem_map_of_mem later)
      rw [rest.contacted server later, first.entry, if_neg different, first.frame.1,
        first.frame.2]
  untouched := by
    intro key absent
    rw [List.map_cons, List.mem_cons, not_or] at absent
    rw [rest.untouched key absent.2, first.entry, if_neg (Ne.symm absent.1)]

theorem CanContactAll.tail (canContact : before.CanContactAll (other :: others))
    {contact : Contact} (first : before.Contacts middle other contact) :
    middle.CanContactAll others := by
  have distinct := List.nodup_cons.mp canContact.distinct
  refine ⟨distinct.2, fun server member => ?_⟩
  apply first.canContact _ (canContact.each server (List.mem_cons_of_mem _ member))
  exact fun same => distinct.1 (same ▸ List.mem_map_of_mem member)

end SwimServer

namespace GossipFailureDetector

theorem contactNeighbors_returns (report : SwimReport) (contacts : Server → Contact)
    (detector : GossipFailureDetector) {others : List Server}
    (addressable : detector.server.Addressable)
    (canContact : detector.server.CanContactAll others) :
    ∃ after, contactNeighbors report contacts detector others = (after, .returned ()) ∧
      SwimServer.ContactsAll contacts detector.server after.server others := by
  induction others generalizing detector with
  | nil => exact ⟨detector, rfl, .nil contacts detector.server⟩
  | cons other others induction =>
      have canContactFirst := canContact.each other List.mem_cons_self
      rcases detector.contactNeighbor_returns report (contacts other) addressable
        canContactFirst with ⟨middle, returned, first⟩
      rcases induction middle (first.addressable canContactFirst addressable)
        (canContact.tail first) with ⟨after, result, rest⟩
      refine ⟨after, ?_, rest.cons first (List.nodup_cons.mp canContact.distinct).1⟩
      rw [contactNeighbors, returned]
      exact result

end GossipFailureDetector

/-! ## Rounds -/

structure FullRound (contacts : Server → Contact) (before after : SwimServer)
    (contacted : List Server) : Prop where
  reported : after.reportDestinations = before.reportDestinations ++ contacted
  distinct : (contacted.map Server.key).Nodup
  others : ∀ other ∈ contacted, other ∈ before.others
  answered : ∀ other ∈ contacted, (contacts other).answered = true →
    (∃ record, before.alive.find? other.key = some record ∧
      after.alive.find? other.key =
        some (SwimServer.refreshed (contacts other).now before.lamportTime record)) ∧
      after.suspected.contains other.key = false
  failed : ∀ other ∈ contacted, (contacts other).answered = false →
    after.suspected.contains other.key = true ∧ after.alive.contains other.key = false
  untouched : ∀ key, key ∉ contacted.map Server.key →
    after.alive.find? key = before.alive.find? key ∧
      after.suspected.find? key = before.suspected.find? key

namespace SwimServer

theorem canContact_of_mem_others {server : SwimServer} (refuses : server.RefusesPortZero)
    {other : Server} (member : other ∈ server.others) : server.CanContact other := by
  rw [mem_others, isOther_iff] at member
  rcases List.mem_map.mp member.1 with ⟨record, stored, rfl⟩
  have alive : server.alive.contains record.key = true := OrderedSet.contains_of_mem stored
  refine ⟨alive, ?_, member.2⟩
  intro zero
  rw [refuses record.key zero] at alive
  cases alive

theorem ContactsAll.fullRound {contacts : Server → Contact} {before after : SwimServer}
    {contacted : List Server} (contactsAll : ContactsAll contacts before after contacted)
    (distinct : (contacted.map Server.key).Nodup)
    (others : ∀ other ∈ contacted, other ∈ before.others)
    (known : ∀ other ∈ contacted, before.alive.contains other.key = true) :
    FullRound contacts before after contacted where
  reported := contactsAll.reported
  distinct := distinct
  others := others
  answered := by
    intro other member answered
    rcases OrderedSet.contains_iff.mp (known other member) with ⟨record, found⟩
    have entry := contactsAll.contacted other member
    rw [Entry.contacted, if_pos answered] at entry
    have alive := congrArg Entry.alive entry
    have suspected := congrArg Entry.suspected entry
    simp only [Entry.addAlive_alive, Entry.addAlive_suspected, entry_alive, entry_suspected,
      found] at alive suspected
    exact ⟨⟨record, found, alive⟩, by simp [OrderedSet.contains, suspected]⟩
  failed := by
    intro other member failed
    have entry := contactsAll.contacted other member
    rw [Entry.contacted, if_neg (by simp [failed])] at entry
    have alive := congrArg Entry.alive entry
    have suspected := congrArg Entry.suspected entry
    simp only [Entry.reportSuspected_alive, Entry.reportSuspected_suspected, entry_alive,
      entry_suspected] at alive suspected
    exact ⟨by simp [OrderedSet.contains, suspected], by simp [OrderedSet.contains, alive]⟩
  untouched := by
    intro key absent
    have entry := contactsAll.untouched key absent
    exact ⟨congrArg Entry.alive entry, congrArg Entry.suspected entry⟩

end SwimServer

namespace GossipFailureDetector

section Rounds

variable {Cost : Type} (costs : CostArithmetic Cost) (sort : LamportSort)
  (detector : GossipFailureDetector)

theorem sendReport_full (refuses : detector.server.RefusesPortZero)
    (addressable : detector.server.Addressable) (aliveNow suspectedNow : UInt64)
    (draw : Nat) (contacts : Server → Contact) :
    ∃ after, detector.sendReport costs sort .full aliveNow suspectedNow draw contacts =
        (after, .returned ()) ∧
      FullRound contacts detector.server after.server
        (detector.selected detector.numReports).toList := by
  have canContact : ∀ other ∈ (detector.selected detector.numReports).toList,
      detector.server.CanContact other := fun other member =>
    SwimServer.canContact_of_mem_others refuses (detector.mem_others_of_selected member)
  have distinct := (detector.selected detector.numReports).nodup_keys
  have round {after : GossipFailureDetector} (contactsAll : SwimServer.ContactsAll contacts
      detector.server after.server (detector.selected detector.numReports).toList) :
      FullRound contacts detector.server after.server
        (detector.selected detector.numReports).toList :=
    contactsAll.fullRound distinct (fun _ => detector.mem_others_of_selected)
      fun other member => (canContact other member).alive
  by_cases empty : detector.server.alive.toList.isEmpty = true
  · have nobody : (detector.selected detector.numReports).toList = [] := by
      apply List.eq_nil_iff_forall_not_mem.mpr
      intro other member
      have listed := (SwimServer.mem_others.mp (detector.mem_others_of_selected member)).1
      rw [SwimServer.neighbors, List.isEmpty_iff.mp empty] at listed
      cases listed
    refine ⟨detector, by simp [sendReport, empty], round ?_⟩
    rw [nobody]
    exact .nil contacts detector.server
  · rcases detector.getUniqueNeighbors_returns addressable detector.numReports with
      ⟨index, result, _⟩
    let moved : GossipFailureDetector := { detector with roundRobinIndex := index }
    rcases moved.contactNeighbors_returns
      (detector.server.prepareReport costs sort aliveNow suspectedNow) contacts addressable
      ⟨distinct, canContact⟩ with ⟨after, returned, contactsAll⟩
    refine ⟨after, ?_, round contactsAll⟩
    simp only [sendReport, empty]
    rw [if_neg Bool.false_ne_true, result]
    exact returned

def ExactRound (contacts : Server → Contact) (round : Result Unit) : Prop :=
  round.2 = .returned () ∧ ∃ contacted,
    FullRound contacts detector.server round.1.server contacted ∧
      contacted.length = min detector.numReports.toNat detector.server.others.length

theorem exactRound_iff (refuses : detector.server.RefusesPortZero)
    (addressable : detector.server.Addressable) (aliveNow suspectedNow : UInt64)
    (draw : Nat) (contacts : Server → Contact) :
    detector.ExactRound contacts
        (detector.sendReport costs sort .full aliveNow suspectedNow draw contacts) ↔
      min (turnsCounted detector.numReports detector.server.alive.toList.length)
          detector.server.others.length =
        min detector.numReports.toNat detector.server.others.length := by
  rcases detector.sendReport_full costs sort refuses addressable aliveNow suspectedNow draw
    contacts with ⟨after, result, round⟩
  rw [result, ← length_selected]
  constructor
  · -- The reports that were sent say who was contacted.
    rintro ⟨_, contacted, other, length⟩
    have same := List.append_cancel_left (round.reported.symm.trans other.reported)
    rw [same, length]
  · intro length
    exact ⟨rfl, _, round, length⟩

/-- A full round classifies exactly the contacted neighbours, and it contacts as many as
it should exactly when enough turns count, which is so on a set of fewer than `2 ^ 31`
servers. -/
theorem full_round_exact_iff (reachable : detector.server.Reachable costs sort)
    (addressable : detector.server.Addressable) (aliveNow suspectedNow : UInt64)
    (draw : Nat) (contacts : Server → Contact) :
    let round := detector.sendReport costs sort .full aliveNow suspectedNow draw contacts
    (detector.ExactRound contacts round ↔
      min (turnsCounted detector.numReports detector.server.alive.toList.length)
          detector.server.others.length =
        min detector.numReports.toNat detector.server.others.length) ∧
      (detector.server.alive.toList.length < 2 ^ 31 →
        detector.ExactRound contacts round) := by
  intro round
  have exactly := detector.exactRound_iff costs sort reachable.refusesPortZero addressable
    aliveNow suspectedNow draw contacts
  refine ⟨exactly, fun small => ?_⟩
  have bound := length_others_le detector.server
  rw [exactly, turnsCounted_of_lt _ small]
  omega

end Rounds

theorem full_round_exact_of_one_failure :
    let started : GossipFailureDetector :=
      { server := .create ⟨"node", fun _ => "10.0.0.1"⟩ "" 9000 true
        gracePeriod := 1000
        hostName := ""
        numReports := 2
        numForwards := 3
        roundRobinIndex := 1 }
    let detector := (detectorMachine exactCosts stableSort).run started
      [.server (.addAlive { hostname := "alpha", port := 9002 } 1),
        .server (.addAlive { hostname := "node", port := 9000 } 2),
        .server (.addAlive { hostname := "omega", port := 9003 } 3),
        .server (.addAlive { hostname := "peer", port := 9001 } 4)]
    let contacts : Server → Contact := fun other => ⟨other.port = 9003, 100⟩
    detector.server.others.length = 3 ∧ detector.ExactRound contacts
      (detector.sendReport exactCosts stableSort .full 99 99 0 contacts) := by
  intro started detector contacts
  have reachable : detector.server.Reachable exactCosts stableSort := .sequential rfl _
  refine ⟨by decide, ?_⟩
  exact (detector.full_round_exact_iff exactCosts stableSort reachable (by decide) 99 99 0
    contacts).2 (by decide)

theorem run_server {Cost : Type} (costs : CostArithmetic Cost) (sort : LamportSort)
    (detector : GossipFailureDetector) (operations : List ServerOperation) :
    (detectorMachine costs sort).run detector (operations.map .server) =
      { detector with server := serverMachine.run detector.server operations } := by
  induction operations generalizing detector with
  | nil => rfl
  | cons operation operations induction => exact induction _

theorem reachable_crowded {Cost : Type} (costs : CostArithmetic Cost) (sort : LamportSort)
    (size : Nat) : (crowded size).Reachable costs sort := by
  let fresh : GossipFailureDetector :=
    { server := .create ⟨"node", fun _ => "10.0.0.1"⟩ "" 9000 true
      gracePeriod := 1000
      hostName := ""
      numReports := 6
      numForwards := 3 }
  have run := fresh.run_server costs sort (crowd size)
  have reachable : ((detectorMachine costs sort).run fresh
      ((crowd size).map .server)).server.Reachable costs sort := .sequential rfl _
  rw [run] at reachable
  rw [crowded]
  exact reachable

section Crowd

variable {Cost : Type} (costs : CostArithmetic Cost) (sort : LamportSort)
  {detector : GossipFailureDetector} (server : detector.server = crowded (2 ^ 31))
  (numReports : detector.numReports = 2147483648) (aliveNow suspectedNow : UInt64)
  (draw : Nat) (contacts : Server → Contact)

include server numReports

theorem not_exactRound_of_crowded :
    ¬ detector.ExactRound contacts
      (detector.sendReport costs sort .full aliveNow suspectedNow draw contacts) := by
  have refuses : detector.server.RefusesPortZero :=
    server ▸ (reachable_crowded costs sort _).refusesPortZero
  have addressable : detector.server.Addressable := server ▸ addressable_crowded
  rw [detector.exactRound_iff costs sort refuses addressable, server, numReports,
    turnsCounted_crowded, length_others_crowded]
  decide

theorem reportDestinations_of_crowded :
    (detector.sendReport costs sort .full aliveNow suspectedNow draw
      contacts).1.server.reportDestinations = (crowded (2 ^ 31)).reportDestinations := by
  have refuses : detector.server.RefusesPortZero :=
    server ▸ (reachable_crowded costs sort _).refusesPortZero
  rcases detector.sendReport_full costs sort refuses (server ▸ addressable_crowded) aliveNow
    suspectedNow draw contacts with ⟨after, result, round⟩
  have nobody : (detector.selected detector.numReports).toList = [] := by
    rw [← List.length_eq_zero_iff, length_selected, server, numReports, turnsCounted_crowded,
      Nat.zero_min]
  rw [result, round.reported, nobody, List.append_nil, server]

end Crowd

/-- `2 ^ 31` servers are alive and as many reports are to be sent, but the round contacts
nobody. -/
theorem crowd_never_contacted :
    let detector : GossipFailureDetector :=
      { server := crowded (2 ^ 31)
        gracePeriod := 1000
        hostName := ""
        numReports := 2147483648
        numForwards := 3 }
    let contacts : Server → Contact := fun _ => ⟨true, 100⟩
    (crowded (2 ^ 31)).Reachable exactCosts stableSort ∧
      (crowded (2 ^ 31)).Addressable ∧ (crowded (2 ^ 31)).others.length = 2 ^ 31 ∧
      (detector.sendReport exactCosts stableSort .full 99 99 0
        contacts).1.server.reportDestinations = (crowded (2 ^ 31)).reportDestinations ∧
      ¬ detector.ExactRound contacts
        (detector.sendReport exactCosts stableSort .full 99 99 0 contacts) := by
  intro detector contacts
  have server : detector.server = crowded (2 ^ 31) := rfl
  have numReports : detector.numReports = 2147483648 := rfl
  refine ⟨reachable_crowded _ _ _, addressable_crowded, length_others_crowded _, ?_, ?_⟩
  · exact reportDestinations_of_crowded exactCosts stableSort server numReports 99 99 0 contacts
  · exact not_exactRound_of_crowded exactCosts stableSort server numReports 99 99 0 contacts

end GossipFailureDetector

end Gossip
