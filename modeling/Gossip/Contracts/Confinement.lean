import Gossip.Contracts.Membership
import Gossip.Semantics.Exchanges
import Mathlib.Data.Set.Basic

/-! # Calls about certain servers

A detector that knows only certain servers speaks only of them: whatever it calls, its sets
hold no other server afterwards and its messages name no other. The same goes for the servers
that it suspects, as long as it has failed to contact no others. -/

namespace Gossip

open Foundation SwimServer

/-! ## Messages about certain servers -/

/-- The servers that are spoken of, those among them that are called suspected, and the names
with which reports are signed. -/
structure Scope where
  keys : Set Key
  blamed : Set Key
  names : Set Key

def Scope.Blames (scope : Scope) (key : Key) : Prop := key ∈ scope.keys ∧ key ∈ scope.blamed

/-- The servers to which messages are addressed. A report is answered under the name with which
it is signed. -/
def Scope.addressed (scope : Scope) : Set Key := scope.keys ∪ scope.names

structure SwimReport.Speaks (scope : Scope) (report : SwimReport) : Prop where
  sender : report.sender.key ∈ scope.addressed
  alive : ∀ record ∈ report.alive, record.key ∈ scope.keys
  suspected : ∀ record ∈ report.suspected, scope.Blames record.key

structure SwimReport.Confined (scope : Scope) (report : SwimReport) : Prop
    extends report.Speaks scope where
  distinct : (report.suspected.map ServerRecord.key).Nodup

structure SwimEnvelope.Speaks (scope : Scope) (envelope : SwimEnvelope) : Prop where
  sender : ∀ sender ∈ envelope.sender, sender.key ∈ scope.keys
  report : ∀ report ∈ envelope.report, report.Speaks scope
  destination : ∀ destination ∈ envelope.destinationServer, scope.Blames destination.key

inductive SwimEnvelope.Made (scope : Scope) : SwimEnvelope → Prop
  | ping (lamportTime : UInt64) {sender : Server} (named : sender.key ∈ scope.keys) :
      Made scope { type := .statusUpdate, sender := some sender, lamportTime := lamportTime }
  | send (lamportTime : UInt64) {sender : Server} (named : sender.key ∈ scope.keys)
      {report : SwimReport} (within : report.Confined scope) :
      Made scope
        { type := .statusReport, sender := some sender, lamportTime := lamportTime
          report := some report }
  | requestPing (lamportTime : UInt64) {sender : Server} (named : sender.key ∈ scope.keys)
      {other : Server} (blamed : scope.Blames other.key) :
      Made scope
        { type := .statusRequest, sender := some sender, lamportTime := lamportTime
          destinationServer := some other }

structure Posting.Made (scope : Scope) (posting : Posting) : Prop where
  envelope : posting.envelope.Made scope
  dest : posting.dest.key ∈ scope.addressed

theorem SwimEnvelope.Made.speaks {scope : Scope} {envelope : SwimEnvelope}
    (made : envelope.Made scope) : envelope.Speaks scope := by
  cases made with
  | ping lamportTime named => exact ⟨by simpa using named, by simp, by simp⟩
  | send lamportTime named within =>
      exact ⟨by simpa using named, by simpa using within.toSpeaks, by simp⟩
  | requestPing lamportTime named blamed =>
      exact ⟨by simpa using named, by simp, by simpa using blamed⟩

/-! ## Calls about certain servers -/

def Primitive.Within (scope : Scope) : Primitive → Prop
  | .addAlive subject _ => subject.key ∈ scope.keys
  | .reportSuspected subject _ => scope.Blames subject.key
  | .removeSuspected .. | .raiseAlive _ | .raiseSuspected _ => True
  | .post posting => posting.Made scope

def Primitive.Keeps : Primitive → Prop
  | .removeSuspected .. => False
  | .addAlive .. | .reportSuspected .. | .raiseAlive _ | .raiseSuspected _ | .post _ => True

namespace SwimServer

def Within (scope : Scope) (server : SwimServer) : Prop :=
  ∀ key, (key ∉ scope.keys → server.alive.find? key = none) ∧
    (¬ scope.Blames key → server.suspected.find? key = none)

def Knows (server : SwimServer) (key : Key) : Prop :=
  (server.alive.find? key).isSome ∨ (server.suspected.find? key).isSome

def NamedIn (keys : Set Key) (server : SwimServer) : Prop :=
  ∀ dest, (server.client dest).self.key ∈ keys

theorem Within.mem_of_alive {scope : Scope} {server : SwimServer} (within : server.Within scope)
    {key : Key} (alive : (server.alive.find? key).isSome = true) : key ∈ scope.keys := by
  by_contra absent
  rw [(within key).1 absent] at alive
  cases alive

theorem Within.blames {scope : Scope} {server : SwimServer} (within : server.Within scope)
    {key : Key} (suspected : (server.suspected.find? key).isSome = true) : scope.Blames key := by
  by_contra absent
  rw [(within key).2 absent] at suspected
  cases suspected

theorem Within.mem_of_knows {scope : Scope} {server : SwimServer} (within : server.Within scope)
    {key : Key} (knows : server.Knows key) : key ∈ scope.keys := by
  rcases knows with alive | suspected
  · exact within.mem_of_alive alive
  · exact (within.blames suspected).1

theorem Within.alive {scope : Scope} {server : SwimServer} (within : server.Within scope) :
    ∀ record ∈ server.alive.toList, record.key ∈ scope.keys := by
  intro record member
  exact within.mem_of_alive (by rw [OrderedSet.find?_of_mem member]; rfl)

theorem Within.suspected {scope : Scope} {server : SwimServer} (within : server.Within scope) :
    ∀ record ∈ server.suspected.toList, scope.Blames record.key := by
  intro record member
  exact within.blames (by rw [OrderedSet.find?_of_mem member]; rfl)

theorem Within.perform {scope : Scope} {server : SwimServer} (within : server.Within scope)
    {step : Primitive} (allowed : step.Within scope) : (server.perform step).Within scope := by
  intro key
  have before := within key
  have after := entry_perform server step key
  rw [← entry_alive, ← entry_suspected, after]
  split
  next about =>
    cases step with
    | addAlive subject timestamp =>
        have known : key ∈ scope.keys := Option.some.inj about ▸ allowed
        refine ⟨fun absent => absurd known absent, ?_⟩
        intro absent
        simp only [Entry.perform, Entry.offerAlive]
        split
        · exact before.2 absent
        · simp
    | reportSuspected subject timestamp =>
        have blamed : scope.Blames key := Option.some.inj about ▸ allowed
        exact ⟨fun absent => absurd blamed.1 absent, fun absent => absurd blamed absent⟩
    | removeSuspected => simpa [Entry.perform] using before.1
    | raiseAlive | raiseSuspected => simpa [Entry.perform] using before
    | post => exact before
  next => exact before

theorem Knows.perform {server : SwimServer} {key : Key} (knows : server.Knows key)
    {step : Primitive} (keeps : step.Keeps) : (server.perform step).Knows key := by
  have after := entry_perform server step key
  rw [Knows, ← entry_alive, ← entry_suspected, after]
  split
  next =>
    cases step with
    | addAlive subject timestamp =>
        simp only [Entry.perform, Entry.offerAlive]
        split
        · exact knows
        · simp
    | reportSuspected subject timestamp =>
        simp only [Entry.perform, Entry.offerSuspected]
        split
        · exact knows
        · split <;> simp
    | removeSuspected => cases keeps
    | raiseAlive | raiseSuspected => simpa [Entry.perform, Knows] using knows
    | post => exact knows
  next => exact knows

def ReachesBy (allowed : Primitive → Prop) (before after : SwimServer) : Prop :=
  ∃ steps, (∀ step ∈ steps, allowed step) ∧ primitiveMachine.run before steps = after

namespace ReachesBy

variable {allowed : Primitive → Prop} {before middle after : SwimServer}

theorem refl (server : SwimServer) : server.ReachesBy allowed server := ⟨[], by simp, rfl⟩

theorem trans (first : before.ReachesBy allowed middle)
    (second : middle.ReachesBy allowed after) : before.ReachesBy allowed after := by
  rcases first with ⟨firstSteps, firstAllowed, rfl⟩
  rcases second with ⟨secondSteps, secondAllowed, rfl⟩
  exact ⟨firstSteps ++ secondSteps, List.forall_mem_append.mpr ⟨firstAllowed, secondAllowed⟩,
    Machine.run_append _ _ _ _⟩

theorem perform (step : Primitive) (permitted : allowed step) :
    before.ReachesBy allowed (before.perform step) := ⟨[step], by simpa using permitted, rfl⟩

theorem foldl {Value : Type} {step : SwimServer → Value → SwimServer}
    {holds : SwimServer → Prop}
    (kept : ∀ server after : SwimServer, server.ReachesBy allowed after → holds server →
      holds after)
    {values : List Value}
    (turn : ∀ server, holds server → ∀ value ∈ values,
      server.ReachesBy allowed (step server value))
    {server : SwimServer} (start : holds server) :
    server.ReachesBy allowed (values.foldl step server) := by
  induction values generalizing server with
  | nil => exact .refl server
  | cons value values induction =>
      have first := turn server start value List.mem_cons_self
      exact first.trans (induction (fun server holds other member =>
        turn server holds other (List.mem_cons_of_mem _ member)) (kept _ _ first start))

theorem mono {more : Primitive → Prop} (weaker : ∀ step, allowed step → more step)
    (reaches : before.ReachesBy allowed after) : before.ReachesBy more after := by
  rcases reaches with ⟨steps, permitted, reached⟩
  exact ⟨steps, fun step member => weaker step (permitted step member), reached⟩

theorem reaches (reaches : before.ReachesBy allowed after) : before.Reaches after := by
  rcases reaches with ⟨steps, -, reached⟩
  exact ⟨steps, reached⟩

theorem keeps (holds : SwimServer → Prop) (reaches : before.ReachesBy allowed after)
    (kept : ∀ server step, holds server → allowed step → holds (server.perform step))
    (holdsBefore : holds before) : holds after := by
  rcases reaches with ⟨steps, permitted, rfl⟩
  have along : primitiveMachine.Along (fun _ step => allowed step) before steps :=
    primitiveMachine.along_of_forall_mem (fun step member _ => permitted step member) before
  exact primitiveMachine.run_invariant holds kept holdsBefore along

theorem knows (reaches : before.ReachesBy allowed after)
    (keeping : ∀ step, allowed step → step.Keeps) {key : Key} (known : before.Knows key) :
    after.Knows key :=
  reaches.keeps (fun server => server.Knows key)
    (fun _ step holds permitted => holds.perform (keeping step permitted)) known

theorem postings (reaches : before.ReachesBy allowed after) :
    ∃ new, after.postings = before.postings ++ new ∧
      ∀ posting ∈ new, allowed (.post posting) := by
  rcases reaches with ⟨steps, permitted, rfl⟩
  refine ⟨_, run_postings before steps, ?_⟩
  intro posting member
  rcases List.mem_filterMap.mp member with ⟨step, stepMember, posted⟩
  cases step with
  | post => exact Option.some.inj posted ▸ permitted _ stepMember
  | _ => cases posted

end ReachesBy

end SwimServer

/-! ## Detectors -/

structure GossipFailureDetector.Situated (scope : Scope) (detector : GossipFailureDetector) :
    Prop where
  within : detector.server.Within scope
  sound : detector.server.Sound
  named : ∀ dest, (detector.client dest).self.key ∈ scope.keys
  serverNamed : detector.server.NamedIn scope.keys
  signed : detector.server.self.key ∈ scope.names

structure GossipFailureDetector.Moves (scope : Scope) (before after : GossipFailureDetector) :
    Prop where
  hostName : after.hostName = before.hostName
  server : before.server.ReachesBy (fun step => step.Within scope ∧ step.Keeps) after.server

namespace GossipFailureDetector

variable {scope : Scope} {detector : GossipFailureDetector}

theorem Situated.of_reaches (situated : detector.Situated scope) {after : GossipFailureDetector}
    (hostName : after.hostName = detector.hostName)
    (reaches : detector.server.ReachesBy (Primitive.Within scope) after.server) :
    after.Situated scope := by
  have settings : after.server.toSettings = detector.server.toSettings :=
    reaches.reaches.hasFrame.1
  constructor
  · exact reaches.keeps (Within scope) (fun _ _ holds allowed => holds.perform allowed)
      situated.within
  · exact Entry.sound_invariant.reaches reaches.reaches situated.sound
  · intro dest
    have named := situated.named dest
    rwa [client, SwimClient.create, ← settings, ← hostName] at named
  · intro dest
    have named := situated.serverNamed dest
    rwa [SwimServer.client, SwimClient.create, ← settings] at named
  · rw [settings]
    exact situated.signed

theorem Situated.tick (situated : detector.Situated scope) (time : UInt64) :
    { detector with server := detector.server.updateLamportTime time }.Situated scope where
  within := situated.within
  sound := situated.sound.updateLamportTime time
  named := situated.named
  serverNamed := situated.serverNamed
  signed := situated.signed

namespace Moves

variable {before middle after : GossipFailureDetector}

theorem refl (detector : GossipFailureDetector) : Moves scope detector detector :=
  ⟨rfl, .refl _⟩

theorem trans (first : Moves scope before middle) (second : Moves scope middle after) :
    Moves scope before after :=
  ⟨second.hostName.trans first.hostName, first.server.trans second.server⟩

theorem situated (moves : Moves scope before after) (holds : before.Situated scope) :
    after.Situated scope :=
  holds.of_reaches moves.hostName (moves.server.mono fun _ allowed => allowed.1)

theorem post (detector : GossipFailureDetector) {posting : Posting}
    (made : posting.Made scope) : Moves scope detector (detector.post posting) :=
  ⟨rfl, .perform (.post posting) ⟨made, trivial⟩⟩

theorem addAlive (detector : GossipFailureDetector) {subject : Server}
    (member : subject.key ∈ scope.keys) (timestamp : UInt64) :
    Moves scope detector (detector.addAlive subject timestamp) :=
  ⟨rfl, .perform (.addAlive subject timestamp) ⟨member, trivial⟩⟩

theorem reportSuspected (detector : GossipFailureDetector) {subject : Server}
    (blamed : scope.Blames subject.key) (timestamp : UInt64) :
    Moves scope detector (detector.reportSuspected subject timestamp) :=
  ⟨rfl, .perform (.reportSuspected subject timestamp) ⟨blamed, trivial⟩⟩

theorem andThen {α β : Type} {result : Result α} {next : GossipFailureDetector → α → Result β}
    (first : Moves scope before result.1)
    (second : ∀ detector value, result = (detector, .returned value) →
      Moves scope before detector → Moves scope detector (next detector value).1) :
    Moves scope before (result.andThen next).1 := by
  rcases result with ⟨detector, outcome⟩
  cases outcome with
  | returned value => exact first.trans (second detector value rfl first)
  | thrown | unfinished => exact first

end Moves

/-! ### Choosing among the neighbours -/

theorem getD_mem {records : List ServerRecord} {first : ServerRecord} (member : first ∈ records)
    (index : Nat) : records.getD index first ∈ records := by
  rw [List.getD_eq_getElem?_getD]
  cases found : records[index]? with
  | none => exact member
  | some record => exact List.mem_of_getElem? found

theorem mem_of_getRandom {set : ServerRecordsSet} {draw : Nat} {chosen : Server}
    (found : getRandom set draw = .ok chosen) :
    ∃ record ∈ set.toList, record.server = chosen := by
  unfold getRandom at found
  cases elements : set.toList with
  | nil => simp [elements] at found
  | cons first rest =>
      rw [elements] at found
      exact ⟨_, getD_mem List.mem_cons_self _, Except.ok.inj found⟩

theorem mem_of_getNeighborByIndex {server : SwimServer} {index : Nat} {chosen : Server}
    (found : server.getNeighborByIndex index = .ok chosen) :
    ∃ record ∈ server.alive.toList, record.server = chosen := by
  unfold getNeighborByIndex at found
  cases elements : server.alive.toList with
  | nil => simp [elements] at found
  | cons first rest =>
      rw [elements] at found
      exact ⟨_, getD_mem List.mem_cons_self _, Except.ok.inj found⟩

theorem mem_of_roundRobin {server : SwimServer} (within : server.Within scope) {n idx : Int}
    {turns : Nat} {index last : UInt64} {gathered others : OrderedSet Server.key}
    (already : ∀ other ∈ gathered.toList, other.key ∈ scope.keys)
    (walked : roundRobin server n turns idx index gathered = (last, .returned others)) :
    ∀ other ∈ others.toList, other.key ∈ scope.keys := by
  induction turns generalizing idx index gathered with
  | zero => simp [roundRobin] at walked
  | succ turns induction =>
      simp only [roundRobin] at walked
      split at walked
      · split at walked
        · simp at walked
        · rename_i other found
          rcases mem_of_getNeighborByIndex found with ⟨record, member, rfl⟩
          split at walked
          · split at walked
            · cases walked
              exact already
            · exact induction already walked
          · refine induction ?_ walked
            intro chosen chosenMember
            rcases OrderedSet.eq_or_mem_of_mem_insert chosenMember with rfl | chosenMember
            · exact within.alive record member
            · exact already chosen chosenMember
      · cases walked
        exact already

theorem Moves.getUniqueNeighbors (detector : GossipFailureDetector) (k : UInt32) :
    Moves scope detector (detector.getUniqueNeighbors k).1 := by
  rw [getUniqueNeighbors_eq rfl rfl]
  exact ⟨rfl, .refl _⟩

theorem roundRobin_of_getUniqueNeighbors {k : UInt32} {after : GossipFailureDetector}
    {others : List Server} (chosen : detector.getUniqueNeighbors k = (after, .returned others)) :
    let n := neighborCount k detector.server.alive.toList.length
    ∃ last gathered, roundRobin detector.server n (2 * n.toNat + 2) 0 detector.roundRobinIndex
      .empty = (last, .returned gathered) ∧ gathered.toList = others := by
  intro n
  rcases outcome : (roundRobin detector.server n (2 * n.toNat + 2) 0 detector.roundRobinIndex
    .empty) with ⟨last, result⟩
  rw [getUniqueNeighbors_eq rfl outcome, Prod.mk.injEq] at chosen
  cases result with
  | thrown | unfinished => simp [Outcome.map] at chosen
  | returned gathered => exact ⟨last, gathered, rfl, by simpa [Outcome.map] using chosen.2⟩

theorem mem_of_getUniqueNeighbors (within : detector.server.Within scope) {k : UInt32}
    {after : GossipFailureDetector} {others : List Server}
    (chosen : detector.getUniqueNeighbors k = (after, .returned others)) :
    ∀ other ∈ others, other.key ∈ scope.keys := by
  rcases roundRobin_of_getUniqueNeighbors chosen with ⟨last, gathered, walked, rfl⟩
  exact mem_of_roundRobin within (by simp [OrderedSet.empty]) walked

/-! ### Sending -/

section Messages

variable (situated : detector.Situated scope) {dest : Server}
  (addressed : dest.key ∈ scope.addressed)

include situated addressed

theorem Situated.ping : (detector.client dest).ping.2.Made scope :=
  ⟨.ping _ (situated.named dest), addressed⟩

theorem Situated.send {report : SwimReport} (within : report.Confined scope) :
    ((detector.client dest).send report).2.Made scope :=
  ⟨.send _ (situated.named dest) within, addressed⟩

theorem Situated.requestPing {other : Server} (blamed : scope.Blames other.key) :
    ((detector.client dest).requestPing other).2.Made scope :=
  ⟨.requestPing _ (situated.named dest) blamed, addressed⟩

end Messages

theorem Moves.requestPings (situated : detector.Situated scope) {other : Server}
    (blamed : scope.Blames other.key) {forwards : List Server}
    (known : ∀ forward ∈ forwards, forward.key ∈ scope.keys) :
    Moves scope detector (detector.requestPings other forwards) := by
  induction forwards generalizing detector with
  | nil => exact .refl detector
  | cons forward forwards induction =>
      rw [List.forall_mem_cons] at known
      have asked := Moves.post detector (situated.requestPing (.inl known.1) blamed)
      exact asked.trans (induction (asked.situated situated) known.2)

theorem Moves.sendReportTo (situated : detector.Situated scope) {report : SwimReport}
    (within : report.Confined scope) {other : Server} (known : other.key ∈ scope.keys)
    {contact : Contact} (blames : contact.answered = false → other.key ∈ scope.blamed) :
    Moves scope detector (detector.sendReportTo report other contact).1 := by
  have sent := Moves.post detector (situated.send (.inl known) within)
  unfold GossipFailureDetector.sendReportTo
  dsimp only
  split
  · exact sent
  next failed =>
    have blamed : scope.Blames other.key := ⟨known, blames (Bool.eq_false_iff.mpr failed)⟩
    have suspected := sent.trans (.reportSuspected _ blamed contact.now)
    refine Moves.andThen (suspected.trans (.getUniqueNeighbors _ _)) ?_
    intro after forwards chosen moved
    exact .requestPings (moved.situated situated) blamed
      (mem_of_getUniqueNeighbors (suspected.situated situated).within chosen)

theorem Moves.contactNeighbor (situated : detector.Situated scope) {report : SwimReport}
    (within : report.Confined scope) {other : Server} (known : other.key ∈ scope.keys)
    {contact : Contact} (blames : contact.answered = false → other.key ∈ scope.blamed) :
    Moves scope detector (detector.contactNeighbor report other contact).1 := by
  refine Moves.andThen (.sendReportTo situated within known blames) ?_
  intro after answered _ _
  split
  · exact .addAlive after known contact.now
  · exact .refl after

theorem Moves.contactNeighbors (situated : detector.Situated scope) {report : SwimReport}
    (within : report.Confined scope) {contacts : Server → Contact} {others : List Server}
    (known : ∀ other ∈ others, other.key ∈ scope.keys)
    (blames : ∀ other ∈ others, (contacts other).answered = false →
      other.key ∈ scope.blamed) :
    Moves scope detector
      (GossipFailureDetector.contactNeighbors report contacts detector others).1 := by
  induction others generalizing detector with
  | nil => exact .refl detector
  | cons other others induction =>
      rw [List.forall_mem_cons] at known blames
      refine Moves.andThen (.contactNeighbor situated within known.1 blames.1) ?_
      intro after _ _ contacted
      exact induction (contacted.situated situated) known.2 blames.2

/-! ### Operations -/

def reported (detector : GossipFailureDetector) (type : ReportType) (draw : Nat) :
    List Server :=
  match type with
  | .full =>
      match (detector.getUniqueNeighbors detector.numReports).2 with
      | .returned others => others
      | .thrown _ | .unfinished => []
  | .single => (detector.server.getRandomNeighbor draw).toOption.toList

theorem reported_full {after : GossipFailureDetector} {others : List Server} {draw : Nat}
    (chosen : detector.getUniqueNeighbors detector.numReports = (after, .returned others)) :
    detector.reported .full draw = others := by
  rw [reported, chosen]

theorem reported_single {other : Server} {draw : Nat}
    (found : detector.server.getRandomNeighbor draw = .ok other) :
    detector.reported .single draw = [other] := by
  rw [reported, found]
  rfl

theorem Moves.addNeighbor (situated : detector.Situated scope) {host : Server}
    (member : host.key ∈ scope.keys) {contact : Contact}
    (blames : contact.answered = false → host.key ∈ scope.blamed) :
    Moves scope detector (detector.addNeighbor host contact) := by
  have asked := Moves.post detector (situated.ping (.inl member))
  unfold GossipFailureDetector.addNeighbor
  dsimp only
  split
  · exact asked.trans (.addAlive _ member contact.now)
  next failed =>
    exact asked.trans
      (.reportSuspected _ ⟨member, blames (Bool.eq_false_iff.mpr failed)⟩ contact.now)

theorem Moves.pingRandomSuspected (situated : detector.Situated scope) (draw : Nat)
    (contacts : Server → Contact) :
    Moves scope detector (detector.pingRandomSuspected draw contacts) := by
  unfold GossipFailureDetector.pingRandomSuspected
  cases found : detector.server.getRandomSuspect draw with
  | error => exact .refl detector
  | ok suspect =>
      rcases mem_of_getRandom found with ⟨record, member, rfl⟩
      have known := (situated.within.suspected record member).1
      have asked := Moves.post detector (situated.ping (.inl known))
      dsimp only
      split
      · exact asked.trans (.addAlive _ known _)
      · exact asked

section Reporting

variable {Cost : Type} (costs : CostArithmetic Cost) (sort : LamportSort)

theorem nodup_keys_addRecordsToBudget {records : List ServerRecord}
    (distinct : (records.map ServerRecord.key).Nodup) (now : UInt64) :
    ((addRecordsToBudget costs sort now records).map ServerRecord.key).Nodup := by
  have sorted : ((sort.sort records).map ServerRecord.key).Nodup :=
    ((sort.perm records).map _).nodup_iff.mpr distinct
  exact sorted.sublist ((takeWithin_isPrefix _ _ _ _).sublist.map _)

theorem Situated.prepareReport (situated : detector.Situated scope)
    (aliveNow suspectedNow : UInt64) :
    (detector.server.prepareReport costs sort aliveNow suspectedNow).Confined scope where
  sender := .inr situated.signed
  alive record member :=
    situated.within.alive record (mem_of_mem_addRecordsToBudget costs sort member)
  suspected record member :=
    situated.within.suspected record (mem_of_mem_addRecordsToBudget costs sort member)
  distinct := nodup_keys_addRecordsToBudget costs sort (OrderedSet.nodup_keys _) suspectedNow

theorem Moves.sendReport (situated : detector.Situated scope) (type : ReportType)
    (aliveNow suspectedNow : UInt64) (draw : Nat) {contacts : Server → Contact}
    (blames : ∀ other ∈ detector.reported type draw, (contacts other).answered = false →
      other.key ∈ scope.blamed) :
    Moves scope detector
      (detector.sendReport costs sort type aliveNow suspectedNow draw contacts).1 := by
  have report := situated.prepareReport costs sort aliveNow suspectedNow
  unfold GossipFailureDetector.sendReport
  split
  · exact .refl detector
  cases type with
  | full =>
      refine Moves.andThen (.getUniqueNeighbors detector _) ?_
      intro after others chosen moved
      rw [reported_full chosen] at blames
      exact .contactNeighbors (moved.situated situated) report
        (mem_of_getUniqueNeighbors situated.within chosen) blames
  | single =>
      cases found : detector.server.getRandomNeighbor draw with
      | error => exact .refl detector
      | ok other =>
          rw [reported_single found] at blames
          rcases mem_of_getRandom found with ⟨record, member, rfl⟩
          have contacted := Moves.contactNeighbor situated report
            (situated.within.alive record member) (blames _ (List.mem_singleton.mpr rfl))
          dsimp only
          split
          next thrown =>
            rw [thrown] at contacted
            exact contacted
          next => exact contacted

theorem reachesBy_garbageCollectSuspected (detector : GossipFailureDetector)
    (aliveNow suspectedNow now : UInt64) (seconds : Server → UInt64) :
    detector.server.ReachesBy (fun step => ¬ step.Keeps)
      (detector.garbageCollectSuspected costs sort aliveNow suspectedNow now seconds).server := by
  refine ReachesBy.foldl (fun _ _ _ (_ : True) => trivial) ?_ trivial
  intro server _ record _
  unfold collectSuspect
  split
  · exact .perform (.removeSuspected record.server .evicted (seconds record.server)) id
  · exact .refl server

theorem Situated.garbageCollectSuspected (situated : detector.Situated scope)
    (aliveNow suspectedNow now : UInt64) (seconds : Server → UInt64) :
    (detector.garbageCollectSuspected costs sort aliveNow suspectedNow now
      seconds).Situated scope := by
  have reaches := reachesBy_garbageCollectSuspected costs sort detector aliveNow suspectedNow now
    seconds
  refine situated.of_reaches rfl (reaches.mono ?_)
  intro step removes
  cases step with
  | removeSuspected => trivial
  | _ => exact absurd trivial removes

end Reporting

end GossipFailureDetector

end Gossip
