import Gossip.Contracts.Incarnations

/-! # When a server was last seen

A contact stores the local time, and an alive record of a report stores a time that
some other machine has read. While only times are stored that lie between the stored
one and the local time, the time a server was last seen never goes back. -/

namespace Gossip

open Foundation SwimServer

structure Clocked where
  server : SwimServer
  now : UInt64 := 0

namespace SwimServer

def reading? (server : SwimServer) : Happening → Option UInt64
  | .addAlive _ timestamp => some timestamp
  | .reportSuspected subject timestamp =>
      if subject.key = server.self.key then some timestamp else none
  | _ => none

def sighting? (server : SwimServer) : Happening → Option (Key × UInt64)
  | .addAlive subject timestamp => some (subject.key, timestamp)
  | .reportSuspected subject timestamp =>
      if subject.key = server.self.key then some (subject.key, timestamp) else none
  | .aliveRecord record =>
      if record.key = server.self.key then none else some (record.key, record.timestamp)
  | _ => none

end SwimServer

namespace Clocked

def undergo (clocked : Clocked) (happening : Happening) : Clocked where
  server := clocked.server.undergo happening
  now := (clocked.server.reading? happening).getD clocked.now

def Ticking (clocked : Clocked) : Happening → Prop
  | .addAlive _ timestamp => clocked.now ≤ timestamp
  | _ => True

instance (clocked : Clocked) : ∀ happening, Decidable (clocked.Ticking happening)
  | .addAlive _ timestamp => inferInstanceAs (Decidable (clocked.now ≤ timestamp))
  | .tick _ | .reportSuspected .. | .removeSuspected .. | .aliveRecord _
  | .suspectedRecord .. | .forward .. => isTrue trivial

/-- An alive record about another server is not older than what is stored about it
and not ahead of the local clock, and a suspicion of the server itself is reported
with the current time. -/
def Plausible (clocked : Clocked) : Happening → Prop
  | .reportSuspected subject timestamp =>
      subject.key = clocked.server.self.key → clocked.now ≤ timestamp
  | .aliveRecord record =>
      record.key ≠ clocked.server.self.key → record.timestamp ≤ clocked.now ∧
        ∀ found ∈ clocked.server.alive.find? record.key, found.timestamp ≤ record.timestamp
  | _ => True

instance (clocked : Clocked) : ∀ happening, Decidable (clocked.Plausible happening)
  | .reportSuspected .. => inferInstanceAs (Decidable (_ → _))
  | .aliveRecord _ => inferInstanceAs (Decidable (_ → _ ∧ _))
  | .tick _ | .addAlive .. | .removeSuspected .. | .suspectedRecord .. | .forward .. =>
      isTrue trivial

end Clocked

def clockedMachine : Machine Clocked Happening := ⟨Clocked.undergo⟩

theorem run_clocked_server (clocked : Clocked) (operations : List ServerOperation) :
    (clockedMachine.run clocked (operations.flatMap ServerOperation.happenings)).server =
      serverMachine.run clocked.server operations := by
  rw [← run_flatMap_happenings]
  generalize operations.flatMap ServerOperation.happenings = happenings
  induction happenings generalizing clocked with
  | nil => rfl
  | cons happening happenings induction => exact induction _

/-! ## Where a timestamp comes from -/

namespace Entry

variable {settings : Settings} {lamportTime : UInt64} {entry : Entry}
  {record : ServerRecord}

theorem timestamp_offerAlive {subject : Server} {timestamp : UInt64} {found : ServerRecord}
    (known : (entry.offerAlive settings lamportTime subject timestamp).alive =
      some found) :
    entry.alive = some found ∨ found.timestamp = timestamp := by
  rw [offerAlive] at known
  split at known
  · exact .inl known
  · rw [addAlive_alive, Option.some.injEq] at known
    subst known
    cases entry.alive <;> exact .inr rfl

theorem timestamp_offerSuspected {subject : Server} {timestamp : UInt64}
    {found : ServerRecord}
    (known : (entry.offerSuspected settings lamportTime subject timestamp).alive =
      some found) :
    entry.alive = some found ∨
      subject.key = settings.self.key ∧ found.timestamp = timestamp := by
  rw [offerSuspected] at known
  split at known
  · exact .inl known
  next port =>
    split at known
    next isSelf =>
      have offered : (entry.offerAlive settings lamportTime subject timestamp).alive =
          some found := by
        rw [offerAlive, if_neg port]
        exact known
      exact (timestamp_offerAlive offered).imp_right fun new => ⟨isSelf, new⟩
    next => simp at known

theorem timestamp_onAliveRecord {found : ServerRecord}
    (known : (entry.onAliveRecord settings lamportTime record).alive = some found) :
    (∃ old, entry.alive = some old ∧ old.timestamp = found.timestamp) ∨
      record.key ≠ settings.self.key ∧ found.timestamp = record.timestamp := by
  rw [onAliveRecord] at known
  split at known
  · exact .inl ⟨found, known, rfl⟩
  · split at known
    · exact .inl ⟨found, known, rfl⟩
    · rcases Option.map_eq_some_iff.mp known with ⟨stored, offered, rfl⟩
      rcases timestamp_offerAlive offered with old | new
      · exact .inl ⟨stored, old, by simp⟩
      · exact .inr ⟨‹_›, by simpa using new⟩

theorem alive_onSuspectedRecord {found : ServerRecord}
    (known : (entry.onSuspectedRecord settings lamportTime record).alive = some found) :
    entry.alive = some found := by
  rw [onSuspectedRecord] at known
  split at known
  · exact known
  next other =>
    split at known
    · exact known
    · rcases timestamp_offerSuspected known with old | ⟨isSelf, _⟩
      · exact old
      · exact absurd isSelf other

end Entry

theorem SwimServer.timestamp_undergo {server : SwimServer} {happening : Happening}
    {key : Key} {found : ServerRecord}
    (known : (server.undergo happening).alive.find? key = some found) :
    (∃ old, server.alive.find? key = some old ∧ old.timestamp = found.timestamp) ∨
      server.sighting? happening = some (key, found.timestamp) := by
  rw [← entry_alive] at known
  cases happening with
  | tick | forward => exact .inl ⟨found, known, rfl⟩
  | addAlive subject timestamp =>
      rw [undergo, entry_addAlive] at known
      split at known
      next about =>
        rcases Entry.timestamp_offerAlive known with old | new
        · exact .inl ⟨found, old, rfl⟩
        · exact .inr (by rw [sighting?, about, new])
      next => exact .inl ⟨found, known, rfl⟩
  | reportSuspected subject timestamp =>
      rw [undergo, entry_reportSuspected] at known
      split at known
      next about =>
        rcases Entry.timestamp_offerSuspected known with old | ⟨isSelf, new⟩
        · exact .inl ⟨found, old, rfl⟩
        · exact .inr (by rw [sighting?, if_pos isSelf, about, new])
      next => exact .inl ⟨found, known, rfl⟩
  | removeSuspected subject removeType seconds =>
      rw [undergo, entry_alive, removeSuspected_alive] at known
      exact .inl ⟨found, known, rfl⟩
  | aliveRecord record =>
      rw [undergo, entry_onAliveRecord] at known
      split at known
      next about =>
        rcases Entry.timestamp_onAliveRecord known with old | ⟨other, new⟩
        · exact .inl old
        · exact .inr (by rw [sighting?, if_neg other, about, new])
      next => exact .inl ⟨found, known, rfl⟩
  | suspectedRecord reportSender record =>
      rw [undergo, entry_onSuspectedRecord] at known
      split at known
      next => exact .inl ⟨found, Entry.alive_onSuspectedRecord known, rfl⟩
      next => exact .inl ⟨found, known, rfl⟩

/-! ## Runs -/

namespace Clocked

def NotAhead (clocked : Clocked) : Prop :=
  ∀ key found, clocked.server.alive.find? key = some found → found.timestamp ≤ clocked.now

def KeepsLastSeen (before after : Clocked) : Prop :=
  ∀ key earlier later, before.server.alive.find? key = some earlier →
    after.server.alive.find? key = some later → earlier.timestamp ≤ later.timestamp

variable {clocked : Clocked} {happening : Happening}

theorem now_le_undergo (ticking : clocked.Ticking happening)
    (credible : clocked.Plausible happening) :
    clocked.now ≤ (clocked.undergo happening).now := by
  cases happening with
  | addAlive subject timestamp => exact ticking
  | reportSuspected subject timestamp =>
      simp only [undergo, reading?]
      split
      · exact credible ‹_›
      · exact UInt64.le_refl _
  | tick | removeSuspected | aliveRecord | suspectedRecord | forward =>
      exact UInt64.le_refl _

theorem NotAhead.sighting (notAhead : clocked.NotAhead)
    (ticking : clocked.Ticking happening) (credible : clocked.Plausible happening)
    {key : Key} {timestamp : UInt64}
    (seen : clocked.server.sighting? happening = some (key, timestamp)) :
    timestamp ≤ (clocked.undergo happening).now ∧
      ∀ found, clocked.server.alive.find? key = some found →
        found.timestamp ≤ timestamp := by
  cases happening with
  | addAlive subject read =>
      simp only [sighting?, Option.some.injEq, Prod.mk.injEq] at seen
      rcases seen with ⟨rfl, rfl⟩
      refine ⟨UInt64.le_refl _, fun found known => ?_⟩
      exact UInt64.le_trans (notAhead _ found known) ticking
  | reportSuspected subject read =>
      by_cases isSelf : subject.key = clocked.server.self.key
      · simp only [sighting?, isSelf, if_true, Option.some.injEq, Prod.mk.injEq] at seen
        rcases seen with ⟨rfl, rfl⟩
        refine ⟨by simp [undergo, reading?, isSelf], fun found known => ?_⟩
        exact UInt64.le_trans (notAhead _ found known) (credible isSelf)
      · simp [sighting?, isSelf] at seen
  | aliveRecord record =>
      by_cases isSelf : record.key = clocked.server.self.key
      · simp [sighting?, isSelf] at seen
      · simp only [sighting?, isSelf, if_false, Option.some.injEq, Prod.mk.injEq] at seen
        rcases seen with ⟨rfl, rfl⟩
        exact credible isSelf
  | tick | removeSuspected | suspectedRecord | forward => cases seen

theorem NotAhead.step (notAhead : clocked.NotAhead) (ticking : clocked.Ticking happening)
    (credible : clocked.Plausible happening) :
    (clocked.undergo happening).NotAhead := by
  intro key found known
  rcases timestamp_undergo known with ⟨old, stored, same⟩ | seen
  · rw [← same]
    exact UInt64.le_trans (notAhead key old stored) (now_le_undergo ticking credible)
  · exact (notAhead.sighting ticking credible seen).1

theorem NotAhead.keepsLastSeen (notAhead : clocked.NotAhead)
    (ticking : clocked.Ticking happening) (credible : clocked.Plausible happening) :
    clocked.KeepsLastSeen (clocked.undergo happening) := by
  intro key earlier later before after
  rcases timestamp_undergo after with ⟨old, stored, same⟩ | seen
  · obtain rfl := Option.some.inj (before.symm.trans stored)
    exact UInt64.le_of_eq same
  · exact (notAhead.sighting ticking credible seen).2 earlier before

/-- In every run with a clock that does not go back, and reports whose times about
other servers lie between what is stored and the clock, no server that stays alive
was last seen earlier than before. -/
theorem last_seen_never_decreases (host : Host) (hostName : String) (port : UInt16)
    (statusCb : Bool) (operations : List ServerOperation)
    (guarded : clockedMachine.Along
      (fun clocked happening => clocked.Ticking happening ∧ clocked.Plausible happening)
      { server := .create host hostName port statusCb }
      (operations.flatMap ServerOperation.happenings)) :
    ∀ step ∈ clockedMachine.trace { server := .create host hostName port statusCb }
        (operations.flatMap ServerOperation.happenings),
      step.before.KeepsLastSeen step.after := by
  intro step member
  have fresh : NotAhead { server := .create host hostName port statusCb } := by
    intro key found known
    cases known
  have along := guarded.and_invariant NotAhead
    (fun clocked happening notAhead guard => notAhead.step guard.1 guard.2) fresh
  rcases along.of_mem_trace member with ⟨stepped, notAhead, ticking, credible⟩
  rw [stepped]
  exact notAhead.keepsLastSeen ticking credible

theorem last_seen_never_decreases_of_fresh_report :
    let peer : Server := { hostname := "peer", port := 9001 }
    let other : Server := { hostname := "other", port := 9002 }
    let operations : List ServerOperation :=
      [.addAlive peer 100000, .updateLamportTime 7,
        .onReport other
          { sender := other
            alive := [{ server := peer, timestamp := 100500, lamportTime := 5 }] } 101000,
        .onUpdate peer 102000]
    let start : Clocked := { server := .create ⟨"node", fun _ => "10.0.0.1"⟩ "" 9000 true }
    (clockedMachine.run start (operations.flatMap ServerOperation.happenings)).now =
        102000 ∧
      ∀ step ∈ clockedMachine.trace start
        (operations.flatMap ServerOperation.happenings),
          step.before.KeepsLastSeen step.after := by
  refine ⟨by decide, ?_⟩
  exact last_seen_never_decreases ⟨"node", fun _ => "10.0.0.1"⟩ "" 9000 true _ (by decide)

/-- A neighbour that has just been contacted is mentioned by another one, which heard
from it 50 seconds before. -/
theorem last_seen_decreases_of_older_report :
    let peer : Server := { hostname := "peer", port := 9001 }
    let other : Server := { hostname := "other", port := 9002 }
    let operations : List ServerOperation :=
      [.addAlive peer 100000, .updateLamportTime 7,
        .onReport other
          { sender := other
            alive := [{ server := peer, timestamp := 50000, lamportTime := 5 }] } 100100]
    let start : Clocked := { server := .create ⟨"node", fun _ => "10.0.0.1"⟩ "" 9000 true }
    clockedMachine.Along Ticking start (operations.flatMap ServerOperation.happenings) ∧
      ∃ step ∈ clockedMachine.trace start (operations.flatMap ServerOperation.happenings),
        (step.before.server.alive.find? peer.key).map ServerRecord.timestamp =
            some 100000 ∧
          (step.after.server.alive.find? peer.key).map ServerRecord.timestamp =
            some 50000 := by
  decide

end Clocked

end Gossip
