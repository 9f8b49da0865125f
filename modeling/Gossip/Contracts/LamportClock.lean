import Gossip.Contracts.Membership
import Gossip.Semantics.Listening

/-! # The clock of one server

The clock of a server moves past every message that it processes. It is a 64-bit number,
and the law holds exactly as long as no message brings it to the top of its range. -/

namespace Gossip

open Foundation SwimServer

def processMachine : Machine SwimServer (SwimEnvelope × UInt64) :=
  ⟨fun server arrival => server.process arrival.1 arrival.2⟩

@[simp] theorem processMachine_step (server : SwimServer)
    (arrival : SwimEnvelope × UInt64) :
    processMachine.step server arrival = server.process arrival.1 arrival.2 := rfl

namespace SwimServer

theorem process_reaches (server : SwimServer) {message : SwimEnvelope}
    (handleable : message.Handleable) (now : UInt64) :
    (server.updateLamportTime message.lamportTime).Reaches
      (server.process message now) := by
  rcases server.process_eq handleable now with ⟨operation, handler, equal⟩
  rw [equal]
  apply reaches_operate
  cases handler <;> simp

theorem process_lamportTime (server : SwimServer) {message : SwimEnvelope}
    (handleable : message.Handleable) (now : UInt64) :
    (server.process message now).lamportTime =
      (server.updateLamportTime message.lamportTime).lamportTime :=
  (server.process_reaches handleable now).hasFrame.2

theorem clockFits_iff (server : SwimServer) (time : UInt64) :
    server.ClockFits time ↔
      server.lamportTime < (server.updateLamportTime time).lamportTime ∧
        time < (server.updateLamportTime time).lamportTime := by
  refine ⟨ClockFits.lt, fun ⟨_, _⟩ => ?_⟩
  simp only [UInt64.lt_iff_toNat_lt, toNat_updateLamportTime, ClockFits] at *
  have clockBound := server.lamportTime.toNat_lt
  have timeBound := time.toNat_lt
  omega

end SwimServer

/-- After each message the clock is past its value before and past every message so far. -/
def ClockNeverGoesBack (server : SwimServer) (arrivals : List (SwimEnvelope × UInt64)) :
    Prop :=
  ∀ earlier arrival later, arrivals = earlier ++ arrival :: later →
    let before := processMachine.run server earlier
    let after := before.process arrival.1 arrival.2
    before.lamportTime < after.lamportTime ∧
      ∀ processed ∈ earlier ++ [arrival], processed.1.lamportTime < after.lamportTime

/-- Neither the clock nor the time of any message reaches the top of the range, when one
is added for each message from there on. -/
def StaysBelowTop (server : SwimServer) (arrivals : List (SwimEnvelope × UInt64)) : Prop :=
  server.lamportTime.toNat + arrivals.length < 2 ^ 64 ∧
    ∀ earlier arrival later, arrivals = earlier ++ arrival :: later →
      arrival.1.lamportTime.toNat + (later.length + 1) < 2 ^ 64

def SwimServer.Advances (server : SwimServer) (arrival : SwimEnvelope × UInt64) : Prop :=
  arrival.1.Handleable ∧ server.ClockFits arrival.1.lamportTime

theorem SwimServer.Advances.lt {server : SwimServer} {arrival : SwimEnvelope × UInt64}
    (advances : server.Advances arrival) :
    server.lamportTime < (server.process arrival.1 arrival.2).lamportTime ∧
      arrival.1.lamportTime < (server.process arrival.1 arrival.2).lamportTime := by
  rw [server.process_lamportTime advances.1]
  exact advances.2.lt

section Sequences

variable {server : SwimServer} {arrivals : List (SwimEnvelope × UInt64)}

theorem lt_run_of_advances {time : UInt64} (below : time < server.lamportTime)
    (advances : processMachine.Along Advances server arrivals) :
    time < (processMachine.run server arrivals).lamportTime :=
  processMachine.run_invariant (fun state => time < state.lamportTime)
    (fun _ _ below advances => UInt64.lt_trans below advances.lt.1) below advances

theorem forall_lt_run (advances : processMachine.Along Advances server arrivals) :
    ∀ processed ∈ arrivals,
      processed.1.lamportTime < (processMachine.run server arrivals).lamportTime := by
  induction arrivals generalizing server with
  | nil => simp
  | cons arrival arrivals induction =>
      intro processed member
      rcases List.mem_cons.mp member with equal | member
      · subst equal
        rw [Machine.run_cons]
        exact lt_run_of_advances advances.1.lt.2 advances.2
      · exact induction advances.2 processed member

theorem clockNeverGoesBack_iff_along
    (handleable : ∀ arrival ∈ arrivals, arrival.1.Handleable) :
    ClockNeverGoesBack server arrivals ↔ processMachine.Along Advances server arrivals := by
  constructor
  · intro neverBack
    induction arrivals generalizing server with
    | nil => trivial
    | cons arrival arrivals induction =>
        have first := neverBack [] arrival arrivals rfl
        have here := handleable arrival (by simp)
        refine ⟨⟨here, ?_⟩, ?_⟩
        · rw [server.clockFits_iff, ← server.process_lamportTime here arrival.2]
          exact ⟨first.1, first.2 arrival (by simp)⟩
        · apply induction fun other member => handleable other (by simp [member])
          intro earlier next later split
          have step := neverBack (arrival :: earlier) next later (by rw [split]; rfl)
          exact ⟨step.1, fun processed member => step.2 processed (by simp_all)⟩
  · rintro advances earlier arrival later rfl
    rcases (Machine.along_append _ _ _ _ _).mp advances with ⟨before, here, -⟩
    refine ⟨here.lt.1, fun processed member => ?_⟩
    rcases List.mem_append.mp member with member | member
    · exact UInt64.lt_trans (forall_lt_run before processed member) here.lt.1
    · rw [List.mem_singleton.mp member]
      exact here.lt.2

theorem staysBelowTop_cons (arrival : SwimEnvelope × UInt64)
    (handleable : arrival.1.Handleable) :
    StaysBelowTop server (arrival :: arrivals) ↔
      server.ClockFits arrival.1.lamportTime ∧
        StaysBelowTop (server.process arrival.1 arrival.2) arrivals := by
  have splits : (∀ earlier next later, arrival :: arrivals = earlier ++ next :: later →
        next.1.lamportTime.toNat + (later.length + 1) < 2 ^ 64) ↔
      arrival.1.lamportTime.toNat + (arrivals.length + 1) < 2 ^ 64 ∧
        ∀ earlier next later, arrivals = earlier ++ next :: later →
          next.1.lamportTime.toNat + (later.length + 1) < 2 ^ 64 := by
    constructor
    · intro all
      exact ⟨all [] arrival arrivals rfl, fun earlier next later split =>
        all (arrival :: earlier) next later (by rw [split]; rfl)⟩
    · rintro ⟨first, rest⟩ earlier next later split
      cases earlier with
      | nil =>
          cases split
          exact first
      | cons head earlier =>
          rw [List.cons_append, List.cons.injEq] at split
          exact rest earlier next later split.2
  simp only [StaysBelowTop, splits, server.process_lamportTime handleable,
    toNat_updateLamportTime, ClockFits, List.length_cons]
  -- The clock after the message is one more than the larger of the two times.
  constructor
  · rintro ⟨clock, time, rest⟩
    exact ⟨by omega, by omega, rest⟩
  · rintro ⟨fits, clock, rest⟩
    rw [Nat.mod_eq_of_lt fits] at clock
    exact ⟨by omega, by omega, rest⟩

theorem along_iff_staysBelowTop
    (handleable : ∀ arrival ∈ arrivals, arrival.1.Handleable) :
    processMachine.Along Advances server arrivals ↔ StaysBelowTop server arrivals := by
  induction arrivals generalizing server with
  | nil => simpa [Machine.Along, StaysBelowTop] using server.lamportTime.toNat_lt
  | cons arrival arrivals induction =>
      have here := handleable arrival (by simp)
      rw [staysBelowTop_cons arrival here, Machine.Along, processMachine_step,
        induction fun other member => handleable other (by simp [member])]
      simp [Advances, here]

/-- The clock of a server moves past its old value and past every message so far, with
each message of the sequence, exactly when the sequence keeps it from wrapping around. -/
theorem clock_never_goes_back_iff (server : SwimServer)
    (arrivals : List (SwimEnvelope × UInt64))
    (handleable : ∀ arrival ∈ arrivals, arrival.1.Handleable) :
    ClockNeverGoesBack server arrivals ↔ StaysBelowTop server arrivals :=
  (clockNeverGoesBack_iff_along handleable).trans (along_iff_staysBelowTop handleable)

end Sequences

theorem clock_never_goes_back_in_two_pings :
    let server := create ⟨"node", fun _ => "10.0.0.1"⟩ "" 9000 true
    let ping (time : UInt64) : SwimEnvelope :=
      { type := .statusUpdate
        sender := some { hostname := "peer", port := 9001 }
        lamportTime := time }
    ClockNeverGoesBack server [(ping 7, 10), (ping 3, 11)] := by
  intro server ping
  apply (clock_never_goes_back_iff server _ (by decide)).mpr
  refine ⟨by decide, ?_⟩
  rintro (_ | ⟨first, _ | ⟨second, earlier⟩⟩) arrival later split
  · cases split
    decide
  · cases split
    decide
  · simp at split

/-- One ping with the largest time there is takes the clock back to zero. -/
theorem clock_goes_back_to_zero :
    let server := create ⟨"node", fun _ => "10.0.0.1"⟩ "" 9000 true
    let ping : SwimEnvelope :=
      { type := .statusUpdate
        sender := some { hostname := "peer", port := 9001 }
        lamportTime := 18446744073709551615 }
    (server.process ping 10).lamportTime = 0 ∧ ¬ ClockNeverGoesBack server [(ping, 10)] := by
  intro server ping
  have wrapped : (server.process ping 10).lamportTime = 0 := by decide
  refine ⟨wrapped, fun neverBack => ?_⟩
  have later : server.lamportTime < (server.process ping 10).lamportTime :=
    (neverBack [] (ping, 10) [] rfl).1
  rw [wrapped] at later
  exact absurd later (by decide)

end Gossip
