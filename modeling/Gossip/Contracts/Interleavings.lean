import Gossip.Semantics.Actions

/-! # Interleavings

What holds of the two sets when operations overlap. Each operation moves a server
from one set to the other in two sections, and both what is promised of the sets
and what breaks the promise is said in terms of these halves. -/

namespace Gossip

open Foundation SwimServer

namespace Threads

/-! ## Disjointness -/

def Disjoint (pool : Threads) : Prop :=
  ∀ key, ¬ (pool.alive key = true ∧ pool.suspected key = true)

/-- `ReportSuspected` does not take a server from the alive while an `AddAlive` of
the same server is on its way there, and the other way round. -/
def Undisturbed (pool : Threads) : Decision ServerOperation → Prop
  | .spawn _ => True
  | .advance index => ∀ act ∈ pool.threads[index]?.bind Thread.acts,
      ∀ other ∈ pool.threads, act.2.crosses (other.position act.1) = false

instance (pool : Threads) : ∀ decision, Decidable (pool.Undisturbed decision)
  | .spawn _ => isTrue trivial
  | .advance _ => inferInstanceAs (Decidable (∀ act ∈ _, _))

theorem Undisturbed.action {pool : Threads} {index : Nat} {thread : Thread}
    (undisturbed : pool.Undisturbed (.advance index))
    (present : pool.threads[index]? = some thread) (key : Key) :
    ∀ other ∈ pool.threads, (thread.action key).crosses (other.position key) = false := by
  intro other member
  by_cases acting : thread.action key = .stay
  · rw [acting]
    rfl
  · have acts := thread.acts_of_action key acting
    exact undisturbed (key, thread.action key) (by simp [present, acts]) other member

structure Separated (pool : Threads) (key : Key) : Prop where
  disjoint : ¬ (pool.alive key = true ∧ pool.suspected key = true)
  towardsAlive : ∀ thread ∈ pool.threads,
    thread.position key = .towardsAlive → pool.suspected key = false
  towardsSuspected : ∀ thread ∈ pool.threads,
    thread.position key = .towardsSuspected → pool.alive key = false
  oneWay : ∀ first ∈ pool.threads, ∀ second ∈ pool.threads,
    first.position key = .towardsAlive → second.position key ≠ .towardsSuspected

theorem Separated.rests {pool after : Threads} {key : Key} (separated : pool.Separated key)
    (rests : Rests pool after key) : after.Separated key := by
  have old := rests.old
  have alive : after.alive key = pool.alive key := by simp [Threads.alive, rests.shared]
  have suspected : after.suspected key = pool.suspected key := by
    simp [Threads.suspected, rests.shared]
  constructor
  · rw [alive, suspected]
    exact separated.disjoint
  · intro thread member position
    have := separated.towardsAlive thread
    grind
  · intro thread member position
    have := separated.towardsSuspected thread
    grind
  · intro first firstMember second secondMember position
    have := separated.oneWay first
    grind

theorem Separated.advances {pool after : Threads} {key : Key} {index : Nat}
    {thread next : Thread} (separated : pool.Separated key)
    (advances : Advances pool after index thread next key)
    (undisturbed : pool.Undisturbed (.advance index)) : after.Separated key := by
  have member : thread ∈ pool.threads := List.mem_of_getElem? advances.present
  have alive : after.alive key = (thread.action key).alive (pool.alive key) :=
    advances.performs.alive
  have suspected : after.suspected key =
    (thread.action key).suspected (pool.suspected key) := advances.performs.suspected
  have position := advances.performs.position
  have starts := advances.performs.starts
  have uncrossed := undisturbed.action advances.present key
  have others : ∀ other ∈ after.threads, other = next ∨ other ∈ pool.threads := by
    rw [advances.threads]
    intro other otherMember
    exact (List.mem_or_eq_of_mem_set otherMember).symm
  rcases separated with ⟨disjoint, towardsAlive, towardsSuspected, oneWay⟩
  generalize thread.action key = action at alive suspected position starts uncrossed
  constructor
  · -- A thread that enters a set was on its way there, so the key is not in the other.
    cases action with
    | enterAlive =>
        have absent := towardsAlive thread member starts
        simp [suspected, Action.suspected, absent]
    | enterSuspected =>
        have absent := towardsSuspected thread member starts
        simp [alive, Action.alive, absent]
    | leaveAlive => simp [alive, Action.alive]
    | leaveSuspected | evict | forget => simp [suspected, Action.suspected]
    | stay => simpa [alive, suspected, Action.alive, Action.suspected] using disjoint
  · -- Only a thread that goes the other way puts the key with the suspects.
    intro other otherMember otherPosition
    cases action with
    | enterSuspected => grind [Action.position, Action.Starts]
    | _ => grind [Action.suspected, Action.position]
  · intro other otherMember otherPosition
    cases action with
    | enterAlive => grind [Action.position, Action.Starts]
    | _ => grind [Action.alive, Action.position]
  · -- Here the guard is needed: a move that starts crosses no other.
    intro first firstMember second secondMember firstPosition
    cases action with
    | leaveAlive | leaveSuspected => grind [Action.position, Action.crosses, Action.Starts]
    | _ => grind [Action.position]

theorem Separated.step {pool : Threads} {key : Key} (separated : pool.Separated key)
    {decision : Decision ServerOperation} (undisturbed : pool.Undisturbed decision) :
    (threadMachine.step pool decision).Separated key := by
  rcases step_cases pool decision key with rests | ⟨index, thread, next, rfl, advances⟩
  · exact separated.rests rests
  · exact separated.advances advances undisturbed

theorem create_separated (host : Host) (hostName : String) (port : UInt16)
    (statusCb : Bool) (key : Key) :
    (create host hostName port statusCb).Separated key := by
  constructor
  · simp [create, Threads.alive, SwimServer.create, OrderedSet.contains]
  · simp [create]
  · simp [create]
  · simp [create]

/-- In every interleaving in which no two operations move the same server in
opposite directions at once, no server is in both sets, whether or not operations
are in progress. -/
theorem disjoint_of_undisturbed (host : Host) (hostName : String) (port : UInt16)
    (statusCb : Bool) (decisions : List (Decision ServerOperation))
    (undisturbed : threadMachine.Along Undisturbed (create host hostName port statusCb)
      decisions) :
    (threadMachine.run (create host hostName port statusCb) decisions).Disjoint := by
  intro key
  have separated := threadMachine.run_invariant (fun pool => pool.Separated key)
    (fun pool decision separated guard => separated.step guard)
    (create_separated host hostName port statusCb key) undisturbed
  exact separated.disjoint

theorem disjoint_while_moving_different_servers :
    (threadMachine.run (create ⟨"node", fun _ => "10.0.0.1"⟩ "" 9000 true)
      [.spawn (.reportSuspected { hostname := "peer", port := 9001 } 10),
        .spawn (.onUpdate { hostname := "other", port := 9002 } 11),
        .advance 0, .advance 1, .advance 0, .advance 1, .advance 0, .advance 1,
        .advance 0, .advance 1, .advance 1]).Disjoint :=
  disjoint_of_undisturbed ⟨"node", fun _ => "10.0.0.1"⟩ "" 9000 true _ (by decide)

/-- While `ReportSuspected` has taken a peer from the alive, an `AddAlive` of the
same peer runs from its first section to its last. -/
theorem crossing_moves_leave_server_in_both_sets :
    let pool := threadMachine.run (create ⟨"node", fun _ => "10.0.0.1"⟩ "" 9000 true)
      [.spawn (.reportSuspected { hostname := "peer", port := 9001 } 10),
        .spawn (.addAlive { hostname := "peer", port := 9001 } 11),
        .advance 0, .advance 0,
        .advance 1, .advance 1, .advance 1, .advance 1,
        .advance 0, .advance 0]
    pool.Idle ∧ pool.alive (toLex ("peer", 9001)) = true ∧
      pool.suspected (toLex ("peer", 9001)) = true ∧ ¬ pool.Disjoint := by
  intro pool
  have both : pool.alive (toLex ("peer", 9001)) = true ∧
      pool.suspected (toLex ("peer", 9001)) = true := by decide
  exact ⟨by decide, both.1, both.2, fun disjoint => disjoint _ both⟩

/-! ## No server is forgotten -/

/-- Every server that was inserted and has not been evicted is in one of the
sets. -/
def Remembers (pool : Threads) : Prop :=
  ∀ key, pool.shared.known key = true → pool.alive key = true ∨ pool.suspected key = true

def Moving (pool : Threads) (key : Key) : Prop :=
  ∃ thread ∈ pool.threads, thread.position key ≠ .outside

instance (pool : Threads) (key : Key) : Decidable (pool.Moving key) :=
  inferInstanceAs (Decidable (∃ thread ∈ pool.threads, _))

/-- A suspect is not erased without further ado, unless it is among the alive or on
its way to one of the sets. -/
def Careful (pool : Threads) : Decision ServerOperation → Prop
  | .spawn _ => True
  | .advance index => ∀ act ∈ pool.threads[index]?.bind Thread.acts,
      act.2 = .forget → pool.suspected act.1 = true →
        pool.alive act.1 = true ∨ pool.Moving act.1

instance (pool : Threads) : ∀ decision, Decidable (pool.Careful decision)
  | .spawn _ => isTrue trivial
  | .advance _ => inferInstanceAs (Decidable (∀ act ∈ _, _))

theorem Careful.action {pool : Threads} {index : Nat} {thread : Thread}
    (careful : pool.Careful (.advance index))
    (present : pool.threads[index]? = some thread) {key : Key}
    (forgets : thread.action key = .forget) (known : pool.suspected key = true) :
    pool.alive key = true ∨ pool.Moving key := by
  have acts := thread.acts_of_action key (by simp [forgets])
  exact careful (key, thread.action key) (by simp [present, acts]) forgets known

def Holds (pool : Threads) (key : Key) : Prop :=
  pool.shared.known key = true →
    pool.alive key = true ∨ pool.suspected key = true ∨ pool.Moving key

theorem Moving.rests {pool after : Threads} {key : Key} (moving : pool.Moving key)
    (rests : Rests pool after key) : after.Moving key := by
  rcases moving with ⟨thread, member, position⟩
  exact ⟨thread, rests.kept thread member, position⟩

theorem Holds.rests {pool after : Threads} {key : Key} (holds : pool.Holds key)
    (rests : Rests pool after key) : after.Holds key := by
  intro known
  rw [rests.shared] at known
  rcases holds known with alive | suspected | moving
  · exact .inl (by simpa [Threads.alive, rests.shared] using alive)
  · exact .inr (.inl (by simpa [Threads.suspected, rests.shared] using suspected))
  · exact .inr (.inr (moving.rests rests))

theorem Moving.advances {pool after : Threads} {key : Key} {index : Nat}
    {thread next : Thread} (moving : pool.Moving key)
    (advances : Advances pool after index thread next key)
    (outside : thread.position key = .outside) : after.Moving key := by
  rcases moving with ⟨other, member, position⟩
  refine ⟨other, ?_, position⟩
  rw [advances.threads]
  apply Pool.mem_set_of_ne advances.present member
  rintro rfl
  exact position outside

theorem Moving.of_next {pool after : Threads} {key : Key} {index : Nat}
    {thread next : Thread} (advances : Advances pool after index thread next key)
    (position : next.position key ≠ .outside) : after.Moving key := by
  refine ⟨next, ?_, position⟩
  rw [advances.threads]
  exact Pool.mem_set_self advances.present

theorem Holds.advances {pool after : Threads} {key : Key} {index : Nat}
    {thread next : Thread} (holds : pool.Holds key)
    (advances : Advances pool after index thread next key)
    (careful : pool.Careful (.advance index)) : after.Holds key := by
  intro known
  have alive : after.alive key = (thread.action key).alive (pool.alive key) :=
    advances.performs.alive
  have suspected : after.suspected key =
    (thread.action key).suspected (pool.suspected key) := advances.performs.suspected
  have position := advances.performs.position
  have starts := advances.performs.starts
  have knownBefore := advances.known.symm.trans known
  cases action : thread.action key with
  | enterAlive =>
      rw [action] at alive
      exact .inl alive
  | enterSuspected =>
      rw [action] at suspected
      exact .inr (.inl suspected)
  | leaveAlive | leaveSuspected =>
      rw [action] at position
      exact .inr (.inr (.of_next advances (by simp [position, Action.position])))
  | stay =>
      rw [action] at alive suspected position knownBefore
      rcases holds knownBefore with wasAlive | wasSuspected | moving
      · exact .inl (alive.trans wasAlive)
      · exact .inr (.inl (suspected.trans wasSuspected))
      · by_cases outside : thread.position key = .outside
        · exact .inr (.inr (moving.advances advances outside))
        · exact .inr (.inr (.of_next advances (by rwa [position])))
  | evict =>
      -- What was suspected is no longer known, so the server was not suspected.
      rw [action] at alive starts knownBefore
      simp only [Action.known, Bool.and_eq_true, Bool.not_eq_true'] at knownBefore
      rcases holds knownBefore.1 with wasAlive | wasSuspected | moving
      · exact .inl (alive.trans wasAlive)
      · rw [knownBefore.2] at wasSuspected
        cases wasSuspected
      · exact .inr (.inr (moving.advances advances starts))
  | forget =>
      have guarded := careful.action advances.present action
      rw [action] at alive starts knownBefore
      have stays : pool.alive key = true ∨ pool.Moving key := by
        rcases holds knownBefore with wasAlive | wasSuspected | moving
        · exact .inl wasAlive
        · exact guarded wasSuspected
        · exact .inr moving
      rcases stays with wasAlive | moving
      · exact .inl (alive.trans wasAlive)
      · exact .inr (.inr (moving.advances advances starts))

theorem Holds.step {pool : Threads} {key : Key} (holds : pool.Holds key)
    {decision : Decision ServerOperation} (careful : pool.Careful decision) :
    (threadMachine.step pool decision).Holds key := by
  rcases step_cases pool decision key with rests | ⟨index, thread, next, rfl, advances⟩
  · exact holds.rests rests
  · exact holds.advances advances careful

theorem Idle.not_moving {pool : Threads} (idle : pool.Idle) (key : Key) :
    ¬ pool.Moving key := by
  rintro ⟨thread, member, position⟩
  have outside := (idle thread member).1
  simp [Thread.position, Thread.moving, outside] at position

/-- In every interleaving in which no suspect is erased carelessly, all servers are
remembered whenever no operation is in progress. -/
theorem remembers_of_careful (host : Host) (hostName : String) (port : UInt16)
    (statusCb : Bool) (decisions : List (Decision ServerOperation))
    (careful : threadMachine.Along Careful (create host hostName port statusCb) decisions)
    (idle : (threadMachine.run (create host hostName port statusCb) decisions).Idle) :
    (threadMachine.run (create host hostName port statusCb) decisions).Remembers := by
  intro key known
  have holds := threadMachine.run_invariant (fun pool => pool.Holds key)
    (fun pool decision holds guard => holds.step guard) (by simp [Holds, create]) careful
  rcases holds known with alive | suspected | moving
  · exact .inl alive
  · exact .inr suspected
  · exact absurd moving (idle.not_moving key)

theorem remembers_peer_reported_after_update :
    (threadMachine.run (create ⟨"node", fun _ => "10.0.0.1"⟩ "" 9000 true)
      [.spawn (.onUpdate { hostname := "peer", port := 9001 } 10),
        .spawn (.reportSuspected { hostname := "peer", port := 9001 } 11),
        .advance 1, .advance 0, .advance 0, .advance 0, .advance 0, .advance 0,
        .advance 1, .advance 1, .advance 1]).Remembers :=
  remembers_of_careful ⟨"node", fun _ => "10.0.0.1"⟩ "" 9000 true _ (by decide) (by decide)

/-- `OnUpdate` has put a peer with the alive. Before its last section the peer is
reported, and the last section erases it from the suspects. -/
theorem update_forgets_reported_peer :
    let pool := threadMachine.run (create ⟨"node", fun _ => "10.0.0.1"⟩ "" 9000 true)
      [.spawn (.onUpdate { hostname := "peer", port := 9001 } 10),
        .spawn (.reportSuspected { hostname := "peer", port := 9001 } 11),
        .advance 0, .advance 0, .advance 0, .advance 0,
        .advance 1, .advance 1, .advance 1, .advance 1,
        .advance 0]
    pool.Idle ∧ pool.shared.known (toLex ("peer", 9001)) = true ∧
      pool.alive (toLex ("peer", 9001)) = false ∧
      pool.suspected (toLex ("peer", 9001)) = false ∧ ¬ pool.Remembers := by
  intro pool
  have known : pool.shared.known (toLex ("peer", 9001)) = true := by decide
  have gone : pool.alive (toLex ("peer", 9001)) = false ∧
      pool.suspected (toLex ("peer", 9001)) = false := by decide
  refine ⟨by decide, known, gone.1, gone.2, fun remembers => ?_⟩
  have present := remembers _ known
  simp [gone] at present

end Threads

end Gossip
