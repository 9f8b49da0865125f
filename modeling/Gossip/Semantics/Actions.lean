import Gossip.Semantics.Threads

/-! # Threads seen through one key

Seen through one key, a step of a thread is one of a few actions on two flags:
whether the key is in the set of alive servers, and whether it is among the
suspects. What goes wrong when operations overlap can be told from the actions
alone. -/

namespace Gossip

open Foundation SwimServer

/-! ## Actions -/

inductive Position
  | outside
  /-- Inside `AddAlive`: taken out of the suspects, not yet put with the alive. -/
  | towardsAlive
  /-- Inside `ReportSuspected`: taken from the alive, not yet put with the
  suspects. -/
  | towardsSuspected
deriving DecidableEq, Repr

inductive Action
  | stay
  /-- `AddAlive` takes it out of the suspects. -/
  | leaveSuspected
  | enterAlive
  /-- `ReportSuspected` takes it from the alive. -/
  | leaveAlive
  | enterSuspected
  | evict
  /-- It is erased from the suspects without further ado, as by `OnUpdate`. -/
  | forget
deriving DecidableEq, Repr

namespace Action

def alive : Action → Bool → Bool
  | .enterAlive, _ => true
  | .leaveAlive, _ => false
  | _, present => present

def suspected : Action → Bool → Bool
  | .enterSuspected, _ => true
  | .leaveSuspected, _ | .evict, _ | .forget, _ => false
  | _, present => present

def position : Action → Position → Position
  | .leaveSuspected, _ => .towardsAlive
  | .leaveAlive, _ => .towardsSuspected
  | .stay, position => position
  | _, _ => .outside

def Starts : Action → Position → Prop
  | .stay, _ => True
  | .enterAlive, position => position = .towardsAlive
  | .enterSuspected, position => position = .towardsSuspected
  | _, position => position = .outside

def crosses : Action → Position → Bool
  | .leaveAlive, .towardsAlive | .leaveSuspected, .towardsSuspected => true
  | _, _ => false

end Action

namespace Thread

def moving (thread : Thread) : Option (Key × Position) :=
  match thread.inside with
  | some (.stampAlive subject _) => some (subject.key, .towardsAlive)
  | some (.insertAlive record) => some (record.key, .towardsAlive)
  | some (.insertSuspected record) => some (record.key, .towardsSuspected)
  | some (.refreshAlive _) | some (.eraseAlive _) | some (.fire _) | none => none

def acts (thread : Thread) : Option (Key × Action) :=
  match thread.inside, thread.sections with
  | some (.insertAlive record), _ => some (record.key, .enterAlive)
  | some (.eraseAlive record), _ => some (record.key, .leaveAlive)
  | some (.insertSuspected record), _ => some (record.key, .enterSuspected)
  | none, .addAlive subject _ :: _ =>
      if subject.port = 0 then none else some (subject.key, .leaveSuspected)
  | none, .removeSuspected removed .evicted _ :: _ => some (removed.key, .evict)
  | none, .removeSuspected removed .alive _ :: _ => some (removed.key, .forget)
  | none, .eraseReturned client :: _ => some (client.key, .forget)
  | _, _ => none

def position (thread : Thread) (key : Key) : Position :=
  match thread.moving with
  | some (moved, position) => if moved = key then position else .outside
  | none => .outside

def action (thread : Thread) (key : Key) : Action :=
  match thread.acts with
  | some (changed, action) => if changed = key then action else .stay
  | none => .stay

theorem acts_of_action (thread : Thread) (key : Key) (acting : thread.action key ≠ .stay) :
    thread.acts = some (key, thread.action key) := by
  simp only [action] at acting ⊢
  split at acting
  next changed action acts =>
    split at acting
    next equal => simp [acts, equal]
    next => exact absurd rfl acting
  next => exact absurd rfl acting

end Thread

/-! ## Steps are actions -/

theorem contains_raiseIncarnation (set : ServerRecordsSet) (record : ServerRecord)
    (key : Key) : (raiseIncarnation set record).contains key = set.contains key := by
  simp only [OrderedSet.contains, find?_raiseIncarnation]
  split <;> simp

namespace Thread

structure Performs (server after : SwimServer) (thread next : Thread) (key : Key) :
    Prop where
  alive : after.alive.contains key = (thread.action key).alive (server.alive.contains key)
  suspected : after.suspected.contains key =
    (thread.action key).suspected (server.suspected.contains key)
  position : next.position key = (thread.action key).position (thread.position key)
  starts : (thread.action key).Starts (thread.position key)

theorem Performs.idle {server after : SwimServer} {thread next : Thread} {key : Key}
    (acts : thread.acts = none)
    (alive : after.alive.contains key = server.alive.contains key)
    (suspected : after.suspected.contains key = server.suspected.contains key)
    (moving : next.moving = thread.moving) : Performs server after thread next key := by
  have stays : thread.action key = .stay := by simp [action, acts]
  constructor
  · rw [stays, alive]
    rfl
  · rw [stays, suspected]
    rfl
  · rw [stays, Thread.position, moving]
    rfl
  · rw [stays]
    trivial

theorem Performs.acting {server after : SwimServer} {thread next : Thread} {key changed : Key}
    {action : Action} {start : Position} (acts : thread.acts = some (changed, action))
    (alive : after.alive.contains key =
      if changed = key then action.alive (server.alive.contains key)
      else server.alive.contains key)
    (suspected : after.suspected.contains key =
      if changed = key then action.suspected (server.suspected.contains key)
      else server.suspected.contains key)
    (before : thread.position key = if changed = key then start else .outside)
    (afterwards : next.position key =
      if changed = key then action.position start else .outside)
    (starts : action.Starts start) : Performs server after thread next key := by
  by_cases equal : changed = key
  · have acts' : thread.action key = action := by simp [Thread.action, acts, equal]
    simp only [equal, if_true] at alive suspected before afterwards
    constructor
    · rw [acts', alive]
    · rw [acts', suspected]
    · rw [acts', before, afterwards]
    · rw [acts', before]
      exact starts
  · have stays : thread.action key = .stay := by simp [Thread.action, acts, equal]
    simp only [equal, if_false] at alive suspected before afterwards
    constructor
    · rw [stays, alive]
      rfl
    · rw [stays, suspected]
      rfl
    · rw [stays, before, afterwards]
      rfl
    · rw [stays]
      trivial

theorem inside_performs (server : SwimServer) (inside : Inside) (sections : List Section)
    (key : Key) :
    Performs server (inside.exec server).1 ⟨some inside, sections⟩
      ⟨(inside.exec server).2, sections⟩ key := by
  cases inside with
  | stampAlive subject timestamp => exact .idle rfl rfl rfl rfl
  | insertAlive record =>
      refine .acting rfl (OrderedSet.contains_insert _ _ _) ?_ rfl ?_ rfl
      · exact (ite_self _).symm
      · by_cases known : server.alive.contains record.key = true <;>
          simp [Inside.exec, known, position, moving, Action.position]
  | refreshAlive record =>
      exact .idle rfl (OrderedSet.contains_modify _ _ _ _ (refreshed_key _ _)) rfl rfl
  | eraseAlive record =>
      refine .acting rfl (OrderedSet.contains_erase _ _ _) ?_ (ite_self _).symm rfl rfl
      exact (ite_self _).symm
  | insertSuspected record =>
      refine .acting rfl ?_ (OrderedSet.contains_insert _ _ _) rfl ?_ rfl
      · exact (ite_self _).symm
      · by_cases known : server.suspected.contains record.key = true <;>
          simp [Inside.exec, known, position, moving, Action.position]
  | fire callback =>
      refine .idle rfl ?_ ?_ rfl <;> simp [Inside.exec]

theorem section_performs (server : SwimServer) (first : Section) (rest : List Section)
    (key : Key) :
    Performs server (first.exec server).server ⟨none, first :: rest⟩
      ⟨(first.exec server).inside, (first.exec server).sections ++ rest⟩ key := by
  cases first with
  | addAlive subject timestamp =>
      by_cases port : subject.port = 0
      · refine .idle ?_ ?_ ?_ ?_ <;> simp [acts, Section.exec, port, moving]
      · have exec : (Section.addAlive subject timestamp).exec server =
            { server := { server with suspected := server.suspected.erase subject.key }
              inside := some (.stampAlive subject timestamp) } := by
          simp [Section.exec, port]
        have leaves : Thread.acts ⟨none, .addAlive subject timestamp :: rest⟩ =
            some (subject.key, .leaveSuspected) := by
          simp [acts, port]
        rw [exec]
        exact .acting leaves (ite_self _).symm (OrderedSet.contains_erase _ _ _)
          (ite_self _).symm rfl rfl
  | reportSuspected subject timestamp =>
      by_cases port : subject.port = 0
      · refine .idle ?_ ?_ ?_ ?_ <;> simp [acts, Section.exec, port, moving]
      by_cases isSelf : subject.same server.self = true
      · refine .idle ?_ ?_ ?_ ?_ <;> simp [acts, Section.exec, port, isSelf, moving]
      · refine .idle ?_ ?_ ?_ ?_ <;> simp [acts, Section.exec, port, isSelf, moving]
  | removeSuspected removed removeType seconds =>
      have outside : Thread.moving
          ⟨((Section.removeSuspected removed removeType seconds).exec server).inside, rest⟩ =
            none := by
        simp only [Section.exec]
        split <;> rfl
      have after : ∀ key, Thread.position
          ⟨((Section.removeSuspected removed removeType seconds).exec server).inside, rest⟩
            key = .outside := by
        simp [position, outside]
      cases removeType with
      | evicted =>
          refine .acting rfl (ite_self _).symm (OrderedSet.contains_erase _ _ _)
            (ite_self _).symm ?_ rfl
          exact (after key).trans (ite_self _).symm
      | alive =>
          refine .acting rfl (ite_self _).symm (OrderedSet.contains_erase _ _ _)
            (ite_self _).symm ?_ rfl
          exact (after key).trans (ite_self _).symm
  | eraseReturned client =>
      exact .acting rfl (ite_self _).symm (OrderedSet.contains_erase _ _ _)
        (ite_self _).symm (ite_self _).symm rfl
  | raiseAlive record => exact .idle rfl (contains_raiseIncarnation _ _ _) rfl rfl
  | raiseSuspected record => exact .idle rfl rfl (contains_raiseIncarnation _ _ _) rfl
  | checkAlive | checkSuspected | ping | forward | updateLamportTime | storeLamportTime =>
      exact .idle rfl rfl rfl rfl

theorem exec_performs (server : SwimServer) (thread : Thread) (key : Key) :
    Performs server (thread.exec server).1 thread (thread.exec server).2 key := by
  rcases thread with ⟨inside, sections⟩
  cases inside with
  | some inside => exact inside_performs server inside sections key
  | none =>
      cases sections with
      | nil => exact .idle rfl rfl rfl rfl
      | cons first rest => exact section_performs server first rest key

end Thread

/-! ## Threads that share a server -/

structure Tracked where
  server : SwimServer
  known : Key → Bool := fun _ => false

def Action.known : Action → (alive suspected known : Bool) → Bool
  | .enterAlive, alive, _, known => known || !alive
  | .enterSuspected, _, suspected, known => known || !suspected
  | .evict, _, suspected, known => known && !suspected
  | _, _, _, known => known

def Tracked.exec (tracked : Tracked) (thread : Thread) : Tracked × Thread :=
  let (server, next) := thread.exec tracked.server
  ({ server := server
     known := fun key => (thread.action key).known (tracked.server.alive.contains key)
       (tracked.server.suspected.contains key) (tracked.known key) },
    next)

abbrev Threads := Pool Tracked Thread

def threadMachine : Machine Threads (Decision ServerOperation) :=
  Pool.machine ServerOperation.thread Tracked.exec

namespace Threads

def create (host : Host) (hostName : String) (port : UInt16) (statusCb : Bool) :
    Threads where
  shared := { server := .create host hostName port statusCb }
  threads := []

def Idle (pool : Threads) : Prop := ∀ thread ∈ pool.threads, thread.Done

instance (pool : Threads) : Decidable pool.Idle :=
  inferInstanceAs (Decidable (∀ thread ∈ pool.threads, thread.Done))

def alive (pool : Threads) (key : Key) : Bool := pool.shared.server.alive.contains key

def suspected (pool : Threads) (key : Key) : Bool :=
  pool.shared.server.suspected.contains key

structure Rests (pool after : Threads) (key : Key) : Prop where
  shared : after.shared = pool.shared
  old : ∀ thread ∈ after.threads, thread ∈ pool.threads ∨ thread.position key = .outside
  kept : ∀ thread ∈ pool.threads, thread ∈ after.threads

structure Advances (pool after : Threads) (index : Nat) (thread next : Thread)
    (key : Key) : Prop where
  present : pool.threads[index]? = some thread
  performs : Thread.Performs pool.shared.server after.shared.server thread next key
  threads : after.threads = pool.threads.set index next
  known : after.shared.known key = (thread.action key).known (pool.alive key)
    (pool.suspected key) (pool.shared.known key)

theorem step_cases (pool : Threads) (decision : Decision ServerOperation) (key : Key) :
    Rests pool (threadMachine.step pool decision) key ∨
      ∃ index thread next, decision = .advance index ∧
        Advances pool (threadMachine.step pool decision) index thread next key := by
  cases decision with
  | spawn operation =>
      refine .inl ⟨rfl, ?_, fun thread member => List.mem_append_left _ member⟩
      intro thread member
      rcases List.mem_append.mp member with old | new
      · exact .inl old
      · rw [List.mem_singleton.mp new]
        exact .inr rfl
  | advance index =>
      cases present : pool.threads[index]? with
      | none =>
          rw [show threadMachine.step pool (.advance index) = pool from
            Pool.machine_advance_none _ _ present]
          exact .inl ⟨rfl, fun thread member => .inl member, fun _ member => member⟩
      | some thread =>
          have stepped : threadMachine.step pool (.advance index) = _ :=
            Pool.machine_advance _ _ present
          rw [stepped]
          exact .inr ⟨index, thread, _, rfl, present,
            thread.exec_performs pool.shared.server key, rfl, rfl⟩

end Threads

end Gossip
