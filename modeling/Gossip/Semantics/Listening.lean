import Gossip.Semantics.Operations

/-! # The listening loop

The loop of `SwimServer::start`: receive bytes, parse them, hand the parts of
the envelope to a handler, reply. The parts are handed over as the pointers that
`release_sender` and its siblings return, so they can be null, and a handler
that looks through a null pointer has no defined behaviour from there on. A handler
can also make the server connect to an endpoint that ZeroMQ refuses, which ends the
process. -/

namespace Gossip

open Foundation

inductive Fault
  | sender
  | report
  | destination
  | endpoint
  | emptySet
deriving DecidableEq, Repr

def dereference {α : Type} (fault : Fault) : Option α → Except Fault α
  | some value => .ok value
  | none => .error fault

inductive Reply
  | ok
  | fail
deriving DecidableEq, Repr

/-- A detached thread of `OnForwardRequest` that has not run yet. -/
structure Forward where
  sender : Server
  destination : Option Server
deriving DecidableEq, Repr

structure Listener where
  server : SwimServer
  forwards : List Forward := []
  replies : List Reply := []

namespace SwimServer

/-- The loop's reaction to a `STATUS_UPDATE` message. -/
def receiveUpdate (server : SwimServer) (lamportTime : UInt64) (sender : Server)
    (now : UInt64) : SwimServer :=
  (server.updateLamportTime lamportTime).onUpdate sender now

/-- The loop's reaction to a `STATUS_REPORT` message. -/
def receiveReport (server : SwimServer) (lamportTime : UInt64) (sender : Server)
    (report : SwimReport) (now : UInt64) : SwimServer :=
  (server.updateLamportTime lamportTime).onReport sender report now

/-- The loop's reaction to a `STATUS_REQUEST` message, up to the point where a
thread takes over. -/
def receiveRequest (server : SwimServer) (lamportTime : UInt64) (sender : Server)
    (now : UInt64) : SwimServer :=
  (server.updateLamportTime lamportTime).onForwardRequest sender now

def connections (before after : SwimServer) : List String :=
  (after.postings.drop before.postings.length).map fun posting =>
    SwimClient.destinationUri posting.dest

end SwimServer

namespace Listener

/-- The `switch` on the type of the message. -/
def dispatch (listener : Listener) (message : SwimEnvelope) (now : UInt64) :
    Except Fault Listener :=
  match message.type with
  | .statusUpdate => do
      let sender ← dereference .sender message.sender
      .ok { listener with
        server := listener.server.receiveUpdate message.lamportTime sender now }
  | .statusReport => do
      -- `OnReport` adds the sender before it looks at the report.
      let sender ← dereference .sender message.sender
      let report ← dereference .report message.report
      .ok { listener with
        server := listener.server.receiveReport message.lamportTime sender report now }
  | .statusRequest => do
      -- The destination is only looked at by the thread.
      let sender ← dereference .sender message.sender
      .ok { listener with
        server := listener.server.receiveRequest message.lamportTime sender now
        forwards := listener.forwards ++ [⟨sender, message.destinationServer⟩] }
  | .statusUnknown | .statusBroadcast | .unrecognized _ => .ok listener

def reply (listener : Listener) (reply : Reply) : Listener :=
  { listener with replies := listener.replies ++ [reply] }

def receive (parse : List UInt8 → Option SwimEnvelope) (listener : Listener)
    (bytes : List UInt8) (now : UInt64) : Except Fault Listener :=
  match parse bytes with
  | some message => (listener.dispatch message now).map fun listener => listener.reply .ok
  | none => .ok (listener.reply .fail)

def background (listener : Listener) (index : Nat) (seconds : UInt64)
    (answered : Bool) (now : UInt64) : Except Fault Listener :=
  match listener.forwards[index]? with
  | none => .ok listener
  | some forward => do
      let destination ← dereference .destination forward.destination
      .ok { listener with
        forwards := listener.forwards.eraseIdx index
        server := listener.server.forwardPing forward.sender destination seconds answered
          now }

/-- Nobody catches what ZeroMQ throws when it refuses an endpoint, so the process dies. -/
def connect (refuses : String → Bool) (before after : Listener) : Except Fault Listener :=
  if (before.server.connections after.server).any refuses then .error .endpoint
  else .ok after

end Listener

inductive ListenerInput
  | received (bytes : List UInt8) (now : UInt64)
  | background (index : Nat) (seconds : UInt64) (answered : Bool) (now : UInt64)
deriving DecidableEq, Repr

section Machine

variable (refuses : String → Bool) (parse : List UInt8 → Option SwimEnvelope)

def Listener.react (listener : Listener) : ListenerInput → Except Fault Listener
  | .received bytes now => (listener.receive parse bytes now).bind (listener.connect refuses)
  | .background index seconds answered now =>
      (listener.background index seconds answered now).bind (listener.connect refuses)

def listeningMachine : Machine (Except Fault Listener) ListenerInput :=
  ⟨fun state input => state.bind fun listener => listener.react refuses parse input⟩

end Machine

/-! ## Messages as operations -/

/-- The operations with which a server reacts to a message that it can handle. -/
def SwimEnvelope.operations (message : SwimEnvelope) (now : UInt64) :
    List ServerOperation :=
  match message.type, message.sender, message.report with
  | .statusUpdate, some sender, _ =>
      [.updateLamportTime message.lamportTime, .onUpdate sender now]
  | .statusReport, some sender, some report =>
      [.updateLamportTime message.lamportTime, .onReport sender report now]
  | .statusRequest, some sender, _ =>
      [.updateLamportTime message.lamportTime, .onForwardRequest sender now]
  | _, _, _ => []

/-- The message is of a type that the loop handles, and has the parts that the handler
looks at before it returns. -/
def SwimEnvelope.Handleable (message : SwimEnvelope) : Prop :=
  match message.type with
  | .statusUpdate | .statusRequest => message.sender.isSome
  | .statusReport => message.sender.isSome ∧ message.report.isSome
  | .statusUnknown | .statusBroadcast | .unrecognized _ => False

instance (message : SwimEnvelope) : Decidable message.Handleable :=
  match shape : message.type with
  | .statusUpdate | .statusRequest =>
      decidable_of_iff (message.sender.isSome = true) (by simp [SwimEnvelope.Handleable, shape])
  | .statusReport =>
      decidable_of_iff (message.sender.isSome = true ∧ message.report.isSome = true)
        (by simp [SwimEnvelope.Handleable, shape])
  | .statusUnknown | .statusBroadcast | .unrecognized _ =>
      isFalse (by simp [SwimEnvelope.Handleable, shape])

/-- The reaction of a server to a message that arrives at `now`. -/
def SwimServer.process (server : SwimServer) (message : SwimEnvelope) (now : UInt64) :
    SwimServer :=
  serverMachine.run server (message.operations now)

inductive SwimEnvelope.Handler (message : SwimEnvelope) (now : UInt64) :
    ServerOperation → Prop
  | onUpdate {client : Server} (sender : message.sender = some client) :
      message.Handler now (.onUpdate client now)
  | onReport {client : Server} {content : SwimReport} (sender : message.sender = some client)
      (report : message.report = some content) :
      message.Handler now (.onReport client content now)
  | onForwardRequest {client : Server} (sender : message.sender = some client) :
      message.Handler now (.onForwardRequest client now)

theorem SwimServer.process_eq (server : SwimServer) {message : SwimEnvelope}
    (handleable : message.Handleable) (now : UInt64) :
    ∃ operation, message.Handler now operation ∧
      server.process message now =
        (server.updateLamportTime message.lamportTime).operate operation := by
  rcases message with ⟨type, sender, lamportTime, report, destinationServer⟩
  cases type with
  | statusUpdate =>
      rcases Option.isSome_iff_exists.mp handleable with ⟨client, rfl⟩
      exact ⟨_, .onUpdate rfl, rfl⟩
  | statusReport =>
      rcases Option.isSome_iff_exists.mp handleable.1 with ⟨client, rfl⟩
      rcases Option.isSome_iff_exists.mp handleable.2 with ⟨content, rfl⟩
      exact ⟨_, .onReport rfl rfl, rfl⟩
  | statusRequest =>
      rcases Option.isSome_iff_exists.mp handleable with ⟨client, rfl⟩
      exact ⟨_, .onForwardRequest rfl, rfl⟩
  | statusUnknown | statusBroadcast | unrecognized value => cases handleable

theorem Listener.dispatch_server {listener next : Listener} {message : SwimEnvelope}
    {now : UInt64} (dispatched : listener.dispatch message now = .ok next) :
    next.server = serverMachine.run listener.server (message.operations now) := by
  rcases message with ⟨type, sender, lamportTime, report, destinationServer⟩
  cases type <;> cases sender <;> cases report <;> cases dispatched <;> rfl

end Gossip
