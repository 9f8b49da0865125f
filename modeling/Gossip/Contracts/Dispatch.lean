import Gossip.Semantics.Listening
import Gossip.Semantics.Primitives

/-! # Dispatch of received messages

The loop replies once to every message and survives it, as long as every message of a type
it handles brings the parts that its handler needs and makes the server connect only to
endpoints that ZeroMQ accepts. -/

namespace Gossip

open Foundation

def EnvelopeType.Handled : EnvelopeType → Prop
  | .statusUpdate | .statusReport | .statusRequest => True
  | .statusUnknown | .statusBroadcast | .unrecognized _ => False

def SwimEnvelope.Complete (message : SwimEnvelope) : Prop :=
  match message.type with
  | .statusUpdate => message.sender.isSome
  | .statusReport => message.sender.isSome ∧ message.report.isSome
  | .statusRequest => message.sender.isSome ∧ message.destinationServer.isSome
  | .statusUnknown | .statusBroadcast | .unrecognized _ => True

def SwimReport.Accuses (report : SwimReport) (own : Server) : Prop :=
  ∃ record ∈ report.suspected, record.server.same own = true

/-- What a message must be like for a server to survive it. A server that is suspected
pings the sender of the report, and a request makes it contact the destination. -/
structure SwimEnvelope.Answerable (refuses : String → Bool) (own : Server)
    (message : SwimEnvelope) : Prop where
  complete : message.Complete
  pings : message.type = .statusReport → ∀ report, message.report = some report →
    report.Accuses own → refuses (SwimClient.destinationUri report.sender) = false
  contacts : message.type = .statusRequest →
    ∀ destination, message.destinationServer = some destination →
      refuses (SwimClient.destinationUri destination) = false

def receivedMessages (inputs : List ListenerInput) : List (List UInt8 × UInt64) :=
  inputs.filterMap fun
    | .received bytes now => some (bytes, now)
    | .background .. => none

/-! ## Connections -/

namespace SwimServer

theorem connections_eq {before after : SwimServer} {dests : List Server}
    (posted : after.postings.map Posting.dest = before.postings.map Posting.dest ++ dests) :
    before.connections after = dests.map SwimClient.destinationUri := by
  have dropped : (after.postings.map Posting.dest).drop before.postings.length = dests := by
    rw [posted, List.drop_left' (by simp)]
  rw [connections, ← dropped, ← List.map_drop, List.map_map]
  rfl

theorem onSuspectedRecord_dests (reportSender : Server) (server : SwimServer)
    (record : ServerRecord) :
    (onSuspectedRecord reportSender server record).postings.map Posting.dest =
      server.postings.map Posting.dest ++
        if record.server.same server.self then [reportSender] else [] := by
  unfold onSuspectedRecord
  split
  · simp only [post, List.map_append]
    rfl
  · split <;> simp

theorem foldl_onSuspectedRecord_dests (reportSender : Server) (server : SwimServer)
    (records : List ServerRecord) :
    (records.foldl (onSuspectedRecord reportSender) server).postings.map Posting.dest =
      server.postings.map Posting.dest ++
        (records.filter fun record => record.server.same server.self).map
          fun _ => reportSender := by
  induction records generalizing server with
  | nil => simp
  | cons record records induction =>
      have settled : (onSuspectedRecord reportSender server record).self = server.self :=
        congrArg Settings.self (onSuspectedRecord_toSettings reportSender server record)
      rw [List.foldl_cons, induction, onSuspectedRecord_dests, settled, List.append_assoc,
        List.filter_cons]
      split <;> rfl

theorem onAliveRecord_postings (server : SwimServer) (record : ServerRecord) :
    (server.onAliveRecord record).postings = server.postings := by
  unfold onAliveRecord
  split
  · rfl
  · split <;> simp

theorem foldl_onAliveRecord_frame (server : SwimServer) (records : List ServerRecord) :
    (records.foldl onAliveRecord server).postings = server.postings ∧
      (records.foldl onAliveRecord server).toSettings = server.toSettings := by
  induction records generalizing server with
  | nil => exact ⟨rfl, rfl⟩
  | cons record records induction =>
      rw [List.foldl_cons]
      have rest := induction (server.onAliveRecord record)
      rw [onAliveRecord_postings, onAliveRecord_toSettings] at rest
      exact rest

theorem onReport_dests (server : SwimServer) (sender : Server) (report : SwimReport)
    (now : UInt64) :
    (server.onReport sender report now).postings.map Posting.dest =
      server.postings.map Posting.dest ++
        (report.suspected.filter fun record => record.server.same server.self).map
          fun _ => report.sender := by
  have frame := foldl_onAliveRecord_frame (server.addAlive sender now).1 report.alive
  have settled := congrArg Settings.self (frame.2.trans (addAlive_toSettings server sender now))
  rw [onReport, foldl_onSuspectedRecord_dests, frame.1, addAlive_postings, settled]

end SwimServer

def SwimEnvelope.pinged (own : Server) (message : SwimEnvelope) : List Server :=
  match message.type, message.report with
  | .statusReport, some report =>
      (report.suspected.filter fun record => record.server.same own).map
        fun _ => report.sender
  | _, _ => []

theorem Listener.dispatch_connections {listener next : Listener} {message : SwimEnvelope}
    {now : UInt64} (dispatched : listener.dispatch message now = .ok next) :
    listener.server.connections next.server =
      (message.pinged listener.server.self).map SwimClient.destinationUri := by
  apply SwimServer.connections_eq
  rcases message with ⟨type, sender, lamportTime, report, destinationServer⟩
  cases type with
  | statusUpdate =>
      cases sender <;> cases dispatched
      simp [SwimServer.receiveUpdate, SwimServer.onUpdate, SwimServer.updateLamportTime,
        SwimEnvelope.pinged]
  | statusReport =>
      cases sender with
      | none => cases dispatched
      | some client =>
          cases report with
          | none => cases dispatched
          | some content =>
              injection dispatched with equal
              rw [← equal]
              simp only [SwimServer.receiveReport, SwimServer.onReport_dests]
              rfl
  | statusRequest =>
      cases sender <;> cases dispatched
      simp [SwimServer.receiveRequest, SwimServer.onForwardRequest,
        SwimServer.updateLamportTime, SwimEnvelope.pinged]
  | statusUnknown | statusBroadcast | unrecognized value =>
      cases dispatched
      simp [SwimEnvelope.pinged]

theorem SwimEnvelope.pinged_accepted_iff (refuses : String → Bool) (own : Server)
    (message : SwimEnvelope) :
    ((message.pinged own).map SwimClient.destinationUri).any refuses = false ↔
      (message.type = .statusReport → ∀ report, message.report = some report →
        report.Accuses own →
          refuses (SwimClient.destinationUri report.sender) = false) := by
  rcases message with ⟨type, sender, lamportTime, report, destinationServer⟩
  cases type <;> cases report <;> simp [pinged, SwimReport.Accuses]

theorem Listener.dispatch_self {listener next : Listener} {message : SwimEnvelope}
    {now : UInt64} (dispatched : listener.dispatch message now = .ok next) :
    next.server.self = listener.server.self := by
  rw [Listener.dispatch_server dispatched]
  exact congrArg Settings.self (SwimServer.run_toSettings listener.server _)

section Loop

variable (refuses : String → Bool) (parse : List UInt8 → Option SwimEnvelope)

def expectedReply (bytes : List UInt8) : Reply :=
  if (parse bytes).isSome then .ok else .fail

/-- What is expected of the loop when the given messages arrive, whenever the
threads are run that it starts. -/
structure DispatchesRobustly (server : SwimServer)
    (messages : List (List UInt8 × UInt64)) : Prop where
  answers : ∀ inputs, receivedMessages inputs = messages →
    ∃ next, (listeningMachine refuses parse).run (.ok { server := server }) inputs = .ok next ∧
      next.replies = messages.map fun message => expectedReply parse message.1
  ignores : ∀ message ∈ messages,
    (∀ envelope, parse message.1 = some envelope → ¬ envelope.type.Handled) →
      ∀ listener : Listener, ∃ next,
        listener.react refuses parse (.received message.1 message.2) = .ok next ∧
          next.server = listener.server

/-! ## One turn -/

structure Listener.Ready (own : Server) (listener : Listener) : Prop where
  settled : listener.server.self = own
  forwards : ∀ forward ∈ listener.forwards, ∃ destination,
    forward.destination = some destination ∧
      refuses (SwimClient.destinationUri destination) = false

theorem Listener.connect_of_accepted {before after : Listener}
    (accepted : (before.server.connections after.server).any refuses = false) :
    before.connect refuses after = .ok after := by
  rw [connect, accepted]
  rfl

theorem Listener.accepted_of_connect {before after next : Listener}
    (connected : before.connect refuses after = .ok next) :
    (before.server.connections after.server).any refuses = false ∧ next = after := by
  unfold connect at connected
  split at connected
  · cases connected
  next accepted =>
    cases connected
    exact ⟨Bool.eq_false_of_not_eq_true accepted, rfl⟩

variable {refuses} {own : Server}

theorem dispatch_answerable (listener : Listener) {message : SwimEnvelope}
    (answerable : message.Answerable refuses own) (now : UInt64) :
    ∃ next, listener.dispatch message now = .ok next ∧
      (∀ forward ∈ next.forwards, forward ∈ listener.forwards ∨
        ∃ destination, forward.destination = some destination ∧
          refuses (SwimClient.destinationUri destination) = false) ∧
      next.replies = listener.replies := by
  rcases message with ⟨type, sender, lamportTime, report, destinationServer⟩
  have complete := answerable.complete
  cases type with
  | statusUpdate =>
      rcases Option.isSome_iff_exists.mp complete with ⟨client, rfl⟩
      exact ⟨_, rfl, fun forward => .inl, rfl⟩
  | statusReport =>
      rcases Option.isSome_iff_exists.mp complete.1 with ⟨client, rfl⟩
      rcases Option.isSome_iff_exists.mp complete.2 with ⟨content, rfl⟩
      exact ⟨_, rfl, fun forward => .inl, rfl⟩
  | statusRequest =>
      rcases Option.isSome_iff_exists.mp complete.1 with ⟨client, rfl⟩
      rcases Option.isSome_iff_exists.mp complete.2 with ⟨destination, rfl⟩
      refine ⟨_, rfl, fun forward member => ?_, rfl⟩
      rcases List.mem_append.mp member with earlier | new
      · exact .inl earlier
      · rw [List.mem_singleton.mp new]
        exact .inr ⟨destination, rfl, answerable.contacts rfl destination rfl⟩
  | statusUnknown | statusBroadcast | unrecognized value =>
      exact ⟨_, rfl, fun forward => .inl, rfl⟩

variable (refuses) in
theorem receive_of_parsed {bytes : List UInt8} {envelope : SwimEnvelope}
    (parsed : parse bytes = some envelope) (listener : Listener) (now : UInt64) :
    listener.react refuses parse (.received bytes now) =
      (listener.dispatch envelope now).bind fun next =>
        (listener.connect refuses next).map fun next => next.reply .ok := by
  simp only [Listener.react, Listener.receive, parsed]
  cases listener.dispatch envelope now with
  | error fault => rfl
  | ok next =>
      have same : listener.server.connections (next.reply .ok).server =
          listener.server.connections next.server := rfl
      simp only [Except.map, Except.bind, Listener.connect, same]
      split <;> rfl

variable (refuses) in
theorem receive_of_unparsed {bytes : List UInt8} (parsed : parse bytes = none)
    (listener : Listener) (now : UInt64) :
    listener.react refuses parse (.received bytes now) = .ok (listener.reply .fail) := by
  rw [Listener.react, Listener.receive, parsed]
  exact Listener.connect_of_accepted refuses (by simp [SwimServer.connections, Listener.reply])

def AllAnswerable (refuses : String → Bool) (own : Server)
    (messages : List (List UInt8 × UInt64)) : Prop :=
  ∀ message ∈ messages, ∀ envelope,
    parse message.1 = some envelope → envelope.Answerable refuses own

theorem receive_answerable {listener : Listener} (ready : listener.Ready refuses own)
    {bytes : List UInt8}
    (answerable : ∀ envelope, parse bytes = some envelope → envelope.Answerable refuses own)
    (now : UInt64) :
    ∃ next, listener.react refuses parse (.received bytes now) = .ok next ∧
      next.Ready refuses own ∧
      next.replies = listener.replies ++ [expectedReply parse bytes] := by
  cases parsed : parse bytes with
  | none =>
      refine ⟨_, receive_of_unparsed refuses parse parsed listener now, ⟨ready.1, ready.2⟩, ?_⟩
      simp [expectedReply, parsed, Listener.reply]
  | some envelope =>
      have survived := answerable envelope parsed
      rcases dispatch_answerable listener survived now with
        ⟨next, dispatched, forwards, replies⟩
      have connections := Listener.dispatch_connections dispatched
      rw [ready.settled] at connections
      have accepted := (envelope.pinged_accepted_iff refuses own).mpr survived.pings
      rw [← connections] at accepted
      refine ⟨next.reply .ok, ?_, ⟨?_, ?_⟩, ?_⟩
      · rw [receive_of_parsed refuses parse parsed, dispatched]
        dsimp only [Except.bind]
        rw [Listener.connect_of_accepted refuses accepted]
        rfl
      · exact (Listener.dispatch_self dispatched).trans ready.settled
      · intro forward member
        rcases forwards forward member with earlier | new
        · exact ready.forwards forward earlier
        · exact new
      · simp [expectedReply, parsed, Listener.reply, replies]

theorem SwimServer.forwardPing_connections (server : SwimServer) (sender destination : Server)
    (seconds : UInt64) (answered : Bool) (now : UInt64) :
    server.connections (server.forwardPing sender destination seconds answered now) =
      [SwimClient.destinationUri destination] := by
  have posted : (server.forwardPing sender destination seconds answered now).postings.map
      Posting.dest = server.postings.map Posting.dest ++ [destination] := by
    unfold forwardPing
    cases answered <;> simp [post] <;> rfl
  exact connections_eq posted

theorem SwimServer.forwardPing_self (server : SwimServer) (sender destination : Server)
    (seconds : UInt64) (answered : Bool) (now : UInt64) :
    (server.forwardPing sender destination seconds answered now).self = server.self := by
  apply congrArg Settings.self
  unfold forwardPing
  cases answered <;> simp [post]

theorem react_background_none {listener : Listener} {index : Nat}
    (absent : listener.forwards[index]? = none) (seconds : UInt64) (answered : Bool)
    (now : UInt64) :
    listener.react refuses parse (.background index seconds answered now) = .ok listener := by
  rw [Listener.react, Listener.background, absent]
  exact Listener.connect_of_accepted refuses (by simp [SwimServer.connections])

theorem background_ready {listener : Listener} (ready : listener.Ready refuses own)
    (index : Nat) (seconds : UInt64) (answered : Bool) (now : UInt64) :
    ∃ next,
      listener.react refuses parse (.background index seconds answered now) = .ok next ∧
        next.Ready refuses own ∧ next.replies = listener.replies := by
  cases picked : listener.forwards[index]? with
  | none => exact ⟨_, react_background_none parse picked seconds answered now, ready, rfl⟩
  | some forward =>
      rcases ready.forwards forward (List.mem_of_getElem? picked) with
        ⟨destination, known, accepted⟩
      refine ⟨{ listener with
        forwards := listener.forwards.eraseIdx index
        server := listener.server.forwardPing forward.sender destination seconds answered
          now }, ?_, ⟨?_, ?_⟩, rfl⟩
      · rw [Listener.react, Listener.background, picked]
        simp only [known]
        apply Listener.connect_of_accepted
        simp [SwimServer.forwardPing_connections, accepted]
      · exact (listener.server.forwardPing_self _ _ _ _ _).trans ready.settled
      · intro other member
        exact ready.forwards other (List.mem_of_mem_eraseIdx member)

/-! ## Runs -/

variable (refuses) in
theorem listening_step (listener : Listener) (input : ListenerInput) :
    (listeningMachine refuses parse).step (.ok listener) input =
      listener.react refuses parse input := rfl

variable (refuses) in
theorem listening_fault (fault : Fault) (input : ListenerInput) :
    (listeningMachine refuses parse).step (.error fault) input = .error fault := rfl

theorem run_answerable {listener : Listener} (ready : listener.Ready refuses own)
    {inputs : List ListenerInput}
    (answerable : AllAnswerable parse refuses own (receivedMessages inputs)) :
    ∃ next, (listeningMachine refuses parse).run (.ok listener) inputs = .ok next ∧
      next.replies = listener.replies ++
        (receivedMessages inputs).map fun message => expectedReply parse message.1 := by
  induction inputs generalizing listener with
  | nil => exact ⟨listener, rfl, by simp [receivedMessages]⟩
  | cons input inputs induction =>
      cases input with
      | received bytes now =>
          have split : receivedMessages (.received bytes now :: inputs) =
              (bytes, now) :: receivedMessages inputs := rfl
          rw [split, AllAnswerable, List.forall_mem_cons] at answerable
          rcases receive_answerable parse ready answerable.1 now with
            ⟨middle, received, middleReady, middleReplies⟩
          rcases induction middleReady answerable.2 with ⟨next, rest, replies⟩
          refine ⟨next, ?_, ?_⟩
          · rw [Machine.run_cons, listening_step, received, rest]
          · rw [replies, middleReplies, split]
            simp
      | background index seconds answered now =>
          rcases background_ready parse ready index seconds answered now with
            ⟨middle, ran, middleReady, middleReplies⟩
          rcases induction middleReady answerable with ⟨next, rest, replies⟩
          refine ⟨next, ?_, ?_⟩
          · rw [Machine.run_cons, listening_step, ran, rest]
          · rw [replies, middleReplies]
            rfl

theorem run_fault (fault : Fault) (inputs : List ListenerInput) :
    (listeningMachine refuses parse).run (.error fault) inputs = .error fault :=
  (listeningMachine refuses parse).run_keeps (fun state => state = .error fault)
    (fun state input failed => by rw [failed, listening_fault]) _ inputs rfl

def eagerly (messages : List (List UInt8 × UInt64)) : List ListenerInput :=
  messages.flatMap fun message =>
    [.received message.1 message.2, .background 0 0 true 0]

theorem receivedMessages_eagerly (messages : List (List UInt8 × UInt64)) :
    receivedMessages (eagerly messages) = messages := by
  induction messages with
  | nil => rfl
  | cons message messages induction => exact congrArg (message :: ·) induction

/-- A message that gets past its handler is complete, or it has left a thread
behind that is still to look at the destination. -/
theorem complete_or_forwarded {listener next : Listener} {message : SwimEnvelope}
    {now : UInt64} (dispatched : listener.dispatch message now = .ok next) :
    message.Complete ∧ message.type ≠ .statusRequest ∧
        next.forwards = listener.forwards ∨
      ∃ sender, (message.destinationServer.isSome → message.Complete) ∧
        next.forwards = listener.forwards ++ [⟨sender, message.destinationServer⟩] := by
  rcases message with ⟨type, sender, lamportTime, report, destinationServer⟩
  cases type with
  | statusUpdate =>
      cases sender with
      | none => cases dispatched
      | some client =>
          injection dispatched with equal
          exact .inl ⟨rfl, nofun, equal ▸ rfl⟩
  | statusReport =>
      cases sender with
      | none => cases dispatched
      | some client =>
          cases report with
          | none => cases dispatched
          | some content =>
              injection dispatched with equal
              exact .inl ⟨⟨rfl, rfl⟩, nofun, equal ▸ rfl⟩
  | statusRequest =>
      cases sender with
      | none => cases dispatched
      | some client =>
          injection dispatched with equal
          exact .inr ⟨client, fun known => ⟨rfl, known⟩, equal ▸ rfl⟩
  | statusUnknown | statusBroadcast | unrecognized value =>
      injection dispatched with equal
      exact .inl ⟨trivial, nofun, equal ▸ rfl⟩

theorem background_idle {listener next : Listener} (idle : listener.forwards = [])
    (ran : listener.react refuses parse (.background 0 0 true 0) = .ok next) :
    next = listener := by
  rw [react_background_none parse (by rw [idle, List.getElem?_nil])] at ran
  injection ran with equal
  exact equal.symm

theorem background_single {listener next : Listener} {sender : Server}
    {destination : Option Server} (single : listener.forwards = [⟨sender, destination⟩])
    (ran : listener.react refuses parse (.background 0 0 true 0) = .ok next) :
    (∃ target, destination = some target ∧
        refuses (SwimClient.destinationUri target) = false) ∧
      next.forwards = [] ∧ next.server.self = listener.server.self := by
  rw [Listener.react, Listener.background, single, List.getElem?_cons_zero] at ran
  cases destination with
  | none => cases ran
  | some target =>
      rcases Listener.accepted_of_connect refuses ran with ⟨accepted, rfl⟩
      rw [SwimServer.forwardPing_connections] at accepted
      refine ⟨⟨target, rfl, by simpa using accepted⟩, rfl, ?_⟩
      exact listener.server.forwardPing_self _ _ _ _ _

theorem received_cases {listener middle : Listener} {bytes : List UInt8} {now : UInt64}
    (received : listener.react refuses parse (.received bytes now) = .ok middle) :
    parse bytes = none ∧ middle = listener.reply .fail ∨
      ∃ envelope next, parse bytes = some envelope ∧
        listener.dispatch envelope now = .ok next ∧
        (listener.server.connections next.server).any refuses = false ∧
        middle = next.reply .ok := by
  cases parsed : parse bytes with
  | none =>
      rw [receive_of_unparsed refuses parse parsed] at received
      injection received with equal
      exact .inl ⟨rfl, equal.symm⟩
  | some envelope =>
      rw [receive_of_parsed refuses parse parsed] at received
      cases dispatched : listener.dispatch envelope now with
      | error fault =>
          rw [dispatched] at received
          contradiction
      | ok next =>
          rw [dispatched] at received
          cases connected : listener.connect refuses next with
          | error fault =>
              simp only [Except.bind, connected, Except.map] at received
              contradiction
          | ok same =>
              simp only [Except.bind, connected, Except.map] at received
              rcases Listener.accepted_of_connect refuses connected with ⟨accepted, rfl⟩
              injection received with equal
              exact .inr ⟨envelope, same, rfl, dispatched, accepted, equal.symm⟩

theorem answerable_of_eager_turn {listener middle next : Listener}
    (idle : listener.forwards = []) {bytes : List UInt8} {now : UInt64}
    (received : listener.react refuses parse (.received bytes now) = .ok middle)
    (ran : middle.react refuses parse (.background 0 0 true 0) = .ok next) :
    (∀ envelope, parse bytes = some envelope →
        envelope.Answerable refuses listener.server.self) ∧
      next.forwards = [] ∧ next.server.self = listener.server.self := by
  rcases received_cases parse received with
    ⟨unparsed, rfl⟩ | ⟨envelope, handled, parsed, dispatched, accepted, rfl⟩
  · have stillIdle : (listener.reply .fail).forwards = [] := idle
    rw [background_idle parse stillIdle ran]
    refine ⟨?_, idle, rfl⟩
    intro envelope parsed
    rw [unparsed] at parsed
    cases parsed
  · rw [Listener.dispatch_connections dispatched, SwimEnvelope.pinged_accepted_iff] at accepted
    have settled := Listener.dispatch_self dispatched
    have only : ∀ other, parse bytes = some other → other = envelope := by
      intro other same
      rw [parsed] at same
      exact (Option.some.inj same).symm
    rcases complete_or_forwarded dispatched with
      ⟨complete, notRequest, forwards⟩ | ⟨sender, complete, forwards⟩
    · have stillIdle : (handled.reply .ok).forwards = [] := forwards.trans idle
      rw [background_idle parse stillIdle ran]
      refine ⟨?_, stillIdle, settled⟩
      intro other same
      rw [only other same]
      exact ⟨complete, accepted, fun request => absurd request notRequest⟩
    · have single : (handled.reply .ok).forwards =
          [⟨sender, envelope.destinationServer⟩] := by
        rw [Listener.reply, forwards, idle, List.nil_append]
      rcases background_single parse single ran with ⟨⟨target, known, reached⟩, done, same⟩
      refine ⟨?_, done, same.trans settled⟩
      intro other equal
      rw [only other equal]
      refine ⟨complete (by rw [known]; rfl), accepted, ?_⟩
      intro _ destination found
      rw [known] at found
      cases found
      exact reached

theorem answerable_of_run_eagerly {listener next : Listener}
    (idle : listener.forwards = []) {messages : List (List UInt8 × UInt64)}
    (ran : (listeningMachine refuses parse).run (.ok listener) (eagerly messages) =
      .ok next) :
    AllAnswerable parse refuses listener.server.self messages := by
  induction messages generalizing listener with
  | nil => nofun
  | cons message messages induction =>
      have split : eagerly (message :: messages) =
          [.received message.1 message.2, .background 0 0 true 0] ++ eagerly messages := rfl
      rw [split, Machine.run_append, Machine.run_cons, Machine.run_cons, Machine.run_nil,
        listening_step] at ran
      cases received : listener.react refuses parse (.received message.1 message.2) with
      | error fault =>
          rw [received, listening_fault, run_fault] at ran
          cases ran
      | ok middle =>
          rw [received, listening_step] at ran
          cases forwarded : middle.react refuses parse (.background 0 0 true 0) with
          | error fault =>
              rw [forwarded, run_fault] at ran
              cases ran
          | ok done =>
              rw [forwarded] at ran
              rcases answerable_of_eager_turn parse idle received forwarded with
                ⟨handled, stillIdle, settled⟩
              have rest := induction stillIdle ran
              rw [settled] at rest
              rw [AllAnswerable, List.forall_mem_cons]
              exact ⟨handled, rest⟩

theorem receive_unhandled {bytes : List UInt8}
    (unhandled : ∀ envelope, parse bytes = some envelope → ¬ envelope.type.Handled)
    (listener : Listener) (now : UInt64) :
    ∃ next, listener.react refuses parse (.received bytes now) = .ok next ∧
      next.server = listener.server := by
  cases parsed : parse bytes with
  | none => exact ⟨_, receive_of_unparsed refuses parse parsed listener now, rfl⟩
  | some envelope =>
      have noCase := unhandled envelope parsed
      rw [receive_of_parsed refuses parse parsed]
      rcases envelope with ⟨type, sender, lamportTime, report, destinationServer⟩
      cases type with
      | statusUpdate | statusReport | statusRequest => exact absurd trivial noCase
      | statusUnknown | statusBroadcast | unrecognized value =>
          refine ⟨listener.reply .ok, ?_, rfl⟩
          have accepted : listener.connect refuses listener = .ok listener :=
            Listener.connect_of_accepted refuses (by simp [SwimServer.connections])
          simp only [Listener.dispatch, Except.bind, accepted]
          rfl

variable (refuses)

/-- The loop dispatches a sequence of messages robustly exactly when each one that
parses is complete and makes the server connect only to endpoints that ZeroMQ accepts. -/
theorem dispatches_robustly_iff_answerable (server : SwimServer)
    (messages : List (List UInt8 × UInt64)) :
    DispatchesRobustly refuses parse server messages ↔
      ∀ message ∈ messages, ∀ envelope,
        parse message.1 = some envelope → envelope.Answerable refuses server.self := by
  constructor
  · intro robust
    rcases robust.answers (eagerly messages) (receivedMessages_eagerly messages) with
      ⟨next, ran, -⟩
    have idle : ({ server := server } : Listener).forwards = [] := rfl
    exact answerable_of_run_eagerly parse idle ran
  · intro answerable
    constructor
    · intro inputs arrive
      subst arrive
      have ready : Listener.Ready refuses server.self { server := server } := ⟨rfl, nofun⟩
      exact run_answerable parse ready answerable
    · intro message member unhandled listener
      exact receive_unhandled parse unhandled listener message.2

end Loop

/-- A ping without a sender: the bytes set the type of the envelope and nothing
else. -/
theorem ping_without_sender_faults :
    let parse : List UInt8 → Option SwimEnvelope := fun bytes =>
      if bytes = [8, 1] then some { type := .statusUpdate } else none
    let refuses : String → Bool := fun _ => false
    let server := SwimServer.create ⟨"node", fun _ => "10.0.0.1"⟩ "" 9000 true
    (listeningMachine refuses parse).run (.ok { server := server }) [.received [8, 1] 10] =
        .error .sender ∧
      ¬ DispatchesRobustly refuses parse server [([8, 1], 10)] := by
  intro parse refuses server
  have faults : (listeningMachine refuses parse).run (.ok { server := server })
      [.received [8, 1] 10] = .error .sender := rfl
  refine ⟨faults, fun robust => ?_⟩
  rcases robust.answers [.received [8, 1] 10] rfl with ⟨next, ran, -⟩
  rw [faults] at ran
  cases ran

end Gossip
