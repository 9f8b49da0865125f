import Gossip.Contracts.Confinement
import Gossip.Semantics.Circle

/-! # Closed circles

Detectors that hear from nobody but each other only receive what their clients have made. Every
part that a handler looks at is there, so that a process can die of nothing but an endpoint
that ZeroMQ refuses, and the only servers that are ever mentioned are the members of the circle
and those that somebody has added as a neighbour. -/

namespace Gossip

open Foundation SwimServer

/-! ## Listening -/

namespace SwimServer

variable {scope : Scope} {server : SwimServer}

theorem NamedIn.of_settings (named : server.NamedIn scope.keys) {after : SwimServer}
    (settings : after.toSettings = server.toSettings) : after.NamedIn scope.keys := by
  intro dest
  have own := named dest
  rwa [client, SwimClient.create, ← settings] at own

theorem NamedIn.ping (named : server.NamedIn scope.keys) {dest : Server}
    (addressed : dest.key ∈ scope.addressed) : (server.client dest).ping.2.Made scope :=
  ⟨.ping _ (named dest), addressed⟩

theorem reachesBy_onAliveRecord {record : ServerRecord} (member : record.key ∈ scope.keys) :
    server.ReachesBy (fun step => step.Within scope ∧ step.Keeps)
      (server.onAliveRecord record) := by
  refine ⟨server.aliveRecordCalls record, ?_, run_aliveRecordCalls server record⟩
  unfold aliveRecordCalls
  split
  · simp
  · split
    · simp
    · simpa [Primitive.Within, Primitive.Keeps] using member

theorem reachesBy_onSuspectedRecord (named : server.NamedIn scope.keys) {reportSender : Server}
    (addressed : reportSender.key ∈ scope.addressed) {record : ServerRecord}
    (blamed : scope.Blames record.key) :
    server.ReachesBy (fun step => step.Within scope ∧ step.Keeps)
      (onSuspectedRecord reportSender server record) := by
  refine ⟨suspectedRecordCalls reportSender server record, ?_,
    run_suspectedRecordCalls reportSender server record⟩
  unfold suspectedRecordCalls
  split
  · simpa [Primitive.Within, Primitive.Keeps] using named.ping addressed
  · split
    · simp
    · simpa [Primitive.Within, Primitive.Keeps] using blamed

theorem reachesBy_onReport (named : server.NamedIn scope.keys) {sender : Server}
    (senderNamed : sender.key ∈ scope.keys) {report : SwimReport} (speaks : report.Speaks scope)
    (now : UInt64) :
    server.ReachesBy (fun step => step.Within scope ∧ step.Keeps)
      (server.onReport sender report now) := by
  have kept (server after : SwimServer)
      (reaches : server.ReachesBy (fun step => step.Within scope ∧ step.Keeps) after)
      (named : server.NamedIn scope.keys) : after.NamedIn scope.keys :=
    named.of_settings reaches.reaches.hasFrame.1
  have heard : server.ReachesBy (fun step => step.Within scope ∧ step.Keeps)
      (server.addAlive sender now).1 := .perform (.addAlive sender now) ⟨senderNamed, trivial⟩
  have alive : server.ReachesBy (fun step => step.Within scope ∧ step.Keeps)
      (report.alive.foldl onAliveRecord (server.addAlive sender now).1) := by
    refine heard.trans (.foldl kept ?_ (kept _ _ heard named))
    intro server _ record member
    exact reachesBy_onAliveRecord (speaks.alive record member)
  refine alive.trans (.foldl kept ?_ (kept _ _ alive named))
  intro server named record member
  exact reachesBy_onSuspectedRecord named speaks.sender (speaks.suspected record member)

theorem Sound.onUpdate_eq (sound : server.Sound) (client : Server) (now : UInt64) :
    server.onUpdate client now = (server.addAlive client now).1 := by
  have absent : (server.addAlive client now).1.suspected.find? client.key = none := by
    rw [← entry_suspected, entry_addAlive, if_pos rfl, Entry.offerAlive]
    split
    next port => exact ((sound client.key).refusesPortZero port).2
    next => simp
  have same : (server.addAlive client now).1.suspected.erase client.key =
      (server.addAlive client now).1.suspected := by
    apply OrderedSet.ext_find?
    intro key
    rw [OrderedSet.find?_erase]
    split
    next equal => rw [← equal, absent]
    next => rfl
  rw [onUpdate, same]

theorem reachesBy_forwardPing (named : server.NamedIn scope.keys) {sender destination : Server}
    (senderNamed : sender.key ∈ scope.keys) (blamed : scope.Blames destination.key)
    (seconds : UInt64) (answered : Bool) (now : UInt64) :
    server.ReachesBy (fun step => step.Within scope ∧ step.Keeps)
      (server.forwardPing sender destination seconds answered now) := by
  have sent : server.ReachesBy (fun step => step.Within scope ∧ step.Keeps)
      (server.post ((server.client destination).send
        { sender := sender, suspected := [makeRecord destination seconds] }).2) := by
    have content : SwimReport.Confined scope
        { sender := sender, suspected := [makeRecord destination seconds] } :=
      ⟨⟨.inl senderNamed, by simp, by simpa using blamed⟩, by simp⟩
    exact .perform (.post _) ⟨⟨.send _ (named destination) content, .inl blamed.1⟩, trivial⟩
  unfold forwardPing
  dsimp only
  split
  · exact sent
  · exact sent.trans (.perform (.reportSuspected destination now) ⟨blamed, trivial⟩)

end SwimServer

structure Forward.Speaks (scope : Scope) (forward : Forward) : Prop where
  sender : forward.sender.key ∈ scope.keys
  destination : ∀ destination ∈ forward.destination, scope.Blames destination.key

/-- A message is handled, if it is, by calls about the servers that it speaks of. The clock is
not touched by a message of a type that nobody handles. -/
theorem SwimEnvelope.Speaks.dispatch {scope : Scope} {envelope : SwimEnvelope}
    (speaks : envelope.Speaks scope) {listener next : Listener}
    (named : listener.server.NamedIn scope.keys) (sound : listener.server.Sound) {now : UInt64}
    (dispatched : listener.dispatch envelope now = .ok next) :
    (∃ start, (start = listener.server ∨
        start = listener.server.updateLamportTime envelope.lamportTime) ∧
      start.ReachesBy (fun step => step.Within scope ∧ step.Keeps) next.server) ∧
      next.replies = listener.replies ∧
      ∀ forward ∈ next.forwards, forward ∈ listener.forwards ∨ forward.Speaks scope := by
  rcases envelope with ⟨type, sender, lamportTime, report, destinationServer⟩
  have ticked : (listener.server.updateLamportTime lamportTime).NamedIn scope.keys :=
    named.of_settings rfl
  have old : ∀ forward ∈ listener.forwards, forward ∈ listener.forwards ∨ forward.Speaks scope :=
    fun _ member => .inl member
  cases type with
  | statusUnknown | statusBroadcast | unrecognized =>
      cases dispatched
      exact ⟨⟨_, .inl rfl, .refl _⟩, rfl, old⟩
  | statusUpdate =>
      cases sender with
      | none => cases dispatched
      | some sender =>
          cases dispatched
          refine ⟨⟨_, .inr rfl, ?_⟩, rfl, old⟩
          rw [receiveUpdate, (sound.updateLamportTime lamportTime).onUpdate_eq]
          exact .perform (.addAlive sender now) ⟨speaks.sender sender rfl, trivial⟩
  | statusReport =>
      cases sender with
      | none => cases dispatched
      | some sender =>
          cases report with
          | none => cases dispatched
          | some report =>
              cases dispatched
              exact ⟨⟨_, .inr rfl, reachesBy_onReport ticked (speaks.sender sender rfl)
                (speaks.report report rfl) now⟩, rfl, old⟩
  | statusRequest =>
      cases sender with
      | none => cases dispatched
      | some sender =>
          cases dispatched
          have member := speaks.sender sender rfl
          refine ⟨⟨_, .inr rfl, .perform (.addAlive sender now) ⟨member, trivial⟩⟩, rfl, ?_⟩
          exact List.forall_mem_append.mpr ⟨old, by simpa using .inr ⟨member, speaks.destination⟩⟩

theorem SwimEnvelope.Made.dispatches {scope : Scope} {envelope : SwimEnvelope}
    (made : envelope.Made scope) (listener : Listener) (now : UInt64) :
    ∃ next, listener.dispatch envelope now = .ok next ∧ next.replies = listener.replies ∧
      ∀ forward ∈ next.forwards, forward ∈ listener.forwards ∨ forward.destination.isSome := by
  cases made with
  | ping | send => exact ⟨_, rfl, rfl, fun forward member => .inl member⟩
  | requestPing =>
      refine ⟨_, rfl, rfl, List.forall_mem_append.mpr ⟨fun forward member => .inl member, ?_⟩⟩
      simp

theorem SwimEnvelope.speaks_empty (scope : Scope) : SwimEnvelope.Speaks scope {} :=
  ⟨by simp, by simp, by simp⟩

/-! ## Participants -/

structure Participant.Exposed (scope : Scope) (participant : Participant) : Prop where
  detector : participant.detector.Situated scope
  forwards : ∀ forward ∈ participant.forwards, forward.Speaks scope

structure Participant.Goes (scope : Scope) (collects : Prop) (before after : Participant) :
    Prop where
  exposed : after.Exposed scope
  settings : after.detector.server.toSettings = before.detector.server.toSettings
  postings : ∃ new, after.detector.server.postings = before.detector.server.postings ++ new ∧
    ∀ posting ∈ new, posting.Made scope
  knows : ¬ collects → ∀ key, before.detector.server.Knows key →
    after.detector.server.Knows key

def Transport.Readable (transport : Transport) : Prop :=
  ∀ envelope, (transport.parseFromArray (transport.serializeAsString envelope)).isSome = true

structure Participant.Sheltered (transport : Transport) (participant : Participant) : Prop where
  forwards : ∀ forward ∈ participant.forwards, forward.destination.isSome
  replies : transport.Readable → ∀ reply ∈ participant.replies, reply = .ok

namespace Participant

variable {transport : Transport} {scope : Scope} {participant : Participant}

theorem Goes.of_moves (collects : Prop) (start : SwimServer) {after : Participant}
    (detector : { participant.detector with server := start }.Situated scope)
    (settings : start.toSettings = participant.detector.server.toSettings)
    (postings : start.postings = participant.detector.server.postings)
    (entries : start.entry = participant.detector.server.entry)
    (moves : GossipFailureDetector.Moves scope { participant.detector with server := start }
      after.detector)
    (forwards : ∀ forward ∈ after.forwards, forward.Speaks scope) :
    Goes scope collects participant after where
  exposed := ⟨moves.situated detector, forwards⟩
  settings := moves.server.reaches.hasFrame.1.trans settings
  postings := by
    rcases moves.server.postings with ⟨new, posted, made⟩
    exact ⟨new, by rw [posted, ← postings], fun posting member => (made posting member).1⟩
  knows := by
    intro _ key known
    have start : start.Knows key := by
      rwa [SwimServer.Knows, ← entry_alive, ← entry_suspected, entries]
    exact moves.server.knows (fun _ allowed => allowed.2) start

theorem Goes.moves (exposed : participant.Exposed scope) (collects : Prop)
    {after : GossipFailureDetector}
    (moves : GossipFailureDetector.Moves scope participant.detector after) :
    Goes scope collects participant { participant with detector := after } :=
  .of_moves collects _ exposed.detector rfl rfl rfl moves exposed.forwards

theorem Goes.refl (exposed : participant.Exposed scope) (collects : Prop) :
    Goes scope collects participant participant :=
  .moves exposed collects (.refl _)

/-! ### Threads -/

theorem Exposed.forward (exposed : participant.Exposed scope) (collects : Prop) (index : Nat)
    (seconds : UInt64) (answered : Bool) (now : UInt64) :
    Goes scope collects participant
      (participant.heard (participant.listener.background index seconds answered now)).1 := by
  unfold Listener.background
  cases found : participant.listener.forwards[index]? with
  | none => exact .refl exposed collects
  | some forward =>
      have speaks := exposed.forwards forward (List.mem_of_getElem? found)
      cases known : forward.destination with
      | none =>
          simp only [known, dereference]
          exact .refl exposed collects
      | some destination =>
          simp only [known, dereference]
          refine .of_moves collects _ exposed.detector rfl rfl rfl ⟨rfl, ?_⟩ ?_
          · exact reachesBy_forwardPing exposed.detector.serverNamed speaks.sender
              (speaks.destination destination known) seconds answered now
          · exact fun other member => exposed.forwards other (List.mem_of_mem_eraseIdx member)

theorem Sheltered.forward (sheltered : participant.Sheltered transport) (index : Nat)
    (seconds : UInt64) (answered : Bool) (now : UInt64) :
    (participant.heard (participant.listener.background index seconds answered now)).2 = none ∧
      (participant.heard
        (participant.listener.background index seconds answered now)).1.Sheltered transport := by
  unfold Listener.background
  cases found : participant.listener.forwards[index]? with
  | none => exact ⟨rfl, sheltered⟩
  | some forward =>
      have known := sheltered.forwards forward (List.mem_of_getElem? found)
      rcases Option.isSome_iff_exists.mp known with ⟨destination, present⟩
      simp only [present, dereference]
      refine ⟨rfl, ?_, sheltered.replies⟩
      exact fun other member => sheltered.forwards other (List.mem_of_mem_eraseIdx member)

/-! ### Messages -/

theorem Exposed.receive (exposed : participant.Exposed scope) (collects : Prop)
    {bytes : List UInt8}
    (speaks : ∀ envelope, transport.parseFromArray bytes = some envelope →
      envelope.Speaks scope) (now : UInt64) :
    Goes scope collects participant (participant.heard
      (participant.listener.receive transport.parseFromArray bytes now)).1 := by
  unfold Listener.receive
  cases parsed : transport.parseFromArray bytes with
  | none =>
      exact .of_moves collects _ exposed.detector rfl rfl rfl (.refl _) exposed.forwards
  | some envelope =>
      dsimp only
      cases dispatched : participant.listener.dispatch envelope now with
      | error fault => exact .refl exposed collects
      | ok next =>
          rcases (speaks envelope parsed).dispatch exposed.detector.serverNamed
            exposed.detector.sound dispatched with ⟨⟨start, origin, reaches⟩, -, forwards⟩
          have speak : ∀ forward ∈ next.forwards, forward.Speaks scope := by
            intro forward member
            rcases forwards forward member with old | new
            · exact exposed.forwards forward old
            · exact new
          rcases origin with rfl | rfl
          · exact .of_moves collects _ exposed.detector rfl rfl rfl ⟨rfl, reaches⟩ speak
          · exact .of_moves collects _ (exposed.detector.tick envelope.lamportTime) rfl rfl rfl
              ⟨rfl, reaches⟩ speak

end Participant

def Packet.Made (transport : Transport) (scope : Scope) (packet : Packet) : Prop :=
  ∃ envelope : SwimEnvelope, envelope.Made scope ∧
    packet.bytes = transport.serializeAsString envelope

theorem Packet.Made.speaks {transport : Transport} {scope : Scope} {packet : Packet}
    (made : packet.Made transport scope) {envelope : SwimEnvelope}
    (parsed : transport.parseFromArray packet.bytes = some envelope) :
    envelope.Speaks scope := by
  rcases made with ⟨sent, sentMade, bytes⟩
  rw [bytes] at parsed
  rcases transport.faithful sent with same | empty | unread
  · rw [same] at parsed
    exact Option.some.inj parsed ▸ sentMade.speaks
  · rw [empty] at parsed
    exact Option.some.inj parsed ▸ SwimEnvelope.speaks_empty scope
  · rw [unread] at parsed
    cases parsed

theorem Packet.Made.dispatches {transport : Transport} {scope : Scope} {packet : Packet}
    (made : packet.Made transport scope) {envelope : SwimEnvelope}
    (parsed : transport.parseFromArray packet.bytes = some envelope) (listener : Listener)
    (now : UInt64) :
    ∃ next, listener.dispatch envelope now = .ok next ∧ next.replies = listener.replies ∧
      ∀ forward ∈ next.forwards, forward ∈ listener.forwards ∨ forward.destination.isSome := by
  rcases made with ⟨sent, sentMade, bytes⟩
  rw [bytes] at parsed
  rcases transport.faithful sent with same | empty | unread
  · rw [same] at parsed
    exact Option.some.inj parsed ▸ sentMade.dispatches listener now
  · rw [empty] at parsed
    cases parsed
    exact ⟨listener, rfl, rfl, fun forward member => .inl member⟩
  · rw [unread] at parsed
    cases parsed

theorem Participant.Sheltered.receive {transport : Transport} {scope : Scope}
    {participant : Participant} (sheltered : participant.Sheltered transport) {packet : Packet}
    (made : packet.Made transport scope) (now : UInt64) :
    (participant.heard
        (participant.listener.receive transport.parseFromArray packet.bytes now)).2 = none ∧
      (participant.heard (participant.listener.receive transport.parseFromArray packet.bytes
        now)).1.Sheltered transport := by
  unfold Listener.receive
  cases parsed : transport.parseFromArray packet.bytes with
  | none =>
      refine ⟨rfl, sheltered.forwards, fun readable => ?_⟩
      rcases made with ⟨sent, -, bytes⟩
      have legible := readable sent
      rw [← bytes, parsed] at legible
      cases legible
  | some envelope =>
      rcases made.dispatches parsed participant.listener now with
        ⟨next, dispatched, replies, forwards⟩
      simp only [dispatched]
      refine ⟨rfl, ?_, fun readable => ?_⟩
      · intro forward member
        rcases forwards forward member with old | new
        · exact sheltered.forwards forward old
        · exact new
      · have answered : (participant.resume (next.reply .ok)).replies =
            participant.replies ++ [.ok] := congrArg (· ++ [Reply.ok]) replies
        intro reply member
        rcases List.mem_append.mp (answered ▸ member) with earlier | last
        · exact sheltered.replies readable reply earlier
        · exact List.mem_singleton.mp last

/-! ### Calls

`GetUniqueNeighbors` throws when there is nobody to choose from, but not when it is called for
nobody. -/

namespace GossipFailureDetector

theorem getNeighborByIndex_ok {server : SwimServer} (someone : server.alive.toList ≠ [])
    (index : Nat) : ∃ other, server.getNeighborByIndex index = .ok other := by
  unfold getNeighborByIndex
  cases elements : server.alive.toList with
  | nil => exact absurd elements someone
  | cons first rest => exact ⟨_, rfl⟩

theorem roundRobin_not_thrown {server : SwimServer} {n : Int}
    (enough : 0 < n → server.alive.toList ≠ []) {turns : Nat} {idx : Int} (started : 0 ≤ idx)
    (index : UInt64) (others : OrderedSet Server.key) (exception : EmptySet) :
    (roundRobin server n turns idx index others).2 ≠ .thrown exception := by
  induction turns generalizing idx index others with
  | zero => simp [roundRobin]
  | succ turns induction =>
      simp only [roundRobin]
      split
      next more =>
        rcases getNeighborByIndex_ok (enough (by omega))
          (if UInt64.ofNat server.alive.toList.length - 1 < index then 0 else index).toNat with
          ⟨other, found⟩
        simp only [found]
        split
        · split
          · simp
          · exact induction started _ _
        · exact induction (by omega) _ _
      next => simp

theorem neighborCount_zero (k : UInt32) : neighborCount k 0 = 0 := by
  unfold neighborCount
  dsimp only
  split
  · rfl
  next least =>
    have zero : k = 0 := UInt32.le_antisymm (UInt32.not_lt.mp least) (UInt32.zero_le)
    rw [zero]
    rfl

theorem getUniqueNeighbors_not_thrown (detector : GossipFailureDetector) (k : UInt32)
    (exception : EmptySet) : (detector.getUniqueNeighbors k).2 ≠ .thrown exception := by
  let n := neighborCount k detector.server.alive.toList.length
  have enough : 0 < n → detector.server.alive.toList ≠ [] := by
    intro positive nobody
    have none : n = 0 := by
      simp only [n, nobody, List.length_nil, neighborCount_zero]
    omega
  have returned : (roundRobin detector.server n (2 * n.toNat + 2) 0 detector.roundRobinIndex
      .empty).2 ≠ .thrown exception :=
    roundRobin_not_thrown enough (le_refl 0) _ _ _
  rcases walked : (roundRobin detector.server n (2 * n.toNat + 2) 0 detector.roundRobinIndex
    .empty) with ⟨last, outcome⟩
  rw [walked] at returned
  rw [getUniqueNeighbors_eq rfl walked]
  cases outcome with
  | thrown other => exact fun same => returned (congrArg _ (Outcome.thrown.inj same))
  | returned | unfinished => exact nofun

theorem andThen_not_thrown {α β : Type} {result : Result α}
    {next : GossipFailureDetector → α → Result β} {exception : EmptySet}
    (first : result.2 ≠ .thrown exception)
    (second : ∀ detector value, (next detector value).2 ≠ .thrown exception) :
    (result.andThen next).2 ≠ .thrown exception := by
  rcases result with ⟨detector, outcome⟩
  cases outcome with
  | returned value => exact second detector value
  | thrown other => exact fun same => first (congrArg _ (Outcome.thrown.inj same))
  | unfinished => simp [Result.andThen]

theorem contactNeighbor_not_thrown (detector : GossipFailureDetector) (report : SwimReport)
    (other : Server) (contact : Contact) (exception : EmptySet) :
    (detector.contactNeighbor report other contact).2 ≠ .thrown exception := by
  refine andThen_not_thrown ?_ fun after answered => by split <;> simp
  unfold sendReportTo
  dsimp only
  split
  · simp
  · exact andThen_not_thrown (getUniqueNeighbors_not_thrown _ _ _) fun after forwards => by simp

theorem contactNeighbors_not_thrown (report : SwimReport) (contacts : Server → Contact)
    (detector : GossipFailureDetector) (others : List Server) (exception : EmptySet) :
    (contactNeighbors report contacts detector others).2 ≠ .thrown exception := by
  induction others generalizing detector with
  | nil => simp [contactNeighbors]
  | cons other others induction =>
      exact andThen_not_thrown (contactNeighbor_not_thrown _ _ _ _ _)
        fun after _ => induction after

theorem sendReport_not_thrown {Cost : Type} (costs : CostArithmetic Cost) (sort : LamportSort)
    (detector : GossipFailureDetector) (type : ReportType) (aliveNow suspectedNow : UInt64)
    (draw : Nat) (contacts : Server → Contact) (exception : EmptySet) :
    (detector.sendReport costs sort type aliveNow suspectedNow draw contacts).2 ≠
      .thrown exception := by
  unfold sendReport
  split
  · simp
  cases type with
  | full =>
      exact andThen_not_thrown (getUniqueNeighbors_not_thrown _ _ _)
        fun after others => contactNeighbors_not_thrown _ _ after others _
  | single =>
      dsimp only
      split
      · simp
      next other _ =>
        have contacted := detector.contactNeighbor_not_thrown
          (detector.server.prepareReport costs sort aliveNow suspectedNow) other (contacts other)
          exception
        split
        · simp
        · exact contacted

end GossipFailureDetector

/-! ## Events -/

/-- The participant is to contact the server in the course of the event, and gets no answer. -/
def Participant.Fails {Node : Type} (participant : Participant) (key : Key) :
    CircleEvent Node → Prop
  | .addNeighbor _ host contact => host.key = key ∧ contact.answered = false
  | .sendReport _ _ type _ _ draw contacts =>
      ∃ other ∈ participant.detector.reported type draw,
        other.key = key ∧ (contacts other).answered = false
  | .pingRandomSuspected .. | .garbageCollectSuspected .. | .set .. | .forward ..
  | .deliver .. => False

def CircleEvent.Collects {Node : Type} : CircleEvent Node → Prop
  | .garbageCollectSuspected .. => True
  | .addNeighbor .. | .sendReport .. | .pingRandomSuspected .. | .set .. | .forward ..
  | .deliver .. => False

structure Participant.Confines {Node : Type} (scope : Scope) (participant : Participant)
    (event : CircleEvent Node) : Prop where
  introduced : ∀ host, event.host? = some host → host.key ∈ scope.keys
  blamed : ∀ key, participant.Fails key event → key ∈ scope.blamed

section Events

variable {Node Cost : Type} {transport : Transport} (costs : CostArithmetic Cost) {scope : Scope}
  {participant : Participant} {network : List Packet} {event : CircleEvent Node}

theorem GossipFailureDetector.set_situated {detector : GossipFailureDetector}
    (situated : detector.Situated scope) (setting : Setting) :
    (detector.set setting).Situated scope := by
  cases setting <;> exact ⟨situated.1, situated.2, situated.3, situated.4, situated.5⟩

theorem GossipFailureDetector.set_server (detector : GossipFailureDetector) (setting : Setting) :
    (detector.set setting).server = detector.server := by
  cases setting <;> rfl

theorem Participant.Exposed.act (exposed : participant.Exposed scope)
    (made : ∀ packet ∈ network, packet.Made transport scope)
    (confines : participant.Confines scope event) :
    Goes scope event.Collects participant
      (participant.act transport costs network event).1 := by
  cases event with
  | addNeighbor node host contact =>
      exact .moves exposed _ (.addNeighbor exposed.detector (confines.introduced host rfl)
        fun failed => confines.blamed _ ⟨rfl, failed⟩)
  | sendReport node sort type aliveNow suspectedNow draw contacts =>
      exact .moves exposed _ (.sendReport costs sort exposed.detector type aliveNow suspectedNow
        draw fun other member failed => confines.blamed _ ⟨other, member, rfl, failed⟩)
  | pingRandomSuspected node draw contacts =>
      exact .moves exposed _ (.pingRandomSuspected exposed.detector draw contacts)
  | garbageCollectSuspected node sort aliveNow suspectedNow now seconds =>
      have reaches := participant.detector.reachesBy_garbageCollectSuspected costs sort aliveNow
        suspectedNow now seconds
      refine ⟨⟨?_, exposed.forwards⟩, reaches.reaches.hasFrame.1, ?_,
        fun spared => absurd trivial spared⟩
      · exact exposed.detector.garbageCollectSuspected costs sort aliveNow suspectedNow now
          seconds
      · rcases reaches.postings with ⟨new, posted, removes⟩
        exact ⟨new, posted, fun posting member => absurd trivial (removes posting member)⟩
  | set node setting =>
      have same := participant.detector.set_server setting
      refine ⟨⟨GossipFailureDetector.set_situated exposed.detector setting, exposed.forwards⟩,
        by simp only [act, same], ⟨[], by simp [act, same]⟩, ?_⟩
      intro _ key known
      simpa only [act, same] using known
  | forward node index seconds answered now =>
      exact exposed.forward _ index seconds answered now
  | deliver node index now =>
      cases found : network[index]? with
      | none =>
          rw [act_deliver_none transport costs found participant node now]
          exact .refl exposed _
      | some packet =>
          rw [act_deliver transport costs found participant node now]
          exact exposed.receive _
            (fun envelope parsed => (made packet (List.mem_of_getElem? found)).speaks parsed) now

theorem Participant.Sheltered.act (sheltered : participant.Sheltered transport)
    (made : ∀ packet ∈ network, packet.Made transport scope) :
    (participant.act transport costs network event).2 = none ∧
      (participant.act transport costs network event).1.Sheltered transport := by
  have same (detector : GossipFailureDetector) :
      Sheltered transport { participant with detector := detector } :=
    ⟨sheltered.forwards, sheltered.replies⟩
  cases event with
  | addNeighbor | pingRandomSuspected | garbageCollectSuspected | set => exact ⟨rfl, same _⟩
  | sendReport node sort type aliveNow suspectedNow draw contacts =>
      refine ⟨?_, same _⟩
      have returned := participant.detector.sendReport_not_thrown costs sort type aliveNow
        suspectedNow draw contacts
      simp only [act]
      cases outcome : (participant.detector.sendReport costs sort type aliveNow suspectedNow draw
        contacts).2 with
      | returned | unfinished => rfl
      | thrown exception => exact absurd outcome (returned exception)
  | forward node index seconds answered now =>
      exact sheltered.forward index seconds answered now
  | deliver node index now =>
      cases found : network[index]? with
      | none =>
          rw [act_deliver_none transport costs found participant node now]
          exact ⟨rfl, sheltered⟩
      | some packet =>
          rw [act_deliver transport costs found participant node now]
          exact sheltered.receive (made packet (List.mem_of_getElem? found)) now

end Events

/-! ## Circles -/

structure Circle.Situated {Node : Type} (transport : Transport) (scope : Scope)
    (circle : Circle Node) : Prop where
  network : ∀ packet ∈ circle.network, packet.Made transport scope
  exposed : ∀ node participant, circle.processes node = .ok participant →
    participant.Exposed scope

def Circle.Unharmed {Node : Type} (transport : Transport) (scope : Scope) (circle : Circle Node)
    (node : Node) : Prop :=
  (∃ participant, circle.processes node = .ok participant ∧
      participant.Sheltered transport) ∨
    circle.processes node = .error .endpoint ∧
      ∃ server : Server, server.key ∈ scope.addressed ∧
        transport.refuses (SwimClient.destinationUri server) = true

/-- The process at the node lives and has the server in one of its sets. -/
def Circle.Knows {Node : Type} (circle : Circle Node) (node : Node) (key : Key) : Prop :=
  ∃ participant, circle.processes node = .ok participant ∧
    participant.detector.server.Knows key

/-- The process at the node lives and suspects the server. -/
def Circle.Suspects {Node : Type} (circle : Circle Node) (node : Node) (key : Key) : Prop :=
  ∃ participant, circle.processes node = .ok participant ∧
    participant.detector.server.suspected.contains key = true

namespace Participant

variable {transport : Transport} {scope : Scope} {collects : Prop} {before after : Participant}

theorem Goes.made_of_posted (goes : Goes scope collects before after) :
    ∀ posting ∈ before.posted after, posting.Made scope := by
  rcases goes.postings with ⟨new, posted, made⟩
  rw [Participant.posted, posted, List.drop_left]
  exact made

theorem Goes.packets (goes : Goes scope collects before after) :
    ∀ packet ∈ before.packets transport after, packet.Made transport scope := by
  intro packet member
  rcases List.mem_map.mp member with ⟨posting, sent, rfl⟩
  have posted := (List.takeWhile_prefix _).subset sent
  exact ⟨posting.envelope, (goes.made_of_posted posting posted).envelope, rfl⟩

theorem of_survives {reaction : Participant × Option Fault}
    (survived : before.survives transport reaction = .ok after) : after = reaction.1 := by
  unfold survives at survived
  split at survived
  · split at survived
    · exact (Except.ok.inj survived).symm
    · cases survived
  · cases survived

end Participant

section Advance

variable {Node : Type} [DecidableEq Node] {transport : Transport} {scope : Scope}
  {circle : Circle Node} {node : Node} {react : Participant → Participant × Option Fault}

theorem Circle.advance_of_dead {fault : Fault} (dead : circle.processes node = .error fault) :
    circle.advance transport node react = circle := by
  rw [advance, dead]

theorem Circle.advance_here {before : Participant} (alive : circle.processes node = .ok before) :
    (circle.advance transport node react).processes node =
      before.survives transport (react before) := by
  rw [advance, alive]
  exact Function.update_self _ _ _

theorem Circle.advance_elsewhere {other : Node} (elsewhere : other ≠ node) :
    (circle.advance transport node react).processes other = circle.processes other := by
  unfold advance
  split
  · rfl
  · exact Function.update_of_ne elsewhere _ _

theorem Circle.advance_network {before : Participant}
    (alive : circle.processes node = .ok before) :
    (circle.advance transport node react).network =
      circle.network ++ before.packets transport (react before).1 := by
  rw [advance, alive]

theorem Circle.of_advance_here {after : Participant}
    (alive : (circle.advance transport node react).processes node = .ok after) :
    ∃ before, circle.processes node = .ok before ∧ after = (react before).1 := by
  cases process : circle.processes node with
  | error fault =>
      rw [advance_of_dead process, process] at alive
      cases alive
  | ok before =>
      rw [advance_here process] at alive
      exact ⟨before, rfl, Participant.of_survives alive⟩

theorem Circle.of_advance {other : Node} {after : Participant}
    (alive : (circle.advance transport node react).processes other = .ok after) :
    circle.processes other = .ok after ∨
      ∃ before, other = node ∧ circle.processes node = .ok before ∧ after = (react before).1 := by
  by_cases here : other = node
  · subst here
    rcases of_advance_here alive with ⟨before, process, rfl⟩
    exact .inr ⟨before, rfl, process, rfl⟩
  · rw [advance_elsewhere here] at alive
    exact .inl alive

theorem Circle.Situated.advance (situated : circle.Situated transport scope)
    (goes : ∀ before, circle.processes node = .ok before → before.Exposed scope →
      ∃ collects, Participant.Goes scope collects before (react before).1) :
    (circle.advance transport node react).Situated transport scope := by
  constructor
  · cases process : circle.processes node with
    | error fault =>
        rw [advance_of_dead process]
        exact situated.network
    | ok before =>
        rcases goes before process (situated.exposed node before process) with ⟨collects, moved⟩
        rw [advance_network process]
        exact List.forall_mem_append.mpr ⟨situated.network, moved.packets⟩
  · intro other after alive
    rcases of_advance alive with same | ⟨before, rfl, process, rfl⟩
    · exact situated.exposed other after same
    · rcases goes before process (situated.exposed _ before process) with ⟨collects, moved⟩
      exact moved.exposed

theorem Circle.Unharmed.advance {other : Node} (unharmed : circle.Unharmed transport scope other)
    (goes : ∀ before, circle.processes node = .ok before →
      ∃ collects, Participant.Goes scope collects before (react before).1)
    (survives : ∀ before, other = node → before.Sheltered transport →
      (react before).2 = none ∧ (react before).1.Sheltered transport) :
    (circle.advance transport node react).Unharmed transport scope other := by
  by_cases here : other = node
  · subst here
    rcases unharmed with ⟨before, alive, sheltered⟩ | ⟨dead, refused⟩
    · rcases goes before alive with ⟨collects, moved⟩
      rcases survives before rfl sheltered with ⟨noFault, stillSheltered⟩
      rw [Unharmed, advance_here alive, Participant.survives, noFault]
      split
      · exact .inl ⟨_, rfl, stillSheltered⟩
      next refused =>
        rw [List.all_eq_true] at refused
        push Not at refused
        rcases refused with ⟨posting, posted, rejected⟩
        refine .inr ⟨rfl, posting.dest, (moved.made_of_posted posting posted).dest, ?_⟩
        simpa [Transport.accepts] using rejected
    · rw [advance_of_dead dead]
      exact .inr ⟨dead, refused⟩
  · rw [Unharmed, advance_elsewhere here]
    exact unharmed

end Advance

section Runs

variable {Node Cost : Type} (transport : Transport) (costs : CostArithmetic Cost)

theorem Configuration.create_exposed {scope : Scope} (configuration : Configuration)
    (named : configuration.identity ∈ scope.keys) (signed : configuration.self ∈ scope.names) :
    (Participant.create configuration).Exposed scope := by
  refine ⟨⟨?_, create_sound _ _ _ _, fun dest => named, ?_, signed⟩, ?_⟩
  · exact fun key => ⟨fun _ => rfl, fun _ => rfl⟩
  · intro dest
    have same := GossipFailureDetector.create_client configuration.host configuration.hostName
      configuration.statusCb configuration.port configuration.gracePeriod
      configuration.numReports configuration.numForwards dest
    have own : ((Participant.create configuration).detector.client dest).self.key ∈
      scope.keys := named
    rwa [Participant.create, same] at own
  · simp [Participant.create]

theorem Circle.create_situated {scope : Scope} {configurations : Node → Configuration}
    (named : ∀ node, (configurations node).identity ∈ scope.keys)
    (signed : ∀ node, (configurations node).self ∈ scope.names) :
    (Circle.create configurations).Situated transport scope where
  network := by simp [Circle.create]
  exposed node participant found := by
    cases found
    exact (configurations node).create_exposed (named node) (signed node)

def Scope.any : Scope where
  keys := Set.univ
  blamed := Set.univ
  names := Set.univ

theorem Circle.create_situated_any (configurations : Node → Configuration) :
    (Circle.create configurations).Situated transport .any :=
  Circle.create_situated transport (fun _ => Set.mem_univ _) fun _ => Set.mem_univ _

theorem Participant.confines_any (participant : Participant) (event : CircleEvent Node) :
    participant.Confines .any event :=
  ⟨fun _ _ => Set.mem_univ _, fun _ _ => Set.mem_univ _⟩

theorem Circle.create_unharmed (scope : Scope) (configurations : Node → Configuration)
    (node : Node) : (Circle.create configurations).Unharmed transport scope node :=
  .inl ⟨_, rfl, by simp [Participant.create], by simp [Participant.create]⟩

def Circle.Confines (scope : Scope) (circle : Circle Node) (event : CircleEvent Node) : Prop :=
  ∀ participant, circle.processes event.node = .ok participant →
    participant.Confines scope event

variable {transport}

theorem Circle.Situated.goes {scope : Scope} {circle : Circle Node}
    (situated : circle.Situated transport scope) {event : CircleEvent Node}
    (confines : circle.Confines scope event) {before : Participant}
    (alive : circle.processes event.node = .ok before) :
    Participant.Goes scope event.Collects before
      (before.act transport costs circle.network event).1 :=
  (situated.exposed event.node before alive).act costs situated.network (confines before alive)

variable [DecidableEq Node]

theorem Circle.act_of_dead {circle : Circle Node} {event : CircleEvent Node} {fault : Fault}
    (dead : circle.processes event.node = .error fault) :
    circle.act transport costs event = circle :=
  advance_of_dead dead

theorem Circle.Situated.act {scope : Scope} {circle : Circle Node}
    (situated : circle.Situated transport scope) {event : CircleEvent Node}
    (confines : circle.Confines scope event) :
    (circle.act transport costs event).Situated transport scope :=
  situated.advance fun _ alive _ => ⟨_, situated.goes costs confines alive⟩

theorem Circle.Unharmed.act {scope : Scope} {circle : Circle Node} {node : Node}
    (unharmed : circle.Unharmed transport scope node)
    (situated : circle.Situated transport scope) {event : CircleEvent Node}
    (confines : circle.Confines scope event) :
    (circle.act transport costs event).Unharmed transport scope node :=
  unharmed.advance (fun _ alive => ⟨_, situated.goes costs confines alive⟩)
    fun _ _ sheltered => sheltered.act costs situated.network

theorem Circle.Situated.run {scope : Scope} {circle : Circle Node}
    (situated : circle.Situated transport scope) {events : List (CircleEvent Node)}
    (confined : (circleMachine transport costs).Along (Circle.Confines scope) circle events) :
    ((circleMachine transport costs).run circle events).Situated transport scope :=
  (circleMachine transport costs).run_invariant (Circle.Situated transport scope)
    (fun _ _ holds confines => holds.act costs confines) situated confined

/-- The members of a circle and the servers that somebody has added as a neighbour. -/
def Circle.Introduced (configurations : Node → Configuration) (events : List (CircleEvent Node))
    (key : Key) : Prop :=
  (∃ member, key = (configurations member).identity) ∨
    ∃ event ∈ events, ∃ host, event.host? = some host ∧ host.key = key

variable (transport)

/-- A step of the run at which somebody fails to contact the server. -/
def Circle.Failed (configurations : Node → Configuration) (events : List (CircleEvent Node))
    (key : Key) : Prop :=
  ∃ step ∈ (circleMachine transport costs).trace (.create configurations) events,
    ∃ participant, step.before.processes step.input.node = .ok participant ∧
      participant.Fails key step.input

def Circle.spokenOf (configurations : Node → Configuration) (events : List (CircleEvent Node)) :
    Scope where
  keys := { key | Introduced configurations events key }
  blamed := { key | Failed transport costs configurations events key }
  names := { key | ∃ member, key = (configurations member).self }

theorem Circle.create_situated_spokenOf (configurations : Node → Configuration)
    (events : List (CircleEvent Node)) :
    (Circle.create configurations).Situated transport
      (Circle.spokenOf transport costs configurations events) :=
  Circle.create_situated transport (fun node => .inl ⟨node, rfl⟩) fun node => ⟨node, rfl⟩

theorem Circle.confined_spokenOf (configurations : Node → Configuration)
    (events : List (CircleEvent Node)) :
    (circleMachine transport costs).Along
      (Circle.Confines (Circle.spokenOf transport costs configurations events))
      (.create configurations) events := by
  rw [Machine.along_iff_forall_mem_trace]
  intro step member participant alive
  refine ⟨fun host found => .inr ⟨step.input, ?_, host, found, rfl⟩, ?_⟩
  · exact Machine.input_mem_of_mem_trace _ member
  · exact fun key fails => ⟨step, member, participant, alive, fails⟩

theorem Circle.run_unharmed (configurations : Node → Configuration)
    (events : List (CircleEvent Node)) (node : Node) :
    ((circleMachine transport costs).run (.create configurations) events).Unharmed transport
      (Circle.spokenOf transport costs configurations events) node := by
  let scope := Circle.spokenOf transport costs configurations events
  have kept := (circleMachine transport costs).run_invariant
    (fun circle => circle.Situated transport scope ∧ circle.Unharmed transport scope node)
    (fun _ _ holds confines =>
      ⟨holds.1.act costs confines, holds.2.act costs holds.1 confines⟩)
    ⟨Circle.create_situated_spokenOf transport costs configurations events,
      Circle.create_unharmed transport scope configurations node⟩
    (Circle.confined_spokenOf transport costs configurations events)
  exact kept.2

theorem Circle.run_situated_spokenOf (configurations : Node → Configuration)
    (events : List (CircleEvent Node)) :
    ((circleMachine transport costs).run (.create configurations) events).Situated transport
      (Circle.spokenOf transport costs configurations events) :=
  (Circle.create_situated_spokenOf transport costs configurations events).run costs
    (Circle.confined_spokenOf transport costs configurations events)

/-- Gossip invents nobody: a server that a process of a closed circle knows, alive or
suspected, is a member of the circle under the name that it advertises, or has been added as
a neighbour before. -/
theorem nobody_is_invented (configurations : Node → Configuration)
    (events : List (CircleEvent Node)) (node : Node) :
    { key | ((circleMachine transport costs).run (.create configurations) events).Knows node
        key } ⊆
      { key | Circle.Introduced configurations events key } := by
  rintro key ⟨participant, alive, knows⟩
  have situated := Circle.run_situated_spokenOf transport costs configurations events
  exact (situated.exposed node participant alive).detector.within.mem_of_knows knows

/-- Gossip blames nobody without cause: a server that a process of a closed circle suspects is
one that somebody in the circle was to contact and got no answer from. -/
theorem suspicion_has_a_cause (configurations : Node → Configuration)
    (events : List (CircleEvent Node)) (node : Node) :
    { key | ((circleMachine transport costs).run (.create configurations) events).Suspects node
        key } ⊆
      { key | Circle.Failed transport costs configurations events key } := by
  rintro key ⟨participant, alive, suspected⟩
  have situated := Circle.run_situated_spokenOf transport costs configurations events
  exact ((situated.exposed node participant alive).detector.within.blames suspected).2

end Runs

end Gossip
