import Gossip.Contracts.ClosedCircle

/-! # Open circles

A loop that receives a message without the parts that its handlers look at does not survive
it. But it passes nothing on that could harm others in this way: the messages that a detector
posts have all their parts, whatever it has received. -/

namespace Gossip

open Foundation SwimServer

theorem SwimEnvelope.speaks_any (envelope : SwimEnvelope) : envelope.Speaks .any where
  sender _ _ := Set.mem_univ _
  report _ _ := ⟨.inl (Set.mem_univ _), fun _ _ => Set.mem_univ _,
    fun _ _ => ⟨Set.mem_univ _, Set.mem_univ _⟩⟩
  destination _ _ := ⟨Set.mem_univ _, Set.mem_univ _⟩

section Events

variable {Node Cost : Type} {transport : Transport} (costs : CostArithmetic Cost)

theorem Participant.Exposed.react {participant : Participant}
    (exposed : participant.Exposed .any) {network : List Packet}
    (made : ∀ packet ∈ network, packet.Made transport .any) (event : OpenEvent Node) :
    ∃ collects, Goes .any collects participant
      (participant.react transport costs network event).1 := by
  cases event with
  | inside event => exact ⟨_, exposed.act costs made (participant.confines_any event)⟩
  | intrude node bytes now =>
      exact ⟨False, exposed.receive False (fun envelope _ => envelope.speaks_any) now⟩

def OpenEvent.Spares (node : Node) : OpenEvent Node → Prop
  | .inside _ => True
  | .intrude intruded .. => intruded ≠ node

theorem Participant.Sheltered.react {participant : Participant}
    (sheltered : participant.Sheltered transport) {network : List Packet}
    (made : ∀ packet ∈ network, packet.Made transport .any) {event : OpenEvent Node}
    (spares : event.Spares event.node) :
    (participant.react transport costs network event).2 = none ∧
      (participant.react transport costs network event).1.Sheltered transport := by
  cases event with
  | inside event => exact sheltered.act costs made
  | intrude node bytes now => exact absurd rfl spares

end Events

section Runs

variable {Node Cost : Type} [DecidableEq Node] (transport : Transport)
  (costs : CostArithmetic Cost)

theorem Circle.Situated.react {circle : Circle Node} (situated : circle.Situated transport .any)
    {node : Node} (unharmed : circle.Unharmed transport .any node) {event : OpenEvent Node}
    (spares : event.Spares node) :
    ((openMachine transport costs).step circle event).Situated transport .any ∧
      ((openMachine transport costs).step circle event).Unharmed transport .any node := by
  have goes (before : Participant) (alive : circle.processes event.node = .ok before) :=
    (situated.exposed event.node before alive).react costs situated.network event
  refine ⟨situated.advance fun before alive _ => goes before alive, ?_⟩
  refine unharmed.advance goes ?_
  rintro before rfl sheltered
  exact sheltered.react costs situated.network spares

end Runs

end Gossip
