import Gossip.Contracts.ReportRound

/-! # Reports to oneself

A full report passes over the server itself wherever it meets it. A single report takes
any alive server, so that it stays away from the server itself only as long as that is not
among the alive. -/

namespace Gossip

open Foundation GossipFailureDetector

/-! ## What is sent -/

structure SwimServer.Sends (before after : SwimServer) (sent : List Server) : Prop where
  settings : after.toSettings = before.toSettings
  reported : after.reportDestinations = before.reportDestinations ++ sent

namespace SwimServer.Sends

variable {before middle after : SwimServer} {first second : List Server}

theorem refl (server : SwimServer) : server.Sends server [] :=
  ⟨rfl, (List.append_nil _).symm⟩

theorem trans (sendsFirst : before.Sends middle first) (sendsSecond : middle.Sends after second) :
    before.Sends after (first ++ second) where
  settings := sendsSecond.settings.trans sendsFirst.settings
  reported := by
    rw [sendsSecond.reported, sendsFirst.reported, List.append_assoc]

theorem unique (sendsFirst : before.Sends after first) (sendsSecond : before.Sends after second) :
    first = second :=
  List.append_cancel_left (sendsFirst.reported.symm.trans sendsSecond.reported)

end SwimServer.Sends

namespace GossipFailureDetector

theorem roundRobin_not_self {server : SwimServer} {n idx : Int} {turns : Nat}
    {index next : UInt64} {gathered selection : OrderedSet Server.key}
    (result : roundRobin server n turns idx index gathered = (next, .returned selection))
    (clean : gathered.contains server.self.key = false) :
    selection.contains server.self.key = false := by
  induction turns generalizing idx index gathered with
  | zero => cases result
  | succ turns induction =>
      simp only [roundRobin] at result
      split at result
      next unfinished =>
        split at result
        · cases result
        next other found =>
          split at result
          next isSelf =>
            split at result
            · cases result
              exact clean
            · exact induction result clean
          next isOther =>
            apply induction result
            rw [Server.same_iff] at isOther
            rw [OrderedSet.contains_insert, if_neg isOther]
            exact clean
      next =>
        cases result
        exact clean

variable (detector : GossipFailureDetector)

theorem getUniqueNeighbors_not_self (k : UInt32) :
    ∃ index outcome, detector.getUniqueNeighbors k =
        ({ detector with roundRobinIndex := index }, outcome) ∧
      ∀ others, outcome = .returned others →
        ∀ other ∈ others, other.key ≠ detector.server.self.key := by
  rcases walked : roundRobin detector.server
      (neighborCount k detector.server.alive.toList.length)
      (2 * (neighborCount k detector.server.alive.toList.length).toNat + 2) 0
      detector.roundRobinIndex .empty with ⟨index, outcome⟩
  refine ⟨index, _, getUniqueNeighbors_eq rfl walked, ?_⟩
  intro others returned other member isSelf
  cases outcome with
  | thrown exception => cases returned
  | unfinished => cases returned
  | returned selection =>
      cases returned
      have clean := roundRobin_not_self walked rfl
      rw [← isSelf, OrderedSet.contains_of_mem member] at clean
      cases clean

theorem requestPings_sends (other : Server) (forwards : List Server) :
    detector.server.Sends (detector.requestPings other forwards).server [] := by
  rcases detector.requestPings_server other forwards with ⟨requests, posted, noReports⟩
  rw [posted]
  refine ⟨rfl, ?_⟩
  rw [reportDestinations_append noReports, List.append_nil]

theorem perform_sends (server : SwimServer) (primitive : Primitive)
    (silent : primitive.posting? = none) : server.Sends (server.perform primitive) [] := by
  refine ⟨by simp, ?_⟩
  rw [reportDestinations_perform silent, List.append_nil]

theorem sendReportTo_sends (report : SwimReport) (other : Server) (contact : Contact) :
    detector.server.Sends (detector.sendReportTo report other contact).1.server [other] := by
  have posted : detector.server.Sends
      (detector.post ((detector.client other).send report).2).server [other] :=
    ⟨rfl, detector.reportDestinations_send report other⟩
  simp only [sendReportTo]
  split
  · exact posted
  · let suspecting := (detector.post ((detector.client other).send report).2).reportSuspected
      other contact.now
    have suspects : detector.server.Sends suspecting.server [other] :=
      posted.trans (perform_sends _ (.reportSuspected other contact.now) rfl)
    rcases suspecting.getUniqueNeighbors_not_self suspecting.numForwards with
      ⟨index, outcome, result, -⟩
    rw [result]
    cases outcome with
    | thrown exception => exact suspects
    | unfinished => exact suspects
    | returned forwards =>
        let moved : GossipFailureDetector := { suspecting with roundRobinIndex := index }
        exact suspects.trans (moved.requestPings_sends other forwards)

theorem contactNeighbor_sends (report : SwimReport) (other : Server) (contact : Contact) :
    detector.server.Sends (detector.contactNeighbor report other contact).1.server [other] := by
  have sends := detector.sendReportTo_sends report other contact
  rw [contactNeighbor]
  generalize detector.sendReportTo report other contact = result at sends ⊢
  rcases result with ⟨after, outcome⟩
  cases outcome with
  | thrown exception => exact sends
  | unfinished => exact sends
  | returned answered =>
      cases answered with
      | false => exact sends
      | true =>
          exact sends.trans (perform_sends _ (.addAlive other contact.now) rfl)

theorem contactNeighbors_sends (report : SwimReport) (contacts : Server → Contact)
    (others : List Server) :
    ∃ sent, detector.server.Sends
        (contactNeighbors report contacts detector others).1.server sent ∧ sent <+: others := by
  induction others generalizing detector with
  | nil => exact ⟨[], .refl _, List.prefix_rfl⟩
  | cons other others induction =>
      have first := detector.contactNeighbor_sends report other (contacts other)
      rw [contactNeighbors]
      generalize detector.contactNeighbor report other (contacts other) = result at first ⊢
      rcases result with ⟨middle, outcome⟩
      cases outcome with
      | thrown exception => exact ⟨[other], first, List.prefix_append [other] others⟩
      | unfinished => exact ⟨[other], first, List.prefix_append [other] others⟩
      | returned _ =>
          rcases induction middle with ⟨sent, rest, isPrefix⟩
          exact ⟨other :: sent, first.trans rest, (List.prefix_cons_inj other).mpr isPrefix⟩

/-! ## Reports -/

section Reports

variable {Cost : Type} (costs : CostArithmetic Cost) (sort : LamportSort)
  (aliveNow suspectedNow : UInt64) (draw : Nat) (contacts : Server → Contact)

def SendsNoneToSelf (round : Result Unit) : Prop :=
  ∃ sent, detector.server.Sends round.1.server sent ∧
    ∀ other ∈ sent, other.key ≠ detector.server.self.key

theorem sendReport_full_none_to_self :
    detector.SendsNoneToSelf
      (detector.sendReport costs sort .full aliveNow suspectedNow draw contacts) := by
  simp only [sendReport]
  split
  · exact ⟨[], .refl _, by simp⟩
  · rcases detector.getUniqueNeighbors_not_self detector.numReports with
      ⟨index, outcome, result, foreign⟩
    rw [result]
    cases outcome with
    | thrown exception => exact ⟨[], .refl _, by simp⟩
    | unfinished => exact ⟨[], .refl _, by simp⟩
    | returned others =>
        let moved : GossipFailureDetector := { detector with roundRobinIndex := index }
        rcases moved.contactNeighbors_sends
          (detector.server.prepareReport costs sort aliveNow suspectedNow) contacts others with
          ⟨sent, sends, isPrefix⟩
        exact ⟨sent, sends, fun other member =>
          foreign others rfl other (isPrefix.subset member)⟩

theorem sendReport_single_sends {other : Server}
    (drawn : detector.server.getRandomNeighbor draw = .ok other) :
    detector.server.Sends
      (detector.sendReport costs sort .single aliveNow suspectedNow draw
        contacts).1.server [other] := by
  have nonempty : detector.server.alive.toList.isEmpty = false := by
    rw [SwimServer.getRandomNeighbor, SwimServer.getRandom] at drawn
    split at drawn
    · cases drawn
    next equal => rw [equal, List.isEmpty_cons]
  have sends := detector.contactNeighbor_sends
    (detector.server.prepareReport costs sort aliveNow suspectedNow) other (contacts other)
  simp only [sendReport, nonempty, drawn]
  rw [if_neg Bool.false_ne_true]
  generalize detector.contactNeighbor (detector.server.prepareReport costs sort aliveNow
    suspectedNow) other (contacts other) = result at sends ⊢
  rcases result with ⟨after, outcome⟩
  cases outcome <;> exact sends

end Reports

theorem exists_getRandomNeighbor_iff (server : SwimServer) (other : Server) :
    (∃ draw, server.getRandomNeighbor draw = .ok other) ↔ other ∈ server.neighbors := by
  rw [SwimServer.neighbors]
  simp only [SwimServer.getRandomNeighbor, SwimServer.getRandom]
  cases records : server.alive.toList with
  | nil => simp
  | cons first rest =>
      rw [List.mem_map]
      constructor
      · rintro ⟨draw, drawn⟩
        have inside : draw % (first :: rest).length < (first :: rest).length :=
          Nat.mod_lt _ (by simp)
        cases drawn
        refine ⟨_, ?_, rfl⟩
        rw [List.getD_eq_getElem?_getD, List.getElem?_eq_getElem inside]
        exact List.getElem_mem inside
      · rintro ⟨record, member, rfl⟩
        rcases List.getElem_of_mem member with ⟨index, inside, rfl⟩
        refine ⟨index, ?_⟩
        change Except.ok ((first :: rest).getD (index % (first :: rest).length) first).server = _
        rw [Nat.mod_eq_of_lt inside, List.getD_eq_getElem?_getD,
          List.getElem?_eq_getElem inside]
        rfl

theorem sendReport_single_none_to_self {Cost : Type} (costs : CostArithmetic Cost)
    (sort : LamportSort) (aliveNow suspectedNow : UInt64) (draw : Nat)
    (contacts : Server → Contact)
    (absent : detector.server.alive.contains detector.server.self.key = false) :
    detector.SendsNoneToSelf
      (detector.sendReport costs sort .single aliveNow suspectedNow draw contacts) := by
  cases drawn : detector.server.getRandomNeighbor draw with
  | error exception =>
      refine ⟨[], ?_, by simp⟩
      simp only [sendReport, drawn]
      split <;> exact .refl _
  | ok other =>
      refine ⟨[other], detector.sendReport_single_sends costs sort aliveNow suspectedNow draw
        contacts drawn, ?_⟩
      rw [List.forall_mem_singleton]
      intro isSelf
      rcases List.mem_map.mp ((exists_getRandomNeighbor_iff _ _).mp ⟨draw, drawn⟩) with
        ⟨record, stored, rfl⟩
      have known := OrderedSet.contains_of_mem stored
      rw [ServerRecord.key, isSelf, absent] at known
      cases known

/-- A detector stays away from itself exactly as long as it is not among the alive. -/
theorem never_reports_to_self_iff {Cost : Type} (costs : CostArithmetic Cost)
    (sort : LamportSort) :
    (∀ type aliveNow suspectedNow draw contacts, detector.SendsNoneToSelf
        (detector.sendReport costs sort type aliveNow suspectedNow draw contacts)) ↔
      detector.server.alive.contains detector.server.self.key = false := by
  constructor
  · intro never
    by_contra known
    rw [Bool.not_eq_false] at known
    rcases OrderedSet.contains_iff.mp known with ⟨record, found⟩
    have member : record.server ∈ detector.server.neighbors :=
      List.mem_map_of_mem (OrderedSet.mem_of_find? found)
    rcases (exists_getRandomNeighbor_iff _ _).mpr member with ⟨draw, drawn⟩
    rcases never .single 0 0 draw (fun _ => ⟨true, 0⟩) with ⟨sent, sends, foreign⟩
    obtain rfl := sends.unique (detector.sendReport_single_sends costs sort 0 0 draw _ drawn)
    have isSelf : record.key = detector.server.self.key := OrderedSet.key_of_find? found
    exact foreign record.server List.mem_cons_self isSelf
  · intro absent type aliveNow suspectedNow draw contacts
    cases type with
    | full =>
        exact detector.sendReport_full_none_to_self costs sort aliveNow suspectedNow draw contacts
    | single =>
        exact detector.sendReport_single_none_to_self costs sort aliveNow suspectedNow draw
          contacts absent

/-- A detector that was given its own address as a neighbour draws itself. -/
theorem reports_to_itself :
    let host : Host := ⟨"node", fun _ => "10.0.0.1"⟩
    let started := GossipFailureDetector.create host host.hostname true 9000 1000 6 3
    let detector := (detectorMachine exactCosts stableSort).run started
      [.addNeighbor { hostname := "node", port := 9000 } ⟨true, 10⟩]
    let round := detector.sendReport exactCosts stableSort .single 20 20 0 fun _ => ⟨true, 30⟩
    detector.server.Reachable exactCosts stableSort ∧
      round.1.server.reportDestinations.map Server.key = [detector.server.self.key] ∧
      ¬ detector.SendsNoneToSelf round := by
  intro host started detector round
  have reported : round.1.server.reportDestinations.map Server.key =
      [detector.server.self.key] := by
    decide
  refine ⟨.sequential rfl _, reported, ?_⟩
  rintro ⟨sent, sends, foreign⟩
  have nothingBefore : detector.server.reportDestinations = [] := by decide
  rw [sends.reported, nothingBefore, List.nil_append, List.map_eq_singleton_iff] at reported
  rcases reported with ⟨other, rfl, isSelf⟩
  exact foreign other List.mem_cons_self isSelf

end GossipFailureDetector

end Gossip
