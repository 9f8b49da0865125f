import Gossip.Foundation.CyclicWalk
import Gossip.Semantics.Primitives

/-! # Choosing neighbours in turn

`GetUniqueNeighbors` walks around the set of alive servers. A turn that falls on the
server itself does not count, so what it returns is a slice of the cyclic order of
the other servers, and the next call goes on where the slice ends. -/

namespace Gossip

open Foundation GossipFailureDetector

namespace SwimServer

def neighbors (server : SwimServer) : List Server :=
  server.alive.toList.map ServerRecord.server

def isOther (server : SwimServer) (neighbor : Server) : Bool :=
  !neighbor.same server.self

def others (server : SwimServer) : List Server := server.neighbors.filter server.isOther

def othersBefore (server : SwimServer) (index : UInt64) : Nat :=
  rank server.isOther server.neighbors index.toNat

/-- A `std::set` counts its elements in 64 bits. -/
def Addressable (server : SwimServer) : Prop := server.alive.toList.length < 2 ^ 64

instance (server : SwimServer) : Decidable server.Addressable :=
  inferInstanceAs (Decidable (_ < _))

variable {server : SwimServer}

theorem isOther_iff {neighbor : Server} :
    server.isOther neighbor = true ↔ neighbor.key ≠ server.self.key := by
  simp [isOther, ← Bool.not_eq_true, Server.same_iff]

@[simp] theorem length_neighbors (server : SwimServer) :
    server.neighbors.length = server.alive.toList.length := by
  simp [neighbors]

theorem nodup_keys_neighbors (server : SwimServer) :
    (server.neighbors.map Server.key).Nodup := by
  rw [neighbors, List.map_map]
  exact server.alive.nodup_keys

theorem nodup_others (server : SwimServer) : server.others.Nodup :=
  (List.Nodup.of_map _ server.nodup_keys_neighbors).filter _

theorem eq_of_key_eq {first second : Server} (firstMember : first ∈ server.neighbors)
    (secondMember : second ∈ server.neighbors) (same : first.key = second.key) :
    first = second :=
  List.inj_on_of_nodup_map server.nodup_keys_neighbors firstMember secondMember same

theorem mem_others {other : Server} :
    other ∈ server.others ↔ other ∈ server.neighbors ∧ server.isOther other = true :=
  List.mem_filter

theorem getNeighborByIndex_of_met {index : Nat} {neighbor : Server}
    (met : server.neighbors[index]? = some neighbor) :
    server.getNeighborByIndex index = .ok neighbor := by
  rw [neighbors, List.getElem?_map, Option.map_eq_some_iff] at met
  rcases met with ⟨record, found, rfl⟩
  rcases List.getElem?_eq_some_iff.mp found with ⟨inside, _⟩
  rw [getNeighborByIndex]
  split
  next empty => simp [empty] at inside
  next first rest equal =>
    rw [equal] at found inside
    rw [if_neg (Nat.not_le.mpr inside), List.getD, found]
    rfl

def turnAt (server : SwimServer) (index : UInt64) : UInt64 :=
  if UInt64.ofNat server.alive.toList.length - 1 < index then 0 else index

theorem toNat_turnAt (addressable : server.Addressable)
    (nonempty : 0 < server.neighbors.length) (index : UInt64) :
    (server.turnAt index).toNat =
      if server.neighbors.length ≤ index.toNat then 0 else index.toNat := by
  have size : (UInt64.ofNat server.alive.toList.length).toNat = server.neighbors.length := by
    rw [length_neighbors, UInt64.toNat_ofNat', Nat.mod_eq_of_lt addressable]
  have one : (1 : UInt64) ≤ UInt64.ofNat server.alive.toList.length := by
    rw [UInt64.le_iff_toNat_le, size]
    exact nonempty
  have last : (UInt64.ofNat server.alive.toList.length - 1).toNat =
      server.neighbors.length - 1 := by
    rw [UInt64.toNat_sub_of_le _ _ one, size]
    rfl
  unfold turnAt
  split
  next past =>
    rw [UInt64.lt_iff_toNat_lt, last] at past
    rw [if_pos (by omega)]
    rfl
  next inside =>
    rw [UInt64.lt_iff_toNat_lt, last] at inside
    rw [if_neg (by omega)]

theorem turnAt_lt (addressable : server.Addressable)
    (nonempty : 0 < server.neighbors.length) (index : UInt64) :
    (server.turnAt index).toNat < server.neighbors.length := by
  rw [toNat_turnAt addressable nonempty]
  split <;> omega

theorem othersBefore_turnAt (addressable : server.Addressable)
    (nonempty : 0 < server.neighbors.length) (index : UInt64) :
    server.othersBefore (server.turnAt index) ≡ server.othersBefore index
      [MOD server.others.length] := by
  rw [othersBefore, toNat_turnAt addressable nonempty]
  split
  next past =>
    rw [othersBefore, rank_of_length_le past, rank_zero]
    exact (Nat.modEq_zero_iff_dvd.mpr (Nat.dvd_refl _)).symm
  next => rfl

theorem exists_met (addressable : server.Addressable)
    (nonempty : 0 < server.neighbors.length) (index : UInt64) :
    ∃ neighbor, server.neighbors[(server.turnAt index).toNat]? = some neighbor :=
  ⟨_, List.getElem?_eq_getElem (turnAt_lt addressable nonempty index)⟩

theorem meets_other_after_self (addressable : server.Addressable)
    (several : 1 < server.neighbors.length) {index next : UInt64} {first second : Server}
    (metFirst : server.neighbors[index.toNat]? = some first)
    (isSelf : server.isOther first = false) (follows : next.toNat = index.toNat + 1)
    (metSecond : server.neighbors[(server.turnAt next).toNat]? = some second) :
    server.isOther second = true := by
  rcases List.getElem?_eq_some_iff.mp metFirst with ⟨inside, _⟩
  have elsewhere : index.toNat ≠ (server.turnAt next).toNat := by
    rw [toNat_turnAt addressable (by omega)]
    split <;> omega
  rw [isOther_iff]
  intro selfAgain
  rw [← Bool.not_eq_true, isOther_iff, not_not] at isSelf
  apply elsewhere
  apply (List.getElem?_inj (by simpa using inside) server.nodup_keys_neighbors).mp
  simp [metFirst, metSecond, isSelf, selfAgain]

end SwimServer

/-! ## The loop -/

section Loop

variable {server : SwimServer} {n idx : Int} {turns : Nat} {index : UInt64}
  {gathered : OrderedSet Server.key}

theorem roundRobin_done (finished : ¬ idx < n) :
    roundRobin server n (turns + 1) idx index gathered = (index, .returned gathered) := by
  simp [roundRobin, finished]

theorem roundRobin_turn (unfinished : idx < n) {neighbor : Server}
    (met : server.neighbors[(server.turnAt index).toNat]? = some neighbor) :
    roundRobin server n (turns + 1) idx index gathered =
      if server.isOther neighbor then
        roundRobin server n turns (idx + 1) (server.turnAt index + 1)
          (gathered.insert neighbor).1
      else if server.neighbors.length ≤ 1 then
        (server.turnAt index + 1, .returned gathered)
      else roundRobin server n turns idx (server.turnAt index + 1) gathered := by
  have found := SwimServer.getNeighborByIndex_of_met met
  simp only [SwimServer.turnAt] at found ⊢
  simp only [roundRobin, unfinished, if_true, found, SwimServer.isOther,
    SwimServer.length_neighbors]
  cases neighbor.same server.self <;> simp

theorem toNat_turnAt_succ (addressable : server.Addressable)
    (nonempty : 0 < server.neighbors.length) (index : UInt64) :
    (server.turnAt index + 1).toNat = (server.turnAt index).toNat + 1 := by
  have inside := SwimServer.turnAt_lt addressable nonempty index
  unfold SwimServer.Addressable at addressable
  rw [SwimServer.length_neighbors] at inside
  rw [UInt64.toNat_add, UInt64.toNat_one, Nat.mod_eq_of_lt (by omega)]

theorem othersBefore_of_other (addressable : server.Addressable) {neighbor : Server}
    (met : server.neighbors[(server.turnAt index).toNat]? = some neighbor)
    (other : server.isOther neighbor = true) :
    server.others[server.othersBefore index % server.others.length]? = some neighbor ∧
      server.othersBefore (server.turnAt index + 1) ≡ server.othersBefore index + 1
        [MOD server.others.length] := by
  have nonempty : 0 < server.neighbors.length :=
    Nat.zero_lt_of_lt (List.getElem?_eq_some_iff.mp met).1
  have same := SwimServer.othersBefore_turnAt addressable nonempty index
  have ranked : server.others[server.othersBefore (server.turnAt index)]? =
      some neighbor := getElem?_rank met other
  constructor
  · rw [← same, Nat.mod_eq_of_lt (List.getElem?_eq_some_iff.mp ranked).1]
    exact ranked
  · rw [SwimServer.othersBefore, toNat_turnAt_succ addressable nonempty index, rank_succ met,
      if_pos other]
    exact same.add_right 1

theorem othersBefore_of_self (addressable : server.Addressable) {neighbor : Server}
    (met : server.neighbors[(server.turnAt index).toNat]? = some neighbor)
    (isSelf : server.isOther neighbor = false) :
    server.othersBefore (server.turnAt index + 1) ≡ server.othersBefore index
      [MOD server.others.length] := by
  have nonempty : 0 < server.neighbors.length :=
    Nat.zero_lt_of_lt (List.getElem?_eq_some_iff.mp met).1
  rw [SwimServer.othersBefore, toNat_turnAt_succ addressable nonempty index, rank_succ met,
    isSelf]
  exact SwimServer.othersBefore_turnAt addressable nonempty index

theorem several_of_met_self {neighbor : Server} (met : neighbor ∈ server.neighbors)
    (isSelf : server.isOther neighbor = false) (someOther : server.others ≠ []) :
    1 < server.neighbors.length := by
  rcases List.exists_mem_of_ne_nil _ someOther with ⟨other, member⟩
  rw [SwimServer.mem_others] at member
  rcases List.getElem?_of_mem met with ⟨here, foundHere⟩
  rcases List.getElem?_of_mem member.1 with ⟨there, foundThere⟩
  have different : here ≠ there := by
    rintro rfl
    obtain rfl := Option.some.inj (foundHere.symm.trans foundThere)
    rw [member.2] at isSelf
    cases isSelf
  have hereInside := (List.getElem?_eq_some_iff.mp foundHere).1
  have thereInside := (List.getElem?_eq_some_iff.mp foundThere).1
  omega

def Gathers (server : SwimServer) (n : Int) (turns : Nat) (idx : Int) (index : UInt64)
    (gathered : OrderedSet Server.key) : Prop :=
  ∃ next, roundRobin server n turns idx index gathered =
      (next, .returned (gathered.insertAll
        (cyclicSlice server.others (server.othersBefore index) (n - idx).toNat))) ∧
    server.othersBefore next ≡ server.othersBefore index + (n - idx).toNat
      [MOD server.others.length]

theorem Gathers.done (finished : ¬ idx < n) :
    Gathers server n (turns + 1) idx index gathered := by
  have nothingLeft : (n - idx).toNat = 0 := by omega
  refine ⟨index, ?_, ?_⟩
  · rw [roundRobin_done finished, nothingLeft]
    rfl
  · rw [nothingLeft]
    rfl

theorem Gathers.other (addressable : server.Addressable) (unfinished : idx < n)
    {neighbor : Server}
    (met : server.neighbors[(server.turnAt index).toNat]? = some neighbor)
    (other : server.isOther neighbor = true)
    (rest : Gathers server n turns (idx + 1) (server.turnAt index + 1)
      (gathered.insert neighbor).1) :
    Gathers server n (turns + 1) idx index gathered := by
  have one : (n - idx).toNat = 1 + (n - (idx + 1)).toNat := by omega
  rcases othersBefore_of_other addressable met other with ⟨ranked, passes⟩
  rcases rest with ⟨next, result, reached⟩
  refine ⟨next, ?_, ?_⟩
  · rw [roundRobin_turn unfinished met, if_pos other, result, one, cyclicSlice_add,
      cyclicSlice_one ranked, cyclicSlice_congr passes]
    rfl
  · rw [one, ← Nat.add_assoc]
    exact reached.trans (passes.add_right _)

theorem Gathers.self (addressable : server.Addressable) (unfinished : idx < n)
    (several : 1 < server.neighbors.length) {neighbor : Server}
    (met : server.neighbors[(server.turnAt index).toNat]? = some neighbor)
    (isSelf : server.isOther neighbor = false)
    (rest : Gathers server n turns idx (server.turnAt index + 1) gathered) :
    Gathers server n (turns + 1) idx index gathered := by
  have passes := othersBefore_of_self addressable met isSelf
  rcases rest with ⟨next, result, reached⟩
  refine ⟨next, ?_, reached.trans (passes.add_right _)⟩
  rw [roundRobin_turn unfinished met, isSelf, if_neg Bool.false_ne_true,
    if_neg (Nat.not_le.mpr several), result, cyclicSlice_congr passes]

/-- The loop gathers the next so many of the others. It takes at most two turns for
each of them, and one more if the first turn falls on the server itself. -/
theorem roundRobin_gathers (addressable : server.Addressable)
    (someOther : server.others ≠ []) (n : Int) (turns : Nat) (idx : Int) (index : UInt64)
    (gathered : OrderedSet Server.key)
    (enough : ∀ neighbor,
      server.neighbors[(server.turnAt index).toNat]? = some neighbor →
        2 * (n - idx).toNat + (if server.isOther neighbor then 1 else 2) ≤ turns) :
    Gathers server n turns idx index gathered := by
  have nonempty : 0 < server.neighbors.length := by
    rw [List.length_pos_iff]
    intro empty
    exact someOther (by simp [SwimServer.others, empty])
  induction turns generalizing idx index gathered with
  | zero =>
      rcases SwimServer.exists_met addressable nonempty index with ⟨neighbor, met⟩
      have budget := enough neighbor met
      split at budget <;> omega
  | succ turns induction =>
      by_cases unfinished : idx < n
      case neg => exact .done unfinished
      rcases SwimServer.exists_met addressable nonempty index with ⟨neighbor, met⟩
      have budget := enough neighbor met
      cases other : server.isOther neighbor with
      | true =>
          rw [if_pos other] at budget
          apply Gathers.other addressable unfinished met other
          apply induction
          intro following _
          split <;> omega
      | false =>
          rw [if_neg (by simp [other])] at budget
          have several := several_of_met_self (List.mem_of_getElem? met) other someOther
          apply Gathers.self addressable unfinished several met other
          apply induction
          -- The next turn falls on another server, so that one turn less is needed.
          intro following metFollowing
          have follows := toNat_turnAt_succ addressable nonempty index
          rw [if_pos (SwimServer.meets_other_after_self addressable several met other
            follows metFollowing)]
          omega

theorem roundRobin_of_no_others (addressable : server.Addressable)
    (noOthers : server.others = []) (nonempty : 0 < server.neighbors.length) (n : Int)
    (turns : Nat) (index : UInt64) (gathered : OrderedSet Server.key) :
    ∃ next, roundRobin server n (turns + 1) 0 index gathered =
      (next, .returned gathered) := by
  by_cases unfinished : (0 : Int) < n
  case neg => exact ⟨index, roundRobin_done unfinished⟩
  have allSelf : ∀ neighbor ∈ server.neighbors, server.isOther neighbor = false := by
    intro neighbor member
    simpa using List.filter_eq_nil_iff.mp noOthers neighbor member
  have single : server.neighbors.length ≤ 1 := by
    have keys : server.neighbors.map Server.key =
        List.replicate server.neighbors.length server.self.key := by
      rw [List.eq_replicate_iff]
      refine ⟨by simp, ?_⟩
      simp only [List.mem_map, forall_exists_index, and_imp, forall_apply_eq_imp_iff₂]
      intro neighbor member
      simpa [SwimServer.isOther, Server.same_iff] using allSelf neighbor member
    rw [← List.nodup_replicate, ← keys]
    exact server.nodup_keys_neighbors
  rcases SwimServer.exists_met addressable nonempty index with ⟨neighbor, met⟩
  have isSelf := allSelf neighbor (List.mem_of_getElem? met)
  rw [roundRobin_turn unfinished met, isSelf]
  exact ⟨_, by rw [if_neg Bool.false_ne_true, if_pos single]⟩

end Loop

/-! ## One call -/

/-- How many turns count: `k` or the number of alive servers, if that is a 32-bit
number that is not negative when it is read as signed. -/
def turnsCounted (k : UInt32) (aliveSize : Nat) : Nat :=
  if min k.toNat (aliveSize % 2 ^ 32) < 2 ^ 31 then min k.toNat (aliveSize % 2 ^ 32) else 0

theorem turnsCounted_of_lt {aliveSize : Nat} (k : UInt32) (small : aliveSize < 2 ^ 31) :
    turnsCounted k aliveSize = min k.toNat aliveSize := by
  unfold turnsCounted
  split <;> omega

theorem toNat_neighborCount (k : UInt32) (aliveSize : Nat) :
    (neighborCount k aliveSize).toNat = turnsCounted k aliveSize := by
  have size : (UInt32.ofNat aliveSize).toNat = aliveSize % 2 ^ 32 := by simp
  have least : (if UInt32.ofNat aliveSize < k then UInt32.ofNat aliveSize else k).toNat =
      min k.toNat (aliveSize % 2 ^ 32) := by
    split <;> rename_i order <;> rw [UInt32.lt_iff_toNat_lt, size] at order <;> omega
  have bound := (if UInt32.ofNat aliveSize < k then UInt32.ofNat aliveSize else k).toNat_lt
  have signed (word : UInt32) : word.toInt32.toInt.toNat =
      if word.toNat < 2 ^ 31 then word.toNat else 0 := by
    have wordBound := word.toNat_lt
    have value : word.toInt32.toInt = if 2 * word.toNat < 2 ^ 32 then (word.toNat : Int)
        else (word.toNat : Int) - (2 ^ 32 : Nat) := word.toBitVec.toInt_eq_toNat_cond
    rw [value]
    split <;> split <;> omega
  rw [neighborCount, signed, least, turnsCounted]

namespace GossipFailureDetector

def meets (detector : GossipFailureDetector) (k : UInt32) : List Server :=
  cyclicSlice detector.server.others
    (detector.server.othersBefore detector.roundRobinIndex)
    (turnsCounted k detector.server.alive.toList.length)

def selected (detector : GossipFailureDetector) (k : UInt32) : OrderedSet Server.key :=
  OrderedSet.empty.insertAll (detector.meets k)

def GoesOn (detector : GossipFailureDetector) (k : UInt32) (index : UInt64) : Prop :=
  detector.server.others ≠ [] →
    detector.server.othersBefore index ≡
      detector.server.othersBefore detector.roundRobinIndex +
        turnsCounted k detector.server.alive.toList.length
      [MOD detector.server.others.length]

variable (detector : GossipFailureDetector)

theorem not_pos_neighborCount (k : UInt32)
    (empty : detector.server.alive.toList.length = 0) :
    ¬ 0 < neighborCount k detector.server.alive.toList.length := by
  have zero := toNat_neighborCount k detector.server.alive.toList.length
  rw [empty, turnsCounted, Nat.zero_mod, Nat.min_zero, if_pos (by omega)] at zero
  rw [empty]
  omega

theorem roundRobin_selects (addressable : detector.server.Addressable) (k : UInt32) :
    let n := neighborCount k detector.server.alive.toList.length
    ∃ index, roundRobin detector.server n (2 * n.toNat + 2) 0 detector.roundRobinIndex
        .empty = (index, .returned (detector.selected k)) ∧ detector.GoesOn k index := by
  intro n
  by_cases someOther : detector.server.others = []
  case pos =>
    have nothing : detector.selected k = .empty := by
      rw [selected, meets, someOther, cyclicSlice_nil, OrderedSet.insertAll_nil]
    rw [nothing]
    by_cases nonempty : 0 < detector.server.neighbors.length
    · rcases roundRobin_of_no_others addressable someOther nonempty n (2 * n.toNat + 1)
        detector.roundRobinIndex .empty with ⟨index, result⟩
      exact ⟨index, result, fun other => absurd someOther other⟩
    · rw [SwimServer.length_neighbors] at nonempty
      have none := detector.not_pos_neighborCount k (by omega)
      exact ⟨_, roundRobin_done none, fun other => absurd someOther other⟩
  case neg =>
    have enough : ∀ neighbor, detector.server.neighbors[(detector.server.turnAt
        detector.roundRobinIndex).toNat]? = some neighbor →
        2 * (n - 0).toNat + (if detector.server.isOther neighbor then 1 else 2) ≤
          2 * n.toNat + 2 := by
      intro neighbor _
      rw [Int.sub_zero]
      split <;> omega
    rcases roundRobin_gathers addressable someOther n _ 0 detector.roundRobinIndex .empty
      enough with ⟨index, result, reached⟩
    rw [Int.sub_zero] at result reached
    refine ⟨index, ?_, fun _ => ?_⟩
    · rw [result, selected, meets, toNat_neighborCount]
    · rw [← toNat_neighborCount]
      exact reached

theorem getUniqueNeighbors_returns (addressable : detector.server.Addressable)
    (k : UInt32) :
    ∃ index, detector.getUniqueNeighbors k =
        ({ detector with roundRobinIndex := index },
          .returned (detector.selected k).toList) ∧ detector.GoesOn k index := by
  rcases detector.roundRobin_selects addressable k with ⟨index, result, goesOn⟩
  exact ⟨index, getUniqueNeighbors_eq rfl result, goesOn⟩

theorem mem_selected {k : UInt32} {other : Server} :
    other ∈ (detector.selected k).toList ↔ other ∈ detector.meets k := by
  apply OrderedSet.mem_insertAll_empty
  intro left leftMember right rightMember same
  have neighbor {server : Server} (member : server ∈ detector.meets k) :
      server ∈ detector.server.neighbors :=
    (SwimServer.mem_others.mp (mem_of_mem_cyclicSlice member)).1
  exact SwimServer.eq_of_key_eq (neighbor leftMember) (neighbor rightMember) same

theorem mem_others_of_selected {k : UInt32} {other : Server}
    (member : other ∈ (detector.selected k).toList) : other ∈ detector.server.others :=
  mem_of_mem_cyclicSlice (detector.mem_selected.mp member)

theorem length_selected (k : UInt32) :
    (detector.selected k).toList.length =
      min (turnsCounted k detector.server.alive.toList.length)
        detector.server.others.length := by
  apply length_of_mem_iff_mem_cyclicSlice detector.server.nodup_others
  · exact List.Nodup.of_map _ (detector.selected k).nodup_keys
  · exact fun value => detector.mem_selected

theorem length_others_le (server : SwimServer) :
    server.others.length ≤ server.alive.toList.length := by
  rw [← SwimServer.length_neighbors]
  exact List.length_filter_le _ _

/-- A call on a set of fewer than `2 ^ 31` servers returns `k` of the others, or all of
them, wherever it starts. -/
theorem getUniqueNeighbors_exact (k : UInt32)
    (small : detector.server.alive.toList.length < 2 ^ 31) :
    ∃ index others, detector.getUniqueNeighbors k =
        ({ detector with roundRobinIndex := index }, .returned others) ∧
      others.length = min k.toNat (detector.server.alive.toList.filter fun record =>
        !record.server.same detector.server.self).length ∧
      (others.map Server.key).Nodup ∧
      ∀ other ∈ others, (∃ record ∈ detector.server.alive.toList, record.server = other) ∧
        other.same detector.server.self = false := by
  have addressable : detector.server.Addressable := by
    unfold SwimServer.Addressable
    omega
  have count : (detector.server.alive.toList.filter fun record =>
      !record.server.same detector.server.self).length = detector.server.others.length := by
    rw [SwimServer.others, SwimServer.neighbors, List.filter_map, List.length_map]
    rfl
  rcases detector.getUniqueNeighbors_returns addressable k with ⟨index, result, _⟩
  refine ⟨index, _, result, ?_, (detector.selected k).nodup_keys, ?_⟩
  · have bound := length_others_le detector.server
    rw [length_selected, turnsCounted_of_lt k small, count]
    omega
  · intro other member
    have listed := SwimServer.mem_others.mp (detector.mem_others_of_selected member)
    refine ⟨List.mem_map.mp listed.1, ?_⟩
    simpa [SwimServer.isOther] using listed.2

theorem getUniqueNeighbors_exact_with_self :
    let self : Server := { hostname := "node", port := 9000 }
    let server := serverMachine.run
      (.create ⟨"node", fun _ => "10.0.0.1"⟩ "" 9000 true)
      [.addAlive self 1, .addAlive { hostname := "peer", port := 9001 } 2,
        .addAlive { hostname := "alpha", port := 9002 } 3]
    let detector : GossipFailureDetector :=
      { server := server, gracePeriod := 1000, hostName := "", numReports := 6,
        numForwards := 3, roundRobinIndex := 77 }
    ∃ index others, detector.getUniqueNeighbors 6 =
        ({ detector with roundRobinIndex := index }, .returned others) ∧
      others.length = 2 := by
  intro self server detector
  rcases detector.getUniqueNeighbors_exact 6 (by decide) with
    ⟨index, others, result, length, _, _⟩
  exact ⟨index, others, result, length.trans (by decide)⟩

/-! ## Several calls -/

def selections (detector : GossipFailureDetector) : List UInt32 → List (Outcome (List Server))
  | [] => []
  | k :: ks =>
      let (detector, outcome) := detector.getUniqueNeighbors k
      outcome :: detector.selections ks

/-- Every other alive server is returned by one of the calls. -/
def Covers (detector : GossipFailureDetector) (ks : List UInt32) : Prop :=
  ∀ other ∈ detector.server.others, ∃ selection,
    .returned selection ∈ detector.selections ks ∧ other ∈ selection

theorem returned_iff_mem_cyclicSlice (addressable : detector.server.Addressable)
    (ks : List UInt32) (other : Server) :
    (∃ selection, .returned selection ∈ detector.selections ks ∧ other ∈ selection) ↔
      other ∈ cyclicSlice detector.server.others
        (detector.server.othersBefore detector.roundRobinIndex)
        (ks.map fun k => turnsCounted k detector.server.alive.toList.length).sum := by
  induction ks generalizing detector with
  | nil => simp [selections]
  | cons k ks induction =>
      rcases detector.getUniqueNeighbors_returns addressable k with ⟨index, result, goesOn⟩
      have later := induction { detector with roundRobinIndex := index } addressable
      have rest : cyclicSlice detector.server.others (detector.server.othersBefore index)
          (ks.map fun k => turnsCounted k detector.server.alive.toList.length).sum =
          cyclicSlice detector.server.others
            (detector.server.othersBefore detector.roundRobinIndex +
              turnsCounted k detector.server.alive.toList.length)
            (ks.map fun k => turnsCounted k detector.server.alive.toList.length).sum := by
        by_cases someOther : detector.server.others = []
        · simp [someOther]
        · exact cyclicSlice_congr (goesOn someOther) _
      rw [List.map_cons, List.sum_cons, cyclicSlice_add, List.mem_append, ← rest, ← later,
        ← meets, ← mem_selected]
      simp only [selections, result, List.mem_cons, Outcome.returned.injEq, or_and_right,
        exists_or, exists_eq_left]

theorem covers_iff (addressable : detector.server.Addressable) (ks : List UInt32) :
    detector.Covers ks ↔ detector.server.others.length ≤
      (ks.map fun k => turnsCounted k detector.server.alive.toList.length).sum := by
  rw [← forall_mem_cyclicSlice_iff detector.server.nodup_others]
  exact forall₂_congr fun other _ =>
    detector.returned_iff_mem_cyclicSlice addressable ks other

/-- Calls that ask for as many servers as there are others cover all of them exactly
when as many turns count, which is so on a set of fewer than `2 ^ 31` servers. -/
theorem round_robin_covers_iff (addressable : detector.server.Addressable)
    (ks : List UInt32)
    (asked : detector.server.others.length ≤
      (ks.map fun k => min k.toNat detector.server.alive.toList.length).sum) :
    (detector.Covers ks ↔ detector.server.others.length ≤
        (ks.map fun k => turnsCounted k detector.server.alive.toList.length).sum) ∧
      (detector.server.alive.toList.length < 2 ^ 31 → detector.Covers ks) := by
  have exactly := detector.covers_iff addressable ks
  refine ⟨exactly, fun small => ?_⟩
  rw [exactly]
  simpa only [turnsCounted_of_lt _ small] using asked

theorem round_robin_covers_with_self :
    let self : Server := { hostname := "node", port := 9000 }
    let server := serverMachine.run
      (.create ⟨"node", fun _ => "10.0.0.1"⟩ "" 9000 true)
      [.addAlive self 1, .addAlive { hostname := "peer", port := 9001 } 2,
        .addAlive { hostname := "alpha", port := 9002 } 3,
        .addAlive { hostname := "omega", port := 9003 } 4]
    let detector : GossipFailureDetector :=
      { server := server, gracePeriod := 1000, hostName := "", numReports := 6,
        numForwards := 3, roundRobinIndex := 2 }
    server.others.length = 3 ∧ detector.Covers [2, 1] := by
  intro self server detector
  refine ⟨by decide, ?_⟩
  exact (detector.round_robin_covers_iff (by decide) [2, 1] (by decide)).2 (by decide)

end GossipFailureDetector

/-! ## Very many servers -/

def crowdMember (number : Nat) : Server :=
  if number = 0 then { hostname := "other", port := 1 }
  else { hostname := "peer", port := number }

def crowd (size : Nat) : List ServerOperation :=
  (List.range size).map fun number => .addAlive (crowdMember number) 0

@[irreducible] def crowded (size : Nat) : SwimServer :=
  serverMachine.run (.create ⟨"node", fun _ => "10.0.0.1"⟩ "" 9000 true) (crowd size)

theorem crowdMember_port (number : Nat) : (crowdMember number).port ≠ 0 := by
  unfold crowdMember
  split
  · simp
  · simpa using ‹_›

theorem crowdMember_injective {first second : Nat}
    (same : (crowdMember first).key = (crowdMember second).key) : first = second := by
  by_cases firstZero : first = 0 <;> by_cases secondZero : second = 0 <;>
    simp [crowdMember, Server.key, firstZero, secondZero] at same ⊢
  omega

theorem contains_addAlive (server : SwimServer) {subject : Server}
    (port : subject.port ≠ 0) (timestamp : UInt64) (key : Key) :
    (server.addAlive subject timestamp).1.alive.contains key =
      if subject.key = key then true else server.alive.contains key := by
  rw [OrderedSet.contains, ← SwimServer.entry_alive, SwimServer.entry_addAlive]
  split
  · simp [Entry.offerAlive, port]
  · rfl

theorem crowded_succ (size : Nat) :
    crowded (size + 1) = ((crowded size).addAlive (crowdMember size) 0).1 := by
  rw [crowded, crowded, crowd, List.range_succ, List.map_append, Machine.run_append]
  rfl

theorem contains_crowded (size : Nat) (key : Key) :
    (crowded size).alive.contains key = true ↔
      key ∈ (List.range size).map fun number => (crowdMember number).key := by
  induction size with
  | zero => simp [crowded, crowd, SwimServer.create, OrderedSet.contains]
  | succ size induction =>
      rw [crowded_succ, contains_addAlive _ (crowdMember_port size), List.range_succ,
        List.map_append, List.mem_append, List.map_singleton, List.mem_singleton,
        ← induction, eq_comm]
      split
      next equal => simp [equal]
      next different => simp [Ne.symm different]

theorem length_crowded (size : Nat) : (crowded size).alive.toList.length = size := by
  have nodup : ((List.range size).map fun number => (crowdMember number).key).Nodup :=
    List.nodup_range.map fun first second => crowdMember_injective
  have perm := (List.perm_ext_iff_of_nodup (crowded size).alive.nodup_keys nodup).mpr
    fun key => OrderedSet.mem_keys_iff.trans (contains_crowded size key)
  simpa using perm.length_eq

theorem crowdMember_foreign (number size : Nat) :
    (crowdMember number).key ≠ (crowded size).self.key := by
  rw [crowded, SwimServer.run_toSettings]
  by_cases zero : number = 0 <;>
    simp [crowdMember, zero, Server.key, SwimServer.create, Settings.self]

theorem length_others_crowded (size : Nat) : (crowded size).others.length = size := by
  have all : (crowded size).others = (crowded size).neighbors := by
    apply List.filter_eq_self.mpr
    intro neighbor member
    rcases List.mem_map.mp member with ⟨record, stored, rfl⟩
    have known := OrderedSet.contains_of_mem stored
    rcases List.mem_map.mp ((contains_crowded size _).mp known) with ⟨number, _, same⟩
    rw [SwimServer.isOther_iff]
    intro isSelf
    exact crowdMember_foreign number size (same.trans isSelf)
  rw [all, SwimServer.length_neighbors, length_crowded]

theorem turnsCounted_crowded :
    turnsCounted 2147483648 (crowded (2 ^ 31)).alive.toList.length = 0 := by
  rw [length_crowded]
  decide

theorem addressable_crowded : (crowded (2 ^ 31)).Addressable := by
  rw [SwimServer.Addressable, length_crowded]
  decide

theorem not_covers_of_crowded {detector : GossipFailureDetector}
    (server : detector.server = crowded (2 ^ 31)) : ¬ detector.Covers [2147483648] := by
  have addressable : detector.server.Addressable := server ▸ addressable_crowded
  rw [detector.covers_iff addressable, server, length_others_crowded, List.map_singleton,
    turnsCounted_crowded]
  decide

/-- `2 ^ 31` servers are alive, and a call that asks for all of them returns none: their
number is negative as an `int`. -/
theorem all_of_crowd_never_returned :
    let detector : GossipFailureDetector :=
      { server := crowded (2 ^ 31), gracePeriod := 1000, hostName := "", numReports := 6,
        numForwards := 3 }
    (crowded (2 ^ 31)).Addressable ∧ (crowded (2 ^ 31)).others.length = 2 ^ 31 ∧
      ([2147483648].map fun k : UInt32 =>
        min k.toNat (crowded (2 ^ 31)).alive.toList.length).sum = 2 ^ 31 ∧
      ¬ detector.Covers [2147483648] := by
  intro detector
  refine ⟨addressable_crowded, length_others_crowded _, ?_, not_covers_of_crowded rfl⟩
  rw [length_crowded]
  decide

end Gossip
