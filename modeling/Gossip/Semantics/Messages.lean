import Gossip.Foundation.OrderedSet
import Mathlib.Data.String.Basic
import Mathlib.Data.Prod.Lex
import Mathlib.Order.Lex

/-! # Protocol messages

The messages of `swim.proto` and the ordering of servers and of their records.
A singular sub-message that is only read through its accessor is a plain field,
because the accessor of an absent one returns the default message. The three
sub-messages of an envelope that are taken by `release_*` are optional. -/

namespace Gossip

open Foundation

/-! ## Servers -/

/-- A server is identified by its host name and port, in this order. -/
abbrev Key := String ×ₗ Int

structure Server where
  hostname : String := ""
  port : Int := 0
  ipAddr : Option String := none
  incarnation : UInt64 := 0
deriving DecidableEq, Repr

namespace Server

def key (server : Server) : Key := toLex (server.hostname, server.port)

def less (left right : Server) : Bool :=
  if left.hostname = right.hostname then left.port < right.port
  else left.hostname < right.hostname

/-- `operator==` on servers. -/
def same (left right : Server) : Bool := !less left right && !less right left

theorem less_iff (left right : Server) :
    left.less right = true ↔ left.key < right.key := by
  simp only [less, key, Prod.Lex.toLex_lt_toLex]
  by_cases equal : left.hostname = right.hostname
  · simp [equal]
  · simp [equal]

@[simp] theorem same_iff (left right : Server) :
    left.same right = true ↔ left.key = right.key := by
  simp only [same, Bool.and_eq_true, Bool.not_eq_true', ← Bool.not_eq_true, less_iff,
    not_lt]
  exact ⟨fun both => le_antisymm both.2 both.1, fun equal => by simp [equal]⟩

theorem port_eq_of_key {left right : Server} (equal : left.key = right.key) :
    left.port = right.port :=
  congrArg (fun key => (ofLex key).2) equal

end Server

def Key.port (key : Key) : Int := (ofLex key).2

@[simp] theorem Server.key_port (server : Server) : Key.port server.key = server.port :=
  rfl

/-! ## Records -/

/-- `ServerRecord`: something happened to `server` at `timestamp`, by the
Lamport clock at `lamportTime`. -/
structure ServerRecord where
  server : Server := {}
  timestamp : UInt64 := 0
  lamportTime : UInt64 := 0
deriving DecidableEq, Repr

namespace ServerRecord

def key (record : ServerRecord) : Key := record.server.key

@[simp] theorem server_key (record : ServerRecord) : record.server.key = record.key :=
  rfl

theorem port_key (record : ServerRecord) : Key.port record.key = record.server.port :=
  rfl

def less (left right : ServerRecord) : Bool := left.server.less right.server

theorem less_iff (left right : ServerRecord) :
    left.less right = true ↔ left.key < right.key :=
  left.server.less_iff right.server

end ServerRecord

/-- `ServerRecordsSet`, ordered by `ServerRecordPtrLess`. -/
abbrev ServerRecordsSet := OrderedSet ServerRecord.key

/-- `MakeRecord`. The incarnation of `server` is not copied, and `seconds` is
the system clock in whole seconds. -/
def makeRecord (server : Server) (seconds : UInt64) : ServerRecord where
  server :=
    { hostname := server.hostname
      port := server.port
      ipAddr := some (server.ipAddr.getD "") }
  timestamp := seconds

@[simp] theorem makeRecord_key (server : Server) (seconds : UInt64) :
    (makeRecord server seconds).key = server.key := rfl

/-! ## Reports and envelopes -/

structure SwimReport where
  sender : Server := {}
  alive : List ServerRecord := []
  suspected : List ServerRecord := []
deriving DecidableEq, Repr

/-- `SwimEnvelope.Type`. The enumeration is open: a peer can send a number that
has no name here. -/
inductive EnvelopeType
  | statusUnknown
  | statusUpdate
  | statusReport
  | statusRequest
  | statusBroadcast
  | unrecognized (value : Int)
deriving DecidableEq, Repr

structure SwimEnvelope where
  type : EnvelopeType := .statusUnknown
  sender : Option Server := none
  lamportTime : UInt64 := 0
  report : Option SwimReport := none
  destinationServer : Option Server := none
deriving DecidableEq, Repr

end Gossip
