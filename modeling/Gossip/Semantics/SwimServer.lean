import Gossip.Semantics.SwimClient

/-! # The server

The state of a `SwimServer` and the operations on its two sets. What leaves the
server is recorded in the state too: the invocations of the status callback and
the envelopes its clients post, both oldest first. -/

namespace Gossip

open Foundation

inductive ServerStatus
  | unknown
  | alive
  | suspect
  | removed
deriving DecidableEq, Repr

inductive RemoveType
  | alive
  | evicted
deriving DecidableEq, Repr

/-- One invocation of the status callback. `record` is the pointer it is given,
`none` when that is null. `subject` is not passed to the callback: it names the
server the operation was about. -/
structure Callback where
  subject : Key
  record : Option ServerRecord
  status : ServerStatus
deriving DecidableEq

inductive EmptySet
  | emptySet
deriving DecidableEq, Repr

/-- What the constructor fixes. The incarnation is kept here because nothing
ever changes it. -/
structure Settings where
  host : Host
  incarnation : UInt64 := 0
  port : UInt16
  statusCb : Bool
  hostName : String

def Settings.self (settings : Settings) : Server where
  port := settings.port.toNat
  hostname := settings.host.hostname
  ipAddr := some (settings.host.inetAddress "")

structure SwimServer extends Settings where
  lamportTime : UInt64 := 0
  alive : ServerRecordsSet := .empty
  suspected : ServerRecordsSet := .empty
  callbacks : List Callback := []
  postings : List Posting := []

namespace SwimServer

def create (host : Host) (hostName : String) (port : UInt16) (statusCb : Bool) :
    SwimServer where
  host := host
  port := port
  statusCb := statusCb
  hostName := if hostName = "" then host.hostname else hostName

def updateLamportTime (server : SwimServer) (time : UInt64) : SwimServer :=
  { server with
    lamportTime :=
      (if server.lamportTime < time then time else server.lamportTime) + 1 }

/-- A client of this server for one exchange with `dest`. -/
def client (server : SwimServer) (dest : Server) : SwimClient :=
  .create server.host server.hostName server.lamportTime dest server.port.toNat

def post (server : SwimServer) (posting : Posting) : SwimServer :=
  { server with postings := server.postings ++ [posting] }

def notify (server : SwimServer) (callback : Callback) : SwimServer :=
  if server.statusCb then
    { server with callbacks := server.callbacks ++ [callback] }
  else server

/-! ## The two sets -/

def removeSuspected (server : SwimServer) (removed : Server)
    (removeType : RemoveType) (seconds : UInt64) : SwimServer :=
  let found := server.suspected.contains removed.key
  let server := { server with suspected := server.suspected.erase removed.key }
  if found && removeType = .evicted then
    server.notify
      { subject := removed.key
        record := some (makeRecord removed seconds)
        status := .removed }
  else server

/-- The record that `AddAlive` and `ReportSuspected` build: the timestamp is the
caller's, the Lamport time is the server's own. -/
def stampedRecord (lamportTime : UInt64) (subject : Server) (timestamp : UInt64) :
    ServerRecord :=
  { makeRecord subject timestamp with lamportTime := lamportTime }

@[simp] theorem stampedRecord_key (lamportTime : UInt64) (subject : Server)
    (timestamp : UInt64) :
    (stampedRecord lamportTime subject timestamp).key = subject.key := rfl

/-- The refresh that `AddAlive` makes to a record that was there already. -/
def refreshed (timestamp lamportTime : UInt64) (record : ServerRecord) :
    ServerRecord :=
  { record with timestamp := timestamp, lamportTime := lamportTime }

@[simp] theorem refreshed_key (timestamp lamportTime : UInt64) (record : ServerRecord) :
    (refreshed timestamp lamportTime record).key = record.key := rfl

def addAlive (server : SwimServer) (subject : Server) (timestamp : UInt64) :
    SwimServer × Bool :=
  if subject.port = 0 then (server, false)
  else
    let server := server.removeSuspected subject .alive timestamp
    let record := stampedRecord server.lamportTime subject timestamp
    let (alive, inserted) := server.alive.insert record
    if inserted then
      let server := { server with alive := alive }
      (server.notify
        { subject := subject.key, record := some record, status := .alive }, true)
    else
      -- The server was known to be healthy: only the record's times move.
      ({ server with
          alive := alive.modify subject.key
            (refreshed timestamp server.lamportTime) (refreshed_key timestamp _) },
        false)

def reportSuspected (server : SwimServer) (subject : Server) (timestamp : UInt64) :
    SwimServer × Bool :=
  if subject.port = 0 then (server, false)
  else if subject.same server.self then ((server.addAlive subject timestamp).1, false)
  else
    let record := stampedRecord server.lamportTime subject timestamp
    let server := { server with alive := server.alive.erase subject.key }
    let (suspected, inserted, pointer) := server.suspected.insertMoved record
    let server := { server with suspected := suspected }
    if inserted then
      -- The record was moved into the set, so this is the moved-from pointer.
      (server.notify
        { subject := subject.key, record := pointer, status := .suspect }, true)
    else (server, false)

/-- The end of both loops of `OnReport`: the record that is stored is extracted
and inserted again with the incarnation of the incoming one, when that is
larger. -/
def raiseIncarnation (set : ServerRecordsSet) (record : ServerRecord) :
    ServerRecordsSet :=
  match set.find? record.key with
  | some found =>
      if found.server.incarnation < record.server.incarnation then
        ((set.erase found.key).insert
          { found with
            server :=
              { found.server with incarnation := record.server.incarnation } }).1
      else set
  | none => set

/-! ## Handlers -/

/-- One turn of the first loop of `OnReport`. -/
def onAliveRecord (server : SwimServer) (record : ServerRecord) : SwimServer :=
  if record.server.same server.self then server
  else if (server.suspected.find? record.key).any
      fun found => record.lamportTime < found.lamportTime then server
  else
    let server := (server.addAlive record.server record.timestamp).1
    { server with alive := raiseIncarnation server.alive record }

/-- One turn of the second loop of `OnReport`. -/
def onSuspectedRecord (reportSender : Server) (server : SwimServer)
    (record : ServerRecord) : SwimServer :=
  if record.server.same server.self then
    server.post (server.client reportSender).ping.2
  else if (server.alive.find? record.key).any
      fun found => record.lamportTime < found.lamportTime then server
  else
    let server := (server.reportSuspected record.server record.timestamp).1
    { server with suspected := raiseIncarnation server.suspected record }

def onReport (server : SwimServer) (sender : Server) (report : SwimReport)
    (now : UInt64) : SwimServer :=
  let server := (server.addAlive sender now).1
  let server := report.alive.foldl onAliveRecord server
  report.suspected.foldl (onSuspectedRecord report.sender) server

def onUpdate (server : SwimServer) (client : Server) (now : UInt64) : SwimServer :=
  let server := (server.addAlive client now).1
  { server with suspected := server.suspected.erase client.key }

/-- The part of `OnForwardRequest` that runs before the handler returns. -/
def onForwardRequest (server : SwimServer) (sender : Server) (now : UInt64) :
    SwimServer :=
  (server.addAlive sender now).1

/-- The detached thread of `OnForwardRequest`. `answered` is what `Send`
returned, `seconds` the system clock read by `MakeRecord` and `now` the time of
the report. -/
def forwardPing (server : SwimServer) (sender destination : Server)
    (seconds : UInt64) (answered : Bool) (now : UInt64) : SwimServer :=
  let report : SwimReport :=
    { sender := sender, suspected := [makeRecord destination seconds] }
  let server := server.post ((server.client destination).send report).2
  if answered then server else (server.reportSuspected destination now).1

/-! ## Looking at the sets -/

def getNeighborByIndex (server : SwimServer) (index : Nat) :
    Except EmptySet Server :=
  match server.alive.toList with
  | [] => .error .emptySet
  | first :: rest =>
      .ok ((first :: rest).getD (if (first :: rest).length ≤ index then 0 else index)
        first).server

def getRandom (set : ServerRecordsSet) (draw : Nat) : Except EmptySet Server :=
  match set.toList with
  | [] => .error .emptySet
  | first :: rest =>
      .ok ((first :: rest).getD (draw % (first :: rest).length) first).server

def getRandomSuspect (server : SwimServer) (draw : Nat) : Except EmptySet Server :=
  getRandom server.suspected draw

def getRandomNeighbor (server : SwimServer) (draw : Nat) : Except EmptySet Server :=
  getRandom server.alive draw

end SwimServer

end Gossip
