import Gossip.Semantics.Messages

/-! # The client

A `SwimClient` is built for one exchange: it carries its own copy of the
Lamport clock and the identity under which it introduces itself. Whether the
destination answers in time is decided by the network, so the callers of a
client take the answer as an input and only the posted envelope is computed
here. -/

namespace Gossip

/-- What the operating system says about the machine: `utils::Hostname` and
`utils::InetAddress`. Lookups are taken to succeed: after one that fails, the source frees
a pointer that nobody has set. -/
structure Host where
  hostname : String
  inetAddress : String → String

structure Posting where
  dest : Server
  envelope : SwimEnvelope
deriving DecidableEq, Repr

structure SwimClient where
  lamportTime : UInt64
  dest : Server
  self : Server
deriving DecidableEq, Repr

namespace SwimClient

def create (host : Host) (hostname : String) (time : UInt64) (dest : Server)
    (selfPort : Int) : SwimClient :=
  let hname := if hostname = "" then host.hostname else hostname
  { lamportTime := time
    dest := dest
    self :=
      { hostname := hname
        port := selfPort
        ipAddr := some (host.inetAddress hname) } }

/-- `destinationUri`, of a client for `dest`. -/
def destinationUri (dest : Server) : String :=
  "tcp://" ++ dest.hostname ++ ":" ++ toString dest.port

/-- The envelope is handed to a thread that connects to `destinationUri` and sends it. What
`connect` throws there is not caught by anybody; see `SwimServer.connections`. -/
def postMessage (client : SwimClient) (envelope : SwimEnvelope) :
    SwimClient × Posting :=
  let client := { client with lamportTime := client.lamportTime + 1 }
  (client,
    { dest := client.dest
      envelope :=
        { envelope with
          sender := some client.self
          lamportTime := client.lamportTime } })

def ping (client : SwimClient) : SwimClient × Posting :=
  client.postMessage { type := .statusUpdate }

def send (client : SwimClient) (report : SwimReport) : SwimClient × Posting :=
  client.postMessage { type := .statusReport, report := some report }

def requestPing (client : SwimClient) (other : Server) : SwimClient × Posting :=
  client.postMessage { type := .statusRequest, destinationServer := some other }

end SwimClient

def maxAllowedDefault : UInt32 := 256

/-- A client with the number of records that it is to send at most. The number is stored
and returned, and none of the methods of the client looks at it. -/
structure LimitedClient extends SwimClient where
  maxAllowedReports : UInt32 := maxAllowedDefault

def LimitedClient.setMaxAllowedReports (client : LimitedClient) (maxAllowedReports : UInt32) :
    LimitedClient :=
  { client with maxAllowedReports := maxAllowedReports }

end Gossip
