import Gossip.Foundation.OrderedSet
import Gossip.Foundation.Execution
import Gossip.Foundation.Changes
import Gossip.Foundation.BudgetedPrefix
import Gossip.Foundation.BudgetedSelection
import Gossip.Foundation.CyclicWalk
import Gossip.Foundation.Interleaving
import Gossip.Foundation.Locking
import Gossip.Foundation.Completion
import Gossip.Foundation.Noninterference
import Gossip.Foundation.Occurrence
import Gossip.Foundation.Regex
import Gossip.Foundation.Dissemination
import Gossip.Foundation.Accounting
import Gossip.Semantics.Messages
import Gossip.Semantics.SwimClient
import Gossip.Semantics.SwimServer
import Gossip.Semantics.Report
import Gossip.Semantics.Detector
import Gossip.Semantics.Operations
import Gossip.Semantics.Listening
import Gossip.Semantics.Entry
import Gossip.Semantics.Primitives
import Gossip.Semantics.Threads
import Gossip.Semantics.Actions
import Gossip.Semantics.CriticalSections
import Gossip.Semantics.Collector
import Gossip.Semantics.Preparing
import Gossip.Semantics.Cluster
import Gossip.Semantics.Views
import Gossip.Semantics.Exchanges
import Gossip.Semantics.Lifecycle
import Gossip.Semantics.Reporting
import Gossip.Semantics.Circle
import Gossip.Semantics.Utils
import Gossip.Semantics.ApiServer
import Gossip.Semantics.Process
import Gossip.Contracts.Membership
import Gossip.Contracts.StatusCallbacks
import Gossip.Contracts.CallbackRecords
import Gossip.Contracts.NewestInformation
import Gossip.Contracts.Eviction
import Gossip.Contracts.Identity
import Gossip.Contracts.Dispatch
import Gossip.Contracts.Interleavings
import Gossip.Contracts.Atomicity
import Gossip.Contracts.Serialization
import Gossip.Contracts.Timeliness
import Gossip.Contracts.Relaying
import Gossip.Contracts.Independence
import Gossip.Contracts.LamportClock
import Gossip.Contracts.Hearing
import Gossip.Contracts.ClockCondition
import Gossip.Contracts.EvictionTimer
import Gossip.Contracts.Recovery
import Gossip.Contracts.Incarnations
import Gossip.Contracts.PrematureEviction
import Gossip.Contracts.Stopping
import Gossip.Contracts.Lifetimes
import Gossip.Contracts.Joining
import Gossip.Contracts.StaleRecords
import Gossip.Contracts.Redelivery
import Gossip.Contracts.LastSeen
import Gossip.Contracts.ConsistentReports
import Gossip.Contracts.ReportSelection
import Gossip.Contracts.RoundRobin
import Gossip.Contracts.ReportRound
import Gossip.Contracts.ForwardRequests
import Gossip.Contracts.Detection
import Gossip.Contracts.EmptySets
import Gossip.Contracts.SelfGossip
import Gossip.Contracts.ReportSize
import Gossip.Contracts.Confinement
import Gossip.Contracts.ClosedCircle
import Gossip.Contracts.OpenCircle
import Gossip.Contracts.Convergence
import Gossip.Contracts.Traffic
import Gossip.Contracts.HttpRequests
import Gossip.Contracts.Processes
import Gossip.Contracts.Addresses
import Gossip.Contracts.Seeds
import Gossip.Contracts.Splitting
import Gossip.Contracts.Trimming
