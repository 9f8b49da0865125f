import Gossip.Semantics.Actions

/-! # Reports that are prepared while the sets change

`PrepareReport` copies the two sets in one critical section each. It changes
neither, so a call of it is no thread of the server but a reader beside them. -/

namespace Gossip

open Foundation SwimServer

/-- A call of `PrepareReport`, by the section that comes next, with the times that
`AddRecordsToBudget` is going to read. -/
inductive Preparation
  | copyAlive (aliveNow suspectedNow : UInt64)
  | copySuspected (report : SwimReport) (suspectedNow : UInt64)
  | returned (report : SwimReport)
deriving DecidableEq

def Preparation.report? : Preparation → Option SwimReport
  | .returned report => some report
  | _ => none

def Preparation.listed : Preparation → List ServerRecord
  | .copySuspected report _ => report.alive
  | _ => []

/-- The threads of a server, and the reports that are prepared meanwhile. -/
structure Preparing where
  threads : Threads
  preparations : List Preparation := []

inductive PreparingEvent
  | operation (decision : Decision ServerOperation)
  | prepare (aliveNow suspectedNow : UInt64)
  /-- A call of `PrepareReport` takes its next section. -/
  | copy (index : Nat)

section Steps

variable {Cost : Type} (costs : CostArithmetic Cost) (sort : LamportSort)

def Preparation.exec (server : SwimServer) : Preparation → Preparation
  | .copyAlive aliveNow suspectedNow =>
      .copySuspected (server.startReport costs sort aliveNow) suspectedNow
  | .copySuspected report suspectedNow =>
      .returned (server.finishReport costs sort report suspectedNow)
  | .returned report => .returned report

namespace Preparing

def react (preparing : Preparing) : PreparingEvent → Preparing
  | .operation decision =>
      { preparing with threads := threadMachine.step preparing.threads decision }
  | .prepare aliveNow suspectedNow =>
      { preparing with
        preparations := preparing.preparations ++ [.copyAlive aliveNow suspectedNow] }
  | .copy index =>
      match preparing.preparations[index]? with
      | none => preparing
      | some preparation =>
          { preparing with
            preparations := preparing.preparations.set index
              (preparation.exec costs sort preparing.threads.shared.server) }

end Preparing

def preparingMachine : Machine Preparing PreparingEvent := ⟨Preparing.react costs sort⟩

theorem Preparing.run_prepare (preparing : Preparing) (aliveNow suspectedNow : UInt64) :
    (preparingMachine costs sort).run preparing
        [.prepare aliveNow suspectedNow, .copy preparing.preparations.length,
          .copy preparing.preparations.length] =
      { preparing with
        preparations := preparing.preparations ++
          [.returned (preparing.threads.shared.server.prepareReport costs sort aliveNow
            suspectedNow)] } := by
  simp [Machine.run, preparingMachine, react, Preparation.exec, finishReport_startReport]

end Steps

def Preparing.create (host : Host) (hostName : String) (port : UInt16)
    (statusCb : Bool) : Preparing where
  threads := .create host hostName port statusCb

end Gossip
