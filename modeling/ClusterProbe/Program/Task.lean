import ClusterProbe.CommandLine
import ClusterProbe.Dialer
import ClusterProbe.Settings
import ClusterProbe.Survey

/-!
# Tasks

A command whose settings are in order, ready to dial. Whatever can fail without a connection fails
while the task is prepared: addresses, durations, certificates and keys.
-/
namespace ClusterProbe

inductive Work where
  | ping (endpoints : List Endpoint)
  | clusterInfo
  | getFlag (flag : String)
  deriving DecidableEq, Repr

structure Task where
  work : Work
  destination : Universe
  dialer : Dialer

namespace Task

def address (host : String) : Except Failure Endpoint :=
  (Endpoint.parse host Endpoint.tabletServerPort).mapError fun e =>
    ⟨s!"invalid address {Text.quoted host}", [e.message]⟩

/-- What finding the cluster came to grief over. -/
def undiscovered (e : ClientError) : Failure :=
  (Failure.ofClient e).within "unable to discover the cluster"

/-- A task on the cluster behind the configured masters. -/
def onCluster (files : FileReader) (s : Settings) (work : Work) : Logged Failure Task := do
  let u ← Logged.lift (s.masters >>= s.toUniverse)
  return ⟨work, u, ← (u.dialer files).mapFailure undiscovered⟩

def prepare (files : FileReader) (s : Settings) : Command → Logged Failure Task
  | .ping hosts => do
    let endpoints ← Logged.lift (hosts.mapM address)
    let u ← Logged.lift (s.toUniverse [])
    return ⟨.ping endpoints, u, ← (u.dialer files).mapFailure Failure.ofClient⟩
  | .clusterInfo => onCluster files s .clusterInfo
  | .getFlag flag => onCluster files s (.getFlag flag)

/-- Connects to the cluster, surveys it and closes all connections, also after a failure. -/
def surveyCluster (u : Universe) (survey : Cluster → Plan (Except Failure Report)) :
    Plan (Except Failure Report) := do
  match ← Plan.one (Cluster.connect u.rpcTimeoutMillis u.masters) with
  | .error e => return .error (undiscovered e)
  | .ok c =>
    Plan.one <| Job.ask <| .log {
      level := .info, target := "yugatool", component := some "cluster"
      message := "discovered cluster", fields := [("leader", c.leader.endpoint.text)] }
    let report ← survey c
    if let .error e ← Plan.one c.close then
      Plan.one (Job.log .warn "yugatool" "failed to close cluster connections"
        [("error", e.message)])
    return report

def plan (t : Task) : Plan (Except Failure Report) :=
  let u := t.destination
  match t.work with
  | .ping endpoints => do
    return .ok (.ping (← PingReport.plan u.rpcTimeoutMillis endpoints))
  | .clusterInfo =>
    surveyCluster u fun c => return (← ClusterReport.plan c).map Report.cluster
  | .getFlag flag =>
    surveyCluster u fun c => return (← FlagReport.plan c flag).map Report.flag

/-- Goes through with a task. There is no outcome if it waits for ever. -/
def run (t : Task) : OptionT Rehearsal (Except Failure Report) :=
  t.plan.rehearse

end Task

/-- Prepares a command and goes through with it in a network without servers: the outcome, unless
there is none, and all that was logged. -/
def Command.run (files : FileReader) (s : Settings) (command : Command) :
    Option (Except Failure Report) × List LogEvent :=
  match (Task.prepare files s command).result with
  | (.error failure, events) => (some (.error failure), events)
  | (.ok task, events) =>
    let (outcome, bed) := task.run.run.run { network := { refusal := Dialer.refusal } }
    (outcome, events ++ bed.network.events.reverse)

end ClusterProbe
