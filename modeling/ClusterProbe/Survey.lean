import ClusterProbe.Cluster
import ClusterProbe.Failure
import ClusterProbe.Plan
import ClusterProbe.Report.Entry

/-!
# Surveys

What the commands find out: each asks its servers, many of them at once, and puts the answers
together as a report. A server that cannot be reached costs its own row at most.
-/
namespace ClusterProbe

/-- The UUID that a server reported, without hyphens; nothing if it is not one. -/
def Host.uuidText (h : Host) : String :=
  match h.uuid with
  | .ok uuid => uuid.plainText
  | .error _ => ""

namespace PingRow

def unreached (endpoint : Endpoint) (e : ClientError) : PingRow where
  address := endpoint.text
  uuid := ""
  rpcAddresses := []
  version := ""
  rttMillis := none
  error := some e.message

/-- What a host said of itself, and how its ping went. -/
def ofHost (h : Host) (ping : Except SessionError Float) : PingRow where
  address := h.endpoint.text
  uuid := h.uuidText
  rpcAddresses := h.status.boundRpcAddresses.map HostPort.plainText
  version := h.status.versionText
  rttMillis := ping.toOption
  error := match ping with
    | .ok _ => none
    | .error e => some e.message

/-- Connects to a server, takes the time of one ping and closes the connection. -/
def measure (timeoutMillis : UInt32) (endpoint : Endpoint) : Job PingRow := do
  match ← Host.connect endpoint timeoutMillis with
  | .error e =>
    Job.ask <| .log {
      level := .warn, target := "yugatool", component := some "ping"
      message := "unable to connect"
      fields := [("endpoint", endpoint.text), ("error", e.message)] }
    return unreached endpoint e
  | .ok host =>
    let start ← Job.ask .clock
    let result ← host.messenger.ping
    let stop ← Job.ask .clock
    if let .error e ← host.close then
      Job.log .debug "yugatool" "close failed" [("endpoint", endpoint.text), ("error", e.message)]
    return ofHost host (result.map fun _ => Float.ofNat (stop - start))

end PingRow

namespace PingReport

/-- Pings servers, all at once; the rows are in the order of the endpoints. -/
def plan (timeoutMillis : UInt32) (endpoints : List Endpoint) : Plan PingReport := do
  return { servers := ← Plan.all (endpoints.map (PingRow.measure timeoutMillis)) }

def survey (timeoutMillis : UInt32) (endpoints : List Endpoint) : OptionT Rehearsal PingReport :=
  (plan timeoutMillis endpoints).rehearse

end PingReport

namespace Cluster

/-- The tablet servers that could be connected to. One that could not be dialed is left out; any
other failure counts. -/
def reachable : List (Except ClientError Host) → Job (Except Failure (List Host))
  | [] => return .ok []
  | .ok h :: rest => return (← reachable rest).map (h :: ·)
  | .error e :: rest => do
    if e.isDial then
      Job.log .warn "yugatool" "skipping unreachable tablet server" [("error", e.message)]
      reachable rest
    else return .error ((Failure.ofClient e).within "unable to connect to tablet server")

def reachableHosts (c : Cluster) : Job (Except Failure (List Host)) := do
  reachable (← c.allHosts)

end Cluster

namespace ClusterReport

/-- The version that a server reports, or why it reports none. -/
def versionOf : Except SessionError GetStatusResponse → Except String String
  | .error e => .error e.message
  | .ok response =>
    match response.error, response.status with
    | some error, _ => .error error.text
    | none, some status => .ok status.versionText
    | none, none => .error "no status reported"

/-- The versions by the UUIDs that the servers give themselves; the last one with a UUID counts. -/
abbrev Versions := List (Uuid × Except String String)

def Versions.find? (versions : Versions) (uuid : Uuid) : Option (Except String String) :=
  List.lookup uuid versions.reverse

def row (versions : Versions) (t : TabletServer) : TabletServerRow where
  uuid := t.uuid.plainText
  rpcAddress := (t.rpcEndpoint?.map Endpoint.text).getD ""
  alive := t.entry.alive.getD false
  millisSinceHeartbeat := t.entry.millisSinceHeartbeat.getD 0
  version := match versions.find? t.uuid with
    | some (.ok version) => version
    | _ => ""
  error := match versions.find? t.uuid with
    | some (.ok _) => none
    | some (.error e) => some e
    | none => some "unreachable"

def assemble (c : Cluster) (config : ClusterConfigEntry) (masters : List ServerEntry)
    (versions : Versions) : ClusterReport where
  clusterUuid := config.clusterUuid.getD ""
  configVersion := config.version.getD 0
  liveReplicas := config.liveReplicas?.map fun p => p.numReplicas.getD 0
  zones := config.liveZones
  leader := c.leader.endpoint.text
  masters := masters.map MasterRow.ofEntry
  tabletServers := c.tabletServers.map (row versions)

/-- What the leader knows of the cluster, and the tablet servers that can be reached. -/
def overview (c : Cluster) :
    Job (Except Failure (ClusterConfigEntry × List ServerEntry × List Host)) := do
  match ← c.clusterConfig with
  | .error e => return .error ((Failure.ofClient e).within "could not get cluster config")
  | .ok config =>
    match ← c.listMasters with
    | .error e => return .error ((Failure.ofClient e).within "unable to list masters")
    | .ok masters => return (← c.reachableHosts).map fun hosts => (config, masters, hosts)

/-- What the hosts have answered, by the UUIDs that they reported when they were connected to. -/
def versions (hosts : List Host) (statuses : List (Except SessionError GetStatusResponse)) :
    Versions :=
  (hosts.zip statuses).filterMap fun (h, status) =>
    h.uuid.toOption.map fun uuid => (uuid, versionOf status)

/-- Asks the leader for the cluster and then every tablet server, all at once, for its status. -/
def plan (c : Cluster) : Plan (Except Failure ClusterReport) := do
  match ← Plan.one (overview c) with
  | .error e => return .error e
  | .ok (config, masters, hosts) =>
    let statuses ← Plan.all (hosts.map fun h => h.messenger.getStatus)
    return .ok (assemble c config masters (versions hosts statuses))

def survey (c : Cluster) : OptionT Rehearsal (Except Failure ClusterReport) :=
  (plan c).rehearse

end ClusterReport

namespace FlagReport

def row (h : Host) : Except SessionError GetFlagResponse → Except Failure FlagRow
  | .error e => .error ((Failure.ofSession e).within s!"GetFlag failed on {h.endpoint.text}")
  | .ok response =>
    .ok { uuid := h.uuidText, address := h.endpoint.text
          valid := response.valid.getD false, value := response.value.getD "" }

/-- Asks every tablet server, all at once, for a flag. The first failure in order counts. -/
def plan (c : Cluster) (flag : String) : Plan (Except Failure FlagReport) := do
  match ← Plan.one c.reachableHosts with
  | .error e => return .error e
  | .ok hosts =>
    let answers ← Plan.all (hosts.map fun h => h.messenger.getFlag (some flag))
    return ((hosts.zip answers).mapM fun (h, answer) => row h answer).map fun servers =>
      { flag, servers }

def survey (c : Cluster) (flag : String) : OptionT Rehearsal (Except Failure FlagReport) :=
  (plan c flag).rehearse

end FlagReport
end ClusterProbe
