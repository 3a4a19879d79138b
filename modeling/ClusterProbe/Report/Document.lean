import ClusterProbe.Report

/-!
# Reports read back

A report from its document. A text or a number that may be missing is absent if anything else stands
in its place; everything else has to be there.
-/
namespace ClusterProbe

namespace Document

def texts? (d : Document) : Option (List String) := do
  (← d.items?).mapM text?

def int32? (d : Document) : Option Int32 :=
  d.int?.map Int32.ofInt

def rows? {α : Type} (f : Document → Option α) (d : Document) : Option (List α) := do
  (← d.items?).mapM f

end Document

def PingRow.ofDocument? (d : Document) : Option PingRow := do
  return { address := ← (d.field "address").text?
           uuid := ← (d.field "uuid").text?
           rpcAddresses := ← (d.field "rpc_addresses").texts?
           version := ← (d.field "version").text?
           rttMillis := (d.field "rtt_ms").float?
           error := (d.field "error").text? }

def PingReport.ofDocument? (d : Document) : Option PingReport := do
  return { servers := ← (d.field "servers").rows? PingRow.ofDocument? }

def MasterRow.ofDocument? (d : Document) : Option MasterRow := do
  return { uuid := ← (d.field "uuid").text?
           rpcAddresses := ← (d.field "rpc_addresses").texts?
           role := ← (d.field "role").text?
           error := (d.field "error").text? }

def TabletServerRow.ofDocument? (d : Document) : Option TabletServerRow := do
  return { uuid := ← (d.field "uuid").text?
           rpcAddress := ← (d.field "rpc_address").text?
           alive := ← (d.field "alive").bool?
           millisSinceHeartbeat := ← (d.field "millis_since_heartbeat").int32?
           version := ← (d.field "version").text?
           error := (d.field "error").text? }

def ClusterReport.ofDocument? (d : Document) : Option ClusterReport := do
  return { clusterUuid := ← (d.field "cluster_uuid").text?
           configVersion := ← (d.field "config_version").int32?
           liveReplicas := (d.field "live_replicas").int32?
           zones := ← (d.field "zones").texts?
           leader := ← (d.field "leader").text?
           masters := ← (d.field "masters").rows? MasterRow.ofDocument?
           tabletServers := ← (d.field "tablet_servers").rows? TabletServerRow.ofDocument? }

def FlagRow.ofDocument? (d : Document) : Option FlagRow := do
  return { uuid := ← (d.field "uuid").text?
           address := ← (d.field "address").text?
           valid := ← (d.field "valid").bool?
           value := ← (d.field "value").text? }

def FlagReport.ofDocument? (d : Document) : Option FlagReport := do
  return { flag := ← (d.field "flag").text?
           servers := ← (d.field "servers").rows? FlagRow.ofDocument? }

/-- A report of the kind that its command is named for. -/
def Report.ofDocument? (command : String) (d : Document) : Option Report :=
  match command with
  | "ping" => (PingReport.ofDocument? d).map .ping
  | "cluster" => (ClusterReport.ofDocument? d).map .cluster
  | "flag" => (FlagReport.ofDocument? d).map .flag
  | _ => none

end ClusterProbe
