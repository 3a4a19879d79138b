import ClusterProbe.Document.Json
import ClusterProbe.Document.Yaml
import ClusterProbe.Report.Table
import ClusterProbe.Text.UpperCase

/-!
# Reports

What the commands find out, as rows, and the rows as a table, JSON or YAML. The same rows stand
behind all three formats.
-/
namespace ClusterProbe

inductive OutputFormat where
  | table | json | yaml
  deriving DecidableEq, Repr

def OutputFormat.name : OutputFormat → String
  | table => "Table"
  | json => "Json"
  | yaml => "Yaml"

/-- What a ping learned about one address: a round-trip time, or why there is none. -/
structure PingRow where
  address : String
  uuid : String
  rpcAddresses : List String
  version : String
  rttMillis : Option Float
  error : Option String

structure PingReport where
  servers : List PingRow

structure MasterRow where
  uuid : String
  rpcAddresses : List String
  role : String
  error : Option String
  deriving DecidableEq, Repr

structure TabletServerRow where
  uuid : String
  rpcAddress : String
  alive : Bool
  millisSinceHeartbeat : Int32
  version : String
  error : Option String
  deriving DecidableEq, Repr

structure ClusterReport where
  clusterUuid : String
  configVersion : Int32
  liveReplicas : Option Int32
  zones : List String
  leader : String
  masters : List MasterRow
  tabletServers : List TabletServerRow
  deriving DecidableEq, Repr

structure FlagRow where
  uuid : String
  address : String
  valid : Bool
  value : String
  deriving DecidableEq, Repr

structure FlagReport where
  flag : String
  servers : List FlagRow
  deriving DecidableEq, Repr

inductive Report where
  | ping (report : PingReport)
  | cluster (report : ClusterReport)
  | flag (report : FlagReport)

namespace PingRow

/-- The last column: the error if there is one, else the time. -/
def outcomeText (r : PingRow) : String :=
  match r.error, r.rttMillis with
  | some e, _ => s!"error: {e}"
  | none, some t => Decimal.twoPlaces t ++ "ms"
  | none, none => ""

def cells (r : PingRow) : List String :=
  [r.address, r.uuid, String.intercalate "," r.rpcAddresses, r.version, r.outcomeText]

def document (r : PingRow) : Document :=
  .record [("address", .text r.address), ("uuid", .text r.uuid),
    ("rpc_addresses", .texts r.rpcAddresses), ("version", .text r.version),
    ("rtt_ms", .ofOption .float r.rttMillis), ("error", .ofOption .text r.error)]

end PingRow

namespace PingReport

def table (r : PingReport) : String :=
  Table.format ["ADDRESS", "UUID", "RPC ADDRESSES", "VERSION", "PING"] (r.servers.map PingRow.cells)

def document (r : PingReport) : Document :=
  .record [("servers", .list (r.servers.map PingRow.document))]

end PingReport

namespace MasterRow

def cells (r : MasterRow) : List String :=
  [r.uuid, String.intercalate "," r.rpcAddresses, r.role, r.error.getD ""]

def document (r : MasterRow) : Document :=
  .record [("uuid", .text r.uuid), ("rpc_addresses", .texts r.rpcAddresses), ("role", .text r.role),
    ("error", .ofOption .text r.error)]

end MasterRow

namespace TabletServerRow

def cells (r : TabletServerRow) : List String :=
  [r.uuid, r.rpcAddress, if r.alive then "ALIVE" else "DEAD", toString r.millisSinceHeartbeat.toInt,
    r.version, r.error.getD ""]

def document (r : TabletServerRow) : Document :=
  .record [("uuid", .text r.uuid), ("rpc_address", .text r.rpcAddress), ("alive", .bool r.alive),
    ("millis_since_heartbeat", .int r.millisSinceHeartbeat.toInt), ("version", .text r.version),
    ("error", .ofOption .text r.error)]

end TabletServerRow

namespace ClusterReport

def table (r : ClusterReport) : String :=
  let identity := Table.format ["CLUSTER UUID", "LIVE REPLICAS", "ZONES", "VERSION"]
    [[r.clusterUuid, (r.liveReplicas.map fun n => toString n.toInt).getD "",
      String.intercalate "," r.zones, toString r.configVersion.toInt]]
  let masters := Table.format ["UUID", "RPC ADDRESSES", "ROLE", "ERROR"]
    (r.masters.map MasterRow.cells)
  let servers := Table.format ["UUID", "RPC ADDRESS", "STATE", "HEARTBEAT MS", "VERSION", "ERROR"]
    (r.tabletServers.map TabletServerRow.cells)
  s!"{identity}\nMaster leader: {r.leader}\n\nMasters:\n{masters}\nTablet servers:\n{servers}"

def document (r : ClusterReport) : Document :=
  .record [("cluster_uuid", .text r.clusterUuid), ("config_version", .int r.configVersion.toInt),
    ("live_replicas", .ofOption (fun n => .int n.toInt) r.liveReplicas),
    ("zones", .texts r.zones), ("leader", .text r.leader),
    ("masters", .list (r.masters.map MasterRow.document)),
    ("tablet_servers", .list (r.tabletServers.map TabletServerRow.document))]

end ClusterReport

namespace FlagRow

def cells (r : FlagRow) : List String :=
  [r.uuid, r.address, if r.valid then r.value else "<unknown flag>"]

def document (r : FlagRow) : Document :=
  .record [("uuid", .text r.uuid), ("address", .text r.address), ("valid", .bool r.valid),
    ("value", .text r.value)]

end FlagRow

namespace FlagReport

/-- The value column is headed by the flag in upper case. -/
def table (r : FlagReport) : String :=
  Table.format ["UUID", "ADDRESS", Text.upperCase r.flag] (r.servers.map FlagRow.cells)

def document (r : FlagReport) : Document :=
  .record [("flag", .text r.flag), ("servers", .list (r.servers.map FlagRow.document))]

end FlagReport

namespace Report

def table : Report → String
  | ping r => r.table
  | cluster r => r.table
  | flag r => r.table

def document : Report → Document
  | ping r => r.document
  | cluster r => r.document
  | flag r => r.document

def render (r : Report) : OutputFormat → String
  | .table => r.table
  | .json => r.document.prettyJson ++ "\n"
  | .yaml => r.document.yaml

end Report
end ClusterProbe
