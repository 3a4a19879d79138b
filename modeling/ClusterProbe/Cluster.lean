import ClusterProbe.Cluster.Connect

/-!
# Clusters

A cluster is found through one of its masters: seeds are tried in order until one of them answers
as the leader, and its list of tablet servers is the picture of the cluster from then on. Tablet
servers are connected to when they are first asked for, and each then stays in the pool, in a slot
of its own, until its session can carry no more calls.
-/
namespace ClusterProbe

/-- A tablet server as the leader listed it. -/
structure TabletServer where
  uuid : Uuid
  entry : TabletServerEntry
  deriving DecidableEq, Repr

namespace TabletServer

def ofEntry (entry : TabletServerEntry) : Except ClientError TabletServer :=
  (Uuid.ofRaw entry.rawUuid).map fun uuid => { uuid, entry }

def rpcEndpoint? (t : TabletServer) : Option Endpoint :=
  t.entry.rpcEndpoint?

end TabletServer

structure Cluster where
  leader : Host
  tabletServers : List TabletServer
  timeoutMillis : UInt32
  deriving DecidableEq, Repr

namespace Cluster

def log (level : LogLevel) (message : String) (fields : List (String × String)) : Job Unit :=
  Job.log level "yb_client::cluster" message fields

/-- Closes a host that is not needed any more; a failure is only reported. -/
def closeQuietly (h : Host) : Job Unit := do
  if let .error e ← h.close then
    log .debug "close failed" [("endpoint", h.endpoint.text), ("error", e.message)]

/-- What a master's list of tablet servers says: it is not the leader, or the discovery ends. -/
def ofListing (timeoutMillis : UInt32) (leader : Host) (response : ListTabletServersResponse) :
    Option (Except ClientError Cluster) :=
  match response.error with
  | some error =>
    if error.errorCode = .notTheLeader then none
    else some (.error (.master "ListTabletServers" error.errorCode error.text))
  | none =>
    some <| (response.servers.mapM TabletServer.ofEntry).map fun tabletServers =>
      { leader, tabletServers, timeoutMillis }

/-- Tries one master; nothing comes of one that cannot be reached or is not the leader. -/
def trySeed (timeoutMillis : UInt32) (seed : Endpoint) :
    Job (Option (Except ClientError Cluster)) := do
  match ← Host.connect seed timeoutMillis with
  | .error e =>
    log .debug "unable to connect to master" [("master", seed.text), ("error", e.message)]
    return none
  | .ok host =>
    match ← host.messenger.listTabletServers (some false) with
    | .error e =>
      closeQuietly host
      return some (.error (.session e))
    | .ok response =>
      match ofListing timeoutMillis host response with
      | none =>
        closeQuietly host
        log .debug "master is not the leader" [("master", seed.text)]
        return none
      | some (.error e) =>
        closeQuietly host
        return some (.error e)
      | some (.ok cluster) =>
        log .info "connected to master leader"
          [("leader", seed.text), ("tservers", toString cluster.tabletServers.length)]
        return some (.ok cluster)

/-- Finds the leader among the seeds. -/
def connect (timeoutMillis : UInt32) : (seeds : List Endpoint) → Job (Except ClientError Cluster)
  | [] => return .error .noLeader
  | seed :: seeds => do
    match ← trySeed timeoutMillis seed with
    | some result => return result
    | none => connect timeoutMillis seeds

/-- Where a tablet server is to be dialed: the first entry with its UUID decides. -/
def locate (c : Cluster) (uuid : Uuid) : Except ClientError Endpoint :=
  match c.tabletServers.find? (·.uuid = uuid) with
  | none => .error (.unknownUuid uuid)
  | some t =>
    match t.rpcEndpoint? with
    | none => .error (.noRpcAddress uuid)
    | some endpoint => .ok endpoint

/-- Ends the turn of the thread that connected: a host stays in the slot, and after a failure the
next thread may try. -/
def settle (i : SlotId) (result : Except ClientError Host) : Job (Except ClientError Host) := do
  if let .ok host := result then Job.ask (.fill i host)
  Job.ask (.leave i)
  return result

/-- The host in a slot; who comes first connects, and the others wait for the outcome. -/
def occupy (c : Cluster) (uuid : Uuid) (endpoint : Endpoint) (i : SlotId) :
    Job (Except ClientError Host) := do
  if let some host ← Job.ask (.slotHost i) then return .ok host
  Job.ask (.enter i)
  match ← Job.ask (.slotHost i) with
  | some host =>
    Job.ask (.leave i)
    return .ok host
  | none =>
    log .debug "resolving tablet server" [("uuid", uuid.text), ("endpoint", endpoint.text)]
    settle i (← Host.connect endpoint c.timeoutMillis)

/-- The host of a tablet server. A pooled one whose session is closed is replaced. -/
def host (c : Cluster) (uuid : Uuid) : Job (Except ClientError Host) := do
  match c.locate uuid with
  | .error e => return .error e
  | .ok endpoint =>
    let i ← Job.ask (.slot uuid)
    match ← Job.ask (.slotHost i) with
    | none => c.occupy uuid endpoint i
    | some pooled =>
      if ← pooled.isDefunct then
        log .warn "pooled connection is closed, redialing"
          [("uuid", uuid.text), ("endpoint", pooled.endpoint.text)]
        let i ← Job.ask (.evict uuid i)
        closeQuietly pooled
        c.occupy uuid endpoint i
      else return .ok pooled

/-- The host of a tablet server whose UUID is given as servers send it. -/
def hostOfRaw (c : Cluster) (raw : Bytes) : Job (Except ClientError Host) :=
  match Uuid.ofRaw raw with
  | .error e => return .error e
  | .ok uuid => c.host uuid

/-- The outcome for every tablet server, one after the other. -/
def allHosts (c : Cluster) : Job (List (Except ClientError Host)) :=
  c.tabletServers.mapM fun t => c.host t.uuid

/-- The hosts among the outcomes, in their order. -/
def hosts (outcomes : List (Except ClientError Host)) : List Host :=
  outcomes.filterMap Except.toOption

/-- The failures among the outcomes, in their order. -/
def errors (outcomes : List (Except ClientError Host)) : List ClientError :=
  outcomes.filterMap fun
    | .error e => some e
    | .ok _ => none

def listMasters (c : Cluster) : Job (Except ClientError (List ServerEntry)) := do
  match ← c.leader.messenger.listMasters with
  | .error e => return .error (.session e)
  | .ok response =>
    match response.error with
    | some error => return .error (.server "ListMasters" error.text)
    | none => return .ok response.masters

def clusterConfig (c : Cluster) : Job (Except ClientError ClusterConfigEntry) := do
  match ← c.leader.messenger.getMasterClusterConfig with
  | .error e => return .error (.session e)
  | .ok response =>
    match response.error with
    | some error =>
      return .error (.master "GetMasterClusterConfig" error.errorCode error.text)
    | none => return .ok (response.clusterConfig.getD (Protobuf.Message.empty _))

/-- Closes the hosts that are still open; the first failure is the result. -/
def closeAll : List Host → Job (Except ClientError Unit)
  | [] => return .ok ()
  | h :: hosts => do
    if ← h.isDefunct then
      log .debug "connection already closed" [("endpoint", h.endpoint.text)]
      closeAll hosts
    else
      match ← h.close with
      | .ok () => closeAll hosts
      | .error e =>
        log .warn "failed to close connection" [("endpoint", h.endpoint.text), ("error", e.message)]
        let _ ← closeAll hosts
        return .error e

/-- Closes the leader and every pooled tablet server. -/
def close (c : Cluster) : Job (Except ClientError Unit) := do
  closeAll (c.leader :: (← Job.ask .pooled))

end Cluster
end ClusterProbe
