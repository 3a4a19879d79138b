import ClusterProbe.Endpoint
import ClusterProbe.Protobuf.Message

/-!
# Nodes

What masters and tablet servers say about themselves and each other: addresses, placement, identity
and the status of an application-level failure.
-/
namespace ClusterProbe

open Protobuf

/-- An address as servers send it. The port has 32 bits on the wire. -/
structure HostPort where
  host : String
  port : UInt32
  deriving DecidableEq, Repr

instance : Message HostPort where
  name := "HostPortPb"
  layout := .scalar 1 "host" .required .string <| .scalar 2 "port" .required .uint32 .done
  fields m := (m.host, m.port, ())
  build := fun (host, port, ()) => { host, port }
  build_fields _ := rfl
  fields_build _ := rfl

namespace HostPort

/-- The endpoint that an address names, if its port is one. -/
def endpoint? (hp : HostPort) : Option Endpoint :=
  if hp.port.toNat < 65536 then some ⟨hp.host, hp.port.toUInt16⟩ else none

def ofEndpoint (e : Endpoint) : HostPort :=
  ⟨e.host, e.port.toUInt32⟩

/-- The address as host, colon and port, with no brackets. -/
def plainText (hp : HostPort) : String :=
  s!"{hp.host}:{hp.port.toNat}"

end HostPort

structure CloudInfo where
  placementCloud : Option String
  placementRegion : Option String
  placementZone : Option String
  deriving DecidableEq, Repr

instance : Message CloudInfo where
  name := "CloudInfoPb"
  layout := .scalar 1 "placement_cloud" .optional .string <|
    .scalar 2 "placement_region" .optional .string <|
    .scalar 3 "placement_zone" .optional .string .done
  fields m := (m.placementCloud, m.placementRegion, m.placementZone, ())
  build := fun (placementCloud, placementRegion, placementZone, ()) =>
    { placementCloud, placementRegion, placementZone }
  build_fields _ := rfl
  fields_build _ := rfl

/-- The outcome of an operation as the application reports it. -/
structure AppStatus where
  code : Int32
  message : Option String
  posixCode : Option Int32
  deriving DecidableEq, Repr

instance : Message AppStatus where
  name := "AppStatusPb"
  layout := .scalar 1 "code" .required .int32 <|
    .scalar 2 "message" .optional .string <|
    .scalar 4 "posix_code" .optional .int32 .done
  fields m := (m.code, m.message, m.posixCode, ())
  build := fun (code, message, posixCode, ()) => { code, message, posixCode }
  build_fields _ := rfl
  fields_build _ := rfl

def AppStatus.text (s : AppStatus) : String :=
  s.message.getD ""

/-- The identity of a server process. The permanent UUID is text, held as bytes. -/
structure NodeInstance where
  permanentUuid : Bytes
  instanceSeqno : Int64
  startTimeUs : Option UInt64
  deriving DecidableEq, Repr

instance : Message NodeInstance where
  name := "NodeInstancePb"
  layout := .scalar 1 "permanent_uuid" .required .bytes <|
    .scalar 2 "instance_seqno" .required .int64 <|
    .scalar 3 "start_time_us" .optional .fixed64 .done
  fields m := (m.permanentUuid, m.instanceSeqno, m.startTimeUs, ())
  build := fun (permanentUuid, instanceSeqno, startTimeUs, ()) =>
    { permanentUuid, instanceSeqno, startTimeUs }
  build_fields _ := rfl
  fields_build _ := rfl

/-- The addresses and placement that a server registered with. -/
structure ServerRegistration where
  privateRpcAddresses : List HostPort
  httpAddresses : List HostPort
  cloudInfo : Option CloudInfo
  placementUuid : Option Bytes
  broadcastAddresses : List HostPort
  deriving DecidableEq, Repr

instance : Message ServerRegistration where
  name := "ServerRegistrationPb"
  layout := .embed 1 "private_rpc_addresses" .repeated HostPort <|
    .embed 2 "http_addresses" .repeated HostPort <|
    .embed 3 "cloud_info" .optional CloudInfo <|
    .scalar 4 "placement_uuid" .optional .bytes <|
    .embed 5 "broadcast_addresses" .repeated HostPort .done
  fields m := (m.privateRpcAddresses.map Message.fields, m.httpAddresses.map Message.fields,
    m.cloudInfo.map Message.fields, m.placementUuid, m.broadcastAddresses.map Message.fields, ())
  build := fun (privateRpcAddresses, httpAddresses, cloudInfo, placementUuid,
      broadcastAddresses, ()) =>
    { privateRpcAddresses := privateRpcAddresses.map Message.build
      httpAddresses := httpAddresses.map Message.build
      cloudInfo := cloudInfo.map Message.build
      placementUuid
      broadcastAddresses := broadcastAddresses.map Message.build }
  build_fields _ := by simp
  fields_build _ := by simp

def ServerRegistration.rpcEndpoint? (r : ServerRegistration) : Option Endpoint :=
  r.privateRpcAddresses.head?.bind HostPort.endpoint?

structure VersionInfo where
  gitHash : Option String
  buildHostname : Option String
  buildTimestamp : Option String
  buildUsername : Option String
  buildCleanRepo : Option Bool
  buildId : Option String
  buildType : Option String
  versionNumber : Option String
  buildNumber : Option String
  deriving DecidableEq, Repr

instance : Message VersionInfo where
  name := "VersionInfoPb"
  layout := .scalar 1 "git_hash" .optional .string <|
    .scalar 2 "build_hostname" .optional .string <|
    .scalar 3 "build_timestamp" .optional .string <|
    .scalar 4 "build_username" .optional .string <|
    .scalar 5 "build_clean_repo" .optional .bool <|
    .scalar 6 "build_id" .optional .string <|
    .scalar 7 "build_type" .optional .string <|
    .scalar 8 "version_number" .optional .string <|
    .scalar 9 "build_number" .optional .string .done
  fields m := (m.gitHash, m.buildHostname, m.buildTimestamp, m.buildUsername, m.buildCleanRepo,
    m.buildId, m.buildType, m.versionNumber, m.buildNumber, ())
  build := fun (gitHash, buildHostname, buildTimestamp, buildUsername, buildCleanRepo, buildId,
      buildType, versionNumber, buildNumber, ()) =>
    { gitHash, buildHostname, buildTimestamp, buildUsername, buildCleanRepo, buildId, buildType,
      versionNumber, buildNumber }
  build_fields _ := rfl
  fields_build _ := rfl

/-- The version with its build number, as people write it. -/
def VersionInfo.text (v : VersionInfo) : String :=
  match v.versionNumber, v.buildNumber with
  | some version, some build => s!"{version}-b{build}"
  | some version, none => version
  | none, _ => "unknown"

structure ServerStatus where
  nodeInstance : Option NodeInstance
  boundRpcAddresses : List HostPort
  boundHttpAddresses : List HostPort
  versionInfo : Option VersionInfo
  deriving DecidableEq, Repr

instance : Message ServerStatus where
  name := "ServerStatusPb"
  layout := .embed 1 "node_instance" .optional NodeInstance <|
    .embed 2 "bound_rpc_addresses" .repeated HostPort <|
    .embed 3 "bound_http_addresses" .repeated HostPort <|
    .embed 4 "version_info" .optional VersionInfo .done
  fields m := (m.nodeInstance.map Message.fields, m.boundRpcAddresses.map Message.fields,
    m.boundHttpAddresses.map Message.fields, m.versionInfo.map Message.fields, ())
  build := fun (nodeInstance, boundRpcAddresses, boundHttpAddresses, versionInfo, ()) =>
    { nodeInstance := nodeInstance.map Message.build
      boundRpcAddresses := boundRpcAddresses.map Message.build
      boundHttpAddresses := boundHttpAddresses.map Message.build
      versionInfo := versionInfo.map Message.build }
  build_fields _ := by simp
  fields_build _ := by simp

namespace ServerStatus

def versionText (s : ServerStatus) : String :=
  (s.versionInfo.map VersionInfo.text).getD "unknown"

/-- The permanent UUID as sent; a server that names no instance sends none. -/
def rawUuid (s : ServerStatus) : Bytes :=
  (s.nodeInstance.map NodeInstance.permanentUuid).getD []

end ServerStatus
end ClusterProbe
