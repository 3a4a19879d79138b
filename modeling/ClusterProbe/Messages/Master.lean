import ClusterProbe.Messages.Node

/-!
# Messages of the master service

What a master knows of the cluster: its tablet servers, its fellow masters and the cluster
configuration. Only the leader among the masters answers for the cluster.
-/
namespace ClusterProbe

open Protobuf

inductive MasterErrorCode where
  | unknownError
  | invalidSchema
  | objectNotFound
  | objectAlreadyPresent
  | tooManyTablets
  | catalogManagerNotInitialized
  | notTheLeader
  deriving DecidableEq, Repr

namespace MasterErrorCode

def all : List MasterErrorCode :=
  [unknownError, invalidSchema, objectNotFound, objectAlreadyPresent, tooManyTablets,
    catalogManagerNotInitialized, notTheLeader]

def number : MasterErrorCode → Int32
  | unknownError => 1
  | invalidSchema => 2
  | objectNotFound => 3
  | objectAlreadyPresent => 4
  | tooManyTablets => 5
  | catalogManagerNotInitialized => 6
  | notTheLeader => 7

def name : MasterErrorCode → String
  | unknownError => "UnknownError"
  | invalidSchema => "InvalidSchema"
  | objectNotFound => "ObjectNotFound"
  | objectAlreadyPresent => "ObjectAlreadyPresent"
  | tooManyTablets => "TooManyTablets"
  | catalogManagerNotInitialized => "CatalogManagerNotInitialized"
  | notTheLeader => "NotTheLeader"

def ofNumber? (n : Int32) : Option MasterErrorCode :=
  all.find? (·.number == n)

/-- An undeclared number counts as an unknown error. -/
def ofNumber (n : Int32) : MasterErrorCode :=
  (ofNumber? n).getD unknownError

end MasterErrorCode

structure MasterError where
  code : Int32
  status : Option AppStatus
  deriving DecidableEq, Repr

instance : Message MasterError where
  name := "MasterErrorPb"
  layout :=
    .scalar 1 "code" .required (.enumeration 1) <|
    .embed 2 "status" .optional AppStatus .done
  fields m := (m.code, m.status.map Message.fields, ())
  build := fun (code, status, ()) => { code, status := status.map Message.build }
  build_fields _ := by simp
  fields_build _ := by simp

namespace MasterError

def text (e : MasterError) : String :=
  (e.status.map AppStatus.text).getD ""

def errorCode (e : MasterError) : MasterErrorCode :=
  MasterErrorCode.ofNumber e.code

end MasterError

/-- The part a server plays in a consensus group. -/
inductive RaftRole where
  | unknownRole
  | follower
  | leader
  | learner
  | nonParticipant
  | readReplica
  deriving DecidableEq, Repr

namespace RaftRole

def all : List RaftRole :=
  [unknownRole, follower, leader, learner, nonParticipant, readReplica]

def number : RaftRole → Int32
  | unknownRole => 7
  | follower => 0
  | leader => 1
  | learner => 2
  | nonParticipant => 3
  | readReplica => 4

def name : RaftRole → String
  | unknownRole => "UnknownRole"
  | follower => "Follower"
  | leader => "Leader"
  | learner => "Learner"
  | nonParticipant => "NonParticipant"
  | readReplica => "ReadReplica"

def reportName : RaftRole → String
  | unknownRole => "UNKNOWN"
  | follower => "FOLLOWER"
  | leader => "LEADER"
  | learner => "LEARNER"
  | nonParticipant => "NON_PARTICIPANT"
  | readReplica => "READ_REPLICA"

def ofNumber? (n : Int32) : Option RaftRole :=
  all.find? (·.number == n)

/-- The role of a field that may be unset or hold an undeclared number. -/
def ofField (field : Option Int32) : RaftRole :=
  (field.bind ofNumber?).getD unknownRole

end RaftRole

structure TsRegistration where
  common : Option ServerRegistration
  deriving DecidableEq, Repr

instance : Message TsRegistration where
  name := "TsRegistrationPb"
  layout := .embed 1 "common" .optional ServerRegistration .done
  fields m := (m.common.map Message.fields, ())
  build := fun (common, ()) => { common := common.map Message.build }
  build_fields _ := by simp
  fields_build _ := by simp

structure ListTabletServersRequest where
  primaryOnly : Option Bool
  deriving DecidableEq, Repr

instance : Message ListTabletServersRequest where
  name := "ListTabletServersRequestPb"
  layout := .scalar 1 "primary_only" .optional .bool .done
  fields m := (m.primaryOnly, ())
  build := fun (primaryOnly, ()) => { primaryOnly }
  build_fields _ := rfl
  fields_build _ := rfl

structure TabletServerEntry where
  instanceId : Option NodeInstance
  registration : Option TsRegistration
  millisSinceHeartbeat : Option Int32
  alive : Option Bool
  deriving DecidableEq, Repr

instance : Message TabletServerEntry where
  name := "TabletServerEntryPb"
  layout := .embed 1 "instance_id" .optional NodeInstance <|
    .embed 2 "registration" .optional TsRegistration <|
    .scalar 3 "millis_since_heartbeat" .optional .int32 <|
    .scalar 4 "alive" .optional .bool .done
  fields m := (m.instanceId.map Message.fields, m.registration.map Message.fields,
    m.millisSinceHeartbeat, m.alive, ())
  build := fun (instanceId, registration, millisSinceHeartbeat, alive, ()) =>
    { instanceId := instanceId.map Message.build
      registration := registration.map Message.build
      millisSinceHeartbeat, alive }
  build_fields _ := by simp
  fields_build _ := by simp

namespace TabletServerEntry

def serverRegistration? (e : TabletServerEntry) : Option ServerRegistration :=
  e.registration.bind TsRegistration.common

/-- Where the server takes calls: its first private RPC address. -/
def rpcEndpoint? (e : TabletServerEntry) : Option Endpoint :=
  e.serverRegistration?.bind ServerRegistration.rpcEndpoint?

def rawUuid (e : TabletServerEntry) : Bytes :=
  (e.instanceId.map NodeInstance.permanentUuid).getD []

end TabletServerEntry

structure ListTabletServersResponse where
  error : Option MasterError
  servers : List TabletServerEntry
  deriving DecidableEq, Repr

instance : Message ListTabletServersResponse where
  name := "ListTabletServersResponsePb"
  layout := .embed 1 "error" .optional MasterError <|
    .embed 2 "servers" .repeated TabletServerEntry .done
  fields m := (m.error.map Message.fields, m.servers.map Message.fields, ())
  build := fun (error, servers, ()) =>
    { error := error.map Message.build, servers := servers.map Message.build }
  build_fields _ := by simp
  fields_build _ := by simp

structure ListMastersRequest where
  deriving DecidableEq, Repr

instance : Message ListMastersRequest where
  name := "ListMastersRequestPb"
  layout := .done
  fields _ := ()
  build _ := {}
  build_fields _ := rfl
  fields_build := Layout.eq_of_done

structure ServerEntry where
  error : Option AppStatus
  instanceId : Option NodeInstance
  registration : Option ServerRegistration
  role : Option Int32
  deriving DecidableEq, Repr

instance : Message ServerEntry where
  name := "ServerEntryPb"
  layout := .embed 1 "error" .optional AppStatus <|
    .embed 2 "instance_id" .optional NodeInstance <|
    .embed 3 "registration" .optional ServerRegistration <|
    .scalar 4 "role" .optional (.enumeration 7) .done
  fields m := (m.error.map Message.fields, m.instanceId.map Message.fields,
    m.registration.map Message.fields, m.role, ())
  build := fun (error, instanceId, registration, role, ()) =>
    { error := error.map Message.build
      instanceId := instanceId.map Message.build
      registration := registration.map Message.build
      role }
  build_fields _ := by simp
  fields_build _ := by simp

def ServerEntry.raftRole (e : ServerEntry) : RaftRole :=
  RaftRole.ofField e.role

structure ListMastersResponse where
  masters : List ServerEntry
  error : Option AppStatus
  deriving DecidableEq, Repr

instance : Message ListMastersResponse where
  name := "ListMastersResponsePb"
  layout := .embed 1 "masters" .repeated ServerEntry <| .embed 2 "error" .optional AppStatus .done
  fields m := (m.masters.map Message.fields, m.error.map Message.fields, ())
  build := fun (masters, error, ()) =>
    { masters := masters.map Message.build, error := error.map Message.build }
  build_fields _ := by simp
  fields_build _ := by simp

/-- How many replicas a placement wants in one place. -/
structure PlacementBlock where
  cloudInfo : Option CloudInfo
  minNumReplicas : Option Int32
  deriving DecidableEq, Repr

instance : Message PlacementBlock where
  name := "PlacementBlockPb"
  layout := .embed 1 "cloud_info" .optional CloudInfo <|
    .scalar 2 "min_num_replicas" .optional .int32 .done
  fields m := (m.cloudInfo.map Message.fields, m.minNumReplicas, ())
  build := fun (cloudInfo, minNumReplicas, ()) =>
    { cloudInfo := cloudInfo.map Message.build, minNumReplicas }
  build_fields _ := by simp
  fields_build _ := by simp

structure PlacementInfo where
  numReplicas : Option Int32
  placementBlocks : List PlacementBlock
  deriving DecidableEq, Repr

instance : Message PlacementInfo where
  name := "PlacementInfoPb"
  layout := .scalar 1 "num_replicas" .optional .int32 <|
    .embed 2 "placement_blocks" .repeated PlacementBlock .done
  fields m := (m.numReplicas, m.placementBlocks.map Message.fields, ())
  build := fun (numReplicas, placementBlocks, ()) =>
    { numReplicas, placementBlocks := placementBlocks.map Message.build }
  build_fields _ := by simp
  fields_build _ := by simp

structure ReplicationInfo where
  liveReplicas : Option PlacementInfo
  deriving DecidableEq, Repr

instance : Message ReplicationInfo where
  name := "ReplicationInfoPb"
  layout := .embed 1 "live_replicas" .optional PlacementInfo .done
  fields m := (m.liveReplicas.map Message.fields, ())
  build := fun (liveReplicas, ()) => { liveReplicas := liveReplicas.map Message.build }
  build_fields _ := by simp
  fields_build _ := by simp

structure ClusterConfigEntry where
  version : Option Int32
  replicationInfo : Option ReplicationInfo
  clusterUuid : Option String
  deriving DecidableEq, Repr

instance : Message ClusterConfigEntry where
  name := "SysClusterConfigEntryPb"
  layout := .scalar 1 "version" .optional .int32 <|
    .embed 2 "replication_info" .optional ReplicationInfo <|
    .scalar 4 "cluster_uuid" .optional .string .done
  fields m := (m.version, m.replicationInfo.map Message.fields, m.clusterUuid, ())
  build := fun (version, replicationInfo, clusterUuid, ()) =>
    { version, replicationInfo := replicationInfo.map Message.build, clusterUuid }
  build_fields _ := by simp
  fields_build _ := by simp

namespace ClusterConfigEntry

def liveReplicas? (c : ClusterConfigEntry) : Option PlacementInfo :=
  c.replicationInfo.bind ReplicationInfo.liveReplicas

def liveZones (c : ClusterConfigEntry) : List String :=
  match c.liveReplicas? with
  | some p => p.placementBlocks.filterMap fun b => b.cloudInfo.bind CloudInfo.placementZone
  | none => []

end ClusterConfigEntry

structure GetMasterClusterConfigRequest where
  deriving DecidableEq, Repr

instance : Message GetMasterClusterConfigRequest where
  name := "GetMasterClusterConfigRequestPb"
  layout := .done
  fields _ := ()
  build _ := {}
  build_fields _ := rfl
  fields_build := Layout.eq_of_done

structure GetMasterClusterConfigResponse where
  error : Option MasterError
  clusterConfig : Option ClusterConfigEntry
  deriving DecidableEq, Repr

instance : Message GetMasterClusterConfigResponse where
  name := "GetMasterClusterConfigResponsePb"
  layout := .embed 1 "error" .optional MasterError <|
    .embed 2 "cluster_config" .optional ClusterConfigEntry .done
  fields m := (m.error.map Message.fields, m.clusterConfig.map Message.fields, ())
  build := fun (error, clusterConfig, ()) =>
    { error := error.map Message.build, clusterConfig := clusterConfig.map Message.build }
  build_fields _ := by simp
  fields_build _ := by simp

end ClusterProbe
