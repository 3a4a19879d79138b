import ClusterProbe.Messages.Master
import ClusterProbe.Session.Connect

/-!
# Remote services

The calls that servers answer: every server those of the generic service, and masters those of the
master service besides.
-/
namespace ClusterProbe

namespace Service

def generic (methodName : String) : RemoteMethod :=
  ⟨"yb.server.GenericService", methodName⟩

def master (methodName : String) : RemoteMethod :=
  ⟨"yb.master.MasterService", methodName⟩

/-- How the callers of both services show themselves. -/
def callerTexts (endpoint : Endpoint) : List String :=
  ["GenericService", "MasterService"].map fun name =>
    name ++ " \x7b host: " ++ endpoint.debugText ++ " \x7d"

variable {Q : Type} [Protobuf.Message Q]

def call (A : Type) [Protobuf.Message A] (m : Messenger) (method : RemoteMethod) (request : Q) :
    Job (Except SessionError A) := do
  Job.log .debug "yb_client::service" "calling" <|
    ("endpoint", m.endpoint.text) :: Messenger.methodFields method
  m.callTyped A method request

end Service

namespace Messenger

def ping (m : Messenger) : Job (Except SessionError PingResponse) :=
  Service.call PingResponse m (Service.generic "Ping") ({} : PingRequest)

def getStatus (m : Messenger) : Job (Except SessionError GetStatusResponse) :=
  Service.call GetStatusResponse m (Service.generic "GetStatus") ({} : GetStatusRequest)

def getFlag (m : Messenger) (flag : Option String) : Job (Except SessionError GetFlagResponse) :=
  Service.call GetFlagResponse m (Service.generic "GetFlag") { flag : GetFlagRequest }

def listTabletServers (m : Messenger) (primaryOnly : Option Bool) :
    Job (Except SessionError ListTabletServersResponse) :=
  Service.call ListTabletServersResponse m (Service.master "ListTabletServers")
    { primaryOnly : ListTabletServersRequest }

def listMasters (m : Messenger) : Job (Except SessionError ListMastersResponse) :=
  Service.call ListMastersResponse m (Service.master "ListMasters") ({} : ListMastersRequest)

def getMasterClusterConfig (m : Messenger) :
    Job (Except SessionError GetMasterClusterConfigResponse) :=
  Service.call GetMasterClusterConfigResponse m (Service.master "GetMasterClusterConfig")
    ({} : GetMasterClusterConfigRequest)

end Messenger

/-- A trial by one ping, with this timeout as advice. -/
def Session.pingProbe (endpoint : Endpoint) (timeoutMillis : UInt32) : Session.Probe := fun s =>
  return (← ({ session := s, endpoint, timeoutMillis : Messenger }).ping).map fun _ => ()

end ClusterProbe
