import ClusterProbe.Messages.Master
import ClusterProbe.Report

/-!
# Rows from what servers say

A master row is read off the entry that the leader lists.
-/
namespace ClusterProbe

/-- The UUID is shown as text even where it is not well-formed. -/
def MasterRow.ofEntry (e : ServerEntry) : MasterRow where
  uuid := (e.instanceId.map fun i => Utf8.decodeLossy i.permanentUuid).getD ""
  rpcAddresses := (e.registration.map fun r => r.privateRpcAddresses.map HostPort.plainText).getD []
  role := e.raftRole.reportName
  error := e.error.bind AppStatus.message

end ClusterProbe
