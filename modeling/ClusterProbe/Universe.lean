import ClusterProbe.Cluster.Error
import ClusterProbe.Duration
import ClusterProbe.Tls.Trust

/-!
# Universes

Everything that is needed to reach a cluster: the masters to try, in order, the time limits and the
trust settings.
-/
namespace ClusterProbe

structure Universe where
  masters : List Endpoint
  dialTimeout : Duration := .ofSeconds 60
  /-- The timeout that is sent along with each call, as advice. -/
  rpcTimeoutMillis : UInt32 := 3000
  trust : Option Trust := none
  deriving DecidableEq, Repr, Inhabited

namespace Universe

/-- The universe behind a list of master addresses. -/
def ofMasterList (s : String) : Except ClientError Universe :=
  ((Endpoint.parseList s Endpoint.masterPort).mapError ClientError.config).map fun masters =>
    { masters }

def debugText (u : Universe) : String :=
  let masters := String.intercalate ", " (u.masters.map Endpoint.debugText)
  let trust := (u.trust.map fun t => s!"Some({t.debugText})").getD "None"
  s!"UniverseConfig \x7b masters: [{masters}], dial_timeout: {u.dialTimeout.text}, " ++
    s!"rpc_timeout_millis: {u.rpcTimeoutMillis.toNat}, trust: {trust}, dialer_override: false \x7d"

end Universe
end ClusterProbe
