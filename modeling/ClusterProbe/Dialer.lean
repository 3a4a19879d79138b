import ClusterProbe.Tls.Client
import ClusterProbe.Universe

/-!
# Dialers

How connections to a cluster are opened: plain or encrypted, and within which time. The files that
encryption needs are read before anything is dialed.
-/
namespace ClusterProbe

structure Dialer where
  timeout : Duration := .ofSeconds 60
  /-- Connections are plain without. -/
  tls : Option TlsClient := none

namespace Dialer

def isTls (d : Dialer) : Bool :=
  d.tls.isSome

/-- Why a host cannot be dialed, whoever is asked for it: no name holds a NUL character, and without
a network no other name leads anywhere. -/
def refusal (e : Endpoint) : IoError :=
  if e.host.toList.contains '\x00' then
    ⟨.invalidInput, some "file name contained an unexpected NUL byte"⟩
  else ⟨.notConnected, some "network is unreachable"⟩

/-- The dialer that trust settings ask for. -/
def ofTrust (files : FileReader) (trust : Option Trust) (timeout : Duration) :
    Logged TlsError Dialer := do
  match trust.filter Trust.hasTls with
  | some t => return { timeout, tls := some (← t.client files) }
  | none => return { timeout }

end Dialer

/-- The dialer that all connections to a universe go through. -/
def Universe.dialer (files : FileReader) (u : Universe) : Logged ClientError Dialer :=
  (Dialer.ofTrust files u.trust u.dialTimeout).mapFailure .tls

end ClusterProbe
