import ClusterProbe.IoError

/-!
# Trust material failures

Why the certificates and keys of a configuration cannot be used.
-/
namespace ClusterProbe

inductive TlsError where
  | incompleteClientIdentity
  | read (path : String) (source : IoError)
  | invalidCa (path : String)
  | readCertificate (source : IoError)
  | readKey (source : IoError)
  | keyPair (text : String)
  deriving DecidableEq, Repr

namespace TlsError

def name : TlsError → String
  | incompleteClientIdentity => "IncompleteClientIdentity"
  | read _ _ => "Read"
  | invalidCa _ => "InvalidCa"
  | readCertificate _ => "ReadCertificate"
  | readKey _ => "ReadKey"
  | keyPair _ => "KeyPair"

def message : TlsError → String
  | incompleteClientIdentity => "client certificate and key must both be set"
  | read path source => s!"unable to read {path}: {source.message}"
  | invalidCa path => s!"unable to add {path} to the CA list"
  | readCertificate source => s!"unable to read x509 certificate: {source.message}"
  | readKey source => s!"unable to read client key: {source.message}"
  | keyPair text => s!"unable to read x509 key pair: {text}"

def sources : TlsError → List String
  | read _ source | readCertificate source | readKey source => [source.message]
  | _ => []

end TlsError
end ClusterProbe
