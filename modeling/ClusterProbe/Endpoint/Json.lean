import ClusterProbe.Document.Json
import ClusterProbe.Document.Json.Parser
import ClusterProbe.Endpoint

/-!
# Endpoints in JSON

An endpoint is written as a record of host and port. It is read from such a record, whose other
fields are ignored, or from a list of the two.
-/
namespace ClusterProbe.Endpoint

def document (e : Endpoint) : Document :=
  .record [("host", .text e.host), ("port", .int e.port.toNat)]

/-- A port is an unsigned whole number in plain digits. -/
def jsonPort? : JsonNode → Option UInt16
  | .number literal =>
    ((Decimal.digitsValue? literal).filter (· < 65536)).map UInt16.ofNat
  | _ => none

def jsonHost? : JsonNode → Option String
  | .text value => value
  | _ => none

/-- The value of a field that must be there exactly once. -/
def soleField? (name : String) (fields : List (Option String × JsonNode)) : Option JsonNode :=
  match fields.filter (·.1 == some name) with
  | [(_, x)] => some x
  | _ => none

def ofJson? (s : String) : Option Endpoint := do
  match ← JsonNode.parse? s with
  | .list [host, port] => return ⟨← jsonHost? host, ← jsonPort? port⟩
  | .record fields =>
    if fields.any (·.1.isNone) then none
    else
      let host ← soleField? "host" fields
      let port ← soleField? "port" fields
      return ⟨← jsonHost? host, ← jsonPort? port⟩
  | _ => none

end ClusterProbe.Endpoint
