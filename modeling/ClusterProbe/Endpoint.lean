import ClusterProbe.Decimal
import ClusterProbe.Endpoint.Ipv6
import ClusterProbe.Text.Blank
import ClusterProbe.Text.Quoted

/-!
# Endpoints

A node is reached at a host and a port. An endpoint is written `host:port`, with brackets around
an IPv6 literal. `Endpoint.parse` reads the address syntax of the command line: the port may be
missing, an IPv6 literal may stand bare (and then has no port), and any host may be bracketed.
-/
namespace ClusterProbe

structure Endpoint where
  host : String
  port : UInt16
  deriving DecidableEq, Repr, Inhabited

/-- Why an address text is not an endpoint; `input` is the text without outer white space. -/
inductive EndpointError where
  | empty
  | invalidPort (input : String)
  | malformed (input reason : String)
  deriving DecidableEq, Repr

namespace EndpointError

def name : EndpointError → String
  | empty => "Empty"
  | invalidPort _ => "InvalidPort"
  | malformed _ _ => "Malformed"

def message : EndpointError → String
  | empty => "master host list empty"
  | invalidPort input => s!"invalid port in address {Text.quoted input}"
  | malformed input reason => s!"malformed address {Text.quoted input}: {reason}"

end EndpointError

namespace Endpoint

/-- The port of a master that is named without one. -/
def masterPort : UInt16 := 7100

/-- The port of a tablet server that is named without one. -/
def tabletServerPort : UInt16 := 9100

def isIpv6 (host : String) : Bool :=
  Ipv6.isLiteral host.toList

/-- The text of an endpoint: an IPv6 literal is put in brackets. -/
def text (e : Endpoint) : String :=
  if isIpv6 e.host then s!"[{e.host}]:{e.port.toNat}" else s!"{e.host}:{e.port.toNat}"

def debugText (e : Endpoint) : String :=
  "Endpoint \x7b host: " ++ Text.quoted e.host ++ s!", port: {e.port.toNat} \x7d"

/-- The port that a text spells: an optional plus sign and digits, at most 65535. -/
def port? (cs : List Char) : Option UInt16 :=
  (Decimal.natBelow? 65536 cs).map UInt16.ofNat

/-- Cuts a text at the first occurrence of a character. -/
def cutAt (mark : Char) : List Char → Option (List Char × List Char)
  | [] => none
  | c :: cs => if c == mark then some ([], cs) else (cutAt mark cs).map fun (a, b) => (c :: a, b)

/-- Cuts a text at the last occurrence of a character. -/
def cutAtLast (mark : Char) (cs : List Char) : Option (List Char × List Char) :=
  (cutAt mark cs.reverse).map fun (a, b) => (b.reverse, a.reverse)

private def withPort (input host port : List Char) : Except EndpointError Endpoint :=
  match port? port with
  | some p => .ok ⟨String.ofList host, p⟩
  | none => .error (.invalidPort (String.ofList input))

/-- An address that starts with a bracket; `rest` is what follows the bracket. -/
def parseBracketed (input rest : List Char) (defaultPort : UInt16) :
    Except EndpointError Endpoint :=
  let malformed := fun reason => Except.error (.malformed (String.ofList input) reason)
  match cutAt ']' rest with
  | none => malformed "missing ']' in address"
  | some ([], _) => malformed "empty host"
  | some (host, []) => .ok ⟨String.ofList host, defaultPort⟩
  | some (host, ':' :: port) => withPort input host port
  | some _ => malformed "unexpected characters after ']'"

def parsePlain (input : List Char) (defaultPort : UInt16) : Except EndpointError Endpoint :=
  match cutAtLast ':' input with
  | none => .ok ⟨String.ofList input, defaultPort⟩
  | some (host, port) =>
    if host.contains ':' then .error (.malformed (String.ofList input) "too many colons in address")
    else if host.isEmpty then .error (.malformed (String.ofList input) "empty host")
    else withPort input host port

/-- Reads an address that has no outer white space. -/
def parseTrimmed (input : List Char) (defaultPort : UInt16) : Except EndpointError Endpoint :=
  if input.isEmpty then .error .empty
  else if Ipv6.isLiteral input then .ok ⟨String.ofList input, defaultPort⟩
  else match input with
    | '[' :: rest => parseBracketed input rest defaultPort
    | _ => parsePlain input defaultPort

def parse (input : String) (defaultPort : UInt16) : Except EndpointError Endpoint :=
  parseTrimmed (Text.trim input.toList) defaultPort

/-- Reads addresses separated by commas; the first bad one decides the error. -/
def parseList (input : String) (defaultPort : UInt16) : Except EndpointError (List Endpoint) :=
  if (Text.trim input.toList).isEmpty then .error .empty
  else (input.toList.splitOn ',').mapM fun cs => parseTrimmed (Text.trim cs) defaultPort

def le (a b : Endpoint) : Bool :=
  a.host < b.host || (a.host == b.host && a.port ≤ b.port)

def sortUnique (es : List Endpoint) : List Endpoint :=
  (es.mergeSort le).foldr (fun e acc => if acc.head? == some e then acc else e :: acc) []

end Endpoint
end ClusterProbe
