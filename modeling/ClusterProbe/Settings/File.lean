import ClusterProbe.Files
import ClusterProbe.Log.Logged
import ClusterProbe.Settings
import ClusterProbe.Text.Utf8
import ClusterProbe.Yaml.Node
import ClusterProbe.Yaml.Scalar

/-!
# The settings file

A YAML mapping. Keys that mean nothing are passed over; one with a meaning may occur once. What is
missing has its default, and so has everything in a file without a document.
-/
namespace ClusterProbe

namespace Yaml

def coreTag (name : String) : String :=
  "tag:yaml.org,2002:" ++ name

/-- Unquoted scalars have a type of their own; others have one only as literal blocks with its
tag. -/
def Scalar.isTyped (type : String) (s : Scalar) : Bool :=
  s.style == .plain || (s.style == .literal && s.tag == some (coreTag type))

/-- An unquoted scalar that says that there is no value. One that is tagged otherwise is a value; a
tag for none asks for one that says so. -/
def Scalar.isAbsent? (s : Scalar) : Option Bool :=
  if s.style ≠ .plain then some false
  else
    match s.tag with
    | none => some (s.text.isEmpty || isNull s.text)
    | some tag =>
      if tag = coreTag "null" then (if isNull s.text then some true else none) else some false

namespace Node

def optional? {α : Type} (read : Scalar → Option α) : Node → Option (Option α)
  | scalar s => do if ← s.isAbsent? then return none else return some (← read s)
  | _ => none

def text? : Node → Option (Option String) :=
  optional? fun s => some s.text

def millis? : Node → Option (Option UInt32) :=
  optional? fun s =>
    if s.isTyped "int" then (unsigned? (Nat.pow 2 32) s.text).map UInt32.ofNat else none

def truth? : Node → Option Bool
  | scalar s => if s.isTyped "bool" then bool? s.text else none
  | _ => none

/-- The entries of a mapping by the texts of their keys. An empty scalar is a mapping without
entries. -/
def fields? : Node → Option (List (String × Node))
  | mapping entries => entries.mapM fun (key, value) =>
      match key with
      | scalar s => some (s.text, value)
      | _ => none
  | scalar s => if s.style = .plain ∧ s.text.isEmpty then some [] else none
  | _ => none

/-- Reads the field of a name, which may occur once. -/
def field? {α : Type} (fields : List (String × Node)) (name : String) (default : α)
    (read : Node → Option α) : Option α :=
  match fields.filter (·.1 = name) with
  | [] => some default
  | [(_, value)] => read value
  | _ => none

end Node
end Yaml

def TlsSettings.ofNode? (n : Yaml.Node) : Option TlsSettings := do
  let fields ← n.fields?
  return {
    caPath := ← Yaml.Node.field? fields "cacert" none Yaml.Node.text?
    certificatePath := ← Yaml.Node.field? fields "client_cert" none Yaml.Node.text?
    keyPath := ← Yaml.Node.field? fields "client_key" none Yaml.Node.text?
    skipHostVerification :=
      ← Yaml.Node.field? fields "skip_host_verification" false Yaml.Node.truth? }

namespace Settings

def ofNode? (n : Yaml.Node) : Option Settings := do
  let fields ← n.fields?
  return {
    masterAddresses := ← Yaml.Node.field? fields "master_addresses" none Yaml.Node.text?
    dialTimeout := ← Yaml.Node.field? fields "dial_timeout" none Yaml.Node.text?
    rpcTimeoutMillis := ← Yaml.Node.field? fields "rpc_timeout_millis" none Yaml.Node.millis?
    tls := ← Yaml.Node.field? fields "tls" {} TlsSettings.ofNode? }

def ofYaml? (text : String) : Option Settings := do
  match ← Yaml.Node.parse? text with
  | none => return {}
  | some n => ofNode? n

/-- Reads the settings file at a path. Why its text is refused is not told. -/
def load (files : FileReader) (path : String) : Logged Failure Settings := do
  match files path with
  | .error e => throw ⟨s!"failed to read config file {Text.quoted path}", [e.message]⟩
  | .ok content =>
    match Utf8.decode? content with
    | none =>
      throw ⟨s!"failed to read config file {Text.quoted path}",
        ["stream did not contain valid UTF-8"]⟩
    | some text =>
      match ofYaml? text with
      | none => throw ⟨s!"failed to parse config file {Text.quoted path}", []⟩
      | some settings =>
        Logged.log {
          level := .info, target := "yugatool::config"
          message := s!"Loaded configuration from {Text.quoted path}" }
        return settings

end Settings
end ClusterProbe
