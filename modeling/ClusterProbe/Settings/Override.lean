import ClusterProbe.CommandLine
import ClusterProbe.Log.Logged
import ClusterProbe.Settings

/-!
# Overriding settings

The environment wins over the file, and options on the command line win over both.
-/
namespace ClusterProbe

/-- The value of each variable that is set. -/
abbrev Environment := String → Option String

/-- A truth value in any of its spellings, in any case. -/
def Text.switch? (s : String) : Option Bool :=
  let word := String.ofList ((Text.trim s.toList).map Char.toLower)
  if ["1", "true", "yes", "on"].contains word then some true
  else if ["0", "false", "no", "off", ""].contains word then some false
  else none

namespace Settings

def overrideEvent (what value : String) : LogEvent where
  level := .info
  target := "yugatool::config"
  message := s!"{what} overridden by environment: {value}"

/-- Whether host verification is skipped: as the environment says, and as `default` says if it says
nothing. -/
def skipIn (env : Environment) (default : Bool) : Except Failure Bool :=
  match env "YUGATOOL_SKIP_HOST_VERIFICATION" with
  | none => .ok default
  | some value =>
    match Text.switch? value with
    | some b => .ok b
    | none => .error ⟨s!"invalid YUGATOOL_SKIP_HOST_VERIFICATION value {Text.quoted value}", []⟩

/-- Settings with the texts that the environment sets, empty or not. -/
def under (env : Environment) (skip : Bool) (s : Settings) : Settings :=
  { s with
    masterAddresses := (env "YUGATOOL_MASTER_ADDRESSES").or s.masterAddresses
    dialTimeout := (env "YUGATOOL_DIAL_TIMEOUT").or s.dialTimeout
    tls := {
      caPath := (env "YUGATOOL_CACERT").or s.tls.caPath
      certificatePath := (env "YUGATOOL_CLIENT_CERT").or s.tls.certificatePath
      keyPath := (env "YUGATOOL_CLIENT_KEY").or s.tls.keyPath
      skipHostVerification := skip } }

def withEnvironment (env : Environment) (s : Settings) : Logged Failure Settings := do
  if let some value := env "YUGATOOL_MASTER_ADDRESSES" then
    Logged.log (overrideEvent "Master addresses" value)
  if let some value := env "YUGATOOL_DIAL_TIMEOUT" then
    Logged.log (overrideEvent "Dial timeout" value)
  let skip ← Logged.lift (skipIn env s.tls.skipHostVerification)
  return s.under env skip

/-- Settings with what the command line says. Verification can be switched off there, not on. -/
def withOptions (o : Options) (s : Settings) : Settings :=
  { s with
    masterAddresses := o.masterAddresses.or s.masterAddresses
    dialTimeout := (o.dialTimeout.map Duration.spelled).or s.dialTimeout
    tls := {
      caPath := o.caPath.or s.tls.caPath
      certificatePath := o.certificatePath.or s.tls.certificatePath
      keyPath := o.keyPath.or s.tls.keyPath
      skipHostVerification := o.skipHostVerification || s.tls.skipHostVerification } }

end Settings
end ClusterProbe
