import ClusterProbe.CommandLine.Parser
import ClusterProbe.Log.Filter
import ClusterProbe.Program.Task
import ClusterProbe.Settings.File
import ClusterProbe.Settings.Override

/-!
# The program

From the words of the command line to what is printed and the exit code. The log and the report of
a failure go to the error output, the report of a command to the standard output.
-/
namespace ClusterProbe

structure Outcome where
  exitCode : UInt8
  output : String
  /-- Not known where it is a usage text. -/
  errorOutput : Option String
  deriving DecidableEq, Repr

structure LogStyle where
  /-- What every line is stamped with. -/
  time : String
  color : Bool := false
  deriving DecidableEq, Repr

namespace Program

def versionText : String := "yugatool 0.1.0\n"

/-- The filter for log events: the one in the environment decides alone, else the level options. -/
def logFilter (env : Environment) (o : Options) : Except Failure LogFilter :=
  match env "RUST_LOG" with
  | some text => .ok (LogFilter.parse text)
  | none => (LogFilter.ofLevelText o.effectiveLevel).mapError fun e => ⟨e.message, e.sources⟩

/-- What is said about the filter in the environment before anything else. -/
def complaints (env : Environment) : String :=
  String.join (((env "RUST_LOG").map LogFilter.complaints).getD [])

/-- The settings of the file that the options name. Without a file nothing is set. -/
def fileSettings (files : FileReader) (o : Options) : Logged Failure Settings :=
  match o.configPath with
  | some path => Settings.load files path
  | none => pure {}

/-- The settings that count: those of the file, under the environment, under the options. -/
def effectiveSettings (files : FileReader) (env : Environment) (o : Options) :
    Logged Failure Settings := do
  let s ← fileSettings files o
  let s := (← s.withEnvironment env).withOptions o
  Logged.log {
    level := .debug, target := "yugatool", message := "effective configuration"
    fields := [("config", s.debugText)] }
  return s

/-- Servers that did not answer make the whole ping a failure, after its report. -/
def unpinged : Report → Option Failure
  | .ping r =>
    let failed := r.servers.countP fun row => row.error.isSome
    if failed = 0 then none
    else some ⟨s!"{failed} of {r.servers.length} servers could not be pinged", []⟩
  | _ => none

/-- Ends with what was printed and logged, and the failure if there was one. -/
def finish (complaints : String) (lines : LogEvent → String) (events : List LogEvent)
    (output : String) (failure : Option Failure) : Outcome where
  exitCode := if failure.isSome then 1 else 0
  output := output
  errorOutput :=
    some (complaints ++ String.join (events.map lines) ++ (failure.map Failure.report).getD "")

/-- Runs a command line. There is no outcome if the program never ends. -/
def runLine (files : FileReader) (env : Environment) (style : LogStyle) (line : CommandLine) :
    Option Outcome :=
  match logFilter env line.options with
  | .error failure => some (finish "" (fun _ => "") [] "" (some failure))
  | .ok filter =>
    let logged := fun e : LogEvent =>
      if filter.shows e then LogLine.format "yugatool" style.time style.color e else ""
    let finish := finish (complaints env) logged
    match (effectiveSettings files env line.options).result with
    | (.error failure, events) => some (finish events "" (some failure))
    | (.ok settings, events) =>
      let (outcome, more) := line.command.run files settings
      outcome.map fun
        | .error failure => finish (events ++ more) "" (some failure)
        | .ok report =>
          finish (events ++ more) (report.render line.options.outputFormat) (unpinged report)

def run (files : FileReader) (env : Environment) (style : LogStyle) (words : List String) :
    Option Outcome :=
  match CommandLine.parse words with
  | .ok line => runLine files env style line
  | .error .displayVersion => some ⟨0, versionText, some ""⟩
  | .error .displayHelp => some ⟨0, CommandLine.usage, some ""⟩
  | .error _ => some ⟨2, "", none⟩

/-- The environment variables that make a difference. -/
def environmentNames : List String :=
  ["YUGATOOL_MASTER_ADDRESSES", "YUGATOOL_DIAL_TIMEOUT", "YUGATOOL_CACERT", "YUGATOOL_CLIENT_CERT",
    "YUGATOOL_CLIENT_KEY", "YUGATOOL_SKIP_HOST_VERIFICATION", "RUST_LOG"]

def settingsPaths (words : List String) : List String :=
  match CommandLine.parse words with
  | .ok line => line.options.configPath.toList
  | .error _ => []

/-- The files that the settings name, which can be read in `files`. -/
def trustPaths (files : FileReader) (env : Environment) (words : List String) : List String :=
  match CommandLine.parse words with
  | .error _ => []
  | .ok line =>
    match (effectiveSettings files env line.options).result.1 with
    | .ok s => [s.tls.caPath, s.tls.certificatePath, s.tls.keyPath].filterMap id
    | .error _ => []

end Program
end ClusterProbe
