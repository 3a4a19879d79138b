import ClusterProbe.Program
import Std.Time

/-!
# The executable

Reads the environment and the files that the program will ask for, runs the program and writes what
it ends with. Hosts are not reached from here: every dial is refused.
-/
namespace ClusterProbe.Main

def ioError : IO.Error → IoError
  | .noFileOrDirectory .. => ⟨.notFound, some "No such file or directory (os error 2)"⟩
  | .permissionDenied .. => ⟨.permissionDenied, some "Permission denied (os error 13)"⟩
  | .inappropriateType .. => ⟨.other, some "Is a directory (os error 21)"⟩
  | e => ⟨.other, some (toString e)⟩

def readAll (paths : List String) : IO (List (String × Except IoError Bytes)) :=
  paths.mapM fun (path : String) => do
    match ← (IO.FS.readBinFile path).toBaseIO with
    | .ok content => return (path, .ok content.toList)
    | .error e => return (path, .error (ioError e))

def reader (contents : List (String × Except IoError Bytes)) : FileReader := fun path =>
  (contents.lookup path).getD (FileReader.none path)

def environment : IO Environment := do
  let values ← Program.environmentNames.mapM fun name => return (name, ← IO.getEnv name)
  return fun name => (values.lookup name).join

/-- Colours are for terminals that can show them. -/
def logStyle : IO LogStyle := do
  let time := (← Std.Time.PlainDateTime.now).format "uuuu-MM-dd HH:mm:ss.SSS"
  let dumb := (← IO.getEnv "TERM") == some "dumb"
  return { time, color := !dumb && (← (← IO.getStderr).isTty) }

end ClusterProbe.Main

open ClusterProbe in
def main (words : List String) : IO UInt32 := do
  let env ← Main.environment
  let first ← Main.readAll (Program.settingsPaths words)
  let trusted := Program.trustPaths (Main.reader first) env words
  let more ← Main.readAll (TlsClient.systemPath :: trusted)
  match Program.run (Main.reader (first ++ more)) env (← Main.logStyle) words with
  | none => return 1
  | some outcome =>
    IO.print outcome.output
    IO.eprint (outcome.errorOutput.getD CommandLine.usage)
    return outcome.exitCode.toUInt32
