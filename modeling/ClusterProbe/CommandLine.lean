import ClusterProbe.Duration.Spelled
import ClusterProbe.Report

/-!
# The command line

What can be asked for on the command line: a command with its operands, and options, which may stand
on either side of the command's name.
-/
namespace ClusterProbe

inductive Command where
  | ping (hosts : List String)
  | clusterInfo
  | getFlag (flag : String)
  deriving DecidableEq, Repr

/-- Why a command line is refused, or answered on the spot with help or the version. -/
inductive UsageError where
  | displayHelp | displayVersion | displayHelpOnMissingArgumentOrSubcommand | missingSubcommand
  | missingRequiredArgument | unknownArgument | invalidSubcommand | invalidValue | valueValidation
  | argumentConflict | tooManyValues
  deriving DecidableEq, Repr

namespace UsageError

def name : UsageError → String
  | displayHelp => "DisplayHelp"
  | displayVersion => "DisplayVersion"
  | displayHelpOnMissingArgumentOrSubcommand => "DisplayHelpOnMissingArgumentOrSubcommand"
  | missingSubcommand => "MissingSubcommand"
  | missingRequiredArgument => "MissingRequiredArgument"
  | unknownArgument => "UnknownArgument"
  | invalidSubcommand => "InvalidSubcommand"
  | invalidValue => "InvalidValue"
  | valueValidation => "ValueValidation"
  | argumentConflict => "ArgumentConflict"
  | tooManyValues => "TooManyValues"

end UsageError

/-- The options that were given; what is missing has a default. -/
structure Options where
  masterAddresses : Option String := none
  dialTimeout : Option Duration := none
  caPath : Option String := none
  certificatePath : Option String := none
  keyPath : Option String := none
  skipHostVerification : Bool := false
  configPath : Option String := none
  logLevel : Option String := none
  debug : Bool := false
  output : Option OutputFormat := none
  deriving DecidableEq, Repr, Inhabited

namespace Options

/-- The options of `o`, and those of `other` that `o` does not have. -/
def orElse (o other : Options) : Options where
  masterAddresses := o.masterAddresses.or other.masterAddresses
  dialTimeout := o.dialTimeout.or other.dialTimeout
  caPath := o.caPath.or other.caPath
  certificatePath := o.certificatePath.or other.certificatePath
  keyPath := o.keyPath.or other.keyPath
  skipHostVerification := o.skipHostVerification || other.skipHostVerification
  configPath := o.configPath.or other.configPath
  logLevel := o.logLevel.or other.logLevel
  debug := o.debug || other.debug
  output := o.output.or other.output

/-- A client certificate and its key go together. -/
def identityIsComplete (o : Options) : Bool :=
  o.certificatePath.isSome == o.keyPath.isSome

/-- The level below which nothing is logged, as it was given. -/
def levelText (o : Options) : String :=
  o.logLevel.getD "warn"

def effectiveLevel (o : Options) : String :=
  if o.debug then "debug" else o.levelText

def outputFormat (o : Options) : OutputFormat :=
  o.output.getD .table

end Options

structure CommandLine where
  command : Command
  options : Options := {}
  deriving DecidableEq, Repr

def CommandLine.usage : String :=
  "Inspect a YugabyteDB cluster over its native RPC protocol\n\n" ++
    "Usage: yugatool [OPTIONS] <COMMAND>\n\n" ++
    "Commands: ping <HOSTS>..., cluster-info, get-flag <FLAG>\n"

end ClusterProbe
