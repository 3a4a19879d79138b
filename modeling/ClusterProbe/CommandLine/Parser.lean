import ClusterProbe.CommandLine

/-!
# Reading the command line

Words are taken from left to right. An option may have its value attached or in the next word; a
value in the next word is looked at only when something else follows it, so that an unknown option
is reported before it. On each side of the command's name an option may be given once; the one
behind the name wins over the one in front of it. After `--` every word is an operand.
-/
namespace ClusterProbe

/-- The options that take a value. -/
inductive ValueOption where
  | masterAddresses | dialTimeout | caPath | certificatePath | keyPath | configPath | logLevel
  | output
  deriving DecidableEq, Repr

/-- The options that stand for themselves. -/
inductive Switch where
  | skipHostVerification | debug | help | version
  deriving DecidableEq, Repr

namespace Options

def set {α : Type} (old : Option α) (new : Except UsageError α) (put : α → Options) :
    Except UsageError Options :=
  if old.isSome then .error .argumentConflict else new.map put

/-- Gives an option its value. That it has none yet is checked before the value. -/
def setValue (o : Options) (option : ValueOption) (value : String) : Except UsageError Options :=
  match option with
  | .masterAddresses => set o.masterAddresses (.ok value) fun v => { o with masterAddresses := v }
  | .dialTimeout =>
    set o.dialTimeout ((Duration.parse value).mapError fun _ => .valueValidation) fun v =>
      { o with dialTimeout := v }
  | .caPath => set o.caPath (.ok value) fun v => { o with caPath := v }
  | .certificatePath => set o.certificatePath (.ok value) fun v => { o with certificatePath := v }
  | .keyPath => set o.keyPath (.ok value) fun v => { o with keyPath := v }
  | .configPath =>
    set o.configPath (if value.isEmpty then .error .invalidValue else .ok value) fun v =>
      { o with configPath := v }
  | .logLevel => set o.logLevel (.ok value) fun v => { o with logLevel := v }
  | .output =>
    let format := match value with
      | "table" => .ok .table
      | "json" => .ok .json
      | "yaml" => .ok .yaml
      | _ => .error .invalidValue
    set o.output format fun v => { o with output := v }

def setSwitch (o : Options) : Switch → Except UsageError Options
  | .skipHostVerification =>
    if o.skipHostVerification then .error .argumentConflict
    else .ok { o with skipHostVerification := true }
  | .debug => if o.debug then .error .argumentConflict else .ok { o with debug := true }
  | .help => .error .displayHelp
  | .version => .error .displayVersion

end Options

namespace CommandLine

def optionNames : List (String × (ValueOption ⊕ Switch)) :=
  [("master-addresses", .inl .masterAddresses), ("dial-timeout", .inl .dialTimeout),
    ("cacert", .inl .caPath), ("client-cert", .inl .certificatePath),
    ("client-key", .inl .keyPath), ("skip-host-verification", .inr .skipHostVerification),
    ("config", .inl .configPath), ("log-level", .inl .logLevel), ("debug", .inr .debug),
    ("output", .inl .output), ("help", .inr .help), ("version", .inr .version)]

def optionLetters : List (Char × (ValueOption ⊕ Switch)) :=
  [('m', .inl .masterAddresses), ('o', .inl .output), ('h', .inr .help), ('V', .inr .version)]

/-- One side of the command line while it is read: the words in front of the command's name, or
those behind it. -/
structure Side where
  options : Options := {}
  /-- The option that was named last and the value in the next word, once that is there. -/
  pending : Option (ValueOption × Option String) := none
  /-- Only operands follow. -/
  closed : Bool := false
  /-- The version can be asked for in front of the command's name. -/
  hasVersion : Bool
  deriving DecidableEq, Repr

namespace Side

def awaitsValue (s : Side) : Bool :=
  match s.pending with
  | some (_, none) => true
  | _ => false

def settle (s : Side) : Except UsageError Side :=
  match s.pending with
  | none => .ok s
  | some (_, none) => .error .invalidValue
  | some (option, some value) =>
    (s.options.setValue option value).map fun options => { s with options, pending := none }

/-- An option, with the value that is attached to it. -/
def takeOption (s : Side) (option : ValueOption) : Option String → Except UsageError Side
  | none => s.settle.map fun s => { s with pending := some (option, none) }
  | some value => do
    let s ← s.settle
    return { s with options := ← s.options.setValue option value }

def takeSwitch (s : Side) (switch : Switch) : Except UsageError Side := do
  let s ← s.settle
  return { s with options := ← s.options.setSwitch switch }

/-- What a name stands for on this side. -/
def known (s : Side) (option : Option (ValueOption ⊕ Switch)) : Option (ValueOption ⊕ Switch) :=
  option.filter fun o => s.hasVersion || o != .inr .version

/-- An option by its long name, perhaps with a value behind an equals sign. -/
def takeLong (s : Side) (body : List Char) : Except UsageError Side :=
  let name := String.ofList (body.takeWhile (· ≠ '='))
  let value := match body.dropWhile (· ≠ '=') with
    | [] => none
    | _ :: value => some (String.ofList value)
  match s.known (optionNames.lookup name), value with
  | none, _ => .error .unknownArgument
  | some (.inl option), value => s.takeOption option value
  | some (.inr _), some _ => .error .tooManyValues
  | some (.inr switch), none => s.takeSwitch switch

/-- Options by their letters. What follows the letter of an option with a value is that value. -/
def takeShort (s : Side) : List Char → Except UsageError Side
  | [] => .ok s
  | c :: cs =>
    match s.known (optionLetters.lookup c) with
    | none => .error .unknownArgument
    | some (.inl option) =>
      let value := match cs with
        | [] => none
        | '=' :: value => some (String.ofList value)
        | value => some (String.ofList value)
      s.takeOption option value
    | some (.inr switch) => do (← s.takeSwitch switch).takeShort cs

/-- How a word is to be taken on a side. -/
inductive Word where
  | close
  | long (body : List Char)
  | short (letters : List Char)
  | value
  | operand
  deriving DecidableEq, Repr

def classify (s : Side) (word : String) : Word :=
  if s.closed then .operand
  else
    match word.toList with
    | ['-', '-'] => .close
    | '-' :: '-' :: body => .long body
    | '-' :: c :: cs => .short (c :: cs)
    | _ => if s.awaitsValue then .value else .operand

/-- Takes a word that is no operand. -/
def take (s : Side) (word : String) : Word → Except UsageError Side
  | .close => .ok { s with closed := true }
  | .long body => s.takeLong body
  | .short letters => s.takeShort letters
  | .value => .ok { s with pending := s.pending.map fun (option, _) => (option, some word) }
  | .operand => s.settle

def finish (s : Side) : Except UsageError Options :=
  s.settle.map Side.options

end Side

/-- A command whose operands are still being read. -/
def commandNamed? : String → Option Command
  | "ping" => some (.ping [])
  | "cluster-info" => some .clusterInfo
  | "get-flag" => some (.getFlag "")
  | _ => none

/-- How many operands a command takes, at least and at most. -/
def operandRange : Command → Nat × Option Nat
  | .ping _ => (1, none)
  | .clusterInfo => (0, some 0)
  | .getFlag _ => (1, some 1)

def withOperands (operands : List String) : Command → Command
  | .ping _ => .ping operands
  | .clusterInfo => .clusterInfo
  | .getFlag _ => .getFlag (operands.headD "")

def readOperands (command : Command) (s : Side) (operands : List String) :
    List String → Except UsageError (Command × Options)
  | [] => do
    let options ← s.finish
    if operands.length < (operandRange command).1 ∨ !options.identityIsComplete then
      throw .missingRequiredArgument
    return (withOperands operands command, options)
  | word :: words =>
    match s.classify word with
    | .operand =>
      if (operandRange command).2.any (· ≤ operands.length) then .error .unknownArgument
      else do readOperands command (← s.settle) (operands ++ [word]) words
    | kind => do readOperands command (← s.take word kind) operands words

/-- Help may be asked for with the name of a command. -/
def help : List String → UsageError
  | [] | ["ping"] | ["cluster-info"] | ["get-flag"] | ["help"] => .displayHelp
  | _ => .invalidSubcommand

/-- The words in front of the command's name, the name and what follows it. -/
def read (s : Side) : List String → Except UsageError CommandLine
  | [] => do
    let options ← s.finish
    throw (if options = {} then .displayHelpOnMissingArgumentOrSubcommand else .missingSubcommand)
  | word :: words =>
    match s.classify word with
    | .operand =>
      if s.closed then
        .error (if word = "help" ∨ (commandNamed? word).isSome then .unknownArgument
          else .invalidSubcommand)
      else if word = "help" then .error (help words)
      else
        match commandNamed? word with
        | none => .error .invalidSubcommand
        | some command => do
          let (command, inner) ← readOperands command { hasVersion := false } [] words
          let outer ← s.finish
          if !outer.identityIsComplete then throw .missingRequiredArgument
          return { command, options := inner.orElse outer }
    | kind => do read (← s.take word kind) words

def parse (words : List String) : Except UsageError CommandLine :=
  read { hasVersion := true } words

end CommandLine
end ClusterProbe
