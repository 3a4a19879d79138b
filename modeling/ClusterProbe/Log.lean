import ClusterProbe.Text.Quoted

/-!
# Log events

What the program reports while it works: a level, the part of the program that speaks, a message
and named values, in order. Values are kept as the text they are shown with.
-/
namespace ClusterProbe

inductive LogLevel where
  | error | warn | info | debug | trace
  deriving DecidableEq, Repr

namespace LogLevel

/-- The more severe a level, the lower its rank. -/
def rank : LogLevel → Nat
  | error => 1
  | warn => 2
  | info => 3
  | debug => 4
  | trace => 5

def label : LogLevel → String
  | error => "✗ ERROR"
  | warn => "⚠ WARN"
  | info => "ℹ INFO"
  | debug => "◦ DEBUG"
  | trace => "◦ TRACE"

/-- The escape sequence that colours a level on a terminal. -/
def color : LogLevel → String
  | error => "\x1b[91m"
  | warn => "\x1b[93m"
  | info => "\x1b[32m"
  | debug | trace => "\x1b[90m"

end LogLevel

structure LogEvent where
  level : LogLevel
  /-- Path of the part of the program that speaks. -/
  target : String
  message : String
  /-- A name for that part that takes the place of the target. -/
  component : Option String := none
  fields : List (String × String) := []
  deriving DecidableEq, Repr

namespace LogEvent

/-- Text values are quoted; anything else is shown as it is. -/
def quotedField (name value : String) : String × String :=
  (name, Text.quoted value)

end LogEvent

namespace LogLine

def componentWidth : Nat := 18

def levelWidth : Nat := 9

/-- The library that a target belongs to: its first segment without the common lead. -/
def targetComponent? (target : String) : Option String :=
  let segment := (target.splitOn "::").headD ""
  if "yb_".isPrefixOf segment then some (String.ofList (segment.toList.drop 3)) else none

/-- The name of who speaks: the tool, with the component if there is one. -/
def speaker (tool : String) (component : Option String) (target : String) : String :=
  match component.or (targetComponent? target) with
  | some c => s!"{tool}-{c}"
  | none => tool

/-- The speaker in a column of fixed width; a longer name is cut and ends in an ellipsis. -/
def componentColumn (tool : String) (component : Option String) (target : String) : String :=
  let cs := (speaker tool component target).toList
  if componentWidth < cs.length then String.ofList (cs.take (componentWidth - 1) ++ ['…'])
  else String.ofList (cs.rightpad componentWidth ' ')

def levelColumn (level : LogLevel) : String :=
  String.ofList (level.label.toList.rightpad levelWidth ' ')

/-- A component that was recorded as a value in quotes loses them. -/
def trimQuotes (s : String) : String :=
  let isQuote := fun c => c == '"'
  String.ofList ((s.toList.dropWhile isQuote).reverse.dropWhile isQuote).reverse

def fieldsText (fields : List (String × String)) : String :=
  String.join (fields.map fun (name, value) => s!" {name}={value}")

def format (tool time : String) (color : Bool) (e : LogEvent) : String :=
  let shade := fun s => if color then s else ""
  let reset := shade "\x1b[0m"
  let cyan := shade "\x1b[36m"
  let column := componentColumn tool e.component e.target
  s!"{cyan}[{time}] [{column}] [{shade e.level.color}{levelColumn e.level}{reset}] " ++
    s!"{e.message}{fieldsText e.fields}{reset}\n"

end LogLine
end ClusterProbe
