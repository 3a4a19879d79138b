import ClusterProbe.Decimal
import ClusterProbe.Log
import ClusterProbe.Text.Blank

/-!
# Log filters

Which events are shown. A filter is a list of directives, each a level for all targets or for those
that start with a given path; the longest path that fits an event decides.
-/
namespace ClusterProbe

/-- The least severe level that is shown, or nothing at all. -/
abbrev LevelLimit := Option LogLevel

namespace LevelLimit

def shows (limit : LevelLimit) (level : LogLevel) : Bool :=
  match limit with
  | some l => level.rank ≤ l.rank
  | none => false

/-- A level is named in any case, or numbered from 0 to 5. -/
def parse? (s : String) : Option LevelLimit :=
  match Decimal.natBelow? 6 s.toList with
  | some 0 => some none
  | some 1 => some (some .error)
  | some 2 => some (some .warn)
  | some 3 => some (some .info)
  | some 4 => some (some .debug)
  | some _ => some (some .trace)
  | none =>
    match String.ofList (s.toList.map Char.toLower) with
    | "off" => some none
    | "error" => some (some .error)
    | "warn" => some (some .warn)
    | "info" => some (some .info)
    | "debug" => some (some .debug)
    | "trace" => some (some .trace)
    | _ => none

/-- The level behind a target; none at all shows everything. -/
def ofSuffix? (s : String) : Option LevelLimit :=
  if s.isEmpty then some (some .trace) else parse? s

end LevelLimit

inductive LevelError where
  | invalidDirective
  | unknownLevel
  deriving DecidableEq, Repr

namespace LevelError

def message : LevelError → String
  | invalidDirective => "invalid filter directive"
  | unknownLevel => "error parsing level filter: expected one of \"off\", \"error\", \"warn\", " ++
      "\"info\", \"debug\", \"trace\", or a number 0-5"

def sources : LevelError → List String
  | invalidDirective => []
  | unknownLevel => [message unknownLevel]

end LevelError

structure LogDirective where
  /-- Empty for a directive on all targets. -/
  path : String
  limit : LevelLimit
  deriving DecidableEq, Repr

abbrev LogFilter := List LogDirective

namespace LogFilter

def ownTargets : List String := ["yugatool", "yb_client", "yb_session", "yb_wire"]

/-- What the level options set: their level for the program's own targets, warnings for the rest. -/
def ofLevel (limit : LevelLimit) : LogFilter :=
  ⟨"", some .warn⟩ :: ownTargets.map (⟨·, limit⟩)

/-- One directive of a filter text: a level, a target, or a target and a level. A target without a
level shows everything. White space in front is refused where a level follows. -/
def directive (cs : List Char) : Except LevelError LogDirective :=
  let starts := fun (c : Char) =>
    c.isAlphanum || 0x80 ≤ c.toNat || "-:_[".toList.contains c
  if !((Text.trim cs).head?.map starts).getD false then .error .invalidDirective
  else
    let path := String.ofList (cs.takeWhile (· != '='))
    match cs.dropWhile (· != '=') with
    | [] => .ok (match LevelLimit.parse? path with
      | some limit => ⟨"", limit⟩
      | none => ⟨path, some .trace⟩)
    | _ :: level =>
      match LevelLimit.ofSuffix? (String.ofList level) with
      | some limit =>
        if cs.head?.any Text.isBlank then .error .unknownLevel else .ok ⟨path, limit⟩
      | none => .error .unknownLevel

/-- What stands between the commas of a filter text. -/
def pieces (s : String) : List (List Char) :=
  (s.toList.splitOn ',').filter (!·.isEmpty)

/-- The directives of a filter text; those that do not parse are left out. Without any, errors are
shown. -/
def parse (s : String) : LogFilter :=
  match (pieces s).filterMap fun cs => (directive cs).toOption with
  | [] => [⟨"", some .error⟩]
  | ds => ds

/-- A line about each directive that is left out. -/
def complaints (s : String) : List String :=
  (pieces s).filterMap fun cs =>
    match directive cs with
    | .ok _ => none
    | .error e => some ("ignoring \x60" ++ String.ofList cs ++ "\x60: " ++ e.message ++ "\n")

/-- The directive that decides about a target: the one with the longest path, the last of equal
ones. -/
def decide? (f : LogFilter) (target : String) : Option LogDirective :=
  (f.filter fun d => d.path.isPrefixOf target).foldl
    (fun best d => match best with
      | some b => if b.path.length ≤ d.path.length then some d else some b
      | none => some d) none

def shows (f : LogFilter) (e : LogEvent) : Bool :=
  match f.decide? e.target with
  | some d => d.limit.shows e.level
  | none => false

def ofLevelText (s : String) : Except LevelError LogFilter :=
  if s.toList.contains ',' then .error .invalidDirective
  else
    match LevelLimit.ofSuffix? s with
    | some limit => .ok (ofLevel limit)
    | none => .error .unknownLevel

end LogFilter
end ClusterProbe
