/-!
# Input and output failures

A failure of a stream, a file or a dial: a kind, and a text of its own if whoever raised it gave
one.
-/
namespace ClusterProbe

inductive IoKind where
  | connectionRefused | connectionReset | unexpectedEof | brokenPipe | notFound | notConnected
  | permissionDenied | timedOut | invalidData | invalidInput | other
  deriving DecidableEq, Repr

namespace IoKind

def name : IoKind → String
  | connectionRefused => "ConnectionRefused"
  | connectionReset => "ConnectionReset"
  | unexpectedEof => "UnexpectedEof"
  | brokenPipe => "BrokenPipe"
  | notFound => "NotFound"
  | notConnected => "NotConnected"
  | permissionDenied => "PermissionDenied"
  | timedOut => "TimedOut"
  | invalidData => "InvalidData"
  | invalidInput => "InvalidInput"
  | other => "Other"

def description : IoKind → String
  | connectionRefused => "connection refused"
  | connectionReset => "connection reset"
  | unexpectedEof => "unexpected end of file"
  | brokenPipe => "broken pipe"
  | notFound => "entity not found"
  | notConnected => "not connected"
  | permissionDenied => "permission denied"
  | timedOut => "timed out"
  | invalidData => "invalid data"
  | invalidInput => "invalid input parameter"
  | other => "other error"

def all : List IoKind :=
  [connectionRefused, connectionReset, unexpectedEof, brokenPipe, notFound, notConnected,
    permissionDenied, timedOut, invalidData, invalidInput, other]

def ofName? (s : String) : Option IoKind :=
  all.find? (·.name == s)

end IoKind

structure IoError where
  kind : IoKind
  text : Option String := none
  deriving DecidableEq, Repr

namespace IoError

def message (e : IoError) : String :=
  e.text.getD e.kind.description

/-- A stream ended inside something that was to be read whole. -/
def earlyEof : IoError := ⟨.unexpectedEof, some "early eof"⟩

/-- The far end of a stream is gone. -/
def brokenPipe : IoError := ⟨.brokenPipe, none⟩

end IoError
end ClusterProbe
