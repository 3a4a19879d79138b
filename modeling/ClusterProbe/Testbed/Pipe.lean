import ClusterProbe.Bytes
import ClusterProbe.IoError

/-!
# Pipes

One direction of a connection inside the process: bytes that are written wait in a buffer until they
are read. A closed pipe takes no more, and what it holds can still be read.
-/
namespace ClusterProbe

/-- More rounds than any exchange in the process takes. -/
def Testbed.patience : Nat := 1000000000

structure Pipe where
  capacity : Nat := 65536
  buffer : Bytes := []
  closed : Bool := false
  deriving DecidableEq, Repr

namespace Pipe

def room (p : Pipe) : Nat :=
  p.capacity - p.buffer.length

/-- Takes as many of the bytes as there is room for; without any room the writer waits. -/
def write (bytes : Bytes) (p : Pipe) : Option (Except IoError Nat × Pipe) :=
  if p.closed then some (.error .brokenPipe, p)
  else if p.room = 0 then none
  else some (.ok (min p.room bytes.length), { p with buffer := p.buffer ++ bytes.take p.room })

/-- Hands out what there is, at most `count` bytes; nothing, once nothing more can come. -/
def read (count : Nat) (p : Pipe) : Option (Bytes × Pipe) :=
  if p.buffer.isEmpty ∧ !p.closed ∧ 0 < count then none
  else some (p.buffer.take count, { p with buffer := p.buffer.drop count })

def close (p : Pipe) : Pipe :=
  { p with closed := true }

end Pipe
end ClusterProbe
