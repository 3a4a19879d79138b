import ClusterProbe.Cluster.Host
import ClusterProbe.Log

/-!
# Jobs

A job is what a client does, as a tree: at each node it asks its surroundings for one thing and
goes on with the answer. What it asks for is an `Effect`: bytes on a connection, a session that
others may be using, a place in the pool of hosts. Asking is the only point where a job may have to
wait, where other jobs get their turn, and where it can be given up. Who answers, and in which
order jobs get their turn, is not the job's business.
-/
namespace ClusterProbe

/-- A place for one host in the pool. -/
abbrev SlotId := Nat

inductive Effect where
  | log (event : LogEvent)
  | clock
  | dial (endpoint : Endpoint)
  /-- Writes as many of the bytes as there is room for. -/
  | write (c : ConnectionId) (bytes : Bytes)
  /-- Waits until what was written has gone out. -/
  | flush (c : ConnectionId)
  /-- Reads what there is, at most `count` bytes; at the end there is nothing. -/
  | read (c : ConnectionId) (count : Nat)
  /-- Starts to look out for a new frame. -/
  | expect (c : ConnectionId)
  /-- Reads the payload of the frame that was being looked out for. -/
  | receive (c : ConnectionId) (limit : Nat) (callId : Int32)
  | hangUp (c : ConnectionId)
  | openSession (endpoint : Endpoint) (c : ConnectionId)
  /-- Takes a session for oneself, after those who asked before. -/
  | acquire (s : SessionId)
  /-- Records the state of a session that one holds. -/
  | store (s : SessionId) (state : Session)
  | release (s : SessionId)
  /-- A session that no one holds and that can carry no more calls. -/
  | isDefunct (s : SessionId)
  /-- The slot of a server, made when it is first asked for. -/
  | slot (uuid : Uuid)
  /-- The slot of a server, replaced by a new one if it still is `stale`. -/
  | evict (uuid : Uuid) (stale : SlotId)
  | slotHost (i : SlotId)
  /-- Takes the right to fill a slot, after those who asked before. -/
  | enter (i : SlotId)
  | fill (i : SlotId) (host : Host)
  | leave (i : SlotId)
  | pooled

namespace Effect

@[reducible] def Response : Effect → Type
  | log _ => Unit
  | clock => Nat
  | dial _ => Except SessionError ConnectionId
  | write _ _ => Except IoError Nat
  | flush _ => Except IoError Unit
  | read _ _ => Except IoError Bytes
  | expect _ => Unit
  | receive _ _ _ => Except SessionError Bytes
  | hangUp _ => Except IoError Unit
  | openSession _ _ => SessionId
  | acquire _ => Session
  | store _ _ => Unit
  | release _ => Unit
  | isDefunct _ => Bool
  | slot _ => SlotId
  | evict _ _ => SlotId
  | slotHost _ => Option Host
  | enter _ => Unit
  | fill _ _ => Unit
  | leave _ => Unit
  | pooled => List Host

end Effect

inductive Job (α : Type) where
  | done (result : α)
  | perform (effect : Effect) (next : effect.Response → Job α)

namespace Job

variable {α β : Type}

protected def bind : Job α → (α → Job β) → Job β
  | done a, f => f a
  | perform e next, f => perform e fun r => (next r).bind f

instance : Monad Job where
  pure := done
  bind := Job.bind

theorem bind_done (x : Job α) : x.bind done = x := by
  induction x with
  | done a => rfl
  | perform e next ih => exact congrArg (perform e) (funext ih)

theorem bind_assoc {γ : Type} (x : Job α) (f : α → Job β) (g : β → Job γ) :
    (x.bind f).bind g = x.bind fun a => (f a).bind g := by
  induction x with
  | done a => rfl
  | perform e next ih => exact congrArg (perform e) (funext ih)

instance : LawfulMonad Job :=
  LawfulMonad.mk' Job bind_done (fun _ _ => rfl) bind_assoc

def ask (e : Effect) : Job e.Response :=
  perform e done

def log (level : LogLevel) (target message : String) (fields : List (String × String)) :
    Job Unit :=
  ask (.log { level, target, message, fields })

end Job
end ClusterProbe
