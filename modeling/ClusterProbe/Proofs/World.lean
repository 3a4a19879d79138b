import ClusterProbe.Testbed.Run

/-!
# Worlds

A testbed together with all that has happened in it. What a thread gets for an effect is what the
testbed answers, or a failure of the stream at that point; between two answers the far ends of the
connections do as they please. The chronicle of a world tells what was written on a connection, what
arrived on it and what has been taken of that, so that statements about whole runs can be read off
it.
-/
namespace ClusterProbe

inductive Event where
  /-- A thread gets what it asked for. -/
  | answered (t : ThreadId) (e : Effect) (r : e.Response)
  /-- The far end of a connection sends. -/
  | arrived (c : ConnectionId) (bytes : Bytes)
  /-- The client takes from what has arrived. -/
  | took (c : ConnectionId) (bytes : Bytes)

namespace Event

/-- What the event adds to the bytes written on a connection. -/
def sent (c : ConnectionId) : Event → Bytes
  | answered _ (.write c' bytes) (.ok n) => if c' = c then bytes.take n else []
  | _ => []

def arrival (c : ConnectionId) : Event → Bytes
  | arrived c' bytes => if c' = c then bytes else []
  | _ => []

def taken (c : ConnectionId) : Event → Bytes
  | took c' bytes => if c' = c then bytes else []
  | _ => []

def stored (s : SessionId) : Event → Option Session
  | answered _ (.store s' state) _ => if s' = s then some state else none
  | _ => none

def dialed : Event → Option Endpoint
  | answered _ (.dial endpoint) _ => some endpoint
  | _ => none

def opened : Event → Option ConnectionId
  | answered _ (.dial _) (.ok c) => some c
  | _ => none

def hungUp : Event → Option ConnectionId
  | answered _ (.hangUp c) _ => some c
  | _ => none

end Event

/-- What has happened, in order. -/
abbrev Chronicle := List Event

namespace Chronicle

variable (c : ConnectionId) (s : SessionId) (g h : Chronicle) (ev : Event)

def sent : Bytes := h.flatMap (Event.sent c)

/-- All that the far end of a connection has sent. -/
def arrived : Bytes := h.flatMap (Event.arrival c)

/-- All that the client has read of it. -/
def taken : Bytes := h.flatMap (Event.taken c)

def stored : List Session := h.filterMap (Event.stored s)

def dialed : List Endpoint := h.filterMap Event.dialed

def opened : List ConnectionId := h.filterMap Event.opened

def hungUp : List ConnectionId := h.filterMap Event.hungUp

@[simp] theorem sent_nil : sent c [] = [] := rfl
@[simp] theorem arrived_nil : arrived c [] = [] := rfl
@[simp] theorem taken_nil : taken c [] = [] := rfl
@[simp] theorem stored_nil : stored s [] = [] := rfl
@[simp] theorem dialed_nil : dialed [] = [] := rfl
@[simp] theorem opened_nil : opened [] = [] := rfl
@[simp] theorem hungUp_nil : hungUp [] = [] := rfl

@[simp] theorem sent_cons : sent c (ev :: h) = ev.sent c ++ sent c h := rfl
@[simp] theorem arrived_cons : arrived c (ev :: h) = ev.arrival c ++ arrived c h := rfl
@[simp] theorem taken_cons : taken c (ev :: h) = ev.taken c ++ taken c h := rfl

@[simp] theorem stored_cons : stored s (ev :: h) = (ev.stored s).toList ++ stored s h := by
  cases he : ev.stored s <;> simp [stored, he]

@[simp] theorem dialed_cons : dialed (ev :: h) = ev.dialed.toList ++ dialed h := by
  cases he : ev.dialed <;> simp [dialed, he]

@[simp] theorem opened_cons : opened (ev :: h) = ev.opened.toList ++ opened h := by
  cases he : ev.opened <;> simp [opened, he]

@[simp] theorem hungUp_cons : hungUp (ev :: h) = ev.hungUp.toList ++ hungUp h := by
  cases he : ev.hungUp <;> simp [hungUp, he]

@[simp] theorem sent_append : sent c (g ++ h) = sent c g ++ sent c h := List.flatMap_append
@[simp] theorem arrived_append : arrived c (g ++ h) = arrived c g ++ arrived c h :=
  List.flatMap_append
@[simp] theorem taken_append : taken c (g ++ h) = taken c g ++ taken c h := List.flatMap_append
@[simp] theorem stored_append : stored s (g ++ h) = stored s g ++ stored s h :=
  List.filterMap_append
@[simp] theorem dialed_append : dialed (g ++ h) = dialed g ++ dialed h := List.filterMap_append
@[simp] theorem opened_append : opened (g ++ h) = opened g ++ opened h := List.filterMap_append
@[simp] theorem hungUp_append : hungUp (g ++ h) = hungUp g ++ hungUp h := List.filterMap_append

end Chronicle

namespace Effect

/-- The connection that an effect reads from. -/
def source? : Effect → Option ConnectionId
  | read c _ | receive c _ _ => some c
  | _ => none

/-- The connections that an effect is about. -/
def streams : Effect → List ConnectionId
  | .write c _ | .flush c | .read c _ | .expect c | .receive c _ _ | .hangUp c
  | .openSession _ c => [c]
  | .store _ v => v.stream.toList
  | _ => []

/-- The effects that open, take, change or give back sessions. -/
def touchesSessions : Effect → Bool
  | openSession _ _ | acquire _ | store _ _ | release _ => true
  | _ => false

/-- The effects on the pool and its slots. -/
def touchesPool : Effect → Bool
  | slot _ | evict _ _ | enter _ | fill _ _ | leave _ => true
  | _ => false

end Effect

/-- What it means to the reader of a frame that the stream fails. -/
def FrameReader.failure (callId : Int32) (error : IoError) : FrameReader → SessionError
  | .word _ => .protocol (.frameLength callId error)
  | .payload _ _ => .io error

/-- A failure that the surroundings may add to what the testbed answers: a dial that comes to
nothing, a stream that breaks, a connection that is shut down with an error. -/
def Effect.Fails : (e : Effect) → Testbed → e.Response → Testbed → Prop
  | .dial endpoint => fun bed r bed' => (∃ error, r = .error error) ∧
      bed' = bed.onNetwork fun n => { n with dialed := endpoint :: n.dialed }
  | .write _ _ => fun bed r bed' => (∃ error, r = .error error) ∧ bed' = bed
  | .flush _ => fun bed r bed' => (∃ error, r = .error error) ∧ bed' = bed
  | .read _ _ => fun bed r bed' => (∃ error, r = .error error) ∧ bed' = bed
  | .receive c _ callId => fun bed r bed' =>
      (∃ k error, bed.network.connections[c]? = some k ∧
        r = .error (k.reader.failure callId error)) ∧ bed' = bed
  | .hangUp c => fun bed r bed' =>
      (∃ error, r = .error error) ∧ bed' = bed.onNetwork (Network.hangUp c)
  | _ => fun _ _ _ => False

/-- What the far end of a connection may do to it: it sends, it takes what was sent to it, it ends
either direction. It takes back nothing, and what belongs to the client it leaves alone. -/
structure Connection.Moves (k : Connection) (sent : Bytes) (k' : Connection) : Prop where
  unread : k'.toClient.buffer = k.toClient.buffer ++ sent
  silent : k.toClient.closed = true → sent = [] ∧ k'.toClient.closed = true
  refuses : k.toServer.closed = true → k'.toServer.closed = true
  reader : k'.reader = k.reader
  owner : k'.owner = k.owner
  endpoint : k'.endpoint = k.endpoint

/-- What has arrived on a connection and has not been read. -/
def Testbed.unread (c : ConnectionId) (bed : Testbed) : Bytes :=
  (bed.network.connections[c]?.map fun k => k.toClient.buffer).getD []

structure World where
  bed : Testbed
  past : Chronicle := []

namespace World

/-- What an effect takes from its connection on the way to the testbed `bed`. -/
def taking (w : World) (e : Effect) (bed : Testbed) : Chronicle :=
  match e.source? with
  | some c =>
    let before := w.bed.unread c
    [.took c (before.take (before.length - (bed.unread c).length))]
  | none => []

/-- What stands ready on a connection from the start. -/
def greeting (bed : Testbed) : (e : Effect) → e.Response → Chronicle
  | .dial _, .ok c => [.arrived c (bed.unread c)]
  | _, _ => []

/-- The world after a thread was answered and the testbed became `bed`. -/
def after (w : World) (t : ThreadId) (e : Effect) (r : e.Response) (bed : Testbed) : World where
  bed := bed
  past := w.past ++ (w.taking e bed ++ .answered t e r :: greeting bed e r)

/-- Thread `t` asks for `e` and gets `r`. -/
def Answers (w : World) (t : ThreadId) (e : Effect) (r : e.Response) (w' : World) : Prop :=
  ∃ bed, (w.bed.answer t e = (some r, bed) ∨ e.Fails w.bed r bed) ∧ w' = w.after t e r bed

/-- Thread `t` asks for `e` and has to wait. -/
def Stalls (w : World) (t : ThreadId) (e : Effect) (w' : World) : Prop :=
  ∃ bed, w.bed.answer t e = (none, bed) ∧
    w' = { bed, past := w.past ++ w.taking e bed }

/-- Something goes on that no thread has asked for: a far end moves, time passes, servers come and
go. -/
inductive Moves (w : World) : World → Prop
  | farEnd {c : ConnectionId} {k k' : Connection} {sent : Bytes} (network : Network)
      (found : w.bed.network.connections[c]? = some k) (moves : k.Moves sent k')
      (connections : network.connections = w.bed.network.connections.set c k')
      (dialed : network.dialed = w.bed.network.dialed) :
      w.Moves { bed := { w.bed with network }, past := w.past ++ [.arrived c sent] }
  | elsewhere (network : Network)
      (connections : network.connections = w.bed.network.connections)
      (dialed : network.dialed = w.bed.network.dialed) :
      w.Moves { bed := { w.bed with network }, past := w.past }

def cancel (w : World) (t : ThreadId) : World :=
  { w with bed := w.bed.cancel t }

end World
end ClusterProbe
