import ClusterProbe.Job
import ClusterProbe.Testbed.Network

/-!
# The testbed

The surroundings in which jobs run in the process: the network, the sessions that jobs share, and
the pool of hosts. `Testbed.answer` says what a job gets for what it asks, or that it has to wait.
-/
namespace ClusterProbe

/-- Something that one thread at a time may hold, with those who hold it or wait for it in order:
the first in the queue holds it. -/
structure Shared (α : Type) where
  value : α
  queue : List ThreadId := []

namespace Shared

variable {α : Type}

/-- Joins the queue, unless `t` stands in it already. -/
def join (t : ThreadId) (s : Shared α) : Shared α :=
  if t ∈ s.queue then s else { s with queue := s.queue ++ [t] }

def leave (t : ThreadId) (s : Shared α) : Shared α :=
  { s with queue := s.queue.filter (· ≠ t) }

def isHeldBy (t : ThreadId) (s : Shared α) : Bool :=
  s.queue.head? = some t

end Shared

structure Testbed where
  network : Network := {}
  sessions : List (Shared Session) := []
  slots : List (Shared (Option Host)) := []
  /-- The current slot of each server. -/
  pool : List (Uuid × SlotId) := []

namespace Testbed

def onNetwork (f : Network → Network) (bed : Testbed) : Testbed :=
  { bed with network := f bed.network }

/-- A new slot for a server, in place of the one it may have had. -/
def newSlot (uuid : Uuid) (bed : Testbed) : SlotId × Testbed :=
  let i := bed.slots.length
  (i, { bed with
    slots := bed.slots ++ [Shared.mk none []]
    pool := bed.pool.filter (·.1 ≠ uuid) ++ [(uuid, i)] })

def pooled (bed : Testbed) : List Host :=
  bed.pool.filterMap fun (_, i) => bed.slots[i]?.bind Shared.value

def skipEvent (callId : Int32) : LogEvent where
  level := .trace
  target := "yb_session::messenger"
  message := "skipping empty frame"
  fields := [("call_id", toString callId.toInt)]

/-- Reads on in a frame, as far as the bytes that have arrived go. -/
def receive (c : ConnectionId) (limit : Nat) (callId : Int32) (bed : Testbed) :
    Option (Except SessionError Bytes) × Testbed :=
  match bed.network.connections[c]? with
  | none => (some (.error (.io .brokenPipe)), bed)
  | some k =>
    let p := k.reader.readFrom (fun r => (r.outcome? limit).isSome) k.toClient.buffer
    let k := { k with reader := p.reader, toClient.buffer := p.rest }
    let bed := bed.onNetwork fun n =>
      (List.replicate p.skipped (skipEvent callId)).foldl (fun n e => n.log e) (n.setConnection c k)
    match p.reader.outcome? limit with
    | some result => (some (result.mapError .protocol), bed)
    | none =>
      if k.toClient.closed then (some (.error (.protocol (p.reader.endError callId))), bed)
      else (none, bed)

/-- What thread `t` gets for an effect, or nothing while it has to wait. -/
def answer (t : ThreadId) : (e : Effect) → Testbed → Option e.Response × Testbed
  | .log event, bed => (some (), bed.onNetwork (Network.log event))
  | .clock, bed => (some bed.network.now, bed)
  | .dial endpoint, bed =>
    let (result, network) := bed.network.dial t endpoint
    (some result, { bed with network })
  | .write c bytes, bed =>
    match bed.network.connections[c]? with
    | none => (some (.error .brokenPipe), bed)
    | some k =>
      match k.toServer.write bytes with
      | none => (none, bed)
      | some (result, toServer) =>
        (some result, bed.onNetwork (Network.setConnection c { k with toServer }))
  -- what is written goes into the pipe at once
  | .flush _, bed => (some (.ok ()), bed)
  | .read c count, bed =>
    match bed.network.connections[c]? with
    | none => (some (.error .brokenPipe), bed)
    | some k =>
      match k.toClient.read count with
      | none => (none, bed)
      | some (bytes, toClient) =>
        (some (.ok bytes), bed.onNetwork (Network.setConnection c { k with toClient }))
  | .expect c, bed =>
    let renew := fun n : Network =>
      { n with connections := n.connections.modify c fun k => { k with reader := .start } }
    (some (), bed.onNetwork renew)
  | .receive c limit callId, bed => bed.receive c limit callId
  | .hangUp c, bed => (some (.ok ()), bed.onNetwork (Network.hangUp c))
  | .openSession endpoint c, bed =>
    let session : Session := { endpoint, stream := some c }
    (some bed.sessions.length, { bed with sessions := bed.sessions ++ [Shared.mk session []] })
  | .acquire s, bed =>
    match bed.sessions[s]? with
    | none => (none, bed)
    | some shared =>
      let shared := shared.join t
      let bed := { bed with sessions := bed.sessions.set s shared }
      (if shared.isHeldBy t then some shared.value else none, bed)
  | .store s state, bed =>
    let put := fun shared : Shared Session => { shared with value := state }
    (some (), { bed with sessions := bed.sessions.modify s put })
  | .release s, bed => (some (), { bed with sessions := bed.sessions.modify s (Shared.leave t) })
  | .isDefunct s, bed =>
    let defunct := fun shared : Shared Session => shared.queue.isEmpty && shared.value.isClosed
    (some (bed.sessions[s]?.any defunct), bed)
  | .slot uuid, bed =>
    match bed.pool.lookup uuid with
    | some i => (some i, bed)
    | none =>
      let (i, bed) := bed.newSlot uuid
      (some i, bed)
  | .evict uuid stale, bed =>
    match bed.pool.lookup uuid with
    | some i =>
      if i = stale then
        let (i, bed) := bed.newSlot uuid
        (some i, bed)
      else (some i, bed)
    | none =>
      let (i, bed) := bed.newSlot uuid
      (some i, bed)
  | .slotHost i, bed => (some (bed.slots[i]?.bind Shared.value), bed)
  | .enter i, bed =>
    match bed.slots[i]? with
    | none => (none, bed)
    | some shared =>
      let shared := shared.join t
      let bed := { bed with slots := bed.slots.set i shared }
      (if shared.isHeldBy t then some () else none, bed)
  | .fill i host, bed =>
    let put := fun shared : Shared (Option Host) => { shared with value := some host }
    let bed := { bed with slots := bed.slots.modify i put }
    let stream := bed.sessions[host.session]?.bind fun shared => shared.value.stream
    (some (), bed.onNetwork fun n => stream.elim n fun c => n.keep c)
  | .leave i, bed => (some (), { bed with slots := bed.slots.modify i (Shared.leave t) })
  | .pooled, bed => (some bed.pooled, bed)

/-- Thread `t` is given up: it leaves all queues, and its connections go with it. -/
def cancel (t : ThreadId) (bed : Testbed) : Testbed :=
  { bed with
    network := bed.network.dropAll t
    sessions := bed.sessions.map (Shared.leave t)
    slots := bed.slots.map (Shared.leave t) }

end Testbed
end ClusterProbe
