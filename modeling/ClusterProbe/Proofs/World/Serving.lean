import Mathlib.Algebra.Group.Nat.Defs
import Mathlib.Data.Prod.Lex
import ClusterProbe.Proofs.World.Connection
import ClusterProbe.Proofs.World.Inevitable

/-!
# A server at work

What one step of a server does to its connection, and that every step brings the server nearer to a
rest: it has less to read, or it is further on with the answer, or it has less of the answer to send
(`ServerState.step_work`). A testbed in which one connection is open, to a server, therefore drifts
only for a while, and a situation that the server's steps keep lasts as long as the testbed drifts
(`Testbed.Stands.drifts`).
-/
namespace ClusterProbe

namespace Pipe

variable {p p' : Pipe}

theorem read_eq_some {count : Nat} {piece : Bytes} (h : p.read count = some (piece, p')) :
    p.buffer = piece ++ p'.buffer ∧ p' = { p with buffer := p'.buffer } ∧ piece.length ≤ count ∧
      (piece = [] → p.closed = false → count = 0) := by
  unfold read at h
  split at h
  · cases h
  · rename_i hready
    cases h
    refine ⟨(List.take_append_drop ..).symm, rfl, List.length_take_le .., fun hnil hopen => ?_⟩
    rcases List.take_eq_nil_iff.1 hnil with hzero | hempty
    · exact hzero
    · simp only [hempty, hopen, List.isEmpty_nil, Bool.not_false, true_and] at hready
      omega

theorem exists_read (h : p.buffer ≠ []) (count : Nat) : ∃ r, p.read count = some r := by
  simp [read, h]

/-- An open pipe takes as much as there is room for. -/
theorem write_eq_some {bytes : Bytes} {result : Except IoError Nat} (hopen : p.closed = false)
    (h : p.write bytes = some (result, p')) :
    0 < p.room ∧ result = .ok (min p.room bytes.length) ∧
      p' = { p with buffer := p.buffer ++ bytes.take (min p.room bytes.length) } := by
  rw [write, if_neg (Bool.eq_false_iff.mp hopen)] at h
  split at h
  · cases h
  · rename_i hroom
    cases h
    refine ⟨Nat.pos_of_ne_zero hroom, rfl, ?_⟩
    rw [← List.take_eq_take_min]

end Pipe

namespace Reply

/-- How often a reply has still to be waited for. -/
def delays : Reply → Nat
  | delayed _ r => r.delays + 1
  | _ => 0

/-- What a reply comes to when all delays are past. -/
def settled : Reply → Reply
  | delayed _ r => r.settled
  | r => r

end Reply

namespace ServerState

/-- How far a server is from the next request, in the order of its states. -/
def stage : ServerState → Nat
  | reading r => if r.payload?.isSome then 5 else 1
  | called _ => 4
  | answering _ _ _ => 3
  | sending _ => 2
  | greeting _ => 1
  | ended _ => 0

/-- What a server has still to wait for or to send. -/
def load (now : Nat) : ServerState → Nat
  | answering _ r due => 2 * r.delays + if now < due then 1 else 0
  | sending rest => 2 * rest.length
  | _ => 0

/-- What is left to do before a server rests, the least urgent last. What has been sent and not been
read counts half. -/
def Line.work (now : Nat) (l : Line) : Nat ×ₗ Nat ×ₗ Nat :=
  toLex (l.toServer.buffer.length,
    toLex (l.state.stage, l.state.load now + l.toClient.buffer.length))

variable {keepalives now : Nat} {l l' : Line}

namespace Line

theorem work_lt_of_read (h : l'.toServer.buffer.length < l.toServer.buffer.length) :
    l'.work now < l.work now :=
  Prod.Lex.toLex_lt_toLex.mpr (Or.inl h)

theorem work_lt_of_stage (h : l'.toServer.buffer.length ≤ l.toServer.buffer.length)
    (hstage : l'.state.stage < l.state.stage) : l'.work now < l.work now := by
  rcases Nat.lt_or_eq_of_le h with hless | heq
  · exact work_lt_of_read hless
  · exact Prod.Lex.toLex_lt_toLex.mpr
      (Or.inr ⟨heq, Prod.Lex.toLex_lt_toLex.mpr (Or.inl hstage)⟩)

theorem work_lt_of_load (h : l'.toServer.buffer.length = l.toServer.buffer.length)
    (hstage : l'.state.stage = l.state.stage)
    (hload : l'.state.load now + l'.toClient.buffer.length <
      l.state.load now + l.toClient.buffer.length) : l'.work now < l.work now :=
  Prod.Lex.toLex_lt_toLex.mpr
    (Or.inr ⟨h, Prod.Lex.toLex_lt_toLex.mpr (Or.inr ⟨hstage, hload⟩)⟩)

end Line

/-- Waiting for a moment is over when it comes. -/
theorem Line.work_due {callId : Int32} {r : Reply} {due : Nat} (h : now < due)
    (hstate : l.state = answering callId r due) : l.work due < l.work now := by
  refine Prod.Lex.toLex_lt_toLex.mpr (Or.inr ⟨rfl, Prod.Lex.toLex_lt_toLex.mpr (Or.inr ⟨rfl, ?_⟩)⟩)
  simp only [hstate, load, if_pos h, if_neg (Nat.lt_irrefl due)]
  omega

/-- Greeting takes a piece, which completes the greeting or not; the end of a stream is an error. -/
theorem greet_cases {got : Bytes} (h : greet got l = some l') :
    ∃ piece, l.toServer.buffer = piece ++ l'.toServer.buffer ∧
      l'.toServer = { l.toServer with buffer := l'.toServer.buffer } ∧ l'.toClient = l.toClient ∧
      ((piece = [] ∧ (l.toServer.closed = false → 3 ≤ got.length) ∧
          l'.state = ended (.error .earlyEof)) ∨
        (piece ≠ [] ∧
          ((got ++ piece).length < 3 ∧ l'.state = greeting (got ++ piece) ∨
            got ++ piece = Frame.hello ∧ l'.state = reading .start ∨
            (3 ≤ (got ++ piece).length ∧ (got ++ piece).length ≤ max 3 got.length ∧
              got ++ piece ≠ Frame.hello ∧ ∃ e, l'.state = ended (.error e))))) := by
  simp only [greet, bind, Option.bind_eq_some_iff] at h
  obtain ⟨⟨piece, toServer⟩, hread, h⟩ := h
  obtain ⟨hbuffer, hpipe, hlen, hempty⟩ := Pipe.read_eq_some hread
  change piece.length ≤ 3 - got.length at hlen
  simp only [List.isEmpty_iff] at h
  by_cases hnil : piece = []
  · rw [if_pos hnil] at h
    cases h
    refine ⟨piece, hbuffer, hpipe, rfl, Or.inl ⟨hnil, fun hopen => ?_, rfl⟩⟩
    exact Nat.le_of_sub_eq_zero (hempty hnil hopen)
  · rw [if_neg hnil] at h
    by_cases hshort : (got ++ piece).length < Frame.hello.length
    · rw [if_pos hshort] at h
      cases h
      exact ⟨piece, hbuffer, hpipe, rfl, Or.inr ⟨hnil, Or.inl ⟨hshort, rfl⟩⟩⟩
    · rw [if_neg hshort] at h
      by_cases hhello : got ++ piece = Frame.hello
      · rw [if_pos hhello] at h
        cases h
        exact ⟨piece, hbuffer, hpipe, rfl, Or.inr ⟨hnil, Or.inr (Or.inl ⟨hhello, rfl⟩)⟩⟩
      · rw [if_neg hhello] at h
        cases h
        have hlong : (got ++ piece).length ≤ max 3 got.length := by
          rw [List.length_append]
          omega
        exact ⟨piece, hbuffer, hpipe, rfl, Or.inr ⟨hnil, Or.inr (Or.inr
          ⟨Nat.le_of_not_lt hshort, hlong, hhello, _, rfl⟩)⟩⟩

/-- Reading a request takes what has arrived: a whole payload, or all there is. -/
theorem readRequest_cases {r : FrameReader} (h : readRequest r l = some l') :
    ∃ r' took, l.toServer.buffer = took ++ l'.toServer.buffer ∧
      l'.toServer = { l.toServer with buffer := l'.toServer.buffer } ∧ l'.toClient = l.toClient ∧
      (∀ chunk, r.Follows chunk → r'.Follows (chunk ++ took)) ∧ (took = [] → r' = r) ∧
      ((∃ payload, r'.payload? = some payload ∧
          ((∃ request, RequestFrame.decode payload = .ok request ∧ l'.state = called request) ∨
            ∃ e, RequestFrame.decode payload = .error e ∧ l'.state = invalidData e.message)) ∨
        (r'.payload? = none ∧ l.toServer.closed = true ∧ ∃ result, l'.state = ended result) ∨
        (r'.payload? = none ∧ l.toServer.closed = false ∧ took ≠ [] ∧ l'.state = reading r')) := by
  let p := r.readFrom (fun r => r.payload?.isSome) l.toServer.buffer
  obtain ⟨took, hbuffer, hfollows⟩ :=
    FrameReader.readFrom_takes (fun r => r.payload?.isSome) r l.toServer.buffer
  have hidle : took = [] → p.reader = r := by
    intro hnil
    rw [hnil, List.nil_append] at hbuffer
    have hlen := congrArg List.length hbuffer.symm
    exact congrArg FrameReader.Progress.reader (FrameReader.readFrom_of_idle hlen)
  have htook : ¬ p.rest.length = l.toServer.buffer.length → took ≠ [] := by
    rintro hne rfl
    exact hne (congrArg List.length hbuffer.symm)
  refine ⟨p.reader, took, ?_⟩
  simp only [readRequest] at h
  cases hpayload : p.reader.payload? with
  | some payload =>
    simp only [p] at hpayload
    simp only [hpayload] at h
    cases hdecode : RequestFrame.decode payload with
    | ok request =>
      simp only [hdecode] at h
      cases h
      exact ⟨hbuffer, rfl, rfl, hfollows, hidle,
        Or.inl ⟨payload, rfl, Or.inl ⟨request, hdecode, rfl⟩⟩⟩
    | error e =>
      simp only [hdecode] at h
      cases h
      exact ⟨hbuffer, rfl, rfl, hfollows, hidle, Or.inl ⟨payload, rfl, Or.inr ⟨e, hdecode, rfl⟩⟩⟩
  | none =>
    simp only [p] at hpayload
    simp only [hpayload] at h
    by_cases hclosed : l.toServer.closed = true
    · rw [if_pos hclosed] at h
      refine ⟨?_, ?_, ?_, hfollows, hidle, Or.inr (Or.inl ⟨rfl, hclosed, ?_⟩)⟩ <;>
        split at h <;> cases h
      · exact hbuffer
      · exact hbuffer
      · rfl
      · rfl
      · rfl
      · rfl
      · exact ⟨_, rfl⟩
      · exact ⟨_, rfl⟩
    · rw [if_neg hclosed] at h
      split at h
      · cases h
      · rename_i hmoved
        cases h
        exact ⟨hbuffer, rfl, rfl, hfollows, hidle,
          Or.inr (Or.inr ⟨rfl, Bool.eq_false_iff.mpr hclosed, htook hmoved, rfl⟩)⟩

/-- A reply that is due is waited for once more, or ends the connection, or is sent. -/
theorem reply_cases (keepalives now : Nat) (callId : Int32) (r : Reply) :
    (∃ millis r', r = .delayed millis r' ∧
        reply keepalives now callId r = answering callId r' (now + millis)) ∨
      (r = .hangup ∧ reply keepalives now callId r = ended (.ok ())) ∨
      (r.settled = r ∧ ∃ payload, r.payload? callId = some payload ∧
        ((payload.length < 2 ^ 32 ∧
            reply keepalives now callId r = sending (Frame.segment keepalives payload)) ∨
          (2 ^ 32 ≤ payload.length ∧ ∃ e, reply keepalives now callId r = ended (.error e)))) := by
  have hsends (payload : Bytes) : (payload.length < 2 ^ 32 ∧
      responseBytes keepalives payload = .ok (Frame.segment keepalives payload)) ∨
      (2 ^ 32 ≤ payload.length ∧ ∃ e, responseBytes keepalives payload = .error e) := by
    by_cases hfits : payload.length < 2 ^ 32
    · refine Or.inl ⟨hfits, ?_⟩
      rw [responseBytes, Frame.encodeLength_eq_ok.2 ⟨hfits, rfl⟩]
      simp only [Except.map, Frame.segment, Frame.opening, List.append_assoc]
    · have hlong := Nat.le_of_not_lt hfits
      refine Or.inr ⟨hlong, .size payload.length, ?_⟩
      rw [responseBytes, Frame.encodeLength_eq_error.2 ⟨hlong, rfl⟩]
      rfl
  cases r with
  | delayed millis r => exact Or.inl ⟨millis, r, rfl, rfl⟩
  | hangup => exact Or.inr (Or.inl ⟨rfl, rfl⟩)
  | _ =>
    refine Or.inr (Or.inr ⟨rfl, _, rfl, ?_⟩)
    rcases hsends _ with ⟨hfits, hbytes⟩ | ⟨hlong, e, hbytes⟩
    · refine Or.inl ⟨hfits, ?_⟩
      simp only [reply, Reply.payload?, Option.getD_some, hbytes]
    · refine Or.inr ⟨hlong, ⟨.invalidData, some e.message⟩, ?_⟩
      simp only [reply, Reply.payload?, Option.getD_some, hbytes, invalidData]

/-- Every step of a server brings it nearer to a rest. -/
theorem step_work (h : step keepalives now l = some l') : l'.work now < l.work now := by
  obtain ⟨state, toServer, toClient, events⟩ := l
  cases state with
  | greeting got =>
    obtain ⟨piece, hbuffer, -, -, hcases⟩ := greet_cases h
    have hlen : toServer.buffer.length = piece.length + l'.toServer.buffer.length := by
      rw [← List.length_append, ← hbuffer]
    rcases hcases with ⟨-, -, hstate⟩ | ⟨hpiece, -⟩
    · have hle : l'.toServer.buffer.length ≤ toServer.buffer.length := by omega
      refine Line.work_lt_of_stage hle ?_
      rw [hstate]
      exact Nat.zero_lt_one
    · have hpos := List.length_pos_iff.2 hpiece
      have hless : l'.toServer.buffer.length < toServer.buffer.length := by omega
      exact Line.work_lt_of_read hless
  | reading r =>
    obtain ⟨r', took, hbuffer, -, -, -, hidle, hcases⟩ := readRequest_cases h
    have hlen : toServer.buffer.length = took.length + l'.toServer.buffer.length := by
      rw [← List.length_append, ← hbuffer]
    by_cases htook : took = []
    · have hle : l'.toServer.buffer.length ≤ toServer.buffer.length := by omega
      refine Line.work_lt_of_stage hle ?_
      obtain rfl := hidle htook
      rcases hcases with ⟨payload, hpayload, ⟨request, -, hstate⟩ | ⟨e, -, hstate⟩⟩ |
        ⟨-, -, result, hstate⟩ | ⟨-, -, hmoved, -⟩
      · simp [hstate, stage, hpayload]
      · simp [hstate, stage, hpayload, invalidData]
      · simp only [hstate, stage]
        split <;> omega
      · exact absurd htook hmoved
    · have hpos := List.length_pos_iff.2 htook
      have hless : l'.toServer.buffer.length < toServer.buffer.length := by omega
      exact Line.work_lt_of_read hless
  | called request => cases h
  | ended result => cases h
  | answering callId r due =>
    by_cases hdue : now < due
    · simp [step, hdue] at h
    · simp only [step, if_neg hdue, Option.some.injEq] at h
      subst h
      rcases reply_cases keepalives now callId r with ⟨millis, r', rfl, hstate⟩ | ⟨rfl, hstate⟩ |
        ⟨-, payload, -, ⟨-, hstate⟩ | ⟨-, e, hstate⟩⟩
      · refine Line.work_lt_of_load rfl ?_ ?_
        · rw [hstate]
          rfl
        · simp only [hstate, load, Reply.delays, if_neg hdue]
          split <;> omega
      all_goals
        refine Line.work_lt_of_stage (Nat.le_refl _) ?_
        simp [hstate, stage]
  | sending rest =>
    cases rest with
    | nil =>
      cases h
      exact Line.work_lt_of_stage (Nat.le_refl _) (by simp [stage, FrameReader.start,
        FrameReader.payload?])
    | cons b rest =>
      simp only [step, bind, Option.bind_eq_some_iff] at h
      obtain ⟨⟨result, toClient'⟩, hwrite, h⟩ := h
      cases result with
      | error e =>
        cases h
        exact Line.work_lt_of_stage (Nat.le_refl _) (by simp [stage])
      | ok n =>
        cases h
        have hopen : toClient.closed = false := by
          by_contra hclosed
          rw [Bool.not_eq_false] at hclosed
          simp [Pipe.write, hclosed] at hwrite
        obtain ⟨hroom, hn, rfl⟩ := Pipe.write_eq_some hopen hwrite
        cases hn
        refine Line.work_lt_of_load rfl rfl ?_
        simp only [load, List.length_drop, List.length_append, List.length_take, List.length_cons]
        omega

/-- A server does not close or replace the pipes of its connection while it works. -/
theorem step_pipes (h : step keepalives now l = some l') :
    (l'.toServer.closed = l.toServer.closed ∧ l'.toServer.capacity = l.toServer.capacity) ∧
      l'.toClient.closed = l.toClient.closed ∧ l'.toClient.capacity = l.toClient.capacity := by
  obtain ⟨state, toServer, toClient, events⟩ := l
  cases state with
  | greeting got =>
    obtain ⟨piece, -, hserver, hclient, -⟩ := greet_cases h
    rw [hserver, hclient]
    exact ⟨⟨rfl, rfl⟩, rfl, rfl⟩
  | reading r =>
    obtain ⟨r', took, -, hserver, hclient, -⟩ := readRequest_cases h
    rw [hserver, hclient]
    exact ⟨⟨rfl, rfl⟩, rfl, rfl⟩
  | called request => cases h
  | ended result => cases h
  | answering callId r due =>
    simp only [step] at h
    split at h
    · cases h
    · cases h
      exact ⟨⟨rfl, rfl⟩, rfl, rfl⟩
  | sending rest =>
    cases rest with
    | nil =>
      cases h
      exact ⟨⟨rfl, rfl⟩, rfl, rfl⟩
    | cons b rest =>
      simp only [step, bind, Option.bind_eq_some_iff] at h
      obtain ⟨⟨result, toClient'⟩, hwrite, h⟩ := h
      have hpipe : toClient'.closed = toClient.closed ∧ toClient'.capacity = toClient.capacity := by
        unfold Pipe.write at hwrite
        split at hwrite
        · cases hwrite
          exact ⟨rfl, rfl⟩
        · split at hwrite
          · cases hwrite
          · cases hwrite
            exact ⟨rfl, rfl⟩
      cases result with
      | error e =>
        cases h
        exact ⟨⟨rfl, rfl⟩, rfl, rfl⟩
      | ok n =>
        cases h
        exact ⟨⟨rfl, rfl⟩, hpipe⟩

end ServerState

namespace Connection

/-- What the server of a connection works on. -/
def line (k : Connection) (state : ServerState) : ServerState.Line :=
  { state, toServer := k.toServer, toClient := k.toClient }

/-- The connection after a step of its server. -/
def served (i keepalives : Nat) (l : ServerState.Line) (k : Connection) : Connection :=
  let k := { k with
    toServer := l.toServer
    toClient := l.toClient
    farEnd := .server i keepalives l.state }
  if l.state.isRunning then k else k.closePipes

/-- The connection once its server has asked the handler. -/
def replied (i keepalives now : Nat) (request : RequestFrame) (reply : Reply) (k : Connection) :
    Connection :=
  { k with farEnd := .server i keepalives (.answering request.header.callId reply now) }

def work (now : Nat) (k : Connection) : Nat ×ₗ Nat ×ₗ Nat :=
  match k.farEnd with
  | .server _ _ state => (k.line state).work now
  | _ => toLex (0, toLex (0, 0))

theorem work_served (i keepalives now : Nat) (l : ServerState.Line) (k : Connection) :
    (k.served i keepalives l).work now = l.work now := by
  unfold served
  split <;> rfl

end Connection

/-- A situation of a connection to a server, together with the requests that the handler has seen,
that all steps of the server keep. -/
structure Handler.Keeps (handler : Handler) (i keepalives : Nat)
    (P : Connection → List RequestFrame → Prop) : Prop where
  server : ∀ {k seen}, P k seen → ∃ state, k.farEnd = .server i keepalives state
  asked : ∀ {k seen request}, P k seen → k.farEnd = .server i keepalives (.called request) →
    ∀ now, P (k.replied i keepalives now request (handler seen request)) (seen ++ [request])
  stepped : ∀ {k seen state now l}, P k seen → k.farEnd = .server i keepalives state →
    ServerState.step keepalives now (k.line state) = some l → P (k.served i keepalives l) seen

/-- What the turn of a server comes to: its handler is asked, or it makes a step of its own, and it
does not count as running any more if it has ended. -/
theorem Network.step_server {n n' : Network} {c : ConnectionId} {k : Connection}
    {i keepalives : Nat} {state : ServerState} (hk : n.connections[c]? = some k)
    (hfar : k.farEnd = .server i keepalives state) (h : n.step c = some n') :
    (∃ request, state = .called request ∧ n' = n.consult c k i keepalives request) ∨
      ∃ l events, ServerState.step keepalives n.now (k.line state) = some l ∧
        n' = { n.setConnection c (k.served i keepalives l) with
          running :=
            if l.state.isRunning then n.running else n.running.modify k.registration (· - 1)
          events } := by
  simp only [step, hk, bind, Option.bind_some, hfar] at h
  by_cases hcalled : ∃ request, state = .called request
  · obtain ⟨request, rfl⟩ := hcalled
    exact .inl ⟨request, rfl, (Option.some.inj h).symm⟩
  · obtain ⟨l, hl, hn'⟩ : ∃ l, ServerState.step keepalives n.now (k.line state) = some l ∧
        n' = (l.events ++ endEvents (k.served i keepalives l).endpoint l.state).foldl
          (fun n e => n.log e) { n.setConnection c (k.served i keepalives l) with
            running :=
              if l.state.isRunning then n.running
              else n.running.modify k.registration (· - 1) } := by
      cases state with
      | called request => exact absurd ⟨request, rfl⟩ hcalled
      | _ =>
        obtain ⟨l, hl, hnetwork⟩ := Option.bind_eq_some_iff.1 h
        exact ⟨l, hl, (Option.some.inj hnetwork).symm⟩
    obtain ⟨events, hlog⟩ := Network.logAll_eq
      (l.events ++ endEvents (k.served i keepalives l).endpoint l.state) _
    exact .inr ⟨l, events, hl, hn'.trans hlog⟩

namespace Testbed

variable {i keepalives : Nat} {handler : Handler} {k : Connection} {seen : List RequestFrame}
  {state : ServerState} {bed bed' : Testbed}

/-- One connection is open, and the handler of its server has seen these requests. -/
structure Serves (i : Nat) (handler : Handler) (bed : Testbed) (k : Connection)
    (seen : List RequestFrame) : Prop where
  only : bed.network.connections = [k]
  service : bed.network.services[i]? = some ⟨handler, seen⟩

def work (bed : Testbed) : Nat ×ₗ Nat ×ₗ Nat :=
  match bed.network.connections with
  | [k] => k.work bed.network.now
  | _ => toLex (0, toLex (0, 0))

theorem Serves.work_eq (h : bed.Serves i handler k seen) : bed.work = k.work bed.network.now := by
  rw [work, h.only]

theorem Serves.step {c : ConnectionId} {network : Network} (hs : bed.Serves i handler k seen)
    (hk : k.farEnd = .server i keepalives state) (h : bed.network.step c = some network) :
    network.now = bed.network.now ∧
      ((∃ request, state = .called request ∧ ({ bed with network } : Testbed).Serves i handler
          (k.replied i keepalives bed.network.now request (handler seen request))
          (seen ++ [request])) ∨
        ∃ l, ServerState.step keepalives bed.network.now (k.line state) = some l ∧
          ({ bed with network } : Testbed).Serves i handler (k.served i keepalives l) seen) := by
  obtain ⟨k', hfound, -⟩ := Option.bind_eq_some_iff.1 h
  rw [hs.only, List.getElem?_singleton] at hfound
  split at hfound
  · rename_i hc
    subst hc
    cases hfound
    have hk₀ : bed.network.connections[0]? = some k := by rw [hs.only, List.getElem?_cons_zero]
    have hlen := (List.getElem?_eq_some_iff.1 hs.service).1
    rcases Network.step_server hk₀ hk h with ⟨request, rfl, rfl⟩ | ⟨l, events, hl, rfl⟩
    · refine ⟨rfl, Or.inl ⟨request, rfl, ?_, ?_⟩⟩
      · simp only [Network.consult, hs.only, hs.service, Option.getD_some, List.set_cons_zero]
        rfl
      · simp only [Network.consult, hs.service, Option.getD_some, List.getElem?_set_self hlen]
    · refine ⟨rfl, Or.inr ⟨l, hl, ?_, hs.service⟩⟩
      simp only [Network.setConnection, hs.only, List.set_cons_zero]
  · cases hfound

/-- Time moves only while an answer is not due. -/
theorem Serves.nextWake {now : Nat} (hs : bed.Serves i handler k seen)
    (hk : k.farEnd = .server i keepalives state) (h : bed.network.nextWake? = some now) :
    ∃ callId r, state = .answering callId r now ∧ bed.network.now < now := by
  have hwake : state.wakeAt? bed.network.now = some now := by
    simp only [Network.nextWake?, hs.only] at h
    cases hw : k.wakeAt? bed.network.now with
    | none => simp [hw] at h
    | some due =>
      simp only [hw, List.filterMap_cons, List.filterMap_nil, List.min?_singleton] at h
      cases h
      simpa only [Connection.wakeAt?, hk] using hw
  cases state with
  | answering callId r due =>
    simp only [ServerState.wakeAt?] at hwake
    split at hwake
    · cases hwake
      exact ⟨callId, r, rfl, ‹_›⟩
    · cases hwake
  | _ => cases hwake

/-- One connection is open, in the situation `P`, and the sessions are in the situation `Q`. -/
def Stands (i : Nat) (handler : Handler) (P : Connection → List RequestFrame → Prop)
    (Q : List (Shared Session) → Prop) (bed : Testbed) : Prop :=
  ∃ k seen, bed.Serves i handler k seen ∧ P k seen ∧ Q bed.sessions

variable {P : Connection → List RequestFrame → Prop} {Q : List (Shared Session) → Prop}

/-- A situation that the steps of the server keep lasts, and it drifts only for a while. -/
theorem Stands.drifts (hP : handler.Keeps i keepalives P) (h : bed.Stands i handler P Q)
    (hdrift : bed.Drifts bed') : bed'.Stands i handler P Q ∧ bed'.work < bed.work := by
  obtain ⟨k, seen, hs, hk, hQ⟩ := h
  obtain ⟨state, hfar⟩ := hP.server hk
  have hwork : bed.work = (k.line state).work bed.network.now := by
    rw [hs.work_eq, Connection.work, hfar]
  cases hdrift with
  | served hstep =>
    obtain ⟨hnow, ⟨request, rfl, hs'⟩ | ⟨l, hl, hs'⟩⟩ := hs.step hfar hstep
    · refine ⟨⟨_, _, hs', hP.asked hk hfar _, hQ⟩, ?_⟩
      rw [hs'.work_eq, hwork]
      exact ServerState.Line.work_lt_of_stage (Nat.le_refl _) (Nat.lt_succ_self 3)
    · refine ⟨⟨_, _, hs', hP.stepped hk hfar hl, hQ⟩, ?_⟩
      rw [hs'.work_eq, Connection.work_served, hwork, hnow]
      exact ServerState.step_work hl
  | @slept now hwake =>
    obtain ⟨callId, r, rfl, hlt⟩ := hs.nextWake hfar hwake
    have hs' : (bed.onNetwork fun n => { n with now }).Serves i handler k seen :=
      ⟨hs.only, hs.service⟩
    refine ⟨⟨k, seen, hs', hk, hQ⟩, ?_⟩
    rw [hs'.work_eq, Connection.work, hfar, hwork]
    exact ServerState.Line.work_due hlt rfl

/-- A server that has something to do moves the testbed. -/
theorem Serves.exists_drift {l : ServerState.Line} (hs : bed.Serves i handler k seen)
    (hk : k.farEnd = .server i keepalives state)
    (h : ServerState.step keepalives bed.network.now (k.line state) = some l) :
    ∃ bed', bed.Drifts bed' := by
  have hstep : ∃ network, bed.network.step 0 = some network := by
    simp only [Network.step, hs.only, List.getElem?_cons_zero, bind, Option.bind_some, hk]
    cases state with
    | called request => cases h
    | _ =>
      simp only [Connection.line] at h
      simp only [h]
      exact ⟨_, rfl⟩
  obtain ⟨network, hstep⟩ := hstep
  exact ⟨_, .served hstep⟩

theorem Serves.exists_drift_called {request : RequestFrame} (hs : bed.Serves i handler k seen)
    (hk : k.farEnd = .server i keepalives (.called request)) : ∃ bed', bed.Drifts bed' := by
  have hstep : ∃ network, bed.network.step 0 = some network := by
    simp only [Network.step, hs.only, List.getElem?_cons_zero, bind, Option.bind_some, hk]
    exact ⟨_, rfl⟩
  obtain ⟨network, hstep⟩ := hstep
  exact ⟨_, .served hstep⟩

theorem Serves.exists_drift_answering {callId : Int32} {r : Reply} {due : Nat}
    (hs : bed.Serves i handler k seen)
    (hk : k.farEnd = .server i keepalives (.answering callId r due)) : ∃ bed', bed.Drifts bed' := by
  by_cases hdue : bed.network.now < due
  · have hwake : bed.network.nextWake? = some due := by
      simp [Network.nextWake?, hs.only, Connection.wakeAt?, hk, ServerState.wakeAt?, hdue]
    exact ⟨_, .slept hwake⟩
  · exact hs.exists_drift hk (if_neg hdue)

end Testbed
end ClusterProbe
