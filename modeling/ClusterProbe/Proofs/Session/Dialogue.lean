import ClusterProbe.Proofs.Session.Delivery
import ClusterProbe.Session.Connect

/-!
# What a client gets from a server

The effects of a client's thread on the only connection of a testbed, each with the situation in
which it is asked for and the one in which it is answered. A request can be written piece by piece
whatever the server does meanwhile; and reading the answer comes to an end, with the payload that
the handler's reply puts on the connection or with the end of the stream.
-/
namespace ClusterProbe

open ClusterProbe.Frame ServerState

namespace Testbed

variable {t : ThreadId} {i keepalives : Nat} {handler : Handler} {seen : List RequestFrame}
  {P P' : Connection → List RequestFrame → Prop} {Q Q' : List (Shared Session) → Prop}
  {bed bed' : Testbed} {s : SessionId} {v : Session} {k : Connection}

/-- An effect that is always answered in a situation that lasts. -/
theorem Stands.ensures {e : Effect} {post : e.Response → Testbed → Prop}
    (h : bed.Stands i handler P Q) (hP : handler.Keeps i keepalives P)
    (answers : ∀ {bed : Testbed}, bed.Stands i handler P Q →
      ∃ r bed', bed.answer t e = (some r, bed') ∧ post r bed') :
    (Job.ask e).Ensures t post bed := by
  refine Job.ensures_ask (J := Stands i handler P Q) work (fun h hd => h.drifts hP hd)
    (fun h hwait _ => ?_) (fun h hwait => ?_) (fun h hanswer => ?_) h
  · obtain ⟨r, bed', hanswer, -⟩ := answers h
    rw [hanswer] at hwait
    cases hwait
  · obtain ⟨r, bed', hanswer, -⟩ := answers h
    rw [hanswer] at hwait
    cases hwait
  · obtain ⟨r, bed', hanswer', hpost⟩ := answers h
    rw [hanswer'] at hanswer
    cases hanswer
    exact hpost

theorem Stands.of_eq (h : bed.Stands i handler P Q)
    (hconnections : bed'.network.connections = bed.network.connections)
    (hservices : bed'.network.services = bed.network.services)
    (hQ : Q bed.sessions → Q' bed'.sessions) :
    bed'.Stands i handler P Q' := by
  obtain ⟨k, seen, ⟨honly, hservice⟩, hk, hsessions⟩ := h
  exact ⟨k, seen, ⟨hconnections ▸ honly, hservices ▸ hservice⟩, hk, hQ hsessions⟩

/-- This is how session `s` is shared. -/
def Holds (s : SessionId) (shared : Shared Session) (sessions : List (Shared Session)) : Prop :=
  sessions[s]? = some shared

theorem Stands.log (h : bed.Stands i handler P Q) (hP : handler.Keeps i keepalives P)
    (event : LogEvent) :
    (Job.ask (.log event)).Ensures t (fun _ bed' => bed'.Stands i handler P Q) bed :=
  h.ensures hP fun h => ⟨(), _, rfl, h.of_eq rfl rfl id⟩

theorem Stands.flush (h : bed.Stands i handler P Q) (hP : handler.Keeps i keepalives P)
    (c : ConnectionId) :
    (Job.ask (.flush c)).Ensures t (fun r bed' => r = .ok () ∧ bed'.Stands i handler P Q) bed :=
  h.ensures hP fun h => ⟨.ok (), _, rfl, rfl, h⟩

theorem Stands.acquire (h : bed.Stands i handler P (Holds s ⟨v, []⟩))
    (hP : handler.Keeps i keepalives P) :
    (Job.ask (.acquire s)).Ensures t
      (fun r bed' => r = v ∧ bed'.Stands i handler P (Holds s ⟨v, [t]⟩)) bed := by
  refine h.ensures (e := .acquire s) hP fun {bed} h => ?_
  have hs : bed.sessions[s]? = some ⟨v, []⟩ := by
    obtain ⟨_, _, _, _, hs⟩ := h
    exact hs
  refine ⟨v, { bed with sessions := bed.sessions.set s ⟨v, [t]⟩ }, ?_, rfl, h.of_eq rfl rfl ?_⟩
  · simp [answer, hs, Shared.join, Shared.isHeldBy]
  · exact fun _ => List.getElem?_set_self (List.getElem?_eq_some_iff.1 hs).1

theorem Stands.release (h : bed.Stands i handler P (Holds s ⟨v, [t]⟩))
    (hP : handler.Keeps i keepalives P) :
    (Job.ask (.release s)).Ensures t
      (fun _ bed' => bed'.Stands i handler P (Holds s ⟨v, []⟩)) bed := by
  refine h.ensures hP fun {bed} h => ⟨(), _, rfl, h.of_eq rfl rfl fun hs => ?_⟩
  change (bed.sessions.modify s (Shared.leave t))[s]? = _
  rw [List.getElem?_modify_eq, show bed.sessions[s]? = some ⟨v, [t]⟩ from hs]
  simp [Shared.leave]

theorem Stands.store (h : bed.Stands i handler P (Holds s ⟨v, [t]⟩))
    (hP : handler.Keeps i keepalives P) (v' : Session) :
    (Job.ask (.store s v')).Ensures t
      (fun _ bed' => bed'.Stands i handler P (Holds s ⟨v', [t]⟩)) bed := by
  refine h.ensures hP fun {bed} h => ⟨(), _, rfl, h.of_eq rfl rfl fun hs => ?_⟩
  change (bed.sessions.modify s _)[s]? = _
  rw [List.getElem?_modify_eq, show bed.sessions[s]? = some ⟨v, [t]⟩ from hs]
  rfl

theorem Stands.openSession (h : bed.Stands i handler P Q) (hP : handler.Keeps i keepalives P)
    (endpoint : Endpoint) (c : ConnectionId) :
    (Job.ask (.openSession endpoint c)).Ensures t
      (fun s bed' => bed'.Stands i handler P (Holds s ⟨{ endpoint, stream := some c }, []⟩))
      bed := by
  refine h.ensures (e := .openSession endpoint c) hP fun {bed} h => ?_
  refine ⟨bed.sessions.length, _, rfl, h.of_eq rfl rfl fun _ => ?_⟩
  exact List.getElem?_concat_length

/-- What changes the connection and nothing else about the server and the sessions. -/
theorem Serves.change (hs : bed.Serves i handler k seen) {k' : Connection}
    (hconnections : bed'.network.connections = bed.network.connections.set 0 k')
    (hservices : bed'.network.services = bed.network.services) : bed'.Serves i handler k' seen := by
  refine ⟨?_, hservices ▸ hs.service⟩
  rw [hconnections, hs.only, List.set_cons_zero]

theorem Serves.found (hs : bed.Serves i handler k seen) : bed.network.connections[0]? = some k := by
  rw [hs.only]
  rfl

/-- Hanging up a connection that the server has dropped changes nothing. -/
theorem Stands.hangUp (h : bed.Stands i handler (Connection.In i keepalives (Dropped seen)) Q) :
    (Job.ask (.hangUp 0)).Ensures t (fun r bed' => r = .ok () ∧
      bed'.Stands i handler (Connection.In i keepalives (Dropped seen)) Q) bed := by
  refine h.ensures (handler.keeps_dropped i keepalives seen) fun {bed} h => ?_
  obtain ⟨k, seen', hs, ⟨state, hfar, -, hserver, hclient, ⟨hended, -, hseen⟩⟩, hQ⟩ := h
  refine ⟨.ok (), _, rfl, rfl, k.closePipes, seen', ?_, ?_, hQ⟩
  · refine ⟨?_, hs.service⟩
    change bed.network.connections.modify 0 Connection.closePipes = _
    rw [hs.only]
    rfl
  · exact ⟨state, hfar, rfl, hserver, hclient, hended, rfl, hseen⟩

/-- The greeting goes into the empty pipe whole. -/
theorem Stands.writeHello
    (h : bed.Stands i handler (Connection.In i keepalives (Untouched seen)) Q) :
    (Job.ask (.write 0 Frame.hello)).Ensures t (fun r bed' => r = .ok Frame.hello.length ∧
      bed'.Stands i handler (Connection.In i keepalives (Listening [] seen)) Q) bed := by
  refine h.ensures (handler.keeps_untouched i keepalives seen) fun {bed} h => ?_
  obtain ⟨k, seen', hs, ⟨state, hfar, hclosed, hserver, hclient,
    ⟨hstart, hunheard, hquiet, hopen, hseen⟩⟩, hQ⟩ := h
  have hroom : k.toServer.room = k.toServer.capacity := by
    rw [Pipe.room, hunheard]
    rfl
  have hthree : Frame.hello.length ≠ 0 := by decide
  have hwrite : k.toServer.write Frame.hello =
      some (.ok Frame.hello.length, { k.toServer with buffer := Frame.hello }) := by
    rw [Pipe.write, if_neg (Bool.eq_false_iff.mp (hclosed.trans hopen)), hroom, if_neg (by omega),
      hunheard, Nat.min_eq_right hserver, List.take_of_length_le hserver]
    rfl
  let k' := { k with toServer := { k.toServer with buffer := Frame.hello } }
  refine ⟨.ok Frame.hello.length, bed.onNetwork (Network.setConnection 0 k'), ?_, rfl, k', seen',
    hs.change rfl rfl, ?_, hQ⟩
  · simp only [answer, hs.found, hwrite]
    rfl
  · refine ⟨state, hfar, hclosed, hserver, hclient, ?_, hquiet, hopen, hseen⟩
    rw [hstart]
    exact .greeting (Nat.zero_lt_succ 2) (List.append_nil _).symm

/-- Part of a request can be written while the server listens, at least one byte of it. -/
theorem Stands.write {given bytes : Bytes}
    (h : bed.Stands i handler (Connection.In i keepalives (Listening given seen)) Q)
    (hpartial : Partial given) (hbytes : bytes ≠ []) :
    (Job.ask (.write 0 bytes)).Ensures t (fun r bed' => ∃ n, 0 < n ∧ r = .ok n ∧
      bed'.Stands i handler (Connection.In i keepalives (Listening (given ++ bytes.take n) seen)) Q)
      bed := by
  have hkeeps := handler.keeps_listening i keepalives hpartial seen
  refine Job.ensures_ask
    (J := Stands i handler (Connection.In i keepalives (Listening given seen)) Q)
    work (fun h hd => h.drifts hkeeps hd) ?_ ?_ ?_ h
  · rintro bed bed' ⟨k, seen', hs, hk, hQ⟩ hwait hnew
    simp only [answer, hs.found] at hwait
    split at hwait
    · cases hwait
      exact absurd rfl hnew
    · cases hwait
  · rintro bed ⟨k, seen', hs, ⟨state, hfar, hclosed, hserver, hclient, hlistens⟩, hQ⟩ hwait
    have hopen := hclosed.trans hlistens.isOpen
    have hfull : k.toServer.buffer ≠ [] := by
      intro hempty
      have hroom : k.toServer.room ≠ 0 := by
        rw [Pipe.room, hempty]
        change _ - 0 ≠ 0
        have hthree : 0 < Frame.hello.length := by decide
        omega
      simp only [answer, hs.found, Pipe.write, if_neg (Bool.eq_false_iff.mp hopen), if_neg hroom]
        at hwait
      cases hwait
    have hsteps : ∃ l, ServerState.step keepalives bed.network.now (k.line state) = some l :=
      Hears.exists_step hlistens.hears (Or.inl hfull)
    obtain ⟨l, hstep⟩ := hsteps
    exact hs.exists_drift hfar hstep
  · rintro bed r bed' ⟨k, seen', hs, ⟨state, hfar, hclosed, hserver, hclient, hlistens⟩, hQ⟩ hanswer
    have hopen := hclosed.trans hlistens.isOpen
    simp only [answer, hs.found] at hanswer
    split at hanswer
    · cases hanswer
    · rename_i result toServer hwrite
      obtain ⟨hroom, rfl, rfl⟩ := Pipe.write_eq_some hopen hwrite
      cases hanswer
      have hlen := List.length_pos_iff.2 hbytes
      refine ⟨_, Nat.lt_min.mpr ⟨hroom, hlen⟩, rfl, _, seen', hs.change rfl rfl, ?_, hQ⟩
      exact ⟨state, hfar, hclosed, hserver, hclient, hlistens.hears.push _, hlistens.quiet,
        hlistens.isOpen, hlistens.seen_eq⟩

variable {request : RequestFrame}

/-- A request is under way, and the client has read on from the beginning of a frame. -/
def Reads (i keepalives : Nat) (handler : Handler) (seen : List RequestFrame)
    (request : RequestFrame) (k : Connection) (seen' : List RequestFrame) : Prop :=
  ∃ taken, Connection.In i keepalives
      (Underway keepalives seen request (handler seen request) taken) k seen' ∧
    k.reader.Follows taken

theorem keeps_reads (i keepalives : Nat) (handler : Handler) (seen : List RequestFrame)
    (hrequest : Announced request.encode.length)
    (hread : RequestFrame.decode request.encode = .ok request) :
    handler.Keeps i keepalives (Reads i keepalives handler seen request) where
  server := by
    rintro k seen' ⟨taken, ⟨state, hfar, -⟩, -⟩
    exact ⟨state, hfar⟩
  asked := by
    rintro k seen' request' ⟨taken, hk, hfollows⟩ hcalled now
    have hkeeps := handler.keeps_underway i keepalives hrequest hread seen taken
    exact ⟨taken, hkeeps.asked hk hcalled now, hfollows⟩
  stepped := by
    rintro k seen' state now l ⟨taken, hk, hfollows⟩ hfar hstep
    have hkeeps := handler.keeps_underway i keepalives hrequest hread seen taken
    refine ⟨taken, hkeeps.stepped hk hfar hstep, ?_⟩
    unfold Connection.served
    split <;> exact hfollows

/-- A request that has been written is under way. -/
theorem Stands.underway
    (h : bed.Stands i handler
      (Connection.In i keepalives (Listening (Frame.segment 0 request.encode) seen)) Q) :
    bed.Stands i handler (Connection.In i keepalives
      (Underway keepalives seen request (handler seen request) [])) Q := by
  obtain ⟨k, seen', hs, ⟨state, hfar, hclosed, hserver, hclient, hlistens⟩, hQ⟩ := h
  exact ⟨k, seen', hs, ⟨state, hfar, hclosed, hserver, hclient, hlistens.underway⟩, hQ⟩

/-- The client looks out for the answer. -/
theorem Stands.expect
    (h : bed.Stands i handler (Connection.In i keepalives
      (Underway keepalives seen request (handler seen request) [])) Q)
    (hrequest : Announced request.encode.length)
    (hread : RequestFrame.decode request.encode = .ok request) :
    (Job.ask (.expect 0)).Ensures t
      (fun _ bed' => bed'.Stands i handler (Reads i keepalives handler seen request) Q) bed := by
  refine h.ensures (handler.keeps_underway i keepalives hrequest hread seen []) fun {bed} h => ?_
  obtain ⟨k, seen', hs, hk, hQ⟩ := h
  refine ⟨(), _, rfl, { k with reader := .start }, seen', ⟨?_, hs.service⟩,
    ⟨[], hk, FrameReader.follows_start⟩, hQ⟩
  change bed.network.connections.modify 0 _ = _
  rw [hs.only]
  rfl

/-- Reading on changes the connection only where the client reads. -/
theorem Serves.receive (hs : bed.Serves i handler k seen) (limit : Nat) (callId : Int32) :
    let p := k.reader.readFrom (fun r => (r.outcome? limit).isSome) k.toClient.buffer
    let bed' := (bed.receive 0 limit callId).2
    bed'.Serves i handler { k with reader := p.reader, toClient.buffer := p.rest } seen ∧
      bed'.sessions = bed.sessions ∧ bed'.network.now = bed.network.now ∧
      (bed.receive 0 limit callId).1 = match p.reader.outcome? limit with
        | some result => some (result.mapError .protocol)
        | none => if k.toClient.closed then some (.error (.protocol (p.reader.endError callId)))
          else none := by
  intro p bed'
  obtain ⟨events, hbed⟩ := receive_network limit callId hs.found
  change bed' = _ at hbed
  rw [hbed]
  refine ⟨hs.change rfl rfl, rfl, rfl, ?_⟩
  cases houtcome : p.reader.outcome? limit with
  | some result =>
    simp only [p] at houtcome
    simp only [Testbed.receive, hs.found, houtcome]
  | none =>
    simp only [p] at houtcome
    simp only [Testbed.receive, hs.found, houtcome, p]
    split <;> rfl

/-- Where nothing has arrived that could be read, nothing changes. -/
theorem Serves.receive_idle (hs : bed.Serves i handler k seen) (limit : Nat) (callId : Int32)
    (hidle :
      (k.reader.readFrom (fun r => (r.outcome? limit).isSome) k.toClient.buffer).rest.length =
      k.toClient.buffer.length) : (bed.receive 0 limit callId).2 = bed := by
  have hsame : bed.network.setConnection 0 k = bed.network := by
    simp only [Network.setConnection, hs.only, List.set_cons_zero]
    rw [← hs.only]
  simp only [Testbed.receive, hs.found, FrameReader.readFrom_of_idle hidle, List.replicate_zero,
    List.foldl_nil]
  split
  · exact congrArg (fun network => { bed with network }) hsame
  · split <;> exact congrArg (fun network => { bed with network }) hsame

theorem Reads.receive {seen' : List RequestFrame}
    (h : Reads i keepalives handler seen request k seen')
    (limit : Nat) :
    let p := k.reader.readFrom (fun r => (r.outcome? limit).isSome) k.toClient.buffer
    ∃ taken, Connection.In i keepalives
        (Underway keepalives seen request (handler seen request) taken)
        { k with reader := p.reader, toClient.buffer := p.rest } seen' ∧
      p.reader.Follows taken := by
  intro p
  obtain ⟨taken, ⟨state, hfar, hclosed, hserver, hclient, hunderway⟩, hreader⟩ := h
  obtain ⟨took, hbuffer, hfollows⟩ :=
    FrameReader.readFrom_takes (fun r => (r.outcome? limit).isSome) k.reader k.toClient.buffer
  exact ⟨taken ++ took, ⟨state, hfar, hclosed, hserver, hclient, hunderway.take hbuffer⟩,
    hfollows taken hreader⟩

theorem outcome_isSome (limit : Nat) {size : Nat} {got : Bytes} (hall : size ≤ got.length) :
    ((FrameReader.payload size got).outcome? limit).isSome = true := by
  by_cases hlimit : limit < size
  · simp [FrameReader.outcome?, hlimit]
  · simp [FrameReader.outcome?, hlimit, FrameReader.payload?, hall]

/-- While the answer has not arrived, the server has something to do. -/
theorem Serves.exists_drift_underway {taken : Bytes} {limit : Nat} {seen' : List RequestFrame}
    (hs : bed.Serves i handler k seen')
    (hk : Connection.In i keepalives
      (Underway keepalives seen request (handler seen request) taken) k seen')
    (hrequest : Announced request.encode.length) (hreader : k.reader.Follows taken)
    (hfits : ∀ payload, (handler seen request).answer? request.header.callId = some payload →
      Announced payload.length ∧ payload.length ≤ limit)
    (hempty : k.toClient.buffer = []) (hopen : k.toClient.closed = false)
    (hnone : k.reader.outcome? limit = none) : ∃ bed', bed.Drifts bed' := by
  obtain ⟨state, hfar, -, -, hclient, hunderway⟩ := hk
  revert hunderway
  generalize hunread : k.toServer.buffer = unread
  generalize harrived : k.toClient.buffer = arrived
  generalize hclosed : k.toClient.closed = closed
  intro hunderway
  cases hunderway with
  | hears h htaken =>
    subst hunread
    have hsteps : ∃ l, ServerState.step keepalives bed.network.now (k.line state) = some l :=
      Hears.exists_step h (h.unread hrequest)
    obtain ⟨l, hstep⟩ := hsteps
    exact hs.exists_drift hfar hstep
  | called htaken => exact hs.exists_drift_called hfar
  | answering hr htaken => exact hs.exists_drift_answering hfar
  | @sending payload _ rest hanswer h =>
    cases rest with
    | nil => exact hs.exists_drift hfar rfl
    | cons b rest =>
      have hroom : k.toClient.room ≠ 0 := by
        rw [Pipe.room, hempty]
        change _ - 0 ≠ 0
        omega
      have hstep : ∃ l, ServerState.step keepalives bed.network.now
          (k.line (.sending (b :: rest))) = some l := by
        simp only [ServerState.step, Connection.line, Pipe.write, hopen, Bool.false_eq_true,
          if_false, if_neg hroom, bind, Option.bind_some]
        exact ⟨_, rfl⟩
      obtain ⟨l, hstep⟩ := hstep
      exact hs.exists_drift hfar hstep
  | waiting hanswer h =>
    obtain ⟨hp, hlimit⟩ := hfits _ hanswer
    rw [hempty] at harrived
    rw [← harrived, List.append_nil] at h
    rw [h] at hreader
    rw [hreader.eq_payload hp] at hnone
    simp [FrameReader.outcome?, Nat.not_lt.2 hlimit, FrameReader.payload?] at hnone
  | ended hanswer htaken =>
    rw [hopen] at hclosed
    cases hclosed

/-- Whoever waits for the answer and has taken in something has less before it. -/
theorem Stands.receive_waits {limit : Nat} {callId : Int32}
    (h : bed.Stands i handler (Reads i keepalives handler seen request) Q)
    (hwait : bed.receive 0 limit callId = (none, bed')) (hnew : bed' ≠ bed) :
    bed'.Stands i handler (Reads i keepalives handler seen request) Q ∧ bed'.work < bed.work := by
  obtain ⟨k, seen', hs, hk, hQ⟩ := h
  obtain ⟨hs', hsessions, hnow, -⟩ := hs.receive limit callId
  have hidle := hs.receive_idle limit callId
  obtain ⟨taken, hin, hfollows⟩ := hk.receive limit
  rw [hwait] at hs' hsessions hnow hidle
  refine ⟨⟨_, seen', hs', ⟨taken, hin, hfollows⟩, hsessions ▸ hQ⟩, ?_⟩
  obtain ⟨took, hbuffer, -⟩ :=
    FrameReader.readFrom_takes (fun r => (r.outcome? limit).isSome) k.reader k.toClient.buffer
  have hlengths := congrArg List.length hbuffer
  rw [List.length_append] at hlengths
  have hless := mt hidle hnew
  obtain ⟨_, ⟨state, hfar, -⟩, -⟩ := hk
  rw [hs'.work_eq, hs.work_eq, hnow, Connection.work, Connection.work, hfar]
  refine ServerState.Line.work_lt_of_load rfl rfl ?_
  change _ + (FrameReader.readFrom _ _ _).rest.length < _ + k.toClient.buffer.length
  simp only [Connection.line]
  omega

/-- Whoever waits for the answer in vain waits for something that the server is to do. -/
theorem Stands.receive_lives {limit : Nat} {callId : Int32}
    (h : bed.Stands i handler (Reads i keepalives handler seen request) Q)
    (hrequest : Announced request.encode.length)
    (hfits : ∀ payload, (handler seen request).answer? request.header.callId = some payload →
      Announced payload.length ∧ payload.length ≤ limit)
    (hwait : bed.receive 0 limit callId = (none, bed)) : ∃ bed', bed.Drifts bed' := by
  obtain ⟨k, seen', hs, hk, -⟩ := h
  obtain ⟨hs', -, -, hresult⟩ := hs.receive limit callId
  obtain ⟨taken, hin, hfollows⟩ := hk.receive limit
  rw [hwait] at hs' hresult
  cases houtcome : (k.reader.readFrom (fun r => (r.outcome? limit).isSome)
      k.toClient.buffer).reader.outcome? limit with
  | some result =>
    rw [houtcome] at hresult
    cases hresult
  | none =>
    rw [houtcome] at hresult
    have hopen : k.toClient.closed = false := by
      by_contra hclosed
      rw [Bool.not_eq_false] at hclosed
      simp [hclosed] at hresult
    obtain ⟨_, -, hreader⟩ := hk
    have hrest : (k.reader.readFrom (fun r => (r.outcome? limit).isSome)
        k.toClient.buffer).rest = [] := by
      refine hreader.readFrom_rest _ (fun size got hall => outcome_isSome limit hall) ?_
      rw [houtcome]
      rfl
    exact hs'.exists_drift_underway hin hrequest hfollows hfits hrest hopen houtcome

/-- How reading the answer to a request ends: with the payload of the reply, after which the server
waits for the next request, or with the end of the stream. -/
def Answers (i keepalives : Nat) (handler : Handler) (seen : List RequestFrame)
    (request : RequestFrame) (Q : List (Shared Session) → Prop) (callId : Int32)
    (r : Except SessionError Bytes) (bed : Testbed) : Prop :=
  (∃ payload, (handler seen request).answer? request.header.callId = some payload ∧
    r = .ok payload ∧
    bed.Stands i handler (Connection.In i keepalives (Listening [] (seen ++ [request]))) Q) ∨
  ((handler seen request).answer? request.header.callId = none ∧
    r = .error (.protocol (.frameLength callId .earlyEof)) ∧
    bed.Stands i handler (Connection.In i keepalives (Dropped (seen ++ [request]))) Q)

theorem Stands.receive_answers {limit : Nat} {callId : Int32} {r : Except SessionError Bytes}
    (h : bed.Stands i handler (Reads i keepalives handler seen request) Q)
    (hfits : ∀ payload, (handler seen request).answer? request.header.callId = some payload →
      Announced payload.length ∧ payload.length ≤ limit)
    (hanswer : bed.receive 0 limit callId = (some r, bed')) :
    Answers i keepalives handler seen request Q callId r bed' := by
  obtain ⟨k, seen', hs, hk, hQ⟩ := h
  obtain ⟨hs', hsessions, -, hresult⟩ := hs.receive limit callId
  obtain ⟨taken, ⟨state, hfar, hclosed, hserver, hclient, hunderway⟩, hfollows⟩ :=
    hk.receive limit
  rw [hanswer] at hs' hsessions hresult
  have hsessions' : Q bed'.sessions := hsessions ▸ hQ
  cases houtcome : (k.reader.readFrom (fun r => (r.outcome? limit).isSome)
      k.toClient.buffer).reader.outcome? limit with
  | some result =>
    rw [houtcome] at hresult
    cases hresult
    obtain ⟨payload, hanswers, rfl, hlistens⟩ := hunderway.settled hfollows hfits houtcome
    exact Or.inl ⟨payload, hanswers, rfl, _, seen', hs',
      ⟨state, hfar, hclosed, hserver, hclient, hlistens⟩, hsessions'⟩
  | none =>
    rw [houtcome] at hresult
    by_cases hshut : k.toClient.closed = true
    · rw [if_pos hshut] at hresult
      cases hresult
      dsimp only at hunderway
      rw [hshut] at hunderway
      obtain ⟨hanswers, herror, hdropped⟩ := hunderway.dropped hfollows
      rw [herror]
      refine Or.inr ⟨hanswers, rfl, _, seen', hs', ⟨state, hfar, hclosed, hserver, hclient, ?_⟩,
        hsessions'⟩
      rw [hshut]
      exact hdropped
    · rw [if_neg hshut] at hresult
      cases hresult

/-- Reading the answer comes to an end. -/
theorem Stands.receive {limit : Nat} (callId : Int32)
    (h : bed.Stands i handler (Reads i keepalives handler seen request) Q)
    (hrequest : Announced request.encode.length)
    (hread : RequestFrame.decode request.encode = .ok request)
    (hfits : ∀ payload, (handler seen request).answer? request.header.callId = some payload →
      Announced payload.length ∧ payload.length ≤ limit) :
    (Job.ask (.receive 0 limit callId)).Ensures t
      (Answers i keepalives handler seen request Q callId) bed :=
  Job.ensures_ask (e := .receive 0 limit callId)
    (J := Stands i handler (Reads i keepalives handler seen request) Q) work
    (fun h hd => h.drifts (keeps_reads i keepalives handler seen hrequest hread) hd)
    (fun h hwait hnew => h.receive_waits hwait hnew)
    (fun h hwait => h.receive_lives hrequest hfits hwait)
    (fun h hanswer => h.receive_answers hfits hanswer) h

end Testbed
end ClusterProbe
