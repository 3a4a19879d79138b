import ClusterProbe.Proofs.Frame
import ClusterProbe.Proofs.World.Serving

/-!
# Where a server stands between two requests

A server that has been given part of a request stands somewhere in it (`ServerState.Hears`), and
goes on reading for as long as there is something to read. Once it has been given the whole request,
it goes from there over the handler and its delays to the bytes of the answer, and back to where it
waits for the next request; or it drops the connection (`ServerState.Underway`). Every situation is
one that its own steps keep.
-/
namespace ClusterProbe

open ClusterProbe.Frame

/-- No whole frame with a payload stands at the front. -/
def Frame.Partial (given : Bytes) : Prop :=
  ∀ k payload more, Announced payload.length → given ≠ Frame.segment k payload ++ more

theorem Frame.partial_nil : Partial [] := by
  intro k payload more hp heq
  have hnil : Frame.segment k payload = [] := (List.append_eq_nil_iff.1 heq.symm).1
  have hne : List.replicate (4 * 0) 0 ++ [] ≠ Frame.segment k payload :=
    zeros_ne_opening hp (Nat.zero_lt_succ 3)
  exact hne hnil.symm

theorem Frame.partial_of_append {given rest payload : Bytes} (hp : Announced payload.length)
    (h : given ++ rest = Frame.segment 0 payload) (hrest : rest ≠ []) : Partial given := by
  rintro k payload' more hp' rfl
  rw [List.append_assoc] at h
  obtain ⟨-, -, hmore⟩ := eq_of_segment_append hp' hp h
  exact hrest (List.append_eq_nil_iff.1 hmore).2

namespace FrameReader

variable {r : FrameReader} {taken : Bytes} {limit : Nat} {result : Except ProtocolError Bytes}

theorem Follows.outcome_nil (h : r.Follows []) : r.outcome? limit ≠ some result := by
  cases r with
  | word got => nofun
  | payload size got => exact absurd h not_follows_nil

/-- A reader in a stream that brings a payload is settled by that payload, and only at its end. -/
theorem Follows.outcome_eq {k : Nat} {more payload : Bytes} (h : r.Follows taken)
    (hstream : taken ++ more = Frame.segment k payload) (hp : Announced payload.length)
    (hlimit : payload.length ≤ limit) (houtcome : r.outcome? limit = some result) :
    result = .ok payload ∧ more = [] := by
  cases r with
  | word got => cases houtcome
  | payload size got =>
    obtain ⟨-, hsize, k', rfl⟩ := h
    have hopening : opening k' size (got ++ more) = opening k payload.length payload := by
      rw [← Frame.segment, ← hstream]
      simp only [opening, List.append_assoc]
    obtain ⟨-, rfl, hgot⟩ := opening_injective hsize hp hopening
    simp only [outcome?, if_neg (Nat.not_lt.2 hlimit), payload?] at houtcome
    split at houtcome
    · rename_i hall
      have hmore : more = [] := by
        have hlengths := congrArg List.length hgot
        rw [List.length_append] at hlengths
        exact List.length_eq_zero_iff.1 (by omega)
      rw [hmore, List.append_nil] at hgot
      cases houtcome
      exact ⟨congrArg Except.ok hgot, hmore⟩
    · cases houtcome

end FrameReader

namespace Reply

/-- The payload that goes out in answer to call `callId`, unless the connection is dropped: because
the reply says so, or because no length can announce the payload. -/
def answer? (callId : Int32) (r : Reply) : Option Bytes :=
  (r.settled.payload? callId).filter (·.length < 2 ^ 32)

/-- The reply does not come to a payload of its own. -/
def isPlain : Reply → Bool
  | raw _ => false
  | delayed _ r => r.isPlain
  | _ => true

theorem settled_ne_raw {r : Reply} (h : r.isPlain = true) (bytes : Bytes) :
    r.settled ≠ raw bytes := by
  induction r with
  | raw payload => cases h
  | delayed millis r ih => exact ih h
  | _ => nofun

theorem announced_of_answer {callId : Int32} {r : Reply} {payload : Bytes}
    (h : r.answer? callId = some payload) (hplain : r.isPlain = true) :
    Announced payload.length := by
  obtain ⟨hpayload, hlt⟩ := Option.filter_eq_some_iff.1 h
  refine ⟨List.length_pos_iff.2 ?_, of_decide_eq_true hlt⟩
  cases hr : r.settled with
  | raw bytes => exact absurd hr (settled_ne_raw hplain bytes)
  | hangup | delayed => simp [hr, payload?] at hpayload
  | message | empty | error =>
    rw [hr] at hpayload
    cases hpayload
    exact encodeSections_ne_nil _ _

end Reply

namespace ServerState

variable {keepalives now : Nat} {l l' : Line} {given : Bytes}

/-- The server has been given these bytes after the last request, and some of them it has still to
read. -/
inductive Hears (given : Bytes) : ServerState → (unread : Bytes) → Prop
  | greeting {got unread : Bytes} (hlen : got.length < 3)
      (h : got ++ unread = Frame.hello ++ given) : Hears given (greeting got) unread
  | sent : Hears given (sending []) given
  | reading {r : FrameReader} {chunk unread : Bytes} (hr : r.Follows chunk)
      (hpayload : r.payload? = none) (h : chunk ++ unread = given) : Hears given (reading r) unread

theorem Hears.push {state : ServerState} {unread : Bytes} (h : state.Hears given unread)
    (bytes : Bytes) : state.Hears (given ++ bytes) (unread ++ bytes) := by
  cases h with
  | greeting hlen h =>
    refine .greeting hlen ?_
    rw [← List.append_assoc, h, List.append_assoc]
  | sent => exact .sent
  | reading hr hpayload h =>
    refine .reading hr hpayload ?_
    rw [← List.append_assoc, h]

/-- A step reads on, to the end of a request if there is a whole one. -/
theorem Hears.stepped (h : l.state.Hears given l.toServer.buffer)
    (hopen : l.toServer.closed = false)
    (hstep : step keepalives now l = some l') :
    l'.toClient = l.toClient ∧
      (l'.state.Hears given l'.toServer.buffer ∨
        ∃ k payload, Announced payload.length ∧
          given = Frame.segment k payload ++ l'.toServer.buffer ∧
          ∀ request, RequestFrame.decode payload = .ok request → l'.state = called request) := by
  obtain ⟨state, toServer, toClient, events⟩ := l
  cases h with
  | @greeting got _ hlen h =>
    obtain ⟨piece, hbuffer, -, hclient, ⟨-, hlong, -⟩ | ⟨-, hcases⟩⟩ := greet_cases hstep
    · have hcontra := hlong hopen
      omega
    · refine ⟨hclient, Or.inl ?_⟩
      dsimp only at hbuffer h
      rw [hbuffer, ← List.append_assoc] at h
      rcases hcases with ⟨hshort, hstate⟩ | ⟨hhello, hstate⟩ | ⟨hlow, hhigh, hne, -⟩
      · rw [hstate]
        exact .greeting hshort h
      · rw [hhello, List.append_cancel_left_eq] at h
        rw [hstate]
        exact .reading FrameReader.follows_start rfl h
      · have hthree : (got ++ piece).length = Frame.hello.length := by
          change _ = 3
          omega
        exact absurd (List.append_inj h hthree).1 hne
  | sent =>
    cases hstep
    exact ⟨rfl, Or.inl (.reading FrameReader.follows_start rfl (List.nil_append _))⟩
  | @reading r chunk _ hr hpayload h =>
    obtain ⟨r', took, hbuffer, -, hclient, hfollows, -, hcases⟩ := readRequest_cases hstep
    refine ⟨hclient, ?_⟩
    dsimp only at hbuffer h
    rw [hbuffer, ← List.append_assoc] at h
    rcases hcases with ⟨payload, hpayload', hdecode⟩ | ⟨-, hclosed, -⟩ | ⟨hnone, -, -, hstate⟩
    · refine Or.inr ?_
      have hr' := hfollows chunk hr
      cases r' with
      | word got => cases hpayload'
      | payload size got =>
        simp only [FrameReader.payload?] at hpayload'
        split at hpayload'
        · rename_i hall
          cases hpayload'
          obtain ⟨hannounced, k, hsegment⟩ := hr'.payload_eq hall
          refine ⟨k, payload, hannounced, by rw [← hsegment, h], fun request hrequest => ?_⟩
          rcases hdecode with ⟨request', hdecode, hstate⟩ | ⟨e, hdecode, -⟩
          · rw [hrequest] at hdecode
            cases hdecode
            exact hstate
          · rw [hrequest] at hdecode
            cases hdecode
        · cases hpayload'
    · rw [hopen] at hclosed
      cases hclosed
    · refine Or.inl ?_
      rw [hstate]
      exact .reading (hfollows chunk hr) hnone h

/-- A server with something to read does not wait. -/
theorem Hears.exists_step (h : l.state.Hears given l.toServer.buffer)
    (hmore : l.toServer.buffer ≠ [] ∨ l.state = sending []) :
    ∃ l', step keepalives now l = some l' := by
  obtain ⟨state, toServer, toClient, events⟩ := l
  cases h with
  | @greeting got _ hlen h =>
    obtain ⟨⟨piece, toServer'⟩, hread⟩ :=
      Pipe.exists_read (hmore.resolve_right (by rintro ⟨⟩)) (Frame.hello.length - got.length)
    simp only [ServerState.step, greet, hread, bind, Option.bind_some]
    split
    · exact ⟨_, rfl⟩
    · split
      · exact ⟨_, rfl⟩
      · split <;> exact ⟨_, rfl⟩
  | sent => exact ⟨_, rfl⟩
  | @reading r chunk _ hr hpayload h =>
    have hbuffer : toServer.buffer ≠ [] := hmore.resolve_right (by rintro ⟨⟩)
    simp only [ServerState.step, readRequest]
    cases hpayload' : (r.readFrom (fun r => r.payload?.isSome) toServer.buffer).reader.payload? with
    | some payload =>
      dsimp only
      split <;> exact ⟨_, rfl⟩
    | none =>
      dsimp only
      have hrest : (r.readFrom (fun r => r.payload?.isSome) toServer.buffer).rest = [] := by
        refine hr.readFrom_rest _ (fun size got hall => ?_) ?_
        · simp [FrameReader.payload?, hall]
        · rw [hpayload']
          rfl
      split
      · split <;> exact ⟨_, rfl⟩
      · rw [if_neg]
        · exact ⟨_, rfl⟩
        · rw [hrest]
          exact fun heq => hbuffer (List.length_eq_zero_iff.1 heq.symm)

/-- A server that has been given a whole request has not read to the end of it. -/
theorem Hears.unread {state : ServerState} {unread payload : Bytes}
    (h : state.Hears (Frame.segment 0 payload) unread) (hp : Announced payload.length) :
    unread ≠ [] ∨ state = sending [] := by
  cases h with
  | @greeting got _ hlen h =>
    refine Or.inl ?_
    rintro rfl
    have hlengths := congrArg List.length h
    rw [List.append_nil, List.length_append] at hlengths
    change got.length = 3 + _ at hlengths
    omega
  | sent => exact Or.inr rfl
  | @reading r chunk _ hr hpayload h =>
    refine Or.inl ?_
    rintro rfl
    rw [List.append_nil] at h
    rw [h] at hr
    rw [hr.eq_payload hp] at hpayload
    simp [FrameReader.payload?] at hpayload

/-- The request has been given to the server, and of the answer the client has taken `taken`. -/
inductive Underway (keepalives : Nat) (seen : List RequestFrame) (request : RequestFrame)
    (reply : Reply) (taken : Bytes) :
    ServerState → (unread arrived : Bytes) → (closed : Bool) → List RequestFrame → Prop
  | hears {state : ServerState} {unread : Bytes}
      (h : state.Hears (Frame.segment 0 request.encode) unread) (htaken : taken = []) :
      Underway keepalives seen request reply taken state unread [] false seen
  | called (htaken : taken = []) :
      Underway keepalives seen request reply taken (called request) [] [] false seen
  | answering {r : Reply} {due : Nat} (hr : r.settled = reply.settled) (htaken : taken = []) :
      Underway keepalives seen request reply taken (answering request.header.callId r due) [] []
        false (seen ++ [request])
  | sending {payload arrived rest : Bytes}
      (hanswer : reply.answer? request.header.callId = some payload)
      (h : taken ++ arrived ++ rest = Frame.segment keepalives payload) :
      Underway keepalives seen request reply taken (sending rest) [] arrived false
        (seen ++ [request])
  | waiting {payload arrived : Bytes}
      (hanswer : reply.answer? request.header.callId = some payload)
      (h : taken ++ arrived = Frame.segment keepalives payload) :
      Underway keepalives seen request reply taken (reading .start) [] arrived false
        (seen ++ [request])
  | ended {result : Except IoError Unit} (hanswer : reply.answer? request.header.callId = none)
      (htaken : taken = []) :
      Underway keepalives seen request reply taken (ended result) [] [] true (seen ++ [request])

variable {seen seen' : List RequestFrame} {request : RequestFrame} {reply : Reply} {taken : Bytes}

theorem Hears.isRunning {state : ServerState} {unread : Bytes} (h : state.Hears given unread) :
    state.isRunning = true := by
  cases h <;> rfl

/-- A reply that is due is answered as its settled form says. -/
theorem Underway.replied {r : Reply} (hr : r.settled = reply.settled) :
    Underway keepalives seen request reply []
      (ServerState.reply keepalives now request.header.callId r) [] []
      (!(ServerState.reply keepalives now request.header.callId r).isRunning)
      (seen ++ [request]) := by
  rcases reply_cases keepalives now request.header.callId r with ⟨millis, r', rfl, hstate⟩ |
    ⟨rfl, hstate⟩ | ⟨hsettled, payload, hpayload, ⟨hfits, hstate⟩ | ⟨hlong, e, hstate⟩⟩
  · rw [hstate]
    exact .answering hr rfl
  · rw [hstate]
    refine .ended ?_ rfl
    rw [Reply.answer?, ← hr]
    rfl
  · have hanswer : reply.answer? request.header.callId = some payload := by
      rw [Reply.answer?, ← hr, hsettled, hpayload]
      exact Option.filter_some_pos (decide_eq_true hfits)
    rw [hstate]
    exact .sending hanswer rfl
  · rw [hstate]
    refine .ended ?_ rfl
    rw [Reply.answer?, ← hr, hsettled, hpayload]
    exact Option.filter_some_neg (by simpa using hlong)

theorem Underway.stepped
    (h : Underway keepalives seen request reply taken l.state l.toServer.buffer l.toClient.buffer
      l.toClient.closed seen') (hclosed : l.toServer.closed = l.toClient.closed)
    (hrequest : Announced request.encode.length)
    (hread : RequestFrame.decode request.encode = .ok request)
    (hstep : step keepalives now l = some l') :
    Underway keepalives seen request reply taken l'.state l'.toServer.buffer l'.toClient.buffer
      (l.toClient.closed || !l'.state.isRunning) seen' := by
  obtain ⟨state, ⟨room, unread, refused⟩, ⟨capacity, arrived, closed⟩, events⟩ := l
  dsimp only at h hclosed ⊢
  cases h with
  | hears h htaken =>
    obtain ⟨hclient, hhears | ⟨k, payload, hp, hgiven, hcalled⟩⟩ := h.stepped hclosed hstep
    · rw [hclient, hhears.isRunning]
      exact .hears hhears htaken
    · obtain ⟨-, rfl, hunread⟩ := eq_of_segment_append hp hrequest hgiven.symm
      rw [hclient, hcalled request hread, hunread]
      exact .called htaken
  | called htaken => cases hstep
  | answering hr htaken =>
    simp only [step] at hstep
    split at hstep
    · cases hstep
    · cases hstep
      subst htaken
      exact .replied hr
  | @sending payload _ rest hanswer h =>
    cases rest with
    | nil =>
      cases hstep
      rw [List.append_nil] at h
      exact .waiting hanswer h
    | cons b rest =>
      simp only [step, bind, Option.bind_eq_some_iff] at hstep
      obtain ⟨⟨result, toClient'⟩, hwrite, hstep⟩ := hstep
      obtain ⟨hroom, rfl, rfl⟩ := Pipe.write_eq_some rfl hwrite
      cases hstep
      refine .sending hanswer ?_
      rw [← h, List.append_assoc, List.append_assoc, List.append_assoc, List.take_append_drop]
  | waiting hanswer h =>
    obtain ⟨r', took, hall, -, -, -, hidle, hcases⟩ := readRequest_cases hstep
    have htook := (List.append_eq_nil_iff.1 hall.symm).1
    rcases hcases with ⟨payload, hpayload, -⟩ | ⟨-, hshut, -⟩ | ⟨-, -, hmoved, -⟩
    · rw [hidle htook] at hpayload
      cases hpayload
    · rw [hclosed] at hshut
      cases hshut
    · exact absurd htook hmoved
  | ended hanswer htaken => cases hstep

/-- What has arrived is there to be taken. -/
theorem Underway.take {state : ServerState} {unread arrived took rest : Bytes} {closed : Bool}
    (h : Underway keepalives seen request reply taken state unread arrived closed seen')
    (harrived : arrived = took ++ rest) :
    Underway keepalives seen request reply (taken ++ took) state unread rest closed seen' := by
  cases h with
  | hears h htaken =>
    obtain ⟨rfl, rfl⟩ := List.append_eq_nil_iff.1 harrived.symm
    exact .hears h (by rw [htaken, List.append_nil])
  | called htaken =>
    obtain ⟨rfl, rfl⟩ := List.append_eq_nil_iff.1 harrived.symm
    exact .called (by rw [htaken, List.append_nil])
  | answering hr htaken =>
    obtain ⟨rfl, rfl⟩ := List.append_eq_nil_iff.1 harrived.symm
    exact .answering hr (by rw [htaken, List.append_nil])
  | sending hanswer h =>
    subst harrived
    exact .sending hanswer (by rw [← h]; simp only [List.append_assoc])
  | waiting hanswer h =>
    subst harrived
    exact .waiting hanswer (by rw [← h, List.append_assoc])
  | ended hanswer htaken =>
    obtain ⟨rfl, rfl⟩ := List.append_eq_nil_iff.1 harrived.symm
    exact .ended hanswer (by rw [htaken, List.append_nil])

/-- The server waits for a request, and this is what it has been given of it. -/
structure Listening (given : Bytes) (seen : List RequestFrame) (state : ServerState)
    (unread arrived : Bytes) (closed : Bool) (seen' : List RequestFrame) : Prop where
  hears : state.Hears given unread
  quiet : arrived = []
  isOpen : closed = false
  seen_eq : seen' = seen

theorem Listening.stepped
    (h : Listening given seen l.state l.toServer.buffer l.toClient.buffer l.toClient.closed seen')
    (hclosed : l.toServer.closed = l.toClient.closed) (hpartial : Partial given)
    (hstep : step keepalives now l = some l') :
    Listening given seen l'.state l'.toServer.buffer l'.toClient.buffer
      (l.toClient.closed || !l'.state.isRunning) seen' := by
  obtain ⟨hclient, hhears | ⟨k, payload, hp, hgiven, -⟩⟩ :=
    h.hears.stepped (hclosed.trans h.isOpen) hstep
  · refine ⟨hhears, ?_, ?_, h.seen_eq⟩
    · rw [hclient]
      exact h.quiet
    · rw [h.isOpen, hhears.isRunning]
      rfl
  · exact absurd hgiven (hpartial k payload _ hp)

/-- A server that has been given the whole request answers it. -/
theorem Listening.underway {unread arrived : Bytes} {closed : Bool} {state : ServerState}
    (h : Listening (Frame.segment 0 request.encode) seen state unread arrived closed seen') :
    Underway keepalives seen request reply [] state unread arrived closed seen' := by
  obtain ⟨hears, rfl, rfl, rfl⟩ := h
  exact .hears hears rfl

/-- The server has left, and both directions are closed. -/
structure Dropped (seen : List RequestFrame) (state : ServerState) (unread arrived : Bytes)
    (closed : Bool) (seen' : List RequestFrame) : Prop where
  hasEnded : ∃ result, state = ended result
  isClosed : closed = true
  seen_eq : seen' = seen

section Reader

variable {r : FrameReader} {state : ServerState} {unread arrived : Bytes} {closed : Bool}
  {limit : Nat}

/-- A client that has come to the end of a frame has got the payload of the answer, and the server
waits for the next request. -/
theorem Underway.settled {result : Except ProtocolError Bytes}
    (h : Underway keepalives seen request reply taken state unread arrived closed seen')
    (hr : r.Follows taken)
    (hfits : ∀ payload, reply.answer? request.header.callId = some payload →
      Announced payload.length ∧ payload.length ≤ limit)
    (houtcome : r.outcome? limit = some result) :
    ∃ payload, reply.answer? request.header.callId = some payload ∧ result = .ok payload ∧
      Listening [] (seen ++ [request]) state unread arrived closed seen' := by
  have hne : taken ≠ [] := by
    rintro rfl
    exact hr.outcome_nil houtcome
  cases h with
  | hears _ htaken => exact absurd htaken hne
  | called htaken => exact absurd htaken hne
  | answering _ htaken => exact absurd htaken hne
  | ended _ htaken => exact absurd htaken hne
  | sending hanswer h =>
    obtain ⟨hp, hlimit⟩ := hfits _ hanswer
    rw [List.append_assoc] at h
    obtain ⟨hresult, hmore⟩ := hr.outcome_eq h hp hlimit houtcome
    obtain ⟨rfl, rfl⟩ := List.append_eq_nil_iff.1 hmore
    exact ⟨_, hanswer, hresult, .sent, rfl, rfl, rfl⟩
  | waiting hanswer h =>
    obtain ⟨hp, hlimit⟩ := hfits _ hanswer
    obtain ⟨hresult, rfl⟩ := hr.outcome_eq h hp hlimit houtcome
    exact ⟨_, hanswer, hresult, .reading FrameReader.follows_start rfl rfl, rfl, rfl, rfl⟩

/-- A client that has come to the end of the stream was not answered. -/
theorem Underway.dropped
    (h : Underway keepalives seen request reply taken state unread arrived true seen')
    (hr : r.Follows taken) :
    reply.answer? request.header.callId = none ∧
      (∀ callId, r.endError callId = .frameLength callId .earlyEof) ∧
      Dropped (seen ++ [request]) state unread arrived true seen' := by
  cases h with
  | ended hanswer htaken =>
    refine ⟨hanswer, fun callId => ?_, ⟨_, rfl⟩, rfl, rfl⟩
    cases r with
    | word got => rfl
    | payload size got =>
      subst htaken
      exact absurd hr FrameReader.not_follows_nil

end Reader

/-- The server waits for the greeting, and nothing has been sent. -/
structure Untouched (seen : List RequestFrame) (state : ServerState) (unread arrived : Bytes)
    (closed : Bool) (seen' : List RequestFrame) : Prop where
  isStart : state = start
  unheard : unread = []
  quiet : arrived = []
  isOpen : closed = false
  seen_eq : seen' = seen

end ServerState

/-- A situation of a server that is stated by its state, what it has still to read, what has arrived
at the client, and the requests that the handler has seen. -/
abbrev ServerState.Situation :=
  ServerState → (unread arrived : Bytes) → (closed : Bool) → List RequestFrame → Prop

/-- The server at the far end is in the situation `S`, and both pipes carry something. -/
def Connection.In (i keepalives : Nat) (S : ServerState.Situation) (k : Connection)
    (seen : List RequestFrame) : Prop :=
  ∃ state, k.farEnd = .server i keepalives state ∧ k.toServer.closed = k.toClient.closed ∧
    Frame.hello.length ≤ k.toServer.capacity ∧ 0 < k.toClient.capacity ∧
    S state k.toServer.buffer k.toClient.buffer k.toClient.closed seen

namespace Handler

variable {handler : Handler} {i keepalives : Nat} {S : ServerState.Situation}
  {seen : List RequestFrame}

open ServerState

theorem keeps_in
    (asked : ∀ {request unread arrived closed seen},
      S (.called request) unread arrived closed seen →
      ∀ now, S (.answering request.header.callId (handler seen request) now) unread arrived closed
        (seen ++ [request]))
    (stepped : ∀ {l l' now seen},
      S l.state l.toServer.buffer l.toClient.buffer l.toClient.closed seen →
      l.toServer.closed = l.toClient.closed → step keepalives now l = some l' →
        S l'.state l'.toServer.buffer l'.toClient.buffer (l.toClient.closed || !l'.state.isRunning)
          seen) :
    handler.Keeps i keepalives (Connection.In i keepalives S) where
  server := by
    rintro k seen ⟨state, hfar, -⟩
    exact ⟨state, hfar⟩
  asked := by
    rintro k seen request ⟨state, hfar, hclosed, hserver, hclient, hS⟩ hcalled now
    rw [hfar] at hcalled
    cases hcalled
    exact ⟨_, rfl, hclosed, hserver, hclient, asked hS now⟩
  stepped := by
    rintro k seen state now l ⟨state', hfar, hclosed, hserver, hclient, hS⟩ hstate hstep
    rw [hfar] at hstate
    cases hstate
    obtain ⟨⟨hsc, hscap⟩, hcc, hccap⟩ := step_pipes hstep
    have hnext := stepped (l := k.line _) hS hclosed hstep
    refine ⟨l.state, ?_⟩
    unfold Connection.served
    by_cases hrunning : l.state.isRunning = true
    · rw [if_pos hrunning]
      rw [hrunning, Bool.not_true, Bool.or_false] at hnext
      refine ⟨rfl, ?_, hscap ▸ hserver, hccap ▸ hclient, ?_⟩
      · exact (hsc.trans hclosed).trans hcc.symm
      · dsimp only
        rw [hcc]
        exact hnext
    · rw [if_neg hrunning]
      rw [Bool.not_eq_true] at hrunning
      rw [hrunning, Bool.not_false, Bool.or_true] at hnext
      exact ⟨rfl, rfl, hscap ▸ hserver, hccap ▸ hclient, hnext⟩

variable (handler i keepalives)

theorem keeps_untouched (seen : List RequestFrame) :
    handler.Keeps i keepalives (Connection.In i keepalives (Untouched seen)) := by
  refine keeps_in (fun h => ?_) fun {l l' now seen'} h hclosed hstep => ?_
  · cases h.isStart
  · obtain ⟨state, ⟨capacity, unread, closed⟩, toClient, events⟩ := l
    obtain ⟨rfl, rfl, -, hopen, -⟩ := h
    obtain rfl := hclosed.trans hopen
    simp [step, start, greet, Pipe.read, Frame.hello] at hstep

theorem keeps_listening {given : Bytes} (hpartial : Partial given) (seen : List RequestFrame) :
    handler.Keeps i keepalives (Connection.In i keepalives (Listening given seen)) :=
  keeps_in (fun h => by cases h.hears) fun h hclosed hstep => h.stepped hclosed hpartial hstep

theorem keeps_underway {request : RequestFrame} (hrequest : Announced request.encode.length)
    (hread : RequestFrame.decode request.encode = .ok request) (seen : List RequestFrame)
    (taken : Bytes) :
    handler.Keeps i keepalives (Connection.In i keepalives
      (Underway keepalives seen request (handler seen request) taken)) := by
  refine keeps_in (fun h now => ?_) fun h hclosed hstep => h.stepped hclosed hrequest hread hstep
  cases h with
  | hears h => cases h
  | called htaken => exact .answering rfl htaken

theorem keeps_dropped (seen : List RequestFrame) :
    handler.Keeps i keepalives (Connection.In i keepalives (Dropped seen)) := by
  refine keeps_in (fun h => ?_) fun {l l' now seen'} h hclosed hstep => ?_
  · obtain ⟨result, hstate⟩ := h.hasEnded
    cases hstate
  · obtain ⟨result, hstate⟩ := h.hasEnded
    rw [step, hstate] at hstep
    cases hstep

end Handler
end ClusterProbe
