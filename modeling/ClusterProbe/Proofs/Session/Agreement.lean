import ClusterProbe.Proofs.Session.Call
import ClusterProbe.Proofs.Session.Dialogue
import ClusterProbe.Proofs.World.Rehearsal

/-!
# Client and server agree

A session on a connection to a server in the process carries calls as if the handler were called
directly: each call hands one request to the handler, and the caller gets what the reply means,
whatever the number of empty frames, the room in the pipes, the delays and the order of the steps.
Once the server has dropped the connection, the handler is asked no more.
-/
namespace ClusterProbe

open ClusterProbe.Frame ServerState

variable {t : ThreadId} {i keepalives : Nat} {handler : Handler} {seen : List RequestFrame}
  {Q : List (Shared Session) → Prop} {bed : Testbed} {request : RequestFrame}

namespace Reply

/-- What a call is to bring when the server replies so. A payload of its own may mean anything. -/
def meaning (callId : Int32) : Reply → Except SessionError Bytes
  | message body => .ok body
  | empty => .ok []
  | error status => .error (.remote ⟨RpcErrorCode.ofField status.code, status.message⟩)
  | delayed _ r => r.meaning callId
  | raw _ | hangup => .error (.protocol (.frameLength callId .earlyEof))

theorem meaning_settled (callId : Int32) (r : Reply) :
    r.settled.meaning callId = r.meaning callId := by
  induction r with
  | delayed millis r ih => exact ih
  | _ => rfl

/-- The payload of an answer is read as a response to the call, which means what the reply means. -/
theorem exists_response {callId : Int32} {r : Reply} {payload : Bytes}
    (h : r.answer? callId = some payload) (hplain : r.isPlain = true) :
    ∃ response, ResponseFrame.decodeWithRest payload = .ok (response, []) ∧
      response.header.callId = callId ∧ Messenger.verdict response = r.meaning callId := by
  obtain ⟨hpayload, hfits⟩ := Option.filter_eq_some_iff.1 h
  have hlen : payload.length < 2 ^ 64 := (of_decide_eq_true hfits).trans (by decide)
  rw [← meaning_settled]
  cases hr : r.settled with
  | raw bytes => exact absurd hr (settled_ne_raw hplain bytes)
  | hangup | delayed => simp [hr, payload?] at hpayload
  | message body =>
    rw [hr] at hpayload
    cases hpayload
    have hread := ResponseFrame.decodeWithRest_encode _ body [] hlen
    rw [List.append_nil] at hread
    exact ⟨_, hread, rfl, rfl⟩
  | empty =>
    rw [hr] at hpayload
    cases hpayload
    exact ⟨_, ResponseFrame.decodeWithRest_encode_void _ hlen, rfl, rfl⟩
  | error status =>
    rw [hr] at hpayload
    cases hpayload
    have hread := ResponseFrame.decodeWithRest_encode _ _ [] hlen
    rw [List.append_nil] at hread
    refine ⟨_, hread, rfl, ?_⟩
    have hstatus := ResponseFrame.errorStatus_failure callId status (sections_lt hlen).2
    rw [ResponseFrame.failure] at hstatus
    simp only [Messenger.verdict, hstatus]
    rfl

end Reply

/-- A request and what the handler replies to it. -/
structure Exchange where
  request : RequestFrame
  reply : Reply

namespace Exchange

/-- The request can be announced, the answer, if there is one, is not longer than the client takes,
and it is a response. -/
structure Fits (limit : Nat) (x : Exchange) : Prop where
  request : x.request.encode.length < 2 ^ 32
  answer : ∀ payload ∈ x.reply.answer? x.request.header.callId, payload.length ≤ limit
  plain : x.reply.isPlain = true

instance (limit : Nat) (x : Exchange) : Decidable (x.Fits limit) :=
  decidable_of_iff
    (x.request.encode.length < 2 ^ 32 ∧
      (∀ payload ∈ x.reply.answer? x.request.header.callId, payload.length ≤ limit) ∧
      x.reply.isPlain = true)
    ⟨fun h => ⟨h.1, h.2.1, h.2.2⟩, fun h => ⟨h.request, h.answer, h.plain⟩⟩

theorem Fits.announced {x : Exchange} {limit : Nat} (h : x.Fits limit) :
    Announced x.request.encode.length :=
  ⟨List.length_pos_iff.2 (encodeSections_ne_nil _ _), h.request⟩

theorem Fits.decode {x : Exchange} {limit : Nat} (h : x.Fits limit)
    (hmethod : x.request.header.remoteMethod.isSome) :
    RequestFrame.decode x.request.encode = .ok x.request := by
  have hread := RequestFrame.decode_encode x.request [] hmethod (h.request.trans (by decide))
  rwa [List.append_nil] at hread

end Exchange

namespace Stream

theorem writePieces_ensures {given bytes more payload : Bytes} {fuel : Nat}
    (h : bed.Stands i handler (Connection.In i keepalives (Listening given seen)) Q)
    (hp : Announced payload.length) (hgiven : given ++ (bytes ++ more) = Frame.segment 0 payload)
    (hfuel : bytes.length ≤ fuel) :
    (writePieces 0 fuel bytes).Ensures t (fun r bed' => r = .ok () ∧
      bed'.Stands i handler (Connection.In i keepalives (Listening (given ++ bytes) seen)) Q)
      bed := by
  induction fuel generalizing given bytes bed with
  | zero =>
    obtain rfl := List.length_eq_zero_iff.1 (Nat.le_zero.1 hfuel)
    exact Job.ensures_pure ⟨rfl, by rwa [List.append_nil]⟩
  | succ fuel ih =>
    by_cases hbytes : bytes = []
    · subst hbytes
      exact Job.ensures_pure ⟨rfl, by rwa [List.append_nil]⟩
    · have hrest : bytes ++ more ≠ [] := List.append_ne_nil_of_left_ne_nil hbytes _
      rw [writePieces]
      · refine (h.write (partial_of_append hp hgiven hrest) hbytes).bind ?_
        rintro _ bed ⟨n, hn, rfl, h⟩
        have hgiven' :
            given ++ bytes.take n ++ (bytes.drop n ++ more) = Frame.segment 0 payload := by
          rw [← hgiven, List.append_assoc, ← List.append_assoc (bytes.take n),
            List.take_append_drop]
        have hshort : (bytes.drop n).length ≤ fuel := by
          rw [List.length_drop]
          omega
        refine (ih h hgiven' hshort).mono ?_
        rintro r bed ⟨rfl, h⟩
        rw [List.append_assoc, List.take_append_drop] at h
        exact ⟨rfl, h⟩
      · exact hbytes

end Stream

namespace Messenger

theorem writeRequest_ensures
    (h : bed.Stands i handler (Connection.In i keepalives (Listening [] seen)) Q)
    (hrequest : Announced request.encode.length)
    (hread : RequestFrame.decode request.encode = .ok request) :
    (writeRequest 0 request.encode).Ensures t (fun r bed' => r = .ok () ∧
      bed'.Stands i handler (Connection.In i keepalives
        (Underway keepalives seen request (handler seen request) [])) Q) bed := by
  have hword : Frame.encodeLength request.encode.length =
      .ok (Bytes.bigEndian32 (UInt32.ofNat request.encode.length)) :=
    Frame.encodeLength_eq_ok.2 ⟨hrequest.2, rfl⟩
  simp only [writeRequest, hword]
  refine (Stream.writePieces_ensures h hrequest rfl (Nat.le_refl _)).bind ?_
  rintro _ bed ⟨rfl, h⟩
  have hpayload : [] ++ Bytes.bigEndian32 (UInt32.ofNat request.encode.length) ++
      (request.encode ++ []) = Frame.segment 0 request.encode := by
    rw [List.append_nil]
    rfl
  refine (Stream.writePieces_ensures h hrequest hpayload (Nat.le_refl _)).bind ?_
  rintro _ bed ⟨rfl, h⟩
  refine ((Testbed.Stands.underway h).flush
    (handler.keeps_underway i keepalives hrequest hread seen []) 0).bind ?_
  rintro _ bed ⟨rfl, h⟩
  exact Job.ensures_pure ⟨rfl, h⟩

variable {m : Messenger} {method : RemoteMethod} {body : Bytes} {s : SessionId} {v : Session}

/-- The answer to a request has been read, and the server waits for the next one; or there is none,
and the server has dropped the connection. -/
inductive Concludes (i keepalives : Nat) (handler : Handler) (seen : List RequestFrame)
    (Q Q' : List (Shared Session) → Prop) (request : RequestFrame) (answered dropped : Prop)
    (bed : Testbed) : Prop
  | answered (hanswer : ((handler seen request).answer? request.header.callId).isSome = true)
      (h : answered) (stands : bed.Stands i handler
        (Connection.In i keepalives (Listening [] (seen ++ [request]))) Q)
  | dropped (hanswer : ((handler seen request).answer? request.header.callId).isSome = false)
      (h : dropped) (stands : bed.Stands i handler
        (Connection.In i keepalives (Dropped (seen ++ [request]))) Q')

/-- The response to a request means what the reply means. -/
def Means (reply : Reply) (callId : Int32) (response : ResponseFrame) : Prop :=
  response.header.callId = callId ∧ verdict response = reply.meaning callId

theorem readResponse_ensures
    (h : bed.Stands i handler (Connection.In i keepalives
      (Underway keepalives seen request (handler seen request) [])) Q)
    (hfits : (Exchange.mk request (handler seen request)).Fits m.maxFrameSize)
    (hread : RequestFrame.decode request.encode = .ok request) :
    (m.readResponse 0 request.header.callId).Ensures t (fun r bed' =>
      Concludes i keepalives handler seen Q Q request
        (∃ response, r = .ok response ∧ Means (handler seen request) request.header.callId response)
        (r = .error (.protocol (.frameLength request.header.callId .earlyEof))) bed') bed := by
  have hanswer (payload : Bytes)
      (hpayload : (handler seen request).answer? request.header.callId = some payload) :
      Announced payload.length ∧ payload.length ≤ m.maxFrameSize :=
    ⟨Reply.announced_of_answer hpayload hfits.plain, hfits.answer payload hpayload⟩
  refine (h.expect hfits.announced hread).bind fun _ bed h => ?_
  refine (h.receive request.header.callId hfits.announced hread hanswer).bind ?_
  rintro _ bed (⟨payload, hpayload, rfl, h⟩ | ⟨hnone, rfl, h⟩)
  · obtain ⟨response, hdecode, hmeans⟩ := Reply.exists_response hpayload hfits.plain
    simp only [hdecode, List.isEmpty_nil, if_true]
    exact Job.ensures_pure (.answered (by rw [hpayload]; rfl) ⟨response, rfl, hmeans⟩ h)
  · exact Job.ensures_pure (.dropped (by rw [hnone]; rfl) rfl h)

theorem exchange_ensures
    (h : bed.Stands i handler (Connection.In i keepalives (Listening [] seen)) Q)
    (hfits : (Exchange.mk request (handler seen request)).Fits m.maxFrameSize)
    (hmethod : request.header.remoteMethod.isSome) :
    (m.exchange 0 request).Ensures t (fun r bed' =>
      Concludes i keepalives handler seen Q Q request
        (∃ response, r = .ok response ∧ Means (handler seen request) request.header.callId response)
        (r = .error (.protocol (.frameLength request.header.callId .earlyEof))) bed') bed := by
  have hread := hfits.decode hmethod
  refine (writeRequest_ensures h hfits.announced hread).bind ?_
  rintro _ bed ⟨rfl, h⟩
  refine (readResponse_ensures h hfits hread).bind ?_
  rintro _ bed (⟨hanswer, ⟨response, rfl, hmeans⟩, h⟩ | ⟨hanswer, rfl, h⟩)
  · simp only [hmeans.1, if_true]
    exact Job.ensures_pure (.answered hanswer ⟨response, rfl, hmeans⟩ h)
  · exact Job.ensures_pure (.dropped hanswer rfl h)

theorem interpret_ensures {P : Connection → List RequestFrame → Prop}
    (h : bed.Stands i handler P Q) (hP : handler.Keeps i keepalives P) (response : ResponseFrame) :
    (m.interpret method response).Ensures t
      (fun r bed' => r = verdict response ∧ bed'.Stands i handler P Q) bed := by
  unfold interpret verdict
  by_cases herror : response.isError = true
  · simp only [if_pos herror]
    cases response.errorStatus with
    | error e => exact Job.ensures_pure ⟨rfl, h⟩
    | ok status => exact (h.log hP _).bind fun _ bed h => Job.ensures_pure ⟨rfl, h⟩
  · simp only [if_neg herror]
    exact (h.log hP _).bind fun _ bed h => Job.ensures_pure ⟨rfl, h⟩

end Messenger

namespace Session

variable {s : SessionId} {v : Session} {P : Connection → List RequestFrame → Prop}

theorem abort_ensures
    (h : bed.Stands i handler (Connection.In i keepalives (Dropped seen))
      (Testbed.Holds s ⟨v, [t]⟩))
    (v' : Session) (hstream : v'.stream = some 0) :
    (abort s v').Ensures t (fun _ bed' => bed'.Stands i handler
      (Connection.In i keepalives (Dropped seen))
      (Testbed.Holds s ⟨v'.closed.finish, [t]⟩)) bed := by
  have hkeeps := handler.keeps_dropped i keepalives seen
  unfold abort
  refine (h.store hkeeps _).bind fun _ bed h => ?_
  simp only [hstream]
  refine (h.log hkeeps _).bind fun _ bed h => ?_
  refine h.hangUp.bind ?_
  rintro _ bed ⟨rfl, h⟩
  exact Job.ensures_pure h

/-- A guarded job runs on the session as it was found, which is given back as the job leaves it. -/
theorem guarded_ensures {α : Type} {body : Session → Job α} {post : α → Testbed → Prop}
    (h : bed.Stands i handler P (Testbed.Holds s ⟨v, []⟩)) (hP : handler.Keeps i keepalives P)
    (mid : α → Testbed → Prop)
    (hbody : ∀ bed : Testbed, bed.Stands i handler P (Testbed.Holds s ⟨v, [t]⟩) →
      (body v).Ensures t mid bed)
    (hrelease : ∀ a bed, mid a bed → (Job.ask (.release s)).Ensures t (fun _ => post a) bed) :
    (guarded s body).Ensures t post bed := by
  refine (h.acquire hP).bind ?_
  rintro _ bed ⟨rfl, h⟩
  refine (hbody bed h).bind fun a bed h => ?_
  exact (hrelease a bed h).bind fun _ bed h => Job.ensures_pure h

theorem beginCall_ensures {c : ConnectionId} (hv : v.OpenOn c)
    (hlt : v.lastCallId < Int32.maxValue)
    (h : bed.Stands i handler P (Testbed.Holds s ⟨v, [t]⟩)) (hP : handler.Keeps i keepalives P) :
    (beginCall s v).Ensures t (fun r bed' => r = .ok (c, v.lastCallId + 1, v.begun) ∧
      bed'.Stands i handler P (Testbed.Holds s ⟨v.begun, [t]⟩)) bed := by
  rw [hv.beginCall, if_pos hlt]
  exact (h.store hP _).bind fun _ bed h => Job.ensures_pure ⟨rfl, h⟩

end Session

namespace Messenger

variable {m : Messenger} {method : RemoteMethod} {body : Bytes} {v : Session}

theorem callHeld_ensures (hv : v.OpenOn 0) (hlt : v.lastCallId < Int32.maxValue)
    (h : bed.Stands i handler (Connection.In i keepalives (Listening [] seen))
      (Testbed.Holds m.session ⟨v, [t]⟩))
    (hrequest : m.request method body (v.lastCallId + 1) = request)
    (hfits : (Exchange.mk request (handler seen request)).Fits m.maxFrameSize) :
    (m.callHeld method body v).Ensures t (fun r bed' =>
      Concludes i keepalives handler seen (Testbed.Holds m.session ⟨v.begun.finish, [t]⟩)
        (Testbed.Holds m.session ⟨v.begun.closed.finish, [t]⟩) request
        (r = (handler seen request).meaning request.header.callId)
        (r = .error (.protocol (.frameLength request.header.callId .earlyEof))) bed') bed := by
  have hkeeps := handler.keeps_listening i keepalives partial_nil seen
  have hmethod : request.header.remoteMethod.isSome := by
    rw [← hrequest]
    rfl
  refine (Session.beginCall_ensures hv hlt h hkeeps).bind ?_
  rintro _ bed ⟨rfl, h⟩
  refine (h.log hkeeps _).bind fun _ bed h => ?_
  change ((m.exchange 0 (m.request method body (v.lastCallId + 1))) >>= _).Ensures t _ bed
  rw [hrequest]
  refine (exchange_ensures h hfits hmethod).bind ?_
  rintro _ bed (⟨hanswer, ⟨response, rfl, -, hverdict⟩, h⟩ | ⟨hanswer, rfl, h⟩)
  · have hkeeps' := handler.keeps_listening i keepalives partial_nil (seen ++ [request])
    refine (h.store hkeeps' _).bind fun _ bed h => ?_
    refine (interpret_ensures h hkeeps' response).mono ?_
    rintro r bed ⟨rfl, h⟩
    exact .answered hanswer hverdict h
  · have hkeeps' := handler.keeps_dropped i keepalives (seen ++ [request])
    refine (h.log hkeeps' _).bind fun _ bed h => ?_
    refine (Session.abort_ensures h v.begun hv.begun_stream).bind fun _ bed h => ?_
    exact Job.ensures_pure (.dropped hanswer rfl h)

/-- A call on an open session in step hands one request to the handler and brings what the reply
means, or the session is closed with the connection. -/
theorem call_ensures (hv : v.OpenOn 0) (hlt : v.lastCallId < Int32.maxValue)
    (h : bed.Stands i handler (Connection.In i keepalives (Listening [] seen))
      (Testbed.Holds m.session ⟨v, []⟩))
    (hrequest : m.request method body (v.lastCallId + 1) = request)
    (hfits : (Exchange.mk request (handler seen request)).Fits m.maxFrameSize) :
    (m.call method body).Ensures t (fun r bed' =>
      Concludes i keepalives handler seen (Testbed.Holds m.session ⟨v.begun.finish, []⟩)
        (Testbed.Holds m.session ⟨v.begun.closed.finish, []⟩) request
        (r = (handler seen request).meaning request.header.callId)
        (r = .error (.protocol (.frameLength request.header.callId .earlyEof))) bed') bed := by
  refine Session.guarded_ensures h (handler.keeps_listening i keepalives partial_nil seen) _
    (fun bed h => callHeld_ensures hv hlt h hrequest hfits) ?_
  rintro r bed (⟨hanswer, hr, h⟩ | ⟨hanswer, hr, h⟩)
  · have hkeeps := handler.keeps_listening i keepalives partial_nil (seen ++ [request])
    exact (h.release hkeeps).mono fun _ bed h => .answered hanswer hr h
  · have hkeeps := handler.keeps_dropped i keepalives (seen ++ [request])
    exact (h.release hkeeps).mono fun _ bed h => .dropped hanswer hr h

/-- A call that gets no number leaves everything as it is. -/
theorem call_unnumbered {P : Connection → List RequestFrame → Prop} {e : SessionError}
    (hv : Session.beginCall m.session v = pure (.error e))
    (h : bed.Stands i handler P (Testbed.Holds m.session ⟨v, []⟩))
    (hP : handler.Keeps i keepalives P) :
    (m.call method body).Ensures t (fun r bed' => r = .error e ∧
      bed'.Stands i handler P (Testbed.Holds m.session ⟨v, []⟩)) bed := by
  refine Session.guarded_ensures h hP (fun r bed' => r = .error e ∧
    bed'.Stands i handler P (Testbed.Holds m.session ⟨v, [t]⟩)) (fun bed h => ?_) ?_
  · unfold callHeld
    rw [hv]
    exact Job.ensures_pure ⟨rfl, h⟩
  · rintro r bed ⟨hr, h⟩
    exact (h.release hP).mono fun _ bed h => ⟨hr, h⟩

end Messenger

/-- What becomes of a call: what the handler was asked and replied, unless it was not asked, and
what the caller gets. -/
structure CallOutcome where
  exchange : Option Exchange
  result : Except SessionError Bytes

namespace Handler

/-- What becomes of calls one after another if every request is handed to the handler directly. The
calls after one that was dropped find the session closed. -/
def outcomes (handler : Handler) (endpoint : Endpoint) (timeoutMillis : UInt32) :
    (seen : List RequestFrame) → (last : Int32) → List (RemoteMethod × Bytes) → List CallOutcome
  | _, _, [] => []
  | seen, last, (method, body) :: calls =>
    if last < Int32.maxValue then
      let request := RequestFrame.forMethod (last + 1) method timeoutMillis body
      let reply := handler seen request
      if (reply.answer? (last + 1)).isSome then
        ⟨some ⟨request, reply⟩, reply.meaning (last + 1)⟩ ::
          handler.outcomes endpoint timeoutMillis (seen ++ [request]) (last + 1) calls
      else
        ⟨some ⟨request, reply⟩, .error (.protocol (.frameLength (last + 1) .earlyEof))⟩ ::
          calls.map fun _ => ⟨none, .error (.closed endpoint)⟩
    else
      ⟨none, .error (.protocol .callIdsExhausted)⟩ ::
        handler.outcomes endpoint timeoutMillis seen last calls

variable {endpoint : Endpoint} {timeoutMillis : UInt32} {last : Int32}
  {calls : List (RemoteMethod × Bytes)}

section Cons

variable {method : RemoteMethod} {body : Bytes}

theorem outcomes_answered (hlt : last < Int32.maxValue) :
    let request := RequestFrame.forMethod (last + 1) method timeoutMillis body
    ((handler seen request).answer? (last + 1)).isSome = true →
    handler.outcomes endpoint timeoutMillis seen last ((method, body) :: calls) =
      ⟨some ⟨request, handler seen request⟩, (handler seen request).meaning (last + 1)⟩ ::
        handler.outcomes endpoint timeoutMillis (seen ++ [request]) (last + 1) calls := by
  intro request hanswer
  rw [outcomes, if_pos hlt]
  exact if_pos hanswer

theorem outcomes_dropped (hlt : last < Int32.maxValue) :
    let request := RequestFrame.forMethod (last + 1) method timeoutMillis body
    ((handler seen request).answer? (last + 1)).isSome = false →
    handler.outcomes endpoint timeoutMillis seen last ((method, body) :: calls) =
      ⟨some ⟨request, handler seen request⟩,
        .error (.protocol (.frameLength (last + 1) .earlyEof))⟩ ::
        calls.map fun _ => ⟨none, .error (.closed endpoint)⟩ := by
  intro request hanswer
  rw [outcomes, if_pos hlt]
  exact if_neg (Bool.eq_false_iff.mp hanswer)

theorem outcomes_unnumbered (hlt : ¬ last < Int32.maxValue) :
    handler.outcomes endpoint timeoutMillis seen last ((method, body) :: calls) =
      ⟨none, .error (.protocol .callIdsExhausted)⟩ ::
        handler.outcomes endpoint timeoutMillis seen last calls := by
  rw [outcomes, if_neg hlt]

end Cons

theorem length_outcomes :
    (handler.outcomes endpoint timeoutMillis seen last calls).length = calls.length := by
  induction calls generalizing seen last with
  | nil => rfl
  | cons call calls ih =>
    rw [outcomes]
    dsimp only
    split
    · split
      · rw [List.length_cons, List.length_cons, ih]
      · rw [List.length_cons, List.length_cons, List.length_map]
    · rw [List.length_cons, List.length_cons, ih]

theorem outcomes_exhausted (hlast : ¬ last < Int32.maxValue) :
    handler.outcomes endpoint timeoutMillis seen last calls =
      calls.map fun _ => ⟨none, .error (.protocol .callIdsExhausted)⟩ := by
  induction calls with
  | nil => rfl
  | cons call calls ih => rw [outcomes_unnumbered hlast, ih, List.map_cons]

/-- A call that the handler was asked about made it see one request, with what the caller asked for
and with the number of the call. -/
theorem outcomes_request {k : Nat} {o : CallOutcome} {x : Exchange}
    (hk : (handler.outcomes endpoint timeoutMillis seen last calls)[k]? = some o)
    (hx : o.exchange = some x) :
    ∃ method body, calls[k]? = some (method, body) ∧
      x.request = .forMethod (last + Int32.ofNat (k + 1)) method timeoutMillis body := by
  induction calls generalizing seen last k with
  | nil => cases hk
  | cons call calls ih =>
    obtain ⟨method, body⟩ := call
    by_cases hlt : last < Int32.maxValue
    · rw [outcomes, if_pos hlt] at hk
      dsimp only at hk
      cases k with
      | zero =>
        split at hk <;> cases hk <;> cases hx <;> exact ⟨method, body, rfl, rfl⟩
      | succ k =>
        split at hk
        · obtain ⟨method', body', hcall, hrequest⟩ := ih hk
          have hnumber : (1 : Int32) + Int32.ofNat (k + 1) = Int32.ofNat (k + 1 + 1) := by
            rw [Nat.add_comm (k + 1) 1, Int32.ofNat_add 1 (k + 1)]
            rfl
          rw [Int32.add_assoc, hnumber] at hrequest
          exact ⟨method', body', hcall, hrequest⟩
        · rw [List.getElem?_cons_succ, List.getElem?_map, Option.map_eq_some_iff] at hk
          obtain ⟨_, _, rfl⟩ := hk
          cases hx
    · rw [outcomes_exhausted hlt, List.getElem?_map, Option.map_eq_some_iff] at hk
      obtain ⟨_, _, rfl⟩ := hk
      cases hx

end Handler

/-- The requests that the handler was asked, in order. -/
def CallOutcome.requests (outcomes : List CallOutcome) : List RequestFrame :=
  outcomes.filterMap fun o => o.exchange.map Exchange.request

namespace Messenger

variable {m : Messenger} {v : Session} {calls : List (RemoteMethod × Bytes)}

/-- Calls one after another, and what each of them brings. -/
def callAll (m : Messenger) : List (RemoteMethod × Bytes) → Job (List (Except SessionError Bytes))
  | [] => return []
  | (method, body) :: calls => do
    let result ← m.call method body
    return result :: (← m.callAll calls)

/-- On a closed session every call fails, and the server is left alone. -/
theorem callAll_closed (hstream : v.stream = none) (hstep : v.inFlight = false)
    (h : bed.Stands i handler (Connection.In i keepalives (Dropped seen))
      (Testbed.Holds m.session ⟨v, []⟩)) :
    (m.callAll calls).Ensures t (fun results bed' =>
      results = calls.map (fun _ => .error (.closed v.endpoint)) ∧
        bed'.Stands i handler (Connection.In i keepalives (Dropped seen))
          (Testbed.Holds m.session ⟨v, []⟩)) bed := by
  have hbegin : Session.beginCall m.session v = pure (.error (.closed v.endpoint)) := by
    simp only [Session.beginCall, hstep, Session.start, Session.open?, hstream]
    rfl
  induction calls generalizing bed with
  | nil => exact Job.ensures_pure ⟨rfl, h⟩
  | cons call calls ih =>
    refine (call_unnumbered hbegin h (handler.keeps_dropped i keepalives seen)).bind ?_
    rintro _ bed ⟨rfl, h⟩
    refine (ih h).bind ?_
    rintro _ bed ⟨rfl, h⟩
    exact Job.ensures_pure ⟨rfl, h⟩

end Messenger

theorem Testbed.Stands.service {S : Situation} {bed : Testbed}
    (h : bed.Stands i handler (Connection.In i keepalives S) Q)
    (hseen : ∀ {state unread arrived closed seen'}, S state unread arrived closed seen' →
      seen' = seen) : bed.network.services[i]? = some ⟨handler, seen⟩ := by
  obtain ⟨k, seen', hs, ⟨state, -, -, -, -, hS⟩, -⟩ := h
  rw [hs.service, hseen hS]

namespace Messenger

variable {m : Messenger} {v : Session} {calls : List (RemoteMethod × Bytes)}

theorem callAll_ensures {endpoint : Endpoint} (hv : v.OpenOn 0) (hendpoint : v.endpoint = endpoint)
    (h : bed.Stands i handler (Connection.In i keepalives (Listening [] seen))
      (Testbed.Holds m.session ⟨v, []⟩))
    (hfits : ∀ o ∈ handler.outcomes endpoint m.timeoutMillis seen v.lastCallId calls,
      ∀ x ∈ o.exchange, x.Fits m.maxFrameSize) :
    (m.callAll calls).Ensures t (fun results bed' =>
      let outcomes := handler.outcomes endpoint m.timeoutMillis seen v.lastCallId calls
      results = outcomes.map CallOutcome.result ∧
        bed'.network.services[i]? = some ⟨handler, seen ++ CallOutcome.requests outcomes⟩) bed := by
  induction calls generalizing seen v bed with
  | nil =>
    refine Job.ensures_pure ⟨rfl, ?_⟩
    rw [h.service Listening.seen_eq]
    exact congrArg (fun seen => some (Service.mk handler seen)) (List.append_nil seen).symm
  | cons call calls ih =>
    obtain ⟨method, body⟩ := call
    by_cases hlt : v.lastCallId < Int32.maxValue
    · let request := m.request method body (v.lastCallId + 1)
      cases hanswer : ((handler seen request).answer? (v.lastCallId + 1)).isSome with
      | true =>
        rw [Handler.outcomes_answered hlt hanswer, List.forall_mem_cons] at hfits
        rw [Handler.outcomes_answered hlt hanswer]
        refine (call_ensures hv hlt h rfl (hfits.1 _ rfl)).bind ?_
        rintro _ bed (⟨-, rfl, h⟩ | ⟨hdropped, -, -⟩)
        · refine (ih (v := v.begun.finish) hv.finish hendpoint h hfits.2).bind ?_
          rintro _ bed ⟨rfl, hservice⟩
          refine Job.ensures_pure ⟨rfl, ?_⟩
          rw [hservice, List.append_assoc]
          rfl
        · exact absurd hanswer (Bool.eq_false_iff.mp hdropped)
      | false =>
        rw [Handler.outcomes_dropped hlt hanswer, List.forall_mem_cons] at hfits
        rw [Handler.outcomes_dropped hlt hanswer]
        refine (call_ensures hv hlt h rfl (hfits.1 _ rfl)).bind ?_
        rintro _ bed (⟨hanswered, -, -⟩ | ⟨-, rfl, h⟩)
        · exact absurd hanswered (Bool.eq_false_iff.mp hanswer)
        · refine (callAll_closed (v := v.begun.closed.finish) rfl rfl h).bind ?_
          rintro _ bed ⟨rfl, h⟩
          refine Job.ensures_pure ⟨?_, ?_⟩
          · rw [← hendpoint]
            simp only [List.map_cons, List.map_map]
            rfl
          · rw [h.service Dropped.seen_eq]
            simp [CallOutcome.requests, Messenger.request]
    · have hbegin :
          Session.beginCall m.session v = pure (.error (.protocol .callIdsExhausted)) := by
        rw [hv.beginCall, if_neg hlt]
      rw [Handler.outcomes_unnumbered hlt, List.forall_mem_cons] at hfits
      rw [Handler.outcomes_unnumbered hlt]
      refine (call_unnumbered hbegin h
        (handler.keeps_listening i keepalives partial_nil seen)).bind ?_
      rintro _ bed ⟨rfl, h⟩
      refine (ih hv hendpoint h hfits.2).bind ?_
      rintro _ bed ⟨rfl, hservice⟩
      exact Job.ensures_pure ⟨rfl, hservice⟩

end Messenger

/-- Nothing is connected yet, and the endpoint is registered with this handler, which has seen these
requests. -/
structure Network.Offers (n : Network) (endpoint : Endpoint) (i keepalives : Nat)
    (handler : Handler) (seen : List RequestFrame) : Prop where
  unconnected : n.connections = []
  registered : ∃ r, n.find? endpoint = some r ∧ r.farEnd = .server i keepalives .start ∧
    Frame.hello.length ≤ r.capacity
  service : n.services[i]? = some ⟨handler, seen⟩

namespace Network

variable {n : Network} {endpoint : Endpoint}

/-- Registering an endpoint that is not registered yet makes it offer its handler, behind as many
empty frames as are asked for. -/
theorem offers_register (hconnections : n.connections = []) (hnew : n.find? endpoint = none)
    (handler : Handler) (keepalives : Nat) :
    ((n.register endpoint handler).setKeepalives endpoint keepalives).Offers endpoint
      n.services.length keepalives handler [] := by
  have hregister : n.register endpoint handler =
      ({ n with services := n.services ++ [⟨handler, []⟩] } : Network).registerFarEnd endpoint
        (.server n.services.length 0 .start) 65536 := by
    simp only [find?] at hnew
    simp only [register, find?, hnew]
  let r : Registration :=
    { endpoint
      number := n.running.length
      farEnd := .server n.services.length keepalives .start
      capacity := 65536 }
  have hcapacity : Frame.hello.length ≤ 65536 := by decide
  rw [hregister]
  refine ⟨hconnections, ⟨r, ?_, rfl, hcapacity⟩, List.getElem?_concat_length⟩
  have hput (put : Registration → Registration) (h : ∀ r, (put r).endpoint = r.endpoint) :
      (n.registry.map put).find? (·.endpoint = endpoint) = none := by
    rw [List.find?_map, Option.map_eq_none_iff]
    simp only [Function.comp_def, h]
    exact hnew
  simp only [find?, setKeepalives, registerFarEnd, List.map_append, List.find?_append]
  rw [hput]
  · simp [r]
  · intro r
    split
    · split <;> rfl
    · rfl

theorem Offers.not_drifts {bed' : Testbed}
    (h : bed.network.Offers endpoint i keepalives handler seen) : ¬ bed.Drifts bed' := by
  rintro (hstep | hwake)
  · simp [Network.step, h.unconnected] at hstep
  · simp [Network.nextWake?, h.unconnected] at hwake

/-- Nothing moves before there is a connection. -/
theorem Offers.ensures {e : Effect} {post : e.Response → Testbed → Prop} {r : e.Response}
    {bed' : Testbed} (h : bed.network.Offers endpoint i keepalives handler seen)
    (hanswer : bed.answer t e = (some r, bed')) (hpost : post r bed') :
    (Job.ask e).Ensures t post bed := by
  refine .perform ⟨_, .answered hanswer⟩ fun job bed₁ hstep => ?_
  cases hstep with
  | answered hanswer' =>
    rw [hanswer] at hanswer'
    cases hanswer'
    exact .done hpost
  | waited hwait =>
    rw [hanswer] at hwait
    cases hwait
  | drifted hdrift => exact absurd hdrift h.not_drifts

theorem Offers.log (h : bed.network.Offers endpoint i keepalives handler seen) (event : LogEvent) :
    (Job.ask (.log event)).Ensures t
      (fun _ bed' => bed'.network.Offers endpoint i keepalives handler seen) bed :=
  h.ensures (e := .log event) rfl ⟨h.unconnected, h.registered, h.service⟩

theorem Offers.dial (h : bed.network.Offers endpoint i keepalives handler seen) :
    (Job.ask (.dial endpoint)).Ensures t (fun r bed' => r = .ok 0 ∧
      bed'.Stands i handler (Connection.In i keepalives (Untouched seen)) fun _ => True) bed := by
  obtain ⟨r, hfound, hfar, hcapacity⟩ := h.registered
  obtain ⟨running, hdial⟩ : ∃ running, bed.network.dial t endpoint = (.ok 0, { bed.network with
      dialed := endpoint :: bed.network.dialed
      connections := [.ofRegistration r t]
      running }) := by
    simp only [find?] at hfound
    simp only [Network.dial, find?, hfound, h.unconnected]
    exact ⟨_, rfl⟩
  have hanswer : bed.answer t (.dial endpoint) =
      (some (.ok 0), { bed with network := (bed.network.dial t endpoint).2 }) := by
    simp only [Testbed.answer, hdial]
  refine h.ensures hanswer ⟨rfl, ?_⟩
  rw [hdial]
  refine ⟨.ofRegistration r t, seen, ⟨rfl, h.service⟩, ?_, trivial⟩
  simp only [Connection.ofRegistration, hfar]
  exact ⟨.start, rfl, rfl, hcapacity, Nat.lt_of_lt_of_le (Nat.zero_lt_succ 2) hcapacity, rfl, rfl,
    rfl, rfl, rfl⟩

end Network

namespace Session

variable {endpoint : Endpoint}

theorem sendHello_ensures
    (h : bed.Stands i handler (Connection.In i keepalives (Untouched seen)) Q) :
    (Stream.sendHello 0).Ensures t (fun r bed' => r = .ok () ∧
      bed'.Stands i handler (Connection.In i keepalives (Listening [] seen)) Q) bed := by
  have hkeeps := handler.keeps_listening i keepalives partial_nil seen
  refine h.writeHello.bind ?_
  rintro _ bed ⟨rfl, h⟩
  simp only [if_true]
  refine (h.flush hkeeps 0).bind ?_
  rintro _ bed ⟨rfl, h⟩
  exact (h.log hkeeps _).bind fun _ bed h => Job.ensures_pure ⟨rfl, h⟩

theorem connect_ensures (h : bed.network.Offers endpoint i keepalives handler seen) :
    (connect endpoint noProbe).Ensures t (fun r bed' => ∃ s, r = .ok s ∧
      bed'.Stands i handler (Connection.In i keepalives (Listening [] seen))
        (Testbed.Holds s ⟨{ endpoint, stream := some 0 }, []⟩)) bed := by
  have hkeeps := handler.keeps_listening i keepalives partial_nil seen
  refine (h.log _).bind fun _ bed h => ?_
  refine h.dial.bind ?_
  rintro _ bed ⟨rfl, h⟩
  refine (sendHello_ensures h).bind ?_
  rintro _ bed ⟨rfl, h⟩
  refine (h.openSession hkeeps endpoint 0).bind fun s bed h => ?_
  have hprobe : (noProbe s).Ensures t (fun r bed' => r = .ok () ∧
      bed'.Stands i handler (Connection.In i keepalives (Listening [] seen))
        (Testbed.Holds s ⟨{ endpoint, stream := some 0 }, []⟩)) bed := Job.ensures_pure ⟨rfl, h⟩
  refine hprobe.bind ?_
  rintro _ bed ⟨rfl, h⟩
  exact (h.log hkeeps _).bind fun _ bed h => Job.ensures_pure ⟨s, rfl, h⟩

/-- A session is connected without a trial, and calls are made on it one after another. -/
def converse (endpoint : Endpoint) (timeoutMillis : UInt32) (maxFrameSize : Nat)
    (calls : List (RemoteMethod × Bytes)) :
    Job (Except SessionError (List (Except SessionError Bytes))) := do
  match ← connect endpoint noProbe with
  | .error e => return .error e
  | .ok s =>
    let m : Messenger := { session := s, endpoint, timeoutMillis, maxFrameSize }
    return .ok (← m.callAll calls)

theorem converse_ensures (hoffers : bed.network.Offers endpoint i keepalives handler seen)
    (timeoutMillis : UInt32) (maxFrameSize : Nat) (calls : List (RemoteMethod × Bytes))
    (hfits : ∀ o ∈ handler.outcomes endpoint timeoutMillis seen 0 calls,
      ∀ x ∈ o.exchange, x.Fits maxFrameSize) :
    (converse endpoint timeoutMillis maxFrameSize calls).Ensures t (fun result bed' =>
      let outcomes := handler.outcomes endpoint timeoutMillis seen 0 calls
      result = .ok (outcomes.map CallOutcome.result) ∧
        bed'.network.services[i]? = some ⟨handler, seen ++ CallOutcome.requests outcomes⟩) bed := by
  refine (connect_ensures hoffers).bind ?_
  rintro _ bed ⟨s, rfl, h⟩
  let m : Messenger := { session := s, endpoint, timeoutMillis, maxFrameSize }
  refine (Messenger.callAll_ensures (m := m) ⟨rfl, rfl⟩ rfl h hfits).bind ?_
  rintro _ bed ⟨rfl, hservice⟩
  exact Job.ensures_pure ⟨rfl, hservice⟩

/-- Client and server agree: whatever the order in which the client, the server and the clock go on,
all calls return, each with what the handler's reply to its request means, and the handler has seen
the requests of these calls, each once and in order. What it has seen of a call is what the caller
asked for, under the number of the call. A rehearsal with rounds enough comes to that end too. -/
theorem converse_agrees (hoffers : bed.network.Offers endpoint i keepalives handler seen)
    (timeoutMillis : UInt32) (maxFrameSize : Nat) (calls : List (RemoteMethod × Bytes))
    (hfits : ∀ o ∈ handler.outcomes endpoint timeoutMillis seen 0 calls,
      ∀ x ∈ o.exchange, x.Fits maxFrameSize) :
    let job := converse endpoint timeoutMillis maxFrameSize calls
    let outcomes := handler.outcomes endpoint timeoutMillis seen 0 calls
    let asked := fun bed' : Testbed =>
      bed'.network.services[i]? = some ⟨handler, seen ++ CallOutcome.requests outcomes⟩
    (outcomes.length = calls.length ∧
      ∀ (k : Nat) (o : CallOutcome) (x : Exchange), outcomes[k]? = some o → o.exchange = some x →
        ∃ method body, calls[k]? = some (method, body) ∧
          x.request = .forMethod (Int32.ofNat (k + 1)) method timeoutMillis body) ∧
    (∀ t, job.Ensures t (fun result bed' =>
        result = .ok (outcomes.map CallOutcome.result) ∧ asked bed') bed) ∧
      ∃ fuel₀ bed', asked bed' ∧ ∀ fuel ≥ fuel₀,
        bed.runThreads fuel (Testbed.alone (.running job)) =
          (Testbed.alone (.finished (.ok (outcomes.map CallOutcome.result))), bed') := by
  intro job outcomes asked
  have hensures (t : ThreadId) : job.Ensures t (fun result bed' =>
      result = .ok (outcomes.map CallOutcome.result) ∧ asked bed') bed :=
    converse_ensures hoffers timeoutMillis maxFrameSize calls hfits
  refine ⟨⟨Handler.length_outcomes, fun k o x hk hx => ?_⟩, hensures, ?_⟩
  · obtain ⟨method, body, hcall, hrequest⟩ := Handler.outcomes_request hk hx
    rw [Int32.zero_add] at hrequest
    exact ⟨method, body, hcall, hrequest⟩
  · obtain ⟨fuel₀, _, bed', ⟨rfl, hasked⟩, hruns⟩ := (hensures 0).rehearsed
    exact ⟨fuel₀, bed'.onNetwork (Network.keepAll 0), hasked, hruns⟩

/-- One call is echoed, one is refused, one is answered late, and at one the server hangs up. -/
theorem converse_agrees_hangup :
    let endpoint : Endpoint := ⟨"n1", 7100⟩
    let handler := Handler.inOrder [Reply.echo, fun _ => .error ⟨"busy", some 4⟩,
      fun _ => .delayed 30 (.delayed 5 .empty), fun _ => .hangup]
    let call : RemoteMethod × Bytes := (⟨"Service", "Method"⟩, [7])
    let calls := List.replicate 5 call
    let bed : Testbed :=
      { network := (({} : Network).register endpoint handler).setKeepalives endpoint 2 }
    let job := converse endpoint 3000 64 calls
    let results : List (Except SessionError Bytes) :=
      [.ok [7], .error (.remote ⟨.errorServerTooBusy, "busy"⟩), .ok [],
        .error (.protocol (.frameLength 4 .earlyEof)), .error (.closed endpoint)]
    let asked := fun bed' : Testbed =>
      (bed'.network.services[0]?.map fun service => service.seen) =
        some ((List.range 4).map fun n => .forMethod (Int32.ofNat (n + 1)) call.1 3000 call.2)
    (∀ o ∈ handler.outcomes endpoint 3000 [] 0 calls, ∀ x ∈ o.exchange, x.Fits 64) ∧
      (∀ t, job.Ensures t (fun result bed' => result = .ok results ∧ asked bed') bed) ∧
      ∃ fuel₀ bed', asked bed' ∧ ∀ fuel ≥ fuel₀,
        bed.runThreads fuel (Testbed.alone (.running job)) =
          (Testbed.alone (.finished (.ok results)), bed') := by
  intro endpoint handler call calls bed job results asked
  have hoffers : bed.network.Offers endpoint 0 2 handler [] :=
    Network.offers_register (n := {}) rfl rfl handler 2
  have hfits : ∀ o ∈ handler.outcomes endpoint 3000 [] 0 calls, ∀ x ∈ o.exchange, x.Fits 64 := by
    decide +kernel
  have hresults : (handler.outcomes endpoint 3000 [] 0 calls).map CallOutcome.result = results := by
    decide +kernel
  have hasked {bed' : Testbed} (h : bed'.network.services[0]? =
      some ⟨handler, [] ++ CallOutcome.requests (handler.outcomes endpoint 3000 [] 0 calls)⟩) :
      asked bed' := by
    simp only [asked]
    rw [h]
    decide +kernel
  obtain ⟨-, hensures, fuel₀, bed', hend, hruns⟩ := converse_agrees hoffers 3000 64 calls hfits
  rw [hresults] at hruns
  refine ⟨hfits, fun t => (hensures t).mono ?_, fuel₀, bed', hasked hend, hruns⟩
  rintro _ bed' ⟨rfl, hservice⟩
  exact ⟨congrArg Except.ok hresults, hasked hservice⟩

end Session
end ClusterProbe
