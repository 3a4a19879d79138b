import Mathlib.Algebra.Group.Nat.Defs
import ClusterProbe.Proofs.Session.Call
import ClusterProbe.Proofs.World.Custody

/-!
# How calls write

Threads that call methods over one session or close it keep to a few rules. Whoever finds the
session open and in step may mark it and then owes it one whole request, which it writes piece by
piece and in order; it may give the session back in step only when nothing of the request is left to
be written. Whatever else it records has no connection any more.
-/
namespace ClusterProbe

open Job

variable {c : ConnectionId}

/-- The effects that take no session and write nothing. -/
def Effect.isSilent : Effect → Bool
  | .write _ _ => false
  | e => !e.touchesSessions

theorem Effect.isSilent_untouching {e : Effect} (h : e.isSilent = true) :
    e.touchesSessions = false := by
  cases e <;> first | rfl | cases h

/-- A call says that it has failed in the middle. -/
def Effect.reportsFailure : Effect → Bool
  | .log event => event.message = "exchange failed, closing session"
  | _ => false

/-- The effects that take no session, leave the pool alone and report no failure of a call. -/
def Effect.isQuiet (e : Effect) : Bool :=
  !e.touchesSessions && !e.touchesPool && !e.reportsFailure

theorem Effect.isQuiet_untouching {e : Effect} (h : e.isQuiet = true) :
    e.touchesSessions = false := by
  cases e <;> first | rfl | cases h

namespace Session

/-- What a thread is sent to do with a session. -/
inductive Use where
  | call (m : Messenger) (method : RemoteMethod) (body : Bytes)
  | close

namespace Use

@[reducible] def Result : Use → Type
  | call _ _ _ => Except SessionError Bytes
  | close => Except SessionError Unit

/-- The request that a call sends under a number. -/
def request? : Use → (callId : Int32) → Option RequestFrame
  | call m method body, callId => some (m.request method body callId)
  | close, _ => none

def job (s : SessionId) : (a : Use) → Job a.Result
  | call m method body => ({ m with session := s } : Messenger).call method body
  | close => Session.close s

end Use

/-- Calls over session `s`, and shutting it down. -/
abbrev uses (s : SessionId) : Trade where
  Task := Use
  Result := Use.Result
  job := Use.job s

/-- How far a thread has come with what it was sent to do. -/
inductive Phase where
  | fresh
  /-- It holds the session as it has found it. -/
  | took (v : Session)
  /-- It has marked the session, and this is left of the request that it writes. -/
  | asking (v : Session) (request : RequestFrame) (rest : Bytes)
  /-- It has marked the session and failed to write its request. -/
  | stuck (v : Session)
  /-- It has recorded what has become of the session. -/
  | settled (v : Session)
  | gone

namespace Phase

/-- The state of the session, for a thread that holds it. -/
def held : Phase → Option Session
  | took v | asking v _ _ | stuck v | settled v => some v
  | fresh | gone => none

def Allows (s : SessionId) (a : Use) : Phase → Effect → Prop
  | fresh, .acquire s' => s' = s
  | took v, .store s' v' => s' = s ∧ (v'.stream = none ∨
      ∃ c request, v.OpenOn c ∧ v.lastCallId < Int32.maxValue ∧ v' = v.begun ∧
        a.request? v'.lastCallId = some request)
  | asking v request rest, .write c bytes =>
      v.stream = some c ∧ bytes <+: rest ∧ request.encode.length < 2 ^ 32
  | asking v _ rest, .store s' v' => s' = s ∧ (v'.stream = none ∨ rest = [] ∧ v' = v.finish)
  | stuck _, .store s' v' => s' = s ∧ v'.stream = none
  | took _, .release s' | asking _ _ _, .release s' | stuck _, .release s'
  | settled _, .release s' => s' = s
  | _, e => e.isSilent = true

def after (a : Use) : Phase → (e : Effect) → e.Response → Phase
  | fresh, .acquire _, v => took v
  | took _, .store _ v, _ =>
    match v.stream, a.request? v.lastCallId with
    | some _, some request => asking v request (Frame.segment 0 request.encode)
    | _, _ => settled v
  | asking v request rest, .write _ bytes, .ok n =>
    asking v request (rest.drop (bytes.take n).length)
  | asking v _ _, .write _ _, .error _ => stuck v
  | asking _ _ _, .store _ v, _ | stuck _, .store _ v, _ => settled v
  | took _, .release _, _ | asking _ _ _, .release _, _ | stuck _, .release _, _
  | settled _, .release _, _ => gone
  | phase, _, _ => phase

def rules (s : SessionId) (a : Use) : Rules Phase where
  Allows := Allows s a
  after := after a

variable {s : SessionId} {a : Use} {phase : Phase} {v : Session} {request : RequestFrame}

theorem allows_silent {e : Effect} (he : e.isSilent = true) : phase.Allows s a e := by
  cases phase <;> cases e <;> first | exact he | cases he

theorem after_silent {e : Effect} (he : e.isSilent = true) (r : e.Response) :
    phase.after a e r = phase := by
  cases phase <;> cases e <;> first | rfl | cases he

theorem follows_silent {α : Type} {x : Job α} (h : x.Asks (·.isSilent = true)) :
    x.Follows (rules s a) (fun _ phase' => phase' = phase) phase :=
  h.follows (fun _ he => allows_silent he) fun _ r he => after_silent he r

theorem after_took_store {v' : Session} {r : Unit} (h : v'.stream = none) :
    (took v).after a (.store s v') r = settled v' := by
  simp only [after, h]

theorem after_took_begun (h : v.OpenOn c) {r : Unit}
    (hrequest : a.request? v.begun.lastCallId = some request) :
    (took v).after a (.store s v.begun) r =
      asking v.begun request (Frame.segment 0 request.encode) := by
  simp only [after, h.begun_stream, hrequest]

theorem held_after_took_store {v' : Session} {r : Unit} :
    ((took v).after a (.store s v') r).held = some v' := by
  simp only [after]
  split <;> rfl

/-- The session is handled as one that is held by one thread at a time. -/
theorem handles {e : Effect} (h : phase.Allows s a e) (r : e.Response) :
    Handles s phase.held e r (phase.after a e r).held := by
  by_cases hsilent : e.isSilent = true
  · rw [after_silent hsilent]
    exact .other (Effect.isSilent_untouching hsilent)
  cases e with
  | write c bytes =>
    cases phase with
    | asking v request rest =>
      cases r with
      | ok n => exact .other rfl
      | error e => exact .other rfl
    | _ => exact absurd h hsilent
  | acquire s' =>
    cases phase with
    | fresh =>
      obtain rfl : s' = s := h
      exact .takes r
    | _ => exact absurd h hsilent
  | store s' v' =>
    cases phase with
    | took v =>
      obtain ⟨rfl, -⟩ := h
      rw [held_after_took_store]
      exact .records v v' r
    | asking v request rest =>
      obtain ⟨rfl, -⟩ := h
      exact .records v v' r
    | stuck v =>
      obtain ⟨rfl, -⟩ := h
      exact .records v v' r
    | _ => exact absurd h hsilent
  | release s' =>
    cases phase with
    | fresh | gone => exact absurd h hsilent
    | _ =>
      obtain rfl : s' = s := h
      exact .returns _ r
  | openSession endpoint c =>
    cases phase <;> exact absurd h hsilent
  | _ => exact absurd rfl hsilent

end Phase
end Session

/-! ## What is silent -/

theorem Job.log_silent (level : LogLevel) (target message : String)
    (fields : List (String × String)) :
    (Job.log level target message fields).Asks (·.isSilent = true) := asks_ask rfl

namespace Messenger

variable (m : Messenger)

/-- Reading a response asks for the frame on the connection, and may log that there is more. -/
theorem readResponse_asks {test : Effect → Prop} {c : ConnectionId} {callId : Int32}
    (hexpect : test (.expect c)) (hreceive : test (.receive c m.maxFrameSize callId))
    (hlog : ∀ event, (Effect.log event).reportsFailure = false → test (.log event)) :
    (m.readResponse c callId).Asks test := by
  refine (asks_ask hexpect).bind fun _ => (asks_ask hreceive).bind fun received => ?_
  cases received with
  | error e => exact asks_pure _ _
  | ok payload =>
    dsimp only
    split
    · exact asks_pure _ _
    · split
      · exact asks_pure _ _
      · exact (asks_ask (hlog _ rfl)).bind fun _ => asks_pure _ _

/-- Finding out what a response means is logged, and asks for nothing else. -/
theorem interpret_asks {test : Effect → Prop}
    (hlog : ∀ event, (Effect.log event).reportsFailure = false → test (.log event))
    (method : RemoteMethod) (response : ResponseFrame) :
    (m.interpret method response).Asks test := by
  unfold interpret
  dsimp only
  split
  · split
    · exact asks_pure _ _
    · exact (asks_ask (hlog _ rfl)).bind fun _ => asks_pure _ _
  · exact (asks_ask (hlog _ rfl)).bind fun _ => asks_pure _ _

theorem readResponse_silent (c : ConnectionId) (callId : Int32) :
    (m.readResponse c callId).Asks (·.isSilent = true) :=
  m.readResponse_asks rfl rfl fun _ _ => rfl

theorem interpret_silent (method : RemoteMethod) (response : ResponseFrame) :
    (m.interpret method response).Asks (·.isSilent = true) :=
  m.interpret_asks (fun _ _ => rfl) method response

end Messenger

namespace Session.Phase

variable {s : SessionId} {a : Use} {v : Session} {request : RequestFrame}

theorem drop_length_take (bytes more : Bytes) (n : Nat) :
    (bytes ++ more).drop (bytes.take n).length = bytes.drop n ++ more :=
  calc (bytes ++ more).drop (bytes.take n).length
      = (bytes.take n ++ (bytes.drop n ++ more)).drop (bytes.take n).length := by
        rw [← List.append_assoc, List.take_append_drop]
    _ = bytes.drop n ++ more := List.drop_left

/-- A piece of the request goes out; what has been written of it is not owed any more. -/
theorem writePieces_follows {fuel : Nat} {bytes more : Bytes} (hstream : v.stream = some c)
    (hfits : request.encode.length < 2 ^ 32) (hfuel : bytes.length ≤ fuel) :
    (Stream.writePieces c fuel bytes).Follows (rules s a)
      (fun r phase => match r with
        | .ok () => phase = asking v request more
        | .error _ => phase = stuck v)
      (asking v request (bytes ++ more)) := by
  induction fuel generalizing bytes with
  | zero =>
    obtain rfl := List.eq_nil_of_length_eq_zero (Nat.le_zero.1 hfuel)
    exact rfl
  | succ fuel ih =>
    cases bytes with
    | nil => exact rfl
    | cons b bytes =>
      have hallowed : (asking v request (b :: bytes ++ more)).Allows s a (.write c (b :: bytes)) :=
        ⟨hstream, List.prefix_append _ _, hfits⟩
      refine follows_ask_bind hallowed fun r hr => ?_
      cases r with
      | error e => exact rfl
      | ok n =>
        have hpos : 0 < n := hr n rfl (List.cons_ne_nil _ _)
        change (Stream.writePieces c fuel ((b :: bytes).drop n)).Follows _ _
          (asking v request ((b :: bytes ++ more).drop ((b :: bytes).take n).length))
        rw [drop_length_take]
        apply ih
        rw [List.length_drop]
        omega

theorem writeAll_follows {bytes more : Bytes} (hstream : v.stream = some c)
    (hfits : request.encode.length < 2 ^ 32) :
    (Stream.writeAll c bytes).Follows (rules s a)
      (fun r phase => match r with
        | .ok () => phase = asking v request more
        | .error _ => phase = stuck v)
      (asking v request (bytes ++ more)) :=
  writePieces_follows hstream hfits (Nat.le_refl _)

/-- It has marked the session, and may have written the whole request or not. -/
def Marked (v : Session) (phase : Phase) : Prop :=
  phase = stuck v ∨ ∃ request rest, phase = asking v request rest

theorem writeRequest_follows (hstream : v.stream = some c) :
    (Messenger.writeRequest c request.encode).Follows (rules s a)
      (fun r phase => match r with
        | .ok () => phase = asking v request []
        | .error _ => phase.Marked v)
      (asking v request (Frame.segment 0 request.encode)) := by
  unfold Messenger.writeRequest
  split
  · exact .inr ⟨_, _, rfl⟩
  · rename_i word hlength
    obtain ⟨hfits, rfl⟩ := Frame.encodeLength_eq_ok.1 hlength
    have hsegment : Frame.segment 0 request.encode =
        Bytes.bigEndian32 (UInt32.ofNat request.encode.length) ++ (request.encode ++ []) := by
      simp [Frame.segment, Frame.opening]
    rw [hsegment]
    refine (writeAll_follows hstream hfits).bind fun r phase hphase => ?_
    cases r with
    | error e => exact .inl hphase
    | ok =>
      obtain rfl := hphase
      refine (writeAll_follows hstream hfits).bind fun r phase hphase => ?_
      cases r with
      | error e => exact .inl hphase
      | ok =>
        obtain rfl := hphase
        refine follows_idle_bind rfl (fun _ => rfl) fun r => ?_
        cases r with
        | error e => exact .inr ⟨_, _, rfl⟩
        | ok => exact rfl

theorem exchange_follows (m : Messenger) (hstream : v.stream = some c) :
    (m.exchange c request).Follows (rules s a)
      (fun r phase => match r with
        | .ok _ => phase = asking v request []
        | .error _ => phase.Marked v)
      (asking v request (Frame.segment 0 request.encode)) := by
  refine (writeRequest_follows hstream).bind fun r phase hphase => ?_
  cases r with
  | error e => exact hphase
  | ok =>
    obtain rfl := hphase
    refine (follows_silent (m.readResponse_silent c _)).bind fun r phase hphase => ?_
    obtain rfl := hphase
    cases r with
    | error e => exact .inr ⟨_, _, rfl⟩
    | ok response =>
      dsimp only
      split
      · exact rfl
      · exact .inr ⟨_, _, rfl⟩

/-- Aborting records a session without a connection, wherever it is allowed to record one. -/
theorem abort_follows {phase : Phase}
    (hallows : phase.Allows s a (.store s v.closed.finish))
    (hafter : phase.after a (.store s v.closed.finish) () = settled v.closed.finish) :
    (abort s v).Follows (rules s a) (fun _ phase' => phase' = settled v.closed.finish) phase := by
  refine follows_ask_bind hallows fun r _ => ?_
  change Job.Follows _ _ _ (phase.after a (.store s v.closed.finish) ())
  rw [hafter]
  split
  · refine follows_idle_bind rfl (fun _ => rfl) fun _ => ?_
    refine follows_idle_bind rfl (fun _ => rfl) fun r => ?_
    cases r with
    | error e => exact follows_silent (log_silent ..)
    | ok => exact rfl
  · exact rfl

theorem abort_marked_follows {phase : Phase} {u : Session} (h : phase.Marked u) :
    (abort s v).Follows (rules s a) (fun _ phase' => phase' = settled v.closed.finish) phase := by
  rcases h with rfl | ⟨request, rest, rfl⟩
  · exact abort_follows ⟨rfl, rfl⟩ rfl
  · exact abort_follows ⟨rfl, .inl rfl⟩ rfl

/-- It holds the session and records nothing any more. -/
def Returns (phase : Phase) : Prop :=
  (∃ v, phase = took v) ∨ ∃ v, phase = settled v

theorem callHeld_follows (m : Messenger) (method : RemoteMethod) (body : Bytes) (v : Session) :
    (({ m with session := s } : Messenger).callHeld method body v).Follows
      (rules s (.call m method body)) (fun _ phase => phase.Returns) (took v) := by
  unfold Messenger.callHeld
  cases hmark : v.inFlight with
  | true =>
    unfold Session.beginCall
    rw [if_pos hmark]
    refine follows_idle_bind rfl (fun _ => rfl) fun _ => ?_
    have hallowed : (took v).Allows s (.call m method body) (.store s v.closed.finish) :=
      ⟨rfl, .inl rfl⟩
    refine follows_bind.2 ((abort_follows hallowed (after_took_store rfl)).bind ?_)
    rintro _ phase rfl
    exact .inr ⟨_, rfl⟩
  | false =>
    cases hstream : v.stream with
    | none =>
      rw [beginCall_of_stream hstream hmark]
      exact .inl ⟨v, rfl⟩
    | some c =>
      have hv : v.OpenOn c := ⟨hstream, hmark⟩
      rw [hv.beginCall]
      split
      · rename_i hlt
        have hbegin : (took v).Allows s (.call m method body) (.store s v.begun) :=
          ⟨rfl, .inr ⟨c, _, hv, hlt, rfl, rfl⟩⟩
        refine follows_ask_bind hbegin fun _ _ => ?_
        change Job.Follows _ _ _ ((took v).after _ (.store s v.begun) ())
        rw [after_took_begun hv rfl]
        refine follows_idle_bind rfl (fun _ => rfl) fun _ => ?_
        refine (exchange_follows _ hv.begun_stream).bind fun r phase hphase => ?_
        cases r with
        | error e =>
          refine follows_idle_bind (allows_silent rfl) (after_silent rfl) fun _ => ?_
          refine (abort_marked_follows hphase).bind fun _ phase hphase => ?_
          exact .inr ⟨_, hphase⟩
        | ok response =>
          obtain rfl := hphase
          refine follows_ask_bind ⟨rfl, .inr ⟨rfl, rfl⟩⟩ fun _ _ => ?_
          refine (follows_silent (Messenger.interpret_silent _ _ _)).mono fun _ phase hphase => ?_
          exact .inr ⟨_, hphase⟩
      · exact .inl ⟨v, rfl⟩

theorem returns_follows {phase : Phase} (h : phase.Returns) :
    (Job.ask (.release s)).Follows (rules s a) (fun _ phase' => phase' = gone) phase := by
  rcases h with ⟨v, rfl⟩ | ⟨v, rfl⟩
  · exact .ask rfl fun _ _ => rfl
  · exact .ask rfl fun _ _ => rfl

theorem call_follows (m : Messenger) (method : RemoteMethod) (body : Bytes) :
    (({ m with session := s } : Messenger).call method body).Follows
      (rules s (.call m method body)) (fun _ phase => phase = gone) fresh := by
  refine follows_ask_bind rfl fun v _ => ?_
  refine (callHeld_follows m method body v).bind fun r phase hphase => ?_
  exact (returns_follows hphase).bind fun _ _ hgone => hgone

theorem close_follows :
    (Session.close s).Follows (rules s .close) (fun _ phase => phase = gone) fresh := by
  refine follows_ask_bind rfl fun v _ => ?_
  split
  · exact (returns_follows (.inl ⟨v, rfl⟩)).bind fun _ _ hgone => hgone
  · refine follows_ask_bind ⟨rfl, .inl rfl⟩ fun _ _ => ?_
    refine (returns_follows (.inr ⟨v.closed, rfl⟩)).bind fun _ phase hgone => ?_
    obtain rfl := hgone
    refine follows_idle_bind rfl (fun _ => rfl) fun _ => ?_
    refine follows_idle_bind rfl (fun _ => rfl) fun r => ?_
    cases r with
    | error e => exact rfl
    | ok => exact rfl

end Session.Phase

/-- Calls and closing keep to the rules, and give the session back in the end. -/
def Session.conduct (s : SessionId) : (Session.uses s).Conduct Session.Phase where
  rules := Session.Phase.rules s
  start := .fresh
  gone := .gone
  Ends _ _ phase := phase = .gone
  follows a := by
    cases a with
    | call m method body => exact Session.Phase.call_follows m method body
    | close => exact Session.Phase.close_follows

end ClusterProbe
