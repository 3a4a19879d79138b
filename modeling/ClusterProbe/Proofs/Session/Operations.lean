import ClusterProbe.Proofs.Session.Clerk
import ClusterProbe.Session.Guard

/-!
# Everything that can be done with a session

Whatever a thread does with a session, it finds it in some state and records states that follow from
that one. Nothing brings back a connection that is gone, and only shutting down can leave a mark
behind on a session without a connection: the mark it has found. A thread draws at most one call
number, the one after the last that it has found. What the thread reports in the end goes with the
state it has found and with the state it leaves (`Operation.Outcome`).
-/
namespace ClusterProbe

open Job

variable {s : SessionId} {c : ConnectionId}

namespace Session

/-- What a thread may be sent to do with a session. -/
inductive Operation where
  | call (m : Messenger) (method : RemoteMethod) (body : Bytes)
  | begin
  | finishCall
  | abortCall
  | generateCallId
  | write (bytes : Bytes)
  | flush
  | read (count : Nat)
  | readExact (count : Nat)
  | close
  | checkClosed
  | defunctWhileHeld

namespace Operation

@[reducible] def Result : Operation → Type
  | call _ _ _ | read _ | readExact _ => Except SessionError Bytes
  | begin => Except SessionError Int32
  | finishCall | abortCall => Unit
  | generateCallId => Except ProtocolError Int32
  | write _ => Except SessionError Nat
  | flush | close => Except SessionError Unit
  | checkClosed | defunctWhileHeld => Bool

def job (s : SessionId) : (a : Operation) → Job a.Result
  | call m method body => ({ m with session := s } : Messenger).call method body
  | begin => Session.begin s
  | finishCall => Session.finishCall s
  | abortCall => Session.abortCall s
  | generateCallId => Session.generateCallId s
  | write bytes => Session.write s bytes
  | flush => Session.flush s
  | read count => Session.read s count
  | readExact count => Session.readExact s count
  | close => Session.close s
  | checkClosed => Session.checkClosed s
  | defunctWhileHeld => Session.defunctWhileHeld s

/-- How a session without a connection turns a call down. -/
def refusal (endpoint : Endpoint) (marked : Bool) : SessionError :=
  if marked then .desynced endpoint else .closed endpoint

/-- What the operation reports on a session without a connection. The mark of a call that was given
up goes before the loss of the connection, for whoever would start a call. -/
def TurnedDown (endpoint : Endpoint) (marked : Bool) : (a : Operation) → a.Result → Prop
  | call _ _ _, r => r = .error (refusal endpoint marked)
  | begin, r => r = .error (refusal endpoint marked)
  | write _, r => r = .error (.closed endpoint)
  | flush, r => r = .error (.closed endpoint)
  | read _, r => r = .error (.closed endpoint)
  | readExact _, r => r = .error (.closed endpoint)
  | close, r => r = .error (.closed endpoint)
  | checkClosed, r => r = true
  | finishCall, _ | abortCall, _ | generateCallId, _ | defunctWhileHeld, _ => True

/-- With this result the session has been shut down. -/
def Shuts : (a : Operation) → a.Result → Prop
  | call _ _ _, r => ∃ endpoint, r = .error (.desynced endpoint)
  | begin, r => ∃ endpoint, r = .error (.desynced endpoint)
  | close, _ | abortCall, _ => True
  | _, _ => False

/-- The operation asks for a call number when it finds the session in this state. Who would start a
call does not if the session can carry none. -/
def Draws (found : Session) : Operation → Prop
  | call _ _ _ | begin => found.isClosed = false
  | generateCallId => True
  | _ => False

/-- What may be recorded of a session that is in state `now`, by a thread that has found it in state
`found`. A thread that asks for a number records nothing when none is left, and only who declares a
call finished opens a session to calls that it has found closed to them. -/
structure Records (a : Operation) (found now new : Session) : Prop where
  endpoint : new.endpoint = now.endpoint
  stream : now.stream = none → new.stream = none
  mark : new.stream = none → new.inFlight = true →
    now.inFlight = true ∧ (now.stream = none ∨ a = close ∧ now = found)
  number : new.lastCallId = now.lastCallId ∨ now = found ∧ a.Draws found ∧
    new.lastCallId = found.lastCallId + 1
  room : a.Draws found → found.lastCallId < Int32.maxValue
  closed : a ≠ finishCall → found.isClosed = true → new.isClosed = true

/-- The result says that this number was drawn. Who calls keeps it to himself. -/
def Tells (n : Int32) : (a : Operation) → a.Result → Prop
  | call _ _ _, _ => True
  | begin, r => r = .ok n
  | generateCallId, r => r = .ok n
  | _, _ => False

/-- The result says that no number is left. -/
def Exhausted : (a : Operation) → a.Result → Prop
  | call _ _ _, r => r = .error (.protocol .callIdsExhausted)
  | begin, r => r = .error (.protocol .callIdsExhausted)
  | generateCallId, r => r = .error .callIdsExhausted
  | _, _ => False

/-- What those say who would have started a call on a session that can carry none. -/
def Refused (found : Session) : (a : Operation) → a.Result → Prop
  | call _ _ _, r => r = .error (refusal found.endpoint found.inFlight)
  | begin, r => r = .error (refusal found.endpoint found.inFlight)
  | _, _ => True

/-- The number that an operation has drawn on a session that it has found in state `found`, and what
it says of that. -/
inductive Turn (found : Session) (a : Operation) (r : a.Result) : Option Int32 → Prop
  | given (asks : a.Draws found) (room : found.lastCallId < Int32.maxValue)
      (tells : a.Tells (found.lastCallId + 1) r) : Turn found a r (some (found.lastCallId + 1))
  | exhausted (asks : a.Draws found) (full : found.lastCallId = Int32.maxValue)
      (tells : a.Exhausted r) : Turn found a r none
  | passed (idle : ¬ a.Draws found) (tells : a.Refused found r) : Turn found a r none

/-- How a result goes with the state that was found and the one that was left behind; `failed` tells
whether a failure in the middle of a call was reported. -/
structure Outcome (a : Operation) (r : a.Result) (found now : Session) (failed : Bool) : Prop where
  turnedDown : found.stream = none → a.TurnedDown found.endpoint found.inFlight r
  shut : a.Shuts r ∨ failed = true → now.stream = none ∧ (a ≠ close → now.inFlight = false)
  turn : ∃ drawn, a.Turn found r drawn ∧ now.lastCallId = drawn.getD found.lastCallId

variable {a : Operation} {found now : Session}

theorem records_begun (h : found.OpenOn c) (asks : a.Draws found)
    (room : found.lastCallId < Int32.maxValue) : a.Records found found found.begun where
  endpoint := rfl
  stream hnone := hnone
  mark hnone := by
    rw [h.begun_stream] at hnone
    cases hnone
  number := .inr ⟨rfl, asks, rfl⟩
  room _ := room
  closed _ _ := found.begun_isClosed

theorem records_finish (room : a.Draws found → found.lastCallId < Int32.maxValue)
    (hopen : a ≠ finishCall → found.isClosed = false) : a.Records found now now.finish :=
  ⟨rfl, id, nofun, .inl rfl, room, fun hother hclosed => absurd hclosed (by simp [hopen hother])⟩

theorem records_aborted (room : a.Draws found → found.lastCallId < Int32.maxValue) :
    a.Records found now now.closed.finish :=
  ⟨rfl, fun _ => rfl, nofun, .inl rfl, room, fun _ _ => rfl⟩

theorem records_closed : close.Records found found found.closed :=
  ⟨rfl, fun _ => rfl, fun _ hmark => ⟨hmark, .inr ⟨rfl, rfl⟩⟩, .inl rfl, False.elim, fun _ _ => rfl⟩

theorem records_number (room : found.lastCallId < Int32.maxValue) :
    generateCallId.Records found found { found with lastCallId := found.lastCallId + 1 } :=
  ⟨rfl, id, fun hnone hmark => ⟨hmark, .inl hnone⟩, .inr ⟨rfl, trivial, rfl⟩, fun _ => room,
    fun _ => id⟩

/-- An operation that has nothing to do with numbers. -/
theorem turn_idle {r : a.Result} (idle : ¬ a.Draws found) (tells : a.Refused found r)
    (hnow : now.lastCallId = found.lastCallId) :
    ∃ drawn, a.Turn found r drawn ∧ now.lastCallId = drawn.getD found.lastCallId :=
  ⟨none, .passed idle tells, hnow⟩

end Operation

/-- All that threads do with session `s`. -/
abbrev operations (s : SessionId) : Trade where
  Task := Operation
  Result := Operation.Result
  job := Operation.job s

/-- How far a thread has come with an operation. -/
inductive Stage where
  | fresh
  /-- It has found the session in a state and holds it. -/
  | holding (found now : Session) (failed : Bool)
  /-- It has given the session back. -/
  | left (found now : Session) (failed : Bool)
  | gone

namespace Stage

/-- The state of the session, for a thread that holds it. -/
def held : Stage → Option Session
  | holding _ now _ => some now
  | _ => none

def Allows (s : SessionId) (a : Operation) : Stage → Effect → Prop
  | fresh, .acquire s' => s' = s
  | holding found now _, .store s' new => s' = s ∧ a.Records found now new
  | holding _ _ _, .release s' => s' = s
  | holding _ _ _, .log _ => True
  | _, e => e.isQuiet = true

def after : Stage → (e : Effect) → e.Response → Stage
  | fresh, .acquire _, found => holding found found false
  | holding found _ failed, .store _ new, _ => holding found new failed
  | holding found now failed, .release _, _ => left found now failed
  | holding found now failed, .log event, _ =>
    holding found now (failed || (Effect.log event).reportsFailure)
  | stage, _, _ => stage

def rules (s : SessionId) (a : Operation) : Rules Stage where
  Allows := Allows s a
  after := after

/-- It has given the session back, and reports what goes with what it has found. -/
def Ends (a : Operation) (r : a.Result) (stage : Stage) : Prop :=
  ∃ found now failed, stage = left found now failed ∧ a.Outcome r found now failed

variable {a : Operation} {stage : Stage} {found now : Session} {failed : Bool}

theorem allows_quiet {e : Effect} (he : e.isQuiet = true) : stage.Allows s a e := by
  cases stage <;> cases e <;> first | exact he | exact trivial | cases he

theorem after_quiet {e : Effect} (he : e.isQuiet = true) (r : e.Response) :
    stage.after e r = stage := by
  cases stage with
  | holding found now failed =>
    cases e with
    | log event =>
      have hevent : (Effect.log event).reportsFailure = false := Bool.not_eq_true' _ ▸ he
      rw [after, hevent, Bool.or_false]
    | _ => first | rfl | cases he
  | _ => cases e <;> first | rfl | cases he

theorem follows_quiet {α : Type} {x : Job α} (h : x.Asks (·.isQuiet = true)) :
    x.Follows (rules s a) (fun _ stage' => stage' = stage) stage :=
  h.follows (fun _ he => allows_quiet he) fun _ r he => after_quiet he r

/-- The session is handled as one that is held by one thread at a time. -/
theorem handles {e : Effect} (h : stage.Allows s a e) (r : e.Response) :
    Handles s stage.held e r (stage.after e r).held := by
  by_cases hquiet : e.isQuiet = true
  · rw [after_quiet hquiet]
    exact .other (Effect.isQuiet_untouching hquiet)
  cases stage with
  | fresh =>
    cases e with
    | acquire s' =>
      obtain rfl : s' = s := h
      exact .takes r
    | _ => exact absurd h hquiet
  | holding found now failed =>
    cases e with
    | store s' new =>
      obtain ⟨rfl, -⟩ := h
      exact .records now new r
    | release s' =>
      obtain rfl : s' = s := h
      exact .returns _ r
    | log event => exact .other rfl
    | _ => exact absurd h hquiet
  | _ => cases e <;> exact absurd h hquiet

/-- Of all sessions it handles its own. -/
theorem allows_own {e : Effect} (h : stage.Allows s a e) :
    e.touchesSessions = false ∨ e.handled? = some s := by
  by_cases hquiet : e.isQuiet = true
  · exact .inl (Effect.isQuiet_untouching hquiet)
  cases stage with
  | fresh =>
    cases e with
    | acquire s' => exact .inr (congrArg some h)
    | _ => exact absurd h hquiet
  | holding found now failed =>
    cases e with
    | store s' new => exact .inr (congrArg some h.1)
    | release s' => exact .inr (congrArg some h)
    | log event => exact .inl rfl
    | _ => exact absurd h hquiet
  | _ => cases e <;> exact absurd h hquiet

/-- Any other session is left to others. -/
theorem handles_elsewhere {s' : SessionId} {e : Effect} (h : stage.Allows s' a e) (hne : s' ≠ s)
    (r : e.Response) : Handles s none e r none := by
  rcases allows_own h with he | he
  · exact .other he
  · exact .elsewhere he hne

/-- The pool is none of its business. -/
theorem allows_unpooled {e : Effect} (h : stage.Allows s a e) : e.touchesPool = false := by
  by_cases hquiet : e.isQuiet = true
  · cases e <;> first | rfl | cases hquiet
  cases stage with
  | fresh =>
    cases e with
    | acquire s' => rfl
    | _ => exact absurd h hquiet
  | holding found now failed =>
    cases e with
    | store s' new | release s' | log event => rfl
    | _ => exact absurd h hquiet
  | _ => cases e <;> exact absurd h hquiet

end Stage
end Session

/-! ## What is said on a connection -/

/-- The effects that send or receive something on a connection, or tell what goes on there. -/
def Effect.isTalk : Effect → Bool
  | .write _ _ | .flush _ | .read _ _ | .expect _ | .receive _ _ _ => true
  | .log event => !(Effect.log event).reportsFailure
  | _ => false

/-- Talk on connection `c`. -/
structure Effect.TalksOn (c : ConnectionId) (e : Effect) : Prop where
  talk : e.isTalk = true
  streams : e.streams ⊆ [c]

theorem Effect.TalksOn.log {c : ConnectionId} {event : LogEvent}
    (h : (Effect.log event).reportsFailure = false) : (Effect.log event).TalksOn c :=
  ⟨Bool.not_eq_true' _ ▸ h, List.nil_subset _⟩

theorem Effect.isQuiet_of_isTalk {e : Effect} (h : e.isTalk = true) : e.isQuiet = true := by
  cases e <;> first | rfl | exact h

theorem Effect.unpooled_of_isTalk {e : Effect} (h : e.isTalk = true) : e.touchesPool = false := by
  cases e <;> first | rfl | cases h

theorem Job.ask_quiet {e : Effect} (h : e.isQuiet = true) : (Job.ask e).Asks (·.isQuiet = true) :=
  asks_ask h

theorem Job.ask_talk {e : Effect} (h : e.isTalk = true) : (Job.ask e).Asks (·.isTalk = true) :=
  asks_ask h

/-- Who does nothing but talk is quiet. -/
theorem Job.Asks.quiet {α : Type} {x : Job α} (h : x.Asks (·.isTalk = true)) :
    x.Asks (·.isQuiet = true) :=
  h.mono fun _ => Effect.isQuiet_of_isTalk

theorem Job.Asks.talk {α : Type} {x : Job α} {c : ConnectionId} (h : x.Asks (Effect.TalksOn c)) :
    x.Asks (·.isTalk = true) :=
  h.mono fun _ => Effect.TalksOn.talk

section Talk

variable (c : ConnectionId)

theorem Job.ask_talkOn {e : Effect} (h : e.isTalk = true) (hc : e.streams ⊆ [c]) :
    (Job.ask e).Asks (Effect.TalksOn c) :=
  asks_ask ⟨h, hc⟩

namespace Stream

theorem writePieces_talks (fuel : Nat) (bytes : Bytes) :
    (writePieces c fuel bytes).Asks (Effect.TalksOn c) := by
  induction fuel generalizing bytes with
  | zero => exact asks_pure _ _
  | succ fuel ih =>
    cases bytes with
    | nil => exact asks_pure _ _
    | cons b bytes =>
      refine (ask_talkOn c rfl (List.Subset.refl _)).bind fun r => ?_
      cases r with
      | error e => exact asks_pure _ _
      | ok n => exact ih _

theorem writeAll_talks (bytes : Bytes) : (writeAll c bytes).Asks (Effect.TalksOn c) :=
  writePieces_talks c _ bytes

theorem readPieces_talks (fuel count : Nat) :
    (readPieces c fuel count).Asks (Effect.TalksOn c) := by
  induction fuel generalizing count with
  | zero => exact asks_pure _ _
  | succ fuel ih =>
    cases count with
    | zero => exact asks_pure _ _
    | succ count =>
      refine (ask_talkOn c rfl (List.Subset.refl _)).bind fun r => ?_
      match r with
      | .error e => exact asks_pure _ _
      | .ok [] => exact asks_pure _ _
      | .ok (b :: piece) => exact (ih _).bind fun _ => asks_pure _ _

end Stream

namespace Messenger

theorem writeRequest_talks (payload : Bytes) :
    (writeRequest c payload).Asks (Effect.TalksOn c) := by
  unfold writeRequest
  split
  · exact asks_pure _ _
  · refine (Stream.writeAll_talks c _).bind fun r => ?_
    cases r with
    | error e => exact asks_pure _ _
    | ok =>
      refine (Stream.writeAll_talks c _).bind fun r => ?_
      cases r with
      | error e => exact asks_pure _ _
      | ok => exact (ask_talkOn c rfl (List.Subset.refl _)).bind fun _ => asks_pure _ _

theorem readResponse_talks (m : Messenger) (callId : Int32) :
    (m.readResponse c callId).Asks (Effect.TalksOn c) :=
  m.readResponse_asks ⟨rfl, List.Subset.refl _⟩ ⟨rfl, List.Subset.refl _⟩
    fun _ => .log

theorem exchange_talks (m : Messenger) (request : RequestFrame) :
    (m.exchange c request).Asks (Effect.TalksOn c) := by
  refine (writeRequest_talks c _).bind fun r => ?_
  cases r with
  | error e => exact asks_pure _ _
  | ok =>
    refine (readResponse_talks c m _).bind fun r => ?_
    cases r with
    | error e => exact asks_pure _ _
    | ok response => exact asks_pure _ _

theorem interpret_talks (m : Messenger) (method : RemoteMethod) (response : ResponseFrame) :
    (m.interpret method response).Asks (Effect.TalksOn c) :=
  m.interpret_asks (fun _ => .log) method response

end Messenger
end Talk

namespace Messenger

/-- What an answer means is never that the session is out of step. -/
theorem verdict_ne_desynced (response : ResponseFrame) (endpoint : Endpoint) :
    verdict response ≠ .error (.desynced endpoint) := by
  unfold verdict
  split
  · split <;> nofun
  · nofun

end Messenger

namespace Session.Stage

variable {a : Operation} {stage : Stage} {found now : Session} {failed : Bool}

/-! ## What each operation does -/

/-- A thread takes the session, does something with it and gives it back. -/
theorem guarded_follows {α : Type} {body : Session → Job α}
    {post : Session → α → Session → Bool → Prop}
    (h : ∀ found, (body found).Follows (rules s a) (fun r stage => ∃ now failed,
      stage = holding found now failed ∧ post found r now failed) (holding found found false)) :
    (guarded s body).Follows (rules s a)
      (fun r stage => ∃ found now failed, stage = left found now failed ∧ post found r now failed)
      fresh := by
  refine follows_ask_bind rfl fun found _ => (h found).bind ?_
  rintro r stage ⟨now, failed, rfl, hpost⟩
  exact follows_ask_bind rfl fun _ _ => ⟨found, now, failed, rfl, hpost⟩

theorem abort_follows (room : a.Draws found → found.lastCallId < Int32.maxValue) :
    (abort s now).Follows (rules s a)
      (fun _ stage => stage = holding found now.closed.finish failed)
      (holding found now failed) := by
  refine follows_ask_bind ⟨rfl, Operation.records_aborted room⟩ fun _ _ => ?_
  change Job.Follows _ _ _ (holding found now.closed.finish failed)
  split
  · refine (follows_quiet (ask_quiet rfl)).bind ?_
    rintro _ stage rfl
    refine (follows_quiet (ask_quiet rfl)).bind ?_
    rintro r stage rfl
    cases r with
    | error e => exact follows_quiet (ask_quiet rfl)
    | ok => exact rfl
  · exact rfl

/-- What starting a call on a session comes to that was found in state `found`, and the state that
it leaves. -/
inductive Begun (found : Session) :
    Except SessionError (ConnectionId × Int32 × Session) → Session → Prop
  | refused {now : Session} (closed : found.isClosed = true)
      (shut : now.stream = none ∧ now.inFlight = false)
      (number : now.lastCallId = found.lastCallId) :
      Begun found (.error (Operation.refusal found.endpoint found.inFlight)) now
  | exhausted {c : ConnectionId} (inStep : found.OpenOn c)
      (full : found.lastCallId = Int32.maxValue) :
      Begun found (.error (.protocol .callIdsExhausted)) found
  | given {c : ConnectionId} (inStep : found.OpenOn c)
      (room : found.lastCallId < Int32.maxValue) :
      Begun found (.ok (c, found.lastCallId + 1, found.begun)) found.begun

/-- The session is marked for a call, or the call is turned down. -/
theorem beginCall_follows (hdraws : a.Draws found ↔ found.isClosed = false) :
    (beginCall s found).Follows (rules s a)
      (fun r stage => ∃ now, stage = holding found now false ∧ Begun found r now)
      (holding found found false) := by
  cases hmark : found.inFlight with
  | true =>
    have hclosed : found.isClosed = true := by
      rw [isClosed, hmark, Bool.or_true]
    have hidle (asks : a.Draws found) : found.lastCallId < Int32.maxValue := by
      rw [hdraws, hclosed] at asks
      cases asks
    unfold beginCall
    rw [if_pos hmark]
    refine (follows_quiet (ask_quiet rfl)).bind ?_
    rintro _ stage rfl
    refine (abort_follows hidle).bind ?_
    rintro _ stage rfl
    have hrefused : Begun found _ found.closed.finish := .refused hclosed ⟨rfl, rfl⟩ rfl
    rw [Operation.refusal, if_pos hmark] at hrefused
    exact ⟨_, rfl, hrefused⟩
  | false =>
    cases hstream : found.stream with
    | none =>
      have hrefused := Begun.refused (isClosed_of_stream hstream) ⟨hstream, hmark⟩ rfl
      rw [Operation.refusal, hmark, if_neg Bool.false_ne_true] at hrefused
      rw [beginCall_of_stream hstream hmark]
      exact ⟨found, rfl, hrefused⟩
    | some c =>
      have hfound : found.OpenOn c := ⟨hstream, hmark⟩
      rw [hfound.beginCall]
      split
      · rename_i room
        have hrecords := Operation.records_begun hfound (hdraws.2 hfound.isClosed) room
        exact follows_ask_bind ⟨rfl, hrecords⟩ fun _ _ => ⟨found.begun, rfl, .given hfound room⟩
      · rename_i full
        exact ⟨found, rfl, .exhausted hfound (eq_maxValue_of_not_lt full)⟩

theorem interpret_follows (m : Messenger) (method : RemoteMethod) (response : ResponseFrame) :
    (m.interpret method response).Follows (rules s a)
      (fun r stage' => stage' = stage ∧ r = Messenger.verdict response) stage := by
  unfold Messenger.interpret Messenger.verdict
  dsimp only
  split
  · cases response.errorStatus with
    | error e => exact ⟨rfl, rfl⟩
    | ok status =>
      refine (follows_quiet (ask_quiet rfl)).bind ?_
      rintro _ stage rfl
      exact ⟨rfl, rfl⟩
  · refine (follows_quiet (ask_quiet rfl)).bind ?_
    rintro _ stage rfl
    exact ⟨rfl, rfl⟩

/-- An operation that has not failed on the way. -/
theorem outcome_of_shuts {r : a.Result}
    (hdown : found.stream = none → a.TurnedDown found.endpoint found.inFlight r)
    (hshut : a.Shuts r → now.stream = none ∧ now.inFlight = false)
    (hturn : ∃ drawn, a.Turn found r drawn ∧ now.lastCallId = drawn.getD found.lastCallId) :
    a.Outcome r found now false where
  turnedDown := hdown
  turn := hturn
  shut h := by
    rcases h with h | h
    · exact ⟨(hshut h).1, fun _ => (hshut h).2⟩
    · cases h

/-- An operation that does not shut the session down. -/
theorem outcome_open {r : a.Result}
    (hdown : found.stream = none → a.TurnedDown found.endpoint found.inFlight r)
    (hshut : ¬ a.Shuts r)
    (hturn : ∃ drawn, a.Turn found r drawn ∧ now.lastCallId = drawn.getD found.lastCallId) :
    a.Outcome r found now false :=
  outcome_of_shuts hdown (fun h => absurd h hshut) hturn

theorem callHeld_follows (m : Messenger) (method : RemoteMethod) (body : Bytes) (found : Session) :
    (({ m with session := s } : Messenger).callHeld method body found).Follows
      (rules s (.call m method body))
      (fun r stage => ∃ now failed, stage = holding found now failed ∧
        (Operation.call m method body).Outcome r found now failed)
      (holding found found false) := by
  refine (beginCall_follows Iff.rfl).bind ?_
  rintro r stage ⟨now, rfl, hbegun⟩
  cases hbegun with
  | refused closed shut number =>
    refine ⟨now, false, rfl, outcome_of_shuts (fun _ => rfl) (fun _ => shut) ?_⟩
    exact Operation.turn_idle (fun h => Bool.eq_false_iff.1 h closed) rfl number
  | exhausted inStep full =>
    refine ⟨found, false, rfl, outcome_open (absurd · inStep.stream_ne_none) nofun ?_⟩
    exact ⟨none, .exhausted inStep.isClosed full rfl, rfl⟩
  | @given c inStep room =>
    have hopen := inStep.stream_ne_none
    have hturn (r : Except SessionError Bytes) :
        (Operation.call m method body).Turn found r (some (found.lastCallId + 1)) :=
      .given inStep.isClosed room trivial
    refine (follows_quiet (ask_quiet rfl)).bind ?_
    rintro _ stage rfl
    refine (follows_quiet (Messenger.exchange_talks c _ _).talk.quiet).bind ?_
    rintro r stage rfl
    cases r with
    | error e =>
      -- from here on the thread has said that its call has failed
      refine follows_ask_bind trivial fun _ _ => ?_
      change Job.Follows _ _ _ (holding found found.begun true)
      refine (abort_follows fun _ => room).bind ?_
      rintro _ stage rfl
      exact ⟨_, true, rfl, fun hnone => absurd hnone hopen, fun _ => ⟨rfl, fun _ => rfl⟩,
        _, hturn _, rfl⟩
    | ok response =>
      refine follows_ask_bind
        ⟨rfl, Operation.records_finish (fun _ => room) fun _ => inStep.isClosed⟩ fun _ _ => ?_
      refine (interpret_follows _ _ response).mono ?_
      rintro r stage ⟨rfl, rfl⟩
      refine ⟨_, false, rfl, outcome_open (absurd · hopen) ?_ ⟨_, hturn _, rfl⟩⟩
      rintro ⟨endpoint, hdesynced⟩
      exact Messenger.verdict_ne_desynced response endpoint hdesynced

/-- Reading and writing need the connection and leave the session as it is. -/
theorem onStream_follows {α : Type} {body : ConnectionId → Job (Except IoError α)}
    {post : Session → Except SessionError α → Session → Bool → Prop}
    (h : ∀ c, (body c).Asks (·.isQuiet = true))
    (hgone : ∀ found, post found (.error (.closed found.endpoint)) found false)
    (hopen : ∀ found r, found.stream ≠ none → post found r found false) :
    (onStream s body).Follows (rules s a) (fun r stage => ∃ found now failed,
      stage = left found now failed ∧ post found r now failed) fresh := by
  refine guarded_follows fun found => ?_
  unfold open?
  cases hstream : found.stream with
  | none => exact ⟨found, false, rfl, hgone found⟩
  | some c =>
    refine (follows_quiet (h c)).bind ?_
    rintro r stage rfl
    refine ⟨found, false, rfl, hopen found _ ?_⟩
    rw [hstream]
    exact Option.some_ne_none c

theorem close_follows :
    (Session.close s).Follows (rules s .close) (Ends .close) fresh := by
  refine follows_ask_bind rfl fun found _ => ?_
  split
  · rename_i hstream
    exact follows_ask_bind rfl fun _ _ => ⟨found, found, false, rfl, fun _ => rfl,
      fun _ => ⟨hstream, absurd rfl⟩, Operation.turn_idle id trivial rfl⟩
  · rename_i c hstream
    refine follows_ask_bind ⟨rfl, Operation.records_closed⟩ fun _ _ => ?_
    refine follows_ask_bind rfl fun _ _ => ?_
    change Job.Follows _ _ _ (left found found.closed false)
    refine (follows_quiet (ask_quiet rfl)).bind ?_
    rintro _ stage rfl
    refine (follows_quiet (ask_quiet rfl)).bind ?_
    rintro r stage rfl
    have hopen : found.stream ≠ none := by
      rw [hstream]
      exact Option.some_ne_none c
    have houtcome (r : Except SessionError Unit) :
        Operation.close.Outcome r found found.closed false :=
      ⟨(absurd · hopen), fun _ => ⟨rfl, absurd rfl⟩, Operation.turn_idle id trivial rfl⟩
    cases r with
    | error e => exact ⟨found, _, false, rfl, houtcome _⟩
    | ok => exact ⟨found, _, false, rfl, houtcome _⟩

theorem begin_follows :
    (Session.begin s).Follows (rules s .begin) (Ends .begin) fresh := by
  refine guarded_follows fun found => (beginCall_follows Iff.rfl).bind ?_
  rintro r stage ⟨now, rfl, hbegun⟩
  cases hbegun with
  | refused closed shut number =>
    refine ⟨now, false, rfl, outcome_of_shuts (fun _ => rfl) (fun _ => shut) ?_⟩
    exact Operation.turn_idle (fun h => Bool.eq_false_iff.1 h closed) rfl number
  | exhausted inStep full =>
    refine ⟨found, false, rfl, outcome_open (absurd · inStep.stream_ne_none) nofun ?_⟩
    exact ⟨none, .exhausted inStep.isClosed full rfl, rfl⟩
  | given inStep room =>
    refine ⟨_, false, rfl, outcome_open (absurd · inStep.stream_ne_none) nofun ?_⟩
    exact ⟨_, .given inStep.isClosed room rfl, rfl⟩

theorem generateCallId_follows :
    (Session.generateCallId s).Follows (rules s .generateCallId) (Ends .generateCallId) fresh := by
  refine guarded_follows fun found => ?_
  unfold nextCallId
  by_cases room : found.lastCallId < Int32.maxValue
  · rw [if_pos room]
    refine follows_ask_bind ⟨rfl, Operation.records_number room⟩ fun _ _ => ?_
    exact ⟨_, false, rfl, outcome_open (fun _ => trivial) id ⟨_, .given trivial room rfl, rfl⟩⟩
  · rw [if_neg room]
    have full := eq_maxValue_of_not_lt room
    exact ⟨found, false, rfl, outcome_open (fun _ => trivial) id
      ⟨none, .exhausted trivial full rfl, rfl⟩⟩

theorem write_follows (bytes : Bytes) :
    (Session.write s bytes).Follows (rules s (.write bytes)) (Ends (.write bytes)) fresh := by
  refine onStream_follows (fun c => ?_)
    (fun _ => outcome_open (fun _ => rfl) id (Operation.turn_idle id trivial rfl))
    fun _ _ hopen => outcome_open (absurd · hopen) id (Operation.turn_idle id trivial rfl)
  exact (Stream.writeAll_talks c bytes).talk.quiet.bind fun _ => asks_pure _ _

theorem flush_follows :
    (Session.flush s).Follows (rules s .flush) (Ends .flush) fresh :=
  onStream_follows (fun _ => ask_quiet rfl)
    (fun _ => outcome_open (fun _ => rfl) id (Operation.turn_idle id trivial rfl))
    fun _ _ hopen => outcome_open (absurd · hopen) id (Operation.turn_idle id trivial rfl)

theorem read_follows (count : Nat) :
    (Session.read s count).Follows (rules s (.read count)) (Ends (.read count)) fresh :=
  onStream_follows (fun _ => ask_quiet rfl)
    (fun _ => outcome_open (fun _ => rfl) id (Operation.turn_idle id trivial rfl))
    fun _ _ hopen => outcome_open (absurd · hopen) id (Operation.turn_idle id trivial rfl)

theorem readExact_follows (count : Nat) :
    (Session.readExact s count).Follows (rules s (.readExact count)) (Ends (.readExact count))
      fresh :=
  onStream_follows (fun c => (Stream.readPieces_talks c count count).talk.quiet)
    (fun _ => outcome_open (fun _ => rfl) id (Operation.turn_idle id trivial rfl))
    fun _ _ hopen => outcome_open (absurd · hopen) id (Operation.turn_idle id trivial rfl)

theorem finishCall_follows :
    (Session.finishCall s).Follows (rules s .finishCall) (Ends .finishCall) fresh :=
  guarded_follows fun _ =>
    follows_ask_bind ⟨rfl, Operation.records_finish False.elim (absurd rfl)⟩ fun _ _ =>
      ⟨_, false, rfl, outcome_open (fun _ => trivial) id (Operation.turn_idle id trivial rfl)⟩

theorem abortCall_follows :
    (Session.abortCall s).Follows (rules s .abortCall) (Ends .abortCall) fresh := by
  refine guarded_follows fun found => (abort_follows False.elim).mono ?_
  rintro r stage rfl
  exact ⟨_, false, rfl, fun _ => trivial, fun _ => ⟨rfl, fun _ => rfl⟩,
    Operation.turn_idle id trivial rfl⟩

theorem checkClosed_follows :
    (Session.checkClosed s).Follows (rules s .checkClosed) (Ends .checkClosed) fresh := by
  refine guarded_follows fun found => ⟨found, false, rfl, outcome_open (fun hnone => ?_) id
    (Operation.turn_idle id trivial rfl)⟩
  exact isClosed_of_stream hnone

theorem defunctWhileHeld_follows :
    (Session.defunctWhileHeld s).Follows (rules s .defunctWhileHeld) (Ends .defunctWhileHeld)
      fresh := by
  refine guarded_follows fun found => (follows_quiet (ask_quiet rfl)).mono ?_
  rintro r stage rfl
  exact ⟨found, false, rfl, outcome_open (fun _ => trivial) id (Operation.turn_idle id trivial rfl)⟩

end Session.Stage

/-- Every operation keeps to the rules, and reports what goes with what it has found. -/
def Session.operationConduct (s : SessionId) : (Session.operations s).Conduct Session.Stage where
  rules := Session.Stage.rules s
  start := .fresh
  gone := .gone
  Ends := Session.Stage.Ends
  follows a := by
    cases a with
    | call m method body =>
      exact Session.Stage.guarded_follows (Session.Stage.callHeld_follows m method body)
    | begin => exact Session.Stage.begin_follows
    | finishCall => exact Session.Stage.finishCall_follows
    | abortCall => exact Session.Stage.abortCall_follows
    | generateCallId => exact Session.Stage.generateCallId_follows
    | write bytes => exact Session.Stage.write_follows bytes
    | flush => exact Session.Stage.flush_follows
    | read count => exact Session.Stage.read_follows count
    | readExact count => exact Session.Stage.readExact_follows count
    | close => exact Session.Stage.close_follows
    | checkClosed => exact Session.Stage.checkClosed_follows
    | defunctWhileHeld => exact Session.Stage.defunctWhileHeld_follows

end ClusterProbe
