import ClusterProbe.Proofs.Session.Exchange
import ClusterProbe.Proofs.Session.Guarded

/-!
# What a call comes to

A call on an open session in step either leaves it alone, because it never got its number, or
completes: it writes its whole request, then takes one frame with the answer, and records that the
session is free for the next call. Anything in between, whether the call failed or was given up,
breaks the session (`Messenger.Course`). A session that is broken or closed stays so.
-/
namespace ClusterProbe

variable {t : ThreadId} {s : SessionId} {c : ConnectionId} {w w' : World} {v : Session}

theorem eq_maxValue_of_not_lt {n : Int32} (h : ¬ n < Int32.maxValue) : n = Int32.maxValue := by
  have hle : n.toInt ≤ Int32.maxValue.toInt := Int32.le_iff_toInt_le.1 n.le_maxValue
  rw [Int32.lt_iff_toInt_lt] at h
  exact Int32.toInt_inj.1 (by omega)

namespace Session

/-- The session once its next call has its number. -/
def begun (v : Session) : Session :=
  { v with lastCallId := v.lastCallId + 1, inFlight := true }

theorem begun_isClosed (v : Session) : v.begun.isClosed = true := by
  simp [begun, isClosed]

/-- An open session that is in step. -/
structure OpenOn (v : Session) (c : ConnectionId) : Prop where
  stream : v.stream = some c
  inStep : v.inFlight = false

theorem OpenOn.isClosed (h : v.OpenOn c) : v.isClosed = false := by
  simp [Session.isClosed, h.stream, h.inStep]

theorem exists_openOn (h : v.isClosed = false) : ∃ c, v.OpenOn c := by
  obtain ⟨hstream, hmark⟩ := Bool.or_eq_false_iff.1 h
  cases hv : v.stream with
  | none =>
    rw [hv] at hstream
    cases hstream
  | some c => exact ⟨c, hv, hmark⟩

theorem isClosed_of_stream (h : v.stream = none) : v.isClosed = true := by
  unfold isClosed
  rw [h]
  rfl

theorem OpenOn.stream_ne_none (h : v.OpenOn c) : v.stream ≠ none := by
  rw [h.stream]
  exact Option.some_ne_none c

theorem OpenOn.begun_stream (h : v.OpenOn c) : v.begun.stream = some c := h.stream

theorem OpenOn.finish (h : v.OpenOn c) : v.begun.finish.OpenOn c := ⟨h.stream, rfl⟩

theorem OpenOn.start (h : v.OpenOn c) :
    v.start = if v.lastCallId < Int32.maxValue then .ok (c, v.lastCallId + 1, v.begun)
      else .error (.protocol .callIdsExhausted) := by
  obtain ⟨endpoint, stream, inFlight, lastCallId⟩ := v
  obtain ⟨rfl, rfl⟩ := h
  unfold Session.start nextCallId
  by_cases hlt : lastCallId < Int32.maxValue
  · simp only [if_pos hlt]
    rfl
  · simp only [if_neg hlt]
    rfl

theorem OpenOn.beginCall (h : v.OpenOn c) :
    beginCall s v = if v.lastCallId < Int32.maxValue then
        Job.ask (.store s v.begun) >>= fun _ => pure (.ok (c, v.lastCallId + 1, v.begun))
      else pure (.error (.protocol .callIdsExhausted)) := by
  unfold Session.beginCall
  simp only [h.inStep, h.start]
  by_cases hlt : v.lastCallId < Int32.maxValue
  · simp only [if_pos hlt]
    rfl
  · simp only [if_neg hlt]
    rfl

/-- Without a stream a call is turned down at once. -/
theorem beginCall_of_stream (hstream : v.stream = none) (hmark : v.inFlight = false) :
    beginCall s v = pure (.error (.closed v.endpoint)) := by
  have hstart : v.start = .error (.closed v.endpoint) := by
    unfold Session.start open?
    rw [hstream]
    rfl
  unfold Session.beginCall
  rw [hmark, hstart]
  rfl

/-- From `w` to `w'` session `s`, found in a state `v` in which it carries no call, has at most been
closed; `After` is what then holds of its state. -/
def StaysClosed (s : SessionId) (c : ConnectionId) (v : Session) (w : World)
    (After : Session → Prop) (w' : World) : Prop :=
  ∃ v' stored hungUp, w.Spans s c { stored, hungUp } w' ∧ After v' ∧ v'.isClosed = true ∧
    (∀ u ∈ stored, u.isClosed = true) ∧ (v.stream = none → v'.stream = none ∧ hungUp = [])

theorem StaysClosed.idle {After : Session → Prop} (spans : w.Spans s c {} w') (after : After v)
    (hv : v.isClosed = true) : StaysClosed s c v w After w' :=
  ⟨v, [], [], spans, after, hv, nofun, fun hs => ⟨hs, rfl⟩⟩

theorem StaysClosed.surround {A B : Session → Prop} {w₁ w₂ : World}
    (h : StaysClosed s c v w₁ A w₂) (before : w.Spans s c {} w₁) (after : w₂.Spans s c {} w')
    (hAB : ∀ u, A u → B u) : StaysClosed s c v w B w' := by
  obtain ⟨v', stored, hungUp, hspans, hafter, hclosed⟩ := h
  exact ⟨v', stored, hungUp, hspans.surround before after, hAB v' hafter, hclosed⟩

/-- A session that cannot carry a call says so, and is closed if it was not. -/
theorem beginCall_runs_closed {o : Option (Except SessionError (ConnectionId × Int32 × Session))}
    (h : (Session.beginCall s v).Runs t w o w') (hw : w.Held s v t) (hv : v.isClosed = true) :
    StaysClosed s c v w (fun u => w'.Held s u t) w' ∧
      ∀ r, o = some r → r = .error (.closed v.endpoint) ∨ r = .error (.desynced v.endpoint) := by
  cases hf : v.inFlight with
  | true =>
    unfold Session.beginCall at h
    simp only [hf, if_true] at h
    rcases Job.Runs.plain_bind (e := .log _) h rfl s c with ⟨_, w₁, hlog, hnext⟩ | ⟨rfl, hlog⟩
    · obtain ⟨o', habort, hresult⟩ := Job.Runs.before_pure hnext
      obtain ⟨u, stored, hungUp, hspans, hheld, hu, hstored, hhungUp, -⟩ :=
        abort_runs (c := c) habort (hw.shares hlog.shares)
      refine ⟨⟨u, stored, hungUp, hspans.surround hlog.spans (.refl w'), hheld, ?_, ?_, ?_⟩,
        fun r hr => Or.inr (hresult r hr).1⟩
      · rcases hu with rfl | rfl
        · exact hv
        · rfl
      · exact fun x hx => hstored x hx ▸ rfl
      · intro hs
        rw [hs, Option.toList_none, or_self] at hhungUp
        refine ⟨?_, hhungUp⟩
        rcases hu with rfl | rfl
        · exact hs
        · rfl
    · exact ⟨.idle hlog.spans (hw.shares hlog.shares) hv, nofun⟩
  | false =>
    have hs : v.stream = none := by
      rw [isClosed, hf, Bool.or_false, Option.isNone_iff_eq_none] at hv
      exact hv
    rw [beginCall_of_stream hs hf] at h
    obtain ⟨rfl, rfl⟩ := h
    exact ⟨.idle (.refl w') hw hv, fun r hr => Or.inl (Option.some.inj hr).symm⟩

end Session

namespace Messenger

variable {m : Messenger} {method : RemoteMethod} {body : Bytes} {response : ResponseFrame}

/-- What a response that has been read whole means to the caller. -/
def verdict (response : ResponseFrame) : Except SessionError Bytes :=
  if response.isError then
    match response.errorStatus with
    | .error e => .error (.protocol (.wire e))
    | .ok status => .error (.remote (.ofStatus status))
  else .ok (response.body.getD [])

theorem interpret_runs {o : Option (Except SessionError Bytes)}
    (h : (m.interpret method response).Runs t w o w') :
    w.Passes s c {} w' ∧ ∀ r, o = some r → r = verdict response := by
  unfold interpret at h
  unfold verdict
  by_cases herror : response.isError = true
  · simp only [if_pos herror] at h ⊢
    cases hstatus : response.errorStatus with
    | error e =>
      simp only [hstatus] at h
      obtain ⟨rfl, rfl⟩ := h
      exact ⟨.refl w', fun r hr => (Option.some.inj hr).symm⟩
    | ok status =>
      simp only [hstatus] at h
      rcases Job.Runs.plain_bind (e := .log _) h rfl s c with ⟨_, w₁, hlog, rfl, rfl⟩ | ⟨rfl, hlog⟩
      · exact ⟨hlog, fun r hr => (Option.some.inj hr).symm⟩
      · exact ⟨hlog, fun r hr => by cases hr⟩
  · simp only [if_neg herror] at h ⊢
    rcases Job.Runs.plain_bind (e := .log _) h rfl s c with ⟨_, w₁, hlog, rfl, rfl⟩ | ⟨rfl, hlog⟩
    · exact ⟨hlog, fun r hr => (Option.some.inj hr).symm⟩
    · exact ⟨hlog, fun r hr => by cases hr⟩

/-- The frame that call number `callId` writes. -/
def request (m : Messenger) (method : RemoteMethod) (body : Bytes) (callId : Int32) :
    RequestFrame :=
  .forMethod callId method m.timeoutMillis body

/-- A call that has failed has not read its answer. It has closed the session, and from then on it
has neither read nor written. -/
structure Failed (m : Messenger) (c : ConnectionId) (v v' : Session) (sent taken : Bytes)
    (w : World) (e : SessionError) (w' : World) : Prop where
  breaksOff : e.breaksOff = true
  unanswered : ∀ response, ¬ m.Brings (v.lastCallId + 1) taken response
  stream : v'.stream = none
  closing : ∃ w₁, w.Spans m.session c { sent, taken, stored := [v.begun] } w₁ ∧
    w₁.Spans m.session c { stored := [v'], hungUp := [c] } w'

/-- What a call on a session that was found in state `v`, open on connection `c` and in step, has
come to; `After` is what then holds of the state of the session. -/
inductive Course (m : Messenger) (method : RemoteMethod) (body : Bytes) (c : ConnectionId)
    (v : Session) (w : World) (o : Option (Except SessionError Bytes)) (After : Session → Prop)
    (w' : World) : Prop
  /-- The call never got its number. -/
  | idle (spans : w.Spans m.session c {} w') (after : After v)
      (result : ∀ r, o = some r →
        r = .error (.protocol .callIdsExhausted) ∧ ¬ v.lastCallId < Int32.maxValue)
  /-- The call failed or was given up before its answer had been read. -/
  | broken {v' : Session} {sent taken : Bytes} {stored : List Session} {hungUp : List ConnectionId}
      (spans : w.Spans m.session c { sent, taken, stored, hungUp } w') (after : After v')
      (closed : v'.isClosed = true) (begun : v.begun ∈ stored)
      (recorded : ∀ u ∈ stored, u.isClosed = true)
      (result : ∀ r, o = some r → ∃ e, r = .error e ∧ m.Failed c v v' sent taken w e w')
  /-- The answer has been read, and the session is free for the next call. -/
  | complete {w₁ : World} {taken : Bytes} {response : ResponseFrame}
      (asked : w.Spans m.session c
        { sent := Frame.segment 0 (m.request method body (v.lastCallId + 1)).encode
          stored := [v.begun] } w₁)
      (answered : w₁.Spans m.session c { taken, stored := [v.begun.finish] } w')
      (brings : m.Brings (v.lastCallId + 1) taken response) (after : After v.begun.finish)
      (result : ∀ r, o = some r → r = verdict response)

theorem Failed.surround {v' : Session} {sent taken : Bytes} {e : SessionError} {w₁ w₂ : World}
    (h : m.Failed c v v' sent taken w₁ e w₂) (before : w.Spans m.session c {} w₁)
    (after : w₂.Spans m.session c {} w') : m.Failed c v v' sent taken w e w' := by
  obtain ⟨w₃, hbegun, hclosed⟩ := h.closing
  exact { h with
    closing := ⟨w₃, hbegun.surround before (.refl w₃), hclosed.surround (.refl w₃) after⟩ }

namespace Course

variable {w₁ w₂ : World} {o o₁ : Option (Except SessionError Bytes)} {A B : Session → Prop}

theorem surround (h : m.Course method body c v w₁ o₁ A w₂) (before : w.Spans m.session c {} w₁)
    (after : w₂.Spans m.session c {} w') (ho : ∀ a, o = some a → o₁ = some a)
    (hAB : ∀ u, A u → B u) : m.Course method body c v w o B w' := by
  cases h with
  | idle spans hafter result =>
    exact .idle ((before.trans spans).trans after) (hAB _ hafter) fun r hr => result r (ho r hr)
  | broken spans hafter closed begun recorded result =>
    refine .broken (spans.surround before after) (hAB _ hafter) closed begun recorded fun r hr => ?_
    obtain ⟨e, he, hfailed⟩ := result r (ho r hr)
    exact ⟨e, he, hfailed.surround before after⟩
  | complete asked answered brings hafter result =>
    exact .complete (asked.surround before (.refl _)) (answered.surround (.refl _) after) brings
      (hAB _ hafter) fun r hr => result r (ho r hr)

/-- A call that is given up after it has got its number and before it has given the session back. -/
theorem given_up {sent taken : Bytes}
    (spans : w.Spans m.session c { sent, taken, stored := [v.begun] } w') (after : A v.begun) :
    m.Course method body c v w none A w' := by
  refine .broken spans after v.begun_isClosed (List.mem_singleton_self _) (fun u hu => ?_) nofun
  rw [List.mem_singleton.1 hu]
  exact v.begun_isClosed

end Course

/-- A call whose exchange has failed closes its session. -/
theorem abort_runs {o : Option (Except SessionError Bytes)} {sent taken : Bytes} {e : SessionError}
    {w₁ : World} (hv : v.OpenOn c) (hw : w₁.Held m.session v.begun t)
    (hspans : w.Spans m.session c { sent, taken, stored := [v.begun] } w₁)
    (hbreaks : e.breaksOff = true)
    (hbrings : ∀ response, ¬ m.Brings (v.lastCallId + 1) taken response)
    (h : (Session.abort m.session v.begun >>= fun _ => pure (.error e)).Runs t w₁ o w') :
    m.Course method body c v w o (fun u => w'.Held m.session u t) w' := by
  obtain ⟨o', habort, hresult⟩ := Job.Runs.before_pure h
  obtain ⟨u, stored, hungUp, haborted, hheld, hu, hstored, -, hdone⟩ :=
    Session.abort_runs (c := c) habort hw
  have hall : w.Spans m.session c { sent, taken, stored := v.begun :: stored, hungUp } w' :=
    (hspans.trans haborted).of_eq (by simp)
  refine .broken hall hheld ?_ List.mem_cons_self ?_ fun r hr => ?_
  · rcases hu with rfl | rfl
    · exact v.begun_isClosed
    · rfl
  · intro x hx
    rcases List.mem_cons.1 hx with rfl | hx
    · exact v.begun_isClosed
    · exact hstored x hx ▸ rfl
  · obtain ⟨rfl, rfl⟩ := hresult r hr
    obtain ⟨rfl, rfl, rfl⟩ := hdone rfl
    have hclosing : w₁.Spans m.session c
        { stored := [v.begun.closed.finish], hungUp := [c] } w' :=
      haborted.of_eq (by simp [hv.begun_stream])
    exact ⟨e, rfl, hbreaks, hbrings, rfl, w₁, hspans, hclosing⟩

/-- A call whose answer has been read gives the session back for the next call. -/
theorem finish_runs {o : Option (Except SessionError Bytes)} {taken : Bytes} {w₁ w₂ : World}
    (hasked : w.Spans m.session c
      { sent := Frame.segment 0 (m.request method body (v.lastCallId + 1)).encode
        stored := [v.begun] } w₁)
    (hanswered : w₁.Spans m.session c { taken } w₂) (hw : w₂.Held m.session v.begun t)
    (hbrings : m.Brings (v.lastCallId + 1) taken response)
    (h : (Job.ask (.store m.session v.begun.finish) >>= fun _ =>
      m.interpret method response).Runs t w₂ o w') :
    m.Course method body c v w o (fun u => w'.Held m.session u t) w' := by
  rcases (Job.runs_ask_bind (.store m.session v.begun.finish) _ _).1 h with
    ⟨_, w₃, hfinish, hlast⟩ | ⟨rfl, hwait⟩
  · obtain ⟨hheld, hfinished⟩ := hfinish.store_held (c := c) hw
    obtain ⟨hpasses, hresult⟩ := interpret_runs (s := m.session) (c := c) hlast
    have hread : w₁.Spans m.session c { taken, stored := [v.begun.finish] } w₃ :=
      (hanswered.trans hfinished).of_eq (by simp)
    exact .complete hasked (hread.surround (.refl w₁) hpasses.spans) hbrings
      (hheld.shares hpasses.shares) hresult
  · have hpasses := hwait.store_passes (c := c)
    have hread : w₁.Spans m.session c { taken } w' :=
      hanswered.surround (.refl w₁) hpasses.spans
    exact .given_up (hasked.trans hread) (hw.shares hpasses.shares)

theorem callHeld_runs {o : Option (Except SessionError Bytes)} (hv : v.OpenOn c) (hc : w.Has c)
    (hw : w.Held m.session v t) (h : (m.callHeld method body v).Runs t w o w') :
    m.Course method body c v w o (fun u => w'.Held m.session u t) w' := by
  rw [callHeld, hv.beginCall] at h
  by_cases hlt : v.lastCallId < Int32.maxValue
  · simp only [if_pos hlt, bind_assoc, pure_bind] at h
    rcases (Job.runs_ask_bind (.store m.session v.begun) _ _).1 h with
      ⟨_, w₁, hstore, hnext⟩ | ⟨rfl, hwait⟩
    · obtain ⟨hheld, hstored⟩ := hstore.store_held (c := c) hw
      rcases Job.Runs.plain_bind (e := .log _) hnext rfl m.session c with
        ⟨_, w₂, hlog, hnext⟩ | ⟨rfl, hlog⟩
      · replace hheld := hheld.shares hlog.shares
        replace hstored := hstored.surround (.refl w) hlog.spans
        rcases (Job.runs_bind _ _ _).1 hnext with ⟨r, w₃, hx, hnext⟩ | ⟨rfl, hx⟩
        · have hx := exchange_runs (s := m.session) hx (hstored.has hc)
          cases r with
          | ok response =>
            obtain ⟨w₄, taken, hasked, hanswered, hbrings⟩ := hx
            have hheld := (hheld.shares hasked.shares).shares hanswered.shares
            exact finish_runs (hstored.trans hasked.spans) hanswered.spans hheld hbrings hnext
          | error e =>
            obtain ⟨hbreaks, sent, taken, hpasses, hbrings⟩ := hx
            have hheld := hheld.shares hpasses.shares
            have hsent : w.Spans m.session c { sent, taken, stored := [v.begun] } w₃ :=
              (hstored.trans hpasses.spans).of_eq (by simp)
            rcases Job.Runs.plain_bind (e := .log _) hnext rfl m.session c with
              ⟨_, w₄, hlog, hnext⟩ | ⟨rfl, hlog⟩
            · exact abort_runs hv (hheld.shares hlog.shares) (hsent.surround (.refl w) hlog.spans)
                hbreaks hbrings hnext
            · exact .given_up (hsent.surround (.refl w) hlog.spans) (hheld.shares hlog.shares)
        · obtain ⟨sent, taken, hpasses⟩ := exchange_runs (s := m.session) hx (hstored.has hc)
          exact .given_up (hstored.trans hpasses.spans) (hheld.shares hpasses.shares)
      · exact .given_up (hstored.surround (.refl w) hlog.spans) (hheld.shares hlog.shares)
    · have hpasses := hwait.store_passes (c := c)
      exact .idle hpasses.spans (hw.shares hpasses.shares) nofun
  · simp only [if_neg hlt, pure_bind] at h
    obtain ⟨rfl, rfl⟩ := h
    exact .idle (.refl w') hw fun r hr => ⟨(Option.some.inj hr).symm, hlt⟩

/-- Every call on an open session in step takes one of three courses. -/
theorem call_runs {o : Option (Except SessionError Bytes)} (hv : v.OpenOn c) (hc : w.Has c)
    (hw : w.Free m.session v) (h : (m.call method body).Runs t w o w') :
    m.Course method body c v w o (fun u => w'.Leaves m.session u t o) w' := by
  rcases Session.guarded_runs (c := c) h hw with
    ⟨rfl, hpasses⟩ | ⟨w₁, o₁, w₂, before, hheld, hbody, after, ho, hleaves⟩
  · exact .idle hpasses.spans (Or.inl (hw.shares hpasses.shares)) nofun
  · exact (callHeld_runs hv (before.has hc) hheld hbody).surround before after ho hleaves

/-- A call on a session that cannot carry it changes nothing but to close the session for good. -/
theorem call_runs_closed {o : Option (Except SessionError Bytes)} (hv : v.isClosed = true)
    (hw : w.Free m.session v) (h : (m.call method body).Runs t w o w') :
    Session.StaysClosed m.session c v w (fun u => w'.Leaves m.session u t o) w' ∧
      ∀ r, o = some r → r = .error (.closed v.endpoint) ∨ r = .error (.desynced v.endpoint) := by
  rcases Session.guarded_runs (c := c) h hw with
    ⟨rfl, hpasses⟩ | ⟨w₁, o₁, w₂, before, hheld, hbody, after, ho, hleaves⟩
  · exact ⟨.idle hpasses.spans (Or.inl (hw.shares hpasses.shares)) hv, nofun⟩
  · rcases (Job.runs_bind _ _ _).1 hbody with ⟨r₁, w₃, hbegin, hlast⟩ | ⟨rfl, hbegin⟩
    · obtain ⟨hstays, hresult⟩ := Session.beginCall_runs_closed (c := c) hbegin hheld hv
      rcases hresult r₁ rfl with rfl | rfl
      · obtain ⟨rfl, rfl⟩ := hlast
        refine ⟨hstays.surround before after hleaves, fun r hr => Or.inl ?_⟩
        exact (Option.some.inj (ho r hr)).symm
      · obtain ⟨rfl, rfl⟩ := hlast
        refine ⟨hstays.surround before after hleaves, fun r hr => Or.inr ?_⟩
        exact (Option.some.inj (ho r hr)).symm
    · obtain ⟨hstays, -⟩ := Session.beginCall_runs_closed (c := c) hbegin hheld hv
      refine ⟨hstays.surround before after hleaves, fun r hr => ?_⟩
      cases ho r hr

end Messenger
end ClusterProbe
