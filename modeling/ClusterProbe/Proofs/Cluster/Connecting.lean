import ClusterProbe.Cluster.Connect
import ClusterProbe.Proofs.Session.Call

/-!
# What connecting opens and shuts down

`World.Books` says which endpoints were dialed, which connections came of it and which of them were
shut down. A session that has been opened owes one shutdown: a call that fails pays it, and so does
closing the session, but not both. Connecting to a host dials once; the connection is left open
exactly when a host comes of it.
-/
namespace ClusterProbe

variable {t : ThreadId} {s : SessionId} {c : ConnectionId} {w w' w'' : World} {v : Session}

namespace World

/-- From `w` to `w'` these endpoints were dialed, these connections opened and these shut down. -/
structure Books (w : World) (dialed : List Endpoint) (opened hungUp : List ConnectionId)
    (w' : World) : Prop where
  past : ∃ h, w'.past = w.past ++ h ∧ h.dialed = dialed ∧ h.opened = opened ∧ h.hungUp = hungUp
  has : ∀ {c}, w.Has c → w'.Has c

theorem Books.refl (w : World) : w.Books [] [] [] w :=
  ⟨⟨[], (List.append_nil _).symm, rfl, rfl, rfl⟩, id⟩

theorem Books.trans {dialed dialed' : List Endpoint}
    {opened opened' hungUp hungUp' : List ConnectionId}
    (h : w.Books dialed opened hungUp w') (h' : w'.Books dialed' opened' hungUp' w'') :
    w.Books (dialed ++ dialed') (opened ++ opened') (hungUp ++ hungUp') w'' := by
  obtain ⟨⟨g, hg, rfl, rfl, rfl⟩, hhas⟩ := h
  obtain ⟨⟨g', hg', rfl, rfl, rfl⟩, hhas'⟩ := h'
  refine ⟨⟨g ++ g', ?_, Chronicle.dialed_append g g', Chronicle.opened_append g g',
    Chronicle.hungUp_append g g'⟩, fun hc => hhas' (hhas hc)⟩
  rw [hg', hg, List.append_assoc]

theorem Books.andThen {dialed : List Endpoint} {opened hungUp : List ConnectionId}
    (h : w.Books dialed opened hungUp w') (h' : w'.Books [] [] [] w'') :
    w.Books dialed opened hungUp w'' := by
  have hall := h.trans h'
  rwa [List.append_nil, List.append_nil, List.append_nil] at hall

theorem Spans.books {a : Account} (h : w.Spans s c a w') :
    w.Books a.dialed a.opened a.hungUp w' := by
  obtain ⟨⟨g, hg, rfl⟩, hhas⟩ := h
  exact ⟨⟨g, hg, rfl, rfl, rfl⟩, hhas⟩

/-- Session `s` has been opened on connection `c`, and `hungUp` has been shut down for it since: the
connection, unless the session still has it. -/
structure Owes (w : World) (s : SessionId) (c : ConnectionId) (v : Session)
    (hungUp : List ConnectionId) : Prop where
  free : w.Free s v
  has : w.Has c
  balance : hungUp ++ v.stream.toList = [c]

theorem Owes.hungUp_eq_nil {hungUp : List ConnectionId} (h : w.Owes s c v hungUp)
    (hv : v.OpenOn c) : hungUp = [] := by
  have hbalance := h.balance
  rw [hv.stream] at hbalance
  exact List.append_cancel_right (hbalance.trans (List.nil_append _).symm)

theorem Owes.of_open (hv : v.OpenOn c) (hw : w.Free s v) (hc : w.Has c) : w.Owes s c v [] :=
  ⟨hw, hc, by rw [hv.stream]; rfl⟩

/-- From `w` to `w'` session `s` has stayed open on connection `c`, or the connection has been shut
down for it and there has been a failure. -/
def Pays (w : World) (s : SessionId) (c : ConnectionId) (failure : Prop) (w' : World) : Prop :=
  ∃ v hungUp, w.Books [] [] hungUp w' ∧ w'.Owes s c v hungUp ∧ (v.OpenOn c ∨ failure)

end World

namespace Session

theorem close_books {r : Except SessionError Unit} (h : (close s).Runs t w (some r) w')
    (hw : w.Free s v) : w.Books [] [] v.stream.toList w' := by
  obtain ⟨stored, hspans, _⟩ := close_runs (c := 0) h hw
  exact hspans.books

/-- Whatever closing gives, the job goes on to a fixed result, with an entry in the log at most. -/
theorem close_runs_then {α : Type} {f : Except SessionError Unit → Job α} {a b : α}
    (h : (close s >>= f).Runs t w (some a) w') (hok : f (.ok ()) = pure b)
    (herror : ∀ e, ∃ event, f (.error e) = Job.ask (.log event) >>= fun _ => pure b) :
    a = b ∧ ∃ closed w₁, (close s).Runs t w (some closed) w₁ ∧ ∀ s c, w₁.Passes s c {} w' := by
  obtain ⟨closed, w₁, hclose, hlast⟩ := (Job.runs_bind_some _ _ _).1 h
  cases closed with
  | error e =>
    obtain ⟨event, he⟩ := herror e
    rw [he] at hlast
    obtain ⟨_, w₂, hlog, hr, rfl⟩ := (Job.runs_ask_bind_some (.log event) _ _).1 hlast
    exact ⟨Option.some.inj hr, _, w₁, hclose, fun _ _ => hlog.plain rfl⟩
  | ok =>
    rw [hok] at hlast
    obtain ⟨hr, rfl⟩ := hlast
    exact ⟨Option.some.inj hr, _, w', hclose, fun _ _ => .refl w'⟩

theorem close_books_then {α : Type} {f : Except SessionError Unit → Job α} {a b : α}
    (h : (close s >>= f).Runs t w (some a) w') (hw : w.Free s v) (hok : f (.ok ()) = pure b)
    (herror : ∀ e, ∃ event, f (.error e) = Job.ask (.log event) >>= fun _ => pure b) :
    a = b ∧ w.Books [] [] v.stream.toList w' := by
  obtain ⟨hr, _, w₁, hclose, hends⟩ := close_runs_then h hok herror
  exact ⟨hr, (close_books hclose hw).andThen (hends 0 0).spans.books⟩

end Session

theorem SessionError.isDial_of_breaksOff {e : SessionError} (h : e.breaksOff = true) :
    e.isDial = false := by
  cases e <;> first | rfl | cases h

/-- A session fails to be dialed as seen from the cluster exactly if it does by itself; what is
wrapped into the failure of a trial is no failure to dial. -/
theorem ClientError.isDial_session (e : SessionError) : (session e).isDial = e.isDial := by
  unfold isDial kind
  cases e with
  | probe endpoint source => cases source <;> rfl
  | protocol error => cases error <;> rfl
  | _ => rfl

namespace Messenger

variable {m : Messenger}

theorem verdict_isDial {response : ResponseFrame} {e : SessionError}
    (h : verdict response = .error e) : e.isDial = false := by
  unfold verdict at h
  split at h
  · split at h <;> (cases h; rfl)
  · cases h

theorem Course.isDial {method : RemoteMethod} {body : Bytes} {e : SessionError}
    {After : Session → Prop} (h : m.Course method body c v w (some (.error e)) After w') :
    e.isDial = false := by
  cases h with
  | idle spans after result =>
    obtain ⟨he, -⟩ := result _ rfl
    cases he
    rfl
  | broken spans after closed begun recorded result =>
    obtain ⟨_, he, hfailed⟩ := result _ rfl
    cases he
    exact SessionError.isDial_of_breaksOff hfailed.breaksOff
  | complete asked answered brings after result => exact verdict_isDial (result _ rfl).symm

/-- A call pays for its session when it breaks it, and then it gives an error. -/
theorem call_books {method : RemoteMethod} {body : Bytes} {r : Except SessionError Bytes}
    (h : (m.call method body).Runs t w (some r) w') (hv : v.OpenOn c) (hw : w.Free m.session v)
    (hc : w.Has c) :
    w.Pays m.session c (∃ e, r = .error e) w' := by
  cases call_runs hv hc hw h with
  | idle spans after result =>
    exact ⟨v, [], spans.books, .of_open hv after (spans.has hc), Or.inl hv⟩
  | @broken v' sent taken stored hungUp spans after closed begun recorded result =>
    obtain ⟨e, rfl, hfailed⟩ := result r rfl
    obtain ⟨w₁, hbegun, hclosed⟩ := hfailed.closing
    refine ⟨v', [c], hbegun.books.trans hclosed.books, ⟨after, spans.has hc, ?_⟩,
      Or.inr ⟨e, rfl⟩⟩
    rw [hfailed.stream]
    rfl
  | complete asked answered brings after result =>
    have hspans := asked.trans answered
    exact ⟨v.begun.finish, [], hspans.books, .of_open hv.finish after (hspans.has hc),
      Or.inl hv.finish⟩

theorem service_books {A Q : Type} [Protobuf.Message A] [Protobuf.Message Q] {method : RemoteMethod}
    {request : Q} {r : Except SessionError A}
    (h : (Service.call A m method request).Runs t w (some r) w') (hv : v.OpenOn c)
    (hw : w.Free m.session v) (hc : w.Has c) :
    w.Pays m.session c (∃ e, r = .error e) w' := by
  obtain ⟨_, w₁, hlog, hnext⟩ := Job.Runs.plain_bind_some (e := .log _) h rfl m.session c
  obtain ⟨r₀, w₂, hcall, hlast⟩ := (Job.runs_bind_some _ _ _).1 hnext
  obtain ⟨v', hungUp, hbooks, howes, hopen⟩ :=
    call_books hcall hv (hw.shares hlog.shares) (hlog.spans.has hc)
  have hw' : w' = w₂ := by
    cases r₀ <;> exact hlast.2
  subst hw'
  refine ⟨v', hungUp, hlog.spans.books.trans hbooks, howes, ?_⟩
  rcases hopen with hopen | ⟨e, rfl⟩
  · exact Or.inl hopen
  · exact Or.inr ⟨e, Option.some.inj hlast.1⟩

/-- From `w` to `w'` one request has gone out on connection `c`, under the next number of its
session, and the session is free for the number after that. -/
def Asked (m : Messenger) (method : RemoteMethod) (body : Bytes) (c : ConnectionId) (v : Session)
    (w w' : World) : Prop :=
  (∃ taken stored, w.Spans m.session c
    { sent := Frame.segment 0 (m.request method body (v.lastCallId + 1)).encode
      taken
      stored } w') ∧ w'.Free m.session v.begun.finish

theorem call_asked {method : RemoteMethod} {body answer : Bytes}
    (h : (m.call method body).Runs t w (some (.ok answer)) w') (hv : v.OpenOn c)
    (hw : w.Free m.session v) (hc : w.Has c) : m.Asked method body c v w w' := by
  cases call_runs hv hc hw h with
  | idle spans after result =>
    obtain ⟨hfailed, -⟩ := result _ rfl
    cases hfailed
  | broken spans after closed begun recorded result =>
    obtain ⟨e, he, -⟩ := result _ rfl
    cases he
  | @complete w₁ taken response asked answered brings after result =>
    have hall := asked.trans answered
    exact ⟨⟨taken, [v.begun, v.begun.finish], hall.of_eq (by simp)⟩, after⟩

/-- A call that succeeds has cost one request, and no call fails like a dial. -/
theorem service_asks {A Q : Type} [Protobuf.Message A] [Protobuf.Message Q] {method : RemoteMethod}
    {request : Q} {r : Except SessionError A}
    (h : (Service.call A m method request).Runs t w (some r) w') (hv : v.OpenOn c)
    (hw : w.Free m.session v) (hc : w.Has c) :
    (∀ a, r = .ok a → m.Asked method (Protobuf.Message.encode request) c v w w') ∧
      ∀ e, r = .error e → e.isDial = false := by
  obtain ⟨_, w₁, hlog, hnext⟩ := Job.Runs.plain_bind_some (e := .log _) h rfl m.session c
  obtain ⟨r₀, w₂, hcall, hlast⟩ := (Job.runs_bind_some _ _ _).1 hnext
  have hfree := hw.shares hlog.shares
  have hcourse := call_runs hv (hlog.spans.has hc) hfree hcall
  cases r₀ with
  | error e =>
    obtain ⟨hr, -⟩ := hlast
    cases hr
    exact ⟨nofun, fun e he => Except.error.inj he ▸ hcourse.isDial⟩
  | ok body =>
    obtain ⟨hr, rfl⟩ := hlast
    obtain ⟨⟨taken, stored, hasked⟩, hafter⟩ := call_asked hcall hv hfree (hlog.spans.has hc)
    have hall := (hlog.spans.trans hasked).of_eq (Account.empty_append _)
    refine ⟨fun _ _ => ⟨⟨taken, stored, hall⟩, hafter⟩, fun e he => ?_⟩
    cases hdecoded : Protobuf.Message.decode A body with
    | error source =>
      rw [hdecoded] at hr
      cases hr
      cases he
      rfl
    | ok answer =>
      rw [hdecoded] at hr
      cases hr
      cases he

end Messenger

namespace World

theorem Settles.dial_has {endpoint : Endpoint} (h : w.Settles t (.dial endpoint) (.ok c) w') :
    w'.Has c := by
  obtain ⟨w₁, _, bed, hanswer | ⟨⟨error, herror⟩, _⟩, rfl⟩ := h
  · simp only [Testbed.answer, Network.dial] at hanswer
    split at hanswer
    · simp at hanswer
    · simp only [Prod.mk.injEq, Option.some.injEq, Except.ok.injEq] at hanswer
      obtain ⟨rfl, rfl⟩ := hanswer
      simp [Has, after]
  · cases herror

theorem Settles.openSession_open {endpoint : Endpoint}
    (h : w.Settles t (.openSession endpoint c) s w') :
    w'.Free s { endpoint, stream := some c } ∧ w.Books [] [] [] w' := by
  obtain ⟨rfl, hsessions⟩ := h.openSession
  refine ⟨?_, ?_⟩
  · unfold Free
    rw [hsessions, List.getElem?_concat_length]
  · have hspans : w.Spans 0 0 {} w' := h.spans_unbooked nofun rfl
    exact hspans.books

end World

theorem Stream.sendHello_runs {r : Except SessionError Unit}
    (h : (sendHello c).Runs t w (some r) w') :
    ∃ sent, w.Passes s c { sent } w' ∧ (r = .ok () → sent = Frame.hello) ∧
      ∀ e, r = .error e → e.isDial = false := by
  obtain ⟨r₁, w₁, hwrite, hnext⟩ := (Job.runs_ask_bind_some (.write c Frame.hello) _ _).1 h
  have hpasses := hwrite.passes (s := s) (c := c) rfl rfl nofun
  cases r₁ with
  | error e =>
    obtain ⟨hr, rfl⟩ := hnext
    cases hr
    exact ⟨[], hpasses, nofun, by rintro _ ⟨⟩; rfl⟩
  | ok n =>
    rw [Chronicle.account_write_ok] at hpasses
    by_cases hn : n = Frame.hello.length
    · rw [hn, List.take_length] at hpasses
      simp only [if_pos hn] at hnext
      obtain ⟨r₂, w₂, hflush, hlast⟩ := Job.Runs.plain_bind_some (e := .flush c) hnext rfl s c
      have hflushed := (hpasses.trans hflush).of_eq (Account.append_empty _)
      cases r₂ with
      | error e =>
        obtain ⟨hr, rfl⟩ := hlast
        cases hr
        exact ⟨Frame.hello, hflushed, nofun, by rintro _ ⟨⟩; rfl⟩
      | ok =>
        obtain ⟨_, w₃, hlog, hr, rfl⟩ := Job.Runs.plain_bind_some (e := .log _) hlast rfl s c
        cases hr
        have hlogged := (hflushed.trans hlog).of_eq (Account.append_empty _)
        exact ⟨Frame.hello, hlogged, fun _ => rfl, nofun⟩
    · simp only [if_neg hn] at hnext
      obtain ⟨hr, rfl⟩ := hnext
      cases hr
      exact ⟨_, hpasses, nofun, by rintro _ ⟨⟩; rfl⟩

namespace Session

/-- Thread `t` has dialed the endpoint, greeted who answered on connection `c` and opened session
`s` on it. -/
inductive Opens (t : ThreadId) (endpoint : Endpoint) (s : SessionId) (c : ConnectionId)
    (w : World) : World → Prop
  | intro {w₁ w₂ w₃ w₄ : World} (starts : ∀ s c, w.Passes s c {} w₁)
      (dials : w₁.Settles t (.dial endpoint) (.ok c) w₂)
      (greets : (Stream.sendHello c).Runs t w₂ (some (.ok ())) w₃)
      (opens : w₃.Settles t (.openSession endpoint c) s w₄) : Opens t endpoint s c w w₄

/-- The ways in which connecting comes to an end. -/
inductive Connects (t : ThreadId) (endpoint : Endpoint) (probe : Probe) (w : World) :
    Except SessionError SessionId → World → Prop
  | undialed {w₁ w₂ : World} {e : SessionError} (starts : ∀ s c, w.Passes s c {} w₁)
      (dials : w₁.Settles t (.dial endpoint) (.error e) w₂) :
      Connects t endpoint probe w (.error e) w₂
  | ungreeted {w₁ w₂ w₃ w₄ : World} {c : ConnectionId} {e : SessionError}
      {gone : Except IoError Unit} (starts : ∀ s c, w.Passes s c {} w₁)
      (dials : w₁.Settles t (.dial endpoint) (.ok c) w₂)
      (greets : (Stream.sendHello c).Runs t w₂ (some (.error e)) w₃)
      (hangsUp : w₃.Settles t (.hangUp c) gone w₄) : Connects t endpoint probe w (.error e) w₄
  | untried {w₁ w₂ w₃ w₄ w₅ : World} {c : ConnectionId} {s : SessionId} {source : SessionError}
      {closed : Except SessionError Unit} (opens : Opens t endpoint s c w w₁)
      (tries : (probe s).Runs t w₁ (some (.error source)) w₂)
      (fails : ∀ s c, w₂.Passes s c {} w₃) (closes : (close s).Runs t w₃ (some closed) w₄)
      (ends : ∀ s c, w₄.Passes s c {} w₅) :
      Connects t endpoint probe w (.error (.probe endpoint source)) w₅
  | tried {w₁ w₂ w₃ : World} {c : ConnectionId} {s : SessionId} (opens : Opens t endpoint s c w w₁)
      (tries : (probe s).Runs t w₁ (some (.ok ())) w₂) (ends : ∀ s c, w₂.Passes s c {} w₃) :
      Connects t endpoint probe w (.ok s) w₃

theorem connect_cases {endpoint : Endpoint} {probe : Probe} {r : Except SessionError SessionId}
    (h : (connect endpoint probe).Runs t w (some r) w') : Connects t endpoint probe w r w' := by
  obtain ⟨_, w₁, hlog, h⟩ := (Job.runs_ask_bind_some (.log _) _ _).1 h
  have hstarts : ∀ s c, w.Passes s c {} w₁ := fun _ _ => hlog.plain rfl
  obtain ⟨dialed, w₂, hdial, h⟩ := (Job.runs_ask_bind_some (.dial endpoint) _ _).1 h
  cases dialed with
  | error e =>
    obtain ⟨hr, rfl⟩ := h
    cases hr
    exact .undialed hstarts hdial
  | ok c =>
    obtain ⟨greeted, w₃, hgreet, h⟩ := (Job.runs_bind_some _ _ _).1 h
    cases greeted with
    | error e =>
      obtain ⟨_, w₄, hhang, hr, rfl⟩ := (Job.runs_ask_bind_some (.hangUp c) _ _).1 h
      cases hr
      exact .ungreeted hstarts hdial hgreet hhang
    | ok =>
      obtain ⟨s, w₄, hsession, h⟩ := (Job.runs_ask_bind_some (.openSession endpoint c) _ _).1 h
      have hopens : Opens t endpoint s c w w₄ := .intro hstarts hdial hgreet hsession
      obtain ⟨tried, w₅, htry, h⟩ := (Job.runs_bind_some _ _ _).1 h
      cases tried with
      | error source =>
        obtain ⟨_, w₆, hlog, h⟩ := (Job.runs_ask_bind_some (.log _) _ _).1 h
        obtain ⟨rfl, closed, w₇, hclose, hends⟩ :=
          close_runs_then (b := .error (.probe endpoint source)) h rfl fun e => ⟨_, rfl⟩
        exact .untried hopens htry (fun _ _ => hlog.plain rfl) hclose hends
      | ok =>
        obtain ⟨_, w₆, hlog, hr, rfl⟩ := (Job.runs_ask_bind_some (.log _) _ _).1 h
        cases hr
        exact .tried hopens htry fun _ _ => hlog.plain rfl

section
variable {endpoint : Endpoint}

theorem Opens.free (h : Opens t endpoint s c w w') :
    w'.Free s { endpoint, stream := some c } := by
  cases h with
  | intro starts dials greets opens => exact opens.openSession_open.1

theorem Opens.has (h : Opens t endpoint s c w w') : w'.Has c := by
  cases h with
  | intro starts dials greets opens => exact opens.has (greets.has dials.dial_has)

/-- What a new connection has carried is the greeting. -/
theorem Opens.spans (h : Opens t endpoint s c w w') :
    w.Spans s c { sent := Frame.hello, dialed := [endpoint], opened := [c] } w' := by
  cases h with
  | intro starts dials greets opens =>
    obtain ⟨sent, hsent, hgreeted, -⟩ := Stream.sendHello_runs (s := s) greets
    rw [hgreeted rfl] at hsent
    exact ((((starts s c).spans.trans (dials.spans nofun)).trans hsent.spans).trans
      (opens.spans_unbooked nofun rfl)).of_eq rfl

end

/-- What connecting has come to: a session that is open on the one connection that was opened, or an
error, and then nothing is left open. -/
def Connected (endpoint : Endpoint) (w : World) : Except SessionError SessionId → World → Prop
  | .ok s => fun w' => ∃ c v, w.Books [endpoint] [c] [] w' ∧ v.OpenOn c ∧ w'.Free s v ∧ w'.Has c
  | .error _ => fun w' => ∃ opened, w.Books [endpoint] opened opened w'

theorem pingProbe_books {endpoint : Endpoint} {timeoutMillis : UInt32}
    {r : Except SessionError Unit} (h : (pingProbe endpoint timeoutMillis s).Runs t w (some r) w')
    (hv : v.OpenOn c) (hw : w.Free s v) (hc : w.Has c) :
    w.Pays s c (∃ e, r = .error e) w' := by
  obtain ⟨pinged, w₁, hping, hr, rfl⟩ := (Job.runs_bind_some _ _ _).1 h
  obtain ⟨v', hungUp, hbooks, howes, hopen⟩ := Messenger.service_books hping hv hw hc
  refine ⟨v', hungUp, hbooks, howes, ?_⟩
  rcases hopen with hopen | ⟨e, rfl⟩
  · exact Or.inl hopen
  · exact Or.inr ⟨e, Option.some.inj hr⟩

theorem connect_runs {endpoint : Endpoint} {timeoutMillis : UInt32}
    {r : Except SessionError SessionId}
    (h : (connect endpoint (pingProbe endpoint timeoutMillis)).Runs t w (some r) w') :
    Connected endpoint w r w' := by
  cases connect_cases h with
  | undialed starts dials =>
    exact ⟨[], ((starts 0 0).spans.trans (dials.spans nofun)).books⟩
  | @ungreeted w₁ w₂ w₃ w₄ c e gone starts dials greets hangsUp =>
    obtain ⟨sent, hsent, -⟩ := Stream.sendHello_runs (s := 0) greets
    have hdialed := (starts 0 0).spans.books.trans (dials.spans (s := 0) (c := 0) nofun).books
    have hhangs := (hangsUp.spans (s := 0) (c := 0) nofun).books
    exact ⟨[c], (hdialed.trans hsent.spans.books).trans hhangs⟩
  | @untried w₁ w₂ w₃ w₄ w₅ c s source closed opens tries fails closes ends =>
    obtain ⟨v, hungUp, hpaid, howes, -⟩ := pingProbe_books tries ⟨rfl, rfl⟩ opens.free opens.has
    have hclosed := close_books closes (howes.free.shares (fails 0 0).shares)
    have hall := (((opens.spans.books.trans hpaid).andThen (fails 0 0).spans.books).trans
      hclosed).andThen (ends 0 0).spans.books
    simp only [List.append_nil, List.nil_append, howes.balance] at hall
    exact ⟨[c], hall⟩
  | @tried w₁ w₂ w₃ c s opens tries ends =>
    obtain ⟨v, hungUp, hpaid, howes, hopen | ⟨e, he⟩⟩ :=
      pingProbe_books tries ⟨rfl, rfl⟩ opens.free opens.has
    · obtain rfl := howes.hungUp_eq_nil hopen
      exact ⟨c, v, (opens.spans.books.trans hpaid).andThen (ends 0 0).spans.books, hopen,
        howes.free.shares (ends 0 0).shares, (ends 0 0).spans.has howes.has⟩
    · cases he

end Session

namespace Host

theorem fetchStatus_books {m : Messenger} {r : Except ClientError ServerStatus}
    (h : (fetchStatus m).Runs t w (some r) w') (hv : v.OpenOn c) (hw : w.Free m.session v)
    (hc : w.Has c) :
    w.Pays m.session c (∃ e, r = .error e) w' := by
  obtain ⟨r₀, w₁, hcall, hlast⟩ := (Job.runs_bind_some _ _ _).1 h
  obtain ⟨v', hungUp, hbooks, howes, hopen⟩ := Messenger.service_books hcall hv hw hc
  cases r₀ with
  | error e =>
    obtain ⟨hr, rfl⟩ := hlast
    exact ⟨v', hungUp, hbooks, howes, Or.inr ⟨_, Option.some.inj hr⟩⟩
  | ok response =>
    rcases hopen with hopen | ⟨e, he⟩
    · have hw' : w' = w₁ := by
        dsimp only at hlast
        split at hlast <;> exact hlast.2
      subst hw'
      exact ⟨v', hungUp, hbooks, howes, Or.inl hopen⟩
    · cases he

/-- A status that has been fetched has cost one request. To be told none is not to fail to dial. -/
theorem fetchStatus_asks {m : Messenger} {r : Except ClientError ServerStatus}
    (h : (fetchStatus m).Runs t w (some r) w') (hv : v.OpenOn c) (hw : w.Free m.session v)
    (hc : w.Has c) :
    (∀ status, r = .ok status → m.Asked (Service.generic "GetStatus") [] c v w w') ∧
      ∀ e, r = .error e → e.isDial = false := by
  obtain ⟨r₀, w₁, hcall, hlast⟩ := (Job.runs_bind_some _ _ _).1 h
  obtain ⟨hasked, hfails⟩ := Messenger.service_asks hcall hv hw hc
  cases r₀ with
  | error e =>
    obtain ⟨hr, -⟩ := hlast
    cases hr
    constructor
    · rintro _ ⟨⟩
    · rintro _ ⟨⟩
      rw [ClientError.isDial_session]
      exact hfails e rfl
  | ok response =>
    obtain ⟨rfl, hserver⟩ : w' = w₁ ∧ ∀ e, r = .error e → e.isDial = false := by
      dsimp only at hlast
      split at hlast <;>
      · obtain ⟨hr, hw'⟩ := hlast
        cases hr
        exact ⟨hw', by rintro _ ⟨⟩ <;> rfl⟩
    exact ⟨fun _ _ => hasked response rfl, hserver⟩

/-- The ways in which connecting to a host comes to an end. -/
inductive Connects (t : ThreadId) (endpoint : Endpoint) (timeoutMillis : UInt32) (w : World) :
    Except ClientError Host → World → Prop
  | unopened {w₁ : World} {e : SessionError}
      (opens : (Session.connect endpoint (Session.pingProbe endpoint timeoutMillis)).Runs t w
        (some (.error e)) w₁) : Connects t endpoint timeoutMillis w (.error (.session e)) w₁
  | unreported {w₁ w₂ w₃ w₄ : World} {s : SessionId} {e : ClientError}
      {closed : Except SessionError Unit}
      (opens : (Session.connect endpoint (Session.pingProbe endpoint timeoutMillis)).Runs t w
        (some (.ok s)) w₁)
      (fetches : (fetchStatus { session := s, endpoint, timeoutMillis }).Runs t w₁
        (some (.error e)) w₂)
      (closes : (Session.close s).Runs t w₂ (some closed) w₃)
      (ends : ∀ s c, w₃.Passes s c {} w₄) : Connects t endpoint timeoutMillis w (.error e) w₄
  | reported {w₁ w₂ w₃ : World} {s : SessionId} {status : ServerStatus}
      (opens : (Session.connect endpoint (Session.pingProbe endpoint timeoutMillis)).Runs t w
        (some (.ok s)) w₁)
      (fetches : (fetchStatus { session := s, endpoint, timeoutMillis }).Runs t w₁
        (some (.ok status)) w₂)
      (ends : ∀ s c, w₂.Passes s c {} w₃) :
      Connects t endpoint timeoutMillis w
        (.ok { messenger := { session := s, endpoint, timeoutMillis }, status }) w₃

theorem connect_cases {endpoint : Endpoint} {timeoutMillis : UInt32} {r : Except ClientError Host}
    (h : (connect endpoint timeoutMillis).Runs t w (some r) w') :
    Connects t endpoint timeoutMillis w r w' := by
  obtain ⟨opened, w₁, hopens, h⟩ := (Job.runs_bind_some _ _ _).1 h
  cases opened with
  | error e =>
    obtain ⟨hr, rfl⟩ := h
    cases hr
    exact .unopened hopens
  | ok s =>
    obtain ⟨fetched, w₂, hfetches, h⟩ := (Job.runs_bind_some _ _ _).1 h
    cases fetched with
    | error e =>
      obtain ⟨rfl, closed, w₃, hclose, hends⟩ :=
        Session.close_runs_then (b := .error e) h rfl fun e => ⟨_, rfl⟩
      exact .unreported hopens hfetches hclose hends
    | ok status =>
      obtain ⟨_, w₃, hlog, hr, rfl⟩ := (Job.runs_ask_bind_some (.log _) _ _).1 h
      cases hr
      exact .reported hopens hfetches fun _ _ => hlog.plain rfl

/-- What connecting to a host has come to: a host whose session is open on the one connection that
was opened, or an error, and then nothing is left open. -/
def Connected (endpoint : Endpoint) (timeoutMillis : UInt32) (w : World) :
    Except ClientError Host → World → Prop
  | .ok host => fun w' => ∃ c v, w.Books [endpoint] [c] [] w' ∧ v.OpenOn c ∧
      w'.Free host.session v ∧ w'.Has c ∧
      host.messenger = { session := host.session, endpoint, timeoutMillis }
  | .error _ => fun w' => ∃ opened, w.Books [endpoint] opened opened w'

theorem connect_runs {endpoint : Endpoint} {timeoutMillis : UInt32} {r : Except ClientError Host}
    (h : (connect endpoint timeoutMillis).Runs t w (some r) w') :
    Connected endpoint timeoutMillis w r w' := by
  cases connect_cases h with
  | unopened opens => exact Session.connect_runs opens
  | unreported opens fetches closes ends =>
    obtain ⟨c, v, hbooks, hv, hfree, hc⟩ := Session.connect_runs opens
    obtain ⟨v', hungUp, hpaid, howes, -⟩ := fetchStatus_books fetches hv hfree hc
    have hall := ((hbooks.trans hpaid).trans (Session.close_books closes howes.free)).andThen
      (ends 0 0).spans.books
    simp only [List.append_nil, List.nil_append, howes.balance] at hall
    exact ⟨[c], hall⟩
  | reported opens fetches ends =>
    obtain ⟨c, v, hbooks, hv, hfree, hc⟩ := Session.connect_runs opens
    obtain ⟨v', hungUp, hpaid, howes, hopen | ⟨e, he⟩⟩ := fetchStatus_books fetches hv hfree hc
    · obtain rfl := howes.hungUp_eq_nil hopen
      exact ⟨c, v', (hbooks.trans hpaid).andThen (ends 0 0).spans.books, hopen,
        howes.free.shares (ends 0 0).shares, (ends 0 0).spans.has howes.has, rfl⟩
    · cases he

theorem Connected.dials {endpoint : Endpoint} {timeoutMillis : UInt32}
    {r : Except ClientError Host} (h : Connected endpoint timeoutMillis w r w') :
    ∃ opened hungUp, w.Books [endpoint] opened hungUp w' := by
  cases r with
  | error e =>
    obtain ⟨opened, hbooks⟩ := h
    exact ⟨opened, opened, hbooks⟩
  | ok host =>
    obtain ⟨c, _, hbooks, -⟩ := h
    exact ⟨[c], [], hbooks⟩

end Host
end ClusterProbe
