import ClusterProbe.Proofs.Cluster.Usability
import ClusterProbe.Proofs.Session.Integrity

/-!
# Attempts to connect

Connecting to a host dials once, and what the dial comes to decides how a failure is classified
(`Host.Attempt`): a failure to dial is reported as one, and then there never was a connection;
whatever fails after the dial is reported as something else, and the connection is gone. A host that
comes of an attempt has been asked for a sign of life and for its status, and for nothing else.
-/
namespace ClusterProbe

open Shared

variable {t : ThreadId} {s : SessionId} {c : ConnectionId} {w w' w'' : World}
  {endpoint : Endpoint} {timeoutMillis : UInt32}

/-! ## What dials come to -/

/-- The endpoint that was dialed, with what the dialer made of it. -/
def Event.dial? : Event → Option (Endpoint × Except SessionError ConnectionId)
  | answered _ (.dial endpoint) r => some (endpoint, r)
  | _ => none

theorem Event.dialed_eq (ev : Event) : ev.dialed = ev.dial?.map Prod.fst := by
  cases ev with
  | answered t e r => cases e <;> rfl
  | _ => rfl

theorem Event.opened_eq (ev : Event) : ev.opened = ev.dial?.bind (·.2.toOption) := by
  cases ev with
  | answered t e r =>
    cases e with
    | dial endpoint => cases r <;> rfl
    | _ => rfl
  | _ => rfl

namespace Chronicle

variable (g h : Chronicle)

def dials : List (Endpoint × Except SessionError ConnectionId) := h.filterMap Event.dial?

theorem dials_append : dials (g ++ h) = dials g ++ dials h := List.filterMap_append

theorem dialed_eq : h.dialed = h.dials.map Prod.fst := by
  rw [dials, List.map_filterMap, dialed]
  simp only [← Event.dialed_eq]

theorem opened_eq : h.opened = h.dials.filterMap (·.2.toOption) := by
  rw [dials, List.filterMap_filterMap, opened]
  simp only [← Event.opened_eq]

variable {g h}

theorem dials_eq_nil (hdialed : h.dialed = []) : h.dials = [] := by
  rw [dialed_eq] at hdialed
  exact List.map_eq_nil_iff.1 hdialed

end Chronicle

namespace World

/-- From `w` to `w'` there were these dials. -/
def Dials (w : World) (dials : List (Endpoint × Except SessionError ConnectionId)) (w' : World) :
    Prop :=
  ∃ news, w'.past = w.past ++ news ∧ news.dials = dials

theorem Dials.trans {ds ds' : List (Endpoint × Except SessionError ConnectionId)}
    (h : w.Dials ds w') (h' : w'.Dials ds' w'') : w.Dials (ds ++ ds') w'' := by
  obtain ⟨g, hg, rfl⟩ := h
  obtain ⟨g', hg', rfl⟩ := h'
  exact ⟨g ++ g', by rw [hg', hg, List.append_assoc], Chronicle.dials_append g g'⟩

theorem Books.dials {opened hungUp : List ConnectionId} (h : w.Books [] opened hungUp w') :
    w.Dials [] w' := by
  obtain ⟨⟨g, hg, hdialed, -, -⟩, -⟩ := h
  exact ⟨g, hg, Chronicle.dials_eq_nil hdialed⟩

theorem Spans.dials {a : Account} (h : w.Spans s c a w') (ha : a.dialed = []) : w.Dials [] w' := by
  obtain ⟨⟨g, hg, rfl⟩, -⟩ := h
  exact ⟨g, hg, Chronicle.dials_eq_nil ha⟩

theorem Settles.dials {r : Except SessionError ConnectionId}
    (h : w.Settles t (.dial endpoint) r w') : w.Dials [(endpoint, r)] w' := by
  obtain ⟨g, g', hg, hidle, hidle'⟩ := h.past
  have hquiet {g : Chronicle} (hg : ∀ ev ∈ g, ev.Idle (.dial endpoint)) : g.dials = [] :=
    Chronicle.dials_eq_nil (List.filterMap_eq_nil_iff.2 fun ev hev => (hg ev hev).dialed)
  refine ⟨g ++ .answered t (.dial endpoint) r :: g', hg, ?_⟩
  rw [Chronicle.dials_append, hquiet hidle, List.nil_append]
  exact congrArg (_ :: ·) (hquiet hidle')

end World

/-! ## How failures are classified -/

theorem Session.Opens.dials (h : Session.Opens t endpoint s c w w') :
    w.Dials [(endpoint, .ok c)] w' := by
  cases h with
  | intro starts dials greets opens =>
    obtain ⟨sent, hsent, -⟩ := Stream.sendHello_runs (s := 0) greets
    have hdialed := ((starts 0 0).spans.dials rfl).trans dials.dials
    exact (hdialed.trans (hsent.spans.dials rfl)).trans
      ((opens.spans_unbooked (s := 0) (c := 0) nofun rfl).dials rfl)

/-- Connecting dials once. It fails with the failure of the dial, or like no dial. -/
theorem Session.connect_dials {r : Except SessionError SessionId}
    (h : (connect endpoint (pingProbe endpoint timeoutMillis)).Runs t w (some r) w') :
    ∃ dialed, w.Dials [(endpoint, dialed)] w' ∧ (∀ e, dialed = .error e → r = .error e) ∧
      ∀ c, dialed = .ok c → ∀ e, r = .error e → e.isDial = false := by
  cases connect_cases h with
  | undialed starts dials =>
    refine ⟨_, ((starts 0 0).spans.dials rfl).trans dials.dials, fun e he => he ▸ rfl, ?_⟩
    rintro c ⟨⟩
  | ungreeted starts dials greets hangsUp =>
    obtain ⟨sent, hsent, -, hfails⟩ := Stream.sendHello_runs (s := 0) greets
    have hdialed := ((starts 0 0).spans.dials rfl).trans dials.dials
    have hhangs := (hangsUp.spans (s := 0) (c := 0) nofun).dials rfl
    refine ⟨_, (hdialed.trans (hsent.spans.dials rfl)).trans hhangs, ?_, ?_⟩
    · rintro e ⟨⟩
    · rintro c _ e ⟨⟩
      exact hfails _ rfl
  | untried opens tries fails closes ends =>
    obtain ⟨v, hungUp, hpaid, howes, -⟩ := pingProbe_books tries ⟨rfl, rfl⟩ opens.free opens.has
    have hclosed := close_books closes (howes.free.shares (fails 0 0).shares)
    have hfailed := (opens.dials.trans hpaid.dials).trans ((fails 0 0).spans.dials rfl)
    refine ⟨_, (hfailed.trans hclosed.dials).trans ((ends 0 0).spans.dials rfl), ?_, ?_⟩
    · rintro e ⟨⟩
    · rintro c _ e ⟨⟩
      rfl
  | tried opens tries ends =>
    obtain ⟨v, hungUp, hpaid, -⟩ := pingProbe_books tries ⟨rfl, rfl⟩ opens.free opens.has
    refine ⟨_, (opens.dials.trans hpaid.dials).trans ((ends 0 0).spans.dials rfl), ?_, ?_⟩
    · rintro e ⟨⟩
    · rintro c _ e ⟨⟩

namespace Host

theorem connect_dials {r : Except ClientError Host}
    (h : (connect endpoint timeoutMillis).Runs t w (some r) w') :
    ∃ dialed, w.Dials [(endpoint, dialed)] w' ∧
      (∀ e, dialed = .error e → r = .error (.session e)) ∧
      ∀ c, dialed = .ok c → ∀ e, r = .error e → e.isDial = false := by
  cases connect_cases h with
  | @unopened w₁ e opens =>
    obtain ⟨dialed, hdials, hfails, hlater⟩ := Session.connect_dials opens
    refine ⟨dialed, hdials, fun e he => ?_, fun c hc e he => ?_⟩
    · cases hfails e he
      rfl
    · cases he
      rw [ClientError.isDial_session]
      exact hlater c hc _ rfl
  | @unreported w₁ w₂ w₃ w₄ s e closed opens fetches closes ends =>
    obtain ⟨dialed, hdials, hfails, -⟩ := Session.connect_dials opens
    obtain ⟨c, v, -, hv, hfree, hc⟩ := Session.connect_runs opens
    obtain ⟨v', hungUp, hpaid, howes, -⟩ := fetchStatus_books fetches hv hfree hc
    have hclosed := Session.close_books closes howes.free
    refine ⟨dialed, ((hdials.trans hpaid.dials).trans hclosed.dials).trans
      ((ends 0 0).spans.dials rfl), fun e he => ?_, fun c' _ e he => ?_⟩
    · cases hfails e he
    · cases he
      exact (fetchStatus_asks fetches hv hfree hc).2 _ rfl
  | @reported w₁ w₂ w₃ s status opens fetches ends =>
    obtain ⟨dialed, hdials, hfails, -⟩ := Session.connect_dials opens
    obtain ⟨c, v, -, hv, hfree, hc⟩ := Session.connect_runs opens
    obtain ⟨v', hungUp, hpaid, -⟩ := fetchStatus_books fetches hv hfree hc
    refine ⟨dialed, (hdials.trans hpaid.dials).trans ((ends 0 0).spans.dials rfl), fun e he => ?_,
      fun c' _ e he => ?_⟩
    · cases hfails e he
    · cases he

end Host

/-! ## What a host starts with -/

/-- The next call that is started on a session in step gets the next number, if there is one. -/
theorem Session.begin_answers {v : Session} (hv : v.OpenOn c) (hfree : w.Free s v)
    (hroom : v.lastCallId < Int32.maxValue) (r : Except SessionError Int32) :
    (∃ w', (begin s).Runs t w (some r) w') ↔ r = .ok (v.lastCallId + 1) := by
  constructor
  · rintro ⟨w', hrun⟩
    rcases guarded_runs (c := 0) hrun hfree with ⟨hnone, -⟩ | ⟨w₁, o₁, w₂, -, -, hbody, -, ho, -⟩
    · cases hnone
    · rw [ho r rfl, hv.beginCall, if_pos hroom, bind_assoc] at hbody
      obtain ⟨_, w₃, -, hr, -⟩ := (Job.runs_ask_bind_some (.store s v.begun) _ _).1 hbody
      exact Option.some.inj hr
  · rintro rfl
    have hspent : ¬ v.Spent := by
      rintro (hclosed | hlast)
      · rw [hv.isClosed] at hclosed
        cases hclosed
      · rw [hlast] at hroom
        exact absurd hroom (by decide)
    obtain ⟨w', hrun, -⟩ := exists_begin (t := t) hfree hspent
    exact ⟨w', hrun⟩

/-- The request for the status of a new host. -/
def RequestFrame.getStatus (timeoutMillis : UInt32) : RequestFrame :=
  .forMethod 2 (Service.generic "GetStatus") timeoutMillis []

namespace Host

variable {host : Host} {news : Chronicle}

/-- A host has just come of an attempt. Its session is open and in step on connection `c`, which has
carried the greeting and the first two requests, and its next call is the third. -/
structure Ready (endpoint : Endpoint) (timeoutMillis : UInt32) (host : Host) (c : ConnectionId)
    (news : Chronicle) (w : World) : Prop where
  messenger : host.messenger = { session := host.session, endpoint, timeoutMillis }
  inStep : ∃ v, w.Free host.session v ∧ v.OpenOn c
  sent : news.sent c =
    Frame.hello ++ Frame.requests [.ping timeoutMillis, .getStatus timeoutMillis]
  begins : ∀ t r, (∃ w', (Session.begin host.session).Runs t w (some r) w') ↔ r = .ok 3
  calls : ∀ t method body answer w',
    (host.messenger.call method body).Runs t w (some (.ok answer)) w' →
      w'.past.sent c =
        w.past.sent c ++ Frame.segment 0 (host.messenger.request method body 3).encode

theorem connect_ready (h : (connect endpoint timeoutMillis).Runs t w (some (.ok host)) w')
    (hnews : w'.past = w.past ++ news) :
    ∃ c, w.Books [endpoint] [c] [] w' ∧ Ready endpoint timeoutMillis host c news w' := by
  obtain ⟨c, v, hbooks, hv, hfree, hc, hmessenger⟩ := connect_runs h
  cases connect_cases h with
  | @reported w₁ w₂ w₃ s status opens fetches ends =>
    obtain ⟨c₁, v₁, hgreeted⟩ := Session.connect_greets (.ping endpoint timeoutMillis) opens
    obtain ⟨c₂, v₂, -, hv₂, hfree₂, hc₂⟩ := Session.connect_runs opens
    cases hgreeted.free.symm.trans hfree₂
    cases hgreeted.inStep.stream.symm.trans hv₂.stream
    obtain ⟨⟨taken, stored, hasked⟩, hafter⟩ :=
      (fetchStatus_asks fetches hgreeted.inStep hgreeted.free hc₂).1 status rfl
    cases (hafter.shares (ends 0 0).shares).symm.trans hfree
    cases hgreeted.inStep.finish.stream.symm.trans hv.stream
    have hfirst : v₁.lastCallId = 1 := Int32.toInt_inj.1 hgreeted.count
    have hsecond : v₁.begun.finish.lastCallId = 2 := by
      change v₁.lastCallId + 1 = 2
      rw [hfirst]
      rfl
    refine ⟨_, hbooks, hmessenger, ⟨_, hfree, hv⟩, ?_, ?_, ?_⟩
    · have hsent := (hasked.trans (ends s c).spans).sent
      rw [hgreeted.sent, hnews, Chronicle.sent_append, List.append_assoc, hfirst] at hsent
      rw [List.append_cancel_left hsent]
      simp [Frame.requests, Messenger.request, RequestFrame.getStatus]
    · intro t r
      rw [Session.begin_answers hv hfree (by rw [hsecond]; decide), hsecond]
      rfl
    · intro t method body answer w'' hcall
      obtain ⟨⟨taken, stored, hthird⟩, -⟩ := Messenger.call_asked hcall hv hfree hc
      rw [hsecond] at hthird
      exact hthird.sent

/-- What an attempt has come to, given what the dialer made of the dial. -/
inductive Attempt (endpoint : Endpoint) (timeoutMillis : UInt32) (news : Chronicle) (w : World) :
    Except SessionError ConnectionId → Except ClientError Host → Prop
  /-- There never was a connection. -/
  | unreachable {e : SessionError} (isDial : (ClientError.session e).isDial = true)
      (opened : news.opened = []) :
      Attempt endpoint timeoutMillis news w (.error e) (.error (.session e))
  /-- The connection has been shut down. -/
  | dropped {c : ConnectionId} {e : ClientError} (notDial : e.isDial = false)
      (opened : news.opened = [c]) (hungUp : news.hungUp = [c]) :
      Attempt endpoint timeoutMillis news w (.ok c) (.error e)
  | connected {c : ConnectionId} {host : Host} (opened : news.opened = [c])
      (hungUp : news.hungUp = []) (ready : Ready endpoint timeoutMillis host c news w) :
      Attempt endpoint timeoutMillis news w (.ok c) (.ok host)

theorem Attempt.isDial_iff {dialed : Except SessionError ConnectionId} {r : Except ClientError Host}
    (h : Attempt endpoint timeoutMillis news w dialed r) :
    (∃ e, r = .error e ∧ e.isDial = true) ↔ ∃ e, dialed = .error e := by
  cases h with
  | unreachable isDial opened => exact ⟨fun _ => ⟨_, rfl⟩, fun _ => ⟨_, rfl, isDial⟩⟩
  | dropped notDial opened hungUp =>
    constructor
    · rintro ⟨e, ⟨⟩, he⟩
      rw [notDial] at he
      cases he
    · rintro ⟨e, ⟨⟩⟩
  | connected opened hungUp ready =>
    constructor
    · rintro ⟨e, ⟨⟩, -⟩
    · rintro ⟨e, ⟨⟩⟩

/-- **An attempt to connect** dials once, whoever answers and however. With a dialer that reports
its failures as failures to dial, the attempt is reported as one exactly if the dial has failed, and
then there never was a connection. If anything fails later, the connection has been shut down.
Otherwise the host is ready for its third call. -/
theorem connect_classified {r : Except ClientError Host}
    (hrun : (connect endpoint timeoutMillis).Runs t w (some r) w')
    (hnews : w'.past = w.past ++ news)
    (hdialer : ∀ target e, (target, .error e) ∈ news.dials → e.isDial = true) :
    ∃ dialed, news.dials = [(endpoint, dialed)] ∧
      Attempt endpoint timeoutMillis news w' dialed r ∧
        ((∃ e, r = .error e ∧ e.isDial = true) ↔ ∃ e, dialed = .error e) := by
  obtain ⟨dialed, ⟨news', hnews', hdials⟩, hfails, hlater⟩ := connect_dials hrun
  obtain rfl : news' = news := List.append_cancel_left (hnews'.symm.trans hnews)
  have hopened := news'.opened_eq
  rw [hdials] at hopened
  have hattempt : Attempt endpoint timeoutMillis news' w' dialed r := by
    cases dialed with
    | error e =>
      have he : e.isDial = true := hdialer endpoint e (hdials ▸ List.mem_singleton_self _)
      cases hfails e rfl
      exact .unreachable ((ClientError.isDial_session e).trans he) hopened
    | ok c =>
      cases r with
      | error e =>
        obtain ⟨opened, ⟨g, hg, -, hgopened, hhungUp⟩, -⟩ := connect_runs hrun
        obtain rfl : g = news' := List.append_cancel_left (hg.symm.trans hnews)
        cases hgopened.symm.trans hopened
        exact .dropped (hlater c rfl e rfl) hopened hhungUp
      | ok host =>
        obtain ⟨c', ⟨⟨g, hg, -, hgopened, hhungUp⟩, -⟩, hready⟩ := connect_ready hrun hnews
        obtain rfl : g = news' := List.append_cancel_left (hg.symm.trans hnews)
        cases hgopened.symm.trans hopened
        exact .connected hopened hhungUp hready
  exact ⟨dialed, hdials, hattempt, hattempt.isDial_iff⟩

theorem connect_classified_second : ∃ host w',
    (connect ⟨"m2", 7100⟩ 3000).Runs 0 .secondReachable (some (.ok host)) w' ∧
      (∀ target e, (target, .error e) ∈ w'.past.dials → e.isDial = true) ∧
      w'.past.dials = [(⟨"m2", 7100⟩, .ok 0)] ∧ Ready ⟨"m2", 7100⟩ 3000 host 0 w'.past w' := by
  have hplay : (World.secondReachable.play 0 (connect ⟨"m2", 7100⟩ 3000) (leaderAnswers.take 2)).any
      (fun x => x.1.toBool && decide (x.2.past.dials = [(⟨"m2", 7100⟩, .ok 0)])) = true := by
    decide +kernel
  obtain ⟨⟨r, w'⟩, hplay, hchecks⟩ := (Option.any_eq_true _ _).1 hplay
  obtain ⟨hok, hdecided⟩ := Bool.and_eq_true_iff.1 hchecks
  have hdials : w'.past.dials = [(⟨"m2", 7100⟩, .ok 0)] := of_decide_eq_true hdecided
  have hrun := World.runs_of_play hplay
  have hdialer : ∀ target e, (target, .error e) ∈ w'.past.dials → e.isDial = true := by
    intro target e hmem
    rw [hdials] at hmem
    cases List.mem_singleton.1 hmem
  cases r with
  | error e => cases hok
  | ok host =>
    obtain ⟨dialed, hdialed, hattempt, -⟩ :=
      connect_classified hrun (List.nil_append _).symm hdialer
    cases hdialed.symm.trans hdials
    cases hattempt with
    | connected opened hungUp ready => exact ⟨host, w', hrun, hdialer, hdials, ready⟩

end Host
end ClusterProbe
