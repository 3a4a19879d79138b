import ClusterProbe.Proofs.Cluster.Connecting
import ClusterProbe.Proofs.Session.Requests

/-!
# The integrity of the stream of requests

A new session greets its peer and may try it out with one request. From then on its threads keep the
stream in order, in whatever order they call, fail and are given up; and once a request has been cut
short the stream is sealed, because nobody who takes the session can begin another one.
-/
namespace ClusterProbe

open Trade Shared Protobuf

variable {t : ThreadId} {s : SessionId} {c : ConnectionId} {w w' : World} {v : Session}

/-! ## What a new session has sent -/

/-- The request that tries out a new session. -/
def RequestFrame.ping (timeoutMillis : UInt32) : RequestFrame :=
  .forMethod 1 (Service.generic "Ping") timeoutMillis []

theorem RequestFrame.length_ping_lt (timeoutMillis : UInt32) :
    (ping timeoutMillis).encode.length < 2 ^ 32 := by
  let front : Bytes := Message.encode
    ({ callId := 1, remoteMethod := some (Service.generic "Ping"), timeoutMillis := none } :
      RequestHeader)
  have hfront : front.length ≤ 100 := by decide +kernel
  have hkey : (Key.encode ⟨3, .varint⟩).length = 1 := by decide +kernel
  have htimeout := length_encodeVarint_le 9 timeoutMillis.toNat
    (timeoutMillis.toNat_lt.trans (by decide))
  have hheader : Message.encode (ping timeoutMillis).header =
      front ++ (Key.encode ⟨3, .varint⟩ ++ encodeVarint timeoutMillis.toNat) := by
    simp [Message.encode, Message.layout, Message.fields, Layout.encode, Label.occurrences,
      Scalar.encode, Scalar.wireType, front, ping, forMethod]
  have hlength : (Message.encode (ping timeoutMillis).header).length ≤ 111 := by
    rw [hheader, List.length_append, List.length_append]
    omega
  have hsections : (ping timeoutMillis).encode.length =
      (delimited (Message.encode (ping timeoutMillis).header)).length + (delimited []).length :=
    List.length_append
  have hbody : (delimited []).length ≤ 10 := length_delimited_le [] (by decide)
  have hfirst := length_delimited_le (Message.encode (ping timeoutMillis).header) (by omega)
  omega

/-- Its length can be announced in four bytes, and it is read back as it was written. -/
def RequestFrame.Readable (f : RequestFrame) : Prop :=
  f.encode.length < 2 ^ 32 ∧ decode f.encode = .ok f

theorem RequestFrame.forMethod_readable {callId : Int32} {method : RemoteMethod}
    {timeoutMillis : UInt32} {body : Bytes}
    (h : (forMethod callId method timeoutMillis body).encode.length < 2 ^ 32) :
    (forMethod callId method timeoutMillis body).Readable := by
  have hread := forMethod_decode_encode callId method timeoutMillis body []
    (h.trans (by decide))
  rw [List.append_nil] at hread
  exact ⟨h, hread⟩

namespace Session

/-- A trial of a new session, and the requests that it sends. -/
inductive Trial : Probe → List RequestFrame → Prop
  | none : Trial noProbe []
  | ping (endpoint : Endpoint) (timeoutMillis : UInt32) :
      Trial (pingProbe endpoint timeoutMillis) [.ping timeoutMillis]

theorem pingProbe_asks {endpoint : Endpoint} {timeoutMillis : UInt32}
    (h : (pingProbe endpoint timeoutMillis s).Runs t w (some (.ok ())) w') (hv : v.OpenOn c)
    (hw : w.Free s v) (hc : w.Has c) :
    Messenger.Asked { session := s, endpoint, timeoutMillis } (Service.generic "Ping") [] c v w
      w' := by
  obtain ⟨pinged, w₁, hping, hr, rfl⟩ := (Job.runs_bind_some _ _ _).1 h
  cases pinged with
  | error e => cases hr
  | ok response => exact (Messenger.service_asks hping hv hw hc).1 response rfl

/-- Connection `c` has been opened for session `s`, which is open and in step on it, and nothing but
the greeting and these requests was sent. -/
structure Greeted (s : SessionId) (c : ConnectionId) (pings : List RequestFrame) (w w' : World)
    (v : Session) : Prop where
  opened : w'.past.opened = w.past.opened ++ [c]
  sent : w'.past.sent c = w.past.sent c ++ (Frame.hello ++ Frame.requests pings)
  free : w'.Free s v
  inStep : v.OpenOn c
  count : v.lastCallId.toInt = pings.length
  numbered : RequestFrame.Numbered pings
  readable : ∀ f ∈ pings, f.Readable

theorem connect_greets {endpoint : Endpoint} {probe : Probe} {pings : List RequestFrame}
    (htrial : Trial probe pings) (h : (connect endpoint probe).Runs t w (some (.ok s)) w') :
    ∃ c v, Greeted s c pings w w' v := by
  cases connect_cases h with
  | @tried w₁ w₂ w₃ c s opens tries ends =>
    cases htrial with
    | none =>
      obtain ⟨-, rfl⟩ := tries
      have hall := opens.spans.trans (ends s c).spans
      exact ⟨c, _, hall.opened, hall.sent, opens.free.shares (ends s c).shares, ⟨rfl, rfl⟩, rfl,
        nofun, nofun⟩
    | ping target timeoutMillis =>
      obtain ⟨⟨taken, stored, hpinged⟩, hfree⟩ :=
        pingProbe_asks tries ⟨rfl, rfl⟩ opens.free opens.has
      have hall := (opens.spans.trans hpinged).trans (ends s c).spans
      refine ⟨c, _, hall.opened, hall.sent.trans ?_, hfree.shares (ends s c).shares, ⟨rfl, rfl⟩,
        rfl, ?_, ?_⟩
      · simp [Frame.requests]
        rfl
      · intro k f hf
        rw [List.getElem?_singleton] at hf
        split at hf
        · rename_i hk
          cases hf
          subst hk
          rfl
        · cases hf
      · intro f hf
        rw [List.mem_singleton.1 hf]
        exact RequestFrame.forMethod_readable (RequestFrame.length_ping_lt timeoutMillis)

/-! ## A stream that is sealed -/

variable {Q : (uses s).Posts Phase} {a : Use} {phase : Phase} {sent : Bytes}

/-- The session can carry no more calls and nobody is writing. -/
structure Sealed (c : ConnectionId) (sent : Bytes) (Q : (uses s).Posts Phase) (w : World) :
    Prop where
  closed : w.bed.Closed s
  custody : Q.Custody Phase.held s w.bed
  idle : ∀ t a u f rest, Q t ≠ some (a, .asking u f rest)
  unsent : w.past.sent c = sent

theorem Sealed.moved {phase' : Phase} (h : Sealed c sent Q w)
    (hasking : ∀ u f rest, phase' ≠ .asking u f rest)
    (hcustody : Posts.Custody Phase.held s (Function.update Q t (some (a, phase'))) w'.bed)
    (hclosed : w'.bed.Closed s) (hsent : w'.past.sent c = w.past.sent c) :
    Sealed c sent (Function.update Q t (some (a, phase'))) w' where
  closed := hclosed
  custody := hcustody
  idle t' a' u f rest ht' := by
    rcases Posts.of_update ht' with ⟨-, -, heq⟩ | ⟨-, ht'⟩
    · exact hasking u f rest heq.symm
    · exact h.idle t' a' u f rest ht'
  unsent := hsent.trans h.unsent

/-- Who holds a closed session, and is not writing already, may not begin, and leaves it closed. -/
theorem Phase.not_begins {e : Effect} (hallows : phase.Allows s a e)
    (hidle : ∀ u f rest, phase ≠ .asking u f rest)
    (hheld : ∀ u, phase.held = some u → u.isClosed = true) (hv : v.isClosed = true)
    (t : ThreadId) (r : e.Response) (c : ConnectionId) :
    (∀ u f rest, phase.after a e r ≠ .asking u f rest) ∧ (e.recorded s v).isClosed = true ∧
      (Event.answered t e r).sent c = [] := by
  by_cases hsilent : e.isSilent = true
  · rw [after_silent hsilent, recorded_of_untouching (Effect.isSilent_untouching hsilent)]
    exact ⟨hidle, hv, sent_of_silent hsilent r⟩
  cases phase with
  | asking u f rest => exact absurd rfl (hidle u f rest)
  | gone => exact absurd hallows hsilent
  | fresh =>
    cases e with
    | acquire s' => exact ⟨by rintro _ _ _ ⟨⟩, hv, rfl⟩
    | _ => exact absurd hallows hsilent
  | took u =>
    cases e with
    | store s' v' =>
      obtain ⟨rfl, hclosed | ⟨c', request, hopen, -⟩⟩ := hallows
      · rw [after_took_store hclosed, Effect.recorded, if_pos rfl]
        exact ⟨by rintro _ _ _ ⟨⟩, isClosed_of_stream hclosed, rfl⟩
      · have hu := hheld u rfl
        rw [hopen.isClosed] at hu
        cases hu
    | release s' => exact ⟨by rintro _ _ _ ⟨⟩, hv, rfl⟩
    | _ => exact absurd hallows hsilent
  | stuck u =>
    cases e with
    | store s' v' =>
      obtain ⟨rfl, hclosed⟩ := hallows
      rw [Effect.recorded, if_pos rfl]
      exact ⟨by rintro _ _ _ ⟨⟩, isClosed_of_stream hclosed, rfl⟩
    | release s' => exact ⟨by rintro _ _ _ ⟨⟩, hv, rfl⟩
    | _ => exact absurd hallows hsilent
  | settled u =>
    cases e with
    | release s' => exact ⟨by rintro _ _ _ ⟨⟩, hv, rfl⟩
    | _ => exact absurd hallows hsilent

/-- Nothing is written any more on a stream that is sealed, whatever the crew does. -/
theorem sealed_keeps (s : SessionId) (c : ConnectionId) (sent : Bytes) :
    (conduct s).Keeps (Sealed c sent) where
  starts := by
    rintro Q w t a h hvacant
    exact h.moved nofun (h.custody.release (.refl t _) rfl) h.closed rfl
  answered := by
    rintro Q w t a phase e r w' h hpost hallows hanswers
    obtain ⟨v, hv, hclosed⟩ := h.closed
    have hhandles := Phase.handles hallows r
    have hheld (u : Session) (hu : phase.held = some u) : u.isClosed = true := by
      obtain rfl := h.custody.eq_of_held hpost hv hu
      exact hclosed
    have hidle (u : Session) (f : RequestFrame) (rest : Bytes) : phase ≠ .asking u f rest := by
      rintro rfl
      exact h.idle t a u f rest hpost
    obtain ⟨hasking, hrecorded, hsent⟩ := Phase.not_begins hallows hidle hheld hclosed t r c
    refine h.moved hasking (h.custody.answered hpost hanswers hhandles)
      ⟨_, hanswers.value hhandles hv, hrecorded⟩ ?_
    rw [hanswers.sent c, hsent, List.append_nil]
  stalled := by
    rintro Q w t a phase e w' h hpost hallows hstalls
    have hwaits : World.Waits t e w w' := .stalls .refl hstalls
    exact ⟨h.closed.jostles hstalls.jostles.1, h.custody.stalled hstalls, h.idle,
      (hwaits.sent c).trans h.unsent⟩
  finished := by
    rintro Q w t a phase result h hpost hends
    exact ⟨h.closed, h.custody, h.idle, h.unsent⟩
  cancelled := by
    rintro Q w t a phase h hpost
    exact h.moved nofun (h.custody.release (w.cancel_jostles t) rfl)
      (h.closed.jostles (w.cancel_jostles t)) rfl
  moves := by
    rintro Q w w' h hmoves
    have hwaits : World.Waits 0 .clock w w' := .moves .refl hmoves
    have hsessions := hmoves.shares.sessions
    exact ⟨h.closed.of_eq hsessions, h.custody.of_eq hsessions, h.idle,
      (hwaits.sent c).trans h.unsent⟩

/-! ## Writes that fail -/

/-- A write of thread `t` on connection `c` has failed. -/
def Chronicle.HasFailed (c : ConnectionId) (t : ThreadId) (h : Chronicle) : Prop :=
  ∃ bytes error, .answered t (.write c bytes) (.error error) ∈ h

/-- Whose write has failed since world `w₀` does not write any more. -/
def Resigned (c : ConnectionId) (w₀ : World) (Q : (uses s).Posts Phase) (w : World) : Prop :=
  ∃ news, w.past = w₀.past ++ news ∧ ∀ t, Chronicle.HasFailed c t news →
    ∃ a phase, Q t = some (a, phase) ∧ 3 ≤ phase.rank

theorem Resigned.idle {w₀ : World} {e : Effect} {g : Chronicle} (h : Resigned c w₀ Q w)
    (hpast : w'.past = w.past ++ g) (hg : ∀ ev ∈ g, ev.Idle e) : Resigned c w₀ Q w' := by
  obtain ⟨news, hnews, hfailed⟩ := h
  refine ⟨news ++ g, by rw [hpast, hnews, List.append_assoc], ?_⟩
  rintro t ⟨bytes, error, hmem⟩
  rcases List.mem_append.1 hmem with hmem | hmem
  · exact hfailed t ⟨bytes, error, hmem⟩
  · exact (hg _ hmem).elim

theorem Resigned.update {w₀ : World} {phase' : Phase} (h : Resigned c w₀ Q w)
    (hpost : Q t = none ∨ ∃ phase, Q t = some (a, phase) ∧ phase.rank ≤ phase'.rank) :
    Resigned c w₀ (Function.update Q t (some (a, phase'))) w := by
  obtain ⟨news, hnews, hfailed⟩ := h
  refine ⟨news, hnews, fun t' ht' => ?_⟩
  obtain ⟨a', phase₀, hpost', hrank⟩ := hfailed t' ht'
  obtain ⟨phase₁, hposted, hle⟩ := Posts.exists_update (R := fun p q => p.rank ≤ q.rank)
    (fun _ => Nat.le_refl _) hpost hpost'
  exact ⟨a', phase₁, hposted, hrank.trans hle⟩

theorem resigned_keeps (s : SessionId) (c : ConnectionId) (w₀ : World) :
    (conduct s).Keeps (Resigned c w₀) where
  starts := by
    rintro Q w t a h hvacant
    exact h.update (.inl hvacant)
  answered := by
    rintro Q w t a phase e r w' h hpost hallows hanswers
    obtain ⟨g, g', hpast, hidle, hidle'⟩ := World.Settles.past ⟨w, .refl, hanswers⟩
    obtain ⟨news, hnews, hfailed⟩ : Resigned c w₀
        (Function.update Q t (some (a, phase.after a e r))) w :=
      h.update (.inr ⟨phase, hpost, Phase.rank_le_after hallows r⟩)
    refine ⟨news ++ (g ++ .answered t e r :: g'), by rw [hpast, hnews, List.append_assoc], ?_⟩
    rintro t' ⟨bytes, error, hmem⟩
    rcases List.mem_append.1 hmem with hmem | hmem
    · exact hfailed t' ⟨bytes, error, hmem⟩
    · rcases List.mem_append.1 hmem with hmem | hmem
      · exact (hidle _ hmem).elim
      · rcases List.mem_cons.1 hmem with heq | hmem
        · cases heq
          refine ⟨a, _, Function.update_self .., ?_⟩
          cases phase with
          | asking u f rest => exact Nat.le_refl 3
          | _ => cases hallows
        · exact (hidle' _ hmem).elim
  stalled := by
    rintro Q w t a phase e w' h hpost hallows hstalls
    obtain ⟨g, hpast, hidle⟩ := World.Waits.past (.stalls .refl hstalls)
    exact h.idle hpast hidle
  finished := by
    rintro Q w t a phase result h hpost hends
    exact h
  cancelled := by
    rintro Q w t a phase h hpost
    exact h.update (.inr ⟨phase, hpost, phase.rank_le_gone⟩)
  moves := by
    rintro Q w w' h hmoves
    obtain ⟨g, hpast, hidle⟩ := World.Waits.past (t := 0) (e := .clock) (.moves .refl hmoves)
    exact h.idle hpast hidle

/-! ## Every crew -/

variable {σ σ' : (uses s).Crew} {pings : List RequestFrame}
  {calls : List Asked} {draft : Option Draft}

/-- It is the request that its author was sent to make, under the number it got. -/
def Asked.In (x : Asked) (σ : (uses s).Crew) : Prop :=
  ∃ m method body progress, σ.workers[x.author]? = some ⟨.call m method body, progress⟩ ∧
    x.request = m.request method body x.request.header.callId

/-- Its author has come to an end or was given up, or has failed to write since. -/
def Asked.GivenUp (x : Asked) (c : ConnectionId) (news : Chronicle) (σ : (uses s).Crew) : Prop :=
  (∀ a job, σ.workers[x.author]? ≠ some ⟨a, .running job⟩) ∨ Chronicle.HasFailed c x.author news

/-- What connection `c` has carried since the session was opened in world `w`: the greeting, whole
requests, and what there is of one more. -/
structure Carried (c : ConnectionId) (pings : List RequestFrame) (w : World) (σ : (uses s).Crew)
    (calls : List Asked) (draft : Option Draft) : Prop where
  sent : σ.world.past.sent c = Frame.hello ++ Frame.requests (pings ++ calls.map Asked.request) ++
    (draft.map Draft.written).getD []
  readable : ∀ f ∈ pings ++ calls.map Asked.request, f.Readable
  numbered : RequestFrame.Numbered
    (pings ++ (calls ++ (draft.map Draft.asked).toList).map Asked.request)
  asked : ∀ x ∈ calls ++ (draft.map Draft.asked).toList, x.In σ
  once : ((calls ++ (draft.map Draft.asked).toList).map Asked.author).Nodup
  /-- The last request is not whole. -/
  cut : ∀ d ∈ draft, d.written <+: Frame.segment 0 d.asked.request.encode ∧
    d.written ≠ Frame.segment 0 d.asked.request.encode
  /-- If it is given up, nothing is ever written again. -/
  final : ∀ d ∈ draft, ∀ news, σ.world.past = w.past ++ news → d.asked.GivenUp c news σ →
    ∀ σ', Crew.Reaches σ σ' → σ'.world.past.sent c = σ.world.past.sent c

theorem Asked.Posted.isIn {x : Asked} (h : x.Posted Q) (hQ : (conduct s).Manned Q σ) : x.In σ := by
  obtain ⟨a, phase, hpost, -, hrequest⟩ := h
  obtain ⟨progress, hworker⟩ := hQ.exists_worker hpost
  cases a with
  | call m method body =>
    exact ⟨m, method, body, progress, hworker, (Option.some.inj hrequest).symm⟩
  | close => cases hrequest

theorem Asked.In.readable {x : Asked} (h : x.In σ) (hfits : x.request.encode.length < 2 ^ 32) :
    x.request.Readable := by
  obtain ⟨m, method, body, progress, -, hrequest⟩ := h
  rw [hrequest] at hfits ⊢
  exact RequestFrame.forMethod_readable hfits

/-- Who has been given up is not writing any more. -/
theorem Asked.GivenUp.not_asking {x : Asked} {news : Chronicle} (h : x.GivenUp c news σ)
    (hQ : (conduct s).Manned Q σ) (hresigned : Resigned c w Q σ.world)
    (hnews : σ.world.past = w.past ++ news) (a : Use) (u : Session) (f : RequestFrame)
    (rest : Bytes) :
    Q x.author ≠ some (a, .asking u f rest) := by
  intro hpost
  rcases h with hdone | hfailed
  · obtain ⟨progress, hworker⟩ := hQ.exists_worker hpost
    have hstands := hQ.stands _ _ hworker
    rw [hpost] at hstands
    cases progress with
    | running job => exact hdone a job hworker
    | finished result =>
      obtain ⟨phase, hphase, hends⟩ := hstands
      cases hphase
      cases hends
    | cancelled => cases hstands
  · obtain ⟨news', hnews', hall⟩ := hresigned
    obtain rfl : news' = news := List.append_cancel_left (hnews'.symm.trans hnews)
    obtain ⟨a', phase, hpost', hrank⟩ := hall _ hfailed
    rw [hpost] at hpost'
    cases hpost'
    exact absurd hrank (Nat.not_succ_le_self 2)

theorem Ledger.carried {v : Session} (h : Ledger c pings Q σ.world calls draft v)
    (hQ : (conduct s).Manned Q σ) (hresigned : Resigned c w Q σ.world)
    (hpings : ∀ f ∈ pings, f.Readable) : ∃ calls draft, Carried c pings w σ calls draft := by
  have hasked : ∀ x ∈ calls ++ (draft.map Draft.asked).toList, x.In σ :=
    fun x hx => (h.posted x hx).isIn hQ
  have hreadable : ∀ f ∈ pings ++ calls.map Asked.request, f.Readable := by
    intro f hf
    rcases List.mem_append.1 hf with hf | hf
    · exact hpings f hf
    · obtain ⟨x, hx, rfl⟩ := List.mem_map.1 hf
      exact (hasked x (List.mem_append_left _ hx)).readable (h.fits x hx)
  have hdesk := h.desk
  cases hdesk with
  | clear next idle =>
    exact ⟨calls, none, h.sent, hreadable, h.numbered, hasked, h.once, nofun, nofun⟩
  | @busy x written closed begun fits writer =>
    by_cases hwhole : written = Frame.segment 0 x.request.encode
    · -- the last request is whole, though its call may still be under way
      subst hwhole
      have hnone :
          (calls ++ [x]) ++ ((none : Option Draft).map Draft.asked).toList = calls ++ [x] :=
        List.append_nil _
      refine ⟨calls ++ [x], none, ?_, ?_, ?_, ?_, ?_, nofun, nofun⟩
      · rw [h.sent]
        simp [Frame.requests]
      · intro f hf
        rw [List.map_append, ← List.append_assoc] at hf
        rcases List.mem_append.1 hf with hf | hf
        · exact hreadable f hf
        · obtain rfl : f = x.request := List.mem_singleton.1 hf
          exact (hasked x (List.mem_append_right _ (List.mem_singleton_self x))).readable
            (fits (Frame.segment_ne_nil 0 _))
      · rw [hnone]
        exact h.numbered
      · rw [hnone]
        exact hasked
      · rw [hnone]
        exact h.once
    · refine ⟨calls, some ⟨x, written⟩, h.sent, hreadable, h.numbered, hasked, h.once, ?_, ?_⟩
      · rintro d hd
        cases hd
        exact ⟨begun, hwhole⟩
      · rintro d hd news hnews hgone σ' hreach
        cases hd
        have hidle (t : ThreadId) (a : Use) (u : Session) (f : RequestFrame) (rest : Bytes) :
            Q t ≠ some (a, .asking u f rest) := by
          intro hpost
          obtain ⟨rfl, -⟩ := writer t a u f rest hpost
          exact hgone.not_asking hQ hresigned hnews a u f rest hpost
        have hsealed : Sealed c (σ.world.past.sent c) Q σ.world :=
          ⟨⟨v, h.value, closed⟩, h.custody, hidle, rfl⟩
        obtain ⟨Q', -, hkept⟩ := (sealed_keeps s c _).reaches hreach hQ hsealed
        exact hkept.unsent

/-- **The stream of requests is intact.** Whoever calls over a new session or closes it, in whatever
order, and whoever fails or is given up: the connection has carried the greeting, then whole
requests with the numbers from 1 on, each of another call, and at most one request that is cut
short; and once that one is given up nothing is written on the connection ever again. -/
theorem requests_intact {endpoint : Endpoint} {probe : Probe} {pings : List RequestFrame}
    {bed : Testbed} (htrial : Trial probe pings)
    (hconnect : (connect endpoint probe).Runs t ⟨bed, []⟩ (some (.ok s)) w)
    (hreach : Crew.Reaches (T := uses s) ⟨w, []⟩ σ) :
    ∃ c calls draft, w.past.opened = [c] ∧ Carried c pings w σ calls draft := by
  obtain ⟨c, v, hgreeted⟩ := connect_greets htrial hconnect
  have hstart : Ledger (s := s) c pings (fun _ => none) w [] none v := by
    refine ⟨?_, by rintro _ _ _ _ ⟨⟩, .inl hgreeted.inStep.stream, ?_, ?_, by simp, by simp,
      List.nodup_nil, ?_⟩
    · rw [valueAt, hgreeted.free]
      rfl
    · rw [hgreeted.sent]
      simp
    · simpa using hgreeted.numbered
    · exact .clear (.inr ⟨hgreeted.inStep, hgreeted.count⟩) (by rintro _ _ _ _ _ ⟨⟩)
  have hnews : Resigned (s := s) c w (fun _ => none) w := by
    refine ⟨[], (List.append_nil _).symm, ?_⟩
    rintro t ⟨bytes, error, hmem⟩
    cases hmem
  obtain ⟨Q, hQ, ⟨calls, draft, v', hledger⟩, hresigned⟩ :=
    ((ledger_keeps s c pings).and (resigned_keeps s c w)).reaches hreach
      (Conduct.manned_start w) ⟨⟨[], none, v, hstart⟩, hnews⟩
  obtain ⟨calls', draft', hcarried⟩ := hledger.carried hQ hresigned hgreeted.readable
  exact ⟨c, calls', draft', hgreeted.opened, hcarried⟩

end Session

/-- Someone can be reached at one endpoint, and nothing has happened yet. -/
def World.untouched : World where
  bed.network.registry := [⟨⟨"n1", 7100⟩, 0, .script [] false [], 65536⟩]

namespace Session

theorem requests_intact_pinged : ∃ w σ c calls draft,
    (connect ⟨"n1", 7100⟩ (pingProbe ⟨"n1", 7100⟩ 500)).Runs 0 .untouched (some (.ok 0)) w ∧
      Crew.Reaches (T := uses 0) ⟨w, []⟩ σ ∧ σ.workers.length = 2 ∧
      Carried c [.ping 500] w σ calls draft := by
  let pong := Frame.segment 0 (ResponseFrame.success 1 []).encode
  let answer := Frame.segment 1 (ResponseFrame.success 2 [7]).encode
  let call : Use := .call { session := 0, endpoint := ⟨"n1", 7100⟩ } ⟨"Service", "Method"⟩ [1]
  have hplay : (World.untouched.play 0
      (connect ⟨"n1", 7100⟩ (pingProbe ⟨"n1", 7100⟩ 500)) [pong]).any (fun x =>
        decide (x.1.toOption = some 0) && (x.2.play 0 (call.job 0) [answer]).isSome) = true := by
    decide +kernel
  obtain ⟨⟨opened, w⟩, hopened, hchecks⟩ := (Option.any_eq_true _ _).1 hplay
  obtain ⟨hzero, hcalled⟩ := Bool.and_eq_true_iff.1 hchecks
  obtain ⟨⟨result, w'⟩, hcalled⟩ := Option.isSome_iff_exists.1 hcalled
  have hconnect := World.runs_of_play hopened
  cases opened with
  | error e => cases hzero
  | ok s =>
    obtain rfl : s = 0 := Option.some.inj (of_decide_eq_true hzero)
    -- one thread calls and gets its answer, and another one starts to close the session
    have hcall : Crew.Reaches (T := uses 0) ⟨w, [⟨call, .running (call.job 0)⟩]⟩
        ⟨w', [⟨call, .running (.done result)⟩]⟩ :=
      Crew.reaches_of_runs (t := 0) (World.runs_of_play hcalled) rfl
    have hstart : Crew.Step (T := uses 0) ⟨w, []⟩ ⟨w, [⟨call, .running (call.job 0)⟩]⟩ :=
      Crew.Step.starts (T := uses 0) (σ := ⟨w, []⟩) call
    have hclose : Crew.Step (T := uses 0) ⟨w', [⟨call, .running (.done result)⟩]⟩
        ⟨w', [⟨call, .running (.done result)⟩, ⟨Use.close, .running (Session.close 0)⟩]⟩ :=
      Crew.Step.starts (T := uses 0) (σ := ⟨w', [⟨call, .running (.done result)⟩]⟩) Use.close
    have hreach := (hcall.head hstart).tail hclose
    obtain ⟨c, calls, draft, -, hcarried⟩ := requests_intact (.ping _ 500) hconnect hreach
    exact ⟨w, _, c, calls, draft, hconnect, hreach, rfl, hcarried⟩

end Session
end ClusterProbe
