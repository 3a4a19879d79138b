import ClusterProbe.Proofs.World.Shared

/-!
# Accounts

What a stretch of the past comes to for one session and one connection: the bytes that went either
way, the states recorded for the session, and which connections were dialed, opened and shut down.
Accounts of successive stretches are joined by `++`, so a job is accounted for part by part.
-/
namespace ClusterProbe

structure Account where
  sent : Bytes := []
  taken : Bytes := []
  stored : List Session := []
  dialed : List Endpoint := []
  opened : List ConnectionId := []
  hungUp : List ConnectionId := []

namespace Account

instance : Append Account where
  append a b :=
    { sent := a.sent ++ b.sent
      taken := a.taken ++ b.taken
      stored := a.stored ++ b.stored
      dialed := a.dialed ++ b.dialed
      opened := a.opened ++ b.opened
      hungUp := a.hungUp ++ b.hungUp }

@[simp] theorem append_mk (sent taken sent' taken' : Bytes) (stored stored' : List Session)
    (dialed dialed' : List Endpoint) (opened opened' hungUp hungUp' : List ConnectionId) :
    (⟨sent, taken, stored, dialed, opened, hungUp⟩ : Account) ++
        ⟨sent', taken', stored', dialed', opened', hungUp'⟩ =
      ⟨sent ++ sent', taken ++ taken', stored ++ stored', dialed ++ dialed', opened ++ opened',
        hungUp ++ hungUp'⟩ := rfl

@[simp] theorem append_empty (a : Account) : a ++ {} = a := by
  cases a
  simp

@[simp] theorem empty_append (a : Account) : {} ++ a = a := by
  cases a
  simp

end Account

variable {t : ThreadId} {e : Effect} {s : SessionId} {c : ConnectionId}

/-- The effects that an account has something to say about. -/
def Effect.isBooked : Effect → Bool
  | dial _ | write _ _ | hangUp _ | store _ _ => true
  | _ => false

/-- The effects that are about neither sessions nor the pool and leave nothing in an account. -/
def Effect.isPlain (e : Effect) : Bool :=
  !e.touchesSessions && !e.touchesPool && !e.isBooked && e.source?.isNone

theorem Effect.isPlain_iff : e.isPlain = true ↔ ((e.touchesSessions = false ∧
    e.touchesPool = false) ∧ e.isBooked = false) ∧ e.source? = none := by
  simp [isPlain]

namespace Chronicle

/-- What a stretch of the past comes to. -/
def account (s : SessionId) (c : ConnectionId) (h : Chronicle) : Account :=
  ⟨h.sent c, h.taken c, h.stored s, h.dialed, h.opened, h.hungUp⟩

theorem account_append (g h : Chronicle) :
    (g ++ h).account s c = g.account s c ++ h.account s c := by
  simp only [account, sent_append, taken_append, stored_append, dialed_append, opened_append,
    hungUp_append, Account.append_mk]

theorem account_cons (ev : Event) (h : Chronicle) :
    account s c (ev :: h) = account s c [ev] ++ h.account s c :=
  account_append [ev] h

section
variable (t : ThreadId) (s : SessionId) (c : ConnectionId)

theorem account_answered {e : Effect} (r : e.Response) (h : e.isBooked = false) :
    account s c [.answered t e r] = {} := by
  cases e <;> first | rfl | cases h

@[simp] theorem account_write_ok (bytes : Bytes) (n : Nat) :
    account s c [.answered t (.write c bytes) (.ok n)] = { sent := bytes.take n } := by
  simp [account, Event.sent, Event.taken, Event.stored, Event.dialed, Event.opened, Event.hungUp]

@[simp] theorem account_store (v : Session) (r : Unit) :
    account s c [.answered t (.store s v) r] = { stored := [v] } := by
  simp [account, Event.sent, Event.taken, Event.stored, Event.dialed, Event.opened, Event.hungUp]

@[simp] theorem account_hangUp (c' : ConnectionId) (r : Except IoError Unit) :
    account s c [.answered t (.hangUp c') r] = { hungUp := [c'] } := rfl

end

theorem account_of_idle {g : Chronicle} (h : ∀ ev ∈ g, ev.Idle e) :
    g.account s c = { taken := g.taken c } := by
  induction g with
  | nil => rfl
  | cons ev g ih =>
    have hev := h ev List.mem_cons_self
    have hg := ih fun ev' hev' => h ev' (List.mem_cons_of_mem ev hev')
    rw [account_cons, hg]
    simp [account, hev.sent, hev.stored, hev.dialed, hev.opened, hev.hungUp]

theorem taken_of_idle {g : Chronicle} (h : ∀ ev ∈ g, ev.Idle e) (hc : e.source? ≠ some c) :
    g.taken c = [] := by
  induction g with
  | nil => rfl
  | cons ev g ih =>
    have hg := ih fun ev' hev' => h ev' (List.mem_cons_of_mem ev hev')
    rw [taken_cons, hg, (h ev List.mem_cons_self).taken hc]
    rfl

end Chronicle

namespace World

variable {w w' w'' : World} {a b : Account}

def Has (w : World) (c : ConnectionId) : Prop := c < w.bed.network.connections.length

theorem has_iff : w.Has c ↔ ∃ k, w.bed.network.connections[c]? = some k := by
  constructor
  · exact fun h => ⟨_, List.getElem?_eq_getElem h⟩
  · exact fun ⟨k, hk⟩ => (List.getElem?_eq_some_iff.1 hk).1

theorem Balanced.has (h : w.Balanced c) : w.Has c := by
  obtain ⟨k, hk, _⟩ := h
  exact has_iff.2 ⟨k, hk⟩

theorem Moves.has (h : w.Moves w') (hc : w.Has c) : w'.Has c := by
  unfold Has at hc ⊢
  cases h with
  | farEnd network found moves connections dialed => rwa [connections, List.length_set]
  | elsewhere network connections dialed => rwa [connections]

theorem Stalls.has (h : w.Stalls t e w') (hc : w.Has c) : w'.Has c := by
  obtain ⟨bed, hb, rfl⟩ := h
  obtain ⟨k, hk⟩ := has_iff.1 hc
  obtain ⟨k', _, hk', _⟩ := Testbed.answer_continues t e hk
  rw [hb] at hk'
  exact has_iff.2 ⟨k', hk'⟩

theorem Answers.has {r : e.Response} (h : w.Answers t e r w') (hc : w.Has c) : w'.Has c := by
  obtain ⟨bed, hb | hf, rfl⟩ := h
  · obtain ⟨k, hk⟩ := has_iff.1 hc
    obtain ⟨k', _, hk', _⟩ := Testbed.answer_continues t e hk
    rw [hb] at hk'
    exact has_iff.2 ⟨k', hk'⟩
  · obtain ⟨k, hk⟩ := has_iff.1 hc
    obtain ⟨k', _, hk', _⟩ := Testbed.fails_continues hf hk
    exact has_iff.2 ⟨k', hk'⟩

/-- From `w` to `w'` there is a stretch of the past with the account `a`. -/
structure Spans (w : World) (s : SessionId) (c : ConnectionId) (a : Account) (w' : World) :
    Prop where
  past : ∃ h, w'.past = w.past ++ h ∧ h.account s c = a
  has : ∀ {c}, w.Has c → w'.Has c

theorem Spans.refl (w : World) : w.Spans s c {} w :=
  ⟨⟨[], (List.append_nil _).symm, rfl⟩, id⟩

theorem Spans.trans (h : w.Spans s c a w') (h' : w'.Spans s c b w'') :
    w.Spans s c (a ++ b) w'' := by
  obtain ⟨⟨g, hg, rfl⟩, hhas⟩ := h
  obtain ⟨⟨g', hg', rfl⟩, hhas'⟩ := h'
  refine ⟨⟨g ++ g', ?_, Chronicle.account_append g g'⟩, fun hc => hhas' (hhas hc)⟩
  rw [hg', hg, List.append_assoc]

theorem Spans.of_eq (h : w.Spans s c a w') (hab : a = b) : w.Spans s c b w' := hab ▸ h

/-- What leaves nothing in an account may come before it and after it. -/
theorem Spans.surround {w₁ w₂ : World} (h : w₁.Spans s c a w₂) (before : w.Spans s c {} w₁)
    (after : w₂.Spans s c {} w') : w.Spans s c a w' := by
  have hall := (before.trans h).trans after
  rwa [Account.empty_append, Account.append_empty] at hall

theorem Spans.taken (h : w.Spans s c a w') : w'.past.taken c = w.past.taken c ++ a.taken := by
  obtain ⟨⟨g, hg, rfl⟩, _⟩ := h
  rw [hg, Chronicle.taken_append]
  rfl

theorem Spans.sent (h : w.Spans s c a w') : w'.past.sent c = w.past.sent c ++ a.sent := by
  obtain ⟨⟨g, hg, rfl⟩, _⟩ := h
  rw [hg, Chronicle.sent_append]
  rfl

theorem Spans.opened (h : w.Spans s c a w') : w'.past.opened = w.past.opened ++ a.opened := by
  obtain ⟨⟨g, hg, rfl⟩, _⟩ := h
  rw [hg, Chronicle.opened_append]
  rfl

theorem Moves.spans (h : w.Moves w') : w.Spans s c {} w' := by
  refine ⟨?_, h.has⟩
  cases h with
  | @farEnd c' k k' sent network found moves connections dialed =>
    exact ⟨[.arrived c' sent], rfl, rfl⟩
  | elsewhere network connections dialed => exact ⟨[], (List.append_nil _).symm, rfl⟩

theorem Waits.has (h : Waits t e w w') (hc : w.Has c) : w'.Has c :=
  h.invariant (P := fun w => w.Has c) (fun hm h => hm.has h) (fun hs h => hs.has h) hc

theorem Settles.has {r : e.Response} (h : w.Settles t e r w') (hc : w.Has c) : w'.Has c := by
  obtain ⟨w₁, hwait, hanswer⟩ := h
  exact hanswer.has (hwait.has hc)

theorem Waits.spans (h : Waits t e w w') (hc : e.source? ≠ some c) : w.Spans s c {} w' := by
  obtain ⟨g, hg, hidle⟩ := h.past
  refine ⟨⟨g, hg, ?_⟩, h.has⟩
  rw [Chronicle.account_of_idle hidle, Chronicle.taken_of_idle hidle hc]

theorem Settles.spans {r : e.Response} (h : w.Settles t e r w') (hc : e.source? ≠ some c) :
    w.Spans s c (Chronicle.account s c [.answered t e r]) w' := by
  obtain ⟨g, g', hg, hidle, hidle'⟩ := h.past
  refine ⟨⟨g ++ .answered t e r :: g', hg, ?_⟩, h.has⟩
  rw [Chronicle.account_append, Chronicle.account_cons, Chronicle.account_of_idle hidle,
    Chronicle.account_of_idle hidle', Chronicle.taken_of_idle hidle hc,
    Chronicle.taken_of_idle hidle' hc]
  simp [Chronicle.account]

theorem Settles.spans_unbooked {r : e.Response} (h : w.Settles t e r w')
    (hc : e.source? ≠ some c) (hb : e.isBooked = false) : w.Spans s c {} w' :=
  (h.spans hc).of_eq (Chronicle.account_answered t s c r hb)

/-- A stretch of the past that leaves sessions and slots as they are. -/
structure Passes (w : World) (s : SessionId) (c : ConnectionId) (a : Account) (w' : World) :
    Prop where
  shares : w.bed.Shares w'.bed
  spans : w.Spans s c a w'

theorem Passes.refl (w : World) : w.Passes s c {} w := ⟨.refl _, .refl w⟩

theorem Passes.trans (h : w.Passes s c a w') (h' : w'.Passes s c b w'') :
    w.Passes s c (a ++ b) w'' :=
  ⟨h.shares.trans h'.shares, h.spans.trans h'.spans⟩

theorem Passes.of_eq (h : w.Passes s c a w') (hab : a = b) : w.Passes s c b w' := hab ▸ h

theorem Moves.passes (h : w.Moves w') : w.Passes s c {} w' := ⟨h.shares, h.spans⟩

theorem Waits.passes (h : Waits t e w w') (hs : e.touchesSessions = false)
    (hp : e.touchesPool = false) (hc : e.source? ≠ some c) : w.Passes s c {} w' :=
  ⟨h.shares hs hp, h.spans hc⟩

theorem Settles.passes {r : e.Response} (h : w.Settles t e r w') (hs : e.touchesSessions = false)
    (hp : e.touchesPool = false) (hc : e.source? ≠ some c) :
    w.Passes s c (Chronicle.account s c [.answered t e r]) w' :=
  ⟨h.shares hs hp, h.spans hc⟩

theorem Waits.plain (h : Waits t e w w') (he : e.isPlain = true) : w.Passes s c {} w' := by
  obtain ⟨⟨⟨hs, hp⟩, _⟩, hc⟩ := Effect.isPlain_iff.1 he
  exact h.passes hs hp (by rw [hc]; exact (Option.some_ne_none c).symm)

theorem Settles.plain {r : e.Response} (h : w.Settles t e r w') (he : e.isPlain = true) :
    w.Passes s c {} w' := by
  obtain ⟨⟨⟨hs, hp⟩, hb⟩, hc⟩ := Effect.isPlain_iff.1 he
  have hsource : e.source? ≠ some c := by
    rw [hc]
    exact (Option.some_ne_none c).symm
  exact ⟨h.shares hs hp, h.spans_unbooked hsource hb⟩

end World

namespace Job

variable {α : Type} {w w' : World} {o : Option α}

theorem Runs.has {job : Job α} (h : job.Runs t w o w') (hc : w.Has c) : w'.Has c :=
  h.invariant (P := fun w => w.Has c) (fun hm h => hm.has h) (fun hs h => hs.has h)
    (fun ha h => ha.has h) hc

theorem Runs.plain {e : Effect} {o : Option e.Response} (h : (ask e).Runs t w o w')
    (he : e.isPlain = true) : w.Passes s c {} w' := by
  rcases (runs_ask e o).1 h with ⟨r, hs, _⟩ | ⟨_, hw⟩
  · exact hs.plain he
  · exact hw.plain he

theorem Runs.plain_bind {e : Effect} {f : e.Response → Job α} (h : (ask e >>= f).Runs t w o w')
    (he : e.isPlain = true) (s : SessionId) (c : ConnectionId) :
    (∃ r w₁, w.Passes s c {} w₁ ∧ (f r).Runs t w₁ o w') ∨ (o = none ∧ w.Passes s c {} w') := by
  rcases (runs_ask_bind e f o).1 h with ⟨r, w₁, hs, hnext⟩ | ⟨ho, hw⟩
  · exact Or.inl ⟨r, w₁, hs.plain he, hnext⟩
  · exact Or.inr ⟨ho, hw.plain he⟩

theorem Runs.plain_bind_some {e : Effect} {f : e.Response → Job α} {a : α}
    (h : (ask e >>= f).Runs t w (some a) w') (he : e.isPlain = true) (s : SessionId)
    (c : ConnectionId) : ∃ r w₁, w.Passes s c {} w₁ ∧ (f r).Runs t w₁ (some a) w' := by
  obtain ⟨r, w₁, hs, hnext⟩ := (runs_ask_bind_some e f a).1 h
  exact ⟨r, w₁, hs.plain he, hnext⟩

end Job
end ClusterProbe
