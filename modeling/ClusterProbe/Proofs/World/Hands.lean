import ClusterProbe.Proofs.Plan
import ClusterProbe.Proofs.World.Custody
import ClusterProbe.Proofs.World.Holdings

/-!
# What threads have in their hands

The rules by which threads handle connections and sessions: a thread opens a connection with empty
hands and then puts it into a session or shuts it down; it takes one session at a time, gives it
back without the mark of a call, and shuts down whatever connection it takes out of one. A crew that
keeps to these rules, and of which nobody is given up, keeps the estate in order
(`World.Estate`): each connection that was opened is in one session or has been shut down once.
-/
namespace ClusterProbe

open Trade Shared

variable {α : Type} {t : ThreadId} {s : SessionId} {c : ConnectionId}

structure Hands where
  /-- A connection that is in no session. -/
  loose : Option ConnectionId := none
  held : Option (SessionId × Session) := none
  /-- The sessions that the thread has opened. -/
  opened : List SessionId := []
  /-- The sessions that it knows to be without a connection. -/
  shut : List SessionId := []
  /-- The thread was given up. -/
  lost : Bool := false

/-- The effects that bring something into the hands of a thread, or out of them, or let it know. -/
def Effect.movesHands : Effect → Bool
  | dial _ | hangUp _ | openSession _ _ | acquire _ | store _ _ | release _ | isDefunct _ => true
  | _ => false

namespace Hands

/-- The state of session `s`, if it is the one in hand. -/
def heldAt (s : SessionId) (h : Hands) : Option Session :=
  h.held.bind fun x => if x.1 = s then some x.2 else none

/-- Nothing is in these hands. -/
structure Rests (h : Hands) : Prop where
  loose : h.loose = none
  held : h.held = none

def after (h : Hands) : (e : Effect) → e.Response → Hands
  | .dial _, .ok c => { h with loose := some c }
  | .hangUp _, _ => { h with loose := none }
  | .openSession _ _, s => { h with loose := none, opened := s :: h.opened }
  | .acquire s, v => { h with held := some (s, v) }
  | .store s v, _ =>
    { h with
      held := some (s, v)
      loose := if v.stream = none then (h.held.bind fun x => x.2.stream).or h.loose else h.loose }
  | .release s, _ =>
    { h with
      held := none
      shut := if h.held.any fun x => x.2.stream.isNone then s :: h.shut else h.shut }
  | .isDefunct s, defunct => if defunct then { h with shut := s :: h.shut } else h
  | _, _ => h

/-- All that a thread may ask for, and how its hands change with the answer. -/
inductive Turn (h : Hands) : (e : Effect) → e.Response → Hands → Prop
  | opens (endpoint : Endpoint) (c : ConnectionId) (free : h.loose = none) :
      Turn h (.dial endpoint) (.ok c) { h with loose := some c }
  | misses (endpoint : Endpoint) (e : SessionError) : Turn h (.dial endpoint) (.error e) h
  | hangsUp (c : ConnectionId) (r : Except IoError Unit) (loose : h.loose = some c) :
      Turn h (.hangUp c) r { h with loose := none }
  | carries (endpoint : Endpoint) (c : ConnectionId) (s : SessionId) (loose : h.loose = some c) :
      Turn h (.openSession endpoint c) s { h with loose := none, opened := s :: h.opened }
  | takes (s : SessionId) (v : Session) (free : h.held = none) :
      Turn h (.acquire s) v { h with held := some (s, v) }
  | records (s : SessionId) (now v : Session) (r : Unit) (held : h.held = some (s, now))
      (stream : v.stream = now.stream) : Turn h (.store s v) r { h with held := some (s, v) }
  /-- The connection of the session is in the hands of the thread from now on. -/
  | parts (s : SessionId) (now v : Session) (c : ConnectionId) (r : Unit)
      (held : h.held = some (s, now)) (stream : now.stream = some c) (closed : v.stream = none)
      (free : h.loose = none) :
      Turn h (.store s v) r { h with held := some (s, v), loose := some c }
  | returns (s : SessionId) (now : Session) (r : Unit) (held : h.held = some (s, now))
      (unmarked : now.stream = none ∨ now.inFlight = false) :
      Turn h (.release s) r
        { h with held := none, shut := if now.stream.isNone then s :: h.shut else h.shut }
  | asks (s : SessionId) (defunct : Bool) :
      Turn h (.isDefunct s) defunct (if defunct then { h with shut := s :: h.shut } else h)
  | passes (e : Effect) (r : e.Response) (he : e.movesHands = false) : Turn h e r h

def rules : Rules Hands where
  Allows h e := ∀ r, Turn h e r (h.after e r)
  after := after

section Rules

open Job

variable {h h' : Hands} {e : Effect} {r : e.Response} {now v : Session} {post : α → Hands → Prop}

theorem after_passes (he : e.movesHands = false) (r : e.Response) : h.after e r = h := by
  cases e <;> first | rfl | cases he

theorem allows_passes (he : e.movesHands = false) : rules.Allows h e := by
  intro r
  rw [after_passes he]
  exact .passes e r he

theorem after_records (held : h.held = some (s, now)) (stream : v.stream = now.stream) (r : Unit) :
    h.after (.store s v) r = { h with held := some (s, v) } := by
  simp only [after, held, stream, Option.bind_some]
  cases now.stream <;> rfl

theorem after_parts (held : h.held = some (s, now)) (stream : now.stream = some c)
    (closed : v.stream = none) (r : Unit) :
    h.after (.store s v) r = { h with held := some (s, v), loose := some c } := by
  simp only [after, held, stream, closed, Option.bind_some, if_true, Option.some_or]

theorem after_returns (held : h.held = some (s, now)) (r : Unit) :
    h.after (.release s) r =
      { h with held := none, shut := if now.stream.isNone then s :: h.shut else h.shut } := by
  simp only [after, held, Option.any_some]

theorem follows_pass_bind {f : e.Response → Job α} (he : e.movesHands = false)
    (hf : ∀ r, (f r).Follows rules post h) : (ask e >>= f).Follows rules post h :=
  follows_idle_bind (allows_passes he) (after_passes he) hf

theorem follows_takes_bind {f : Session → Job α} (free : h.held = none)
    (hf : ∀ v, (f v).Follows rules post { h with held := some (s, v) }) :
    (ask (.acquire s) >>= f).Follows rules post h :=
  follows_ask_bind (fun v => .takes s v free) fun v _ => hf v

theorem follows_records_bind {f : Unit → Job α} (held : h.held = some (s, now))
    (stream : v.stream = now.stream)
    (hf : (f ()).Follows rules post { h with held := some (s, v) }) :
    (ask (.store s v) >>= f).Follows rules post h := by
  refine follows_ask_bind (fun r => ?_) fun r _ => ?_
  · rw [after_records held stream]
    exact .records s now v r held stream
  · change Job.Follows _ _ _ (h.after (.store s v) r)
    rw [after_records held stream]
    exact hf

theorem follows_parts_bind {f : Unit → Job α} (held : h.held = some (s, now))
    (stream : now.stream = some c) (closed : v.stream = none) (free : h.loose = none)
    (hf : (f ()).Follows rules post { h with held := some (s, v), loose := some c }) :
    (ask (.store s v) >>= f).Follows rules post h := by
  refine follows_ask_bind (fun r => ?_) fun r _ => ?_
  · rw [after_parts held stream closed]
    exact .parts s now v c r held stream closed free
  · change Job.Follows _ _ _ (h.after (.store s v) r)
    rw [after_parts held stream closed]
    exact hf

theorem follows_returns_bind {f : Unit → Job α} (held : h.held = some (s, now))
    (unmarked : now.stream = none ∨ now.inFlight = false)
    (hf : (f ()).Follows rules post
      { h with held := none, shut := if now.stream.isNone then s :: h.shut else h.shut }) :
    (ask (.release s) >>= f).Follows rules post h := by
  refine follows_ask_bind (fun r => ?_) fun r _ => ?_
  · rw [after_returns held]
    exact .returns s now r held unmarked
  · change Job.Follows _ _ _ (h.after (.release s) r)
    rw [after_returns held]
    exact hf

theorem follows_hangsUp_bind {f : Except IoError Unit → Job α} (loose : h.loose = some c)
    (hf : ∀ r, (f r).Follows rules post { h with loose := none }) :
    (ask (.hangUp c) >>= f).Follows rules post h :=
  follows_ask_bind (fun r => .hangsUp c r loose) fun r _ => hf r

theorem Turn.lost (hturn : Turn h e r h') : h'.lost = h.lost := by
  cases hturn with
  | asks s defunct => cases defunct <;> rfl
  | _ => rfl

theorem Turn.opened (hturn : Turn h e r h') (hs : s ∈ h.opened) : s ∈ h'.opened := by
  cases hturn with
  | asks s defunct => cases defunct <;> exact hs
  | carries => exact List.mem_cons_of_mem _ hs
  | _ => exact hs

theorem heldAt_of_held (held : h.held = some (s, now)) : h.heldAt s = some now := by
  rw [heldAt, held, Option.bind_some, if_pos rfl]

theorem heldAt_of_held_ne {s' : SessionId} (held : h.held = some (s', now)) (hne : s' ≠ s) :
    h.heldAt s = none := by
  rw [heldAt, held, Option.bind_some, if_neg hne]

theorem heldAt_of_free (free : h.held = none) : h.heldAt s = none := by
  rw [heldAt, free, Option.bind_none]

/-- Every session is handled as one that is held by one thread at a time. -/
theorem Turn.handles (hturn : Turn h e r h') (s : SessionId) :
    Handles s (h.heldAt s) e r (h'.heldAt s) := by
  cases hturn with
  | takes s' v free =>
    rw [heldAt_of_free free]
    by_cases hs : s' = s
    · subst hs
      rw [heldAt_of_held rfl]
      exact .takes v
    · rw [heldAt_of_held_ne rfl hs]
      exact .elsewhere rfl hs
  | records s' now v r held | parts s' now v c r held =>
    by_cases hs : s' = s
    · subst hs
      rw [heldAt_of_held held, heldAt_of_held rfl]
      exact .records now v r
    · rw [heldAt_of_held_ne held hs, heldAt_of_held_ne rfl hs]
      exact .elsewhere rfl hs
  | returns s' now r held =>
    by_cases hs : s' = s
    · subst hs
      exact .returns _ r
    · rw [heldAt_of_held_ne held hs]
      exact .elsewhere rfl hs
  | asks s' defunct => cases defunct <;> exact .other rfl
  | carries endpoint c s' => exact .opens _ endpoint c s'
  | passes e r he =>
    refine .other ?_
    cases e <;> first | rfl | cases he
  | _ => exact .other rfl

end Rules
end Hands

/-! ## What one answer changes -/

section Answers

variable {w w' : World} {h h' : Hands} {e : Effect} {r : e.Response} {now v : Session}

namespace World

/-- The connection of a session. -/
def stream? (w : World) (s : SessionId) : Option ConnectionId :=
  (valueAt w.bed.sessions s).bind Session.stream

/-- There is such a session, and it has no connection. -/
def Shut (w : World) (s : SessionId) : Prop :=
  ∃ v, valueAt w.bed.sessions s = some v ∧ v.stream = none

theorem stream?_of_value (hv : valueAt w.bed.sessions s = some v) : w.stream? s = v.stream := by
  rw [stream?, hv, Option.bind_some]

theorem Shut.stream? (h : w.Shut s) : w.stream? s = none := by
  obtain ⟨v, hv, hnone⟩ := h
  exact (stream?_of_value hv).trans hnone

theorem stream?_congr (hvalues : ∀ s, valueAt w'.bed.sessions s = valueAt w.bed.sessions s) :
    w'.stream? = w.stream? :=
  funext fun s => congrArg (Option.bind · Session.stream) (hvalues s)

theorem stream?_store {r : Unit} (hv : valueAt w.bed.sessions s = some now)
    (hanswers : w.Answers t (.store s v) r w') :
    w'.stream? = Function.update w.stream? s v.stream := by
  funext s'
  by_cases heq : s' = s
  · subst heq
    rw [Function.update_self, stream?, hanswers.store, valueAt_put_self v (lt_of_valueAt hv),
      Option.bind_some]
  · rw [Function.update_of_ne heq, stream?, hanswers.store, valueAt_put_ne v (Ne.symm heq), stream?]

theorem stream?_openSession {endpoint : Endpoint}
    (hanswers : w.Answers t (.openSession endpoint c) s w') :
    w.stream? s = none ∧ w'.stream? = Function.update w.stream? s (some c) := by
  obtain ⟨rfl, hsessions⟩ := hanswers.openSession
  have hnew : valueAt w.bed.sessions w.bed.sessions.length = none := by
    rw [valueAt, List.getElem?_eq_none (Nat.le_refl _)]
    rfl
  refine ⟨by rw [stream?, hnew, Option.bind_none], funext fun s' => ?_⟩
  rw [stream?, hsessions]
  rcases Nat.lt_trichotomy s' w.bed.sessions.length with hlt | rfl | hgt
  · rw [valueAt_append _ hlt, Function.update_of_ne (Nat.ne_of_lt hlt), stream?]
  · rw [valueAt, List.getElem?_concat_length, Function.update_self]
    rfl
  · rw [Function.update_of_ne (Nat.ne_of_gt hgt), stream?, valueAt, valueAt,
      List.getElem?_eq_none (Nat.le_of_lt hgt), List.getElem?_eq_none]
    rw [List.length_append]
    exact hgt

/-- A connection that is opened is a new one. -/
theorem Answers.dial_new {endpoint : Endpoint} (h : w.Answers t (.dial endpoint) (.ok c) w') :
    ¬ w.Has c ∧ w'.Has c := by
  obtain ⟨bed, hanswer | ⟨⟨error, herror⟩, -⟩, rfl⟩ := h
  · simp only [Testbed.answer, Network.dial] at hanswer
    split at hanswer
    · cases hanswer
    · cases hanswer
      refine ⟨Nat.lt_irrefl _, ?_⟩
      simp [Has, after]
  · cases herror

end World

namespace Hands

/-- What a session is recorded as has its connection, or none. -/
theorem Turn.recorded (hturn : Turn h e r h')
    (hheld : ∀ s now, h.held = some (s, now) → valueAt w.bed.sessions s = some now)
    (hv : valueAt w.bed.sessions s = some v) :
    ((e.recorded s v).stream = v.stream ∨ (e.recorded s v).stream = none) ∧
      (e.recorded s v = v ∨ ∃ now, h'.held = some (s, now)) := by
  cases hturn with
  | records s' now v' r held stream =>
    by_cases hs : s' = s
    · subst hs
      obtain rfl := Option.some.inj (hv.symm.trans (hheld _ _ held))
      rw [Effect.recorded, if_pos rfl]
      exact ⟨.inl stream, .inr ⟨v', rfl⟩⟩
    · rw [Effect.recorded, if_neg hs]
      exact ⟨.inl rfl, .inl rfl⟩
  | parts s' now v' c r held stream closed =>
    by_cases hs : s' = s
    · subst hs
      rw [Effect.recorded, if_pos rfl]
      exact ⟨.inr closed, .inr ⟨v', rfl⟩⟩
    · rw [Effect.recorded, if_neg hs]
      exact ⟨.inl rfl, .inl rfl⟩
  | passes e r he =>
    have hsame : e.recorded s v = v := by cases e <;> first | rfl | cases he
    exact ⟨.inl (congrArg _ hsame), .inl hsame⟩
  | _ => exact ⟨.inl rfl, .inl rfl⟩

/-- A session was there before, or has just been opened. -/
theorem Turn.value_before (hturn : Turn h e r h') (hanswers : w.Answers t e r w')
    (hv : valueAt w'.bed.sessions s = some v) :
    (∃ v₀, valueAt w.bed.sessions s = some v₀ ∧ v = e.recorded s v₀) ∨
      s ∈ h'.opened ∧ v.inFlight = false := by
  by_cases hold : s < w.bed.sessions.length
  · have hv₀ : valueAt w.bed.sessions s = some (w.bed.sessions[s].value) := by
      rw [valueAt, List.getElem?_eq_getElem hold]
      rfl
    have hvalue := hanswers.value (hturn.handles s) hv₀
    exact .inl ⟨_, hv₀, Option.some.inj (hv.symm.trans hvalue)⟩
  · have hsame (hvalues : valueAt w'.bed.sessions s = valueAt w.bed.sessions s) : False :=
      hold (lt_of_valueAt (hvalues ▸ hv))
    have hlength (heq : w'.bed.sessions.length = w.bed.sessions.length) : False :=
      hold (heq ▸ lt_of_valueAt hv)
    cases hturn with
    | opens | misses | hangsUp | asks => exact (hsame (by rw [hanswers.sessions rfl])).elim
    | passes e r he =>
      refine (hsame ?_).elim
      rw [hanswers.sessions]
      cases e <;> first | rfl | cases he
    | takes s' v' free => exact (hsame (hanswers.acquire.2.2.value s)).elim
    | records | parts => exact (hlength (by rw [hanswers.store, List.length_modify])).elim
    | returns s' now r => exact (hlength (by rw [hanswers.release, List.length_modify])).elim
    | carries endpoint c s' loose =>
      obtain ⟨rfl, hsessions⟩ := hanswers.openSession
      have hlt := lt_of_valueAt hv
      rw [hsessions, List.length_append, List.length_singleton] at hlt
      obtain rfl : s = w.bed.sessions.length :=
        Nat.le_antisymm (Nat.le_of_lt_succ hlt) (Nat.le_of_not_lt hold)
      rw [hsessions, valueAt, List.getElem?_concat_length] at hv
      cases hv
      exact .inr ⟨List.mem_cons_self, rfl⟩

end Hands
end Answers

/-! ## A crew at work -/

namespace Chronicle

variable {g g' : Chronicle} {e : Effect} {ev : Event}

theorem opened_of_idle (hg : ∀ ev ∈ g, ev.Idle e) : g.opened = [] :=
  List.filterMap_eq_nil_iff.2 fun ev hev => (hg ev hev).opened

theorem hungUp_of_idle (hg : ∀ ev ∈ g, ev.Idle e) : g.hungUp = [] :=
  List.filterMap_eq_nil_iff.2 fun ev hev => (hg ev hev).hungUp

theorem opened_among (hg : ∀ ev ∈ g, ev.Idle e) (hg' : ∀ ev ∈ g', ev.Idle e) :
    (g ++ ev :: g').opened = ev.opened.toList := by
  rw [opened_append, opened_cons, opened_of_idle hg, opened_of_idle hg', List.append_nil,
    List.nil_append]

theorem hungUp_among (hg : ∀ ev ∈ g, ev.Idle e) (hg' : ∀ ev ∈ g', ev.Idle e) :
    (g ++ ev :: g').hungUp = ev.hungUp.toList := by
  rw [hungUp_append, hungUp_cons, hungUp_of_idle hg, hungUp_of_idle hg', List.append_nil,
    List.nil_append]

end Chronicle

variable {T : Trade} {Q : T.Posts Hands} {a : T.Task} {w w' : World} {h h' : Hands} {e : Effect}
  {r : e.Response} {base news g g' : Chronicle} {before : SessionId → Prop}

namespace Trade.Posts

/-- The connections in the hands of the threads. -/
def loose (Q : T.Posts Hands) (t : ThreadId) : Option ConnectionId :=
  (Q t).bind fun post => post.2.loose

/-- Nobody has been given up. -/
def Unharmed (Q : T.Posts Hands) : Prop :=
  ∀ t a h, Q t = some (a, h) → h.lost = false

theorem loose_of_post (hpost : Q t = some (a, h)) : loose Q t = h.loose := by
  rw [loose, hpost, Option.bind_some]

theorem loose_update (Q : T.Posts Hands) (t : ThreadId) (a : T.Task) (h : Hands) :
    loose (Function.update Q t (some (a, h))) = Function.update (loose Q) t h.loose := by
  funext t'
  by_cases heq : t' = t
  · subst heq
    rw [Function.update_self, loose, Function.update_self, Option.bind_some]
  · rw [Function.update_of_ne heq, loose, Function.update_of_ne heq, loose]

theorem loose_update_same (hsame : h.loose = loose Q t) :
    loose (Function.update Q t (some (a, h))) = loose Q := by
  rw [loose_update, hsame, Function.update_eq_self]

/-- The other threads are not harmed by what one of them does. -/
theorem Unharmed.of_update (hsafe : Unharmed (Function.update Q t (some (a, h'))))
    (hlost : ∀ a h, Q t = some (a, h) → h.lost = h'.lost) : Unharmed Q := by
  intro t' a' h₀ hpost
  by_cases heq : t' = t
  · subst heq
    rw [hlost a' h₀ hpost]
    exact hsafe t' a h' (Function.update_self ..)
  · exact hsafe t' a' h₀ (by rw [Function.update_of_ne heq]; exact hpost)

/-- The connections, with what has happened since the start. -/
def holdings (Q : T.Posts Hands) (w : World) (news : Chronicle) : Holdings :=
  ⟨loose Q, w.stream?, news.opened, news.hungUp⟩

end Trade.Posts

/-- What is so while a crew is at work. -/
structure Kept (base : Chronicle) (before : SessionId → Prop) (Q : T.Posts Hands) (w : World) :
    Prop where
  custody : ∀ s, Q.Custody (Hands.heldAt s) s w.bed
  sound : ∃ news, w.past = base ++ news ∧ (Posts.holdings Q w news).Sound ∧
    ∀ c ∈ news.opened, w.Has c
  /-- Only a session that is held has a connection and the mark of a call. -/
  marked : ∀ s v, valueAt w.bed.sessions s = some v → v.stream ≠ none → v.inFlight = true →
    ∃ t a h now, Q t = some (a, h) ∧ h.held = some (s, now)
  shut : ∀ t a h, Q t = some (a, h) → ∀ s ∈ h.shut, w.Shut s
  /-- A session with a connection had one before, or has been opened since. -/
  carried : ∀ s, w.stream? s ≠ none → before s ∨ ∃ t a h, Q t = some (a, h) ∧ s ∈ h.opened

namespace Kept

/-- Nobody is answered, and all sessions stay as they are. -/
theorem still (hkept : Kept base before Q w) (hpast : w'.past = w.past ++ g)
    (hg : ∀ ev ∈ g, ev.Idle e) (hhas : ∀ c, w.Has c → w'.Has c)
    (hvalues : ∀ s, valueAt w'.bed.sessions s = valueAt w.bed.sessions s)
    (hcustody : ∀ s, Q.Custody (Hands.heldAt s) s w'.bed) : Kept base before Q w' where
  custody := hcustody
  sound := by
    obtain ⟨news, hnews, hsound, hopened⟩ := hkept.sound
    refine ⟨news ++ g, by rw [hpast, hnews, List.append_assoc], ?_, ?_⟩
    · rw [Posts.holdings, World.stream?_congr hvalues, Chronicle.opened_append,
        Chronicle.hungUp_append, Chronicle.opened_of_idle hg, Chronicle.hungUp_of_idle hg,
        List.append_nil, List.append_nil]
      exact hsound
    · rw [Chronicle.opened_append, Chronicle.opened_of_idle hg, List.append_nil]
      exact fun c hc => hhas c (hopened c hc)
  marked s v hv := hkept.marked s v ((hvalues s).symm.trans hv)
  shut t a h hpost s hs := by
    obtain ⟨v, hv, hnone⟩ := hkept.shut t a h hpost s hs
    exact ⟨v, (hvalues s).trans hv, hnone⟩
  carried s hs := by
    rw [World.stream?_congr hvalues] at hs
    exact hkept.carried s hs

theorem starts (hkept : Kept base before Q w) (a : T.Task) (hvacant : Q t = none) :
    Kept base before (Function.update Q t (some (a, {}))) w := by
  have hothers {t' : ThreadId} {post : T.Task × Hands} (hpost : Q t' = some post) :
      Function.update Q t (some (a, ({} : Hands))) t' = some post := by
    rw [Function.update_of_ne]
    · exact hpost
    · rintro rfl
      rw [hvacant] at hpost
      cases hpost
  refine ⟨fun s => (hkept.custody s).release (.refl t _) rfl, ?_, fun s v hv hstream hmark => ?_,
    fun t' a' h' hpost s hs => ?_, fun s hs => ?_⟩
  · obtain ⟨news, hnews, hsound, hopened⟩ := hkept.sound
    have hloose : ({} : Hands).loose = Posts.loose Q t := by rw [Posts.loose, hvacant]; rfl
    refine ⟨news, hnews, ?_, hopened⟩
    rw [Posts.holdings, Posts.loose_update_same hloose]
    exact hsound
  · obtain ⟨t', a', h', now, hpost, hheld⟩ := hkept.marked s v hv hstream hmark
    exact ⟨t', a', h', now, hothers hpost, hheld⟩
  · rcases Posts.of_update hpost with ⟨-, -, rfl⟩ | ⟨-, hpost⟩
    · cases hs
    · exact hkept.shut t' a' h' hpost s hs
  · refine (hkept.carried s hs).imp_right ?_
    rintro ⟨t', a', h', hpost, hs⟩
    exact ⟨t', a', h', hothers hpost, hs⟩

/-- The connections in the hands of the thread and in the sessions are where they were. -/
theorem sound_stays (hpost : Q t = some (a, h)) (hsound : (Posts.holdings Q w news).Sound)
    (hloose : h'.loose = h.loose) (hstream : w'.stream? = w.stream?)
    (hquiet : (Event.answered t e r).opened = none ∧ (Event.answered t e r).hungUp = none) :
    Holdings.Sound ⟨Posts.loose (Function.update Q t (some (a, h'))), w'.stream?,
      news.opened ++ (Event.answered t e r).opened.toList,
      news.hungUp ++ (Event.answered t e r).hungUp.toList⟩ := by
  rw [Posts.loose_update_same (hloose.trans (Posts.loose_of_post hpost).symm), hstream, hquiet.1,
    hquiet.2, Option.toList_none, List.append_nil, List.append_nil]
  exact hsound

section Answered

variable (hkept : Kept base before Q w) (hpost : Q t = some (a, h)) (hturn : Hands.Turn h e r h')
  (hanswers : w.Answers t e r w')
include hkept hpost

theorem value_of_held {s : SessionId} {now : Session} (hheld : h.held = some (s, now)) :
    holderAt w.bed.sessions s = some t ∧ valueAt w.bed.sessions s = some now :=
  hkept.custody s t a h now hpost (Hands.heldAt_of_held hheld)

include hturn hanswers

/-- Each connection is passed on from one place to the next. -/
theorem sound_answered (hsound : (Posts.holdings Q w news).Sound)
    (hopened : ∀ c ∈ news.opened, w.Has c) :
    Holdings.Sound ⟨Posts.loose (Function.update Q t (some (a, h'))), w'.stream?,
      news.opened ++ (Event.answered t e r).opened.toList,
      news.hungUp ++ (Event.answered t e r).hungUp.toList⟩ := by
  have hloose := Posts.loose_of_post hpost
  have hidle (he : e.touchesSessions = false) : w'.stream? = w.stream? :=
    World.stream?_congr fun s => by rw [hanswers.sessions he]
  cases hturn with
  | opens endpoint c free =>
    have hnew : c ∉ news.opened := fun hc => hanswers.dial_new.1 (hopened c hc)
    rw [Posts.loose_update, hidle rfl]
    simpa [Posts.holdings, Event.opened, Event.hungUp] using hsound.opens (hloose.trans free) hnew
  | hangsUp c r loose =>
    rw [Posts.loose_update, hidle rfl]
    simpa [Posts.holdings, Event.opened, Event.hungUp] using hsound.hangsUp (hloose.trans loose)
  | carries endpoint c s loose =>
    obtain ⟨hnone, hstream⟩ := World.stream?_openSession hanswers
    rw [Posts.loose_update, hstream]
    simpa [Posts.holdings, Event.opened, Event.hungUp]
      using hsound.carries (hloose.trans loose) hnone
  | parts s now v c r held stream closed free =>
    obtain ⟨-, hvalue⟩ := hkept.value_of_held hpost held
    rw [Posts.loose_update, World.stream?_store hvalue hanswers, closed]
    simpa [Posts.holdings, Event.opened, Event.hungUp] using
      hsound.parts ((World.stream?_of_value hvalue).trans stream) (hloose.trans free)
  | records s now v r held stream =>
    obtain ⟨-, hvalue⟩ := hkept.value_of_held hpost held
    refine sound_stays hpost hsound rfl ?_ ⟨rfl, rfl⟩
    rw [World.stream?_store hvalue hanswers, stream, ← World.stream?_of_value hvalue,
      Function.update_eq_self]
  | takes s v free =>
    exact sound_stays hpost hsound rfl
      (World.stream?_congr hanswers.acquire.2.2.value) ⟨rfl, rfl⟩
  | returns s now r held unmarked =>
    have hvalues : ∀ s', valueAt w'.bed.sessions s' = valueAt w.bed.sessions s' := by
      rw [hanswers.release]
      exact (jostles_leave t _ s).value
    exact sound_stays hpost hsound rfl (World.stream?_congr hvalues) ⟨rfl, rfl⟩
  | misses endpoint e => exact sound_stays hpost hsound rfl (hidle rfl) ⟨rfl, rfl⟩
  | asks s defunct =>
    refine sound_stays hpost hsound ?_ (hidle rfl) ⟨rfl, rfl⟩
    cases defunct <;> rfl
  | passes e r he =>
    refine sound_stays hpost hsound rfl (hidle ?_) ?_
    · cases e <;> first | rfl | cases he
    · cases e <;> first | exact ⟨rfl, rfl⟩ | cases he

/-- A session without a connection never gets one. -/
theorem shut_answered {s : SessionId} (hshut : w.Shut s) : w'.Shut s := by
  obtain ⟨v, hv, hnone⟩ := hshut
  obtain ⟨hstream, -⟩ := hturn.recorded (fun s now held => (hkept.value_of_held hpost held).2) hv
  refine ⟨_, hanswers.value (hturn.handles s) hv, ?_⟩
  rcases hstream with heq | heq
  · exact heq.trans hnone
  · exact heq

/-- What a thread comes to know of sessions without a connection is true. -/
theorem shut_learned {s : SessionId} (hs : s ∈ h'.shut) : w'.Shut s := by
  have hold (hs : s ∈ h.shut) : w'.Shut s :=
    hkept.shut_answered hpost hturn hanswers (hkept.shut t a h hpost s hs)
  cases hturn with
  | returns s' now r held unmarked =>
    cases hstream : now.stream with
    | some c =>
      rw [hstream] at hs
      exact hold hs
    | none =>
      rw [hstream] at hs
      rcases List.mem_cons.1 hs with rfl | hs
      · obtain ⟨-, hvalue⟩ := hkept.value_of_held hpost held
        rw [World.Shut, hanswers.release, (jostles_leave t _ s).value]
        exact ⟨now, hvalue, hstream⟩
      · exact hold hs
  | asks s' defunct =>
    cases defunct with
    | false => exact hold hs
    | true =>
      rcases List.mem_cons.1 hs with rfl | hs
      · -- the mark of a call would have somebody hold the session, and nobody does
        obtain ⟨v, hvalue, hclosed, hfree⟩ := hanswers.isDefunct
        refine ⟨v, (congrArg (valueAt · s) (hanswers.sessions rfl)).trans hvalue, ?_⟩
        by_contra hopen
        have hmark : v.inFlight = true := by
          rcases Bool.or_eq_true_iff.1 hclosed with hnone | hmark
          · exact absurd (Option.isNone_iff_eq_none.1 hnone) hopen
          · exact hmark
        obtain ⟨t', a', h₀, now, hpost', hheld⟩ := hkept.marked s v hvalue hopen hmark
        obtain ⟨hholder, -⟩ := hkept.value_of_held hpost' hheld
        rw [hfree] at hholder
        cases hholder
      · exact hold hs
  | _ => exact hold hs

theorem marked_answered {s : SessionId} {v : Session} (hv : valueAt w'.bed.sessions s = some v)
    (hstream : v.stream ≠ none) (hmark : v.inFlight = true) :
    ∃ t' a' h₀ now, Function.update Q t (some (a, h')) t' = some (a', h₀) ∧
      h₀.held = some (s, now) := by
  have hself (hheld : ∃ now, h'.held = some (s, now)) : ∃ t' a' h₀ now,
      Function.update Q t (some (a, h')) t' = some (a', h₀) ∧ h₀.held = some (s, now) := by
    obtain ⟨now, hheld⟩ := hheld
    exact ⟨t, a, h', now, Function.update_self .., hheld⟩
  rcases hturn.value_before hanswers hv with ⟨v₀, hv₀, rfl⟩ | ⟨-, hidle⟩
  · obtain ⟨-, hsame | hheld⟩ :=
      hturn.recorded (fun s now held => (hkept.value_of_held hpost held).2) hv₀
    · rw [hsame] at hstream hmark
      obtain ⟨t', a', h₀, now, hpost', hheld⟩ := hkept.marked s v₀ hv₀ hstream hmark
      by_cases heq : t' = t
      · -- the thread holds the session still: it would not have given it back with its mark
        subst heq
        obtain ⟨rfl, rfl⟩ := Prod.mk.inj (Option.some.inj (hpost.symm.trans hpost'))
        obtain ⟨-, hvalue⟩ := hkept.value_of_held hpost hheld
        obtain rfl := Option.some.inj (hv₀.symm.trans hvalue)
        cases hturn with
        | returns s' now' r held unmarked =>
          rw [hheld] at held
          cases held
          rcases unmarked with hnone | hidle
          · exact absurd hnone hstream
          · rw [hmark] at hidle
            cases hidle
        | takes s' v' free =>
          rw [hheld] at free
          cases free
        | records s' now' v' r held | parts s' now' v' c r held =>
          rw [hheld] at held
          cases held
          exact hself ⟨_, rfl⟩
        | asks s' defunct =>
          refine hself ⟨v₀, ?_⟩
          cases defunct <;> exact hheld
        | _ => exact hself ⟨v₀, hheld⟩
      · exact ⟨t', a', h₀, now, by rw [Function.update_of_ne heq]; exact hpost', hheld⟩
    · exact hself hheld
  · rw [hidle] at hmark
    cases hmark

theorem carried_answered {s : SessionId} (hs : w'.stream? s ≠ none) :
    before s ∨ ∃ t' a' h₀, Function.update Q t (some (a, h')) t' = some (a', h₀) ∧
      s ∈ h₀.opened := by
  obtain ⟨v, hv, hstream⟩ : ∃ v, valueAt w'.bed.sessions s = some v ∧ v.stream ≠ none := by
    obtain ⟨c, hc⟩ := Option.ne_none_iff_exists'.1 hs
    obtain ⟨v, hv, hstream⟩ := Option.bind_eq_some_iff.1 hc
    exact ⟨v, hv, by rw [hstream]; exact Option.some_ne_none c⟩
  rcases hturn.value_before hanswers hv with ⟨v₀, hv₀, rfl⟩ | ⟨hopened, -⟩
  · obtain ⟨hsame | hnone, -⟩ :=
      hturn.recorded (fun s now held => (hkept.value_of_held hpost held).2) hv₀
    · rw [hsame, ← World.stream?_of_value hv₀] at hstream
      refine (hkept.carried s hstream).imp_right ?_
      rintro ⟨t', a', h₀, hpost', hopened⟩
      obtain ⟨h₁, hposted, hkept⟩ := Posts.exists_update
        (R := fun h₀ h₁ => s ∈ h₀.opened → s ∈ h₁.opened) (fun _ => id)
        (.inr ⟨h, hpost, hturn.opened⟩) hpost'
      exact ⟨t', a', h₁, hposted, hkept hopened⟩
    · exact absurd hnone hstream
  · exact .inr ⟨t, a, h', Function.update_self .., hopened⟩

theorem answered : Kept base before (Function.update Q t (some (a, h'))) w' where
  custody s := (hkept.custody s).answered hpost hanswers (hturn.handles s)
  sound := by
    obtain ⟨news, hnews, hsound, hopened⟩ := hkept.sound
    obtain ⟨g, g', hpast, hg, hg'⟩ := hanswers.past
    refine ⟨news ++ (g ++ .answered t e r :: g'), by rw [hpast, hnews, List.append_assoc], ?_, ?_⟩
    · rw [Posts.holdings, Chronicle.opened_append, Chronicle.hungUp_append,
        Chronicle.opened_among hg hg', Chronicle.hungUp_among hg hg']
      exact hkept.sound_answered hpost hturn hanswers hsound hopened
    · rw [Chronicle.opened_append, Chronicle.opened_among hg hg']
      intro c hc
      rcases List.mem_append.1 hc with hc | hc
      · exact hanswers.has (hopened c hc)
      · cases hturn with
        | opens endpoint c' free =>
          obtain rfl := List.mem_singleton.1 hc
          exact hanswers.dial_new.2
        | passes e r he => cases e <;> first | cases hc | cases he
        | _ => cases hc
  marked _ _ hv hstream hmark := hkept.marked_answered hpost hturn hanswers hv hstream hmark
  shut t' a' h₀ hpost' s hs := by
    rcases Posts.of_update hpost' with ⟨-, -, rfl⟩ | ⟨-, hpost'⟩
    · exact hkept.shut_learned hpost hturn hanswers hs
    · exact hkept.shut_answered hpost hturn hanswers (hkept.shut t' a' h₀ hpost' s hs)
  carried _ hs := hkept.carried_answered hpost hturn hanswers hs

end Answered
end Kept
end ClusterProbe
