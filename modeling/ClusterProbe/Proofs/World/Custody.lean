import ClusterProbe.Proofs.World.Crew
import ClusterProbe.Proofs.World.Queues

/-!
# One session, many threads

A thread that takes a session, records states of it and gives it back, and leaves all other sessions
alone, knows the state of the session as long as it holds it: nobody else can record one. So what a
crew believes about a session that its threads handle in this way is true of it (`Posts.Custody`).
-/
namespace ClusterProbe

open Shared

variable {t : ThreadId} {s : SessionId} {c : ConnectionId} {w w' : World}

/-- The session that an effect takes, changes or gives back. -/
def Effect.handled? : Effect → Option SessionId
  | .acquire s | .store s _ | .release s => some s
  | _ => none

/-- What an effect on session `s` does to what a thread holds of it. -/
inductive Handles (s : SessionId) :
    Option Session → (e : Effect) → e.Response → Option Session → Prop
  | takes (v : Session) : Handles s none (.acquire s) v (some v)
  | records (v v' : Session) (r : Unit) : Handles s (some v) (.store s v') r (some v')
  | returns (held : Option Session) (r : Unit) : Handles s held (.release s) r none
  | other {held : Option Session} {e : Effect} {r : e.Response} (he : e.touchesSessions = false) :
      Handles s held e r held
  /-- A new session is opened. -/
  | opens (held : Option Session) (endpoint : Endpoint) (c : ConnectionId) (r : SessionId) :
      Handles s held (.openSession endpoint c) r held
  /-- Another session is handled. -/
  | elsewhere {s' : SessionId} {e : Effect} {r : e.Response} (he : e.handled? = some s')
      (hne : s' ≠ s) : Handles s none e r none

/-- The state of session `s` after the effect, when it was `v` before. -/
def Effect.recorded (s : SessionId) (v : Session) : Effect → Session
  | .store s' v' => if s' = s then v' else v
  | _ => v

/-- Nothing is recorded of a session that is not held. -/
theorem Handles.recorded {e : Effect} {r : e.Response} {held : Option Session}
    (h : Handles s none e r held) (v : Session) : e.recorded s v = v := by
  cases h with
  | elsewhere he hne =>
    cases e with
    | store s' v' =>
      obtain rfl := Option.some.inj he
      exact if_neg hne
    | _ => rfl
  | other he => cases e <;> first | rfl | cases he
  | _ => rfl

namespace Chronicle

variable {g h : Chronicle} {v : Session}

/-- The state of session `s` after all this, when it was `v` before. -/
def state (s : SessionId) (v : Session) (h : Chronicle) : Session :=
  (h.stored s).getLastD v

theorem state_append : (g ++ h).state s v = h.state s (g.state s v) := by
  rw [state, stored_append]
  cases hstored : h.stored s with
  | nil => simp [state, hstored]
  | cons u us => simp [state, hstored, List.getLastD_eq_getLast?]

theorem state_of_idle {e : Effect} (hg : ∀ ev ∈ g, ev.Idle e) : g.state s v = v := by
  have hstored : g.stored s = [] := List.filterMap_eq_nil_iff.2 fun ev hev => (hg ev hev).stored s
  rw [state, hstored]
  rfl

/-- Between idle events only one is an answer. -/
theorem eq_of_mem_answered {g' : Chronicle} {e e' : Effect} {r : e.Response} {r' : e'.Response}
    {t' : ThreadId} (hg : ∀ ev ∈ g, ev.Idle e) (hg' : ∀ ev ∈ g', ev.Idle e)
    (h : Event.answered t' e' r' ∈ g ++ .answered t e r :: g') :
    Event.answered t' e' r' = .answered t e r := by
  rcases List.mem_append.1 h with hmem | hmem
  · exact (hg _ hmem).elim
  · rcases List.mem_cons.1 hmem with heq | hmem
    · exact heq
    · exact (hg' _ hmem).elim

theorem state_answered (e : Effect) (r : e.Response) :
    Chronicle.state s v [.answered t e r] = e.recorded s v := by
  cases e with
  | store s' v' =>
    by_cases hs : s' = s
    · simp [state, Event.stored, Effect.recorded, hs]
    · simp [state, Event.stored, Effect.recorded, hs]
  | _ => rfl

/-- Between idle events only one records. -/
theorem state_answered_among {g' : Chronicle} {e : Effect} {r : e.Response}
    (hg : ∀ ev ∈ g, ev.Idle e) (hg' : ∀ ev ∈ g', ev.Idle e) :
    (g ++ .answered t e r :: g').state s v = e.recorded s v := by
  rw [state_append, state_of_idle hg, ← List.singleton_append, state_append, state_answered,
    state_of_idle hg']

end Chronicle

namespace World

/-! ## Sessions -/

theorem Answers.sessions {e : Effect} {r : e.Response} (h : w.Answers t e r w')
    (he : e.touchesSessions = false) : w'.bed.sessions = w.bed.sessions := by
  obtain ⟨bed, hanswer | hfails, rfl⟩ := h
  · have hsessions := Testbed.answer_sessions t w.bed he
    rw [hanswer] at hsessions
    exact hsessions
  · exact (Testbed.fails_shares hfails).sessions

theorem Answers.acquire {v : Session} (h : w.Answers t (.acquire s) v w') :
    valueAt w.bed.sessions s = some v ∧ holderAt w'.bed.sessions s = some t ∧
      Jostles t w.bed.sessions w'.bed.sessions := by
  obtain ⟨bed, hanswer | hfails, rfl⟩ := h
  · obtain ⟨hvalue, hholder, hjostles, -⟩ := Testbed.answer_acquire hanswer
    exact ⟨hvalue, hholder, hjostles⟩
  · exact hfails.elim

theorem Answers.store {v : Session} {r : Unit} (h : w.Answers t (.store s v) r w') :
    w'.bed.sessions = w.bed.sessions.modify s fun shared => { shared with value := v } :=
  Settles.store ⟨w, .refl, h⟩

theorem Answers.openSession {endpoint : Endpoint} {r : SessionId}
    (h : w.Answers t (.openSession endpoint c) r w') :
    r = w.bed.sessions.length ∧
      w'.bed.sessions = w.bed.sessions ++ [⟨{ endpoint, stream := some c }, []⟩] :=
  Settles.openSession ⟨w, .refl, h⟩

theorem Answers.release {r : Unit} (h : w.Answers t (.release s) r w') :
    w'.bed.sessions = w.bed.sessions.modify s (Shared.leave t) :=
  Settles.release ⟨w, .refl, h⟩

/-- A session that is found defunct can carry no more calls, and nobody holds it. -/
theorem Answers.isDefunct (h : w.Answers t (.isDefunct s) true w') :
    ∃ v, valueAt w.bed.sessions s = some v ∧ v.isClosed = true ∧
      holderAt w.bed.sessions s = none := by
  obtain ⟨bed, hanswer | hfails, -⟩ := h
  · have hdefunct := Option.some.inj (congrArg Prod.fst hanswer)
    obtain ⟨shared, hshared, hidle⟩ := (Option.any_eq_true _ _).1 hdefunct
    obtain ⟨hqueue, hclosed⟩ := Bool.and_eq_true_iff.1 hidle
    refine ⟨shared.value, ?_, hclosed, ?_⟩
    · rw [valueAt, hshared]
      rfl
    · rw [holderAt, hshared, Option.bind_some, List.isEmpty_iff.1 hqueue]
      rfl
  · exact hfails.elim

/-- A session that a thread has handled has the state that was recorded, or the one it had. -/
theorem Answers.value {e : Effect} {r : e.Response} {held held' : Option Session} {v : Session}
    (h : w.Answers t e r w') (hhandles : Handles s held e r held')
    (hv : valueAt w.bed.sessions s = some v) :
    valueAt w'.bed.sessions s = some (e.recorded s v) := by
  cases hhandles with
  | takes v₀ =>
    obtain ⟨-, -, hjostles⟩ := h.acquire
    exact (hjostles.value s).trans hv
  | records v₀ v' r =>
    rw [h.store, Effect.recorded, if_pos rfl]
    exact valueAt_put_self v' (lt_of_valueAt hv)
  | returns held r =>
    rw [h.release]
    exact ((jostles_leave t _ s).value s).trans hv
  | other he =>
    rw [h.sessions he, hv]
    cases e <;> first | rfl | cases he
  | opens held endpoint c r =>
    obtain ⟨-, hsessions⟩ := h.openSession
    rw [hsessions, valueAt_append _ (lt_of_valueAt hv)]
    exact hv
  | elsewhere he hne =>
    cases e with
    | acquire s' =>
      obtain ⟨-, -, hjostles⟩ := h.acquire
      exact (hjostles.value s).trans hv
    | store s' v' =>
      obtain rfl := Option.some.inj he
      rw [h.store, Effect.recorded, if_neg hne, valueAt_put_ne v' hne]
      exact hv
    | release s' =>
      rw [h.release]
      exact ((jostles_leave t _ s').value s).trans hv
    | _ => cases he

theorem Stalls.jostles {e : Effect} (h : w.Stalls t e w') :
    Jostles t w.bed.sessions w'.bed.sessions ∧
      ∀ s t', holderAt w.bed.sessions s = some t' → holderAt w'.bed.sessions s = some t' := by
  obtain ⟨bed, hstall, rfl⟩ := h
  exact Testbed.stall_jostles_sessions hstall

theorem cancel_jostles (w : World) (t : ThreadId) :
    Jostles t w.bed.sessions (w.cancel t).bed.sessions :=
  jostles_leave_all t w.bed.sessions

/-! ## The bytes on a connection -/

theorem Answers.sent {e : Effect} {r : e.Response} (h : w.Answers t e r w') (c : ConnectionId) :
    w'.past.sent c = w.past.sent c ++ (Event.answered t e r).sent c := by
  obtain ⟨g, g', hpast, hidle, hidle'⟩ := Settles.past ⟨w, .refl, h⟩
  have hquiet {e : Effect} {g : Chronicle} (hg : ∀ ev ∈ g, ev.Idle e) : g.sent c = [] :=
    List.flatMap_eq_nil_iff.2 fun ev hev => (hg ev hev).sent c
  rw [hpast, Chronicle.sent_append, Chronicle.sent_append, Chronicle.sent_cons, hquiet hidle,
    hquiet hidle', List.append_nil, List.nil_append]

/-- What goes on around an answer is nobody's answer. -/
theorem Answers.past {e : Effect} {r : e.Response} (h : w.Answers t e r w') :
    ∃ g g', w'.past = w.past ++ (g ++ .answered t e r :: g') ∧ (∀ ev ∈ g, ev.Idle e) ∧
      ∀ ev ∈ g', ev.Idle e :=
  Settles.past ⟨w, .refl, h⟩

theorem Waits.sent {e : Effect} (h : Waits t e w w') (c : ConnectionId) :
    w'.past.sent c = w.past.sent c := by
  obtain ⟨g, hpast, hidle⟩ := h.past
  have hquiet : g.sent c = [] := List.flatMap_eq_nil_iff.2 fun ev hev => (hidle ev hev).sent c
  rw [hpast, Chronicle.sent_append, hquiet, List.append_nil]

end World

namespace Trade

variable {T : Trade} {S : Type}

/-- What has happened stays so. -/
theorem Conduct.past_keeps (C : T.Conduct S) (w₀ : World) :
    C.Keeps fun _ w => ∃ news, w.past = w₀.past ++ news where
  starts _ h _ := h
  answered := by
    rintro Q w t a st e r w' ⟨news, hnews⟩ - - hanswers
    obtain ⟨g, g', hpast, -⟩ := hanswers.past
    exact ⟨news ++ (g ++ .answered t e r :: g'), by rw [hpast, hnews, List.append_assoc]⟩
  stalled := by
    rintro Q w t a st e w' ⟨news, hnews⟩ - - hstalls
    obtain ⟨g, hpast, -⟩ := World.Waits.past (.stalls .refl hstalls)
    exact ⟨news ++ g, by rw [hpast, hnews, List.append_assoc]⟩
  finished _ h _ _ := h
  cancelled h _ := h
  moves := by
    rintro Q w w' ⟨news, hnews⟩ hmoves
    obtain ⟨g, hpast, -⟩ := World.Waits.past (t := 0) (e := .clock) (.moves .refl hmoves)
    exact ⟨news ++ g, by rw [hpast, hnews, List.append_assoc]⟩

/-- Whoever holds session `s` knows its state. -/
def Posts.Custody (held : S → Option Session) (s : SessionId) (Q : T.Posts S) (bed : Testbed) :
    Prop :=
  ∀ t a st v, Q t = some (a, st) → held st = some v →
    holderAt bed.sessions s = some t ∧ valueAt bed.sessions s = some v

namespace Posts.Custody

variable {held : S → Option Session} {Q : T.Posts S} {bed bed' : Testbed} {a : T.Task} {st st' : S}

theorem of_eq (h : Custody held s Q bed) (hs : bed'.sessions = bed.sessions) :
    Custody held s Q bed' := by
  unfold Custody
  rw [hs]
  exact h

/-- What a thread that holds the session takes its state to be, it is. -/
theorem eq_of_held {v v' : Session} (h : Custody held s Q bed) (hpost : Q t = some (a, st))
    (hvalue : valueAt bed.sessions s = some v) (hheld : held st = some v') : v' = v := by
  obtain ⟨-, hvalue'⟩ := h t a st v' hpost hheld
  exact Option.some.inj (hvalue'.symm.trans hvalue)

theorem stalled {e : Effect} (h : Custody held s Q w.bed) (hs : w.Stalls t e w') :
    Custody held s Q w'.bed := by
  obtain ⟨hjostles, hholders⟩ := hs.jostles
  intro t' a st v hpost hheld
  obtain ⟨hholder, hvalue⟩ := h t' a st v hpost hheld
  exact ⟨hholders s t' hholder, (hjostles.value s).trans hvalue⟩

/-- A thread takes up a post. What it believes there has to be true, and what the others believe
has to stay so. -/
theorem update
    (hself : ∀ v, held st = some v →
      holderAt bed'.sessions s = some t ∧ valueAt bed'.sessions s = some v)
    (hothers : ∀ t' a' st' v, t' ≠ t → Q t' = some (a', st') → held st' = some v →
      holderAt bed'.sessions s = some t' ∧ valueAt bed'.sessions s = some v) :
    Custody held s (Function.update Q t (some (a, st))) bed' := by
  intro t' a' st' v hpost hheld
  rcases Posts.of_update hpost with ⟨rfl, -, rfl⟩ | ⟨hne, hpost⟩
  · exact hself v hheld
  · exact hothers t' a' st' v hne hpost hheld

/-- What the others believe is not changed where the thread joins or leaves a queue. -/
theorem jostled (h : Custody held s Q bed) (hj : Jostles t bed.sessions bed'.sessions)
    {t' : ThreadId} {a' : T.Task} {v : Session} (hne : t' ≠ t) (hpost : Q t' = some (a', st'))
    (hheld : held st' = some v) :
    holderAt bed'.sessions s = some t' ∧ valueAt bed'.sessions s = some v := by
  obtain ⟨hholder, hvalue⟩ := h t' a' st' v hpost hheld
  exact ⟨hj.holder s t' hne hholder, (hj.value s).trans hvalue⟩

/-- A thread whose hands are empty takes up a post. -/
theorem release (h : Custody held s Q bed) (hj : Jostles t bed.sessions bed'.sessions)
    (hfree : held st = none) : Custody held s (Function.update Q t (some (a, st))) bed' := by
  refine update (fun v hheld => ?_) fun _ _ _ _ => h.jostled hj
  rw [hfree] at hheld
  cases hheld

/-- A session has one holder. -/
theorem unique (h : Custody held s Q bed) {t' : ThreadId} {a' : T.Task} {v v' : Session}
    (hpost : Q t = some (a, st)) (hheld : held st = some v) (hpost' : Q t' = some (a', st'))
    (hheld' : held st' = some v') : t = t' := by
  obtain ⟨hholder, -⟩ := h t a st v hpost hheld
  obtain ⟨hholder', -⟩ := h t' a' st' v' hpost' hheld'
  exact Option.some.inj (hholder.symm.trans hholder')

theorem answered {e : Effect} {r : e.Response} (h : Custody held s Q w.bed)
    (hpost : Q t = some (a, st)) (hanswers : w.Answers t e r w')
    (hhandles : Handles s (held st) e r (held st')) :
    Custody held s (Function.update Q t (some (a, st'))) w'.bed := by
  generalize hbefore : held st = before at hhandles
  generalize hafter : held st' = after at hhandles
  cases hhandles with
  | takes v =>
    obtain ⟨hvalue, hholder, hjostles⟩ := hanswers.acquire
    refine update (fun u hheld => ?_) fun _ _ _ _ => h.jostled hjostles
    obtain rfl := Option.some.inj (hafter.symm.trans hheld)
    exact ⟨hholder, (hjostles.value s).trans hvalue⟩
  | records v v' r =>
    obtain ⟨hholder, hvalue⟩ := h t a st v hpost hbefore
    refine update (fun u hheld => ?_) fun t' a' st'' u hne hpost' hheld' => ?_
    · obtain rfl := Option.some.inj (hafter.symm.trans hheld)
      rw [hanswers.store]
      exact ⟨(holderAt_put ..).trans hholder, valueAt_put_self _ (lt_of_valueAt hvalue)⟩
    · exact absurd (h.unique hpost' hheld' hpost hbefore) hne
  | returns _ r =>
    refine h.release ?_ hafter
    rw [hanswers.release]
    exact jostles_leave t _ s
  | other he =>
    unfold Custody
    rw [hanswers.sessions he]
    exact update (fun u hheld => h t a st u hpost (hbefore.trans (hafter.symm.trans hheld)))
      fun t' a' st'' u _ => h t' a' st'' u
  | opens held endpoint c r =>
    obtain ⟨-, hsessions⟩ := hanswers.openSession
    have hbelow {t' : ThreadId} {u : Session}
        (hold : holderAt w.bed.sessions s = some t' ∧ valueAt w.bed.sessions s = some u) :
        holderAt w'.bed.sessions s = some t' ∧ valueAt w'.bed.sessions s = some u := by
      obtain ⟨hholder, hvalue⟩ := hold
      rw [hsessions]
      exact ⟨holderAt_append _ hholder, (valueAt_append _ (lt_of_valueAt hvalue)).trans hvalue⟩
    refine update (fun u hheld => hbelow (h t a st u hpost ?_))
      fun t' a' st'' u _ hpost' hheld' => hbelow (h t' a' st'' u hpost' hheld')
    exact hbefore.trans (hafter.symm.trans hheld)
  | elsewhere he hne =>
    cases e with
    | acquire s' =>
      obtain ⟨-, -, hjostles⟩ := hanswers.acquire
      exact h.release hjostles hafter
    | store s' v' =>
      obtain rfl := Option.some.inj he
      refine update (fun u hheld => ?_) fun t' a' st'' u _ hpost' hheld' => ?_
      · cases hafter.symm.trans hheld
      · rw [hanswers.store, holderAt_put, valueAt_put_ne v' hne]
        exact h t' a' st'' u hpost' hheld'
    | release s' =>
      refine h.release ?_ hafter
      rw [hanswers.release]
      exact jostles_leave t _ s'
    | _ => cases he

end Posts.Custody
end Trade
end ClusterProbe
