import ClusterProbe.Proofs.Session.Closing

/-!
# Call numbers

The counter of a session goes up by one whenever a thread draws a number, and in no other way. So
the numbers are given out in order, each once, and when the last one is gone every thread that asks
for another finds the counter at its end, says so and records nothing. `Chronicle.drawn` reads off
the record of a session who has drawn which number; the invariant that carries everything is that
the counter stands at the length of that list (`Session.Tally`).
-/
namespace ClusterProbe

open Trade Shared

variable {s : SessionId} {t : ThreadId} {w : World} {v v' v₀ u : Session} {news g g' : Chronicle}

/-- The number that an event gives out on session `s`, which is in state `v`, and to whom: a state
with another counter is recorded. -/
def Event.drawn (s : SessionId) (v : Session) : Event → Option (ThreadId × Int32)
  | answered t (.store s' v') _ =>
    if s' = s ∧ v'.lastCallId ≠ v.lastCallId then some (t, v'.lastCallId) else none
  | _ => none

theorem Event.drawn_answered (e : Effect) (r : e.Response) :
    (Event.answered t e r).drawn s v = if (e.recorded s v).lastCallId = v.lastCallId then none
      else some (t, (e.recorded s v).lastCallId) := by
  cases e with
  | store s' v' =>
    by_cases hs : s' = s
    · simp [drawn, Effect.recorded, hs]
    · simp [drawn, Effect.recorded, hs]
  | _ => simp [drawn, Effect.recorded]

namespace Chronicle

/-- The numbers that were given out on session `s`, which was in state `v` before, and to whom. -/
def drawn (s : SessionId) : Session → Chronicle → List (ThreadId × Int32)
  | _, [] => []
  | v, ev :: h => (ev.drawn s v).toList ++ drawn s (state s v [ev]) h

/-- Those that thread `t` got. -/
def drawnBy (s : SessionId) (v : Session) (t : ThreadId) (h : Chronicle) : List Int32 :=
  ((h.drawn s v).filter (·.1 = t)).map Prod.snd

/-- Thread `t` has recorded a state of session `s`. -/
def Records (s : SessionId) (t : ThreadId) (h : Chronicle) : Prop :=
  ∃ v r, Event.answered t (.store s v) r ∈ h

theorem drawn_append : (g ++ g').drawn s v = g.drawn s v ++ g'.drawn s (g.state s v) := by
  induction g generalizing v with
  | nil => rfl
  | cons ev g ih =>
    have hstate : state s v (ev :: g) = state s (state s v [ev]) g :=
      state_append (g := [ev]) (h := g)
    rw [List.cons_append, drawn, drawn, ih, hstate, List.append_assoc]

theorem drawn_of_idle {e : Effect} (h : ∀ ev ∈ g, ev.Idle e) : g.drawn s v = [] := by
  induction g generalizing v with
  | nil => rfl
  | cons ev g ih =>
    have hev : ev.drawn s v = none := by
      cases ev with
      | answered t e r => exact (h _ (List.mem_cons_self ..)).elim
      | _ => rfl
    rw [drawn, hev, ih fun ev' hev' => h ev' (List.mem_cons_of_mem _ hev')]
    rfl

/-- Between idle events only one gives out a number. -/
theorem drawn_answered {e : Effect} {r : e.Response} (hg : ∀ ev ∈ g, ev.Idle e)
    (hg' : ∀ ev ∈ g', ev.Idle e) :
    (g ++ .answered t e r :: g').drawn s v = ((Event.answered t e r).drawn s v).toList := by
  rw [drawn_append, drawn_of_idle hg, state_of_idle hg, drawn, drawn_of_idle hg', List.nil_append,
    List.append_nil]

theorem drawnBy_append :
    (g ++ g').drawnBy s v t = g.drawnBy s v t ++ g'.drawnBy s (g.state s v) t := by
  rw [drawnBy, drawn_append, List.filter_append, List.map_append]
  rfl

theorem drawnBy_answered {e : Effect} {r : e.Response} {t' : ThreadId}
    (hg : ∀ ev ∈ g, ev.Idle e) (hg' : ∀ ev ∈ g', ev.Idle e) :
    (g ++ .answered t e r :: g').drawnBy s v t' =
      if (e.recorded s v).lastCallId = v.lastCallId ∨ t ≠ t' then []
      else [(e.recorded s v).lastCallId] := by
  rw [drawnBy, drawn_answered hg hg', Event.drawn_answered]
  by_cases hsame : (e.recorded s v).lastCallId = v.lastCallId
  · simp [hsame]
  · by_cases ht : t = t'
    · simp [hsame, ht]
    · simp [hsame, ht]

theorem not_records_of_idle {e : Effect} (h : ∀ ev ∈ g, ev.Idle e) : ¬ g.Records s t := by
  rintro ⟨v, r, hmem⟩
  exact h _ hmem

theorem records_append : (g ++ g').Records s t ↔ g.Records s t ∨ g'.Records s t := by
  constructor
  · rintro ⟨v, r, hmem⟩
    exact (List.mem_append.1 hmem).imp (fun h => ⟨v, r, h⟩) fun h => ⟨v, r, h⟩
  · rintro (⟨v, r, hmem⟩ | ⟨v, r, hmem⟩)
    · exact ⟨v, r, List.mem_append_left _ hmem⟩
    · exact ⟨v, r, List.mem_append_right _ hmem⟩

end Chronicle

theorem add_one_ne_of_lt {n : Int32} (h : n < Int32.maxValue) : n + 1 ≠ n := by
  intro heq
  have hnext := toInt_add_one_of_lt h
  rw [heq] at hnext
  omega

namespace Session

variable {a : Operation} {stage : Stage} {Q : (operations s).Posts Stage}

/-! ## What a thread has found and drawn -/

/-- Thread `t` took the session in state `u`: that is how it was left, and the counter tells how
many numbers had been given out. -/
def Found (s : SessionId) (v₀ : Session) (t : ThreadId) (news : Chronicle) (u : Session) : Prop :=
  ∃ before later : Chronicle, news = before ++ .answered t (.acquire s) u :: later ∧
    u = before.state s v₀ ∧
    u.lastCallId.toInt = v₀.lastCallId.toInt + (before.drawn s v₀).length

theorem Found.append (h : Found s v₀ t news u) (g : Chronicle) : Found s v₀ t (news ++ g) u := by
  obtain ⟨before, later, rfl, hu, hcount⟩ := h
  exact ⟨before, later ++ g, by rw [List.append_assoc, List.cons_append], hu, hcount⟩

namespace Stage

/-- A thread stands here, and has found and drawn what it says. -/
structure Counts (s : SessionId) (v₀ : Session) (t : ThreadId) (news : Chronicle) (a : Operation)
    (stage : Stage) : Prop where
  found : ∀ u, stage.found? = some u → Found s v₀ t news u
  fresh : stage = fresh → news.drawnBy s v₀ t = []
  drawn : ∀ found now failed, stage = holding found now failed ∨ stage = left found now failed →
    news.drawnBy s v₀ t =
      if now.lastCallId = found.lastCallId then [] else [now.lastCallId]
  room : news.Records s t → stage = gone ∨ ∃ u, stage.found? = some u ∧
    (a.Draws u → u.lastCallId < Int32.maxValue)

theorem Counts.mono (h : stage.Counts s v₀ t news a)
    (hdrawn : (news ++ g).drawnBy s v₀ t = news.drawnBy s v₀ t) (hrecords : ¬ g.Records s t) :
    stage.Counts s v₀ t (news ++ g) a where
  found u hu := (h.found u hu).append g
  fresh hfresh := hdrawn.trans (h.fresh hfresh)
  drawn found now failed hstage := hdrawn.trans (h.drawn found now failed hstage)
  room hnews := h.room ((Chronicle.records_append.1 hnews).resolve_right hrecords)

/-- A thread that holds the session finds and draws nothing more when it logs or gives it back. -/
theorem Counts.keeps {found now : Session} {failed failed' : Bool}
    (h : (holding found now failed).Counts s v₀ t news a)
    (hstage : stage = holding found now failed' ∨ stage = left found now failed') :
    stage.Counts s v₀ t news a := by
  obtain rfl | rfl := hstage
  all_goals
    refine ⟨h.found, nofun, fun found' now' failed' hstage => ?_, fun hrecords =>
      .inr ((h.room hrecords).resolve_left nofun)⟩
    obtain heq | heq := hstage <;> cases heq
    exact h.drawn _ _ _ (.inl rfl)

/-- A thread that takes the session finds it as it was left. -/
theorem Counts.takes {before later : Chronicle} (h : Stage.fresh.Counts s v₀ t news a)
    (hnews : news = before ++ .answered t (.acquire s) v :: later) (hstate : before.state s v₀ = v)
    (hcount : v.lastCallId.toInt = v₀.lastCallId.toInt + (before.drawn s v₀).length) :
    (holding v v false).Counts s v₀ t news a where
  found u hu := by
    cases hu
    exact ⟨before, later, hnews, hstate.symm, hcount⟩
  fresh := nofun
  drawn found now failed hstage := by
    obtain heq | heq := hstage <;> cases heq
    rw [h.fresh rfl, if_pos rfl]
  room hrecords := by
    obtain hgone | ⟨u, hu, -⟩ := h.room hrecords
    · cases hgone
    · cases hu

/-- A thread that records a state with another counter draws that number. -/
theorem Counts.records {found now new : Session} {failed failed' : Bool}
    (h : (holding found now failed).Counts s v₀ t news a)
    (hrecords : a.Records found now new)
    (hdrawn : (news ++ g).drawnBy s v₀ t = news.drawnBy s v₀ t ++
      if new.lastCallId = now.lastCallId ∨ t ≠ t then [] else [new.lastCallId]) :
    (holding found new failed').Counts s v₀ t (news ++ g) a where
  found u hu := (h.found u hu).append g
  fresh := nofun
  drawn found' now' failed' hstage := by
    obtain heq | heq := hstage <;> cases heq
    rw [h.drawn found now failed (.inl rfl)] at hdrawn
    rcases hrecords.number with hsame | ⟨rfl, hasks, hnext⟩
    · rw [if_pos (Or.inl hsame), List.append_nil] at hdrawn
      rw [hdrawn, hsame]
    · have hmoved : new.lastCallId ≠ now.lastCallId := by
        rw [hnext]
        exact add_one_ne_of_lt (hrecords.room hasks)
      rw [hdrawn, if_pos rfl, if_neg (by simp [hmoved]), if_neg hmoved, List.nil_append]
  room _ := .inr ⟨found, rfl, hrecords.room⟩

/-- What the thread itself gets next. -/
theorem Counts.after {e : Effect} {r : e.Response} (h : stage.Counts s v₀ t news a)
    (hallows : stage.Allows s a e) (hheld : ∀ now, stage.held = some now → now = v)
    (htakes : ∀ u, Event.answered t e r = .answered t (.acquire s) u → u = v)
    (hstate : news.state s v₀ = v)
    (hcount : v.lastCallId.toInt = v₀.lastCallId.toInt + (news.drawn s v₀).length)
    (hg : ∀ ev ∈ g, ev.Idle e) (hg' : ∀ ev ∈ g', ev.Idle e) :
    (stage.after e r).Counts s v₀ t (news ++ (g ++ .answered t e r :: g')) a := by
  have hdrawn : (news ++ (g ++ .answered t e r :: g')).drawnBy s v₀ t = _ :=
    Chronicle.drawnBy_append
  rw [hstate, Chronicle.drawnBy_answered hg hg'] at hdrawn
  have hstill (hsame : e.recorded s v = v) (hno : ∀ u, e ≠ .store s u) :
      stage.Counts s v₀ t (news ++ (g ++ .answered t e r :: g')) a := by
    refine h.mono ?_ ?_
    · rw [hdrawn, if_pos (.inl (congrArg lastCallId hsame)), List.append_nil]
    · rintro ⟨u, r', hmem⟩
      cases Chronicle.eq_of_mem_answered hg hg' hmem
      exact hno u rfl
  by_cases hquiet : e.isQuiet = true
  · have huntouching := Effect.isQuiet_untouching hquiet
    rw [after_quiet hquiet]
    refine hstill (recorded_of_untouching huntouching v) ?_
    rintro u rfl
    cases huntouching
  cases stage with
  | fresh =>
    cases e with
    | acquire s' =>
      obtain rfl : s' = s := hallows
      obtain rfl : r = v := htakes r rfl
      refine (hstill rfl nofun).takes (List.append_assoc ..).symm ?_ ?_
      · rw [Chronicle.state_append, hstate, Chronicle.state_of_idle hg]
      · rw [Chronicle.drawn_append, Chronicle.drawn_of_idle hg, List.append_nil, hcount]
    | _ => exact absurd hallows hquiet
  | holding found now failed =>
    obtain rfl : now = v := hheld now rfl
    cases e with
    | store s' new =>
      obtain ⟨rfl, hrecords⟩ := hallows
      rw [show (Effect.store s' new).recorded s' now = new from if_pos rfl] at hdrawn
      exact h.records hrecords hdrawn
    | release s' => exact (hstill rfl nofun).keeps (.inr rfl)
    | log event => exact (hstill rfl nofun).keeps (.inl rfl)
    | _ => exact absurd hallows hquiet
  | _ => cases e <;> exact absurd hallows hquiet

/-- The counter stays, or goes up by one. -/
theorem counter_step {e : Effect} (hallows : stage.Allows s a e)
    (hheld : ∀ now, stage.held = some now → now = v) :
    (e.recorded s v).lastCallId = v.lastCallId ∨
      (e.recorded s v).lastCallId.toInt = v.lastCallId.toInt + 1 := by
  rcases records hallows hheld with heq | ⟨found, failed, -, hrecords⟩
  · exact .inl (congrArg lastCallId heq)
  · rcases hrecords.number with hsame | ⟨rfl, hasks, hnext⟩
    · exact .inl hsame
    · rw [hnext]
      exact .inr (toInt_add_one_of_lt (hrecords.room hasks))

end Stage

/-! ## The counter and the numbers -/

/-- What session `s`, which was in state `v₀`, has given out, and to whom. -/
structure Tally (s : SessionId) (v₀ : Session) (Q : (operations s).Posts Stage) (bed : Testbed)
    (news : Chronicle) (v : Session) : Prop where
  value : valueAt bed.sessions s = some v
  custody : Q.Custody Stage.held s bed
  state : news.state s v₀ = v
  counter : v.lastCallId.toInt = v₀.lastCallId.toInt + (news.drawn s v₀).length
  inOrder : (news.drawn s v₀).map (fun d => d.2.toInt) =
    (List.range (news.drawn s v₀).length).map fun i : Nat => v₀.lastCallId.toInt + i + 1
  counts : ∀ t a stage, Q t = some (a, stage) → stage.Counts s v₀ t news a
  vacant : ∀ t, Q t = none → news.drawnBy s v₀ t = [] ∧ ¬ news.Records s t

namespace Tally

variable {bed bed' : Testbed}

/-- Nothing is given out and nobody has recorded anything. -/
theorem still {e : Effect} (h : Tally s v₀ Q bed news v)
    (hvalue : valueAt bed'.sessions s = some v) (hcustody : Q.Custody Stage.held s bed')
    (hg : ∀ ev ∈ g, ev.Idle e) : Tally s v₀ Q bed' (news ++ g) v := by
  have hdrawn : (news ++ g).drawn s v₀ = news.drawn s v₀ := by
    rw [Chronicle.drawn_append, Chronicle.drawn_of_idle hg, List.append_nil]
  have hby (t : ThreadId) : (news ++ g).drawnBy s v₀ t = news.drawnBy s v₀ t := by
    rw [Chronicle.drawnBy, hdrawn]
    rfl
  exact {
    value := hvalue
    custody := hcustody
    state := by rw [Chronicle.state_append, h.state, Chronicle.state_of_idle hg]
    counter := by
      rw [hdrawn]
      exact h.counter
    inOrder := by
      rw [hdrawn]
      exact h.inOrder
    counts := fun t a stage ht =>
      (h.counts t a stage ht).mono (hby t) (Chronicle.not_records_of_idle hg)
    vacant := fun t ht => ⟨(hby t).trans (h.vacant t ht).1, fun hrecords =>
      (Chronicle.records_append.1 hrecords).elim (h.vacant t ht).2
        (Chronicle.not_records_of_idle hg)⟩ }

/-- A thread gives up its hold on the session, or never had one. -/
theorem released {stage : Stage} (h : Tally s v₀ Q bed news v)
    (hj : Jostles t bed.sessions bed'.sessions) (hheld : stage.held = none)
    (hcounts : stage.Counts s v₀ t news a) :
    Tally s v₀ (Function.update Q t (some (a, stage))) bed' news v := by
  refine ⟨(hj.value s).trans h.value, h.custody.release hj hheld, h.state, h.counter, h.inOrder,
    fun t' a' stage' ht' => ?_, fun t' ht' => ?_⟩
  · rcases Posts.of_update ht' with ⟨rfl, rfl, rfl⟩ | ⟨-, ht'⟩
    · exact hcounts
    · exact h.counts t' a' stage' ht'
  · exact h.vacant t' (Posts.of_update_eq_none ht').2

/-- The counter is moved by nothing but a number that is given out, and that is the next one. -/
theorem drawn_next (h : Tally s v₀ Q bed news v)
    (hcounter : v'.lastCallId = v.lastCallId ∨ v'.lastCallId.toInt = v.lastCallId.toInt + 1)
    {drawn : List (ThreadId × Int32)} (hdrawn : drawn = news.drawn s v₀ ++
      (if v'.lastCallId = v.lastCallId then none else some (t, v'.lastCallId)).toList) :
    v'.lastCallId.toInt = v₀.lastCallId.toInt + drawn.length ∧
      drawn.map (fun d => d.2.toInt) =
        (List.range drawn.length).map fun i : Nat => v₀.lastCallId.toInt + i + 1 := by
  subst hdrawn
  rcases hcounter with hsame | hnext
  · rw [hsame, if_pos rfl, Option.toList_none, List.append_nil]
    exact ⟨h.counter, h.inOrder⟩
  · have hmoved : v'.lastCallId ≠ v.lastCallId := by
      intro heq
      rw [heq] at hnext
      omega
    rw [if_neg hmoved, Option.toList_some, List.length_append, List.length_singleton]
    constructor
    · rw [hnext, h.counter]
      omega
    · rw [List.map_append, h.inOrder, List.range_succ, List.map_append, List.map_singleton,
        List.map_singleton, hnext, h.counter]

theorem answered {e : Effect} {r : e.Response} {w' : World} (h : Tally s v₀ Q w.bed news v)
    (hpost : Q t = some (a, stage)) (hallows : stage.Allows s a e) (hanswers : w.Answers t e r w')
    (hg : ∀ ev ∈ g, ev.Idle e) (hg' : ∀ ev ∈ g', ev.Idle e) :
    Tally s v₀ (Function.update Q t (some (a, stage.after e r))) w'.bed
      (news ++ (g ++ .answered t e r :: g')) (e.recorded s v) := by
  have hhandles := Stage.handles hallows r
  have hheld (now : Session) : stage.held = some now → now = v :=
    h.custody.eq_of_held hpost h.value
  have hdrawn : (news ++ (g ++ .answered t e r :: g')).drawn s v₀ = _ := Chronicle.drawn_append
  rw [h.state, Chronicle.drawn_answered hg hg', Event.drawn_answered] at hdrawn
  obtain ⟨hcounter, hinOrder⟩ := h.drawn_next (Stage.counter_step hallows hheld) hdrawn
  have hby (t' : ThreadId) (hne : t' ≠ t) :
      (news ++ (g ++ .answered t e r :: g')).drawnBy s v₀ t' = news.drawnBy s v₀ t' := by
    rw [Chronicle.drawnBy_append, h.state, Chronicle.drawnBy_answered hg hg',
      if_pos (.inr hne.symm), List.append_nil]
  have hrecords (t' : ThreadId) (hne : t' ≠ t) :
      ¬ Chronicle.Records s t' (g ++ .answered t e r :: g') := by
    rintro ⟨u, r', hmem⟩
    cases Chronicle.eq_of_mem_answered hg hg' hmem
    exact hne rfl
  exact {
    value := hanswers.value hhandles h.value
    custody := h.custody.answered hpost hanswers hhandles
    state := by rw [Chronicle.state_append, h.state, Chronicle.state_answered_among hg hg']
    counter := hcounter
    inOrder := hinOrder
    counts := fun t' a' stage' ht' => by
      rcases Posts.of_update ht' with ⟨rfl, rfl, rfl⟩ | ⟨hne, ht'⟩
      · refine (h.counts t' a' stage hpost).after hallows hheld ?_ h.state h.counter hg hg'
        intro u heq
        cases heq
        obtain ⟨hvalue, -⟩ := hanswers.acquire
        rw [h.value] at hvalue
        exact (Option.some.inj hvalue).symm
      · exact (h.counts t' a' stage' ht').mono (hby t' hne) (hrecords t' hne)
    vacant := fun t' ht' => by
      obtain ⟨hne, ht'⟩ := Posts.of_update_eq_none ht'
      refine ⟨(hby t' hne).trans (h.vacant t' ht').1, fun hnews => ?_⟩
      exact (Chronicle.records_append.1 hnews).elim (h.vacant t' ht').2 (hrecords t' hne) }

end Tally

/-- Each operation keeps the tally. -/
theorem tally_keeps (s : SessionId) (v₀ : Session) (w₀ : World) :
    (operationConduct s).Keeps fun Q w =>
      ∃ news v, w.past = w₀.past ++ news ∧ Tally s v₀ Q w.bed news v where
  starts := by
    rintro Q w t a ⟨news, v, hpast, h⟩ hvacant
    obtain ⟨hdrawn, hrecords⟩ := h.vacant t hvacant
    refine ⟨news, v, hpast, h.released (.refl t _) rfl ?_⟩
    exact ⟨nofun, fun _ => hdrawn, nofun, fun hnews => absurd hnews hrecords⟩
  answered := by
    rintro Q w t a stage e r w' ⟨news, v, hpast, h⟩ hpost hallows hanswers
    obtain ⟨g, g', hnews, hg, hg'⟩ := hanswers.past
    exact ⟨_, _, by rw [hnews, hpast, List.append_assoc],
      h.answered hpost hallows hanswers hg hg'⟩
  stalled := by
    rintro Q w t a stage e w' ⟨news, v, hpast, h⟩ hpost hallows hstalls
    obtain ⟨g, hnews, hidle⟩ := World.Waits.past (.stalls .refl hstalls)
    refine ⟨news ++ g, v, by rw [hnews, hpast, List.append_assoc], h.still ?_ ?_ hidle⟩
    · exact (hstalls.jostles.1.value s).trans h.value
    · exact h.custody.stalled hstalls
  finished := by
    rintro Q w t a stage r ⟨news, v, hpast, h⟩ hpost hends
    exact ⟨news, v, hpast, h.value, h.custody, h.state, h.counter, h.inOrder, h.counts, h.vacant⟩
  cancelled := by
    rintro Q w t a stage ⟨news, v, hpast, h⟩ hpost
    refine ⟨news, v, hpast, h.released (w.cancel_jostles t) rfl ?_⟩
    exact ⟨nofun, nofun, nofun, fun _ => .inl rfl⟩
  moves := by
    rintro Q w w' ⟨news, v, hpast, h⟩ hmoves
    obtain ⟨g, hnews, hidle⟩ := World.Waits.past (t := 0) (e := .clock) (.moves .refl hmoves)
    have hsessions := hmoves.shares.sessions
    refine ⟨news ++ g, v, by rw [hnews, hpast, List.append_assoc], h.still ?_ ?_ hidle⟩
    · rw [hsessions]
      exact h.value
    · exact h.custody.of_eq hsessions

/-! ## Every crew -/

/-- The numbers that were given out on session `s` since it was in state `v₀` are those that follow
its counter, in order and without gaps, and it is now in state `v`, with the last of them. -/
structure GivesInOrder (s : SessionId) (v₀ : Session) (news : Chronicle) (v : Session) : Prop where
  numbers : (news.drawn s v₀).map (fun d => d.2.toInt) =
    (List.range (news.drawn s v₀).length).map fun i : Nat => v₀.lastCallId.toInt + i + 1
  counter : v.lastCallId.toInt = v₀.lastCallId.toInt + (news.drawn s v₀).length

/-- Thread `t`, which has come to its end with result `r`, has taken session `s` after all that
stands in `before`, and found it in state `found`. -/
structure Served (s : SessionId) (v₀ : Session) (news : Chronicle) (t : ThreadId) (a : Operation)
    (r : a.Result) (before : Chronicle) (found : Session) : Prop where
  took : ∃ later, news = before ++ .answered t (.acquire s) found :: later
  found_eq : found = before.state s v₀
  /-- It got a number if it asked for one and one was left, and its result says so. -/
  turn : ∃ drawn, a.Turn found r drawn ∧ news.drawnBy s v₀ t = drawn.toList
  /-- Once the last number has been given out, the counter stays where it is. -/
  full : (∃ t', (t', Int32.maxValue) ∈ before.drawn s v₀) → found.lastCallId = Int32.maxValue
  /-- Who asks for a number then records nothing at all. -/
  untouched : a.Draws found → found.lastCallId = Int32.maxValue → ¬ news.Records s t

theorem Tally.givesInOrder {bed : Testbed} (h : Tally s v₀ Q bed news v) :
    GivesInOrder s v₀ news v :=
  ⟨h.inOrder, h.counter⟩

/-- A number that was given out is not above the counter. -/
theorem GivesInOrder.full {before later : Chronicle} {found : Session}
    (h : GivesInOrder s v₀ news v) (hnews : news = before ++ later)
    (hcount : found.lastCallId.toInt = v₀.lastCallId.toInt + (before.drawn s v₀).length)
    (hlast : ∃ t', (t', Int32.maxValue) ∈ before.drawn s v₀) :
    found.lastCallId = Int32.maxValue := by
  obtain ⟨t', hmem⟩ := hlast
  obtain ⟨i, hi, hget⟩ := List.getElem_of_mem hmem
  have hlen : (news.drawn s v₀).length =
      (before.drawn s v₀).length + (later.drawn s (before.state s v₀)).length := by
    rw [hnews, Chronicle.drawn_append, List.length_append]
  have hat : (news.drawn s v₀)[i]? = some (t', Int32.maxValue) := by
    rw [hnews, Chronicle.drawn_append, List.getElem?_append_left hi, List.getElem?_eq_getElem hi,
      hget]
  have hnumber := congrArg (fun l => l[i]?) h.numbers
  simp only [List.getElem?_map, hat, List.getElem?_range (hlen ▸ Nat.lt_add_right _ hi),
    Option.map_some, Option.some.injEq] at hnumber
  apply eq_maxValue_of_not_lt
  rw [Int32.lt_iff_toInt_lt]
  omega

variable {σ : (operations s).Crew}

/-- **Numbers in order.** Whatever a crew does with a session: the call numbers that are given out
are the next ones after its counter, in order, none twice and none left out. A thread that has come
to its end has drawn the number after the one it found, and reports it, or has drawn none: because
it asked for none, as who would start a call on a session that is closed or out of step, or because
there is none any more. Once the last number has been given out, whoever asks for one is told so and
leaves the session as it is. -/
theorem numbers_in_order {v₀ : Session} (hvalue : valueAt w.bed.sessions s = some v₀)
    (hreach : Crew.Reaches (T := operations s) ⟨w, []⟩ σ) :
    ∃ news v, σ.world.past = w.past ++ news ∧ valueAt σ.world.bed.sessions s = some v ∧
      GivesInOrder s v₀ news v ∧ ∀ t a r, σ.workers[t]? = some ⟨a, .finished r⟩ →
        ∃ before found, Served s v₀ news t a r before found := by
  have hstart : Tally s v₀ (fun _ => none) w.bed [] v₀ := by
    refine ⟨hvalue, ?_, rfl, (Int.add_zero _).symm, rfl, ?_, fun t _ => ⟨rfl, ?_⟩⟩
    · rintro t a stage now ⟨⟩
    · rintro t a stage ⟨⟩
    · rintro ⟨u, r, ⟨⟩⟩
  obtain ⟨Q, hQ, news, v, hnews, h⟩ := (tally_keeps s v₀ w).reaches hreach
    (Conduct.manned_start w) ⟨[], v₀, (List.append_nil _).symm, hstart⟩
  refine ⟨news, v, hnews, h.value, h.givesInOrder, fun t a r hworker => ?_⟩
  obtain ⟨stage, hpost, found, now, failed, rfl, houtcome⟩ := hQ.stands t _ hworker
  have hcounts := h.counts t a _ hpost
  obtain ⟨before, later, hsplit, hfound, hcount⟩ := hcounts.found found rfl
  obtain ⟨drawn, hturn, hnow⟩ := houtcome.turn
  have hmine := hcounts.drawn found now failed (.inr rfl)
  refine ⟨before, found, ⟨later, hsplit⟩, hfound, ⟨drawn, hturn, ?_⟩,
    h.givesInOrder.full hsplit hcount, fun hasks hfull hrecords => ?_⟩
  · cases hturn with
    | given hasks room htells =>
      rw [hmine, hnow, Option.getD_some, if_neg (add_one_ne_of_lt room)]
      rfl
    | exhausted | passed =>
      rw [hmine, hnow, Option.getD_none, if_pos rfl]
      rfl
  · obtain hgone | ⟨u, hu, hroom⟩ := hcounts.room hrecords
    · cases hgone
    · cases hu
      have hlt := hroom hasks
      rw [hfull] at hlt
      exact absurd hlt (by decide)

/-- A session on which one more call can be numbered. -/
def nearlySpent : Session :=
  { endpoint := ⟨"n1", 7100⟩, stream := some 0, lastCallId := Int32.maxValue - 1 }

/-- The last number is given to a call, which ends; the next call gets none. -/
theorem numbers_in_order_last : ∃ σ news v before found,
    Crew.Reaches (T := operations 0) ⟨{ bed := { sessions := [⟨nearlySpent, []⟩] } }, []⟩ σ ∧
      σ.workers = [⟨.begin, .finished (.ok Int32.maxValue)⟩, ⟨.finishCall, .finished ()⟩,
        ⟨.begin, .finished (.error (.protocol .callIdsExhausted))⟩] ∧
      GivesInOrder 0 nearlySpent news v ∧
      Served 0 nearlySpent news 2 .begin (.error (.protocol .callIdsExhausted)) before found := by
  let w : World := { bed := { sessions := [⟨nearlySpent, []⟩] } }
  have hplay : (w.visit 0 (Session.begin 0) []).any (fun x => decide (x.1 = .ok Int32.maxValue) &&
      (x.2.visit 1 (Session.finishCall 0) []).any fun y =>
        (y.2.visit 2 (Session.begin 0) []).any fun z =>
          decide (z.1 = .error (.protocol .callIdsExhausted))) = true := by
    decide +kernel
  obtain ⟨⟨_, w₁⟩, hbegun, hchecks⟩ := (Option.any_eq_true _ _).1 hplay
  obtain ⟨hlast, hchecks⟩ := Bool.and_eq_true_iff.1 hchecks
  obtain rfl := of_decide_eq_true hlast
  obtain ⟨⟨_, w₂⟩, hfinished, hchecks⟩ := (Option.any_eq_true _ _).1 hchecks
  obtain ⟨⟨_, w₃⟩, hrefused, hnone⟩ := (Option.any_eq_true _ _).1 hchecks
  obtain rfl := of_decide_eq_true hnone
  have hfirst : Crew.Reaches (T := operations 0) ⟨w, []⟩
      ⟨w₁, [⟨.begin, .finished (.ok Int32.maxValue)⟩]⟩ :=
    Crew.reaches_of_visit (T := operations 0) .begin hbegun
  have hsecond : Crew.Reaches (T := operations 0) ⟨w₁, [⟨.begin, .finished (.ok Int32.maxValue)⟩]⟩
      ⟨w₂, [⟨.begin, .finished (.ok Int32.maxValue)⟩, ⟨.finishCall, .finished ()⟩]⟩ :=
    Crew.reaches_of_visit (T := operations 0) .finishCall hfinished
  have hthird : Crew.Reaches (T := operations 0)
      ⟨w₂, [⟨.begin, .finished (.ok Int32.maxValue)⟩, ⟨.finishCall, .finished ()⟩]⟩ ⟨w₃, _⟩ :=
    Crew.reaches_of_visit (T := operations 0) .begin hrefused
  have hreach := (hfirst.trans hsecond).trans hthird
  have hvalue : valueAt w.bed.sessions 0 = some nearlySpent := rfl
  obtain ⟨news, v, -, -, hinOrder, hserved⟩ := numbers_in_order hvalue hreach
  obtain ⟨before, found, hsecond⟩ := hserved 2 .begin _ rfl
  exact ⟨_, news, v, before, found, hreach, rfl, hinOrder, hsecond⟩

end Session
end ClusterProbe
