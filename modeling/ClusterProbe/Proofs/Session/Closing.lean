import ClusterProbe.Proofs.Session.Integrity
import ClusterProbe.Proofs.Session.Operations

/-!
# Closed for good

Once a session has been shut down, by closing it, by a call that failed in the middle or by one that
found it out of step, its connection is gone and nothing brings it back: whatever is done with the
session from then on is turned down. It is turned down as closed, with one exception. Closing a
session on which a call was given up leaves the mark of that call behind, and whoever starts the
next call is told that the session is out of step.
-/
namespace ClusterProbe

open Trade Shared

variable {s : SessionId} {c : ConnectionId} {t : ThreadId} {w w' : World} {v v' : Session}
variable {news g g' : Chronicle}

/-- Thread `t` has reported that its call failed in the middle. -/
def Chronicle.ReportsFailure (t : ThreadId) (h : Chronicle) : Prop :=
  ∃ e r, Effect.reportsFailure e = true ∧ .answered t e r ∈ h

theorem Chronicle.reportsFailure_append :
    (news ++ g).ReportsFailure t ↔ news.ReportsFailure t ∨ g.ReportsFailure t := by
  constructor
  · rintro ⟨e, r, he, hmem⟩
    rcases List.mem_append.1 hmem with hmem | hmem
    · exact .inl ⟨e, r, he, hmem⟩
    · exact .inr ⟨e, r, he, hmem⟩
  · rintro (⟨e, r, he, hmem⟩ | ⟨e, r, he, hmem⟩)
    · exact ⟨e, r, he, List.mem_append_left _ hmem⟩
    · exact ⟨e, r, he, List.mem_append_right _ hmem⟩

theorem Chronicle.not_reportsFailure_of_idle {e : Effect} (h : ∀ ev ∈ g, ev.Idle e) :
    ¬ g.ReportsFailure t := by
  rintro ⟨e', r, -, hmem⟩
  exact h _ hmem

namespace Session

/-- A session that was in state `v` and is in state `v'` has the same endpoint, and what was gone is
gone: the connection, and then the mark. -/
structure Decays (v v' : Session) : Prop where
  endpoint : v'.endpoint = v.endpoint
  stream : v.stream = none → v'.stream = none
  mark : v.stream = none → v.inFlight = false → v'.inFlight = false

theorem Decays.refl (v : Session) : v.Decays v :=
  ⟨rfl, id, fun _ => id⟩

theorem decays_closed (v : Session) : v.Decays v.closed :=
  ⟨rfl, fun _ => rfl, fun _ => id⟩

theorem Operation.Records.decays {a : Operation} {found now new : Session}
    (h : a.Records found now new) : now.Decays new where
  endpoint := h.endpoint
  stream := h.stream
  mark hnone hunmarked := by
    apply Bool.eq_false_iff.2
    intro hmark
    obtain ⟨hmarked, -⟩ := h.mark (h.stream hnone) hmark
    rw [hunmarked] at hmarked
    cases hmarked

variable {a : Operation} {stage : Stage} {Q : (operations s).Posts Stage}

namespace Stage

/-- The state in which it has found the session. -/
def found? : Stage → Option Session
  | holding found _ _ | left found _ _ => some found
  | fresh | gone => none

/-- It may have reported that its call failed. -/
def HasFailed (stage : Stage) : Prop :=
  (∃ found now, stage = holding found now true) ∨ (∃ found now, stage = left found now true) ∨
    stage = gone

theorem HasFailed.after (h : stage.HasFailed) (e : Effect) (r : e.Response) :
    (stage.after e r).HasFailed := by
  rcases h with ⟨found, now, rfl⟩ | ⟨found, now, rfl⟩ | rfl
  · cases e with
    | release s' => exact .inr (.inl ⟨found, now, rfl⟩)
    | store s' new => exact .inl ⟨found, new, rfl⟩
    | _ => exact .inl ⟨found, now, rfl⟩
  · cases e <;> exact .inr (.inl ⟨found, now, rfl⟩)
  · cases e <;> exact .inr (.inr rfl)

theorem hasFailed_of_reports {e : Effect} (hallows : stage.Allows s a e)
    (he : e.reportsFailure = true) (r : e.Response) : (stage.after e r).HasFailed := by
  have hloud : e.isQuiet ≠ true := by
    rw [Effect.isQuiet, he]
    simp
  cases e with
  | log event =>
    cases stage with
    | holding found now failed =>
      rw [Stage.after, he, Bool.or_true]
      exact .inl ⟨found, now, rfl⟩
    | _ => exact absurd hallows hloud
  | _ => cases he

/-- Who does not hold the session does not change its state, and who holds it records what follows
from it. -/
theorem records {e : Effect} (hallows : stage.Allows s a e)
    (hheld : ∀ now, stage.held = some now → now = v) :
    e.recorded s v = v ∨
      ∃ found failed, stage = holding found v failed ∧ a.Records found v (e.recorded s v) := by
  by_cases hquiet : e.isQuiet = true
  · exact .inl (recorded_of_untouching (Effect.isQuiet_untouching hquiet) v)
  cases stage with
  | holding found now failed =>
    obtain rfl : now = v := hheld now rfl
    cases e with
    | store s' new =>
      obtain ⟨rfl, hrecords⟩ := hallows
      rw [Effect.recorded, if_pos rfl]
      exact .inr ⟨found, failed, rfl, hrecords⟩
    | release s' | log event => exact .inl rfl
    | _ => exact absurd hallows hquiet
  | fresh =>
    cases e with
    | acquire s' => exact .inl rfl
    | _ => exact absurd hallows hquiet
  | _ => cases e <;> exact absurd hallows hquiet

/-- A state that was found was found just now, or the thread knew it already. -/
theorem found_after {e : Effect} (hallows : stage.Allows s a e) (t : ThreadId)
    (r : e.Response) {u : Session} (hu : (stage.after e r).found? = some u) :
    stage.found? = some u ∨ Event.answered t e r = .answered t (.acquire s) u := by
  by_cases hquiet : e.isQuiet = true
  · rw [after_quiet hquiet] at hu
    exact .inl hu
  cases stage with
  | fresh =>
    cases e with
    | acquire s' =>
      obtain rfl : s' = s := hallows
      obtain rfl : r = u := Option.some.inj hu
      exact .inr rfl
    | _ => exact absurd hallows hquiet
  | holding found now failed =>
    cases e with
    | store s' new | release s' | log event => exact .inl hu
    | _ => exact absurd hallows hquiet
  | _ => cases e <;> exact absurd hallows hquiet

theorem decays {e : Effect} (hallows : stage.Allows s a e)
    (hheld : ∀ now, stage.held = some now → now = v) : v.Decays (e.recorded s v) := by
  rcases records hallows hheld with heq | ⟨found, failed, -, hrecords⟩
  · rw [heq]
    exact .refl v
  · exact hrecords.decays

theorem left_after {e : Effect} {found now : Session} {failed : Bool} (hallows : stage.Allows s a e)
    (r : e.Response) (h : stage.after e r = left found now failed) :
    e.recorded s v = v ∧ (stage = left found now failed ∨ stage = holding found now failed) := by
  by_cases hquiet : e.isQuiet = true
  · rw [after_quiet hquiet] at h
    exact ⟨recorded_of_untouching (Effect.isQuiet_untouching hquiet) v, .inl h⟩
  cases stage with
  | holding u now' failed' =>
    cases e with
    | release s' =>
      cases h
      exact ⟨rfl, .inr rfl⟩
    | store s' new | log event => cases h
    | _ => exact absurd hallows hquiet
  | fresh =>
    cases e with
    | acquire s' => cases h
    | _ => exact absurd hallows hquiet
  | _ => cases e <;> exact absurd hallows hquiet

/-! ## What the threads have found and left -/

/-- A thread stands here, has found what it says, and has left the session without a connection only
if it has none now. -/
structure Fits (s : SessionId) (t : ThreadId) (news : Chronicle) (v : Session) (stage : Stage) :
    Prop where
  found : ∀ u, stage.found? = some u → .answered t (.acquire s) u ∈ news
  failed : news.ReportsFailure t → stage.HasFailed
  gone : ∀ found now failed, stage = left found now failed → now.stream = none →
    v.stream = none ∧ (now.inFlight = false → v.inFlight = false)

theorem Fits.mono (h : stage.Fits s t news v) (hdecays : v.Decays v')
    (hg : ¬ g.ReportsFailure t) : stage.Fits s t (news ++ g) v' where
  found u hu := List.mem_append_left _ (h.found u hu)
  failed hreports := by
    rcases Chronicle.reportsFailure_append.1 hreports with hreports | hreports
    · exact h.failed hreports
    · exact absurd hreports hg
  gone found now failed heq hnow := by
    obtain ⟨hnone, hunmarked⟩ := h.gone found now failed heq hnow
    exact ⟨hdecays.stream hnone, fun hmark => hdecays.mark hnone (hunmarked hmark)⟩

theorem Fits.after {e : Effect} {r : e.Response} (h : stage.Fits s t news v)
    (hallows : stage.Allows s a e) (hheld : ∀ now, stage.held = some now → now = v)
    (hg : ∀ ev ∈ g, ev.Idle e) (hg' : ∀ ev ∈ g', ev.Idle e) :
    (stage.after e r).Fits s t (news ++ (g ++ .answered t e r :: g')) (e.recorded s v) where
  found u hu := by
    rcases found_after hallows t r hu with hu | heq
    · exact List.mem_append_left _ (h.found u hu)
    · rw [← heq]
      exact List.mem_append_right _ (List.mem_append_right _ (List.mem_cons_self ..))
  failed hreports := by
    rcases Chronicle.reportsFailure_append.1 hreports with hreports | ⟨e', r', he', hmem⟩
    · exact (h.failed hreports).after e r
    · cases Chronicle.eq_of_mem_answered hg hg' hmem
      exact hasFailed_of_reports hallows he' r
  gone found now failed heq hnow := by
    obtain ⟨hrecorded, hleft | hholding⟩ := left_after (v := v) hallows r heq
    · rw [hrecorded]
      exact h.gone found now failed hleft hnow
    · obtain rfl : now = v := hheld now (hholding ▸ rfl)
      rw [hrecorded]
      exact ⟨hnow, id⟩

end Stage

/-- Someone has closed the session, or is closing it, who found it open and marked. -/
def MarkLeft (Q : (operations s).Posts Stage) (news : Chronicle) : Prop :=
  ∃ t stage u, Q t = some (.close, stage) ∧ .answered t (.acquire s) u ∈ news ∧ u.stream ≠ none ∧
    u.inFlight = true

theorem MarkLeft.update {stage' : Stage} (h : MarkLeft Q news)
    (hpost : Q t = none ∨ ∃ stage, Q t = some (a, stage)) (g : Chronicle) :
    MarkLeft (Function.update Q t (some (a, stage'))) (news ++ g) := by
  obtain ⟨t', stage, u, ht', hu, hfound⟩ := h
  obtain ⟨stage₁, hposted, -⟩ := Posts.exists_update (R := fun _ _ => True) (fun _ => trivial)
    (hpost.imp_right fun ⟨stage₀, hstage₀⟩ => ⟨stage₀, hstage₀, trivial⟩) ht'
  exact ⟨t', stage₁, u, hposted, List.mem_append_left _ hu, hfound⟩

/-! ## Up to the end -/

/-- What has become of session `s`, which had this endpoint. -/
structure Record (endpoint : Endpoint) (Q : (operations s).Posts Stage) (bed : Testbed)
    (news : Chronicle) (v : Session) : Prop where
  value : valueAt bed.sessions s = some v
  endpoint : v.endpoint = endpoint
  custody : Q.Custody Stage.held s bed
  fits : ∀ t a stage, Q t = some (a, stage) → stage.Fits s t news v
  vacant : ∀ t, Q t = none → ¬ news.ReportsFailure t
  marked : v.stream = none → v.inFlight = true → MarkLeft Q news

namespace Record

variable {endpoint : Endpoint} {bed bed' : Testbed}

/-- A thread takes up a post, and the session goes from state `v` to `v'`. -/
theorem moved {stage' : Stage} (h : Record endpoint Q bed news v)
    (hvalue : valueAt bed'.sessions s = some v')
    (hcustody : Posts.Custody Stage.held s (Function.update Q t (some (a, stage'))) bed')
    (hdecays : v.Decays v') (hfits : stage'.Fits s t (news ++ g) v')
    (hg : ∀ t', t' ≠ t → ¬ g.ReportsFailure t')
    (hmarked : v'.stream = none → v'.inFlight = true →
      MarkLeft (Function.update Q t (some (a, stage'))) (news ++ g)) :
    Record endpoint (Function.update Q t (some (a, stage'))) bed' (news ++ g) v' where
  value := hvalue
  endpoint := hdecays.endpoint.trans h.endpoint
  custody := hcustody
  fits t' a' stage ht' := by
    rcases Posts.of_update ht' with ⟨rfl, rfl, rfl⟩ | ⟨hne, ht'⟩
    · exact hfits
    · exact (h.fits t' a' stage ht').mono hdecays (hg t' hne)
  vacant t' ht' := by
    obtain ⟨hne, ht'⟩ := Posts.of_update_eq_none ht'
    rw [Chronicle.reportsFailure_append, not_or]
    exact ⟨h.vacant t' ht', hg t' hne⟩
  marked := hmarked

/-- Nobody moves. -/
theorem still {e : Effect} (h : Record endpoint Q bed news v)
    (hvalue : valueAt bed'.sessions s = some v) (hcustody : Q.Custody Stage.held s bed')
    (hg : ∀ ev ∈ g, ev.Idle e) : Record endpoint Q bed' (news ++ g) v where
  value := hvalue
  endpoint := h.endpoint
  custody := hcustody
  fits t a stage ht :=
    (h.fits t a stage ht).mono (.refl v) (Chronicle.not_reportsFailure_of_idle hg)
  vacant t ht := by
    rw [Chronicle.reportsFailure_append, not_or]
    exact ⟨h.vacant t ht, Chronicle.not_reportsFailure_of_idle hg⟩
  marked hnone hmark := by
    obtain ⟨t, stage, u, ht, hu, hfound⟩ := h.marked hnone hmark
    exact ⟨t, stage, u, ht, List.mem_append_left _ hu, hfound⟩

/-- A thread gives up its hold on the session, or never had one. -/
theorem released {stage' : Stage} (h : Record endpoint Q bed news v)
    (hpost : Q t = none ∨ ∃ stage, Q t = some (a, stage))
    (hj : Jostles t bed.sessions bed'.sessions) (hstage' : stage'.held = none)
    (hfits : stage'.Fits s t news v) :
    Record endpoint (Function.update Q t (some (a, stage'))) bed' news v := by
  rw [← List.append_nil news] at hfits ⊢
  refine h.moved ((hj.value s).trans h.value) (h.custody.release hj hstage') (.refl v) hfits ?_ ?_
  · rintro t' - ⟨e, r, -, hmem⟩
    cases hmem
  · exact fun hnone hmark => (h.marked hnone hmark).update hpost []

end Record

variable {w₀ : World}

/-- Each operation keeps the record. -/
theorem record_keeps (s : SessionId) (endpoint : Endpoint) (w₀ : World) :
    (operationConduct s).Keeps fun Q w =>
      ∃ news v, w.past = w₀.past ++ news ∧ Record endpoint Q w.bed news v where
  starts := by
    rintro Q w t a ⟨news, v, hpast, h⟩ hvacant
    refine ⟨news, v, hpast, h.released (.inl hvacant) (.refl t _) rfl ⟨nofun, ?_, nofun⟩⟩
    exact fun hreports => absurd hreports (h.vacant t hvacant)
  answered := by
    rintro Q w t a stage e r w' ⟨news, v, hpast, h⟩ hpost hallows hanswers
    obtain ⟨g, g', hnews, hg, hg'⟩ := hanswers.past
    have hhandles := Stage.handles hallows r
    have hfits := h.fits t a stage hpost
    have hheld (now : Session) : stage.held = some now → now = v :=
      h.custody.eq_of_held hpost h.value
    refine ⟨_, e.recorded s v, by rw [hnews, hpast, List.append_assoc], ?_⟩
    refine h.moved (hanswers.value hhandles h.value) (h.custody.answered hpost hanswers hhandles)
      (Stage.decays hallows hheld) (hfits.after hallows hheld hg hg') ?_ ?_
    · rintro t' hne ⟨e', r', -, hmem⟩
      cases Chronicle.eq_of_mem_answered hg hg' hmem
      exact hne rfl
    · intro hnone hmark
      rcases Stage.records hallows hheld with heq | ⟨found, failed, rfl, hrecords⟩
      · rw [heq] at hnone hmark
        exact (h.marked hnone hmark).update (.inr ⟨stage, hpost⟩) _
      · obtain ⟨hmarked, hbefore | ⟨rfl, rfl⟩⟩ := hrecords.mark hnone hmark
        · exact (h.marked hbefore hmarked).update (.inr ⟨_, hpost⟩) _
        · by_cases hbefore : v.stream = none
          · exact (h.marked hbefore hmarked).update (.inr ⟨_, hpost⟩) _
          · exact ⟨t, _, v, Function.update_self .., List.mem_append_left _ (hfits.found v rfl),
              hbefore, hmarked⟩
  stalled := by
    rintro Q w t a stage e w' ⟨news, v, hpast, h⟩ hpost hallows hstalls
    obtain ⟨g, hnews, hidle⟩ := World.Waits.past (.stalls .refl hstalls)
    refine ⟨news ++ g, v, by rw [hnews, hpast, List.append_assoc], h.still ?_ ?_ hidle⟩
    · exact (hstalls.jostles.1.value s).trans h.value
    · exact h.custody.stalled hstalls
  finished := by
    rintro Q w t a stage r ⟨news, v, hpast, h⟩ hpost hends
    exact ⟨news, v, hpast, h.value, h.endpoint, h.custody, h.fits, h.vacant, h.marked⟩
  cancelled := by
    rintro Q w t a stage ⟨news, v, hpast, h⟩ hpost
    refine ⟨news, v, hpast, h.released (.inr ⟨stage, hpost⟩) (w.cancel_jostles t) rfl ?_⟩
    exact ⟨nofun, fun _ => .inr (.inr rfl), nofun⟩
  moves := by
    rintro Q w w' ⟨news, v, hpast, h⟩ hmoves
    obtain ⟨g, hnews, hidle⟩ := World.Waits.past (t := 0) (e := .clock) (.moves .refl hmoves)
    have hsessions := hmoves.shares.sessions
    refine ⟨news ++ g, v, by rw [hnews, hpast, List.append_assoc], h.still ?_ ?_ hidle⟩
    · rw [hsessions]
      exact h.value
    · exact h.custody.of_eq hsessions

/-! ## From then on -/

/-- A session at this endpoint without a connection, and without a mark unless `marked` says so. -/
structure Shut (endpoint : Endpoint) (marked : Bool) (v : Session) : Prop where
  endpoint : v.endpoint = endpoint
  stream : v.stream = none
  mark : v.inFlight = true → marked = true

variable {endpoint : Endpoint} {marked : Bool} {n : ThreadId} {bed bed' : Testbed}

theorem Shut.decays (h : v.Shut endpoint marked) (hdecays : v.Decays v') :
    v'.Shut endpoint marked where
  endpoint := hdecays.endpoint.trans h.endpoint
  stream := hdecays.stream h.stream
  mark hmark := by
    apply h.mark
    by_contra hunmarked
    rw [hdecays.mark h.stream (Bool.eq_false_iff.2 hunmarked)] at hmark
    cases hmark

/-- Session `s` is shut, and the threads from number `n` on have found it so. -/
structure ShutFor (endpoint : Endpoint) (marked : Bool) (n : ThreadId)
    (Q : (operations s).Posts Stage) (bed : Testbed) (v : Session) : Prop where
  value : valueAt bed.sessions s = some v
  shut : v.Shut endpoint marked
  custody : Q.Custody Stage.held s bed
  late : ∀ t a stage u, n ≤ t → Q t = some (a, stage) → stage.found? = some u →
    u.Shut endpoint marked

theorem ShutFor.moved {stage' : Stage} (h : ShutFor endpoint marked n Q bed v)
    (hvalue : valueAt bed'.sessions s = some v')
    (hcustody : Posts.Custody Stage.held s (Function.update Q t (some (a, stage'))) bed')
    (hdecays : v.Decays v')
    (hlate : ∀ u, n ≤ t → stage'.found? = some u → u.Shut endpoint marked) :
    ShutFor endpoint marked n (Function.update Q t (some (a, stage'))) bed' v' where
  value := hvalue
  shut := h.shut.decays hdecays
  custody := hcustody
  late t' a' stage u hn ht' hu := by
    rcases Posts.of_update ht' with ⟨rfl, rfl, rfl⟩ | ⟨hne, ht'⟩
    · exact hlate u hn hu
    · exact h.late t' a' stage u hn ht' hu

/-- Nothing opens a session that is shut, and whoever takes it finds it so. -/
theorem shutFor_keeps (s : SessionId) (endpoint : Endpoint) (marked : Bool) (n : ThreadId) :
    (operationConduct s).Keeps fun Q w => ∃ v, ShutFor endpoint marked n Q w.bed v where
  starts := by
    rintro Q w t a ⟨v, h⟩ hvacant
    exact ⟨v, h.moved h.value (h.custody.release (.refl t _) rfl) (.refl v) nofun⟩
  answered := by
    rintro Q w t a stage e r w' ⟨v, h⟩ hpost hallows hanswers
    have hhandles := Stage.handles hallows r
    have hheld (now : Session) : stage.held = some now → now = v :=
      h.custody.eq_of_held hpost h.value
    refine ⟨e.recorded s v, h.moved (hanswers.value hhandles h.value)
      (h.custody.answered hpost hanswers hhandles) (Stage.decays hallows hheld) ?_⟩
    intro u hn hu
    rcases Stage.found_after hallows t r hu with hu | heq
    · exact h.late t a stage u hn hpost hu
    · cases heq
      obtain ⟨hvalue, -⟩ := hanswers.acquire
      rw [h.value] at hvalue
      cases hvalue
      exact h.shut
  stalled := by
    rintro Q w t a stage e w' ⟨v, h⟩ hpost hallows hstalls
    exact ⟨v, (hstalls.jostles.1.value s).trans h.value, h.shut, h.custody.stalled hstalls, h.late⟩
  finished := by
    rintro Q w t a stage r ⟨v, h⟩ hpost hends
    exact ⟨v, h.value, h.shut, h.custody, h.late⟩
  cancelled := by
    rintro Q w t a stage ⟨v, h⟩ hpost
    have hjostles := w.cancel_jostles t
    exact ⟨v, h.moved ((hjostles.value s).trans h.value) (h.custody.release hjostles rfl) (.refl v)
      nofun⟩
  moves := by
    rintro Q w w' ⟨v, h⟩ hmoves
    have hsessions := hmoves.shares.sessions
    exact ⟨v, by rw [hsessions]; exact h.value, h.shut, h.custody.of_eq hsessions, h.late⟩

/-! ## Every crew -/

variable {σ σ' : (operations s).Crew}

/-- Crew `σ` has left the session shut: so it is in `σ'`, and who has started in between was turned
down. -/
structure ShutSince (endpoint : Endpoint) (marked : Bool) (σ σ' : (operations s).Crew) : Prop where
  state : ∃ v, valueAt σ'.world.bed.sessions s = some v ∧ v.Shut endpoint marked ∧ v.isClosed = true
  turnedDown : ∀ t a r, σ.workers.length ≤ t → σ'.workers[t]? = some ⟨a, .finished r⟩ →
    ∃ m, (m = true → marked = true) ∧ a.TurnedDown endpoint m r

/-- A thread of the crew closes or has closed the session, and found it with a connection and with
the mark of a call that was given up. -/
def ClosedMarked (news : Chronicle) (σ : (operations s).Crew) : Prop :=
  ∃ t progress u, σ.workers[t]? = some ⟨.close, progress⟩ ∧ .answered t (.acquire s) u ∈ news ∧
    u.stream ≠ none ∧ u.inFlight = true

theorem MarkLeft.closedMarked (h : MarkLeft Q news) (hQ : (operationConduct s).Manned Q σ) :
    ClosedMarked news σ := by
  obtain ⟨t, stage, u, hpost, hfound⟩ := h
  obtain ⟨progress, hworker⟩ := hQ.exists_worker hpost
  exact ⟨t, progress, u, hworker, hfound⟩

theorem ShutFor.shutSince (h : ShutFor endpoint marked σ.workers.length Q σ'.world.bed v)
    (hQ : (operationConduct s).Manned Q σ') : ShutSince endpoint marked σ σ' where
  state := ⟨v, h.value, h.shut, isClosed_of_stream h.shut.stream⟩
  turnedDown t a r hlate hworker := by
    obtain ⟨stage, hpost, found, now, failed, rfl, houtcome⟩ := hQ.stands t _ hworker
    have hfound := h.late t a _ found hlate hpost rfl
    refine ⟨found.inFlight, hfound.mark, ?_⟩
    rw [← hfound.endpoint]
    exact houtcome.turnedDown hfound.stream

/-- **Closed for good.** Whatever a crew does with a session that it got with a connection: once the
session has been closed or aborted, or a call on it has failed in the middle or was told that it is
out of step, its connection is gone for good, and every operation that starts later is turned down
as closed. Only when the session was closed with the mark of a call that was given up is the mark
still there, and who would start the next call is told of it. -/
theorem shut_for_good {v₀ : Session} {r : a.Result}
    (hvalue : valueAt w.bed.sessions s = some v₀) (hopen : v₀.stream ≠ none)
    (hreach : Crew.Reaches (T := operations s) ⟨w, []⟩ σ)
    (hworker : σ.workers[t]? = some ⟨a, .finished r⟩) :
    ∃ news, σ.world.past = w.past ++ news ∧ (a.Shuts r ∨ news.ReportsFailure t →
      ∃ marked, (marked = true → a = .close ∧ ClosedMarked news σ) ∧
        ∀ σ', Crew.Reaches σ σ' → ShutSince v₀.endpoint marked σ σ') := by
  have hstart : Record (s := s) v₀.endpoint (fun _ => none) w.bed [] v₀ := by
    refine ⟨hvalue, rfl, ?_, ?_, ?_, fun hnone => absurd hnone hopen⟩
    · rintro t a stage now hpost
      cases hpost
    · rintro t a stage hpost
      cases hpost
    · rintro t - ⟨e, r, -, hmem⟩
      cases hmem
  obtain ⟨Q, hQ, news, v, hnews, h⟩ := (record_keeps s v₀.endpoint w).reaches hreach
    (Conduct.manned_start w) ⟨[], v₀, (List.append_nil _).symm, hstart⟩
  refine ⟨news, hnews, fun hshuts => ?_⟩
  obtain ⟨stage, hpost, found, now, failed, rfl, houtcome⟩ := hQ.stands t _ hworker
  have hfits := h.fits t a _ hpost
  have hnow : a.Shuts r ∨ failed = true := by
    refine hshuts.imp_right fun hreports => ?_
    rcases hfits.failed hreports with ⟨_, _, heq⟩ | ⟨_, _, heq⟩ | heq
    · cases heq
    · cases heq
      rfl
    · cases heq
  obtain ⟨hnone, hunmarked⟩ := houtcome.shut hnow
  obtain ⟨hgone, hmark⟩ := hfits.gone found now failed rfl hnone
  refine ⟨v.inFlight, fun hmarked => ⟨?_, (h.marked hgone hmarked).closedMarked hQ⟩, ?_⟩
  · by_contra hother
    rw [hmark (hunmarked hother)] at hmarked
    cases hmarked
  · intro σ' hlater
    have hshut : ShutFor v₀.endpoint v.inFlight σ.workers.length Q σ.world.bed v := by
      refine ⟨h.value, ⟨h.endpoint, hgone, id⟩, h.custody, ?_⟩
      intro t' a' stage' u hn hpost'
      rw [hQ.vacant t' (List.getElem?_eq_none_iff.2 hn)] at hpost'
      cases hpost'
    obtain ⟨Q', hQ', v', h'⟩ :=
      (shutFor_keeps s v₀.endpoint v.inFlight σ.workers.length).reaches hlater hQ ⟨v, hshut⟩
    exact h'.shutSince hQ'

theorem shut_for_good_closed : ∃ w σ σ' marked,
    (connect ⟨"n1", 7100⟩ noProbe).Runs 0 .untouched (some (.ok 0)) w ∧
      Crew.Reaches (T := operations 0) ⟨w, []⟩ σ ∧
      σ.workers[0]? = some ⟨.close, .finished (.ok ())⟩ ∧ Crew.Reaches σ σ' ∧
      σ'.workers[1]? = some ⟨.begin, .finished (.error (.closed ⟨"n1", 7100⟩))⟩ ∧
      ShutSince ⟨"n1", 7100⟩ marked σ σ' := by
  let v₀ : Session := { endpoint := ⟨"n1", 7100⟩, stream := some 0 }
  have hplay : (World.untouched.play 0 (connect ⟨"n1", 7100⟩ noProbe) []).any (fun x =>
      decide (x.1 = .ok 0 ∧ valueAt x.2.bed.sessions 0 = some v₀) &&
        (x.2.visit 0 (Session.close 0) []).any (fun y => decide (y.1 = .ok ()) &&
          (y.2.visit 1 (Session.begin 0) []).any fun z =>
            decide (z.1 = .error (.closed ⟨"n1", 7100⟩)))) = true := by
    decide +kernel
  obtain ⟨⟨_, w⟩, hopened, hchecks⟩ := (Option.any_eq_true _ _).1 hplay
  obtain ⟨hstart, hchecks⟩ := Bool.and_eq_true_iff.1 hchecks
  obtain ⟨rfl, hvalue⟩ := of_decide_eq_true hstart
  obtain ⟨⟨_, w₁⟩, hclosed, hchecks⟩ := (Option.any_eq_true _ _).1 hchecks
  obtain ⟨hok, hchecks⟩ := Bool.and_eq_true_iff.1 hchecks
  obtain rfl := of_decide_eq_true hok
  obtain ⟨⟨_, w₂⟩, hbegun, hrefused⟩ := (Option.any_eq_true _ _).1 hchecks
  obtain rfl := of_decide_eq_true hrefused
  have hreach : Crew.Reaches (T := operations 0) ⟨w, []⟩ ⟨w₁, [⟨.close, .finished (.ok ())⟩]⟩ :=
    Crew.reaches_of_visit (T := operations 0) .close hclosed
  have hlater : Crew.Reaches (T := operations 0) ⟨w₁, [⟨.close, .finished (.ok ())⟩]⟩ ⟨w₂, _⟩ :=
    Crew.reaches_of_visit (T := operations 0) .begin hbegun
  obtain ⟨news, -, hshut⟩ := shut_for_good (t := 0) (a := .close) hvalue (Option.some_ne_none 0)
    hreach rfl
  obtain ⟨marked, -, hshut⟩ := hshut (.inl trivial)
  exact ⟨w, _, _, marked, World.runs_of_play hopened, hreach, rfl, hlater, rfl, hshut _ hlater⟩

/-- **The mark of a call that was given up outlives the connection.** A call is begun and given up,
and the session is closed. Nobody holds it then, it has no connection, and it is still in flight:
the next call is told that the session is out of step, where it should be told that it is closed. -/
theorem closed_reported_desynced : ∃ w σ σ',
    (connect ⟨"n1", 7100⟩ noProbe).Runs 0 .untouched (some (.ok 0)) w ∧
      Crew.Reaches (T := operations 0) ⟨w, []⟩ σ ∧
      σ.workers = [⟨.begin, .finished (.ok 1)⟩, ⟨.close, .finished (.ok ())⟩] ∧
      holderAt σ.world.bed.sessions 0 = none ∧ valueAt σ.world.bed.sessions 0 = some
        { endpoint := ⟨"n1", 7100⟩, stream := none, inFlight := true, lastCallId := 1 } ∧
      Crew.Reaches σ σ' ∧
      σ'.workers[2]? = some ⟨.begin, .finished (.error (.desynced ⟨"n1", 7100⟩))⟩ := by
  let left : Session :=
    { endpoint := ⟨"n1", 7100⟩, stream := none, inFlight := true, lastCallId := 1 }
  let atRest (w : World) : Prop :=
    holderAt w.bed.sessions 0 = none ∧ valueAt w.bed.sessions 0 = some left
  have hplay : (World.untouched.play 0 (connect ⟨"n1", 7100⟩ noProbe) []).any (fun x =>
      decide (x.1 = .ok 0) && (x.2.visit 0 (Session.begin 0) []).any (fun y =>
        decide (y.1 = .ok 1) && (y.2.visit 1 (Session.close 0) []).any (fun z =>
          decide (z.1 = .ok () ∧ atRest z.2) && (z.2.visit 2 (Session.begin 0) []).any fun u =>
            decide (u.1 = .error (.desynced ⟨"n1", 7100⟩))))) = true := by
    decide +kernel
  obtain ⟨⟨_, w⟩, hopened, hchecks⟩ := (Option.any_eq_true _ _).1 hplay
  obtain ⟨hzero, hchecks⟩ := Bool.and_eq_true_iff.1 hchecks
  obtain rfl := of_decide_eq_true hzero
  obtain ⟨⟨_, w₁⟩, hbegun, hchecks⟩ := (Option.any_eq_true _ _).1 hchecks
  obtain ⟨hone, hchecks⟩ := Bool.and_eq_true_iff.1 hchecks
  obtain rfl := of_decide_eq_true hone
  obtain ⟨⟨_, w₂⟩, hclosed, hchecks⟩ := (Option.any_eq_true _ _).1 hchecks
  obtain ⟨hok, hchecks⟩ := Bool.and_eq_true_iff.1 hchecks
  obtain ⟨rfl, hholder, hvalue⟩ := of_decide_eq_true hok
  obtain ⟨⟨_, w₃⟩, hagain, hdesynced⟩ := (Option.any_eq_true _ _).1 hchecks
  obtain rfl := of_decide_eq_true hdesynced
  have hfirst : Crew.Reaches (T := operations 0) ⟨w, []⟩ ⟨w₁, [⟨.begin, .finished (.ok 1)⟩]⟩ :=
    Crew.reaches_of_visit (T := operations 0) .begin hbegun
  have hsecond : Crew.Reaches (T := operations 0) ⟨w₁, [⟨.begin, .finished (.ok 1)⟩]⟩
      ⟨w₂, [⟨.begin, .finished (.ok 1)⟩, ⟨.close, .finished (.ok ())⟩]⟩ :=
    Crew.reaches_of_visit (T := operations 0) .close hclosed
  have hthird : Crew.Reaches (T := operations 0)
      ⟨w₂, [⟨.begin, .finished (.ok 1)⟩, ⟨.close, .finished (.ok ())⟩]⟩ ⟨w₃, _⟩ :=
    Crew.reaches_of_visit (T := operations 0) .begin hagain
  exact ⟨w, _, _, World.runs_of_play hopened, hfirst.trans hsecond, rfl,
    hholder, hvalue, hthird, rfl⟩

end Session
end ClusterProbe
