import ClusterProbe.Proofs.World.Account
import ClusterProbe.Session.Call

/-!
# Sessions that a thread holds

A job under `Session.guarded` finds the session as it was left, has it for itself while it runs, and
gives it back changed only by what it recorded. A session that was aborted or closed has no stream
any more, and its connection has been shut down once.
-/
namespace ClusterProbe

variable {t : ThreadId} {s : SessionId} {c : ConnectionId} {w w' : World} {v v' : Session}

namespace World

/-- Nobody holds session `s`, and its state is `v`. -/
def Free (w : World) (s : SessionId) (v : Session) : Prop :=
  w.bed.sessions[s]? = some ⟨v, []⟩

/-- Thread `t` alone holds session `s`, and its state is `v`. -/
def Held (w : World) (s : SessionId) (v : Session) (t : ThreadId) : Prop :=
  w.bed.sessions[s]? = some ⟨v, [t]⟩

/-- How thread `t` leaves a session after a job with this outcome. A thread that was given up may
still stand in the queue. -/
def Leaves {α : Type} (w : World) (s : SessionId) (v : Session) (t : ThreadId) :
    Option α → Prop
  | some _ => w.Free s v
  | none => w.Free s v ∨ w.Held s v t

theorem Free.unique (h : w.Free s v) (h' : w.Free s v') : v = v' := by
  unfold Free at h h'
  rw [h] at h'
  cases h'
  rfl

theorem Free.shares (h : w.Free s v) (hs : w.bed.Shares w'.bed) : w'.Free s v := by
  unfold Free
  rw [hs.sessions]
  exact h

theorem Held.shares (h : w.Held s v t) (hs : w.bed.Shares w'.bed) : w'.Held s v t := by
  unfold Held
  rw [hs.sessions]
  exact h

theorem Leaves.cancel {α : Type} (h : w.Leaves s v t (none : Option α)) :
    (w.cancel t).Free s v := by
  change (w.bed.sessions.map (Shared.leave t))[s]? = _
  rw [List.getElem?_map]
  rcases h with h | h <;> rw [h]
  · rfl
  · simp [Shared.leave]

theorem Settles.acquire_free {r : Session} (h : w.Settles t (.acquire s) r w') (hw : w.Free s v) :
    r = v ∧ w'.Held s v t ∧ w.Spans s c {} w' := by
  obtain ⟨rfl, hsessions⟩ := h.acquire hw
  refine ⟨rfl, ?_, ?_⟩
  · unfold Held
    rw [hsessions, List.getElem?_set_self (List.getElem?_eq_some_iff.1 hw).1]
  · exact h.spans_unbooked nofun rfl

theorem Waits.acquire_free (h : Waits t (.acquire s) w w') (hw : w.Free s v) :
    w.Passes s c {} w' :=
  ⟨h.acquire_shares hw, h.spans nofun⟩

theorem Settles.store_held {r : Unit} (h : w.Settles t (.store s v') r w') (hw : w.Held s v t) :
    w'.Held s v' t ∧ w.Spans s c { stored := [v'] } w' := by
  refine ⟨?_, ?_⟩
  · unfold Held at hw ⊢
    rw [h.store, List.getElem?_modify_eq, hw]
    rfl
  · have hspans := h.spans (s := s) (c := c) nofun
    exact hspans.of_eq (Chronicle.account_store t s c v' r)

theorem Waits.store_passes (h : Waits t (.store s v') w w') : w.Passes s c {} w' :=
  ⟨h.shares_of_answered fun bed _ => by simp [Testbed.answer],
    h.spans nofun⟩

theorem Settles.release_held {r : Unit} (h : w.Settles t (.release s) r w') (hw : w.Held s v t) :
    w'.Free s v ∧ w.Spans s c {} w' := by
  refine ⟨?_, ?_⟩
  · unfold Free
    unfold Held at hw
    rw [h.release, List.getElem?_modify_eq, hw]
    simp [Shared.leave]
  · exact h.spans_unbooked nofun rfl

theorem Waits.release_passes (h : Waits t (.release s) w w') : w.Passes s c {} w' :=
  ⟨h.shares_of_answered fun bed _ => by simp [Testbed.answer],
    h.spans nofun⟩

end World

namespace Session

/-- The body of a guarded job runs on the session as it was found, and the session is given back as
the body left it. -/
theorem guarded_runs {α : Type} {body : Session → Job α} {o : Option α}
    (h : (guarded s body).Runs t w o w') (hw : w.Free s v) :
    (o = none ∧ w.Passes s c {} w') ∨
      ∃ w₁ o₁ w₂, w.Spans s c {} w₁ ∧ w₁.Held s v t ∧ (body v).Runs t w₁ o₁ w₂ ∧
        w₂.Spans s c {} w' ∧ (∀ a, o = some a → o₁ = some a) ∧
        ∀ v', w₂.Held s v' t → w'.Leaves s v' t o := by
  rcases (Job.runs_ask_bind (.acquire s) _ _).1 h with ⟨r, w₁, hacquire, hnext⟩ | ⟨rfl, hwait⟩
  · obtain ⟨rfl, hheld, hspans⟩ := hacquire.acquire_free (c := c) hw
    refine Or.inr ⟨w₁, ?_⟩
    rcases (Job.runs_bind _ _ _).1 hnext with ⟨a, w₂, hbody, hlast⟩ | ⟨rfl, hbody⟩
    · rcases (Job.runs_ask_bind (.release s) _ _).1 hlast with
        ⟨u, w₃, hrelease, rfl, rfl⟩ | ⟨rfl, hwait⟩
      · refine ⟨some a, w₂, hspans, hheld, hbody, ?_, fun _ ha => ha, fun v' hv' => ?_⟩
        · have hspans' := hrelease.spans (s := s) (c := c) nofun
          exact hspans'.of_eq (Chronicle.account_answered t s c u rfl)
        · exact (hrelease.release_held (c := c) hv').1
      · have hpasses := hwait.release_passes (c := c)
        refine ⟨some a, w₂, hspans, hheld, hbody, hpasses.spans, nofun, fun v' hv' => ?_⟩
        exact Or.inr (hv'.shares hpasses.shares)
    · exact ⟨none, w', hspans, hheld, hbody, .refl w', nofun, fun v' hv' => Or.inr hv'⟩
  · exact Or.inl ⟨rfl, hwait.acquire_free hw⟩

theorem abort_runs {o : Option Unit} (h : (abort s v').Runs t w o w') (hw : w.Held s v t) :
    ∃ u stored hungUp, w.Spans s c { stored, hungUp } w' ∧ w'.Held s u t ∧
      (u = v ∨ u = v'.closed.finish) ∧ (∀ x ∈ stored, x = v'.closed.finish) ∧
      (hungUp = [] ∨ hungUp = v'.stream.toList) ∧
      (o = some () → u = v'.closed.finish ∧ stored = [u] ∧ hungUp = v'.stream.toList) := by
  rcases (Job.runs_ask_bind (.store s v'.closed.finish) _ _).1 h with
    ⟨r, w₁, hstore, hnext⟩ | ⟨rfl, hwait⟩
  · obtain ⟨hheld, hspans⟩ := hstore.store_held (c := c) hw
    have hstored : ∀ x ∈ [v'.closed.finish], x = v'.closed.finish :=
      fun x hx => List.mem_singleton.1 hx
    cases hstream : v'.stream with
    | none =>
      simp only [hstream] at hnext
      obtain ⟨rfl, rfl⟩ := hnext
      exact ⟨_, _, _, hspans, hheld, Or.inr rfl, hstored, Or.inl rfl, fun _ => ⟨rfl, rfl, rfl⟩⟩
    | some c' =>
      simp only [hstream] at hnext
      rcases Job.Runs.plain_bind (e := .log _) hnext rfl s c with
        ⟨r, w₂, hlog, hhang⟩ | ⟨rfl, hlog⟩
      · replace hspans := hspans.surround (.refl w) hlog.spans
        replace hheld := hheld.shares hlog.shares
        rcases (Job.runs_ask_bind (.hangUp c') _ _).1 hhang with
          ⟨r, w₃, hhung, hlast⟩ | ⟨rfl, hwait⟩
        · have hpasses := hhung.passes (s := s) (c := c) rfl rfl nofun
          rw [Chronicle.account_hangUp] at hpasses
          have hdone : w₃.Passes s c {} w' := by
            cases r with
            | error e => exact Job.Runs.plain (e := .log _) hlast rfl
            | ok =>
              obtain ⟨_, rfl⟩ := hlast
              exact .refl w'
          exact ⟨_, _, _, hspans.trans (hpasses.spans.surround (.refl w₂) hdone.spans),
            (hheld.shares hpasses.shares).shares hdone.shares, Or.inr rfl, hstored, Or.inr rfl,
            fun _ => ⟨rfl, rfl, rfl⟩⟩
        · have hpasses := hwait.passes (s := s) (c := c) rfl rfl nofun
          exact ⟨_, _, _, hspans.surround (.refl w) hpasses.spans, hheld.shares hpasses.shares,
            Or.inr rfl, hstored, Or.inl rfl, nofun⟩
      · exact ⟨_, _, _, hspans.surround (.refl w) hlog.spans, hheld.shares hlog.shares,
          Or.inr rfl, hstored, Or.inl rfl, nofun⟩
  · have hpasses := hwait.store_passes (c := c)
    exact ⟨v, [], [], hpasses.spans, hw.shares hpasses.shares, Or.inl rfl, nofun, Or.inl rfl,
      nofun⟩

theorem close_runs {r : Except SessionError Unit} (h : (close s).Runs t w (some r) w')
    (hw : w.Free s v) :
    ∃ stored, w.Spans s c { stored, hungUp := v.stream.toList } w' ∧ w'.Free s v.closed := by
  obtain ⟨r₁, w₁, hacquire, hnext⟩ := (Job.runs_ask_bind_some (.acquire s) _ _).1 h
  obtain ⟨rfl, hheld, hspans⟩ := hacquire.acquire_free (c := c) hw
  cases hstream : r₁.stream with
  | none =>
    have hclosed : r₁.closed = r₁ := by
      cases r₁
      cases hstream
      rfl
    simp only [hstream] at hnext
    obtain ⟨u, w₂, hrelease, _, rfl⟩ := (Job.runs_ask_bind_some (.release s) _ _).1 hnext
    obtain ⟨hfree, hreleased⟩ := hrelease.release_held (c := c) hheld
    exact ⟨_, (hspans.trans hreleased).of_eq (Account.append_mk ..), hclosed ▸ hfree⟩
  | some c' =>
    simp only [hstream] at hnext
    obtain ⟨_, w₂, hstore, hnext⟩ := (Job.runs_ask_bind_some (.store s r₁.closed) _ _).1 hnext
    obtain ⟨hheld, hstored⟩ := hstore.store_held (c := c) hheld
    obtain ⟨_, w₃, hrelease, hnext⟩ := (Job.runs_ask_bind_some (.release s) _ _).1 hnext
    obtain ⟨hfree, hreleased⟩ := hrelease.release_held (c := c) hheld
    obtain ⟨_, w₄, hlog, hnext⟩ := Job.Runs.plain_bind_some (e := .log _) hnext rfl s c
    obtain ⟨result, w₅, hhang, hlast⟩ := (Job.runs_ask_bind_some (.hangUp c') _ _).1 hnext
    have hpasses := hhang.passes (s := s) (c := c) rfl rfl nofun
    rw [Chronicle.account_hangUp] at hpasses
    have hdone : w' = w₅ := by
      cases result <;> exact hlast.2
    subst hdone
    have hall := hspans.trans (hstored.trans (hreleased.trans (hlog.trans hpasses).spans))
    exact ⟨_, hall.of_eq (Account.append_mk ..), hfree.shares (hlog.shares.trans hpasses.shares)⟩

end Session
end ClusterProbe
