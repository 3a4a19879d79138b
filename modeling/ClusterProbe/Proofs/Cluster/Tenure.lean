import ClusterProbe.Proofs.Cluster.Lookup
import ClusterProbe.Proofs.World.Queues

/-!
# Holding sessions

What the rules about sessions come to when many threads share them. A thread holds the sessions that
it thinks it holds, whatever the others do, and a session that is closed and that nobody took before
it was closed stays closed: no state that is recorded for it is ever open again.
-/
namespace ClusterProbe

open Shared

variable {t t' : ThreadId} {s : SessionId} {e : Effect} {bed bed' : Testbed} {grip grip' : Grip}

namespace Testbed

/-- Only a state that is recorded can open a closed session. -/
theorem Closed.answer {r : e.Response} (h : bed.Closed s) (ha : bed.answer t e = (some r, bed'))
    (he : ∀ v, e = .store s v → v.isClosed = true) : bed'.Closed s := by
  by_cases hs : e.touchesSessions = false
  · have hsessions := answer_sessions t bed hs
    rw [ha] at hsessions
    exact h.of_eq hsessions
  · cases e <;> first | exact absurd rfl hs | skip
    case openSession endpoint c =>
      cases ha
      obtain ⟨v, hv, hclosed⟩ := h
      exact ⟨v, (valueAt_append _ (lt_of_valueAt hv)).trans hv, hclosed⟩
    case acquire s' => exact h.jostles (answer_acquire ha).2.2.1
    case store s' state =>
      cases ha
      obtain ⟨v, hv, hclosed⟩ := h
      by_cases heq : s' = s
      · subst heq
        exact ⟨state, valueAt_put_self state (lt_of_valueAt hv), he state rfl⟩
      · exact ⟨v, (valueAt_put_ne state heq).trans hv, hclosed⟩
    case release s' =>
      cases ha
      exact h.jostles (jostles_leave t bed.sessions s')

theorem holder_answer {r : e.Response} (h : holderAt bed.sessions s = some t')
    (ha : bed.answer t e = (some r, bed')) (he : e = .release s → t' ≠ t) :
    holderAt bed'.sessions s = some t' := by
  by_cases hs : e.touchesSessions = false
  · have hsessions := answer_sessions t bed hs
    rw [ha] at hsessions
    exact (congrArg (holderAt · s) hsessions).trans h
  · cases e <;> first | exact absurd rfl hs | skip
    case openSession endpoint c =>
      cases ha
      exact holderAt_append _ h
    case acquire s' => exact (answer_acquire ha).2.2.2 s t' h
    case store s' state =>
      cases ha
      exact (holderAt_put ..).trans h
    case release s' =>
      cases ha
      by_cases heq : s' = s
      · subst heq
        exact (jostles_leave t bed.sessions s').holder s' t' (he rfl) h
      · exact holderAt_leave_ne h heq

end Testbed

namespace Grip

/-- Thread `t` holds what it thinks it holds. -/
def Holds (grip : Grip) (t : ThreadId) (bed : Testbed) : Prop :=
  ∀ s closed, grip s = some closed →
    holderAt bed.sessions s = some t ∧ (closed = true → bed.Closed s)

theorem holds_empty (t : ThreadId) (bed : Testbed) : empty.Holds t bed := nofun

theorem Holds.of_eq (h : grip.Holds t bed) (hs : bed'.sessions = bed.sessions) :
    grip.Holds t bed' := by
  intro s closed hgrip
  obtain ⟨hholder, hclosed⟩ := h s closed hgrip
  exact ⟨(congrArg (holderAt · s) hs).trans hholder, fun hc => (hclosed hc).of_eq hs⟩

theorem Holds.stall (h : grip.Holds t' bed) (ha : bed.answer t e = (none, bed')) :
    grip.Holds t' bed' := by
  obtain ⟨hj, hholders⟩ := Testbed.stall_jostles_sessions ha
  intro s closed hgrip
  obtain ⟨hholder, hclosed⟩ := h s closed hgrip
  exact ⟨hholders s t' hholder, fun hc => (hclosed hc).jostles hj⟩

theorem Holds.jostles (h : grip.Holds t' bed) (hne : t' ≠ t)
    (hj : Jostles t bed.sessions bed'.sessions) : grip.Holds t' bed' := by
  intro s closed hgrip
  obtain ⟨hholder, hclosed⟩ := h s closed hgrip
  exact ⟨hj.holder s t' hne hholder, fun hc => (hclosed hc).jostles hj⟩

/-- Nobody loses a session to another thread. -/
theorem Holds.answer_other {r : e.Response} (h : grip'.Holds t' bed) (hne : t' ≠ t)
    (hgrip : grip.Holds t bed) (hallows : grip.Allows e) (ha : bed.answer t e = (some r, bed')) :
    grip'.Holds t' bed' := by
  intro s closed hs
  obtain ⟨hholder, hclosed⟩ := h s closed hs
  refine ⟨Testbed.holder_answer hholder ha fun _ => hne, fun hc => (hclosed hc).answer ha ?_⟩
  -- a session has one holder
  rintro v rfl
  obtain ⟨closed₀, hs₀, _⟩ := hallows
  have hholder₀ := (hgrip s closed₀ hs₀).1
  rw [hholder] at hholder₀
  exact absurd (Option.some.inj hholder₀) hne

/-- A session that was closed when it was taken stays so in the hands of its holder. -/
theorem Allows.closed {v : Session} (h : grip.Allows (.store s v)) (hs : grip s ≠ some false) :
    v.isClosed = true := by
  obtain ⟨closed, hclosed, hv⟩ := h
  cases closed with
  | true => exact hv rfl
  | false => exact absurd hclosed hs

theorem Holds.answer_self {r : e.Response} (h : grip.Holds t bed) (hallows : grip.Allows e)
    (ha : bed.answer t e = (some r, bed')) : (grip.after e r).Holds t bed' := by
  intro s closed hs
  -- what the thread knew before is still true unless it has just taken the session
  have hkept (hold : grip s = some closed) (hrelease : e ≠ .release s) :
      holderAt bed'.sessions s = some t ∧ (closed = true → bed'.Closed s) := by
    obtain ⟨hholder, hclosed⟩ := h s closed hold
    refine ⟨Testbed.holder_answer hholder ha fun he => absurd he hrelease, fun hc => ?_⟩
    refine (hclosed hc).answer ha ?_
    rintro v rfl
    refine hallows.closed ?_
    rw [hold, hc]
    exact nofun
  cases e with
  | acquire s' =>
    by_cases heq : s = s'
    · subst heq
      obtain ⟨hvalue, hholder, hj, _⟩ := Testbed.answer_acquire ha
      rw [after, Function.update_self] at hs
      refine ⟨hholder, fun hc => ⟨r, (hj.value s).trans hvalue, ?_⟩⟩
      rw [← hc]
      exact Option.some.inj hs
    · rw [after, Function.update_of_ne heq] at hs
      exact hkept hs nofun
  | release s' =>
    by_cases heq : s = s'
    · subst heq
      rw [after, Function.update_self] at hs
      cases hs
    · rw [after, Function.update_of_ne heq] at hs
      exact hkept hs fun he => heq (Effect.release.inj he).symm
  | _ => exact hkept hs nofun

theorem after_ne_open {r : e.Response} (hs : grip s ≠ some false) (hclosed : bed.Closed s)
    (ha : bed.answer t e = (some r, bed')) : grip.after e r s ≠ some false := by
  cases e with
  | acquire s' =>
    by_cases heq : s = s'
    · subst heq
      obtain ⟨hvalue, _⟩ := Testbed.answer_acquire ha
      obtain ⟨v, hv, hclosed⟩ := hclosed
      rw [hv] at hvalue
      cases hvalue
      rw [after, Function.update_self, hclosed]
      exact nofun
    · rwa [after, Function.update_of_ne heq]
  | release s' =>
    by_cases heq : s = s'
    · subst heq
      rw [after, Function.update_self]
      exact nofun
    · rwa [after, Function.update_of_ne heq]
  | _ => exact hs

end Grip

abbrev Standings := ThreadId → Standing

namespace Standings

variable {P : Standings}

/-- Session `s` is closed, and nobody holds it who took it when it was open. -/
def Exhausts (P : Standings) (bed : Testbed) (s : SessionId) : Prop :=
  bed.Closed s ∧ ∀ t, (P t).grip s ≠ some false

theorem Exhausts.jostles (h : P.Exhausts bed s) (hj : Jostles t bed.sessions bed'.sessions) :
    P.Exhausts bed' s :=
  ⟨h.1.jostles hj, h.2⟩

theorem Exhausts.update_free (h : P.Exhausts bed s) (t : ThreadId) (stage : Stage) :
    Exhausts (Function.update P t (.free stage)) bed s := by
  have hfree : Grip.empty s ≠ some false := nofun
  refine ⟨h.1, ?_⟩
  exact (Function.forall_update_iff P fun _ st => st.grip s ≠ some false).2
    ⟨hfree, fun t' _ => h.2 t'⟩

theorem Exhausts.closed {v : Session} (h : P.Exhausts bed s) (hallows : (P t).Allows (.store s v)) :
    v.isClosed = true :=
  hallows.2.closed (h.2 t)

/-- An exhausted session stays exhausted, whatever anybody does with it by the rules. -/
theorem Exhausts.answer {r : e.Response} (h : P.Exhausts bed s) (hallows : (P t).Allows e)
    (ha : bed.answer t e = (some r, bed')) :
    Exhausts (Function.update P t ((P t).after e r)) bed' s := by
  refine ⟨h.1.answer ha ?_, ?_⟩
  · rintro v rfl
    exact h.closed hallows
  · exact (Function.forall_update_iff P fun _ st => st.grip s ≠ some false).2
      ⟨Grip.after_ne_open (h.2 t) h.1 ha, fun t' _ => h.2 t'⟩

/-- A session is defunct only if nobody holds it. -/
theorem exhausts_of_defunct (hP : ∀ t, (P t).grip.Holds t bed)
    (ha : bed.answer t (.isDefunct s) = (some true, bed')) : P.Exhausts bed s := by
  simp only [Testbed.answer, Prod.mk.injEq, Option.some.injEq] at ha
  obtain ⟨shared, hshared, hdefunct⟩ := (Option.any_eq_true _ _).1 ha.1
  rw [Bool.and_eq_true, List.isEmpty_iff] at hdefunct
  refine ⟨⟨shared.value, ?_, hdefunct.2⟩, fun t' hgrip => ?_⟩
  · rw [valueAt, hshared]
    rfl
  · have hholder := (hP t' s false hgrip).1
    rw [holderAt, hshared, Option.bind_some, hdefunct.1] at hholder
    cases hholder

end Standings
end ClusterProbe
