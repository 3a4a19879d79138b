import ClusterProbe.Log.Logged

/-!
# What logged work comes to

The result of work that logs, whatever has been logged before it.
-/
namespace ClusterProbe

namespace Logged

variable {ε α β : Type} {x : Logged ε α} {log : List LogEvent}

/-- What work comes to that starts below a log. -/
def outcome (x : Logged ε α) (log : List LogEvent) : Except ε α :=
  (x.run.run log).1

theorem result_fst : x.result.1 = x.outcome [] :=
  rfl

@[simp]
theorem outcome_pure (a : α) : (pure a : Logged ε α).outcome log = .ok a :=
  rfl

@[simp]
theorem outcome_lift (r : Except ε α) : (lift r).outcome log = r :=
  rfl

@[simp]
theorem outcome_mapFailure_eq_ok_iff {δ : Type} {f : ε → δ} {a : α} :
    (x.mapFailure f).outcome log = .ok a ↔ x.outcome log = .ok a := by
  change (x.outcome log).mapError f = .ok a ↔ _
  cases x.outcome log with
  | error e => exact ⟨nofun, nofun⟩
  | ok b => exact ⟨fun h => congrArg _ (Except.ok.inj h), fun h => congrArg _ (Except.ok.inj h)⟩

/-- Work goes on only where what came before it succeeded, and below what that logged. -/
theorem outcome_bind (x : Logged ε α) (f : α → Logged ε β) (log : List LogEvent) :
    (x >>= f).outcome log = x.outcome log >>= fun a => (f a).outcome (x.run.run log).2 := by
  unfold outcome
  rw [ExceptT.run_bind, StateT.run_bind]
  change ((match (x.run.run log).1 with
    | .ok a => (f a).run
    | .error e => pure (.error e)).run (x.run.run log).2).1 = _
  cases (x.run.run log).1 <;> rfl

theorem outcome_bind_eq_ok_iff {f : α → Logged ε β} {b : β} :
    (x >>= f).outcome log = .ok b ↔
      ∃ a, x.outcome log = .ok a ∧ (f a).outcome (x.run.run log).2 = .ok b := by
  rw [outcome_bind]
  cases x.outcome log with
  | error e => exact ⟨nofun, nofun⟩
  | ok a => simp [bind, Except.bind]

/-- After work that succeeded other work goes on below its log. -/
theorem result_bind_of_ok {a : α} {events : List LogEvent} (f : α → Logged ε β)
    (h : x.result = (.ok a, events)) : (x >>= f).result = (f a).run.run events := by
  unfold result at h ⊢
  rw [ExceptT.run_bind, StateT.run_bind, h]
  rfl

theorem result_mapFailure_of_ok {δ : Type} {a : α} {events : List LogEvent} (f : ε → δ)
    (h : x.result = (.ok a, events)) : (x.mapFailure f).result = (.ok a, events) := by
  unfold result at h ⊢
  rw [mapFailure, ExceptT.run_mk, StateT.run_map, h]
  rfl

end Logged

end ClusterProbe
