import ClusterProbe.Proofs.Cluster.Scene

/-!
# Who dials

A lookup dials only while it connects, for a slot that it settles afterwards. Whatever else it does,
to look into slots or to close a host that is defunct, dials nobody.
-/
namespace ClusterProbe

variable {α β : Type}

def Effect.isDial : Effect → Bool
  | dial _ => true
  | _ => false

namespace Job

/-- Whenever the job comes to dial, `p` holds of what is left of it. -/
def OnDial (p : Job α → Prop) : Job α → Prop
  | done _ => True
  | perform e next => (e.isDial = true → p (perform e next)) ∧ ∀ r, (next r).OnDial p

def Quiet (x : Job α) : Prop :=
  x.OnDial fun _ => False

variable {x : Job α} {f : α → Job β} {p : Job β → Prop} {e : Effect}

theorem quiet_pure (a : α) : (pure a : Job α).Quiet := trivial

theorem quiet_ask (h : e.isDial = false) : (ask e).Quiet := by
  refine ⟨fun he => ?_, fun _ => trivial⟩
  rw [h] at he
  cases he

theorem quiet_log (level : LogLevel) (target message : String) (fields : List (String × String)) :
    (log level target message fields).Quiet :=
  quiet_ask rfl

theorem Quiet.bind (h : x.Quiet) (hf : ∀ a, (f a).OnDial p) : (x >>= f).OnDial p := by
  change (x.bind f).OnDial p
  induction x with
  | done a => exact hf a
  | perform e next ih => exact ⟨fun he => (h.1 he).elim, fun r => ih r (h.2 r)⟩

theorem Quiet.onDial {x : Job β} (h : x.Quiet) : x.OnDial p := by
  induction x with
  | done a => trivial
  | perform e next ih => exact ⟨fun he => (h.1 he).elim, fun r => ih r (h.2 r)⟩

theorem Remainder.of_next {next : e.Response → Job α} {r : e.Response} {rest : Job α}
    (h : (next r).Remainder rest) : (perform e next).Remainder rest := by
  induction h with
  | whole => exact .after r .whole
  | after r' _ ih => exact .after r' ih

/-- The first part of a job may dial where `p` holds all the time it lasts. -/
theorem onDial_bind (hx : ∀ rest, x.Remainder rest → (∀ a, rest ≠ done a) → p (rest >>= f))
    (hf : ∀ a, (f a).OnDial p) : (x >>= f).OnDial p := by
  change (x.bind f).OnDial p
  induction x with
  | done a => exact hf a
  | perform e next ih =>
    refine ⟨fun _ => hx _ .whole fun a h => ?_, fun r => ih r fun rest hrest => ?_⟩
    · cases h
    · exact hx rest hrest.of_next

end Job

open Job

theorem Session.close_quiet (s : SessionId) : (close s).Quiet := by
  refine (quiet_ask rfl).bind fun v => ?_
  split
  · exact (quiet_ask rfl).bind fun _ => quiet_pure _
  · refine (quiet_ask rfl).bind fun _ => (quiet_ask rfl).bind fun _ => ?_
    refine (quiet_log ..).bind fun _ => (quiet_ask rfl).bind fun r => ?_
    cases r <;> exact quiet_pure _

namespace Cluster

variable {i : SlotId}

theorem closeQuietly_quiet (h : Host) : (closeQuietly h).Quiet := by
  have hclose : h.close.Quiet := (Session.close_quiet h.session).bind fun _ => quiet_pure _
  refine hclose.bind fun r => ?_
  cases r with
  | error e => exact quiet_log ..
  | ok => exact quiet_pure _

theorem settle_quiet (result : Except ClientError Host) : (settle i result).Quiet := by
  cases result with
  | error e => exact (quiet_ask rfl).bind fun _ => quiet_pure _
  | ok h => exact (quiet_ask rfl).bind fun _ => (quiet_ask rfl).bind fun _ => quiet_pure _

/-- What is left of a lookup that is connecting, for slot `i`. -/
def ConnectsFor (i : SlotId) (job : Job (Except ClientError Host)) : Prop :=
  ∃ endpoint timeoutMillis rest, job = rest >>= settle i ∧
    (Host.connect endpoint timeoutMillis).Remainder rest ∧ ∀ result, rest ≠ .done result

/-- A lookup dials only while it connects. -/
def Lookup (job : Job (Except ClientError Host)) : Prop :=
  job.OnDial fun job => ∃ i, ConnectsFor i job

theorem occupy_lookup (c : Cluster) (uuid : Uuid) (endpoint : Endpoint) :
    Lookup (c.occupy uuid endpoint i) := by
  refine (quiet_ask rfl).bind fun found => ?_
  cases found with
  | some h => exact trivial
  | none =>
    refine (quiet_ask rfl).bind fun _ => (quiet_ask rfl).bind fun found => ?_
    cases found with
    | some h => exact (quiet_ask rfl).bind fun _ => trivial
    | none =>
      refine (quiet_log ..).bind fun _ => onDial_bind (fun rest hrest hne => ?_) fun result => ?_
      · exact ⟨i, endpoint, c.timeoutMillis, rest, rfl, hrest, hne⟩
      · exact (settle_quiet result).onDial

theorem host_lookup (c : Cluster) (uuid : Uuid) : Lookup (c.host uuid) := by
  unfold host
  split
  · exact trivial
  · rename_i endpoint _
    refine (quiet_ask rfl).bind fun i => (quiet_ask rfl).bind fun found => ?_
    cases found with
    | none => exact c.occupy_lookup uuid endpoint
    | some pooled =>
      refine (quiet_ask rfl).bind fun defunct => ?_
      cases defunct with
      | false => exact trivial
      | true =>
        refine (quiet_log ..).bind fun _ => (quiet_ask rfl).bind fun _ => ?_
        exact (closeQuietly_quiet pooled).bind fun _ => c.occupy_lookup uuid endpoint

end Cluster

/-- If the worker is on a lookup, it dials only while it connects. -/
def Worker.Connects : Worker → Prop
  | ⟨.seek _, .running job⟩ => Cluster.Lookup job
  | _ => True

namespace Scene

variable {c : Cluster} {σ : Scene} {u : Uuid} {t : ThreadId}

theorem Reachable.connects (h : Reachable c σ) :
    ∀ (t : ThreadId) (worker : Worker), σ.workers[t]? = some worker → worker.Connects := by
  induction h with
  | initial bed slots pool =>
    intro t worker hworker
    cases hworker
  | step _ hstep ih =>
    refine hstep.preserves ih (fun errand => ?_) ?_ ?_ ?_
    · cases errand with
      | seek uuid => exact c.host_lookup uuid
      | _ => trivial
    · intro t errand e next r w _ hold
      cases errand with
      | seek uuid => exact hold.2 r
      | _ => trivial
    · intro t errand result _
      cases errand <;> trivial
    · intro t errand
      cases errand <;> trivial

end Scene
end ClusterProbe
