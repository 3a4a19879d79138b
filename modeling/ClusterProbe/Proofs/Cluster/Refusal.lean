import ClusterProbe.Proofs.Cluster.Scene

/-!
# Calls that are refused

A call that finds its session closed neither writes nor reads: it ends with the error that the
session is closed or out of step, and closes it if it was not. So every call on an exhausted session
is refused, whatever the others do meanwhile.
-/
namespace ClusterProbe

variable {α β : Type} {s : SessionId}

def Effect.FindsClosed (s : SessionId) : (e : Effect) → e.Response → Prop
  | .acquire s', v => s' = s → Session.isClosed v = true
  | _, _ => True

namespace Job

/-- What comes of the job if session `s` is closed whenever the job takes it. -/
def OnClosed (s : SessionId) (post : α → Prop) : Job α → Prop
  | done a => post a
  | perform e next => ∀ r, e.FindsClosed s r → (next r).OnClosed s post

variable {post post' : α → Prop} {x : Job α}

theorem OnClosed.mono (h : x.OnClosed s post) (himp : ∀ a, post a → post' a) :
    x.OnClosed s post' := by
  induction x with
  | done a => exact himp a h
  | perform e next ih => exact fun r hr => ih r (h r hr)

theorem onClosed_bind {f : α → Job β} {post : β → Prop} :
    (x >>= f).OnClosed s post ↔ x.OnClosed s fun a => (f a).OnClosed s post := by
  change (x.bind f).OnClosed s post ↔ _
  induction x with
  | done a => exact Iff.rfl
  | perform e next ih => exact forall_congr' fun r => imp_congr Iff.rfl (ih r)

theorem onClosed_true (x : Job α) : x.OnClosed s fun _ => True := by
  induction x with
  | done a => trivial
  | perform e next ih => exact fun r _ => ih r

theorem OnClosed.after {f : α → Job β} {post : β → Prop} (hf : ∀ a, (f a).OnClosed s post) :
    (x >>= f).OnClosed s post :=
  onClosed_bind.2 ((onClosed_true x).mono fun a _ => hf a)

end Job

/-- The call was refused: its session is closed or out of step. -/
def Refused (r : Except SessionError α) : Prop :=
  ∃ endpoint, r = .error (.closed endpoint) ∨ r = .error (.desynced endpoint)

theorem Session.beginCall_refused {v : Session} (h : v.isClosed = true) :
    (beginCall s v).OnClosed s Refused := by
  cases hflight : v.inFlight with
  | true =>
    unfold beginCall
    rw [if_pos hflight]
    exact .after fun _ => .after fun _ => ⟨v.endpoint, Or.inr rfl⟩
  | false =>
    have hstream : v.stream = none := by
      rw [isClosed, hflight, Bool.or_false, Option.isNone_iff_eq_none] at h
      exact h
    rw [beginCall_of_stream hstream hflight]
    exact ⟨v.endpoint, Or.inl rfl⟩

theorem Messenger.call_refused (m : Messenger) (method : RemoteMethod) (body : Bytes) :
    (m.call method body).OnClosed m.session Refused := by
  intro v hv
  change Job.OnClosed _ _ (m.callHeld method body v >>= _)
  refine Job.onClosed_bind.2 ?_
  have hheld : (m.callHeld method body v).OnClosed m.session Refused := by
    refine Job.onClosed_bind.2 ((Session.beginCall_refused (hv rfl)).mono ?_)
    rintro r ⟨endpoint, rfl | rfl⟩
    · exact ⟨endpoint, Or.inl rfl⟩
    · exact ⟨endpoint, Or.inr rfl⟩
  refine hheld.mono ?_
  intro r hr
  exact fun _ _ => hr

theorem Service.call_refused {Q : Type} [Protobuf.Message Q] (A : Type) [Protobuf.Message A]
    (m : Messenger) (method : RemoteMethod) (request : Q) :
    (Service.call A m method request).OnClosed m.session Refused := by
  refine .after fun _ => Job.onClosed_bind.2 ((m.call_refused method _).mono ?_)
  rintro r ⟨endpoint, rfl | rfl⟩
  · exact ⟨endpoint, Or.inl rfl⟩
  · exact ⟨endpoint, Or.inr rfl⟩

/-- If it is a call on session `s`, it has been refused. -/
def Errand.Refuses (s : SessionId) : (a : Errand) → a.Result → Prop
  | call _A m _method _request => fun result => m.session = s → Refused result
  | _ => fun _ => True

theorem Errand.job_refused (c : Cluster) (s : SessionId) (a : Errand) :
    (a.job c).OnClosed s (a.Refuses s) := by
  cases a with
  | seek uuid => exact Job.onClosed_true _
  | call A m method request =>
    by_cases hs : m.session = s
    · subst hs
      exact (Service.call_refused A m method request).mono fun _ hr _ => hr
    · exact (Job.onClosed_true _).mono fun _ _ heq => absurd heq hs
  | close host => exact Job.onClosed_true _

/-- The worker's call on session `s` was refused, or will be if the session is closed. -/
def Worker.Refused (s : SessionId) : Worker → Prop
  | ⟨errand, .running job⟩ => job.OnClosed s (errand.Refuses s)
  | ⟨errand, .finished result⟩ => errand.Refuses s result
  | ⟨_, .cancelled⟩ => True

theorem World.Answers.findsClosed {t : ThreadId} {e : Effect} {r : e.Response} {w w' : World}
    (ha : w.Answers t e r w') (hs : w.bed.Closed s) : e.FindsClosed s r := by
  cases e with
  | acquire s' =>
    rintro rfl
    obtain ⟨bed, ha | hf, _⟩ := ha
    · obtain ⟨v, hv, hclosed⟩ := hs
      obtain ⟨hvalue, _⟩ := Testbed.answer_acquire ha
      rw [hv] at hvalue
      cases hvalue
      exact hclosed
    · exact hf.elim
  | _ => trivial

/-- While a session is closed, the threads from number `n` on are refused, whoever takes a step. -/
theorem Scene.Step.refused {c : Cluster} {σ σ' : Scene} {n : Nat} (h : Step c σ σ')
    (hs : σ.world.bed.Closed s)
    (hworkers : ∀ t (worker : Worker), σ.workers[t]? = some worker → n ≤ t → worker.Refused s) :
    ∀ t (worker : Worker), σ'.workers[t]? = some worker → n ≤ t → worker.Refused s := by
  refine h.preserves hworkers (fun errand _ => errand.job_refused c s) ?_ (fun _ _ _ => id)
    fun _ _ _ => trivial
  intro t errand e next r w answers hold hn
  exact hold hn r (answers.findsClosed hs)

end ClusterProbe
