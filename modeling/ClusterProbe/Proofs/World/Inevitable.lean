import Mathlib.Order.WellFounded
import Mathlib.Logic.Relation
import ClusterProbe.Testbed

/-!
# What a job is bound to come to

While a thread does its job in a testbed, the far ends go on and time passes, in any order. A job
ensures what holds at its end however the steps fall: no order of them goes on for ever, and none
comes to a halt before the job is done (`Job.Ensures`). Jobs are put together by `Ensures.bind`; for
a single effect it is enough that every step of the far ends goes down in a well-founded order.
-/
namespace ClusterProbe

variable {α β : Type} {t : ThreadId}

/-- What can happen in a testbed by itself: a far end goes on, or time moves to the next moment that
one of them waits for. -/
inductive Testbed.Drifts (bed : Testbed) : Testbed → Prop
  | served {c : ConnectionId} {network : Network} (h : bed.network.step c = some network) :
      Drifts bed { bed with network }
  | slept {now : Nat} (h : bed.network.nextWake? = some now) :
      Drifts bed (bed.onNetwork fun n => { n with now })

namespace Job

/-- A thread gets what it asks for, or takes in something while it waits, or the testbed drifts. -/
inductive Step (t : ThreadId) : Job α × Testbed → Job α × Testbed → Prop
  | answered {e : Effect} {next : e.Response → Job α} {r : e.Response} {bed bed' : Testbed}
      (h : bed.answer t e = (some r, bed')) : Step t (perform e next, bed) (next r, bed')
  | waited {e : Effect} {next : e.Response → Job α} {bed bed' : Testbed}
      (h : bed.answer t e = (none, bed')) (hnew : bed' ≠ bed) :
      Step t (perform e next, bed) (perform e next, bed')
  | drifted {e : Effect} {next : e.Response → Job α} {bed bed' : Testbed} (h : bed.Drifts bed') :
      Step t (perform e next, bed) (perform e next, bed')

/-- Whatever the order of the steps, the job comes to its end, and there `post` holds. -/
inductive Ensures (t : ThreadId) (post : α → Testbed → Prop) : Job α → Testbed → Prop
  | done {a : α} {bed : Testbed} (h : post a bed) : Ensures t post (done a) bed
  | perform {e : Effect} {next : e.Response → Job α} {bed : Testbed}
      (lives : ∃ x, Step t (perform e next, bed) x)
      (steps : ∀ job bed', Step t (perform e next, bed) (job, bed') → Ensures t post job bed') :
      Ensures t post (perform e next) bed

variable {post : α → Testbed → Prop} {bed bed' : Testbed}

/-- What is ensured stays so along a run. -/
theorem Ensures.along {job job' : Job α} (h : job.Ensures t post bed)
    (hsteps : Relation.ReflTransGen (Step t) (job, bed) (job', bed')) :
    job'.Ensures t post bed' := by
  induction h with
  | done h =>
    rcases Relation.ReflTransGen.cases_head hsteps with heq | ⟨x, hstep, _⟩
    · cases heq
      exact .done h
    · cases hstep
  | perform lives steps ih =>
    rcases Relation.ReflTransGen.cases_head hsteps with heq | ⟨⟨job, bed₁⟩, hstep, hrest⟩
    · cases heq
      exact .perform lives steps
    · exact ih job bed₁ hstep hrest

/-- A run that has come to its end has come to what is ensured. -/
theorem Ensures.post_of_reaches {job : Job α} {a : α} (h : job.Ensures t post bed)
    (hsteps : Relation.ReflTransGen (Step t) (job, bed) (.done a, bed')) : post a bed' := by
  cases h.along hsteps with
  | done h => exact h

/-- No run goes on for ever. -/
theorem Ensures.terminates {job : Job α} (h : job.Ensures t post bed) :
    Acc (fun y x => Step t x y) (job, bed) := by
  induction h with
  | done h =>
    refine ⟨_, fun y hstep => ?_⟩
    cases hstep
  | perform _ _ ih => exact ⟨_, fun y hstep => ih y.1 y.2 hstep⟩

theorem ensures_pure {a : α} (h : post a bed) : (pure a : Job α).Ensures t post bed :=
  .done h

theorem Ensures.mono {post' : α → Testbed → Prop} {job : Job α} (h : job.Ensures t post bed)
    (hpost : ∀ a bed', post a bed' → post' a bed') : job.Ensures t post' bed := by
  induction h with
  | done h => exact .done (hpost _ _ h)
  | perform lives _ ih => exact .perform lives ih

theorem Ensures.bind {x : Job α} {f : α → Job β} {post' : β → Testbed → Prop}
    (h : x.Ensures t post bed) (hf : ∀ a bed', post a bed' → (f a).Ensures t post' bed') :
    (x >>= f).Ensures t post' bed := by
  induction h with
  | done h => exact hf _ _ h
  | perform lives _ ih =>
    refine .perform ?_ fun job bed₁ hstep => ?_
    · obtain ⟨x, hstep⟩ := lives
      cases hstep with
      | answered h => exact ⟨_, .answered h⟩
      | waited h hnew => exact ⟨_, .waited h hnew⟩
      | drifted h => exact ⟨_, .drifted h⟩
    · cases hstep with
      | answered h => exact ih _ _ (.answered h)
      | waited h hnew => exact ih _ _ (.waited h hnew)
      | drifted h => exact ih _ _ (.drifted h)

/-- An effect is answered in the end if it is asked for in a situation `J` that lasts, in which the
testbed goes down in a well-founded order for as long as there is no answer. -/
theorem ensures_ask {R : Type} [Preorder R] [WellFoundedLT R] {e : Effect}
    {post : e.Response → Testbed → Prop} {J : Testbed → Prop} (rank : Testbed → R)
    (drifts : ∀ {bed bed'}, J bed → bed.Drifts bed' → J bed' ∧ rank bed' < rank bed)
    (waits : ∀ {bed bed'}, J bed → bed.answer t e = (none, bed') → bed' ≠ bed →
      J bed' ∧ rank bed' < rank bed)
    (lives : ∀ {bed}, J bed → bed.answer t e = (none, bed) → ∃ bed', bed.Drifts bed')
    (answers : ∀ {bed r bed'}, J bed → bed.answer t e = (some r, bed') → post r bed')
    (h : J bed) : (ask e).Ensures t post bed := by
  induction bed using (InvImage.wf rank wellFounded_lt).induction with
  | _ bed ih =>
    refine .perform ?_ fun job bed' hstep => ?_
    · rcases hanswer : bed.answer t e with ⟨_ | r, bed'⟩
      · by_cases hnew : bed' = bed
        · subst hnew
          obtain ⟨bed₁, hdrift⟩ := lives h hanswer
          exact ⟨_, .drifted hdrift⟩
        · exact ⟨_, .waited hanswer hnew⟩
      · exact ⟨_, .answered hanswer⟩
    · cases hstep with
      | answered hanswer => exact .done (answers h hanswer)
      | waited hanswer hnew =>
        obtain ⟨hJ, hless⟩ := waits h hanswer hnew
        exact ih bed' hless hJ
      | drifted hdrift =>
        obtain ⟨hJ, hless⟩ := drifts h hdrift
        exact ih bed' hless hJ

end Job
end ClusterProbe
