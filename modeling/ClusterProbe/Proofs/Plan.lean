import ClusterProbe.Plan
import ClusterProbe.Proofs.World.Ensemble

/-!
# What comes of a plan

`Plan.Performs` relates a plan and a world to what can come of it: each job of its own runs to its
end, and jobs that start together come to their ends in any order of their steps. A rehearsal of a
plan is one such performance (`Plan.performs_of_rehearse`), so what is shown of all performances
holds of everything that a rehearsal comes to.
-/
namespace ClusterProbe

open Trade

variable {α β : Type}

namespace World

/-- Thread `t` has come to its end, and what it has opened stays open. -/
def retire (t : ThreadId) (w : World) : World :=
  { w with bed := w.bed.onNetwork (Network.keepAll t) }

/-- Jobs that start together in world `w` have all come to their ends in `w'`, with these
results. -/
def Together (jobs : List (Job α)) (w : World) (results : List α) (w' : World) : Prop :=
  results.length = jobs.length ∧
    Crew.Reaches (T := among jobs) ⟨w, []⟩
      ⟨w', List.zipWith (fun a result => ⟨a, .finished result⟩) jobs.attach results⟩

end World

namespace Plan

/-- Going through with a plan takes the world from `w` to `w'`, with this result. -/
def Performs : Plan α → World → α → World → Prop
  | done a => fun w b w' => b = a ∧ w' = w
  | run job next => fun w b w' =>
      ∃ r w₁, job.Runs 0 w (some r) w₁ ∧ (next r).Performs (w₁.retire 0) b w'
  | together jobs next => fun w b w' =>
      ∃ results w₁, w.Together jobs results w₁ ∧ (next results).Performs w₁ b w'

variable {w w' : World}

theorem performs_one (job : Job α) (a : α) :
    (one job).Performs w a w' ↔ ∃ w₁, job.Runs 0 w (some a) w₁ ∧ w' = w₁.retire 0 := by
  constructor
  · rintro ⟨r, w₁, hrun, rfl, rfl⟩
    exact ⟨w₁, hrun, rfl⟩
  · rintro ⟨w₁, hrun, rfl⟩
    exact ⟨a, w₁, hrun, rfl, rfl⟩

theorem performs_all (jobs : List (Job α)) (results : List α) :
    (all jobs).Performs w results w' ↔ w.Together jobs results w' := by
  constructor
  · rintro ⟨_, w₁, htogether, rfl, rfl⟩
    exact htogether
  · exact fun htogether => ⟨results, w', htogether, rfl, rfl⟩

theorem performs_bind (p : Plan α) (f : α → Plan β) (b : β) :
    (p >>= f).Performs w b w' ↔ ∃ a w₁, p.Performs w a w₁ ∧ (f a).Performs w₁ b w' := by
  change (p.bind f).Performs w b w' ↔ _
  induction p generalizing w with
  | done a =>
    constructor
    · exact fun h => ⟨a, w, ⟨rfl, rfl⟩, h⟩
    · rintro ⟨_, _, ⟨rfl, rfl⟩, h⟩
      exact h
  | run job next ih =>
    simp only [Plan.bind, Performs, ih]
    constructor
    · rintro ⟨r, w₁, hrun, a, w₂, hnext, hf⟩
      exact ⟨a, w₂, ⟨r, w₁, hrun, hnext⟩, hf⟩
    · rintro ⟨a, w₂, ⟨r, w₁, hrun, hnext⟩, hf⟩
      exact ⟨r, w₁, hrun, a, w₂, hnext, hf⟩
  | together jobs next ih =>
    simp only [Plan.bind, Performs, ih]
    constructor
    · rintro ⟨results, w₁, hjobs, a, w₂, hnext, hf⟩
      exact ⟨a, w₂, ⟨results, w₁, hjobs, hnext⟩, hf⟩
    · rintro ⟨a, w₂, ⟨results, w₁, hjobs, hnext⟩, hf⟩
      exact ⟨results, w₁, hjobs, a, w₂, hnext, hf⟩

theorem performs_one_bind (job : Job α) (f : α → Plan β) (b : β) :
    (one job >>= f).Performs w b w' ↔
      ∃ a w₁, job.Runs 0 w (some a) w₁ ∧ (f a).Performs (w₁.retire 0) b w' := Iff.rfl

theorem performs_all_bind (jobs : List (Job α)) (f : List α → Plan β) (b : β) :
    (all jobs >>= f).Performs w b w' ↔
      ∃ results w₁, w.Together jobs results w₁ ∧ (f results).Performs w₁ b w' := Iff.rfl

end Plan

/-! ## Rehearsals are performances -/

namespace Trade.Crew

variable {T : Trade}

/-- Everybody may start before anything else happens. -/
theorem reaches_of_starts (w : World) (before : List T.Worker) (tasks : List T.Task) :
    Reaches ⟨w, before⟩ ⟨w, before ++ tasks.map fun a => ⟨a, .running (T.job a)⟩⟩ := by
  induction tasks generalizing before with
  | nil => rw [List.map_nil, List.append_nil]
  | cons a tasks ih =>
    have hrest := ih (before ++ [⟨a, .running (T.job a)⟩])
    rw [List.append_assoc] at hrest
    exact hrest.head (.starts a)

end Trade.Crew

namespace Rehearsal

variable {bed bed' : Testbed}

theorem run_bind (x : OptionT Rehearsal α) (f : α → OptionT Rehearsal β) (bed : Testbed) :
    (x >>= f).run.run bed =
      match x.run.run bed with
      | (some a, bed) => (f a).run.run bed
      | (none, bed) => (none, bed) := by
  simp only [OptionT.run_bind, Option.elimM, StateT.run_bind]
  rcases x.run.run bed with ⟨_ | a, bed₁⟩ <;> rfl

theorem run_bind_eq_some {x : OptionT Rehearsal α} {f : α → OptionT Rehearsal β} {b : β} :
    (x >>= f).run.run bed = (some b, bed') ↔
      ∃ a bed₁, x.run.run bed = (some a, bed₁) ∧ (f a).run.run bed₁ = (some b, bed') := by
  rw [run_bind]
  rcases x.run.run bed with ⟨_ | a, bed₁⟩
  · constructor
    · rintro ⟨⟩
    · rintro ⟨a, bed₂, ⟨⟩, -⟩
  · constructor
    · exact fun h => ⟨a, bed₁, rfl, h⟩
    · rintro ⟨_, _, ⟨⟩, h⟩
      exact h

/-- The threads that do these jobs, at their start. -/
def started (jobs : List (Job α)) : List (Thread α) :=
  jobs.map fun job => ⟨.running job, none⟩

/-- What becomes of jobs that start together. -/
def outcome (jobs : List (Job α)) (bed : Testbed) : List (Thread α) × Testbed :=
  bed.runThreads Testbed.patience (started jobs)

theorem runAllWithin_eq (jobs : List (Job α)) (bed : Testbed) :
    (runAllWithin (jobs.map fun job => (job, none))).run bed =
      ((outcome jobs bed).1.map Thread.result?, (outcome jobs bed).2) := by
  have hstarted : (jobs.map fun job => (job, (none : Option Nat))).map (fun x =>
      { progress := .running x.1, deadline := x.2.map (bed.network.now + ·) : Thread α }) =
        started jobs := by
    rw [List.map_map]
    rfl
  unfold runAllWithin outcome
  rw [← hstarted]
  rfl

theorem runOne_eq (job : Job α) (bed : Testbed) : (runOne job).run.run bed =
    (((outcome [job] bed).1.map Thread.result?).head?.join, (outcome [job] bed).2) := by
  have hthreads := runAllWithin_eq [job] bed
  change (runAllWithin [(job, none)]).run bed = _ at hthreads
  simp only [runOne, runWithin, OptionT.run_mk, StateT.run_bind, StateT.run_pure, hthreads]
  rfl

theorem runAll_eq (jobs : List (Job α)) (bed : Testbed) : (runAll jobs).run.run bed =
    (((outcome jobs bed).1.map Thread.result?).mapM id, (outcome jobs bed).2) := by
  simp only [runAll, OptionT.run_mk, StateT.run_bind, StateT.run_pure, runAllWithin_eq]
  rfl

theorem runs_of_runOne {job : Job α} {a : α} (h : (runOne job).run.run bed = (some a, bed'))
    (past : Chronicle) :
    ∃ w', job.Runs 0 ⟨bed, past⟩ (some a) w' ∧ bed' = w'.bed.onNetwork (Network.keepAll 0) := by
  rw [runOne_eq] at h
  obtain ⟨hresult, rfl⟩ := Prod.mk.inj h
  exact Testbed.runs_of_runThreads rfl hresult past

/-- Threads that all have a result have finished. -/
theorem staff_of_results {jobs : List (Job α)} {tasks : List (among jobs).Task}
    {threads : List (Thread α)} {results : List α}
    (h : (threads.map Thread.result?).mapM id = some results)
    (hlength : threads.length = tasks.length) :
    results.length = tasks.length ∧ staff tasks threads =
      List.zipWith (fun a result => ⟨a, .finished result⟩) tasks results := by
  induction threads generalizing tasks results with
  | nil =>
    cases h
    obtain rfl := List.length_eq_zero_iff.1 hlength.symm
    exact ⟨rfl, rfl⟩
  | cons thread threads ih =>
    cases tasks with
    | nil => cases hlength
    | cons a tasks =>
      rw [List.map_cons, List.mapM_cons] at h
      obtain ⟨result, hresult, h⟩ := Option.bind_eq_some_iff.1 h
      obtain ⟨rest, hrest, h⟩ := Option.bind_eq_some_iff.1 h
      cases h
      obtain ⟨hlength', hstaff⟩ := ih hrest (Nat.succ.inj hlength)
      obtain ⟨progress, deadline⟩ := thread
      obtain rfl : progress = .finished result := by
        cases progress <;> cases hresult
        rfl
      refine ⟨congrArg Nat.succ hlength', ?_⟩
      rw [List.zipWith_cons_cons, ← hstaff]
      rfl

theorem staff_started (jobs : List (Job α)) :
    staff jobs.attach (started jobs) = jobs.attach.map fun a => ⟨a, .running a.1⟩ := by
  have hthreads : started jobs = jobs.attach.map fun a => ⟨.running a.1, none⟩ := by
    conv_lhs => rw [started, ← List.attach_map_subtype_val jobs, List.map_map]
    rfl
  rw [hthreads, staff, List.zipWith_map_right, List.zipWith_self]

theorem together_of_runAll {jobs : List (Job α)} {results : List α}
    (h : (runAll jobs).run.run bed = (some results, bed')) (past : Chronicle) :
    ∃ past', World.Together jobs ⟨bed, past⟩ results ⟨bed', past'⟩ := by
  rw [runAll_eq] at h
  cases houtcome : outcome jobs bed with
  | mk threads bed₁ =>
    rw [houtcome] at h
    obtain ⟨hresults, rfl⟩ := Prod.mk.inj h
    have hlength : (started jobs).length = jobs.attach.length := by
      rw [started, List.length_map, List.length_attach]
    have hdeadlines : ∀ x ∈ started jobs, x.deadline = none := by
      intro x hx
      obtain ⟨job, -, rfl⟩ := List.mem_map.1 hx
      rfl
    obtain ⟨hlength', past', hreach⟩ :=
      Testbed.reaches_of_runThreads jobs.attach houtcome hlength hdeadlines past
    obtain ⟨hfinished, hstaff⟩ := staff_of_results hresults hlength'
    have hstart := Crew.reaches_of_starts (T := among jobs) ⟨bed, past⟩ [] jobs.attach
    rw [staff_started, hstaff] at hreach
    exact ⟨past', hfinished.trans List.length_attach, hstart.trans hreach⟩

end Rehearsal

/-- What a rehearsal of a plan comes to, the plan can come to. -/
theorem Plan.performs_of_rehearse {p : Plan α} {a : α} {bed bed' : Testbed}
    (h : p.rehearse.run.run bed = (some a, bed')) (past : Chronicle) :
    ∃ past', p.Performs ⟨bed, past⟩ a ⟨bed', past'⟩ := by
  induction p generalizing bed past with
  | done b =>
    cases h
    exact ⟨past, rfl, rfl⟩
  | run job next ih =>
    obtain ⟨r, bed₁, hjob, hnext⟩ := Rehearsal.run_bind_eq_some.1 h
    obtain ⟨w₁, hrun, rfl⟩ := Rehearsal.runs_of_runOne hjob past
    obtain ⟨past', hperforms⟩ := ih r hnext w₁.past
    exact ⟨past', r, w₁, hrun, hperforms⟩
  | together jobs next ih =>
    obtain ⟨results, bed₁, hjobs, hnext⟩ := Rehearsal.run_bind_eq_some.1 h
    obtain ⟨past₁, htogether⟩ := Rehearsal.together_of_runAll hjobs past
    obtain ⟨past', hperforms⟩ := ih results hnext past₁
    exact ⟨past', results, _, htogether, hperforms⟩

end ClusterProbe
