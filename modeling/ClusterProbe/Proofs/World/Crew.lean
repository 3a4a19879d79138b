import Mathlib.Logic.Function.Basic
import Mathlib.Logic.Relation
import ClusterProbe.Proofs.Session.Exchange

/-!
# Crews

Any number of threads in one world, each sent to do one of a few kinds of jobs: a `Trade`. In each
step one of them gets what it asked for, waits, comes to its end or is given up, or a new one
starts, or a far end moves. What a thread may do next depends on where its answers have brought it;
if all jobs of a trade keep to such rules (`Conduct`), then what each rule keeps is kept by the
whole crew, in every order of steps.
-/
namespace ClusterProbe

variable {α β : Type}

/-- What a testbed can answer: of what is to be written, at least one byte goes through. -/
def Effect.Credible : (e : Effect) → e.Response → Prop
  | .write _ bytes => fun r => ∀ n, r = .ok n → bytes ≠ [] → 0 < n
  | _ => fun _ => True

theorem World.Answers.credible {t : ThreadId} {e : Effect} {r : e.Response} {w w' : World}
    (h : w.Answers t e r w') : e.Credible r := by
  cases e with
  | write c bytes =>
    rintro n rfl hbytes
    exact World.Settles.write_pos ⟨w, .refl, h⟩ hbytes
  | _ => trivial

/-! ## Rules -/

/-- What a thread may ask for where it stands, and where the answer brings it. -/
structure Rules (S : Type) where
  Allows : S → Effect → Prop
  after : S → (e : Effect) → e.Response → S

namespace Job

variable {S : Type} {R : Rules S} {post post' : α → S → Prop} {st : S} {e : Effect}

/-- Each effect of the job is allowed where the thread stands, and the result goes with where it
stands at the end. -/
def Follows (R : Rules S) (post : α → S → Prop) : Job α → S → Prop
  | done a, st => post a st
  | perform e next, st =>
    R.Allows st e ∧ ∀ r, e.Credible r → (next r).Follows R post (R.after st e r)

theorem Follows.mono {x : Job α} (h : x.Follows R post st)
    (himp : ∀ a st, post a st → post' a st) : x.Follows R post' st := by
  induction x generalizing st with
  | done a => exact himp a st h
  | perform e next ih => exact ⟨h.1, fun r hr => ih r (h.2 r hr)⟩

theorem follows_bind {x : Job α} {f : α → Job β} {post : β → S → Prop} :
    (x >>= f).Follows R post st ↔ x.Follows R (fun a st' => (f a).Follows R post st') st := by
  change (x.bind f).Follows R post st ↔ _
  induction x generalizing st with
  | done a => exact Iff.rfl
  | perform e next ih =>
    exact and_congr Iff.rfl (forall_congr' fun r => imp_congr Iff.rfl (ih r))

theorem Follows.bind {x : Job α} {f : α → Job β} {post' : β → S → Prop}
    (h : x.Follows R post st) (hf : ∀ a st', post a st' → (f a).Follows R post' st') :
    (x >>= f).Follows R post' st :=
  follows_bind.2 (h.mono hf)

theorem follows_ask_bind {f : e.Response → Job α} (h : R.Allows st e)
    (hf : ∀ r, e.Credible r → (f r).Follows R post (R.after st e r)) :
    (ask e >>= f).Follows R post st := ⟨h, hf⟩

theorem Follows.ask {e : Effect} {post : e.Response → S → Prop} (h : R.Allows st e)
    (hf : ∀ r, e.Credible r → post r (R.after st e r)) : (Job.ask e).Follows R post st := ⟨h, hf⟩

/-- Rules that look only at a part of where the thread stands, as long as it stands among certain
places. -/
theorem Follows.through {S' : Type} {R' : Rules S'} {x : Job α} (part : S' → S) (among : S' → Prop)
    {st : S'} (h : x.Follows R post (part st)) (hst : among st)
    (hallows : ∀ st e, among st → R.Allows (part st) e → R'.Allows st e)
    (hafter : ∀ st e r, part (R'.after st e r) = R.after (part st) e r)
    (hstay : ∀ st e r, among st → among (R'.after st e r)) :
    x.Follows R' (fun a st' => post a (part st')) st := by
  induction x generalizing st with
  | done a => exact h
  | perform e next ih =>
    refine ⟨hallows st e hst h.1, fun r hr => ih r ?_ (hstay st e r hst)⟩
    rw [hafter]
    exact h.2 r hr

/-- The job asks for nothing but what meets the test. -/
def Asks (test : Effect → Prop) : Job α → Prop
  | done _ => True
  | perform e next => test e ∧ ∀ r, (next r).Asks test

theorem Asks.bind {test : Effect → Prop} {x : Job α} {f : α → Job β} (h : x.Asks test)
    (hf : ∀ a, (f a).Asks test) : (x >>= f).Asks test := by
  change (x.bind f).Asks test
  induction x with
  | done a => exact hf a
  | perform e next ih => exact ⟨h.1, fun r => ih r (h.2 r)⟩

theorem Asks.mono {test test' : Effect → Prop} {x : Job α} (h : x.Asks test)
    (himp : ∀ e, test e → test' e) : x.Asks test' := by
  induction x with
  | done a => trivial
  | perform e next ih => exact ⟨himp e h.1, fun r => ih r (h.2 r)⟩

theorem asks_pure (test : Effect → Prop) (a : α) : (pure a : Job α).Asks test := trivial

theorem asks_ask {test : Effect → Prop} {e : Effect} (h : test e) : (Job.ask e).Asks test :=
  ⟨h, fun _ => trivial⟩

/-- A job that asks only for what is allowed here and does not lead away. -/
theorem Asks.follows {test : Effect → Prop} {x : Job α} (h : x.Asks test)
    (hallows : ∀ e, test e → R.Allows st e) (hstay : ∀ e r, test e → R.after st e r = st) :
    x.Follows R (fun _ st' => st' = st) st := by
  induction x with
  | done a => rfl
  | perform e next ih =>
    refine ⟨hallows e h.1, fun r _ => ?_⟩
    rw [hstay e r h.1]
    exact ih r (h.2 r)

/-- An effect that is allowed here and does not lead away. -/
theorem follows_idle_bind {f : e.Response → Job α} (h : R.Allows st e)
    (hstay : ∀ r, R.after st e r = st) (hf : ∀ r, (f r).Follows R post st) :
    (ask e >>= f).Follows R post st :=
  ⟨h, fun r _ => (hstay r).symm ▸ hf r⟩

end Job

/-! ## Trades and crews -/

/-- The kinds of jobs that threads are sent to do. -/
structure Trade where
  Task : Type
  Result : Task → Type
  job : (a : Task) → Job (Result a)

namespace Trade

/-- The tasks of a trade that meet the test. -/
abbrev restrict (T : Trade) (test : T.Task → Prop) : Trade where
  Task := { a // test a }
  Result a := T.Result a.1
  job a := T.job a.1

variable (T : Trade)

structure Worker where
  task : T.Task
  progress : Progress (T.Result task)

/-- A world and the threads in it, by their numbers. -/
structure Crew where
  world : World
  workers : List T.Worker

variable {T}

namespace Crew

/-- What may happen next. -/
inductive Step (σ : T.Crew) : T.Crew → Prop
  | starts (task : T.Task) :
      Step σ { σ with workers := σ.workers ++ [⟨task, .running (T.job task)⟩] }
  | answered {t : ThreadId} {task : T.Task} {e : Effect} {next : e.Response → Job (T.Result task)}
      {r : e.Response} {w : World}
      (running : σ.workers[t]? = some ⟨task, .running (.perform e next)⟩)
      (answers : σ.world.Answers t e r w) :
      Step σ { world := w, workers := σ.workers.set t ⟨task, .running (next r)⟩ }
  | stalled {t : ThreadId} {task : T.Task} {e : Effect} {next : e.Response → Job (T.Result task)}
      {w : World} (running : σ.workers[t]? = some ⟨task, .running (.perform e next)⟩)
      (stalls : σ.world.Stalls t e w) : Step σ { σ with world := w }
  | finished {t : ThreadId} {task : T.Task} {result : T.Result task}
      (running : σ.workers[t]? = some ⟨task, .running (.done result)⟩) :
      Step σ
        { world := { σ.world with bed := σ.world.bed.onNetwork (Network.keepAll t) }
          workers := σ.workers.set t ⟨task, .finished result⟩ }
  | cancelled {t : ThreadId} {task : T.Task} {job : Job (T.Result task)}
      (running : σ.workers[t]? = some ⟨task, .running job⟩) :
      Step σ { world := σ.world.cancel t, workers := σ.workers.set t ⟨task, .cancelled⟩ }
  | moves {w : World} (moves : σ.world.Moves w) : Step σ { σ with world := w }

/-- What may have become of a crew after any number of steps. -/
abbrev Reaches : T.Crew → T.Crew → Prop := Relation.ReflTransGen Step

section Alone

variable {t : ThreadId} {task : T.Task} {workers : List T.Worker} {w w' : World}

theorem reaches_of_waits {e : Effect} {next : e.Response → Job (T.Result task)}
    (h : World.Waits t e w w') (running : workers[t]? = some ⟨task, .running (.perform e next)⟩) :
    Reaches ⟨w, workers⟩ ⟨w', workers⟩ := by
  induction h with
  | refl => exact .refl
  | moves _ hm ih => exact ih.tail (.moves hm)
  | stalls _ hs ih => exact ih.tail (.stalled running hs)

/-- What a thread can come to on its own, it can come to in a crew. -/
theorem reaches_of_runs {job : Job (T.Result task)} {result : T.Result task}
    (h : job.Runs t w (some result) w') (running : workers[t]? = some ⟨task, .running job⟩) :
    Reaches ⟨w, workers⟩ ⟨w', workers.set t ⟨task, .running (.done result)⟩⟩ := by
  induction job generalizing w workers with
  | done a =>
    obtain ⟨ha, rfl⟩ := h
    cases ha
    have hset : workers.set t ⟨task, .running (.done result)⟩ = workers := by
      obtain ⟨hlt, hget⟩ := List.getElem?_eq_some_iff.1 running
      rw [← hget, List.set_getElem_self]
    rw [hset]
  | perform e next ih =>
    rcases h with ⟨r, w₁, ⟨w₀, hwaits, hanswers⟩, hnext⟩ | ⟨hnone, -⟩
    · have hwaited : Reaches ⟨w, workers⟩ ⟨w₀, workers⟩ := reaches_of_waits hwaits running
      have hlt := (List.getElem?_eq_some_iff.1 running).1
      have hset : (workers.set t ⟨task, .running (next r)⟩)[t]? =
          some ⟨task, .running (next r)⟩ := List.getElem?_set_self hlt
      have hgone := ih r hnext hset
      rw [List.set_set] at hgone
      exact (hwaited.tail (.answered running hanswers)).trans hgone
    · cases hnone

/-- A thread starts, does its job and comes to its end before another takes a step. -/
theorem reaches_of_ends (task : T.Task) {result : T.Result task}
    (h : (T.job task).Runs workers.length w (some result) w') :
    Reaches ⟨w, workers⟩ ⟨{ w' with bed := w'.bed.onNetwork (Network.keepAll workers.length) },
      workers ++ [⟨task, .finished result⟩]⟩ := by
  have hstarted : (workers ++ [⟨task, .running (T.job task)⟩])[workers.length]? =
      some ⟨task, .running (T.job task)⟩ := List.getElem?_concat_length
  have hrun := reaches_of_runs h hstarted
  have hdone : (workers ++ [⟨task, .running (.done result)⟩])[workers.length]? =
      some ⟨task, .running (.done result)⟩ := List.getElem?_concat_length
  rw [List.set_append_right _ _ (Nat.le_refl _), Nat.sub_self] at hrun
  have hfinish := Step.finished (σ := ⟨w', workers ++ [⟨task, .running (.done result)⟩]⟩) hdone
  rw [List.set_append_right _ _ (Nat.le_refl _), Nat.sub_self] at hfinish
  have hstart : Step ⟨w, workers⟩ ⟨w, workers ++ [⟨task, .running (T.job task)⟩]⟩ :=
    Step.starts (T := T) (σ := ⟨w, workers⟩) task
  exact (hrun.head hstart).tail hfinish

theorem reaches_of_visit (task : T.Task) {result : T.Result task} {pieces : List Bytes}
    (h : w.visit workers.length (T.job task) pieces = some (result, w')) :
    Reaches ⟨w, workers⟩ ⟨w', workers ++ [⟨task, .finished result⟩]⟩ := by
  obtain ⟨⟨answer, played⟩, hplay, heq⟩ := Option.map_eq_some_iff.1 h
  cases heq
  exact reaches_of_ends task (World.runs_of_play hplay)

end Alone

end Crew

/-- The threads that have started, each with its task and where it stands. -/
abbrev Posts (T : Trade) (S : Type) := ThreadId → Option (T.Task × S)

theorem Posts.of_update {S : Type} {Q : T.Posts S} {t t' : ThreadId} {a a' : T.Task} {st st' : S}
    (h : Function.update Q t (some (a, st)) t' = some (a', st')) :
    t' = t ∧ a' = a ∧ st' = st ∨ t' ≠ t ∧ Q t' = some (a', st') := by
  by_cases heq : t' = t
  · rw [heq, Function.update_self] at h
    cases h
    exact .inl ⟨heq, rfl, rfl⟩
  · rw [Function.update_of_ne heq] at h
    exact .inr ⟨heq, h⟩

/-- When a thread takes up a post that is as good as the one it had, everybody who had a post has
one that is as good. -/
theorem Posts.exists_update {S : Type} {Q : T.Posts S} {t t' : ThreadId} {a a' : T.Task}
    {st st' : S} {R : S → S → Prop} (hkept : ∀ st₀, R st₀ st₀)
    (hpost : Q t = none ∨ ∃ st₀, Q t = some (a, st₀) ∧ R st₀ st) (h : Q t' = some (a', st')) :
    ∃ st'', Function.update Q t (some (a, st)) t' = some (a', st'') ∧ R st' st'' := by
  by_cases heq : t' = t
  · subst heq
    rcases hpost with hvacant | ⟨st₀, hbefore, hgood⟩
    · rw [hvacant] at h
      cases h
    · rw [hbefore] at h
      cases h
      exact ⟨st, Function.update_self .., hgood⟩
  · exact ⟨st', by rwa [Function.update_of_ne heq], hkept st'⟩

theorem Posts.of_update_eq_none {S : Type} {Q : T.Posts S} {t t' : ThreadId} {post : T.Task × S}
    (h : Function.update Q t (some post) t' = none) : t' ≠ t ∧ Q t' = none := by
  by_cases heq : t' = t
  · rw [heq, Function.update_self] at h
    cases h
  · rw [Function.update_of_ne heq] at h
    exact ⟨heq, h⟩

/-- Rules for each task, and that each job keeps to the rules of its task. -/
structure Conduct (T : Trade) (S : Type) where
  rules : T.Task → Rules S
  start : S
  /-- Where a thread stands that was given up. -/
  gone : S
  /-- Where a thread may end, with this result. -/
  Ends : (a : T.Task) → T.Result a → S → Prop
  follows : ∀ a, (T.job a).Follows (rules a) (Ends a) start

namespace Conduct

variable {S : Type} (C : T.Conduct S)

/-- Rules for all tasks are rules for those that meet the test. -/
def restrict (test : T.Task → Prop) : (T.restrict test).Conduct S where
  rules a := C.rules a.1
  start := C.start
  gone := C.gone
  Ends a := C.Ends a.1
  follows a := C.follows a.1

/-- The worker has this post, and keeps to the rules from there. -/
def Stands (post : Option (T.Task × S)) : T.Worker → Prop
  | ⟨a, .running job⟩ => ∃ st, post = some (a, st) ∧ job.Follows (C.rules a) (C.Ends a) st
  | ⟨a, .finished result⟩ => ∃ st, post = some (a, st) ∧ C.Ends a result st
  | ⟨a, .cancelled⟩ => post = some (a, C.gone)

/-- Everybody has a post. -/
structure Manned (Q : T.Posts S) (σ : T.Crew) : Prop where
  stands : ∀ t (worker : T.Worker), σ.workers[t]? = some worker → C.Stands (Q t) worker
  vacant : ∀ t, σ.workers[t]? = none → Q t = none

/-- What the posts say about the world is kept, whatever happens next. -/
structure Keeps (I : T.Posts S → World → Prop) : Prop where
  starts : ∀ {Q w t} (a : T.Task), I Q w → Q t = none →
    I (Function.update Q t (some (a, C.start))) w
  answered : ∀ {Q w t a st e r w'}, I Q w → Q t = some (a, st) → (C.rules a).Allows st e →
    w.Answers t e r w' → I (Function.update Q t (some (a, (C.rules a).after st e r))) w'
  stalled : ∀ {Q w t a st e w'}, I Q w → Q t = some (a, st) → (C.rules a).Allows st e →
    w.Stalls t e w' → I Q w'
  finished : ∀ {Q w t a st} (result : T.Result a), I Q w → Q t = some (a, st) → C.Ends a result st →
    I Q { w with bed := w.bed.onNetwork (Network.keepAll t) }
  cancelled : ∀ {Q w t a st}, I Q w → Q t = some (a, st) →
    I (Function.update Q t (some (a, C.gone))) (w.cancel t)
  moves : ∀ {Q w w'}, I Q w → w.Moves w' → I Q w'

variable {C} {σ σ' : T.Crew} {Q : T.Posts S} {I : T.Posts S → World → Prop}

theorem Keeps.and {J : T.Posts S → World → Prop} (hI : C.Keeps I) (hJ : C.Keeps J) :
    C.Keeps fun Q w => I Q w ∧ J Q w where
  starts a h hQ := ⟨hI.starts a h.1 hQ, hJ.starts a h.2 hQ⟩
  answered h hQ ha hw := ⟨hI.answered h.1 hQ ha hw, hJ.answered h.2 hQ ha hw⟩
  stalled h hQ ha hw := ⟨hI.stalled h.1 hQ ha hw, hJ.stalled h.2 hQ ha hw⟩
  finished result h hQ he := ⟨hI.finished result h.1 hQ he, hJ.finished result h.2 hQ he⟩
  cancelled h hQ := ⟨hI.cancelled h.1 hQ, hJ.cancelled h.2 hQ⟩
  moves h hm := ⟨hI.moves h.1 hm, hJ.moves h.2 hm⟩

theorem Keeps.forall {ι : Sort*} {J : ι → T.Posts S → World → Prop} (h : ∀ i, C.Keeps (J i)) :
    C.Keeps fun Q w => ∀ i, J i Q w where
  starts a hw hQ i := (h i).starts a (hw i) hQ
  answered hw hQ ha hanswers i := (h i).answered (hw i) hQ ha hanswers
  stalled hw hQ ha hstalls i := (h i).stalled (hw i) hQ ha hstalls
  finished result hw hQ he i := (h i).finished result (hw i) hQ he
  cancelled hw hQ i := (h i).cancelled (hw i) hQ
  moves hw hm i := (h i).moves (hw i) hm

theorem manned_start (w : World) : C.Manned (fun _ => none) ⟨w, []⟩ where
  stands t worker h := by cases h
  vacant _ _ := rfl

theorem Stands.task_eq {worker : T.Worker} {post : Option (T.Task × S)} (h : C.Stands post worker) :
    ∃ st, post = some (worker.task, st) := by
  obtain ⟨a, progress⟩ := worker
  cases progress with
  | running job =>
    obtain ⟨st, hst, -⟩ := h
    exact ⟨st, hst⟩
  | finished result =>
    obtain ⟨st, hst, -⟩ := h
    exact ⟨st, hst⟩
  | cancelled => exact ⟨C.gone, h⟩

theorem Manned.exists_worker {t : ThreadId} {a : T.Task} {st : S} (h : C.Manned Q σ)
    (ht : Q t = some (a, st)) : ∃ progress, σ.workers[t]? = some ⟨a, progress⟩ := by
  cases hw : σ.workers[t]? with
  | none =>
    rw [h.vacant t hw] at ht
    cases ht
  | some worker =>
    obtain ⟨st', hst'⟩ := (h.stands t worker hw).task_eq
    rw [ht] at hst'
    cases hst'
    exact ⟨worker.progress, rfl⟩

/-- One thread takes up another post, and with it goes what is left of its job. -/
theorem Manned.set {t : ThreadId} {old new : T.Worker} {post : Option (T.Task × S)} {w : World}
    (h : C.Manned Q σ) (hold : σ.workers[t]? = some old) (hnew : C.Stands post new) :
    C.Manned (Function.update Q t post) ⟨w, σ.workers.set t new⟩ where
  stands t' worker hworker := by
    by_cases heq : t' = t
    · subst heq
      rw [List.getElem?_set_self (List.getElem?_eq_some_iff.1 hold).1] at hworker
      cases hworker
      rwa [Function.update_self]
    · rw [List.getElem?_set_ne (Ne.symm heq)] at hworker
      rw [Function.update_of_ne heq]
      exact h.stands t' worker hworker
  vacant t' hnone := by
    have hne : t' ≠ t := by
      rintro rfl
      rw [List.getElem?_set_self (List.getElem?_eq_some_iff.1 hold).1] at hnone
      cases hnone
    rw [List.getElem?_set_ne hne.symm] at hnone
    rw [Function.update_of_ne hne]
    exact h.vacant t' hnone

theorem Manned.push {new : T.Worker} {post : Option (T.Task × S)} (h : C.Manned Q σ)
    (hnew : C.Stands post new) :
    C.Manned (Function.update Q σ.workers.length post) ⟨σ.world, σ.workers ++ [new]⟩ where
  stands t worker hworker := by
    by_cases heq : t = σ.workers.length
    · subst heq
      rw [List.getElem?_concat_length] at hworker
      cases hworker
      rwa [Function.update_self]
    · have hlt : t < σ.workers.length := by
        have hle := (List.getElem?_eq_some_iff.1 hworker).1
        rw [List.length_append, List.length_singleton] at hle
        exact Nat.lt_of_le_of_ne (Nat.lt_succ_iff.1 hle) heq
      rw [List.getElem?_append_left hlt] at hworker
      rw [Function.update_of_ne heq]
      exact h.stands t worker hworker
  vacant t hnone := by
    rw [List.getElem?_eq_none_iff, List.length_append, List.length_singleton] at hnone
    rw [Function.update_of_ne (Nat.ne_of_gt hnone)]
    exact h.vacant t (List.getElem?_eq_none_iff.2 (Nat.le_of_succ_le hnone))

/-- What is kept by each kind of step is kept by every step of a crew. -/
theorem Keeps.step (hI : C.Keeps I) (h : Crew.Step σ σ') (hQ : C.Manned Q σ) (hw : I Q σ.world) :
    ∃ Q', C.Manned Q' σ' ∧ I Q' σ'.world := by
  cases h with
  | starts a =>
    have hvacant : Q σ.workers.length = none :=
      hQ.vacant _ (List.getElem?_eq_none_iff.2 (Nat.le_refl _))
    exact ⟨_, hQ.push ⟨C.start, rfl, C.follows a⟩, hI.starts a hw hvacant⟩
  | @answered t a e next r w running answers =>
    obtain ⟨st, hst, hallows, hnext⟩ := hQ.stands t _ running
    exact ⟨_, hQ.set running ⟨_, rfl, hnext r answers.credible⟩,
      hI.answered hw hst hallows answers⟩
  | @stalled t a e next w running stalls =>
    obtain ⟨st, hst, hallows, -⟩ := hQ.stands t _ running
    exact ⟨Q, ⟨hQ.stands, hQ.vacant⟩, hI.stalled hw hst hallows stalls⟩
  | @finished t a result running =>
    obtain ⟨st, hst, hends⟩ := hQ.stands t _ running
    have hfinished : C.Stands (Q t) ⟨a, .finished result⟩ := ⟨st, hst, hends⟩
    have hmanned := hQ.set (w := { σ.world with bed := σ.world.bed.onNetwork (Network.keepAll t) })
      running hfinished
    rw [Function.update_eq_self] at hmanned
    exact ⟨Q, hmanned, hI.finished result hw hst hends⟩
  | @cancelled t a job running =>
    obtain ⟨st, hst, -⟩ := hQ.stands t _ running
    exact ⟨_, hQ.set running rfl, hI.cancelled hw hst⟩
  | moves moves => exact ⟨Q, ⟨hQ.stands, hQ.vacant⟩, hI.moves hw moves⟩

/-- So it holds of everything that a crew can come to. -/
theorem Keeps.reaches (hI : C.Keeps I) (h : Crew.Reaches σ σ') (hQ : C.Manned Q σ)
    (hw : I Q σ.world) : ∃ Q', C.Manned Q' σ' ∧ I Q' σ'.world := by
  induction h with
  | refl => exact ⟨Q, hQ, hw⟩
  | tail _ hstep ih =>
    obtain ⟨Q', hQ', hw'⟩ := ih
    exact hI.step hstep hQ' hw'

end Conduct
end Trade
end ClusterProbe
