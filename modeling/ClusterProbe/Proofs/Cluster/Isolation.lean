import ClusterProbe.Proofs.Cluster.Belongings

/-!
# Threads that keep to themselves

In a crew whose threads deal with nothing but what belongs to each of them, nobody gets in the way
of another (`Trade.Separate`). Whatever comes of one of them, it is what can come of its job with
nobody else there (`World.Together.runsApart`): nothing but a far end ever touches its connections
from outside. And none of them is kept waiting by another one
(`Trade.Crew.Reaches.exists_run`).
-/
namespace ClusterProbe

open Trade

variable {α β : Type} {t t' : ThreadId} {e : Effect} {bed bed' : Testbed} {w w' w₁ : World}

/-! ## What happens around a thread -/

/-- A thread gets what it asked for. -/
def Event.IsAnswerTo (t : ThreadId) : Event → Prop
  | answered t' _ _ => t' = t
  | _ => False

/-- The past has gone on, and thread `t` has had no answer since. -/
def World.Silent (t : ThreadId) (w w' : World) : Prop :=
  ∃ news, w'.past = w.past ++ news ∧ ∀ ev ∈ news, ¬ ev.IsAnswerTo t

namespace World

theorem Silent.of_eq (h : w'.past = w.past) : w.Silent t w' :=
  ⟨[], by rw [h, List.append_nil], fun _ hev => absurd hev List.not_mem_nil⟩

theorem Silent.trans (h : w.Silent t w₁) (h' : w₁.Silent t w') : w.Silent t w' := by
  obtain ⟨news, heq, hnews⟩ := h
  obtain ⟨news', heq', hnews'⟩ := h'
  refine ⟨news ++ news', by rw [heq', heq, List.append_assoc], fun ev hev => ?_⟩
  exact (List.mem_append.1 hev).elim (hnews ev) (hnews' ev)

theorem Silent.past (h : w.Silent t w') : w.past <+: w'.past := by
  obtain ⟨news, heq, -⟩ := h
  exact ⟨news, heq.symm⟩

theorem Moves.silent (h : w.Moves w') : w.Silent t w' := by
  cases h with
  | farEnd => exact ⟨_, rfl, List.forall_mem_singleton.2 id⟩
  | elsewhere => exact .of_eq rfl

theorem not_isAnswerTo_taking (w : World) (e : Effect) (bed : Testbed) :
    ∀ ev ∈ w.taking e bed, ¬ ev.IsAnswerTo t := by
  unfold taking
  split
  · exact List.forall_mem_singleton.2 id
  · exact fun _ hev => absurd hev List.not_mem_nil

theorem Stalls.silent (h : w.Stalls t' e w') : w.Silent t w' := by
  obtain ⟨bed, -, rfl⟩ := h
  exact ⟨_, rfl, w.not_isAnswerTo_taking e bed⟩

/-- An answer to one thread is none to another. -/
theorem Answers.silent {r : e.Response} (h : w.Answers t' e r w') (hne : t ≠ t') :
    w.Silent t w' := by
  obtain ⟨bed, -, rfl⟩ := h
  refine ⟨_, rfl, List.forall_mem_append.2 ⟨w.not_isAnswerTo_taking e bed, ?_⟩⟩
  refine List.forall_mem_cons.2 ⟨fun heq => hne heq.symm, ?_⟩
  unfold greeting
  split
  · exact List.forall_mem_singleton.2 id
  · exact fun _ hev => absurd hev List.not_mem_nil

end World

namespace Belongings

variable {own : Belongings}

/-- What may happen around thread `t`: far ends move, and others do what leaves alone all that
belongs to it. -/
inductive Around (own : Belongings) (t : ThreadId) (w : World) : World → Prop
  | moves {w' : World} (h : w.Moves w') : Around own t w w'
  | others {w' : World} (h : own.Spared w.bed w'.bed) (silent : w.Silent t w') : Around own t w w'

/-- What may happen while the thread waits for the answer to `e`: besides, it may find that it has
to wait. -/
inductive Passes (own : Belongings) (t : ThreadId) (e : Effect) (w : World) : World → Prop
  | around {w' : World} (h : own.Around t w w') : Passes own t e w w'
  | stalls {w' : World} (h : w.Stalls t e w') : Passes own t e w w'

theorem Around.silent (h : own.Around t w w') : w.Silent t w' := by
  cases h with
  | moves h => exact h.silent
  | others _ silent => exact silent

theorem Passes.past (h : own.Passes t e w w') : w.past <+: w'.past := by
  cases h with
  | around h => exact h.silent.past
  | stalls h => exact (h.silent (t := t)).past

end Belongings

/-! ## One thread among others -/

namespace Job

open Relation

variable {own own' : Belongings}

/-- Thread `t`, to which `own` belongs, does a job from world `w` on and has come to its end in
world `w'`, where `own'` belongs to it. Nothing but far ends touches what belongs to it on the
way. -/
def RunsApart (t : ThreadId) : Job α → Belongings → World → α → Belongings → World → Prop
  | done a => fun own w b own' w' => b = a ∧ own' = own ∧ ReflTransGen (own.Around t) w w'
  | perform e next => fun own w b own' w' =>
      ∃ w₀ r w₁, ReflTransGen (own.Passes t e) w w₀ ∧ w₀.Answers t e r w₁ ∧
        (next r).RunsApart t (own.after e r) w₁ b own' w'

/-- What happens around a thread before it begins makes no difference. -/
theorem RunsApart.before {x : Job α} {b : α} (h : x.RunsApart t own w₁ b own' w')
    (haround : ReflTransGen (own.Around t) w w₁) : x.RunsApart t own w b own' w' := by
  cases x with
  | done a => exact ⟨h.1, h.2.1, haround.trans h.2.2⟩
  | perform e next =>
    obtain ⟨w₂, r, w₃, hwaits, hanswers, hnext⟩ := h
    have hpassed : ReflTransGen (own.Passes t e) w w₁ :=
      haround.lift id fun _ _ => .around
    exact ⟨w₂, r, w₃, hpassed.trans hwaits, hanswers, hnext⟩

theorem runsApart_bind (x : Job α) (f : α → Job β) (b : β) :
    (x >>= f).RunsApart t own w b own' w' ↔ ∃ a own₁ w₁,
      x.RunsApart t own w a own₁ w₁ ∧ (f a).RunsApart t own₁ w₁ b own' w' := by
  change (x.bind f).RunsApart t own w b own' w' ↔ _
  induction x generalizing own w with
  | done a =>
    constructor
    · exact fun h => ⟨a, own, w, ⟨rfl, rfl, .refl⟩, h⟩
    · rintro ⟨_, _, w₁, ⟨rfl, rfl, haround⟩, h⟩
      exact h.before haround
  | perform e next ih =>
    simp only [Job.bind, RunsApart, ih]
    constructor
    · rintro ⟨w₀, r, w₁, hpasses, hanswers, a, own₁, w₂, hnext, hf⟩
      exact ⟨a, own₁, w₂, ⟨w₀, r, w₁, hpasses, hanswers, hnext⟩, hf⟩
    · rintro ⟨a, own₁, w₂, ⟨w₀, r, w₁, hpasses, hanswers, hnext⟩, hf⟩
      exact ⟨w₀, r, w₁, hpasses, hanswers, a, own₁, w₂, hnext, hf⟩

/-- A job that keeps to the rules comes to what they lead to. -/
theorem RunsApart.post {x : Job α} {b : α} {post : α → Belongings → Prop}
    (h : x.RunsApart t own w b own' w') (hx : x.Follows Belongings.rules post own) :
    post b own' := by
  induction x generalizing own w with
  | done a =>
    obtain ⟨rfl, rfl, -⟩ := h
    exact hx
  | perform e next ih =>
    obtain ⟨w₀, r, w₁, -, hanswers, hnext⟩ := h
    exact ih r hnext (hx.2 r hanswers.credible)

theorem RunsApart.past {x : Job α} {b : α} (h : x.RunsApart t own w b own' w') :
    w.past <+: w'.past := by
  have hgoes {w w' : World} {R : World → World → Prop} (hR : ∀ w w', R w w' → w.past <+: w'.past)
      (hsteps : ReflTransGen R w w') : w.past <+: w'.past := by
    induction hsteps with
    | refl => exact List.prefix_rfl
    | tail _ hstep ih => exact ih.trans (hR _ _ hstep)
  induction x generalizing own w with
  | done a => exact hgoes (fun _ _ h => h.silent.past) h.2.2
  | perform e next ih =>
    obtain ⟨w₀, r, w₁, hwaits, hanswers, hnext⟩ := h
    obtain ⟨_, _, hpast, -⟩ := hanswers.past
    have hanswered : w₀.past <+: w₁.past := ⟨_, hpast.symm⟩
    exact ((hgoes (fun _ _ => Belongings.Passes.past) hwaits).trans hanswered).trans (ih r hnext)

end Job

/-! ## Crews whose threads deal with their own -/

namespace Trade

open Relation

variable {T : Trade} {Q : T.Posts Belongings} {a a' : T.Task} {own other : Belongings}

/-- What belongs to each thread is safe and belongs to no other one. -/
structure Posts.Apart (Q : T.Posts Belongings) (bed : Testbed) : Prop where
  safe : ∀ t a own, Q t = some (a, own) → own.Safe t bed
  apart : ∀ t t' a a' own own', t ≠ t' → Q t = some (a, own) → Q t' = some (a', own') →
    own.Apart own'

namespace Posts.Apart

theorem spared (h : Q.Apart bed) (hpost : Q t = some (a, own)) (hcovers : own.Covers e)
    (hasked : bed.Asked t e bed') (hother : Q t' = some (a', other)) (hne : t' ≠ t) :
    other.Spared bed bed' :=
  (h.safe t' a' other hother).spared (h.apart t t' a a' own other hne.symm hpost hother) hcovers
    hasked

/-- One thread takes a step, and the others are spared. -/
theorem update (h : Q.Apart bed) (hown : own.Safe t bed')
    (hspared : ∀ t' a' other, t' ≠ t → Q t' = some (a', other) → other.Spared bed bed')
    (hapart : ∀ t' a' other, t' ≠ t → Q t' = some (a', other) → own.Apart other) :
    Posts.Apart (Function.update Q t (some (a, own))) bed' := by
  refine ⟨fun t₁ a₁ own₁ hpost => ?_, fun t₁ t₂ a₁ a₂ own₁ own₂ hne hpost₁ hpost₂ => ?_⟩
  · rcases Posts.of_update hpost with ⟨rfl, -, rfl⟩ | ⟨hother, hpost⟩
    · exact hown
    · exact (h.safe t₁ a₁ own₁ hpost).of_spared (hspared t₁ a₁ own₁ hother hpost)
  · rcases Posts.of_update hpost₁ with ⟨rfl, -, rfl⟩ | ⟨hother₁, hold₁⟩
    · rcases Posts.of_update hpost₂ with ⟨rfl, -, -⟩ | ⟨hother₂, hold₂⟩
      · exact absurd rfl hne
      · exact hapart t₂ a₂ own₂ hother₂ hold₂
    · rcases Posts.of_update hpost₂ with ⟨rfl, -, rfl⟩ | ⟨-, hold₂⟩
      · exact (hapart t₁ a₁ own₁ hother₁ hold₁).symm
      · exact h.apart t₁ t₂ a₁ a₂ own₁ own₂ hne hold₁ hold₂

end Posts.Apart

/-- Jobs that deal with nothing but what belongs to their threads. -/
def minding (hjobs : ∀ a, (T.job a).Follows Belongings.rules (fun _ _ => True) {}) :
    T.Conduct Belongings where
  rules _ := Belongings.rules
  start := {}
  gone := {}
  Ends _ _ _ := True
  follows := hjobs

variable (hjobs : ∀ a, (T.job a).Follows Belongings.rules (fun _ _ => True) {})

theorem apart_keeps : (minding hjobs).Keeps fun Q w => Q.Apart w.bed where
  starts a h _ := h.update (Belongings.safe_empty _ _)
    (fun _ _ _ _ _ => ⟨fun _ _ => rfl, fun _ _ => rfl, rfl, rfl, rfl⟩)
    fun _ _ other _ _ => (Belongings.apart_empty other).symm
  answered {Q w t a own e r w'} h hpost hcovers hanswers :=
    h.update ((h.safe t a own hpost).answered hcovers hanswers)
      (fun _ _ _ hne hother => h.spared hpost hcovers hanswers.asked hother hne)
      fun t' a' other hne hother => (h.safe t a own hpost).apart_after
        (h.safe t' a' other hother) (h.apart t t' a a' own other hne.symm hpost hother) hcovers
          hanswers
  stalled {Q w t a own e w'} h hpost hcovers hstalls := by
    refine ⟨fun t' a' other hother => ?_, h.apart⟩
    by_cases heq : t' = t
    · subst heq
      rw [hpost] at hother
      cases hother
      exact (h.safe t' a own hpost).asked hcovers hstalls.asked
    · exact (h.safe t' a' other hother).of_spared
        (h.spared hpost hcovers hstalls.asked hother heq)
  finished {Q w t a own} result h hpost _ := by
    refine ⟨fun t' a' other hother => ?_, h.apart⟩
    by_cases heq : t' = t
    · subst heq
      exact (h.safe t' a' other hother).retired
    · exact (h.safe t' a' other hother).of_spared ((h.safe t' a' other hother).spared_retire heq)
  cancelled {Q w t a own} h hpost := h.update (Belongings.safe_empty _ _)
    (fun t' a' other hne hother => (h.safe t' a' other hother).spared_cancel hne)
    fun _ _ other _ _ => (Belongings.apart_empty other).symm
  moves h hmoves := ⟨fun t a own hpost => (h.safe t a own hpost).moved hmoves, h.apart⟩

/-! ### What comes of each of them -/

variable {w₀ : World} {σ σ' : T.Crew}

/-- Whatever may still come of a worker comes of its job as a whole, done from the world `w₀` on by
nobody else; and it has had no answer since it came to its end. -/
def Traced (w₀ w : World) (t : ThreadId) (own : Belongings) : T.Worker → Prop
  | ⟨a, .running job⟩ => ∀ b own' w', job.RunsApart t own w b own' w' →
      (T.job a).RunsApart t {} w₀ b own' w'
  | ⟨a, .finished b⟩ => ∃ own' w', (T.job a).RunsApart t {} w₀ b own' w' ∧ w'.Silent t w
  | ⟨_, .cancelled⟩ => True

/-- What happens around a worker makes no difference to what may come of it. -/
theorem Traced.around {worker : T.Worker} (h : Traced w₀ w t own worker)
    (haround : own.Around t w w') : Traced w₀ w' t own worker := by
  obtain ⟨a, job | b | _⟩ := worker
  · exact fun b own' w' hruns => h b own' w' (hruns.before (.single haround))
  · obtain ⟨own', w₁, hruns, hsilent⟩ := h
    exact ⟨own', w₁, hruns, hsilent.trans haround.silent⟩
  · trivial

theorem Traced.stalls {next : e.Response → Job (T.Result a)}
    (h : Traced w₀ w t own ⟨a, .running (.perform e next)⟩) (hstalls : w.Stalls t e w') :
    Traced w₀ w' t own ⟨a, .running (.perform e next)⟩ := by
  rintro b own' w₁ ⟨w₂, r, w₃, hwaits, hanswers, hnext⟩
  exact h b own' w₁ ⟨w₂, r, w₃, hwaits.head (.stalls hstalls), hanswers, hnext⟩

/-- A crew at work since the world was `w₀`, in which nobody gets in the way of another. -/
structure Separate (w₀ : World) (Q : T.Posts Belongings) (σ : T.Crew) : Prop where
  manned : (minding hjobs).Manned Q σ
  apart : Q.Apart σ.world.bed
  /-- To a thread that is still to start, it makes no difference what has happened so far. -/
  fresh : ∀ t, σ.workers[t]? = none → ReflTransGen (Belongings.Around {} t) w₀ σ.world
  traced : ∀ t worker own, σ.workers[t]? = some worker → Q t = some (worker.task, own) →
    Traced w₀ σ.world t own worker

namespace Separate

variable {hjobs}

/-- One thread takes a step that spares all others. -/
theorem set {p p' : Progress (T.Result a)} {own' : Belongings}
    (h : Separate hjobs w₀ Q σ) (running : σ.workers[t]? = some ⟨a, p⟩)
    (hpost : Q t = some (a, own))
    (hmanned : (minding hjobs).Manned (Function.update Q t (some (a, own')))
      ⟨w', σ.workers.set t ⟨a, p'⟩⟩)
    (hapart : Posts.Apart (Function.update Q t (some (a, own'))) w'.bed)
    (haround : ∀ t' other, t' ≠ t → other.Safe t' σ.world.bed → own.Apart other →
      other.Around t' σ.world w')
    (htraced : Traced w₀ w' t own' ⟨a, p'⟩) :
    Separate hjobs w₀ (Function.update Q t (some (a, own'))) ⟨w', σ.workers.set t ⟨a, p'⟩⟩ := by
  have hlt := (List.getElem?_eq_some_iff.1 running).1
  refine ⟨hmanned, hapart, fun t' hnone => ?_, fun t' worker other hworker hother => ?_⟩
  · have hne : t' ≠ t := by
      rintro rfl
      rw [List.getElem?_set_self hlt] at hnone
      cases hnone
    rw [List.getElem?_set_ne hne.symm] at hnone
    exact (h.fresh t' hnone).tail (haround t' {} hne (Belongings.safe_empty _ _)
      (Belongings.apart_empty own))
  · rcases Posts.of_update hother with ⟨rfl, -, rfl⟩ | ⟨hne, hother⟩
    · rw [List.getElem?_set_self hlt] at hworker
      cases hworker
      exact htraced
    · rw [List.getElem?_set_ne hne.symm] at hworker
      refine (h.traced t' worker other hworker hother).around ?_
      exact haround t' other hne (h.apart.safe t' _ other hother)
        (h.apart.apart t t' a _ own other hne.symm hpost hother)

theorem step (h : Separate hjobs w₀ Q σ) (hstep : Crew.Step σ σ') :
    ∃ Q', Separate hjobs w₀ Q' σ' := by
  cases hstep with
  | starts a =>
    have hnone := List.getElem?_eq_none_iff.2 (Nat.le_refl σ.workers.length)
    refine ⟨_, h.manned.push ⟨{}, rfl, hjobs a⟩,
      (apart_keeps hjobs).starts a h.apart (h.manned.vacant _ hnone), fun t ht => ?_,
      fun t worker own hworker hpost => ?_⟩
    · rw [List.getElem?_eq_none_iff, List.length_append] at ht
      exact h.fresh t (List.getElem?_eq_none_iff.2 (Nat.le_of_add_right_le ht))
    · rcases Posts.of_update hpost with ⟨rfl, -, rfl⟩ | ⟨hne, hpost⟩
      · rw [List.getElem?_concat_length] at hworker
        cases hworker
        exact fun b own' w' hruns => hruns.before (h.fresh _ hnone)
      · obtain ⟨progress, hold⟩ := h.manned.exists_worker hpost
        rw [List.getElem?_append_left (List.getElem?_eq_some_iff.1 hold).1] at hworker
        exact h.traced t worker own hworker hpost
  | @answered t a e next r w running answers =>
    obtain ⟨own, hpost, hcovers, hnext⟩ := h.manned.stands t _ running
    refine ⟨_, h.set running hpost (h.manned.set running ⟨_, rfl, hnext r answers.credible⟩)
      ((apart_keeps hjobs).answered h.apart hpost hcovers answers)
      (fun t' other hne hsafe hown =>
        .others (hsafe.spared hown hcovers answers.asked) (answers.silent hne)) ?_⟩
    -- the run from before the answer begins with this answer
    intro b own' w' hruns
    exact h.traced t _ own running hpost b own' w' ⟨_, r, w, .refl, answers, hruns⟩
  | @stalled t a e next w running stalls =>
    obtain ⟨own, hpost, hcovers, -⟩ := h.manned.stands t _ running
    have haround (t' : ThreadId) (other : Belongings) (hsafe : other.Safe t' σ.world.bed)
        (hown : own.Apart other) : other.Around t' σ.world w :=
      .others (hsafe.spared hown hcovers stalls.asked) stalls.silent
    refine ⟨Q, ⟨h.manned.stands, h.manned.vacant⟩,
      (apart_keeps hjobs).stalled h.apart hpost hcovers stalls, fun t' hnone => ?_,
      fun t' worker other hworker hother => ?_⟩
    · exact (h.fresh t' hnone).tail (haround t' {} (Belongings.safe_empty _ _)
        (Belongings.apart_empty own))
    · have htraced := h.traced t' worker other hworker hother
      by_cases heq : t' = t
      · subst heq
        rw [running] at hworker
        cases hworker
        exact htraced.stalls stalls
      · exact htraced.around (haround t' other (h.apart.safe t' _ other hother)
          (h.apart.apart t t' a _ own other (Ne.symm heq) hpost hother))
  | @finished t a result running =>
    obtain ⟨own, hpost, hends⟩ := h.manned.stands t _ running
    have hpost' : Function.update Q t (some (a, own)) = Q := by
      rw [← hpost, Function.update_eq_self]
    refine ⟨Function.update Q t (some (a, own)),
      h.set running hpost (h.manned.set running ⟨own, rfl, hends⟩) ?_
        (fun t' other hne hsafe _ => .others (hsafe.spared_retire hne) (.of_eq rfl)) ?_⟩
    · rw [hpost']
      exact (apart_keeps hjobs).finished result h.apart hpost hends
    · have hruns := h.traced t _ own running hpost result own _ ⟨rfl, rfl, .refl⟩
      exact ⟨own, σ.world, hruns, .of_eq rfl⟩
  | @cancelled t a job running =>
    obtain ⟨own, hpost, -⟩ := h.manned.stands t _ running
    exact ⟨_, h.set running hpost (h.manned.set running rfl)
      ((apart_keeps hjobs).cancelled h.apart hpost)
      (fun t' other hne hsafe _ => .others (hsafe.spared_cancel hne) (.of_eq rfl)) trivial⟩
  | moves moves =>
    exact ⟨Q, ⟨h.manned.stands, h.manned.vacant⟩, (apart_keeps hjobs).moves h.apart moves,
      fun t hnone => (h.fresh t hnone).tail (.moves moves),
      fun t worker own hworker hpost => (h.traced t worker own hworker hpost).around (.moves moves)⟩

variable (hjobs)

theorem start (w : World) : Separate hjobs w (fun _ => none) ⟨w, []⟩ where
  manned := Conduct.manned_start w
  apart := ⟨nofun, nofun⟩
  fresh _ _ := .refl
  traced _ _ _ _ := nofun

theorem reaches (h : Crew.Reaches ⟨w, []⟩ σ) : ∃ Q, Separate hjobs w Q σ := by
  induction h with
  | refl => exact ⟨_, start hjobs w⟩
  | tail _ hstep ih =>
    obtain ⟨Q, hQ⟩ := ih
    exact hQ.step hstep

end Separate
end Trade

/-- Of jobs that deal with what belongs to their threads and start together, each comes to what it
can come to with nobody else there, by the answers that it gets in the course of events. -/
theorem World.Together.runsApart {jobs : List (Job α)} {results : List α} {i : Nat} {job : Job α}
    {result : α} (hjobs : ∀ job ∈ jobs, job.Follows Belongings.rules (fun _ _ => True) {})
    (h : w.Together jobs results w') (hjob : jobs[i]? = some job)
    (hresult : results[i]? = some result) :
    ∃ own w₁, job.RunsApart i {} w result own w₁ ∧ w₁.Silent i w' := by
  obtain ⟨Q, hQ⟩ := Separate.reaches (T := among jobs) (fun a => hjobs a.1 a.2) h.2
  have hmem := List.mem_of_getElem? hjob
  have htask : jobs.attach[i]? = some ⟨job, hmem⟩ := by
    obtain ⟨hlt, rfl⟩ := List.getElem?_eq_some_iff.1 hjob
    simp [hlt]
  have hworker : (List.zipWith (fun a r => (⟨a, .finished r⟩ : (among jobs).Worker))
      jobs.attach results)[i]? = some ⟨⟨job, hmem⟩, .finished result⟩ := by
    rw [List.getElem?_zipWith, htask, hresult]
  obtain ⟨own, hpost, -⟩ := hQ.manned.stands i _ hworker
  exact hQ.traced i _ own hworker hpost

/-! ## Nobody has to wait for another -/

/-- However far a crew has come, each thread that is at work can come to its end before another one
takes a step. -/
theorem Trade.Crew.Reaches.exists_run {T : Trade} {σ : T.Crew} {a : T.Task}
    {job : Job (T.Result a)} (h : Crew.Reaches ⟨w, []⟩ σ)
    (hjobs : ∀ a, (T.job a).Follows Belongings.rules (fun _ _ => True) {})
    (running : σ.workers[t]? = some ⟨a, .running job⟩) :
    ∃ b w', job.Runs t σ.world (some b) w' := by
  obtain ⟨Q, hQ⟩ := Separate.reaches hjobs h
  obtain ⟨own, hpost, hfollows⟩ := hQ.manned.stands t _ running
  exact (hQ.apart.safe t a own hpost).exists_run hfollows

/-- Such jobs can all come to their ends. -/
theorem World.exists_together {jobs : List (Job α)}
    (hjobs : ∀ job ∈ jobs, job.Follows Belongings.rules (fun _ _ => True) {}) (w : World) :
    ∃ results w', w.Together jobs results w' := by
  -- the threads start one after the other, each when the one before has come to its end
  have hends (tasks : List (among jobs).Task) (w : World) (before : List (among jobs).Worker) :
      ∃ (results : List α) (w' : World), results.length = tasks.length ∧
        Crew.Reaches ⟨w, before⟩
          ⟨w', before ++ List.zipWith (fun a r => ⟨a, .finished r⟩) tasks results⟩ := by
    induction tasks generalizing w before with
    | nil => exact ⟨[], w, rfl, by rw [List.zipWith_nil_left, List.append_nil]⟩
    | cons a tasks ih =>
      obtain ⟨r, w₁, hrun⟩ :=
        (Belongings.safe_empty before.length w.bed).exists_run (hjobs a.1 a.2)
      obtain ⟨results, w', hlength, hrest⟩ := ih (w₁.retire before.length)
        (before ++ [⟨a, .finished r⟩])
      refine ⟨r :: results, w', congrArg Nat.succ hlength, ?_⟩
      rw [List.append_assoc] at hrest
      exact (Crew.reaches_of_ends (T := among jobs) a hrun).trans hrest
  obtain ⟨results, w', hlength, hreaches⟩ := hends jobs.attach w []
  exact ⟨results, w', hlength.trans List.length_attach, hreaches⟩

end ClusterProbe
