import ClusterProbe.Proofs.World.Hands

/-!
# What a crew leaves behind

A world is in order when every connection that was opened in it is in one session or has been shut
down once, and no session that has a connection has the mark of a call (`World.Estate`). Jobs that
keep to the rules for hands, and come to their ends with empty hands, leave a world in order
(`World.Together.estate`): the sessions that have a connection then had one before, or are those
that the results stand for.
-/
namespace ClusterProbe

open Trade Shared

variable {α : Type} {t : ThreadId} {s : SessionId} {h h' h'' : Hands}
  {owed owed' : List SessionId}

namespace Hands

/-- From hands `h` a job has come to the empty hands `h'`, and it has shut all sessions that it has
opened but those that are `owed`. -/
structure Tidy (h : Hands) (owed : List SessionId) (h' : Hands) : Prop where
  rests : h'.Rests
  lost : h'.lost = h.lost
  shut : h.shut ⊆ h'.shut
  opened : ∀ s ∈ h'.opened, s ∈ h.opened ∨ s ∈ h'.shut ∨ s ∈ owed

namespace Tidy

theorem refl (hrests : h.Rests) : h.Tidy [] h :=
  ⟨hrests, rfl, List.Subset.refl _, fun _ => .inl⟩

theorem trans (ht : h.Tidy owed h') (ht' : h'.Tidy owed' h'') : h.Tidy (owed ++ owed') h'' where
  rests := ht'.rests
  lost := ht'.lost.trans ht.lost
  shut := List.Subset.trans ht.shut ht'.shut
  opened s hs := by
    rcases ht'.opened s hs with hs | hs | hs
    · rcases ht.opened s hs with hs | hs | hs
      · exact .inl hs
      · exact .inr (.inl (ht'.shut hs))
      · exact .inr (.inr (List.mem_append_left _ hs))
    · exact .inr (.inl hs)
    · exact .inr (.inr (List.mem_append_right _ hs))

/-- Not everything that is owed has to be open. -/
theorem weaken (ht : h.Tidy owed h') (hsub : owed ⊆ owed') : h.Tidy owed' h' :=
  ⟨ht.rests, ht.lost, ht.shut,
    fun s hs => (ht.opened s hs).imp_right (Or.imp_right fun howed => hsub howed)⟩

/-- The session that was owed is closed in the end. -/
theorem close (ht : h.Tidy [s] h') (hclosed : h'.Tidy [] h'') (hshut : s ∈ h''.shut) :
    h.Tidy [] h'' where
  rests := hclosed.rests
  lost := hclosed.lost.trans ht.lost
  shut := List.Subset.trans ht.shut hclosed.shut
  opened s' hs := by
    rcases (ht.trans hclosed).opened s' hs with hs | hs | hs
    · exact .inl hs
    · exact .inr (.inl hs)
    · rw [List.append_nil, List.mem_singleton] at hs
      exact .inr (.inl (hs ▸ hshut))

/-- Nothing is owed by a job that comes after one that owes nothing. -/
theorem andThen (ht : h.Tidy [] h') (ht' : h'.Tidy owed h'') : h.Tidy owed h'' :=
  ht.trans ht'

end Tidy

/-- The job keeps to the rules and leaves the hands empty, and owes the sessions that its result
stands for. -/
structure Tidies (x : Job α) (owed : α → List SessionId) : Prop where
  follows : ∀ {h : Hands}, h.Rests → x.Follows rules (fun r h' => h.Tidy (owed r) h') h

/-- After the job all its sessions are shut. -/
abbrev Cleans (x : Job α) : Prop :=
  Tidies x fun _ => []

end Hands

/-! ## A crew whose jobs keep to the rules -/

variable {jobs : List (Job α)} {post : α → Hands → Prop} {base : Chronicle}
  {before : SessionId → Prop} {w w' : World}

/-- Jobs that keep to the rules for hands. -/
def handling (hjobs : ∀ job ∈ jobs, job.Follows Hands.rules post {}) :
    (among jobs).Conduct Hands where
  rules _ := Hands.rules
  start := {}
  gone := { lost := true }
  Ends _ := post
  follows a := hjobs a.1 a.2

theorem kept_keeps (hjobs : ∀ job ∈ jobs, job.Follows Hands.rules post {}) :
    (handling hjobs).Keeps fun Q w => Posts.Unharmed Q → Kept base before Q w where
  starts := by
    intro Q w t a hkept hvacant hsafe
    refine (hkept (hsafe.of_update fun a h hpost => ?_)).starts a hvacant
    rw [hvacant] at hpost
    cases hpost
  answered := by
    intro Q w t a h e r w' hkept hpost hallows hanswers hsafe
    have hturn : Hands.Turn h e r (h.after e r) := hallows r
    refine (hkept (hsafe.of_update fun a' h' hpost' => ?_)).answered hpost hturn hanswers
    rw [hpost] at hpost'
    cases hpost'
    exact hturn.lost.symm
  stalled := by
    intro Q w t a h e w' hkept hpost hallows hstalls hsafe
    obtain ⟨g, hpast, hidle⟩ := World.Waits.past (.stalls .refl hstalls)
    exact (hkept hsafe).still hpast hidle (fun c => hstalls.has) hstalls.jostles.1.value
      fun s => ((hkept hsafe).custody s).stalled hstalls
  finished := by
    intro Q w t a h result hkept hpost hends hsafe
    refine (hkept hsafe).still (List.append_nil _).symm (e := .clock) (fun _ hev => by cases hev)
      (fun c hc => ?_) (fun s => rfl) fun s => ((hkept hsafe).custody s).of_eq rfl
    simpa [World.Has, Testbed.onNetwork, Network.keepAll] using hc
  cancelled := by
    intro Q w t a h hkept hpost hsafe
    have hlost := hsafe t a _ (Function.update_self ..)
    cases hlost
  moves := by
    intro Q w w' hkept hmoves hsafe
    obtain ⟨g, hpast, hidle⟩ := World.Waits.past (t := 0) (e := .clock) (.moves .refl hmoves)
    have hsessions := hmoves.shares.sessions
    exact (hkept hsafe).still hpast hidle (fun c => hmoves.has)
      (fun s => congrArg (valueAt · s) hsessions)
      fun s => ((hkept hsafe).custody s).of_eq hsessions

namespace World

/-- Of what was opened since `base`, each connection is in one session or has been shut down once,
and no session with a connection has the mark of a call. -/
structure Estate (base : Chronicle) (w : World) : Prop where
  sound : ∃ news, w.past = base ++ news ∧
    Holdings.Sound ⟨fun _ => none, w.stream?, news.opened, news.hungUp⟩ ∧
    ∀ c ∈ news.opened, w.Has c
  unmarked : ∀ s v, valueAt w.bed.sessions s = some v → v.stream ≠ none → v.inFlight = false

theorem Estate.retire (h : w.Estate base) (t : ThreadId) : (w.retire t).Estate base := by
  obtain ⟨news, hnews, hsound, hopened⟩ := h.sound
  refine ⟨⟨news, hnews, hsound, fun c hc => ?_⟩, h.unmarked⟩
  have hhas := hopened c hc
  simpa [Has, World.retire, Testbed.onNetwork, Network.keepAll] using hhas

theorem Estate.of_retire (h : (w.retire t).Estate base) : w.Estate base := by
  obtain ⟨news, hnews, hsound, hopened⟩ := h.sound
  refine ⟨⟨news, hnews, hsound, fun c hc => ?_⟩, h.unmarked⟩
  have hhas := hopened c hc
  simpa [Has, World.retire, Testbed.onNetwork, Network.keepAll] using hhas

/-- Before anybody has started. -/
theorem Estate.kept {T : Trade} (h : w.Estate base) :
    Kept (T := T) base (fun s => w.stream? s ≠ none) (fun _ => none) w where
  custody s t a st v hpost := by cases hpost
  sound := h.sound
  marked s v hv hstream hmark := by
    rw [h.unmarked s v hv hstream] at hmark
    cases hmark
  shut t a st hpost := by cases hpost
  carried s hs := .inl hs

/-- When all hands are empty. -/
theorem estate_of_kept {T : Trade} {Q : T.Posts Hands} (h : Kept base before Q w)
    (hrests : ∀ t a h, Q t = some (a, h) → h.Rests) : w.Estate base where
  sound := by
    have hloose : Posts.loose Q = fun _ => none := by
      funext t
      rw [Posts.loose]
      cases hpost : Q t with
      | none => rfl
      | some post => exact (hrests t post.1 post.2 hpost).loose
    obtain ⟨news, hnews, hsound, hopened⟩ := h.sound
    rw [Posts.holdings, hloose] at hsound
    exact ⟨news, hnews, hsound, hopened⟩
  unmarked s v hv hstream := by
    by_contra hmark
    obtain ⟨t, a, st, now, hpost, hheld⟩ :=
      h.marked s v hv hstream (Bool.not_eq_false _ ▸ hmark)
    rw [(hrests t a st hpost).held] at hheld
    cases hheld

namespace Together

variable {results : List α}

theorem exists_worker (h : w.Together jobs results w') {r : α} (hr : r ∈ results) :
    ∃ (t : ThreadId) (a : (among jobs).Task),
      (List.zipWith (fun a result => (⟨a, .finished result⟩ : (among jobs).Worker)) jobs.attach
        results)[t]? = some ⟨a, .finished r⟩ := by
  obtain ⟨t, ht, rfl⟩ := List.getElem_of_mem hr
  have hlt : t < jobs.attach.length := by rwa [List.length_attach, ← h.1]
  refine ⟨t, jobs.attach[t], ?_⟩
  rw [List.getElem?_zipWith, List.getElem?_eq_getElem hlt, List.getElem?_eq_getElem ht]

theorem result_of_worker {worker : (among jobs).Worker}
    (hworker : (List.zipWith (fun a result => (⟨a, .finished result⟩ : (among jobs).Worker))
      jobs.attach results)[t]? = some worker) :
    ∃ a, ∃ r ∈ results, worker = ⟨a, .finished r⟩ := by
  rw [List.getElem?_zipWith] at hworker
  split at hworker
  · rename_i a r ha hr
    exact ⟨a, r, List.mem_of_getElem? hr, (Option.some.inj hworker).symm⟩
  · cases hworker

/-- **What jobs leave behind.** Jobs that keep to the rules, and owe what their results stand for,
leave a world in order; a session that has a connection then had one before or is owed. -/
theorem estate (h : w.Together jobs results w')
    (hjobs : ∀ job ∈ jobs, job.Follows Hands.rules post {}) (owed : α → List SessionId)
    (hends : ∀ r h, post r h → Hands.Tidy {} (owed r) h) (hw : w.Estate base) :
    w'.Estate base ∧
      (∀ s, w'.stream? s ≠ none → w.stream? s ≠ none ∨ ∃ r ∈ results, s ∈ owed r) ∧
      ∀ r ∈ results, ∃ h, post r h ∧ ∀ s ∈ h.shut, w'.stream? s = none := by
  obtain ⟨Q, hmanned, hkept⟩ := (kept_keeps hjobs).reaches h.2
    (Conduct.manned_start w) (fun _ => hw.kept)
  have hpost {t : ThreadId} {a : (among jobs).Task} {h : Hands} (hQ : Q t = some (a, h)) :
      ∃ r ∈ results, post r h := by
    obtain ⟨progress, hworker⟩ := hmanned.exists_worker hQ
    obtain ⟨a', r, hr, heq⟩ := result_of_worker hworker
    cases heq
    obtain ⟨h', hQ', hends⟩ := hmanned.stands t _ hworker
    rw [hQ] at hQ'
    cases hQ'
    exact ⟨r, hr, hends⟩
  have hsafe : Posts.Unharmed Q := by
    intro t a h hQ
    obtain ⟨r, -, hr⟩ := hpost hQ
    exact (hends r h hr).lost
  have hkept := hkept hsafe
  refine ⟨estate_of_kept hkept fun t a h hQ => ?_, fun s hs => ?_, fun r hr => ?_⟩
  · obtain ⟨r, -, hr⟩ := hpost hQ
    exact (hends r h hr).rests
  · refine (hkept.carried s hs).imp_right ?_
    rintro ⟨t, a, h, hQ, hopened⟩
    obtain ⟨r, hr, hpost⟩ := hpost hQ
    rcases (hends r h hpost).opened s hopened with hopened | hshut | howed
    · cases hopened
    · exact absurd (hkept.shut t a h hQ s hshut).stream? hs
    · exact ⟨r, hr, howed⟩
  · obtain ⟨t, a, hworker⟩ := h.exists_worker hr
    obtain ⟨h', hQ, hends⟩ := hmanned.stands t _ hworker
    exact ⟨h', hends, fun s hs => (hkept.shut t a h' hQ s hs).stream?⟩

theorem tidies {owed : α → List SessionId} (h : w.Together jobs results w')
    (hjobs : ∀ job ∈ jobs, Hands.Tidies job owed) (hw : w.Estate base) :
    w'.Estate base ∧
      ∀ s, w'.stream? s ≠ none → w.stream? s ≠ none ∨ ∃ r ∈ results, s ∈ owed r := by
  obtain ⟨hestate, hstream, -⟩ := h.estate (fun job hjob => (hjobs job hjob).follows ⟨rfl, rfl⟩)
    owed (fun _ _ ht => ht) hw
  exact ⟨hestate, hstream⟩

end Together

/-- A job that comes to its end alone is one that starts together with no other. -/
theorem together_of_runs {job : Job α} {r : α} (h : job.Runs 0 w (some r) w') :
    w.Together [job] [r] (w'.retire 0) := by
  let task : (among [job]).Task := ⟨job, List.mem_singleton_self job⟩
  have hrunning : [(⟨task, .running job⟩ : (among [job]).Worker)][0]? =
      some ⟨task, .running job⟩ := rfl
  have hrun : Crew.Reaches (T := among [job]) ⟨w, [⟨task, .running job⟩]⟩
      ⟨w', [⟨task, .running (.done r)⟩]⟩ :=
    Crew.reaches_of_runs (T := among [job]) h hrunning
  have hstart : Crew.Step (T := among [job]) ⟨w, []⟩ ⟨w, [⟨task, .running job⟩]⟩ :=
    .starts (σ := ⟨w, []⟩) task
  have hfinish : Crew.Step (T := among [job]) ⟨w', [⟨task, .running (.done r)⟩]⟩
      ⟨w'.retire 0, [⟨task, .finished r⟩]⟩ :=
    .finished (σ := ⟨w', [⟨task, .running (.done r)⟩]⟩) (t := 0) rfl
  exact ⟨rfl, (hrun.head hstart).tail hfinish⟩

section Alone

variable {job : Job α} {r : α} (hrun : job.Runs 0 w (some r) w')
include hrun

/-- What one job leaves behind. -/
theorem estate_of_runs (hjob : job.Follows Hands.rules post {}) (owed : α → List SessionId)
    (hends : ∀ r h, post r h → Hands.Tidy {} (owed r) h) (hw : w.Estate base) :
    w'.Estate base ∧ (∀ s, w'.stream? s ≠ none → w.stream? s ≠ none ∨ s ∈ owed r) ∧
      ∃ h, post r h ∧ ∀ s ∈ h.shut, w'.stream? s = none := by
  obtain ⟨hestate, hstream, hshut⟩ :=
    (together_of_runs hrun).estate (List.forall_mem_singleton.2 hjob) owed hends hw
  refine ⟨hestate.of_retire, fun s hs => ?_, hshut r (List.mem_singleton_self r)⟩
  refine (hstream s hs).imp_right ?_
  rintro ⟨r', hr', howed⟩
  rwa [List.mem_singleton.1 hr'] at howed

theorem tidies_of_runs {owed : α → List SessionId} (hjob : Hands.Tidies job owed)
    (hw : w.Estate base) :
    w'.Estate base ∧ ∀ s, w'.stream? s ≠ none → w.stream? s ≠ none ∨ s ∈ owed r := by
  obtain ⟨hestate, hstream, -⟩ :=
    estate_of_runs hrun (hjob.follows ⟨rfl, rfl⟩) owed (fun _ _ ht => ht) hw
  exact ⟨hestate, hstream⟩

end Alone

/-! ## Worlds without a connection -/

/-- All is in order, and no session has a connection. -/
structure Clear (base : Chronicle) (w : World) : Prop where
  estate : w.Estate base
  shut : ∀ s, w.stream? s = none

/-- So it is before any session has been opened. -/
theorem clear_start (h : w.bed.sessions = []) : w.Clear w.past := by
  have hvalue (s : SessionId) : valueAt w.bed.sessions s = none := by
    rw [h]
    rfl
  have hshut (s : SessionId) : w.stream? s = none := by
    rw [stream?, hvalue, Option.bind_none]
  refine ⟨⟨⟨[], (List.append_nil _).symm, fun c => ⟨.unopened, ?_⟩, fun c hc => ?_⟩,
    fun s v hv => ?_⟩, hshut⟩
  · refine ⟨fun t => iff_of_false (fun hc => ?_) fun hc => ?_,
      fun s => iff_of_false (fun hc => ?_) fun hc => ?_, rfl, rfl⟩
    · cases hc
    · cases hc
    · cases (hshut s).symm.trans hc
    · cases hc
  · cases hc
  · rw [hvalue] at hv
    cases hv

/-- What was opened since `base` has been shut down, each connection once. -/
theorem Clear.balanced (h : w.Clear base) :
    ∃ news, w.past = base ++ news ∧ news.opened.Nodup ∧ news.hungUp.Perm news.opened := by
  obtain ⟨news, hnews, hsound, -⟩ := h.estate.sound
  exact ⟨news, hnews, hsound.balanced (fun _ => rfl) h.shut⟩

theorem Clear.retire (h : w.Clear base) (t : ThreadId) : (w.retire t).Clear base :=
  ⟨h.estate.retire t, h.shut⟩

theorem Clear.together {results : List α} (h : w.Clear base)
    (htogether : w.Together jobs results w')
    (hjobs : ∀ job ∈ jobs, Hands.Cleans job) : w'.Clear base := by
  obtain ⟨hestate, hstream⟩ := htogether.tidies hjobs h.estate
  refine ⟨hestate, fun s => ?_⟩
  by_contra hs
  rcases hstream s hs with hbefore | ⟨-, -, howed⟩
  · exact hbefore (h.shut s)
  · cases howed

theorem Clear.runs {job : Job α} {r : α} (h : w.Clear base) (hrun : job.Runs 0 w (some r) w')
    (hjob : Hands.Cleans job) : w'.Clear base := by
  have hretired := h.together (together_of_runs hrun) (List.forall_mem_singleton.2 hjob)
  exact ⟨hretired.estate.of_retire, hretired.shut⟩

end World
end ClusterProbe
