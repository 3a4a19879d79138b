import Mathlib.Logic.Relation
import ClusterProbe.Proofs.Cluster.Slots

/-!
# Many threads at once

A scene is a world with the threads that are at work in it: some look up servers of one cluster,
some use hosts through their stubs or close them. In each step one thread gets what it asked for,
waits, comes to an end or is given up, or a new one starts, or a far end moves. All threads keep to
the rules (`Scene.Governed`), so what the rules promise holds in every scene that can be reached.
-/
namespace ClusterProbe

/-- What a thread is sent to do: to look up a server, to call a service of a host, or to close a
host. -/
inductive Errand where
  | seek (uuid : Uuid)
  | call {Q : Type} (A : Type) [Protobuf.Message Q] [Protobuf.Message A] (m : Messenger)
      (method : RemoteMethod) (request : Q)
  | close (host : Host)

namespace Errand

@[reducible] def Result : Errand → Type
  | seek _ => Except ClientError Host
  | call A _ _ _ => Except SessionError A
  | close _ => Except ClientError Unit

def job (c : Cluster) : (a : Errand) → Job a.Result
  | seek uuid => c.host uuid
  | call A m method request => Service.call A m method request
  | close host => host.close

def start : Errand → Stage
  | seek uuid => .seeking uuid
  | _ => .outside

/-- Where a thread may end, with this result. -/
def Ends : (a : Errand) → a.Result → Standing → Prop
  | seek uuid => Cluster.Ends uuid
  | _ => fun _ _ => True

theorem job_obeys (c : Cluster) (a : Errand) : (a.job c).Obeys a.Ends (.free a.start) := by
  cases a with
  | seek uuid => exact c.host_obeys uuid
  | call A m method request => exact (Service.call_keeps A m ..).mono fun _ _ _ => trivial
  | close host => exact host.close_keeps.mono fun _ _ _ => trivial

end Errand

structure Worker where
  errand : Errand
  progress : Progress errand.Result

/-- The worker keeps to the rules from where it stands. -/
def Worker.Obeys (st : Standing) : Worker → Prop
  | ⟨errand, .running job⟩ => job.Obeys errand.Ends st
  | ⟨errand, .finished result⟩ => errand.Ends result st
  | ⟨_, .cancelled⟩ => True

/-- A world and the threads in it, by their numbers. -/
structure Scene where
  world : World
  workers : List Worker

namespace Scene

/-- What may happen next. -/
inductive Step (c : Cluster) (σ : Scene) : Scene → Prop
  | starts (errand : Errand) :
      Step c σ { σ with workers := σ.workers ++ [⟨errand, .running (errand.job c)⟩] }
  | answered {t : ThreadId} {errand : Errand} {e : Effect}
      {next : e.Response → Job errand.Result} {r : e.Response} {w : World}
      (running : σ.workers[t]? = some ⟨errand, .running (.perform e next)⟩)
      (answers : σ.world.Answers t e r w) :
      Step c σ { world := w, workers := σ.workers.set t ⟨errand, .running (next r)⟩ }
  | stalled {t : ThreadId} {errand : Errand} {e : Effect}
      {next : e.Response → Job errand.Result} {w : World}
      (running : σ.workers[t]? = some ⟨errand, .running (.perform e next)⟩)
      (stalls : σ.world.Stalls t e w) : Step c σ { σ with world := w }
  | finished {t : ThreadId} {errand : Errand} {result : errand.Result}
      (running : σ.workers[t]? = some ⟨errand, .running (.done result)⟩) :
      Step c σ
        { world := { σ.world with bed := σ.world.bed.onNetwork (Network.keepAll t) }
          workers := σ.workers.set t ⟨errand, .finished result⟩ }
  | cancelled {t : ThreadId} {errand : Errand} {job : Job errand.Result}
      (running : σ.workers[t]? = some ⟨errand, .running job⟩) :
      Step c σ { world := σ.world.cancel t, workers := σ.workers.set t ⟨errand, .cancelled⟩ }
  | moves {w : World} (moves : σ.world.Moves w) : Step c σ { σ with world := w }

/-- The scenes that can come about when nothing has been looked up yet. -/
inductive Reachable (c : Cluster) : Scene → Prop
  | initial (bed : Testbed) (slots : bed.slots = []) (pool : bed.pool = []) :
      Reachable c ⟨⟨bed, []⟩, []⟩
  | step {σ σ' : Scene} (reachable : Reachable c σ) (step : Step c σ σ') : Reachable c σ'

/-- Everybody keeps to the rules, and sessions and pool are as the rules make them. -/
structure Governed (P : Standings) (σ : Scene) : Prop where
  grips : ∀ t, (P t).grip.Holds t σ.world.bed
  lookups : Lookups P σ.world
  workers : ∀ t (worker : Worker), σ.workers[t]? = some worker → worker.Obeys (P t)

end Scene

/-- From one world to another, exhausted sessions stay exhausted, and what is recorded for them is
closed. -/
structure Standings.Succeeds (P : Standings) (w : World) (P' : Standings) (w' : World) : Prop where
  exhausts : ∀ s, P.Exhausts w.bed s → P'.Exhausts w'.bed s
  past : ∃ g, w'.past = w.past ++ g ∧
    ∀ s, P.Exhausts w.bed s → ∀ v ∈ Chronicle.stored s g, v.isClosed = true

namespace Scene

open Shared

variable {P P' : Standings} {σ σ' : Scene} {t : ThreadId} {s : SessionId} {e : Effect} {w' : World}

section Workers
variable {Q Q' : ThreadId → Worker → Prop} {workers : List Worker} {new : Worker}

theorem workers_set (h : ∀ t (worker : Worker), workers[t]? = some worker → Q t worker)
    (hnew : t < workers.length → Q' t new)
    (hother : ∀ t' worker, t' ≠ t → Q t' worker → Q' t' worker) :
    ∀ t' (worker : Worker), (workers.set t new)[t']? = some worker → Q' t' worker := by
  intro t' worker hworker
  by_cases heq : t' = t
  · subst heq
    have hlt := (List.getElem?_eq_some_iff.1 hworker).1
    rw [List.length_set] at hlt
    rw [List.getElem?_set_self hlt] at hworker
    cases hworker
    exact hnew hlt
  · rw [List.getElem?_set_ne (Ne.symm heq)] at hworker
    exact hother t' worker heq (h t' worker hworker)

theorem workers_push (h : ∀ t (worker : Worker), workers[t]? = some worker → Q t worker)
    (hnew : Q' workers.length new)
    (hother : ∀ t' worker, t' < workers.length → Q t' worker → Q' t' worker) :
    ∀ t' (worker : Worker), (workers ++ [new])[t']? = some worker → Q' t' worker := by
  intro t' worker hworker
  rcases Nat.lt_or_ge t' workers.length with hlt | hge
  · rw [List.getElem?_append_left hlt] at hworker
    exact hother t' worker hlt (h t' worker hworker)
  · rw [List.getElem?_append_right hge, List.getElem?_singleton] at hworker
    split at hworker
    · rename_i hzero
      have heq : t' = workers.length := Nat.le_antisymm (Nat.sub_eq_zero_iff_le.1 hzero) hge
      cases hworker
      rw [heq]
      exact hnew
    · cases hworker

/-- What holds of each worker when it starts, and still holds when it gets an answer, comes to its
end or is given up, holds of all workers after each step. -/
theorem Step.preserves {c : Cluster} (h : Step c σ σ')
    (hall : ∀ t (worker : Worker), σ.workers[t]? = some worker → Q t worker)
    (hstarts : ∀ errand : Errand, Q σ.workers.length ⟨errand, .running (errand.job c)⟩)
    (hanswered : ∀ (t : ThreadId) (errand : Errand) (e : Effect)
      (next : e.Response → Job errand.Result) (r : e.Response) (w : World),
      σ.world.Answers t e r w → Q t ⟨errand, .running (.perform e next)⟩ →
        Q t ⟨errand, .running (next r)⟩)
    (hfinished : ∀ (t : ThreadId) (errand : Errand) (result : errand.Result),
      Q t ⟨errand, .running (.done result)⟩ → Q t ⟨errand, .finished result⟩)
    (hcancelled : ∀ (t : ThreadId) (errand : Errand), Q t ⟨errand, .cancelled⟩) :
    ∀ t (worker : Worker), σ'.workers[t]? = some worker → Q t worker := by
  cases h with
  | starts errand => exact workers_push hall (hstarts errand) fun _ _ _ => id
  | @answered t errand e next r w running answers =>
    have hold := hall t _ running
    exact workers_set hall (fun _ => hanswered t errand e next r w answers hold) fun _ _ _ => id
  | stalled running stalls => exact hall
  | @finished t errand result running =>
    have hold := hall t _ running
    exact workers_set hall (fun _ => hfinished t errand result hold) fun _ _ _ => id
  | @cancelled t errand job running =>
    exact workers_set hall (fun _ => hcancelled t errand) fun _ _ _ => id
  | moves moves => exact hall

end Workers

theorem obeys_update {t' : ThreadId} {st : Standing} {worker : Worker} (hne : t' ≠ t)
    (h : worker.Obeys (P t')) : worker.Obeys (Function.update P t st t') := by
  rw [Function.update_of_ne hne]
  exact h

/-- A step in which nobody is answered leaves everybody where they stood. -/
theorem Governed.idle {g : Chronicle} (h : Governed P σ)
    (hpast : w'.past = σ.world.past ++ g) (hg : ∀ ev ∈ g, ev.Idle e)
    (hsessions : Jostles t σ.world.bed.sessions w'.bed.sessions)
    (hgrips : ∀ t, (P t).grip.Holds t σ.world.bed → (P t).grip.Holds t w'.bed)
    (hpool : w'.bed.pool = σ.world.bed.pool)
    (hslots : Jostles t σ.world.bed.slots w'.bed.slots)
    (hholder : ∀ i, holderAt σ.world.bed.slots i = some t → holderAt w'.bed.slots i = some t) :
    Governed P { σ with world := w' } ∧ P.Succeeds σ.world P w' := by
  have hlevel : σ.world.Level t w' := World.level_of_idle hpast hg hpool hslots
  have hexhausts (s : SessionId) (hs : P.Exhausts σ.world.bed s) : P.Exhausts w'.bed s :=
    hs.jostles hsessions
  have hretires (host : Host) (hhost : P.Retires σ.world host) : P.Retires w' host :=
    ⟨hexhausts _ hhost.1, hlevel.finds _ hhost.2⟩
  refine ⟨⟨fun t => hgrips t (h.grips t), ?_, h.workers⟩, hexhausts, g, hpast, ?_⟩
  · refine h.lookups.level hlevel hretires (fun _ _ => rfl) ?_
    exact (h.lookups.stages t).level hlevel hholder hretires
  · intro s _ v hv
    obtain ⟨ev, hev, hstored⟩ := List.mem_filterMap.1 hv
    rw [(hg ev hev).stored] at hstored
    cases hstored

theorem Governed.stalled {e : Effect} (h : Governed P σ) (hs : σ.world.Stalls t e w') :
    Governed P { σ with world := w' } ∧ P.Succeeds σ.world P w' := by
  obtain ⟨bed, ha, rfl⟩ := hs
  obtain ⟨hpool, hslots, hholders⟩ := Testbed.stall_slots ha
  exact h.idle rfl (World.taking_idle σ.world e bed) (Testbed.stall_jostles_sessions ha).1
    (fun _ hgrip => hgrip.stall ha) hpool hslots fun i => hholders i t

theorem Governed.moves (h : Governed P σ) (hm : σ.world.Moves w') :
    Governed P { σ with world := w' } ∧ P.Succeeds σ.world P w' := by
  have hshares := hm.shares
  obtain ⟨g, hpast, hg⟩ := (World.Waits.refl.moves hm : World.Waits 0 .clock σ.world w').past
  exact h.idle (t := 0) hpast hg (.of_eq 0 hshares.sessions)
    (fun _ hgrip => hgrip.of_eq hshares.sessions) hshares.pool (.of_eq 0 hshares.slots)
    fun i hi => hshares.slots ▸ hi

/-- A thread that takes up a new part with nothing in its hands. -/
theorem Governed.replace {stage : Stage} {workers : List Worker} {bed : Testbed}
    (h : Governed P σ) (hstage : stage.Holds (Function.update P t (.free stage)) t
      { σ.world with bed := bed })
    (hsessions : Jostles t σ.world.bed.sessions bed.sessions)
    (hpool : bed.pool = σ.world.bed.pool) (hslots : Jostles t σ.world.bed.slots bed.slots)
    (hworkers : ∀ t' (worker : Worker), workers[t']? = some worker →
      worker.Obeys (Function.update P t (.free stage) t')) :
    Governed (Function.update P t (.free stage)) ⟨{ σ.world with bed := bed }, workers⟩ ∧
      P.Succeeds σ.world (Function.update P t (.free stage)) { σ.world with bed := bed } := by
  have hlevel : σ.world.Level t { σ.world with bed := bed } :=
    World.level_of_idle (e := .clock) (List.append_nil _).symm
      (fun _ hev => absurd hev List.not_mem_nil)
      hpool hslots
  have hexhausts (s : SessionId) (hs : P.Exhausts σ.world.bed s) :
      Standings.Exhausts (Function.update P t (.free stage)) bed s :=
    (hs.jostles hsessions).update_free t stage
  refine ⟨⟨?_, ?_, hworkers⟩, hexhausts, [], (List.append_nil _).symm, ?_⟩
  · exact (Function.forall_update_iff P fun t' st => st.grip.Holds t' bed).2
      ⟨Grip.holds_empty t bed, fun t' hne => (h.grips t').jostles hne hsessions⟩
  · refine h.lookups.level hlevel (fun host hhost => ⟨hexhausts _ hhost.1, hhost.2⟩)
      (fun t' hne => Lookups.stage_update_ne hne) ?_
    rw [Function.update_self]
    exact hstage
  · exact fun s _ v hv => absurd hv List.not_mem_nil

/-- What an answer records for an exhausted session is closed. -/
theorem Governed.stored {r : e.Response} {bed : Testbed} (hallows : (P t).Allows e)
    (hs : P.Exhausts σ.world.bed s) :
    ∀ v ∈ Chronicle.stored s
      (σ.world.taking e bed ++ .answered t e r :: World.greeting bed e r), v.isClosed = true := by
  intro v hv
  obtain ⟨ev, hev, hstored⟩ := List.mem_filterMap.1 hv
  have hanswered : ev = .answered t e r := by
    rcases List.mem_append.1 hev with hev | hev
    · rw [(World.taking_idle σ.world e bed ev hev).stored] at hstored
      cases hstored
    · rcases List.mem_cons.1 hev with hev | hev
      · exact hev
      · rw [(World.greeting_idle bed e r ev hev).stored] at hstored
        cases hstored
  subst hanswered
  cases e with
  | store s' state =>
    dsimp only [Event.stored] at hstored
    split at hstored
    · rename_i heq
      subst heq
      cases hstored
      exact hs.closed hallows
    · cases hstored
  | _ => cases hstored

theorem Governed.answered {errand : Errand} {e : Effect}
    {next : e.Response → Job errand.Result} {r : e.Response} (h : Governed P σ)
    (running : σ.workers[t]? = some ⟨errand, .running (.perform e next)⟩)
    (ha : σ.world.Answers t e r w') :
    ∃ P', Governed P' ⟨w', σ.workers.set t ⟨errand, .running (next r)⟩⟩ ∧
      P.Succeeds σ.world P' w' := by
  obtain ⟨hallows, hnext⟩ := h.workers t _ running
  obtain ⟨bed, ha, rfl⟩ := ha
  refine ⟨Function.update P t ((P t).after e r), ?_⟩
  have hnew : Worker.Obeys (Function.update P t ((P t).after e r) t)
      ⟨errand, .running (next r)⟩ := by
    rw [Function.update_self]
    exact hnext r
  have hworkers := workers_set h.workers (fun _ => hnew) fun t' worker hne hobeys =>
    obeys_update hne hobeys
  rcases ha with ha | hf
  · refine ⟨⟨?_, h.lookups.answer h.grips hallows ha, hworkers⟩,
      fun s hs => hs.answer hallows ha, _, rfl, fun s hs => stored hallows hs⟩
    refine (Function.forall_update_iff P fun t' st => st.grip.Holds t' bed).2 ⟨?_, ?_⟩
    · exact (h.grips t).answer_self hallows.2 ha
    · exact fun t' hne => (h.grips t').answer_other hne (h.grips t) hallows.2 ha
  · -- a failure of the stream moves nobody on
    have hmatters := hf.not_matters
    have hshares := Testbed.fails_shares hf
    have hstay : Function.update P t ((P t).after e r) = P := by
      rw [Standing.after_of_not_matters hmatters, Function.update_eq_self]
    rw [hstay] at hworkers ⊢
    have hlevel : σ.world.Level t (σ.world.after t e r bed) :=
      World.level_after (Effect.isLevel_of_not_matters hmatters) hshares.pool
        (.of_eq t hshares.slots)
    have hexhausts (s : SessionId) (hs : P.Exhausts σ.world.bed s) : P.Exhausts bed s :=
      hs.jostles (.of_eq t hshares.sessions)
    have hretires (host : Host) (hhost : P.Retires σ.world host) :
        P.Retires (σ.world.after t e r bed) host := ⟨hexhausts _ hhost.1, hlevel.finds _ hhost.2⟩
    refine ⟨⟨fun t' => (h.grips t').of_eq hshares.sessions, ?_, hworkers⟩, hexhausts, _, rfl,
      fun s hs => stored hallows hs⟩
    refine h.lookups.level hlevel hretires (fun _ _ => rfl) ?_
    refine (h.lookups.stages t).level hlevel (fun i hi => ?_) hretires
    exact (congrArg (holderAt · i) hshares.slots).trans hi

/-- Every step goes by the rules. -/
theorem Governed.step {c : Cluster} (h : Governed P σ) (hs : Step c σ σ') :
    ∃ P', Governed P' σ' ∧ P.Succeeds σ.world P' σ'.world := by
  cases hs with
  | starts errand =>
    have hstage : errand.start.Holds
        (Function.update P σ.workers.length (.free errand.start)) σ.workers.length σ.world := by
      cases errand <;> trivial
    refine ⟨_, h.replace hstage (.refl _ _) rfl (.refl _ _) (workers_push h.workers ?_ ?_)⟩
    · rw [Function.update_self]
      exact errand.job_obeys c
    · exact fun t' worker hlt hobeys => obeys_update (Nat.ne_of_lt hlt) hobeys
  | answered running answers => exact h.answered running answers
  | stalled running stalls => exact ⟨P, h.stalled stalls⟩
  | @finished t errand result running =>
    have hobeys := h.workers t _ running
    let w : World := { σ.world with bed := σ.world.bed.onNetwork (Network.keepAll t) }
    have hidle : Governed P { σ with world := w } ∧ P.Succeeds σ.world P w :=
      h.idle (e := .clock) (List.append_nil _).symm (fun _ hev => absurd hev List.not_mem_nil)
        (.refl t _) (fun _ => id) rfl (.refl t _) fun _ => id
    refine ⟨P, ⟨hidle.1.grips, hidle.1.lookups, ?_⟩, hidle.2⟩
    exact workers_set h.workers (fun _ => hobeys) fun _ _ _ => id
  | @cancelled t errand job running =>
    have hstage : Stage.outside.Holds (Function.update P t (.free .outside)) t
        (σ.world.cancel t) := trivial
    refine ⟨_, h.replace hstage (jostles_leave_all t σ.world.bed.sessions) rfl
      (jostles_leave_all t σ.world.bed.slots) ?_⟩
    exact workers_set h.workers (fun _ => trivial) fun t' worker hne hobeys =>
      obeys_update hne hobeys
  | moves moves => exact ⟨P, h.moves moves⟩

section Alone

variable {c : Cluster} {errand : Errand} {workers : List Worker} {w : World}

theorem Reachable.waits {next : e.Response → Job errand.Result} (h : Reachable c ⟨w, workers⟩)
    (hwaits : World.Waits t e w w')
    (running : workers[t]? = some ⟨errand, .running (.perform e next)⟩) :
    Reachable c ⟨w', workers⟩ := by
  induction hwaits with
  | refl => exact h
  | moves _ hm ih => exact ih.step (.moves hm)
  | stalls _ hs ih => exact ih.step (.stalled running hs)

/-- What a thread can come to on its own, it can come to in a scene. -/
theorem Reachable.runs {job : Job errand.Result} {result : errand.Result}
    (h : Reachable c ⟨w, workers⟩) (hrun : job.Runs t w (some result) w')
    (running : workers[t]? = some ⟨errand, .running job⟩) :
    Reachable c ⟨w', workers.set t ⟨errand, .running (.done result)⟩⟩ := by
  induction job generalizing w workers with
  | done a =>
    obtain ⟨ha, rfl⟩ := hrun
    cases ha
    have hset : workers.set t ⟨errand, .running (.done result)⟩ = workers := by
      obtain ⟨hlt, hget⟩ := List.getElem?_eq_some_iff.1 running
      rw [← hget, List.set_getElem_self]
    rwa [hset]
  | perform e next ih =>
    rcases hrun with ⟨r, w₁, ⟨w₀, hwaits, hanswers⟩, hnext⟩ | ⟨hnone, -⟩
    · have hanswered := (h.waits hwaits running).step (.answered running hanswers)
      have hlt := (List.getElem?_eq_some_iff.1 running).1
      have hset : (workers.set t ⟨errand, .running (next r)⟩)[t]? =
          some ⟨errand, .running (next r)⟩ := List.getElem?_set_self hlt
      have hgone := ih r hanswered hnext hset
      rwa [List.set_set] at hgone
    · cases hnone

/-- A new thread runs its errand and has come to its end. -/
theorem Reachable.ends {result : errand.Result} (h : Reachable c σ)
    (hrun : (errand.job c).Runs σ.workers.length σ.world (some result) w') :
    Reachable c ⟨{ w' with bed := w'.bed.onNetwork (Network.keepAll σ.workers.length) },
      σ.workers ++ [⟨errand, .finished result⟩]⟩ := by
  have hstarted : (σ.workers ++ [⟨errand, .running (errand.job c)⟩])[σ.workers.length]? =
      some ⟨errand, .running (errand.job c)⟩ := List.getElem?_concat_length
  have hran := (h.step (.starts errand)).runs hrun hstarted
  rw [List.set_append_right _ _ (Nat.le_refl _), Nat.sub_self] at hran
  have hdone : (σ.workers ++ [⟨errand, .running (.done result)⟩])[σ.workers.length]? =
      some ⟨errand, .running (.done result)⟩ := List.getElem?_concat_length
  have hended := hran.step (.finished hdone)
  rwa [List.set_append_right _ _ (Nat.le_refl _), Nat.sub_self] at hended

theorem Reachable.visits {result : errand.Result} {pieces : List Bytes} (h : Reachable c σ)
    (hvisit : σ.world.visit σ.workers.length (errand.job c) pieces = some (result, w')) :
    Reachable c ⟨w', σ.workers ++ [⟨errand, .finished result⟩]⟩ := by
  obtain ⟨⟨answer, played⟩, hplay, heq⟩ := Option.map_eq_some_iff.1 hvisit
  cases heq
  exact h.ends (World.runs_of_play hplay)

end Alone

end Scene
end ClusterProbe
