import ClusterProbe.Proofs.Cluster.Resolution
import ClusterProbe.Proofs.Session.Closing

/-!
# What a session is still good for

Two questions are asked about a session: whether it is closed, by who is ready to wait for it, and
whether it is defunct, by who is not. While nobody uses the session they have the same answer. It is
yes for a session that was closed, that failed or that was left in the middle of a call: on such a
session no call is started any more, and who looks up its host dials again. It is no for a session
whose call numbers are used up, although no call is started on that one either
(`Session.useless_iff`), and a lookup keeps handing it out.
-/
namespace ClusterProbe

open Trade Shared

variable {s : SessionId} {t : ThreadId} {w w' : World} {v v' : Session}

/-- A session that nobody holds and nobody waits for. -/
theorem World.free_of_idle (hvalue : valueAt w.bed.sessions s = some v)
    (hholder : holderAt w.bed.sessions s = none) : w.Free s v := by
  obtain ⟨⟨value, queue⟩, hshared, rfl⟩ := Option.map_eq_some_iff.1 hvalue
  rw [holderAt, hshared] at hholder
  obtain rfl : queue = [] := List.head?_eq_none_iff.1 hholder
  exact hshared

namespace Session

variable {a : Operation} {found now : Session} {failed : Bool}

/-! ## Properties that last -/

section Lasting

variable {P : Session → Prop} {test : Operation → Prop}
  {Q : ((operations s).restrict test).Posts Stage} {bed : Testbed}

/-- Session `s` has the property, and all threads have found it so. -/
structure Lasts (P : Session → Prop) (Q : ((operations s).restrict test).Posts Stage)
    (bed : Testbed) (v : Session) : Prop where
  value : valueAt bed.sessions s = some v
  holds : P v
  custody : Q.Custody Stage.held s bed
  found : ∀ t a stage u, Q t = some (a, stage) → stage.found? = some u → P u

theorem Lasts.moved {a : ((operations s).restrict test).Task} {stage : Stage} {bed' : Testbed}
    (h : Lasts P Q bed v) (hvalue : valueAt bed'.sessions s = some v') (hholds : P v')
    (hcustody : Posts.Custody Stage.held s (Function.update Q t (some (a, stage))) bed')
    (hfound : ∀ u, stage.found? = some u → P u) :
    Lasts P (Function.update Q t (some (a, stage))) bed' v' where
  value := hvalue
  holds := hholds
  custody := hcustody
  found t' a' stage' u ht' hu := by
    rcases Posts.of_update ht' with ⟨rfl, rfl, rfl⟩ | ⟨-, ht'⟩
    · exact hfound u hu
    · exact h.found t' a' stage' u ht' hu

/-- A property lasts if it goes over to what is recorded by who has found it. -/
theorem lasts_keeps (s : SessionId)
    (hP : ∀ a found now new, test a → a.Records found now new → P found → P now → P new) :
    ((operationConduct s).restrict test).Keeps fun Q w => ∃ v, Lasts P Q w.bed v where
  starts := by
    rintro Q w t a ⟨v, h⟩ -
    exact ⟨v, h.moved h.value h.holds (h.custody.release (.refl t _) rfl) nofun⟩
  answered := by
    rintro Q w t a stage e r w' ⟨v, h⟩ hpost hallows hanswers
    have hhandles := Stage.handles hallows r
    have hheld (now : Session) : stage.held = some now → now = v :=
      h.custody.eq_of_held hpost h.value
    refine ⟨e.recorded s v, h.moved (hanswers.value hhandles h.value) ?_
      (h.custody.answered hpost hanswers hhandles) fun u hu => ?_⟩
    · rcases Stage.records hallows hheld with heq | ⟨found, failed, rfl, hrecords⟩
      · rw [heq]
        exact h.holds
      · exact hP a.1 found v _ a.2 hrecords (h.found t a _ found hpost rfl) h.holds
    · rcases Stage.found_after hallows t r hu with hu | heq
      · exact h.found t a stage u hpost hu
      · cases heq
        obtain ⟨hvalue, -⟩ := hanswers.acquire
        rw [h.value] at hvalue
        cases hvalue
        exact h.holds
  stalled := by
    rintro Q w t a stage e w' ⟨v, h⟩ - - hstalls
    exact ⟨v, (hstalls.jostles.1.value s).trans h.value, h.holds, h.custody.stalled hstalls,
      h.found⟩
  finished := by
    rintro Q w t a stage r ⟨v, h⟩ - -
    exact ⟨v, h.value, h.holds, h.custody, h.found⟩
  cancelled := by
    rintro Q w t a stage ⟨v, h⟩ -
    have hjostles := w.cancel_jostles t
    exact ⟨v, h.moved ((hjostles.value s).trans h.value) h.holds
      (h.custody.release hjostles rfl) nofun⟩
  moves := by
    rintro Q w w' ⟨v, h⟩ hmoves
    have hsessions := hmoves.shares.sessions
    exact ⟨v, by rw [hsessions]; exact h.value, h.holds, h.custody.of_eq hsessions, h.found⟩

end Lasting

/-! ## Sessions on which no call is started -/

/-- No call can be started on a session in this state: it is closed, or its numbers are used up. -/
def Spent (v : Session) : Prop :=
  v.isClosed = true ∨ v.lastCallId = Int32.maxValue

theorem Spent.not_room (h : v.Spent) (hopen : v.isClosed = false) :
    ¬ v.lastCallId < Int32.maxValue := by
  rcases h with hclosed | hlast
  · rw [hopen] at hclosed
    cases hclosed
  · rw [hlast]
    decide

/-- The operation starts no call: it does not try to, or it has failed. -/
def Operation.StartsNone : (a : Operation) → a.Result → Prop
  | call _ _ _, r => ∃ e, r = .error e
  | begin, r => ∃ e, r = .error e
  | _, _ => True

theorem Operation.Outcome.startsNone {r : a.Result} (h : a.Outcome r found now failed)
    (hspent : found.Spent) : a.StartsNone r := by
  obtain ⟨drawn, hturn, -⟩ := h.turn
  cases hturn with
  | given asks room tells =>
    cases a with
    | call m method body => exact absurd room (hspent.not_room asks)
    | begin => exact absurd room (hspent.not_room asks)
    | _ => trivial
  | exhausted asks full tells =>
    cases a with
    | call m method body => exact ⟨_, tells⟩
    | begin => exact ⟨_, tells⟩
    | _ => trivial
  | passed idle tells =>
    cases a with
    | call m method body => exact ⟨_, tells⟩
    | begin => exact ⟨_, tells⟩
    | _ => trivial

/-- A session that was found with its last number given out keeps it. -/
theorem Operation.Records.keeps_last {new : Session} (h : a.Records found now new)
    (hlast : now.lastCallId = Int32.maxValue) : new.lastCallId = Int32.maxValue := by
  rcases h.number with hsame | ⟨rfl, hasks, -⟩
  · exact hsame.trans hlast
  · have hroom := h.room hasks
    rw [hlast] at hroom
    exact absurd hroom (by decide)

/-- What can be done with session `s`, except to declare finished a call that was given up. -/
abbrev dealings (s : SessionId) : Trade :=
  (operations s).restrict (· ≠ .finishCall)

/-- Whatever is done with session `s` from now on, no call is started on it. -/
def Useless (s : SessionId) (w : World) : Prop :=
  ∀ σ : (dealings s).Crew, Crew.Reaches ⟨w, []⟩ σ →
    ∀ (t : ThreadId) (a : (dealings s).Task) (r : a.1.Result),
      σ.workers[t]? = some ⟨a, .finished r⟩ → a.1.StartsNone r

theorem useless_of_lasting {P : Session → Prop} (hvalue : valueAt w.bed.sessions s = some v)
    (hP : ∀ a found now new, a ≠ Operation.finishCall → a.Records found now new → P found →
      P now → P new)
    (hspent : ∀ u, P u → u.Spent) (hv : P v) : Useless s w := by
  intro σ hreach t a r hworker
  have hstart : Lasts P (fun _ => none : (dealings s).Posts Stage) w.bed v := by
    refine ⟨hvalue, hv, ?_, ?_⟩
    · rintro t a stage now ⟨⟩
    · rintro t a stage u ⟨⟩
  obtain ⟨Q, hQ, v', h⟩ :=
    (lasts_keeps s hP).reaches hreach (Conduct.manned_start w) ⟨v, hstart⟩
  obtain ⟨stage, hpost, found, now, failed, rfl, houtcome⟩ := hQ.stands t _ hworker
  exact houtcome.startsNone (hspent found (h.found t a _ found hpost rfl))

theorem useless_of_spent (hvalue : valueAt w.bed.sessions s = some v) (hspent : v.Spent) :
    Useless s w := by
  rcases hspent with hclosed | hlast
  · refine useless_of_lasting hvalue ?_ (fun _ => .inl) hclosed
    exact fun _ _ _ _ hother hrecords hfound _ => hrecords.closed hother hfound
  · exact useless_of_lasting hvalue (fun _ _ _ _ _ hrecords _ => hrecords.keeps_last)
      (fun _ => .inr) hlast

/-! ## Single operations on a session that nobody uses -/

/-- A session that nobody uses can be taken at once. -/
theorem exists_guarded {α : Type} {body : Session → Job α} {r : α} (hfree : w.Free s v)
    (hbody : ∀ w₁, w₁.Held s v t → ∃ w₂, (body v).Runs t w₁ (some r) w₂ ∧ w₂.Held s v' t) :
    ∃ w', (guarded s body).Runs t w (some r) w' ∧ w'.Free s v' := by
  obtain ⟨found, w₁, hacquire⟩ := World.exists_settles (Testbed.answer_acquire_free (t := t) hfree)
  obtain ⟨rfl, hheld, -⟩ := hacquire.acquire_free (c := 0) hfree
  obtain ⟨w₂, hrun, hheld⟩ := hbody w₁ hheld
  obtain ⟨_, w', hrelease⟩ :=
    World.exists_settles (w₂.bed.answer_prompt t (e := .release s) rfl)
  obtain ⟨hfree', -⟩ := hrelease.release_held (c := 0) hheld
  have hlast : (Job.ask (.release s) >>= fun _ => pure r).Runs t w₂ (some r) w' :=
    Job.leads_ask_bind hrelease _ _ ⟨rfl, rfl⟩
  exact ⟨w', Job.leads_ask_bind hacquire _ _ (hrun.leads_bind _ _ hlast), hfree'⟩

theorem exists_store {α : Type} {a : α} (h : w.Held s v t) :
    ∃ w', (Job.ask (.store s v') >>= fun _ => pure a).Runs t w (some a) w' ∧ w'.Held s v' t := by
  obtain ⟨_, w', hstore⟩ := World.exists_settles (w.bed.answer_prompt t (e := .store s v') rfl)
  exact ⟨w', Job.leads_ask_bind hstore _ _ ⟨rfl, rfl⟩, (hstore.store_held (c := 0) h).1⟩

theorem abort_prompt (s : SessionId) (v : Session) : (abort s v).Asks (·.isPrompt = true) := by
  refine (Job.ask_prompt rfl).bind fun _ => ?_
  split
  · refine (Job.ask_prompt rfl).bind fun _ => (Job.ask_prompt rfl).bind fun r => ?_
    cases r with
    | error e => exact Job.ask_prompt rfl
    | ok => exact Job.asks_pure _ _
  · exact Job.asks_pure _ _

/-- Who starts a call on it never has to wait. -/
theorem exists_begin_result (t : ThreadId) (hfree : w.Free s v) :
    ∃ r w', (begin s).Runs t w (some r) w' := by
  refine Job.exists_run_ask_bind (Testbed.answer_acquire_free hfree) fun found => ?_
  refine Job.Asks.bind (Job.Asks.bind ?_ fun _ => Job.asks_pure _ _) fun _ =>
    (Job.ask_prompt rfl).bind fun _ => Job.asks_pure _ _
  unfold beginCall
  split
  · exact (Job.ask_prompt rfl).bind fun _ => (abort_prompt s found).bind fun _ => Job.asks_pure _ _
  · split
    · exact Job.asks_pure _ _
    · exact (Job.ask_prompt rfl).bind fun _ => Job.asks_pure _ _

theorem checkClosed_answers (hfree : w.Free s v) (r : Bool) :
    (∃ w', (checkClosed s).Runs t w (some r) w') ↔ r = v.isClosed := by
  constructor
  · rintro ⟨w', hrun⟩
    rcases guarded_runs (c := 0) hrun hfree with ⟨hnone, -⟩ | ⟨w₁, o₁, w₂, -, -, hbody, -, ho, -⟩
    · cases hnone
    · rw [ho r rfl] at hbody
      exact Option.some.inj hbody.1
  · rintro rfl
    obtain ⟨w', hrun, -⟩ : ∃ w', (checkClosed s).Runs t w (some v.isClosed) w' ∧ w'.Free s v :=
      exists_guarded hfree fun w₁ hheld => ⟨w₁, ⟨rfl, rfl⟩, hheld⟩
    exact ⟨w', hrun⟩

theorem isDefunct_answers (hfree : w.Free s v) (r : Bool) :
    (∃ w', w.Settles t (.isDefunct s) r w') ↔ r = v.isClosed := by
  constructor
  · rintro ⟨w', hsettles⟩
    exact (hsettles.isDefunct hfree).1
  · rintro rfl
    obtain ⟨r, w', hsettles⟩ :=
      World.exists_settles (w.bed.answer_prompt t (e := .isDefunct s) rfl)
    obtain ⟨rfl, -⟩ := hsettles.isDefunct hfree
    exact ⟨w', hsettles⟩

/-- A call is started on a session that is not spent. -/
theorem exists_begin (hfree : w.Free s v) (hspent : ¬ v.Spent) :
    ∃ w', (begin s).Runs t w (some (.ok (v.lastCallId + 1))) w' ∧ w'.Free s v.begun := by
  obtain ⟨hopen, hlast⟩ := not_or.1 hspent
  obtain ⟨c, hv⟩ := exists_openOn (Bool.eq_false_iff.2 hopen)
  have hroom : v.lastCallId < Int32.maxValue := by
    by_contra hfull
    exact hlast (eq_maxValue_of_not_lt hfull)
  refine exists_guarded hfree fun w₁ hheld => ?_
  rw [hv.beginCall, if_pos hroom]
  exact exists_store hheld

theorem useless_iff (hfree : w.Free s v) : Useless s w ↔ v.Spent := by
  refine ⟨fun huseless => ?_, useless_of_spent (congrArg (Option.map value) hfree)⟩
  by_contra hspent
  obtain ⟨w', hrun, -⟩ := exists_begin (t := 0) hfree hspent
  have hreach : Crew.Reaches ⟨w, []⟩ _ :=
    Crew.reaches_of_ends (T := dealings s) ⟨.begin, nofun⟩ hrun
  obtain ⟨e, he⟩ := huseless _ hreach 0 _ _ rfl
  cases he

/-! ## Numbers that are used up -/

theorem exists_generateCallId (hfree : w.Free s v) (hroom : v.lastCallId < Int32.maxValue) :
    ∃ w', (generateCallId s).Runs t w (some (.ok (v.lastCallId + 1))) w' ∧
      w'.Free s { v with lastCallId := v.lastCallId + 1 } := by
  refine exists_guarded hfree fun w₁ hheld => ?_
  rw [nextCallId, if_pos hroom]
  exact exists_store hheld

/-- Any number of call numbers that are left can be drawn, one by one. -/
theorem exists_numbered (hfree : w.Free s v) (n : Nat)
    (hn : v.lastCallId.toInt + n ≤ Int32.maxValue.toInt) :
    ∃ (σ : (operations s).Crew) (last : Int32), Crew.Reaches ⟨w, []⟩ σ ∧
      (∀ worker ∈ σ.workers, ∃ k, worker = ⟨.generateCallId, .finished (.ok k)⟩) ∧
      last.toInt = v.lastCallId.toInt + n ∧ σ.world.Free s { v with lastCallId := last } := by
  induction n with
  | zero => exact ⟨⟨w, []⟩, v.lastCallId, .refl, nofun, (Int.add_zero _).symm, hfree⟩
  | succ n ih =>
    obtain ⟨σ, last, hreach, hworkers, hlast, hfree'⟩ := ih (by omega)
    have hroom : last < Int32.maxValue := by
      rw [Int32.lt_iff_toInt_lt]
      omega
    obtain ⟨w', hrun, hdrawn⟩ := exists_generateCallId (t := σ.workers.length) hfree' hroom
    have hnext := Crew.reaches_of_ends (T := operations s) .generateCallId hrun
    refine ⟨_, last + 1, hreach.trans hnext, ?_, ?_, ?_⟩
    · intro worker hworker
      rcases List.mem_append.1 hworker with hworker | hworker
      · exact hworkers worker hworker
      · exact ⟨_, List.mem_singleton.1 hworker⟩
    · rw [toInt_add_one_of_lt hroom, hlast]
      omega
    · exact hdrawn

/-- So all the numbers of a session can be used up. -/
theorem exists_used_up (hfree : w.Free s v) :
    ∃ σ : (operations s).Crew, Crew.Reaches ⟨w, []⟩ σ ∧
      (∀ worker ∈ σ.workers, ∃ k, worker = ⟨.generateCallId, .finished (.ok k)⟩) ∧
      σ.world.Free s { v with lastCallId := Int32.maxValue } := by
  have hle : v.lastCallId.toInt ≤ Int32.maxValue.toInt :=
    Int32.le_iff_toInt_le.1 v.lastCallId.le_maxValue
  obtain ⟨σ, last, hreach, hworkers, hlast, hfree'⟩ :=
    exists_numbered hfree (Int32.maxValue.toInt - v.lastCallId.toInt).toNat (by omega)
  obtain rfl : last = Int32.maxValue := Int32.toInt_inj.1 (by omega)
  exact ⟨σ, hreach, hworkers, hfree'⟩

end Session

/-! ## Servers whose host is in the pool -/

variable {c : Cluster} {σ : Scene} {u : Uuid} {host : Host} {endpoint : Endpoint}
  {r : Except ClientError Host}

/-- A lookup gives the host that is in the pool as long as its session counts as open. -/
theorem Scene.Reachable.hands_out (h : Reachable c σ) (hidle : σ.world.bed.Idle u)
    (hhost : σ.world.bed.host? u = some host) (hfree : σ.world.Free host.session v)
    (hlocate : c.locate u = .ok endpoint) (hrun : (c.host u).Runs t σ.world (some r) w') :
    (v.isClosed = false ∧ r = .ok host ∧ c.Resolves u t σ.world [] r w') ∨
      (v.isClosed = true ∧ r ≠ .ok host ∧ c.Resolves u t σ.world [endpoint] r w') := by
  obtain ⟨dialed, hresolves⟩ := Cluster.host_resolves hrun h.orderly hidle
  have hcarries := Testbed.carries_of_free hfree
  rcases hresolves.step.of_located hlocate with ⟨pooled, husable, rfl, rfl⟩ | ⟨hnone, rfl⟩
  · obtain ⟨hpooled, hopen⟩ := Testbed.usable?_eq_some_iff.1 husable
    obtain rfl := Option.some.inj (hhost.symm.trans hpooled)
    rw [hcarries, Bool.not_eq_true'] at hopen
    exact .inl ⟨hopen, rfl, hresolves⟩
  · refine .inr ⟨?_, ?_, hresolves⟩
    · by_contra hopen
      rw [Bool.eq_false_iff.2 hopen] at hcarries
      rw [Testbed.usable?_eq_some_iff.2 ⟨hhost, hcarries⟩] at hnone
      cases hnone
    · rintro rfl
      obtain ⟨v', hvalue, hgone⟩ := hresolves.closed (List.cons_ne_nil _ _) host hhost
      obtain ⟨-, hopen⟩ := Testbed.usable?_eq_some_iff.1 hresolves.step.found
      rw [Testbed.carries_of_value hvalue, Session.isClosed_of_stream hgone] at hopen
      cases hopen

namespace Session

/-- Session `s` is in state `v` and nobody uses it. What is reported of it goes by whether it is
closed, and so does whether a lookup dials again; what it is good for goes by whether it is
spent. -/
structure Reports (s : SessionId) (w : World) (v : Session) : Prop where
  closed : ∀ t r, (∃ w', (checkClosed s).Runs t w (some r) w') ↔ r = v.isClosed
  defunct : ∀ t r, (∃ w', w.Settles t (.isDefunct s) r w') ↔ r = v.isClosed
  /-- Who starts a call on it is told at once what has come of that. -/
  returns : ∀ t, ∃ r w', (begin s).Runs t w (some r) w'
  useless : Useless s w ↔ v.isClosed = true ∨ v.lastCallId = Int32.maxValue
  pooled : ∀ (c : Cluster) (σ : Scene) (u : Uuid) (host : Host) (endpoint : Endpoint),
    Scene.Reachable c σ → σ.world = w → w.bed.Idle u → w.bed.host? u = some host →
      host.session = s → c.locate u = .ok endpoint → ∀ t r w', (c.host u).Runs t w (some r) w' →
        (v.isClosed = false ∧ r = .ok host ∧ c.Resolves u t w [] r w') ∨
          (v.isClosed = true ∧ r ≠ .ok host ∧ c.Resolves u t w [endpoint] r w')

/-- **What is reported of a session.** -/
theorem usability_reported (hfree : w.Free s v) : Reports s w v where
  closed _ := checkClosed_answers hfree
  defunct _ := isDefunct_answers hfree
  returns t := exists_begin_result t hfree
  useless := useless_iff hfree
  pooled := by
    rintro c σ u host endpoint hreachable rfl hidle hhost rfl hlocate t r w' hrun
    exact hreachable.hands_out hidle hhost hfree hlocate hrun

/-- A server has been looked up and its host has been closed: no lookup gives that host again. -/
theorem usability_reported_closed : ∃ (σ : Scene) (host : Host) (v : Session),
    Scene.Reachable Scene.sample σ ∧ σ.world.bed.host? ⟨1⟩ = some host ∧
      Reports host.session σ.world v ∧ v.isClosed = true ∧
      ∀ t r w', (Scene.sample.host ⟨1⟩).Runs t σ.world (some r) w' → r ≠ .ok host := by
  have hplay : (Scene.tabletReachable.visit 0 (Scene.sample.host ⟨1⟩) (leaderAnswers.take 2)).any
      (fun first => first.1.toOption.any fun host =>
        (first.2.visit 1 host.close []).any fun closed =>
          closed.2.bed.sessions[host.session]?.any fun shared =>
            decide (closed.2.bed.host? ⟨1⟩ = some host ∧ shared.value.isClosed = true ∧
              (∀ shared ∈ closed.2.bed.slots, shared.queue = []) ∧
              (∀ shared ∈ closed.2.bed.sessions, shared.queue = []))) = true := by
    decide +kernel
  obtain ⟨first, hfirst, hplay⟩ := (Option.any_eq_true _ _).1 hplay
  obtain ⟨host, hhost, hplay⟩ := (Option.any_eq_true _ _).1 hplay
  obtain ⟨closed, hclosed, hplay⟩ := (Option.any_eq_true _ _).1 hplay
  obtain ⟨⟨v, queue⟩, hshared, hchecked⟩ := (Option.any_eq_true _ _).1 hplay
  obtain ⟨hpooled, hdefunct, hslots, hsessions⟩ := of_decide_eq_true hchecked
  obtain rfl : queue = [] := hsessions _ (List.mem_of_getElem? hshared)
  have hstart : Scene.Reachable Scene.sample ⟨Scene.tabletReachable, []⟩ := .initial _ rfl rfl
  have hlooked : Scene.Reachable Scene.sample ⟨first.2, [⟨.seek ⟨1⟩, .finished first.1⟩]⟩ :=
    hstart.visits hfirst
  have hreachable : Scene.Reachable Scene.sample ⟨closed.2,
      [⟨.seek ⟨1⟩, .finished first.1⟩, ⟨.close host, .finished closed.1⟩]⟩ :=
    hlooked.visits hclosed
  have hreports := usability_reported (s := host.session) (w := closed.2) (v := v) hshared
  have hlocate : Scene.sample.locate ⟨1⟩ = .ok ⟨"t1", 9100⟩ := by decide +kernel
  refine ⟨_, host, v, hreachable, hpooled, hreports, hdefunct, fun t r w' hrun => ?_⟩
  rcases hreports.pooled _ _ _ _ _ hreachable rfl (Testbed.idle_of_quiet hslots hsessions) hpooled
    rfl hlocate t r w' hrun with ⟨hopen, -⟩ | ⟨-, hother, -⟩
  · rw [hdefunct] at hopen
    cases hopen
  · exact hother

/-- **Sessions that are good for nothing and count as open.** All the call numbers of a new session
are drawn. Nobody uses it then, no call will ever be started on it, and it is reported neither
closed nor defunct. A new session is closed, and while someone holds it, without any call, it is
reported not to be defunct. -/
theorem useless_counts_as_open :
    (∃ (w : World) (σ : (operations 0).Crew),
      (connect ⟨"n1", 7100⟩ noProbe).Runs 0 .untouched (some (.ok 0)) w ∧
        Crew.Reaches ⟨w, []⟩ σ ∧
        (∀ worker ∈ σ.workers, ∃ k, worker = ⟨.generateCallId, .finished (.ok k)⟩) ∧
        σ.world.Free 0
          { endpoint := ⟨"n1", 7100⟩, stream := some 0, lastCallId := Int32.maxValue } ∧
        Useless 0 σ.world ∧
        (∃ w', (checkClosed 0).Runs 0 σ.world (some false) w') ∧
        ∃ w', σ.world.Settles 0 (.isDefunct 0) false w') ∧
    ∃ (w : World) (σ : (operations 0).Crew),
      (connect ⟨"n1", 7100⟩ noProbe).Runs 0 .untouched (some (.ok 0)) w ∧
        Crew.Reaches ⟨w, []⟩ σ ∧
        σ.workers = [⟨.close, .finished (.ok ())⟩, ⟨.defunctWhileHeld, .finished false⟩,
          ⟨.checkClosed, .finished true⟩] := by
  let fresh : Session := { endpoint := ⟨"n1", 7100⟩, stream := some 0 }
  have hplay : (World.untouched.play 0 (connect ⟨"n1", 7100⟩ noProbe) []).any (fun x =>
      decide (x.1 = .ok 0 ∧ valueAt x.2.bed.sessions 0 = some fresh ∧
        holderAt x.2.bed.sessions 0 = none) &&
        (x.2.visit 0 (Session.close 0) []).any fun y => decide (y.1 = .ok ()) &&
          (y.2.visit 1 (Session.defunctWhileHeld 0) []).any fun z => decide (z.1 = false) &&
            (z.2.visit 2 (Session.checkClosed 0) []).any fun u => decide (u.1 = true)) = true := by
    decide +kernel
  obtain ⟨⟨_, w⟩, hopened, hchecks⟩ := (Option.any_eq_true _ _).1 hplay
  obtain ⟨hstart, hchecks⟩ := Bool.and_eq_true_iff.1 hchecks
  obtain ⟨rfl, hvalue, hholder⟩ := of_decide_eq_true hstart
  have hconnects := World.runs_of_play hopened
  refine ⟨?_, w, ?_⟩
  · obtain ⟨σ, hreach, hworkers, hspent⟩ := exists_used_up (World.free_of_idle hvalue hholder)
    exact ⟨w, σ, hconnects, hreach, hworkers, hspent, (useless_iff hspent).2 (.inr rfl),
      (checkClosed_answers hspent false).2 rfl, (isDefunct_answers hspent false).2 rfl⟩
  · obtain ⟨⟨_, w₁⟩, hclosed, hchecks⟩ := (Option.any_eq_true _ _).1 hchecks
    obtain ⟨hok, hchecks⟩ := Bool.and_eq_true_iff.1 hchecks
    obtain rfl := of_decide_eq_true hok
    obtain ⟨⟨_, w₂⟩, hasked, hchecks⟩ := (Option.any_eq_true _ _).1 hchecks
    obtain ⟨hheld, hchecks⟩ := Bool.and_eq_true_iff.1 hchecks
    obtain rfl := of_decide_eq_true hheld
    obtain ⟨⟨_, w₃⟩, hwaited, htrue⟩ := (Option.any_eq_true _ _).1 hchecks
    obtain rfl := of_decide_eq_true htrue
    have hfirst : Crew.Reaches (T := operations 0) ⟨w, []⟩
        ⟨w₁, [⟨.close, .finished (.ok ())⟩]⟩ :=
      Crew.reaches_of_visit (T := operations 0) .close hclosed
    have hsecond : Crew.Reaches (T := operations 0) ⟨w₁, [⟨.close, .finished (.ok ())⟩]⟩
        ⟨w₂, [⟨.close, .finished (.ok ())⟩, ⟨.defunctWhileHeld, .finished false⟩]⟩ :=
      Crew.reaches_of_visit (T := operations 0) .defunctWhileHeld hasked
    have hthird : Crew.Reaches (T := operations 0)
        ⟨w₂, [⟨.close, .finished (.ok ())⟩, ⟨.defunctWhileHeld, .finished false⟩]⟩ ⟨w₃, _⟩ :=
      Crew.reaches_of_visit (T := operations 0) .checkClosed hwaited
    exact ⟨_, hconnects, (hfirst.trans hsecond).trans hthird, rfl⟩

end Session
end ClusterProbe
