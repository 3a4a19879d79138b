import ClusterProbe.Proofs.Session.Framing
import ClusterProbe.Proofs.World.Connection
import ClusterProbe.Proofs.World.Inevitable
import ClusterProbe.Testbed.Run

/-!
# Rehearsals

A rehearsal runs a thread until it has to wait, then lets every far end have its turn, and moves the
time when nothing else can be done. That is one of the orders of steps that a job may meet, so a
rehearsal of a job comes to what the job ensures, given enough rounds (`Job.Ensures.rehearsed`).
-/
namespace ClusterProbe

open Relation

variable {α : Type} {t : ThreadId} {bed bed' : Testbed}

theorem Shared.join_join {β : Type} (s : Shared β) : (s.join t).join t = s.join t := by
  unfold join
  by_cases hmem : t ∈ s.queue
  · rw [if_pos hmem, if_pos hmem]
  · rw [if_neg hmem, if_pos (List.mem_append_right _ (List.mem_singleton_self t))]

namespace Testbed

theorem receive_waiting {c : ConnectionId} {limit : Nat} {callId : Int32}
    (h : bed.receive c limit callId = (none, bed')) :
    bed'.receive c limit callId = (none, bed') := by
  cases hk : bed.network.connections[c]? with
  | none => simp [receive, hk] at h
  | some k =>
    let p := k.reader.readFrom (fun r => (r.outcome? limit).isSome) k.toClient.buffer
    let k' : Connection := { k with reader := p.reader, toClient.buffer := p.rest }
    obtain ⟨houtcome, hopen⟩ :
        p.reader.outcome? limit = none ∧ ¬ k'.toClient.closed = true := by
      simp only [receive, hk] at h
      split at h
      · cases h
      · rename_i houtcome
        split at h
        · cases h
        · rename_i hopen
          exact ⟨houtcome, hopen⟩
    obtain ⟨events, hreceive⟩ := receive_network limit callId hk
    have hbed : bed' = bed.onNetwork fun n => { n.setConnection c k' with events } :=
      (congrArg Prod.snd h).symm.trans hreceive
    have hk' : (bed.network.setConnection c k').connections[c]? = some k' :=
      List.getElem?_set_self (List.getElem?_eq_some_iff.1 hk).1
    have hagain : k'.reader.readFrom (fun r => (r.outcome? limit).isSome) k'.toClient.buffer =
        ⟨p.reader, p.rest, 0⟩ := FrameReader.readFrom_readFrom _ k.reader k.toClient.buffer
    simp only [hbed, receive, onNetwork, hk', hagain, houtcome, List.replicate_zero, List.foldl_nil]
    rw [if_neg hopen]
    simp only [Network.setConnection, List.set_set]
    rfl

/-- A thread that waits has taken in what there is. -/
theorem answer_waiting {e : Effect} (h : bed.answer t e = (none, bed')) :
    bed'.answer t e = (none, bed') := by
  cases e with
  | receive c limit callId => exact receive_waiting h
  | write | read =>
    have hsame : bed' = bed := by
      simp only [answer] at h
      split at h
      · cases h
      · split at h <;> cases h
        rfl
    rw [hsame] at h ⊢
    exact h
  | acquire s =>
    cases hs : bed.sessions[s]? with
    | none =>
      simp only [answer, hs] at h
      cases h
      simp only [answer, hs]
    | some shared =>
      simp only [answer, hs, Prod.mk.injEq] at h
      obtain ⟨hheld, rfl⟩ := h
      have hs' : (bed.sessions.set s (shared.join t))[s]? = some (shared.join t) :=
        List.getElem?_set_self (List.getElem?_eq_some_iff.1 hs).1
      simp only [answer, hs', Shared.join_join, hheld, List.set_set]
  | enter i =>
    cases hi : bed.slots[i]? with
    | none =>
      simp only [answer, hi] at h
      cases h
      simp only [answer, hi]
    | some shared =>
      simp only [answer, hi, Prod.mk.injEq] at h
      obtain ⟨hheld, rfl⟩ := h
      have hi' : (bed.slots.set i (shared.join t))[i]? = some (shared.join t) :=
        List.getElem?_set_self (List.getElem?_eq_some_iff.1 hi).1
      simp only [answer, hi', Shared.join_join, hheld, List.set_set]
  | slot uuid =>
    simp only [answer] at h
    split at h <;> cases h
  | evict uuid stale =>
    simp only [answer] at h
    split at h
    · split at h <;> cases h
    · cases h
  | _ => cases h

/-- A thread's turn is a sequence of its steps, and it ends where the thread has to wait. -/
theorem poll_steps (job : Job α) (bed : Testbed) :
    ∃ job' bed' moved, bed.poll t job = (job', bed', moved) ∧
      ReflTransGen (Job.Step t) (job, bed) (job', bed') ∧
      (moved = true → TransGen (Job.Step t) (job, bed) (job', bed')) ∧
      ∀ e next, job' = .perform e next → bed'.answer t e = (none, bed') := by
  induction job generalizing bed with
  | done a => exact ⟨.done a, bed, false, rfl, .refl, nofun, fun e next h => by cases h⟩
  | perform e next ih =>
    cases hanswer : bed.answer t e with
    | mk r bed₁ =>
      cases r with
      | none =>
        refine ⟨.perform e next, bed₁, false, by simp only [poll, hanswer], ?_, nofun, ?_⟩
        · by_cases hnew : bed₁ = bed
          · rw [hnew]
          · exact .single (.waited hanswer hnew)
        · rintro _ _ ⟨⟩
          exact answer_waiting hanswer
      | some r =>
        obtain ⟨job', bed', moved, hpoll, hsteps, -, hwaits⟩ := ih r bed₁
        refine ⟨job', bed', true, by simp only [poll, hanswer, hpoll], ?_, fun _ => ?_, hwaits⟩
        · exact hsteps.head (.answered hanswer)
        · exact TransGen.head' (.answered hanswer) hsteps

/-- The turn of one far end, and whether any of them has done something. -/
def farTurn (x : Network × Bool) (c : ConnectionId) : Network × Bool :=
  match x.1.step c with
  | some n => (n, true)
  | none => x

theorem stepAll_eq (n : Network) :
    n.stepAll = (List.range n.connections.length).foldl farTurn (n, false) := rfl

theorem foldl_farTurn (cs : List ConnectionId) (bed : Testbed) (moved : Bool) :
    (TransGen Drifts bed { bed with network := (cs.foldl farTurn (bed.network, moved)).1 } ∧
        (cs.foldl farTurn (bed.network, moved)).2 = true) ∨
      (cs.foldl farTurn (bed.network, moved) = (bed.network, moved) ∧
        ∀ c ∈ cs, bed.network.step c = none) := by
  induction cs generalizing bed moved with
  | nil => exact Or.inr ⟨rfl, nofun⟩
  | cons c cs ih =>
    rw [List.foldl_cons]
    cases hstep : bed.network.step c with
    | none =>
      have hturn : farTurn (bed.network, moved) c = (bed.network, moved) := by
        simp only [farTurn, hstep]
      rw [hturn]
      rcases ih bed moved with hdrifts | ⟨hsame, hrest⟩
      · exact Or.inl hdrifts
      · exact Or.inr ⟨hsame, List.forall_mem_cons.2 ⟨hstep, hrest⟩⟩
    | some network =>
      have hturn : farTurn (bed.network, moved) c = (network, true) := by
        simp only [farTurn, hstep]
      have hdrift : bed.Drifts { bed with network } := .served hstep
      rw [hturn]
      rcases ih { bed with network } true with ⟨hdrifts, hserved⟩ | ⟨hsame, -⟩
      · exact Or.inl ⟨hdrifts.head hdrift, hserved⟩
      · dsimp only at hsame
        rw [hsame]
        exact Or.inl ⟨.single hdrift, rfl⟩

/-- The turns of the far ends are a drift, and when none has done anything none can. -/
theorem stepAll_drifts (bed : Testbed) :
    (bed.network.stepAll.2 = true ∧
        TransGen Drifts bed { bed with network := bed.network.stepAll.1 }) ∨
      (bed.network.stepAll = (bed.network, false) ∧ ∀ c, bed.network.step c = none) := by
  rw [stepAll_eq]
  rcases foldl_farTurn (List.range bed.network.connections.length) bed false with
    ⟨hdrifts, hserved⟩ | ⟨hsame, hnone⟩
  · exact Or.inl ⟨hserved, hdrifts⟩
  · refine Or.inr ⟨hsame, fun c => ?_⟩
    by_cases hc : c < bed.network.connections.length
    · exact hnone c (List.mem_range.2 hc)
    · simp [Network.step, List.getElem?_eq_none (Nat.le_of_not_lt hc)]

/-- The only thread of a rehearsal, without a deadline. -/
def alone (progress : Progress α) : List (Thread α) := [⟨progress, none⟩]

theorem runThreads_done {job : Job α} {a : α} {moved : Bool} (fuel : Nat)
    (hpoll : bed.poll 0 job = (.done a, bed', moved)) :
    bed.runThreads (fuel + 1) (alone (.running job)) =
      (alone (.finished a), bed'.onNetwork (Network.keepAll 0)) := by
  simp [runThreads, alone, turns, turn, hpoll, Thread.isRunning]

section Waiting

variable {job : Job α} {e : Effect} {next : e.Response → Job α} {moved : Bool} (fuel : Nat)

theorem turns_alone (hpoll : bed.poll 0 job = (.perform e next, bed', moved)) :
    bed.turns 0 (alone (.running job)) = (alone (.running (.perform e next)), bed', moved) := by
  simp [turns, turn, alone, hpoll]

theorem isRunning_alone : (alone (.running job)).any Thread.isRunning = true :=
  rfl

theorem nextMoment_alone : bed.nextMoment? (alone (.running job)) = bed.network.nextWake? := by
  have hdeadlines :
      ((alone (.running job)).filter Thread.isRunning).filterMap Thread.deadline = [] := rfl
  cases hwake : bed.network.nextWake? <;> simp [nextMoment?, hdeadlines, hwake]

/-- Another round follows when the thread or a far end has done something. -/
theorem runThreads_moved (hpoll : bed.poll 0 job = (.perform e next, bed', moved))
    (hmoved : (moved || bed'.network.stepAll.2) = true) :
    bed.runThreads (fuel + 1) (alone (.running job)) =
      ({ bed' with network := bed'.network.stepAll.1 } : Testbed).runThreads fuel
        (alone (.running (.perform e next))) := by
  simp only [runThreads, turns_alone hpoll, isRunning_alone, Bool.not_true, Bool.false_eq_true,
    hmoved, if_true, if_false]

/-- When nothing has been done the time moves. -/
theorem runThreads_slept {now : Nat} (hpoll : bed.poll 0 job = (.perform e next, bed', false))
    (hquiet : bed'.network.stepAll = (bed'.network, false))
    (hwake : bed'.network.nextWake? = some now) :
    bed.runThreads (fuel + 1) (alone (.running job)) =
      (bed'.onNetwork fun n => { n with now }).runThreads fuel
        (alone (.running (.perform e next))) := by
  simp only [runThreads, turns_alone hpoll, isRunning_alone, Bool.not_true, Bool.false_eq_true,
    hquiet, Bool.or_self, if_false, nextMoment_alone, hwake]

end Waiting

/-- A round of a rehearsal brings a job to its end, or takes at least one of its steps. -/
theorem runThreads_round {job : Job α} {post : α → Testbed → Prop} (h : job.Ensures 0 post bed) :
    (∃ a bed', post a bed' ∧ ∀ fuel, bed.runThreads (fuel + 1) (alone (.running job)) =
      (alone (.finished a), bed'.onNetwork (Network.keepAll 0))) ∨
    ∃ job' bed', TransGen (Job.Step 0) (job, bed) (job', bed') ∧
      ∀ fuel, bed.runThreads (fuel + 1) (alone (.running job)) =
        bed'.runThreads fuel (alone (.running job')) := by
  obtain ⟨job₁, bed₁, moved, hpoll, hsteps, hmoves, hwaits⟩ := bed.poll_steps (t := 0) job
  cases job₁ with
  | done a =>
    exact Or.inl ⟨a, bed₁, h.post_of_reaches hsteps, fun fuel => runThreads_done fuel hpoll⟩
  | perform e next =>
    refine Or.inr ⟨.perform e next, ?_⟩
    rcases bed₁.stepAll_drifts with ⟨hserved, hdrifts⟩ | ⟨hquiet, hnone⟩
    · have hdrifted : TransGen (Job.Step 0) (.perform e next, bed₁)
          (.perform e next, { bed₁ with network := bed₁.network.stepAll.1 }) :=
        hdrifts.lift (fun bed => (Job.perform e next, bed)) fun _ _ h => .drifted h
      exact ⟨_, TransGen.trans_right hsteps hdrifted,
        fun fuel => runThreads_moved fuel hpoll (by rw [hserved, Bool.or_true])⟩
    · cases moved with
      | true =>
        refine ⟨bed₁, hmoves rfl, fun fuel => ?_⟩
        rw [runThreads_moved fuel hpoll (Bool.true_or _), hquiet]
      | false =>
        -- Nothing has been done, and the thread has taken in what there is: time is what is left.
        obtain ⟨now, hwake⟩ : ∃ now, bed₁.network.nextWake? = some now := by
          cases h.along hsteps with
          | perform lives _ =>
            obtain ⟨_, hstep⟩ := lives
            cases hstep with
            | answered hanswer =>
              rw [hwaits e next rfl] at hanswer
              cases hanswer
            | waited hanswer hnew =>
              rw [hwaits e next rfl] at hanswer
              cases hanswer
              exact absurd rfl hnew
            | drifted hdrift =>
              cases hdrift with
              | served hserved =>
                rw [hnone] at hserved
                cases hserved
              | slept hwake => exact ⟨_, hwake⟩
        exact ⟨_, TransGen.tail' hsteps (.drifted (.slept hwake)),
          fun fuel => runThreads_slept fuel hpoll hquiet hwake⟩

end Testbed

/-- A job that ensures something gets there in a rehearsal that has rounds enough. -/
theorem Job.Ensures.rehearsed {job : Job α} {post : α → Testbed → Prop}
    (h : job.Ensures 0 post bed) : ∃ fuel₀ a bed', post a bed' ∧ ∀ fuel ≥ fuel₀,
      bed.runThreads fuel (Testbed.alone (.running job)) =
        (Testbed.alone (.finished a), bed'.onNetwork (Network.keepAll 0)) := by
  obtain ⟨x, hx⟩ : ∃ x, x = (job, bed) := ⟨_, rfl⟩
  -- The induction is on the steps that are left, of which every round but the last takes some.
  have hends : Acc (TransGen fun y x => Job.Step 0 x y) x := hx ▸ h.terminates.transGen
  induction hends generalizing job bed with
  | intro x _ ih =>
    subst hx
    rcases Testbed.runThreads_round h with ⟨a, bed₁, hpost, hround⟩ | ⟨job₁, bed₁, hlater, hround⟩
    · refine ⟨1, a, bed₁, hpost, fun fuel hfuel => ?_⟩
      obtain ⟨fuel, rfl⟩ := Nat.exists_eq_add_of_le' hfuel
      exact hround fuel
    · obtain ⟨fuel₀, a, bed', hpost, hruns⟩ :=
        ih _ (transGen_swap.2 hlater) (h.along hlater.to_reflTransGen) rfl
      refine ⟨fuel₀ + 1, a, bed', hpost, fun fuel hfuel => ?_⟩
      obtain ⟨fuel, rfl⟩ := Nat.exists_eq_add_of_le' (Nat.le_of_add_left_le hfuel)
      rw [hround, hruns fuel (by omega)]

end ClusterProbe
