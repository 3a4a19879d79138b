import ClusterProbe.Proofs.World.Crew
import ClusterProbe.Proofs.World.Rehearsal
import ClusterProbe.Proofs.World.Serving

/-!
# Rehearsing several threads

Whatever the servers of a testbed do is a move of a far end, so a rehearsal is one of the ways that
things can go in a world: a single thread that comes to its end in it has run to that end
(`Testbed.runs_of_runThreads`), and several threads have come to what a crew can come to
(`Testbed.reaches_of_runThreads`).
-/
namespace ClusterProbe

open Relation Trade

variable {α : Type} {t : ThreadId} {c : ConnectionId} {bed bed' : Testbed} {past : Chronicle}

/-! ## Far ends -/

theorem Pipe.write_adds {p p' : Pipe} {bytes : Bytes} {result : Except IoError Nat}
    (h : p.write bytes = some (result, p')) :
    p'.closed = p.closed ∧
      ∃ sent, p'.buffer = p.buffer ++ sent ∧ (p.closed = true → sent = []) := by
  unfold write at h
  split at h
  · cases h
    exact ⟨rfl, [], (List.append_nil _).symm, fun _ => rfl⟩
  · rename_i hopen
    split at h
    · cases h
    · cases h
      exact ⟨rfl, _, rfl, fun hclosed => absurd hclosed hopen⟩

/-- What a step of a server puts into the pipe to its client. -/
theorem ServerState.step_sends {keepalives now : Nat} {l l' : Line}
    (h : step keepalives now l = some l') :
    ∃ sent, l'.toClient.buffer = l.toClient.buffer ++ sent ∧
      (l.toClient.closed = true → sent = []) := by
  have hsilent (heq : l'.toClient = l.toClient) : ∃ sent,
      l'.toClient.buffer = l.toClient.buffer ++ sent ∧ (l.toClient.closed = true → sent = []) :=
    ⟨[], by rw [heq, List.append_nil], fun _ => rfl⟩
  obtain ⟨state, toServer, toClient, events⟩ := l
  cases state with
  | greeting got =>
    obtain ⟨-, -, -, hclient, -⟩ := greet_cases h
    exact hsilent hclient
  | reading reader =>
    obtain ⟨-, -, -, -, hclient, -⟩ := readRequest_cases h
    exact hsilent hclient
  | called | ended => cases h
  | answering callId r due =>
    simp only [step] at h
    split at h
    · cases h
    · cases h
      exact hsilent rfl
  | sending rest =>
    cases rest with
    | nil =>
      cases h
      exact hsilent rfl
    | cons b rest =>
      simp only [step, bind, Option.bind_eq_some_iff] at h
      obtain ⟨⟨result, pipe⟩, hwrite, h⟩ := h
      obtain ⟨-, hsent⟩ := Pipe.write_adds hwrite
      cases result with
      | ok n =>
        cases h
        exact hsent
      | error e =>
        cases h
        exact hsilent rfl

namespace Connection

variable {k k' : Connection} {sent : Bytes}

theorem Moves.closePipes (h : k.Moves sent k') : k.Moves sent k'.closePipes where
  unread := h.unread
  silent hclosed := ⟨(h.silent hclosed).1, rfl⟩
  refuses _ := rfl
  reader := h.reader
  owner := h.owner
  endpoint := h.endpoint

theorem served_moves {i keepalives now : Nat} {state : ServerState} {l : ServerState.Line}
    (h : ServerState.step keepalives now (k.line state) = some l) :
    ∃ sent, k.Moves sent (k.served i keepalives l) := by
  obtain ⟨⟨hserver, -⟩, hclient, -⟩ := ServerState.step_pipes h
  obtain ⟨sent, hbuffer, hsilent⟩ := ServerState.step_sends h
  have hmoves : k.Moves sent { k with
      toServer := l.toServer
      toClient := l.toClient
      farEnd := .server i keepalives l.state } :=
    { unread := hbuffer
      silent := fun hclosed => ⟨hsilent hclosed, hclient.trans hclosed⟩
      refuses := fun hclosed => hserver.trans hclosed
      reader := rfl
      owner := rfl
      endpoint := rfl }
  refine ⟨sent, ?_⟩
  unfold served
  split
  · exact hmoves
  · exact hmoves.closePipes

theorem scriptStep_moves {unsent received : Bytes} {thenEnds : Bool}
    (h : k.scriptStep unsent thenEnds received = some k') : ∃ sent, k.Moves sent k' := by
  have hidle (farEnd : FarEnd) : k.Moves [] { k with farEnd } :=
    ⟨(List.append_nil _).symm, fun hclosed => ⟨rfl, hclosed⟩, id, rfl, rfl, rfl⟩
  simp only [scriptStep] at h
  split at h
  · cases h
    exact ⟨[], (List.append_nil _).symm, fun hclosed => ⟨rfl, hclosed⟩, id, rfl, rfl, rfl⟩
  · split at h
    · split at h
      · cases h
        exact ⟨[], (List.append_nil _).symm, fun _ => ⟨rfl, rfl⟩, id, rfl, rfl, rfl⟩
      · cases h
    · split at h
      · cases h
      · cases h
        exact ⟨[], hidle _⟩
      · rename_i n toClient hwrite
        cases h
        obtain ⟨hclosed, sent, hbuffer, hsilent⟩ := Pipe.write_adds hwrite
        exact ⟨sent, hbuffer, fun h => ⟨hsilent h, hclosed.trans h⟩, id, rfl, rfl, rfl⟩

end Connection

/-- A step of a far end is a move of its connection. -/
theorem Network.step_moves {n n' : Network} (h : n.step c = some n') :
    ∃ k k' sent, n.connections[c]? = some k ∧ k.Moves sent k' ∧
      n'.connections = n.connections.set c k' ∧ n'.dialed = n.dialed := by
  have hturn := h
  simp only [step, bind, Option.bind_eq_some_iff] at h
  obtain ⟨k, hk, h⟩ := h
  cases hfar : k.farEnd with
  | gone sent =>
    rw [hfar] at h
    cases h
  | script unsent thenEnds received =>
    rw [hfar] at h
    obtain ⟨k', hstep, h⟩ := Option.bind_eq_some_iff.1 h
    cases h
    obtain ⟨sent, hmoves⟩ := Connection.scriptStep_moves hstep
    exact ⟨k, k', sent, hk, hmoves, rfl, rfl⟩
  | server i keepalives state =>
    rcases step_server hk hfar hturn with ⟨request, -, rfl⟩ | ⟨l, events, hl, rfl⟩
    · refine ⟨k, _, [], hk, ?_, rfl, rfl⟩
      exact ⟨(List.append_nil _).symm, fun hclosed => ⟨rfl, hclosed⟩, id, rfl, rfl, rfl⟩
    · obtain ⟨sent, hmoves⟩ := Connection.served_moves (i := i) hl
      exact ⟨k, _, sent, hk, hmoves, rfl, rfl⟩

namespace World

variable {w w' w₁ : World} {e : Effect}

theorem moves_of_drifts (h : w.bed.Drifts bed') : ∃ past, w.Moves ⟨bed', past⟩ := by
  cases h with
  | served hstep =>
    obtain ⟨k, k', sent, hk, hmoves, hconnections, hdialed⟩ := Network.step_moves hstep
    exact ⟨_, .farEnd _ hk hmoves hconnections hdialed⟩
  | slept => exact ⟨_, .elsewhere _ rfl rfl⟩

/-- While a testbed drifts its far ends move. -/
theorem exists_moves_of_drifts (h : ReflTransGen Testbed.Drifts w.bed bed') :
    ∃ past, ReflTransGen Moves w ⟨bed', past⟩ := by
  induction h with
  | refl => exact ⟨w.past, .refl⟩
  | tail _ hdrift ih =>
    obtain ⟨past, hmoves⟩ := ih
    obtain ⟨past', hmove⟩ := moves_of_drifts (w := ⟨_, past⟩) hdrift
    exact ⟨past', hmoves.tail hmove⟩

theorem Waits.trans (h : Waits t e w w₁) (h' : Waits t e w₁ w') : Waits t e w w' := by
  induction h' with
  | refl => exact h
  | moves _ hm ih => exact .moves ih hm
  | stalls _ hs ih => exact .stalls ih hs

theorem waits_of_moves (h : ReflTransGen Moves w w') : Waits t e w w' := by
  induction h with
  | refl => exact .refl
  | tail _ hm ih => exact .moves ih hm

/-- A run may begin with a wait. -/
theorem Waits.runs {next : e.Response → Job α} {a : α} (h : Waits t e w w₁)
    (hrun : (Job.perform e next).Runs t w₁ (some a) w') :
    (Job.perform e next).Runs t w (some a) w' := by
  rcases hrun with ⟨r, w₂, ⟨w₀, hwait, hanswer⟩, hnext⟩ | ⟨hnone, -⟩
  · exact .inl ⟨r, w₂, ⟨w₀, h.trans hwait, hanswer⟩, hnext⟩
  · cases hnone

end World

namespace Testbed

/-- What all far ends do in their turns. -/
theorem stepAll_reflDrifts (bed : Testbed) :
    ReflTransGen Drifts bed { bed with network := bed.network.stepAll.1 } := by
  rcases bed.stepAll_drifts with ⟨-, hdrifts⟩ | ⟨hquiet, -⟩
  · exact hdrifts.to_reflTransGen
  · rw [hquiet]

/-! ## One thread -/

/-- What is left of a job after a turn, and the world where it goes on. -/
theorem runs_of_poll {job job' : Job α} {moved : Bool}
    (h : bed.poll t job = (job', bed', moved)) (past : Chronicle) :
    ∃ past', ∀ a w', job'.Runs t ⟨bed', past'⟩ (some a) w' →
      job.Runs t ⟨bed, past⟩ (some a) w' := by
  induction job generalizing bed past moved with
  | done a =>
    cases h
    exact ⟨past, fun _ _ => id⟩
  | perform e next ih =>
    cases hanswer : bed.answer t e with
    | mk r bed₁ =>
      simp only [poll, hanswer] at h
      cases r with
      | none =>
        cases h
        have hwaits : World.Waits t e ⟨bed, past⟩ ⟨bed', _⟩ :=
          .stalls .refl ⟨bed', hanswer, rfl⟩
        exact ⟨_, fun a w' hrun => hwaits.runs hrun⟩
      | some r =>
        obtain ⟨hjob, hrest⟩ := Prod.mk.inj h
        obtain ⟨hbed, -⟩ := Prod.mk.inj hrest
        let w₁ := World.after ⟨bed, past⟩ t e r bed₁
        obtain ⟨past', hruns⟩ := ih r (Prod.ext hjob (Prod.ext hbed rfl)) w₁.past
        refine ⟨past', fun a w' hrun => .inl ⟨r, w₁, ⟨_, .refl, ?_⟩, hruns a w' hrun⟩⟩
        exact ⟨bed₁, .inl hanswer, rfl⟩

/-- A thread that comes to its end in a rehearsal has run to that end. -/
theorem runs_of_runThreads {fuel : Nat} {job : Job α} {threads : List (Thread α)} {a : α}
    (h : bed.runThreads fuel (alone (.running job)) = (threads, bed'))
    (hresult : (threads.map Thread.result?).head?.join = some a) (past : Chronicle) :
    ∃ w', job.Runs 0 ⟨bed, past⟩ (some a) w' ∧
      bed' = w'.bed.onNetwork (Network.keepAll 0) := by
  induction fuel generalizing bed job past with
  | zero =>
    cases h
    cases hresult
  | succ fuel ih =>
    cases hpoll : bed.poll 0 job with
    | mk job₁ rest =>
      obtain ⟨bed₁, moved⟩ := rest
      obtain ⟨past₁, hruns⟩ := runs_of_poll hpoll past
      cases job₁ with
      | done b =>
        rw [runThreads_done fuel hpoll] at h
        cases h
        cases hresult
        exact ⟨⟨bed₁, past₁⟩, hruns _ _ ⟨rfl, rfl⟩, rfl⟩
      | perform e next =>
        -- the thread waits, and what the far ends do meanwhile belongs to the wait
        have hwaited {bed₂ : Testbed} (hdrifts : ReflTransGen Drifts bed₁ bed₂)
            (hround : bed₂.runThreads fuel (alone (.running (.perform e next))) =
              (threads, bed')) : ∃ w', job.Runs 0 ⟨bed, past⟩ (some a) w' ∧
                bed' = w'.bed.onNetwork (Network.keepAll 0) := by
          obtain ⟨past₂, hmoves⟩ := World.exists_moves_of_drifts (w := ⟨bed₁, past₁⟩) hdrifts
          obtain ⟨w', hrun, hbed⟩ := ih hround past₂
          exact ⟨w', hruns _ _ ((World.waits_of_moves hmoves).runs hrun), hbed⟩
        cases hmoved : moved || bed₁.network.stepAll.2 with
        | true =>
          rw [runThreads_moved fuel hpoll hmoved] at h
          exact hwaited bed₁.stepAll_reflDrifts h
        | false =>
          obtain ⟨rfl, hserved⟩ := Bool.or_eq_false_iff.1 hmoved
          have hquiet : bed₁.network.stepAll = (bed₁.network, false) := by
            rcases bed₁.stepAll_drifts with ⟨htrue, -⟩ | ⟨hquiet, -⟩
            · rw [hserved] at htrue
              cases htrue
            · exact hquiet
          cases hwake : bed₁.network.nextWake? with
          | some now =>
            rw [runThreads_slept fuel hpoll hquiet hwake] at h
            exact hwaited (.single (.slept hwake)) h
          | none =>
            simp only [runThreads, turns_alone hpoll, isRunning_alone, hquiet, nextMoment_alone,
              hwake] at h
            cases h
            cases hresult

end Testbed

/-! ## Several threads -/

namespace Trade

theorem Crew.reaches_of_moves {T : Trade} {workers : List T.Worker} {w w' : World}
    (h : ReflTransGen World.Moves w w') : Crew.Reaches ⟨w, workers⟩ ⟨w', workers⟩ := by
  induction h with
  | refl => exact .refl
  | tail _ hm ih => exact ih.tail (.moves hm)

/-- Threads that each do one of these jobs. -/
abbrev among (jobs : List (Job α)) : Trade where
  Task := { job // job ∈ jobs }
  Result _ := α
  job a := a.1

variable {jobs : List (Job α)}

/-- The workers that do these tasks and have come as far as these threads. -/
def staff (tasks : List (among jobs).Task) (threads : List (Thread α)) :
    List (among jobs).Worker :=
  List.zipWith (fun a thread => ⟨a, thread.progress⟩) tasks threads

end Trade

namespace Testbed

variable {T : Trade} {workers : List T.Worker} {task : T.Task}

theorem reaches_of_poll {job job' : Job (T.Result task)} {moved : Bool}
    (h : bed.poll t job = (job', bed', moved))
    (running : workers[t]? = some ⟨task, .running job⟩) (past : Chronicle) :
    ∃ past', Crew.Reaches ⟨⟨bed, past⟩, workers⟩
      ⟨⟨bed', past'⟩, workers.set t ⟨task, .running job'⟩⟩ := by
  obtain ⟨hlt, hget⟩ := List.getElem?_eq_some_iff.1 running
  induction job generalizing bed past moved workers with
  | done a =>
    cases h
    rw [← hget, List.set_getElem_self]
    exact ⟨past, .refl⟩
  | perform e next ih =>
    cases hanswer : bed.answer t e with
    | mk r bed₁ =>
      simp only [poll, hanswer] at h
      cases r with
      | none =>
        cases h
        rw [← hget, List.set_getElem_self]
        exact ⟨_, .single (.stalled running ⟨bed', hanswer, rfl⟩)⟩
      | some r =>
        obtain ⟨hjob, hrest⟩ := Prod.mk.inj h
        obtain ⟨hbed, -⟩ := Prod.mk.inj hrest
        let w₁ := World.after ⟨bed, past⟩ t e r bed₁
        have hset : (workers.set t ⟨task, .running (next r)⟩)[t]? =
            some ⟨task, .running (next r)⟩ := List.getElem?_set_self hlt
        have hlt' : t < (workers.set t ⟨task, .running (next r)⟩).length := by
          rwa [List.length_set]
        obtain ⟨past', hreach⟩ := ih r (Prod.ext hjob (Prod.ext hbed rfl)) hset w₁.past hlt'
          (List.getElem?_eq_some_iff.1 hset).2
        rw [List.set_set] at hreach
        have hanswers : World.Answers ⟨bed, past⟩ t e r w₁ := ⟨bed₁, .inl hanswer, rfl⟩
        exact ⟨past', hreach.head (.answered running hanswers)⟩

variable {jobs : List (Job α)} {a : (among jobs).Task} {staffed : List (among jobs).Worker}
  {thread thread' : Thread α} {threads threads' : List (Thread α)} {moved : Bool}

theorem reaches_of_turn (h : bed.turn t thread = (thread', bed', moved))
    (hdeadline : thread.deadline = none) (hworker : staffed[t]? = some ⟨a, thread.progress⟩)
    (past : Chronicle) : thread'.deadline = none ∧ ∃ past',
      Crew.Reaches ⟨⟨bed, past⟩, staffed⟩
        ⟨⟨bed', past'⟩, staffed.set t ⟨a, thread'.progress⟩⟩ := by
  obtain ⟨progress, deadline⟩ := thread
  obtain rfl : deadline = none := hdeadline
  obtain ⟨hlt, hget⟩ := List.getElem?_eq_some_iff.1 hworker
  cases progress with
  | running job =>
    cases hpoll : bed.poll t job with
    | mk job₁ rest =>
      obtain ⟨bed₁, moved₁⟩ := rest
      obtain ⟨past₁, hreach⟩ := reaches_of_poll (T := among jobs) hpoll hworker past
      simp only [turn, hpoll] at h
      cases job₁ with
      | done b =>
        cases h
        have hdone : (staffed.set t ⟨a, .running (.done b)⟩)[t]? =
            some ⟨a, .running (.done b)⟩ := List.getElem?_set_self hlt
        have hfinish := Crew.Step.finished
          (σ := (⟨⟨bed₁, past₁⟩, staffed.set t ⟨a, .running (.done b)⟩⟩ : (among jobs).Crew)) hdone
        rw [List.set_set] at hfinish
        exact ⟨rfl, past₁, hreach.tail hfinish⟩
      | perform e next =>
        cases h
        exact ⟨rfl, past₁, hreach⟩
  | finished | cancelled =>
    cases h
    rw [← hget, List.set_getElem_self]
    exact ⟨rfl, past, .refl⟩

theorem reaches_of_turns (before : List (among jobs).Worker) (tasks : List (among jobs).Task)
    (h : bed.turns before.length threads = (threads', bed', moved))
    (hlength : threads.length = tasks.length) (hdeadlines : ∀ x ∈ threads, x.deadline = none)
    (past : Chronicle) :
    threads'.length = tasks.length ∧ (∀ x ∈ threads', x.deadline = none) ∧ ∃ past',
      Crew.Reaches ⟨⟨bed, past⟩, before ++ staff tasks threads⟩
        ⟨⟨bed', past'⟩, before ++ staff tasks threads'⟩ := by
  induction threads generalizing before tasks bed past threads' moved with
  | nil =>
    cases h
    exact ⟨hlength, hdeadlines, past, .refl⟩
  | cons thread threads ih =>
    cases tasks with
    | nil => cases hlength
    | cons a tasks =>
      obtain ⟨hdeadline, hdeadlines⟩ := List.forall_mem_cons.1 hdeadlines
      cases hturn : bed.turn before.length thread with
      | mk thread₁ rest =>
        obtain ⟨bed₁, moved₁⟩ := rest
        have hworker : (before ++ staff (a :: tasks) (thread :: threads))[before.length]? =
            some ⟨a, thread.progress⟩ := by
          rw [List.getElem?_append_right (Nat.le_refl _), Nat.sub_self]
          rfl
        obtain ⟨hfree, past₁, hreach⟩ := reaches_of_turn hturn hdeadline hworker past
        cases hturns : bed₁.turns (before.length + 1) threads with
        | mk threads₁ rest =>
          obtain ⟨bed₂, moved₂⟩ := rest
          simp only [turns, hturn, hturns] at h
          cases h
          let worker : (among jobs).Worker := ⟨a, thread₁.progress⟩
          have hbefore : (before ++ [worker]).length = before.length + 1 :=
            List.length_append.trans rfl
          rw [← hbefore] at hturns
          obtain ⟨hlength', hfree', past₂, hreach'⟩ :=
            ih _ tasks hturns (Nat.succ.inj hlength) hdeadlines past₁
          refine ⟨congrArg Nat.succ hlength', List.forall_mem_cons.2 ⟨hfree, hfree'⟩, past₂, ?_⟩
          rw [List.set_append_right _ _ (Nat.le_refl _), Nat.sub_self] at hreach
          rw [List.append_assoc, List.append_assoc] at hreach'
          exact hreach.trans hreach'

/-- What a rehearsal of several threads without deadlines brings them to, a crew can come to. -/
theorem reaches_of_runThreads {fuel : Nat} (tasks : List (among jobs).Task)
    (h : bed.runThreads fuel threads = (threads', bed'))
    (hlength : threads.length = tasks.length) (hdeadlines : ∀ x ∈ threads, x.deadline = none)
    (past : Chronicle) :
    threads'.length = tasks.length ∧ ∃ past',
      Crew.Reaches ⟨⟨bed, past⟩, staff tasks threads⟩ ⟨⟨bed', past'⟩, staff tasks threads'⟩ := by
  induction fuel generalizing bed threads past with
  | zero =>
    cases h
    exact ⟨hlength, past, .refl⟩
  | succ fuel ih =>
    cases hturns : bed.turns 0 threads with
    | mk threads₁ rest =>
      obtain ⟨bed₁, moved⟩ := rest
      obtain ⟨hlength₁, hdeadlines₁, past₁, hreach⟩ :=
        reaches_of_turns [] tasks hturns hlength hdeadlines past
      -- between two rounds only far ends move
      have hround {bed₂ : Testbed} {past₂ : Chronicle}
          (hmoves : ReflTransGen World.Moves ⟨bed₁, past₁⟩ ⟨bed₂, past₂⟩)
          (hrest : bed₂.runThreads fuel threads₁ = (threads', bed')) :
          threads'.length = tasks.length ∧ ∃ past', Crew.Reaches
            ⟨⟨bed, past⟩, staff tasks threads⟩ ⟨⟨bed', past'⟩, staff tasks threads'⟩ := by
        obtain ⟨hlength', past', hlast⟩ := ih hrest hlength₁ hdeadlines₁ past₂
        exact ⟨hlength', past', (hreach.trans (Crew.reaches_of_moves hmoves)).trans hlast⟩
      obtain ⟨past₂, hmoves⟩ :=
        World.exists_moves_of_drifts (w := ⟨bed₁, past₁⟩) bed₁.stepAll_reflDrifts
      simp only [runThreads, hturns] at h
      split at h
      · cases h
        exact ⟨hlength₁, past₁, hreach⟩
      · split at h
        · exact hround hmoves h
        · split at h
          · rename_i now hmoment
            have hlater := World.Moves.elsewhere
              (w := ⟨{ bed₁ with network := bed₁.network.stepAll.1 }, past₂⟩)
              { bed₁.network.stepAll.1 with now } rfl rfl
            exact hround (hmoves.tail hlater) h
          · cases h
            exact ⟨hlength₁, past₂, hreach.trans (Crew.reaches_of_moves hmoves)⟩

end Testbed
end ClusterProbe
