import ClusterProbe.Testbed

/-!
# Running jobs

Jobs that start together run as threads: each in turn goes on until it has to wait, then the
servers get their turn, and when nobody can go on, time moves to the next moment that somebody
waits for. A thread that still waits at its deadline is given up. Who asks first for something that
has to be shared gets it first.
-/
namespace ClusterProbe

variable {α : Type}

inductive Progress (α : Type) where
  | running (job : Job α)
  | finished (result : α)
  | cancelled

structure Thread (α : Type) where
  progress : Progress α
  deadline : Option Nat

namespace Thread

def isRunning (t : Thread α) : Bool :=
  match t.progress with
  | .running _ => true
  | _ => false

def result? (t : Thread α) : Option α :=
  match t.progress with
  | .finished a => some a
  | _ => none

end Thread

namespace Testbed

/-- Goes on with a job until it has to wait; whether it got anything on the way. -/
def poll (t : ThreadId) : Job α → Testbed → Job α × Testbed × Bool
  | .done a, bed => (.done a, bed, false)
  | .perform e next, bed =>
    match bed.answer t e with
    | (none, bed) => (.perform e next, bed, false)
    | (some r, bed) =>
      let (job, bed, _) := poll t (next r) bed
      (job, bed, true)

/-- The turn of one thread. What it has opened when it finishes stays open. -/
def turn (t : ThreadId) (thread : Thread α) (bed : Testbed) : Thread α × Testbed × Bool :=
  match thread.progress with
  | .running job =>
    match bed.poll t job with
    | (.done a, bed, _) =>
      ({ thread with progress := .finished a }, bed.onNetwork (Network.keepAll t), true)
    | (job, bed, moved) =>
      if thread.deadline.any (· ≤ bed.network.now) then
        ({ thread with progress := .cancelled }, bed.cancel t, true)
      else ({ thread with progress := .running job }, bed, moved)
  | _ => (thread, bed, false)

/-- Every thread gets its turn, in order; `t` is the number of the first one. -/
def turns : (t : ThreadId) → List (Thread α) → Testbed → List (Thread α) × Testbed × Bool
  | _, [], bed => ([], bed, false)
  | t, thread :: threads, bed =>
    let (thread, bed, moved) := bed.turn t thread
    let (threads, bed, moved') := turns (t + 1) threads bed
    (thread :: threads, bed, moved || moved')

/-- The next moment that a thread or a server waits for. -/
def nextMoment? (threads : List (Thread α)) (bed : Testbed) : Option Nat :=
  let deadlines := (threads.filter Thread.isRunning).filterMap Thread.deadline
  (deadlines ++ bed.network.nextWake?.toList).min?

/-- Runs threads until all are settled or nothing can ever move again. -/
def runThreads : (fuel : Nat) → List (Thread α) → Testbed → List (Thread α) × Testbed
  | 0, threads, bed => (threads, bed)
  | fuel + 1, threads, bed =>
    let (threads, bed, moved) := bed.turns 0 threads
    if !threads.any Thread.isRunning then (threads, bed)
    else
      let (network, served) := bed.network.stepAll
      let bed := { bed with network }
      if moved || served then runThreads fuel threads bed
      else match bed.nextMoment? threads with
        | some t => runThreads fuel threads (bed.onNetwork fun n => { n with now := t })
        | none => (threads, bed)

end Testbed

abbrev Rehearsal := StateM Testbed

namespace Rehearsal

/-- Runs jobs that start together, each with the number of milliseconds it may take. A job that
takes longer, or waits for ever, has no result. -/
def runAllWithin (jobs : List (Job α × Option Nat)) : Rehearsal (List (Option α)) := fun bed =>
  let thread := fun (job, limit) =>
    { progress := .running job, deadline := limit.map (bed.network.now + ·) : Thread α }
  let (threads, bed) := bed.runThreads Testbed.patience (jobs.map thread)
  (threads.map Thread.result?, bed)

def runWithin (limit : Option Nat) (job : Job α) : Rehearsal (Option α) := do
  return (← runAllWithin [(job, limit)]).head?.join

/-- Runs jobs that start together; there is no result unless all of them finish. -/
def runAll (jobs : List (Job α)) : OptionT Rehearsal (List α) :=
  OptionT.mk do
    return (← runAllWithin (jobs.map fun job => (job, none))).mapM id

def runOne (job : Job α) : OptionT Rehearsal α :=
  OptionT.mk (runWithin none job)

/-- Lets time pass in which only servers do something. -/
def idle (millis : Nat) : Rehearsal Unit :=
  modify fun bed => bed.onNetwork (Network.idle millis)

/-- The last holder of a host lets go of it: a connection that is still open goes with it. -/
def letGo (h : Host) : Rehearsal Unit :=
  modify fun bed =>
    let stream := bed.sessions[h.session]?.bind fun shared => shared.value.stream
    bed.onNetwork fun n => stream.elim n fun c => n.hangUp c

end Rehearsal
end ClusterProbe
