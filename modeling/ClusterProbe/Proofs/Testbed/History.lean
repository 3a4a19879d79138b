import ClusterProbe.Proofs.World.Rehearsal

/-!
# Histories of a testbed

Whatever befalls a testbed befalls it one happening after another: somebody registers a server, or
takes it away, a thread asks for something, a far end has its turn, time passes. `History.testbed`
is what a history leads to from a testbed in which nothing has happened. Everything else that is
said of a history here is read off its happenings alone, and knows nothing of registries and
counters. Rehearsals only add to a history (`Testbed.runThreads_history`).
-/
namespace ClusterProbe

open Relation

inductive Happening where
  | registered (e : Endpoint) (handler : Handler)
  | unregistered (e : Endpoint)
  | keepalivesSet (e : Endpoint) (count : Nat)
  /-- A thread asks for something, whether it gets it or has to wait. -/
  | asked (t : ThreadId) (effect : Effect)
  | finished (t : ThreadId)
  | cancelled (t : ThreadId)
  /-- The far end of a connection gets its turn. -/
  | served (c : ConnectionId)
  | slept (now : Nat)

namespace Testbed

def befall (bed : Testbed) : Happening → Testbed
  | .registered e handler => bed.onNetwork (Network.register e handler)
  | .unregistered e => bed.onNetwork (Network.unregister e)
  | .keepalivesSet e count => bed.onNetwork (Network.setKeepalives e count)
  | .asked t effect => (bed.answer t effect).2
  | .finished t => bed.onNetwork (Network.keepAll t)
  | .cancelled t => bed.cancel t
  | .served c => bed.onNetwork fun n => (n.step c).getD n
  | .slept now => bed.onNetwork fun n => { n with now }

end Testbed

/-- What has happened, latest first. -/
abbrev History := List Happening

/-- What a dial meets at an endpoint. -/
structure Offer where
  handler : Handler
  /-- The number of empty frames in front of each response. -/
  keepalives : Nat

/-- A dial that led to a connection. -/
structure Opening where
  endpoint : Endpoint
  offer : Offer

/-- The endpoint that is dialed. -/
def Happening.dialed? : Happening → Option Endpoint
  | .asked _ (.dial e) => some e
  | _ => none

namespace History

def testbed : History → Testbed
  | [] => {}
  | x :: h => (testbed h).befall x

/-- The endpoints of all dial attempts, latest first. -/
def attempts (h : History) : List Endpoint :=
  h.filterMap Happening.dialed?

/-- What an endpoint answers with: the latest handler since it became reachable, and the number of
empty frames last asked for since then. -/
def offer? (e : Endpoint) : History → Option Offer
  | [] => none
  | .registered e' handler :: h =>
    if e = e' then some ⟨handler, (offer? e h).elim 0 Offer.keepalives⟩ else offer? e h
  | .unregistered e' :: h => if e = e' then none else offer? e h
  | .keepalivesSet e' count :: h =>
    if e = e' then (offer? e h).map fun o => { o with keepalives := count } else offer? e h
  | _ :: h => offer? e h

/-- The dials that led to connections, in their order. -/
def openings : History → List Opening
  | [] => []
  | x :: h => openings h ++ (x.dialed?.bind fun e => (offer? e h).map (Opening.mk e)).toList

/-- How many connections, to whatever endpoint, had been opened when `e` was last unregistered. -/
def openedBefore (e : Endpoint) : History → Nat
  | [] => 0
  | .unregistered e' :: h => if e = e' then (openings h).length else openedBefore e h
  | _ :: h => openedBefore e h

end History

/-! ## Rehearsals -/

variable {α : Type} {t : ThreadId} {bed bed' : Testbed}

namespace Testbed

/-- Something makes the one testbed of the other. -/
def Befalls (bed bed' : Testbed) : Prop :=
  ∃ x, bed' = bed.befall x

theorem exists_history {h : History} (hbefalls : ReflTransGen Befalls h.testbed bed) :
    ∃ later : History, bed = History.testbed (later ++ h) := by
  induction hbefalls with
  | refl => exact ⟨[], rfl⟩
  | tail _ hx ih =>
    obtain ⟨x, rfl⟩ := hx
    obtain ⟨later, rfl⟩ := ih
    exact ⟨x :: later, rfl⟩

theorem Drifts.befalls (h : bed.Drifts bed') : bed.Befalls bed' := by
  cases h with
  | @served c network hstep =>
    exact ⟨.served c, by simp only [befall, onNetwork, hstep, Option.getD_some]⟩
  | slept => exact ⟨.slept _, rfl⟩

end Testbed

theorem Job.Step.befalls {x x' : Job α × Testbed} (h : Job.Step t x x') : x.2.Befalls x'.2 := by
  cases h with
  | @answered e _ _ _ _ hanswer => exact ⟨.asked t e, by simp only [Testbed.befall, hanswer]⟩
  | @waited e _ _ _ hanswer => exact ⟨.asked t e, by simp only [Testbed.befall, hanswer]⟩
  | drifted hdrift => exact hdrift.befalls

namespace Testbed

theorem poll_befalls (t : ThreadId) (job : Job α) (bed : Testbed) :
    ReflTransGen Befalls bed (bed.poll t job).2.1 := by
  obtain ⟨job', bed', moved, hpoll, hsteps, -⟩ := poll_steps (t := t) job bed
  rw [hpoll]
  exact hsteps.lift Prod.snd fun _ _ => Job.Step.befalls

theorem turn_befalls (t : ThreadId) (thread : Thread α) (bed : Testbed) :
    ReflTransGen Befalls bed (bed.turn t thread).2.1 := by
  unfold turn
  split
  · rename_i job _
    have hpoll := bed.poll_befalls t job
    split
    · rename_i hdone
      rw [hdone] at hpoll
      exact hpoll.tail ⟨.finished t, rfl⟩
    · rename_i hwaits
      rw [hwaits] at hpoll
      split
      · exact hpoll.tail ⟨.cancelled t, rfl⟩
      · exact hpoll
  · exact .refl

theorem turns_befalls (t : ThreadId) (threads : List (Thread α)) (bed : Testbed) :
    ReflTransGen Befalls bed (bed.turns t threads).2.1 := by
  induction threads generalizing t bed with
  | nil => exact .refl
  | cons thread threads ih => exact (bed.turn_befalls t thread).trans (ih (t + 1) _)

theorem stepAll_befalls (bed : Testbed) :
    ReflTransGen Befalls bed { bed with network := bed.network.stepAll.1 } := by
  rcases bed.stepAll_drifts with ⟨-, hdrifts⟩ | ⟨hsame, -⟩
  · exact hdrifts.to_reflTransGen.lift id fun _ _ => Drifts.befalls
  · rw [hsame]

theorem runThreads_befalls (fuel : Nat) (threads : List (Thread α)) (bed : Testbed) :
    ReflTransGen Befalls bed (bed.runThreads fuel threads).2 := by
  induction fuel generalizing threads bed with
  | zero => exact .refl
  | succ fuel ih =>
    have hturns := bed.turns_befalls 0 threads
    have hround := hturns.trans (bed.turns 0 threads).2.1.stepAll_befalls
    simp only [runThreads]
    split
    · exact hturns
    · split
      · exact hround.trans (ih _ _)
      · split
        · exact (hround.tail ⟨.slept _, rfl⟩).trans (ih _ _)
        · exact hround

/-- Running threads in a testbed adds to its history. -/
theorem runThreads_history (fuel : Nat) (threads : List (Thread α)) (h : History) :
    ∃ later : History, (h.testbed.runThreads fuel threads).2 = History.testbed (later ++ h) :=
  exists_history (runThreads_befalls fuel threads _)

end Testbed
end ClusterProbe
