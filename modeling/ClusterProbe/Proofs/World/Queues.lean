import ClusterProbe.Proofs.World.Shared

/-!
# Queues

Sessions and slots are things that one thread at a time may hold. A thread that joins a queue or
leaves it changes nothing about what is held, and takes nothing away from another thread.
-/
namespace ClusterProbe

namespace Shared

variable {α : Type} {t t' : ThreadId} {i j : Nat} {l l' : List (Shared α)} {shared : Shared α}

def valueAt (l : List (Shared α)) (i : Nat) : Option α := l[i]?.map value

/-- The thread that holds the thing with this number. -/
def holderAt (l : List (Shared α)) (i : Nat) : Option ThreadId := l[i]?.bind (·.queue.head?)

theorem lt_of_valueAt {a : α} (h : valueAt l i = some a) : i < l.length := by
  obtain ⟨shared, hshared, _⟩ := Option.map_eq_some_iff.1 h
  exact (List.getElem?_eq_some_iff.1 hshared).1

/-- What is in a place that may be empty. -/
theorem bind_value {β : Type} (l : List (Shared (Option β))) (i : Nat) :
    l[i]?.bind value = (valueAt l i).join := by
  rw [valueAt]
  cases l[i]? <;> rfl

theorem lt_of_holderAt (h : holderAt l i = some t) : i < l.length := by
  obtain ⟨shared, hshared, _⟩ := Option.bind_eq_some_iff.1 h
  exact (List.getElem?_eq_some_iff.1 hshared).1

/-- Nothing but the place of thread `t` in the queues is different. -/
structure Jostles (t : ThreadId) (l l' : List (Shared α)) : Prop where
  value : ∀ i, valueAt l' i = valueAt l i
  holder : ∀ i t', t' ≠ t → holderAt l i = some t' → holderAt l' i = some t'

theorem Jostles.refl (t : ThreadId) (l : List (Shared α)) : Jostles t l l :=
  ⟨fun _ => rfl, fun _ _ _ h => h⟩

theorem Jostles.of_eq (t : ThreadId) (h : l' = l) : Jostles t l l' := h ▸ .refl t l'

theorem Jostles.lt_length (h : Jostles t l l') (hi : i < l.length) : i < l'.length := by
  have hvalue : valueAt l i = some l[i].value := by
    rw [valueAt, List.getElem?_eq_getElem hi]
    rfl
  exact lt_of_valueAt ((h.value i).trans hvalue)

theorem head_join (t : ThreadId) (h : shared.queue.head? = some t') :
    (shared.join t).queue.head? = some t' := by
  unfold join
  split
  · exact h
  · rw [List.head?_append, h]
    rfl

theorem head_leave (h : shared.queue.head? = some t') (hne : t' ≠ t) :
    (shared.leave t).queue.head? = some t' := by
  obtain ⟨value, queue⟩ := shared
  cases queue with
  | nil => cases h
  | cons first queue =>
    cases h
    simp [leave, hne]

theorem value_join (t : ThreadId) (shared : Shared α) : (shared.join t).value = shared.value := by
  unfold join
  split <;> rfl

theorem holderAt_set_join (t : ThreadId) (h : l[i]? = some shared) (hj : holderAt l j = some t') :
    holderAt (l.set i (shared.join t)) j = some t' := by
  by_cases hij : i = j
  · subst hij
    rw [holderAt, h] at hj
    rw [holderAt, List.getElem?_set_self (List.getElem?_eq_some_iff.1 h).1]
    exact head_join t hj
  · rwa [holderAt, List.getElem?_set_ne hij]

theorem jostles_join (t : ThreadId) (h : l[i]? = some shared) :
    Jostles t l (l.set i (shared.join t)) := by
  refine ⟨fun j => ?_, fun j t' _ hj => holderAt_set_join t h hj⟩
  by_cases hij : i = j
  · subst hij
    rw [valueAt, valueAt, List.getElem?_set_self (List.getElem?_eq_some_iff.1 h).1, h]
    exact congrArg some (value_join t shared)
  · rw [valueAt, valueAt, List.getElem?_set_ne hij]

/-- A thread that keeps the lead of the queue it has joined holds the thing. -/
theorem holderAt_join (h : l[i]? = some shared) (hheld : (shared.join t).isHeldBy t = true) :
    holderAt (l.set i (shared.join t)) i = some t := by
  rw [holderAt, List.getElem?_set_self (List.getElem?_eq_some_iff.1 h).1]
  exact of_decide_eq_true hheld

theorem jostles_leave (t : ThreadId) (l : List (Shared α)) (i : Nat) :
    Jostles t l (l.modify i (leave t)) := by
  constructor
  · intro j
    rw [valueAt, valueAt, List.getElem?_modify]
    cases l[j]? with
    | none => rfl
    | some shared => by_cases hij : i = j <;> simp [hij, leave]
  · intro j t' hne hj
    obtain ⟨shared, hshared, hhead⟩ := Option.bind_eq_some_iff.1 hj
    rw [holderAt, List.getElem?_modify, hshared]
    by_cases hij : i = j
    · simpa [hij] using head_leave hhead hne
    · simpa [hij] using hhead

theorem holderAt_leave_ne (h : holderAt l j = some t') (hij : i ≠ j) :
    holderAt (l.modify i (leave t)) j = some t' := by
  rwa [holderAt, List.getElem?_modify_ne _ _ hij]

theorem jostles_leave_all (t : ThreadId) (l : List (Shared α)) :
    Jostles t l (l.map (leave t)) := by
  constructor
  · intro j
    rw [valueAt, valueAt, List.getElem?_map, Option.map_map]
    rfl
  · intro j t' hne hj
    obtain ⟨shared, hshared, hhead⟩ := Option.bind_eq_some_iff.1 hj
    rw [holderAt, List.getElem?_map, hshared]
    exact head_leave hhead hne

theorem holderAt_put (l : List (Shared α)) (i j : Nat) (a : α) :
    holderAt (l.modify i fun shared => { shared with value := a }) j = holderAt l j := by
  rw [holderAt, holderAt, List.getElem?_modify]
  cases l[j]? with
  | none => rfl
  | some shared => by_cases hij : i = j <;> simp [hij]

theorem valueAt_put_self (a : α) (h : i < l.length) :
    valueAt (l.modify i fun shared => { shared with value := a }) i = some a := by
  rw [valueAt, List.getElem?_modify_eq, List.getElem?_eq_getElem h]
  rfl

theorem valueAt_put_ne (a : α) (hij : i ≠ j) :
    valueAt (l.modify i fun shared => { shared with value := a }) j = valueAt l j := by
  rw [valueAt, valueAt, List.getElem?_modify_ne _ _ hij]

theorem valueAt_append (l' : List (Shared α)) (h : i < l.length) :
    valueAt (l ++ l') i = valueAt l i := by
  rw [valueAt, valueAt, List.getElem?_append_left h]

theorem holderAt_append (l' : List (Shared α)) (h : holderAt l i = some t) :
    holderAt (l ++ l') i = some t := by
  rwa [holderAt, List.getElem?_append_left (lt_of_holderAt h)]

end Shared

namespace Testbed

open Shared

variable {bed bed' : Testbed} {t : ThreadId} {s : SessionId} {e : Effect}

theorem answer_sessions (t : ThreadId) (bed : Testbed) (h : e.touchesSessions = false) :
    (bed.answer t e).2.sessions = bed.sessions := by
  by_cases hp : e.touchesPool = false
  · exact (answer_shares t bed h hp).sessions
  · cases e <;> first | exact absurd rfl hp | skip
    case slot uuid =>
      simp only [answer]
      split <;> rfl
    case evict uuid stale =>
      simp only [answer]
      split
      · split <;> rfl
      · rfl
    case enter i =>
      simp only [answer]
      split <;> rfl
    all_goals rfl

theorem answer_slots (t : ThreadId) (bed : Testbed) (h : e.touchesPool = false) :
    (bed.answer t e).2.slots = bed.slots ∧ (bed.answer t e).2.pool = bed.pool := by
  by_cases hs : e.touchesSessions = false
  · have hshares := answer_shares t bed hs h
    exact ⟨hshares.slots, hshares.pool⟩
  · cases e <;> first | exact absurd rfl hs | skip
    case acquire s =>
      simp only [answer]
      split <;> exact ⟨rfl, rfl⟩
    all_goals exact ⟨rfl, rfl⟩

/-- The pool and what is in its slots are the same. -/
structure PoolsAlike (bed bed' : Testbed) : Prop where
  pool : bed'.pool = bed.pool
  hosts : ∀ i, valueAt bed'.slots i = valueAt bed.slots i

theorem PoolsAlike.refl (bed : Testbed) : bed.PoolsAlike bed :=
  ⟨rfl, fun _ => rfl⟩

theorem PoolsAlike.trans {bed'' : Testbed} (h : bed.PoolsAlike bed') (h' : bed'.PoolsAlike bed'') :
    bed.PoolsAlike bed'' where
  pool := h'.pool.trans h.pool
  hosts i := (h'.hosts i).trans (h.hosts i)

theorem PoolsAlike.pooled (h : bed.PoolsAlike bed') : bed'.pooled = bed.pooled := by
  have hhost (i : SlotId) : bed'.slots[i]?.bind value = bed.slots[i]?.bind value := by
    rw [bind_value, bind_value, h.hosts]
  unfold Testbed.pooled
  rw [h.pool]
  exact congrArg (List.filterMap · bed.pool) (funext fun x => hhost x.2)

theorem Shares.poolsAlike (h : bed.Shares bed') : bed.PoolsAlike bed' :=
  ⟨h.pool, fun i => congrArg (valueAt · i) h.slots⟩

theorem poolsAlike_of_answer {o : Option e.Response} (he : e.touchesPool = false)
    (h : bed.answer t e = (o, bed')) : bed.PoolsAlike bed' := by
  obtain ⟨hslots, hpool⟩ := answer_slots t bed he
  rw [h] at hslots hpool
  exact ⟨hpool, fun i => congrArg (valueAt · i) hslots⟩

theorem poolsAlike_cancel (t : ThreadId) (bed : Testbed) : bed.PoolsAlike (bed.cancel t) :=
  ⟨rfl, (jostles_leave_all t bed.slots).value⟩

theorem answer_acquire {v : Session} (h : bed.answer t (.acquire s) = (some v, bed')) :
    valueAt bed.sessions s = some v ∧ holderAt bed'.sessions s = some t ∧
      Jostles t bed.sessions bed'.sessions ∧
      ∀ s' t', holderAt bed.sessions s' = some t' → holderAt bed'.sessions s' = some t' := by
  simp only [answer] at h
  cases hs : bed.sessions[s]? with
  | none =>
    rw [hs] at h
    cases h
  | some shared =>
    rw [hs] at h
    dsimp only at h
    split at h
    · rename_i hheld
      cases h
      refine ⟨?_, holderAt_join hs hheld, jostles_join t hs, fun _ _ => holderAt_set_join t hs⟩
      rw [valueAt, hs]
      exact congrArg some (value_join t shared).symm
    · cases h

theorem stall_jostles_sessions (h : bed.answer t e = (none, bed')) :
    Jostles t bed.sessions bed'.sessions ∧
      ∀ s t', holderAt bed.sessions s = some t' → holderAt bed'.sessions s = some t' := by
  by_cases hs : e.touchesSessions = false
  · have hsessions := answer_sessions t bed hs
    rw [h] at hsessions
    rw [hsessions]
    exact ⟨.refl t bed.sessions, fun _ _ => id⟩
  · cases e <;> first | exact absurd rfl hs | skip
    case acquire s =>
      simp only [answer] at h
      split at h
      · cases h
        exact ⟨.refl t _, fun _ _ => id⟩
      · rename_i shared hshared
        have hbed := congrArg Prod.snd h
        dsimp only at hbed
        rw [← hbed]
        exact ⟨jostles_join t hshared, fun _ _ => holderAt_set_join t hshared⟩
    all_goals cases h

/-- There is such a session, and it can carry no more calls. -/
def Closed (bed : Testbed) (s : SessionId) : Prop :=
  ∃ v, valueAt bed.sessions s = some v ∧ v.isClosed = true

theorem Closed.jostles (h : bed.Closed s) (hj : Jostles t bed.sessions bed'.sessions) :
    bed'.Closed s := by
  obtain ⟨v, hv, hclosed⟩ := h
  exact ⟨v, (hj.value s).trans hv, hclosed⟩

theorem Closed.of_eq (h : bed.Closed s) (hs : bed'.sessions = bed.sessions) : bed'.Closed s := by
  unfold Closed
  rw [hs]
  exact h

end Testbed

namespace World

variable {w w' : World} {t : ThreadId} {e : Effect}

theorem Answers.poolsAlike {r : e.Response} (h : w.Answers t e r w') (he : e.touchesPool = false) :
    w.bed.PoolsAlike w'.bed := by
  obtain ⟨bed, hanswer | hfails, rfl⟩ := h
  · exact Testbed.poolsAlike_of_answer he hanswer
  · exact (Testbed.fails_shares hfails).poolsAlike

theorem Stalls.poolsAlike (h : w.Stalls t e w') (he : e.touchesPool = false) :
    w.bed.PoolsAlike w'.bed := by
  obtain ⟨bed, hanswer, rfl⟩ := h
  exact Testbed.poolsAlike_of_answer he hanswer

end World
end ClusterProbe
