import ClusterProbe.Proofs.Cluster.Tenure

/-!
# The pool under many lookups

What the rules about slots come to when many threads look up servers at once (`Lookups`): a slot is
given out for one server only, an empty slot is the current one of its server, and a slot that is
not current any more holds a host whose session is exhausted. A slot is filled once, by the thread
that has the right to.
-/
namespace ClusterProbe

open Shared

variable {t t' : ThreadId} {s : SessionId} {e : Effect} {bed bed' : Testbed} {w w' : World}
  {u : Uuid} {i : SlotId} {host : Host}

namespace Event

/-- The slot that is given to thread `t`, and the server for which it is given. -/
def assigned (t : ThreadId) : Event → Option (Uuid × SlotId)
  | answered t' (.slot u) i => if t' = t then some (u, i) else none
  | answered t' (.evict u _) i => if t' = t then some (u, i) else none
  | _ => none

theorem Idle.assigned {ev : Event} (h : ev.Idle e) (t : ThreadId) : ev.assigned t = none := by
  cases ev <;> first | rfl | exact h.elim

end Event

namespace Chronicle

/-- The slots that thread `t` was given. -/
def assigned (t : ThreadId) (h : Chronicle) : List (Uuid × SlotId) := h.filterMap (Event.assigned t)

def Gives (h : Chronicle) (u : Uuid) (i : SlotId) : Prop := ∃ t, (u, i) ∈ h.assigned t

/-- A host was put into slot `i`. -/
def Fills (h : Chronicle) (i : SlotId) (host : Host) : Prop :=
  ∃ t, Event.answered t (.fill i host) () ∈ h

/-- Somebody was told that session `s` is defunct. -/
def FindsDefunct (h : Chronicle) (s : SessionId) : Prop :=
  ∃ t, Event.answered t (.isDefunct s) true ∈ h

end Chronicle

namespace World

theorem past_after_filterMap {β : Type} (f : Event → Option β)
    (hf : ∀ ev : Event, ev.Idle e → f ev = none) (w : World) (t : ThreadId) (r : e.Response)
    (bed : Testbed) :
    (w.after t e r bed).past.filterMap f =
      w.past.filterMap f ++ (f (.answered t e r)).toList := by
  have htaking : (w.taking e bed).filterMap f = [] :=
    List.filterMap_eq_nil_iff.2 fun ev hev => hf ev (taking_idle w e bed ev hev)
  have hgreeting : (greeting bed e r).filterMap f = [] :=
    List.filterMap_eq_nil_iff.2 fun ev hev => hf ev (greeting_idle bed e r ev hev)
  rw [after, List.filterMap_append, List.filterMap_append, htaking, List.nil_append,
    List.filterMap_cons]
  cases f (.answered t e r) with
  | none => rw [hgreeting]; rfl
  | some b => rw [hgreeting]; rfl

theorem past_after_assigned (w : World) (r : e.Response) (bed : Testbed) :
    (w.after t e r bed).past.assigned t' =
      w.past.assigned t' ++ (Event.assigned t' (.answered t e r)).toList :=
  past_after_filterMap _ (fun _ hev => hev.assigned t') w t r bed

theorem mem_past_after {e' : Effect} {r : e.Response} {r' : e'.Response} :
    Event.answered t' e' r' ∈ (w.after t e r bed).past ↔
      Event.answered t' e' r' ∈ w.past ∨ Event.answered t' e' r' = .answered t e r := by
  rw [after, List.mem_append, List.mem_append, List.mem_cons]
  constructor
  · rintro (h | h | h | h)
    · exact Or.inl h
    · exact (taking_idle w e bed _ h).elim
    · exact Or.inr h
    · exact (greeting_idle bed e r _ h).elim
  · rintro (h | h)
    · exact Or.inl h
    · exact Or.inr (Or.inr (Or.inl h))

end World

/-- The host is of no use any more, and somebody was told so. -/
def Standings.Retires (P : Standings) (w : World) (host : Host) : Prop :=
  P.Exhausts w.bed host.session ∧ w.past.FindsDefunct host.session

namespace Stage

/-- What a thread at this stage can be sure of. -/
def Holds (P : Standings) (t : ThreadId) (w : World) : Stage → Prop
  | outside | seeking _ => True
  | assigned u i => (w.past.assigned t).getLast? = some (u, i)
  | seen u i host => (w.past.assigned t).getLast? = some (u, i) ∧
      valueAt w.bed.slots i = some (some host)
  | spent u i host => (w.past.assigned t).getLast? = some (u, i) ∧
      valueAt w.bed.slots i = some (some host) ∧ P.Retires w host
  | entered u i => (w.past.assigned t).getLast? = some (u, i) ∧
      holderAt w.bed.slots i = some t
  | vacant u i => (w.past.assigned t).getLast? = some (u, i) ∧
      holderAt w.bed.slots i = some t ∧ valueAt w.bed.slots i = some none
  | filled u i host => (w.past.assigned t).getLast? = some (u, i) ∧
      holderAt w.bed.slots i = some t ∧ valueAt w.bed.slots i = some (some host)

variable {P P' : Standings} {stage : Stage}

theorem Holds.mono (h : stage.Holds P t w) (hassigned : w'.past.assigned t = w.past.assigned t)
    (hholder : ∀ i, holderAt w.bed.slots i = some t → holderAt w'.bed.slots i = some t)
    (hhost : ∀ i host, valueAt w.bed.slots i = some (some host) →
      valueAt w'.bed.slots i = some (some host))
    (hnone : ∀ i, holderAt w.bed.slots i = some t → valueAt w.bed.slots i = some none →
      valueAt w'.bed.slots i = some none)
    (hretires : ∀ host, P.Retires w host → P'.Retires w' host) : stage.Holds P' t w' := by
  have hlast := congrArg List.getLast? hassigned
  cases stage with
  | outside => trivial
  | seeking u => trivial
  | assigned u i => exact hlast.trans h
  | seen u i host =>
    obtain ⟨hgiven, hvalue⟩ := h
    exact ⟨hlast.trans hgiven, hhost i host hvalue⟩
  | spent u i host =>
    obtain ⟨hgiven, hvalue, hretired⟩ := h
    exact ⟨hlast.trans hgiven, hhost i host hvalue, hretires host hretired⟩
  | entered u i =>
    obtain ⟨hgiven, hheld⟩ := h
    exact ⟨hlast.trans hgiven, hholder i hheld⟩
  | vacant u i =>
    obtain ⟨hgiven, hheld, hvalue⟩ := h
    exact ⟨hlast.trans hgiven, hholder i hheld, hnone i hheld hvalue⟩
  | filled u i host =>
    obtain ⟨hgiven, hheld, hvalue⟩ := h
    exact ⟨hlast.trans hgiven, hholder i hheld, hhost i host hvalue⟩

theorem Holds.after_slotHost {j : SlotId} {r : Option Host} (h : stage.Holds P t w)
    (hr : w.bed.slots[j]?.bind value = r) : (stage.after (.slotHost j) r).Holds P t w := by
  cases stage with
  | assigned u i =>
    cases r with
    | none => exact h
    | some host =>
      obtain ⟨shared, hshared, hvalue⟩ := Option.bind_eq_some_iff.1 hr
      dsimp only [after]
      split
      · rename_i heq
        subst heq
        exact ⟨h, by rw [valueAt, hshared]; exact congrArg some hvalue⟩
      · exact h
  | entered u i =>
    obtain ⟨hlast, hheld⟩ := h
    obtain ⟨shared, hshared, _⟩ := Option.bind_eq_some_iff.1 hheld
    have hvalue : j = i → valueAt w.bed.slots i = some r := by
      rintro rfl
      rw [hshared] at hr
      rw [valueAt, hshared]
      exact congrArg some hr
    cases r <;> dsimp only [after] <;> split
    · exact ⟨hlast, hheld, hvalue ‹_›⟩
    · exact ⟨hlast, hheld⟩
    · exact ⟨hlast, hheld, hvalue ‹_›⟩
    · exact ⟨hlast, hheld⟩
  | _ => exact h

theorem Holds.after_isDefunct {r : Bool} (h : stage.Holds P t w)
    (hr : r = true → ∀ host : Host, host.session = s → P.Retires w host) :
    (stage.after (.isDefunct s) r).Holds P t w := by
  cases stage with
  | seen u i host =>
    cases r with
    | false => exact h
    | true =>
      dsimp only [after]
      split
      · rename_i heq
        exact ⟨h.1, h.2, hr rfl host heq.symm⟩
      · exact h
  | _ => exact h

end Stage

/-- What the pool and its slots are like while threads look up servers. -/
structure Lookups (P : Standings) (w : World) : Prop where
  stages : ∀ t, (P t).stage.Holds P t w
  current : ∀ u i, w.bed.pool.lookup u = some i → w.past.Gives u i
  exists_slot : ∀ u i, w.past.Gives u i → i < w.bed.slots.length
  owner : ∀ u u' i, w.past.Gives u i → w.past.Gives u' i → u = u'
  /-- An empty slot is the current one of its server. -/
  vacancy : ∀ u i, w.past.Gives u i → valueAt w.bed.slots i = some none →
    w.bed.pool.lookup u = some i
  /-- A host in a slot that is not current any more is of no use. -/
  displaced : ∀ u i host, w.past.Gives u i → valueAt w.bed.slots i = some (some host) →
    w.bed.pool.lookup u = some i ∨ P.Retires w host
  filled : ∀ i host, w.past.Fills i host → valueAt w.bed.slots i = some (some host)

/-- From `w` to `w'` no slot is given out or filled, and only thread `t` moves in the queues. -/
structure World.Level (t : ThreadId) (w w' : World) : Prop where
  pool : w'.bed.pool = w.bed.pool
  slots : Jostles t w.bed.slots w'.bed.slots
  assigned : ∀ t, w'.past.assigned t = w.past.assigned t
  fills : ∀ i host, w'.past.Fills i host → w.past.Fills i host
  finds : ∀ s, w.past.FindsDefunct s → w'.past.FindsDefunct s

namespace Effect

def isLevel : Effect → Bool
  | slot _ | evict _ _ | fill _ _ => false
  | _ => true

theorem isLevel_of_not_matters {e : Effect} (h : e.matters = false) : e.isLevel = true := by
  cases e <;> first | rfl | cases h

theorem Fails.not_matters {r : e.Response} (h : e.Fails bed r bed') : e.matters = false := by
  cases e <;> first | rfl | exact h.elim

end Effect

namespace World

theorem finds_after {r : e.Response} (h : w.past.FindsDefunct s) :
    (w.after t e r bed).past.FindsDefunct s := by
  obtain ⟨t', h⟩ := h
  exact ⟨t', mem_past_after.2 (Or.inl h)⟩

theorem fills_after {r : e.Response} (hne : ∀ host', e ≠ .fill i host')
    (h : (w.after t e r bed).past.Fills i host) : w.past.Fills i host := by
  obtain ⟨t', h⟩ := h
  rcases mem_past_after.1 h with h | h
  · exact ⟨t', h⟩
  · injection h with _ heffect
    exact absurd heffect.symm (hne host)

theorem level_after {r : e.Response} (he : e.isLevel = true) (hpool : bed'.pool = w.bed.pool)
    (hslots : Jostles t w.bed.slots bed'.slots) : w.Level t (w.after t e r bed') where
  pool := hpool
  slots := hslots
  assigned t' := by
    have hnone : Event.assigned t' (.answered t e r) = none := by
      cases e <;> first | rfl | cases he
    rw [past_after_assigned, hnone, Option.toList_none, List.append_nil]
  fills i host h := by
    refine fills_after ?_ h
    rintro host' rfl
    cases he
  finds _ h := finds_after h

theorem level_of_idle {g : Chronicle} (hpast : w'.past = w.past ++ g)
    (hg : ∀ ev ∈ g, ev.Idle e) (hpool : w'.bed.pool = w.bed.pool)
    (hslots : Jostles t w.bed.slots w'.bed.slots) : w.Level t w' where
  pool := hpool
  slots := hslots
  assigned t' := by
    have hnone : g.filterMap (Event.assigned t') = [] :=
      List.filterMap_eq_nil_iff.2 fun ev hev => (hg ev hev).assigned t'
    rw [hpast, Chronicle.assigned, List.filterMap_append, hnone, List.append_nil]
    rfl
  fills i host h := by
    obtain ⟨t', h⟩ := h
    rw [hpast] at h
    rcases List.mem_append.1 h with h | h
    · exact ⟨t', h⟩
    · exact (hg _ h).elim
  finds s h := by
    obtain ⟨t', h⟩ := h
    rw [hpast]
    exact ⟨t', List.mem_append_left g h⟩

end World

/-- A level step tells a thread nothing new, as long as it keeps what it holds. -/
theorem Stage.Holds.level {P P' : Standings} {stage : Stage} (h : stage.Holds P t w)
    (hl : w.Level t' w')
    (hholder : ∀ i, holderAt w.bed.slots i = some t → holderAt w'.bed.slots i = some t)
    (hretires : ∀ host, P.Retires w host → P'.Retires w' host) : stage.Holds P' t w' := by
  refine h.mono (hl.assigned t) hholder ?_ ?_ hretires
  · exact fun i host hvalue => (hl.slots.value i).trans hvalue
  · exact fun i _ hvalue => (hl.slots.value i).trans hvalue

namespace Lookups

variable {P P' : Standings}

/-- A level step only has to keep what the thread that takes it can be sure of. -/
theorem level (h : Lookups P w) (hl : w.Level t w')
    (hretires : ∀ host, P.Retires w host → P'.Retires w' host)
    (hother : ∀ t', t' ≠ t → (P' t').stage = (P t').stage)
    (hself : (P' t).stage.Holds P' t w') : Lookups P' w' := by
  have hgives (u : Uuid) (i : SlotId) : w'.past.Gives u i ↔ w.past.Gives u i :=
    exists_congr fun t' => by rw [hl.assigned]
  constructor
  case stages =>
    intro t'
    by_cases heq : t' = t
    · exact heq ▸ hself
    · rw [hother t' heq]
      exact (h.stages t').level hl (fun i => hl.slots.holder i t' heq) hretires
  case current =>
    intro u i hi
    rw [hl.pool] at hi
    exact (hgives u i).2 (h.current u i hi)
  case exists_slot =>
    intro u i hi
    exact hl.slots.lt_length (h.exists_slot u i ((hgives u i).1 hi))
  case owner =>
    intro u u' i hi hi'
    exact h.owner u u' i ((hgives u i).1 hi) ((hgives u' i).1 hi')
  case vacancy =>
    intro u i hi hvalue
    rw [hl.slots.value] at hvalue
    rw [hl.pool]
    exact h.vacancy u i ((hgives u i).1 hi) hvalue
  case displaced =>
    intro u i host hi hvalue
    rw [hl.slots.value] at hvalue
    rw [hl.pool]
    exact (h.displaced u i host ((hgives u i).1 hi) hvalue).imp id (hretires host)
  case filled =>
    intro i host hfill
    rw [hl.slots.value]
    exact h.filled i host (hl.fills i host hfill)

end Lookups
end ClusterProbe
