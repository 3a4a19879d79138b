import ClusterProbe.Proofs.Cluster.Pool

/-!
# Slots given out and filled

Each answer that a thread gets by the rules keeps the pool in order. Most answers are level: they
give out no slot and fill none. A slot is filled by the one thread that has the right to, while it
is empty and current, and a new slot takes the place of none, or of one whose host is of no use.
-/
namespace ClusterProbe

open Shared

variable {t t' : ThreadId} {e : Effect} {bed bed' : Testbed} {w w' : World} {u : Uuid} {i : SlotId}
  {host : Host}

/-- From `w` to `w'` thread `t` is given slot `i` for server `u`. -/
structure World.Assigns (t : ThreadId) (u : Uuid) (i : SlotId) (w w' : World) : Prop where
  assigned : ∀ t', w'.past.assigned t' = w.past.assigned t' ++ if t' = t then [(u, i)] else []
  fills : ∀ i host, w'.past.Fills i host → w.past.Fills i host

namespace World.Assigns

theorem last (h : w.Assigns t u i w') : (w'.past.assigned t).getLast? = some (u, i) := by
  rw [h.assigned, if_pos rfl]
  exact List.getLast?_concat

theorem assigned_ne (h : w.Assigns t u i w') (hne : t' ≠ t) :
    w'.past.assigned t' = w.past.assigned t' := by
  rw [h.assigned, if_neg hne, List.append_nil]

theorem gives (h : w.Assigns t u i w') (u' : Uuid) (j : SlotId) :
    w'.past.Gives u' j ↔ w.past.Gives u' j ∨ (u' = u ∧ j = i) := by
  constructor
  · rintro ⟨t', hj⟩
    rw [h.assigned] at hj
    rcases List.mem_append.1 hj with hj | hj
    · exact Or.inl ⟨t', hj⟩
    · split at hj
      · exact Or.inr (Prod.mk.inj (List.mem_singleton.1 hj))
      · cases hj
  · rintro (⟨t', hj⟩ | ⟨rfl, rfl⟩)
    · refine ⟨t', ?_⟩
      rw [h.assigned]
      exact List.mem_append_left _ hj
    · exact ⟨t, List.mem_of_getLast? h.last⟩

end World.Assigns

namespace World

theorem assigns_after {r : e.Response} (hassigned : ∀ t', Event.assigned t' (.answered t e r) =
      if t = t' then some (u, i) else none) (hfill : ∀ j host, e ≠ .fill j host) :
    w.Assigns t u i (w.after t e r bed) where
  assigned t' := by
    rw [past_after_assigned, hassigned]
    by_cases heq : t = t'
    · rw [if_pos heq, if_pos heq.symm]
      rfl
    · rw [if_neg heq, if_neg (Ne.symm heq)]
      rfl
  fills j _ h := fills_after (hfill j) h

theorem assigns_slot (w : World) (bed : Testbed) :
    w.Assigns t u i (w.after t (.slot u) i bed) := by
  refine assigns_after (fun t' => rfl) fun j host he => ?_
  cases he

theorem assigns_evict (w : World) (bed : Testbed) (stale : SlotId) :
    w.Assigns t u i (w.after t (.evict u stale) i bed) := by
  refine assigns_after (fun t' => rfl) fun j host he => ?_
  cases he

end World

theorem lookup_filter_ne {u u' : Uuid} (hne : u' ≠ u) (pool : List (Uuid × SlotId)) :
    (pool.filter (·.1 ≠ u)).lookup u' = pool.lookup u' := by
  induction pool with
  | nil => rfl
  | cons p pool ih =>
    obtain ⟨v, i⟩ := p
    rw [List.lookup_cons]
    by_cases heq : v = u
    · have hother : (u' == v) = false := beq_eq_false_iff_ne.2 (heq ▸ hne)
      rw [List.filter_cons_of_neg (by simp [heq]), hother, ih]
    · rw [List.filter_cons_of_pos (by simp [heq]), List.lookup_cons, ih]

theorem Testbed.lookup_newSlot (bed : Testbed) (u u' : Uuid) :
    (bed.newSlot u).2.pool.lookup u' =
      if u' = u then some bed.slots.length else bed.pool.lookup u' := by
  change ((bed.pool.filter (·.1 ≠ u)) ++ [(u, bed.slots.length)]).lookup u' = _
  rw [List.lookup_append]
  by_cases heq : u' = u
  · subst heq
    have hnone : (bed.pool.filter (·.1 ≠ u')).lookup u' = none := by
      rw [List.lookup_eq_none_iff]
      intro p hp
      have hne := of_decide_eq_true (List.mem_filter.1 hp).2
      exact bne_iff_ne.2 (Ne.symm hne)
    rw [hnone, if_pos rfl]
    exact List.lookup_cons_self
  · have hother : [(u, bed.slots.length)].lookup u' = none := by
      simp [List.lookup_cons, beq_eq_false_iff_ne.2 heq]
    rw [lookup_filter_ne heq, hother, if_neg heq, Option.or_none]

/-- From `w` to `w'` thread `t` is given a new slot for server `u`. -/
structure World.Adds (t : ThreadId) (u : Uuid) (w w' : World) : Prop
    extends w.Assigns t u w.bed.slots.length w' where
  slots : w'.bed.slots = w.bed.slots ++ [⟨none, []⟩]
  lookup : ∀ u', w'.bed.pool.lookup u' =
    if u' = u then some w.bed.slots.length else w.bed.pool.lookup u'

namespace World.Adds

theorem of_newSlot (ha : w.Assigns t u i w') (hbed : w.bed.newSlot u = (i, w'.bed)) :
    i = w.bed.slots.length ∧ w.Adds t u w' := by
  obtain ⟨rfl, hnewSlot⟩ := Prod.mk.inj hbed
  refine ⟨rfl, ha, ?_, fun u' => ?_⟩
  · rw [← hnewSlot]
  · rw [← hnewSlot]
    exact Testbed.lookup_newSlot ..

theorem value (h : w.Adds t u w') (hi : i < w.bed.slots.length) :
    valueAt w'.bed.slots i = valueAt w.bed.slots i := by
  rw [h.slots]
  exact valueAt_append _ hi

theorem value_new (h : w.Adds t u w') : valueAt w'.bed.slots w.bed.slots.length = some none := by
  rw [h.slots, valueAt, List.getElem?_append_right (Nat.le_refl _), Nat.sub_self]
  rfl

end World.Adds

/-- From `w` to `w'` a host is put into slot `i`. -/
structure World.Puts (i : SlotId) (host : Host) (w w' : World) : Prop where
  assigned : ∀ t, w'.past.assigned t = w.past.assigned t
  fills : ∀ j host', w'.past.Fills j host' → w.past.Fills j host' ∨ (j = i ∧ host' = host)
  slots : w'.bed.slots = w.bed.slots.modify i fun shared => { shared with value := some host }
  pool : w'.bed.pool = w.bed.pool

namespace World.Puts

variable {j : SlotId} {host' : Host}

theorem gives (h : w.Puts i host w') (u : Uuid) (j : SlotId) :
    w'.past.Gives u j ↔ w.past.Gives u j :=
  exists_congr fun t => by rw [h.assigned]

theorem holder (h : w.Puts i host w') (j : SlotId) :
    holderAt w'.bed.slots j = holderAt w.bed.slots j := by
  rw [h.slots]
  exact holderAt_put ..

theorem value_ne (h : w.Puts i host w') (hne : i ≠ j) :
    valueAt w'.bed.slots j = valueAt w.bed.slots j := by
  rw [h.slots]
  exact valueAt_put_ne _ hne

theorem value_self (h : w.Puts i host w') (hempty : valueAt w.bed.slots i = some none) :
    valueAt w'.bed.slots i = some (some host) := by
  rw [h.slots]
  exact valueAt_put_self _ (lt_of_valueAt hempty)

/-- What was in a slot before was not in an empty one. -/
theorem keeps (h : w.Puts i host w') (hempty : valueAt w.bed.slots i = some none)
    (hvalue : valueAt w.bed.slots j = some (some host')) :
    valueAt w'.bed.slots j = some (some host') := by
  have hne : i ≠ j := by
    rintro rfl
    rw [hempty] at hvalue
    cases hvalue
  exact (h.value_ne hne).trans hvalue

end World.Puts

theorem World.puts_fill (ha : w.bed.answer t (.fill i host) = (some (), bed')) :
    w.Puts i host (w.after t (.fill i host) () bed') where
  assigned t' := by
    rw [past_after_assigned]
    exact List.append_nil _
  fills j host' := by
    rintro ⟨t', hfill⟩
    rcases mem_past_after.1 hfill with hfill | hfill
    · exact Or.inl ⟨t', hfill⟩
    · cases hfill
      exact Or.inr ⟨rfl, rfl⟩
  slots := by
    cases ha
    rfl
  pool := by
    cases ha
    rfl

theorem Testbed.stall_slots (h : bed.answer t e = (none, bed')) :
    bed'.pool = bed.pool ∧ Jostles t bed.slots bed'.slots ∧
      ∀ i t', holderAt bed.slots i = some t' → holderAt bed'.slots i = some t' := by
  by_cases hp : e.touchesPool = false
  · obtain ⟨hslots, hpool⟩ := answer_slots t bed hp
    rw [h] at hslots hpool
    rw [hslots]
    exact ⟨hpool, .refl t bed.slots, fun _ _ => id⟩
  · cases e with
    | enter i =>
      simp only [answer] at h
      split at h
      · cases h
        exact ⟨rfl, .refl t _, fun _ _ => id⟩
      · rename_i shared hshared
        have hbed := congrArg Prod.snd h
        dsimp only at hbed
        rw [← hbed]
        exact ⟨rfl, jostles_join t hshared, fun _ _ => holderAt_set_join t hshared⟩
    | slot u =>
      simp only [answer] at h
      split at h <;> cases h
    | evict u stale =>
      simp only [answer] at h
      split at h
      · split at h <;> cases h
      · cases h
    | fill | leave => cases h
    | _ => exact absurd rfl hp

namespace Lookups

variable {P P' : Standings}

theorem retires_answer {r : e.Response} (hallows : (P t).Allows e)
    (ha : w.bed.answer t e = (some r, bed')) (host : Host) (h : P.Retires w host) :
    Standings.Retires (Function.update P t ((P t).after e r)) (w.after t e r bed') host :=
  ⟨h.1.answer hallows ha, World.finds_after h.2⟩

theorem stage_update_ne {st : Standing} (hne : t' ≠ t) :
    (Function.update P t st t').stage = (P t').stage := by
  rw [Function.update_of_ne hne]

/-- A thread at work on other things learns at most what is in its slot, or that the host that it
has seen there is of no use. -/
theorem answer_elsewhere {r : e.Response} (h : Lookups P w)
    (hgrips : ∀ t, (P t).grip.Holds t w.bed) (hallows : (P t).Allows e)
    (ha : w.bed.answer t e = (some r, bed')) (he : e.touchesPool = false) :
    Lookups (Function.update P t ((P t).after e r)) (w.after t e r bed') := by
  obtain ⟨hslots, hpool⟩ := Testbed.answer_slots t w.bed he
  rw [ha] at hslots hpool
  have hlevel : w.Level t (w.after t e r bed') := by
    refine World.level_after ?_ hpool (hslots ▸ .refl t w.bed.slots)
    cases e <;> first | rfl | cases he
  have hretires := retires_answer hallows ha
  refine h.level hlevel hretires (fun t' hne => stage_update_ne hne) ?_
  rw [Function.update_self]
  change ((P t).stage.after e r).Holds _ t _
  have hstage := h.stages t
  -- what the thread knew before
  have hkept :
      (P t).stage.Holds (Function.update P t ((P t).after e r)) t (w.after t e r bed') := by
    exact hstage.level hlevel (fun i hi => (congrArg (holderAt · i) hslots).trans hi) hretires
  cases e with
  | slotHost j =>
    simp only [Testbed.answer, Prod.mk.injEq, Option.some.injEq] at ha
    obtain ⟨hr, rfl⟩ := ha
    exact hkept.after_slotHost hr
  | isDefunct s =>
    refine hkept.after_isDefunct ?_
    rintro rfl host rfl
    refine ⟨(Standings.exhausts_of_defunct hgrips ha).answer hallows ha, t, ?_⟩
    exact World.mem_past_after.2 (Or.inr rfl)
  | slot | evict | enter | fill | leave => cases he
  | _ => rwa [Stage.after_of_not_learns rfl]

theorem answer_enter {r : Unit} (h : Lookups P w) (hallows : (P t).Allows (.enter i))
    (ha : w.bed.answer t (.enter i) = (some r, bed')) :
    Lookups (Function.update P t ((P t).after (.enter i) r)) (w.after t (.enter i) r bed') := by
  have hretires := retires_answer hallows ha
  have hstage := h.stages t
  simp only [Testbed.answer] at ha
  split at ha
  · cases ha
  · rename_i shared hshared
    split at ha
    · rename_i hheld
      cases ha
      have hlevel : w.Level t (w.after t (.enter i) r
          { w.bed with slots := w.bed.slots.set i (shared.join t) }) :=
        World.level_after rfl rfl (jostles_join t hshared)
      refine h.level hlevel hretires (fun t' hne => stage_update_ne hne) ?_
      rw [Function.update_self]
      change ((P t).stage.after (.enter i) r).Holds _ t _
      have hallowed := hallows.1
      generalize (P t).stage = stage at hstage hallowed
      cases stage with
      | assigned u j =>
        cases hallowed
        refine ⟨(congrArg List.getLast? (hlevel.assigned t)).trans hstage, ?_⟩
        exact holderAt_join hshared hheld
      | _ => cases hallowed
    · cases ha

theorem answer_leave {r : Unit} (h : Lookups P w) (hallows : (P t).Allows (.leave i))
    (ha : w.bed.answer t (.leave i) = (some r, bed')) :
    Lookups (Function.update P t ((P t).after (.leave i) r)) (w.after t (.leave i) r bed') := by
  have hretires := retires_answer hallows ha
  have hstage := h.stages t
  cases ha
  have hslots := jostles_leave t w.bed.slots i
  have hlevel : w.Level t (w.after t (.leave i) r
      { w.bed with slots := w.bed.slots.modify i (Shared.leave t) }) :=
    World.level_after rfl rfl hslots
  refine h.level hlevel hretires (fun t' hne => stage_update_ne hne) ?_
  rw [Function.update_self]
  change ((P t).stage.after (.leave i) r).Holds _ t _
  have hallowed := hallows.1
  generalize (P t).stage = stage at hstage hallowed
  cases stage with
  | vacant u j => exact (congrArg List.getLast? (hlevel.assigned t)).trans hstage.1
  | filled u j host =>
    obtain ⟨hlast, _, hvalue⟩ := hstage
    exact ⟨(congrArg List.getLast? (hlevel.assigned t)).trans hlast,
      (hslots.value j).trans hvalue⟩
  | _ => cases hallowed

/-- A host goes into a slot that is empty, and therefore current. -/
theorem put (h : Lookups P w) (hputs : w.Puts i host w')
    (hretires : ∀ host, P.Retires w host → P'.Retires w' host)
    (hother : ∀ t', t' ≠ t → (P' t').stage = (P t').stage)
    (hbefore : (P t).stage = .vacant u i) (hafter : (P' t).stage = .filled u i host) :
    Lookups P' w' := by
  have hstage := h.stages t
  rw [hbefore] at hstage
  obtain ⟨hlast, hheld, hempty⟩ := hstage
  have hgiven : w.past.Gives u i := ⟨t, List.mem_of_getLast? hlast⟩
  constructor
  case stages =>
    intro t'
    by_cases heq : t' = t
    · subst heq
      rw [hafter]
      exact ⟨(congrArg List.getLast? (hputs.assigned t')).trans hlast,
        (hputs.holder i).trans hheld, hputs.value_self hempty⟩
    · rw [hother t' heq]
      refine (h.stages t').mono (hputs.assigned t') (fun j hj => (hputs.holder j).trans hj)
        (fun j host' => hputs.keeps hempty) ?_ hretires
      intro j hj hvalue
      have hne : i ≠ j := by
        rintro rfl
        rw [hheld] at hj
        exact heq (Option.some.inj hj).symm
      exact (hputs.value_ne hne).trans hvalue
  case current =>
    intro u' j hj
    exact (hputs.gives u' j).2 (h.current u' j (hputs.pool ▸ hj))
  case exists_slot =>
    intro u' j hj
    rw [hputs.slots, List.length_modify]
    exact h.exists_slot u' j ((hputs.gives u' j).1 hj)
  case owner =>
    intro u₁ u₂ j h₁ h₂
    exact h.owner u₁ u₂ j ((hputs.gives u₁ j).1 h₁) ((hputs.gives u₂ j).1 h₂)
  case vacancy =>
    intro u' j hj hvalue
    have hne : i ≠ j := by
      rintro rfl
      rw [hputs.value_self hempty] at hvalue
      cases hvalue
    rw [hputs.pool]
    exact h.vacancy u' j ((hputs.gives u' j).1 hj) ((hputs.value_ne hne).symm.trans hvalue)
  case displaced =>
    intro u' j host' hj hvalue
    rw [hputs.pool]
    by_cases hne : i = j
    · subst hne
      obtain rfl := h.owner u u' i hgiven ((hputs.gives u' i).1 hj)
      exact Or.inl (h.vacancy u i hgiven hempty)
    · have hold := h.displaced u' j host' ((hputs.gives u' j).1 hj)
        ((hputs.value_ne hne).symm.trans hvalue)
      exact hold.imp id (hretires host')
  case filled =>
    intro j host' hfill
    rcases hputs.fills j host' hfill with hfill | ⟨rfl, rfl⟩
    · exact hputs.keeps hempty (h.filled j host' hfill)
    · exact hputs.value_self hempty

theorem answer_fill {r : Unit} (h : Lookups P w) (hallows : (P t).Allows (.fill i host))
    (ha : w.bed.answer t (.fill i host) = (some r, bed')) :
    Lookups (Function.update P t ((P t).after (.fill i host) r))
      (w.after t (.fill i host) r bed') := by
  obtain ⟨u, hst⟩ := Stage.vacant_of_fill hallows.1
  have hself : (Function.update P t ((P t).after (.fill i host) r) t).stage =
      .filled u i host := by
    rw [Function.update_self]
    change (P t).stage.after (.fill i host) r = _
    rw [hst]
    rfl
  exact h.put (World.puts_fill ha) (retires_answer hallows ha)
    (fun t' hne => stage_update_ne hne) hst hself

/-- Being given the slot that is current changes nothing for anybody else. -/
theorem given_current (h : Lookups P w) (ha : w.Assigns t u i w')
    (hretires : ∀ host, P.Retires w host → P'.Retires w' host)
    (hother : ∀ t', t' ≠ t → (P' t').stage = (P t').stage)
    (hself : (P' t).stage = .assigned u i) (hbed : w'.bed = w.bed)
    (hi : w.bed.pool.lookup u = some i) : Lookups P' w' := by
  have hgives (u' : Uuid) (j : SlotId) : w'.past.Gives u' j ↔ w.past.Gives u' j := by
    rw [ha.gives]
    constructor
    · rintro (hj | ⟨rfl, rfl⟩)
      · exact hj
      · exact h.current u' j hi
    · exact Or.inl
  constructor
  case stages =>
    intro t'
    by_cases heq : t' = t
    · subst heq
      rw [hself]
      exact ha.last
    · rw [hother t' heq]
      exact (h.stages t').mono (ha.assigned_ne heq) (fun _ hj => hbed ▸ hj)
        (fun _ _ hj => hbed ▸ hj) (fun _ _ hj => hbed ▸ hj) hretires
  case current =>
    intro u' j hj
    exact (hgives u' j).2 (h.current u' j (hbed ▸ hj))
  case exists_slot =>
    intro u' j hj
    exact hbed ▸ h.exists_slot u' j ((hgives u' j).1 hj)
  case owner =>
    intro u₁ u₂ j h₁ h₂
    exact h.owner u₁ u₂ j ((hgives u₁ j).1 h₁) ((hgives u₂ j).1 h₂)
  case vacancy =>
    intro u' j hj hvalue
    exact hbed ▸ h.vacancy u' j ((hgives u' j).1 hj) (hbed ▸ hvalue)
  case displaced =>
    intro u' j host hj hvalue
    have hold := h.displaced u' j host ((hgives u' j).1 hj) (hbed ▸ hvalue)
    rw [hbed]
    exact hold.imp id (hretires host)
  case filled =>
    intro j host hfill
    exact hbed ▸ h.filled j host (ha.fills j host hfill)

/-- A new slot takes the place of none, or of one that holds a host of no use. -/
theorem given_new (h : Lookups P w) (ha : w.Assigns t u i w')
    (hretires : ∀ host, P.Retires w host → P'.Retires w' host)
    (hother : ∀ t', t' ≠ t → (P' t').stage = (P t').stage)
    (hself : (P' t).stage = .assigned u i) (hbed : w.bed.newSlot u = (i, w'.bed))
    (hold : ∀ j, w.bed.pool.lookup u = some j →
      ∃ host, valueAt w.bed.slots j = some (some host) ∧ P.Retires w host) : Lookups P' w' := by
  obtain ⟨rfl, hadds⟩ := World.Adds.of_newSlot ha hbed
  -- a slot was given out before unless it is the new one
  have hgives (u' : Uuid) (j : SlotId) (hj : w'.past.Gives u' j) :
      (w.past.Gives u' j ∧ j < w.bed.slots.length) ∨ (u' = u ∧ j = w.bed.slots.length) := by
    rcases (ha.gives u' j).1 hj with hj | hj
    · exact Or.inl ⟨hj, h.exists_slot u' j hj⟩
    · exact Or.inr hj
  constructor
  case stages =>
    intro t'
    by_cases heq : t' = t
    · subst heq
      rw [hself]
      exact ha.last
    · rw [hother t' heq]
      refine (h.stages t').mono (ha.assigned_ne heq) ?_ ?_ ?_ hretires
      · intro j hj
        rw [hadds.slots]
        exact holderAt_append _ hj
      · exact fun j host hj => (hadds.value (lt_of_valueAt hj)).trans hj
      · exact fun j _ hj => (hadds.value (lt_of_valueAt hj)).trans hj
  case current =>
    intro u' j hj
    rw [hadds.lookup] at hj
    split at hj
    · rename_i heq
      exact (ha.gives u' j).2 (Or.inr ⟨heq, (Option.some.inj hj).symm⟩)
    · exact (ha.gives u' j).2 (Or.inl (h.current u' j hj))
  case exists_slot =>
    intro u' j hj
    rw [hadds.slots, List.length_append, List.length_singleton]
    rcases hgives u' j hj with ⟨_, hlt⟩ | ⟨_, rfl⟩
    · exact Nat.lt_succ_of_lt hlt
    · exact Nat.lt_succ_self _
  case owner =>
    intro u₁ u₂ j h₁ h₂
    rcases hgives u₁ j h₁ with ⟨h₁, hlt₁⟩ | ⟨rfl, rfl⟩
    · rcases hgives u₂ j h₂ with ⟨h₂, _⟩ | ⟨_, rfl⟩
      · exact h.owner u₁ u₂ j h₁ h₂
      · exact absurd hlt₁ (Nat.lt_irrefl _)
    · rcases hgives u₂ _ h₂ with ⟨_, hlt₂⟩ | ⟨rfl, _⟩
      · exact absurd hlt₂ (Nat.lt_irrefl _)
      · rfl
  case vacancy =>
    intro u' j hj hnone
    rw [hadds.lookup]
    rcases hgives u' j hj with ⟨hj, hlt⟩ | ⟨rfl, rfl⟩
    · rw [hadds.value hlt] at hnone
      have hcurrent := h.vacancy u' j hj hnone
      rw [if_neg, hcurrent]
      rintro rfl
      obtain ⟨host, hhost, _⟩ := hold j hcurrent
      rw [hnone] at hhost
      cases hhost
    · exact if_pos rfl
  case displaced =>
    intro u' j host hj hhost
    rw [hadds.lookup]
    rcases hgives u' j hj with ⟨hj, hlt⟩ | ⟨rfl, rfl⟩
    · rw [hadds.value hlt] at hhost
      rcases h.displaced u' j host hj hhost with hcurrent | hretired
      · by_cases heq : u' = u
        · subst heq
          obtain ⟨host', hhost', hretired⟩ := hold j hcurrent
          rw [hhost] at hhost'
          cases hhost'
          exact Or.inr (hretires host hretired)
        · rw [if_neg heq]
          exact Or.inl hcurrent
      · exact Or.inr (hretires host hretired)
    · rw [hadds.value_new] at hhost
      cases hhost
  case filled =>
    intro j host hfill
    have hhost := h.filled j host (ha.fills j host hfill)
    exact (hadds.value (lt_of_valueAt hhost)).trans hhost

theorem answer_slot {r : SlotId} (h : Lookups P w) (hallows : (P t).Allows (.slot u))
    (ha : w.bed.answer t (.slot u) = (some r, bed')) :
    Lookups (Function.update P t ((P t).after (.slot u) r)) (w.after t (.slot u) r bed') := by
  have hretires := retires_answer hallows ha
  have hassigns : w.Assigns t u r (w.after t (.slot u) r bed') := World.assigns_slot w bed'
  have hst := Stage.seeking_of_slot hallows.1
  have hself : (Function.update P t ((P t).after (.slot u) r) t).stage = .assigned u r := by
    rw [Function.update_self]
    change (P t).stage.after (.slot u) r = _
    rw [hst]
    rfl
  simp only [Testbed.answer] at ha
  split at ha
  · rename_i i hi
    cases ha
    exact h.given_current hassigns hretires (fun t' hne => stage_update_ne hne) hself rfl hi
  · rename_i hnone
    cases ha
    refine h.given_new hassigns hretires (fun t' hne => stage_update_ne hne) hself rfl ?_
    intro j hj
    rw [hnone] at hj
    cases hj

theorem answer_evict {r stale : SlotId} (h : Lookups P w) (hallows : (P t).Allows (.evict u stale))
    (ha : w.bed.answer t (.evict u stale) = (some r, bed')) :
    Lookups (Function.update P t ((P t).after (.evict u stale) r))
      (w.after t (.evict u stale) r bed') := by
  have hretires := retires_answer hallows ha
  have hassigns : w.Assigns t u r (w.after t (.evict u stale) r bed') :=
    World.assigns_evict w bed' stale
  obtain ⟨host, hst⟩ := Stage.spent_of_evict hallows.1
  have hself : (Function.update P t ((P t).after (.evict u stale) r) t).stage = .assigned u r := by
    rw [Function.update_self]
    change (P t).stage.after (.evict u stale) r = _
    rw [hst]
    rfl
  have hstage := h.stages t
  rw [hst] at hstage
  obtain ⟨_, hvalue, hretired⟩ := hstage
  simp only [Testbed.answer] at ha
  split at ha
  · rename_i i hi
    split at ha
    · rename_i heq
      subst heq
      cases ha
      refine h.given_new hassigns hretires (fun t' hne => stage_update_ne hne) hself rfl ?_
      intro j hj
      rw [hi] at hj
      cases hj
      exact ⟨host, hvalue, hretired⟩
    · cases ha
      exact h.given_current hassigns hretires (fun t' hne => stage_update_ne hne) hself rfl hi
  · rename_i hnone
    cases ha
    refine h.given_new hassigns hretires (fun t' hne => stage_update_ne hne) hself rfl ?_
    intro j hj
    rw [hnone] at hj
    cases hj

theorem answer {r : e.Response} (h : Lookups P w) (hgrips : ∀ t, (P t).grip.Holds t w.bed)
    (hallows : (P t).Allows e) (ha : w.bed.answer t e = (some r, bed')) :
    Lookups (Function.update P t ((P t).after e r)) (w.after t e r bed') := by
  by_cases he : e.touchesPool = false
  · exact h.answer_elsewhere hgrips hallows ha he
  · cases e with
    | slot u => exact h.answer_slot hallows ha
    | evict u stale => exact h.answer_evict hallows ha
    | enter i => exact h.answer_enter hallows ha
    | fill i host => exact h.answer_fill hallows ha
    | leave i => exact h.answer_leave hallows ha
    | _ => exact absurd rfl he

end Lookups
end ClusterProbe
