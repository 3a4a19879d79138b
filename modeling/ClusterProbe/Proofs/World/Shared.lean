import ClusterProbe.Proofs.World.Connection

/-!
# Sessions and slots in a world

Only the effects that are about sessions change sessions, and only those that are about the pool
change the pool and its slots: everything else `Shares` them, and so do the moves of the far ends. A
session that nobody holds is given to whoever asks for it.
-/
namespace ClusterProbe

variable {t : ThreadId} {e : Effect} {s : SessionId}

namespace Testbed

/-- Two testbeds that differ in their networks at most. -/
structure Shares (bed bed' : Testbed) : Prop where
  sessions : bed'.sessions = bed.sessions
  slots : bed'.slots = bed.slots
  pool : bed'.pool = bed.pool

variable {bed bed' bed'' : Testbed}

theorem Shares.refl (bed : Testbed) : bed.Shares bed := ⟨rfl, rfl, rfl⟩

theorem Shares.trans (h : bed.Shares bed') (h' : bed'.Shares bed'') : bed.Shares bed'' where
  sessions := h'.sessions.trans h.sessions
  slots := h'.slots.trans h.slots
  pool := h'.pool.trans h.pool

theorem answer_shares (t : ThreadId) (bed : Testbed) (hs : e.touchesSessions = false)
    (hp : e.touchesPool = false) : bed.Shares (bed.answer t e).2 := by
  cases e with
  | openSession | acquire | store | release => cases hs
  | slot | evict | enter | fill | leave => cases hp
  | log | clock | flush | expect | hangUp | isDefunct | slotHost | pooled => exact ⟨rfl, rfl, rfl⟩
  | dial endpoint =>
    simp only [answer, Network.dial]
    split <;> exact ⟨rfl, rfl, rfl⟩
  | write c bytes =>
    simp only [answer]
    split
    · exact .refl bed
    · split <;> exact ⟨rfl, rfl, rfl⟩
  | read c count =>
    simp only [answer]
    split
    · exact .refl bed
    · split <;> exact ⟨rfl, rfl, rfl⟩
  | receive c limit callId =>
    simp only [answer, receive]
    split
    · exact .refl bed
    · split
      · exact ⟨rfl, rfl, rfl⟩
      · split <;> exact ⟨rfl, rfl, rfl⟩

theorem fails_shares {r : e.Response} (hf : e.Fails bed r bed') : bed.Shares bed' := by
  cases e <;> first | exact hf.elim | obtain ⟨_, rfl⟩ := hf
  all_goals exact ⟨rfl, rfl, rfl⟩

end Testbed

namespace World

variable {w w' : World}

theorem Moves.shares (h : w.Moves w') : w.bed.Shares w'.bed := by
  cases h <;> exact ⟨rfl, rfl, rfl⟩

theorem Stalls.shares (h : w.Stalls t e w') (hs : e.touchesSessions = false)
    (hp : e.touchesPool = false) : w.bed.Shares w'.bed := by
  obtain ⟨bed, hb, rfl⟩ := h
  have := Testbed.answer_shares t w.bed hs hp
  rwa [hb] at this

theorem Answers.shares {r : e.Response} (h : w.Answers t e r w') (hs : e.touchesSessions = false)
    (hp : e.touchesPool = false) : w.bed.Shares w'.bed := by
  obtain ⟨bed, hb | hf, rfl⟩ := h
  · have := Testbed.answer_shares t w.bed hs hp
    rwa [hb] at this
  · exact Testbed.fails_shares hf

theorem Waits.shares (h : Waits t e w w') (hs : e.touchesSessions = false)
    (hp : e.touchesPool = false) : w.bed.Shares w'.bed :=
  h.invariant (P := fun w' => w.bed.Shares w'.bed) (fun hm h => h.trans hm.shares)
    (fun hst h => h.trans (hst.shares hs hp)) (.refl _)

theorem Settles.shares {r : e.Response} (h : w.Settles t e r w') (hs : e.touchesSessions = false)
    (hp : e.touchesPool = false) : w.bed.Shares w'.bed := by
  obtain ⟨w₁, hwait, hanswer⟩ := h
  exact (hwait.shares hs hp).trans (hanswer.shares hs hp)

theorem Waits.shares_of_answered (h : Waits t e w w')
    (he : ∀ bed : Testbed, bed.Shares w.bed → (bed.answer t e).1 ≠ none) : w.bed.Shares w'.bed := by
  refine h.invariant (P := fun w' => w.bed.Shares w'.bed) (fun hm h => h.trans hm.shares) ?_
    (.refl _)
  rintro w₁ w₂ ⟨bed, hb, rfl⟩ hshares
  refine absurd (congrArg Prod.fst hb) (he w₁.bed ?_)
  exact ⟨hshares.sessions.symm, hshares.slots.symm, hshares.pool.symm⟩

theorem Waits.acquire_shares {v : Session} (h : Waits t (.acquire s) w w')
    (hfree : w.bed.sessions[s]? = some ⟨v, []⟩) : w.bed.Shares w'.bed := by
  refine h.shares_of_answered fun bed hbed => ?_
  simp [Testbed.answer, hbed.sessions ▸ hfree, Shared.join, Shared.isHeldBy]

theorem Settles.acquire {v : Session} {r : Session} (h : w.Settles t (.acquire s) r w')
    (hfree : w.bed.sessions[s]? = some ⟨v, []⟩) :
    r = v ∧ w'.bed.sessions = w.bed.sessions.set s ⟨v, [t]⟩ := by
  obtain ⟨w₁, hwait, bed, hb | hf, rfl⟩ := h
  · have hsessions := (hwait.acquire_shares hfree).sessions
    rw [← hsessions] at hfree
    simp only [Testbed.answer, hfree, Shared.join, Shared.isHeldBy, List.not_mem_nil, if_false,
      List.nil_append, List.head?_cons, decide_true, if_true, Prod.mk.injEq,
      Option.some.injEq] at hb
    obtain ⟨rfl, rfl⟩ := hb
    exact ⟨rfl, congrArg (List.set · s _) hsessions⟩
  · exact hf.elim

theorem Settles.store {v : Session} {r : Unit} (h : w.Settles t (.store s v) r w') :
    w'.bed.sessions = w.bed.sessions.modify s fun shared => { shared with value := v } := by
  obtain ⟨w₁, hwait, bed, hb | hf, rfl⟩ := h
  · have hshares := hwait.shares_of_answered fun bed _ => by simp [Testbed.answer]
    simp only [Testbed.answer, Prod.mk.injEq] at hb
    obtain ⟨_, rfl⟩ := hb
    exact congrArg (List.modify · s _) hshares.sessions
  · exact hf.elim

theorem Settles.release {r : Unit} (h : w.Settles t (.release s) r w') :
    w'.bed.sessions = w.bed.sessions.modify s (Shared.leave t) := by
  obtain ⟨w₁, hwait, bed, hb | hf, rfl⟩ := h
  · have hshares := hwait.shares_of_answered fun bed _ => by simp [Testbed.answer]
    simp only [Testbed.answer, Prod.mk.injEq] at hb
    obtain ⟨_, rfl⟩ := hb
    exact congrArg (List.modify · s _) hshares.sessions
  · exact hf.elim

theorem Settles.openSession {endpoint : Endpoint} {c : ConnectionId} {r : SessionId}
    (h : w.Settles t (.openSession endpoint c) r w') :
    r = w.bed.sessions.length ∧
      w'.bed.sessions = w.bed.sessions ++ [⟨{ endpoint, stream := some c }, []⟩] := by
  obtain ⟨w₁, hwait, bed, hb | hf, rfl⟩ := h
  · have hshares := hwait.shares_of_answered fun bed _ => by simp [Testbed.answer]
    simp only [Testbed.answer, Prod.mk.injEq, Option.some.injEq] at hb
    obtain ⟨rfl, rfl⟩ := hb
    exact ⟨congrArg List.length hshares.sessions, congrArg (· ++ _) hshares.sessions⟩
  · exact hf.elim

end World
end ClusterProbe
