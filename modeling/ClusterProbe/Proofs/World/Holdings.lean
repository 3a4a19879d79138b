import Mathlib.Data.List.Nodup
import Mathlib.Logic.Function.Basic
import ClusterProbe.Testbed

/-!
# Where connections are

A connection that was opened is in one place at a time: in the hands of a thread, in a session, or
shut down. The holdings say which place that is, together with the lists of what was opened and what
was shut down. As long as everybody only passes connections on from one place to the next, no
connection is lost and none is shut down twice (`Holdings.Sound`), and when nothing is held any more
all that was opened has been shut down once (`Holdings.Sound.balanced`).
-/
namespace ClusterProbe

inductive Place where
  | unopened
  | loose (t : ThreadId)
  | carried (s : SessionId)
  | hungUp
  deriving DecidableEq

structure Holdings where
  /-- What a thread has in its hands. -/
  loose : ThreadId → Option ConnectionId
  /-- What a session has as its stream. -/
  carried : SessionId → Option ConnectionId
  opened : List ConnectionId
  hungUp : List ConnectionId

namespace Holdings

variable {H H' : Holdings} {t : ThreadId} {s : SessionId} {c : ConnectionId} {p : Place}

/-- The connection is in this place and nowhere else. -/
structure At (H : Holdings) (c : ConnectionId) (p : Place) : Prop where
  loose : ∀ t, H.loose t = some c ↔ p = .loose t
  carried : ∀ s, H.carried s = some c ↔ p = .carried s
  opened : H.opened.count c = if p = .unopened then 0 else 1
  hungUp : H.hungUp.count c = if p = .hungUp then 1 else 0

def Sound (H : Holdings) : Prop :=
  ∀ c, ∃ p, H.At c p

/-- From `H` to `H'` nothing but connection `c` has moved. -/
structure AgreesBut (c : ConnectionId) (H H' : Holdings) : Prop where
  loose : ∀ c', c' ≠ c → ∀ t, H'.loose t = some c' ↔ H.loose t = some c'
  carried : ∀ c', c' ≠ c → ∀ s, H'.carried s = some c' ↔ H.carried s = some c'
  opened : ∀ c', c' ≠ c → H'.opened.count c' = H.opened.count c'
  hungUp : ∀ c', c' ≠ c → H'.hungUp.count c' = H.hungUp.count c'

namespace Sound

theorem at_loose (h : H.Sound) (hc : H.loose t = some c) : H.At c (.loose t) := by
  obtain ⟨p, hp⟩ := h c
  obtain rfl := (hp.loose t).1 hc
  exact hp

theorem at_carried (h : H.Sound) (hc : H.carried s = some c) : H.At c (.carried s) := by
  obtain ⟨p, hp⟩ := h c
  obtain rfl := (hp.carried s).1 hc
  exact hp

theorem at_unopened (h : H.Sound) (hc : c ∉ H.opened) : H.At c .unopened := by
  obtain ⟨p, hp⟩ := h c
  have hopened := hp.opened
  rw [List.count_eq_zero_of_not_mem hc] at hopened
  split at hopened
  · rename_i heq
    exact heq ▸ hp
  · cases hopened

theorem moves (h : H.Sound) (hagrees : H.AgreesBut c H') (hc : H'.At c p) : H'.Sound := by
  intro c'
  by_cases heq : c' = c
  · exact ⟨p, heq ▸ hc⟩
  · obtain ⟨p', hp'⟩ := h c'
    exact ⟨p', fun t => (hagrees.loose c' heq t).trans (hp'.loose t),
      fun s => (hagrees.carried c' heq s).trans (hp'.carried s),
      (hagrees.opened c' heq).trans hp'.opened, (hagrees.hungUp c' heq).trans hp'.hungUp⟩

end Sound

section Update

variable {ι γ : Type} [DecidableEq ι] {f : ι → Option γ} {i : ι} {a : γ} {o : Option γ}

theorem update_eq_some_iff (hold : f i ≠ some a) (hnew : o ≠ some a) (j : ι) :
    Function.update f i o j = some a ↔ f j = some a := by
  by_cases heq : j = i
  · subst heq
    rw [Function.update_self]
    exact iff_of_false hnew hold
  · rw [Function.update_of_ne heq]

theorem update_some_iff (h : ∀ j, f j ≠ some a) (i j : ι) :
    Function.update f i (some a) j = some a ↔ j = i := by
  by_cases heq : j = i
  · subst heq
    exact iff_of_true (Function.update_self ..) rfl
  · rw [Function.update_of_ne heq]
    exact iff_of_false (h j) heq

theorem update_none_ne (h : ∀ j, f j = some a → j = i) (j : ι) :
    Function.update f i none j ≠ some a := by
  by_cases heq : j = i
  · subst heq
    rw [Function.update_self]
    exact nofun
  · rw [Function.update_of_ne heq]
    exact fun hj => heq (h j hj)

end Update

theorem count_concat_ne {c' : ConnectionId} (l : List ConnectionId) (hne : c' ≠ c) :
    (l ++ [c]).count c' = l.count c' := by
  rw [List.count_append, List.count_singleton, if_neg, Nat.add_zero]
  exact fun heq => hne (eq_of_beq heq).symm

theorem count_concat_self (l : List ConnectionId) : (l ++ [c]).count c = l.count c + 1 := by
  rw [List.count_append, List.count_singleton_self]

namespace Sound

/-- A thread opens a connection. -/
theorem opens (h : H.Sound) (hfree : H.loose t = none) (hnew : c ∉ H.opened) :
    Sound { H with
      loose := Function.update H.loose t (some c)
      opened := H.opened ++ [c] } := by
  have hc := h.at_unopened hnew
  refine h.moves (c := c) (p := .loose t) ⟨fun c' hne => ?_, fun _ _ _ => Iff.rfl, fun c' hne => ?_,
    fun _ _ => rfl⟩ ⟨fun t' => ?_,
      fun s' => (hc.carried s').trans (iff_of_false nofun nofun), ?_, hc.hungUp⟩
  · refine update_eq_some_iff ?_ fun heq => hne (Option.some.inj heq).symm
    rw [hfree]
    exact nofun
  · exact count_concat_ne _ hne
  · refine (update_some_iff (fun j hj => ?_) t t').trans ⟨fun heq => heq ▸ rfl, fun heq => ?_⟩
    · cases (hc.loose j).1 hj
    · cases heq
      rfl
  · rw [count_concat_self, hc.opened]
    rfl

/-- A thread shuts down the connection that it has in its hands. -/
theorem hangsUp (h : H.Sound) (hloose : H.loose t = some c) :
    Sound { H with loose := Function.update H.loose t none, hungUp := H.hungUp ++ [c] } := by
  have hc := h.at_loose hloose
  refine h.moves (c := c) (p := .hungUp) ⟨fun c' hne => ?_, fun _ _ _ => Iff.rfl, fun _ _ => rfl,
    fun c' hne => ?_⟩ ⟨fun t' => ?_, fun s' => ?_, hc.opened, ?_⟩
  · refine update_eq_some_iff ?_ nofun
    rw [hloose]
    exact fun heq => hne (Option.some.inj heq).symm
  · exact count_concat_ne _ hne
  · refine iff_of_false (update_none_ne (fun j hj => ?_) t') nofun
    cases (hc.loose j).1 hj
    rfl
  · refine iff_of_false (fun hs => ?_) nofun
    cases (hc.carried s').1 hs
  · rw [count_concat_self, hc.hungUp]
    rfl

/-- A thread puts the connection that it has in its hands into a session. -/
theorem carries (h : H.Sound) (hloose : H.loose t = some c) (hempty : H.carried s = none) :
    Sound { H with
      loose := Function.update H.loose t none
      carried := Function.update H.carried s (some c) } := by
  have hc := h.at_loose hloose
  refine h.moves (c := c) (p := .carried s) ⟨fun c' hne => ?_, fun c' hne => ?_, fun _ _ => rfl,
    fun _ _ => rfl⟩ ⟨fun t' => ?_, fun s' => ?_, hc.opened, hc.hungUp⟩
  · refine update_eq_some_iff ?_ nofun
    rw [hloose]
    exact fun heq => hne (Option.some.inj heq).symm
  · refine update_eq_some_iff ?_ fun heq => hne (Option.some.inj heq).symm
    rw [hempty]
    exact nofun
  · refine iff_of_false (update_none_ne (fun j hj => ?_) t') nofun
    cases (hc.loose j).1 hj
    rfl
  · refine (update_some_iff (fun j hj => ?_) s s').trans ⟨fun heq => heq ▸ rfl, fun heq => ?_⟩
    · cases (hc.carried j).1 hj
    · cases heq
      rfl

/-- A thread takes the connection out of a session. -/
theorem parts (h : H.Sound) (hcarried : H.carried s = some c) (hfree : H.loose t = none) :
    Sound { H with
      loose := Function.update H.loose t (some c)
      carried := Function.update H.carried s none } := by
  have hc := h.at_carried hcarried
  refine h.moves (c := c) (p := .loose t) ⟨fun c' hne => ?_, fun c' hne => ?_, fun _ _ => rfl,
    fun _ _ => rfl⟩ ⟨fun t' => ?_, fun s' => ?_, hc.opened, hc.hungUp⟩
  · refine update_eq_some_iff ?_ fun heq => hne (Option.some.inj heq).symm
    rw [hfree]
    exact nofun
  · refine update_eq_some_iff ?_ nofun
    rw [hcarried]
    exact fun heq => hne (Option.some.inj heq).symm
  · refine (update_some_iff (fun j hj => ?_) t t').trans ⟨fun heq => heq ▸ rfl, fun heq => ?_⟩
    · cases (hc.loose j).1 hj
    · cases heq
      rfl
  · refine iff_of_false (update_none_ne (fun j hj => ?_) s') nofun
    cases (hc.carried j).1 hj
    rfl

/-- When nobody holds anything, all that was opened has been shut down, each connection once. -/
theorem balanced (h : H.Sound) (hloose : ∀ t, H.loose t = none)
    (hcarried : ∀ s, H.carried s = none) :
    H.opened.Nodup ∧ H.hungUp.Perm H.opened := by
  have hcounts (c : ConnectionId) :
      H.opened.count c ≤ 1 ∧ H.hungUp.count c = H.opened.count c := by
    obtain ⟨p, hp⟩ := h c
    rw [hp.opened, hp.hungUp]
    cases p with
    | unopened => exact ⟨Nat.zero_le 1, rfl⟩
    | loose t =>
      have hheld := (hp.loose t).2 rfl
      rw [hloose] at hheld
      cases hheld
    | carried s =>
      have hheld := (hp.carried s).2 rfl
      rw [hcarried] at hheld
      cases hheld
    | hungUp => exact ⟨Nat.le_refl 1, rfl⟩
  exact ⟨List.nodup_iff_count_le_one.2 fun c => (hcounts c).1,
    List.perm_iff_count.2 fun c => (hcounts c).2⟩

end Sound
end Holdings
end ClusterProbe
