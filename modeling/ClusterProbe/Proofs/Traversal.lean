import Mathlib.Data.List.Forall2

/-!
# Lists that are read one by one

Reading a list succeeds if each member can be read, and otherwise fails as its first member does
that cannot be.
-/
namespace ClusterProbe

variable {α β ε : Type} {f : α → Except ε β} {xs : List α}

theorem mapM_eq_ok {ys : List β} :
    xs.mapM f = .ok ys ↔ List.Forall₂ (fun x y => f x = .ok y) xs ys := by
  induction xs generalizing ys with
  | nil =>
    rw [List.forall₂_nil_left_iff]
    exact ⟨fun h => (Except.ok.inj h).symm, fun h => congrArg Except.ok h.symm⟩
  | cons x xs ih =>
    rw [List.mapM_cons, List.forall₂_cons_left_iff]
    constructor
    · intro h
      cases hx : f x with
      | error e =>
        rw [hx] at h
        cases h
      | ok y =>
        rw [hx] at h
        cases hxs : xs.mapM f with
        | error e =>
          rw [hxs] at h
          cases h
        | ok zs =>
          rw [hxs] at h
          cases h
          exact ⟨y, zs, rfl, ih.1 hxs, rfl⟩
    · rintro ⟨y, zs, hx, hxs, rfl⟩
      rw [hx, ih.2 hxs]
      rfl

/-- The first failure is the one that is reported. -/
theorem mapM_eq_error {e : ε} : xs.mapM f = .error e ↔ ∃ before x after,
    xs = before ++ x :: after ∧ (∀ x ∈ before, ∃ y, f x = .ok y) ∧ f x = .error e := by
  induction xs with
  | nil => exact ⟨nofun, fun ⟨before, x, after, h, _⟩ => absurd h (by simp)⟩
  | cons x xs ih =>
    rw [List.mapM_cons]
    constructor
    · intro h
      cases hx : f x with
      | error e' =>
        rw [hx] at h
        cases h
        exact ⟨[], x, xs, rfl, nofun, hx⟩
      | ok y =>
        rw [hx] at h
        cases hxs : xs.mapM f with
        | ok zs =>
          rw [hxs] at h
          cases h
        | error e' =>
          rw [hxs] at h
          cases h
          obtain ⟨before, bad, after, rfl, hbefore, hbad⟩ := ih.1 hxs
          exact ⟨x :: before, bad, after, rfl, List.forall_mem_cons.2 ⟨⟨y, hx⟩, hbefore⟩, hbad⟩
    · rintro ⟨before, bad, after, hsplit, hbefore, hbad⟩
      cases before with
      | nil =>
        cases hsplit
        rw [hbad]
        rfl
      | cons x' before =>
        cases hsplit
        obtain ⟨⟨y, hy⟩, hrest⟩ := List.forall_mem_cons.1 hbefore
        rw [hy, ih.2 ⟨before, bad, after, rfl, hrest, hbad⟩]
        rfl

end ClusterProbe
