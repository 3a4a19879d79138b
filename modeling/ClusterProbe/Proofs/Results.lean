/-!
# Results

What comes of work that may fail: when work of several steps succeeds, and what went wrong
(`failureOf`) when it does not.
-/
namespace ClusterProbe

variable {ε δ α β : Type} {x : Except ε α}

theorem bind_eq_ok {f : α → Except ε β} {b : β} :
    (x >>= f) = .ok b ↔ ∃ a, x = .ok a ∧ f a = .ok b := by
  cases x with
  | error => exact ⟨nofun, fun ⟨_, h, _⟩ => nomatch h⟩
  | ok a => exact ⟨fun h => ⟨a, rfl, h⟩, fun ⟨_, h, hf⟩ => Except.ok.inj h ▸ hf⟩

theorem map_eq_ok {f : α → β} {b : β} :
    x.map f = .ok b ↔ ∃ a, x = .ok a ∧ f a = b := by
  cases x with
  | error => exact ⟨nofun, fun ⟨_, h, _⟩ => nomatch h⟩
  | ok a =>
    exact ⟨fun h => ⟨a, rfl, Except.ok.inj h⟩, fun ⟨_, h, hf⟩ => Except.ok.inj h ▸ congrArg _ hf⟩

theorem mapError_eq_ok {f : ε → δ} {a : α} :
    x.mapError f = .ok a ↔ x = .ok a := by
  cases x with
  | error => exact ⟨nofun, nofun⟩
  | ok => exact ⟨fun h => congrArg _ (Except.ok.inj h), fun h => congrArg _ (Except.ok.inj h)⟩

theorem toOption_eq_some {a : α} : x.toOption = some a ↔ x = .ok a := by
  cases x with
  | error => exact ⟨nofun, nofun⟩
  | ok => exact ⟨fun h => congrArg _ (Option.some.inj h), fun h => congrArg _ (Except.ok.inj h)⟩

/-- What went wrong. -/
def failureOf : Except ε α → Option ε
  | .error e => some e
  | .ok _ => none

/-- Work that starts only after other work fails with that, or by itself. -/
theorem failureOf_bind (x : Except ε α) (f : α → Except ε β) :
    failureOf (x >>= f) = (failureOf x).or (x.toOption.bind fun a => failureOf (f a)) := by
  cases x <;> rfl

theorem failureOf_mapError (f : ε → δ) : failureOf (x.mapError f) = (failureOf x).map f := by
  cases x <;> rfl

theorem toOption_mapError (f : ε → δ) : (x.mapError f).toOption = x.toOption := by
  cases x <;> rfl

theorem findSome?_cons (f : α → Option β) (a : α) (l : List α) :
    (a :: l).findSome? f = (f a).or (l.findSome? f) := by
  rw [List.findSome?_cons]
  cases f a <;> rfl

/-- Checks that are made in a row fail as the first one does that fails. -/
theorem failureOf_forM (f : α → Except ε Unit) (l : List α) :
    failureOf (l.forM f) = l.findSome? fun a => failureOf (f a) := by
  induction l with
  | nil => rfl
  | cons a l ih =>
    change failureOf (f a >>= fun _ => l.forM f) = _
    rw [failureOf_bind, ih, findSome?_cons]
    cases f a <;> rfl

end ClusterProbe
