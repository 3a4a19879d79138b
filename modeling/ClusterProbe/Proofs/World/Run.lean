import ClusterProbe.Proofs.World

/-!
# Runs of a job

`Job.Runs` relates a job and a world to what can come of it: a result, or nothing when the job is
given up while it waits for an answer. Between any two answers the far ends may move. A run of a
sequence of jobs is a sequence of runs, and what every step keeps is kept by whole runs.
-/
namespace ClusterProbe

variable {α β : Type} {t : ThreadId}

namespace World

/-- What may happen while thread `t` waits for the answer to `e`. -/
inductive Waits (t : ThreadId) (e : Effect) (w : World) : World → Prop
  | refl : Waits t e w w
  | moves {w₁ w₂ : World} : Waits t e w w₁ → w₁.Moves w₂ → Waits t e w w₂
  | stalls {w₁ w₂ : World} : Waits t e w w₁ → w₁.Stalls t e w₂ → Waits t e w w₂

/-- Thread `t` asks for `e` and gets `r`, after it has waited if it had to. -/
def Settles (w : World) (t : ThreadId) (e : Effect) (r : e.Response) (w' : World) : Prop :=
  ∃ w₁, Waits t e w w₁ ∧ w₁.Answers t e r w'

theorem Waits.invariant {P : World → Prop} {e : Effect} {w w' : World} (h : Waits t e w w')
    (moves : ∀ {w w'}, World.Moves w w' → P w → P w')
    (stalls : ∀ {w w'}, World.Stalls w t e w' → P w → P w') (hw : P w) : P w' := by
  induction h with
  | refl => exact hw
  | moves _ hm ih => exact moves hm ih
  | stalls _ hs ih => exact stalls hs ih

end World

namespace Job

/-- Thread `t` does a job in world `w` and leaves world `w'`, with a result unless given up. -/
def Runs (t : ThreadId) : Job α → World → Option α → World → Prop
  | done a => fun w o w' => o = some a ∧ w' = w
  | perform e next => fun w o w' =>
      (∃ r w₁, w.Settles t e r w₁ ∧ (next r).Runs t w₁ o w') ∨ (o = none ∧ World.Waits t e w w')

variable {w w' : World}

@[simp] theorem runs_done (a : α) (o : Option α) :
    (done a).Runs t w o w' ↔ o = some a ∧ w' = w := Iff.rfl

@[simp] theorem runs_pure (a : α) (o : Option α) :
    (pure a : Job α).Runs t w o w' ↔ o = some a ∧ w' = w := Iff.rfl

theorem runs_ask (e : Effect) (o : Option e.Response) :
    (ask e).Runs t w o w' ↔
      (∃ r, w.Settles t e r w' ∧ o = some r) ∨ (o = none ∧ World.Waits t e w w') := by
  constructor
  · rintro (⟨r, w₁, hs, rfl, rfl⟩ | h)
    · exact Or.inl ⟨r, hs, rfl⟩
    · exact Or.inr h
  · rintro (⟨r, hs, rfl⟩ | h)
    · exact Or.inl ⟨r, w', hs, rfl, rfl⟩
    · exact Or.inr h

theorem runs_ask_bind (e : Effect) (f : e.Response → Job α) (o : Option α) :
    (ask e >>= f).Runs t w o w' ↔
      (∃ r w₁, w.Settles t e r w₁ ∧ (f r).Runs t w₁ o w') ∨ (o = none ∧ World.Waits t e w w') :=
  Iff.rfl

theorem runs_bind (x : Job α) (f : α → Job β) (o : Option β) :
    (x >>= f).Runs t w o w' ↔
      (∃ a w₁, x.Runs t w (some a) w₁ ∧ (f a).Runs t w₁ o w') ∨
        (o = none ∧ x.Runs t w none w') := by
  change (x.bind f).Runs t w o w' ↔ _
  induction x generalizing w with
  | done a =>
    simp only [Job.bind, runs_done, Option.some.injEq, reduceCtorEq, false_and, and_false, or_false]
    constructor
    · exact fun h => ⟨a, w, ⟨rfl, rfl⟩, h⟩
    · rintro ⟨_, _, ⟨rfl, rfl⟩, h⟩
      exact h
  | perform e next ih =>
    simp only [Job.bind, Runs, ih, reduceCtorEq, false_and, or_false, true_and]
    constructor
    · rintro (⟨r, w₁, hs, ⟨a, w₂, hx, hf⟩ | ⟨rfl, hx⟩⟩ | ⟨rfl, hw⟩)
      · exact Or.inl ⟨a, w₂, ⟨r, w₁, hs, hx⟩, hf⟩
      · exact Or.inr ⟨rfl, Or.inl ⟨r, w₁, hs, hx⟩⟩
      · exact Or.inr ⟨rfl, Or.inr hw⟩
    · rintro (⟨a, w₂, ⟨r, w₁, hs, hx⟩, hf⟩ | ⟨rfl, ⟨r, w₁, hs, hx⟩ | hw⟩)
      · exact Or.inl ⟨r, w₁, hs, Or.inl ⟨a, w₂, hx, hf⟩⟩
      · exact Or.inl ⟨r, w₁, hs, Or.inr ⟨rfl, hx⟩⟩
      · exact Or.inr ⟨rfl, hw⟩

/-- A job that gives a fixed result in the end has come as far as what stands before the result. -/
theorem Runs.before_pure {x : Job Unit} {b : β} {o : Option β}
    (h : (x >>= fun _ => pure b).Runs t w o w') :
    ∃ o', x.Runs t w o' w' ∧ ∀ r, o = some r → r = b ∧ o' = some () := by
  rcases (runs_bind _ _ _).1 h with ⟨_, w₁, hx, rfl, rfl⟩ | ⟨rfl, hx⟩
  · exact ⟨_, hx, fun r hr => ⟨(Option.some.inj hr).symm, rfl⟩⟩
  · exact ⟨none, hx, fun r hr => by cases hr⟩

theorem runs_ask_bind_some (e : Effect) (f : e.Response → Job α) (a : α) :
    (ask e >>= f).Runs t w (some a) w' ↔
      ∃ r w₁, w.Settles t e r w₁ ∧ (f r).Runs t w₁ (some a) w' := by
  rw [runs_ask_bind]
  simp

theorem runs_bind_some (x : Job α) (f : α → Job β) (b : β) :
    (x >>= f).Runs t w (some b) w' ↔
      ∃ a w₁, x.Runs t w (some a) w₁ ∧ (f a).Runs t w₁ (some b) w' := by
  rw [runs_bind]
  simp

/-- What is kept by every move of a far end, every wait and every answer is kept by a run. -/
theorem Runs.invariant {P : World → Prop} {job : Job α} {o : Option α}
    (h : job.Runs t w o w') (moves : ∀ {w w'}, World.Moves w w' → P w → P w')
    (stalls : ∀ {e w w'}, World.Stalls w t e w' → P w → P w')
    (answers : ∀ {e r w w'}, World.Answers w t e r w' → P w → P w') (hw : P w) : P w' := by
  induction job generalizing w with
  | done a =>
    obtain ⟨_, rfl⟩ := h
    exact hw
  | perform e next ih =>
    rcases h with ⟨r, w₁, ⟨w₀, hwait, hanswer⟩, hnext⟩ | ⟨_, hwait⟩
    · exact ih r hnext (answers hanswer (hwait.invariant moves stalls hw))
    · exact hwait.invariant moves stalls hw

theorem Runs.past {job : Job α} {o : Option α} (h : job.Runs t w o w') :
    ∃ events, w'.past = w.past ++ events := by
  refine h.invariant (P := fun w' => ∃ events, w'.past = w.past ++ events) ?_ ?_ ?_
    ⟨[], (List.append_nil _).symm⟩
  · rintro w₁ w₂ hm ⟨events, hevents⟩
    cases hm with
    | farEnd network => exact ⟨_, by rw [hevents, List.append_assoc]⟩
    | elsewhere network => exact ⟨events, hevents⟩
  · rintro e w₁ w₂ ⟨bed, _, rfl⟩ ⟨events, hevents⟩
    exact ⟨_, by rw [hevents, List.append_assoc]⟩
  · rintro e r w₁ w₂ ⟨bed, _, rfl⟩ ⟨events, hevents⟩
    exact ⟨_, by rw [World.after, hevents, List.append_assoc]⟩

end Job

namespace World

def deliver? (c : ConnectionId) (bytes : Bytes) (w : World) : Option World :=
  match w.bed.network.connections[c]? with
  | none => none
  | some k =>
    let k' := { k with toClient.buffer := k.toClient.buffer ++ bytes }
    if k.toClient.closed then none
    else some
      { bed := w.bed.onNetwork (Network.setConnection c k')
        past := w.past ++ [.arrived c bytes] }

theorem moves_of_deliver {c : ConnectionId} {bytes : Bytes} {w w' : World}
    (h : w.deliver? c bytes = some w') : w.Moves w' := by
  unfold deliver? at h
  split at h
  · cases h
  · rename_i k hk
    dsimp only at h
    split at h
    · cases h
    · rename_i hopen
      cases h
      have hmoves : k.Moves bytes { k with toClient.buffer := k.toClient.buffer ++ bytes } :=
        ⟨rfl, fun hclosed => absurd hclosed hopen, id, rfl, rfl, rfl⟩
      exact .farEnd _ hk hmoves rfl rfl

/-- What a job gives when nobody disturbs it and the far end of the connection that it reads from
sends the next of these pieces whenever the job waits. -/
def play (t : ThreadId) : Job α → List Bytes → World → Option (α × World)
  | .done a, _, w => some (a, w)
  | .perform e next, pieces, w =>
    match w.bed.answer t e with
    | (some r, bed) => play t (next r) pieces (w.after t e r bed)
    | (none, bed) =>
      match e.source?, pieces with
      | some c, piece :: pieces =>
        match deliver? c piece { bed, past := w.past ++ w.taking e bed } with
        | none => none
        | some w =>
          match w.bed.answer t e with
          | (some r, bed) => play t (next r) pieces (w.after t e r bed)
          | (none, _) => none
      | _, _ => none

theorem runs_of_play {job : Job α} {pieces : List Bytes} {w w' : World} {a : α}
    (h : w.play t job pieces = some (a, w')) : job.Runs t w (some a) w' := by
  induction job generalizing w pieces with
  | done b =>
    cases h
    exact ⟨rfl, rfl⟩
  | perform e next ih =>
    simp only [play] at h
    split at h
    · rename_i r bed hanswer
      exact Or.inl ⟨r, _, ⟨w, .refl, bed, Or.inl hanswer, rfl⟩, ih r h⟩
    · rename_i bed hwait
      split at h
      · split at h
        · cases h
        · rename_i w₁ hdeliver
          split at h
          · rename_i r bed' hanswer
            have hwaits : Waits t e w w₁ :=
              .moves (.stalls .refl ⟨bed, hwait, rfl⟩) (moves_of_deliver hdeliver)
            exact Or.inl ⟨r, _, ⟨w₁, hwaits, bed', Or.inl hanswer, rfl⟩, ih r h⟩
          · cases h
      · cases h

/-- The same, and then the thread has come to its end. -/
def visit (t : ThreadId) (job : Job α) (pieces : List Bytes) (w : World) : Option (α × World) :=
  (w.play t job pieces).map fun x =>
    (x.1, { x.2 with bed := x.2.bed.onNetwork (Network.keepAll t) })

end World
end ClusterProbe
