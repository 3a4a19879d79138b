import ClusterProbe.Proofs.World.Ensemble

/-!
# A far end that sends in pieces

How a job goes when nobody disturbs it and the far end of the connection that it reads from has a
row of pieces to send: the next piece comes whenever the job has to wait for more, and behind the
last one the stream ends. What the job makes of the stream may or may not depend on where the cuts
between the pieces are.
-/
namespace ClusterProbe

variable {α : Type} {t : ThreadId} {c : ConnectionId} {w w' : World}

namespace World

/-- The far end of a connection says that nothing more will come. -/
def endStream? (c : ConnectionId) (w : World) : Option World :=
  w.bed.network.connections[c]?.map fun k =>
    { bed := w.bed.onNetwork (Network.setConnection c { k with toClient := k.toClient.close })
      past := w.past ++ [.arrived c []] }

theorem endStream?_eq {k : Connection} (hk : w.bed.network.connections[c]? = some k) :
    ∃ w', w.endStream? c = some w' ∧ w'.past = w.past ++ [.arrived c []] ∧
      w'.bed.network.connections[c]? = some { k with toClient := k.toClient.close } := by
  refine ⟨_, Option.map_eq_some_iff.2 ⟨k, hk, rfl⟩, rfl, ?_⟩
  exact List.getElem?_set_self (List.getElem?_eq_some_iff.1 hk).1

theorem deliver?_eq {k : Connection} (piece : Bytes)
    (hk : w.bed.network.connections[c]? = some k) (hopen : k.toClient.closed = false) :
    ∃ w', w.deliver? c piece = some w' ∧ w'.past = w.past ++ [.arrived c piece] ∧
      w'.bed.network.connections[c]? =
        some { k with toClient.buffer := k.toClient.buffer ++ piece } := by
  let k' : Connection := { k with toClient.buffer := k.toClient.buffer ++ piece }
  refine ⟨⟨w.bed.onNetwork (Network.setConnection c k'), _⟩, ?_, rfl, ?_⟩
  · simp only [deliver?, hk, hopen, Bool.false_eq_true, if_false, k']
  · exact List.getElem?_set_self (List.getElem?_eq_some_iff.1 hk).1

theorem moves_of_endStream (h : w.endStream? c = some w') : w.Moves w' := by
  obtain ⟨k, hk, rfl⟩ := Option.map_eq_some_iff.1 h
  have hmoves : k.Moves [] { k with toClient := k.toClient.close } :=
    ⟨(List.append_nil _).symm, fun _ => ⟨rfl, rfl⟩, id, rfl, rfl, rfl⟩
  exact .farEnd _ hk hmoves rfl rfl

/-- The answer to an effect, once as many of the pieces have come as it takes; and what is left of
them. -/
def await (t : ThreadId) (e : Effect) (pieces : List Bytes) (w : World) :
    Option (e.Response × List Bytes × World) :=
  match w.bed.answer t e with
  | (some r, bed) => some (r, pieces, w.after t e r bed)
  | (none, bed) =>
    let waiting : World := { bed, past := w.past ++ w.taking e bed }
    match e.source?, pieces with
    | none, _ => none
    | some c, piece :: pieces => (waiting.deliver? c piece).bind (await t e pieces)
    | some c, [] => (waiting.endStream? c).bind fun w =>
      match w.bed.answer t e with
      | (some r, bed) => some (r, [], w.after t e r bed)
      | (none, _) => none

theorem await_of_answer {e : Effect} {r : e.Response} {bed : Testbed} (pieces : List Bytes)
    (h : w.bed.answer t e = (some r, bed)) :
    w.await t e pieces = some (r, pieces, w.after t e r bed) := by
  rw [await.eq_def]
  simp only [h]

theorem await_cons_of_wait {e : Effect} {bed : Testbed} {w₁ : World} {piece : Bytes}
    (pieces : List Bytes) (h : w.bed.answer t e = (none, bed)) (hsource : e.source? = some c)
    (hdeliver : deliver? c piece { bed, past := w.past ++ w.taking e bed } = some w₁) :
    w.await t e (piece :: pieces) = w₁.await t e pieces := by
  rw [await.eq_def]
  simp only [h, hsource, hdeliver, Option.bind_some]

theorem await_nil_of_wait {e : Effect} {r : e.Response} {bed bed' : Testbed} {w₁ : World}
    (h : w.bed.answer t e = (none, bed)) (hsource : e.source? = some c)
    (hend : endStream? c { bed, past := w.past ++ w.taking e bed } = some w₁)
    (hanswer : w₁.bed.answer t e = (some r, bed')) : w.await t e [] = w₁.await t e [] := by
  rw [await_of_answer [] hanswer, await.eq_def]
  simp only [h, hsource, hend, hanswer, Option.bind_some]

theorem Waits.settles {e : Effect} {r : e.Response} {w₁ : World} (h : Waits t e w w₁)
    (hs : w₁.Settles t e r w') : w.Settles t e r w' := by
  obtain ⟨w₂, hwaits, hanswers⟩ := hs
  exact ⟨w₂, h.trans hwaits, hanswers⟩

theorem settles_of_await {e : Effect} {r : e.Response} {pieces left : List Bytes}
    (h : w.await t e pieces = some (r, left, w')) : w.Settles t e r w' := by
  induction pieces generalizing w with
  | nil =>
    rw [await] at h
    split at h
    · rename_i r' bed hanswer
      cases h
      exact ⟨w, .refl, bed, .inl hanswer, rfl⟩
    · rename_i bed hwait
      split at h
      · cases h
      · rename_i hpieces
        cases hpieces
      · obtain ⟨w₁, hend, h⟩ := Option.bind_eq_some_iff.1 h
        have hwaits : Waits t e w w₁ :=
          .moves (.stalls .refl ⟨bed, hwait, rfl⟩) (moves_of_endStream hend)
        split at h
        · rename_i r' bed' hanswer
          cases h
          exact hwaits.settles ⟨w₁, .refl, bed', .inl hanswer, rfl⟩
        · cases h
  | cons piece pieces ih =>
    rw [await] at h
    split at h
    · rename_i r' bed hanswer
      cases h
      exact ⟨w, .refl, bed, .inl hanswer, rfl⟩
    · rename_i bed hwait
      split at h
      · cases h
      · rename_i c piece' pieces' _ hpieces
        cases hpieces
        obtain ⟨w₁, hdeliver, h⟩ := Option.bind_eq_some_iff.1 h
        have hwaits : Waits t e w w₁ :=
          .moves (.stalls .refl ⟨bed, hwait, rfl⟩) (moves_of_deliver hdeliver)
        exact hwaits.settles (ih h)
      · rename_i hpieces
        cases hpieces

/-- What a job gives in the end, with the pieces that were never needed. -/
def fed (t : ThreadId) : Job α → List Bytes → World → Option (α × List Bytes × World)
  | .done a, pieces, w => some (a, pieces, w)
  | .perform e next, pieces, w =>
    (w.await t e pieces).bind fun (r, pieces, w) => fed t (next r) pieces w

theorem fed_ask_bind {β : Type} (t : ThreadId) (e : Effect) (f : e.Response → Job β)
    (pieces : List Bytes) (w : World) :
    w.fed t (Job.ask e >>= f) pieces =
      (w.await t e pieces).bind fun (r, pieces, w) => fed t (f r) pieces w :=
  rfl

theorem runs_of_fed {job : Job α} {pieces left : List Bytes} {a : α}
    (h : w.fed t job pieces = some (a, left, w')) : job.Runs t w (some a) w' := by
  induction job generalizing w pieces with
  | done b =>
    cases h
    exact ⟨rfl, rfl⟩
  | perform e next ih =>
    obtain ⟨⟨r, more, w₁⟩, hawait, hnext⟩ := Option.bind_eq_some_iff.1 h
    exact .inl ⟨r, w₁, settles_of_await hawait, ih r hnext⟩

end World
end ClusterProbe
