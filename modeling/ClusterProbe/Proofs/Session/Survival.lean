import ClusterProbe.Proofs.Session.Routing

/-!
# Which calls a session survives

A call that has run to its end on an open session in sync leaves it so exactly when one whole frame
with its answer was read, whatever that answer means. Every other outcome has closed the session,
and from then on nothing is read or written, however many calls follow.
-/
namespace ClusterProbe

variable {t : ThreadId} {s : SessionId} {c : ConnectionId} {w w' : World} {v : Session}

namespace Frame

/-- Nothing but whole frames, empty ones among them. -/
inductive Whole : Bytes → Prop
  | nil : Whole []
  | empty {rest : Bytes} : Whole rest → Whole (List.replicate 4 0 ++ rest)
  | cons {payload rest : Bytes} : Announced payload.length → Whole rest →
      Whole (Bytes.bigEndian32 (UInt32.ofNat payload.length) ++ payload ++ rest)

theorem Whole.append {a b : Bytes} (ha : Whole a) (hb : Whole b) : Whole (a ++ b) := by
  induction ha with
  | nil => exact hb
  | empty _ ih =>
    rw [List.append_assoc]
    exact .empty ih
  | cons hp _ ih =>
    rw [List.append_assoc]
    exact .cons hp ih

theorem whole_segment (k : Nat) {payload : Bytes} (hp : Announced payload.length) :
    Whole (segment k payload) := by
  induction k with
  | zero =>
    have hframe := Whole.cons hp .nil
    rw [List.append_nil] at hframe
    exact hframe
  | succ k ih =>
    rw [segment, opening_succ]
    exact .empty ih

end Frame

/-- Session `s` is open on connection `c`, no call is under way, and the next byte to be read is the
first of a frame. -/
structure World.InSync (w : World) (s : SessionId) (c : ConnectionId) (v : Session) : Prop where
  free : w.Free s v
  isOpen : v.OpenOn c
  balanced : w.Balanced c
  whole : Frame.Whole (w.past.taken c)

/-- The failures that come after the answer has been read: the remote side reports an error, or
reports one that cannot be read. -/
def SessionError.isLate : SessionError → Bool
  | remote _ => true
  | protocol (.wire (.decode part _)) => part = "error status"
  | _ => false

def SessionError.isUndecodable : SessionError → Bool
  | protocol (.decode _ _) => true
  | _ => false

theorem SessionError.isLate_eq_false {e : SessionError} (h : e.breaksOff = true) :
    e.isLate = false := by
  cases e with
  | protocol error =>
    cases error with
    | wire error =>
      cases error with
      | decode part source =>
        have hpart : part = "response header" := of_decide_eq_true h
        rw [hpart]
        rfl
      | _ => rfl
    | _ => rfl
  | remote => cases h
  | _ => rfl

theorem SessionError.isUndecodable_eq_false {e : SessionError} (h : e.breaksOff = true) :
    e.isUndecodable = false := by
  cases e with
  | protocol error =>
    cases error with
    | decode => cases h
    | _ => rfl
  | _ => rfl

namespace Messenger

variable {α : Type} {m : Messenger} {method : RemoteMethod} {body : Bytes}

def keeps : Except SessionError α → Bool
  | .ok _ => true
  | .error e => e.isLate

def keepsTyped : Except SessionError α → Bool
  | .ok _ => true
  | .error e => e.isLate || e.isUndecodable

theorem keeps_verdict (response : ResponseFrame) : keeps (verdict response) = true := by
  unfold verdict
  split
  · split
    · rename_i e he
      unfold ResponseFrame.errorStatus Frame.decodeSection at he
      cases hdecode : Protobuf.Message.decode ErrorStatus (response.body.getD []) with
      | error source =>
        rw [hdecode] at he
        cases he
        rfl
      | ok status =>
        rw [hdecode] at he
        cases he
    · rfl
  · rfl

/-- A session is closed, with nothing read or written since, and no later call reads, writes or is
answered. -/
structure Silenced (s : SessionId) (c : ConnectionId) (w w' : World) : Prop where
  closed : ∃ v, w'.Free s v ∧ v.stream = none
  since : ∃ before after v, w'.past = w.past ++ (before ++ after) ∧ v.stream = none ∧
    after.stored s = [v] ∧ after.sent c = [] ∧ after.taken c = []
  later : ∀ turns w'', Session.Conversation s turns w' w'' →
    w''.past.sent c = w'.past.sent c ∧ w''.past.taken c = w'.past.taken c ∧
      ∀ turn ∈ turns, turn.isAnswered = false

/-- What a call with result `r` has done to its session, which was in sync in state `v`; `kept` says
whether the session has survived it. -/
structure Survival (m : Messenger) (c : ConnectionId) (v : Session) (w : World)
    (r : Except SessionError α) (kept : Bool) (w' : World) : Prop where
  inSync : (∃ v', w'.InSync m.session c v') ↔ kept = true
  answered : (∃ chunk response, w'.past.taken c = w.past.taken c ++ chunk ∧
    m.Brings (v.lastCallId + 1) chunk response) ↔ kept = true
  lost : kept = false → (∃ e, r = .error e ∧ e.breaksOff = true) ∧ Silenced m.session c w w'

theorem Failed.silenced {v' : Session} {sent taken : Bytes} {e : SessionError}
    (h : m.Failed c v v' sent taken w e w') (hfree : w'.Free m.session v') :
    Silenced m.session c w w' where
  closed := ⟨v', hfree, h.stream⟩
  since := by
    obtain ⟨w₁, ⟨⟨before, hbefore, _⟩, _⟩, ⟨⟨after, hafter, haccount⟩, _⟩⟩ := h.closing
    refine ⟨before, after, v', ?_, h.stream, congrArg Account.stored haccount,
      congrArg Account.sent haccount, congrArg Account.taken haccount⟩
    rw [hafter, hbefore, List.append_assoc]
  later := by
    intro turns w'' hconversation
    have hclosed : v'.isClosed = true := by
      simp [Session.isClosed, h.stream]
    obtain ⟨hsent, htaken, hall⟩ := Session.conversation_closed hconversation hclosed hfree c
    exact ⟨hsent, htaken, fun turn hmem => (hall turn hmem).1⟩

/-- Every exit of a call is either after the answer has been read or closes the session. -/
theorem survival_of_call {r : Except SessionError Bytes} (hv : w.InSync m.session c v)
    (hids : v.lastCallId < Int32.maxValue) (h : (m.call method body).Runs t w (some r) w') :
    m.Survival c v w r (keeps r) w' := by
  cases call_runs hv.isOpen hv.balanced.has hv.free h with
  | idle spans after result => exact absurd hids (result r rfl).2
  | @broken v' sent taken stored hungUp spans after closed begun recorded result =>
    obtain ⟨e, rfl, hfailed⟩ := result r rfl
    have hlate : keeps (.error e : Except SessionError Bytes) = false :=
      SessionError.isLate_eq_false hfailed.breaksOff
    refine ⟨?_, ?_, fun _ => ⟨⟨e, rfl, hfailed.breaksOff⟩, hfailed.silenced after⟩⟩
    · rw [hlate]
      refine ⟨?_, nofun⟩
      rintro ⟨v'', hsync⟩
      have hstream := hsync.isOpen.stream
      rw [hsync.free.unique after, hfailed.stream] at hstream
      cases hstream
    · rw [hlate]
      refine ⟨?_, nofun⟩
      rintro ⟨chunk, response, hchunk, hbrings⟩
      rw [spans.taken, List.append_cancel_left_eq] at hchunk
      rw [← hchunk] at hbrings
      exact absurd hbrings (hfailed.unanswered response)
  | @complete w₁ taken response asked answered brings after result =>
    obtain rfl := result r rfl
    have htaken : w'.past.taken c = w.past.taken c ++ taken := (asked.trans answered).taken
    have hwhole : Frame.Whole (w'.past.taken c) := by
      obtain ⟨⟨k, payload, rest, rfl, hannounced, _⟩, _⟩ := brings
      rw [htaken]
      exact hv.whole.append (Frame.whole_segment k hannounced)
    refine ⟨?_, ?_, ?_⟩
    · refine ⟨fun _ => keeps_verdict response, fun _ => ⟨v.begun.finish, ?_⟩⟩
      exact ⟨after, hv.isOpen.finish, h.balanced hv.balanced, hwhole⟩
    · exact ⟨fun _ => keeps_verdict response, fun _ => ⟨taken, response, htaken, brings⟩⟩
    · rw [keeps_verdict]
      nofun

/-- A call for a message is a call whose body is decoded at the end, where the session has been
given back already. -/
theorem survival_of_callTyped {A Q : Type} [Protobuf.Message A] [Protobuf.Message Q] {request : Q}
    {r : Except SessionError A} (hv : w.InSync m.session c v)
    (hids : v.lastCallId < Int32.maxValue)
    (h : (m.callTyped A method request).Runs t w (some r) w') :
    m.Survival c v w r (keepsTyped r) w' := by
  obtain ⟨r₀, w₁, hcall, hlast⟩ := (Job.runs_bind_some _ _ _).1 h
  cases r₀ with
  | error e =>
    obtain ⟨hr, rfl⟩ := hlast
    cases hr
    have hsurvival := survival_of_call hv hids hcall
    have hbreaks : e.isLate = false → e.breaksOff = true := by
      intro hlate
      obtain ⟨⟨e', he', hbreaks⟩, _⟩ := hsurvival.lost hlate
      cases he'
      exact hbreaks
    have hkept : keepsTyped (.error e : Except SessionError A) = e.isLate := by
      by_cases hlate : e.isLate = true
      · simp [keepsTyped, hlate]
      · rw [Bool.not_eq_true] at hlate
        simp [keepsTyped, hlate, SessionError.isUndecodable_eq_false (hbreaks hlate)]
    rw [hkept]
    refine ⟨hsurvival.inSync, hsurvival.answered, fun hlate => ?_⟩
    exact ⟨⟨e, rfl, hbreaks hlate⟩, (hsurvival.lost hlate).2⟩
  | ok bytes =>
    obtain ⟨hr, rfl⟩ := hlast
    cases hr
    have hsurvival := survival_of_call hv hids hcall
    have hkept : keepsTyped ((Protobuf.Message.decode A bytes).mapError fun e =>
        SessionError.protocol (.decode method e)) = true := by
      cases Protobuf.Message.decode A bytes <;> rfl
    rw [hkept]
    exact ⟨hsurvival.inSync, hsurvival.answered, nofun⟩

/-- **Session survival.** Every call that runs to its end on an open session in sync, with call
numbers left, has done to the session what its result says, whatever the peer did. -/
theorem call_survives (hv : w.InSync m.session c v) (hids : v.lastCallId < Int32.maxValue) :
    (∀ method body r w', (m.call method body).Runs t w (some r) w' →
      m.Survival c v w r (keeps r) w') ∧
    ∀ (A Q : Type) [Protobuf.Message A] [Protobuf.Message Q] method (request : Q) r w',
      (m.callTyped A method request).Runs t w (some r) w' →
        m.Survival c v w r (keepsTyped r) w' :=
  ⟨fun _ _ _ _ h => survival_of_call hv hids h,
    fun _ _ _ _ _ _ _ _ h => survival_of_callTyped hv hids h⟩

theorem answering_inSync :
    World.answering.InSync 0 0 { endpoint := ⟨"n1", 7100⟩, stream := some 0 } where
  free := rfl
  isOpen := ⟨rfl, rfl⟩
  balanced := World.answering_balanced
  whole := .nil

theorem call_survives_answered : ∃ r w', r.toOption = some [7] ∧
    (answering.call ⟨"Service", "Method"⟩ [1]).Runs 0 .answering (some r) w' ∧
      ∃ v, w'.InSync 0 0 v := by
  obtain ⟨r, w', hr, hrun⟩ := answering_runs
  have hsurvival := (call_survives answering_inSync (by decide)).1 _ _ r w' hrun
  refine ⟨r, w', hr, hrun, hsurvival.inSync.2 ?_⟩
  cases r with
  | ok => rfl
  | error => cases hr

end Messenger
end ClusterProbe
