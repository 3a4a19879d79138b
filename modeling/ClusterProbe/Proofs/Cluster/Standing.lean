import Mathlib.Logic.Function.Basic
import ClusterProbe.Proofs.Session.Call
import ClusterProbe.Cluster

/-!
# Where a thread stands

What a thread has been told so far decides what it may do next. For each session, a thread that
holds it knows whether it was closed when it took it, and does not open a closed one again. A thread
that looks up a server goes through the stages of a lookup: it gets a slot, looks into it, enters
it, fills it or leaves it as it was. A job obeys these rules if each effect is allowed where the
thread stands, whatever the answers were.
-/
namespace ClusterProbe

variable {α β : Type}

/-- How far a thread has got with looking up a server. -/
inductive Stage where
  /-- It does not look up a server. -/
  | outside
  | seeking (uuid : Uuid)
  | assigned (uuid : Uuid) (i : SlotId)
  /-- It has seen a host in its slot. -/
  | seen (uuid : Uuid) (i : SlotId) (host : Host)
  /-- The host that it has seen is defunct. -/
  | spent (uuid : Uuid) (i : SlotId) (host : Host)
  /-- It has the right to fill its slot. -/
  | entered (uuid : Uuid) (i : SlotId)
  /-- It has the right to fill its slot, and there is nothing in it. -/
  | vacant (uuid : Uuid) (i : SlotId)
  | filled (uuid : Uuid) (i : SlotId) (host : Host)

namespace Effect

def learns : Effect → Bool
  | slotHost _ | isDefunct _ => true
  | e => e.touchesPool

/-- The effects that depend on where a thread stands or move it on. -/
def matters : Effect → Bool
  | acquire _ | store _ _ | release _ => true
  | e => e.learns

theorem learns_of_not_matters {e : Effect} (h : e.matters = false) : e.learns = false := by
  cases e <;> first | exact h | cases h

theorem response_nonempty (e : Effect) : Nonempty e.Response := by
  cases e with
  | log | expect | store | release | enter | fill | leave => exact ⟨()⟩
  | clock | openSession | slot | evict => exact ⟨(0 : Nat)⟩
  | dial => exact ⟨.ok (0 : Nat)⟩
  | write => exact ⟨.ok (0 : Nat)⟩
  | flush | hangUp => exact ⟨.ok ()⟩
  | read | receive => exact ⟨.ok []⟩
  | acquire => exact ⟨{ endpoint := default, stream := none }⟩
  | isDefunct => exact ⟨false⟩
  | slotHost => exact ⟨none⟩
  | pooled => exact ⟨[]⟩

end Effect

namespace Stage

/-- What a thread may do about the pool. -/
def Allows : Stage → Effect → Prop
  | outside, e => e.learns = false
  | seeking u, .slot u' => u' = u
  | spent u i _, .evict u' i' => u' = u ∧ i' = i
  | assigned _ i, .enter i' => i' = i
  | vacant _ i, .fill i' _ => i' = i
  | vacant _ i, .leave i' => i' = i
  | filled _ i _, .leave i' => i' = i
  | _, e => e.touchesPool = false

def after : Stage → (e : Effect) → e.Response → Stage
  | seeking u, .slot _, i => assigned u i
  | spent u _ _, .evict _ _, i => assigned u i
  | assigned u i, .slotHost i', some h => if i' = i then seen u i h else assigned u i
  | seen u i h, .isDefunct s, true => if s = h.session then spent u i h else seen u i h
  | assigned u i, .enter _, _ => entered u i
  | entered u i, .slotHost i', some h => if i' = i then filled u i h else entered u i
  | entered u i, .slotHost i', none => if i' = i then vacant u i else entered u i
  | vacant u i, .fill _ h, _ => filled u i h
  | vacant u i, .leave _, _ => assigned u i
  | filled u i h, .leave _, _ => seen u i h
  | stage, _, _ => stage

variable {stage : Stage} {e : Effect}

theorem allows_of_not_learns (h : e.learns = false) : stage.Allows e := by
  cases stage with
  | outside => exact h
  | _ => cases e <;> first | rfl | cases h

/-- Only the pool, what is in a slot and whether a host is defunct move a lookup on. -/
theorem after_of_not_learns (h : e.learns = false) (r : e.Response) : stage.after e r = stage := by
  cases e <;> first | (cases stage <;> rfl) | cases h

section Inversion
variable {u : Uuid} {i : SlotId} {host : Host}

theorem vacant_of_fill {stage : Stage} (h : stage.Allows (.fill i host)) :
    ∃ u, stage = vacant u i := by
  cases stage with
  | vacant u j => exact ⟨u, congrArg (vacant u) (Eq.symm h)⟩
  | _ => cases h

theorem seeking_of_slot {stage : Stage} (h : stage.Allows (.slot u)) : stage = seeking u := by
  cases stage with
  | seeking u' => exact congrArg seeking (Eq.symm h)
  | _ => cases h

theorem spent_of_evict {stage : Stage} (h : stage.Allows (.evict u i)) :
    ∃ host, stage = spent u i host := by
  cases stage with
  | spent u' i' host =>
    obtain ⟨rfl, rfl⟩ := h
    exact ⟨host, rfl⟩
  | _ => cases h

end Inversion

end Stage

/-- Which sessions a thread holds, and whether each was closed when the thread took it. -/
abbrev Grip := SessionId → Option Bool

namespace Grip

/-- What a thread may do to sessions: it takes none twice, it records only the states of sessions
that it holds, and a closed one stays closed. -/
def Allows (grip : Grip) : Effect → Prop
  | .acquire s => grip s = none
  | .store s v => ∃ closed, grip s = some closed ∧ (closed = true → v.isClosed = true)
  | _ => True

def after (grip : Grip) : (e : Effect) → e.Response → Grip
  | .acquire s, v => Function.update grip s (some (Session.isClosed v))
  | .release s, _ => Function.update grip s none
  | _, _ => grip

def empty : Grip := fun _ => none

theorem allows_of_not_matters {grip : Grip} {e : Effect} (h : e.matters = false) :
    grip.Allows e := by
  cases e <;> trivial

theorem after_of_not_matters {grip : Grip} {e : Effect} (h : e.matters = false) (r : e.Response) :
    grip.after e r = grip := by
  cases e <;> first | rfl | cases h

end Grip

structure Standing where
  stage : Stage
  grip : Grip

namespace Standing

def Allows (st : Standing) (e : Effect) : Prop :=
  st.stage.Allows e ∧ st.grip.Allows e

def after (st : Standing) (e : Effect) (r : e.Response) : Standing :=
  ⟨st.stage.after e r, st.grip.after e r⟩

/-- A thread at this stage that holds no session. -/
def free (stage : Stage) : Standing := ⟨stage, .empty⟩

variable {st : Standing} {e : Effect}

theorem allows_of_not_matters (h : e.matters = false) : st.Allows e :=
  ⟨Stage.allows_of_not_learns (Effect.learns_of_not_matters h), Grip.allows_of_not_matters h⟩

theorem after_of_not_matters (h : e.matters = false) (r : e.Response) : st.after e r = st := by
  rw [after, Stage.after_of_not_learns (Effect.learns_of_not_matters h),
    Grip.after_of_not_matters h]

end Standing

namespace Job

/-- Each effect of the job is allowed where the thread stands, and the result goes with where it
stands at the end. -/
def Obeys (post : α → Standing → Prop) : Job α → Standing → Prop
  | done a, st => post a st
  | perform e next, st => st.Allows e ∧ ∀ r, (next r).Obeys post (st.after e r)

/-- The thread ends where it stood. -/
def Keeps (x : Job α) (st : Standing) : Prop :=
  x.Obeys (fun _ st' => st' = st) st

/-- What is left of a job after some answers. -/
inductive Remainder (job : Job α) : Job α → Prop
  | whole : job.Remainder job
  | after {e : Effect} {next : e.Response → Job α} (r : e.Response) :
      job.Remainder (.perform e next) → job.Remainder (next r)

variable {post post' : α → Standing → Prop} {st : Standing} {e : Effect} {x : Job α}

theorem Obeys.mono (h : x.Obeys post st) (himp : ∀ a st, post a st → post' a st) :
    x.Obeys post' st := by
  induction x generalizing st with
  | done a => exact himp a st h
  | perform e next ih => exact ⟨h.1, fun r => ih r (h.2 r)⟩

theorem obeys_bind {f : α → Job β} {post : β → Standing → Prop} :
    (x >>= f).Obeys post st ↔ x.Obeys (fun a st' => (f a).Obeys post st') st := by
  change (x.bind f).Obeys post st ↔ _
  induction x generalizing st with
  | done a => exact Iff.rfl
  | perform e next ih => exact and_congr Iff.rfl (forall_congr' fun r => ih r)

theorem Keeps.bind {f : α → Job β} {post : β → Standing → Prop} (h : x.Keeps st)
    (hf : ∀ a, (f a).Obeys post st) : (x >>= f).Obeys post st := by
  refine obeys_bind.2 (Obeys.mono h ?_)
  rintro a st' rfl
  exact hf a

theorem keeps_pure (a : α) (st : Standing) : (pure a : Job α).Keeps st := rfl

theorem keeps_ask (h : e.matters = false) (st : Standing) : (ask e).Keeps st :=
  ⟨Standing.allows_of_not_matters h, fun r => Standing.after_of_not_matters h r⟩

theorem obeys_ask_bind {f : e.Response → Job α} (h : st.Allows e)
    (hf : ∀ r, (f r).Obeys post (st.after e r)) : (ask e >>= f).Obeys post st := ⟨h, hf⟩

theorem keeps_log (level : LogLevel) (target message : String) (fields : List (String × String))
    (st : Standing) : (log level target message fields).Keeps st :=
  keeps_ask rfl st

section Outside
variable {stage : Stage} {grip : Grip}

/-- What is left of a job that has nothing to do with lookups has nothing to do with them either. -/
theorem Remainder.outside {x rest : Job α} {post : α → Standing → Prop} (h : x.Remainder rest)
    (hx : x.Obeys post ⟨.outside, grip⟩) : ∃ grip', rest.Obeys post ⟨.outside, grip'⟩ := by
  induction h with
  | whole => exact ⟨grip, hx⟩
  | after r _ ih =>
    obtain ⟨grip', hrest⟩ := ih
    exact ⟨_, hrest.2 r⟩

/-- A job that has nothing to do with lookups does not move one on. -/
theorem Obeys.past_outside {x : Job α} {f : α → Job β} {post₀ : α → Standing → Prop}
    {post : β → Standing → Prop} {grip₀ : Grip} (hx : x.Obeys post₀ ⟨.outside, grip₀⟩)
    (h : (x >>= f).Obeys post ⟨stage, grip⟩) : ∃ a grip', (f a).Obeys post ⟨stage, grip'⟩ := by
  induction x generalizing grip grip₀ with
  | done a => exact ⟨a, grip, h⟩
  | perform e next ih =>
    obtain ⟨r⟩ := e.response_nonempty
    have hnext := h.2 r
    have hlearns : e.learns = false := hx.1.1
    have hstage : stage.after e r = stage := Stage.after_of_not_learns hlearns r
    rw [Standing.after, hstage] at hnext
    exact ih r (hx.2 r) hnext

end Outside

end Job

open Job

variable (st : Standing)

namespace Stream

theorem writePieces_keeps (c : ConnectionId) (fuel : Nat) (bytes : Bytes) :
    (writePieces c fuel bytes).Keeps st := by
  induction fuel generalizing bytes with
  | zero => exact keeps_pure _ st
  | succ fuel ih =>
    cases bytes with
    | nil => exact keeps_pure _ st
    | cons b bytes =>
      refine (keeps_ask rfl st).bind fun r => ?_
      cases r with
      | error e => exact keeps_pure _ st
      | ok n => exact ih _

theorem writeAll_keeps (c : ConnectionId) (bytes : Bytes) : (writeAll c bytes).Keeps st :=
  writePieces_keeps st c bytes.length bytes

theorem sendHello_keeps (c : ConnectionId) : (sendHello c).Keeps st := by
  refine (keeps_ask rfl st).bind fun r => ?_
  cases r with
  | error e => exact keeps_pure _ st
  | ok n =>
    dsimp only
    split
    · refine (keeps_ask rfl st).bind fun r => ?_
      cases r with
      | error e => exact keeps_pure _ st
      | ok => exact (keeps_log _ _ _ _ st).bind fun _ => keeps_pure _ st
    · exact keeps_pure _ st

end Stream

namespace Messenger

theorem writeRequest_keeps (c : ConnectionId) (payload : Bytes) :
    (writeRequest c payload).Keeps st := by
  unfold writeRequest
  split
  · exact keeps_pure _ st
  · rename_i word _
    refine (Stream.writeAll_keeps st c word).bind fun r => ?_
    cases r with
    | error e => exact keeps_pure _ st
    | ok =>
      refine (Stream.writeAll_keeps st c payload).bind fun r => ?_
      cases r with
      | error e => exact keeps_pure _ st
      | ok => exact (keeps_ask rfl st).bind fun _ => keeps_pure _ st

theorem readResponse_keeps (m : Messenger) (c : ConnectionId) (callId : Int32) :
    (m.readResponse c callId).Keeps st := by
  refine (keeps_ask rfl st).bind fun _ => (keeps_ask rfl st).bind fun r => ?_
  cases r with
  | error e => exact keeps_pure _ st
  | ok payload =>
    dsimp only
    split
    · exact keeps_pure _ st
    · split
      · exact keeps_pure _ st
      · exact (keeps_ask rfl st).bind fun _ => keeps_pure _ st

theorem exchange_keeps (m : Messenger) (c : ConnectionId) (request : RequestFrame) :
    (m.exchange c request).Keeps st := by
  refine (writeRequest_keeps st c request.encode).bind fun r => ?_
  cases r with
  | error e => exact keeps_pure _ st
  | ok =>
    refine (readResponse_keeps st m c request.header.callId).bind fun r => ?_
    cases r with
    | error e => exact keeps_pure _ st
    | ok response =>
      dsimp only
      split <;> exact keeps_pure _ st

theorem interpret_keeps (m : Messenger) (method : RemoteMethod) (response : ResponseFrame) :
    (m.interpret method response).Keeps st := by
  unfold interpret
  dsimp only
  split
  · split
    · exact keeps_pure _ st
    · exact (keeps_log _ _ _ _ st).bind fun _ => keeps_pure _ st
  · exact (keeps_log _ _ _ _ st).bind fun _ => keeps_pure _ st

end Messenger
end ClusterProbe
