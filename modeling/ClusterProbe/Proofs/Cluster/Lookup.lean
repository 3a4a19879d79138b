import ClusterProbe.Proofs.Cluster.Standing

/-!
# Jobs that obey the rules

Calls on hosts, closing and connecting leave a thread where it stood, and a session that was closed
when it was taken is still closed when it is given back. A lookup goes through its stages in order,
and ends with the host that it has seen in its slot, or with no slot in its hands.
-/
namespace ClusterProbe

open Job

variable {stage : Stage} {s : SessionId} {closed : Bool}

namespace Standing

def holding (stage : Stage) (s : SessionId) (closed : Bool) : Standing :=
  ⟨stage, Function.update Grip.empty s (some closed)⟩

theorem after_acquire (v : Session) :
    (free stage).after (.acquire s) v = holding stage s v.isClosed := by
  cases stage <;> rfl

theorem after_release (r : Unit) : (holding stage s closed).after (.release s) r = free stage := by
  have hgrip :
      Function.update (Function.update Grip.empty s (some closed)) s none = Grip.empty := by
    rw [Function.update_idem]
    exact Function.update_eq_self s Grip.empty
  cases stage <;> exact congrArg (Standing.mk _) hgrip

section Looking
variable {uuid : Uuid} {i : SlotId} (h : Host)

theorem after_assigned : (free (.seeking uuid)).after (.slot uuid) i = free (.assigned uuid i) :=
  rfl

theorem after_unseen :
    (free (.assigned uuid i)).after (.slotHost i) none = free (.assigned uuid i) := rfl

theorem after_seen :
    (free (.assigned uuid i)).after (.slotHost i) (some h) = free (.seen uuid i h) :=
  congrArg free (if_pos rfl)

theorem after_spent :
    (free (.seen uuid i h)).after (.isDefunct h.session) true = free (.spent uuid i h) :=
  congrArg free (if_pos rfl)

theorem after_entered (r : Unit) :
    (free (.assigned uuid i)).after (.enter i) r = free (.entered uuid i) := rfl

theorem after_filled :
    (free (.entered uuid i)).after (.slotHost i) (some h) = free (.filled uuid i h) :=
  congrArg free (if_pos rfl)

theorem after_vacant : (free (.entered uuid i)).after (.slotHost i) none = free (.vacant uuid i) :=
  congrArg free (if_pos rfl)

end Looking

end Standing

namespace Session

theorem store_keeps {v : Session} (h : closed = true → v.isClosed = true) :
    (ask (.store s v)).Keeps (.holding stage s closed) := by
  refine ⟨⟨Stage.allows_of_not_learns rfl, closed, Function.update_self .., h⟩, fun r => ?_⟩
  cases stage <;> rfl

theorem guarded_keeps {α : Type} {body : Session → Job α}
    (h : ∀ v, (body v).Keeps (.holding stage s v.isClosed)) :
    (guarded s body).Keeps (.free stage) := by
  refine obeys_ask_bind ⟨Stage.allows_of_not_learns rfl, rfl⟩ fun v => ?_
  rw [Standing.after_acquire]
  refine (h v).bind fun a => ?_
  refine obeys_ask_bind ⟨Stage.allows_of_not_learns rfl, trivial⟩ fun r => ?_
  exact Standing.after_release r

theorem abort_keeps (v : Session) : (abort s v).Keeps (.holding stage s closed) := by
  refine (store_keeps fun _ => rfl).bind fun _ => ?_
  split
  · refine (keeps_log ..).bind fun _ => (keeps_ask rfl _).bind fun r => ?_
    cases r with
    | error e => exact keeps_log ..
    | ok => exact keeps_pure ..
  · exact keeps_pure ..

theorem isClosed_of_start {v : Session} {x : ConnectionId × Int32 × Session}
    (h : v.start = .ok x) (hflight : v.inFlight = false) : v.isClosed = false := by
  cases hstream : v.stream with
  | none =>
    simp only [start, open?, hstream] at h
    cases h
  | some c => simp [isClosed, hstream, hflight]

/-- A call that gets its number has found the session open. -/
theorem beginCall_obeys (v : Session) :
    (beginCall s v).Obeys (fun r st => st = .holding stage s v.isClosed ∧
      ∀ x, r = .ok x → v.isClosed = false) (.holding stage s v.isClosed) := by
  unfold beginCall
  split
  · refine (keeps_log ..).bind fun _ => (abort_keeps v).bind fun _ => ⟨rfl, ?_⟩
    exact fun x hx => by cases hx
  · rename_i hflight
    split
    · exact ⟨rfl, fun x hx => by cases hx⟩
    · rename_i hstart
      have hopen := isClosed_of_start hstart (Bool.eq_false_iff.2 hflight)
      refine (store_keeps ?_).bind fun _ => ⟨rfl, fun _ _ => hopen⟩
      rw [hopen]
      exact nofun

theorem close_keeps : (close s).Keeps (.free stage) := by
  refine obeys_ask_bind ⟨Stage.allows_of_not_learns rfl, rfl⟩ fun v => ?_
  rw [Standing.after_acquire]
  split
  · refine obeys_ask_bind ⟨Stage.allows_of_not_learns rfl, trivial⟩ fun r => ?_
    exact Standing.after_release r
  · refine (store_keeps fun _ => rfl).bind fun _ => ?_
    refine obeys_ask_bind ⟨Stage.allows_of_not_learns rfl, trivial⟩ fun r => ?_
    rw [Standing.after_release]
    refine (keeps_log ..).bind fun _ => (keeps_ask rfl _).bind fun r => ?_
    cases r <;> exact keeps_pure ..

end Session

namespace Messenger

theorem callHeld_keeps (m : Messenger) (method : RemoteMethod) (body : Bytes) (v : Session) :
    (m.callHeld method body v).Keeps (.holding stage m.session v.isClosed) := by
  refine obeys_bind.2 ((Session.beginCall_obeys v).mono ?_)
  rintro r st ⟨rfl, hopen⟩
  cases r with
  | error e => exact keeps_pure ..
  | ok x =>
    refine (keeps_log ..).bind fun _ => (exchange_keeps _ m ..).bind fun r => ?_
    cases r with
    | error e =>
      exact (keeps_log ..).bind fun _ => (Session.abort_keeps _).bind fun _ => keeps_pure ..
    | ok response =>
      refine (Session.store_keeps ?_).bind fun _ => interpret_keeps ..
      rw [hopen x rfl]
      exact nofun

theorem call_keeps (m : Messenger) (method : RemoteMethod) (body : Bytes) :
    (m.call method body).Keeps (.free stage) :=
  Session.guarded_keeps (m.callHeld_keeps method body)

end Messenger

theorem Service.call_keeps {Q : Type} [Protobuf.Message Q] (A : Type) [Protobuf.Message A]
    (m : Messenger) (method : RemoteMethod) (request : Q) :
    (Service.call A m method request).Keeps (.free stage) := by
  refine (keeps_log ..).bind fun _ => (m.call_keeps method _).bind fun r => ?_
  cases r <;> exact keeps_pure ..

theorem Session.connect_keeps {probe : Session.Probe} (endpoint : Endpoint)
    (h : ∀ s, (probe s).Keeps (.free stage)) :
    (Session.connect endpoint probe).Keeps (.free stage) := by
  refine (keeps_log ..).bind fun _ => (keeps_ask rfl _).bind fun r => ?_
  cases r with
  | error e => exact keeps_pure ..
  | ok c =>
    refine (Stream.sendHello_keeps _ c).bind fun r => ?_
    cases r with
    | error e => exact (keeps_ask rfl _).bind fun _ => keeps_pure ..
    | ok =>
      refine (keeps_ask rfl _).bind fun s => (h s).bind fun r => ?_
      cases r with
      | error source =>
        refine (keeps_log ..).bind fun _ => close_keeps.bind fun r => ?_
        cases r with
        | error e => exact (keeps_log ..).bind fun _ => keeps_pure ..
        | ok => exact keeps_pure ..
      | ok => exact (keeps_log ..).bind fun _ => keeps_pure ..

namespace Host

theorem connect_keeps (endpoint : Endpoint) (timeoutMillis : UInt32) :
    (connect endpoint timeoutMillis).Keeps (.free stage) := by
  have hprobe (s : SessionId) :
      (Session.pingProbe endpoint timeoutMillis s).Keeps (.free stage) :=
    (Service.call_keeps ..).bind fun _ => keeps_pure ..
  refine (Session.connect_keeps endpoint hprobe).bind fun r => ?_
  cases r with
  | error e => exact keeps_pure ..
  | ok s =>
    have hfetch (m : Messenger) : (fetchStatus m).Keeps (.free stage) := by
      refine (Service.call_keeps ..).bind fun r => ?_
      cases r with
      | error e => exact keeps_pure ..
      | ok response =>
        dsimp only
        split <;> exact keeps_pure ..
    refine (hfetch _).bind fun r => ?_
    cases r with
    | error e =>
      refine Session.close_keeps.bind fun r => ?_
      cases r with
      | error e => exact (keeps_log ..).bind fun _ => keeps_pure ..
      | ok => exact keeps_pure ..
    | ok status => exact (keeps_log ..).bind fun _ => keeps_pure ..

theorem close_keeps (h : Host) : h.close.Keeps (.free stage) :=
  Session.close_keeps.bind fun _ => keeps_pure ..

end Host

namespace Cluster

theorem closeQuietly_keeps (h : Host) : (closeQuietly h).Keeps (.free stage) := by
  refine h.close_keeps.bind fun r => ?_
  cases r with
  | error e => exact keeps_log ..
  | ok => exact keeps_pure ..

theorem trySeed_keeps (timeoutMillis : UInt32) (seed : Endpoint) :
    (trySeed timeoutMillis seed).Keeps (.free stage) := by
  refine (Host.connect_keeps seed timeoutMillis).bind fun r => ?_
  cases r with
  | error e => exact (keeps_log ..).bind fun _ => keeps_pure ..
  | ok host =>
    refine (Service.call_keeps ..).bind fun r => ?_
    cases r with
    | error e => exact (closeQuietly_keeps host).bind fun _ => keeps_pure ..
    | ok response =>
      dsimp only
      split
      · exact (closeQuietly_keeps host).bind fun _ => (keeps_log ..).bind fun _ => keeps_pure ..
      · exact (closeQuietly_keeps host).bind fun _ => keeps_pure ..
      · exact (keeps_log ..).bind fun _ => keeps_pure ..

theorem connect_keeps (timeoutMillis : UInt32) (seeds : List Endpoint) :
    (connect timeoutMillis seeds).Keeps (.free stage) := by
  induction seeds with
  | nil => exact keeps_pure ..
  | cons seed seeds ih =>
    refine (trySeed_keeps timeoutMillis seed).bind fun o => ?_
    cases o with
    | some result => exact keeps_pure ..
    | none => exact ih

theorem clusterConfig_keeps (c : Cluster) : c.clusterConfig.Keeps (.free stage) := by
  refine (Service.call_keeps ..).bind fun r => ?_
  cases r with
  | error e => exact keeps_pure ..
  | ok response =>
    dsimp only
    split <;> exact keeps_pure ..

theorem listMasters_keeps (c : Cluster) : c.listMasters.Keeps (.free stage) := by
  refine (Service.call_keeps ..).bind fun r => ?_
  cases r with
  | error e => exact keeps_pure ..
  | ok response =>
    dsimp only
    split <;> exact keeps_pure ..

/-- Where a lookup may end: with the host in its slot, or without a slot to fill. -/
def Ends (uuid : Uuid) : Except ClientError Host → Standing → Prop
  | .ok h, st => ∃ i, st = .free (.seen uuid i h)
  | .error _, st => st = .free (.seeking uuid) ∨ ∃ i, st = .free (.assigned uuid i)

variable {uuid : Uuid} {i : SlotId}

theorem settle_obeys (result : Except ClientError Host) :
    (settle i result).Obeys (Ends uuid) (.free (.vacant uuid i)) := by
  cases result with
  | error e => exact obeys_ask_bind ⟨rfl, trivial⟩ fun _ => Or.inr ⟨i, rfl⟩
  | ok h =>
    refine obeys_ask_bind ⟨rfl, trivial⟩ fun _ => ?_
    exact obeys_ask_bind ⟨rfl, trivial⟩ fun _ => ⟨i, rfl⟩

/-- Only a thread that has found its slot empty may settle what comes of it. -/
theorem vacant_of_settle {grip : Grip} {result : Except ClientError Host}
    (h : (settle i result).Obeys (Ends uuid) ⟨stage, grip⟩) : stage = .vacant uuid i := by
  cases result with
  | error e =>
    obtain ⟨⟨hallows, _⟩, hend⟩ := h
    cases stage with
    | vacant u' j =>
      cases hallows
      rcases hend () with hend | ⟨j, hend⟩
      · cases congrArg Standing.stage hend
      · cases congrArg Standing.stage hend
        rfl
    | filled u' j host =>
      rcases hend () with hend | ⟨j, hend⟩ <;> cases congrArg Standing.stage hend
    | _ => cases hallows
  | ok host =>
    obtain ⟨⟨hallows, _⟩, hnext⟩ := h
    obtain ⟨u', rfl⟩ := Stage.vacant_of_fill hallows
    obtain ⟨_, hend⟩ := hnext ()
    obtain ⟨j, hend⟩ := hend ()
    cases congrArg Standing.stage hend
    rfl

theorem occupy_obeys (c : Cluster) (endpoint : Endpoint) :
    (c.occupy uuid endpoint i).Obeys (Ends uuid) (.free (.assigned uuid i)) := by
  refine obeys_ask_bind ⟨rfl, trivial⟩ fun found => ?_
  cases found with
  | some h => exact ⟨i, Standing.after_seen h⟩
  | none =>
    refine obeys_ask_bind ⟨rfl, trivial⟩ fun _ => obeys_ask_bind ⟨rfl, trivial⟩ fun found => ?_
    cases found with
    | some h =>
      rw [Standing.after_unseen, Standing.after_entered, Standing.after_filled]
      exact obeys_ask_bind ⟨rfl, trivial⟩ fun _ => ⟨i, rfl⟩
    | none =>
      rw [Standing.after_unseen, Standing.after_entered, Standing.after_vacant]
      exact (keeps_log ..).bind fun _ => (Host.connect_keeps ..).bind settle_obeys

/-- A lookup obeys the rules from beginning to end. -/
theorem host_obeys (c : Cluster) (uuid : Uuid) :
    (c.host uuid).Obeys (Ends uuid) (.free (.seeking uuid)) := by
  unfold host
  split
  · exact Or.inl rfl
  · rename_i endpoint _
    refine obeys_ask_bind ⟨rfl, trivial⟩ fun i => obeys_ask_bind ⟨rfl, trivial⟩ fun found => ?_
    cases found with
    | none => exact c.occupy_obeys endpoint
    | some pooled =>
      rw [Standing.after_assigned, Standing.after_seen]
      refine obeys_ask_bind ⟨rfl, trivial⟩ fun defunct => ?_
      cases defunct with
      | false => exact ⟨i, rfl⟩
      | true =>
        rw [Standing.after_spent]
        refine (keeps_log ..).bind fun _ => obeys_ask_bind ⟨⟨rfl, rfl⟩, trivial⟩ fun j => ?_
        exact (closeQuietly_keeps pooled).bind fun _ => c.occupy_obeys endpoint

end Cluster
end ClusterProbe
