import ClusterProbe.Proofs.Cluster.Scene
import ClusterProbe.Proofs.Session.Operations

/-!
# Sessions that a thread knows

A thread comes to know a session when it opens it, or when it finds a host with it in a slot. It
deals with no session that it does not know, and puts no host into a slot whose session it does not
know. So connecting to a host and closing one leave all other sessions alone (`Testbed.Spares`), and
the session of every host in a slot exists (`Scene.Reachable.places`).
-/
namespace ClusterProbe

open Job Shared

variable {α β : Type} {t : ThreadId} {s : SessionId} {e : Effect} {known : List SessionId}

namespace Effect

/-- The sessions that an effect is about. -/
def names : Effect → List SessionId
  | acquire s | store s _ | release s => [s]
  | fill _ host => [host.session]
  | _ => []

/-- The session of a host that is put into a slot. -/
def places : Effect → List SessionId
  | fill _ host => [host.session]
  | _ => []

/-- The sessions that an answer makes known. -/
def shows : (e : Effect) → e.Response → List SessionId
  | openSession _ _, s => [s]
  | slotHost _, some host => [host.session]
  | _, _ => []

theorem places_subset_names (e : Effect) : e.places ⊆ e.names := by
  cases e <;> first | exact List.Subset.refl _ | exact List.nil_subset _

theorem names_of_unpooled (h : e.touchesPool = false) : e.names = e.handled?.toList := by
  cases e <;> first | rfl | cases h

theorem names_of_quiet (h : e.isQuiet = true) : e.names = [] := by
  cases e <;> first | rfl | cases h

end Effect

/-- The sessions that `part` picks from what a thread asks for are known to it. -/
def knowing (part : Effect → List SessionId) : Rules (List SessionId) where
  Allows known e := part e ⊆ known
  after known e r := e.shows r ++ known

namespace Job

variable {x : Job α}

/-- The job names no session that is not known from the start. -/
def Knows (x : Job α) (known : List SessionId) : Prop :=
  x.Follows (knowing Effect.names) (fun _ known' => known ⊆ known') known

/-- A job under rules that let it name only what the thread knows. -/
theorem Follows.knows {S : Type} {R : Rules S} {post : α → S → Prop} {st : S}
    (h : x.Follows R post st) (hnames : ∀ st e, R.Allows st e → e.names ⊆ known) :
    x.Knows known := by
  suffices hmore : ∀ more, known ⊆ more →
      x.Follows (knowing Effect.names) (fun _ known' => known ⊆ known') more from
    hmore known (List.Subset.refl known)
  induction x generalizing st with
  | done a => exact fun _ hmore => hmore
  | perform e next ih =>
    intro more hmore
    refine ⟨List.Subset.trans (hnames st e h.1) hmore, fun r hr => ?_⟩
    exact ih r (h.2 r hr) _ (List.subset_append_of_subset_right _ hmore)

theorem Asks.knows (h : x.Asks (·.isQuiet = true)) : x.Knows known := by
  have hfollows : x.Follows ⟨fun _ e => e.isQuiet = true, fun st _ _ => st⟩ _ () :=
    h.follows (fun _ he => he) fun _ _ _ => rfl
  refine hfollows.knows fun _ e he => ?_
  rw [Effect.names_of_quiet he]
  exact List.nil_subset known

/-- After a job that names only what is known, everything is known that was. -/
theorem Knows.bind {f : α → Job β} {post : β → List SessionId → Prop} (h : x.Knows known)
    (hf : ∀ a known', known ⊆ known' → (f a).Follows (knowing Effect.names) post known') :
    (x >>= f).Follows (knowing Effect.names) post known :=
  Follows.bind h hf

end Job

section Knowing

variable {i : SlotId} {host : Host}

/-- Of all sessions it names its own. -/
theorem Session.Stage.names_subset {a : Session.Operation} {stage : Session.Stage}
    (h : stage.Allows s a e) : e.names ⊆ [s] := by
  rw [Effect.names_of_unpooled (allows_unpooled h)]
  rcases allows_own h with he | he
  · have hnone : e.handled? = none := by
      cases e <;> first | rfl | cases he
    rw [hnone]
    exact List.nil_subset _
  · rw [he]
    exact List.Subset.refl _

theorem Session.Operation.knows (a : Session.Operation) (hs : s ∈ known) :
    (a.job s).Knows known := by
  refine ((Session.operationConduct s).follows a).knows fun _ _ he => ?_
  have hown : [s] ⊆ known := List.cons_subset.2 ⟨hs, List.nil_subset _⟩
  exact List.Subset.trans (Session.Stage.names_subset he) hown

theorem Session.close_knows (hs : s ∈ known) : (Session.close s).Knows known :=
  Session.Operation.close.knows hs

theorem Host.close_knows (h : host.session ∈ known) : host.close.Knows known :=
  (Session.close_knows h).bind fun _ _ hmore => hmore

theorem Service.call_knows {A Q : Type} [Protobuf.Message A] [Protobuf.Message Q] {m : Messenger}
    (method : RemoteMethod) (request : Q) (hm : m.session ∈ known) :
    (Service.call A m method request).Knows known := by
  refine (ask_quiet rfl).knows.bind fun _ more hmore => ?_
  have hcall : (m.call method (Protobuf.Message.encode request)).Knows more :=
    (Session.Operation.call m method (Protobuf.Message.encode request)).knows (hmore hm)
  refine hcall.bind fun r more' hmore' => ?_
  cases r <;> exact List.Subset.trans hmore hmore'

theorem Stream.sendHello_talks (c : ConnectionId) : (sendHello c).Asks (Effect.TalksOn c) := by
  refine (ask_talkOn c rfl (List.Subset.refl _)).bind fun r => ?_
  cases r with
  | error e => exact asks_pure _ _
  | ok n =>
    dsimp only
    split
    · refine (ask_talkOn c rfl (List.Subset.refl _)).bind fun r => ?_
      cases r with
      | error e => exact asks_pure _ _
      | ok => exact (ask_talkOn c rfl (List.nil_subset _)).bind fun _ => asks_pure _ _
    · exact asks_pure _ _

/-- Who gets a session of a connection knows it. -/
theorem Session.connect_knows (endpoint : Endpoint) {probe : Session.Probe}
    (h : ∀ s known, s ∈ known → (probe s).Knows known) :
    (Session.connect endpoint probe).Follows (knowing Effect.names)
      (fun r known => ∀ s, r = .ok s → s ∈ known) known := by
  refine (ask_quiet rfl).knows.bind fun _ known _ => (ask_quiet rfl).knows.bind fun r known _ => ?_
  cases r with
  | error e => exact fun _ hr => by cases hr
  | ok c =>
    refine (Stream.sendHello_talks c).talk.quiet.knows.bind fun r known _ => ?_
    cases r with
    | error e => exact (ask_quiet rfl).knows.bind fun _ _ _ _ hr => by cases hr
    | ok =>
      refine follows_ask_bind (List.nil_subset _) fun s _ => ?_
      refine (h s _ List.mem_cons_self).bind fun r known hs => ?_
      have hknown : s ∈ known := hs List.mem_cons_self
      cases r with
      | error source =>
        refine (ask_quiet rfl).knows.bind fun _ known hmore => ?_
        refine (Session.close_knows (hmore hknown)).bind fun r _ _ => ?_
        cases r with
        | error e => exact (ask_quiet rfl).knows.bind fun _ _ _ _ hr => by cases hr
        | ok => exact fun _ hr => by cases hr
      | ok =>
        refine (ask_quiet rfl).knows.bind fun _ known hmore s' hr => ?_
        cases hr
        exact hmore hknown

theorem Host.connect_knows (endpoint : Endpoint) (timeoutMillis : UInt32) :
    (Host.connect endpoint timeoutMillis).Follows (knowing Effect.names)
      (fun r known => ∀ host, r = .ok host → host.session ∈ known) known := by
  have hprobe (s : SessionId) (known : List SessionId) (hs : s ∈ known) :
      (Session.pingProbe endpoint timeoutMillis s).Knows known :=
    (Service.call_knows _ _ hs).bind fun _ _ hmore => hmore
  refine (Session.connect_knows endpoint hprobe).bind fun r known hconnected => ?_
  cases r with
  | error e => exact fun _ hr => by cases hr
  | ok s =>
    have hs := hconnected s rfl
    have hfetch : (fetchStatus { session := s, endpoint, timeoutMillis }).Knows known := by
      refine (Service.call_knows _ _ hs).bind fun r known hmore => ?_
      cases r with
      | error e => exact hmore
      | ok response =>
        dsimp only
        split <;> exact hmore
    refine hfetch.bind fun r known hmore => ?_
    cases r with
    | error e =>
      refine (Session.close_knows (hmore hs)).bind fun r _ _ => ?_
      cases r with
      | error e => exact (ask_quiet rfl).knows.bind fun _ _ _ _ hr => by cases hr
      | ok => exact fun _ hr => by cases hr
    | ok status =>
      refine (ask_quiet rfl).knows.bind fun _ known hmore' host hr => ?_
      cases hr
      exact hmore' (hmore hs)

namespace Cluster

theorem closeQuietly_knows (h : host.session ∈ known) :
    (closeQuietly host).Knows known := by
  refine (Host.close_knows h).bind fun r _ hmore => ?_
  cases r with
  | error e => exact (ask_quiet rfl).knows.mono fun _ _ hmore' => List.Subset.trans hmore hmore'
  | ok => exact hmore

theorem settle_knows {result : Except ClientError Host}
    (h : ∀ host, result = .ok host → host.session ∈ known) :
    (settle i result).Follows (knowing Effect.names) (fun _ _ => True) known := by
  cases result with
  | error e => exact follows_ask_bind (List.nil_subset _) fun _ _ => trivial
  | ok host =>
    refine follows_ask_bind (List.cons_subset.2 ⟨h host rfl, List.nil_subset _⟩) fun _ _ => ?_
    exact follows_ask_bind (List.nil_subset _) fun _ _ => trivial

theorem occupy_knows (c : Cluster) (uuid : Uuid) (endpoint : Endpoint) :
    (c.occupy uuid endpoint i).Follows (knowing Effect.names) (fun _ _ => True) known := by
  refine follows_ask_bind (List.nil_subset _) fun found _ => ?_
  cases found with
  | some host => exact trivial
  | none =>
    refine follows_ask_bind (List.nil_subset _) fun _ _ => ?_
    refine follows_ask_bind (List.nil_subset _) fun found _ => ?_
    cases found with
    | some host => exact follows_ask_bind (List.nil_subset _) fun _ _ => trivial
    | none =>
      refine (ask_quiet rfl).knows.bind fun _ _ _ => ?_
      exact (Host.connect_knows endpoint _).bind fun _ _ hresult => settle_knows hresult

theorem host_knows (c : Cluster) (uuid : Uuid) :
    (c.host uuid).Follows (knowing Effect.names) (fun _ _ => True) known := by
  unfold host
  split
  · exact trivial
  · refine follows_ask_bind (List.nil_subset _) fun i _ => ?_
    refine follows_ask_bind (List.nil_subset _) fun found _ => ?_
    cases found with
    | none => exact c.occupy_knows uuid _
    | some pooled =>
      refine follows_ask_bind (List.nil_subset _) fun defunct _ => ?_
      cases defunct with
      | false => exact trivial
      | true =>
        refine follows_ask_bind (List.nil_subset _) fun _ _ => ?_
        refine follows_ask_bind (List.nil_subset _) fun j _ => ?_
        have hclose : ∀ {known}, pooled.session ∈ known → (closeQuietly pooled).Knows known :=
          closeQuietly_knows
        refine (hclose ?_).bind fun _ _ _ => c.occupy_knows uuid _
        exact List.mem_append_right _ (List.mem_append_right _ (List.mem_append_right _
          List.mem_cons_self))

end Cluster
end Knowing

/-! ## What a thread leaves alone -/

/-- Slots and pool are the same, and so are all sessions that there were but these. -/
structure Testbed.Spares (named : List SessionId) (bed bed' : Testbed) : Prop where
  slots : bed'.slots = bed.slots
  pool : bed'.pool = bed.pool
  length : bed.sessions.length ≤ bed'.sessions.length
  sessions : ∀ s, s < bed.sessions.length → s ∉ named → bed'.sessions[s]? = bed.sessions[s]?

namespace Testbed

variable {bed bed' bed'' : Testbed} {i : SlotId} {host : Host}

theorem Shares.spares (h : bed.Shares bed') : bed.Spares known bed' where
  slots := h.slots
  pool := h.pool
  length := Nat.le_of_eq (congrArg List.length h.sessions).symm
  sessions s _ _ := congrArg (·[s]?) h.sessions

theorem Spares.trans (h : bed.Spares known bed') (h' : bed'.Spares known bed'') :
    bed.Spares known bed'' where
  slots := h'.slots.trans h.slots
  pool := h'.pool.trans h.pool
  length := Nat.le_trans h.length h'.length
  sessions s hs hnew :=
    (h'.sessions s (Nat.lt_of_lt_of_le hs h.length) hnew).trans (h.sessions s hs hnew)

/-- Sessions that were not there before may be named afterwards. -/
theorem Spares.andThen {opened : List SessionId} (h : bed.Spares known bed')
    (h' : bed'.Spares (opened ++ known) bed'') (hnew : ∀ s ∈ opened, bed.sessions.length ≤ s) :
    bed.Spares known bed'' where
  slots := h'.slots.trans h.slots
  pool := h'.pool.trans h.pool
  length := Nat.le_trans h.length h'.length
  sessions s hs hunknown := by
    have hunnamed : s ∉ opened ++ known := by
      intro hmem
      rcases List.mem_append.1 hmem with hmem | hmem
      · exact Nat.not_lt.2 (hnew s hmem) hs
      · exact hunknown hmem
    exact (h'.sessions s (Nat.lt_of_lt_of_le hs h.length) hunnamed).trans (h.sessions s hs hunknown)

theorem answer_spares (t : ThreadId) (bed : Testbed) (hpool : e.touchesPool = false)
    (hnames : e.names ⊆ known) : bed.Spares known (bed.answer t e).2 := by
  by_cases hs : e.touchesSessions = false
  · exact (answer_shares t bed hs hpool).spares
  obtain ⟨hslots, hpools⟩ := answer_slots t bed hpool
  have hne {s s' : SessionId} (he : e.names = [s']) (hs : s ∉ known) : s' ≠ s := by
    rintro rfl
    exact hs (hnames (he ▸ List.mem_singleton_self s'))
  cases e <;> first | exact absurd rfl hs | skip
  case openSession endpoint c =>
    refine ⟨hslots, hpools, ?_, fun s hs _ => List.getElem?_append_left hs⟩
    simp [answer]
  case acquire s' =>
    simp only [answer]
    split
    · exact (Shares.refl bed).spares
    · refine ⟨rfl, rfl, Nat.le_of_eq (List.length_set ..).symm, fun s _ hunknown => ?_⟩
      exact List.getElem?_set_ne (hne rfl hunknown)
  case store s' v =>
    refine ⟨rfl, rfl, Nat.le_of_eq (List.length_modify ..).symm, fun s _ hunknown => ?_⟩
    exact List.getElem?_modify_ne _ _ (hne rfl hunknown)
  case release s' =>
    refine ⟨rfl, rfl, Nat.le_of_eq (List.length_modify ..).symm, fun s _ hunknown => ?_⟩
    exact List.getElem?_modify_ne _ _ (hne rfl hunknown)

theorem length_answer_le (t : ThreadId) (bed : Testbed) (e : Effect) :
    bed.sessions.length ≤ (bed.answer t e).2.sessions.length := by
  by_cases hs : e.touchesSessions = false
  · exact Nat.le_of_eq (congrArg List.length (answer_sessions t bed hs)).symm
  · have hpool : e.touchesPool = false := by
      cases e <;> first | rfl | exact absurd rfl hs
    exact (answer_spares t bed hpool (List.Subset.refl _)).length

end Testbed

namespace World

variable {w w' : World}

theorem Waits.spares (h : Waits t e w w') (hpool : e.touchesPool = false)
    (hnames : e.names ⊆ known) : w.bed.Spares known w'.bed := by
  refine h.invariant (P := fun w' => w.bed.Spares known w'.bed)
    (fun hm h => h.trans hm.shares.spares) ?_ (Testbed.Shares.refl _).spares
  rintro w₁ w₂ ⟨bed, hb, rfl⟩ h
  have hstalled := Testbed.answer_spares t w₁.bed hpool hnames
  rw [hb] at hstalled
  exact h.trans hstalled

theorem Settles.spares {r : e.Response} (h : w.Settles t e r w') (hpool : e.touchesPool = false)
    (hnames : e.names ⊆ known) : w.bed.Spares known w'.bed := by
  obtain ⟨w₁, hwaits, bed, hb | hfails, rfl⟩ := h
  · have hanswered := Testbed.answer_spares t w₁.bed hpool hnames
    rw [hb] at hanswered
    exact (hwaits.spares hpool hnames).trans hanswered
  · exact (hwaits.spares hpool hnames).trans (Testbed.fails_shares hfails).spares

/-- Who is away from the pool gets to know no session but a new one. -/
theorem Settles.shows {r : e.Response} (h : w.Settles t e r w') (he : e.learns = false) :
    ∀ s ∈ e.shows r, w.bed.sessions.length ≤ s := by
  cases e with
  | openSession endpoint c =>
    rintro s hs
    obtain rfl := List.mem_singleton.1 hs
    exact Nat.le_of_eq h.openSession.1.symm
  | slotHost => cases he
  | _ =>
    rintro s hs
    cases hs

end World

theorem Effect.unpooled_of_not_learns (h : e.learns = false) : e.touchesPool = false := by
  cases e <;> first | rfl | cases h

/-- A job away from the pool asks nothing about it. -/
theorem Job.Obeys.away {x : Job α} {post : α → Standing → Prop} {grip : Grip}
    (h : x.Obeys post ⟨.outside, grip⟩) : x.Asks (·.learns = false) := by
  induction x generalizing grip with
  | done a => trivial
  | perform e next ih =>
    refine ⟨h.1.1, fun r => ?_⟩
    have hnext := h.2 r
    rw [Standing.after, Stage.after_of_not_learns h.1.1] at hnext
    exact ih r hnext

/-- A job away from the pool leaves alone what it does not know. -/
theorem Job.Follows.spares {x : Job α} {post : α → List SessionId → Prop} {o : Option α}
    {w w' : World} (h : x.Follows (knowing Effect.names) post known)
    (haway : x.Asks (·.learns = false)) (hrun : x.Runs t w o w') : w.bed.Spares known w'.bed := by
  induction x generalizing w known with
  | done a =>
    obtain ⟨-, rfl⟩ := hrun
    exact (Testbed.Shares.refl _).spares
  | perform e next ih =>
    have hpool := Effect.unpooled_of_not_learns haway.1
    rcases hrun with ⟨r, w₁, hsettles, hnext⟩ | ⟨-, hwaits⟩
    · have hcredible : e.Credible r := by
        obtain ⟨_, -, hanswers⟩ := hsettles
        exact hanswers.credible
      exact (hsettles.spares hpool h.1).andThen (ih r (h.2 r hcredible) (haway.2 r) hnext)
        (hsettles.shows haway.1)
    · exact hwaits.spares hpool h.1

/-! ## Hosts in slots -/

/-- The session of every host in a slot exists. -/
def Testbed.Housed (bed : Testbed) : Prop :=
  ∀ i host, valueAt bed.slots i = some (some host) → host.session < bed.sessions.length

/-- What the thread may put into slots is a host with one of the first `n` sessions. -/
def Worker.Places (n : Nat) : Worker → Prop
  | ⟨_, .running job⟩ => ∃ known, (∀ s ∈ known, s < n) ∧
      job.Follows (knowing Effect.places) (fun _ _ => True) known
  | _ => True

theorem Worker.Places.mono {n n' : Nat} {worker : Worker} (h : worker.Places n) (hle : n ≤ n') :
    worker.Places n' := by
  obtain ⟨errand, progress⟩ := worker
  cases progress with
  | running job =>
    obtain ⟨known, hknown, hjob⟩ := h
    exact ⟨known, fun s hs => Nat.lt_of_lt_of_le (hknown s hs) hle, hjob⟩
  | _ => trivial

/-- A job away from the pool fills no slot. -/
theorem Job.Asks.places {x : Job α} (h : x.Asks (·.learns = false)) :
    x.Follows (knowing Effect.places) (fun _ _ => True) known := by
  induction x generalizing known with
  | done a => trivial
  | perform e next ih =>
    have hplaces : e.places = [] := by
      have hlearns : e.learns = false := h.1
      cases e <;> first | rfl | cases hlearns
    refine ⟨?_, fun r _ => ih r (h.2 r)⟩
    change e.places ⊆ known
    rw [hplaces]
    exact List.nil_subset known

theorem Errand.job_places (c : Cluster) (a : Errand) (n : Nat) :
    Worker.Places n ⟨a, .running (a.job c)⟩ := by
  refine ⟨[], nofun, ?_⟩
  cases a with
  | seek uuid =>
    refine (c.host_knows uuid).through id (fun _ => True) trivial ?_ (fun _ _ _ => rfl)
      fun _ _ _ _ => trivial
    exact fun known e _ he => List.Subset.trans e.places_subset_names he
  | call A m method request => exact ((Errand.call A m method request).job_obeys c).away.places
  | close host => exact ((Errand.close host).job_obeys c).away.places

namespace Testbed

variable {bed bed' : Testbed} {u : Uuid} {i : SlotId} {host : Host}

theorem host_newSlot (h : valueAt (bed.newSlot u).2.slots i = some (some host)) :
    valueAt bed.slots i = some (some host) := by
  change valueAt (bed.slots ++ [⟨none, []⟩]) i = _ at h
  rcases Nat.lt_or_ge i bed.slots.length with hlt | hge
  · rwa [valueAt_append _ hlt] at h
  · rw [valueAt, List.getElem?_append_right hge, List.getElem?_singleton] at h
    split at h <;> cases h

/-- Only filling a slot puts a host there. -/
theorem host_answer (h : valueAt (bed.answer t e).2.slots i = some (some host)) :
    valueAt bed.slots i = some (some host) ∨ e = .fill i host := by
  by_cases hp : e.touchesPool = false
  · rw [(answer_slots t bed hp).1] at h
    exact .inl h
  cases e <;> first | exact absurd rfl hp | skip
  case slot u =>
    simp only [answer] at h
    split at h
    · exact .inl h
    · exact .inl (host_newSlot h)
  case evict u stale =>
    simp only [answer] at h
    split at h
    · split at h
      · exact .inl (host_newSlot h)
      · exact .inl h
    · exact .inl (host_newSlot h)
  case enter j =>
    simp only [answer] at h
    split at h
    · exact .inl h
    · rename_i shared hshared
      rw [(jostles_join t hshared).value] at h
      exact .inl h
  case fill j host' =>
    have hslots : (bed.answer t (.fill j host')).2.slots =
        bed.slots.modify j fun shared => { shared with value := some host' } := rfl
    rw [hslots] at h
    by_cases heq : j = i
    · subst heq
      have hlt : j < bed.slots.length := by
        have hlt := lt_of_valueAt h
        rwa [List.length_modify] at hlt
      rw [valueAt_put_self _ hlt] at h
      cases h
      exact .inr rfl
    · rw [valueAt_put_ne _ heq] at h
      exact .inl h
  case leave j =>
    have hvalue := (jostles_leave t bed.slots j).value i
    exact .inl (hvalue.symm.trans h)

theorem Housed.moved (h : bed.Housed) (hslots : ∀ i, valueAt bed'.slots i = valueAt bed.slots i)
    (hle : bed.sessions.length ≤ bed'.sessions.length) : bed'.Housed := by
  intro i host hhost
  rw [hslots] at hhost
  exact Nat.lt_of_lt_of_le (h i host hhost) hle

/-- Who places only hosts with sessions that exist finds only such hosts. -/
theorem Housed.answers {w w' : World} {r : e.Response} (h : w.bed.Housed)
    (ha : w.Answers t e r w') (hplaces : ∀ s ∈ e.places, s < w.bed.sessions.length) :
    w'.bed.Housed ∧ w.bed.sessions.length ≤ w'.bed.sessions.length ∧
      ∀ s ∈ e.shows r, s < w'.bed.sessions.length := by
  obtain ⟨bed', hb | hfails, rfl⟩ := ha
  · have hle := length_answer_le t w.bed e
    have hhosts {i : SlotId} {host : Host} :
        valueAt (w.bed.answer t e).2.slots i = some (some host) →
          valueAt w.bed.slots i = some (some host) ∨ e = .fill i host := host_answer
    rw [hb] at hle hhosts
    refine ⟨fun i host hhost => ?_, hle, fun s hs => ?_⟩
    · rcases hhosts hhost with hbefore | rfl
      · exact Nat.lt_of_lt_of_le (h i host hbefore) hle
      · exact Nat.lt_of_lt_of_le (hplaces _ (List.mem_singleton_self _)) hle
    · cases e with
      | openSession endpoint c =>
        obtain rfl := List.mem_singleton.1 hs
        cases hb
        change _ < (w.bed.sessions ++ [_]).length
        rw [List.length_append]
        exact Nat.lt_succ_self _
      | slotHost i =>
        cases r with
        | none => cases hs
        | some host =>
          obtain rfl := List.mem_singleton.1 hs
          obtain ⟨shared, hshared, hvalue⟩ :=
            Option.bind_eq_some_iff.1 (Option.some.inj (congrArg Prod.fst hb))
          refine Nat.lt_of_lt_of_le (h i host ?_) hle
          rw [valueAt, hshared]
          exact congrArg some hvalue
      | _ => cases hs
  · have hspares : w.bed.Spares [] bed' := (fails_shares hfails).spares
    refine ⟨h.moved (fun i => congrArg (valueAt · i) hspares.slots) hspares.length,
      hspares.length, fun s hs => ?_⟩
    cases e <;> first | exact hfails.elim | cases hs

theorem Housed.stalls {w w' : World} (h : w.bed.Housed) (hs : w.Stalls t e w') :
    w'.bed.Housed ∧ w.bed.sessions.length ≤ w'.bed.sessions.length := by
  obtain ⟨bed', hb, rfl⟩ := hs
  have hle := length_answer_le t w.bed e
  rw [hb] at hle
  exact ⟨h.moved (stall_slots hb).2.1.value hle, hle⟩

theorem Housed.moves {w w' : World} (h : w.bed.Housed) (hm : w.Moves w') :
    w'.bed.Housed ∧ w.bed.sessions.length ≤ w'.bed.sessions.length := by
  have hspares : w.bed.Spares [] w'.bed := hm.shares.spares
  exact ⟨h.moved (fun i => congrArg (valueAt · i) hspares.slots) hspares.length, hspares.length⟩

theorem Housed.waits {w w' : World} (h : w.bed.Housed) (hwaits : World.Waits t e w w') :
    w'.bed.Housed ∧ w.bed.sessions.length ≤ w'.bed.sessions.length := by
  induction hwaits with
  | refl => exact ⟨h, Nat.le_refl _⟩
  | moves _ hm ih => exact (ih.1.moves hm).imp_right (Nat.le_trans ih.2)
  | stalls _ hs ih => exact (ih.1.stalls hs).imp_right (Nat.le_trans ih.2)

end Testbed

/-- A job that knows what it names leaves only hosts with sessions that exist. -/
theorem Job.Follows.housed {x : Job α} {post : α → List SessionId → Prop} {o : Option α}
    {w w' : World} (h : x.Follows (knowing Effect.names) post known) (hrun : x.Runs t w o w')
    (hknown : ∀ s ∈ known, s < w.bed.sessions.length) (hw : w.bed.Housed) : w'.bed.Housed := by
  induction x generalizing w known with
  | done a =>
    obtain ⟨-, rfl⟩ := hrun
    exact hw
  | perform e next ih =>
    rcases hrun with ⟨r, w₁, ⟨w₀, hwaits, hanswers⟩, hnext⟩ | ⟨-, hwaits⟩
    · obtain ⟨hhoused, hle⟩ := hw.waits hwaits
      have hold (s : SessionId) (hs : s ∈ known) : s < w₀.bed.sessions.length :=
        Nat.lt_of_lt_of_le (hknown s hs) hle
      obtain ⟨hhoused', hle', hshown⟩ :=
        hhoused.answers hanswers fun s hs => hold s (h.1 (e.places_subset_names hs))
      refine ih r (h.2 r hanswers.credible) hnext (fun s hs => ?_) hhoused'
      rcases List.mem_append.1 hs with hs | hs
      · exact hshown s hs
      · exact Nat.lt_of_lt_of_le (hold s hs) hle'
    · exact (hw.waits hwaits).1

namespace Scene

variable {c : Cluster} {σ σ' : Scene}

/-- So it is in every scene: whatever the threads know exists, and so does what they fill in. -/
theorem Reachable.places (h : Reachable c σ) : σ.world.bed.Housed ∧
    ∀ (t : ThreadId) (worker : Worker), σ.workers[t]? = some worker →
      worker.Places σ.world.bed.sessions.length := by
  induction h with
  | initial bed slots pool =>
    refine ⟨fun i host hhost => ?_, fun t worker hworker => ?_⟩
    · rw [slots] at hhost
      cases hhost
    · cases hworker
  | @step σ σ' _ hstep ih =>
    obtain ⟨hhoused, hworkers⟩ := ih
    cases hstep with
    | starts errand =>
      exact ⟨hhoused, workers_push hworkers (errand.job_places c _) fun _ _ _ => id⟩
    | @answered t errand e next r w running answers =>
      obtain ⟨known, hknown, hallows, hnext⟩ := hworkers t _ running
      obtain ⟨hhoused', hle, hshown⟩ := hhoused.answers answers fun s hs => hknown s (hallows hs)
      refine ⟨hhoused', workers_set hworkers (fun _ => ?_) fun _ _ _ hold => hold.mono hle⟩
      refine ⟨e.shows r ++ known, fun s hs => ?_, hnext r answers.credible⟩
      rcases List.mem_append.1 hs with hs | hs
      · exact hshown s hs
      · exact Nat.lt_of_lt_of_le (hknown s hs) hle
    | @stalled t errand e next w running stalls =>
      obtain ⟨hhoused', hle⟩ := hhoused.stalls stalls
      exact ⟨hhoused', fun t worker hworker => (hworkers t worker hworker).mono hle⟩
    | finished running =>
      exact ⟨hhoused, workers_set hworkers (fun _ => trivial) fun _ _ _ => id⟩
    | @cancelled t errand job running =>
      have hle : σ.world.bed.sessions.length ≤ (σ.world.bed.cancel t).sessions.length :=
        Nat.le_of_eq (List.length_map _).symm
      exact ⟨hhoused.moved (jostles_leave_all t σ.world.bed.slots).value hle,
        workers_set hworkers (fun _ => trivial) fun _ _ _ hold => hold.mono hle⟩
    | @moves w moves =>
      obtain ⟨hhoused', hle⟩ := hhoused.moves moves
      exact ⟨hhoused', fun t worker hworker => (hworkers t worker hworker).mono hle⟩

end Scene
end ClusterProbe
