import ClusterProbe.Proofs.Cluster.Acquaintance
import ClusterProbe.Proofs.World.Hands
import ClusterProbe.Survey

/-!
# What belongs to a thread

The connections that a thread has opened itself and the sessions that it has made of them belong to
it. A thread that deals with nothing else (`Belongings.rules`) leaves alone what belongs to another
one of its kind (`Belongings.Safe.spared`), and has to wait for nobody but the far ends of its
connections (`Belongings.Safe.exists_run`). Connecting to a host, calling it and closing it are jobs
of this kind, as long as the pool is not involved, and so is the ping of a server
(`PingRow.measure_minds`).
-/
namespace ClusterProbe

open Trade Shared

variable {α β : Type} {t t' : ThreadId} {e : Effect} {bed bed' : Testbed} {w w' w₁ : World}

/-! ## What an effect leaves as it is -/

/-- No connection is lost or gets another owner, and those that are not named stay as they are. The
time and what decides about dials are the same. -/
structure Network.Tends (named : List ConnectionId) (n n' : Network) : Prop where
  connections : ∀ c k, n.connections[c]? = some k →
    ∃ k', n'.connections[c]? = some k' ∧ k'.owner = k.owner ∧ (c ∉ named → k' = k)
  now : n'.now = n.now
  registry : n'.registry = n.registry
  refusal : n'.refusal = n.refusal

theorem Network.Amends.tends {n n' : Network} (h : n.Amends e n') (he : e.touchesPool = false) :
    n.Tends e.streams n' := by
  cases h with
  | logged events => exact ⟨fun c k hk => ⟨k, hk, rfl, fun _ => rfl⟩, rfl, rfl, rfl⟩
  | dialed dialed opened running _ =>
    refine ⟨fun c k hk => ⟨k, ?_, rfl, fun _ => rfl⟩, rfl, rfl, rfl⟩
    exact (List.getElem?_append_left (List.getElem?_eq_some_iff.1 hk).1).trans hk
  | @revised c k k' took events found treated =>
    refine ⟨fun c' k₀ hk₀ => ?_, rfl, rfl, rfl⟩
    by_cases heq : c = c'
    · subst heq
      obtain rfl := Option.some.inj (found.symm.trans hk₀)
      refine ⟨k', ?_, treated.owner he, fun hc => absurd (treated.named he) hc⟩
      exact List.getElem?_set_self (List.getElem?_eq_some_iff.1 hk₀).1
    · exact ⟨k₀, (List.getElem?_set_ne heq).trans hk₀, rfl, fun _ => rfl⟩

namespace Testbed

/-- A thread has asked, and it was answered or has to wait. -/
def Asked (t : ThreadId) (e : Effect) (bed bed' : Testbed) : Prop :=
  bed' = (bed.answer t e).2 ∨ ∃ r, e.Fails bed r bed'

namespace Asked

variable {s : SessionId} {shared : Shared Session}

theorem tends (h : bed.Asked t e bed') (he : e.learns = false) :
    bed.network.Tends e.streams bed'.network := by
  have hpool := Effect.unpooled_of_not_learns he
  rcases h with rfl | ⟨r, hfails⟩
  · exact (answer_amends t bed e).tends hpool
  · exact (fails_amends hfails).tends hpool

theorem spares (h : bed.Asked t e bed') (he : e.learns = false) : bed.Spares e.names bed' := by
  rcases h with rfl | ⟨r, hfails⟩
  · exact answer_spares t bed (Effect.unpooled_of_not_learns he) (List.Subset.refl _)
  · exact (fails_shares hfails).spares

/-- Nobody joins the queue of a session but who asks for it, and what is recorded of it keeps its
connection or has one that the effect is about. -/
theorem session (h : bed.Asked t e bed') (he : e.learns = false)
    (hs : bed.sessions[s]? = some shared) : ∃ shared', bed'.sessions[s]? = some shared' ∧
      (∀ t' ∈ shared'.queue, t' ∈ shared.queue ∨ t' = t) ∧
      (shared'.value = shared.value ∨ shared'.value.stream.toList ⊆ e.streams) := by
  have hlt := (List.getElem?_eq_some_iff.1 hs).1
  by_cases hnamed : s ∈ e.names
  · rcases h with rfl | ⟨r, hfails⟩
    · cases e with
      | acquire s' =>
        obtain rfl := List.mem_singleton.1 hnamed
        refine ⟨shared.join t, ?_, fun t' ht' => ?_, .inl (value_join t shared)⟩
        · simp only [answer, hs]
          exact List.getElem?_set_self hlt
        · unfold join at ht'
          split at ht'
          · exact .inl ht'
          · rcases List.mem_append.1 ht' with hold | hnew
            · exact .inl hold
            · exact .inr (List.mem_singleton.1 hnew)
      | store s' v =>
        obtain rfl := List.mem_singleton.1 hnamed
        refine ⟨{ shared with value := v }, ?_, fun _ => .inl, .inr (List.Subset.refl _)⟩
        change (bed.sessions.modify s _)[s]? = _
        rw [List.getElem?_modify_eq, hs]
        rfl
      | release s' =>
        obtain rfl := List.mem_singleton.1 hnamed
        refine ⟨shared.leave t, ?_, fun t' ht' => .inl (List.mem_filter.1 ht').1, .inl rfl⟩
        change (bed.sessions.modify s _)[s]? = _
        rw [List.getElem?_modify_eq, hs]
        rfl
      | fill => cases he
      | _ => cases hnamed
    · cases e <;> first | exact hfails.elim | cases hnamed
  · exact ⟨shared, ((h.spares he).sessions s hlt hnamed).trans hs, fun _ => .inl, .inl rfl⟩

end Asked
end Testbed

theorem World.Answers.asked {r : e.Response} (h : w.Answers t e r w') :
    w.bed.Asked t e w'.bed := by
  obtain ⟨bed, hanswer | hfails, rfl⟩ := h
  · exact .inl (congrArg Prod.snd hanswer).symm
  · exact .inr ⟨r, hfails⟩

theorem World.Stalls.asked (h : w.Stalls t e w') : w.bed.Asked t e w'.bed := by
  obtain ⟨bed, hstalls, rfl⟩ := h
  exact .inl (congrArg Prod.snd hstalls).symm

/-! ## Belongings -/

/-- The connections that an answer puts into the hands of a thread. -/
def Effect.yields : (e : Effect) → e.Response → List ConnectionId
  | dial _, .ok c => [c]
  | acquire _, v => v.stream.toList
  | _, _ => []

structure Belongings where
  connections : List ConnectionId := []
  sessions : List SessionId := []

namespace Belongings

variable {own own' own'' other : Belongings}

def after (own : Belongings) (e : Effect) (r : e.Response) : Belongings where
  connections := e.yields r ++ own.connections
  sessions := e.shows r ++ own.sessions

/-- The effect deals with nothing but what belongs to the thread. -/
structure Covers (own : Belongings) (e : Effect) : Prop where
  connections : e.streams ⊆ own.connections
  sessions : e.names ⊆ own.sessions
  learns : e.learns = false

def rules : Rules Belongings where
  Allows := Covers
  after := after

/-- Nothing belongs to both. -/
structure Apart (own other : Belongings) : Prop where
  connections : ∀ c ∈ own.connections, c ∉ other.connections
  sessions : ∀ s ∈ own.sessions, s ∉ other.sessions

/-- Nobody but thread `t` would take the connections with him or stands in line for the sessions,
and the sessions have no other connections than these. -/
structure Safe (own : Belongings) (t : ThreadId) (bed : Testbed) : Prop where
  connections : ∀ c ∈ own.connections, ∃ k, bed.network.connections[c]? = some k ∧
    ∀ t', k.owner = some t' → t' = t
  sessions : ∀ s ∈ own.sessions, ∃ shared, bed.sessions[s]? = some shared ∧
    (∀ t' ∈ shared.queue, t' = t) ∧ shared.value.stream.toList ⊆ own.connections

/-- All that the answers to a thread depend on is the same: what belongs to it, the time, and what
decides about dials. -/
structure Spared (own : Belongings) (bed bed' : Testbed) : Prop where
  connections : ∀ c ∈ own.connections,
    bed'.network.connections[c]? = bed.network.connections[c]?
  sessions : ∀ s ∈ own.sessions, bed'.sessions[s]? = bed.sessions[s]?
  now : bed'.network.now = bed.network.now
  registry : bed'.network.registry = bed.network.registry
  refusal : bed'.network.refusal = bed.network.refusal

theorem Apart.symm (h : own.Apart other) : other.Apart own :=
  ⟨fun c hc hown => h.connections c hown hc, fun s hs hown => h.sessions s hown hs⟩

theorem apart_empty (own : Belongings) : own.Apart {} :=
  ⟨fun _ _ => List.not_mem_nil, fun _ _ => List.not_mem_nil⟩

theorem safe_empty (t : ThreadId) (bed : Testbed) : Safe {} t bed :=
  ⟨fun _ hc => absurd hc List.not_mem_nil, fun _ hs => absurd hs List.not_mem_nil⟩

namespace Safe

variable {c : ConnectionId} {s : SessionId} {r : e.Response}

theorem of_spared (h : own.Safe t bed) (hspared : own.Spared bed bed') : own.Safe t bed' where
  connections c hc := by
    rw [hspared.connections c hc]
    exact h.connections c hc
  sessions s hs := by
    rw [hspared.sessions s hs]
    exact h.sessions s hs

/-- What a thread asks for leaves what belongs to it safe. -/
theorem asked (h : own.Safe t bed) (hcovers : own.Covers e) (hasked : bed.Asked t e bed') :
    own.Safe t bed' where
  connections c hc := by
    obtain ⟨k, hk, howner⟩ := h.connections c hc
    obtain ⟨k', hk', heq, -⟩ := (hasked.tends hcovers.learns).connections c k hk
    exact ⟨k', hk', by rw [heq]; exact howner⟩
  sessions s hs := by
    obtain ⟨shared, hshared, hqueue, hstream⟩ := h.sessions s hs
    obtain ⟨shared', hshared', hqueue', hvalue⟩ := hasked.session hcovers.learns hshared
    refine ⟨shared', hshared', fun t' ht' => (hqueue' t' ht').elim (hqueue t') id, ?_⟩
    rcases hvalue with heq | hnamed
    · rw [heq]
      exact hstream
    · exact List.Subset.trans hnamed hcovers.connections

/-- What belongs to another thread stays as it is. -/
theorem spared (h : other.Safe t' bed) (hapart : own.Apart other) (hcovers : own.Covers e)
    (hasked : bed.Asked t e bed') : other.Spared bed bed' := by
  have htends := hasked.tends hcovers.learns
  refine ⟨fun c hc => ?_, fun s hs => ?_, htends.now, htends.registry, htends.refusal⟩
  · obtain ⟨k, hk, -⟩ := h.connections c hc
    obtain ⟨k', hk', -, heq⟩ := htends.connections c k hk
    rw [hk', hk, heq fun hnamed => hapart.connections c (hcovers.connections hnamed) hc]
  · obtain ⟨shared, hshared, -⟩ := h.sessions s hs
    exact (hasked.spares hcovers.learns).sessions s (List.getElem?_eq_some_iff.1 hshared).1
      fun hnamed => hapart.sessions s (hcovers.sessions hnamed) hs

/-- A connection that a thread gets is new, or belongs to it already. -/
theorem yields (h : own.Safe t w.bed) (hcovers : own.Covers e) (hanswers : w.Answers t e r w')
    (hc : c ∈ e.yields r) : c ∈ own.connections ∨
      ¬ w.Has c ∧ ∃ k, w'.bed.network.connections[c]? = some k ∧ k.owner = some t := by
  cases e with
  | dial endpoint =>
    cases r with
    | error e => cases hc
    | ok c' =>
      obtain rfl := List.mem_singleton.1 hc
      refine .inr ⟨hanswers.dial_new.1, ?_⟩
      obtain ⟨bed, hanswer | ⟨⟨error, herror⟩, -⟩, rfl⟩ := hanswers
      · simp only [Testbed.answer, Network.dial] at hanswer
        split at hanswer
        · cases hanswer
        · cases hanswer
          rename_i r hr
          refine ⟨.ofRegistration r t, List.getElem?_concat_length, ?_⟩
          unfold Connection.ofRegistration
          dsimp only
          split <;> rfl
      · cases herror
  | acquire s =>
    obtain ⟨shared, hshared, -, hstream⟩ :=
      h.sessions s (hcovers.sessions (List.mem_singleton_self s))
    have hvalue := hanswers.acquire.1
    rw [valueAt, hshared] at hvalue
    obtain rfl := Option.some.inj hvalue
    exact .inl (hstream hc)
  | _ => cases hc

/-- A session that a thread gets to know is new, and free. -/
theorem shows (hcovers : own.Covers e) (hanswers : w.Answers t e r w') (hs : s ∈ e.shows r) :
    s = w.bed.sessions.length ∧ ∃ v, w'.bed.sessions[s]? = some ⟨v, []⟩ ∧
      v.stream.toList ⊆ own.connections := by
  cases e with
  | openSession endpoint c =>
    obtain rfl := List.mem_singleton.1 hs
    obtain ⟨rfl, hsessions⟩ := hanswers.openSession
    refine ⟨rfl, { endpoint, stream := some c }, ?_, hcovers.connections⟩
    rw [hsessions]
    exact List.getElem?_concat_length
  | slotHost => cases hcovers.learns
  | _ => cases hs

theorem answered (h : own.Safe t w.bed) (hcovers : own.Covers e)
    (hanswers : w.Answers t e r w') : (own.after e r).Safe t w'.bed := by
  have hold := h.asked hcovers hanswers.asked
  constructor
  · intro c hc
    rcases List.mem_append.1 hc with hnew | hc
    · rcases h.yields hcovers hanswers hnew with hc | ⟨-, k, hk, howner⟩
      · exact hold.connections c hc
      · refine ⟨k, hk, fun t' ht' => ?_⟩
        exact Option.some.inj (ht'.symm.trans howner)
    · exact hold.connections c hc
  · intro s hs
    rcases List.mem_append.1 hs with hnew | hs
    · obtain ⟨-, v, hv, hstream⟩ := shows hcovers hanswers hnew
      exact ⟨_, hv, fun _ ht' => absurd ht' List.not_mem_nil,
        List.subset_append_of_subset_right _ hstream⟩
    · obtain ⟨shared, hshared, hqueue, hstream⟩ := hold.sessions s hs
      exact ⟨shared, hshared, hqueue, List.subset_append_of_subset_right _ hstream⟩

/-- What a thread gets belonged to no other one. -/
theorem apart_after (h : own.Safe t w.bed) (hother : other.Safe t' w.bed)
    (hapart : own.Apart other) (hcovers : own.Covers e) (hanswers : w.Answers t e r w') :
    (own.after e r).Apart other := by
  constructor
  · intro c hc hmem
    rcases List.mem_append.1 hc with hnew | hc
    · rcases h.yields hcovers hanswers hnew with hc | ⟨hnew, -⟩
      · exact hapart.connections c hc hmem
      · obtain ⟨k, hk, -⟩ := hother.connections c hmem
        exact hnew (World.has_iff.2 ⟨k, hk⟩)
    · exact hapart.connections c hc hmem
  · intro s hs hmem
    rcases List.mem_append.1 hs with hnew | hs
    · obtain ⟨rfl, -⟩ := shows hcovers hanswers hnew
      obtain ⟨shared, hshared, -⟩ := hother.sessions _ hmem
      exact Nat.lt_irrefl _ (List.getElem?_eq_some_iff.1 hshared).1
    · exact hapart.sessions s hs hmem

theorem moved (h : own.Safe t w.bed) (hmoves : w.Moves w') : own.Safe t w'.bed := by
  refine ⟨fun c hc => ?_, fun s hs => ?_⟩
  · obtain ⟨k, hk, howner⟩ := h.connections c hc
    cases hmoves with
    | @farEnd c' k₀ k' sent network found moves connections =>
      rw [connections]
      by_cases heq : c' = c
      · subst heq
        obtain rfl := Option.some.inj (found.symm.trans hk)
        refine ⟨k', List.getElem?_set_self (List.getElem?_eq_some_iff.1 hk).1, ?_⟩
        rw [moves.owner]
        exact howner
      · exact ⟨k, (List.getElem?_set_ne heq).trans hk, howner⟩
    | elsewhere network connections =>
      rw [connections]
      exact ⟨k, hk, howner⟩
  · rw [hmoves.shares.sessions]
    exact h.sessions s hs

/-- A thread that has come to its end keeps what belongs to it. -/
theorem retired (h : own.Safe t w.bed) : own.Safe t (w.retire t).bed := by
  refine ⟨fun c hc => ?_, h.sessions⟩
  obtain ⟨k, hk, howner⟩ := h.connections c hc
  refine ⟨if k.owner = some t then { k with owner := none } else k, ?_, fun t' ht' => ?_⟩
  · simp [World.retire, Testbed.onNetwork, Network.keepAll, hk]
  · split at ht'
    · cases ht'
    · exact howner t' ht'

theorem spared_retire (h : other.Safe t' w.bed) (hne : t' ≠ t) :
    other.Spared w.bed (w.retire t).bed := by
  refine ⟨fun c hc => ?_, fun _ _ => rfl, rfl, rfl, rfl⟩
  obtain ⟨k, hk, howner⟩ := h.connections c hc
  have hkept : k.owner ≠ some t := fun ht => hne (howner t ht).symm
  simp [World.retire, Testbed.onNetwork, Network.keepAll, hk, hkept]

theorem spared_cancel (h : other.Safe t' w.bed) (hne : t' ≠ t) :
    other.Spared w.bed (w.cancel t).bed := by
  refine ⟨fun c hc => ?_, fun s hs => ?_, rfl, rfl, rfl⟩
  · obtain ⟨k, hk, howner⟩ := h.connections c hc
    have hkept : k.owner ≠ some t := fun ht => hne (howner t ht).symm
    simp [World.cancel, Testbed.cancel, Network.dropAll, hk, hkept]
  · obtain ⟨⟨v, queue⟩, hshared, hqueue, -⟩ := h.sessions s hs
    have hstays : Shared.leave t ⟨v, queue⟩ = ⟨v, queue⟩ := by
      refine congrArg (Shared.mk v) (List.filter_eq_self.2 fun t₀ ht₀ => ?_)
      rw [hqueue t₀ ht₀]
      exact decide_eq_true hne
    change (w.bed.sessions.map (Shared.leave t))[s]? = _
    rw [List.getElem?_map, hshared, Option.map_some, hstays]

/-- The session is free, or thread `t` holds it already. -/
theorem isHeldBy_join {shared : Shared Session} (h : ∀ t' ∈ shared.queue, t' = t) :
    (shared.join t).isHeldBy t = true := by
  obtain ⟨v, queue⟩ := shared
  cases queue with
  | nil => simp [join, isHeldBy]
  | cons first queue =>
    obtain rfl := h first List.mem_cons_self
    simp [join, isHeldBy]

/-- Whatever a thread asks for, it can get without the help of any other thread. -/
theorem exists_answer (h : own.Safe t w.bed) (hcovers : own.Covers e) :
    ∃ r w', w.Answers t e r w' := by
  have hbed (r : e.Response) (hr : (w.bed.answer t e).1 = some r) : ∃ r w', w.Answers t e r w' :=
    ⟨r, _, _, .inl (Prod.ext hr rfl), rfl⟩
  have hfailed (r : e.Response) (hr : e.Fails w.bed r w.bed) : ∃ r w', w.Answers t e r w' :=
    ⟨r, _, _, .inr hr, rfl⟩
  cases e with
  | write | read => exact hfailed (.error .brokenPipe) ⟨⟨_, rfl⟩, rfl⟩
  | receive c limit callId =>
    obtain ⟨k, hk, -⟩ := h.connections c (hcovers.connections (List.mem_singleton_self c))
    exact hfailed _ ⟨⟨k, .brokenPipe, hk, rfl⟩, rfl⟩
  | acquire s =>
    obtain ⟨shared, hshared, hqueue, -⟩ :=
      h.sessions s (hcovers.sessions (List.mem_singleton_self s))
    refine hbed shared.value ?_
    simp [Testbed.answer, hshared, isHeldBy_join hqueue, value_join]
  | slot | evict | slotHost | enter | fill | leave | isDefunct => cases hcovers.learns
  | _ => exact hbed _ rfl

/-- So it can come to the end of its job. -/
theorem exists_run {x : Job α} (h : own.Safe t w.bed) (hx : x.Follows rules post own) :
    ∃ b w', x.Runs t w (some b) w' := by
  induction x generalizing own w with
  | done b => exact ⟨b, w, rfl, rfl⟩
  | perform e next ih =>
    obtain ⟨hcovers, hnext⟩ := hx
    obtain ⟨r, w₁, hanswers⟩ := h.exists_answer hcovers
    obtain ⟨b, w', hrun⟩ := ih r (h.answered hcovers hanswers) (hnext r hanswers.credible)
    exact ⟨b, w', .inl ⟨r, w₁, ⟨w, .refl, hanswers⟩, hrun⟩⟩

end Safe

/-! ## Jobs that deal with what belongs to their threads -/

/-- All that belonged to the thread still does. -/
structure Within (own own' : Belongings) : Prop where
  connections : own.connections ⊆ own'.connections
  sessions : own.sessions ⊆ own'.sessions

theorem Within.refl (own : Belongings) : own.Within own :=
  ⟨List.Subset.refl _, List.Subset.refl _⟩

theorem Within.trans (h : own.Within own') (h' : own'.Within own'') : own.Within own'' :=
  ⟨List.Subset.trans h.connections h'.connections, List.Subset.trans h.sessions h'.sessions⟩

theorem covers_nothing (hstreams : e.streams = []) (hnames : e.names = [])
    (hlearns : e.learns = false) : own.Covers e :=
  ⟨hstreams ▸ List.nil_subset _, hnames ▸ List.nil_subset _, hlearns⟩

theorem covers_stream {c : ConnectionId} (hc : c ∈ own.connections) (hstreams : e.streams = [c])
    (hnames : e.names = []) (hlearns : e.learns = false) : own.Covers e :=
  ⟨hstreams ▸ List.cons_subset.2 ⟨hc, List.nil_subset _⟩, hnames ▸ List.nil_subset _, hlearns⟩

theorem covers_session {s : SessionId} (hs : s ∈ own.sessions)
    (hstreams : e.streams ⊆ own.connections) (hnames : e.names = [s])
    (hlearns : e.learns = false) : own.Covers e :=
  ⟨hstreams, hnames ▸ List.cons_subset.2 ⟨hs, List.nil_subset _⟩, hlearns⟩

theorem within_after (own : Belongings) (e : Effect) (r : e.Response) :
    own.Within (own.after e r) :=
  ⟨List.subset_append_right _ _, List.subset_append_right _ _⟩

end Belongings

open Belongings

namespace Job

variable {own own' : Belongings} {x : Job α} {f : α → Job β} {post : β → Belongings → Prop}

/-- The job deals with nothing but what belongs to its thread. -/
def Minds (x : Job α) (own : Belongings) : Prop :=
  x.Follows rules (fun _ own' => own.Within own') own

theorem Minds.bind (h : x.Minds own)
    (hf : ∀ a own', own.Within own' → (f a).Follows rules post own') :
    (x >>= f).Follows rules post own :=
  Follows.bind h hf

theorem Minds.andThen (h : x.Minds own) (hf : ∀ a own', own.Within own' → (f a).Minds own') :
    (x >>= f).Minds own :=
  h.bind fun a own' hmore => (hf a own' hmore).mono fun _ _ hmore' => hmore.trans hmore'

theorem minds_pure (a : α) : (pure a : Job α).Minds own :=
  Within.refl own

theorem minds_log (level : LogLevel) (target message : String) (fields : List (String × String)) :
    (Job.log level target message fields).Minds own :=
  ⟨covers_nothing rfl rfl rfl, fun _ _ => Within.refl own⟩

theorem log_still_bind {level : LogLevel} {target message : String}
    {fields : List (String × String)} {f : Unit → Job β} (hf : (f ()).Follows rules post own) :
    (Job.log level target message fields >>= f).Follows rules post own :=
  follows_idle_bind (covers_nothing rfl rfl rfl) (fun _ => rfl) fun _ => hf

theorem minds_of_still (h : x.Follows rules (fun _ own' => own' = own) own) : x.Minds own :=
  h.mono fun _ _ heq => heq ▸ Within.refl own

/-- Talk on a connection of the thread brings it nothing new. -/
theorem talk_still {c : ConnectionId} (h : x.Asks (Effect.TalksOn c))
    (hc : c ∈ own.connections) : x.Follows rules (fun _ own' => own' = own) own := by
  refine h.follows (fun e he => ⟨?_, ?_, ?_⟩) fun e r he => ?_
  · exact List.Subset.trans he.streams (List.cons_subset.2 ⟨hc, List.nil_subset _⟩)
  · rw [Effect.names_of_quiet (Effect.isQuiet_of_isTalk he.talk)]
    exact List.nil_subset _
  · have htalk := he.talk
    cases e <;> first | rfl | cases htalk
  · have htalk := he.talk
    cases e <;> first | rfl | cases htalk

end Job

open Job

section Minding

variable {own : Belongings} {s : SessionId} {v : Session} {c : ConnectionId}

namespace Session

/-- To shut down a session that the thread holds takes nothing but its connection. -/
theorem abort_still (hs : s ∈ own.sessions) (hv : v.stream.toList ⊆ own.connections) :
    (abort s v).Follows rules (fun _ own' => own' = own) own := by
  refine follows_idle_bind (covers_session hs (List.nil_subset _) rfl rfl) (fun _ => rfl)
    fun _ => ?_
  cases hstream : v.stream with
  | none => exact rfl
  | some c =>
    have hc : c ∈ own.connections := hv (hstream ▸ List.mem_singleton_self c)
    refine log_still_bind ?_
    refine follows_idle_bind (e := .hangUp c) (covers_stream hc rfl rfl rfl) (fun _ => rfl)
      fun r => ?_
    cases r with
    | error e => exact ⟨covers_nothing rfl rfl rfl, fun _ _ => rfl⟩
    | ok => exact rfl

/-- A call is started on the connection of the session. -/
theorem beginCall_still (hs : s ∈ own.sessions) (hv : v.stream.toList ⊆ own.connections) :
    (beginCall s v).Follows rules (fun r own' => own' = own ∧
      ∀ x, r = .ok x → x.1 ∈ own.connections ∧ x.2.2.stream.toList ⊆ own.connections) own := by
  by_cases hmark : v.inFlight = true
  · unfold beginCall
    rw [if_pos hmark]
    refine log_still_bind ((abort_still hs hv).bind ?_)
    rintro _ _ rfl
    exact ⟨rfl, fun _ hr => by cases hr⟩
  by_cases hclosed : v.isClosed = true
  · have hstart : v.start = .error (.closed v.endpoint) := by
      simp only [isClosed, hmark, Bool.or_false, Option.isNone_iff_eq_none] at hclosed
      rw [Session.start, open?, hclosed]
      rfl
    unfold beginCall
    rw [if_neg hmark, hstart]
    exact ⟨rfl, fun _ hr => by cases hr⟩
  · obtain ⟨c, hopen⟩ := exists_openOn (Bool.eq_false_iff.2 hclosed)
    rw [hopen.stream] at hv
    have hbegun : v.begun.stream.toList ⊆ own.connections := by
      rw [hopen.begun_stream]
      exact hv
    rw [hopen.beginCall]
    split
    · refine follows_idle_bind (covers_session hs hbegun rfl rfl) (fun _ => rfl)
        fun _ => ⟨rfl, ?_⟩
      rintro _ ⟨⟩
      exact ⟨hv (List.mem_singleton_self c), hbegun⟩
    · exact ⟨rfl, fun _ hr => by cases hr⟩

/-- Who takes a session of the thread has its connection. -/
theorem takes_minds {post : α → Belongings → Prop} {f : Session → Job α}
    (hs : s ∈ own.sessions)
    (hf : ∀ v own', own.Within own' → v.stream.toList ⊆ own'.connections →
      (f v).Follows rules post own') : (ask (.acquire s) >>= f).Follows rules post own := by
  refine follows_ask_bind (covers_session hs (List.nil_subset _) rfl rfl) fun v _ => ?_
  exact hf v _ (within_after own (.acquire s) v) (List.subset_append_left _ _)

theorem guarded_minds {body : Session → Job α} (hs : s ∈ own.sessions)
    (hbody : ∀ v own', own.Within own' → v.stream.toList ⊆ own'.connections →
      (body v).Minds own') : (guarded s body).Minds own := by
  refine takes_minds hs fun v own' hmore hv => (hbody v own' hmore hv).bind ?_
  intro a own'' hmore'
  have hs' : s ∈ own''.sessions := hmore'.sessions (hmore.sessions hs)
  exact ⟨covers_session hs' (List.nil_subset _) rfl rfl, fun _ _ => hmore.trans hmore'⟩

theorem close_minds (hs : s ∈ own.sessions) : (close s).Minds own := by
  refine takes_minds hs fun v own' hmore hv => ?_
  have hs' : s ∈ own'.sessions := hmore.sessions hs
  cases hstream : v.stream with
  | none =>
    exact follows_idle_bind (covers_session hs' (List.nil_subset _) rfl rfl) (fun _ => rfl)
      fun _ => hmore
  | some c =>
    have hc : c ∈ own'.connections := hv (hstream ▸ List.mem_singleton_self c)
    refine follows_idle_bind (covers_session hs' (List.nil_subset _) rfl rfl) (fun _ => rfl)
      fun _ => ?_
    refine follows_idle_bind (covers_session hs' (List.nil_subset _) rfl rfl) (fun _ => rfl)
      fun _ => log_still_bind ?_
    refine follows_idle_bind (e := .hangUp c) (covers_stream hc rfl rfl rfl) (fun _ => rfl)
      fun r => ?_
    cases r with
    | error e => exact hmore
    | ok => exact hmore

end Session

theorem Messenger.callHeld_minds {m : Messenger} (method : RemoteMethod) (body : Bytes)
    (hs : m.session ∈ own.sessions) (hv : v.stream.toList ⊆ own.connections) :
    (m.callHeld method body v).Minds own := by
  refine (Session.beginCall_still hs hv).bind ?_
  rintro r _ ⟨rfl, hbegun⟩
  cases r with
  | error e => exact minds_pure _
  | ok x =>
    obtain ⟨hc, hnow⟩ := hbegun x rfl
    refine log_still_bind ((talk_still (exchange_talks x.1 m _) hc).bind ?_)
    rintro r _ rfl
    cases r with
    | error e =>
      refine log_still_bind ((Session.abort_still hs hnow).bind ?_)
      rintro _ _ rfl
      exact minds_pure _
    | ok response =>
      refine follows_idle_bind (covers_session hs hnow rfl rfl) (fun _ => rfl) fun _ => ?_
      exact minds_of_still (talk_still (interpret_talks x.1 m method response) hc)

theorem Messenger.call_minds {m : Messenger} (method : RemoteMethod) (body : Bytes)
    (hs : m.session ∈ own.sessions) : (m.call method body).Minds own :=
  Session.guarded_minds hs fun _ _ hmore hv => callHeld_minds method body (hmore.sessions hs) hv

theorem Service.call_minds {A Q : Type} [Protobuf.Message A] [Protobuf.Message Q] {m : Messenger}
    (method : RemoteMethod) (request : Q) (hs : m.session ∈ own.sessions) :
    (Service.call A m method request).Minds own := by
  refine (minds_log ..).andThen fun _ _ hmore => ?_
  refine (Messenger.call_minds method _ (hmore.sessions hs)).andThen fun r _ _ => ?_
  cases r <;> exact minds_pure _

/-! ### Connecting -/

/-- The session that comes of it belongs to the thread. -/
theorem Session.connect_minds (endpoint : Endpoint) {probe : Session.Probe}
    (h : ∀ s own, s ∈ own.sessions → (probe s).Minds own) :
    (Session.connect endpoint probe).Follows rules
      (fun r own' => ∀ s, r = .ok s → s ∈ own'.sessions) own := by
  refine (minds_log ..).bind fun _ own _ => ?_
  refine follows_ask_bind (covers_nothing rfl rfl rfl) fun r _ => ?_
  cases r with
  | error e => exact nofun
  | ok c =>
    change Job.Follows _ _ _ (own.after (.dial endpoint) (.ok c))
    have hc : c ∈ (own.after (.dial endpoint) (.ok c)).connections := List.mem_cons_self
    refine (talk_still (Stream.sendHello_talks c) hc).bind ?_
    rintro r _ rfl
    cases r with
    | error e =>
      exact follows_idle_bind (covers_stream hc rfl rfl rfl) (fun _ => rfl) fun _ => nofun
    | ok =>
      refine follows_ask_bind (covers_stream hc rfl rfl rfl) fun s _ => ?_
      refine (h s _ List.mem_cons_self).bind fun r own' hmore => ?_
      have hs : s ∈ own'.sessions := hmore.sessions List.mem_cons_self
      cases r with
      | error source =>
        refine (minds_log ..).bind fun _ own'' hmore' => ?_
        refine (close_minds (hmore'.sessions hs)).bind fun r _ _ => ?_
        cases r with
        | error e => exact (minds_log ..).bind fun _ _ _ => nofun
        | ok => exact nofun
      | ok =>
        refine (minds_log ..).bind fun _ own'' hmore' => ?_
        rintro _ ⟨⟩
        exact hmore'.sessions hs

namespace Host

variable {host : Host}

theorem fetchStatus_minds {m : Messenger} (hs : m.session ∈ own.sessions) :
    (fetchStatus m).Minds own := by
  refine (Service.call_minds _ _ hs).andThen fun r _ _ => ?_
  cases r with
  | error e => exact minds_pure _
  | ok response =>
    dsimp only
    split <;> exact minds_pure _

/-- A host that was connected to is the one that was dialed, and its session belongs to the
thread. -/
theorem connect_minds (endpoint : Endpoint) (timeoutMillis : UInt32) :
    (connect endpoint timeoutMillis).Follows rules
      (fun r own' => ∀ host, r = .ok host →
        host.endpoint = endpoint ∧ host.session ∈ own'.sessions) own := by
  have hprobe (s : SessionId) (own : Belongings) (hs : s ∈ own.sessions) :
      (Session.pingProbe endpoint timeoutMillis s).Minds own :=
    (Service.call_minds _ _ hs).andThen fun _ _ _ => minds_pure _
  refine (Session.connect_minds endpoint hprobe).bind fun r own hconnected => ?_
  cases r with
  | error e => exact fun _ hr => by cases hr
  | ok s =>
    have hs := hconnected s rfl
    have hfetch : (fetchStatus { session := s, endpoint, timeoutMillis }).Minds own :=
      fetchStatus_minds hs
    refine hfetch.bind fun r own' hmore => ?_
    cases r with
    | error e =>
      refine (Session.close_minds (hmore.sessions hs)).bind fun r _ _ => ?_
      cases r with
      | error e => exact (minds_log ..).bind fun _ _ _ _ hr => by cases hr
      | ok => exact fun _ hr => by cases hr
    | ok status =>
      refine (minds_log ..).bind fun _ own'' hmore' host hr => ?_
      obtain rfl := Except.ok.inj hr
      exact ⟨rfl, hmore'.sessions (hmore.sessions hs)⟩

theorem close_minds (hs : host.session ∈ own.sessions) : host.close.Minds own :=
  (Session.close_minds hs).andThen fun _ _ _ => minds_pure _

end Host

theorem PingRow.measure_minds (timeoutMillis : UInt32) (endpoint : Endpoint) :
    (measure timeoutMillis endpoint).Follows rules (fun _ _ => True) own := by
  refine (Host.connect_minds endpoint timeoutMillis).bind fun r own hconnected => ?_
  cases r with
  | error e =>
    exact ⟨covers_nothing rfl rfl rfl, fun _ _ => trivial⟩
  | ok host =>
    obtain ⟨-, hs⟩ := hconnected host rfl
    refine follows_idle_bind (e := .clock) (covers_nothing rfl rfl rfl) (fun _ => rfl)
      fun start => ?_
    have hping : host.messenger.ping.Minds own := Service.call_minds _ _ hs
    refine hping.bind fun result own' hmore => ?_
    refine follows_idle_bind (e := .clock) (covers_nothing rfl rfl rfl) (fun _ => rfl)
      fun stop => ?_
    refine (Host.close_minds (hmore.sessions hs)).bind fun r _ _ => ?_
    cases r with
    | error e => exact (minds_log ..).bind fun _ _ _ => trivial
    | ok => exact trivial

end Minding
end ClusterProbe
