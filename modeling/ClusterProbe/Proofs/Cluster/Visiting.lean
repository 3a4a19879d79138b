import ClusterProbe.Proofs.Cluster.Acquaintance
import ClusterProbe.Proofs.Cluster.Discovery

/-!
# A lookup on its own

What each step of a lookup does to the pool when no other thread moves. Slots are given out, looked
into, filled and left at once, and a slot that nobody waits for is entered at once. So a lookup that
has come to an empty slot connects, and leaves there what has come of it (`Cluster.occupy_runs`); it
waits for nothing else (`Cluster.exists_occupy`).
-/
namespace ClusterProbe

open Shared

variable {α β : Type} {t : ThreadId} {e : Effect} {bed bed' : Testbed} {w w' w₁ : World} {u : Uuid}
  {i j : SlotId} {host : Host} {content : Option Host}

/-! ## Answers that come at once -/

/-- The effects that nobody ever has to wait for. -/
def Effect.isPrompt : Effect → Bool
  | write _ _ | read _ _ | receive _ _ _ | acquire _ | enter _ => false
  | _ => true

theorem Testbed.answer_prompt (t : ThreadId) (bed : Testbed) (h : e.isPrompt = true) :
    (bed.answer t e).1 ≠ none := by
  cases e with
  | write | read | receive | acquire | enter => cases h
  | slot u =>
    simp only [answer]
    split <;> exact Option.some_ne_none _
  | evict u stale =>
    simp only [answer]
    split
    · split <;> exact Option.some_ne_none _
    · exact Option.some_ne_none _
  | _ => exact Option.some_ne_none _

theorem Testbed.answer_acquire_free {s : SessionId} {v : Session}
    (h : bed.sessions[s]? = some ⟨v, []⟩) : (bed.answer t (.acquire s)).1 ≠ none := by
  simp [answer, h, join, isHeldBy]

theorem Testbed.answer_enter_free (h : bed.slots[i]? = some ⟨content, []⟩) :
    (bed.answer t (.enter i)).1 ≠ none := by
  simp [answer, h, join, isHeldBy]

namespace World

theorem exists_settles (h : (w.bed.answer t e).1 ≠ none) : ∃ r w', w.Settles t e r w' := by
  cases hanswer : w.bed.answer t e with
  | mk o bed =>
    cases o with
    | none => exact absurd (congrArg Prod.fst hanswer) h
    | some r => exact ⟨r, _, w, .refl, bed, .inl hanswer, rfl⟩

/-- What is answered at once is answered by a testbed with the same sessions and slots. -/
theorem Settles.prompt {r : e.Response} (h : w.Settles t e r w') (he : e.matters = true)
    (hprompt : ∀ bed : Testbed, bed.Shares w.bed → (bed.answer t e).1 ≠ none) :
    ∃ bed, w.bed.Shares bed ∧ bed.answer t e = (some r, w'.bed) := by
  obtain ⟨w₁, hwaits, bed, hb | hfails, rfl⟩ := h
  · exact ⟨w₁.bed, hwaits.shares_of_answered hprompt, hb⟩
  · rw [hfails.not_matters] at he
    cases he

theorem Settles.books {r : e.Response} (h : w.Settles t e r w') (hb : e.isBooked = false)
    (hsource : e.source? = none) : w.Books [] [] [] w' := by
  have hspans : w.Spans 0 0 {} w' := by
    refine h.spans_unbooked ?_ hb
    rw [hsource]
    exact (Option.some_ne_none 0).symm
  exact hspans.books

theorem Books.dialed {dialed : List Endpoint} {opened hungUp : List ConnectionId}
    (h : w.Books dialed opened hungUp w') : w'.past.dialed = w.past.dialed ++ dialed := by
  obtain ⟨⟨g, hg, rfl, -, -⟩, -⟩ := h
  rw [hg, Chronicle.dialed_append]

end World

namespace Job

/-- A job may come to all that is left of it may come to, once it has been answered so far. -/
def Leads (t : ThreadId) (x : Job α) (w : World) (rest : Job α) (w₁ : World) : Prop :=
  ∀ o w', rest.Runs t w₁ o w' → x.Runs t w o w'

variable {x rest : Job α} {f : α → Job β} {w₂ : World}

theorem Leads.trans {y : Job α} (h : x.Leads t w y w₁) (h' : y.Leads t w₁ rest w₂) :
    x.Leads t w rest w₂ :=
  fun o w' hrun => h o w' (h' o w' hrun)

theorem leads_ask_bind {f : e.Response → Job α} {r : e.Response} (h : w.Settles t e r w₁) :
    (ask e >>= f).Leads t w (f r) w₁ :=
  fun _ _ hrun => .inl ⟨r, w₁, h, hrun⟩

theorem Runs.leads_bind {a : α} (h : x.Runs t w (some a) w₁) :
    (x >>= f).Leads t w (f a) w₁ :=
  fun _ _ hrun => (runs_bind ..).2 (.inl ⟨a, w₁, h, hrun⟩)

theorem ask_prompt {e : Effect} (h : e.isPrompt = true) : (ask e).Asks (·.isPrompt = true) :=
  asks_ask h

/-- A job that never has to wait comes to its end. -/
theorem Asks.exists_run (h : x.Asks (·.isPrompt = true)) (t : ThreadId) (w : World) :
    ∃ a w', x.Runs t w (some a) w' := by
  induction x generalizing w with
  | done a => exact ⟨a, w, rfl, rfl⟩
  | perform e next ih =>
    obtain ⟨r, w₁, hsettles⟩ := World.exists_settles (Testbed.answer_prompt t w.bed h.1)
    obtain ⟨a, w', hrun⟩ := ih r (h.2 r) w₁
    exact ⟨a, w', .inl ⟨r, w₁, hsettles, hrun⟩⟩

/-- A job that has to wait at most for its first answer comes to its end if that one is there. -/
theorem exists_run_ask_bind {f : e.Response → Job α} (h : (w.bed.answer t e).1 ≠ none)
    (hf : ∀ r, (f r).Asks (·.isPrompt = true)) : ∃ a w', (ask e >>= f).Runs t w (some a) w' := by
  obtain ⟨r, w₁, hsettles⟩ := World.exists_settles h
  obtain ⟨a, w', hrun⟩ := (hf r).exists_run t w₁
  exact ⟨a, w', .inl ⟨r, w₁, hsettles, hrun⟩⟩

end Job

/-! ## Slots given out -/

/-- Server `u` has got a new slot. -/
structure Testbed.Renews (u : Uuid) (bed bed' : Testbed) : Prop where
  sessions : bed'.sessions = bed.sessions
  slots : bed'.slots = bed.slots ++ [⟨none, []⟩]
  pool : ∀ u', bed'.pool.lookup u' =
    if u' = u then some bed.slots.length else bed.pool.lookup u'

/-- Slot `i` has become like this. -/
structure Testbed.Sets (i : SlotId) (slot : Shared (Option Host)) (bed bed' : Testbed) : Prop where
  sessions : bed'.sessions = bed.sessions
  pool : bed'.pool = bed.pool
  slots : bed'.slots = bed.slots.set i slot

namespace Testbed

theorem Shares.renews {bed₁ : Testbed} (h : bed.Shares bed₁) (u : Uuid) :
    (bed₁.newSlot u).1 = bed.slots.length ∧ bed.Renews u (bed₁.newSlot u).2 := by
  refine ⟨congrArg List.length h.slots, h.sessions, congrArg (· ++ _) h.slots, fun u' => ?_⟩
  rw [lookup_newSlot, h.slots, h.pool]

theorem Shares.andRenews {bed'' : Testbed} (h : bed.Shares bed') (h' : bed'.Renews u bed'') :
    bed.Renews u bed'' where
  sessions := h'.sessions.trans h.sessions
  slots := h'.slots.trans (congrArg (· ++ _) h.slots)
  pool u' := by rw [h'.pool, h.slots, h.pool]

end Testbed

namespace World

theorem Settles.slot (h : w.Settles t (.slot u) i w') :
    (w.bed.pool.lookup u = some i ∧ w.bed.Shares w'.bed) ∨
      (w.bed.pool.lookup u = none ∧ i = w.bed.slots.length ∧ w.bed.Renews u w'.bed) := by
  obtain ⟨bed, hshares, hanswer⟩ := h.prompt rfl fun bed _ => bed.answer_prompt t rfl
  rw [← hshares.pool]
  simp only [Testbed.answer] at hanswer
  split at hanswer
  · rename_i j hj
    obtain ⟨hi, hbed⟩ := Prod.mk.inj hanswer
    obtain rfl := Option.some.inj hi
    exact .inl ⟨hj, hbed ▸ hshares⟩
  · rename_i hnone
    obtain ⟨hi, hbed⟩ := Prod.mk.inj hanswer
    obtain rfl := Option.some.inj hi
    obtain ⟨hlength, hrenews⟩ := hshares.renews u
    exact .inr ⟨hnone, hlength, hbed ▸ hrenews⟩

/-- A stale slot is replaced as long as it is the current one. -/
theorem Settles.evict (h : w.Settles t (.evict u i) j w') (hi : w.bed.pool.lookup u = some i) :
    j = w.bed.slots.length ∧ w.bed.Renews u w'.bed := by
  obtain ⟨bed, hshares, hanswer⟩ := h.prompt rfl fun bed _ => bed.answer_prompt t rfl
  rw [← hshares.pool] at hi
  simp only [Testbed.answer, hi, if_true] at hanswer
  obtain ⟨hj, hbed⟩ := Prod.mk.inj hanswer
  obtain rfl := Option.some.inj hj
  obtain ⟨hlength, hrenews⟩ := hshares.renews u
  exact ⟨hlength, hbed ▸ hrenews⟩

theorem Settles.slotHost (h : w.Settles t (.slotHost i) content w') :
    content = w.bed.slots[i]?.bind value ∧ w.bed.Shares w'.bed := by
  obtain ⟨bed, hshares, hanswer⟩ := h.prompt rfl fun bed _ => bed.answer_prompt t rfl
  rw [← hshares.slots]
  exact ⟨(Option.some.inj (congrArg Prod.fst hanswer)).symm, h.shares rfl rfl⟩

theorem Settles.isDefunct {s : SessionId} {v : Session} {defunct : Bool}
    (h : w.Settles t (.isDefunct s) defunct w') (hfree : w.Free s v) :
    defunct = v.isClosed ∧ w.bed.Shares w'.bed := by
  obtain ⟨bed, hshares, hanswer⟩ := h.prompt rfl fun bed _ => bed.answer_prompt t rfl
  refine ⟨?_, h.shares rfl rfl⟩
  have hdefunct := Option.some.inj (congrArg Prod.fst hanswer)
  rw [← hdefunct, hshares.sessions, hfree]
  rfl

theorem Settles.pooled {hosts : List Host} (h : w.Settles t .pooled hosts w') :
    hosts = w.bed.pooled ∧ w.bed.Shares w'.bed := by
  refine ⟨?_, h.shares rfl rfl⟩
  obtain ⟨w₁, hwaits, bed, hanswer | hfails, rfl⟩ := h
  · have hshares := hwaits.shares rfl rfl
    rw [← Option.some.inj (congrArg Prod.fst hanswer), Testbed.pooled, hshares.pool, hshares.slots,
      Testbed.pooled]
  · exact hfails.elim

theorem Settles.enter {r : Unit} (h : w.Settles t (.enter i) r w')
    (hi : w.bed.slots[i]? = some ⟨content, []⟩) : w.bed.Sets i ⟨content, [t]⟩ w'.bed := by
  obtain ⟨bed, hshares, hanswer⟩ := h.prompt rfl fun bed hbed => by
    rw [hbed.slots] at hi
    exact Testbed.answer_enter_free hi
  rw [← hshares.slots] at hi
  simp only [Testbed.answer, hi, join, isHeldBy] at hanswer
  obtain ⟨-, hbed⟩ := Prod.mk.inj hanswer
  rw [← hbed]
  exact ⟨hshares.sessions, hshares.pool, congrArg (List.set · i _) hshares.slots⟩

/-- An effect that is answered at once by changing what is at slot `i`. -/
theorem Settles.modifies {r : e.Response} {slot : Shared (Option Host)}
    (f : Shared (Option Host) → Shared (Option Host)) (h : w.Settles t e r w')
    (he : e.matters = true) (hprompt : e.isPrompt = true)
    (hanswer : ∀ bed : Testbed, (bed.answer t e).2.sessions = bed.sessions ∧
      (bed.answer t e).2.pool = bed.pool ∧ (bed.answer t e).2.slots = bed.slots.modify i f)
    (hi : w.bed.slots[i]? = some slot) : w.bed.Sets i (f slot) w'.bed := by
  obtain ⟨bed, hshares, hanswered⟩ := h.prompt he fun bed _ => bed.answer_prompt t hprompt
  obtain ⟨hsessions, hpool, hslots⟩ := hanswer bed
  rw [hanswered] at hsessions hpool hslots
  rw [hshares.slots, modify_eq_set hi] at hslots
  exact ⟨hsessions.trans hshares.sessions, hpool.trans hshares.pool, hslots⟩

theorem Settles.fill {r : Unit} (h : w.Settles t (.fill i host) r w')
    (hi : w.bed.slots[i]? = some ⟨content, [t]⟩) : w.bed.Sets i ⟨some host, [t]⟩ w'.bed :=
  h.modifies (fun shared => { shared with value := some host }) rfl rfl
    (fun _ => ⟨rfl, rfl, rfl⟩) hi

theorem Settles.leave {r : Unit} (h : w.Settles t (.leave i) r w')
    (hi : w.bed.slots[i]? = some ⟨content, [t]⟩) : w.bed.Sets i ⟨content, []⟩ w'.bed := by
  have hleft : Shared.leave t (⟨content, [t]⟩ : Shared (Option Host)) = ⟨content, []⟩ := by
    simp [Shared.leave]
  rw [← hleft]
  exact h.modifies (Shared.leave t) rfl rfl (fun _ => ⟨rfl, rfl, rfl⟩) hi

end World

/-! ## Hosts that are closed -/

namespace Session

variable {s : SessionId} {v : Session}

theorem exists_close (t : ThreadId) (hw : w.Free s v) :
    ∃ r w', (close s).Runs t w (some r) w' := by
  refine Job.exists_run_ask_bind (Testbed.answer_acquire_free hw) fun found => ?_
  split
  · exact (Job.ask_prompt rfl).bind fun _ => Job.asks_pure _ _
  · refine (Job.ask_prompt rfl).bind fun _ => (Job.ask_prompt rfl).bind fun _ => ?_
    refine (Job.ask_prompt rfl).bind fun _ => (Job.ask_prompt rfl).bind fun r => ?_
    cases r <;> exact Job.asks_pure _ _

end Session

namespace Cluster

variable {v : Session}

/-- What closing a host does to its session, and that it does nothing else. -/
theorem closeQuietly_runs (h : (closeQuietly host).Runs t w (some ()) w')
    (hw : w.Free host.session v) :
    w'.Free host.session v.closed ∧ w.Books [] [] v.stream.toList w' ∧
      w.bed.Spares [host.session] w'.bed := by
  refine ⟨?_, closeQuietly_books h hw, ?_⟩
  · obtain ⟨r, w₁, hclose, hlast⟩ := (Job.runs_bind_some _ _ _).1 h
    obtain ⟨r₀, w₂, hclosed, hr, rfl⟩ := (Job.runs_bind_some _ _ _).1 hclose
    obtain ⟨-, -, hfree⟩ := Session.close_runs (c := 0) hclosed hw
    cases r with
    | error e =>
      have hlog : w₁.Passes 0 0 {} w' := Job.Runs.plain (e := .log _) hlast rfl
      exact hfree.shares hlog.shares
    | ok =>
      obtain ⟨-, rfl⟩ := hlast
      exact hfree
  · exact (closeQuietly_knows (List.mem_singleton_self _)).spares (closeQuietly_keeps host).away h

theorem exists_closeQuietly (t : ThreadId) (hw : w.Free host.session v) :
    ∃ w', (closeQuietly host).Runs t w (some ()) w' := by
  obtain ⟨r, w₁, hclose⟩ := Session.exists_close t hw
  have hclosed : host.close.Runs t w (some (r.mapError .session)) w₁ :=
    hclose.leads_bind _ _ ⟨rfl, rfl⟩
  cases r with
  | error e =>
    obtain ⟨_, w', hlog⟩ := (Job.ask_prompt (e := .log _) rfl).exists_run t w₁
    exact ⟨w', hclosed.leads_bind _ _ hlog⟩
  | ok => exact ⟨w₁, hclosed.leads_bind _ _ ⟨rfl, rfl⟩⟩

end Cluster

/-! ## Coming to an empty slot -/

/-- Slot `i` is the current one of server `u` and of no other, and there is nothing in it and nobody
at it. -/
structure Testbed.Vacant (u : Uuid) (i : SlotId) (bed : Testbed) : Prop where
  current : bed.pool.lookup u = some i
  empty : bed.slots[i]? = some ⟨none, []⟩
  apart : ∀ u', u' ≠ u → bed.pool.lookup u' ≠ some i

/-- All servers but `u` have the slots that they had, just as they were. -/
def Testbed.Apart (u : Uuid) (bed bed' : Testbed) : Prop :=
  ∀ u', u' ≠ u → bed'.pool.lookup u' = bed.pool.lookup u' ∧
    ∀ i, bed.pool.lookup u' = some i → bed'.slots[i]? = bed.slots[i]?

namespace Testbed

theorem Apart.of_eq (hslots : bed'.slots = bed.slots) (hpool : bed'.pool = bed.pool) :
    bed.Apart u bed' :=
  fun u' _ => ⟨congrArg (List.lookup u') hpool, fun i _ => congrArg (·[i]?) hslots⟩

theorem Apart.trans {bed'' : Testbed} (h : bed.Apart u bed') (h' : bed'.Apart u bed'') :
    bed.Apart u bed'' := by
  intro u' hne
  obtain ⟨hpool, hslots⟩ := h u' hne
  obtain ⟨hpool', hslots'⟩ := h' u' hne
  exact ⟨hpool'.trans hpool, fun i hi => (hslots' i (hpool.trans hi)).trans (hslots i hi)⟩

theorem Vacant.of_eq (h : bed.Vacant u i) (hslots : bed'.slots = bed.slots)
    (hpool : bed'.pool = bed.pool) : bed'.Vacant u i where
  current := by rw [hpool]; exact h.current
  empty := by rw [hslots]; exact h.empty
  apart := by rw [hpool]; exact h.apart

theorem Vacant.apart_set {slot : Shared (Option Host)} (h : bed.Vacant u i)
    (hslots : bed'.slots = bed.slots.set i slot) (hpool : bed'.pool = bed.pool) :
    bed.Apart u bed' := by
  refine fun u' hne => ⟨congrArg (List.lookup u') hpool, fun i' hi' => ?_⟩
  have hother : i ≠ i' := by
    rintro rfl
    exact h.apart u' hne hi'
  rw [hslots, List.getElem?_set_ne hother]

theorem Sets.trans {slot slot' : Shared (Option Host)} {bed'' : Testbed}
    (h : bed.Sets i slot bed') (h' : bed'.Sets i slot' bed'') : bed.Sets i slot' bed'' where
  sessions := h'.sessions.trans h.sessions
  pool := h'.pool.trans h.pool
  slots := by rw [h'.slots, h.slots, List.set_set]

theorem Shares.andSets {slot : Shared (Option Host)} {bed'' : Testbed} (h : bed.Shares bed')
    (h' : bed'.Sets i slot bed'') : bed.Sets i slot bed'' where
  sessions := h'.sessions.trans h.sessions
  pool := h'.pool.trans h.pool
  slots := h'.slots.trans (congrArg (List.set · i slot) h.slots)

theorem Sets.getElem? {slot : Shared (Option Host)} (h : bed.Sets i slot bed')
    (hi : bed.slots[i]? = some ⟨content, []⟩) : bed'.slots[i]? = some slot := by
  rw [h.slots]
  exact List.getElem?_set_self (List.getElem?_eq_some_iff.1 hi).1

end Testbed

/-- From `w` to `w'` thread `t` has connected to a server for the empty slot `i`, and has left there
what came of it. -/
structure World.Occupies (t : ThreadId) (endpoint : Endpoint) (timeoutMillis : UInt32) (i : SlotId)
    (w : World) (r : Except ClientError Host) (w' : World) : Prop where
  connected : ∃ w₁ w₂, w.Books [] [] [] w₁ ∧
    (Host.connect endpoint timeoutMillis).Runs t w₁ (some r) w₂ ∧ w₂.Books [] [] [] w'
  slots : w'.bed.slots = w.bed.slots.set i ⟨r.toOption, []⟩
  pool : w'.bed.pool = w.bed.pool
  sessions : ∀ s, s < w.bed.sessions.length → w'.bed.sessions[s]? = w.bed.sessions[s]?
  opens : ∀ host, r = .ok host → ∃ v, w'.Free host.session v ∧ v.isClosed = false

namespace Cluster

variable {c : Cluster} {endpoint : Endpoint} {r r' : Except ClientError Host} {w₂ : World}

theorem settle_runs (h : (settle i r).Runs t w (some r') w')
    (hi : w.bed.slots[i]? = some ⟨none, [t]⟩) :
    r' = r ∧ w.Books [] [] [] w' ∧ w.bed.Sets i ⟨r.toOption, []⟩ w'.bed := by
  cases r with
  | error e =>
    obtain ⟨_, w₁, hleave, hr, rfl⟩ := (Job.runs_ask_bind_some (.leave i) _ _).1 h
    exact ⟨Option.some.inj hr, hleave.books rfl rfl, hleave.leave hi⟩
  | ok host =>
    obtain ⟨_, w₁, hfill, h⟩ := (Job.runs_ask_bind_some (.fill i host) _ _).1 h
    obtain ⟨_, w₂, hleave, hr, rfl⟩ := (Job.runs_ask_bind_some (.leave i) _ _).1 h
    have hfilled := hfill.fill hi
    have hheld : w₁.bed.slots[i]? = some ⟨some host, [t]⟩ := by
      rw [hfilled.slots]
      exact List.getElem?_set_self (List.getElem?_eq_some_iff.1 hi).1
    exact ⟨Option.some.inj hr, (hfill.books rfl rfl).trans (hleave.books rfl rfl),
      hfilled.trans (hleave.leave hheld)⟩

theorem exists_settle (t : ThreadId) (w : World) (i : SlotId) (r : Except ClientError Host) :
    ∃ w', (settle i r).Runs t w (some r) w' := by
  cases r with
  | error e =>
    obtain ⟨_, w₁, hleave⟩ := World.exists_settles (w.bed.answer_prompt t (e := .leave i) rfl)
    exact ⟨w₁, .inl ⟨_, w₁, hleave, rfl, rfl⟩⟩
  | ok host =>
    obtain ⟨_, w₁, hfill⟩ := World.exists_settles (w.bed.answer_prompt t (e := .fill i host) rfl)
    obtain ⟨_, w₂, hleave⟩ := World.exists_settles (w₁.bed.answer_prompt t (e := .leave i) rfl)
    exact ⟨w₂, .inl ⟨_, w₁, hfill, .inl ⟨_, w₂, hleave, rfl, rfl⟩⟩⟩

theorem occupy_runs (h : (c.occupy u endpoint i).Runs t w (some r) w')
    (hi : w.bed.slots[i]? = some ⟨none, []⟩) : w.Occupies t endpoint c.timeoutMillis i r w' := by
  obtain ⟨found, w₁, hlook, h⟩ := (Job.runs_ask_bind_some (.slotHost i) _ _).1 h
  obtain ⟨hfound, hlooked⟩ := hlook.slotHost
  rw [hi] at hfound
  subst hfound
  obtain ⟨_, w₂, henter, h⟩ := (Job.runs_ask_bind_some (.enter i) _ _).1 h
  have hentered := henter.enter ((congrArg (·[i]?) hlooked.slots).trans hi)
  have hsets := hlooked.andSets hentered
  have hheld := hsets.getElem? hi
  obtain ⟨found, w₃, hlook', h⟩ := (Job.runs_ask_bind_some (.slotHost i) _ _).1 h
  obtain ⟨hfound, hlooked'⟩ := hlook'.slotHost
  rw [hheld] at hfound
  subst hfound
  obtain ⟨_, w₄, hlog, h⟩ := Job.Runs.plain_bind_some (e := .log _) h rfl 0 0
  obtain ⟨r₀, w₅, hconnect, hsettle⟩ := (Job.runs_bind_some _ _ _).1 h
  have hbooks : w.Books [] [] [] w₄ :=
    (((hlook.books rfl rfl).trans (henter.books rfl rfl)).trans (hlook'.books rfl rfl)).trans
      hlog.spans.books
  -- connecting leaves alone all that was there before
  have hspares : w₄.bed.Spares [] w₅.bed :=
    (Host.connect_knows endpoint c.timeoutMillis).spares (Host.connect_keeps ..).away hconnect
  have hshares := hlooked'.trans hlog.shares
  have hslots : w₅.bed.slots = w.bed.slots.set i ⟨none, [t]⟩ :=
    (hspares.slots.trans hshares.slots).trans hsets.slots
  have hleft : w₅.bed.slots[i]? = some ⟨none, [t]⟩ := by
    rw [hslots]
    exact List.getElem?_set_self (List.getElem?_eq_some_iff.1 hi).1
  obtain ⟨rfl, hsettled, hfilled⟩ := settle_runs hsettle hleft
  have hsessions : w₄.bed.sessions = w.bed.sessions := hshares.sessions.trans hsets.sessions
  refine ⟨⟨w₄, w₅, hbooks, hconnect, hsettled⟩, ?_, ?_, fun s hs => ?_, ?_⟩
  · rw [hfilled.slots, hslots, List.set_set]
  · exact hfilled.pool.trans (hspares.pool.trans (hshares.pool.trans hsets.pool))
  · rw [← hsessions] at hs ⊢
    rw [hfilled.sessions]
    exact hspares.sessions s hs List.not_mem_nil
  · rintro host rfl
    obtain ⟨c', v, -, hopen, hfree, -⟩ := Host.connect_runs hconnect
    exact ⟨v, (congrArg (·[host.session]?) hfilled.sessions).trans hfree, hopen.isClosed⟩

/-- It waits for nothing but the server. -/
theorem exists_occupy (c : Cluster) (t : ThreadId) (u : Uuid) (endpoint : Endpoint)
    (hi : w.bed.slots[i]? = some ⟨none, []⟩) :
    ∃ w₁, w.Books [] [] [] w₁ ∧ (c.occupy u endpoint i).Leads t w
      (Host.connect endpoint c.timeoutMillis >>= settle i) w₁ := by
  obtain ⟨found, w₁, hlook⟩ := World.exists_settles (w.bed.answer_prompt t (e := .slotHost i) rfl)
  obtain ⟨hfound, hshares⟩ := hlook.slotHost
  rw [hi] at hfound
  subst hfound
  rw [← hshares.slots] at hi
  obtain ⟨_, w₂, henter⟩ := World.exists_settles (Testbed.answer_enter_free (t := t) hi)
  have hheld := (henter.enter hi).getElem? hi
  obtain ⟨found, w₃, hlook'⟩ :=
    World.exists_settles (w₂.bed.answer_prompt t (e := .slotHost i) rfl)
  obtain ⟨hfound, -⟩ := hlook'.slotHost
  rw [hheld] at hfound
  subst hfound
  obtain ⟨_, w₄, hlog⟩ := World.exists_settles (w₃.bed.answer_prompt t (e := .log _) rfl)
  refine ⟨w₄, ?_, ?_⟩
  · exact (((hlook.books rfl rfl).trans (henter.books rfl rfl)).trans (hlook'.books rfl rfl)).trans
      (hlog.books rfl rfl)
  · exact .trans (Job.leads_ask_bind hlook) <| .trans (Job.leads_ask_bind henter) <|
      .trans (Job.leads_ask_bind hlook') (Job.leads_ask_bind hlog)

end Cluster
end ClusterProbe
