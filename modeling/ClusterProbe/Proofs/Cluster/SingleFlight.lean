import ClusterProbe.Proofs.Cluster.Refusal
import ClusterProbe.Proofs.Cluster.Dialing

/-!
# Single flight

However lookups of a server are interleaved with each other and with the use of its hosts, at most
one thread connects to it at any moment, and only while its current slot is empty. A host that is
not in the current slot any more has been found defunct, and no call on it will ever complete again.
All lookups that end with the same slot give the same host.
-/
namespace ClusterProbe

open Shared

namespace Scene

variable (c : Cluster) (σ : Scene) (u : Uuid)

/-- Thread `t` is on the way to connect to server `u`, for its slot `i`. -/
def ConnectingFor (t : ThreadId) (i : SlotId) : Prop :=
  ∃ job, σ.workers[t]? = some ⟨.seek u, .running job⟩ ∧ Cluster.ConnectsFor i job

def Connecting (t : ThreadId) : Prop := ∃ i, σ.ConnectingFor u t i

/-- A lookup of server `u` has connected to this host and has put it into a slot. -/
def Resolved (host : Host) : Prop :=
  ∃ i, σ.world.past.Gives u i ∧ σ.world.past.Fills i host

/-- The current slot of server `u`, and what is in it. -/
def Current (i : SlotId) (content : Option Host) : Prop :=
  σ.world.bed.pool.lookup u = some i ∧ valueAt σ.world.bed.slots i = some content

/-- The lookup by thread `t` has ended with this host, after it was last given slot `i`. -/
def Returned (i : SlotId) (t : ThreadId) (host : Host) : Prop :=
  σ.workers[t]? = some ⟨.seek u, .finished (.ok host)⟩ ∧
    (σ.world.past.assigned t).getLast? = some (u, i)

/-- No call on session `s` ever completes again: none that is under way gives the session back in a
state for the next one, and each that begins later is refused. -/
structure Exhausted (s : SessionId) : Prop where
  completes : ∀ {σ' : Scene}, Relation.ReflTransGen (Step c) σ σ' →
    ∃ g, σ'.world.past = σ.world.past ++ g ∧ ∀ v ∈ Chronicle.stored s g, v.isClosed = true
  begins : ∀ {σ' : Scene}, Relation.ReflTransGen (Step c) σ σ' →
    ∀ {Q A : Type} [Protobuf.Message Q] [Protobuf.Message A] {t : ThreadId} {m : Messenger}
      {method : RemoteMethod} {request : Q} {result : Except SessionError A},
      σ'.workers[t]? = some ⟨.call A m method request, .finished result⟩ → m.session = s →
        σ.workers.length ≤ t → Refused result

/-- What holds of the lookups of one server at every moment. -/
structure SingleFlight : Prop where
  alone : ∀ t t', σ.Connecting u t → σ.Connecting u t' → t = t'
  /-- Whoever dials for the server is connecting to it. -/
  dials : ∀ t endpoint next,
    σ.workers[t]? = some ⟨.seek u, .running (.perform (.dial endpoint) next)⟩ → σ.Connecting u t
  /-- While somebody connects, the current slot is empty, and whatever was resolved before has been
  found defunct. -/
  vacant : ∀ t i, σ.ConnectingFor u t i → σ.Current u i none ∧
    ∀ host, σ.Resolved u host → σ.world.past.FindsDefunct host.session
  displaced : ∀ host, σ.Resolved u host → (∃ i, σ.Current u i (some host)) ∨
    (σ.world.past.FindsDefunct host.session ∧ σ.Exhausted c host.session)
  agree : ∀ i t t' host host', σ.Returned u i t host → σ.Returned u i t' host' → host = host'

end Scene

namespace Scene

variable {c : Cluster} {σ σ' : Scene} {u : Uuid} {P : Standings} {t : ThreadId} {s : SessionId}

theorem governed_of_reachable (h : Reachable c σ) : ∃ P, Governed P σ := by
  induction h with
  | initial bed slots pool =>
    refine ⟨fun _ => .free .outside, fun t => Grip.holds_empty t bed, ?_, fun _ _ hworker => ?_⟩
    · have hgives (u : Uuid) (i : SlotId) : ¬ Chronicle.Gives [] u i := by
        rintro ⟨t, h⟩
        cases h
      exact {
        stages := fun _ => trivial
        current := fun u i h => by
          rw [show (World.mk bed []).bed.pool = [] from pool] at h
          cases h
        exists_slot := fun u i h => absurd h (hgives u i)
        owner := fun u u' i h => absurd h (hgives u i)
        vacancy := fun u i h => absurd h (hgives u i)
        displaced := fun u i host h => absurd h (hgives u i)
        filled := fun i host ⟨t, h⟩ => by cases h }
    · cases hworker
  | step _ hstep ih =>
    obtain ⟨P, hP⟩ := ih
    obtain ⟨P', hP', _⟩ := hP.step hstep
    exact ⟨P', hP'⟩

/-- A session that is exhausted can carry no more calls, whatever happens from now on. -/
theorem Governed.exhausted (h : Governed P σ) (hs : P.Exhausts σ.world.bed s) :
    σ.Exhausted c s := by
  have hlater {σ' : Scene} (hpath : Relation.ReflTransGen (Step c) σ σ') :
      ∃ P', Governed P' σ' ∧ P'.Exhausts σ'.world.bed s ∧
        (∃ g, σ'.world.past = σ.world.past ++ g ∧
          ∀ v ∈ Chronicle.stored s g, v.isClosed = true) ∧
        ∀ t (worker : Worker), σ'.workers[t]? = some worker → σ.workers.length ≤ t →
          worker.Refused s := by
    induction hpath with
    | refl =>
      refine ⟨P, h, hs, ⟨[], (List.append_nil _).symm, nofun⟩, fun t worker hworker hle => ?_⟩
      exact absurd (List.getElem?_eq_some_iff.1 hworker).1 (Nat.not_lt.2 hle)
    | tail _ hstep ih =>
      obtain ⟨P₁, hP₁, hs₁, ⟨g, hpast, hclosed⟩, hworkers⟩ := ih
      obtain ⟨P₂, hP₂, hsucceeds⟩ := hP₁.step hstep
      obtain ⟨g', hpast', hclosed'⟩ := hsucceeds.past
      refine ⟨P₂, hP₂, hsucceeds.exhausts s hs₁, ⟨g ++ g', ?_, fun v hv => ?_⟩,
        hstep.refused hs₁.1 hworkers⟩
      · rw [hpast', hpast, List.append_assoc]
      · rw [Chronicle.stored_append] at hv
        rcases List.mem_append.1 hv with hv | hv
        · exact hclosed v hv
        · exact hclosed' s hs₁ v hv
  refine ⟨fun hpath => ?_, fun hpath => ?_⟩
  · obtain ⟨_, _, _, hpast, _⟩ := hlater hpath
    exact hpast
  · intro Q A _ _ t m method request result hworker hm hle
    obtain ⟨_, _, _, _, hworkers⟩ := hlater hpath
    exact hworkers t _ hworker hle hm

end Scene

namespace Scene

variable {c : Cluster} {σ : Scene} {u : Uuid} {P : Standings} {t : ThreadId} {i : SlotId}
  {host : Host}

theorem Governed.vacant (h : Governed P σ) (ht : σ.ConnectingFor u t i) :
    (P t).stage = .vacant u i := by
  obtain ⟨_, hworker, endpoint, timeoutMillis, rest, rfl, hrest, _⟩ := ht
  have hobeys := h.workers t _ hworker
  obtain ⟨grip, houtside⟩ := hrest.outside (Host.connect_keeps endpoint timeoutMillis)
  obtain ⟨result, grip', hsettle⟩ := houtside.past_outside hobeys
  exact Cluster.vacant_of_settle hsettle

theorem Governed.current (h : Governed P σ) (ht : σ.ConnectingFor u t i) :
    σ.Current u i none ∧ holderAt σ.world.bed.slots i = some t := by
  have hstage := h.lookups.stages t
  rw [h.vacant ht] at hstage
  obtain ⟨hlast, hheld, hnone⟩ := hstage
  exact ⟨⟨h.lookups.vacancy u i ⟨t, List.mem_of_getLast? hlast⟩ hnone, hnone⟩, hheld⟩

theorem Governed.resolved (h : Governed P σ) (hhost : σ.Resolved u host) :
    (∃ i, σ.Current u i (some host)) ∨
      (σ.world.past.FindsDefunct host.session ∧ σ.Exhausted c host.session) := by
  obtain ⟨i, hgives, hfills⟩ := hhost
  have hvalue := h.lookups.filled i host hfills
  rcases h.lookups.displaced u i host hgives hvalue with hcurrent | ⟨hexhausts, hdefunct⟩
  · exact Or.inl ⟨i, hcurrent, hvalue⟩
  · exact Or.inr ⟨hdefunct, h.exhausted hexhausts⟩

theorem Governed.returned (h : Governed P σ) (ht : σ.Returned u i t host) :
    valueAt σ.world.bed.slots i = some (some host) := by
  obtain ⟨hworker, hlast⟩ := ht
  obtain ⟨j, hstanding⟩ := h.workers t _ hworker
  have hstage := h.lookups.stages t
  rw [show (P t).stage = .seen u j host from congrArg Standing.stage hstanding] at hstage
  obtain ⟨hlast', hvalue⟩ := hstage
  rw [hlast] at hlast'
  cases hlast'
  exact hvalue

/-- Whatever the order of steps, whoever is given up and whatever is done to hosts, the lookups of
each server are a single flight. -/
theorem single_flight (h : Reachable c σ) (u : Uuid) : σ.SingleFlight c u := by
  obtain ⟨P, hP⟩ := governed_of_reachable h
  refine ⟨?_, ?_, ?_, fun host hhost => hP.resolved hhost, ?_⟩
  · rintro t t' ⟨i, ht⟩ ⟨i', ht'⟩
    obtain ⟨⟨hcurrent, _⟩, hheld⟩ := hP.current ht
    obtain ⟨⟨hcurrent', _⟩, hheld'⟩ := hP.current ht'
    rw [hcurrent] at hcurrent'
    cases hcurrent'
    rw [hheld] at hheld'
    exact Option.some.inj hheld'
  · intro t endpoint next hworker
    obtain ⟨hdials, _⟩ : Cluster.Lookup _ := h.connects t _ hworker
    obtain ⟨i, hconnects⟩ := hdials rfl
    exact ⟨i, _, hworker, hconnects⟩
  · intro t i ht
    obtain ⟨hcurrent, _⟩ := hP.current ht
    refine ⟨hcurrent, fun host hhost => ?_⟩
    rcases hP.resolved (c := c) hhost with ⟨i', hcurrent'⟩ | ⟨hdefunct, _⟩
    · -- the current slot is empty
      obtain ⟨hlookup, hnone⟩ := hcurrent
      obtain ⟨hlookup', hsome⟩ := hcurrent'
      rw [hlookup] at hlookup'
      cases hlookup'
      rw [hnone] at hsome
      cases hsome
    · exact hdefunct
  · intro i t t' host host' ht ht'
    have hvalue := hP.returned ht
    rw [hP.returned ht'] at hvalue
    cases hvalue
    rfl

/-- The scene after thread `t` has got what it asked for, or has begun to wait for it. -/
def next? (t : ThreadId) (σ : Scene) : Option Scene :=
  match σ.workers[t]? with
  | some ⟨errand, .running (.perform e next)⟩ =>
    match σ.world.bed.answer t e with
    | (some r, bed) =>
      some ⟨σ.world.after t e r bed, σ.workers.set t ⟨errand, .running (next r)⟩⟩
    | (none, bed) => some ⟨{ bed, past := σ.world.past ++ σ.world.taking e bed }, σ.workers⟩
  | _ => none

theorem step_of_next {σ' : Scene} (h : σ.next? t = some σ') : Step c σ σ' := by
  unfold next? at h
  split at h
  · rename_i errand e next running
    split at h
    · rename_i r bed hanswer
      cases h
      exact .answered running ⟨bed, Or.inl hanswer, rfl⟩
    · rename_i bed hwait
      cases h
      exact .stalled running ⟨bed, hwait, rfl⟩
  · cases h

theorem reachable_of_nexts {threads : List ThreadId} {σ' : Scene} (h : Reachable c σ)
    (hnexts : threads.foldlM (fun σ t => σ.next? t) σ = some σ') : Reachable c σ' := by
  induction threads generalizing σ with
  | nil =>
    cases hnexts
    exact h
  | cons t threads ih =>
    rw [List.foldlM_cons] at hnexts
    obtain ⟨σ₁, hnext, hnexts⟩ := Option.bind_eq_some_iff.1 hnexts
    exact ih (h.step (step_of_next hnext)) hnexts

def sample : Cluster where
  leader := ⟨{ session := 0, endpoint := ⟨"m1", 7100⟩ }, ⟨none, [], [], none⟩⟩
  tabletServers :=
    [⟨⟨1⟩, ⟨none, some ⟨some ⟨[⟨"t1", 9100⟩], [], none, none, []⟩⟩, none, none⟩⟩]
  timeoutMillis := 3000

/-- Two lookups of its tablet server that have just started. -/
def twoLookups : Scene where
  world := { bed := {} }
  workers :=
    [⟨.seek ⟨1⟩, .running (sample.host ⟨1⟩)⟩, ⟨.seek ⟨1⟩, .running (sample.host ⟨1⟩)⟩]

theorem single_flight_two : ∃ σ : Scene, Reachable sample σ ∧ σ.workers.length = 2 ∧
    σ.Connecting ⟨1⟩ 0 ∧ ¬ σ.Connecting ⟨1⟩ 1 ∧ σ.SingleFlight sample ⟨1⟩ := by
  obtain ⟨σ, hnexts, hlength, hworker⟩ : ∃ σ : Scene,
      [0, 0, 0, 0, 0, 0, 1, 1, 1, 1].foldlM (fun σ t => next? t σ) twoLookups = some σ ∧
        σ.workers.length = 2 ∧ σ.workers[0]? =
          some ⟨.seek ⟨1⟩, .running (Host.connect ⟨"t1", 9100⟩ 3000 >>= Cluster.settle 0)⟩ :=
    ⟨_, rfl, rfl, rfl⟩
  have hstart : Reachable sample twoLookups :=
    .step (.step (.initial {} rfl rfl) (.starts (.seek ⟨1⟩))) (.starts (.seek ⟨1⟩))
  have hreachable := reachable_of_nexts hstart hnexts
  have hflight := single_flight hreachable ⟨1⟩
  have hconnecting : σ.Connecting ⟨1⟩ 0 :=
    ⟨0, _, hworker, ⟨"t1", 9100⟩, 3000, _, rfl, .whole, fun result hdone => by cases hdone⟩
  refine ⟨σ, hreachable, hlength, hconnecting, fun hother => ?_, hflight⟩
  exact absurd (hflight.alone 0 1 hconnecting hother) (by decide)

end Scene
end ClusterProbe
