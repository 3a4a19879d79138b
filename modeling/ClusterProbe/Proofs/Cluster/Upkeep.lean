import ClusterProbe.Proofs.Cluster.Disposal
import ClusterProbe.Proofs.Cluster.Resolution
import ClusterProbe.Proofs.Cluster.Tidiness
import ClusterProbe.Proofs.Survey

/-!
# Upkeep of a cluster

Whoever works with a cluster finds again whatever has a connection: it is the session of the leader,
or of a host in the pool (`Cluster.Attends`). Jobs away from the pool leave the pool alone, and a
lookup that disturbs no other one takes out of it only what has no connection any more, so this is
kept all the time (`Attends.together`, `Attends.lookup`), and when the cluster is closed nothing has
a connection any more (`Attends.close`).
-/
namespace ClusterProbe

open Job Trade Shared

variable {α : Type} {w w' w₁ : World} {base : Chronicle} {bed bed' bed'' : Testbed} {u u' : Uuid}
  {i : SlotId} {host : Host} {c : Cluster} {r : Except ClientError Host}

/-! ## Jobs away from the pool -/

theorem Job.Obeys.unpooled {x : Job α} {post : α → Standing → Prop} {grip : Grip}
    (h : x.Obeys post ⟨.outside, grip⟩) : x.Asks (·.touchesPool = false) :=
  h.away.mono fun _ => Effect.unpooled_of_not_learns

namespace Testbed

theorem PoolsAlike.host? (h : bed.PoolsAlike bed') : bed'.host? = bed.host? := by
  funext u
  rw [Testbed.host?, Testbed.host?, h.pool]
  refine congrArg _ (funext fun i => ?_)
  rw [bind_value, bind_value, h.hosts]

theorem mem_pooled_of_host? (h : bed.host? u = some host) : host ∈ bed.pooled := by
  obtain ⟨i, hi, hhost⟩ := exists_slot_of_host? h
  obtain ⟨before, after, hpool, -⟩ := List.lookup_eq_some_iff.1 hi
  refine List.mem_filterMap.2 ⟨(u, i), ?_, hhost⟩
  rw [hpool]
  exact List.mem_append_right _ List.mem_cons_self

end Testbed

section Together

variable {jobs : List (Job α)} {results : List α}

/-- Jobs that ask only for what meets the test. -/
def asking {test : Effect → Prop} (hjobs : ∀ job ∈ jobs, job.Asks test) :
    (among jobs).Conduct Unit where
  rules _ := { Allows := fun _ e => test e, after := fun _ _ _ => () }
  start := ()
  gone := ()
  Ends _ _ _ := True
  follows a :=
    ((hjobs a.1 a.2).follows (fun _ he => he) fun _ _ _ => rfl).mono fun _ _ _ => trivial

theorem poolsAlike_keeps (hjobs : ∀ job ∈ jobs, job.Asks (·.touchesPool = false)) :
    (asking hjobs).Keeps fun _ w => bed.PoolsAlike w.bed where
  starts _ h _ := h
  answered h _ he hanswers := h.trans (hanswers.poolsAlike he)
  stalled h _ he hstalls := h.trans (hstalls.poolsAlike he)
  finished _ h _ _ := h.trans ⟨rfl, fun _ => rfl⟩
  cancelled h _ := h.trans (Testbed.poolsAlike_cancel _ _)
  moves h hmoves := h.trans hmoves.shares.poolsAlike

theorem World.Together.poolsAlike (h : w.Together jobs results w')
    (hjobs : ∀ job ∈ jobs, job.Asks (·.touchesPool = false)) : w.bed.PoolsAlike w'.bed := by
  obtain ⟨-, -, hkept⟩ := (poolsAlike_keeps hjobs).reaches h.2 (Conduct.manned_start w) (.refl _)
  exact hkept

theorem World.poolsAlike_of_runs {job : Job α} {r : α} (h : job.Runs 0 w (some r) w')
    (hjob : job.Asks (·.touchesPool = false)) : w.bed.PoolsAlike w'.bed := by
  have hretired := (together_of_runs h).poolsAlike (List.forall_mem_singleton.2 hjob)
  exact ⟨hretired.pool, hretired.hosts⟩

end Together

/-! ## Lookups that disturb nobody -/

/-- The pool is in order, and nobody is at it or uses one of its hosts. -/
structure Testbed.Calm (bed : Testbed) : Prop where
  orderly : bed.Orderly
  idle : ∀ u, bed.Idle u

namespace Testbed

/-- No slot has been given out, and no host is in a slot. -/
structure PoolEmpty (bed : Testbed) : Prop where
  pool : bed.pool = []
  hosts : ∀ i, valueAt bed.slots i = none

theorem PoolsAlike.poolEmpty (h : bed.PoolsAlike bed') (hempty : bed.PoolEmpty) : bed'.PoolEmpty :=
  ⟨h.pool.trans hempty.pool, fun i => (h.hosts i).trans (hempty.hosts i)⟩

theorem PoolEmpty.retire (h : w.bed.PoolEmpty) (t : ThreadId) : (w.retire t).bed.PoolEmpty :=
  ⟨h.pool, h.hosts⟩

/-- So it is before anything has been looked up. -/
theorem PoolEmpty.calm (h : bed.PoolEmpty) : bed.Calm := by
  have hlookup (u : Uuid) (i : SlotId) : bed.pool.lookup u ≠ some i := by
    rw [h.pool]
    exact nofun
  refine ⟨⟨fun u i hi => absurd hi (hlookup u i), fun u _ i hi => absurd hi (hlookup u i), ?_⟩,
    fun u => ⟨fun i _ hi => absurd hi (hlookup u i), fun host _ hhost => ?_⟩⟩
  · intro i host hhost
    rw [h.hosts] at hhost
    cases hhost
  · obtain ⟨i, hi, -⟩ := exists_slot_of_host? hhost
    exact absurd hi (hlookup u i)

theorem Shares.calm (h : bed.Shares bed') (hcalm : bed.Calm) : bed'.Calm := by
  refine ⟨⟨?_, ?_, ?_⟩, fun u => h.idle (hcalm.idle u)⟩
  · rw [h.pool, h.slots]
    exact hcalm.orderly.exists_slot
  · rw [h.pool]
    exact hcalm.orderly.owner
  · exact hcalm.orderly.housed.moved (fun i => congrArg (valueAt · i) h.slots)
      (Nat.le_of_eq (congrArg List.length h.sessions).symm)

end Testbed

namespace Cluster

section Occupying

variable {t : ThreadId} {endpoint : Endpoint} (hcalm : w.bed.Calm)
  (hvacates : w.Vacates u i w₁) (hoccupies : w₁.Occupies t endpoint c.timeoutMillis i r w')
include hcalm hvacates hoccupies

/-- A server that another one was looked up for is as idle as it was. -/
theorem idle_elsewhere (hne : u' ≠ u) : w'.bed.Idle u' := by
  have hapart := apart_of_occupies hvacates hoccupies
  obtain ⟨hpool, hslots⟩ := hapart u' hne
  refine ⟨fun j shared hj hshared => ?_, fun host shared hhost hshared => ?_⟩
  · rw [hpool] at hj
    rw [hslots j hj] at hshared
    exact (hcalm.idle u').slot j shared hj hshared
  · rw [hapart.host? hne] at hhost
    rcases session_of_occupies hcalm.orderly hvacates hoccupies hhost with
      hsame | ⟨-, v, hfree, -⟩
    · rw [hsame] at hshared
      exact (hcalm.idle u').host host shared hhost hshared
    · rw [hfree] at hshared
      cases hshared
      rfl

theorem calm_of_occupies (hhoused : w'.bed.Housed) : w'.bed.Calm := by
  have hcurrent := lookup_of_occupies hvacates hoccupies
  have hapart := apart_of_occupies hvacates hoccupies
  -- the slot was given out for this server only
  have hother {u' : Uuid} (hne : u' ≠ u) : w'.bed.pool.lookup u' ≠ some i := by
    rw [hoccupies.pool]
    exact hvacates.vacant.apart u' hne
  refine ⟨⟨fun u' j hj => ?_, fun u₁ u₂ j hj₁ hj₂ => ?_, hhoused⟩, fun u' => ?_⟩
  · by_cases heq : u' = u
    · subst heq
      rw [hcurrent] at hj
      cases hj
      exact (List.getElem?_eq_some_iff.1 (slot_of_occupies hvacates hoccupies)).1
    · obtain ⟨hpool, hslots⟩ := hapart u' heq
      rw [hpool] at hj
      have hlt := hcalm.orderly.exists_slot u' j hj
      have hsame := hslots j hj
      rw [List.getElem?_eq_getElem hlt] at hsame
      exact (List.getElem?_eq_some_iff.1 hsame).1
  · by_cases heq₁ : u₁ = u
    · by_cases heq₂ : u₂ = u
      · exact heq₁.trans heq₂.symm
      · subst heq₁
        rw [hcurrent] at hj₁
        cases hj₁
        exact absurd hj₂ (hother heq₂)
    · by_cases heq₂ : u₂ = u
      · subst heq₂
        rw [hcurrent] at hj₂
        cases hj₂
        exact absurd hj₁ (hother heq₁)
      · rw [(hapart u₁ heq₁).1] at hj₁
        rw [(hapart u₂ heq₂).1] at hj₂
        exact hcalm.orderly.owner u₁ u₂ j hj₁ hj₂
  · by_cases heq : u' = u
    · exact heq ▸ idle_of_occupies hvacates hoccupies
    · exact idle_elsewhere hcalm hvacates hoccupies heq

end Occupying

/-- After a lookup everything is as calm as before. -/
theorem host_calm {t : ThreadId} (h : (c.host u).Runs t w (some r) w') (hcalm : w.bed.Calm) :
    w'.bed.Calm := by
  have hhoused : w'.bed.Housed :=
    (c.host_knows u).housed h (fun _ hs => absurd hs List.not_mem_nil) hcalm.orderly.housed
  cases hlocate : c.locate u with
  | error e =>
    unfold host at h
    rw [hlocate] at h
    obtain ⟨-, rfl⟩ := h
    exact hcalm
  | ok endpoint =>
    rw [host_eq hlocate] at h
    obtain ⟨o, w₁, happroach, h⟩ := (runs_bind_some _ _ _).1 h
    rcases approach_runs happroach hcalm.orderly (hcalm.idle u) with
      ⟨host, rfl, -, hshares, -⟩ | ⟨i, rfl, hvacates⟩
    · obtain ⟨-, rfl⟩ := h
      exact hshares.calm hcalm
    · exact calm_of_occupies hcalm hvacates (occupy_runs h hvacates.vacant.empty) hhoused

/-! ## Whatever has a connection -/

/-- All is in order, and a session that has a connection is that of the leader or of a host in the
pool. -/
structure Attends (c : Cluster) (base : Chronicle) (w : World) : Prop where
  estate : w.Estate base
  found : ∀ s, w.stream? s ≠ none →
    s = c.leader.session ∨ ∃ u host, w.bed.host? u = some host ∧ host.session = s

/-- Connecting to a cluster leaves the session of its leader, or nothing. -/
theorem connect_leaves {timeoutMillis : UInt32} {seeds : List Endpoint}
    {r : Except ClientError Cluster} (h : w.Clear base)
    (hrun : (connect timeoutMillis seeds).Runs 0 w (some r) w') :
    match r with
    | .ok c => c.Attends base w'
    | .error _ => w'.Clear base := by
  obtain ⟨hestate, hstream⟩ :=
    World.tidies_of_runs hrun (connect_tidies timeoutMillis seeds) h.estate
  have howed (s : SessionId) (hs : w'.stream? s ≠ none) : s ∈ owedLeader r :=
    (hstream s hs).resolve_left fun hbefore => hbefore (h.shut s)
  cases r with
  | ok c => exact ⟨hestate, fun s hs => .inl (List.mem_singleton.1 (howed s hs))⟩
  | error e =>
    refine ⟨hestate, fun s => ?_⟩
    by_contra hs
    cases howed s hs

namespace Attends

/-- Jobs that shut what they open and leave the pool alone. -/
theorem together {jobs : List (Job α)} {results : List α} (h : c.Attends base w)
    (htogether : w.Together jobs results w') (hcleans : ∀ job ∈ jobs, Hands.Cleans job)
    (haway : ∀ job ∈ jobs, job.Asks (·.touchesPool = false)) : c.Attends base w' := by
  obtain ⟨hestate, hstream⟩ := htogether.tidies hcleans h.estate
  refine ⟨hestate, fun s hs => ?_⟩
  rw [(htogether.poolsAlike haway).host?]
  rcases hstream s hs with hs | ⟨-, -, hs⟩
  · exact h.found s hs
  · cases hs

theorem retire (h : c.Attends base w) (t : ThreadId) : c.Attends base (w.retire t) :=
  ⟨h.estate.retire t, h.found⟩

theorem of_retire {t : ThreadId} (h : c.Attends base (w.retire t)) : c.Attends base w :=
  ⟨h.estate.of_retire, h.found⟩

theorem runs {x : Job α} {a : α} (h : c.Attends base w) (hrun : x.Runs 0 w (some a) w')
    (hcleans : Hands.Cleans x) (haway : x.Asks (·.touchesPool = false)) : c.Attends base w' :=
  (h.together (World.together_of_runs hrun) (List.forall_mem_singleton.2 hcleans)
    (List.forall_mem_singleton.2 haway)).of_retire

/-- A host that a lookup has opened is in the pool, and one that it has taken out of the pool has no
connection any more. -/
theorem lookup (h : c.Attends base w) (hcalm : w.bed.Calm)
    (hrun : (c.host u).Runs 0 w (some r) w') : c.Attends base w' := by
  obtain ⟨dialed, hresolves⟩ := host_resolves hrun hcalm.orderly (hcalm.idle u)
  obtain ⟨hestate, hstream⟩ := World.tidies_of_runs hrun (c.host_tidies u) h.estate
  refine ⟨hestate, fun s hs => ?_⟩
  -- a session that had a connection before is where it was, or its host was closed for a new one;
  -- what the lookup owes it has put into the pool
  rcases hstream s hs with hbefore | howed
  · refine (h.found s hbefore).imp_right ?_
    rintro ⟨u', host, hhost, rfl⟩
    by_cases heq : u' = u
    · subst heq
      by_cases hdialed : dialed = []
      · exact ⟨u', host, (hresolves.unchanged hdialed).host?.trans hhost, rfl⟩
      · obtain ⟨v, hv, hnone⟩ := hresolves.closed hdialed host hhost
        exact absurd ((World.stream?_of_value hv).trans hnone) hs
    · exact ⟨u', host, (hresolves.others u' heq).trans hhost, rfl⟩
  · cases r with
    | error e => cases howed
    | ok host =>
      have husable := Testbed.usable?_eq_some_iff.1 hresolves.step.found
      exact .inr ⟨u, host, husable.1, (List.mem_singleton.1 howed).symm⟩

/-- Calls to many hosts, all at once. -/
theorem calls {Q A : Type} [Protobuf.Message Q] [Protobuf.Message A] {method : RemoteMethod}
    {request : Q} {hosts : List Host} {results : List (Except SessionError A)}
    (h : c.Attends base w) (htogether : w.Together
      (hosts.map fun host => Service.call A host.messenger method request) results w') :
    c.Attends base w' := by
  refine h.together htogether (List.forall_mem_map.2 fun host _ => ?_)
    (List.forall_mem_map.2 fun host _ => ?_)
  · exact Service.call_cleans A host.messenger method request
  · exact (Service.call_keeps A host.messenger method request).unpooled

theorem lookups {found : List (TabletServer × Except ClientError Host)} (h : c.Attends base w)
    (hcalm : w.bed.Calm) (hlookups : c.Lookups 0 found w w') : c.Attends base w' := by
  induction found generalizing w with
  | nil =>
    obtain rfl := hlookups
    exact h
  | cons x found ih =>
    obtain ⟨w₁, hrun, hrest⟩ := hlookups
    exact ih (h.lookup hcalm hrun) (host_calm hrun hcalm) hrest

theorem reachableHosts {r : Except Failure (List Host)} (h : c.Attends base w)
    (hcalm : w.bed.Calm) (hrun : c.reachableHosts.Runs 0 w (some r) w') : c.Attends base w' := by
  obtain ⟨outcomes, w₁, hlookups, hreachable⟩ := (runs_bind_some _ _ _).1 hrun
  have hfound := h.lookups hcalm (lookups_of_mapM hlookups).2
  have htalks := reachable_talks outcomes
  exact hfound.runs hreachable (Hands.cleans_talk htalks)
    (htalks.mono fun _ => Effect.unpooled_of_isTalk)

/-- Closing a cluster shuts whatever has a connection. -/
theorem close {r : Except ClientError Unit} (h : c.Attends base w)
    (hrun : c.close.Runs 0 w (some r) w') : w'.Clear base := by
  obtain ⟨pooled, w₁, hlist, hclose⟩ := (runs_ask_bind_some .pooled _ _).1 hrun
  obtain ⟨hlisted, hshares⟩ := hlist.pooled
  have hlist' : (ask .pooled).Runs 0 w (some pooled) w₁ :=
    (runs_ask .pooled _).2 (.inl ⟨pooled, hlist, rfl⟩)
  have hbefore := h.runs hlist' (Hands.cleans_ask rfl) (asks_ask rfl)
  obtain ⟨hestate, hstream, h', ⟨-, hclosed⟩, hshut⟩ := World.estate_of_runs hclose
    (closeAll_follows (c.leader :: pooled) ⟨rfl, rfl⟩) (fun _ => []) (fun _ _ ht => ht.1)
    hbefore.estate
  refine ⟨hestate, fun s => ?_⟩
  by_contra hs
  obtain ⟨host, hhost, rfl⟩ : ∃ host ∈ c.leader :: pooled, host.session = s := by
    have hfound := hbefore.found s ((hstream s hs).resolve_right nofun)
    rcases hfound with rfl | ⟨u, host, hhost, rfl⟩
    · exact ⟨c.leader, List.mem_cons_self, rfl⟩
    · refine ⟨host, List.mem_cons_of_mem _ ?_, rfl⟩
      rw [hshares.host?] at hhost
      exact hlisted ▸ Testbed.mem_pooled_of_host? hhost
  exact hs (hshut _ (hclosed host hhost))

end Attends
end Cluster
end ClusterProbe
