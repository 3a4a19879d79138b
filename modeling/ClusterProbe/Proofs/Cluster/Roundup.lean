import ClusterProbe.Proofs.Cluster.Upkeep

/-!
# All hosts

A round through the listing resolves entry by entry, each at its turn (`Cluster.Round`), whatever
has come of the entries before it. Between rounds servers may be looked up, and hosts may be used as
long as the pool is left alone (`Cluster.Use`). A host that has been found is found again, in the
same round and in all later ones, as long as no session fails (`Round.repeats`); what has failed is
not remembered, so it is tried again (`Round.redials`).
-/
namespace ClusterProbe

open Job Relation Shared Trade

variable {t t' : ThreadId} {w w' w₁ w₂ : World} {bed bed' : Testbed} {u : Uuid} {host : Host}
  {c : Cluster} {endpoint : Endpoint} {outcomes : List (Except ClientError Host)}

namespace Testbed

/-- Others may have used hosts and sessions but not the pool, and are done with it. -/
structure Rests (bed bed' : Testbed) : Prop where
  pools : bed.PoolsAlike bed'
  sessions : bed.sessions.length ≤ bed'.sessions.length
  idle : ∀ u, bed'.Idle u

theorem Rests.calm (h : bed.Rests bed') (hcalm : bed.Calm) : bed'.Calm := by
  refine ⟨⟨fun u i hi => ?_, ?_, hcalm.orderly.housed.moved h.pools.hosts h.sessions⟩, h.idle⟩
  · rw [h.pools.pool] at hi
    have hlt := hcalm.orderly.exists_slot u i hi
    have hvalue := h.pools.hosts i
    rw [valueAt, valueAt, List.getElem?_eq_getElem hlt] at hvalue
    exact lt_of_valueAt hvalue
  · rw [h.pools.pool]
    exact hcalm.orderly.owner

end Testbed

namespace Cluster

/-! ## Rounds -/

/-- The turn of an entry in a round: what was dialed for it and what came of it. -/
structure Turn where
  server : TabletServer
  dialed : List Endpoint
  outcome : Except ClientError Host

/-- Thread `t` has resolved the entries of these turns one after the other. Each has been looked up
once, and dialed if that was due at its turn. -/
def Round (c : Cluster) (t : ThreadId) : List Turn → World → World → Prop
  | [] => fun w w' => w' = w
  | turn :: turns => fun w w' => ∃ w₁,
      (c.host turn.server.uuid).Runs t w (some turn.outcome) w₁ ∧
        c.Resolves turn.server.uuid t w turn.dialed turn.outcome w₁ ∧
        turn.dialed = c.due w.bed.usable? turn.server.uuid ∧ Round c t turns w₁ w'

theorem round_of_lookups {found : List (TabletServer × Except ClientError Host)}
    (h : c.Lookups t found w w') (hcalm : w.bed.Calm) :
    ∃ turns : List Turn, turns.map (fun turn => (turn.server, turn.outcome)) = found ∧
      c.Round t turns w w' ∧ w'.bed.Calm := by
  induction found generalizing w with
  | nil =>
    obtain rfl := h
    exact ⟨[], rfl, rfl, hcalm⟩
  | cons entry found ih =>
    obtain ⟨server, r⟩ := entry
    obtain ⟨w₁, hrun, hrest⟩ := h
    obtain ⟨dialed, hresolves⟩ := host_resolves hrun hcalm.orderly (hcalm.idle server.uuid)
    obtain ⟨turns, rfl, hround, hcalm'⟩ := ih hrest (host_calm hrun hcalm)
    have hdue := hresolves.step.dialed_eq
    exact ⟨⟨server, dialed, r⟩ :: turns, rfl, ⟨w₁, hrun, hresolves, hdue, hround⟩, hcalm'⟩

namespace Round

variable {turns : List Turn} {turn : Turn}

theorem dialed (h : c.Round t turns w w') :
    w'.past.dialed = w.past.dialed ++ turns.flatMap Turn.dialed := by
  induction turns generalizing w with
  | nil =>
    obtain rfl := h
    simp
  | cons turn turns ih =>
    obtain ⟨w₁, -, hresolves, -, hrest⟩ := h
    rw [ih hrest, hresolves.past, List.flatMap_cons, List.append_assoc]

/-- A host that can be used is what all entries of its server come to. -/
theorem repeats (h : c.Round t turns w w') (hlocate : c.locate u = .ok endpoint)
    (hhost : w.bed.usable? u = some host) :
    w'.bed.usable? u = some host ∧
      ∀ turn ∈ turns, turn.server.uuid = u → turn.outcome = .ok host ∧ turn.dialed = [] := by
  induction turns generalizing w with
  | nil =>
    obtain rfl := h
    exact ⟨hhost, List.forall_mem_nil _⟩
  | cons turn turns ih =>
    obtain ⟨w₁, -, hresolves, -, hrest⟩ := h
    obtain ⟨hkept, hlater⟩ := ih hrest (hresolves.step.keeps hhost)
    refine ⟨hkept, List.forall_mem_cons.2 ⟨?_, hlater⟩⟩
    rintro rfl
    rcases hresolves.step.of_located hlocate with ⟨host', husable, hdialed, hr⟩ | ⟨hnone, -⟩
    · rw [hhost] at husable
      cases husable
      exact ⟨hr, hdialed⟩
    · rw [hhost] at hnone
      cases hnone

/-- Who has been found once can still be used in the end. -/
theorem found (h : c.Round t turns w w') (hturn : turn ∈ turns) (hok : turn.outcome = .ok host) :
    w'.bed.usable? turn.server.uuid = some host ∧
      ∃ endpoint, c.locate turn.server.uuid = .ok endpoint := by
  induction turns generalizing w with
  | nil => cases hturn
  | cons first turns ih =>
    obtain ⟨w₁, -, hresolves, -, hrest⟩ := h
    rcases List.mem_cons.1 hturn with rfl | hturn
    · have hstep := hresolves.step
      rw [hok] at hstep
      rcases hstep.located with ⟨e, -, -, he, -⟩ | ⟨endpoint, hlocate, -⟩
      · cases he
      · exact ⟨(hrest.repeats hlocate hstep.found).1, endpoint, hlocate⟩
    · exact ih hrest hturn

/-- A server none of whose entries has come to a host is not in the pool in the end. -/
theorem misses (h : c.Round t turns w w') (hlocate : c.locate u = .ok endpoint)
    (hfails : ∀ turn ∈ turns, turn.server.uuid = u → ∃ e, turn.outcome = .error e)
    (hentry : w.bed.host? u = none ∨ ∃ turn ∈ turns, turn.server.uuid = u) :
    w'.bed.host? u = none := by
  induction turns generalizing w with
  | nil =>
    obtain rfl := h
    rcases hentry with hnone | ⟨turn, hturn, -⟩
    · exact hnone
    · cases hturn
  | cons turn turns ih =>
    obtain ⟨w₁, -, hresolves, -, hrest⟩ := h
    obtain ⟨hfirst, hfails⟩ := List.forall_mem_cons.1 hfails
    refine ih hrest hfails ?_
    by_cases heq : turn.server.uuid = u
    · -- a turn that fails although its server has an address has dialed, and leaves nothing
      subst heq
      obtain ⟨e, he⟩ := hfirst rfl
      rcases hresolves.step.of_located hlocate with ⟨host, -, -, hr⟩ | ⟨-, hdialed⟩
      · rw [he] at hr
        cases hr
      · have hpooled := hresolves.pooled (hdialed ▸ List.cons_ne_nil _ _)
        rw [he] at hpooled
        exact .inl hpooled
    · rcases hentry with hnone | ⟨x, hx, huuid⟩
      · exact .inl ((hresolves.others u (Ne.symm heq)).trans hnone)
      · rcases List.mem_cons.1 hx with rfl | hx
        · exact absurd huuid heq
        · exact .inr ⟨x, hx, huuid⟩

end Round

/-- The first turn of server `u` has dialed this endpoint. -/
def Dials (turns : List Turn) (u : Uuid) (endpoint : Endpoint) : Prop :=
  ∃ before turn after, turns = before ++ turn :: after ∧
    (∀ earlier ∈ before, earlier.server.uuid ≠ u) ∧ turn.server.uuid = u ∧
      turn.dialed = [endpoint]

theorem Round.redials {turns : List Turn} (h : c.Round t turns w w')
    (hlocate : c.locate u = .ok endpoint) (hnone : w.bed.usable? u = none)
    (hentry : ∃ turn ∈ turns, turn.server.uuid = u) : Dials turns u endpoint := by
  induction turns generalizing w with
  | nil =>
    obtain ⟨turn, hturn, -⟩ := hentry
    cases hturn
  | cons turn turns ih =>
    obtain ⟨w₁, -, hresolves, hdue, hrest⟩ := h
    by_cases heq : turn.server.uuid = u
    · refine ⟨[], turn, turns, rfl, List.forall_mem_nil _, heq, ?_⟩
      rw [hdue, heq, due, hlocate, hnone]
    · obtain ⟨x, hx, huuid⟩ := hentry
      have hx : x ∈ turns := (List.mem_cons.1 hx).resolve_left fun h => heq (h ▸ huuid)
      rw [← hresolves.step.elsewhere (Ne.symm heq)] at hnone
      obtain ⟨before, found, after, rfl, hbefore, hfound⟩ := ih hrest hnone ⟨x, hx, huuid⟩
      exact ⟨turn :: before, found, after, rfl, List.forall_mem_cons.2 ⟨heq, hbefore⟩, hfound⟩

/-! ## Rounds and what is between them -/

/-- What may be done with a client that nobody else is using: a server is looked up, or hosts are
used and given back without a look into the pool. -/
inductive Use (c : Cluster) (w : World) : World → Prop
  | seeks {t : ThreadId} {u : Uuid} {r : Except ClientError Host} {w' : World}
      (run : (c.host u).Runs t w (some r) w') : Use c w w'
  | rests {w' : World} (rests : w.bed.Rests w'.bed) : Use c w w'

theorem Use.calm (h : c.Use w w') (hcalm : w.bed.Calm) : w'.bed.Calm := by
  cases h with
  | seeks run => exact host_calm run hcalm
  | rests rests => exact rests.calm hcalm

theorem calm_of_uses (h : ReflTransGen c.Use w w') (hcalm : w.bed.Calm) : w'.bed.Calm := by
  induction h with
  | refl => exact hcalm
  | tail _ huse ih => exact huse.calm ih

/-- Meanwhile no session has failed: hosts that could be used still can. -/
def Sound (c : Cluster) (w w' : World) : Prop :=
  c.Use w w' ∧ ∀ u host, w.bed.usable? u = some host → w'.bed.carries host = true

theorem Sound.keeps (h : c.Sound w w') (hcalm : w.bed.Calm)
    (hhost : w.bed.usable? u = some host) : w'.bed.usable? u = some host := by
  obtain ⟨huse, hcarries⟩ := h
  cases huse with
  | @seeks t u' r _ run =>
    obtain ⟨dialed, hresolves⟩ := host_resolves run hcalm.orderly (hcalm.idle u')
    exact hresolves.step.keeps hhost
  | rests rests =>
    refine Testbed.usable?_eq_some_iff.2 ⟨?_, hcarries u host hhost⟩
    rw [rests.pools.host?]
    exact (Testbed.usable?_eq_some_iff.1 hhost).1

theorem uses_of_sounds (h : ReflTransGen c.Sound w w') : ReflTransGen c.Use w w' :=
  h.lift id fun _ _ hsound => hsound.1

theorem keeps_of_sounds (h : ReflTransGen c.Sound w w') (hcalm : w.bed.Calm)
    (hhost : w.bed.usable? u = some host) : w'.bed.usable? u = some host := by
  induction h with
  | refl => exact hhost
  | tail hbefore hsound ih =>
    exact hsound.keeps (calm_of_uses (uses_of_sounds hbefore) hcalm) ih

/-- No session fails by a round. -/
theorem Round.sound {turns : List Turn} (h : c.Round t turns w w') :
    ReflTransGen c.Sound w w' := by
  induction turns generalizing w with
  | nil =>
    obtain rfl := h
    exact .refl
  | cons turn turns ih =>
    obtain ⟨w₁, hrun, hresolves, -, hrest⟩ := h
    refine (ih hrest).head ⟨.seeks hrun, fun u host hhost => ?_⟩
    exact (Testbed.usable?_eq_some_iff.1 (hresolves.step.keeps hhost)).2

/-! ## All hosts -/

/-- The entries can be looked up one after the other: each lookup comes to its end by itself, or
waits for the attempt to connect to one endpoint and then goes on whatever comes of that. -/
def Proceeds (c : Cluster) (t : ThreadId) : List TabletServer → World → Prop
  | [] => fun _ => True
  | server :: servers => fun w =>
      (∃ r w', c.Resolves server.uuid t w [] r w' ∧ (c.host server.uuid).Runs t w (some r) w' ∧
        Proceeds c t servers w') ∨
      ∃ endpoint w₁ hungUp, w.Books [] [] hungUp w₁ ∧ ∀ r w₂,
        (Host.connect endpoint c.timeoutMillis).Runs t w₁ (some r) w₂ →
          ∃ w', c.Resolves server.uuid t w [endpoint] r w' ∧
            (c.host server.uuid).Runs t w (some r) w' ∧ Proceeds c t servers w'

theorem proceeds_of_calm (c : Cluster) (t : ThreadId) (servers : List TabletServer)
    (hcalm : w.bed.Calm) : c.Proceeds t servers w := by
  induction servers generalizing w with
  | nil => trivial
  | cons server servers ih =>
    rcases c.host_returns t hcalm.orderly (hcalm.idle server.uuid) with
      ⟨r, w', hresolves, hrun⟩ | ⟨endpoint, w₁, hungUp, hbooks, hreturns⟩
    · exact .inl ⟨r, w', hresolves, hrun, ih (host_calm hrun hcalm)⟩
    · refine .inr ⟨endpoint, w₁, hungUp, hbooks, fun r w₂ hconnect => ?_⟩
      obtain ⟨w', hresolves, hrun⟩ := hreturns r w₂ hconnect
      exact ⟨w', hresolves, hrun, ih (host_calm hrun hcalm)⟩

theorem length_hosts_errors (outcomes : List (Except ClientError Host)) :
    (hosts outcomes).length + (errors outcomes).length = outcomes.length := by
  induction outcomes with
  | nil => rfl
  | cons outcome outcomes ih =>
    cases outcome with
    | ok host =>
      have hrest : errors (.ok host :: outcomes) = errors outcomes := rfl
      have hhead : hosts (.ok host :: outcomes) = host :: hosts outcomes := rfl
      rw [hrest, hhead, List.length_cons, List.length_cons, ← ih]
      omega
    | error e =>
      have hrest : hosts (.error e :: outcomes) = hosts outcomes := rfl
      have hhead : errors (.error e :: outcomes) = e :: errors outcomes := rfl
      rw [hrest, hhead, List.length_cons, List.length_cons, ← ih]
      omega

/-- These outcomes are those of a round through the whole listing. -/
structure Collects (c : Cluster) (t : ThreadId) (turns : List Turn)
    (outcomes : List (Except ClientError Host)) (w w' : World) : Prop where
  entries : turns.map Turn.server = c.tabletServers
  given : turns.map Turn.outcome = outcomes
  round : c.Round t turns w w'
  complete : (hosts outcomes).length + (errors outcomes).length = c.tabletServers.length
  dialed : w'.past.dialed = w.past.dialed ++ turns.flatMap Turn.dialed

theorem allHosts_collects (h : c.allHosts.Runs t w (some outcomes) w') (hcalm : w.bed.Calm) :
    ∃ turns, c.Collects t turns outcomes w w' ∧ w'.bed.Calm := by
  obtain ⟨hlength, hlookups⟩ := lookups_of_mapM h
  obtain ⟨turns, hturns, hround, hcalm'⟩ := round_of_lookups hlookups hcalm
  have hentries : turns.map Turn.server = c.tabletServers := by
    rw [← List.map_fst_zip (Nat.le_of_eq hlength.symm), ← hturns, List.map_map]
    rfl
  have houtcomes : turns.map Turn.outcome = outcomes := by
    rw [← List.map_snd_zip (Nat.le_of_eq hlength), ← hturns, List.map_map]
    rfl
  exact ⟨turns, ⟨hentries, houtcomes, hround, (length_hosts_errors outcomes).trans hlength,
    hround.dialed⟩, hcalm'⟩

/-- After these turns hosts are found again, and failures are not remembered. -/
structure Remembers (c : Cluster) (turns : List Turn) (w : World) : Prop where
  /-- As long as no session fails, an entry that has come to a host comes to it again. -/
  repeats : ∀ w₁, ReflTransGen c.Sound w w₁ → ∀ t outcomes w₂,
    c.allHosts.Runs t w₁ (some outcomes) w₂ → ∃ turns', c.Collects t turns' outcomes w₁ w₂ ∧
      ∀ turn ∈ turns, ∀ host, turn.outcome = .ok host → ∀ turn' ∈ turns',
        turn'.server.uuid = turn.server.uuid → turn'.outcome = .ok host ∧ turn'.dialed = []
  /-- A server that has an address and has not come to a host is dialed again. -/
  retries : ∀ w₁, w.bed.Rests w₁.bed → ∀ t outcomes w₂,
    c.allHosts.Runs t w₁ (some outcomes) w₂ → ∃ turns', c.Collects t turns' outcomes w₁ w₂ ∧
      ∀ u endpoint, c.locate u = .ok endpoint →
        (∀ turn ∈ turns, turn.server.uuid = u → ∃ e, turn.outcome = .error e) →
          Dials turns' u endpoint

theorem Collects.remembers {turns : List Turn} (h : c.Collects t turns outcomes w w')
    (hcalm : w'.bed.Calm) : c.Remembers turns w' where
  repeats := by
    intro w₁ hsince t' outcomes' w₂ hrun
    have hcalm₁ := calm_of_uses (uses_of_sounds hsince) hcalm
    obtain ⟨turns', hcollects, -⟩ := allHosts_collects hrun hcalm₁
    refine ⟨turns', hcollects, fun turn hturn host hok turn' hturn' huuid => ?_⟩
    obtain ⟨hfound, endpoint, hlocate⟩ := h.round.found hturn hok
    have hkept := keeps_of_sounds hsince hcalm hfound
    exact (hcollects.round.repeats hlocate hkept).2 turn' hturn' huuid
  retries := by
    intro w₁ hrests t' outcomes' w₂ hrun
    obtain ⟨turns', hcollects, -⟩ := allHosts_collects hrun (hrests.calm hcalm)
    refine ⟨turns', hcollects, fun u endpoint hlocate hfails => ?_⟩
    have hentry {turns : List Turn} (hentries : turns.map Turn.server = c.tabletServers) :
        ∃ turn ∈ turns, turn.server.uuid = u := by
      rcases c.locate_cases u with ⟨he, -⟩ | ⟨server, hfirst, -⟩
      · rw [hlocate] at he
        cases he
      · have hserver := List.mem_of_find?_eq_some hfirst
        rw [← hentries] at hserver
        obtain ⟨turn, hturn, rfl⟩ := List.mem_map.1 hserver
        have huuid := List.find?_some hfirst
        exact ⟨turn, hturn, of_decide_eq_true huuid⟩
    have hnone := h.round.misses hlocate hfails (.inr (hentry h.entries))
    have hunusable : w₁.bed.usable? u = none := by
      rw [Testbed.usable?, hrests.pools.host?, hnone]
      rfl
    exact hcollects.round.redials hlocate hunusable (hentry hcollects.entries)

/-- All hosts can be asked for, and what that comes to, now and later. -/
structure Gathers (c : Cluster) (w : World) : Prop where
  proceeds : ∀ t, c.Proceeds t c.tabletServers w
  collects : ∀ t outcomes w', c.allHosts.Runs t w (some outcomes) w' →
    ∃ turns, c.Collects t turns outcomes w w' ∧ c.Remembers turns w'

/-- **All hosts.** Whenever nobody else uses the client, whatever has been done with it before, a
round through the listing resolves every entry at its turn, dials where that is due, and loses and
invents nothing; later rounds find its hosts again and retry its failures. -/
theorem allHosts_gathers {σ : Scene} (hreachable : Scene.Reachable c σ)
    (hidle : ∀ u, σ.world.bed.Idle u) (hsince : ReflTransGen c.Use σ.world w) : c.Gathers w := by
  have hcalm : w.bed.Calm := calm_of_uses hsince ⟨hreachable.orderly, hidle⟩
  refine ⟨fun t => proceeds_of_calm c t c.tabletServers hcalm, fun t outcomes w' hrun => ?_⟩
  obtain ⟨turns, hcollects, hcalm'⟩ := allHosts_collects hrun hcalm
  exact ⟨turns, hcollects, hcollects.remembers hcalm'⟩

/-- A server that can be reached is listed twice, next to one without an address and one that cannot
be reached. -/
def mixed : Cluster :=
  let entry (address : List HostPort) : TabletServerEntry :=
    ⟨none, some ⟨some ⟨address, [], none, none, []⟩⟩, none, none⟩
  { leader := Scene.sample.leader
    tabletServers := [⟨⟨1⟩, entry [⟨"t1", 9100⟩]⟩, ⟨⟨2⟩, entry []⟩, ⟨⟨1⟩, entry [⟨"t2", 9100⟩]⟩,
      ⟨⟨3⟩, entry [⟨"t3", 9100⟩]⟩]
    timeoutMillis := 3000 }

/-- The second round dials only where the first one has failed to. -/
theorem allHosts_gathers_mixed : ∃ (w w' : World) (outcomes : List (Except ClientError Host)),
    Scene.Reachable mixed ⟨Scene.tabletReachable, []⟩ ∧
      (∀ u, Scene.tabletReachable.bed.Idle u) ∧ ReflTransGen mixed.Use Scene.tabletReachable w ∧
      w.past.dialed = [⟨"t1", 9100⟩, ⟨"t3", 9100⟩] ∧
      mixed.allHosts.Runs 0 w (some outcomes) w' ∧ (hosts outcomes).length = 2 ∧
      w'.past.dialed = [⟨"t1", 9100⟩, ⟨"t3", 9100⟩, ⟨"t3", 9100⟩] ∧ mixed.Gathers w := by
  have hplay : (Scene.tabletReachable.play 0 mixed.allHosts (leaderAnswers.take 2)).any
      (fun first => (first.2.play 0 mixed.allHosts []).any fun second =>
        decide (first.2.past.dialed = [⟨"t1", 9100⟩, ⟨"t3", 9100⟩] ∧
          (hosts second.1).length = 2 ∧
          second.2.past.dialed = [⟨"t1", 9100⟩, ⟨"t3", 9100⟩, ⟨"t3", 9100⟩])) = true := by
    decide +kernel
  obtain ⟨⟨before, w⟩, hfirst, hplay⟩ := (Option.any_eq_true _ _).1 hplay
  obtain ⟨⟨outcomes, w'⟩, hsecond, hchecked⟩ := (Option.any_eq_true _ _).1 hplay
  obtain ⟨hbefore, hlength, hafter⟩ := of_decide_eq_true hchecked
  have hreachable : Scene.Reachable mixed ⟨Scene.tabletReachable, []⟩ := .initial _ rfl rfl
  have hidle (u : Uuid) : Scene.tabletReachable.bed.Idle u :=
    Testbed.idle_of_quiet (List.forall_mem_nil _) (List.forall_mem_nil _)
  obtain ⟨turns, hcollects, -⟩ :=
    allHosts_collects (World.runs_of_play hfirst) ⟨hreachable.orderly, hidle⟩
  have hsince := uses_of_sounds hcollects.round.sound
  exact ⟨w, w', outcomes, hreachable, hidle, hsince, hbefore, World.runs_of_play hsecond, hlength,
    hafter, allHosts_gathers hreachable hidle hsince⟩

end Cluster
end ClusterProbe
