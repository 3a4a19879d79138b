import ClusterProbe.Proofs.Cluster.SingleFlight
import ClusterProbe.Proofs.Cluster.Visiting
import ClusterProbe.Proofs.Results

/-!
# The pool as a map

Seen from outside the pool is a map from servers to usable hosts: those whose sessions are open and
in sync (`Testbed.usable?`). A lookup is one step of this map (`Cluster.Resolution`), whatever has
been done before to the pool and to the hosts in it: it finds nothing to dial, or a host that can be
used, or it dials once and puts what comes of it into the map, and it leaves all other servers alone
(`Scene.pool_refines_map`).
-/
namespace ClusterProbe

open Shared

variable {t : ThreadId} {bed bed' : Testbed} {w w' w₁ w₂ : World} {u u' : Uuid} {i : SlotId}
  {host : Host} {c : Cluster} {endpoint : Endpoint} {r : Except ClientError Host}

/-! ## Servers -/

namespace TabletServer

/-- The first private RPC address in the entry of the server. -/
def rpcAddress? (s : TabletServer) : Option HostPort :=
  s.entry.serverRegistration?.bind fun registration => registration.privateRpcAddresses.head?

/-- This is where the server is to be dialed: its address has a port that fits. -/
def Addresses (s : TabletServer) (endpoint : Endpoint) : Prop :=
  ∃ address, s.rpcAddress? = some address ∧ endpoint.host = address.host ∧
    endpoint.port.toNat = address.port.toNat

theorem Addresses.unique {s : TabletServer} {endpoint endpoint' : Endpoint}
    (h : s.Addresses endpoint) (h' : s.Addresses endpoint') : endpoint' = endpoint := by
  obtain ⟨address, haddress, hhost, hport⟩ := h
  obtain ⟨address', haddress', hhost', hport'⟩ := h'
  obtain rfl := Option.some.inj (haddress.symm.trans haddress')
  obtain ⟨host, port⟩ := endpoint
  obtain ⟨host', port'⟩ := endpoint'
  cases hhost
  cases hhost'
  exact congrArg _ (UInt16.toNat_inj.1 (hport'.trans hport.symm))

theorem rpcEndpoint?_eq (s : TabletServer) :
    s.rpcEndpoint? = s.rpcAddress?.bind HostPort.endpoint? := by
  unfold rpcEndpoint? rpcAddress? TabletServerEntry.rpcEndpoint?
  rw [Option.bind_assoc]
  rfl

theorem Addresses.fits {s : TabletServer} (h : s.Addresses endpoint) :
    ∃ address, s.rpcAddress? = some address ∧ address.port.toNat ≤ 65535 := by
  obtain ⟨address, haddress, -, hport⟩ := h
  exact ⟨address, haddress, hport ▸ Nat.le_of_lt_succ endpoint.port.toNat_lt⟩

theorem addresses_of_rpcEndpoint {s : TabletServer} (h : s.rpcEndpoint? = some endpoint) :
    s.Addresses endpoint := by
  rw [rpcEndpoint?_eq] at h
  obtain ⟨address, haddress, hendpoint⟩ := Option.bind_eq_some_iff.1 h
  unfold HostPort.endpoint? at hendpoint
  split at hendpoint
  · rename_i hport
    cases hendpoint
    refine ⟨address, haddress, rfl, ?_⟩
    rw [UInt32.toNat_toUInt16]
    exact Nat.mod_eq_of_lt hport
  · cases hendpoint

theorem port_of_rpcEndpoint_none {s : TabletServer} (h : s.rpcEndpoint? = none) :
    ∀ address, s.rpcAddress? = some address → 65535 < address.port.toNat := by
  intro address haddress
  rw [rpcEndpoint?_eq, haddress] at h
  change HostPort.endpoint? address = none at h
  unfold HostPort.endpoint? at h
  split at h
  · cases h
  · rename_i hport
    exact Nat.lt_of_not_le fun hle => hport (Nat.lt_succ_of_le hle)

end TabletServer

/-! ## The map -/

namespace Testbed

/-- The host in the current slot of server `u`. -/
def host? (bed : Testbed) (u : Uuid) : Option Host :=
  (bed.pool.lookup u).bind fun i => bed.slots[i]?.bind value

/-- The session of the host is open and in sync. -/
def carries (bed : Testbed) (host : Host) : Bool :=
  bed.sessions[host.session]?.any fun shared => !shared.value.isClosed

/-- The pool as a map from servers to usable hosts. -/
def usable? (bed : Testbed) (u : Uuid) : Option Host :=
  (bed.host? u).filter bed.carries

/-- No lookup of server `u` and no call on its host is in progress: nobody holds the slot of the
server or the session of the host in it, or waits for one of them. -/
structure Idle (bed : Testbed) (u : Uuid) : Prop where
  slot : ∀ i shared, bed.pool.lookup u = some i → bed.slots[i]? = some shared → shared.queue = []
  host : ∀ host shared, bed.host? u = some host → bed.sessions[host.session]? = some shared →
    shared.queue = []

/-- Each server has a slot of its own, and the session of each host in a slot exists. -/
structure Orderly (bed : Testbed) : Prop where
  exists_slot : ∀ u i, bed.pool.lookup u = some i → i < bed.slots.length
  owner : ∀ u u' i, bed.pool.lookup u = some i → bed.pool.lookup u' = some i → u = u'
  housed : bed.Housed

theorem host?_of_slot {shared : Shared (Option Host)} (hi : bed.pool.lookup u = some i)
    (hshared : bed.slots[i]? = some shared) : bed.host? u = shared.value := by
  rw [host?, hi, Option.bind_some, hshared, Option.bind_some]

theorem host?_of_unassigned (h : bed.pool.lookup u = none) : bed.host? u = none := by
  rw [host?, h, Option.bind_none]

theorem exists_slot_of_host? (h : bed.host? u = some host) :
    ∃ i, bed.pool.lookup u = some i ∧ bed.slots[i]?.bind value = some host :=
  Option.bind_eq_some_iff.1 h

theorem usable?_eq_some_iff :
    bed.usable? u = some host ↔ bed.host? u = some host ∧ bed.carries host = true :=
  Option.filter_eq_some_iff

theorem usable?_eq_none (h : ∀ host, bed.host? u = some host → bed.carries host = false) :
    bed.usable? u = none := by
  refine Option.filter_eq_none_iff.2 fun host hhost => ?_
  rw [h host hhost]
  exact Bool.false_ne_true

theorem Orderly.session_lt (h : bed.Orderly) (hhost : bed.host? u = some host) :
    host.session < bed.sessions.length := by
  obtain ⟨i, -, hi⟩ := exists_slot_of_host? hhost
  obtain ⟨shared, hshared, hvalue⟩ := Option.bind_eq_some_iff.1 hi
  refine h.housed i host ?_
  rw [valueAt, hshared]
  exact congrArg some hvalue

/-- When nobody holds anything or waits for it, every server is idle. -/
theorem idle_of_quiet (hslots : ∀ shared ∈ bed.slots, shared.queue = [])
    (hsessions : ∀ shared ∈ bed.sessions, shared.queue = []) : bed.Idle u where
  slot _ shared _ hshared := hslots shared (List.mem_of_getElem? hshared)
  host _ shared _ hshared := hsessions shared (List.mem_of_getElem? hshared)

theorem carries_of_value {v : Session} (h : valueAt bed.sessions host.session = some v) :
    bed.carries host = !v.isClosed := by
  obtain ⟨shared, hshared, rfl⟩ := Option.map_eq_some_iff.1 h
  rw [carries, hshared]
  rfl

theorem carries_of_free {v : Session} (h : w.Free host.session v) :
    w.bed.carries host = !v.isClosed :=
  carries_of_value (congrArg (Option.map value) h)

theorem carries_congr (h : bed'.sessions[host.session]? = bed.sessions[host.session]?) :
    bed'.carries host = bed.carries host := by
  rw [carries, h, carries]

theorem Apart.host? (h : bed.Apart u bed') (hne : u' ≠ u) : bed'.host? u' = bed.host? u' := by
  obtain ⟨hpool, hslots⟩ := h u' hne
  unfold Testbed.host?
  rw [hpool]
  cases hi : bed.pool.lookup u' with
  | none => rfl
  | some i => rw [Option.bind_some, Option.bind_some, hslots i hi]

/-- Nobody uses the host that is in the slot of an idle server. -/
theorem Idle.free (h : w.bed.Idle u) (horderly : w.bed.Orderly)
    (hhost : w.bed.host? u = some host) : ∃ v, w.Free host.session v := by
  obtain ⟨shared, hshared⟩ : ∃ shared, w.bed.sessions[host.session]? = some shared :=
    ⟨_, List.getElem?_eq_getElem (horderly.session_lt hhost)⟩
  refine ⟨shared.value, ?_⟩
  rw [World.Free, hshared, ← h.host host shared hhost hshared]

theorem Shares.host? (h : bed.Shares bed') : bed'.host? u = bed.host? u := by
  rw [Testbed.host?, h.pool, h.slots, Testbed.host?]

theorem Shares.idle (h : bed.Shares bed') (hidle : bed.Idle u) : bed'.Idle u := by
  refine ⟨?_, ?_⟩
  · rw [h.pool, h.slots]
    exact hidle.slot
  · simp only [h.host?, h.sessions]
    exact hidle.host

theorem usable?_congr (hhost : bed'.host? u = bed.host? u)
    (hcarries : ∀ host, bed.host? u = some host → bed'.carries host = bed.carries host) :
    bed'.usable? u = bed.usable? u := by
  rw [usable?, usable?, hhost]
  cases hfound : bed.host? u with
  | none => rfl
  | some host => rw [Option.filter_some, Option.filter_some, hcarries host hfound]

theorem Shares.usable? (h : bed.Shares bed') : bed'.usable? = bed.usable? :=
  funext fun _ => usable?_congr h.host? fun host _ =>
    carries_congr (congrArg (·[host.session]?) h.sessions)

end Testbed

namespace Cluster

/-- What looking up server `u` means for the map: what is dialed, what the result is, and what the
map is like afterwards. -/
inductive Resolution (c : Cluster) (u : Uuid) (pool : Uuid → Option Host) :
    List Endpoint → Except ClientError Host → (Uuid → Option Host) → Prop
  | unlisted (absent : ∀ s ∈ c.tabletServers, s.uuid ≠ u) :
      Resolution c u pool [] (.error (.unknownUuid u)) pool
  | unaddressed {s : TabletServer} (first : c.tabletServers.find? (·.uuid = u) = some s)
      (address : ∀ address, s.rpcAddress? = some address → 65535 < address.port.toNat) :
      Resolution c u pool [] (.error (.noRpcAddress u)) pool
  | pooled {s : TabletServer} {endpoint : Endpoint} {host : Host}
      (first : c.tabletServers.find? (·.uuid = u) = some s) (address : s.Addresses endpoint)
      (usable : pool u = some host) : Resolution c u pool [] (.ok host) pool
  | dialed {s : TabletServer} {endpoint : Endpoint}
      (first : c.tabletServers.find? (·.uuid = u) = some s) (address : s.Addresses endpoint)
      (unusable : pool u = none) (r : Except ClientError Host) :
      Resolution c u pool [endpoint] r (Function.update pool u r.toOption)

/-- A host that a lookup gives is the usable one of the server from then on. -/
theorem Resolution.found {pool pool' : Uuid → Option Host} {dialed : List Endpoint}
    (h : c.Resolution u pool dialed (.ok host) pool') : pool' u = some host := by
  cases h with
  | pooled first address usable => exact usable
  | dialed => exact Function.update_self ..

theorem locate_cases (c : Cluster) (u : Uuid) :
    (c.locate u = .error (.unknownUuid u) ∧ ∀ s ∈ c.tabletServers, s.uuid ≠ u) ∨
      ∃ s, c.tabletServers.find? (·.uuid = u) = some s ∧
        (c.locate u = .error (.noRpcAddress u) ∧
            (∀ address, s.rpcAddress? = some address → 65535 < address.port.toNat) ∨
          ∃ endpoint, c.locate u = .ok endpoint ∧ s.Addresses endpoint) := by
  unfold locate
  cases hfound : c.tabletServers.find? (·.uuid = u) with
  | none =>
    refine .inl ⟨rfl, fun s hs huuid => ?_⟩
    exact List.find?_eq_none.1 hfound s hs (decide_eq_true huuid)
  | some s =>
    refine .inr ⟨s, rfl, ?_⟩
    dsimp only
    cases hendpoint : s.rpcEndpoint? with
    | none => exact .inl ⟨rfl, TabletServer.port_of_rpcEndpoint_none hendpoint⟩
    | some endpoint =>
      exact .inr ⟨endpoint, rfl, TabletServer.addresses_of_rpcEndpoint hendpoint⟩

theorem locate_unlisted (absent : ∀ s ∈ c.tabletServers, s.uuid ≠ u) :
    c.locate u = .error (.unknownUuid u) := by
  have hnone : c.tabletServers.find? (·.uuid = u) = none :=
    List.find?_eq_none.2 fun s hs huuid => absent s hs (of_decide_eq_true huuid)
  unfold locate
  rw [hnone]

theorem locate_unaddressed {s : TabletServer}
    (first : c.tabletServers.find? (·.uuid = u) = some s)
    (address : ∀ address, s.rpcAddress? = some address → 65535 < address.port.toNat) :
    c.locate u = .error (.noRpcAddress u) := by
  unfold locate
  rw [first]
  dsimp only
  cases hendpoint : s.rpcEndpoint? with
  | none => rfl
  | some endpoint =>
    obtain ⟨hp, hhp, hfits⟩ := (TabletServer.addresses_of_rpcEndpoint hendpoint).fits
    exact absurd (address hp hhp) (Nat.not_lt.2 hfits)

theorem locate_addressed {s : TabletServer}
    (first : c.tabletServers.find? (·.uuid = u) = some s) (address : s.Addresses endpoint) :
    c.locate u = .ok endpoint := by
  unfold locate
  rw [first]
  dsimp only
  cases hendpoint : s.rpcEndpoint? with
  | none =>
    obtain ⟨hp, hhp, hfits⟩ := address.fits
    exact absurd (TabletServer.port_of_rpcEndpoint_none hendpoint hp hhp) (Nat.not_lt.2 hfits)
  | some endpoint' => rw [address.unique (TabletServer.addresses_of_rpcEndpoint hendpoint)]

/-- What the place of a server and the map say of a lookup. -/
theorem Resolution.located {pool pool' : Uuid → Option Host} {dialed : List Endpoint}
    (h : c.Resolution u pool dialed r pool') :
    (∃ e, c.locate u = .error e ∧ dialed = [] ∧ r = .error e ∧ pool' = pool) ∨
      ∃ endpoint, c.locate u = .ok endpoint ∧
        ((∃ host, pool u = some host ∧ dialed = [] ∧ r = .ok host ∧ pool' = pool) ∨
          pool u = none ∧ dialed = [endpoint] ∧ pool' = Function.update pool u r.toOption) := by
  cases h with
  | unlisted absent => exact .inl ⟨_, locate_unlisted absent, rfl, rfl, rfl⟩
  | unaddressed first address => exact .inl ⟨_, locate_unaddressed first address, rfl, rfl, rfl⟩
  | @pooled s endpoint host first address usable =>
    exact .inr ⟨endpoint, locate_addressed first address, .inl ⟨host, usable, rfl, rfl, rfl⟩⟩
  | @dialed s endpoint first address unusable =>
    exact .inr ⟨endpoint, locate_addressed first address, .inr ⟨unusable, rfl, rfl⟩⟩

/-- A lookup of a server with an address gives its usable host, or there is none and it dials. -/
theorem Resolution.of_located {pool pool' : Uuid → Option Host} {dialed : List Endpoint}
    (h : c.Resolution u pool dialed r pool') (hlocate : c.locate u = .ok endpoint) :
    (∃ host, pool u = some host ∧ dialed = [] ∧ r = .ok host) ∨
      pool u = none ∧ dialed = [endpoint] := by
  rcases h.located with ⟨e, he, -⟩ | ⟨endpoint', he, hcases⟩
  · rw [hlocate] at he
    cases he
  · rw [hlocate] at he
    cases he
    rcases hcases with ⟨host, husable, hdialed, hr, -⟩ | ⟨hnone, hdialed, -⟩
    · exact .inl ⟨host, husable, hdialed, hr⟩
    · exact .inr ⟨hnone, hdialed⟩

/-- After a dial that has failed the same one is made again. -/
theorem Resolution.redials {pool pool' pool'' : Uuid → Option Host} {e : ClientError}
    {dialed : List Endpoint} (h : c.Resolution u pool [endpoint] (.error e) pool')
    (h' : c.Resolution u pool' dialed r pool'') : dialed = [endpoint] := by
  rcases h.located with ⟨_, -, hnone, -⟩ | ⟨endpoint', hlocate, hcases⟩
  · cases hnone
  · rcases hcases with ⟨_, -, hnone, -⟩ | ⟨-, hdialed, rfl⟩
    · cases hnone
    · cases hdialed
      rcases h'.of_located hlocate with ⟨host, husable, -⟩ | ⟨-, hdialed⟩
      · rw [Function.update_self] at husable
        cases husable
      · exact hdialed

/-- What is to be dialed for server `u`: its place, unless there is a usable host of it. -/
def due (c : Cluster) (pool : Uuid → Option Host) (u : Uuid) : List Endpoint :=
  match c.locate u, pool u with
  | .ok endpoint, none => [endpoint]
  | _, _ => []

namespace Resolution

variable {pool pool' : Uuid → Option Host} {dialed : List Endpoint}

theorem dialed_eq (h : c.Resolution u pool dialed r pool') : dialed = c.due pool u := by
  unfold due
  rcases h.located with ⟨e, he, rfl, -⟩ | ⟨endpoint, he, ⟨host, husable, rfl, -⟩ | ⟨hnone, rfl, -⟩⟩
  · rw [he]
  · rw [he, husable]
  · rw [he, hnone]

/-- A lookup takes no usable host out of the map. -/
theorem keeps (h : c.Resolution u pool dialed r pool') (hhost : pool u' = some host) :
    pool' u' = some host := by
  rcases h.located with ⟨e, -, -, -, rfl⟩ | ⟨endpoint, -, ⟨_, -, -, -, rfl⟩ | ⟨hnone, -, rfl⟩⟩
  · exact hhost
  · exact hhost
  · by_cases heq : u' = u
    · rw [heq, hnone] at hhost
      cases hhost
    · rwa [Function.update_of_ne heq]

theorem elsewhere (h : c.Resolution u pool dialed r pool') (hne : u' ≠ u) :
    pool' u' = pool u' := by
  rcases h.located with ⟨e, -, -, -, rfl⟩ | ⟨endpoint, -, ⟨_, -, -, -, rfl⟩ | ⟨-, -, rfl⟩⟩
  · rfl
  · rfl
  · exact Function.update_of_ne hne ..

end Resolution

/-- A lookup of server `u` by thread `t`, which takes the world from `w` to `w'`, is a step of the
map, and this is what it does besides. -/
structure Resolves (c : Cluster) (u : Uuid) (t : ThreadId) (w : World) (dialed : List Endpoint)
    (r : Except ClientError Host) (w' : World) : Prop where
  step : c.Resolution u w.bed.usable? dialed r w'.bed.usable?
  past : w'.past.dialed = w.past.dialed ++ dialed
  /-- Without a dial all sessions, slots and the pool stay as they are. -/
  unchanged : dialed = [] → w.bed.Shares w'.bed
  /-- The result is what the connection attempt gives. -/
  connected : ∀ endpoint ∈ dialed, ∃ w₁ w₂ hungUp, w.Books [] [] hungUp w₁ ∧
    (Host.connect endpoint c.timeoutMillis).Runs t w₁ (some r) w₂ ∧ w₂.Books [] [] [] w'
  pooled : dialed ≠ [] → w'.bed.host? u = r.toOption
  /-- A host that was pooled before is left closed. -/
  closed : dialed ≠ [] → ∀ host, w.bed.host? u = some host →
    ∃ v, valueAt w'.bed.sessions host.session = some v ∧ v.stream = none
  others : ∀ u', u' ≠ u → w'.bed.host? u' = w.bed.host? u'
  idle : w'.bed.Idle u

end Cluster

/-! ## Coming to a host or to an empty slot -/

namespace Testbed

theorem Renews.apart (h : bed.Renews u bed') (horderly : bed.Orderly) : bed.Apart u bed' := by
  refine fun u' hne => ⟨(h.pool u').trans (if_neg hne), fun i hi => ?_⟩
  rw [h.slots, List.getElem?_append_left (horderly.exists_slot u' i hi)]

theorem Renews.vacant (h : bed.Renews u bed') (horderly : bed.Orderly) :
    bed'.Vacant u bed.slots.length where
  current := (h.pool u).trans (if_pos rfl)
  empty := by rw [h.slots, List.getElem?_concat_length]
  apart u' hne hcurrent := by
    rw [h.pool, if_neg hne] at hcurrent
    exact Nat.lt_irrefl _ (horderly.exists_slot u' _ hcurrent)

/-- The empty slot of an idle server. -/
theorem Orderly.vacant (h : bed.Orderly) (hidle : bed.Idle u) (hi : bed.pool.lookup u = some i)
    (hnone : bed.slots[i]?.bind value = none) : bed.Vacant u i where
  current := hi
  empty := by
    obtain ⟨⟨content, queue⟩, hshared⟩ : ∃ shared, bed.slots[i]? = some shared :=
      ⟨_, List.getElem?_eq_getElem (h.exists_slot u i hi)⟩
    rw [hshared] at hnone
    obtain rfl : content = none := hnone
    obtain rfl : queue = [] := hidle.slot i _ hi hshared
    exact hshared
  apart u' hne hcurrent := hne (h.owner u' u i hcurrent hi)

end Testbed

/-- From `w` to `w'` nobody has been dialed and server `u` has come to an empty slot; the host that
it had cannot be used, and has been closed. -/
structure World.Vacates (u : Uuid) (i : SlotId) (w w' : World) : Prop where
  vacant : w'.bed.Vacant u i
  apart : w.bed.Apart u w'.bed
  books : ∃ hungUp, w.Books [] [] hungUp w'
  length : w.bed.sessions.length ≤ w'.bed.sessions.length
  sessions : ∀ s, s < w.bed.sessions.length →
    (∀ host, w.bed.host? u = some host → host.session ≠ s) →
      w'.bed.sessions[s]? = w.bed.sessions[s]?
  closed : ∀ host, w.bed.host? u = some host → w.bed.carries host = false ∧
    ∃ v, w'.Free host.session v ∧ v.stream = none

namespace World

/-- Server `u` has no host, so nothing has to be closed. -/
theorem vacates_of_eq {hungUp : List ConnectionId} (hhost : w.bed.host? u = none)
    (hvacant : w'.bed.Vacant u i) (hapart : w.bed.Apart u w'.bed) (hbooks : w.Books [] [] hungUp w')
    (hsessions : w'.bed.sessions = w.bed.sessions) : w.Vacates u i w' where
  vacant := hvacant
  apart := hapart
  books := ⟨hungUp, hbooks⟩
  length := Nat.le_of_eq (congrArg List.length hsessions).symm
  sessions s _ _ := congrArg (·[s]?) hsessions
  closed host h := by
    rw [hhost] at h
    cases h

/-- Who looks into the slot that it has been given sees the host of the server, or the slot is
empty. -/
theorem Settles.look {found : Option Host} (hslot : w.Settles t (.slot u) i w₁)
    (hlook : w₁.Settles t (.slotHost i) found w₂) (horderly : w.bed.Orderly)
    (hidle : w.bed.Idle u) :
    found = w.bed.host? u ∧ w.Books [] [] [] w₂ ∧ (found = none → w.Vacates u i w₂) ∧
      (found ≠ none → w.bed.pool.lookup u = some i ∧ w.bed.Shares w₂.bed) := by
  obtain ⟨hfound, hlooked⟩ := hlook.slotHost
  have hbooks : w.Books [] [] [] w₂ := (hslot.books rfl rfl).trans (hlook.books rfl rfl)
  rcases hslot.slot with ⟨hi, hshares⟩ | ⟨hnone, rfl, hrenews⟩
  · rw [hshares.slots] at hfound
    replace hshares := hshares.trans hlooked
    have hhost : w.bed.host? u = found := by
      rw [Testbed.host?, hi]
      exact hfound.symm
    refine ⟨hhost.symm, hbooks, fun hnone => ?_, fun _ => ⟨hi, hshares⟩⟩
    have hvacant := horderly.vacant hidle hi (hfound.symm.trans hnone)
    exact vacates_of_eq (hhost.trans hnone) (hvacant.of_eq hshares.slots hshares.pool)
      (.of_eq hshares.slots hshares.pool) hbooks hshares.sessions
  · have hvacant := hrenews.vacant horderly
    have hhost := Testbed.host?_of_unassigned hnone
    rw [hvacant.empty] at hfound
    refine ⟨hfound.trans hhost.symm, hbooks, fun _ => ?_, absurd hfound⟩
    exact vacates_of_eq hhost (hvacant.of_eq hlooked.slots hlooked.pool)
      ((hrenews.apart horderly).trans (.of_eq hlooked.slots hlooked.pool)) hbooks
      (hlooked.sessions.trans hrenews.sessions)

/-- Server `u` has got a new slot, and the host that it had has been closed. -/
theorem vacates_of_close {v : Session} (horderly : w.bed.Orderly)
    (hhost : w.bed.host? u = some host) (hfree : w.Free host.session v)
    (hunusable : w.bed.carries host = false) (hrenews : w.bed.Renews u w₁.bed)
    (hbooks : w.Books [] [] [] w₁) (hclose : (Cluster.closeQuietly host).Runs t w₁ (some ()) w') :
    w.Vacates u w.bed.slots.length w' := by
  have hfree₁ : w₁.Free host.session v := (congrArg (·[host.session]?) hrenews.sessions).trans hfree
  obtain ⟨hclosed, hclosing, hspares⟩ := Cluster.closeQuietly_runs hclose hfree₁
  refine ⟨(hrenews.vacant horderly).of_eq hspares.slots hspares.pool,
    (hrenews.apart horderly).trans (.of_eq hspares.slots hspares.pool), ⟨_, hbooks.trans hclosing⟩,
    ?_, fun s hs hother => ?_, fun host' hhost' => ?_⟩
  · rw [← hrenews.sessions]
    exact hspares.length
  · rw [← hrenews.sessions] at hs ⊢
    refine hspares.sessions s hs fun hmem => hother host hhost ?_
    exact (List.mem_singleton.1 hmem).symm
  · rw [hhost] at hhost'
    cases hhost'
    exact ⟨hunusable, v.closed, hclosed, rfl⟩

end World

namespace Cluster

/-- What a lookup does until it has come to a host that it can use, or to a slot that it can
occupy. -/
def approach (u : Uuid) : Job (SlotId ⊕ Host) := do
  let i ← Job.ask (.slot u)
  match ← Job.ask (.slotHost i) with
  | none => return .inl i
  | some pooled =>
    if ← pooled.isDefunct then
      log .warn "pooled connection is closed, redialing"
        [("uuid", u.text), ("endpoint", pooled.endpoint.text)]
      let i ← Job.ask (.evict u i)
      closeQuietly pooled
      return .inl i
    else return .inr pooled

theorem host_eq (h : c.locate u = .ok endpoint) :
    c.host u = approach u >>= Sum.elim (c.occupy u endpoint) fun host => pure (.ok host) := by
  unfold host approach
  rw [h, bind_assoc]
  refine bind_congr fun i => ?_
  rw [bind_assoc]
  refine bind_congr fun found => ?_
  cases found with
  | none => rfl
  | some pooled =>
    dsimp only
    rw [bind_assoc]
    refine bind_congr fun defunct => ?_
    cases defunct with
    | false => rfl
    | true =>
      simp only [if_true, bind_assoc]
      rfl

/-- Alone, a lookup finds a host that it can use, or the slot that it comes to is empty. -/
theorem approach_runs {o : SlotId ⊕ Host} (h : (approach u).Runs t w (some o) w')
    (horderly : w.bed.Orderly) (hidle : w.bed.Idle u) :
    (∃ host, o = .inr host ∧ w.bed.usable? u = some host ∧ w.bed.Shares w'.bed ∧
        w.Books [] [] [] w') ∨
      ∃ i, o = .inl i ∧ w.Vacates u i w' := by
  obtain ⟨i, w₁, hslot, h⟩ := (Job.runs_ask_bind_some (.slot u) _ _).1 h
  obtain ⟨found, w₂, hlook, h⟩ := (Job.runs_ask_bind_some (.slotHost i) _ _).1 h
  obtain ⟨hhost, hbooks, hvacates, hshares⟩ := hslot.look hlook horderly hidle
  cases found with
  | none =>
    obtain ⟨ho, rfl⟩ := h
    exact .inr ⟨i, Option.some.inj ho, hvacates rfl⟩
  | some pooled =>
    obtain ⟨hi, hshares⟩ := hshares (Option.some_ne_none pooled)
    obtain ⟨v, hfree⟩ := hidle.free horderly hhost.symm
    have hcarries := Testbed.carries_of_free hfree
    obtain ⟨defunct, w₃, hask, h⟩ := (Job.runs_ask_bind_some (.isDefunct pooled.session) _ _).1 h
    obtain ⟨rfl, hasked⟩ := hask.isDefunct (hfree.shares hshares)
    replace hshares := hshares.trans hasked
    replace hbooks : w.Books [] [] [] w₃ := hbooks.trans (hask.books rfl rfl)
    cases hclosed : v.isClosed with
    | false =>
      rw [hclosed] at h hcarries
      obtain ⟨ho, rfl⟩ := h
      have husable := Testbed.usable?_eq_some_iff.2 ⟨hhost.symm, hcarries⟩
      exact .inl ⟨pooled, Option.some.inj ho, husable, hshares, hbooks⟩
    | true =>
      rw [hclosed] at h hcarries
      obtain ⟨_, w₄, hlog, h⟩ := Job.Runs.plain_bind_some (e := .log _) h rfl 0 0
      obtain ⟨j, w₅, hevict, h⟩ := (Job.runs_ask_bind_some (.evict u i) _ _).1 h
      obtain ⟨_, w₆, hclose, ho, rfl⟩ := (Job.runs_bind_some _ _ _).1 h
      replace hshares := hshares.trans hlog.shares
      rw [← hshares.pool] at hi
      obtain ⟨rfl, hrenews⟩ := hevict.evict hi
      rw [hshares.slots] at ho
      have hevicted := (hbooks.trans hlog.spans.books).trans (hevict.books rfl rfl)
      exact .inr ⟨_, Option.some.inj ho, World.vacates_of_close horderly hhost.symm hfree hcarries
        (hshares.andRenews hrenews) hevicted hclose⟩

/-- And it gets there. -/
theorem exists_approach (t : ThreadId) (horderly : w.bed.Orderly) (hidle : w.bed.Idle u) :
    ∃ o w', (approach u).Runs t w (some o) w' := by
  obtain ⟨i, w₁, hslot⟩ := World.exists_settles (w.bed.answer_prompt t (e := .slot u) rfl)
  obtain ⟨found, w₂, hlook⟩ := World.exists_settles (w₁.bed.answer_prompt t (e := .slotHost i) rfl)
  obtain ⟨hhost, -, -, hshares⟩ := hslot.look hlook horderly hidle
  cases found with
  | none => exact ⟨.inl i, w₂, .inl ⟨i, w₁, hslot, .inl ⟨none, w₂, hlook, rfl, rfl⟩⟩⟩
  | some pooled =>
    obtain ⟨hi, hshares⟩ := hshares (Option.some_ne_none pooled)
    obtain ⟨v, hfree⟩ := hidle.free horderly hhost.symm
    obtain ⟨defunct, w₃, hask⟩ :=
      World.exists_settles (w₂.bed.answer_prompt t (e := .isDefunct pooled.session) rfl)
    cases defunct with
    | false =>
      exact ⟨.inr pooled, w₃, .inl ⟨i, w₁, hslot, .inl ⟨some pooled, w₂, hlook,
        .inl ⟨false, w₃, hask, rfl, rfl⟩⟩⟩⟩
    | true =>
      obtain ⟨_, w₄, hlog⟩ := World.exists_settles (w₃.bed.answer_prompt t (e := .log _) rfl)
      obtain ⟨j, w₅, hevict⟩ := World.exists_settles (w₄.bed.answer_prompt t (e := .evict u i) rfl)
      replace hshares := (hshares.trans (hask.shares rfl rfl)).trans (hlog.shares rfl rfl)
      rw [← hshares.pool] at hi
      obtain ⟨-, hrenews⟩ := hevict.evict hi
      have hfree₅ : w₅.Free pooled.session v :=
        (congrArg (·[pooled.session]?) (hshares.andRenews hrenews).sessions).trans hfree
      obtain ⟨w', hclose⟩ := exists_closeQuietly t hfree₅
      exact ⟨.inl j, w', .inl ⟨i, w₁, hslot, .inl ⟨some pooled, w₂, hlook,
        .inl ⟨true, w₃, hask, .inl ⟨(), w₄, hlog, .inl ⟨j, w₅, hevict,
          hclose.leads_bind _ _ ⟨rfl, rfl⟩⟩⟩⟩⟩⟩⟩

/-! ## Steps of the map -/

theorem Resolves.of_shares (hstep : c.Resolution u w.bed.usable? [] r w.bed.usable?)
    (hidle : w.bed.Idle u) (hshares : w.bed.Shares w'.bed) (hbooks : w.Books [] [] [] w') :
    c.Resolves u t w [] r w' where
  step := by rwa [hshares.usable?]
  past := hbooks.dialed
  unchanged _ := hshares
  connected endpoint hmem := by cases hmem
  pooled hdialed := absurd rfl hdialed
  closed hdialed := absurd rfl hdialed
  others u' _ := hshares.host?
  idle := hshares.idle hidle

section Occupying

variable (horderly : w.bed.Orderly) (hvacates : w.Vacates u i w₁)
  (hoccupies : w₁.Occupies t endpoint c.timeoutMillis i r w')
include hvacates hoccupies

theorem lookup_of_occupies : w'.bed.pool.lookup u = some i := by
  rw [hoccupies.pool]
  exact hvacates.vacant.current

theorem slot_of_occupies : w'.bed.slots[i]? = some ⟨r.toOption, []⟩ := by
  rw [hoccupies.slots]
  exact List.getElem?_set_self (List.getElem?_eq_some_iff.1 hvacates.vacant.empty).1

theorem host?_of_occupies : w'.bed.host? u = r.toOption :=
  Testbed.host?_of_slot (lookup_of_occupies hvacates hoccupies)
    (slot_of_occupies hvacates hoccupies)

theorem apart_of_occupies : w.bed.Apart u w'.bed :=
  hvacates.apart.trans (hvacates.vacant.apart_set hoccupies.slots hoccupies.pool)

theorem idle_of_occupies : w'.bed.Idle u where
  slot j shared hj hshared := by
    rw [lookup_of_occupies hvacates hoccupies] at hj
    cases hj
    rw [slot_of_occupies hvacates hoccupies] at hshared
    cases hshared
    rfl
  host host shared hpooled hshared := by
    rw [host?_of_occupies hvacates hoccupies] at hpooled
    cases r with
    | error e => cases hpooled
    | ok host' =>
      cases hpooled
      obtain ⟨v, hfree, -⟩ := hoccupies.opens host rfl
      rw [hfree] at hshared
      cases hshared
      rfl

include horderly

/-- A host that the lookup has closed is closed in the end. -/
theorem closed_of_occupies (hhost : w.bed.host? u = some host) :
    ∃ v, w'.Free host.session v ∧ v.stream = none := by
  obtain ⟨-, v, hfree, hnone⟩ := hvacates.closed host hhost
  have hlt := Nat.lt_of_lt_of_le (horderly.session_lt hhost) hvacates.length
  exact ⟨v, (hoccupies.sessions _ hlt).trans hfree, hnone⟩

/-- The session of a host that was pooled before is as it was, unless it could not be used and has
been closed: whoever has a host with the session that the lookup has closed cannot use it. -/
theorem session_of_occupies (hhost : w.bed.host? u' = some host) :
    w'.bed.sessions[host.session]? = w.bed.sessions[host.session]? ∨
      w.bed.carries host = false ∧ ∃ v, w'.Free host.session v ∧ v.stream = none := by
  by_cases hshared : ∃ old, w.bed.host? u = some old ∧ old.session = host.session
  · obtain ⟨old, hold, hsession⟩ := hshared
    obtain ⟨hunusable, -⟩ := hvacates.closed old hold
    have hclosed := closed_of_occupies horderly hvacates hoccupies hold
    rw [hsession] at hclosed
    rw [Testbed.carries, hsession] at hunusable
    exact .inr ⟨hunusable, hclosed⟩
  · have hlt := horderly.session_lt hhost
    refine .inl ((hoccupies.sessions _ ?_).trans (hvacates.sessions _ hlt ?_))
    · exact Nat.lt_of_lt_of_le hlt hvacates.length
    · exact fun old hold heq => hshared ⟨old, hold, heq⟩

/-- What other servers have is as usable as it was. -/
theorem carries_of_occupies (hhost : w.bed.host? u' = some host) :
    w'.bed.carries host = w.bed.carries host := by
  rcases session_of_occupies horderly hvacates hoccupies hhost with
    hsame | ⟨hunusable, v, hfree, hnone⟩
  · exact Testbed.carries_congr hsame
  · rw [Testbed.carries_of_free hfree, Session.isClosed, hnone]
    exact hunusable.symm

/-- What a lookup puts into the map when it has come to an empty slot and has dialed. -/
theorem usable?_of_occupies :
    w'.bed.usable? = Function.update w.bed.usable? u r.toOption := by
  funext u'
  by_cases heq : u' = u
  · subst heq
    rw [Function.update_self, Testbed.usable?, host?_of_occupies hvacates hoccupies]
    cases r with
    | error e => rfl
    | ok host =>
      obtain ⟨v, hfree, hopen⟩ := hoccupies.opens host rfl
      have hcarries := Testbed.carries_of_free hfree
      rw [hopen] at hcarries
      exact Option.filter_eq_some_iff.2 ⟨rfl, hcarries⟩
  · rw [Function.update_of_ne heq]
    exact Testbed.usable?_congr ((apart_of_occupies hvacates hoccupies).host? heq)
      fun host hhost => carries_of_occupies horderly hvacates hoccupies hhost

theorem resolves_of_occupies {s : TabletServer}
    (first : c.tabletServers.find? (·.uuid = u) = some s) (address : s.Addresses endpoint) :
    c.Resolves u t w [endpoint] r w' := by
  obtain ⟨hungUp, hbooks⟩ := hvacates.books
  obtain ⟨w₂, w₃, hentered, hconnect, hsettled⟩ := hoccupies.connected
  have hready := hbooks.trans hentered
  have hunusable : w.bed.usable? u = none :=
    Testbed.usable?_eq_none fun old hold => (hvacates.closed old hold).1
  refine
    { step := ?_
      past := ?_
      unchanged := fun hnil => absurd hnil (List.cons_ne_nil _ _)
      connected := fun endpoint' hmem => ?_
      pooled := fun _ => host?_of_occupies hvacates hoccupies
      closed := fun _ old hold => ?_
      others := fun _ hne => (apart_of_occupies hvacates hoccupies).host? hne
      idle := idle_of_occupies hvacates hoccupies }
  · rw [usable?_of_occupies horderly hvacates hoccupies]
    exact .dialed first address hunusable r
  · obtain ⟨opened, hungUp', hdialed⟩ := (Host.connect_runs hconnect).dials
    exact ((hready.trans hdialed).trans hsettled).dialed
  · obtain rfl := List.mem_singleton.1 hmem
    exact ⟨w₂, w₃, _, hready, hconnect, hsettled⟩
  · obtain ⟨v, hfree, hnone⟩ := closed_of_occupies horderly hvacates hoccupies hold
    exact ⟨v, congrArg (Option.map value) hfree, hnone⟩

end Occupying

/-- A lookup alone is a step of the map. -/
theorem host_resolves (h : (c.host u).Runs t w (some r) w') (horderly : w.bed.Orderly)
    (hidle : w.bed.Idle u) : ∃ dialed, c.Resolves u t w dialed r w' := by
  have hrefused {e : ClientError} (hlocate : c.locate u = .error e)
      (hstep : c.Resolution u w.bed.usable? [] (.error e) w.bed.usable?) :
      c.Resolves u t w [] r w' := by
    unfold host at h
    rw [hlocate] at h
    obtain ⟨hr, rfl⟩ := h
    cases hr
    exact .of_shares hstep hidle (.refl _) (.refl w')
  rcases c.locate_cases u with
    ⟨hlocate, habsent⟩ | ⟨s, hfirst, ⟨hlocate, haddress⟩ | ⟨endpoint, hlocate, haddress⟩⟩
  · exact ⟨[], hrefused hlocate (.unlisted habsent)⟩
  · exact ⟨[], hrefused hlocate (.unaddressed hfirst haddress)⟩
  · rw [host_eq hlocate] at h
    obtain ⟨o, w₁, happroach, h⟩ := (Job.runs_bind_some _ _ _).1 h
    rcases approach_runs happroach horderly hidle with
      ⟨host, rfl, husable, hshares, hbooks⟩ | ⟨i, rfl, hvacates⟩
    · obtain ⟨hr, rfl⟩ := h
      cases hr
      exact ⟨[], .of_shares (.pooled hfirst haddress husable) hidle hshares hbooks⟩
    · exact ⟨[endpoint], resolves_of_occupies horderly hvacates
        (occupy_runs h hvacates.vacant.empty) hfirst haddress⟩

/-- A lookup alone waits for nobody but the server that it dials. -/
theorem host_returns (c : Cluster) (t : ThreadId) (horderly : w.bed.Orderly)
    (hidle : w.bed.Idle u) :
    (∃ r w', c.Resolves u t w [] r w' ∧ (c.host u).Runs t w (some r) w') ∨
      ∃ endpoint w₁ hungUp, w.Books [] [] hungUp w₁ ∧ ∀ r w₂,
        (Host.connect endpoint c.timeoutMillis).Runs t w₁ (some r) w₂ →
          ∃ w', c.Resolves u t w [endpoint] r w' ∧ (c.host u).Runs t w (some r) w' := by
  have hrefused {e : ClientError} (hlocate : c.locate u = .error e) :
      (c.host u).Runs t w (some (.error e)) w := by
    unfold host
    rw [hlocate]
    exact ⟨rfl, rfl⟩
  rcases c.locate_cases u with
    ⟨hlocate, habsent⟩ | ⟨s, hfirst, ⟨hlocate, haddress⟩ | ⟨endpoint, hlocate, haddress⟩⟩
  · exact .inl ⟨_, w, .of_shares (.unlisted habsent) hidle (.refl _) (.refl w), hrefused hlocate⟩
  · exact .inl ⟨_, w, .of_shares (.unaddressed hfirst haddress) hidle (.refl _) (.refl w),
      hrefused hlocate⟩
  · rw [host_eq hlocate]
    obtain ⟨o, w₁, happroach⟩ := exists_approach t horderly hidle
    rcases approach_runs happroach horderly hidle with
      ⟨host, rfl, husable, hshares, hbooks⟩ | ⟨i, rfl, hvacates⟩
    · exact .inl ⟨.ok host, w₁, .of_shares (.pooled hfirst haddress husable) hidle hshares hbooks,
        happroach.leads_bind _ _ ⟨rfl, rfl⟩⟩
    · obtain ⟨hungUp, hbooks⟩ := hvacates.books
      obtain ⟨w₂, hentered, hleads⟩ := exists_occupy c t u endpoint hvacates.vacant.empty
      refine .inr ⟨endpoint, w₂, _, hbooks.trans hentered, fun r w₃ hconnect => ?_⟩
      obtain ⟨w', hsettle⟩ := exists_settle t w₃ i r
      have hoccupy := hleads _ _ (hconnect.leads_bind _ _ hsettle)
      have hoccupies := occupy_runs hoccupy hvacates.vacant.empty
      exact ⟨w', resolves_of_occupies horderly hvacates hoccupies hfirst haddress,
        happroach.leads_bind _ _ hoccupy⟩

end Cluster

/-! ## Every scene -/

namespace Scene

variable {σ : Scene}

theorem Reachable.orderly (h : Reachable c σ) : σ.world.bed.Orderly := by
  obtain ⟨P, hP⟩ := governed_of_reachable h
  refine ⟨fun u i hi => ?_, fun u u' i hi hi' => ?_, h.places.1⟩
  · exact hP.lookups.exists_slot u i (hP.lookups.current u i hi)
  · exact hP.lookups.owner u u' i (hP.lookups.current u i hi) (hP.lookups.current u' i hi')

/-- The scene after a new thread has looked up server `u`. -/
def resolved (σ : Scene) (u : Uuid) (r : Except ClientError Host) (w : World) : Scene where
  world := { w with bed := w.bed.onNetwork (Network.keepAll σ.workers.length) }
  workers := σ.workers ++ [⟨.seek u, .finished r⟩]

/-- A lookup of server `u` by a new thread is a step of the map from servers to usable hosts, and so
is the next one. -/
structure PoolsAsMap (c : Cluster) (σ : Scene) (u : Uuid) : Prop where
  resolves : ∀ r w', (c.host u).Runs σ.workers.length σ.world (some r) w' →
    ∃ dialed, c.Resolves u σ.workers.length σ.world dialed r w'
  /-- It comes to an end, unless the server that is dialed keeps it waiting. -/
  returns : (∃ r w', c.Resolves u σ.workers.length σ.world [] r w' ∧
      (c.host u).Runs σ.workers.length σ.world (some r) w') ∨
    ∃ endpoint w₁ hungUp, σ.world.Books [] [] hungUp w₁ ∧ ∀ r w₂,
      (Host.connect endpoint c.timeoutMillis).Runs σ.workers.length w₁ (some r) w₂ →
        ∃ w', c.Resolves u σ.workers.length σ.world [endpoint] r w' ∧
          (c.host u).Runs σ.workers.length σ.world (some r) w'
  goesOn : ∀ r w', (c.host u).Runs σ.workers.length σ.world (some r) w' →
    Reachable c (σ.resolved u r w') ∧ (σ.resolved u r w').world.bed.Idle u
  /-- After a failed dial the next lookup makes the same one. -/
  redials : ∀ endpoint e w', (c.host u).Runs σ.workers.length σ.world (some (.error e)) w' →
    w'.past.dialed = σ.world.past.dialed ++ [endpoint] → ∀ t r w'',
      (c.host u).Runs t (σ.resolved u (.error e) w').world (some r) w'' →
        c.Resolves u t (σ.resolved u (.error e) w').world [endpoint] r w''

theorem shares_resolved (σ : Scene) (u : Uuid) (r : Except ClientError Host) (w : World) :
    w.bed.Shares (σ.resolved u r w).world.bed :=
  ⟨rfl, rfl, rfl⟩

theorem Reachable.poolsAsMap (h : Reachable c σ) (hidle : σ.world.bed.Idle u) :
    σ.PoolsAsMap c u := by
  have hresolves {r : Except ClientError Host} {w' : World}
      (hrun : (c.host u).Runs σ.workers.length σ.world (some r) w') :
      ∃ dialed, c.Resolves u σ.workers.length σ.world dialed r w' :=
    Cluster.host_resolves hrun h.orderly hidle
  have hgoesOn {r : Except ClientError Host} {w' : World}
      (hrun : (c.host u).Runs σ.workers.length σ.world (some r) w') :
      Reachable c (σ.resolved u r w') ∧ (σ.resolved u r w').world.bed.Idle u := by
    obtain ⟨dialed, hdone⟩ := hresolves hrun
    exact ⟨h.ends hrun, (shares_resolved σ u r w').idle hdone.idle⟩
  refine ⟨fun r w' => hresolves, Cluster.host_returns c _ h.orderly hidle, fun r w' => hgoesOn, ?_⟩
  intro endpoint e w' hfailed hpast t r w'' hagain
  obtain ⟨dialed, hdone⟩ := hresolves hfailed
  obtain rfl : dialed = [endpoint] := List.append_cancel_left (hdone.past.symm.trans hpast)
  obtain ⟨hreachable, hidle'⟩ := hgoesOn hfailed
  obtain ⟨dialed', hdone'⟩ := Cluster.host_resolves hagain hreachable.orderly hidle'
  have hstep := hdone'.step
  rw [(shares_resolved σ u (.error e) w').usable?] at hstep
  obtain rfl := hdone.step.redials hstep
  exact hdone'

/-- **The pool refines a map.** -/
theorem pool_refines_map (h : Reachable c σ) (hidle : σ.world.bed.Idle u) :
    σ.PoolsAsMap c u ∧ ∀ raw,
      (Uuid.ofRaw raw = .ok u → c.hostOfRaw raw = c.host u) ∧
      ((∀ u', Uuid.ofRaw raw ≠ .ok u') → ∀ t w r w', (c.hostOfRaw raw).Runs t w (some r) w' ↔
        r = .error (.invalidUuid (Utf8.decodeLossy raw)) ∧ w' = w) := by
  refine ⟨h.poolsAsMap hidle, fun raw => ⟨fun hraw => ?_, fun hraw t w r w' => ?_⟩⟩
  · unfold Cluster.hostOfRaw
    rw [hraw]
  · unfold Cluster.hostOfRaw
    cases hparsed : Uuid.ofRaw raw with
    | ok u' => exact absurd hparsed (hraw u')
    | error e =>
      obtain rfl := Uuid.ofRaw_eq_error hparsed
      rw [Job.runs_pure, Option.some.injEq]

/-- The tablet server of the sample can be reached. -/
def tabletReachable : World where
  bed := { network := Network.registerFarEnd ⟨"t1", 9100⟩ (.script [] false []) 65536 {} }

/-- The server has been looked up and its host has been closed: the next lookup dials again. -/
theorem pool_refines_map_redialed : ∃ (σ : Scene) (closed host : Host) (w' : World),
    Reachable sample σ ∧ σ.world.bed.Idle ⟨1⟩ ∧ σ.world.bed.host? ⟨1⟩ = some closed ∧
      (sample.host ⟨1⟩).Runs σ.workers.length σ.world (some (.ok host)) w' ∧
      sample.Resolves ⟨1⟩ σ.workers.length σ.world [⟨"t1", 9100⟩] (.ok host) w' := by
  have hplay : (tabletReachable.visit 0 (sample.host ⟨1⟩) (leaderAnswers.take 2)).any (fun first =>
      first.1.toOption.any fun host =>
        (first.2.visit 1 host.close []).any fun closed =>
          (closed.2.play 2 (sample.host ⟨1⟩) (leaderAnswers.take 2)).any fun second =>
            second.1.toOption.any fun _ =>
              decide (closed.2.bed.host? ⟨1⟩ = some host ∧
                (∀ shared ∈ closed.2.bed.slots, shared.queue = []) ∧
                (∀ shared ∈ closed.2.bed.sessions, shared.queue = []) ∧
                second.2.past.dialed = closed.2.past.dialed ++ [⟨"t1", 9100⟩])) = true := by
    decide +kernel
  obtain ⟨first, hfirst, hplay⟩ := (Option.any_eq_true _ _).1 hplay
  obtain ⟨old, hold, hplay⟩ := (Option.any_eq_true _ _).1 hplay
  obtain ⟨closed, hclosed, hplay⟩ := (Option.any_eq_true _ _).1 hplay
  obtain ⟨⟨second, w'⟩, hsecond, hplay⟩ := (Option.any_eq_true _ _).1 hplay
  obtain ⟨host, hhost, hchecked⟩ := (Option.any_eq_true _ _).1 hplay
  obtain rfl := toOption_eq_some.1 hhost
  obtain ⟨hpooled, hslots, hsessions, hpast⟩ := of_decide_eq_true hchecked
  have hstart : Reachable sample ⟨tabletReachable, []⟩ := .initial _ rfl rfl
  have hlooked : Reachable sample ⟨first.2, [⟨.seek ⟨1⟩, .finished first.1⟩]⟩ :=
    hstart.visits hfirst
  have hreachable : Reachable sample ⟨closed.2,
      [⟨.seek ⟨1⟩, .finished first.1⟩, ⟨.close old, .finished closed.1⟩]⟩ :=
    hlooked.visits hclosed
  have hrun := World.runs_of_play hsecond
  have hidle : closed.2.bed.Idle ⟨1⟩ := Testbed.idle_of_quiet hslots hsessions
  obtain ⟨hpools, -⟩ := pool_refines_map hreachable hidle
  obtain ⟨dialed, hresolves⟩ := hpools.resolves _ _ hrun
  obtain rfl : dialed = [⟨"t1", 9100⟩] :=
    List.append_cancel_left (hresolves.past.symm.trans hpast)
  exact ⟨_, old, host, w', hreachable, hidle, hpooled, hrun, hresolves⟩

end Scene
end ClusterProbe
