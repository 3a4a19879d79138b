import ClusterProbe.Cluster
import ClusterProbe.Proofs.Cluster.Connecting
import ClusterProbe.Proofs.Traversal

/-!
# Finding the leader

A seed is a trial: it is connected to, and asked for its tablet servers when that has worked
(`Trial`). Seeds are tried in order, and the first one that is not skippable decides the result
(`Trial.Decides`). Whatever the masters do, every connection has been shut down in the end but that
of the leader.
-/
namespace ClusterProbe

variable {t : ThreadId} {c : ConnectionId} {w w' w'' : World} {timeoutMillis : UInt32}

/-- Only one number says that a master is not the leader, and no undeclared one does. -/
theorem MasterError.errorCode_eq_notTheLeader (e : MasterError) :
    e.errorCode = .notTheLeader ↔ e.code = 7 := by
  unfold errorCode MasterErrorCode.ofNumber
  constructor
  · intro h
    cases hfound : MasterErrorCode.ofNumber? e.code with
    | none =>
      rw [hfound] at h
      cases h
    | some code =>
      rw [hfound, Option.getD_some] at h
      subst h
      have hnumber := List.find?_some hfound
      exact (eq_of_beq hnumber).symm
  · intro h
    rw [h]
    rfl

theorem Uuid.ofRaw_eq_error {raw : Bytes} {e : ClientError} (h : Uuid.ofRaw raw = .error e) :
    e = .invalidUuid (Utf8.decodeLossy raw) := by
  unfold Uuid.ofRaw at h
  split at h
  · cases h
  · cases h
    rfl

theorem TabletServer.ofEntry_eq_ok {entry : TabletServerEntry} {server : TabletServer} :
    ofEntry entry = .ok server ↔
      Uuid.ofRaw server.entry.rawUuid = .ok server.uuid ∧ server.entry = entry := by
  unfold ofEntry
  constructor
  · intro h
    cases hraw : Uuid.ofRaw entry.rawUuid with
    | error e =>
      rw [hraw] at h
      cases h
    | ok uuid =>
      rw [hraw] at h
      cases h
      exact ⟨hraw, rfl⟩
  · rintro ⟨hraw, rfl⟩
    rw [hraw]
    rfl

theorem TabletServer.ofEntry_eq_error {entry : TabletServerEntry} {e : ClientError} :
    ofEntry entry = .error e ↔ Uuid.ofRaw entry.rawUuid = .error e := by
  unfold ofEntry
  cases Uuid.ofRaw entry.rawUuid with
  | error e' => simp [Except.map]
  | ok uuid => simp [Except.map]

/-- What one seed had to offer. -/
structure Trial where
  seed : Endpoint
  connected : Except ClientError Host
  /-- The answer to the request for its tablet servers, if it was asked. -/
  listed : Option (Except SessionError ListTabletServersResponse)

namespace Trial

/-- Thread `t` tries the seed, which takes the world from `w` to `w'`. -/
def Happens (t : ThreadId) (timeoutMillis : UInt32) (trial : Trial) (w w' : World) : Prop :=
  ∃ w₁, (Host.connect trial.seed timeoutMillis).Runs t w (some trial.connected) w₁ ∧
    match trial.connected with
    | .error _ => trial.listed = none ∧ w₁.Books [] [] [] w'
    | .ok host => ∃ r w₂ hungUp,
        (host.messenger.listTabletServers (some false)).Runs t w₁ (some r) w₂ ∧
          trial.listed = some r ∧ w₂.Books [] [] hungUp w'

/-- Nothing comes of the seed: it cannot be connected to, or says that it is not the leader. -/
def isSkippable (trial : Trial) : Bool :=
  match trial.connected, trial.listed with
  | .error _, _ => true
  | .ok _, some (.ok response) => response.error.any fun error => error.code = 7
  | .ok _, _ => false

/-- What the discovery comes to when this seed decides it. -/
inductive Decides (timeoutMillis : UInt32) (trial : Trial) : Except ClientError Cluster → Prop
  | failed {host : Host} {e : SessionError} (connected : trial.connected = .ok host)
      (listed : trial.listed = some (.error e)) : Decides timeoutMillis trial (.error (.session e))
  | refused {host : Host} {response : ListTabletServersResponse} {error : MasterError}
      (connected : trial.connected = .ok host) (listed : trial.listed = some (.ok response))
      (hasError : response.error = some error) (code : error.code ≠ 7) :
      Decides timeoutMillis trial
        (.error (.master "ListTabletServers" error.errorCode error.text))
  | unparsable {host : Host} {response : ListTabletServersResponse}
      {before after : List TabletServerEntry} {entry : TabletServerEntry}
      (connected : trial.connected = .ok host) (listed : trial.listed = some (.ok response))
      (noError : response.error = none) (servers : response.servers = before ++ entry :: after)
      (parsed : ∀ earlier ∈ before, ∃ uuid, Uuid.ofRaw earlier.rawUuid = .ok uuid)
      (unparsed : ∀ uuid, Uuid.ofRaw entry.rawUuid ≠ .ok uuid) :
      Decides timeoutMillis trial (.error (.invalidUuid (Utf8.decodeLossy entry.rawUuid)))
  | leads {host : Host} {response : ListTabletServersResponse} {tabletServers : List TabletServer}
      (connected : trial.connected = .ok host) (listed : trial.listed = some (.ok response))
      (noError : response.error = none)
      (entries : tabletServers.map TabletServer.entry = response.servers)
      (uuids : ∀ server ∈ tabletServers, Uuid.ofRaw server.entry.rawUuid = .ok server.uuid) :
      Decides timeoutMillis trial (.ok { leader := host, tabletServers, timeoutMillis })

def Follow (t : ThreadId) (timeoutMillis : UInt32) : List Trial → World → World → Prop
  | [] => fun w w' => w' = w
  | trial :: trials => fun w w' =>
      ∃ w₁, trial.Happens t timeoutMillis w w₁ ∧ Follow t timeoutMillis trials w₁ w'

end Trial

namespace Cluster

/-- When a discovery has come to this, these endpoints have been dialed, and of the connections that
came of it only that of the leader is left open. -/
def Released (w : World) (dialed : List Endpoint) : Except ClientError Cluster → World → Prop
  | .ok cluster => fun w' => ∃ c v hungUp, w.Books dialed (hungUp ++ [c]) hungUp w' ∧
      w'.Free cluster.leader.session v ∧ v.OpenOn c
  | .error _ => fun w' => ∃ opened, w.Books dialed opened opened w'

theorem Released.prepend {dialed dialed' : List Endpoint} {opened : List ConnectionId}
    {result : Except ClientError Cluster} (h : w.Books dialed opened opened w')
    (h' : Released w' dialed' result w'') : Released w (dialed ++ dialed') result w'' := by
  cases result with
  | error e =>
    obtain ⟨opened', h'⟩ := h'
    exact ⟨opened ++ opened', h.trans h'⟩
  | ok cluster =>
    obtain ⟨c, v, hungUp, h', hfree, hopen⟩ := h'
    have hall := h.trans h'
    rw [← List.append_assoc] at hall
    exact ⟨c, v, opened ++ hungUp, hall, hfree, hopen⟩

theorem closeQuietly_books {host : Host} {v : Session}
    (h : (closeQuietly host).Runs t w (some ()) w') (hw : w.Free host.session v) :
    w.Books [] [] v.stream.toList w' := by
  unfold closeQuietly Host.close at h
  rw [bind_assoc] at h
  exact (Session.close_books_then (b := ()) h hw rfl fun e => ⟨_, rfl⟩).2

/-- A list of servers becomes a list of tablet servers entry by entry, or an entry is in the way. -/
theorem tabletServers_of_entries (entries : List TabletServerEntry) :
    match entries.mapM TabletServer.ofEntry with
    | .ok servers => servers.map TabletServer.entry = entries ∧
        ∀ server ∈ servers, Uuid.ofRaw server.entry.rawUuid = .ok server.uuid
    | .error e => ∃ before entry after, entries = before ++ entry :: after ∧
        (∀ earlier ∈ before, ∃ uuid, Uuid.ofRaw earlier.rawUuid = .ok uuid) ∧
        (∀ uuid, Uuid.ofRaw entry.rawUuid ≠ .ok uuid) ∧
        e = .invalidUuid (Utf8.decodeLossy entry.rawUuid) := by
  cases hentries : entries.mapM TabletServer.ofEntry with
  | ok servers =>
    have hall : List.Forall₂ (fun server entry =>
        Uuid.ofRaw server.entry.rawUuid = .ok server.uuid ∧ server.entry = entry) servers entries :=
      (mapM_eq_ok.1 hentries).flip.imp fun _ _ => TabletServer.ofEntry_eq_ok.1
    obtain ⟨huuids, hsame⟩ := (List.forall₂_and_left _ _).1 hall
    refine ⟨?_, huuids⟩
    rw [← List.forall₂_eq_eq_eq, List.forall₂_map_left_iff]
    exact hsame
  | error e =>
    obtain ⟨before, entry, after, hsplit, hbefore, hentry⟩ := mapM_eq_error.1 hentries
    have hraw := TabletServer.ofEntry_eq_error.1 hentry
    refine ⟨before, entry, after, hsplit, fun earlier hmem => ?_, fun uuid huuid => ?_,
      Uuid.ofRaw_eq_error hraw⟩
    · obtain ⟨server, hserver⟩ := hbefore earlier hmem
      obtain ⟨huuid, rfl⟩ := TabletServer.ofEntry_eq_ok.1 hserver
      exact ⟨server.uuid, huuid⟩
    · rw [hraw] at huuid
      cases huuid

theorem ofListing_decides (timeoutMillis : UInt32) {trial : Trial} {host : Host}
    {response : ListTabletServersResponse} (hc : trial.connected = .ok host)
    (hl : trial.listed = some (.ok response)) :
    match ofListing timeoutMillis host response with
    | none => trial.isSkippable = true
    | some result => trial.isSkippable = false ∧ trial.Decides timeoutMillis result ∧
        ∀ cluster, result = .ok cluster → cluster.leader = host := by
  unfold ofListing
  cases herror : response.error with
  | some error =>
    have hskip : trial.isSkippable = decide (error.code = 7) := by
      simp [Trial.isSkippable, hc, hl, herror]
    by_cases hcode : error.errorCode = .notTheLeader
    · simp only [if_pos hcode]
      rw [hskip]
      exact decide_eq_true (error.errorCode_eq_notTheLeader.1 hcode)
    · simp only [if_neg hcode]
      have hne : error.code ≠ 7 := fun h => hcode (error.errorCode_eq_notTheLeader.2 h)
      refine ⟨hskip.trans (decide_eq_false hne), .refused hc hl herror hne, fun cluster h => ?_⟩
      cases h
  | none =>
    have hskip : trial.isSkippable = false := by
      simp [Trial.isSkippable, hc, hl, herror]
    have hentries := tabletServers_of_entries response.servers
    cases hservers : response.servers.mapM TabletServer.ofEntry with
    | error e =>
      rw [hservers] at hentries
      obtain ⟨before, entry, after, hsplit, hbefore, hbad, he⟩ := hentries
      have hdecides : trial.Decides timeoutMillis _ :=
        .unparsable hc hl herror hsplit hbefore hbad
      rw [← he] at hdecides
      simp only [Except.map]
      refine ⟨hskip, hdecides, fun cluster hcluster => ?_⟩
      cases hcluster
    | ok servers =>
      rw [hservers] at hentries
      obtain ⟨hsame, huuids⟩ := hentries
      simp only [Except.map]
      refine ⟨hskip, .leads hc hl herror hsame huuids, fun cluster hcluster => ?_⟩
      cases hcluster
      rfl

/-- One seed: skipped, with nothing left open, or decisive, with what its result leaves open. -/
theorem trySeed_runs {seed : Endpoint} {o : Option (Except ClientError Cluster)}
    (h : (trySeed timeoutMillis seed).Runs t w (some o) w') :
    ∃ trial : Trial, trial.seed = seed ∧ trial.Happens t timeoutMillis w w' ∧
      match o with
      | none => trial.isSkippable = true ∧ ∃ opened, w.Books [seed] opened opened w'
      | some result => trial.isSkippable = false ∧ trial.Decides timeoutMillis result ∧
          Released w [seed] result w' := by
  obtain ⟨connected, w₁, hconnect, h⟩ := (Job.runs_bind_some _ _ _).1 h
  have hconnected := Host.connect_runs hconnect
  cases connected with
  | error e =>
    obtain ⟨_, w₂, hlog, ho, rfl⟩ := Job.Runs.plain_bind_some (e := .log _) h rfl 0 0
    cases ho
    obtain ⟨opened, hbooks⟩ := hconnected
    exact ⟨⟨seed, .error e, none⟩, rfl, ⟨w₁, hconnect, rfl, hlog.spans.books⟩, rfl, opened,
      hbooks.andThen hlog.spans.books⟩
  | ok host =>
    obtain ⟨c, v, hbooks, hv, hfree, hc, hmessenger⟩ := hconnected
    obtain ⟨listed, w₂, hlist, h⟩ := (Job.runs_bind_some _ _ _).1 h
    obtain ⟨v', hungUp, hlisted, howes, hopen⟩ := Messenger.service_books hlist hv hfree hc
    have hasked : w.Books [seed] [c] hungUp w₂ := hbooks.trans hlisted
    let trial : Trial := ⟨seed, .ok host, some listed⟩
    have hhappens : ∀ {hungUp}, w₂.Books [] [] hungUp w' →
        trial.Happens t timeoutMillis w w' :=
      fun hrest => ⟨w₁, hconnect, listed, w₂, _, hlist, rfl, hrest⟩
    -- closing pays what the session still owes, whatever became of the call
    have hclosed : ∀ {w₃}, w₂.Books [] [] v'.stream.toList w₃ → w.Books [seed] [c] [c] w₃ := by
      intro w₃ hclose
      have hall := hasked.trans hclose
      rwa [List.append_nil, List.append_nil, howes.balance] at hall
    cases listed with
    | error e =>
      obtain ⟨_, w₃, hclose, ho, rfl⟩ := (Job.runs_bind_some _ _ _).1 h
      cases ho
      have hbooks := closeQuietly_books hclose howes.free
      exact ⟨trial, rfl, hhappens hbooks, rfl, .failed rfl rfl, [c], hclosed hbooks⟩
    | ok response =>
      have hlisting := ofListing_decides timeoutMillis (rfl : trial.connected = _) rfl
      rcases hopen with hopen | ⟨e, he⟩
      · cases hresult : ofListing timeoutMillis host response with
        | none =>
          rw [hresult] at hlisting
          simp only [hresult] at h
          obtain ⟨_, w₃, hclose, h⟩ := (Job.runs_bind_some _ _ _).1 h
          obtain ⟨_, w₄, hlog, ho, rfl⟩ := Job.Runs.plain_bind_some (e := .log _) h rfl 0 0
          cases ho
          have hbooks := (closeQuietly_books hclose howes.free).andThen hlog.spans.books
          exact ⟨trial, rfl, hhappens hbooks, hlisting, [c], hclosed hbooks⟩
        | some result =>
          rw [hresult] at hlisting
          obtain ⟨hskip, hdecides, hleader⟩ := hlisting
          simp only [hresult] at h
          cases result with
          | error e =>
            obtain ⟨_, w₃, hclose, ho, rfl⟩ := (Job.runs_bind_some _ _ _).1 h
            cases ho
            have hbooks := closeQuietly_books hclose howes.free
            exact ⟨trial, rfl, hhappens hbooks, hskip, hdecides, [c], hclosed hbooks⟩
          | ok cluster =>
            obtain ⟨_, w₃, hlog, ho, rfl⟩ := Job.Runs.plain_bind_some (e := .log _) h rfl 0 0
            cases ho
            obtain rfl := howes.hungUp_eq_nil hopen
            refine ⟨trial, rfl, hhappens hlog.spans.books, hskip, hdecides, c, v', [],
              hasked.andThen hlog.spans.books, ?_, hopen⟩
            rw [hleader cluster rfl]
            exact howes.free.shares hlog.shares
      · cases he

/-- **Leader discovery.** The seeds are tried in order, one dial each, up to the first that is not
skippable. That one alone decides the result; without one there is no leader. In the end every
connection has been shut down but that of the leader. -/
theorem connect_discovers {seeds : List Endpoint} {result : Except ClientError Cluster}
    (h : (connect timeoutMillis seeds).Runs t w (some result) w') :
    ∃ trials rest, Trial.Follow t timeoutMillis trials w w' ∧
      seeds = trials.map Trial.seed ++ rest ∧ Released w (trials.map Trial.seed) result w' ∧
      ((∀ trial ∈ trials, trial.isSkippable = true) ∧ rest = [] ∧ result = .error .noLeader ∨
        ∃ skipped last, trials = skipped ++ [last] ∧
          (∀ trial ∈ skipped, trial.isSkippable = true) ∧ last.isSkippable = false ∧
          last.Decides timeoutMillis result) := by
  induction seeds generalizing w with
  | nil =>
    obtain ⟨hresult, rfl⟩ := h
    cases hresult
    exact ⟨[], [], rfl, rfl, ⟨[], .refl w'⟩, Or.inl ⟨List.forall_mem_nil _, rfl, rfl⟩⟩
  | cons seed seeds ih =>
    obtain ⟨o, w₁, htry, hnext⟩ := (Job.runs_bind_some _ _ _).1 h
    obtain ⟨trial, rfl, hhappens, htrial⟩ := trySeed_runs htry
    cases o with
    | some decided =>
      obtain ⟨hresult, rfl⟩ := hnext
      cases hresult
      obtain ⟨hskip, hdecides, hreleased⟩ := htrial
      exact ⟨[trial], seeds, ⟨w', hhappens, rfl⟩, rfl, hreleased,
        Or.inr ⟨[], trial, rfl, List.forall_mem_nil _, hskip, hdecides⟩⟩
    | none =>
      obtain ⟨hskip, opened, hbooks⟩ := htrial
      obtain ⟨trials, rest, hfollow, hseeds, hreleased, hcases⟩ := ih hnext
      refine ⟨trial :: trials, rest, ⟨w₁, hhappens, hfollow⟩, congrArg (trial.seed :: ·) hseeds,
        hreleased.prepend hbooks, ?_⟩
      rcases hcases with ⟨hall, hrest, hresult⟩ | ⟨skipped, last, rfl, hall, hlast, hdecides⟩
      · exact Or.inl ⟨List.forall_mem_cons.2 ⟨hskip, hall⟩, hrest, hresult⟩
      · exact Or.inr ⟨trial :: skipped, last, rfl, List.forall_mem_cons.2 ⟨hskip, hall⟩, hlast,
          hdecides⟩

end Cluster

def World.secondReachable : World where
  bed := { network := Network.registerFarEnd ⟨"m2", 7100⟩ (.script [] false []) 65536 {} }

/-- What that master sends: the answers to a ping, a request for its status and one for its tablet
servers. -/
def leaderAnswers : List Bytes :=
  let answer := fun callId bytes => Frame.segment 0 (ResponseFrame.success callId bytes).encode
  let status : ServerStatus := ⟨none, [], [], none⟩
  let server : TabletServerEntry := ⟨some ⟨List.replicate 32 0x61, 0, none⟩, none, none, none⟩
  let listing : ListTabletServersResponse := { error := none, servers := [server] }
  [answer 1 [], answer 2 (Protobuf.Message.encode (GetStatusResponse.mk (some status) none)),
    answer 3 (Protobuf.Message.encode listing)]

namespace Cluster

theorem connect_discovers_second : ∃ cluster w' skipped last,
    (connect 3000 [⟨"m1", 7100⟩, ⟨"m2", 7100⟩]).Runs 0 .secondReachable (some (.ok cluster)) w' ∧
      cluster.tabletServers.length = 1 ∧
      Trial.Follow 0 3000 (skipped ++ [last]) .secondReachable w' ∧
      last.Decides 3000 (.ok cluster) := by
  have hplay : (World.secondReachable.play 0 (connect 3000 [⟨"m1", 7100⟩, ⟨"m2", 7100⟩])
      leaderAnswers).any
        (fun x => decide (x.1.toOption.map (·.tabletServers.length) = some 1)) = true := by
    decide +kernel
  obtain ⟨⟨result, w'⟩, hplay, hlength⟩ := (Option.any_eq_true _ _).1 hplay
  have hrun := World.runs_of_play hplay
  cases result with
  | error e => cases hlength
  | ok cluster =>
    obtain ⟨trials, rest, hfollow, _, _, hcases⟩ := connect_discovers hrun
    rcases hcases with ⟨_, _, hresult⟩ | ⟨skipped, last, rfl, _, _, hdecides⟩
    · cases hresult
    · have hlength := of_decide_eq_true hlength
      exact ⟨cluster, w', skipped, last, hrun, Option.some.inj hlength, hfollow, hdecides⟩

end Cluster
end ClusterProbe
