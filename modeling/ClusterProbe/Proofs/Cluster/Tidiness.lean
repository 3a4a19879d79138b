import ClusterProbe.Proofs.Cluster.Acquaintance
import ClusterProbe.Proofs.World.Estate
import ClusterProbe.Survey

/-!
# Jobs that tidy up

Every job of a client keeps to the rules for hands and leaves the hands of its thread empty, also
when something goes wrong on the way: whatever it has opened it shuts again, except for the session
that its result stands for (`Hands.Tidy`). A session that is closed, or left alone because it is
defunct, is known to have no connection.
-/
namespace ClusterProbe

open Job Trade

variable {α β : Type} {s : SessionId} {h : Hands}

namespace Hands

/-- The session that a result stands for. -/
def owed {ε : Type} (session : α → SessionId) : Except ε α → List SessionId
  | .ok a => [session a]
  | .error _ => []

theorem follows_log_bind {post : α → Hands → Prop} {level : LogLevel} {target message : String}
    {fields : List (String × String)} {f : Unit → Job α} (hf : (f ()).Follows rules post h) :
    (Job.log level target message fields >>= f).Follows rules post h :=
  follows_pass_bind (e := .log _) rfl fun _ => hf

theorem follows_log {post : Unit → Hands → Prop} {level : LogLevel} {target message : String}
    {fields : List (String × String)} (hpost : post () h) :
    (Job.log level target message fields).Follows rules post h :=
  ⟨allows_passes rfl, fun _ _ => hpost⟩

/-- Who talks on a connection keeps its hands still. -/
theorem follows_talk {x : Job α} (hx : x.Asks (·.isTalk = true)) :
    x.Follows rules (fun _ h' => h' = h) h := by
  have hmoves {e : Effect} (he : e.isTalk = true) : e.movesHands = false := by
    cases e <;> first | rfl | cases he
  exact hx.follows (fun _ he => allows_passes (hmoves he)) fun _ r he => after_passes (hmoves he) r

theorem cleans_talk {x : Job α} (hx : x.Asks (·.isTalk = true)) : Cleans x := by
  refine ⟨fun hrests => (follows_talk hx).mono ?_⟩
  rintro _ _ rfl
  exact Tidy.refl hrests

theorem cleans_pure (a : α) : Cleans (pure a : Job α) :=
  ⟨fun hrests => Tidy.refl hrests⟩

theorem cleans_ask {e : Effect} (he : e.movesHands = false) : Cleans (ask e) := by
  refine ⟨fun {h} hrests => ⟨allows_passes he, fun r _ => ?_⟩⟩
  change h.Tidy [] (h.after e r)
  rw [after_passes he]
  exact Tidy.refl hrests

/-- A job that has shut all its sessions may be followed by any other. -/
theorem Tidies.bind {x : Job α} {f : α → Job β} {owed : β → List SessionId} (hx : Cleans x)
    (hf : ∀ a, Tidies (f a) owed) : Tidies (x >>= f) owed :=
  ⟨fun hrests => (hx.follows hrests).bind fun a _ ht =>
    ((hf a).follows ht.rests).mono fun _ _ ht' => ht.andThen ht'⟩

theorem cleans_log (level : LogLevel) (target message : String) (fields : List (String × String)) :
    Cleans (Job.log level target message fields) :=
  cleans_ask rfl

theorem Tidies.weaken {x : Job α} {owed : α → List SessionId} (hx : Cleans x) : Tidies x owed :=
  ⟨fun hrests => (hx.follows hrests).mono fun _ _ ht => ht.weaken (List.nil_subset _)⟩

end Hands

open Hands

/-! ## Sessions -/

namespace Session

variable {v : Session}

/-- A thread that gives a session back is not in the middle of a call on it. -/
def Returnable (v : Session) : Prop :=
  v.stream = none ∨ v.inFlight = false

theorem guarded_cleans {body : Session → Job α}
    (hbody : ∀ h : Hands, h.Rests → ∀ found, (body found).Follows Hands.rules
      (fun _ h' => ∃ now, h' = { h with held := some (s, now) } ∧ now.Returnable)
      { h with held := some (s, found) }) : Cleans (guarded s body) := by
  refine ⟨fun {h} hrests => ?_⟩
  refine follows_takes_bind hrests.held fun found => (hbody h hrests found).bind ?_
  rintro r _ ⟨now, rfl, hreturnable⟩
  refine follows_returns_bind rfl hreturnable ?_
  refine ⟨⟨hrests.loose, rfl⟩, rfl, ?_, fun _ => .inl⟩
  dsimp only
  split
  · exact List.subset_cons_self ..
  · exact List.Subset.refl _

theorem abort_follows (hfree : h.loose = none) (v : Session) :
    (abort s v).Follows Hands.rules
      (fun _ h' => h' = { h with held := some (s, v.closed.finish) })
      { h with held := some (s, v) } := by
  obtain ⟨loose, held, opened, shut, lost⟩ := h
  obtain rfl : loose = none := hfree
  unfold abort
  cases hstream : v.stream with
  | none => exact follows_records_bind rfl hstream.symm rfl
  | some c =>
    refine follows_parts_bind rfl hstream rfl rfl (follows_log_bind ?_)
    refine follows_hangsUp_bind rfl fun r => ?_
    cases r with
    | error e => exact follows_log rfl
    | ok => exact rfl

/-- A call is started on a session, or the session is as good as before, or shut. -/
theorem beginCall_follows (hfree : h.loose = none) (found : Session) :
    (beginCall s found).Follows Hands.rules
      (fun r h' => ∃ now, h' = { h with held := some (s, now) } ∧
        match r with
        | .ok x => x.2.2 = now
        | .error _ => now.Returnable)
      { h with held := some (s, found) } := by
  cases hmark : found.inFlight with
  | true =>
    unfold beginCall
    rw [if_pos hmark]
    refine follows_log_bind ((abort_follows hfree found).bind ?_)
    rintro _ _ rfl
    exact ⟨_, rfl, .inl rfl⟩
  | false =>
    cases hstream : found.stream with
    | none =>
      rw [beginCall_of_stream hstream hmark]
      exact ⟨found, rfl, .inr hmark⟩
    | some c =>
      have hopen : found.OpenOn c := ⟨hstream, hmark⟩
      rw [hopen.beginCall]
      split
      · exact follows_records_bind rfl rfl ⟨found.begun, rfl, rfl⟩
      · exact ⟨found, rfl, .inr hmark⟩

theorem close_follows (hrests : h.Rests) :
    (close s).Follows Hands.rules (fun _ h' => h.Tidy [] h' ∧ s ∈ h'.shut) h := by
  refine follows_takes_bind hrests.held fun found => ?_
  cases hstream : found.stream with
  | none =>
    refine follows_returns_bind rfl (.inl hstream) ?_
    simp only [hstream, Option.isNone_none, if_true]
    exact ⟨⟨⟨hrests.loose, rfl⟩, rfl, List.subset_cons_self .., fun _ => .inl⟩,
      List.mem_cons_self⟩
  | some c =>
    refine follows_parts_bind rfl hstream rfl hrests.loose ?_
    refine follows_returns_bind rfl (.inl rfl) (follows_log_bind ?_)
    refine follows_hangsUp_bind rfl fun r => ?_
    have hclosed : h.Tidy [] { h with loose := none, held := none, shut := s :: h.shut } :=
      ⟨⟨rfl, rfl⟩, rfl, List.subset_cons_self .., fun _ => .inl⟩
    cases r with
    | error e => exact ⟨hclosed, List.mem_cons_self⟩
    | ok => exact ⟨hclosed, List.mem_cons_self⟩

end Session

namespace Messenger

theorem callHeld_follows (hfree : h.loose = none) (m : Messenger) (method : RemoteMethod)
    (body : Bytes) (found : Session) :
    (m.callHeld method body found).Follows Hands.rules
      (fun _ h' => ∃ now, h' = { h with held := some (m.session, now) } ∧ now.Returnable)
      { h with held := some (m.session, found) } := by
  refine (Session.beginCall_follows hfree found).bind ?_
  rintro r _ ⟨now, rfl, hbegun⟩
  cases r with
  | error e => exact ⟨now, rfl, hbegun⟩
  | ok x =>
    subst hbegun
    refine follows_log_bind ((follows_talk (exchange_talks x.1 m _).talk).bind ?_)
    rintro r _ rfl
    cases r with
    | error e =>
      refine follows_log_bind ((Session.abort_follows hfree _).bind ?_)
      rintro _ _ rfl
      exact ⟨_, rfl, .inl rfl⟩
    | ok response =>
      refine follows_records_bind rfl rfl ?_
      refine (follows_talk (interpret_talks x.1 m method response).talk).mono ?_
      rintro _ _ rfl
      exact ⟨_, rfl, .inr rfl⟩

theorem call_cleans (m : Messenger) (method : RemoteMethod) (body : Bytes) :
    Cleans (m.call method body) :=
  Session.guarded_cleans fun _ hrests found => m.callHeld_follows hrests.loose method body found

end Messenger

theorem Service.call_cleans {Q : Type} [Protobuf.Message Q] (A : Type) [Protobuf.Message A]
    (m : Messenger) (method : RemoteMethod) (request : Q) :
    Cleans (Service.call A m method request) := by
  refine .bind (cleans_log ..) fun _ => .bind (m.call_cleans method _) fun r => ?_
  cases r <;> exact cleans_pure _

/-! ## Connecting -/

theorem Session.connect_tidies {probe : Session.Probe} (endpoint : Endpoint)
    (hprobe : ∀ s, Cleans (probe s)) : Tidies (Session.connect endpoint probe) (owed id) := by
  refine .bind (cleans_log ..) fun _ => ⟨fun {h} hrests => ?_⟩
  refine follows_ask_bind (fun r => ?_) fun r _ => ?_
  · cases r with
    | error e => exact .misses endpoint e
    | ok c => exact .opens endpoint c hrests.loose
  cases r with
  | error e => exact Tidy.refl hrests
  | ok c =>
    change Job.Follows _ _ _ { h with loose := some c }
    refine (follows_talk (Stream.sendHello_talks c).talk).bind ?_
    rintro r _ rfl
    cases r with
    | error e =>
      refine follows_hangsUp_bind rfl fun _ => ?_
      exact ⟨⟨rfl, hrests.held⟩, rfl, List.Subset.refl _, fun _ => .inl⟩
    | ok =>
      refine follows_ask_bind (fun s => .carries endpoint c s rfl) fun s _ => ?_
      change Job.Follows _ _ _ { h with loose := none, opened := s :: h.opened }
      have hopened : h.Tidy [s] { h with loose := none, opened := s :: h.opened } := by
        refine ⟨⟨rfl, hrests.held⟩, rfl, List.Subset.refl _, fun s' hs => ?_⟩
        rcases List.mem_cons.1 hs with rfl | hs
        · exact .inr (.inr List.mem_cons_self)
        · exact .inl hs
      refine ((hprobe s).follows hopened.rests).bind fun r h' ht => ?_
      have htried : h.Tidy [s] h' := hopened.trans ht
      cases r with
      | error source =>
        refine follows_log_bind ((close_follows htried.rests).bind ?_)
        rintro r h'' ⟨hclosed, hshut⟩
        have hpaid := htried.close hclosed hshut
        cases r with
        | error e => exact follows_log_bind hpaid
        | ok => exact hpaid
      | ok => exact follows_log_bind htried

namespace Host

theorem fetchStatus_cleans (m : Messenger) : Cleans (fetchStatus m) := by
  refine .bind (Service.call_cleans ..) fun r => ?_
  cases r with
  | error e => exact cleans_pure _
  | ok response =>
    dsimp only
    split <;> exact cleans_pure _

theorem connect_tidies (endpoint : Endpoint) (timeoutMillis : UInt32) :
    Tidies (connect endpoint timeoutMillis) (owed Host.session) := by
  have hprobe (s : SessionId) : Cleans (Session.pingProbe endpoint timeoutMillis s) :=
    .bind (Service.call_cleans ..) fun _ => cleans_pure _
  refine ⟨fun {h} hrests => ?_⟩
  refine ((Session.connect_tidies endpoint hprobe).follows hrests).bind fun r h' ht => ?_
  cases r with
  | error e => exact ht
  | ok s =>
    refine ((fetchStatus_cleans _).follows ht.rests).bind fun r h'' ht' => ?_
    have hfetched : h.Tidy [s] h'' := ht.trans ht'
    cases r with
    | error e =>
      refine (Session.close_follows hfetched.rests).bind ?_
      rintro r h₃ ⟨hclosed, hshut⟩
      have hpaid := hfetched.close hclosed hshut
      cases r with
      | error e => exact follows_log_bind hpaid
      | ok => exact hpaid
    | ok status => exact follows_log_bind hfetched

theorem close_follows (hrests : h.Rests) (host : Host) :
    host.close.Follows Hands.rules (fun _ h' => h.Tidy [] h' ∧ host.session ∈ h'.shut) h :=
  (Session.close_follows hrests).bind fun _ _ hclosed => hclosed

end Host

/-- A ping closes what it has connected to. -/
theorem PingRow.measure_cleans (timeoutMillis : UInt32) (endpoint : Endpoint) :
    Cleans (measure timeoutMillis endpoint) := by
  refine ⟨fun {h} hrests => ?_⟩
  refine ((Host.connect_tidies endpoint timeoutMillis).follows hrests).bind fun r h' ht => ?_
  cases r with
  | error e => exact follows_pass_bind (e := .log _) rfl fun _ => ht
  | ok host =>
    refine follows_pass_bind (e := .clock) rfl fun start => ?_
    refine ((Service.call_cleans PingResponse host.messenger _ _).follows ht.rests).bind ?_
    rintro result h'' ht'
    have hpinged : h.Tidy [host.session] h'' := ht.trans ht'
    refine follows_pass_bind (e := .clock) rfl fun stop => ?_
    refine (Host.close_follows hpinged.rests host).bind ?_
    rintro r h₃ ⟨hclosed, hshut⟩
    have hpaid := hpinged.close hclosed hshut
    cases r with
    | error e => exact follows_log_bind hpaid
    | ok => exact hpaid

/-! ## Clusters -/

namespace Cluster

theorem closeQuietly_follows (hrests : h.Rests) (host : Host) :
    (closeQuietly host).Follows Hands.rules
      (fun _ h' => h.Tidy [] h' ∧ host.session ∈ h'.shut) h := by
  refine (Host.close_follows hrests host).bind fun r h' hclosed => ?_
  cases r with
  | error e => exact follows_log hclosed
  | ok => exact hclosed

theorem leader_of_ofListing {timeoutMillis : UInt32} {leader : Host}
    {response : ListTabletServersResponse} {c : Cluster}
    (hc : ofListing timeoutMillis leader response = some (.ok c)) : c.leader = leader := by
  unfold ofListing at hc
  split at hc
  · split at hc <;> cases hc
  · cases hservers : response.servers.mapM TabletServer.ofEntry with
    | error e =>
      rw [hservers] at hc
      cases hc
    | ok servers =>
      rw [hservers] at hc
      cases hc
      rfl

/-- The session of the leader, if there is one. -/
def owedLeader : Except ClientError Cluster → List SessionId :=
  owed fun c => c.leader.session

def owedLeader? (o : Option (Except ClientError Cluster)) : List SessionId :=
  (o.map owedLeader).getD []

/-- A seed leaves nothing open but the session of the leader. -/
theorem trySeed_tidies (timeoutMillis : UInt32) (seed : Endpoint) :
    Tidies (trySeed timeoutMillis seed) owedLeader? := by
  refine ⟨fun {h} hrests => ?_⟩
  refine ((Host.connect_tidies seed timeoutMillis).follows hrests).bind fun r h' ht => ?_
  cases r with
  | error e => exact follows_log_bind ht
  | ok host =>
    refine ((Service.call_cleans ListTabletServersResponse host.messenger _ _).follows
      ht.rests).bind ?_
    rintro r h'' ht'
    have hlisted : h.Tidy [host.session] h'' := ht.trans ht'
    -- whatever is wrong with the master, it is closed
    have hclosing {rest : Unit → Job _}
        (hrest : ∀ {h₃ : Hands}, h.Tidy [] h₃ →
          (rest ()).Follows Hands.rules (fun o h' => h.Tidy (owedLeader? o) h') h₃) :
        (closeQuietly host >>= rest).Follows Hands.rules
          (fun o h' => h.Tidy (owedLeader? o) h') h'' := by
      refine (closeQuietly_follows hlisted.rests host).bind ?_
      rintro _ h₃ ⟨hclosed, hshut⟩
      exact hrest (hlisted.close hclosed hshut)
    cases r with
    | error e => exact hclosing fun hpaid => hpaid
    | ok response =>
      dsimp only
      split
      · exact hclosing fun hpaid => follows_log_bind hpaid
      · exact hclosing fun hpaid => hpaid
      · rename_i cluster hresult
        refine follows_log_bind ?_
        change h.Tidy [cluster.leader.session] h''
        rwa [leader_of_ofListing hresult]

theorem connect_tidies (timeoutMillis : UInt32) (seeds : List Endpoint) :
    Tidies (connect timeoutMillis seeds) owedLeader := by
  induction seeds with
  | nil => exact .weaken (cleans_pure _)
  | cons seed seeds ih =>
    refine ⟨fun hrests => ?_⟩
    refine ((trySeed_tidies timeoutMillis seed).follows hrests).bind fun o _ ht => ?_
    cases o with
    | some result => exact ht
    | none => exact (ih.follows ht.rests).mono fun _ _ ht' => ht.andThen ht'

theorem clusterConfig_cleans (c : Cluster) : Cleans c.clusterConfig := by
  refine .bind (Service.call_cleans ..) fun r => ?_
  cases r with
  | error e => exact cleans_pure _
  | ok response =>
    dsimp only
    split <;> exact cleans_pure _

theorem listMasters_cleans (c : Cluster) : Cleans c.listMasters := by
  refine .bind (Service.call_cleans ..) fun r => ?_
  cases r with
  | error e => exact cleans_pure _
  | ok response =>
    dsimp only
    split <;> exact cleans_pure _

theorem reachable_talks (outcomes : List (Except ClientError Host)) :
    (reachable outcomes).Asks (·.isTalk = true) := by
  induction outcomes with
  | nil => exact asks_pure _ _
  | cons outcome outcomes ih =>
    cases outcome with
    | ok host => exact ih.bind fun _ => asks_pure _ _
    | error e =>
      unfold reachable
      split
      · exact (ask_talk rfl).bind fun _ => ih
      · exact asks_pure _ _

/-! ## The pool -/

variable {i : SlotId}

/-- A host that is found defunct is known to have no connection. -/
theorem isDefunct_follows (hrests : h.Rests) (host : Host) :
    host.isDefunct.Follows Hands.rules
      (fun defunct h' => h.Tidy [] h' ∧ (defunct = true → host.session ∈ h'.shut)) h := by
  refine .ask (.asks host.session) fun defunct _ => ?_
  cases defunct with
  | false => exact ⟨Tidy.refl hrests, nofun⟩
  | true =>
    exact ⟨⟨⟨hrests.loose, hrests.held⟩, rfl, List.subset_cons_self .., fun _ => .inl⟩,
      fun _ => List.mem_cons_self⟩

/-- What a thread has connected to it still owes when it has put it into a slot. -/
theorem settle_follows {result : Except ClientError Host} {h' : Hands}
    (ht : h.Tidy (owed Host.session result) h') :
    (settle i result).Follows Hands.rules (fun r h'' => h.Tidy (owed Host.session r) h'') h' := by
  cases result with
  | error e => exact follows_pass_bind (e := .leave i) rfl fun _ => ht
  | ok host =>
    exact follows_pass_bind (e := .fill i host) rfl fun _ =>
      follows_pass_bind (e := .leave i) rfl fun _ => ht

theorem occupy_tidies (c : Cluster) (u : Uuid) (endpoint : Endpoint) (i : SlotId) :
    Tidies (c.occupy u endpoint i) (owed Host.session) := by
  refine .bind (cleans_ask (e := .slotHost i) rfl) fun found => ?_
  cases found with
  | some host => exact .weaken (cleans_pure _)
  | none =>
    refine .bind (cleans_ask (e := .enter i) rfl) fun _ => ?_
    refine .bind (cleans_ask (e := .slotHost i) rfl) fun found => ?_
    cases found with
    | some host => exact .weaken (.bind (cleans_ask (e := .leave i) rfl) fun _ => cleans_pure _)
    | none =>
      refine .bind (cleans_log ..) fun _ => ⟨fun hrests => ?_⟩
      exact ((Host.connect_tidies endpoint c.timeoutMillis).follows hrests).bind
        fun _ _ ht => settle_follows ht

/-- A lookup owes the host that it finds at most. -/
theorem host_tidies (c : Cluster) (u : Uuid) : Tidies (c.host u) (owed Host.session) := by
  unfold host
  split
  · exact .weaken (cleans_pure _)
  · refine .bind (cleans_ask (e := .slot u) rfl) fun i => ?_
    refine .bind (cleans_ask (e := .slotHost i) rfl) fun found => ?_
    cases found with
    | none => exact c.occupy_tidies u _ i
    | some pooled =>
      refine .bind ⟨fun hrests => (isDefunct_follows hrests pooled).mono fun _ _ ht => ht.1⟩
        fun defunct => ?_
      cases defunct with
      | false => exact .weaken (cleans_pure _)
      | true =>
        refine .bind (cleans_log ..) fun _ => .bind (cleans_ask (e := .evict u i) rfl) fun j => ?_
        refine .bind ⟨fun hrests => (closeQuietly_follows hrests pooled).mono fun _ _ ht => ht.1⟩
          fun _ => c.occupy_tidies u _ j

/-- Whether a host is closed or left alone, in the end it is known to have no connection. -/
theorem closeAll_follows (hosts : List Host) (hrests : h.Rests) :
    (closeAll hosts).Follows Hands.rules
      (fun _ h' => h.Tidy [] h' ∧ ∀ host ∈ hosts, host.session ∈ h'.shut) h := by
  induction hosts generalizing h with
  | nil =>
    refine ⟨Tidy.refl hrests, fun host hhost => ?_⟩
    cases hhost
  | cons host hosts ih =>
    -- the first host is shut, and then the others are closed
    have hrest {h₁ : Hands} (ht : h.Tidy [] h₁) (hshut : host.session ∈ h₁.shut) :
        (closeAll hosts).Follows Hands.rules
          (fun _ h' => h.Tidy [] h' ∧ ∀ host' ∈ host :: hosts, host'.session ∈ h'.shut) h₁ := by
      refine (ih ht.rests).mono fun _ h' ⟨ht', hshut'⟩ => ⟨ht.andThen ht', ?_⟩
      exact List.forall_mem_cons.2 ⟨ht'.shut hshut, hshut'⟩
    refine (isDefunct_follows hrests host).bind ?_
    rintro defunct h₁ ⟨ht, hshut⟩
    cases defunct with
    | true => exact follows_log_bind (hrest ht (hshut rfl))
    | false =>
      refine (Host.close_follows ht.rests host).bind ?_
      rintro r h₂ ⟨hclosed, hshut⟩
      cases r with
      | ok => exact hrest (ht.andThen hclosed) hshut
      | error e =>
        refine follows_log_bind ((hrest (ht.andThen hclosed) hshut).bind ?_)
        exact fun _ _ hclosed => hclosed

end Cluster
end ClusterProbe
