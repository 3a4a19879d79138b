import ClusterProbe.Program
import ClusterProbe.Proofs.Cluster.Isolation
import ClusterProbe.Proofs.Logged
import ClusterProbe.Proofs.Traversal

/-!
# Pings

A ping measures all servers at once, each in a thread of its own. A thread deals only with the
connection that it has opened itself, so what it tells of its server (`PingRow.Tells`) depends on
nothing that the others do or come to, also where two of them ping the same address. Nothing is
dialed before every argument has been read, and the rows of the report stand for the arguments one
by one (`Command.ping_reports`).
-/
namespace ClusterProbe

open Job Trade

variable {t : ThreadId} {w w' : World} {own : Belongings} {timeoutMillis : UInt32}
  {endpoint : Endpoint}

/-- Pings a host and takes the time in milliseconds. -/
def Host.timedPing (h : Host) : Job (Except SessionError Float) := do
  let start ← Job.ask .clock
  let result ← h.messenger.ping
  let stop ← Job.ask .clock
  return result.map fun _ => Float.ofNat (stop - start)

namespace PingRow

/-- What the host has reported at connect. -/
structure Shows (row : PingRow) (host : Host) : Prop where
  uuid : row.uuid = host.uuidText
  rpcAddresses : row.rpcAddresses = host.status.boundRpcAddresses.map HostPort.plainText
  version : row.version = host.status.versionText

/-- How it went for thread `t`, which begins in world `w` and has nothing to do with any other
thread, and what the row tells of it: the server could not be connected to, and there is nothing but
the error to show; or it could be, and the timed ping has failed or not. World `w'` is where all
threads have come to their ends, and what has happened by then begins with this. -/
inductive Outcome (timeoutMillis : UInt32) (t : ThreadId) (w w' : World) (endpoint : Endpoint)
    (row : PingRow) : Prop
  | unreached {e : ClientError} {own : Belongings} {w₁ : World}
      (connects : (Host.connect endpoint timeoutMillis).RunsApart t {} w (.error e) own w₁)
      (happened : w₁.past <+: w'.past)
      (error : row.error = some e.message) (rttMillis : row.rttMillis = none)
      (uuid : row.uuid = "") (rpcAddresses : row.rpcAddresses = []) (version : row.version = "")
  | unanswered {host : Host} {e : SessionError} {own own' : Belongings} {w₁ w₂ : World}
      (connects : (Host.connect endpoint timeoutMillis).RunsApart t {} w (.ok host) own w₁)
      (pings : host.timedPing.RunsApart t own w₁ (.error e) own' w₂)
      (happened : w₂.past <+: w'.past)
      (error : row.error = some e.message) (rttMillis : row.rttMillis = none)
      (shows : row.Shows host)
  | answered {host : Host} {millis : Float} {own own' : Belongings} {w₁ w₂ : World}
      (connects : (Host.connect endpoint timeoutMillis).RunsApart t {} w (.ok host) own w₁)
      (pings : host.timedPing.RunsApart t own w₁ (.ok millis) own' w₂)
      (happened : w₂.past <+: w'.past)
      (error : row.error = none) (rttMillis : row.rttMillis = some millis)
      (shows : row.Shows host)

/-- The row is about this address, and has either a round-trip time or an error, by how it went. -/
structure Tells (timeoutMillis : UInt32) (t : ThreadId) (w w' : World) (endpoint : Endpoint)
    (row : PingRow) : Prop where
  address : row.address = endpoint.text
  exclusive : row.rttMillis.isSome = row.error.isNone
  outcome : row.Outcome timeoutMillis t w w' endpoint

theorem measure_tells {row : PingRow} {w₀ : World}
    (h : (measure timeoutMillis endpoint).RunsApart t {} w row own w₀)
    (hsilent : w₀.Silent t w') : row.Tells timeoutMillis t w w' endpoint := by
  obtain ⟨connected, own₁, w₁, hconnect, h⟩ := (runsApart_bind _ _ _).1 h
  cases connected with
  | error e =>
    have hhappened : w₁.past <+: w'.past := h.past.trans hsilent.past
    obtain ⟨_, own₂, w₂, -, rfl, -⟩ := (runsApart_bind _ _ _).1 h
    exact ⟨rfl, rfl, .unreached hconnect hhappened rfl rfl rfl rfl rfl⟩
  | ok host =>
    obtain ⟨start, own₂, w₂, hstart, h⟩ := (runsApart_bind _ _ _).1 h
    obtain ⟨result, own₃, w₃, hping, h⟩ := (runsApart_bind _ _ _).1 h
    obtain ⟨stop, own₄, w₄, hstop, h⟩ := (runsApart_bind _ _ _).1 h
    have htimed : host.timedPing.RunsApart t own₁ w₁
        (result.map fun _ => Float.ofNat (stop - start)) own₄ w₄ :=
      (runsApart_bind _ _ _).2 ⟨start, own₂, w₂, hstart, (runsApart_bind _ _ _).2
        ⟨result, own₃, w₃, hping, (runsApart_bind _ _ _).2
          ⟨stop, own₄, w₄, hstop, rfl, rfl, .refl⟩⟩⟩
    have hhappened : w₄.past <+: w'.past := h.past.trans hsilent.past
    obtain ⟨closed, own₅, w₅, -, h⟩ := (runsApart_bind _ _ _).1 h
    -- the row is the same whether the host could be closed or not
    obtain rfl : row = ofHost host (result.map fun _ => Float.ofNat (stop - start)) := by
      cases closed with
      | error e =>
        obtain ⟨_, own₆, w₆, -, rfl, -⟩ := (runsApart_bind _ _ _).1 h
        rfl
      | ok =>
        obtain ⟨rfl, -⟩ := h
        rfl
    have haddress : host.endpoint.text = endpoint.text :=
      congrArg _ (hconnect.post (Host.connect_minds endpoint timeoutMillis) host rfl).1
    cases result with
    | error e =>
      exact ⟨haddress, rfl, .unanswered hconnect htimed hhappened rfl rfl ⟨rfl, rfl, rfl⟩⟩
    | ok response =>
      exact ⟨haddress, rfl, .answered hconnect htimed hhappened rfl rfl ⟨rfl, rfl, rfl⟩⟩

end PingRow

namespace PingReport

variable {endpoints : List Endpoint}

/-- The jobs of a ping. -/
def jobs (timeoutMillis : UInt32) (endpoints : List Endpoint) : List (Job PingRow) :=
  endpoints.map (PingRow.measure timeoutMillis)

theorem jobs_mind (timeoutMillis : UInt32) (endpoints : List Endpoint) :
    ∀ job ∈ jobs timeoutMillis endpoints, job.Follows Belongings.rules (fun _ _ => True) {} :=
  List.forall_mem_map.2 fun endpoint _ => PingRow.measure_minds timeoutMillis endpoint

theorem plan_performs {report : PingReport}
    (h : (plan timeoutMillis endpoints).Performs w report w') :
    report.servers.length = endpoints.length ∧
      ∀ i endpoint (row : PingRow), endpoints[i]? = some endpoint →
        report.servers[i]? = some row → row.Tells timeoutMillis i w w' endpoint := by
  obtain ⟨rows, w₁, htogether, rfl, rfl⟩ := (Plan.performs_all_bind _ _ _).1 h
  refine ⟨htogether.1.trans (List.length_map _), fun i endpoint row hendpoint hrow => ?_⟩
  have hjob : (jobs timeoutMillis endpoints)[i]? =
      some (PingRow.measure timeoutMillis endpoint) := by
    rw [jobs, List.getElem?_map, hendpoint]
    rfl
  obtain ⟨own, w₂, hruns, hsilent⟩ :=
    htogether.runsApart (jobs_mind timeoutMillis endpoints) hjob hrow
  exact PingRow.measure_tells hruns hsilent

theorem exists_performs (timeoutMillis : UInt32) (endpoints : List Endpoint) (w : World) :
    ∃ report w', (plan timeoutMillis endpoints).Performs w report w' := by
  obtain ⟨rows, w', htogether⟩ := World.exists_together (jobs_mind timeoutMillis endpoints) w
  exact ⟨⟨rows⟩, w', (Plan.performs_all_bind _ _ _).2 ⟨rows, w', htogether, rfl, rfl⟩⟩

end PingReport

namespace Task

variable {files : FileReader} {s : Settings} {hosts : List String} {endpoints : List Endpoint}

/-- The first argument that is no address is what a ping fails over. -/
theorem prepare_ping_eq_error {before after : List String} {host : String} {e : EndpointError}
    (hbefore : ∀ h ∈ before, ∃ x, Endpoint.parse h Endpoint.tabletServerPort = .ok x)
    (hhost : Endpoint.parse host Endpoint.tabletServerPort = .error e) :
    (prepare files s (.ping (before ++ host :: after))).result =
      (.error ⟨s!"invalid address {Text.quoted host}", [e.message]⟩, []) := by
  have haddresses : (before ++ host :: after).mapM address =
      .error ⟨s!"invalid address {Text.quoted host}", [e.message]⟩ := by
    refine mapM_eq_error.2 ⟨before, host, after, rfl, fun h hh => ?_, ?_⟩
    · obtain ⟨x, hx⟩ := hbefore h hh
      exact ⟨x, by rw [address, hx]; rfl⟩
    · rw [address, hhost]
      rfl
  simp only [prepare, haddresses]
  rfl

theorem prepare_ping {u : Universe} {dialer : Dialer} {events : List LogEvent}
    (hhosts : List.Forall₂
      (fun host x => Endpoint.parse host Endpoint.tabletServerPort = .ok x) hosts endpoints)
    (hu : s.toUniverse [] = .ok u) (hdialer : (u.dialer files).result = (.ok dialer, events)) :
    (prepare files s (.ping hosts)).result = (.ok ⟨.ping endpoints, u, dialer⟩, events) := by
  have haddresses : hosts.mapM address = .ok endpoints :=
    mapM_eq_ok.2 (hhosts.imp fun host x hx => by rw [address, hx]; rfl)
  simp only [prepare, haddresses, hu]
  exact Logged.result_bind_of_ok _ (Logged.result_mapFailure_of_ok Failure.ofClient hdialer)

end Task

namespace Command

/-- Going through with a command takes the world from `w` to where it comes to its end, with this
result. A command that cannot be prepared fails, with the world as it was. -/
inductive Performs (files : FileReader) (s : Settings) (command : Command) (w : World) :
    Except Failure Report → World → Prop
  | fails {failure : Failure} {events : List LogEvent}
      (prepared : (Task.prepare files s command).result = (.error failure, events)) :
      Performs files s command w (.error failure) w
  | goesThrough {task : Task} {events : List LogEvent} {r : Except Failure Report} {w' : World}
      (prepared : (Task.prepare files s command).result = (.ok task, events))
      (performs : task.plan.Performs w r w') : Performs files s command w r w'

variable {files : FileReader} {s : Settings} {command : Command} {r : Except Failure Report}

/-- What a command comes to when it is run is one of the things that it can come to. -/
theorem performs_of_run {events : List LogEvent} (h : command.run files s = (some r, events)) :
    ∃ w', command.Performs files s ⟨{ network := { refusal := Dialer.refusal } }, []⟩ r w' := by
  unfold run at h
  rcases hprepared : (Task.prepare files s command).result with ⟨failure | task, before⟩
  · rw [hprepared] at h
    cases h
    exact ⟨_, .fails hprepared⟩
  · rw [hprepared] at h
    have hresult : (task.plan.rehearse.run.run { network := { refusal := Dialer.refusal } }).1 =
        some r := congrArg Prod.fst h
    obtain ⟨past, hperforms⟩ := Plan.performs_of_rehearse (Prod.ext hresult rfl) []
    exact ⟨_, .goesThrough hprepared hperforms⟩

theorem performs_of_prepared {task : Task} {events : List LogEvent}
    (hprepared : (Task.prepare files s command).result = (.ok task, events)) :
    command.Performs files s w r w' ↔ task.plan.Performs w r w' := by
  constructor
  · intro h
    cases h with
    | fails prepared =>
      rw [hprepared] at prepared
      cases prepared
    | goesThrough prepared performs =>
      rw [hprepared] at prepared
      cases prepared
      exact performs
  · exact .goesThrough hprepared

theorem performs_of_failure {failure : Failure} {events : List LogEvent}
    (hprepared : (Task.prepare files s command).result = (.error failure, events)) :
    command.Performs files s w r w' ↔ r = .error failure ∧ w' = w := by
  constructor
  · intro h
    cases h with
    | fails prepared =>
      rw [hprepared] at prepared
      cases prepared
      exact ⟨rfl, rfl⟩
    | goesThrough prepared performs =>
      rw [hprepared] at prepared
      cases prepared
  · rintro ⟨rfl, rfl⟩
    exact .fails hprepared

/-- What comes of a ping of these endpoints in a network, whatever the servers do and in whatever
order they answer. -/
structure PingsEach (files : FileReader) (s : Settings) (hosts : List String)
    (timeoutMillis : UInt32) (endpoints : List Endpoint) (network : Network) : Prop where
  /-- It can come to a report. -/
  performed : ∃ report w',
    (ping hosts).Performs files s ⟨{ network }, []⟩ (.ok (.ping report)) w'
  /-- It comes to nothing else. There is one row for each argument, in order, and what a row tells
  has to do with no other one. -/
  reported : ∀ r w', (ping hosts).Performs files s ⟨{ network }, []⟩ r w' →
    ∃ report, r = .ok (.ping report) ∧ report.servers.length = hosts.length ∧
      ∀ i endpoint (row : PingRow), endpoints[i]? = some endpoint →
        report.servers[i]? = some row → row.Tells timeoutMillis i ⟨{ network }, []⟩ w' endpoint
  /-- However far the threads have come, each that is at work can go on to its own row without any
  other one taking another step. -/
  unhindered : ∀ (σ : (among (PingReport.jobs timeoutMillis endpoints)).Crew),
    Crew.Reaches ⟨⟨{ network }, []⟩, []⟩ σ →
    ∀ t a (job : Job PingRow), σ.workers[t]? = some (.mk a (.running job)) →
      ∃ row w', job.Runs t σ.world (some row) w'

theorem pingsEach {hosts : List String} {endpoints : List Endpoint} {u : Universe} {dialer : Dialer}
    {events : List LogEvent} (hlength : hosts.length = endpoints.length)
    (hprepared : (Task.prepare files s (ping hosts)).result =
      (.ok ⟨.ping endpoints, u, dialer⟩, events)) (network : Network) :
    PingsEach files s hosts u.rpcTimeoutMillis endpoints network where
  performed := by
    obtain ⟨report, w', h⟩ :=
      PingReport.exists_performs u.rpcTimeoutMillis endpoints ⟨{ network }, []⟩
    exact ⟨report, w', .goesThrough hprepared ((Plan.performs_bind _ _ _).2
      ⟨report, w', h, rfl, rfl⟩)⟩
  reported r w' h := by
    obtain ⟨report, w₁, hping, rfl, rfl⟩ :=
      (Plan.performs_bind _ _ _).1 ((performs_of_prepared hprepared).1 h)
    obtain ⟨hrows, htells⟩ := PingReport.plan_performs hping
    exact ⟨report, rfl, hrows.trans hlength.symm, htells⟩
  unhindered σ h t a job running := h.exists_run (fun a => PingReport.jobs_mind _ _ a.1 a.2) running

/-- **A ping tells of each server by itself.** If an argument is no address, the command fails and
names the first such one, and the world stays as it is. Otherwise, with a dialer at hand, the report
has one row for each argument, in order and also for those that are the same. Each row has either a
round-trip time or an error, an error where the server could not be connected to or the ping after
that has failed, and it shows nothing of a server that could not be connected to. Whatever one of
the servers does, the rows of the others are what they can be without it. A run of the command is
one of the ways in which it can go, so all of this holds of its report. -/
theorem ping_reports (files : FileReader) (s : Settings) (hosts : List String) :
    (∀ before host after e, hosts = before ++ host :: after →
      (∀ h ∈ before, ∃ x, Endpoint.parse h Endpoint.tabletServerPort = .ok x) →
      Endpoint.parse host Endpoint.tabletServerPort = .error e →
      let failure : Failure := ⟨s!"invalid address {Text.quoted host}", [e.message]⟩
      (ping hosts).run files s = (some (.error failure), []) ∧
        ∀ w r w', (ping hosts).Performs files s w r w' ↔ r = .error failure ∧ w' = w) ∧
    (∀ endpoints u dialer events,
      List.Forall₂ (fun host x => Endpoint.parse host Endpoint.tabletServerPort = .ok x)
        hosts endpoints →
      s.toUniverse [] = .ok u → (u.dialer files).result = (.ok dialer, events) →
      (∀ network, PingsEach files s hosts u.rpcTimeoutMillis endpoints network) ∧
        ∀ r logged, (ping hosts).run files s = (some r, logged) →
          ∃ report w', r = .ok (.ping report) ∧ report.servers.length = hosts.length ∧
            ∀ i endpoint (row : PingRow), endpoints[i]? = some endpoint →
              report.servers[i]? = some row → row.Tells u.rpcTimeoutMillis i
                ⟨{ network := { refusal := Dialer.refusal } }, []⟩ w' endpoint) := by
  refine ⟨?_, fun endpoints u dialer events hhosts hu hdialer => ?_⟩
  · rintro before host after e rfl hbefore hhost
    have hfails : (Task.prepare files s (ping (before ++ host :: after))).result =
        (.error ⟨s!"invalid address {Text.quoted host}", [e.message]⟩, []) :=
      Task.prepare_ping_eq_error hbefore hhost
    refine ⟨?_, fun w r w' => performs_of_failure hfails⟩
    unfold run
    rw [hfails]
  · have heach := pingsEach hhosts.length_eq (Task.prepare_ping hhosts hu hdialer)
    refine ⟨heach, fun r logged hrun => ?_⟩
    obtain ⟨w', hperforms⟩ := performs_of_run hrun
    obtain ⟨report, hr, hreports⟩ := (heach _).reported r w' hperforms
    exact ⟨report, w', hr, hreports⟩

/-- One server that answers whoever connects to it, and nobody else. -/
def pingedNetwork : Network :=
  let answer := fun callId bytes => Frame.segment 0 (ResponseFrame.success callId bytes).encode
  let status := Protobuf.Message.encode (GetStatusResponse.mk (some ⟨none, [], [], none⟩) none)
  Network.registerFarEnd ⟨"t1", 9100⟩
    (.script (answer 1 [] ++ answer 2 status ++ answer 3 []) false []) 65536 {}

def pingedEndpoints : List Endpoint :=
  [⟨"t1", 9100⟩, ⟨"t2", 9100⟩, ⟨"t1", 9100⟩]

/-- The server that answers is pinged twice, and one that does not is pinged in between. A fourth
argument that is no address would keep all of them from being dialed. Run where there are no
servers, the command comes to a report as well. -/
theorem ping_reports_sample :
    (ping ["t1", "t2", "t1:9100", "t3:x"]).run (MemoryFiles.read []) {} =
      (some (.error ⟨"invalid address \"t3:x\"", [(EndpointError.invalidPort "t3:x").message]⟩),
        []) ∧
    PingsEach (MemoryFiles.read []) {} ["t1", "t2", "t1:9100"] 3000 pingedEndpoints pingedNetwork ∧
    (∃ report w', (ping ["t1", "t2", "t1:9100"]).Performs (MemoryFiles.read []) {}
        ⟨{ network := pingedNetwork }, []⟩ (.ok (.ping report)) w' ∧
      Program.unpinged (.ping report) = some ⟨"1 of 3 servers could not be pinged", []⟩) ∧
    ∃ report, ((ping ["t1", "t2", "t1:9100"]).run (MemoryFiles.read []) {}).1 =
      some (.ok (.ping report)) ∧ report.servers.length = 3 := by
  have hread : List.Forall₂
      (fun host x => Endpoint.parse host Endpoint.tabletServerPort = .ok x)
      ["t1", "t2", "t1:9100"] pingedEndpoints :=
    .cons (by decide +kernel) (.cons (by decide +kernel) (.cons (by decide +kernel) .nil))
  have hbefore : ∀ h ∈ ["t1", "t2", "t1:9100"],
      ∃ x, Endpoint.parse h Endpoint.tabletServerPort = .ok x := fun h hh => by
    obtain ⟨i, hi, rfl⟩ := List.getElem_of_mem hh
    exact ⟨_, hread.get hi (hread.length_eq ▸ hi)⟩
  have hfailed := (ping_reports (MemoryFiles.read []) {} ["t1", "t2", "t1:9100", "t3:x"]).1
    _ "t3:x" [] (.invalidPort "t3:x") rfl hbefore (by decide +kernel)
  obtain ⟨heach, hran⟩ := (ping_reports (MemoryFiles.read []) {} _).2
    pingedEndpoints { masters := [] } {} [] hread rfl rfl
  have hpings := heach pingedNetwork
  have hprepared : (Task.prepare (MemoryFiles.read []) {} (ping ["t1", "t2", "t1:9100"])).result =
      (.ok ⟨.ping pingedEndpoints, { masters := [] }, {}⟩, []) :=
    Task.prepare_ping hread rfl rfl
  let played := (Task.plan ⟨.ping pingedEndpoints, { masters := [] }, {}⟩).rehearse.run.run
    { network := pingedNetwork }
  have hplay : played.1.any (fun r => r.toOption.any fun report => decide
      (Program.unpinged report = some ⟨"1 of 3 servers could not be pinged", []⟩)) = true := by
    decide +kernel
  obtain ⟨r, hresult, hplay⟩ := (Option.any_eq_true _ _).1 hplay
  obtain ⟨past, hperforms⟩ := Plan.performs_of_rehearse (Prod.ext hresult rfl) []
  have hcommand := Performs.goesThrough hprepared hperforms
  obtain ⟨report, rfl, -⟩ := hpings.reported _ _ hcommand
  have hended : ((ping ["t1", "t2", "t1:9100"]).run (MemoryFiles.read []) {}).1.isSome = true := by
    decide +kernel
  have hsample : ∃ report, ((ping ["t1", "t2", "t1:9100"]).run (MemoryFiles.read []) {}).1 =
      some (.ok (.ping report)) ∧ report.servers.length = 3 := by
    rcases hrun : (ping ["t1", "t2", "t1:9100"]).run (MemoryFiles.read []) {} with ⟨_ | r, logged⟩
    · rw [hrun] at hended
      cases hended
    · obtain ⟨report, -, rfl, hrows, -⟩ := hran r logged hrun
      exact ⟨report, rfl, hrows⟩
  exact ⟨hfailed.1, hpings, ⟨report, _, hcommand, of_decide_eq_true hplay⟩, hsample⟩

end Command
end ClusterProbe
