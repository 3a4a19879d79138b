import Mathlib.Data.List.Find
import Mathlib.Data.List.Forall2
import Mathlib.Data.List.Nodup
import ClusterProbe.Proofs.Cluster.Connecting
import ClusterProbe.Proofs.Cluster.SingleFlight
import ClusterProbe.Proofs.Plan
import ClusterProbe.Proofs.Results
import ClusterProbe.Survey

/-!
# Whose answer a row shows

On the way to the report of a cluster every tablet server of the listing is looked up, and those
that were reached are asked for their status (`ClusterReport.Course`). The report has one row for
each entry of the listing, in order, and the row shows the last answer of a host that reported the
UUID of the entry when it was connected to. That is the host that was resolved for the entry as long
as all servers report the UUIDs that they are listed with; one that reports none, or that of
another server, is shown as unreachable although it has answered.
-/
namespace ClusterProbe

open Job

variable {t : ThreadId} {w w' : World} {c : Cluster}

namespace Cluster

/-- A thread looks up these servers one after the other, with these outcomes. -/
def Lookups (c : Cluster) (t : ThreadId) :
    List (TabletServer × Except ClientError Host) → World → World → Prop
  | [] => fun w w' => w' = w
  | (server, r) :: rest => fun w w' =>
      ∃ w₁, (c.host server.uuid).Runs t w (some r) w₁ ∧ Lookups c t rest w₁ w'

theorem lookups_of_mapM {servers : List TabletServer} {outcomes : List (Except ClientError Host)}
    (h : (servers.mapM fun server => c.host server.uuid).Runs t w (some outcomes) w') :
    outcomes.length = servers.length ∧ c.Lookups t (servers.zip outcomes) w w' := by
  induction servers generalizing w outcomes with
  | nil =>
    obtain ⟨houtcomes, rfl⟩ := h
    cases houtcomes
    exact ⟨rfl, rfl⟩
  | cons server servers ih =>
    rw [List.mapM_cons] at h
    obtain ⟨r, w₁, hhost, h⟩ := (runs_bind_some _ _ _).1 h
    obtain ⟨rest, w₂, hrest, houtcomes, rfl⟩ := (runs_bind_some _ _ _).1 h
    cases houtcomes
    obtain ⟨hlength, hlookups⟩ := ih hrest
    exact ⟨congrArg Nat.succ hlength, w₁, hhost, hlookups⟩

/-- Only servers that could not be dialed are left out, and nothing happens but a report of each. -/
theorem reachable_runs {outcomes : List (Except ClientError Host)} {r : Except Failure (List Host)}
    (h : (reachable outcomes).Runs t w (some r) w') :
    w.Passes 0 0 {} w' ∧ ∀ hosts, r = .ok hosts →
      hosts = outcomes.filterMap Except.toOption ∧
        ∀ e, .error e ∈ outcomes → e.isDial = true := by
  induction outcomes generalizing w r with
  | nil =>
    obtain ⟨hr, rfl⟩ := h
    cases hr
    refine ⟨.refl w', fun hosts hhosts => ?_⟩
    cases hhosts
    exact ⟨rfl, nofun⟩
  | cons outcome outcomes ih =>
    cases outcome with
    | ok host =>
      obtain ⟨r', w₁, hrest, hr, rfl⟩ := (runs_bind_some _ _ _).1 h
      cases hr
      obtain ⟨hpasses, hok⟩ := ih hrest
      refine ⟨hpasses, fun hosts hhosts => ?_⟩
      cases r' with
      | error e => cases hhosts
      | ok rest =>
        cases hhosts
        obtain ⟨rfl, hdial⟩ := hok rest rfl
        refine ⟨rfl, fun e he => hdial e ?_⟩
        cases he with
        | tail _ he => exact he
    | error e =>
      unfold reachable at h
      split at h
      · rename_i hdial
        obtain ⟨_, w₁, hlog, hrest⟩ := Runs.plain_bind_some (e := .log _) h rfl 0 0
        obtain ⟨hpasses, hok⟩ := ih hrest
        refine ⟨hlog.trans hpasses, fun hosts hhosts => ?_⟩
        obtain ⟨rfl, hdials⟩ := hok hosts hhosts
        refine ⟨rfl, fun e' he' => ?_⟩
        cases he' with
        | head => exact hdial
        | tail _ he' => exact hdials e' he'
      · obtain ⟨hr, rfl⟩ := h
        cases hr
        refine ⟨.refl w', fun hosts hhosts => ?_⟩
        cases hhosts

end Cluster

namespace ClusterReport

/-! ## The course of a survey -/

/-- An entry of the listing with what came of it: the host that was resolved for it and what that
host answered, or nothing if there was nobody to dial. -/
structure Visit where
  server : TabletServer
  reached : Option (Host × Except SessionError GetStatusResponse)

namespace Visit

/-- This outcome of the lookup goes with what came of the entry. -/
def Finds (v : Visit) (r : Except ClientError Host) : Prop :=
  match v.reached with
  | some (host, _) => r = .ok host
  | none => ∃ e, r = .error e ∧ e.isDial = true

/-- The entry, its host and the answer, if it was reached. -/
def asked? (v : Visit) : Option (TabletServer × Host × Except SessionError GetStatusResponse) :=
  v.reached.map fun x => (v.server, x)

end Visit

/-- All answers, in the order of the listing. -/
def asked (visits : List Visit) :
    List (TabletServer × Host × Except SessionError GetStatusResponse) :=
  visits.filterMap Visit.asked?

/-- What happens on the way to a report: the leader tells of the cluster, each tablet server is
looked up, and those that were reached are asked for their status all at once. -/
structure Course (c : Cluster) (w : World) (visits : List Visit) (w' : World) : Prop where
  servers : visits.map Visit.server = c.tabletServers
  goes : ∃ config masters w₁ w₂ outcomes w₃ w₄,
    c.clusterConfig.Runs 0 w (some (.ok config)) w₁ ∧
    c.listMasters.Runs 0 w₁ (some (.ok masters)) w₂ ∧
    List.Forall₂ Visit.Finds visits outcomes ∧
    c.Lookups 0 (c.tabletServers.zip outcomes) w₂ w₃ ∧ w₃.Books [] [] [] w₄ ∧
    World.Together ((asked visits).map fun x => x.2.1.messenger.getStatus) (w₄.retire 0)
      ((asked visits).map fun x => x.2.2) w'

/-- Outcomes of lookups and the answers of the hosts among them, put together. -/
theorem exists_visits {servers : List TabletServer} {outcomes : List (Except ClientError Host)}
    {statuses : List (Except SessionError GetStatusResponse)}
    (hlength : outcomes.length = servers.length)
    (hdial : ∀ e, .error e ∈ outcomes → e.isDial = true)
    (hanswered : statuses.length = (outcomes.filterMap Except.toOption).length) :
    ∃ visits : List Visit, visits.map Visit.server = servers ∧
      List.Forall₂ Visit.Finds visits outcomes ∧
      (asked visits).map (fun x => x.2.1) = outcomes.filterMap Except.toOption ∧
      (asked visits).map (fun x => x.2.2) = statuses := by
  induction outcomes generalizing servers statuses with
  | nil =>
    obtain rfl := List.length_eq_zero_iff.1 hlength.symm
    obtain rfl := List.length_eq_zero_iff.1 hanswered
    exact ⟨[], rfl, .nil, rfl, rfl⟩
  | cons outcome outcomes ih =>
    cases servers with
    | nil => cases hlength
    | cons server servers =>
      have hdials : ∀ e, .error e ∈ outcomes → e.isDial = true :=
        fun e he => hdial e (List.mem_cons_of_mem _ he)
      cases outcome with
      | error e =>
        obtain ⟨visits, rfl, hfinds, hhosts, hstatuses⟩ :=
          ih (Nat.succ.inj hlength) hdials hanswered
        exact ⟨⟨server, none⟩ :: visits, rfl, .cons ⟨e, rfl, hdial e List.mem_cons_self⟩ hfinds,
          hhosts, hstatuses⟩
      | ok host =>
        cases statuses with
        | nil => cases hanswered
        | cons status statuses =>
          obtain ⟨visits, rfl, hfinds, hhosts, hstatuses⟩ :=
            ih (Nat.succ.inj hlength) hdials (Nat.succ.inj hanswered)
          exact ⟨⟨server, some (host, status)⟩ :: visits, rfl, .cons rfl hfinds,
            congrArg (host :: ·) hhosts, congrArg (status :: ·) hstatuses⟩

section

variable {config : ClusterConfigEntry} {masters : List ServerEntry} {hosts : List Host}
  {statuses : List (Except SessionError GetStatusResponse)} {w₁ : World}
  (h : (overview c).Runs 0 w (some (.ok (config, masters, hosts))) w₁)
  (hasked : World.Together (hosts.map fun host => host.messenger.getStatus) (w₁.retire 0) statuses
    w')
include h hasked

theorem performs_of_overview : (plan c).Performs w
    (.ok (assemble c config masters (versions hosts statuses))) w' := by
  refine (Plan.performs_bind _ _ _).2 ⟨_, _, (Plan.performs_one _ _).2 ⟨w₁, h, rfl⟩, ?_⟩
  exact (Plan.performs_bind _ _ _).2 ⟨_, _, (Plan.performs_all _ _).2 hasked, rfl, rfl⟩

theorem course_of_overview :
    ∃ visits, Course c w visits w' ∧ hosts = (asked visits).map (fun x => x.2.1) ∧
      statuses = (asked visits).map fun x => x.2.2 := by
  obtain ⟨config', w₂, hconfig, h⟩ := (runs_bind_some _ _ _).1 h
  cases config' with
  | error e => cases h.1
  | ok config =>
    obtain ⟨masters', w₃, hmasters, h⟩ := (runs_bind_some _ _ _).1 h
    cases masters' with
    | error e => cases h.1
    | ok masters =>
      obtain ⟨hosts', w₄, hhosts, hresult, rfl⟩ := (runs_bind_some _ _ _).1 h
      cases hosts' with
      | error e => cases hresult
      | ok hosts' =>
        cases hresult
        obtain ⟨outcomes, w₅, hlookups, hreachable⟩ := (runs_bind_some _ _ _).1 hhosts
        obtain ⟨hlength, hlookups⟩ := Cluster.lookups_of_mapM hlookups
        obtain ⟨hpasses, hok⟩ := Cluster.reachable_runs hreachable
        obtain ⟨rfl, hdial⟩ := hok hosts rfl
        have hanswered := hasked.1.trans (List.length_map _)
        obtain ⟨visits, hservers, hfinds, hhosts, hstatuses⟩ :=
          exists_visits hlength hdial hanswered
        rw [← hhosts, ← hstatuses, List.map_map] at hasked
        exact ⟨visits, ⟨hservers, config, masters, w₂, w₃, outcomes, w₅, w₁, hconfig, hmasters,
          hfinds, hlookups, hpasses.spans.books, hasked⟩, hhosts.symm, hstatuses.symm⟩

end

/-- A report comes of a course, and is put together from the answers given in it. -/
theorem course_of_performs {report : ClusterReport} (h : (plan c).Performs w (.ok report) w') :
    ∃ config masters visits, Course c w visits w' ∧ report = assemble c config masters
      (versions ((asked visits).map fun x => x.2.1) ((asked visits).map fun x => x.2.2)) := by
  obtain ⟨r, w₁, hone, h⟩ := (Plan.performs_bind _ _ _).1 h
  obtain ⟨w₂, hoverview, rfl⟩ := (Plan.performs_one _ _).1 hone
  cases r with
  | error e => cases h.1
  | ok found =>
    obtain ⟨config, masters, hosts⟩ := found
    obtain ⟨statuses, w₃, hall, hreport, rfl⟩ := (Plan.performs_bind _ _ _).1 h
    cases hreport
    obtain ⟨visits, hcourse, rfl, rfl⟩ :=
      course_of_overview hoverview ((Plan.performs_all _ _).1 hall)
    exact ⟨config, masters, visits, hcourse, rfl⟩

/-! ## Rows -/

/-- The last answer of a host that reported this UUID when it was connected to. -/
def answerReported (visits : List Visit) (uuid : Uuid) : Option (Except String String) :=
  ((asked visits).reverse.find? fun x => x.2.1.uuid.toOption = some uuid).map fun x =>
    versionOf x.2.2

/-- The last answer of a host that was resolved for an entry with this UUID. -/
def answerResolved (visits : List Visit) (uuid : Uuid) : Option (Except String String) :=
  ((asked visits).reverse.find? fun x => x.1.uuid = uuid).map fun x => versionOf x.2.2

/-- The last two columns of a row. -/
def verdict : Option (Except String String) → String × Option String
  | some (.ok version) => (version, none)
  | some (.error e) => ("", some e)
  | none => ("", some "unreachable")

/-- The row is that of an entry of the listing, and shows this answer. -/
structure Shows (server : TabletServer) (answer : Option (Except String String))
    (row : TabletServerRow) : Prop where
  uuid : row.uuid = server.uuid.plainText
  rpcAddress : row.rpcAddress = (server.rpcEndpoint?.map Endpoint.text).getD ""
  alive : row.alive = server.entry.alive.getD false
  heartbeat : row.millisSinceHeartbeat = server.entry.millisSinceHeartbeat.getD 0
  verdict : (row.version, row.error) = verdict answer

theorem lookup_filterMap {α β κ : Type} [DecidableEq κ] (key : α → Option κ) (val : α → β) (k : κ)
    (l : List α) : List.lookup k (l.filterMap fun x => (key x).map fun k => (k, val x)) =
      (l.find? fun x => key x = some k).map val := by
  induction l with
  | nil => rfl
  | cons x l ih =>
    cases hkey : key x with
    | none => simp [hkey, ih]
    | some k' =>
      by_cases heq : k' = k
      · simp [hkey, heq]
      · have hne : (k == k') = false := beq_false_of_ne (Ne.symm heq)
        simp [hkey, heq, List.lookup_cons, hne, ih]

theorem find?_versions (visits : List Visit) (uuid : Uuid) :
    (versions ((asked visits).map fun x => x.2.1) ((asked visits).map fun x => x.2.2)).find? uuid =
      answerReported visits uuid := by
  unfold versions Versions.find? answerReported
  rw [← List.filterMap_reverse, List.zip_map', ← List.map_reverse, List.filterMap_map]
  exact lookup_filterMap
    (fun x : TabletServer × Host × Except SessionError GetStatusResponse => x.2.1.uuid.toOption)
    (fun x => versionOf x.2.2) uuid _

theorem row_shows (answers : Versions) (server : TabletServer) :
    Shows server (answers.find? server.uuid) (row answers server) where
  uuid := rfl
  rpcAddress := rfl
  alive := rfl
  heartbeat := rfl
  verdict := by
    unfold row
    dsimp only
    cases answers.find? server.uuid with
    | none => rfl
    | some answer => cases answer <;> rfl

/-- Every host that was resolved reported the UUID that it was looked up by. -/
def Faithful (visits : List Visit) : Prop :=
  ∀ v ∈ visits, ∀ host status, v.reached = some (host, status) → host.uuid = .ok v.server.uuid

theorem answerReported_eq {visits : List Visit} (h : Faithful visits) (uuid : Uuid) :
    answerReported visits uuid = answerResolved visits uuid := by
  unfold answerReported answerResolved
  refine congrArg _ (List.find?_congr fun x hx => ?_)
  obtain ⟨v, hv, hasked⟩ := List.mem_filterMap.1 (List.mem_reverse.1 hx)
  obtain ⟨⟨host, status⟩, hreached, rfl⟩ := Option.map_eq_some_iff.1 hasked
  simp [h v hv host status hreached, Except.toOption]

/-- When all entries have different UUIDs, each has its own answer. -/
theorem answerResolved_eq {visits : List Visit}
    (h : (visits.map fun v => v.server.uuid).Nodup) {v : Visit} (hv : v ∈ visits) :
    answerResolved visits v.server.uuid = v.reached.map fun x => versionOf x.2 := by
  have hown {x} (hx : x ∈ asked visits) (huuid : x.1.uuid = v.server.uuid) :
      v.asked? = some x := by
    obtain ⟨v', hv', hasked⟩ := List.mem_filterMap.1 hx
    obtain ⟨reached, hreached, rfl⟩ := Option.map_eq_some_iff.1 hasked
    obtain rfl := List.inj_on_of_nodup_map h hv' hv huuid
    exact hasked
  unfold answerResolved
  cases hfound : (asked visits).reverse.find? fun x => x.1.uuid = v.server.uuid with
  | some x =>
    have huuid := List.find?_some hfound
    have hx := hown (List.mem_reverse.1 (List.mem_of_find?_eq_some hfound))
      (of_decide_eq_true huuid)
    obtain ⟨reached, hreached, rfl⟩ := Option.map_eq_some_iff.1 hx
    rw [hreached]
    rfl
  | none =>
    cases hreached : v.reached with
    | none => rfl
    | some reached =>
      have hmem : (v.server, reached) ∈ asked visits :=
        List.mem_filterMap.2 ⟨v, hv, by rw [Visit.asked?, hreached]; rfl⟩
      exact absurd (decide_eq_true rfl) (List.find?_eq_none.1 hfound _ (List.mem_reverse.2 hmem))

theorem forall₂_rows {visits : List Visit} {servers : List TabletServer} {answers : Versions}
    {shown : Visit → Option (Except String String)} (hservers : visits.map Visit.server = servers)
    (h : ∀ v ∈ visits, answers.find? v.server.uuid = shown v) :
    List.Forall₂ (fun v row => Shows v.server (shown v) row) visits
      (servers.map (row answers)) := by
  subst hservers
  rw [List.map_map, List.forall₂_map_right_iff, List.forall₂_same]
  intro v hv
  rw [← h v hv]
  exact row_shows answers v.server

/-- **Whose answer a row shows.** A report has one row for each entry of the listing, in order,
which shows the last answer of a host that reported the UUID of the entry; without one it says
unreachable. If each host reported the UUID that it was resolved by, that is the last answer of a
host resolved for the entry, and if the UUIDs of the entries are all different, the answer of the
very host that was resolved for this one: exactly those that could not be dialed are unreachable. -/
theorem rows_show_answers {report : ClusterReport} (h : (plan c).Performs w (.ok report) w') :
    ∃ visits, Course c w visits w' ∧
      List.Forall₂ (fun v row => Shows v.server (answerReported visits v.server.uuid) row) visits
        report.tabletServers ∧
      (Faithful visits →
        List.Forall₂ (fun v row => Shows v.server (answerResolved visits v.server.uuid) row) visits
          report.tabletServers ∧
        ((c.tabletServers.map TabletServer.uuid).Nodup →
          List.Forall₂ (fun v row => Shows v.server (v.reached.map fun x => versionOf x.2) row)
            visits report.tabletServers)) := by
  obtain ⟨config, masters, visits, hcourse, rfl⟩ := course_of_performs h
  refine ⟨visits, hcourse, ?_, fun hfaithful => ⟨?_, fun hnodup => ?_⟩⟩
  · exact forall₂_rows hcourse.servers fun v _ => find?_versions visits v.server.uuid
  · refine forall₂_rows hcourse.servers fun v _ => ?_
    exact (find?_versions visits v.server.uuid).trans (answerReported_eq hfaithful _)
  · rw [← hcourse.servers, List.map_map] at hnodup
    refine forall₂_rows hcourse.servers fun v hv => ?_
    exact (find?_versions visits v.server.uuid).trans
      ((answerReported_eq hfaithful _).trans (answerResolved_eq hnodup hv))

/-- Of the sample the leader is connected to and will answer two calls, and its tablet server, which
can be dialed, will answer three and reports this UUID. -/
def sampleBed (raw : Option Bytes) : Testbed :=
  let answer := fun callId bytes => Frame.segment 0 (ResponseFrame.success callId bytes).encode
  let status : ServerStatus := ⟨raw.map fun raw => ⟨raw, 0, none⟩, [], [], none⟩
  let reported := Protobuf.Message.encode (GetStatusResponse.mk (some status) none)
  let leader : Connection :=
    { endpoint := ⟨"m1", 7100⟩, registration := 0, farEnd := .script [] false []
      toServer := {}, toClient := { buffer := answer 1 [] ++ answer 2 [] } }
  let tablet : FarEnd := .script (answer 1 [] ++ answer 2 reported ++ answer 3 reported) false []
  { network := Network.registerFarEnd ⟨"t1", 9100⟩ tablet 65536 { connections := [leader] }
    sessions := [⟨{ endpoint := ⟨"m1", 7100⟩, stream := some 0 }, []⟩] }

theorem rows_show_answers_sample : ∃ report w' visits,
    (plan Scene.sample).Performs ⟨sampleBed (some (List.replicate 31 0x30 ++ [0x31])), []⟩
      (.ok report) w' ∧
    report.tabletServers.map (fun row => (row.version, row.error)) = [("unknown", none)] ∧
    List.Forall₂ (fun v row => Shows v.server (answerReported visits v.server.uuid) row) visits
      report.tabletServers := by
  let bed := sampleBed (some (List.replicate 31 0x30 ++ [0x31]))
  have hplay : ((plan Scene.sample).rehearse.run.run bed).1.any (fun r =>
      r.toOption.any fun report =>
        decide (report.tabletServers.map (fun row => (row.version, row.error)) =
          [("unknown", none)])) = true := by
    decide +kernel
  obtain ⟨r, hresult, hplay⟩ := (Option.any_eq_true _ _).1 hplay
  obtain ⟨report, hreport, hrows⟩ := (Option.any_eq_true _ _).1 hplay
  obtain rfl := toOption_eq_some.1 hreport
  obtain ⟨past, hperforms⟩ := Plan.performs_of_rehearse (Prod.ext hresult rfl) []
  obtain ⟨visits, -, hshows, -⟩ := rows_show_answers hperforms
  exact ⟨report, _, visits, hperforms, of_decide_eq_true hrows, hshows⟩

/-- **A server that has answered is shown as unreachable.** The only tablet server is dialed and
tells its version when it is asked, but it reports no UUID; its row says that it is unreachable. -/
theorem answer_not_shown : ∃ report w' v host status,
    (plan Scene.sample).Performs ⟨sampleBed none, []⟩ (.ok report) w' ∧
    Course Scene.sample ⟨sampleBed none, []⟩ [v] w' ∧
    v.reached = some (host, status) ∧ versionOf status = .ok "unknown" ∧
    report.tabletServers.map (fun row => (row.version, row.error)) =
      [("", some "unreachable")] := by
  let first := (Rehearsal.runOne (overview Scene.sample)).run.run (sampleBed none)
  have hplay : first.1.any (fun r => r.toOption.any fun found =>
      let asked := Rehearsal.runAll (found.2.2.map fun host => host.messenger.getStatus)
      (asked.run.run first.2).1.any fun statuses =>
        decide (statuses.map versionOf = [.ok "unknown"] ∧
          ((assemble Scene.sample found.1 found.2.1 (versions found.2.2 statuses)).tabletServers.map
            fun row => (row.version, row.error)) = [("", some "unreachable")])) = true := by
    decide +kernel
  obtain ⟨r, hfound, hplay₁⟩ := (Option.any_eq_true _ _).1 hplay
  obtain ⟨⟨config, masters, hosts⟩, hok, hplay₂⟩ := (Option.any_eq_true _ _).1 hplay₁
  obtain rfl := toOption_eq_some.1 hok
  obtain ⟨statuses, hasked, hplay₃⟩ := (Option.any_eq_true _ _).1 hplay₂
  obtain ⟨hversions, hrows⟩ := of_decide_eq_true hplay₃
  obtain ⟨w₁, hoverview, hbed⟩ := Rehearsal.runs_of_runOne (Prod.ext hfound rfl) []
  obtain ⟨past, htogether⟩ := Rehearsal.together_of_runAll (Prod.ext hasked rfl) w₁.past
  rw [show first.2 = w₁.bed.onNetwork (Network.keepAll 0) from hbed] at htogether
  obtain ⟨visits, hcourse, rfl, rfl⟩ := course_of_overview hoverview htogether
  have hperforms := performs_of_overview hoverview htogether
  obtain ⟨v, rfl⟩ : ∃ v, visits = [v] := by
    have hlength := congrArg List.length hcourse.servers
    rw [List.length_map] at hlength
    exact List.length_eq_one_iff.1 hlength
  rw [asked, List.filterMap_cons, List.filterMap_nil] at hversions
  cases hreached : v.reached with
  | none =>
    rw [Visit.asked?, hreached] at hversions
    cases hversions
  | some reached =>
    rw [Visit.asked?, hreached] at hversions
    exact ⟨_, _, v, reached.1, reached.2, hperforms, hcourse, hreached,
      (List.cons.inj hversions).1, hrows⟩

end ClusterReport
end ClusterProbe
