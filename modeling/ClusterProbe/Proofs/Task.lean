import ClusterProbe.Program.Task
import ClusterProbe.Proofs.Cluster.Upkeep

/-!
# What a task leaves behind

A task opens connections all over the place: to seeds that turn out not to be the leader, to servers
that fail a probe, to hosts whose sessions break in the middle of a call. Each command keeps the
books in its own way. A ping closes every host that it has connected to; a survey of a cluster
leaves sessions open, but only those of the leader and of pooled hosts
(`ClusterReport.plan_attends`, `FlagReport.plan_attends`), and closing the cluster deals with all of
them. So whatever the servers do, no connection is left when a task comes to its end
(`Task.leaves_nothing_open`).
-/
namespace ClusterProbe

open Job Cluster

variable {w w' : World} {base : Chronicle} {c : Cluster}

/-! ## Surveys of a cluster -/

namespace ClusterReport

theorem overview_attends
    {r : Except Failure (ClusterConfigEntry × List ServerEntry × List Host)}
    (h : c.Attends base w) (hempty : w.bed.PoolEmpty)
    (hrun : (overview c).Runs 0 w (some r) w') : c.Attends base w' := by
  obtain ⟨config, w₁, hconfig, hrun⟩ := (runs_bind_some _ _ _).1 hrun
  have haway := c.clusterConfig_keeps.unpooled
  have hconfigured := h.runs hconfig c.clusterConfig_cleans haway
  have hempty₁ := (World.poolsAlike_of_runs hconfig haway).poolEmpty hempty
  cases config with
  | error e =>
    obtain ⟨-, rfl⟩ := hrun
    exact hconfigured
  | ok config =>
    obtain ⟨masters, w₂, hmasters, hrun⟩ := (runs_bind_some _ _ _).1 hrun
    have haway := c.listMasters_keeps.unpooled
    have hlisted := hconfigured.runs hmasters c.listMasters_cleans haway
    have hempty₂ := (World.poolsAlike_of_runs hmasters haway).poolEmpty hempty₁
    cases masters with
    | error e =>
      obtain ⟨-, rfl⟩ := hrun
      exact hlisted
    | ok masters =>
      obtain ⟨hosts, w₃, hhosts, -, rfl⟩ := (runs_bind_some _ _ _).1 hrun
      exact hlisted.reachableHosts hempty₂.calm hhosts

/-- A survey leaves open what the cluster can close. -/
theorem plan_attends {r : Except Failure ClusterReport} (h : c.Attends base w)
    (hempty : w.bed.PoolEmpty) (hperforms : (plan c).Performs w r w') : c.Attends base w' := by
  obtain ⟨found, w₁, hoverview, hperforms⟩ := (Plan.performs_one_bind _ _ _).1 hperforms
  have hsurveyed := (overview_attends h hempty hoverview).retire 0
  cases found with
  | error e =>
    obtain ⟨-, rfl⟩ := hperforms
    exact hsurveyed
  | ok found =>
    obtain ⟨config, masters, hosts⟩ := found
    obtain ⟨statuses, w₂, hasked, -, rfl⟩ := (Plan.performs_all_bind _ _ _).1 hperforms
    exact hsurveyed.calls hasked

end ClusterReport

namespace FlagReport

theorem plan_attends {flag : String} {r : Except Failure FlagReport} (h : c.Attends base w)
    (hempty : w.bed.PoolEmpty) (hperforms : (plan c flag).Performs w r w') :
    c.Attends base w' := by
  obtain ⟨hosts, w₁, hhosts, hperforms⟩ := (Plan.performs_one_bind _ _ _).1 hperforms
  have hreached := (h.reachableHosts hempty.calm hhosts).retire 0
  cases hosts with
  | error e =>
    obtain ⟨-, rfl⟩ := hperforms
    exact hreached
  | ok hosts =>
    obtain ⟨answers, w₂, hasked, -, rfl⟩ := (Plan.performs_all_bind _ _ _).1 hperforms
    exact hreached.calls hasked

end FlagReport

namespace Task

variable {u : Universe} {survey : Cluster → Plan (Except Failure Report)}

/-- Whatever a survey comes to, the cluster is closed, as long as the survey leaves open only what
the cluster can close. -/
theorem surveyCluster_clear {r : Except Failure Report}
    (hsurvey : ∀ {c w r w'}, c.Attends base w → w.bed.PoolEmpty →
      (survey c).Performs w r w' → c.Attends base w')
    (h : w.Clear base) (hempty : w.bed.PoolEmpty)
    (hperforms : (surveyCluster u survey).Performs w r w') : w'.Clear base := by
  obtain ⟨connected, w₁, hconnect, hperforms⟩ := (Plan.performs_one_bind _ _ _).1 hperforms
  have hleft := connect_leaves h hconnect
  cases connected with
  | error e =>
    obtain ⟨-, rfl⟩ := hperforms
    exact hleft.retire 0
  | ok c =>
    have haway := (connect_keeps u.rpcTimeoutMillis u.masters).unpooled
    have hempty₁ := ((World.poolsAlike_of_runs hconnect haway).poolEmpty hempty).retire 0
    obtain ⟨_, w₂, hlog, hperforms⟩ := (Plan.performs_one_bind _ _ _).1 hperforms
    have hlogged := ((hleft.retire 0).runs hlog (Hands.cleans_ask rfl) (asks_ask rfl)).retire 0
    have hempty₂ := ((World.poolsAlike_of_runs hlog (asks_ask rfl)).poolEmpty hempty₁).retire 0
    obtain ⟨report, w₃, hsurveyed, hperforms⟩ := (Plan.performs_bind _ _ _).1 hperforms
    -- the cluster is closed whether the survey has failed or not
    obtain ⟨closed, w₄, hclose, hperforms⟩ := (Plan.performs_one_bind _ _ _).1 hperforms
    have hclosed := ((hsurvey hlogged hempty₂ hsurveyed).close hclose).retire 0
    cases closed with
    | ok =>
      obtain ⟨-, rfl⟩ := hperforms
      exact hclosed
    | error e =>
      obtain ⟨_, w₅, hlog, -, rfl⟩ := (Plan.performs_one_bind _ _ _).1 hperforms
      exact (hclosed.runs hlog (Hands.cleans_log ..)).retire 0

theorem plan_clear {t : Task} {r : Except Failure Report} (h : w.Clear base)
    (hempty : w.bed.PoolEmpty) (hperforms : t.plan.Performs w r w') : w'.Clear base := by
  obtain ⟨work, u, dialer⟩ := t
  cases work with
  | ping endpoints =>
    obtain ⟨report, w₁, hping, -, rfl⟩ := (Plan.performs_bind _ _ _).1 hperforms
    obtain ⟨rows, w₂, hmeasured, -, rfl⟩ := (Plan.performs_all_bind _ _ _).1 hping
    refine h.together hmeasured ?_
    exact List.forall_mem_map.2 fun endpoint _ => PingRow.measure_cleans u.rpcTimeoutMillis endpoint
  | clusterInfo =>
    refine surveyCluster_clear ?_ h hempty hperforms
    intro c w r w' h hempty hperforms
    obtain ⟨report, w₁, hplan, -, rfl⟩ := (Plan.performs_bind _ _ _).1 hperforms
    exact ClusterReport.plan_attends h hempty hplan
  | getFlag flag =>
    refine surveyCluster_clear ?_ h hempty hperforms
    intro c w r w' h hempty hperforms
    obtain ⟨report, w₁, hplan, -, rfl⟩ := (Plan.performs_bind _ _ _).1 hperforms
    exact FlagReport.plan_attends h hempty hplan

/-- **Commands leave no connection behind.** A task that starts in any network, of which nothing is
known yet, and comes to its end, with a report or a failure and whatever the servers do, has shut
down every connection that it has opened exactly once, and no other one. -/
theorem leaves_nothing_open {t : Task} {network : Network} {r : Except Failure Report}
    (h : t.plan.Performs ⟨{ network }, []⟩ r w') :
    w'.past.opened.Nodup ∧ w'.past.hungUp.Perm w'.past.opened := by
  obtain ⟨news, hnews, hbalanced⟩ :=
    (plan_clear (World.clear_start rfl) ⟨rfl, fun _ => rfl⟩ h).balanced
  rw [List.nil_append] at hnews
  rw [hnews]
  exact hbalanced

/-- The master of the sample lists one tablet server, which can be connected to but hangs up
then. -/
def sampleNetwork : Network :=
  let answer := fun callId bytes => Frame.segment 0 (ResponseFrame.success callId bytes).encode
  let status := Protobuf.Message.encode (GetStatusResponse.mk (some ⟨none, [], [], none⟩) none)
  let entry : TabletServerEntry :=
    { instanceId := some ⟨List.replicate 31 0x30 ++ [0x31], 0, none⟩
      registration := some ⟨some ⟨[⟨"t1", 9100⟩], [], none, none, []⟩⟩
      millisSinceHeartbeat := none
      alive := none }
  let listing := Protobuf.Message.encode (ListTabletServersResponse.mk none [entry])
  let leader : FarEnd := .script (answer 1 [] ++ answer 2 status ++ answer 3 listing) false []
  let tablet : FarEnd := .script (answer 1 [] ++ answer 2 status) true []
  (Network.registerFarEnd ⟨"m1", 7100⟩ leader 65536 {}).registerFarEnd ⟨"t1", 9100⟩ tablet 65536

def sample : Task :=
  ⟨.getFlag "f", { masters := [⟨"m1", 7100⟩] }, {}⟩

/-- Two connections are opened, one of them breaks during the last call, and both are shut down. -/
theorem leaves_nothing_open_sample : ∃ failure w',
    sample.plan.Performs ⟨{ network := sampleNetwork }, []⟩ (.error failure) w' ∧
      failure.text = "GetFlag failed on t1:9100" ∧ w'.bed.network.connections.length = 2 ∧
      w'.past.opened.Nodup ∧ w'.past.hungUp.Perm w'.past.opened := by
  let played := sample.plan.rehearse.run.run { network := sampleNetwork }
  have hplay : played.1.any (fun r => match r with
      | .error failure => decide (failure.text = "GetFlag failed on t1:9100" ∧
          played.2.network.connections.length = 2)
      | .ok _ => false) = true := by
    decide +kernel
  obtain ⟨r, hresult, hplay⟩ := (Option.any_eq_true _ _).1 hplay
  cases r with
  | ok report => cases hplay
  | error failure =>
    obtain ⟨htext, hlength⟩ := of_decide_eq_true hplay
    obtain ⟨past, hperforms⟩ := Plan.performs_of_rehearse (Prod.ext hresult rfl) []
    exact ⟨failure, _, hperforms, htext, hlength, leaves_nothing_open hperforms⟩

end Task
end ClusterProbe
