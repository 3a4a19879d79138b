import ClusterProbe.Cluster
import ClusterProbe.Proofs.Session.Closing

/-!
# Closing a cluster

Whoever closes a cluster deals with its hosts one after the other, the leader first, while others
may still be at work on the same sessions. A host that can carry no more calls is left alone, and
every other one is shut down; one failure does not keep the others from being closed. So no host
that was dealt with has a connection any more, except for those that were left alone with a call
given up on them.
-/
namespace ClusterProbe

open Job Trade Shared

/-- What the end of shutting down a connection means to who closes the session. -/
def Session.parted : Except IoError Unit → Except SessionError Unit
  | .ok () => .ok ()
  | .error e => if e.kind = .notConnected then .ok () else .error (.io e)

namespace Cluster

variable {t : ThreadId} {s : SessionId} {w w' : World}

/-- What threads are sent to do: to close a cluster, or to use one of the sessions. -/
inductive Errand where
  | close (cluster : Cluster)
  | use (s : SessionId) (a : Session.Operation)

namespace Errand

@[reducible] def Result : Errand → Type
  | close _ => Except ClientError Unit
  | use _ a => a.Result

def job : (x : Errand) → Job x.Result
  | close cluster => cluster.close
  | use s a => a.job s

end Errand

abbrev errands : Trade where
  Task := Errand
  Result := Errand.Result
  job := Errand.job

/-- What closing a cluster comes to for one host. -/
inductive Fate where
  /-- It could carry no more calls and was left alone. -/
  | spared
  | shut (result : Except ClientError Unit)

/-- Why the host could not be shut down well. -/
def Fate.failure? : Fate → Option ClientError
  | shut (.error e) => some e
  | _ => none

/-- The first failure is the result. -/
def verdict (fates : List (Host × Fate)) : Except ClientError Unit :=
  match fates.findSome? fun x => x.2.failure? with
  | some e => .error e
  | none => .ok ()

/-- How far a thread has come; who closes a cluster has some hosts behind and some before it. -/
inductive Station where
  | fresh
  | busy (s : SessionId) (stage : Session.Stage)
  | facing (dealt : List (Host × Fate)) (rest : List Host)
  /-- The host can carry calls and is to be shut down. -/
  | opening (dealt : List (Host × Fate)) (h : Host) (rest : List Host)
  | holding (dealt : List (Host × Fate)) (h : Host) (rest : List Host) (found now : Session)
  /-- The session is given back, and its connection is still to be shut down. -/
  | parting (dealt : List (Host × Fate)) (h : Host) (rest : List Host) (found : Session)
      (c : ConnectionId)
  | gone

namespace Station

/-- How far it has come with one operation on a session. -/
def stage : Station → Session.Stage
  | fresh => .fresh
  | busy _ stage => stage
  | _ => .gone

/-- It uses session `s` and no other. -/
def Uses (s : SessionId) (station : Station) : Prop :=
  station = fresh ∨ ∃ stage, station = busy s stage

/-- The state of session `s`, for a thread that holds it. -/
def held (s : SessionId) : Station → Option Session
  | busy s' stage => if s' = s then stage.held else none
  | holding _ h _ _ now => if h.session = s then some now else none
  | _ => none

/-- The hosts that it has dealt with, and what came of them. -/
def dealt : Station → List (Host × Fate)
  | facing dealt _ | opening dealt _ _ | holding dealt _ _ _ _ | parting dealt _ _ _ _ => dealt
  | _ => []

def closing (cluster : Cluster) : Station → (e : Effect) → e.Response → Station
  | fresh, .pooled, pooled => facing [] (cluster.leader :: pooled)
  | facing dealt (h :: rest), .isDefunct _, defunct =>
    if defunct then facing (dealt ++ [(h, .spared)]) rest else opening dealt h rest
  | opening dealt h rest, .acquire _, found => holding dealt h rest found found
  | holding dealt h rest found _, .store _ v, _ => holding dealt h rest found v
  | holding dealt h rest found _, .release _, _ =>
    match found.stream with
    | none => facing (dealt ++ [(h, .shut (.error (.session (.closed found.endpoint))))]) rest
    | some c => parting dealt h rest found c
  | parting dealt h rest _ _, .hangUp _, r =>
    facing (dealt ++ [(h, .shut ((Session.parted r).mapError .session))]) rest
  | station, _, _ => station

/-- All that who closes a cluster may ask for, and where the answer brings it. -/
inductive Turns (cluster : Cluster) : Station → (e : Effect) → e.Response → Station → Prop
  | lists (pooled : List Host) :
      Turns cluster fresh .pooled pooled (facing [] (cluster.leader :: pooled))
  | spares (dealt : List (Host × Fate)) (h : Host) (rest : List Host) :
      Turns cluster (facing dealt (h :: rest)) (.isDefunct h.session) true
        (facing (dealt ++ [(h, .spared)]) rest)
  | opens (dealt : List (Host × Fate)) (h : Host) (rest : List Host) :
      Turns cluster (facing dealt (h :: rest)) (.isDefunct h.session) false (opening dealt h rest)
  | takes (dealt : List (Host × Fate)) (h : Host) (rest : List Host) (found : Session) :
      Turns cluster (opening dealt h rest) (.acquire h.session) found
        (holding dealt h rest found found)
  | records (dealt : List (Host × Fate)) (h : Host) (rest : List Host)
      (found : Session) (r : Unit) :
      Turns cluster (holding dealt h rest found found) (.store h.session found.closed) r
        (holding dealt h rest found found.closed)
  | finds (dealt : List (Host × Fate)) (h : Host) (rest : List Host)
      (found now : Session) (r : Unit)
      (hfound : found.stream = none) (hnow : now.stream = none) :
      Turns cluster (holding dealt h rest found now) (.release h.session) r
        (facing (dealt ++ [(h, .shut (.error (.session (.closed found.endpoint))))]) rest)
  | parts (dealt : List (Host × Fate)) (h : Host) (rest : List Host) (found now : Session)
      (c : ConnectionId) (r : Unit) (hfound : found.stream = some c) (hnow : now.stream = none) :
      Turns cluster (holding dealt h rest found now) (.release h.session) r
        (parting dealt h rest found c)
  | hangsUp (dealt : List (Host × Fate)) (h : Host) (rest : List Host) (found : Session)
      (c : ConnectionId) (r : Except IoError Unit) :
      Turns cluster (parting dealt h rest found c) (.hangUp c) r
        (facing (dealt ++ [(h, .shut ((Session.parted r).mapError .session))]) rest)
  | reports (station : Station) (event : LogEvent) (r : Unit) :
      Turns cluster station (.log event) r station

def rules : Errand → Rules Station
  | .close cluster =>
    { Allows := fun station e => ∀ r, Turns cluster station e r (closing cluster station e r)
      after := closing cluster }
  | .use s a =>
    { Allows := fun station e => station.Uses s ∧ station.stage.Allows s a e
      after := fun station e r => busy s (station.stage.after e r) }

def Ends : (x : Errand) → x.Result → Station → Prop
  | .close cluster, r, station => ∃ pooled fates, fates.map Prod.fst = cluster.leader :: pooled ∧
      station = facing fates [] ∧ r = verdict fates
  | .use _ a, r, station => Session.Stage.Ends a r station.stage

variable {cluster : Cluster} {dealt : List (Host × Fate)} {h : Host} {rest : List Host}

theorem closing_log (station : Station) (event : LogEvent) (r : Unit) :
    closing cluster station (.log event) r = station := by
  cases station with
  | facing dealt rest => cases rest <;> rfl
  | _ => rfl

/-- Reporting something leads nowhere. -/
theorem follows_log_bind {α : Type} {post : α → Station → Prop} {station : Station}
    {level : LogLevel} {target message : String} {fields : List (String × String)}
    {f : Unit → Job α} (hf : (f ()).Follows (rules (.close cluster)) post station) :
    (Job.log level target message fields >>= f).Follows (rules (.close cluster)) post station :=
  follows_idle_bind (fun r => (closing_log station _ r).symm ▸ .reports station _ r)
    (closing_log station _) fun _ => hf

/-- One host is shut down, and what has come of it is put down. -/
theorem host_close_follows :
    h.close.Follows (rules (.close cluster))
      (fun r station => station = facing (dealt ++ [(h, .shut r)]) rest)
      (opening dealt h rest) := by
  unfold Host.close Session.close
  refine follows_bind.2 (follows_ask_bind (.takes dealt h rest) fun found _ => ?_)
  change Job.Follows _ _ _ (holding dealt h rest found found)
  cases hstream : found.stream with
  | none =>
    have hafter (r : Unit) : closing cluster (holding dealt h rest found found)
        (.release h.session) r =
          facing (dealt ++ [(h, .shut (.error (.session (.closed found.endpoint))))]) rest := by
      simp only [closing, hstream]
    refine follows_ask_bind (fun r => ?_) fun r _ => hafter r
    rw [hafter]
    exact .finds dealt h rest found found r hstream hstream
  | some c =>
    have hafter (r : Unit) : closing cluster (holding dealt h rest found found.closed)
        (.release h.session) r = parting dealt h rest found c := by
      simp only [closing, hstream]
    refine follows_ask_bind (.records dealt h rest found) fun _ _ => ?_
    refine follows_ask_bind (fun r => ?_) fun r _ => ?_
    · change Turns _ _ _ r (closing cluster (holding dealt h rest found found.closed) _ r)
      rw [hafter]
      exact .parts dealt h rest found found.closed c r hstream rfl
    · change Job.Follows _ _ _ (closing cluster (holding dealt h rest found found.closed) _ r)
      rw [hafter]
      refine follows_log_bind (follows_ask_bind (.hangsUp dealt h rest found c) fun r _ => ?_)
      cases r with
      | ok => exact rfl
      | error e => exact rfl

theorem closeAll_follows (hosts : List Host) :
    (closeAll hosts).Follows (rules (.close cluster)) (fun r station => ∃ fates,
      fates.map Prod.fst = hosts ∧ station = facing (dealt ++ fates) [] ∧ r = verdict fates)
      (facing dealt hosts) := by
  induction hosts generalizing dealt with
  | nil => exact ⟨[], rfl, by rw [List.append_nil], rfl⟩
  | cons h hosts ih =>
    refine follows_ask_bind (fun defunct => ?_) fun defunct _ => ?_
    · cases defunct with
      | true => exact .spares dealt h hosts
      | false => exact .opens dealt h hosts
    cases defunct with
    | true =>
      refine follows_log_bind (ih.mono ?_)
      rintro r station ⟨fates, hfates, rfl, rfl⟩
      exact ⟨(h, .spared) :: fates, by rw [List.map_cons, hfates], by simp, rfl⟩
    | false =>
      refine host_close_follows.bind ?_
      rintro r station rfl
      cases r with
      | ok =>
        refine ih.mono ?_
        rintro r station ⟨fates, hfates, rfl, rfl⟩
        exact ⟨(h, .shut (.ok ())) :: fates, by rw [List.map_cons, hfates], by simp, rfl⟩
      | error e =>
        refine follows_log_bind (ih.bind ?_)
        rintro r station ⟨fates, hfates, rfl, -⟩
        exact ⟨(h, .shut (.error e)) :: fates, by rw [List.map_cons, hfates], by simp, rfl⟩

theorem close_follows (cluster : Cluster) :
    cluster.close.Follows (rules (.close cluster)) (Ends (.close cluster)) fresh := by
  refine follows_ask_bind .lists fun pooled _ => (closeAll_follows _).mono ?_
  rintro r station ⟨fates, hfates, rfl, rfl⟩
  exact ⟨pooled, fates, hfates, rfl, rfl⟩

end Station

/-- Closing a cluster and using sessions keep to the rules. -/
def errandConduct : errands.Conduct Station where
  rules := Station.rules
  start := .fresh
  gone := .gone
  Ends := Station.Ends
  follows x := by
    cases x with
    | close cluster => exact Station.close_follows cluster
    | use s a =>
      have hfollows : (a.job s).Follows (Session.Stage.rules s a) (Session.Stage.Ends a)
          (Station.stage .fresh) := (Session.operationConduct s).follows a
      refine hfollows.through Station.stage (Station.Uses s) (.inl rfl) ?_ ?_ ?_
      · exact fun station e huses hallows => ⟨huses, hallows⟩
      · exact fun station e r => rfl
      · exact fun station e r huses => .inr ⟨_, rfl⟩

namespace Station

variable {cluster : Cluster} {station station' : Station} {x : Errand} {v v' v₀ : Session}
variable {news g g' : Chronicle}

theorem Uses.held {s' : SessionId} (h : station.Uses s') (s : SessionId) :
    station.held s = if s' = s then station.stage.held else none := by
  rcases h with rfl | ⟨stage, rfl⟩
  · exact (ite_self none).symm
  · rfl

theorem Turns.handles {e : Effect} {r : e.Response} (h : Turns cluster station e r station')
    (s : SessionId) : Handles s (station.held s) e r (station'.held s) := by
  cases h with
  | takes dealt h rest found =>
    by_cases hs : h.session = s
    · simp only [held, if_pos hs]
      exact hs ▸ .takes found
    · simp only [held, if_neg hs]
      exact .elsewhere rfl hs
  | records dealt h rest found r =>
    by_cases hs : h.session = s
    · simp only [held, if_pos hs]
      exact hs ▸ .records found found.closed r
    · simp only [held, if_neg hs]
      exact .elsewhere rfl hs
  | finds dealt h rest found now r =>
    by_cases hs : h.session = s
    · exact hs ▸ .returns _ r
    · simp only [held, if_neg hs]
      exact .elsewhere rfl hs
  | parts dealt h rest found now c r =>
    by_cases hs : h.session = s
    · exact hs ▸ .returns _ r
    · simp only [held, if_neg hs]
      exact .elsewhere rfl hs
  | _ => exact .other rfl

/-- Every session is handled as one that is held by one thread at a time. -/
theorem handles {e : Effect} (hallows : (rules x).Allows station e) (r : e.Response)
    (s : SessionId) : Handles s (station.held s) e r (((rules x).after station e r).held s) := by
  cases x with
  | close cluster => exact (hallows r).handles s
  | use s' a =>
    obtain ⟨huses, hallows⟩ := hallows
    rw [huses.held]
    change Handles s _ e r (if s' = s then (station.stage.after e r).held else none)
    by_cases hs : s' = s
    · subst hs
      rw [if_pos rfl, if_pos rfl]
      exact Session.Stage.handles hallows r
    · rw [if_neg hs, if_neg hs]
      exact Session.Stage.handles_elsewhere hallows hs r

theorem decays {e : Effect} (hallows : (rules x).Allows station e) (r : e.Response)
    (hheld : ∀ now, station.held s = some now → now = v) : v.Decays (e.recorded s v) := by
  have hunheld (hnone : station.held s = none) : v.Decays (e.recorded s v) := by
    have hhandles := handles hallows r s
    rw [hnone] at hhandles
    rw [hhandles.recorded v]
    exact .refl v
  cases x with
  | close cluster =>
    have hturn := hallows r
    generalize closing cluster station e r = station' at hturn
    cases hturn with
    | records dealt h rest found =>
      by_cases hs : h.session = s
      · obtain rfl : found = v := hheld found (if_pos hs)
        rw [Effect.recorded, if_pos hs]
        exact Session.decays_closed found
      · exact hunheld (if_neg hs)
    | _ => exact .refl v
  | use s' a =>
    obtain ⟨huses, hallows⟩ := hallows
    rw [huses.held] at hheld hunheld
    by_cases hs : s' = s
    · subst hs
      rw [if_pos rfl] at hheld
      exact Session.Stage.decays hallows hheld
    · exact hunheld (if_neg hs)

theorem Turns.unpooled {e : Effect} {r : e.Response} (h : Turns cluster station e r station') :
    e.touchesPool = false := by
  cases h <;> rfl

theorem unpooled {e : Effect} (hallows : (rules x).Allows station e) : e.touchesPool = false := by
  cases x with
  | close cluster =>
    cases e with
    | slot uuid | evict uuid stale => exact (hallows (0 : SlotId)).unpooled
    | enter i | fill i h | leave i => exact (hallows ()).unpooled
    | _ => rfl
  | use s a => exact Session.Stage.allows_unpooled hallows.2

end Station

/-! ## What has come of the hosts -/

variable {station station' : Station} {v v' v₀ : Session} {news g g' : Chronicle}
variable {cluster : Cluster}

/-- Thread `t` has left session `s` alone while it had its connection and the mark of a call. -/
def LeftAlone (s : SessionId) (t : ThreadId) (v₀ : Session) (news : Chronicle) : Prop :=
  ∃ before after : Chronicle, news = before ++ .answered t (.isDefunct s) true :: after ∧
    (before.state s v₀).stream ≠ none ∧ (before.state s v₀).inFlight = true

/-- Thread `t` has taken session `s` and shut down the connection that it had. -/
def ShutDown (s : SessionId) (t : ThreadId) (news : Chronicle)
    (result : Except ClientError Unit) : Prop :=
  ∃ found, .answered t (.acquire s) found ∈ news ∧
    match found.stream with
    | none => result = .error (.session (.closed found.endpoint))
    | some c => ∃ r, .answered t (.hangUp c) r ∈ news ∧
        result = (Session.parted r).mapError .session

/-- Session `s`, which was in state `v₀` at first and is in state `v`, has met this fate. -/
def Fate.Met (s : SessionId) (t : ThreadId) (v₀ : Session) (news : Chronicle) (v : Session) :
    Fate → Prop
  | spared => v.stream = none ∨ LeftAlone s t v₀ news
  | shut result => v.stream = none ∧ ShutDown s t news result

theorem Fate.Met.mono {fate : Fate} (h : fate.Met s t v₀ news v) (hdecays : v.Decays v')
    (g : Chronicle) : fate.Met s t v₀ (news ++ g) v' := by
  cases fate with
  | spared =>
    rcases h with hnone | ⟨before, after, rfl, hleft⟩
    · exact .inl (hdecays.stream hnone)
    · exact .inr ⟨before, after ++ g, by rw [List.append_assoc, List.cons_append], hleft⟩
  | shut result =>
    obtain ⟨hnone, found, hfound, hresult⟩ := h
    refine ⟨hdecays.stream hnone, found, List.mem_append_left _ hfound, ?_⟩
    cases hstream : found.stream with
    | none =>
      simp only [hstream] at hresult
      exact hresult
    | some c =>
      simp only [hstream] at hresult
      obtain ⟨r, hr, hresult⟩ := hresult
      exact ⟨r, List.mem_append_left _ hr, hresult⟩

namespace Station

/-- What a thread knows of session `s` where it stands. -/
structure Fits (s : SessionId) (t : ThreadId) (v₀ : Session) (news : Chronicle) (v : Session)
    (station : Station) : Prop where
  met : ∀ h fate, (h, fate) ∈ station.dealt → h.session = s → fate.Met s t v₀ news v
  holding : ∀ dealt h rest found now, station = .holding dealt h rest found now → h.session = s →
    .answered t (.acquire s) found ∈ news
  parting : ∀ dealt h rest found c, station = .parting dealt h rest found c → h.session = s →
    v.stream = none ∧ found.stream = some c ∧ .answered t (.acquire s) found ∈ news

theorem Fits.mono (h : station.Fits s t v₀ news v) (hdecays : v.Decays v') (g : Chronicle) :
    station.Fits s t v₀ (news ++ g) v' where
  met h' fate hmem hs := (h.met h' fate hmem hs).mono hdecays g
  holding dealt h' rest found now heq hs :=
    List.mem_append_left _ (h.holding dealt h' rest found now heq hs)
  parting dealt h' rest found c heq hs := by
    obtain ⟨hnone, hstream, hfound⟩ := h.parting dealt h' rest found c heq hs
    exact ⟨hdecays.stream hnone, hstream, List.mem_append_left _ hfound⟩

/-- Between two hosts a thread knows what has come of those behind it. -/
theorem fits_facing {dealt : List (Host × Fate)} {rest : List Host}
    (h : ∀ h fate, (h, fate) ∈ dealt → h.session = s → fate.Met s t v₀ news v) :
    (facing dealt rest).Fits s t v₀ news v where
  met := h
  holding _ _ _ _ _ heq := by cases heq
  parting _ _ _ _ _ heq := by cases heq

theorem met_concat {dealt : List (Host × Fate)} {h : Host} {fate : Fate}
    (hdealt : ∀ h' fate', (h', fate') ∈ dealt → h'.session = s → fate'.Met s t v₀ news v)
    (hlast : h.session = s → fate.Met s t v₀ news v) (h' : Host) (fate' : Fate)
    (hmem : (h', fate') ∈ dealt ++ [(h, fate)]) (hs : h'.session = s) :
    fate'.Met s t v₀ news v := by
  rcases List.mem_append.1 hmem with hmem | hmem
  · exact hdealt h' fate' hmem hs
  · cases List.mem_singleton.1 hmem
    exact hlast hs

theorem Fits.turn {e : Effect} {r : e.Response} (h : station.Fits s t v₀ news v)
    (hturn : Turns cluster station e r station')
    (hheld : ∀ now, station.held s = some now → now = v) (hdecays : v.Decays (e.recorded s v))
    (hstate : news.state s v₀ = v)
    (hdefunct : Event.answered t e r = .answered t (.isDefunct s) true → v.isClosed = true)
    (hg : ∀ ev ∈ g, ev.Idle e) :
    station'.Fits s t v₀ (news ++ (g ++ .answered t e r :: g')) (e.recorded s v) := by
  have hold := h.mono hdecays (g ++ .answered t e r :: g')
  have hnow : Event.answered t e r ∈ news ++ (g ++ .answered t e r :: g') :=
    List.mem_append_right _ (List.mem_append_right _ (List.mem_cons_self ..))
  cases hturn with
  | lists pooled =>
    refine fits_facing fun h' fate hmem => ?_
    cases hmem
  | spares dealt h' rest =>
    refine fits_facing (met_concat hold.met fun hs => ?_)
    subst hs
    by_cases hnone : v.stream = none
    · exact .inl hnone
    · have hclosed := hdefunct rfl
      have hmarked : v.inFlight = true := by
        rw [Session.isClosed, Option.isNone_eq_false_iff.2 (Option.isSome_iff_ne_none.2 hnone)]
          at hclosed
        exact hclosed
      refine .inr ⟨news ++ g, g', by rw [List.append_assoc], ?_⟩
      rw [Chronicle.state_append, Chronicle.state_of_idle hg, hstate]
      exact ⟨hnone, hmarked⟩
  | opens dealt h' rest =>
    refine ⟨hold.met, ?_, ?_⟩
    · rintro _ _ _ _ _ ⟨⟩
    · rintro _ _ _ _ _ ⟨⟩
  | takes dealt h' rest found =>
    refine ⟨hold.met, ?_, ?_⟩
    · rintro _ _ _ _ _ heq hs
      cases heq
      exact hs ▸ hnow
    · rintro _ _ _ _ _ ⟨⟩
  | records dealt h' rest found r =>
    refine ⟨hold.met, ?_, ?_⟩
    · rintro _ _ _ _ _ heq hs
      cases heq
      exact hold.holding dealt h' rest found found rfl hs
    · rintro _ _ _ _ _ ⟨⟩
  | finds dealt h' rest found now r hfound hnone =>
    refine fits_facing (met_concat hold.met fun hs => ?_)
    obtain rfl : now = v := hheld now (if_pos hs)
    refine ⟨hnone, found, hold.holding dealt h' rest found now rfl hs, ?_⟩
    rw [hfound]
  | parts dealt h' rest found now c r hfound hnone =>
    refine ⟨hold.met, ?_, ?_⟩
    · rintro _ _ _ _ _ ⟨⟩
    · rintro _ _ _ _ _ heq hs
      cases heq
      obtain rfl : now = v := hheld now (if_pos hs)
      exact ⟨hnone, hfound, hold.holding dealt h' rest found now rfl hs⟩
  | hangsUp dealt h' rest found c r =>
    refine fits_facing (met_concat hold.met fun hs => ?_)
    obtain ⟨hnone, hstream, hfound⟩ := hold.parting dealt h' rest found c rfl hs
    refine ⟨hnone, found, hfound, ?_⟩
    rw [hstream]
    exact ⟨r, hnow, rfl⟩
  | reports station event r => exact hold

end Station

/-! ## The ledger of one session -/

variable {Q : errands.Posts Station} {x : Errand} {bed bed' : Testbed}

/-- What is known of session `s`, which was in state `v₀` at first. -/
structure Ledger (s : SessionId) (v₀ : Session) (Q : errands.Posts Station) (bed : Testbed)
    (news : Chronicle) : Prop where
  value : valueAt bed.sessions s = some (news.state s v₀)
  custody : Q.Custody (Station.held s) s bed
  fits : ∀ t x station, Q t = some (x, station) → station.Fits s t v₀ news (news.state s v₀)

namespace Ledger

theorem moved (h : Ledger s v₀ Q bed news)
    (hvalue : valueAt bed'.sessions s = some ((news ++ g).state s v₀))
    (hcustody : Posts.Custody (Station.held s) s (Function.update Q t (some (x, station'))) bed')
    (hdecays : (news.state s v₀).Decays ((news ++ g).state s v₀))
    (hfits : station'.Fits s t v₀ (news ++ g) ((news ++ g).state s v₀)) :
    Ledger s v₀ (Function.update Q t (some (x, station'))) bed' (news ++ g) where
  value := hvalue
  custody := hcustody
  fits t' x' station₀ ht' := by
    rcases Posts.of_update ht' with ⟨rfl, rfl, rfl⟩ | ⟨-, ht'⟩
    · exact hfits
    · exact (h.fits t' x' station₀ ht').mono hdecays g

theorem still {e : Effect} (h : Ledger s v₀ Q bed news)
    (hvalues : valueAt bed'.sessions s = valueAt bed.sessions s)
    (hcustody : Q.Custody (Station.held s) s bed') (hg : ∀ ev ∈ g, ev.Idle e) :
    Ledger s v₀ Q bed' (news ++ g) := by
  have hstate : (news ++ g).state s v₀ = news.state s v₀ := by
    rw [Chronicle.state_append, Chronicle.state_of_idle hg]
  refine ⟨?_, hcustody, fun t x station ht => ?_⟩
  · rw [hstate]
    exact hvalues.trans h.value
  · rw [hstate]
    exact (h.fits t x station ht).mono (.refl _) g

/-- A thread gives up its hold on the session, or never had one. -/
theorem released (h : Ledger s v₀ Q bed news) (hj : Jostles t bed.sessions bed'.sessions)
    (hheld : station'.held s = none) (hfits : station'.Fits s t v₀ news (news.state s v₀)) :
    Ledger s v₀ (Function.update Q t (some (x, station'))) bed' news := by
  rw [← List.append_nil news] at hfits ⊢
  refine h.moved ?_ (h.custody.release hj hheld) ?_ hfits
  · rw [List.append_nil]
    exact (hj.value s).trans h.value
  · rw [List.append_nil]
    exact .refl _

end Ledger

theorem Station.fits_idle (hdealt : station.dealt = [])
    (hholding : ∀ dealt h rest found now, station ≠ .holding dealt h rest found now)
    (hparting : ∀ dealt h rest found c, station ≠ .parting dealt h rest found c) :
    station.Fits s t v₀ news v where
  met h fate hmem := by
    rw [hdealt] at hmem
    cases hmem
  holding dealt h rest found now heq := absurd heq (hholding dealt h rest found now)
  parting dealt h rest found c heq := absurd heq (hparting dealt h rest found c)

/-- A session found defunct by who asks can carry no more calls. -/
theorem isClosed_of_isDefunct (hanswers : w.Answers t (.isDefunct s) true w')
    (hv : valueAt w.bed.sessions s = some v) : v.isClosed = true := by
  obtain ⟨v', hv', hclosed, -⟩ := hanswers.isDefunct
  obtain rfl := Option.some.inj (hv.symm.trans hv')
  exact hclosed

/-- Each step keeps the ledger. -/
theorem ledger_keeps (s : SessionId) (v₀ : Session) (w₀ : World) :
    errandConduct.Keeps fun Q w =>
      ∃ news, w.past = w₀.past ++ news ∧ Ledger s v₀ Q w.bed news where
  starts := by
    rintro Q w t x ⟨news, hpast, h⟩ hvacant
    refine ⟨news, hpast, h.released (.refl t _) rfl (Station.fits_idle rfl ?_ ?_)⟩
    · rintro _ _ _ _ _ ⟨⟩
    · rintro _ _ _ _ _ ⟨⟩
  answered := by
    rintro Q w t x station e r w' ⟨news, hpast, h⟩ hpost hallows hanswers
    obtain ⟨g, g', hnews, hg, hg'⟩ := hanswers.past
    have hstate : (news ++ (g ++ .answered t e r :: g')).state s v₀ =
        e.recorded s (news.state s v₀) := by
      rw [Chronicle.state_append, Chronicle.state_answered_among hg hg']
    have hhandles := Station.handles hallows r s
    have hheld (now : Session) : station.held s = some now → now = news.state s v₀ :=
      h.custody.eq_of_held hpost h.value
    have hdecays := Station.decays hallows r hheld
    have hfits := h.fits t x station hpost
    refine ⟨_, by rw [hnews, hpast, List.append_assoc], h.moved ?_
      (h.custody.answered hpost hanswers hhandles) ?_ ?_⟩
    · rw [hstate]
      exact hanswers.value hhandles h.value
    · rw [hstate]
      exact hdecays
    · rw [hstate]
      cases x with
      | close cluster =>
        refine hfits.turn (hallows r) hheld hdecays rfl ?_ hg
        intro heq
        cases heq
        exact isClosed_of_isDefunct hanswers h.value
      | use s' a =>
        refine Station.fits_idle rfl ?_ ?_
        · rintro _ _ _ _ _ ⟨⟩
        · rintro _ _ _ _ _ ⟨⟩
  stalled := by
    rintro Q w t x station e w' ⟨news, hpast, h⟩ hpost hallows hstalls
    obtain ⟨g, hnews, hidle⟩ := World.Waits.past (.stalls .refl hstalls)
    exact ⟨news ++ g, by rw [hnews, hpast, List.append_assoc],
      h.still (hstalls.jostles.1.value s) (h.custody.stalled hstalls) hidle⟩
  finished := by
    rintro Q w t x station r ⟨news, hpast, h⟩ hpost hends
    exact ⟨news, hpast, h.value, h.custody, h.fits⟩
  cancelled := by
    rintro Q w t x station ⟨news, hpast, h⟩ hpost
    refine ⟨news, hpast, h.released (w.cancel_jostles t) rfl (Station.fits_idle rfl ?_ ?_)⟩
    · rintro _ _ _ _ _ ⟨⟩
    · rintro _ _ _ _ _ ⟨⟩
  moves := by
    rintro Q w w' ⟨news, hpast, h⟩ hmoves
    obtain ⟨g, hnews, hidle⟩ := World.Waits.past (t := 0) (e := .clock) (.moves .refl hmoves)
    have hsessions := hmoves.shares.sessions
    exact ⟨news ++ g, by rw [hnews, hpast, List.append_assoc],
      h.still (by rw [hsessions]) (h.custody.of_eq hsessions) hidle⟩

/-! ## The hosts that are closed -/

/-- The hosts of a thread that closes a cluster, those behind it and those before it. -/
def Station.hosts : Station → Option (List Host)
  | facing dealt rest => some (dealt.map Prod.fst ++ rest)
  | opening dealt h rest | holding dealt h rest _ _ | parting dealt h rest _ _ =>
    some (dealt.map Prod.fst ++ h :: rest)
  | _ => none

/-- The pool is what it was, and who closes a cluster has the leader and the pool to deal with. -/
structure Listed (pooled : List Host) (Q : errands.Posts Station) (w : World) : Prop where
  pool : w.bed.pooled = pooled
  hosts : ∀ t cluster station hosts, Q t = some (.close cluster, station) →
    station.hosts = some hosts → hosts = cluster.leader :: pooled

theorem Listed.moved {pooled : List Host} (h : Listed pooled Q w) (hpool : w'.bed.pooled = pooled)
    (hhosts : ∀ cluster hosts, x = .close cluster → station'.hosts = some hosts →
      hosts = cluster.leader :: pooled) :
    Listed pooled (Function.update Q t (some (x, station'))) w' where
  pool := hpool
  hosts t' cluster station hosts ht' heq := by
    rcases Posts.of_update ht' with ⟨-, hx, rfl⟩ | ⟨-, ht'⟩
    · exact hhosts cluster hosts hx.symm heq
    · exact h.hosts t' cluster station hosts ht' heq

theorem Station.Turns.hosts {e : Effect} {r : e.Response} (h : Turns cluster station e r station')
    {hosts : List Host} (heq : station'.hosts = some hosts) :
    station.hosts = some hosts ∨
      ∃ pooled, Event.answered t e r = .answered t .pooled pooled ∧
        hosts = cluster.leader :: pooled := by
  cases h with
  | lists pooled => exact .inr ⟨pooled, rfl, (Option.some.inj heq).symm⟩
  | spares | finds | hangsUp =>
    rw [← heq]
    simp [Station.hosts]
  | _ => exact .inl heq

theorem listed_keeps (pooled : List Host) : errandConduct.Keeps (Listed pooled) where
  starts := by
    rintro Q w t x h hvacant
    refine h.moved h.pool fun _ _ _ heq => ?_
    cases heq
  answered := by
    rintro Q w t x station e r w' h hpost hallows hanswers
    have hunpooled := Station.unpooled hallows
    have hpool := (hanswers.poolsAlike hunpooled).pooled
    refine h.moved (hpool.trans h.pool) ?_
    rintro cluster hosts rfl heq
    rcases (hallows r).hosts (t := t) heq with hbefore | ⟨pooled', hlisted, rfl⟩
    · exact h.hosts t cluster station hosts hpost hbefore
    · cases hlisted
      obtain ⟨bed, hanswer | hfails, -⟩ := hanswers
      · have hpooled := Option.some.inj (congrArg Prod.fst hanswer)
        rw [← h.pool, hpooled]
      · exact hfails.elim
  stalled := by
    rintro Q w t x station e w' h hpost hallows hstalls
    exact ⟨(hstalls.poolsAlike (Station.unpooled hallows)).pooled.trans h.pool, h.hosts⟩
  finished := by
    rintro Q w t x station r h hpost hends
    exact ⟨h.pool, h.hosts⟩
  cancelled := by
    rintro Q w t x station h hpost
    refine h.moved ((Testbed.poolsAlike_cancel t w.bed).pooled.trans h.pool) fun _ _ _ heq => ?_
    cases heq
  moves := by
    rintro Q w w' h hmoves
    exact ⟨hmoves.shares.poolsAlike.pooled.trans h.pool, h.hosts⟩

variable {σ : errands.Crew}

/-- **Closing a cluster.** Whatever else a crew does with the sessions: when a thread has closed the
cluster, it has dealt with the leader and then with every pooled host, whether others failed or not,
and its result is the first failure. A host that was shut down has no connection any more; one that
was spared has none either, unless it was left alone with its connection and the mark of a call that
was given up. -/
theorem close_disposes {r : Except ClientError Unit}
    (hreach : Crew.Reaches (T := errands) ⟨w, []⟩ σ)
    (hworker : σ.workers[t]? = some ⟨.close cluster, .finished r⟩) :
    ∃ news fates, σ.world.past = w.past ++ news ∧
      fates.map Prod.fst = cluster.leader :: w.bed.pooled ∧ r = verdict fates ∧
      ∀ h fate v₀, (h, fate) ∈ fates → valueAt w.bed.sessions h.session = some v₀ →
        ∃ v, valueAt σ.world.bed.sessions h.session = some v ∧ fate.Met h.session t v₀ news v := by
  have hlisted : Listed w.bed.pooled (fun _ => none) w := ⟨rfl, fun _ _ _ _ hpost => by cases hpost⟩
  have hledgers (known : { x : SessionId × Session // valueAt w.bed.sessions x.1 = some x.2 }) :
      ∃ news, w.past = w.past ++ news ∧
        Ledger known.1.1 known.1.2 (fun _ => none) w.bed news := by
    refine ⟨[], (List.append_nil _).symm, known.2, ?_, ?_⟩
    · rintro t x station now hpost
      cases hpost
    · rintro t x station hpost
      cases hpost
  have hkeeps := ((listed_keeps w.bed.pooled).and (errandConduct.past_keeps w)).and
    (Conduct.Keeps.forall fun known :
      { x : SessionId × Session // valueAt w.bed.sessions x.1 = some x.2 } =>
        ledger_keeps known.1.1 known.1.2 w)
  obtain ⟨Q, hQ, ⟨hlisted, news, hnews⟩, hledgers⟩ := hkeeps.reaches hreach
    (Conduct.manned_start w) ⟨⟨hlisted, [], (List.append_nil _).symm⟩, hledgers⟩
  obtain ⟨station, hpost, pooled, fates, -, rfl, hr⟩ := hQ.stands t _ hworker
  have hhosts := hlisted.hosts t cluster _ _ hpost rfl
  rw [List.append_nil] at hhosts
  refine ⟨news, fates, hnews, hhosts, hr, fun h fate v₀ hmem hv₀ => ?_⟩
  obtain ⟨news', hnews', hledger⟩ := hledgers ⟨(h.session, v₀), hv₀⟩
  obtain rfl : news' = news := List.append_cancel_left (hnews'.symm.trans hnews)
  exact ⟨_, hledger.value, (hledger.fits t _ _ hpost).met h fate hmem rfl⟩

/-- A leader and one tablet server that are connected to. -/
def small : Cluster where
  leader := ⟨{ session := 0, endpoint := ⟨"m1", 7100⟩ }, ⟨none, [], [], none⟩⟩
  tabletServers := []
  timeoutMillis := 3000

def smallServer : Host :=
  ⟨{ session := 1, endpoint := ⟨"ts1", 9100⟩ }, ⟨none, [], [], none⟩⟩

def smallWorld : World where
  bed.network.connections := [⟨"m1", 7100⟩, ⟨"ts1", 9100⟩].map fun endpoint =>
    { endpoint, registration := 0, toServer := {}, toClient := {}, farEnd := .script [] false [] }
  bed.sessions :=
    [⟨{ endpoint := ⟨"m1", 7100⟩, stream := some 0 }, []⟩,
      ⟨{ endpoint := ⟨"ts1", 9100⟩, stream := some 1 }, []⟩]
  bed.slots := [⟨some smallServer, []⟩]
  bed.pool := [(⟨1⟩, 0)]

theorem close_disposes_small : ∃ σ news fates,
    Crew.Reaches (T := errands) ⟨smallWorld, []⟩ σ ∧
      σ.workers = [⟨.use 0 .close, .finished (.ok ())⟩, ⟨.close small, .finished (.ok ())⟩] ∧
      fates.map Prod.fst = [small.leader, smallServer] ∧ verdict fates = .ok () ∧
      ∀ h fate v₀, (h, fate) ∈ fates → valueAt smallWorld.bed.sessions h.session = some v₀ →
        ∃ v, valueAt σ.world.bed.sessions h.session = some v ∧ fate.Met h.session 1 v₀ news v := by
  have hplay : (smallWorld.visit 0 (Session.close 0) []).any (fun x => decide (x.1 = .ok ()) &&
      (x.2.visit 1 small.close []).any fun y => decide (y.1 = .ok ())) = true := by
    decide +kernel
  obtain ⟨⟨_, w₁⟩, hfirst, hchecks⟩ := (Option.any_eq_true _ _).1 hplay
  obtain ⟨hok, hchecks⟩ := Bool.and_eq_true_iff.1 hchecks
  obtain rfl := of_decide_eq_true hok
  obtain ⟨⟨_, w₂⟩, hsecond, hclosed⟩ := (Option.any_eq_true _ _).1 hchecks
  obtain rfl := of_decide_eq_true hclosed
  have hgone : Crew.Reaches (T := errands) ⟨smallWorld, []⟩
      ⟨w₁, [⟨.use 0 .close, .finished (.ok ())⟩]⟩ :=
    Crew.reaches_of_visit (T := errands) (.use 0 .close) hfirst
  have hdone : Crew.Reaches (T := errands) ⟨w₁, [⟨.use 0 .close, .finished (.ok ())⟩]⟩
      ⟨w₂, [⟨.use 0 .close, .finished (.ok ())⟩, ⟨.close small, .finished (.ok ())⟩]⟩ :=
    Crew.reaches_of_visit (T := errands) (.close small) hsecond
  have hreach := hgone.trans hdone
  obtain ⟨news, fates, -, hfates, hverdict, hmet⟩ := close_disposes (t := 1) hreach rfl
  exact ⟨_, news, fates, hreach, rfl, hfates, hverdict.symm, hmet⟩

/-- **A host that is left alone stays open.** A call to the pooled server is given up, and the
cluster is closed. Closing reports success, and nobody holds the server's session, which has its
connection still; only the leader's was shut down. -/
theorem close_leaves_connection : ∃ σ,
    Crew.Reaches (T := errands) ⟨smallWorld, []⟩ σ ∧
      σ.workers = [⟨.use 1 .begin, .finished (.ok 1)⟩, ⟨.close small, .finished (.ok ())⟩] ∧
      σ.world.bed.pooled = [smallServer] ∧ σ.world.past.hungUp = [0] ∧
      holderAt σ.world.bed.sessions smallServer.session = none ∧
      valueAt σ.world.bed.sessions smallServer.session = some
        { endpoint := ⟨"ts1", 9100⟩, stream := some 1, inFlight := true, lastCallId := 1 } := by
  let leftOpen (w : World) : Prop :=
    w.bed.pooled = [smallServer] ∧ w.past.hungUp = [0] ∧
      holderAt w.bed.sessions smallServer.session = none ∧
      valueAt w.bed.sessions smallServer.session = some
        { endpoint := ⟨"ts1", 9100⟩, stream := some 1, inFlight := true, lastCallId := 1 }
  have hplay : (smallWorld.visit 0 (Session.begin 1) []).any (fun x => decide (x.1 = .ok 1) &&
      (x.2.visit 1 small.close []).any fun y => decide (y.1 = .ok () ∧ leftOpen y.2)) = true := by
    decide +kernel
  obtain ⟨⟨_, w₁⟩, hfirst, hchecks⟩ := (Option.any_eq_true _ _).1 hplay
  obtain ⟨hone, hchecks⟩ := Bool.and_eq_true_iff.1 hchecks
  obtain rfl := of_decide_eq_true hone
  obtain ⟨⟨_, w₂⟩, hsecond, hclosed⟩ := (Option.any_eq_true _ _).1 hchecks
  obtain ⟨rfl, hopen⟩ := of_decide_eq_true hclosed
  have hbegun : Crew.Reaches (T := errands) ⟨smallWorld, []⟩
      ⟨w₁, [⟨.use 1 .begin, .finished (.ok 1)⟩]⟩ :=
    Crew.reaches_of_visit (T := errands) (.use 1 .begin) hfirst
  have hdone : Crew.Reaches (T := errands) ⟨w₁, [⟨.use 1 .begin, .finished (.ok 1)⟩]⟩
      ⟨w₂, [⟨.use 1 .begin, .finished (.ok 1)⟩, ⟨.close small, .finished (.ok ())⟩]⟩ :=
    Crew.reaches_of_visit (T := errands) (.close small) hsecond
  exact ⟨_, hbegun.trans hdone, rfl, hopen⟩

end Cluster
end ClusterProbe
