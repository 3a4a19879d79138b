import Mathlib.Algebra.BigOperators.Group.Finset.Basic
import ClusterProbe.Proofs.Testbed.Books

/-!
# What the dialer says of a history

After every history the dialer's counts, what a dial comes to and who answers the connections that
are open are as the history has it (`History.Accounts`). One count is not what its name promises:
connections that were opened before their endpoint was unregistered are not counted as active any
more, although they go on (`History.orphan`).
-/
namespace ClusterProbe

variable {n n' : Network} {e : Endpoint} {c : ConnectionId} {k : Connection} {h : History}

namespace Network

/-- On how many of its connections an endpoint has a server running. -/
def runningTo (n : Network) (e : Endpoint) : Nat :=
  n.connections.countP fun k => k.endpoint = e ∧ k.isActive

/-- The same, without the first `b` connections. -/
def runningSince (n : Network) (b : Nat) (e : Endpoint) : Nat :=
  (n.connections.drop b).countP fun k => k.endpoint = e ∧ k.isActive

theorem countP_eq_countP_drop {α : Type} {p q : α → Bool} {l : List α} {b : Nat}
    (h : ∀ {c a}, l[c]? = some a → (p a = true ↔ q a = true ∧ b ≤ c)) :
    l.countP p = (l.drop b).countP q := by
  rw [← List.take_append_drop b l, List.countP_append, List.take_append_drop]
  have hbefore : (l.take b).countP p = 0 := by
    refine List.countP_eq_zero.2 fun a ha hp => ?_
    obtain ⟨c, hc, rfl⟩ := List.mem_take_iff_getElem.1 ha
    have hle := ((h (List.getElem?_eq_getElem (by omega))).1 hp).2
    omega
  rw [hbefore, Nat.zero_add]
  refine List.countP_congr fun a ha => ?_
  obtain ⟨c, hc, rfl⟩ := List.mem_drop_iff_getElem.1 ha
  rw [h (List.getElem?_eq_getElem _)]
  exact and_iff_left (Nat.le_add_right b c)

/-- The counter of an endpoint covers what was opened since the endpoint was last unregistered. -/
theorem Books.active_eq (hb : n.Books h) (e : Endpoint) :
    n.active e = n.runningSince (h.openedBefore e) e := by
  have hfiled : n.connections.countP (fun k => n.number? e = some k.registration ∧ k.isActive) =
      n.runningSince (h.openedBefore e) e := by
    refine countP_eq_countP_drop fun {c k} hk => ?_
    have htag : (n.connections.map Connection.tag)[c]? = some k.tag := by
      rw [List.getElem?_map, hk, Option.map_some]
    have hnumber : n.number? e = some k.registration ↔ k.endpoint = e ∧ h.openedBefore e ≤ c :=
      hb.filed.filed htag e
    rw [decide_eq_true_eq, decide_eq_true_eq, hnumber, and_right_comm]
  rw [← hfiled]
  cases hfind : n.find? e with
  | none => simp [active, number?, hfind]
  | some r =>
    rw [active, hfind, Option.bind_some, hb.counts r.number]
    refine List.countP_congr fun k _ => ?_
    have hnumber : n.number? e = some k.registration ↔ k.registration = r.number := by
      rw [number?, hfind, Option.map_some, Option.some.injEq, eq_comm]
    rw [decide_eq_true_eq, decide_eq_true_eq, hnumber]

/-- It covers all that run if nothing runs that was opened before. -/
theorem runningSince_eq_iff (b : Nat) (e : Endpoint) :
    n.runningSince b e = n.runningTo e ↔
      ∀ k ∈ n.connections.take b, k.endpoint = e → k.isActive = false := by
  have hsplit : n.runningTo e =
      (n.connections.take b).countP (fun k => k.endpoint = e ∧ k.isActive) +
        n.runningSince b e := by
    rw [runningTo, runningSince, ← List.countP_append, List.take_append_drop]
  rw [hsplit, eq_comm, Nat.add_eq_right, List.countP_eq_zero]
  simp

/-- A server that has read a request asks the handler of its opening. -/
theorem Records.answered {o : Opening} {i keepalives : Nat} {request : RequestFrame}
    (hr : n.Records h) (ho : h.openings[c]? = some o) (hk : n.connections[c]? = some k)
    (hfar : k.farEnd = .server i keepalives (.called request)) :
    ∃ seen n', n.step c = some n' ∧ n'.connections[c]? =
      some (k.replied i o.offer.keepalives n.now request (o.offer.handler seen request)) := by
  obtain ⟨o', i', state, ho', -, hfar', hi⟩ := hr.exists_server hk
  cases ho.symm.trans ho'
  cases hfar.symm.trans hfar'
  obtain ⟨s, hs, hhandler⟩ : ∃ s, n.services[i]? = some s ∧ s.handler = o.offer.handler := by
    rw [handlers, List.getElem?_map] at hi
    exact Option.map_eq_some_iff.1 hi
  have hstep : n.step c = some (n.consult c k i o.offer.keepalives request) := by
    simp only [step, hk, bind, Option.bind_some, hfar]
    rfl
  refine ⟨s.seen, _, hstep, ?_⟩
  simp only [consult, hs, Option.getD_some, hhandler]
  exact List.getElem?_set_self (List.getElem?_eq_some_iff.1 hk).1

/-- A far end changes in its own turn only. -/
theorem Books.kept {bed : Testbed} (hb : bed.network.Books h) (x : Happening) (hx : x ≠ .served c)
    (hk : bed.network.connections[c]? = some k) :
    ∃ k', (bed.befall x).network.connections[c]? = some k' ∧ k'.endpoint = k.endpoint ∧
      k'.farEnd = k.farEnd := by
  cases x with
  | registered e handler =>
    exact ⟨k, (congrArg (·[c]?) (register_connections e handler)).trans hk, rfl, rfl⟩
  | unregistered e => exact ⟨k, hk, rfl, rfl⟩
  | keepalivesSet e count => exact ⟨k, hk, rfl, rfl⟩
  | asked t effect =>
    by_cases hdial : ∃ e, effect = .dial e
    · obtain ⟨e, rfl⟩ := hdial
      obtain ⟨new, hnew⟩ := bed.network.prefix_dial t e
      have hold : (bed.network.connections ++ new)[c]? = some k := by
        rw [List.getElem?_append_left (List.getElem?_eq_some_iff.1 hk).1, hk]
      exact ⟨k, hnew ▸ hold, rfl, rfl⟩
    · exact (bed.answer_alike t fun e he => hdial ⟨e, he⟩).exists_connection hk
  | finished t => exact (keepAll_alike t _).exists_connection hk
  | cancelled t => exact (bed.cancel_alike t).exists_connection hk
  | served c' =>
    have hne : c' ≠ c := fun heq => hx (heq ▸ rfl)
    cases hstep : bed.network.step c' with
    | none =>
      refine ⟨k, ?_, rfl, rfl⟩
      simpa only [Testbed.befall, Testbed.onNetwork, hstep, Option.getD_none] using hk
    | some n' =>
      obtain ⟨_, _, _, hturn⟩ := hb.records.exists_turn hstep
      obtain ⟨k', hconnections, -⟩ := hturn.moved
      refine ⟨k, ?_, rfl, rfl⟩
      simp only [Testbed.befall, Testbed.onNetwork, hstep, Option.getD_some, hconnections]
      rwa [List.getElem?_set_ne hne]
  | slept now => exact ⟨k, hk, rfl, rfl⟩

end Network

/-- What the dialer counts, and what it leads to, after a history. -/
structure History.Accounts (h : History) (bed : Testbed) : Prop where
  dialCount : ∀ e, bed.network.dialCount e = h.attempts.count e
  totalDials : bed.network.totalDials = ∑ e ∈ h.attempts.toFinset, bed.network.dialCount e
  /-- Without a server at the endpoint the dial is refused. -/
  refused : ∀ t e, h.offer? e = none → (bed.network.dial t e).1 =
    .error (.dial e ⟨.connectionRefused, some "connection refused"⟩)
  /-- Otherwise it leads to a new connection, to a server that runs with the latest handler. -/
  connected : ∀ t e o, h.offer? e = some o →
    (bed.network.dial t e).1 = .ok bed.network.connections.length ∧
      ∃ k, (bed.network.dial t e).2.connections = bed.network.connections ++ [k] ∧
        k.isActive = true ∧ (bed.network.dial t e).2.opening? k = some ⟨e, o⟩
  /-- The connections are those that were dialed, each with the handler that it was opened with. -/
  opened : bed.network.connections.map bed.network.opening? = h.openings.map some
  /-- That handler is the one that answers its requests. -/
  answered : ∀ c k o i keepalives request, h.openings[c]? = some o →
    bed.network.connections[c]? = some k → k.farEnd = .server i keepalives (.called request) →
      ∃ seen n', bed.network.step c = some n' ∧ n'.connections[c]? = some
        (k.replied i o.offer.keepalives bed.network.now request (o.offer.handler seen request))
  /-- Those to an endpoint that run are counted, if they were opened since it was unregistered. -/
  active : ∀ e, bed.network.active e = bed.network.runningSince (h.openedBefore e) e
  /-- So all that run are counted exactly if none of them was opened before. -/
  complete : ∀ e, bed.network.active e = bed.network.runningTo e ↔
    ∀ k ∈ bed.network.connections.take (h.openedBefore e), k.endpoint = e → k.isActive = false
  /-- Nothing but the turn of its own server makes any difference to whether a connection runs. -/
  kept : ∀ x c k, x ≠ .served c → bed.network.connections[c]? = some k →
    ∃ k', (bed.befall x).network.connections[c]? = some k' ∧ k'.endpoint = k.endpoint ∧
      k'.farEnd = k.farEnd

theorem History.accounts_testbed (h : History) : h.Accounts h.testbed where
  dialCount e := by rw [Network.dialCount, h.books.records.dialed]
  totalDials := by
    simp only [Network.totalDials, Network.dialCount, h.books.records.dialed]
    exact (List.sum_toFinset_count_eq_length _).symm
  refused t e ho := by
    rw [Network.dial_of_refusal (h.books.records.meets ho), h.books.records.refusal]
  connected t e o ho := by
    obtain ⟨r, rfl, hresult, hd⟩ := Network.dial_of_offer (t := t) (h.books.records.meets ho)
    refine ⟨hresult, _, by rw [hd.network], hd.active, ?_⟩
    rw [hd.network]
    exact hd.opening
  opened := h.books.records.opened
  answered _ _ _ _ _ _ ho hk hfar := h.books.records.answered ho hk hfar
  active := h.books.active_eq
  complete e := by
    rw [h.books.active_eq]
    exact Network.runningSince_eq_iff _ e
  kept x _ _ hx hk := h.books.kept x hx hk

/-- **The dialer accounts for its history**, whatever has happened. Threads that are then run, for
as long as they may, only add to the history, so it accounts for what they have done as well. -/
theorem History.accounts (h : History) : h.Accounts h.testbed ∧
    ∀ {α : Type} (fuel : Nat) (threads : List (Thread α)),
      ∃ later : History, (later ++ h).Accounts (h.testbed.runThreads fuel threads).2 := by
  refine ⟨h.accounts_testbed, fun fuel threads => ?_⟩
  obtain ⟨later, hlater⟩ := Testbed.runThreads_history fuel threads h
  exact ⟨later, hlater ▸ accounts_testbed (later ++ h)⟩

/-- A connection that was open when its endpoint was unregistered. -/
def History.orphan : History :=
  let e : Endpoint := ⟨"ts1", 9100⟩
  [.unregistered e, .asked 0 (.dial e), .registered e fun _ _ => .hangup]

/-- It is not counted, and not when the endpoint is registered again either. -/
theorem History.orphan_not_counted :
    orphan.testbed.network.runningTo ⟨"ts1", 9100⟩ = 1 ∧
      orphan.testbed.network.active ⟨"ts1", 9100⟩ = 0 ∧
      (testbed (.registered ⟨"ts1", 9100⟩ (fun _ _ => .hangup) :: orphan)).network.runningTo
        ⟨"ts1", 9100⟩ = 1 ∧
      (testbed (.registered ⟨"ts1", 9100⟩ (fun _ _ => .hangup) :: orphan)).network.active
        ⟨"ts1", 9100⟩ = 0 := by
  decide

end ClusterProbe
