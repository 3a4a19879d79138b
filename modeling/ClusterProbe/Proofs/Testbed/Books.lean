import ClusterProbe.Proofs.Testbed.History
import ClusterProbe.Proofs.Testbed.Network

/-!
# The books of the dialer

A registration has the counter of its connections, and what is registered next under the same
endpoint has another one. So there are two things to keep in mind after a history: that the counter
of each registration is the number of connections under it whose server runs (`Network.Counts`), and
which connections are under the registration that is found for an endpoint (`Filed`). Handlers and
dial attempts are as the history has them (`Network.Records`). Every happening keeps all of this
(`History.books`).
-/
namespace ClusterProbe

variable {n n' : Network} {e e' : Endpoint} {c : ConnectionId} {k k' : Connection}
  {handler : Handler} {h : History} {x : Happening}

/-! ## Which connection is filed under which registration -/

/-- Each registration has a number of its own, and the connections under the present registration of
an endpoint are exactly those to the endpoint that are not among the first `before e` of all, the
ones that were there when it was last unregistered. -/
structure Filed (before : Endpoint → Nat) (number? : Endpoint → Option Nat) (issued : Nat)
    (tags : List (Endpoint × Nat)) : Prop where
  bounded : ∀ e, before e ≤ tags.length
  given : ∀ {e m}, number? e = some m → m < issued
  unshared : ∀ {e e' m}, number? e = some m → number? e' = some m → e = e'
  tagged : ∀ {tag}, tag ∈ tags → tag.2 < issued
  filed : ∀ {c tag}, tags[c]? = some tag →
    ∀ e, number? e = some tag.2 ↔ tag.1 = e ∧ before e ≤ c

namespace Filed

variable {before : Endpoint → Nat} {number? : Endpoint → Option Nat} {issued m : Nat}
  {tags : List (Endpoint × Nat)}

theorem registered (hf : Filed before number? issued tags) (hnew : number? e = none) :
    Filed before (fun e' => if e' = e then some issued else number? e') (issued + 1) tags where
  bounded := hf.bounded
  given {e' m} h := by
    split at h
    · cases h
      exact Nat.lt_succ_self issued
    · exact Nat.lt_succ_of_lt (hf.given h)
  unshared {e₁ e₂ m} h₁ h₂ := by
    have hfresh {e' : Endpoint} : number? e' ≠ some issued :=
      fun h => Nat.lt_irrefl _ (hf.given h)
    split at h₁ <;> split at h₂
    · simp_all
    · cases h₁
      exact absurd h₂ hfresh
    · cases h₂
      exact absurd h₁ hfresh
    · exact hf.unshared h₁ h₂
  tagged htag := Nat.lt_succ_of_lt (hf.tagged htag)
  filed {c tag} htag e' := by
    rw [← hf.filed htag e']
    split
    · rename_i heq
      subst heq
      -- nothing that exists bears the new number, and the endpoint had none
      have hless := hf.tagged (List.mem_of_getElem? htag)
      simp only [hnew, Option.some.injEq]
      constructor
      · intro hissued
        omega
      · nofun
    · exact Iff.rfl

theorem unregistered (hf : Filed before number? issued tags) (e : Endpoint) :
    Filed (fun e' => if e' = e then tags.length else before e')
      (fun e' => if e' = e then none else number? e') issued tags where
  bounded e' := by
    split
    · exact Nat.le_refl _
    · exact hf.bounded e'
  given h := by
    split at h
    · cases h
    · exact hf.given h
  unshared h₁ h₂ := by
    split at h₁
    · cases h₁
    · split at h₂
      · cases h₂
      · exact hf.unshared h₁ h₂
  tagged := hf.tagged
  filed {c tag} htag e' := by
    split
    · -- all connections that there are have been opened before
      have hc := (List.getElem?_eq_some_iff.1 htag).1
      constructor
      · nofun
      · rintro ⟨-, hle⟩
        omega
    · exact hf.filed htag e'

theorem opened (hf : Filed before number? issued tags) (hm : number? e = some m) :
    Filed before number? issued (tags ++ [(e, m)]) where
  bounded e' := Nat.le_trans (hf.bounded e') (by simp)
  given := hf.given
  unshared := hf.unshared
  tagged {tag} htag := by
    rcases List.mem_append.1 htag with hold | hnew
    · exact hf.tagged hold
    · cases List.mem_singleton.1 hnew
      exact hf.given hm
  filed {c tag} htag e' := by
    by_cases hc : c < tags.length
    · rw [List.getElem?_append_left hc] at htag
      exact hf.filed htag e'
    · obtain ⟨rfl, rfl⟩ : c = tags.length ∧ tag = (e, m) := by
        rw [List.getElem?_append_right (Nat.le_of_not_lt hc), List.getElem?_singleton] at htag
        split at htag
        · cases htag
          exact ⟨by omega, rfl⟩
        · cases htag
      constructor
      · exact fun he' => ⟨hf.unshared hm he', hf.bounded e'⟩
      · rintro ⟨rfl, -⟩
        exact hm

end Filed

namespace Network

/-- What a dial to an endpoint meets: an offer, or nobody. -/
def Meets (n : Network) (e : Endpoint) : Option Offer → Prop
  | none => n.find? e = none
  | some o => ∃ r, n.find? e = some r ∧
      ∃ i, r.farEnd = .server i o.keepalives .start ∧ n.handlers[i]? = some o.handler

/-- The dial that a connection to a server comes from. -/
def opening? (n : Network) (k : Connection) : Option Opening :=
  k.farEnd.service?.bind fun (i, keepalives) =>
    n.handlers[i]?.map fun handler => ⟨k.endpoint, handler, keepalives⟩

/-- Every connection and every registration is what the history has made it. -/
structure Records (h : History) (n : Network) : Prop where
  refusal : n.refusal = fun _ => ⟨.connectionRefused, some "connection refused"⟩
  dialed : n.dialed = h.attempts
  met : ∀ e, n.Meets e (h.offer? e)
  opened : n.connections.map n.opening? = h.openings.map some

/-- The counter of a registration counts the connections under it whose server is running. -/
def Counts (n : Network) : Prop :=
  ∀ m, n.running[m]?.getD 0 = n.connections.countP fun k => k.registration = m ∧ k.isActive

structure Books (h : History) (n : Network) : Prop where
  records : n.Records h
  filed : Filed h.openedBefore n.number? n.running.length (n.connections.map Connection.tag)
  counts : n.Counts

/-! ## Frames -/

theorem Meets.mono {o : Option Offer} (hmet : n.Meets e o) (hfound : n'.find? e = n.find? e)
    (hhandlers : n.handlers <+: n'.handlers) : n'.Meets e o := by
  cases o with
  | none => exact hfound.trans hmet
  | some o =>
    obtain ⟨r, hfind, i, hfar, hi⟩ := hmet
    exact ⟨r, hfound.trans hfind, i, hfar, handler_of_prefix hhandlers hi⟩

theorem Records.meets {o : Option Offer} (hr : n.Records h) (ho : h.offer? e = o) : n.Meets e o :=
  ho ▸ hr.met e

/-- What a connection comes from is known for as long as no handler is lost. -/
theorem Records.opened_mono (hr : n.Records h) (hhandlers : n.handlers <+: n'.handlers) :
    n.connections.map n'.opening? = h.openings.map some := by
  rw [← hr.opened]
  refine List.map_congr_left fun k hk => ?_
  obtain ⟨o, -, ho⟩ := List.mem_map.1 (hr.opened ▸ List.mem_map_of_mem (f := n.opening?) hk)
  rw [← ho]
  obtain ⟨⟨i, keepalives⟩, hservice, ho⟩ := Option.bind_eq_some_iff.1 ho.symm
  obtain ⟨handler, hi, rfl⟩ := Option.map_eq_some_iff.1 ho
  simp only [opening?, hservice, Option.bind_some, handler_of_prefix hhandlers hi, Option.map_some]

/-- Every connection leads to the server of its opening. -/
theorem Records.exists_server (hr : n.Records h) (hk : n.connections[c]? = some k) :
    ∃ o i state, h.openings[c]? = some o ∧ k.endpoint = o.endpoint ∧
      k.farEnd = .server i o.offer.keepalives state ∧ n.handlers[i]? = some o.offer.handler := by
  have hc := congrArg (·[c]?) hr.opened
  simp only [List.getElem?_map, hk, Option.map_some] at hc
  obtain ⟨o, hopening, ho⟩ := Option.map_eq_some_iff.1 hc.symm
  obtain ⟨⟨i, keepalives⟩, hservice, ho⟩ := Option.bind_eq_some_iff.1 ho.symm
  obtain ⟨handler, hi, rfl⟩ := Option.map_eq_some_iff.1 ho
  cases hfar : k.farEnd with
  | server i' keepalives' state =>
    rw [hfar] at hservice
    cases hservice
    exact ⟨_, i, state, hopening, rfl, rfl, hi⟩
  | _ =>
    rw [hfar] at hservice
    cases hservice

theorem Records.exists_turn (hr : n.Records h) (hstep : n.step c = some n') :
    ∃ k i keepalives, Turn c k i keepalives n n' := by
  obtain ⟨k, hk, -⟩ := Option.bind_eq_some_iff.1 hstep
  obtain ⟨o, i, state, -, -, hfar, -⟩ := hr.exists_server hk
  exact ⟨k, i, _, turn_of_step hk hfar hstep⟩

theorem Records.keeps (hr : n.Records h) (hk : n.Keeps n') : n'.Records h where
  refusal := hk.refusal.trans hr.refusal
  dialed := hk.dialed.trans hr.dialed
  met e := Meets.mono (hr.met e) (hk.found e) (hk.handlers ▸ List.prefix_rfl)
  opened := by
    have hopened := congrArg (List.map fun origin => origin.2.2.bind fun (i, keepalives) =>
      n.handlers[i]?.map fun handler => (⟨origin.1, handler, keepalives⟩ : Opening)) hk.origins
    rw [List.map_map, List.map_map] at hopened
    rw [← hr.opened]
    unfold opening?
    rw [hk.handlers]
    exact hopened

/-! ## Registering and unregistering -/

theorem Meets.revise_of_ne {service keepalives : Nat → Nat} {o : Option Offer} (hne : e' ≠ e)
    (hmet : n.Meets e' o) : (n.revise e service keepalives).Meets e' o := by
  refine hmet.mono ?_ List.prefix_rfl
  rw [find?_revise]
  cases hfind : n.find? e' with
  | none => rfl
  | some r =>
    have hr : r.endpoint ≠ e := endpoint_of_find? hfind ▸ hne
    rw [Option.map_some, Registration.revised_of_ne hr]

theorem Meets.revise_self {service keepalives : Nat → Nat} {o : Offer}
    (hmet : n.Meets e (some o)) :
    ∃ r, (n.revise e service keepalives).find? e = some r ∧
      ∃ i, r.farEnd = .server (service i) (keepalives o.keepalives) .start ∧
        n.handlers[i]? = some o.handler := by
  obtain ⟨r, hfind, i, hfar, hi⟩ := hmet
  refine ⟨r.revised e service keepalives, by rw [find?_revise, hfind, Option.map_some], i, ?_, hi⟩
  simp only [Registration.revised, hfar, endpoint_of_find? hfind, if_true]

theorem Records.keepalivesSet (hr : n.Records h) (count : Nat) :
    (n.setKeepalives e count).Records (.keepalivesSet e count :: h) where
  refusal := hr.refusal
  dialed := hr.dialed
  met e' := by
    rw [setKeepalives_eq]
    by_cases he : e' = e
    · subst he
      simp only [History.offer?, if_true]
      cases ho : h.offer? e' with
      | none => exact (find?_revise ..).trans (congrArg (Option.map _) (hr.meets ho))
      | some o =>
        have hmet : n.Meets e' (some o) := hr.meets ho
        exact hmet.revise_self
    · simp only [History.offer?, if_neg he]
      exact Meets.revise_of_ne he (hr.met e')
  opened := hr.opened.trans (by simp [History.openings, Happening.dialed?])

theorem Records.registered (hr : n.Records h) :
    (n.register e handler).Records (.registered e handler :: h) := by
  have hwith : n.handlers <+: (n.withHandler handler).handlers := by
    rw [handlers_withHandler]
    exact List.prefix_append ..
  have hnew : (n.withHandler handler).handlers[n.services.length]? = some handler := by
    rw [handlers_withHandler, ← List.length_map Service.handler]
    exact List.getElem?_concat_length
  have hopened : n.connections.map (n.withHandler handler).opening? =
      (History.openings (.registered e handler :: h)).map some := by
    rw [hr.opened_mono hwith]
    simp [History.openings, Happening.dialed?]
  have hmet {e' : Endpoint} {o : Option Offer} (ho : h.offer? e' = o) :
      (n.withHandler handler).Meets e' o := Meets.mono (hr.meets ho) rfl hwith
  cases ho : h.offer? e with
  | none =>
    have hnone : n.find? e = none := hr.meets ho
    rw [register_of_find?_eq_none hnone]
    refine ⟨hr.refusal, hr.dialed, fun e' => ?_, hopened⟩
    by_cases he : e' = e
    · subst he
      simp only [History.offer?, if_true, ho]
      exact ⟨_, (find?_registerFarEnd hnone).trans (if_pos rfl), _, rfl, hnew⟩
    · simp only [History.offer?, if_neg he]
      exact (hmet rfl).mono ((find?_registerFarEnd hnone).trans (if_neg he)) List.prefix_rfl
  | some o =>
    obtain ⟨r, hfind, -⟩ := hr.meets ho
    rw [register_of_find? hfind]
    refine ⟨hr.refusal, hr.dialed, fun e' => ?_, hopened⟩
    by_cases he : e' = e
    · subst he
      simp only [History.offer?, if_true, ho]
      obtain ⟨r, hfind, i, hfar, -⟩ := (hmet ho).revise_self
      exact ⟨r, hfind, _, hfar, hnew⟩
    · simp only [History.offer?, if_neg he]
      exact (hmet rfl).revise_of_ne he

theorem Records.unregistered (hr : n.Records h) :
    (n.unregister e).Records (.unregistered e :: h) where
  refusal := hr.refusal
  dialed := hr.dialed
  met e' := by
    simp only [History.offer?]
    split
    · rename_i he
      exact find?_unregister.trans (if_pos he)
    · rename_i he
      exact Meets.mono (hr.met e') (find?_unregister.trans (if_neg he)) List.prefix_rfl
  opened := hr.opened.trans (by simp [History.openings, Happening.dialed?])

/-! ## Dialing -/

/-- What a dial does when the endpoint answers. -/
structure Dialed (t : ThreadId) (o : Offer) (r : Registration) (n n' : Network) : Prop where
  found : n.find? r.endpoint = some r
  network : n' = { n with
    dialed := r.endpoint :: n.dialed
    connections := n.connections ++ [Connection.ofRegistration r t]
    running := n.running.modify r.number (· + 1) }
  origin : (Connection.ofRegistration r t).origin = (r.endpoint, r.number, r.farEnd.service?)
  active : (Connection.ofRegistration r t).isActive = true
  opening : n.opening? (Connection.ofRegistration r t) = some ⟨r.endpoint, o⟩

theorem dial_of_offer {t : ThreadId} {o : Offer} (hmet : n.Meets e (some o)) :
    ∃ r, r.endpoint = e ∧ (n.dial t e).1 = .ok n.connections.length ∧
      Dialed t o r n (n.dial t e).2 := by
  obtain ⟨r, hfind, i, hfar, hi⟩ := hmet
  obtain rfl := endpoint_of_find? hfind
  have hactive : (Connection.ofRegistration r t).isActive = true := by
    simp [Connection.ofRegistration, Connection.isActive, hfar, ServerState.start,
      ServerState.isRunning]
  have hdial : n.dial t r.endpoint = (.ok n.connections.length, { n with
      dialed := r.endpoint :: n.dialed
      connections := n.connections ++ [Connection.ofRegistration r t]
      running := n.running.modify r.number (· + 1) }) := by
    have hfind' : Network.find? { n with dialed := r.endpoint :: n.dialed } r.endpoint = some r :=
      hfind
    simp only [dial, hfind', hactive, if_true]
  refine ⟨r, rfl, by rw [hdial], hfind, by rw [hdial], ?_, hactive, ?_⟩
  · simp [Connection.ofRegistration, Connection.origin, hfar]
  · simp [Connection.ofRegistration, opening?, hfar, FarEnd.service?, hi]

theorem dial_of_refusal {t : ThreadId} (hmet : n.Meets e none) :
    n.dial t e = (.error (.dial e (n.refusal e)), { n with dialed := e :: n.dialed }) := by
  have hfind : ({ n with dialed := e :: n.dialed } : Network).find? e = none := hmet
  simp only [dial, hfind]

theorem Records.dialed_of_offer {t : ThreadId} {o : Offer} {r : Registration}
    (hr : n.Records h) (ho : h.offer? r.endpoint = some o) (hd : Dialed t o r n n') :
    n'.Records (.asked t (.dial r.endpoint) :: h) := by
  rw [hd.network]
  refine ⟨hr.refusal, congrArg (r.endpoint :: ·) hr.dialed, hr.met, ?_⟩
  have hopening : History.openings (.asked t (.dial r.endpoint) :: h) =
      h.openings ++ [⟨r.endpoint, o⟩] := by
    simp [History.openings, Happening.dialed?, ho]
  rw [hopening, List.map_append, List.map_append]
  exact congrArg₂ _ hr.opened (congrArg (fun o => [o]) hd.opening)

theorem Records.dialed_of_refusal {t : ThreadId} (hr : n.Records h) (ho : h.offer? e = none) :
    ({ n with dialed := e :: n.dialed } : Network).Records (.asked t (.dial e) :: h) := by
  refine ⟨hr.refusal, congrArg (e :: ·) hr.dialed, hr.met, hr.opened.trans ?_⟩
  simp [History.openings, Happening.dialed?, ho]

/-! ## Counters -/

theorem Counts.alike (hc : n.Counts) (hn : n.Alike n') : n'.Counts := by
  intro m
  have hbare (n : Network) : n.connections.countP (fun k => k.registration = m ∧ k.isActive) =
      (n.connections.map Connection.bare).countP fun k => k.registration = m ∧ k.isActive := by
    rw [List.countP_map]
    rfl
  rw [hn.running, hc m, hbare n, hbare n', hn.connections]

theorem Counts.turn {i keepalives : Nat} (hc : n.Counts) (ht : Turn c k i keepalives n n') :
    n'.Counts := by
  intro m
  obtain ⟨k', hconnections, -, hregistration, -, hrunning⟩ := ht.moved
  obtain ⟨hlt, rfl⟩ := List.getElem?_eq_some_iff.1 ht.found
  rw [hconnections, List.countP_set hlt, ← hc m, hrunning, hregistration]
  by_cases hm : n.connections[c].registration = m
  · subst hm
    -- the connection itself was counted, so taking one off the counter does not stop at zero
    have hpos : 0 < n.running[n.connections[c].registration]?.getD 0 := by
      rw [hc, List.countP_pos_iff]
      exact ⟨_, List.getElem_mem hlt, by simp [ht.wasActive]⟩
    cases hactive : k'.isActive with
    | true =>
      simp only [ht.wasActive, if_true, and_self, decide_true]
      omega
    | false =>
      simp only [ht.wasActive, List.getElem?_modify_eq, Bool.false_eq_true, and_false, and_self,
        decide_true, decide_false, if_true, if_false]
      cases n.running[n.connections[c].registration]? <;> rfl
  · simp only [hm, false_and, decide_false, Bool.false_eq_true, if_false]
    split
    · rfl
    · rw [List.getElem?_modify_ne _ _ hm]
      rfl

theorem Counts.dialed {t : ThreadId} {o : Offer} {r : Registration} (hc : n.Counts)
    (hgiven : r.number < n.running.length) (hd : Dialed t o r n n') : n'.Counts := by
  intro m
  have hregistration : (Connection.ofRegistration r t).registration = r.number :=
    congrArg (fun origin => origin.2.1) hd.origin
  rw [hd.network, List.countP_append, ← hc m, List.countP_singleton, hregistration, hd.active]
  by_cases hm : r.number = m
  · subst hm
    simp [List.getElem?_eq_getElem hgiven]
  · simp [hm]

theorem Counts.registered (hc : n.Counts) : (n.register e handler).Counts := by
  cases hfind : n.find? e with
  | some r =>
    rw [register_of_find? hfind]
    exact hc
  | none =>
    rw [register_of_find?_eq_none hfind]
    intro m
    refine Eq.trans ?_ (hc m)
    change (n.running ++ [0])[m]?.getD 0 = _
    rw [List.getElem?_append]
    split
    · rfl
    · rename_i hm
      rw [List.getElem?_eq_none (Nat.le_of_not_lt hm), List.getElem?_singleton]
      split <;> rfl

/-! ## Whatever happens -/

theorem Books.keeps (hb : n.Books h) (hk : n.Keeps n') (hc : n'.Counts) : n'.Books h where
  records := hb.records.keeps hk
  filed := by
    have hnumber : n'.number? = n.number? := by
      funext e
      rw [number?, hk.found, number?]
    have htags := congrArg (List.map fun origin => (origin.1, origin.2.1)) hk.origins
    rw [List.map_map, List.map_map] at htags
    change n'.connections.map Connection.tag = n.connections.map Connection.tag at htags
    rw [hnumber, hk.issued, htags]
    exact hb.filed
  counts := hc

theorem Books.alike (hb : n.Books h) (hn : n.Alike n') : n'.Books h :=
  hb.keeps hn.keeps (hb.counts.alike hn)

/-- What is of no concern to the dialer leaves the history as good as it was. -/
theorem Books.unconcerned (hb : n.Books h) (hdialed : x.dialed? = none)
    (hoffer : ∀ e, History.offer? e (x :: h) = h.offer? e)
    (hbefore : ∀ e, History.openedBefore e (x :: h) = h.openedBefore e) : n.Books (x :: h) where
  records :=
    { refusal := hb.records.refusal
      dialed := hb.records.dialed.trans (by simp [History.attempts, hdialed])
      met := fun e => hoffer e ▸ hb.records.met e
      opened := hb.records.opened.trans (by simp [History.openings, hdialed]) }
  filed := by
    have hsame : (fun e => History.openedBefore e (x :: h)) = fun e => h.openedBefore e :=
      funext hbefore
    exact hsame ▸ hb.filed
  counts := hb.counts

theorem Books.registered (hb : n.Books h) :
    (n.register e handler).Books (.registered e handler :: h) where
  records := hb.records.registered
  counts := hb.counts.registered
  filed := by
    cases hfind : n.find? e with
    | some r =>
      rw [register_of_find? hfind, number?_revise]
      exact hb.filed
    | none =>
      have hfind' : (n.withHandler handler).find? e = none := hfind
      have hnone : n.number? e = none := congrArg (Option.map _) hfind
      have hnumber : (n.register e handler).number? =
          fun e' => if e' = e then some n.running.length else n.number? e' := by
        funext e'
        rw [register_of_find?_eq_none hfind, number?, find?_registerFarEnd hfind']
        split <;> rfl
      rw [hnumber, register_of_find?_eq_none hfind]
      have hissued : (n.running ++ [0]).length = n.running.length + 1 := List.length_append
      exact hissued ▸ hb.filed.registered hnone

theorem Books.unregistered (hb : n.Books h) : (n.unregister e).Books (.unregistered e :: h) where
  records := hb.records.unregistered
  counts := hb.counts
  filed := by
    have hnumber : (n.unregister e).number? =
        fun e' => if e' = e then none else n.number? e' := by
      funext e'
      rw [number?, find?_unregister]
      split <;> rfl
    have hlength : h.openings.length = (n.connections.map Connection.tag).length := by
      simpa using (congrArg List.length hb.records.opened).symm
    rw [hnumber]
    have hfiled := hb.filed.unregistered e
    rw [← hlength] at hfiled
    exact hfiled

theorem Books.keepalivesSet (hb : n.Books h) (count : Nat) :
    (n.setKeepalives e count).Books (.keepalivesSet e count :: h) where
  records := hb.records.keepalivesSet count
  counts := hb.counts
  filed := by
    rw [setKeepalives_eq, number?_revise]
    exact hb.filed

theorem Books.dialed (hb : n.Books h) (t : ThreadId) (e : Endpoint) :
    (n.dial t e).2.Books (.asked t (.dial e) :: h) := by
  cases ho : h.offer? e with
  | none =>
    rw [dial_of_refusal (hb.records.meets ho)]
    exact ⟨hb.records.dialed_of_refusal ho, hb.filed, hb.counts⟩
  | some o =>
    obtain ⟨r, rfl, -, hd⟩ := dial_of_offer (t := t) (hb.records.meets ho)
    have hnumber : n.number? r.endpoint = some r.number := congrArg (Option.map _) hd.found
    refine ⟨hb.records.dialed_of_offer ho hd, ?_, hb.counts.dialed (hb.filed.given hnumber) hd⟩
    have htag : (Connection.ofRegistration r t).tag = (r.endpoint, r.number) :=
      congrArg (fun origin => (origin.1, origin.2.1)) hd.origin
    rw [hd.network, List.map_append, List.length_modify, List.map_singleton, htag]
    exact hb.filed.opened hnumber

theorem Books.served (hb : n.Books h) (c : ConnectionId) :
    ((n.step c).getD n).Books (.served c :: h) := by
  cases hstep : n.step c with
  | none => exact hb.unconcerned rfl (fun _ => rfl) fun _ => rfl
  | some n' =>
    obtain ⟨k, i, keepalives, hturn⟩ := hb.records.exists_turn hstep
    have hkept := hb.keeps hturn.keeps (hb.counts.turn hturn)
    exact hkept.unconcerned rfl (fun _ => rfl) fun _ => rfl

end Network

namespace History

theorem books (h : History) : h.testbed.network.Books h := by
  induction h with
  | nil =>
    refine ⟨⟨rfl, rfl, fun _ => rfl, rfl⟩, ?_, fun _ => rfl⟩
    exact ⟨fun _ => Nat.le_refl 0, nofun, nofun, nofun, nofun⟩
  | cons x h ih =>
    cases x with
    | registered e handler => exact ih.registered
    | unregistered e => exact ih.unregistered
    | keepalivesSet e count => exact ih.keepalivesSet count
    | asked t effect =>
      by_cases hdial : ∃ e, effect = .dial e
      · obtain ⟨e, rfl⟩ := hdial
        exact ih.dialed t e
      · have halike := (testbed h).answer_alike t fun e he => hdial ⟨e, he⟩
        have hdialed : (Happening.asked t effect).dialed? = none := by
          cases effect with
          | dial e => exact absurd ⟨e, rfl⟩ hdial
          | _ => rfl
        exact (ih.alike halike).unconcerned hdialed (fun _ => rfl) fun _ => rfl
    | finished t =>
      exact (ih.alike (Network.keepAll_alike t _)).unconcerned rfl (fun _ => rfl) fun _ => rfl
    | cancelled t =>
      exact (ih.alike ((testbed h).cancel_alike t)).unconcerned rfl (fun _ => rfl) fun _ => rfl
    | served c => exact ih.served c
    | slept now =>
      have halike : (testbed h).network.Alike { (testbed h).network with now } :=
        ⟨rfl, rfl, rfl, rfl, rfl, rfl⟩
      exact (ih.alike halike).unconcerned rfl (fun _ => rfl) fun _ => rfl

end History
end ClusterProbe
