import ClusterProbe.Proofs.Session.Framing
import ClusterProbe.Proofs.World.Run

/-!
# Connections in a world

What asking for an effect may do to a network is said once, by `Network.Amends`. No effect makes up
bytes or loses them: what has arrived on a connection is what was read of it followed by what is
still unread (`World.Balanced`), whoever runs. The reader of a connection's frames is touched only
by those who look out for a frame on that connection.
-/
namespace ClusterProbe

variable {t : ThreadId} {c : ConnectionId}

theorem modify_eq_set {α : Type} {l : List α} {i : Nat} {a : α} (h : l[i]? = some a) (f : α → α) :
    l.modify i f = l.set i (f a) := by
  have : Inhabited α := ⟨a⟩
  rw [List.modify_eq_set, h]
  rfl

namespace Network

theorem logAll_eq (events : List LogEvent) (n : Network) :
    ∃ events', events.foldl (fun n e => n.log e) n = { n with events := events' } := by
  induction events generalizing n with
  | nil => exact ⟨n.events, rfl⟩
  | cons e events ih =>
    obtain ⟨events', h⟩ := ih (n.log e)
    exact ⟨events', h⟩

end Network

namespace Effect

/-- The effects that start or go on reading frames on connection `c`. -/
def readsFrames (c : ConnectionId) : Effect → Bool
  | expect c' | receive c' _ _ => c' = c
  | _ => false

end Effect

/-- A connection after the client has taken `took` from it. -/
structure Connection.Gives (e : Effect) (c : ConnectionId) (k : Connection) (took : Bytes)
    (k' : Connection) : Prop where
  unread : k.toClient.buffer = took ++ k'.toClient.buffer
  source : e.source? ≠ some c → took = []
  reader : e.readsFrames c = false → k'.reader = k.reader

namespace Connection.Gives

variable {e : Effect} {k : Connection}

theorem of_eq {k' : Connection} (hbuffer : k'.toClient.buffer = k.toClient.buffer)
    (hreader : e.readsFrames c = false → k'.reader = k.reader) : k.Gives e c [] k' where
  unread := hbuffer.symm
  source _ := rfl
  reader := hreader

theorem refl : k.Gives e c [] k := of_eq rfl fun _ => rfl

end Connection.Gives

/-- A connection after the client has taken `took` from it for an effect. Whom it leads to stays,
and only the pool takes a connection from its owner. -/
structure Connection.Treated (e : Effect) (c : ConnectionId) (k : Connection) (took : Bytes)
    (k' : Connection) : Prop extends k.Gives e c took k' where
  endpoint : k'.endpoint = k.endpoint
  registration : k'.registration = k.registration
  farEnd : k'.farEnd = k.farEnd
  owner : e.touchesPool = false → k'.owner = k.owner
  named : e.touchesPool = false → c ∈ e.streams

/-- What a thread may do to a network by asking for `e`, whether it succeeds or not. -/
inductive Network.Amends (e : Effect) (n : Network) : Network → Prop
  | logged (events : List LogEvent) : n.Amends e { n with events }
  | dialed {endpoint : Endpoint} (dialed : List Endpoint) (opened : List Connection)
      (running : List Nat) (he : e = .dial endpoint) :
      n.Amends e { n with dialed, connections := n.connections ++ opened, running }
  | revised {c : ConnectionId} {k k' : Connection} {took : Bytes} (events : List LogEvent)
      (found : n.connections[c]? = some k) (treated : k.Treated e c took k') :
      n.Amends e { n.setConnection c k' with events }

namespace Network.Amends

variable {e : Effect} {n : Network}

theorem refl : n.Amends e n := logged n.events

theorem refused {endpoint : Endpoint} {dialed : List Endpoint} :
    n.Amends (.dial endpoint) { n with dialed } := by
  have hdialed : n.Amends (.dial endpoint) _ := .dialed dialed [] n.running rfl
  rwa [List.append_nil] at hdialed

theorem modified {f : Connection → Connection} (hf : ∀ k : Connection, k.Treated e c [] (f k)) :
    n.Amends e { n with connections := n.connections.modify c f } := by
  cases hk : n.connections[c]? with
  | none =>
    rw [List.modify_eq_self (List.getElem?_eq_none_iff.1 hk)]
    exact refl
  | some k =>
    rw [modify_eq_set hk]
    exact revised n.events hk (hf k)

theorem hungUp : n.Amends (.hangUp c) (n.hangUp c) :=
  modified fun _ => ⟨.of_eq rfl fun _ => rfl, rfl, rfl, rfl, fun _ => rfl,
    fun _ => List.mem_singleton_self c⟩

theorem gives {n' : Network} {k : Connection} (h : n.Amends e n')
    (hk : n.connections[c]? = some k) :
    ∃ k' took, n'.connections[c]? = some k' ∧ k.Gives e c took k' := by
  have hlt := (List.getElem?_eq_some_iff.1 hk).1
  cases h with
  | logged events => exact ⟨k, [], hk, .refl⟩
  | dialed dialed opened running he =>
    exact ⟨k, [], (List.getElem?_append_left hlt).trans hk, .refl⟩
  | @revised c' k₀ k' took events found treated =>
    by_cases heq : c' = c
    · subst heq
      obtain rfl := Option.some.inj (found.symm.trans hk)
      exact ⟨k', took, List.getElem?_set_self hlt, treated.toGives⟩
    · exact ⟨k, [], (List.getElem?_set_ne heq).trans hk, .refl⟩

end Network.Amends

namespace Testbed

variable {e : Effect} {k : Connection} {bed bed' : Testbed}

/-- What a reader that reads on leaves behind: the connection without what has been taken in, and
some more in the log. -/
theorem receive_network (limit : Nat) (callId : Int32)
    (h : bed.network.connections[c]? = some k) :
    let p := k.reader.readFrom (fun r => (r.outcome? limit).isSome) k.toClient.buffer
    let k' := { k with reader := p.reader, toClient.buffer := p.rest }
    ∃ events, (bed.receive c limit callId).2 =
      bed.onNetwork fun n => { n.setConnection c k' with events } := by
  intro p k'
  obtain ⟨events, hlog⟩ := Network.logAll_eq (List.replicate p.skipped (skipEvent callId))
    (bed.network.setConnection c k')
  refine ⟨events, ?_⟩
  rw [onNetwork, ← hlog]
  simp only [receive, h]
  split
  · rfl
  · split <;> rfl

/-- Only a dial opens connections, and any other effect touches one at most. -/
theorem answer_amends (t : ThreadId) (bed : Testbed) (e : Effect) :
    bed.network.Amends e (bed.answer t e).2.network := by
  cases e with
  | log event => exact .logged _
  | dial endpoint =>
    simp only [answer, Network.dial]
    split
    · exact .refused
    · exact .dialed _ [_] _ rfl
  | write c bytes =>
    simp only [answer]
    split
    · exact .refl
    · rename_i k hk
      split
      · exact .refl
      · exact .revised _ hk ⟨.of_eq rfl fun _ => rfl, rfl, rfl, rfl, fun _ => rfl,
          fun _ => List.mem_singleton_self c⟩
  | read c count =>
    simp only [answer]
    split
    · exact .refl
    · rename_i k hk
      split
      · exact .refl
      · rename_i bytes toClient hread
        have hbuffer : k.toClient.buffer = bytes ++ toClient.buffer := by
          simp only [Pipe.read] at hread
          split at hread
          · cases hread
          · cases hread
            exact (List.take_append_drop count k.toClient.buffer).symm
        exact .revised _ hk ⟨⟨hbuffer, fun hsource => absurd rfl hsource, fun _ => rfl⟩, rfl, rfl,
          rfl, fun _ => rfl, fun _ => List.mem_singleton_self c⟩
  | expect c =>
    refine .modified fun k => ⟨.of_eq rfl fun he => ?_, rfl, rfl, rfl, fun _ => rfl,
      fun _ => List.mem_singleton_self c⟩
    simp [Effect.readsFrames] at he
  | receive c limit callId =>
    cases hk : bed.network.connections[c]? with
    | none =>
      simp only [answer, receive, hk]
      exact .refl
    | some k =>
      obtain ⟨events, hreceive⟩ := receive_network limit callId hk
      obtain ⟨took, hbuffer, -⟩ := FrameReader.readFrom_takes
        (fun r => (r.outcome? limit).isSome) k.reader k.toClient.buffer
      simp only [answer, hreceive]
      refine .revised events hk ⟨⟨hbuffer, fun hsource => absurd rfl hsource, fun he => ?_⟩, rfl,
        rfl, rfl, fun _ => rfl, fun _ => List.mem_singleton_self c⟩
      simp [Effect.readsFrames] at he
  | hangUp c => exact .hungUp
  | acquire s =>
    simp only [answer]
    split <;> exact .refl
  | slot uuid =>
    simp only [answer]
    split <;> exact .refl
  | evict uuid stale =>
    simp only [answer]
    split
    · split <;> exact .refl
    · exact .refl
  | enter i =>
    simp only [answer]
    split <;> exact .refl
  | fill i host =>
    simp only [answer, onNetwork]
    cases bed.sessions[host.session]?.bind fun shared => shared.value.stream with
    | none => exact .refl
    | some c =>
      exact .modified fun k => ⟨.of_eq rfl fun _ => rfl, rfl, rfl, rfl, nofun, nofun⟩
  | _ => exact .refl

theorem fails_amends {r : e.Response} (hf : e.Fails bed r bed') :
    bed.network.Amends e bed'.network := by
  cases e <;> first | exact hf.elim | obtain ⟨_, rfl⟩ := hf
  case dial => exact .refused
  case hangUp => exact .hungUp
  all_goals exact .refl

theorem receive_connections (limit : Nat) (callId : Int32)
    (h : bed.network.connections[c]? = some k) :
    let p := k.reader.readFrom (fun r => (r.outcome? limit).isSome) k.toClient.buffer
    (bed.receive c limit callId).2.network.connections =
      bed.network.connections.set c { k with reader := p.reader, toClient.buffer := p.rest } := by
  obtain ⟨events, hreceive⟩ := receive_network limit callId h
  rw [hreceive]
  rfl

/-- What connection `c` is after a testbed became `bed'`. -/
def Continues (e : Effect) (c : ConnectionId) (k : Connection) (bed' : Testbed) : Prop :=
  ∃ k' took, bed'.network.connections[c]? = some k' ∧ k.Gives e c took k'

/-- No effect loses sight of a connection, and what it takes from one it takes from the front. -/
theorem answer_continues (t : ThreadId) (e : Effect) (h : bed.network.connections[c]? = some k) :
    (bed.answer t e).2.Continues e c k :=
  (answer_amends t bed e).gives h

theorem fails_continues {r : e.Response} (hf : e.Fails bed r bed')
    (h : bed.network.connections[c]? = some k) : bed'.Continues e c k :=
  (fails_amends hf).gives h

theorem unread_eq (h : bed.network.connections[c]? = some k) :
    bed.unread c = k.toClient.buffer := by
  simp [unread, h]

end Testbed

namespace Event

/-- What may happen besides, while a thread waits for the answer to `e`. -/
def Idle (e : Effect) : Event → Prop
  | arrived _ _ => True
  | took c _ => e.source? = some c
  | answered _ _ _ => False

variable {e : Effect} {ev : Event}

theorem Idle.sent (h : ev.Idle e) (c : ConnectionId) : ev.sent c = [] := by
  cases ev <;> first | rfl | exact h.elim

theorem Idle.stored (h : ev.Idle e) (s : SessionId) : ev.stored s = none := by
  cases ev <;> first | rfl | exact h.elim

theorem Idle.dialed (h : ev.Idle e) : ev.dialed = none := by
  cases ev <;> first | rfl | exact h.elim

theorem Idle.opened (h : ev.Idle e) : ev.opened = none := by
  cases ev <;> first | rfl | exact h.elim

theorem Idle.hungUp (h : ev.Idle e) : ev.hungUp = none := by
  cases ev <;> first | rfl | exact h.elim

theorem Idle.taken (h : ev.Idle e) (hc : e.source? ≠ some c) : ev.taken c = [] := by
  cases ev with
  | took c' bytes =>
    have hne : c' ≠ c := fun heq => hc (heq ▸ h)
    simp [Event.taken, hne]
  | _ => rfl

end Event

namespace World

variable {e : Effect} {w w' : World}

theorem taking_idle (w : World) (e : Effect) (bed : Testbed) :
    ∀ ev ∈ w.taking e bed, ev.Idle e := by
  unfold taking
  split
  · rename_i c hc
    rintro ev hev
    rw [List.mem_singleton] at hev
    exact hev ▸ hc
  · exact fun _ h => absurd h List.not_mem_nil

theorem greeting_idle (bed : Testbed) (e : Effect) (r : e.Response) :
    ∀ ev ∈ greeting bed e r, ev.Idle e := by
  unfold greeting
  split
  · rintro ev hev
    rw [List.mem_singleton] at hev
    exact hev ▸ trivial
  · exact fun _ h => absurd h List.not_mem_nil

theorem Waits.past (h : Waits t e w w') : ∃ g, w'.past = w.past ++ g ∧ ∀ ev ∈ g, ev.Idle e := by
  induction h with
  | refl => exact ⟨[], (List.append_nil _).symm, fun _ h => absurd h List.not_mem_nil⟩
  | moves _ hm ih =>
    obtain ⟨g, hg, hidle⟩ := ih
    cases hm with
    | @farEnd c k k' sent network found moves connections dialed =>
      refine ⟨g ++ [.arrived c sent], by rw [hg, List.append_assoc], ?_⟩
      rintro ev hev
      rcases List.mem_append.1 hev with hev | hev
      · exact hidle ev hev
      · rw [List.mem_singleton] at hev
        exact hev ▸ trivial
    | elsewhere network connections dialed => exact ⟨g, hg, hidle⟩
  | @stalls w₁ w₂ _ hs ih =>
    obtain ⟨g, hg, hidle⟩ := ih
    obtain ⟨bed, _, rfl⟩ := hs
    refine ⟨g ++ w₁.taking e bed, by rw [hg, List.append_assoc], ?_⟩
    rintro ev hev
    rcases List.mem_append.1 hev with hev | hev
    · exact hidle ev hev
    · exact taking_idle w₁ e bed ev hev

/-- Around its one answer, an effect leaves nothing but waiting behind. -/
theorem Settles.past {r : e.Response} (h : w.Settles t e r w') :
    ∃ g g', w'.past = w.past ++ (g ++ .answered t e r :: g') ∧
      (∀ ev ∈ g, ev.Idle e) ∧ ∀ ev ∈ g', ev.Idle e := by
  obtain ⟨w₁, hwait, bed, _, rfl⟩ := h
  obtain ⟨g, hg, hidle⟩ := hwait.past
  refine ⟨g ++ w₁.taking e bed, greeting bed e r, ?_, ?_, greeting_idle bed e r⟩
  · simp only [after, hg, List.append_assoc]
  · rintro ev hev
    rcases List.mem_append.1 hev with hev | hev
    · exact hidle ev hev
    · exact taking_idle w₁ e bed ev hev

theorem taken_taking {k k' : Connection} {took : Bytes} {bed : Testbed}
    (h : w.bed.network.connections[c]? = some k) (h' : bed.network.connections[c]? = some k')
    (hg : k.Gives e c took k') : (w.taking e bed).taken c = took := by
  unfold taking
  split
  · rename_i c' hc'
    by_cases heq : c' = c
    · subst heq
      have hlen : k.toClient.buffer.length - k'.toClient.buffer.length = took.length := by
        rw [hg.unread, List.length_append, Nat.add_sub_cancel]
      simp only [Testbed.unread_eq h, Testbed.unread_eq h', hlen, Chronicle.taken_cons, Event.taken,
        Chronicle.taken_nil, List.append_nil, if_pos]
      rw [hg.unread, List.take_left]
    · have hsource : e.source? ≠ some c := by
        rw [hc']
        exact fun hs => heq (Option.some.inj hs)
      simp [Event.taken, heq, hg.source hsource]
  · rename_i hnone
    exact (hg.source (by rw [hnone]; exact (Option.some_ne_none c).symm)).symm

/-- The books of connection `c` are in order: what has arrived is what was read, and then what is
unread. -/
def Balanced (w : World) (c : ConnectionId) : Prop :=
  ∃ k, w.bed.network.connections[c]? = some k ∧
    w.past.arrived c = w.past.taken c ++ k.toClient.buffer

theorem Balanced.moves (h : w.Balanced c) (hm : w.Moves w') : w'.Balanced c := by
  obtain ⟨k, hk, hbooks⟩ := h
  cases hm with
  | @farEnd c' k₀ k' sent network found moves connections dialed =>
    by_cases heq : c' = c
    · subst heq
      rw [hk] at found
      cases found
      refine ⟨k', ?_, ?_⟩
      · rw [connections, List.getElem?_set_self (List.getElem?_eq_some_iff.1 hk).1]
      · simp [Event.arrival, Event.taken, hbooks, moves.unread]
    · refine ⟨k, ?_, ?_⟩
      · rw [connections, List.getElem?_set_ne heq, hk]
      · simp [Event.arrival, Event.taken, hbooks, heq]
  | elsewhere network connections dialed => exact ⟨k, by rw [connections, hk], hbooks⟩

theorem Balanced.continues {bed : Testbed} (h : w.Balanced c)
    (hc : ∀ k, w.bed.network.connections[c]? = some k → bed.Continues e c k) :
    ({ bed, past := w.past ++ w.taking e bed } : World).Balanced c := by
  obtain ⟨k, hk, hbooks⟩ := h
  obtain ⟨k', took, hk', hgives⟩ := hc k hk
  have harrived : (w.taking e bed).arrived c = [] := by
    unfold taking
    split <;> rfl
  refine ⟨k', hk', ?_⟩
  rw [Chronicle.arrived_append, Chronicle.taken_append, harrived, taken_taking hk hk' hgives,
    hbooks, hgives.unread, List.append_nil, List.append_assoc]

theorem Balanced.stalls (h : w.Balanced c) (hs : w.Stalls t e w') : w'.Balanced c := by
  obtain ⟨bed, hb, rfl⟩ := hs
  refine h.continues fun k hk => ?_
  have := Testbed.answer_continues t e hk
  rwa [hb] at this

theorem arrived_greeting {r : e.Response} {bed : Testbed}
    (hc : c < w.bed.network.connections.length)
    (h : w.bed.answer t e = (some r, bed) ∨ e.Fails w.bed r bed) :
    (greeting bed e r).arrived c = [] := by
  unfold greeting
  split
  · rename_i endpoint c'
    rcases h with h | ⟨⟨error, herror⟩, _⟩
    · simp only [Testbed.answer, Network.dial] at h
      split at h
      · simp at h
      · simp only [Prod.mk.injEq, Option.some.injEq, Except.ok.injEq] at h
        obtain ⟨rfl, _⟩ := h
        have hne : w.bed.network.connections.length ≠ c := Nat.ne_of_gt hc
        simp [Event.arrival, hne]
    · cases herror
  · rfl

theorem Balanced.answers {r : e.Response} (h : w.Balanced c) (ha : w.Answers t e r w') :
    w'.Balanced c := by
  obtain ⟨bed, hb, rfl⟩ := ha
  have hgreeting : (greeting bed e r).arrived c = [] := by
    obtain ⟨k, hk, _⟩ := h
    exact arrived_greeting (List.getElem?_eq_some_iff.1 hk).1 hb
  have htaken : (greeting bed e r).taken c = [] := by
    unfold greeting
    split <;> rfl
  have hcontinues : ∀ k, w.bed.network.connections[c]? = some k → bed.Continues e c k := by
    intro k hk
    rcases hb with hb | hb
    · have := Testbed.answer_continues t e hk
      rwa [hb] at this
    · exact Testbed.fails_continues hb hk
  obtain ⟨k, hk, hbooks⟩ := h.continues hcontinues
  refine ⟨k, hk, ?_⟩
  simp only [Chronicle.arrived_append, Chronicle.taken_append] at hbooks
  simp [after, Event.arrival, Event.taken, hgreeting, htaken, hbooks]

end World

theorem Job.Runs.balanced {α : Type} {job : Job α} {w w' : World} {o : Option α}
    (h : job.Runs t w o w') (hw : w.Balanced c) : w'.Balanced c :=
  h.invariant (P := fun w => w.Balanced c) (fun hm h => h.moves hm) (fun hs h => h.stalls hs)
    (fun ha h => h.answers ha) hw

end ClusterProbe
