import ClusterProbe.Proofs.World.Serving

/-!
# What changes in a network

What the dialer goes by is the registry, the counters and, of each connection, whom it leads to,
under which registration, and who sits at its far end. Threads change none of this but by dialing
(`Testbed.answer_alike`): they move bytes. Registering and unregistering change what is found in the
registry, and the turn of a server changes the server's state, and its counter if the server ends
(`Network.turn_of_step`). Which handler answers a connection never changes (`Network.Keeps`).
-/
namespace ClusterProbe

variable {n n' : Network} {e e' : Endpoint} {c : ConnectionId} {k k' : Connection}
  {handler : Handler}

/-! ## What lasts -/

/-- The service behind a far end, and the number of empty frames in front of its responses. -/
def FarEnd.service? : FarEnd → Option (Nat × Nat)
  | .server i keepalives _ => some (i, keepalives)
  | _ => none

namespace Connection

/-- What stays with a connection as long as it lives. -/
def origin (k : Connection) : Endpoint × Nat × Option (Nat × Nat) :=
  (k.endpoint, k.registration, k.farEnd.service?)

def tag (k : Connection) : Endpoint × Nat :=
  (k.endpoint, k.registration)

end Connection

namespace Network

def handlers (n : Network) : List Handler :=
  n.services.map Service.handler

def number? (n : Network) (e : Endpoint) : Option Nat :=
  (n.find? e).map Registration.number

theorem handler_of_prefix {i : Nat} (h : n.handlers <+: n'.handlers)
    (hi : n.handlers[i]? = some handler) : n'.handlers[i]? = some handler := by
  obtain ⟨later, hlater⟩ := h
  rw [← hlater, List.getElem?_append_left (List.getElem?_eq_some_iff.1 hi).1, hi]

end Network

/-! ## Frames -/

/-- What is left of a connection without its bytes and its owner. -/
def Connection.bare (k : Connection) : Connection where
  endpoint := k.endpoint
  registration := k.registration
  toServer := {}
  toClient := {}
  farEnd := k.farEnd

namespace Network

/-- Two networks that the dialer cannot tell apart. -/
structure Alike (n n' : Network) : Prop where
  registry : n'.registry = n.registry
  running : n'.running = n.running
  refusal : n'.refusal = n.refusal
  dialed : n'.dialed = n.dialed
  services : n'.services = n.services
  connections : n'.connections.map Connection.bare = n.connections.map Connection.bare

namespace Alike

theorem refl (n : Network) : n.Alike n := ⟨rfl, rfl, rfl, rfl, rfl, rfl⟩

theorem logged (h : n.Alike n') (events : List LogEvent) : n.Alike { n' with events } :=
  ⟨h.registry, h.running, h.refusal, h.dialed, h.services, h.connections⟩

theorem set (hk : n.connections[c]? = some k) (hbare : k'.bare = k.bare) :
    n.Alike (n.setConnection c k') := by
  refine ⟨rfl, rfl, rfl, rfl, rfl, ?_⟩
  obtain ⟨hc, rfl⟩ := List.getElem?_eq_some_iff.1 hk
  change (n.connections.set c k').map Connection.bare = _
  rw [List.map_set, hbare, ← List.map_set, List.set_getElem_self]

theorem mapped {f : Connection → Connection} (hf : ∀ k, (f k).bare = k.bare) :
    n.Alike { n with connections := n.connections.map f } := by
  refine ⟨rfl, rfl, rfl, rfl, rfl, ?_⟩
  rw [List.map_map]
  exact List.map_congr_left fun k _ => hf k

theorem exists_connection (hn : n.Alike n') (hk : n.connections[c]? = some k) :
    ∃ k', n'.connections[c]? = some k' ∧ k'.endpoint = k.endpoint ∧ k'.farEnd = k.farEnd := by
  have hc := congrArg (·[c]?) hn.connections
  simp only [List.getElem?_map, hk, Option.map_some] at hc
  obtain ⟨k', hk', hbare⟩ := Option.map_eq_some_iff.1 hc
  exact ⟨k', hk', (congrArg Connection.endpoint hbare :), (congrArg Connection.farEnd hbare :)⟩

end Alike
end Network

/-- An effect other than a dial moves bytes. -/
theorem Network.Amends.alike {eff : Effect} (h : n.Amends eff n') (hdial : ∀ e, eff ≠ .dial e) :
    n.Alike n' := by
  cases h with
  | logged events => exact (Network.Alike.refl _).logged events
  | dialed dialed opened running he => exact absurd he (hdial _)
  | @revised c k k' took events found treated =>
    have hbare : k'.bare = k.bare := by
      simp only [Connection.bare, treated.endpoint, treated.registration, treated.farEnd]
    exact (Network.Alike.set found hbare).logged events

namespace Testbed

theorem answer_alike (t : ThreadId) (bed : Testbed) {eff : Effect} (h : ∀ e, eff ≠ .dial e) :
    bed.network.Alike (bed.answer t eff).2.network :=
  (answer_amends t bed eff).alike h

theorem cancel_alike (t : ThreadId) (bed : Testbed) : bed.network.Alike (bed.cancel t).network :=
  .mapped fun k => by
    split <;> rfl

end Testbed

namespace Network

theorem keepAll_alike (t : ThreadId) (n : Network) : n.Alike (n.keepAll t) :=
  .mapped fun k => by
    split <;> rfl

/-- All registrations, handlers and connections are still there. -/
structure Keeps (n n' : Network) : Prop where
  found : ∀ e, n'.find? e = n.find? e
  refusal : n'.refusal = n.refusal
  dialed : n'.dialed = n.dialed
  handlers : n'.handlers = n.handlers
  issued : n'.running.length = n.running.length
  origins : n'.connections.map Connection.origin = n.connections.map Connection.origin

theorem Alike.keeps (h : n.Alike n') : n.Keeps n' where
  found e := by rw [find?, h.registry, find?]
  refusal := h.refusal
  dialed := h.dialed
  handlers := by rw [handlers, h.services, handlers]
  issued := by rw [h.running]
  origins := by
    have horigins := congrArg (List.map Connection.origin) h.connections
    rwa [List.map_map, List.map_map] at horigins

/-! ## The registry -/

theorem find?_map (f : Registration → Registration) (hf : ∀ r, (f r).endpoint = r.endpoint) :
    ({ n with registry := n.registry.map f } : Network).find? e = (n.find? e).map f := by
  simp only [find?, List.find?_map, Function.comp_def, hf]

theorem find?_unregister :
    (n.unregister e).find? e' = if e' = e then none else n.find? e' := by
  simp only [find?, unregister, List.find?_filter]
  split
  · rename_i heq
    subst heq
    simp
  · rename_i hne
    congr 1
    ext r
    by_cases hr : r.endpoint = e' <;> simp [hr, hne]

theorem find?_registerFarEnd {farEnd : FarEnd} {capacity : Nat} (h : n.find? e = none) :
    (n.registerFarEnd e farEnd capacity).find? e' =
      if e' = e then some ⟨e, n.running.length, farEnd, capacity⟩ else n.find? e' := by
  simp only [find?, registerFarEnd, List.find?_append] at h ⊢
  by_cases heq : e' = e
  · subst heq
    simp [h]
  · simp [heq, Ne.symm heq]

theorem endpoint_of_find? {r : Registration} (h : n.find? e = some r) : r.endpoint = e := by
  simpa using List.find?_some h

end Network

namespace Registration

/-- The registration, if it is that of `e`, with another service or other keepalives. -/
def revised (e : Endpoint) (service keepalives : Nat → Nat) (r : Registration) : Registration :=
  match r.farEnd with
  | .server i count state =>
    if r.endpoint = e then { r with farEnd := .server (service i) (keepalives count) state } else r
  | _ => r

variable {service keepalives : Nat → Nat} {r : Registration}

theorem revised_endpoint : (r.revised e service keepalives).endpoint = r.endpoint := by
  unfold revised
  split
  · split <;> rfl
  · rfl

theorem revised_number : (r.revised e service keepalives).number = r.number := by
  unfold revised
  split
  · split <;> rfl
  · rfl

theorem revised_of_ne (h : r.endpoint ≠ e) : r.revised e service keepalives = r := by
  unfold revised
  split
  · exact if_neg h
  · rfl

end Registration

namespace Network

def revise (e : Endpoint) (service keepalives : Nat → Nat) (n : Network) : Network :=
  { n with registry := n.registry.map (Registration.revised e service keepalives) }

theorem setKeepalives_eq (count : Nat) : n.setKeepalives e count = n.revise e id fun _ => count :=
  rfl

/-- The network with one more handler, which nobody has asked yet. -/
def withHandler (handler : Handler) (n : Network) : Network :=
  { n with services := n.services ++ [⟨handler, []⟩] }

theorem register_of_find? {r : Registration} (h : n.find? e = some r) :
    n.register e handler = (n.withHandler handler).revise e (fun _ => n.services.length) id := by
  simp only [register]
  split
  · rename_i hnone
    exact absurd (h.symm.trans hnone) nofun
  · rfl

theorem register_of_find?_eq_none (h : n.find? e = none) :
    n.register e handler =
      (n.withHandler handler).registerFarEnd e (.server n.services.length 0 .start) 65536 := by
  simp only [register]
  split
  · rfl
  · rename_i r hsome
    exact absurd (h.symm.trans hsome) nofun

theorem handlers_withHandler : (n.withHandler handler).handlers = n.handlers ++ [handler] :=
  List.map_append

theorem find?_revise (service keepalives : Nat → Nat) :
    (n.revise e service keepalives).find? e' =
      (n.find? e').map (Registration.revised e service keepalives) :=
  find?_map _ fun _ => Registration.revised_endpoint

theorem number?_revise (service keepalives : Nat → Nat) :
    (n.revise e service keepalives).number? = n.number? := by
  funext e'
  rw [number?, find?_revise, Option.map_map, number?]
  congr 1
  funext r
  exact Registration.revised_number

theorem register_connections (e : Endpoint) (handler : Handler) :
    (n.register e handler).connections = n.connections := by
  cases hfind : n.find? e with
  | none => rw [register_of_find?_eq_none hfind]; rfl
  | some r => rw [register_of_find? hfind]; rfl

/-! ## Dialing -/

theorem prefix_dial (t : ThreadId) (e : Endpoint) :
    n.connections <+: (n.dial t e).2.connections := by
  simp only [dial]
  split
  · exact List.prefix_rfl
  · exact List.prefix_append ..

end Network

/-! ## The turn of a server -/

namespace Connection

variable (i keepalives : Nat) (l : ServerState.Line) (k : Connection)

@[simp] theorem served_endpoint : (k.served i keepalives l).endpoint = k.endpoint := by
  unfold served
  split <;> rfl

@[simp] theorem served_registration :
    (k.served i keepalives l).registration = k.registration := by
  unfold served
  split <;> rfl

@[simp] theorem served_farEnd :
    (k.served i keepalives l).farEnd = .server i keepalives l.state := by
  unfold served
  split <;> rfl

end Connection

namespace Network

/-- What may have become of a connection to a server, and of the network around it. -/
structure Turn (c : ConnectionId) (k : Connection) (i keepalives : Nat) (n n' : Network) :
    Prop where
  found : n.connections[c]? = some k
  server : ∃ state, k.farEnd = .server i keepalives state
  wasActive : k.isActive = true
  registry : n'.registry = n.registry
  refusal : n'.refusal = n.refusal
  dialed : n'.dialed = n.dialed
  handlers : n'.handlers = n.handlers
  moved : ∃ k', n'.connections = n.connections.set c k' ∧ k'.endpoint = k.endpoint ∧
    k'.registration = k.registration ∧ (∃ state, k'.farEnd = .server i keepalives state) ∧
    n'.running = if k'.isActive then n.running else n.running.modify k.registration (· - 1)

theorem consult_handlers (k : Connection) (i keepalives : Nat) (request : RequestFrame) :
    (n.consult c k i keepalives request).handlers = n.handlers := by
  refine List.ext_getElem? fun j => ?_
  simp only [handlers, consult, List.getElem?_map, List.getElem?_set]
  split
  · rename_i hj
    subst hj
    cases hservice : n.services[i]? with
    | none => simp [List.getElem?_eq_none_iff.1 hservice]
    | some s => simp [(List.getElem?_eq_some_iff.1 hservice).1]
  · rfl

theorem turn_of_step {i keepalives : Nat} {state : ServerState}
    (hk : n.connections[c]? = some k) (hfar : k.farEnd = .server i keepalives state)
    (h : n.step c = some n') : Turn c k i keepalives n n' := by
  have hactive : k.isActive = state.isRunning := by rw [Connection.isActive, hfar]
  rcases step_server hk hfar h with ⟨request, rfl, rfl⟩ | ⟨l, events, hl, rfl⟩
  · exact ⟨hk, ⟨_, hfar⟩, hactive, rfl, rfl, rfl, consult_handlers .., _, rfl, rfl, rfl, ⟨_, rfl⟩,
      rfl⟩
  · have hrunning : state.isRunning = true := by
      cases state with
      | ended result => cases hl
      | _ => rfl
    exact ⟨hk, ⟨_, hfar⟩, hactive.trans hrunning, rfl, rfl, rfl, rfl, _, rfl,
      k.served_endpoint i keepalives l, k.served_registration i keepalives l,
      ⟨_, k.served_farEnd i keepalives l⟩, by simp [Connection.isActive]⟩

theorem Turn.keeps {i keepalives : Nat} (h : Turn c k i keepalives n n') : n.Keeps n' := by
  obtain ⟨state, hfar⟩ := h.server
  obtain ⟨k', hconnections, hendpoint, hregistration, ⟨state', hfar'⟩, hrunning⟩ := h.moved
  refine ⟨fun e => by rw [find?, h.registry, find?], h.refusal, h.dialed, h.handlers, ?_, ?_⟩
  · rw [hrunning]
    split
    · rfl
    · exact List.length_modify ..
  · obtain ⟨hc, rfl⟩ := List.getElem?_eq_some_iff.1 h.found
    have horigin : k'.origin = n.connections[c].origin := by
      simp only [Connection.origin, hendpoint, hregistration, hfar', hfar, FarEnd.service?]
    rw [hconnections, List.map_set, horigin, ← List.map_set, List.set_getElem_self]

end Network
end ClusterProbe
