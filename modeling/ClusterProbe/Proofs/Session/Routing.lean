import ClusterProbe.Proofs.Session.Call

/-!
# Answers and the calls they belong to

Calls on one session follow one another, each of them may fail or be given up at any point, and the
peer may send anything at any time (`Session.Conversation`). The invariant ties the state of the
session to the stream: while the session is open and in step, what has been taken so far is made of
the frames of the complete calls, in order; once a call has broken it, no later call is answered.
-/
namespace ClusterProbe

variable {t : ThreadId} {s : SessionId} {c : ConnectionId} {w w' : World} {v : Session}

structure Turn where
  thread : ThreadId
  messenger : Messenger
  method : RemoteMethod
  body : Bytes
  /-- What happened while it lasted. -/
  events : Chronicle
  /-- Nothing if the call was given up. -/
  result : Option (Except SessionError Bytes)

namespace Turn

/-- The call was answered, if only by an error of the remote side. -/
def isAnswered (turn : Turn) : Bool :=
  match turn.result with
  | some (.ok _) | some (.error (.remote _)) => true
  | _ => false

/-- The call has got its number. -/
def isBegun (s : SessionId) (turn : Turn) : Bool :=
  (turn.events.stored s).any Session.inFlight

/-- The call has given the session back for the next call. -/
def isComplete (s : SessionId) (turn : Turn) : Bool :=
  (turn.events.stored s).any fun state => !state.isClosed

def sent (c : ConnectionId) (turn : Turn) : Bytes :=
  turn.events.sent c

def taken (c : ConnectionId) (turn : Turn) : Bytes :=
  turn.events.taken c

/-- The call takes the world from `w` to `w'`. -/
def Happens (turn : Turn) (w w' : World) : Prop :=
  ∃ w₁, (turn.messenger.call turn.method turn.body).Runs turn.thread w turn.result w₁ ∧
    w₁.past = w.past ++ turn.events ∧
    w' = if turn.result.isSome then w₁ else w₁.cancel turn.thread

/-- The call has written its whole request, with a number of its own, and then read one frame, with
the answer to that number, which is what it reports. -/
def Exchanges (c : ConnectionId) (turn : Turn) : Prop :=
  ∃ callId early late response, turn.events = early ++ late ∧
    early.sent c =
      Frame.segment 0 (turn.messenger.request turn.method turn.body callId).encode ∧
    early.taken c = [] ∧ late.sent c = [] ∧
    turn.messenger.Brings callId (late.taken c) response ∧
    ∀ r, turn.result = some r → r = Messenger.verdict response

end Turn

/-- Calls on session `s`, one after another. -/
def Session.Conversation (s : SessionId) : List Turn → World → World → Prop
  | [] => fun w w' => w' = w
  | turn :: turns => fun w w' => turn.messenger.session = s ∧
      ∃ w₁, turn.Happens w w₁ ∧ Conversation s turns w₁ w'

namespace World

theorem Balanced.cancel (h : w.Balanced c) (t : ThreadId) : (w.cancel t).Balanced c := by
  obtain ⟨k, hk, hbooks⟩ := h
  let drop := fun k : Connection =>
    if k.owner = some t then { k with owner := none }.closePipes else k
  refine ⟨drop k, ?_, ?_⟩
  · change (w.bed.network.connections.map drop)[c]? = _
    rw [List.getElem?_map, hk]
    rfl
  · change w.past.arrived c = w.past.taken c ++ (drop k).toClient.buffer
    have hbuffer : (drop k).toClient.buffer = k.toClient.buffer := by
      by_cases howner : k.owner = some t
      · simp only [drop, if_pos howner]
        rfl
      · simp only [drop, if_neg howner]
    rw [hbuffer, hbooks]

end World

namespace Turn

variable {turn : Turn}

theorem Happens.balanced (h : turn.Happens w w') (hc : w.Balanced c) : w'.Balanced c := by
  obtain ⟨w₁, hrun, _, rfl⟩ := h
  split
  · exact hrun.balanced hc
  · exact (hrun.balanced hc).cancel turn.thread

theorem Happens.has (h : turn.Happens w w') (hc : w.Has c) : w'.Has c := by
  obtain ⟨w₁, hrun, _, rfl⟩ := h
  split
  · exact hrun.has hc
  · unfold World.Has World.cancel Testbed.cancel Network.dropAll
    rw [List.length_map]
    exact hrun.has hc

theorem free_of_leaves {o : Option (Except SessionError Bytes)} {w₁ : World}
    (h : w₁.Leaves s v t o) (hw' : w' = if o.isSome then w₁ else w₁.cancel t) : w'.Free s v := by
  cases o with
  | none => exact hw' ▸ h.cancel
  | some r => exact hw' ▸ h

theorem happens_past {w₁ : World} {o : Option (Except SessionError Bytes)}
    (hw' : w' = if o.isSome then w₁ else w₁.cancel t) : w'.past = w₁.past := by
  cases o <;> rw [hw'] <;> rfl

theorem account_events {w₁ : World} {events : Chronicle} {a : Account} (h : w.Spans s c a w₁)
    (he : w₁.past = w.past ++ events) : events.account s c = a := by
  obtain ⟨⟨g, hg, ha⟩, _⟩ := h
  rw [hg, List.append_cancel_left_eq] at he
  rw [← he, ha]

theorem Happens.taken (h : turn.Happens w w') :
    w'.past.taken c = w.past.taken c ++ turn.taken c := by
  obtain ⟨w₁, _, hpast, hw'⟩ := h
  rw [happens_past hw', hpast, Chronicle.taken_append]
  rfl

theorem Happens.sent (h : turn.Happens w w') :
    w'.past.sent c = w.past.sent c ++ turn.sent c := by
  obtain ⟨w₁, _, hpast, hw'⟩ := h
  rw [happens_past hw', hpast, Chronicle.sent_append]
  rfl

theorem isComplete_eq_false (h : ∀ u ∈ turn.events.stored s, u.isClosed = true) :
    turn.isComplete s = false := by
  unfold isComplete
  rw [List.any_eq_false]
  intro u hu
  simp [h u hu]

theorem isAnswered_eq_false (h : ∀ r, turn.result = some r →
    ∃ e, r = .error e ∧ ∀ status, e ≠ .remote status) : turn.isAnswered = false := by
  unfold isAnswered
  split
  · rename_i r hr
    obtain ⟨e, he, _⟩ := h _ hr
    cases he
  · rename_i status hr
    obtain ⟨e, he, hne⟩ := h _ hr
    cases he
    exact absurd rfl (hne status)
  · rfl

/-- A call on a session that cannot carry it is not answered, and neither reads nor writes. -/
theorem Happens.of_closed (h : turn.Happens w w') (hs : turn.messenger.session = s)
    (hv : v.isClosed = true) (hw : w.Free s v) (c : ConnectionId) :
    (∃ v', v'.isClosed = true ∧ w'.Free s v') ∧ turn.isAnswered = false ∧
      turn.isComplete s = false ∧ turn.sent c = [] ∧ turn.taken c = [] := by
  subst hs
  obtain ⟨w₁, hrun, hpast, hw'⟩ := h
  obtain ⟨⟨v', stored, hungUp, hspans, hleaves, hclosed, hstored, _⟩, hresult⟩ :=
    Messenger.call_runs_closed (c := c) hv hw hrun
  have haccount := account_events hspans hpast
  refine ⟨⟨v', hclosed, free_of_leaves hleaves hw'⟩, ?_, ?_, congrArg Account.sent haccount,
    congrArg Account.taken haccount⟩
  · refine isAnswered_eq_false fun r hr => ?_
    rcases hresult r hr with rfl | rfl
    · exact ⟨_, rfl, nofun⟩
    · exact ⟨_, rfl, nofun⟩
  · refine isComplete_eq_false ?_
    rw [show turn.events.stored _ = stored from congrArg Account.stored haccount]
    exact hstored

/-- What a call on an open session in step leaves behind. -/
inductive Effects (s : SessionId) (c : ConnectionId) (v : Session) (turn : Turn) (w' : World) :
    Prop
  | idle (free : w'.Free s v) (begun : turn.isBegun s = false)
      (answered : turn.isAnswered = false) (complete : turn.isComplete s = false)
      (taken : turn.taken c = [])
  | broken {v' : Session} (free : w'.Free s v') (closed : v'.isClosed = true)
      (answered : turn.isAnswered = false) (complete : turn.isComplete s = false)
  | complete {v' : Session} (free : w'.Free s v') (isOpen : v'.OpenOn c)
      (complete : turn.isComplete s = true) (exchanges : turn.Exchanges c)

theorem Happens.of_open (h : turn.Happens w w') (hs : turn.messenger.session = s)
    (hv : v.OpenOn c) (hw : w.Free s v) (hc : w.Has c) : Effects s c v turn w' := by
  subst hs
  obtain ⟨w₁, hrun, hpast, hw'⟩ := h
  cases Messenger.call_runs hv hc hw hrun with
  | idle spans after result =>
    have haccount := account_events spans hpast
    have hstored : turn.events.stored turn.messenger.session = [] :=
      congrArg Account.stored haccount
    refine .idle (free_of_leaves after hw') ?_ ?_ ?_ (congrArg Account.taken haccount)
    · unfold isBegun
      rw [hstored]
      rfl
    · exact isAnswered_eq_false fun r hr => ⟨_, (result r hr).1, nofun⟩
    · unfold isComplete
      rw [hstored]
      rfl
  | @broken v' sent taken stored hungUp spans after closed begun recorded result =>
    have hstored : turn.events.stored turn.messenger.session = stored :=
      congrArg Account.stored (account_events spans hpast)
    refine .broken (free_of_leaves after hw') closed ?_ ?_
    · refine isAnswered_eq_false fun r hr => ?_
      obtain ⟨e, he, hfailed⟩ := result r hr
      have hbreaks := hfailed.breaksOff
      refine ⟨e, he, fun status hstatus => ?_⟩
      rw [hstatus] at hbreaks
      cases hbreaks
    · refine isComplete_eq_false ?_
      rw [hstored]
      exact recorded
  | @complete w₂ taken response asked answered brings after result =>
    have hstored : turn.events.stored turn.messenger.session = [v.begun, v.begun.finish] :=
      congrArg Account.stored (account_events (asked.trans answered) hpast)
    refine .complete (free_of_leaves after hw') hv.finish ?_ ?_
    · unfold isComplete
      rw [hstored]
      simp [hv.finish.isClosed]
    · obtain ⟨⟨early, hearly, heaccount⟩, _⟩ := asked
      obtain ⟨⟨late, hlate, hlaccount⟩, _⟩ := answered
      refine ⟨v.lastCallId + 1, early, late, response, ?_, congrArg Account.sent heaccount,
        congrArg Account.taken heaccount, congrArg Account.sent hlaccount, ?_, result⟩
      · rw [hlate, hearly, List.append_assoc, List.append_cancel_left_eq] at hpast
        exact hpast.symm
      · rw [show late.taken c = taken from congrArg Account.taken hlaccount]
        exact brings

end Turn

namespace Session

/-- Answers reach the calls they belong to: only complete calls are answered, each with the one
frame that it read, the stream from `start` on begins with those frames, one after another, and no
call is answered after one that got its number and was not completed. -/
structure Routed (s : SessionId) (c : ConnectionId) (turns : List Turn) (start stream : Bytes) :
    Prop where
  answered : ∀ turn ∈ turns, turn.isAnswered = true → turn.isComplete s = true
  exchanges : ∀ turn ∈ turns, turn.isComplete s = true → turn.Exchanges c
  stream : ∃ rest, stream = start ++
    ((turns.filter fun turn => turn.isComplete s).flatMap (Turn.taken c) ++ rest)
  broken : ∀ before turn after, turns = before ++ turn :: after → turn.isBegun s = true →
    turn.isComplete s = false → ∀ later ∈ after, later.isAnswered = false

theorem conversation_closed {turns : List Turn} (h : Conversation s turns w w')
    (hv : v.isClosed = true) (hw : w.Free s v) (c : ConnectionId) :
    w'.past.sent c = w.past.sent c ∧ w'.past.taken c = w.past.taken c ∧
      ∀ turn ∈ turns, turn.isAnswered = false ∧ turn.isComplete s = false := by
  induction turns generalizing w v with
  | nil =>
    obtain rfl := h
    exact ⟨rfl, rfl, nofun⟩
  | cons turn turns ih =>
    obtain ⟨hs, w₁, hturn, hturns⟩ := h
    obtain ⟨⟨v', hv', hw₁⟩, hanswered, hcomplete, hsent, htaken⟩ := hturn.of_closed hs hv hw c
    obtain ⟨hwritten, hread, hall⟩ := ih hturns hv' hw₁
    refine ⟨?_, ?_, fun turn' hmem => ?_⟩
    · rw [hwritten, hturn.sent, hsent, List.append_nil]
    · rw [hread, hturn.taken, htaken, List.append_nil]
    · rcases List.mem_cons.1 hmem with rfl | hmem
      · exact ⟨hanswered, hcomplete⟩
      · exact hall turn' hmem

/-- A call that was not completed and not answered either may stand in front. -/
theorem Routed.cons {turn : Turn} {turns : List Turn} {start mid stream : Bytes}
    (h : Routed s c turns mid stream)
    (hanswered : turn.isAnswered = true → turn.isComplete s = true)
    (hexchanges : turn.isComplete s = true → turn.Exchanges c)
    (hmid : mid = start ++ if turn.isComplete s then turn.taken c else [])
    (hbroken : turn.isBegun s = true → turn.isComplete s = false →
      ∀ later ∈ turns, later.isAnswered = false) :
    Routed s c (turn :: turns) start stream where
  answered := by
    intro turn' hmem
    rcases List.mem_cons.1 hmem with rfl | hmem
    · exact hanswered
    · exact h.answered turn' hmem
  exchanges := by
    intro turn' hmem
    rcases List.mem_cons.1 hmem with rfl | hmem
    · exact hexchanges
    · exact h.exchanges turn' hmem
  stream := by
    obtain ⟨rest, hrest⟩ := h.stream
    refine ⟨rest, ?_⟩
    rw [hrest, hmid, List.filter_cons]
    by_cases hcomplete : turn.isComplete s = true
    · rw [if_pos hcomplete, if_pos hcomplete, List.flatMap_cons, List.append_assoc,
        List.append_assoc]
    · rw [if_neg hcomplete, if_neg hcomplete, List.append_nil]
  broken := by
    intro before turn' after heq
    cases before with
    | nil =>
      obtain ⟨rfl, rfl⟩ := List.cons.inj heq
      exact hbroken
    | cons first before =>
      obtain ⟨_, heq⟩ := List.cons.inj heq
      exact h.broken before turn' after heq

theorem routed_of_unanswered {turns : List Turn}
    (h : ∀ turn ∈ turns, turn.isAnswered = false ∧ turn.isComplete s = false)
    (start rest : Bytes) : Routed s c turns start (start ++ rest) where
  answered := by
    intro turn hmem hanswered
    rw [(h turn hmem).1] at hanswered
    cases hanswered
  exchanges := by
    intro turn hmem hcomplete
    rw [(h turn hmem).2] at hcomplete
    cases hcomplete
  stream := by
    refine ⟨rest, ?_⟩
    rw [List.filter_eq_nil_iff.2 fun turn hmem => by simp [(h turn hmem).2]]
    rfl
  broken := by
    rintro before turn after rfl _ _ later hmem
    exact (h later (List.mem_append_right before (List.mem_cons_of_mem turn hmem))).1

/-- What has been taken from the stream is told by the calls, whatever becomes of them. -/
theorem routed_of_conversation {turns : List Turn} (h : Conversation s turns w w')
    (hv : v.OpenOn c) (hw : w.Free s v) (hc : w.Has c) :
    Routed s c turns (w.past.taken c) (w'.past.taken c) := by
  induction turns generalizing w v with
  | nil =>
    obtain rfl := h
    exact ⟨nofun, nofun, ⟨[], by simp⟩, by simp⟩
  | cons turn turns ih =>
    obtain ⟨hs, w₁, hturn, hturns⟩ := h
    have hc₁ : w₁.Has c := hturn.has hc
    cases hturn.of_open hs hv hw hc with
    | idle free begun answered complete taken =>
      refine (ih hturns hv free hc₁).cons ?_ ?_ ?_ ?_
      · simp [answered]
      · simp [complete]
      · rw [hturn.taken, complete, taken]
        rfl
      · simp [begun]
    | broken free closed answered complete =>
      obtain ⟨_, htaken, hall⟩ := conversation_closed hturns closed free c
      rw [htaken, hturn.taken]
      refine routed_of_unanswered (fun turn' hmem => ?_) _ _
      rcases List.mem_cons.1 hmem with rfl | hmem
      · exact ⟨answered, complete⟩
      · exact hall turn' hmem
    | complete free isOpen complete exchanges =>
      refine (ih hturns isOpen free hc₁).cons (fun _ => complete) (fun _ => exchanges) ?_ ?_
      · rw [hturn.taken, if_pos complete]
      · simp [complete]

theorem conversation_balanced {turns : List Turn} (h : Conversation s turns w w')
    (hc : w.Balanced c) : w'.Balanced c := by
  induction turns generalizing w with
  | nil =>
    obtain rfl := h
    exact hc
  | cons turn turns ih =>
    obtain ⟨_, w₁, hturn, hturns⟩ := h
    exact ih hturns (hturn.balanced hc)

/-- **Responses are never misrouted.** Whatever the peer sends, and whichever calls fail or are
given up, the calls of a conversation and the frames that arrive on its connection belong together
as `Session.Routed` says. -/
theorem conversation_routed {turns : List Turn} (h : Conversation s turns w w')
    (hv : v.OpenOn c) (hw : w.Free s v) (hc : w.Balanced c) :
    Routed s c turns (w.past.taken c) (w'.past.arrived c) := by
  have hrouted := routed_of_conversation h hv hw hc.has
  obtain ⟨rest, hrest⟩ := hrouted.stream
  obtain ⟨k, _, hbooks⟩ := conversation_balanced h hc
  refine { hrouted with stream := ⟨rest ++ k.toClient.buffer, ?_⟩ }
  rw [hbooks, hrest]
  simp only [List.append_assoc]

end Session

/-- A world in which the answer to the first call on a session stands ready, behind an empty
frame. -/
def World.answering : World :=
  let endpoint : Endpoint := ⟨"n1", 7100⟩
  let answer := Frame.segment 1 (ResponseFrame.success 1 [7]).encode
  let connection : Connection :=
    { endpoint, registration := 0, toServer := {}, toClient := { buffer := answer }
      farEnd := .script [] false [] }
  { bed :=
      { network := { connections := [connection] }
        sessions := [⟨{ endpoint, stream := some 0 }, []⟩] }
    past := [.arrived 0 answer] }

def Messenger.answering : Messenger where
  session := 0
  endpoint := ⟨"n1", 7100⟩

theorem Messenger.answering_runs : ∃ r w', r.toOption = some [7] ∧
    (answering.call ⟨"Service", "Method"⟩ [1]).Runs 0 .answering (some r) w' := by
  have hplay : (World.answering.play 0 (answering.call ⟨"Service", "Method"⟩ [1]) []).any
      (fun x => decide (x.1.toOption = some [7])) = true := by decide +kernel
  obtain ⟨⟨r, w'⟩, hplay, hr⟩ := (Option.any_eq_true _ _).1 hplay
  exact ⟨r, w', of_decide_eq_true hr, World.runs_of_play hplay⟩

theorem World.answering_balanced : World.answering.Balanced 0 := ⟨_, rfl, by decide +kernel⟩

namespace Session

theorem conversation_routed_answered : ∃ turn w', turn.isAnswered = true ∧
    Conversation 0 [turn] .answering w' ∧ Routed 0 0 [turn] [] (w'.past.arrived 0) := by
  obtain ⟨r, w', hr, hrun⟩ := Messenger.answering_runs
  obtain ⟨events, hevents⟩ := hrun.past
  let turn : Turn :=
    { thread := 0, messenger := .answering, method := ⟨"Service", "Method"⟩, body := [1], events
      result := some r }
  have hconversation : Conversation 0 [turn] .answering w' :=
    ⟨rfl, w', ⟨w', hrun, hevents, rfl⟩, rfl⟩
  have hrouted := conversation_routed hconversation ⟨rfl, rfl⟩ rfl World.answering_balanced
  refine ⟨turn, w', ?_, hconversation, hrouted⟩
  cases r with
  | ok => rfl
  | error => cases hr

end Session
end ClusterProbe
