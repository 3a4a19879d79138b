import ClusterProbe.Proofs.Frame
import ClusterProbe.Proofs.Session.Clerk

/-!
# The stream of requests

What the threads of a session have written so far: whole requests with the numbers 1, 2, 3 and so
on, each of another thread, and at most one more that is begun. While that one is being written
nobody else writes, and if it is given up nobody ever writes again.
-/
namespace ClusterProbe

open Trade Shared

/-- Requests one after another, each behind its length. -/
def Frame.requests (fs : List RequestFrame) : Bytes :=
  fs.flatMap fun f => Frame.segment 0 f.encode

theorem Frame.segment_ne_nil (skipped : Nat) (payload : Bytes) :
    Frame.segment skipped payload ≠ [] := by
  intro h
  have hlen := congrArg List.length h
  simp only [Frame.segment, Frame.opening, List.length_append, Bytes.length_bigEndian32,
    List.length_nil] at hlen
  omega

/-- The requests carry the numbers from 1 on. -/
def RequestFrame.Numbered (fs : List RequestFrame) : Prop :=
  ∀ (k : Nat) f, fs[k]? = some f → f.header.callId.toInt = k + 1

theorem RequestFrame.Numbered.concat {fs : List RequestFrame} {f : RequestFrame}
    (h : Numbered fs) (hf : f.header.callId.toInt = fs.length + 1) : Numbered (fs ++ [f]) := by
  intro k g hg
  by_cases hk : k < fs.length
  · rw [List.getElem?_append_left hk] at hg
    exact h k g hg
  · rw [List.getElem?_append_right (Nat.le_of_not_lt hk), List.getElem?_singleton] at hg
    split at hg
    · rename_i hzero
      cases hg
      have hlast : k = fs.length := by omega
      rw [hf, hlast]
    · cases hg

theorem toInt_add_one_of_lt {n : Int32} (h : n < Int32.maxValue) : (n + 1).toInt = n.toInt + 1 := by
  have hlt : n.toInt < 2147483647 := Int32.lt_iff_toInt_lt.1 h
  have hle : -2147483648 ≤ n.toInt := n.le_toInt
  have hone : (1 : Int32).toInt = 1 := rfl
  rw [Int32.toInt_add, hone]
  apply Int.bmod_eq_of_le
  · omega
  · omega

namespace Session

/-- A request and the thread that sends it. -/
structure Asked where
  author : ThreadId
  request : RequestFrame

/-- A request that is not known to be whole yet, and what has been written of it. -/
structure Draft where
  asked : Asked
  written : Bytes

theorem Use.request?_callId {a : Use} {callId : Int32} {request : RequestFrame}
    (h : a.request? callId = some request) : request.header.callId = callId := by
  cases a with
  | call m method body =>
    cases h
    rfl
  | close => cases h

/-- Phases follow one another in this order. -/
def Phase.rank : Phase → Nat
  | .fresh => 0
  | .took _ => 1
  | .asking _ _ _ => 2
  | .stuck _ => 3
  | .settled _ => 4
  | .gone => 5

variable {s : SessionId} {c : ConnectionId} {pings : List RequestFrame} {w w' : World}
  {Q : (uses s).Posts Phase} {t : ThreadId} {a : Use} {phase phase' : Phase} {v v' : Session}
  {calls : List Asked} {draft : Option Draft}

/-- It is the request that its author was sent to make, under the number it got. -/
def Asked.Posted (Q : (uses s).Posts Phase) (x : Asked) : Prop :=
  ∃ a phase, Q x.author = some (a, phase) ∧ 2 ≤ phase.rank ∧
    a.request? x.request.header.callId = some x.request

/-- Who may write: nobody, and the next one to take the session may begin if it is open and in step;
or nobody but the author of the draft. -/
inductive Desk (c : ConnectionId) (count : Nat) (Q : (uses s).Posts Phase) (v : Session) :
    Option Draft → Prop
  | clear (next : v.stream = none ∨ v.OpenOn c ∧ v.lastCallId.toInt = count)
      (idle : ∀ t a u f rest, Q t ≠ some (a, .asking u f rest)) : Desk c count Q v none
  | busy {x : Asked} {written : Bytes} (closed : v.isClosed = true)
      (begun : written <+: Frame.segment 0 x.request.encode)
      (fits : written ≠ [] → x.request.encode.length < 2 ^ 32)
      (writer : ∀ t a u f rest, Q t = some (a, .asking u f rest) → t = x.author ∧ f = x.request ∧
        written ++ rest = Frame.segment 0 f.encode ∧ u.stream = some c ∧
        u.lastCallId.toInt = count + 1) :
      Desk c count Q v (some ⟨x, written⟩)

/-- What has been written on connection `c`, for whom, and what is under way. -/
structure Ledger (c : ConnectionId) (pings : List RequestFrame) (Q : (uses s).Posts Phase)
    (w : World) (calls : List Asked) (draft : Option Draft) (v : Session) : Prop where
  value : valueAt w.bed.sessions s = some v
  custody : Q.Custody Phase.held s w.bed
  stream : v.stream = some c ∨ v.stream = none
  sent : w.past.sent c = Frame.hello ++ Frame.requests (pings ++ calls.map Asked.request) ++
    (draft.map Draft.written).getD []
  numbered : RequestFrame.Numbered
    (pings ++ (calls ++ (draft.map Draft.asked).toList).map Asked.request)
  fits : ∀ x ∈ calls, x.request.encode.length < 2 ^ 32
  posted : ∀ x ∈ calls ++ (draft.map Draft.asked).toList, x.Posted Q
  once : ((calls ++ (draft.map Draft.asked).toList).map Asked.author).Nodup
  desk : Desk c (pings.length + calls.length) Q v draft

namespace Ledger

theorem still (h : Ledger c pings Q w calls draft v) (hcustody : Q.Custody Phase.held s w'.bed)
    (hvalue : valueAt w'.bed.sessions s = valueAt w.bed.sessions s)
    (hsent : w'.past.sent c = w.past.sent c) : Ledger c pings Q w' calls draft v :=
  { h with
    value := hvalue.trans h.value
    custody := hcustody
    sent := hsent.trans h.sent }

theorem eq_of_stream {c' : ConnectionId} (h : Ledger c pings Q w calls draft v)
    (hstream : v.stream = some c') : c' = c := by
  rcases h.stream with hsome | hnone
  · exact Option.some.inj (hstream.symm.trans hsome)
  · rw [hstream] at hnone
    cases hnone

theorem posted_update (h : ∀ x ∈ calls, x.Posted Q)
    (hpost : Q t = none ∨
      ∃ phase, Q t = some (a, phase) ∧ phase.rank ≤ phase'.rank) :
    ∀ x ∈ calls, x.Posted (Function.update Q t (some (a, phase'))) := by
  intro x hx
  obtain ⟨a', phase₀, hx', hbegun, hrequest⟩ := h x hx
  obtain ⟨phase₁, hposted, hkept⟩ := Posts.exists_update (R := fun p q => p.rank ≤ q.rank)
    (fun _ => Nat.le_refl _) hpost hx'
  exact ⟨a', phase₁, hposted, hbegun.trans hkept, hrequest⟩

/-- A thread takes a step in which nothing is written and no call begins or ends well. -/
theorem moved (h : Ledger c pings Q w calls draft v)
    (hpost : Q t = none ∨
      ∃ phase, Q t = some (a, phase) ∧ phase.rank ≤ phase'.rank)
    (hasking : ∀ u f rest, phase' ≠ .asking u f rest)
    (hcustody : Posts.Custody Phase.held s (Function.update Q t (some (a, phase'))) w'.bed)
    (hvalue : valueAt w'.bed.sessions s = some v') (hv : v' = v ∨ v'.stream = none)
    (hsent : w'.past.sent c = w.past.sent c) :
    Ledger c pings (Function.update Q t (some (a, phase'))) w' calls draft v' where
  value := hvalue
  custody := hcustody
  stream := by
    rcases hv with rfl | hnone
    · exact h.stream
    · exact .inr hnone
  sent := hsent.trans h.sent
  numbered := h.numbered
  fits := h.fits
  posted := posted_update h.posted hpost
  once := h.once
  desk := by
    -- whoever writes after the step has been writing before
    have hbefore (t' : ThreadId) (a' : Use) (u : Session) (f : RequestFrame) (rest : Bytes)
        (ht' : Function.update Q t (some (a, phase')) t' = some (a', .asking u f rest)) :
        Q t' = some (a', .asking u f rest) := by
      rcases Posts.of_update ht' with ⟨-, -, heq⟩ | ⟨-, ht'⟩
      · exact absurd heq.symm (hasking u f rest)
      · exact ht'
    cases h.desk with
    | clear next idle =>
      refine .clear ?_ fun t' a' u f rest ht' => idle t' a' u f rest (hbefore t' a' u f rest ht')
      rcases hv with rfl | hnone
      · exact next
      · exact .inl hnone
    | busy closed begun fits writer =>
      refine .busy ?_ begun fits fun t' a' u f rest ht' =>
        writer t' a' u f rest (hbefore t' a' u f rest ht')
      rcases hv with rfl | hnone
      · exact closed
      · unfold isClosed
        rw [hnone]
        rfl

/-- A thread that has found the session open and in step marks it. -/
theorem begins {c' : ConnectionId} {request : RequestFrame}
    (h : Ledger c pings Q w calls draft v) (hpost : Q t = some (a, .took v)) (hv : v.OpenOn c')
    (hlt : v.lastCallId < Int32.maxValue)
    (hrequest : a.request? v.begun.lastCallId = some request)
    (hcustody : Posts.Custody Phase.held s (Function.update Q t
      (some (a, .asking v.begun request (Frame.segment 0 request.encode)))) w'.bed)
    (hvalue : valueAt w'.bed.sessions s = some v.begun)
    (hsent : w'.past.sent c = w.past.sent c) :
    Ledger c pings (Function.update Q t
      (some (a, .asking v.begun request (Frame.segment 0 request.encode)))) w' calls
      (some ⟨⟨t, request⟩, []⟩) v.begun := by
  have hc : v.stream = some c := h.eq_of_stream hv.stream ▸ hv.stream
  have hdesk := h.desk
  cases hdesk with
  | busy closed begun fits writer =>
    rw [hv.isClosed] at closed
    cases closed
  | clear next idle =>
    have hcount : v.lastCallId.toInt = (pings.length + calls.length : Nat) := by
      rcases next with hnone | ⟨-, hcount⟩
      · rw [hc] at hnone
        cases hnone
      · exact hcount
    have hnumber : v.begun.lastCallId.toInt = (pings.length + calls.length : Nat) + 1 := by
      change (v.lastCallId + 1).toInt = _
      rw [toInt_add_one_of_lt hlt, hcount]
    have hfresh : t ∉ calls.map Asked.author := by
      intro hmem
      obtain ⟨x, hx, rfl⟩ := List.mem_map.1 hmem
      obtain ⟨a', phase', hx', hbegun, -⟩ := h.posted x (List.mem_append_left _ hx)
      rw [hpost] at hx'
      cases hx'
      exact absurd hbegun (Nat.not_succ_le_self 1)
    have hposted : ∀ x ∈ _, Asked.Posted (Function.update Q t
        (some (a, .asking v.begun request (Frame.segment 0 request.encode)))) x :=
      posted_update h.posted (.inr ⟨_, hpost, Nat.le_of_ble_eq_true rfl⟩)
    have hnumbered := h.numbered
    simp only [Option.map_none, Option.toList_none, List.append_nil] at hnumbered
    have honce := h.once
    simp only [Option.map_none, Option.toList_none, List.append_nil] at honce
    exact {
      value := hvalue
      custody := hcustody
      stream := .inl hc
      sent := hsent.trans h.sent
      numbered := by
        simp only [Option.map_some, Option.toList_some, List.map_append, List.map_cons,
          List.map_nil]
        rw [← List.append_assoc]
        apply hnumbered.concat
        rw [Use.request?_callId hrequest, hnumber, List.length_append, List.length_map]
      fits := h.fits
      posted := fun x hx => by
        rcases List.mem_append.1 hx with hx | hx
        · exact hposted x (List.mem_append_left _ hx)
        · obtain rfl : x = ⟨t, request⟩ := List.mem_singleton.1 hx
          refine ⟨a, _, Function.update_self .., Nat.le_refl 2, ?_⟩
          rw [Use.request?_callId hrequest, hrequest]
      once := by
        simp only [Option.map_some, Option.toList_some, List.map_append, List.map_cons,
          List.map_nil]
        exact List.nodup_append.2 ⟨honce, List.nodup_singleton t, fun x hx y hy heq => by
          rw [List.mem_singleton] at hy
          exact hfresh (hy ▸ heq ▸ hx)⟩
      desk := by
        refine .busy v.begun_isClosed List.nil_prefix (fun hne => absurd rfl hne) ?_
        intro t' a' u f rest ht'
        rcases Posts.of_update ht' with ⟨heq, -, hasks⟩ | ⟨-, ht'⟩
        · cases hasks
          exact ⟨heq, rfl, rfl, hc, hnumber⟩
        · exact absurd ht' (idle t' a' u f rest) }

/-- The author of the draft writes some more of it. -/
theorem writes {u : Session} {request : RequestFrame} {rest bytes : Bytes} {n : Nat}
    (h : Ledger c pings Q w calls draft v) (hpost : Q t = some (a, .asking u request rest))
    (hbytes : bytes <+: rest) (hfits : request.encode.length < 2 ^ 32)
    (hcustody : Posts.Custody Phase.held s (Function.update Q t
      (some (a, .asking u request (rest.drop (bytes.take n).length)))) w'.bed)
    (hvalue : valueAt w'.bed.sessions s = some v)
    (hsent : w'.past.sent c = w.past.sent c ++ bytes.take n) :
    ∃ draft', Ledger c pings (Function.update Q t
      (some (a, .asking u request (rest.drop (bytes.take n).length)))) w' calls draft' v := by
  have hdesk := h.desk
  cases hdesk with
  | clear next idle => exact absurd hpost (idle t a u request rest)
  | @busy x written closed begun fits writer =>
    obtain ⟨rfl, rfl, hwhole, hstream, hnumber⟩ := writer t a u request rest hpost
    have hsplit : bytes.take n ++ rest.drop (bytes.take n).length = rest :=
      (List.prefix_iff_eq_append.1 ((List.take_prefix n bytes).trans hbytes)).symm ▸ rfl
    have hwhole' : (written ++ bytes.take n) ++ rest.drop (bytes.take n).length =
        Frame.segment 0 x.request.encode := by
      rw [List.append_assoc, hsplit, hwhole]
    exact ⟨some ⟨x, written ++ bytes.take n⟩, {
      value := hvalue
      custody := hcustody
      stream := h.stream
      sent := by
        rw [hsent, h.sent]
        exact List.append_assoc _ _ _
      numbered := h.numbered
      fits := h.fits
      posted := posted_update h.posted (.inr ⟨_, hpost, Nat.le_of_ble_eq_true rfl⟩)
      once := h.once
      desk := by
        refine .busy closed ⟨_, hwhole'⟩ (fun _ => hfits) fun t' a' u' f rest' ht' => ?_
        rcases Posts.of_update ht' with ⟨heq, -, hasks⟩ | ⟨hne, ht'⟩
        · cases hasks
          exact ⟨heq, rfl, hwhole', hstream, hnumber⟩
        · exact absurd (writer t' a' u' f rest' ht').1 hne }⟩

/-- The author of the draft has written all of it, has got its answer and gives the session back. -/
theorem finishes {u : Session} {request : RequestFrame}
    (h : Ledger c pings Q w calls draft v) (hpost : Q t = some (a, .asking u request []))
    (hcustody : Posts.Custody Phase.held s
      (Function.update Q t (some (a, .settled u.finish))) w'.bed)
    (hvalue : valueAt w'.bed.sessions s = some u.finish)
    (hsent : w'.past.sent c = w.past.sent c) :
    Ledger c pings (Function.update Q t (some (a, .settled u.finish))) w'
      (calls ++ [⟨t, request⟩]) none u.finish := by
  have hdesk := h.desk
  cases hdesk with
  | clear next idle => exact absurd hpost (idle t a u request [])
  | @busy x written closed begun fits writer =>
    obtain ⟨rfl, rfl, hwhole, hstream, hnumber⟩ := writer t a u request [] hpost
    obtain rfl : written = Frame.segment 0 x.request.encode := (List.append_nil _).symm.trans hwhole
    have hposted : ∀ y ∈ _, Asked.Posted
        (Function.update Q x.author (some (a, .settled u.finish))) y :=
      posted_update h.posted (.inr ⟨_, hpost, Nat.le_of_ble_eq_true rfl⟩)
    have hnone : (calls ++ [x]) ++ ((none : Option Draft).map Draft.asked).toList = calls ++ [x] :=
      List.append_nil _
    have hsent' := h.sent
    simp only [Option.map_some, Option.getD_some] at hsent'
    exact {
      value := hvalue
      custody := hcustody
      stream := .inl hstream
      sent := by
        rw [hsent, hsent']
        simp [Frame.requests]
      numbered := by
        rw [hnone]
        exact h.numbered
      fits := fun y hy => by
        rcases List.mem_append.1 hy with hy | hy
        · exact h.fits y hy
        · obtain rfl : y = x := List.mem_singleton.1 hy
          exact fits (Frame.segment_ne_nil 0 _)
      posted := by
        rw [hnone]
        exact hposted
      once := by
        rw [hnone]
        exact h.once
      desk := by
        refine .clear (.inr ⟨⟨hstream, rfl⟩, ?_⟩) fun t' a' u' f rest ht' => ?_
        · rw [List.length_append, List.length_singleton]
          exact hnumber.trans (by omega)
        · rcases Posts.of_update ht' with ⟨-, -, hasks⟩ | ⟨hne, ht'⟩
          · cases hasks
          · exact absurd (writer t' a' u' f rest ht').1 hne }

end Ledger

theorem sent_of_silent {e : Effect} (he : e.isSilent = true) (r : e.Response) :
    (Event.answered t e r).sent c = [] := by
  cases e <;> first | rfl | cases he

theorem recorded_of_untouching {e : Effect} (he : e.touchesSessions = false) (v : Session) :
    e.recorded s v = v := by
  cases e <;> first | rfl | cases he

theorem Phase.rank_le_gone (phase : Phase) : phase.rank ≤ Phase.gone.rank := by
  cases phase <;> exact Nat.le_of_ble_eq_true rfl

theorem Phase.rank_le_after {e : Effect} (h : phase.Allows s a e) (r : e.Response) :
    phase.rank ≤ (phase.after a e r).rank := by
  by_cases hsilent : e.isSilent = true
  · rw [after_silent hsilent]
  cases phase with
  | fresh => exact Nat.zero_le _
  | gone => exact absurd h hsilent
  | took v =>
    cases e <;> first | exact absurd h hsilent | skip
    case store s' v' =>
      simp only [after]
      split <;> exact Nat.le_of_ble_eq_true rfl
    case release s' => exact Nat.le_of_ble_eq_true rfl
  | asking v request rest =>
    cases e <;> first | exact absurd h hsilent | skip
    case write c bytes => cases r <;> exact Nat.le_of_ble_eq_true rfl
    case store s' v' => exact Nat.le_of_ble_eq_true rfl
    case release s' => exact Nat.le_of_ble_eq_true rfl
  | stuck v | settled v =>
    cases e <;> first | exact absurd h hsilent | skip
    all_goals exact Nat.le_of_ble_eq_true rfl

/-- Whatever a thread gets, the books go on: a call begins, writes, or ends well, or nothing is
written at all. -/
theorem Ledger.answered {e : Effect} {r : e.Response} (h : Ledger c pings Q w calls draft v)
    (hpost : Q t = some (a, phase)) (hallows : phase.Allows s a e) (hanswers : w.Answers t e r w') :
    ∃ calls' draft' v',
      Ledger c pings (Function.update Q t (some (a, phase.after a e r))) w' calls' draft' v' := by
  have hhandles := Phase.handles hallows r
  have hcustody := h.custody.answered hpost hanswers hhandles
  have hvalue := hanswers.value hhandles h.value
  have hsent := hanswers.sent c
  have hkept : Q t = none ∨
      ∃ phase', Q t = some (a, phase') ∧ phase'.rank ≤ (phase.after a e r).rank :=
    .inr ⟨phase, hpost, Phase.rank_le_after hallows r⟩
  by_cases hsilent : e.isSilent = true
  · rw [Phase.after_silent hsilent, ← hpost, Function.update_eq_self] at hcustody ⊢
    rw [sent_of_silent hsilent, List.append_nil] at hsent
    rw [recorded_of_untouching (Effect.isSilent_untouching hsilent)] at hvalue
    exact ⟨calls, draft, v, h.still hcustody (hvalue.trans h.value.symm) hsent⟩
  cases e with
  | write c' bytes =>
    cases phase with
    | asking u request rest =>
      obtain ⟨hstream, hbytes, hfits⟩ := hallows
      obtain rfl := h.custody.eq_of_held hpost h.value rfl
      obtain rfl := h.eq_of_stream hstream
      cases r with
      | error error =>
        replace hsent := hsent.trans (List.append_nil _)
        exact ⟨calls, draft, u, h.moved hkept (by rintro _ _ _ ⟨⟩) hcustody hvalue (.inl rfl) hsent⟩
      | ok n =>
        have hwrote : (Event.answered t (.write c' bytes) (.ok n)).sent c' = bytes.take n :=
          if_pos rfl
        rw [hwrote] at hsent
        obtain ⟨draft', h'⟩ := h.writes hpost hbytes hfits hcustody hvalue hsent
        exact ⟨calls, draft', u, h'⟩
    | _ => exact absurd hallows hsilent
  | acquire s' =>
    cases phase with
    | fresh =>
      replace hsent := hsent.trans (List.append_nil _)
      exact ⟨calls, draft, v, h.moved hkept (by rintro _ _ _ ⟨⟩) hcustody hvalue (.inl rfl) hsent⟩
    | _ => exact absurd hallows hsilent
  | store s' v' =>
    replace hsent := hsent.trans (List.append_nil _)
    cases phase with
    | took u =>
      obtain ⟨rfl, hrecords⟩ := hallows
      rw [Effect.recorded, if_pos rfl] at hvalue
      rcases hrecords with hclosed | ⟨c', request, hopen, hlt, rfl, hrequest⟩
      · rw [Phase.after_took_store hclosed] at hcustody hkept ⊢
        exact ⟨calls, draft, v',
          h.moved hkept (by rintro _ _ _ ⟨⟩) hcustody hvalue (.inr hclosed) hsent⟩
      · rw [Phase.after_took_begun hopen hrequest] at hcustody ⊢
        obtain rfl := h.custody.eq_of_held hpost h.value rfl
        exact ⟨calls, _, _, h.begins hpost hopen hlt hrequest hcustody hvalue hsent⟩
    | asking u request rest =>
      obtain ⟨rfl, hrecords⟩ := hallows
      rw [Effect.recorded, if_pos rfl] at hvalue
      rcases hrecords with hclosed | ⟨rfl, rfl⟩
      · exact ⟨calls, draft, v',
          h.moved hkept (by rintro _ _ _ ⟨⟩) hcustody hvalue (.inr hclosed) hsent⟩
      · exact ⟨_, _, _, h.finishes hpost hcustody hvalue hsent⟩
    | stuck u =>
      obtain ⟨rfl, hclosed⟩ := hallows
      rw [Effect.recorded, if_pos rfl] at hvalue
      exact ⟨calls, draft, v',
        h.moved hkept (by rintro _ _ _ ⟨⟩) hcustody hvalue (.inr hclosed) hsent⟩
    | _ => exact absurd hallows hsilent
  | release s' =>
    replace hsent := hsent.trans (List.append_nil _)
    cases phase with
    | fresh | gone => exact absurd hallows hsilent
    | _ =>
      exact ⟨calls, draft, v,
        h.moved hkept (by rintro _ _ _ ⟨⟩) hcustody hvalue (.inl rfl) hsent⟩
  | openSession endpoint c' => cases phase <;> exact absurd hallows hsilent
  | _ => exact absurd rfl hsilent

/-- What has been written is in order after every step of the crew. -/
theorem ledger_keeps (s : SessionId) (c : ConnectionId) (pings : List RequestFrame) :
    (conduct s).Keeps fun Q w => ∃ calls draft v, Ledger c pings Q w calls draft v where
  starts := by
    rintro Q w t a ⟨calls, draft, v, h⟩ hvacant
    have hcustody : Posts.Custody Phase.held s (Function.update Q t (some (a, .fresh))) w.bed :=
      h.custody.release (.refl t _) rfl
    exact ⟨calls, draft, v, h.moved (.inl hvacant) nofun hcustody h.value (.inl rfl) rfl⟩
  answered := by
    rintro Q w t a phase e r w' ⟨calls, draft, v, h⟩ hpost hallows hanswers
    exact h.answered hpost hallows hanswers
  stalled := by
    rintro Q w t a phase e w' ⟨calls, draft, v, h⟩ hpost hallows hstalls
    have hvalue := hstalls.jostles.1.value s
    have hwaits : World.Waits t e w w' := .stalls .refl hstalls
    exact ⟨calls, draft, v, h.still (h.custody.stalled hstalls) hvalue (hwaits.sent c)⟩
  finished := by
    rintro Q w t a phase result ⟨calls, draft, v, h⟩ hpost hends
    exact ⟨calls, draft, v, h.still h.custody rfl rfl⟩
  cancelled := by
    rintro Q w t a phase ⟨calls, draft, v, h⟩ hpost
    have hcustody : Posts.Custody Phase.held s (Function.update Q t (some (a, .gone)))
        (w.cancel t).bed := h.custody.release (w.cancel_jostles t) rfl
    have hvalue := ((w.cancel_jostles t).value s).trans h.value
    exact ⟨calls, draft, v,
      h.moved (.inr ⟨phase, hpost, phase.rank_le_gone⟩) nofun hcustody hvalue (.inl rfl) rfl⟩
  moves := by
    rintro Q w w' ⟨calls, draft, v, h⟩ hmoves
    have hsessions := hmoves.shares.sessions
    have hwaits : World.Waits 0 .clock w w' := .moves .refl hmoves
    exact ⟨calls, draft, v, h.still (h.custody.of_eq hsessions)
      (congrArg (valueAt · s) hsessions) (hwaits.sent c)⟩

end Session
end ClusterProbe
