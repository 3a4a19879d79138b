import ClusterProbe.Proofs.World.Account
import ClusterProbe.Session.Call

/-!
# What an exchange does to its connection

A request is written before anything is read, and writing it takes nothing from the stream. The
reader of the answer starts at the beginning of a frame and follows the bytes it takes
(`World.Reading`), so an exchange that succeeds has taken one segment with the answer to the call,
and one that fails has not (`Messenger.Exchanged`).
-/
namespace ClusterProbe

variable {t : ThreadId} {s : SessionId} {c : ConnectionId} {w w' : World}

theorem Pipe.write_pos {bytes : Bytes} {p p' : Pipe} {n : Nat}
    (h : p.write bytes = some (.ok n, p')) (hb : bytes ≠ []) : 0 < n := by
  have hlen := List.length_pos_iff.2 hb
  unfold Pipe.write at h
  split at h
  · simp at h
  · split at h
    · simp at h
    · simp only [Option.some.injEq, Prod.mk.injEq, Except.ok.injEq] at h
      omega

theorem World.Settles.write_pos {bytes : Bytes} {n : Nat}
    (h : w.Settles t (.write c bytes) (.ok n) w') (hb : bytes ≠ []) : 0 < n := by
  obtain ⟨w₁, _, bed, hanswer | ⟨⟨error, herror⟩, _⟩, rfl⟩ := h
  · simp only [Testbed.answer] at hanswer
    split at hanswer
    · simp at hanswer
    · split at hanswer
      · simp at hanswer
      · rename_i result toServer hwrite
        simp only [Prod.mk.injEq, Option.some.injEq] at hanswer
        obtain ⟨rfl, _⟩ := hanswer
        exact Pipe.write_pos hwrite hb
  · cases herror

namespace Stream

theorem writePieces_runs {fuel : Nat} {bytes : Bytes} {o : Option (Except IoError Unit)}
    (h : (writePieces c fuel bytes).Runs t w o w') (hfuel : bytes.length ≤ fuel) :
    ∃ sent, w.Passes s c { sent } w' ∧ (o = some (.ok ()) → sent = bytes) := by
  induction fuel generalizing bytes w with
  | zero =>
    obtain rfl := List.length_eq_zero_iff.1 (Nat.le_zero.1 hfuel)
    obtain ⟨_, rfl⟩ := h
    exact ⟨[], .refl w', fun _ => rfl⟩
  | succ fuel ih =>
    by_cases hb : bytes = []
    · subst hb
      obtain ⟨_, rfl⟩ := h
      exact ⟨[], .refl w', fun _ => rfl⟩
    · rw [writePieces, Job.runs_ask_bind] at h
      · rcases h with ⟨r, w₁, hs, hnext⟩ | ⟨rfl, hwait⟩
        · have hpasses := hs.passes (s := s) (c := c) rfl rfl nofun
          cases r with
          | error error =>
            obtain ⟨rfl, rfl⟩ := hnext
            exact ⟨[], hpasses, nofun⟩
          | ok n =>
            have hn := hs.write_pos hb
            have hrest : (bytes.drop n).length ≤ fuel := by
              rw [List.length_drop]
              omega
            obtain ⟨sent, hsent, hall⟩ := ih hnext hrest
            refine ⟨bytes.take n ++ sent, (hpasses.trans hsent).of_eq (by simp), fun ho => ?_⟩
            rw [hall ho, List.take_append_drop]
        · exact ⟨[], hwait.passes rfl rfl nofun, nofun⟩
      · exact hb

theorem writeAll_runs {bytes : Bytes} {o : Option (Except IoError Unit)}
    (h : (writeAll c bytes).Runs t w o w') :
    ∃ sent, w.Passes s c { sent } w' ∧ (o = some (.ok ()) → sent = bytes) :=
  writePieces_runs h (Nat.le_refl _)

end Stream

namespace World

/-- A frame is being read from connection `c`, and the bytes taken for it so far are `chunk`. -/
def Reading (w : World) (c : ConnectionId) (limit : Nat) (chunk : Bytes) : Prop :=
  ∃ k, w.bed.network.connections[c]? = some k ∧ k.reader.Follows chunk ∧
    k.reader.outcome? limit = none

theorem Reading.moves {limit : Nat} {chunk : Bytes} (h : w.Reading c limit chunk)
    (hm : w.Moves w') : w'.Reading c limit chunk := by
  obtain ⟨k, hk, hfollows, hnone⟩ := h
  cases hm with
  | @farEnd c' k₀ k' sent network found moves connections dialed =>
    by_cases heq : c' = c
    · subst heq
      rw [hk] at found
      cases found
      refine ⟨k', ?_, moves.reader ▸ hfollows, moves.reader ▸ hnone⟩
      rw [connections, List.getElem?_set_self (List.getElem?_eq_some_iff.1 hk).1]
    · exact ⟨k, by rw [connections, List.getElem?_set_ne heq, hk], hfollows, hnone⟩
  | elsewhere network connections dialed => exact ⟨k, by rw [connections, hk], hfollows, hnone⟩

theorem Settles.expect {r : Unit} (h : w.Settles t (.expect c) r w') (hc : w.Has c)
    (limit : Nat) : w'.Reading c limit [] := by
  obtain ⟨w₁, hwait, bed, hanswer | hf, rfl⟩ := h
  · obtain ⟨k, hk⟩ := has_iff.1 (hwait.has hc)
    simp only [Testbed.answer, Prod.mk.injEq] at hanswer
    obtain ⟨_, rfl⟩ := hanswer
    refine ⟨{ k with reader := .start }, ?_, FrameReader.follows_start, rfl⟩
    simp [after, Testbed.onNetwork, hk]
  · exact hf.elim

end World

/-- The failures after which nobody knows where in the stream the next frame starts. -/
def SessionError.breaksOff : SessionError → Bool
  | io _ => true
  | protocol (.frameLength _ _) | protocol (.shortRead _ _) | protocol (.callIdMismatch _ _) => true
  | protocol (.wire (.decode part _)) => part = "response header"
  | protocol (.wire .missingMethod) => false
  | protocol (.wire _) => true
  | _ => false

/-- What reading a frame of at most `limit` bytes gives once `chunk` has been taken for it. -/
def Frame.Received (limit : Nat) (chunk : Bytes) : Except SessionError Bytes → Prop
  | .ok payload =>
    Announced payload.length ∧ payload.length ≤ limit ∧ ∃ k, chunk = segment k payload
  | .error e => e.breaksOff = true ∧
      ∀ k payload, Announced payload.length → payload.length ≤ limit → chunk ≠ segment k payload

namespace FrameReader

variable {r : FrameReader} {chunk : Bytes} {limit : Nat}

theorem Follows.received {result : Except ProtocolError Bytes} (h : r.Follows chunk)
    (ho : r.outcome? limit = some result) :
    Frame.Received limit chunk (result.mapError .protocol) := by
  cases r with
  | word got => cases ho
  | payload size got =>
    by_cases hlimit : limit < size
    · rw [outcome?, if_pos hlimit] at ho
      cases ho
      refine ⟨rfl, h.ne_segment fun p hp => ?_⟩
      rw [outcome?, if_pos hlimit] at hp
      cases hp
    · rw [outcome?, if_neg hlimit] at ho
      by_cases hall : size ≤ got.length
      · rw [payload?, if_pos hall] at ho
        cases ho
        obtain ⟨hannounced, hsegment⟩ := h.payload_eq hall
        have hle : got.length ≤ limit := Nat.le_trans h.1 (Nat.le_of_not_lt hlimit)
        exact ⟨hannounced, hle, hsegment⟩
      · rw [payload?, if_neg hall] at ho
        cases ho

/-- A frame that is not settled has not been received, whatever ends the reading. -/
theorem Follows.received_error {e : SessionError} (h : r.Follows chunk)
    (ho : r.outcome? limit = none) (he : e.breaksOff = true) :
    Frame.Received limit chunk (.error e) := by
  refine ⟨he, h.ne_segment fun p hp => ?_⟩
  rw [ho] at hp
  cases hp

theorem endError_breaksOff (r : FrameReader) (callId : Int32) :
    (SessionError.protocol (r.endError callId)).breaksOff = true := by
  cases r <;> rfl

theorem failure_breaksOff (r : FrameReader) (callId : Int32) (error : IoError) :
    (r.failure callId error).breaksOff = true := by
  cases r <;> rfl

end FrameReader

/-- Reading on takes bytes from the front, and either the frame is settled or the reader waits. -/
theorem Testbed.receive_follows {bed : Testbed} {k : Connection} {chunk : Bytes} (limit : Nat)
    (callId : Int32) (hk : bed.network.connections[c]? = some k) (hf : k.reader.Follows chunk) :
    ∃ k' took, (bed.receive c limit callId).2.network.connections[c]? = some k' ∧
      k.Gives (.receive c limit callId) c took k' ∧ k'.reader.Follows (chunk ++ took) ∧
      ((bed.receive c limit callId).1 = none → k'.reader.outcome? limit = none) ∧
      ∀ r, (bed.receive c limit callId).1 = some r → Frame.Received limit (chunk ++ took) r := by
  obtain ⟨took, hbuffer, hfollows⟩ := FrameReader.readFrom_takes
    (fun r => (r.outcome? limit).isSome) k.reader k.toClient.buffer
  have hreader := hfollows chunk hf
  have hconnections := receive_connections limit callId hk
  dsimp only at hconnections
  let p := k.reader.readFrom (fun r => (r.outcome? limit).isSome) k.toClient.buffer
  refine ⟨{ k with reader := p.reader, toClient.buffer := p.rest }, took, ?_, ⟨hbuffer, ?_, ?_⟩,
    hreader, ?_⟩
  · rw [hconnections, List.getElem?_set_self (List.getElem?_eq_some_iff.1 hk).1]
  · exact fun hsource => absurd rfl hsource
  · exact fun he => absurd he (by simp [Effect.readsFrames])
  · simp only [receive, hk]
    split
    · rename_i result houtcome
      refine ⟨fun hnone => absurd hnone (Option.some_ne_none _), fun r hr => ?_⟩
      cases hr
      exact hreader.received houtcome
    · rename_i houtcome
      refine ⟨fun _ => houtcome, fun r hr => ?_⟩
      by_cases hclosed : k.toClient.closed = true
      · rw [if_pos hclosed] at hr
        cases hr
        exact hreader.received_error houtcome (FrameReader.endError_breaksOff _ callId)
      · rw [if_neg hclosed] at hr
        cases hr

namespace World

variable {limit : Nat} {callId : Int32} {chunk : Bytes}

theorem Waits.receive (h : Waits t (.receive c limit callId) w w') (hw : w.Reading c limit chunk) :
    ∃ took, w.Passes s c { taken := took } w' ∧ w'.Reading c limit (chunk ++ took) := by
  induction h with
  | refl => exact ⟨[], .refl w, by rwa [List.append_nil]⟩
  | moves _ hm ih =>
    obtain ⟨took, hpasses, hreading⟩ := ih
    exact ⟨took, (hpasses.trans hm.passes).of_eq (by simp), hreading.moves hm⟩
  | @stalls w₁ w₂ _ hs ih =>
    obtain ⟨took, hpasses, k, hk, hfollows, hnone⟩ := ih
    have hshares := hs.shares rfl rfl
    have hhas : ∀ {c}, w₁.Has c → w₂.Has c := hs.has
    obtain ⟨bed, hb, rfl⟩ := hs
    obtain ⟨k', more, hk', hgives, hfollows', hwaits, _⟩ :=
      Testbed.receive_follows limit callId hk hfollows
    change w₁.bed.receive c limit callId = (none, bed) at hb
    rw [hb] at hk' hwaits
    refine ⟨took ++ more, ?_, k', hk', by rwa [← List.append_assoc], hwaits rfl⟩
    have htaken := taken_taking hk hk' hgives
    have hspans : w₁.Spans s c { taken := more }
        { bed, past := w₁.past ++ w₁.taking (.receive c limit callId) bed } := by
      refine ⟨⟨_, rfl, ?_⟩, hhas⟩
      rw [Chronicle.account_of_idle (taking_idle w₁ (.receive c limit callId) bed), htaken]
    exact (hpasses.trans ⟨hshares, hspans⟩).of_eq (by simp)

theorem Settles.receive {r : Except SessionError Bytes}
    (h : w.Settles t (.receive c limit callId) r w') (hw : w.Reading c limit chunk) :
    ∃ took, w.Passes s c { taken := took } w' ∧ Frame.Received limit (chunk ++ took) r := by
  obtain ⟨w₁, hwait, hanswer⟩ := h
  obtain ⟨took, hpasses, k, hk, hfollows, hnone⟩ := hwait.receive (s := s) hw
  have hshares := hanswer.shares rfl rfl
  have hhas : ∀ {c}, w₁.Has c → w'.Has c := hanswer.has
  obtain ⟨bed, hb, rfl⟩ := hanswer
  have hspans : ∀ more, (w₁.taking (.receive c limit callId) bed).taken c = more →
      w₁.Spans s c { taken := more } (w₁.after t (.receive c limit callId) r bed) := by
    intro more hmore
    have hanswered : Chronicle.account s c [.answered t (.receive c limit callId) r] = {} :=
      Chronicle.account_answered t s c (e := .receive c limit callId) r rfl
    refine ⟨⟨_, rfl, ?_⟩, hhas⟩
    rw [greeting, Chronicle.account_append,
      Chronicle.account_of_idle (taking_idle w₁ (.receive c limit callId) bed), hmore, hanswered]
    · simp
    · nofun
  rcases hb with hb | ⟨⟨k₀, error, hk₀, rfl⟩, rfl⟩
  · obtain ⟨k', more, hk', hgives, _, _, hreceived⟩ :=
      Testbed.receive_follows limit callId hk hfollows
    change w₁.bed.receive c limit callId = (some r, bed) at hb
    rw [hb] at hk' hreceived
    refine ⟨took ++ more, ?_, by simpa using hreceived r rfl⟩
    exact (hpasses.trans ⟨hshares, hspans more (taken_taking hk hk' hgives)⟩).of_eq (by simp)
  · rw [hk] at hk₀
    cases hk₀
    refine ⟨took, ?_, hfollows.received_error hnone (FrameReader.failure_breaksOff _ callId error)⟩
    exact (hpasses.trans ⟨hshares, hspans [] (taken_taking hk hk .refl)⟩).of_eq (by simp)

end World

theorem Frame.splitSection_breaksOff {part : String} {bs : Bytes} {e : WireError}
    (h : Frame.splitSection part bs = .error e) :
    (SessionError.protocol (.wire e)).breaksOff = true := by
  unfold Frame.splitSection at h
  split at h
  · cases h
    rfl
  · split at h
    · cases h
    · cases h
      rfl

theorem ResponseFrame.decodeWithRest_breaksOff {payload : Bytes} {e : WireError}
    (h : ResponseFrame.decodeWithRest payload = .error e) :
    (SessionError.protocol (.wire e)).breaksOff = true := by
  unfold ResponseFrame.decodeWithRest at h
  cases hheader : Frame.splitSection "response header" payload with
  | error e' =>
    rw [hheader] at h
    cases h
    exact Frame.splitSection_breaksOff hheader
  | ok sections =>
    rw [hheader] at h
    cases hdecode : Frame.decodeSection "response header" ResponseHeader sections.1 with
    | error e' =>
      simp only [hdecode, bind, Except.bind] at h
      cases h
      unfold Frame.decodeSection at hdecode
      cases hmessage : Protobuf.Message.decode ResponseHeader sections.1 with
      | error source =>
        rw [hmessage] at hdecode
        cases hdecode
        rfl
      | ok header =>
        rw [hmessage] at hdecode
        cases hdecode
    | ok header =>
      simp only [hdecode, bind, Except.bind] at h
      split at h
      · cases h
      · cases hbody : Frame.splitSection "response body" sections.2 with
        | error e' =>
          rw [hbody] at h
          cases h
          exact Frame.splitSection_breaksOff hbody
        | ok body =>
          rw [hbody] at h
          cases h

namespace Messenger

variable {m : Messenger} {callId : Int32} {response : ResponseFrame}

/-- The bytes are one whole frame with a response in it, and not too long a one. -/
def Delivers (m : Messenger) (chunk : Bytes) (response : ResponseFrame) : Prop :=
  ∃ skipped payload rest, chunk = Frame.segment skipped payload ∧ Frame.Announced payload.length ∧
    payload.length ≤ m.maxFrameSize ∧ ResponseFrame.decodeWithRest payload = .ok (response, rest)

/-- The bytes are one whole frame with the response to the call that has this number. -/
def Brings (m : Messenger) (callId : Int32) (chunk : Bytes) (response : ResponseFrame) : Prop :=
  m.Delivers chunk response ∧ response.header.callId = callId

theorem Delivers.unique {chunk : Bytes} {response' : ResponseFrame} (h : m.Delivers chunk response)
    (h' : m.Delivers chunk response') : response = response' := by
  obtain ⟨k, payload, rest, hchunk, hannounced, _, hdecode⟩ := h
  obtain ⟨k', payload', rest', hchunk', hannounced', _, hdecode'⟩ := h'
  rw [hchunk] at hchunk'
  obtain ⟨_, rfl⟩ := Frame.segment_injective hannounced hannounced' hchunk'
  rw [hdecode] at hdecode'
  cases hdecode'
  rfl

theorem writeRequest_runs {payload : Bytes} {o : Option (Except SessionError Unit)}
    (h : (writeRequest c payload).Runs t w o w') :
    ∃ sent, w.Passes s c { sent } w' ∧ (o = some (.ok ()) → sent = Frame.segment 0 payload) ∧
      ∀ e, o = some (.error e) → e.breaksOff = true := by
  unfold writeRequest at h
  cases hlength : Frame.encodeLength payload.length with
  | error e =>
    rw [hlength] at h
    obtain ⟨rfl, rfl⟩ := h
    refine ⟨[], .refl w', (fun hok => by cases hok), fun e' he' => ?_⟩
    cases he'
    obtain ⟨-, rfl⟩ := Frame.encodeLength_eq_error.1 hlength
    rfl
  | ok word =>
    obtain ⟨-, hword⟩ := Frame.encodeLength_eq_ok.1 hlength
    simp only [hlength] at h
    rcases (Job.runs_bind _ _ _).1 h with ⟨r, w₁, hw, hnext⟩ | ⟨rfl, hw⟩
    · obtain ⟨sent, hsent, hall⟩ := Stream.writeAll_runs (s := s) hw
      cases r with
      | error e =>
        obtain ⟨rfl, rfl⟩ := hnext
        refine ⟨sent, hsent, (fun hok => by cases hok), fun e' he' => ?_⟩
        cases he'
        rfl
      | ok =>
        obtain rfl := hall rfl
        rcases (Job.runs_bind _ _ _).1 hnext with ⟨r, w₂, hw, hlast⟩ | ⟨rfl, hw⟩
        · obtain ⟨sent', hsent', hall'⟩ := Stream.writeAll_runs (s := s) hw
          have hboth := (hsent.trans hsent').of_eq (Account.append_mk ..)
          cases r with
          | error e =>
            obtain ⟨rfl, rfl⟩ := hlast
            refine ⟨_, hboth, (fun hok => by cases hok), fun e' he' => ?_⟩
            cases he'
            rfl
          | ok =>
            obtain rfl := hall' rfl
            subst hword
            rcases Job.Runs.plain_bind (e := .flush c) hlast rfl s c with
              ⟨r, w₃, hflush, hdone⟩ | ⟨rfl, hflush⟩
            · obtain ⟨rfl, rfl⟩ := hdone
              refine ⟨_, (hboth.trans hflush).of_eq (Account.append_mk ..), fun _ => ?_, ?_⟩
              · simp [Frame.segment, Frame.opening]
              · intro e he
                cases r <;> cases he
                rfl
            · exact ⟨_, (hboth.trans hflush).of_eq (Account.append_mk ..),
                (fun hok => by cases hok), fun _ he => by cases he⟩
        · obtain ⟨sent', hsent', _⟩ := Stream.writeAll_runs (s := s) hw
          exact ⟨_, (hsent.trans hsent').of_eq (Account.append_mk ..), (fun hok => by cases hok),
            fun _ he => by cases he⟩
    · obtain ⟨sent, hsent, _⟩ := Stream.writeAll_runs (s := s) hw
      exact ⟨sent, hsent, (fun hok => by cases hok), fun _ he => by cases he⟩

/-- What the bytes taken from the stream are once reading a response has come to this. -/
def Reads (m : Messenger) (taken : Bytes) : Option (Except SessionError ResponseFrame) → Prop
  | none => True
  | some (.error e) => e.breaksOff = true ∧ ∀ response, ¬ m.Delivers taken response
  | some (.ok response) => m.Delivers taken response

theorem reads_of_received {e : SessionError} {taken : Bytes}
    (h : Frame.Received m.maxFrameSize taken (.error e)) : m.Reads taken (some (.error e)) := by
  refine ⟨h.1, ?_⟩
  rintro response ⟨k, payload, rest, hchunk, hannounced, hlimit, _⟩
  exact h.2 k payload hannounced hlimit hchunk

theorem readResponse_runs {o : Option (Except SessionError ResponseFrame)}
    (h : (m.readResponse c callId).Runs t w o w') (hc : w.Has c) :
    ∃ taken, w.Passes s c { taken } w' ∧ m.Reads taken o := by
  rcases (Job.runs_ask_bind (.expect c) _ _).1 h with ⟨r, w₁, hexpect, hnext⟩ | ⟨rfl, hwait⟩
  · have hplain := hexpect.plain (s := s) (c := c) rfl
    have hreading := hexpect.expect hc m.maxFrameSize
    rcases (Job.runs_ask_bind (.receive c m.maxFrameSize callId) _ _).1 hnext with
      ⟨r, w₂, hreceive, hlast⟩ | ⟨rfl, hwait⟩
    · obtain ⟨taken, htaken, hreceived⟩ := hreceive.receive (s := s) hreading
      have hpasses := (hplain.trans htaken).of_eq (Account.append_mk ..)
      cases r with
      | error e =>
        obtain ⟨rfl, rfl⟩ := hlast
        exact ⟨taken, hpasses, reads_of_received hreceived⟩
      | ok payload =>
        obtain ⟨hannounced, hlimit, k, hchunk⟩ := hreceived
        rw [List.nil_append] at hchunk
        cases hdecode : ResponseFrame.decodeWithRest payload with
        | error e =>
          simp only [hdecode] at hlast
          obtain ⟨rfl, rfl⟩ := hlast
          refine ⟨taken, hpasses, ResponseFrame.decodeWithRest_breaksOff hdecode, ?_⟩
          rintro response ⟨k', payload', rest', hchunk', hannounced', _, hdecode'⟩
          rw [hchunk] at hchunk'
          obtain ⟨_, rfl⟩ := Frame.segment_injective hannounced hannounced' hchunk'
          rw [hdecode] at hdecode'
          cases hdecode'
        | ok decoded =>
          obtain ⟨response, rest⟩ := decoded
          have hdelivers : m.Delivers taken response :=
            ⟨k, payload, rest, hchunk, hannounced, hlimit, hdecode⟩
          simp only [hdecode] at hlast
          by_cases hrest : rest.isEmpty = true
          · simp only [hrest] at hlast
            obtain ⟨rfl, rfl⟩ := hlast
            exact ⟨taken, hpasses, hdelivers⟩
          · simp only [hrest] at hlast
            rcases Job.Runs.plain_bind (e := .log (response.restEvent rest)) hlast rfl s c with
              ⟨_, w₃, hlog, rfl, rfl⟩ | ⟨rfl, hlog⟩
            · exact ⟨taken, (hpasses.trans hlog).of_eq (by simp), hdelivers⟩
            · exact ⟨taken, (hpasses.trans hlog).of_eq (by simp), trivial⟩
    · obtain ⟨taken, htaken, _⟩ := hwait.receive (s := s) hreading
      exact ⟨taken, (hplain.trans htaken).of_eq (Account.append_mk ..), trivial⟩
  · exact ⟨[], hwait.plain rfl, trivial⟩

/-- What an exchange of `request` has done to connection `c` when it has come to this. Only one that
succeeded has written the whole request and then taken the answer, and no more than the answer. -/
def Exchanged (m : Messenger) (s : SessionId) (c : ConnectionId) (request : RequestFrame)
    (w : World) : Option (Except SessionError ResponseFrame) → World → Prop
  | some (.ok response) => fun w' => ∃ w₁ taken,
      w.Passes s c { sent := Frame.segment 0 request.encode } w₁ ∧ w₁.Passes s c { taken } w' ∧
        m.Brings request.header.callId taken response
  | some (.error e) => fun w' => e.breaksOff = true ∧ ∃ sent taken,
      w.Passes s c { sent, taken } w' ∧ ∀ response, ¬ m.Brings request.header.callId taken response
  | none => fun w' => ∃ sent taken, w.Passes s c { sent, taken } w'

theorem not_delivers_nil : ¬ m.Delivers [] response := by
  rintro ⟨k, payload, rest, hchunk, hannounced, _⟩
  have hlen := congrArg List.length hchunk
  simp only [Frame.segment, Frame.opening, List.length_append, Bytes.length_bigEndian32,
    List.length_nil] at hlen
  omega

theorem exchange_runs {request : RequestFrame} {o : Option (Except SessionError ResponseFrame)}
    (h : (m.exchange c request).Runs t w o w') (hc : w.Has c) :
    m.Exchanged s c request w o w' := by
  rcases (Job.runs_bind _ _ _).1 h with ⟨r, w₁, hwrite, hnext⟩ | ⟨rfl, hwrite⟩
  · obtain ⟨sent, hsent, hall, hbreaks⟩ := writeRequest_runs (s := s) hwrite
    cases r with
    | error e =>
      obtain ⟨rfl, rfl⟩ := hnext
      exact ⟨hbreaks e rfl, sent, [], hsent, fun response hb => not_delivers_nil hb.1⟩
    | ok =>
      obtain rfl := hall rfl
      rcases (Job.runs_bind _ _ _).1 hnext with ⟨r, w₂, hread, hlast⟩ | ⟨rfl, hread⟩
      · obtain ⟨taken, htaken, hreads⟩ := readResponse_runs (s := s) hread (hsent.spans.has hc)
        have hboth := (hsent.trans htaken).of_eq (Account.append_mk ..)
        cases r with
        | error e =>
          obtain ⟨rfl, rfl⟩ := hlast
          refine ⟨hreads.1, _, _, hboth, fun response hb => hreads.2 response ?_⟩
          exact hb.1
        | ok response =>
          by_cases hid : response.header.callId = request.header.callId
          · simp only [hid, if_true] at hlast
            obtain ⟨rfl, rfl⟩ := hlast
            exact ⟨w₁, taken, hsent, htaken, hreads, hid⟩
          · simp only [hid, if_false] at hlast
            obtain ⟨rfl, rfl⟩ := hlast
            refine ⟨rfl, _, _, hboth, fun response' hb => hid ?_⟩
            rw [Delivers.unique hreads hb.1]
            exact hb.2
      · obtain ⟨taken, htaken, _⟩ := readResponse_runs (s := s) hread (hsent.spans.has hc)
        exact ⟨_, _, (hsent.trans htaken).of_eq (Account.append_mk ..)⟩
  · obtain ⟨sent, hsent, _⟩ := writeRequest_runs (s := s) hwrite
    exact ⟨sent, [], hsent⟩

end Messenger
end ClusterProbe
