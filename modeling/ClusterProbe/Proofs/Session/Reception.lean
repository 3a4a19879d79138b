import ClusterProbe.Proofs.World.Feeding
import ClusterProbe.Proofs.Session.Exchange

/-!
# Reading a response from a stream in pieces

The stream of a connection, from here to its end, may arrive in any pieces. A reader that takes them
in ends where the first frame that carries something ends, or before if the frame is too long to be
taken or the stream too short to hold it. Which of these it is can be told from the stream alone
(`Frame.first`), since a stream can be written in one way only as empty frames and what comes after
them (`Frame.Stripped`).
-/
namespace ClusterProbe

variable {t : ThreadId} {c : ConnectionId} {w : World} {limit : Nat} {callId : Int32}

namespace Frame

/-- The stream is this many empty frames and then these bytes, which do not start with another. -/
def Stripped (stream : Bytes) (skipped : Nat) (front : Bytes) : Prop :=
  stream = List.replicate (4 * skipped) 0 ++ front ∧ ¬ List.replicate 4 0 <+: front

theorem exists_stripped (stream : Bytes) : ∃ skipped front, Stripped stream skipped front := by
  induction hlength : stream.length using Nat.strongRecOn generalizing stream with
  | ind n ih =>
    by_cases hzeros : List.replicate 4 0 <+: stream
    · obtain ⟨rest, rfl⟩ := hzeros
      have hshorter : rest.length < n := by
        rw [List.length_append, List.length_replicate] at hlength
        omega
      obtain ⟨skipped, front, rfl, hfront⟩ := ih _ hshorter rest rfl
      exact ⟨skipped + 1, front, (zeros_succ skipped front).symm, hfront⟩
    · exact ⟨0, stream, rfl, hzeros⟩

theorem Stripped.unique {stream front front' : Bytes} {skipped skipped' : Nat}
    (h : Stripped stream skipped front) (h' : Stripped stream skipped' front') :
    skipped = skipped' ∧ front = front' := by
  induction skipped generalizing skipped' stream with
  | zero =>
    obtain ⟨rfl, hfront⟩ := h
    cases skipped' with
    | zero => exact ⟨rfl, h'.1⟩
    | succ skipped' =>
      have heq := h'.1
      rw [zeros_succ] at heq
      exact absurd ⟨_, heq.symm⟩ hfront
  | succ skipped ih =>
    obtain ⟨rfl, hfront⟩ := h
    cases skipped' with
    | zero =>
      have heq := h'.1
      rw [zeros_succ] at heq
      exact absurd ⟨_, heq⟩ h'.2
    | succ skipped' =>
      have heq := h'.1
      rw [zeros_succ, zeros_succ, List.append_cancel_left_eq] at heq
      obtain ⟨rfl, hfronts⟩ := ih ⟨rfl, hfront⟩ ⟨heq, h'.2⟩
      exact ⟨rfl, hfronts⟩

/-- What the first frame of a stream comes to that does not start with an empty one and ends at
some time, and how many bytes are read for it. -/
def first (limit : Nat) (callId : Int32) (front : Bytes) : Except ProtocolError Bytes × Nat :=
  let size := Bytes.bigEndianNat (front.take 4)
  let available := front.drop 4
  if front.length < 4 then (.error (.frameLength callId .earlyEof), front.length)
  else if limit < size then (.error (.wire (.size size)), 4)
  else if available.length < size then
    (.error (.shortRead available.length size), 4 + available.length)
  else (.ok (available.take size), 4 + size)

theorem first_of_length_lt {front : Bytes} (h : front.length < 4) :
    first limit callId front = (.error (.frameLength callId .earlyEof), front.length) := by
  rw [first, if_pos h]

theorem first_announced {size : Nat} (hsize : Announced size) (available : Bytes) :
    first limit callId (Bytes.bigEndian32 (UInt32.ofNat size) ++ available) =
      if limit < size then (.error (.wire (.size size)), 4)
      else if available.length < size then
        (.error (.shortRead available.length size), 4 + available.length)
      else (.ok (available.take size), 4 + size) := by
  have hlong : ¬ (Bytes.bigEndian32 (UInt32.ofNat size) ++ available).length < 4 := by
    simp
  have htake : (Bytes.bigEndian32 (UInt32.ofNat size) ++ available).take 4 =
      Bytes.bigEndian32 (UInt32.ofNat size) := rfl
  have hdrop : (Bytes.bigEndian32 (UInt32.ofNat size) ++ available).drop 4 = available := rfl
  rw [first, if_neg hlong, htake, hdrop, bigEndianNat_announced hsize]

end Frame

namespace FrameReader

open ClusterProbe.Frame

variable {r : FrameReader}

/-- A payload that is too long has not been touched. -/
def Untouched (limit : Nat) : FrameReader → Prop
  | word _ => True
  | payload size got => limit < size → got = []

theorem untouched_push (h : r.outcome? limit = none) (chunk : Bytes) :
    (r.push chunk).Untouched limit := by
  cases r with
  | word got =>
    rw [push]
    split
    · trivial
    · split
      · trivial
      · exact fun _ => rfl
  | payload size got =>
    intro hlimit
    rw [outcome?, if_pos hlimit] at h
    cases h

theorem untouched_readFrom (h : r.Untouched limit) (buffer : Bytes) :
    (r.readFrom (fun r => (r.outcome? limit).isSome) buffer).reader.Untouched limit := by
  fun_induction FrameReader.readFrom (fun r => (r.outcome? limit).isSome) r buffer with
  | case1 => exact h
  | case2 r buffer hgoes hlt next =>
    rename_i ih
    apply ih
    apply untouched_push
    simpa using fun hsome => hgoes (.inl hsome)

/-- A reader that is done, or has seen the end of the stream, knows what the first frame is. -/
theorem Follows.first_eq (callId : Int32) {took rest front : Bytes} {skipped : Nat}
    (h : r.Follows took) (huntouched : r.Untouched limit)
    (hfront : Stripped (took ++ rest) skipped front) (hend : r.outcome? limit = none → rest = []) :
    (first limit callId front).1 = (r.outcome? limit).getD (.error (r.endError callId)) ∧
      4 * skipped + (first limit callId front).2 = took.length := by
  cases r with
  | word got =>
    obtain ⟨hshort, k, rfl⟩ := h
    obtain rfl := hend rfl
    have hgot : ¬ List.replicate 4 0 <+: got := fun hzeros =>
      absurd hzeros.length_le (Nat.not_le.2 (by simpa using hshort))
    obtain ⟨rfl, rfl⟩ := hfront.unique ⟨List.append_nil _, hgot⟩
    rw [first_of_length_lt hshort, List.length_append, List.length_replicate]
    exact ⟨rfl, rfl⟩
  | payload size got =>
    obtain ⟨hle, hsize, k, rfl⟩ := h
    have hword : ¬ List.replicate 4 0 <+:
        Bytes.bigEndian32 (UInt32.ofNat size) ++ (got ++ rest) := by
      rintro ⟨more, heq⟩
      exact opening_zero_ne_zeros hsize (heq.symm : opening 0 size (got ++ rest) = _)
    have hstream : opening k size got ++ rest =
        List.replicate (4 * k) 0 ++ (Bytes.bigEndian32 (UInt32.ofNat size) ++ (got ++ rest)) := by
      simp only [opening, List.append_assoc]
    obtain ⟨rfl, rfl⟩ := hfront.unique ⟨hstream, hword⟩
    have htook : (opening skipped size got).length = 4 * skipped + (4 + got.length) := by
      simp only [opening, List.length_append, List.length_replicate, Bytes.length_bigEndian32]
    rw [first_announced hsize, htook]
    by_cases hlimit : limit < size
    · obtain rfl := huntouched hlimit
      rw [outcome?, if_pos hlimit, if_pos hlimit]
      exact ⟨rfl, rfl⟩
    · rw [outcome?, if_neg hlimit, if_neg hlimit, payload?]
      by_cases hall : size ≤ got.length
      · obtain rfl : got.length = size := Nat.le_antisymm hle hall
        have havailable : ¬ (got ++ rest).length < got.length := by simp
        rw [if_neg havailable, if_pos le_rfl, List.take_left]
        exact ⟨rfl, rfl⟩
      · rw [if_neg hall]
        obtain rfl : rest = [] := hend (by rw [outcome?, if_neg hlimit, payload?, if_neg hall]; rfl)
        rw [List.append_nil, if_pos (Nat.lt_of_not_le hall)]
        exact ⟨rfl, rfl⟩

end FrameReader

/-- What reading on in a frame gives: the outcome of the reader, or what the end of the stream means
to it, or nothing while more may come. -/
theorem Testbed.receive_answer {bed : Testbed} {k : Connection} {chunk : Bytes} (limit : Nat)
    (callId : Int32) (hk : bed.network.connections[c]? = some k) (hfollows : k.reader.Follows chunk)
    (huntouched : k.reader.Untouched limit) :
    ∃ k' took, (bed.receive c limit callId).2.network.connections[c]? = some k' ∧
      k.Gives (.receive c limit callId) c took k' ∧ k'.reader.Follows (chunk ++ took) ∧
      k'.reader.Untouched limit ∧ k'.toClient.closed = k.toClient.closed ∧
      (k'.reader.outcome? limit = none → k'.toClient.buffer = []) ∧
      (bed.receive c limit callId).1 =
        match k'.reader.outcome? limit with
        | some result => some (result.mapError .protocol)
        | none => if k.toClient.closed then
            some (.error (.protocol (k'.reader.endError callId))) else none := by
  let stop := fun r : FrameReader => (r.outcome? limit).isSome
  let p := k.reader.readFrom stop k.toClient.buffer
  obtain ⟨took, hbuffer, hreads⟩ := FrameReader.readFrom_takes stop k.reader k.toClient.buffer
  have hconnections := receive_connections limit callId hk
  dsimp only at hconnections
  refine ⟨{ k with reader := p.reader, toClient.buffer := p.rest }, took, ?_, ⟨hbuffer, ?_, ?_⟩,
    hreads chunk hfollows, FrameReader.untouched_readFrom huntouched _, rfl, fun hnone => ?_, ?_⟩
  · rw [hconnections, List.getElem?_set_self (List.getElem?_eq_some_iff.1 hk).1]
  · exact fun hsource => absurd rfl hsource
  · exact fun he => absurd he (by simp [Effect.readsFrames])
  · apply hfollows.readFrom_rest
    · intro size got hall
      simp only [stop, FrameReader.outcome?, FrameReader.payload?, if_pos hall]
      split <;> rfl
    · exact Option.isSome_eq_false_iff.2 (Option.isNone_iff_eq_none.2 hnone)
  · cases houtcome : p.reader.outcome? limit with
    | some result => simp only [receive, hk, houtcome, p, stop]
    | none =>
      simp only [receive, hk, houtcome, p, stop]
      split <;> rfl

namespace World

/-- The answer to a reader tells what the stream has come to: it has taken a part of the stream and
no more, and unless it is done there is nothing left. -/
def Hears (w : World) (c : ConnectionId) (limit : Nat) (callId : Int32) (chunk stream : Bytes)
    (answer : Option (Except SessionError Bytes × List Bytes × World)) : Prop :=
  ∃ (r : FrameReader) (left : List Bytes) (w' : World) (took : Bytes),
    answer = some (((r.outcome? limit).getD (.error (r.endError callId))).mapError .protocol,
      left, w') ∧
    w'.past.taken c = w.past.taken c ++ took ∧
    stream = took ++ (w'.bed.unread c ++ left.flatten) ∧ r.Follows (chunk ++ took) ∧
    r.Untouched limit ∧ (r.outcome? limit = none → w'.bed.unread c ++ left.flatten = [])

/-- What was taken while waiting belongs to what is taken in the end. -/
theorem Hears.of_waited {w₁ : World} {chunk took stream : Bytes}
    {answer : Option (Except SessionError Bytes × List Bytes × World)}
    (h : w₁.Hears c limit callId (chunk ++ took) stream answer)
    (htaken : w₁.past.taken c = w.past.taken c ++ took) :
    w.Hears c limit callId chunk (took ++ stream) answer := by
  obtain ⟨r, left, w', more, hanswer, htaken', hstream, hfollows, huntouched, hrest⟩ := h
  refine ⟨r, left, w', took ++ more, hanswer, ?_, ?_, ?_, huntouched, hrest⟩
  · rw [htaken', htaken, List.append_assoc]
  · rw [hstream, List.append_assoc]
  · rwa [← List.append_assoc]

/-- An answer without a wait. -/
theorem hears_of_answer {k k' : Connection} {chunk took : Bytes} {bed : Testbed}
    {r : Except SessionError Bytes} {pieces : List Bytes}
    (hk : w.bed.network.connections[c]? = some k)
    (hanswer : w.bed.receive c limit callId = (some r, bed))
    (hr : r = ((k'.reader.outcome? limit).getD
      (.error (k'.reader.endError callId))).mapError .protocol)
    (hk' : bed.network.connections[c]? = some k')
    (hgives : k.Gives (.receive c limit callId) c took k')
    (hfollows : k'.reader.Follows (chunk ++ took)) (huntouched : k'.reader.Untouched limit)
    (hrest : k'.reader.outcome? limit = none → k'.toClient.buffer ++ pieces.flatten = []) :
    w.Hears c limit callId chunk (k.toClient.buffer ++ pieces.flatten)
      (w.await t (.receive c limit callId) pieces) := by
  have hunread : bed.unread c = k'.toClient.buffer := Testbed.unread_eq hk'
  subst hr
  refine ⟨k'.reader, pieces, w.after t (.receive c limit callId) _ bed, took,
    await_of_answer (e := .receive c limit callId) pieces hanswer, ?_, ?_, hfollows, huntouched, ?_⟩
  · have htaking := taken_taking hk hk' hgives
    simp only [after, Chronicle.taken_append, Chronicle.taken_cons, htaking, greeting,
      Event.taken, Chronicle.taken_nil, List.append_nil]
  · change _ = took ++ (bed.unread c ++ _)
    rw [hunread, hgives.unread, List.append_assoc]
  · intro hnone
    change bed.unread c ++ _ = []
    rw [hunread]
    exact hrest hnone

/-- A reader gets its answer at once, or it takes all there is and waits for more. -/
theorem hears_or_waits {pieces : List Bytes} {k : Connection} {chunk : Bytes}
    (hk : w.bed.network.connections[c]? = some k)
    (hopen : k.toClient.closed = true → pieces = []) (hfollows : k.reader.Follows chunk)
    (huntouched : k.reader.Untouched limit) :
    (∃ r bed, w.bed.receive c limit callId = (some r, bed) ∧
      w.Hears c limit callId chunk (k.toClient.buffer ++ pieces.flatten)
        (w.await t (.receive c limit callId) pieces)) ∨
    ∃ bed k', w.bed.receive c limit callId = (none, bed) ∧
      bed.network.connections[c]? = some k' ∧
      k.Gives (.receive c limit callId) c k.toClient.buffer k' ∧ k'.toClient.buffer = [] ∧
      k.toClient.closed = false ∧ k'.toClient.closed = false ∧
      k'.reader.Follows (chunk ++ k.toClient.buffer) ∧ k'.reader.Untouched limit := by
  obtain ⟨k', took, hk', hgives, hfollows', huntouched', hclosed, hrest, hanswer⟩ :=
    Testbed.receive_answer limit callId hk hfollows huntouched
  cases hreceive : w.bed.receive c limit callId with
  | mk r bed =>
    rw [hreceive] at hk' hanswer
    cases houtcome : k'.reader.outcome? limit with
    | some result =>
      simp only [houtcome] at hanswer
      subst hanswer
      refine .inl ⟨_, bed, rfl,
        hears_of_answer hk hreceive ?_ hk' hgives hfollows' huntouched' ?_⟩
      · rw [houtcome]
        rfl
      · exact fun hnone => absurd hnone (by rw [houtcome]; exact Option.some_ne_none _)
    | none =>
      have hempty := hrest houtcome
      cases hends : k.toClient.closed with
      | true =>
        simp only [houtcome, hends] at hanswer
        subst hanswer
        refine .inl ⟨_, bed, rfl,
          hears_of_answer hk hreceive ?_ hk' hgives hfollows' huntouched' fun _ => ?_⟩
        · rw [houtcome]
          rfl
        · rw [hempty, hopen hends]
          rfl
      | false =>
        simp only [houtcome, hends] at hanswer
        subst hanswer
        obtain rfl : k.toClient.buffer = took := by
          rw [hgives.unread, hempty, List.append_nil]
        exact .inr ⟨bed, k', rfl, hk', hgives, hempty, rfl, hclosed.trans hends, hfollows',
          huntouched'⟩

/-- The pieces come one by one while the reader waits. The induction is on them: each finds the
reader further on in the same stream. -/
theorem await_receive {pieces : List Bytes} {k : Connection} {chunk : Bytes}
    (hk : w.bed.network.connections[c]? = some k)
    (hopen : k.toClient.closed = true → pieces = []) (hfollows : k.reader.Follows chunk)
    (huntouched : k.reader.Untouched limit) :
    w.Hears c limit callId chunk (k.toClient.buffer ++ pieces.flatten)
      (w.await t (.receive c limit callId) pieces) := by
  induction pieces generalizing w k chunk with
  | nil =>
    rcases hears_or_waits hk hopen hfollows huntouched with
      ⟨-, -, -, hdone⟩ | ⟨bed, k', hwait, hk', hgives, hempty, -, -, hfollows', huntouched'⟩
    · exact hdone
    · obtain ⟨w₁, hend, hpast, hk₁⟩ := endStream?_eq (c := c)
        (w := { bed, past := w.past ++ w.taking (.receive c limit callId) bed }) hk'
      have htaken : w₁.past.taken c = w.past.taken c ++ k.toClient.buffer := by
        simp [hpast, taken_taking hk hk' hgives, Event.taken]
      have hended : (k'.toClient.close).closed = true → ([] : List Bytes) = [] := fun _ => rfl
      rcases hears_or_waits hk₁ hended hfollows' huntouched' with
        ⟨r, bed', hanswer, hdone⟩ | ⟨-, -, -, -, -, -, hstays, -⟩
      · rw [await_nil_of_wait (e := .receive c limit callId) hwait rfl hend hanswer]
        change w₁.Hears c limit callId _ (k'.toClient.buffer ++ _) _ at hdone
        rw [hempty, List.nil_append] at hdone
        exact hdone.of_waited htaken
      · cases hstays
  | cons piece pieces ih =>
    rcases hears_or_waits hk hopen hfollows huntouched with
      ⟨-, -, -, hdone⟩ | ⟨bed, k', hwait, hk', hgives, hempty, -, hstays', hfollows', huntouched'⟩
    · exact hdone
    · obtain ⟨w₁, hdeliver, hpast, hk₁⟩ := deliver?_eq (c := c)
        (w := { bed, past := w.past ++ w.taking (.receive c limit callId) bed }) piece hk' hstays'
      have htaken : w₁.past.taken c = w.past.taken c ++ k.toClient.buffer := by
        simp [hpast, taken_taking hk hk' hgives, Event.taken]
      have hnext := ih hk₁ (fun hc => absurd hc (by simp [hstays'])) hfollows' huntouched'
      rw [await_cons_of_wait (e := .receive c limit callId) pieces hwait rfl hdeliver,
        List.flatten_cons]
      change w₁.Hears c limit callId _ (k'.toClient.buffer ++ piece ++ _) _ at hnext
      rw [hempty, List.nil_append] at hnext
      exact hnext.of_waited htaken

end World

namespace Messenger

variable {m : Messenger}

/-- What the payload of a frame, or the lack of one, means as a response. -/
def responseOf (payload : Except ProtocolError Bytes) : Except SessionError ResponseFrame :=
  match payload with
  | .error e => .error (.protocol e)
  | .ok bytes => (ResponseFrame.decode bytes).mapError fun e => .protocol (.wire e)

/-- What is done with a payload, once it has been read. -/
def unpack (payload : Except SessionError Bytes) : Job (Except SessionError ResponseFrame) := do
  match payload with
  | .error e => return .error e
  | .ok payload =>
    match ResponseFrame.decodeWithRest payload with
    | .error e => return .error (.protocol (.wire e))
    | .ok (response, rest) =>
      unless rest.isEmpty do
        Job.ask (.log (response.restEvent rest))
      return .ok response

theorem readResponse_eq (m : Messenger) (c : ConnectionId) (callId : Int32) :
    m.readResponse c callId = (do
      Job.ask (.expect c)
      unpack (← Job.ask (.receive c m.maxFrameSize callId))) := by
  rw [readResponse]
  congr 1
  funext _
  congr 1
  funext r
  cases r with
  | error e => rfl
  | ok payload => rfl

/-- Unpacking a payload takes nothing more from any connection. -/
theorem fed_unpack (payload : Except ProtocolError Bytes) (pieces : List Bytes) (w : World) :
    ∃ w', w.fed t (unpack (payload.mapError .protocol)) pieces =
        some (responseOf payload, pieces, w') ∧
      w'.past.taken c = w.past.taken c ∧ w'.bed.unread c = w.bed.unread c := by
  cases payload with
  | error e => exact ⟨w, rfl, rfl, rfl⟩
  | ok bytes =>
    cases hdecode : ResponseFrame.decodeWithRest bytes with
    | error e =>
      have hresponse : responseOf (.ok bytes) = .error (.protocol (.wire e)) := by
        simp only [responseOf, ResponseFrame.decode, hdecode, Except.map, Except.mapError]
      refine ⟨w, ?_, rfl, rfl⟩
      simp only [unpack, Except.mapError, hdecode, hresponse]
      rfl
    | ok read =>
      obtain ⟨response, rest⟩ := read
      have hresponse : responseOf (.ok bytes) = .ok response := by
        simp only [responseOf, ResponseFrame.decode, hdecode, Except.map, Except.mapError]
      by_cases hrest : rest.isEmpty
      · refine ⟨w, ?_, rfl, rfl⟩
        simp only [unpack, Except.mapError, hdecode, hresponse, hrest]
        rfl
      · let event := response.restEvent rest
        let bed := w.bed.onNetwork (Network.log event)
        have hlog : w.await t (.log event) pieces =
            some ((), pieces, w.after t (.log event) () bed) := World.await_of_answer pieces rfl
        refine ⟨w.after t (.log event) () bed, ?_, ?_, rfl⟩
        · simp only [unpack, Except.mapError, hdecode, hresponse, hrest, Bool.false_eq_true,
            if_false]
          rw [World.fed_ask_bind, hlog]
          rfl
        · simp [World.after, World.taking, World.greeting, Effect.source?, Event.taken]

/-- **Reading a response.** Whatever has arrived on a connection and in whatever pieces the rest of
its stream comes, reading a response comes to an end, and both what it gives and how far it has read
depend on the whole stream only: the empty frames at its front are passed over, and the rest gives
what `Frame.first` says. No byte beyond that is taken. -/
theorem response_read (m : Messenger) (callId : Int32) (pieces : List Bytes) {k : Connection}
    (hk : w.bed.network.connections[c]? = some k)
    (hopen : k.toClient.closed = true → pieces = []) :
    let stream := k.toClient.buffer ++ pieces.flatten
    (∃ skipped front, Frame.Stripped stream skipped front) ∧
      ∀ skipped front, Frame.Stripped stream skipped front →
        let result := responseOf (Frame.first m.maxFrameSize callId front).1
        let consumed := 4 * skipped + (Frame.first m.maxFrameSize callId front).2
        ∃ left w', w.fed t (m.readResponse c callId) pieces = some (result, left, w') ∧
          (m.readResponse c callId).Runs t w (some result) w' ∧
          w'.past.taken c = w.past.taken c ++ stream.take consumed ∧
          w'.bed.unread c ++ left.flatten = stream.drop consumed := by
  refine ⟨Frame.exists_stripped _, fun skipped front hfront => ?_⟩
  dsimp only
  -- looking out for a frame sets the reader to its start and takes nothing
  let renew := fun k : Connection => { k with reader := .start }
  let bed₁ := w.bed.onNetwork fun n => { n with connections := n.connections.modify c renew }
  let w₁ := w.after t (.expect c) () bed₁
  have hexpect : w.await t (.expect c) pieces = some ((), pieces, w₁) :=
    World.await_of_answer pieces rfl
  have hk₁ : w₁.bed.network.connections[c]? = some (renew k) := by
    change (w.bed.network.connections.modify c renew)[c]? = _
    rw [List.getElem?_modify_eq, hk]
    rfl
  have htaken₁ : w₁.past.taken c = w.past.taken c := by
    simp [w₁, World.after, World.taking, World.greeting, Effect.source?, Event.taken]
  have hhears : w₁.Hears c m.maxFrameSize callId [] ((renew k).toClient.buffer ++ pieces.flatten)
      (w₁.await t (.receive c m.maxFrameSize callId) pieces) :=
    World.await_receive hk₁ hopen FrameReader.follows_start trivial
  obtain ⟨r, left, w₂, took, hreceive, htaken₂, hstream, hfollows, huntouched, hend⟩ := hhears
  rw [List.nil_append] at hfollows
  change k.toClient.buffer ++ pieces.flatten = _ at hstream
  rw [hstream] at hfront
  obtain ⟨hpayload, hcount⟩ := hfollows.first_eq callId huntouched hfront hend
  obtain ⟨w₃, hunpack, htaken₃, hunread⟩ := fed_unpack (c := c) (t := t)
    ((r.outcome? m.maxFrameSize).getD (.error (r.endError callId))) left w₂
  have hfed : w.fed t (m.readResponse c callId) pieces =
      some (responseOf ((r.outcome? m.maxFrameSize).getD (.error (r.endError callId))), left,
        w₃) := by
    rw [readResponse_eq, World.fed_ask_bind, hexpect, Option.bind_some]
    dsimp only
    rw [World.fed_ask_bind, hreceive]
    exact hunpack
  rw [hpayload, hcount]
  refine ⟨left, w₃, hfed, World.runs_of_fed hfed, ?_, ?_⟩
  · rw [htaken₃, htaken₂, htaken₁, hstream, List.take_left]
  · rw [hunread, hstream, List.drop_left]

end Messenger

/-- A connection on which two bytes have arrived. -/
def Connection.beginning : Connection where
  endpoint := ⟨"n1", 7100⟩
  registration := 0
  toServer := {}
  toClient := { buffer := [0, 0] }
  farEnd := .script [] false []

def World.beginning : World where
  bed := { network := { connections := [.beginning] } }

namespace Messenger

/-- It takes a response of three bytes, but none that is longer. -/
def beginning : Messenger where
  session := 0
  endpoint := ⟨"n1", 7100⟩
  maxFrameSize := 3

/-- The rest of an empty frame, a response of three bytes and one byte more. -/
def beginningPieces : List Bytes := [[0], [], [0, 0, 0, 0], [3, 2, 8], [7, 255]]

theorem response_read_beginning :
    World.beginning.bed.network.connections[0]? = some .beginning ∧
      (Connection.beginning.toClient.closed = true → beginningPieces = []) ∧
      Frame.Stripped (Connection.beginning.toClient.buffer ++ beginningPieces.flatten) 1
        [0, 0, 0, 3, 2, 8, 7, 255] ∧
      ∃ left w', World.beginning.fed 0 (beginning.readResponse 0 7) beginningPieces =
          some (.ok ⟨⟨7, none, []⟩, none⟩, left, w') ∧
        w'.past.taken 0 = [0, 0, 0, 0, 0, 0, 0, 3, 2, 8, 7] ∧
        w'.bed.unread 0 ++ left.flatten = [255] := by
  have hk : World.beginning.bed.network.connections[0]? = some Connection.beginning := rfl
  have hopen : Connection.beginning.toClient.closed = true → beginningPieces = [] := nofun
  have hstripped : Frame.Stripped (Connection.beginning.toClient.buffer ++ beginningPieces.flatten)
      1 [0, 0, 0, 3, 2, 8, 7, 255] := ⟨by decide, by decide⟩
  refine ⟨hk, hopen, hstripped, ?_⟩
  obtain ⟨left, w', hfed, -, htaken, hleft⟩ :=
    (response_read (t := 0) beginning 7 beginningPieces hk hopen).2 1 _ hstripped
  have hfirst : Frame.first beginning.maxFrameSize 7 [0, 0, 0, 3, 2, 8, 7, 255] =
      (.ok [2, 8, 7], 7) := by
    decide +kernel
  have hdecode : ResponseFrame.decode [2, 8, 7] = .ok ⟨⟨7, none, []⟩, none⟩ := by decide +kernel
  have hresponse : responseOf (.ok [2, 8, 7]) = .ok ⟨⟨7, none, []⟩, none⟩ := by
    rw [responseOf, hdecode]
    rfl
  rw [hfirst, hresponse] at hfed
  exact ⟨left, w', hfed, htaken, hleft⟩

end Messenger
end ClusterProbe
