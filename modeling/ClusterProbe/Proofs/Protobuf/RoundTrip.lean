import ClusterProbe.Proofs.Protobuf.Scalars
import ClusterProbe.Protobuf.Message

/-!
# Messages written and read back

A reader that repeats a step runs through a string of bytes when each step takes some of them. The
encoding of a value is such a run from the empty message to that value, occurrence by occurrence
and, inside an embedded message, field by field; so decoding gives the value back. The run may pass
through gaps on its way, wherever the reader passes through them and is left with what it had: in
front of any field, at the end of any message, and at any depth (`Layout.Spaced`).
-/
namespace ClusterProbe.Protobuf

/-! ## Runs of a repeated step -/

section Runs

variable {ε σ τ : Type} {step : σ → Bytes → Except ε (σ × Bytes)}

/-- Repeating the step leads from a state and what is unread to another, each step taking some. -/
inductive ReadsOn (step : σ → Bytes → Except ε (σ × Bytes)) : σ → Bytes → σ → Bytes → Prop
  | refl (s : σ) (bs : Bytes) : ReadsOn step s bs s bs
  | more {s s' s'' : σ} {bs bs' bs'' : Bytes} (hstep : step s bs = .ok (s', bs'))
      (hshorter : bs'.length < bs.length) (htail : ReadsOn step s' bs' s'' bs'') :
      ReadsOn step s bs s'' bs''

namespace ReadsOn

variable {s s' s'' : σ} {bs bs' bs'' : Bytes}

theorem trans (h : ReadsOn step s bs s' bs') (h' : ReadsOn step s' bs' s'' bs'') :
    ReadsOn step s bs s'' bs'' := by
  induction h with
  | refl => exact h'
  | more hstep hshorter _ ih => exact .more hstep hshorter (ih h')

theorem single (hstep : step s bs = .ok (s', bs')) (hshorter : bs'.length < bs.length) :
    ReadsOn step s bs s' bs' :=
  .more hstep hshorter (.refl s' bs')

theorem eq_or_shorter (h : ReadsOn step s bs s' bs') :
    (s = s' ∧ bs = bs') ∨ bs'.length < bs.length := by
  induction h with
  | refl => exact .inl ⟨rfl, rfl⟩
  | more _ hshorter _ ih =>
    rcases ih with ⟨-, rfl⟩ | hless
    · exact .inr hshorter
    · exact .inr (hless.trans hshorter)

/-- The loop that stops where the run ends makes exactly the steps of the run. -/
theorem repeatAbove_eq (stuck : ε) (h : ReadsOn step s bs s' bs') {fuel : Nat}
    (hfuel : bs.length ≤ fuel) : repeatAbove stuck step bs'.length fuel s bs = .ok (s', bs') := by
  induction h generalizing fuel with
  | refl s bs =>
    rw [repeatAbove.eq_def]
    exact if_pos le_rfl
  | @more s s₁ s' bs bs₁ bs' hstep hshorter htail ih =>
    have hend : bs'.length ≤ bs₁.length := by
      rcases htail.eq_or_shorter with ⟨-, rfl⟩ | hless
      · exact le_rfl
      · exact hless.le
    obtain ⟨fuel, rfl⟩ : ∃ fewer, fuel = fewer + 1 := ⟨fuel - 1, by omega⟩
    rw [repeatAbove, if_neg (by omega)]
    change (step s bs >>= fun r => repeatAbove stuck step bs'.length fuel r.1 r.2) = _
    rw [hstep]
    exact ih (by omega)

/-- A run over a stretch, read behind the length of the stretch. -/
theorem readStretch_eq (fail : DecodeCause → ε) {stretch rest : Bytes}
    (hlen : stretch.length < 2 ^ 64) (h : ReadsOn step s (stretch ++ rest) s' rest) :
    readStretch fail step s (delimited stretch ++ rest) = .ok (s', rest) := by
  have hroom : ¬ (stretch ++ rest).length < stretch.length := by simp
  have hlimit : (stretch ++ rest).length - stretch.length = rest.length := by simp
  rw [readStretch, delimited, List.append_assoc, takeVarint_encodeVarint _ hlen]
  change (if (stretch ++ rest).length < stretch.length then _ else _) = _
  rw [if_neg hroom, hlimit]
  change (repeatAbove _ _ _ _ _ _ >>= fun r => if r.2.length = rest.length then
    Except.ok (r.1, r.2) else _) = _
  rw [h.repeatAbove_eq _ le_rfl]
  exact if_pos rfl

end ReadsOn

end Runs

/-! ## Occurrences of a field -/

/-- The occurrences of a field one after the other, each behind a gap. -/
inductive Interspersed {α : Type} (gap : Bytes → Prop) (write : α → Bytes → Prop) :
    List α → Bytes → Prop
  | nil : Interspersed gap write [] []
  | cons {a : α} {as : List α} {g b bs : Bytes} (hgap : gap g) (hwrite : write a b)
      (hmore : Interspersed gap write as bs) : Interspersed gap write (a :: as) (g ++ (b ++ bs))

theorem interspersed_flatMap {α : Type} {gap : Bytes → Prop} {write : α → Bytes → Prop}
    {f : α → Bytes} (hgap : gap []) (hf : ∀ a, write a (f a)) (as : List α) :
    Interspersed gap write as (as.flatMap f) := by
  induction as with
  | nil => exact .nil
  | cons a as ih => exact .cons hgap (hf a) ih

namespace Label

variable {α ε σ : Type} {step : σ → Bytes → Except ε (σ × Bytes)} {gap : Bytes → Prop}
  {write : α → Bytes → Prop}

/-- Reading the occurrences of a field one by one rebuilds the field. A step may rely on the next
occurrence merging into nothing: the only occurrence of a required or an optional field does, and
so does every element of a repeated one. -/
theorem readsOn_interspersed (l : Label) (zero : α) (v : l.Of α) (put : l.Of α → σ) {bs : Bytes}
    (hbs : Interspersed gap write (l.occurrences v) bs)
    (hgap : ∀ x g rest, gap g → ReadsOn step (put x) (g ++ rest) (put x) rest)
    (hwrite : ∀ x a b rest, write a b → b.length ≤ bs.length → l.target zero x = zero →
      ReadsOn step (put x) (b ++ rest) (put (l.add x a)) rest) (rest : Bytes) :
    ReadsOn step (put (l.initial zero)) (bs ++ rest) (put v) rest := by
  have hone {x : l.Of α} {a : α} {g b more : Bytes} (hg : gap g) (hb : write a b)
      (hfits : (g ++ (b ++ more)).length ≤ bs.length) (hx : l.target zero x = zero) :
      ReadsOn step (put x) (g ++ (b ++ more) ++ rest) (put (l.add x a)) (more ++ rest) := by
    rw [List.length_append, List.length_append] at hfits
    rw [List.append_assoc, List.append_assoc]
    exact (hgap x g _ hg).trans (hwrite x a b _ hb (by omega) hx)
  cases l with
  | required =>
    cases hbs with
    | cons hg hb hmore =>
      cases hmore
      exact hone hg hb le_rfl rfl
  | optional =>
    cases v with
    | none =>
      cases hbs
      exact .refl _ _
    | some a =>
      cases hbs with
      | cons hg hb hmore =>
        cases hmore
        exact hone hg hb le_rfl rfl
  | repeated =>
    have hlist {as : List α} {part : Bytes} (hpart : Interspersed gap write as part)
        (hfits : part.length ≤ bs.length) (seen : List α) :
        ReadsOn step (put seen) (part ++ rest) (put (seen ++ as)) rest := by
      induction hpart generalizing seen with
      | nil =>
        rw [List.append_nil]
        exact .refl _ _
      | @cons a as g b more hg hb _ ih =>
        have hless : more.length ≤ bs.length := by
          rw [List.length_append, List.length_append] at hfits
          omega
        have htail := ih hless (seen ++ [a])
        rw [List.append_assoc] at htail
        exact (hone hg hb hfits rfl).trans htail
    exact hlist hbs le_rfl []

end Label

/-! ## Layouts -/

namespace Layout

/-- Field numbers fit into keys and are declared once, also inside embedded messages. -/
def Sound : Layout → Prop
  | done => True
  | scalar number _ _ _ rest =>
    0 < number ∧ number < 2 ^ 29 ∧ number ∉ rest.numbers ∧ rest.Sound
  | message number _ _ _ inner rest =>
    0 < number ∧ number < 2 ^ 29 ∧ number ∉ rest.numbers ∧ inner.Sound ∧ rest.Sound

/-- How many messages stand inside each other below this one. -/
def depth : Layout → Nat
  | done => 0
  | scalar _ _ _ _ rest => rest.depth
  | message _ _ _ _ inner rest => max (inner.depth + 1) rest.depth

instance decidableSound : (s : Layout) → Decidable s.Sound
  | done => .isTrue trivial
  | scalar _ _ _ _ rest =>
    have := rest.decidableSound
    inferInstanceAs (Decidable (_ ∧ _ ∧ _ ∧ _))
  | message _ _ _ _ inner rest =>
    have := inner.decidableSound
    have := rest.decidableSound
    inferInstanceAs (Decidable (_ ∧ _ ∧ _ ∧ _ ∧ _))

/-- A step that merges every field of this layout the way `mergeKnown` does, where `put` says which
state holds which value. -/
def ReadBy {σ : Type} (s : Layout) (type : String) (budget : Nat) (put : s.Val → σ)
    (step : σ → Bytes → Except DecodeError (σ × Bytes)) : Prop :=
  ∀ (key : Key) (v v' : s.Val) (bs bs' : Bytes), key.number ∈ s.numbers →
    s.mergeKnown type budget key v bs = some (.ok (v', bs')) →
      step (put v) (key.encode ++ bs) = .ok (put v', bs')

theorem pos_of_mem_numbers {s : Layout} (hs : s.Sound) {n : Nat} (hn : n ∈ s.numbers) :
    0 < n ∧ n < 2 ^ 29 := by
  induction s with
  | done => cases hn
  | scalar number _ _ _ rest ih =>
    rcases List.mem_cons.mp hn with rfl | hrest
    · exact ⟨hs.1, hs.2.1⟩
    · exact ih hs.2.2.2 hrest
  | message number _ _ _ inner rest _ ih =>
    rcases List.mem_cons.mp hn with rfl | hrest
    · exact ⟨hs.1, hs.2.1⟩
    · exact ih hs.2.2.2.2 hrest

theorem mergeKnown_eq_none {s : Layout} {key : Key} (hkey : key.number ∉ s.numbers) (type : String)
    (budget : Nat) (v : s.Val) (bs : Bytes) : s.mergeKnown type budget key v bs = none := by
  induction s with
  | done => rfl
  | scalar number _ _ _ rest ih =>
    obtain ⟨hother, hrest⟩ := not_or.1 (mt List.mem_cons.2 hkey)
    rw [mergeKnown, if_neg hother, ih hrest v.2]
    rfl
  | message number _ _ _ inner rest _ ih =>
    obtain ⟨hother, hrest⟩ := not_or.1 (mt List.mem_cons.2 hkey)
    rw [mergeKnown, if_neg hother, ih hrest v.2]
    rfl

theorem readBy_mergeField {s : Layout} (hs : s.Sound) (type : String) (budget : Nat) :
    s.ReadBy type budget id (s.mergeField type budget) := by
  intro key v v' bs bs' hkey hmerge
  obtain ⟨hpos, hlt⟩ := pos_of_mem_numbers hs hkey
  rw [mergeField, Key.decode_encode key bs hpos hlt]
  simp only [Except.mapError, bind, Except.bind, id_eq, hmerge]

theorem ReadBy.scalar_rest {σ : Type} {number : Nat} {name type : String} {label : Label}
    {kind : Scalar} {rest : Layout} {budget : Nat}
    {put : (scalar number name label kind rest).Val → σ}
    {step : σ → Bytes → Except DecodeError (σ × Bytes)} (hnew : number ∉ rest.numbers)
    (h : ReadBy (scalar number name label kind rest) type budget put step)
    (v : label.Of kind.Val) : ReadBy rest type budget (fun vs => put (v, vs)) step := by
  intro key vs vs' bs bs' hkey hmerge
  apply h key (v, vs) (v, vs') bs bs' (List.mem_cons_of_mem _ hkey)
  have hother : key.number ≠ number := fun heq => hnew (heq ▸ hkey)
  rw [mergeKnown, if_neg hother, hmerge]
  rfl

theorem ReadBy.message_rest {σ : Type} {number : Nat} {name type innerType : String} {label : Label}
    {inner rest : Layout} {budget : Nat}
    {put : (message number name label innerType inner rest).Val → σ}
    {step : σ → Bytes → Except DecodeError (σ × Bytes)} (hnew : number ∉ rest.numbers)
    (h : ReadBy (message number name label innerType inner rest) type budget put step)
    (v : label.Of inner.Val) : ReadBy rest type budget (fun vs => put (v, vs)) step := by
  intro key vs vs' bs bs' hkey hmerge
  apply h key (v, vs) (v, vs') bs bs' (List.mem_cons_of_mem _ hkey)
  have hother : key.number ≠ number := fun heq => hnew (heq ▸ hkey)
  rw [mergeKnown, if_neg hother, hmerge]
  rfl

/-- One occurrence of a scalar field. -/
theorem mergeKnown_scalar {number : Nat} {name type : String} {label : Label} {kind : Scalar}
    {rest : Layout} {budget : Nat} (x : label.Of kind.Val) (vs : rest.Val) (a : kind.Val)
    (bs : Bytes) (hlen : (kind.encode a).length < 2 ^ 64) :
    mergeKnown (scalar number name label kind rest) type budget ⟨number, kind.wireType⟩ (x, vs)
      (kind.encode a ++ bs) = some (.ok ((label.add x a, vs), bs)) := by
  have hplain : decodeScalarField label kind kind.wireType x (kind.encode a ++ bs) =
      .ok (label.add x a, bs) := by
    have hunpacked : ¬ (label = .repeated ∧ kind.wireType ≠ .lengthDelimited ∧
        kind.wireType = .lengthDelimited) := fun h => h.2.1 h.2.2
    rw [decodeScalarField, if_neg hunpacked, checkWireType, if_pos rfl]
    change (kind.decode (kind.encode a ++ bs) >>= fun r => Except.ok (label.add x r.1, r.2)) = _
    rw [kind.decode_encode a bs hlen]
    rfl
  rw [mergeKnown, if_pos rfl, hplain]

/-- One occurrence of an embedded message, which merges into the empty message. -/
theorem mergeKnown_message {number : Nat} {name type innerType : String} {label : Label}
    {inner rest : Layout} {budget : Nat} (x : label.Of inner.Val) (vs : rest.Val) (a : inner.Val)
    {content : Bytes} (bs : Bytes) (hbudget : 0 < budget) (hlen : content.length < 2 ^ 64)
    (hx : label.target inner.zero x = inner.zero)
    (hinner : ReadsOn (inner.mergeField innerType (budget - 1)) inner.zero (content ++ bs) a bs) :
    mergeKnown (message number name label innerType inner rest) type budget
      ⟨number, .lengthDelimited⟩ (x, vs) (delimited content ++ bs) =
      some (.ok ((label.add x a, vs), bs)) := by
  have hmerged : readStretch (⟨·, []⟩) (inner.mergeField innerType (budget - 1))
      (label.target inner.zero x) (delimited content ++ bs) = .ok (a, bs) := by
    rw [hx]
    exact hinner.readStretch_eq _ hlen
  unfold mergeField at hmerged
  rw [mergeKnown, if_pos rfl, checkWireType, if_pos rfl, if_neg hbudget.ne', hmerged]
  rfl

/-! ## Encodings with gaps -/

/-- The encodings of a value with gaps in them. The fields of the message itself may have the gaps
`between` in front of them and behind them all, and those of a message inside it the gaps that go
with the numbers that it declares. -/
def Spaced (gap : List Nat → Bytes → Prop) (between : Bytes → Prop) :
    (s : Layout) → s.Val → Bytes → Prop
  | done, _, bs => between bs
  | scalar number _ label kind rest, (v, vs), bs => ∃ front back, bs = front ++ back ∧
      Interspersed between
        (fun a b => b = Key.encode ⟨number, kind.wireType⟩ ++ kind.encode a)
        (label.occurrences v) front ∧
      rest.Spaced gap between vs back
  | message number _ label _ inner rest, (v, vs), bs => ∃ front back, bs = front ++ back ∧
      Interspersed between
        (fun a b => ∃ content, inner.Spaced gap (gap inner.numbers) a content ∧
          b = Key.encode ⟨number, .lengthDelimited⟩ ++ delimited content)
        (label.occurrences v) front ∧
      rest.Spaced gap between vs back

/-- The plain encoding has gaps of no length. -/
theorem spaced_encode {gap : List Nat → Bytes → Prop} {between : Bytes → Prop}
    (hgap : ∀ numbers, gap numbers []) (hbetween : between []) (s : Layout) (v : s.Val) :
    s.Spaced gap between v (s.encode v) := by
  induction s generalizing between with
  | done => exact hbetween
  | scalar number name label kind rest ih =>
    refine ⟨_, _, rfl, interspersed_flatMap hbetween (fun a => ?_) _, ih hbetween v.2⟩
    rfl
  | message number name label innerType inner rest ihInner ih =>
    refine ⟨_, _, rfl, interspersed_flatMap hbetween (fun a => ?_) _, ih hbetween v.2⟩
    exact ⟨_, ihInner (hgap inner.numbers) a, rfl⟩

/-- With this many levels to spare, a message that declares these numbers is read through such a gap
as if the gap was not there. -/
def Skips (gap : List Nat → Bytes → Prop) (spare : Nat) : Prop :=
  ∀ (s : Layout) (type : String) (budget : Nat), spare ≤ budget → ∀ v g rest, gap s.numbers g →
    ReadsOn (s.mergeField type budget) v (g ++ rest) v rest

/-- The encoding of a value, read by a step that merges the fields, leads from the empty message to
the value. The induction is on the layout: the fields after the first are read by the same step,
and an embedded message by the merging step of its own layout. -/
theorem readsOn_spaced {σ : Type} {step : σ → Bytes → Except DecodeError (σ × Bytes)} (s : Layout)
    (type : String) {budget spare : Nat} {gap : List Nat → Bytes → Prop} {between : Bytes → Prop}
    {put : s.Val → σ} (hs : s.Sound) (hdepth : s.depth + spare ≤ budget) (hgap : Skips gap spare)
    (hbetween : ∀ v g rest, between g → ReadsOn step (put v) (g ++ rest) (put v) rest)
    (h : s.ReadBy type budget put step) (v : s.Val) {bs : Bytes}
    (hbs : s.Spaced gap between v bs) (hlen : bs.length < 2 ^ 64) (rest : Bytes) :
    ReadsOn step (put s.zero) (bs ++ rest) (put v) rest := by
  induction s generalizing σ type budget between bs rest with
  | done => exact hbetween v bs rest hbs
  | scalar number name label kind others ih =>
    obtain ⟨v, vs⟩ := v
    obtain ⟨-, -, hnew, hothers⟩ := hs
    obtain ⟨front, back, rfl, hfront, hback⟩ := hbs
    rw [List.length_append] at hlen
    have hfield : ReadsOn step (put (label.initial kind.zero, others.zero))
        (front ++ (back ++ rest)) (put (v, others.zero)) (back ++ rest) := by
      refine label.readsOn_interspersed kind.zero v (fun x => put (x, others.zero)) hfront
        (fun x => hbetween (x, others.zero)) ?_ _
      rintro x a b more rfl hfits -
      rw [List.length_append] at hfits
      refine ReadsOn.single ?_ ?_
      · rw [List.append_assoc]
        exact h _ _ _ _ _ List.mem_cons_self
          (mergeKnown_scalar x others.zero a more (by omega))
      · exact Key.length_lt_encode_append _ _ _
    rw [List.append_assoc]
    exact hfield.trans (ih type hothers hdepth (fun vs => hbetween (v, vs)) (h.scalar_rest hnew v)
      vs hback (by omega) rest)
  | message number name label innerType inner others ihInner ih =>
    obtain ⟨v, vs⟩ := v
    obtain ⟨-, -, hnew, hinner, hothers⟩ := hs
    have hdepths : inner.depth + 1 + spare ≤ budget ∧ others.depth + spare ≤ budget := by
      have hmax := max_le_iff.mp (Nat.le_sub_of_add_le hdepth)
      omega
    obtain ⟨front, back, rfl, hfront, hback⟩ := hbs
    rw [List.length_append] at hlen
    have hfield : ReadsOn step (put (label.initial inner.zero, others.zero))
        (front ++ (back ++ rest)) (put (v, others.zero)) (back ++ rest) := by
      refine label.readsOn_interspersed inner.zero v (fun x => put (x, others.zero)) hfront
        (fun x => hbetween (x, others.zero)) ?_ _
      rintro x a b more ⟨content, hcontent, rfl⟩ hfits hx
      have hpayload := length_le_delimited content
      rw [List.length_append] at hfits
      have hread : ReadsOn (inner.mergeField innerType (budget - 1)) inner.zero (content ++ more)
          a more :=
        ihInner innerType hinner (by omega) (hgap inner innerType _ (by omega))
          (readBy_mergeField hinner _ _) a hcontent (by omega) more
      refine ReadsOn.single ?_ ?_
      · rw [List.append_assoc]
        exact h _ _ _ _ _ List.mem_cons_self
          (mergeKnown_message x others.zero a more (by omega) (by omega) hx hread)
      · exact Key.length_lt_encode_append _ _ _
    rw [List.append_assoc]
    exact hfield.trans (ih type hothers hdepths.2 (fun vs => hbetween (v, vs))
      (h.message_rest hnew v) vs hback (by omega) rest)

/-- Decoding takes the gaps out, for every value of a layout that nests within the budget. -/
theorem decode_spaced {s : Layout} {gap : List Nat → Bytes → Prop} {spare : Nat} (hs : s.Sound)
    (hdepth : s.depth + spare ≤ nestingBudget) (hgap : Skips gap spare) (type : String) (v : s.Val)
    {bs : Bytes} (hbs : s.Spaced gap (gap s.numbers) v bs) (hlen : bs.length < 2 ^ 64) :
    s.decode type bs = .ok v := by
  have hspare : spare ≤ nestingBudget := (Nat.le_add_left _ _).trans hdepth
  have hread := s.readsOn_spaced type hs hdepth hgap (hgap s type nestingBudget hspare)
    (readBy_mergeField hs type nestingBudget) v hbs hlen []
  rw [List.append_nil] at hread
  rw [decode]
  exact congrArg (Except.map (·.1)) (hread.repeatAbove_eq _ le_rfl)

/-- Decoding inverts encoding for every value of a layout that nests within the budget. -/
theorem decode_encode {s : Layout} (hs : s.Sound) (hdepth : s.depth ≤ nestingBudget)
    (type : String) (v : s.Val) (hlen : (s.encode v).length < 2 ^ 64) :
    s.decode type (s.encode v) = .ok v := by
  have hskips : Skips (fun _ g => g = []) 0 := by
    rintro s type budget - v g rest rfl
    exact .refl v rest
  have hspaced : s.Spaced (fun _ g => g = []) (fun g => g = []) v (s.encode v) :=
    spaced_encode (fun _ => by rfl) (by rfl) s v
  exact decode_spaced hs hdepth hskips type v hspaced hlen

end Layout

/-! ## Message types -/

namespace Message

variable {M : Type} [Message M]

/-- Decoding inverts encoding for every message type whose layout is sound. -/
theorem decode_encode (hs : (layout M).Sound) (hdepth : (layout M).depth ≤ nestingBudget) (m : M)
    (hlen : (encode m).length < 2 ^ 64) : decode M (encode m) = .ok m := by
  have hfields : (layout M).decode (name M) (encode m) = .ok (fields m) :=
    Layout.decode_encode hs hdepth (name M) (fields m) hlen
  rw [decode, hfields]
  exact congrArg Except.ok (build_fields m)

end Message

end ClusterProbe.Protobuf
