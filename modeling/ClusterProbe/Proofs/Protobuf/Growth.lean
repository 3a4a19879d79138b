import ClusterProbe.Proofs.Protobuf.Reading
import ClusterProbe.Proofs.Protobuf.Wire

/-!
# Messages written again

A message that was read may be longer when it is written: a required field that was absent is there,
an element of a packed run gets a key of its own, a negative number takes ten bytes where five could
spell it. Each byte that was read accounts for at most two that are written, though, beyond what the
empty message takes. The messages in question are those whose repeated fields are numbers with keys
of one byte (`Layout.Compact`). The size that is carried through the reading counts an embedded
message as if it was always there (`Layout.room`), so its first occurrence is like any later one.
-/
namespace ClusterProbe.Protobuf

/-! ## Steps that take as much as they add -/

section Doubling

variable {ε σ : Type} {size : σ → Nat} {step : σ → Bytes → Except ε (σ × Bytes)}

/-- Every byte that the step takes lets the state grow by two at most. -/
def Doubling (size : σ → Nat) (step : σ → Bytes → Except ε (σ × Bytes)) : Prop :=
  ∀ s s' bs bs', step s bs = .ok (s', bs') → size s' + 2 * bs'.length ≤ size s + 2 * bs.length

namespace Doubling

theorem repeatAbove (h : Doubling size step) (stuck : ε) (limit fuel : Nat) :
    Doubling size (repeatAbove stuck step limit fuel) := by
  intro s s' bs bs' hread
  induction fuel generalizing s bs with
  | zero =>
    rw [Protobuf.repeatAbove] at hread
    split at hread
    · cases hread
      exact le_rfl
    · cases hread
  | succ fuel ih =>
    rw [Protobuf.repeatAbove] at hread
    split at hread
    · cases hread
      exact le_rfl
    · obtain ⟨⟨s₁, bs₁⟩, hstep, htail⟩ := bind_eq_ok.1 hread
      exact (ih s₁ bs₁ htail).trans (h s s₁ bs bs₁ hstep)

/-- What a stretch takes is its length and the bytes that spell the length. -/
theorem readStretch (h : Doubling size step) (fail : DecodeCause → ε) {s s' : σ}
    {bs bs' : Bytes} (hread : readStretch fail step s bs = .ok (s', bs')) :
    ∃ n, (encodeVarint n).length + n + bs'.length ≤ bs.length ∧ size s' ≤ size s + 2 * n := by
  obtain ⟨⟨n, rest⟩, htake, hstretch⟩ := bind_eq_ok.1 hread
  have hlength := (length_of_takeVarint (mapError_eq_ok.1 htake)).1
  dsimp only at hstretch
  split at hstretch
  · cases hstretch
  · obtain ⟨⟨s₁, bs₁⟩, hrepeat, hend⟩ := bind_eq_ok.1 hstretch
    have hgrowth := h.repeatAbove _ _ _ _ _ _ _ hrepeat
    dsimp only at hend
    split at hend
    · cases hend
      refine ⟨n, ?_, ?_⟩
      · omega
      · omega
    · cases hend

end Doubling
end Doubling

/-! ## Keys and skipped fields -/

theorem Key.length_encode_le {k : Key} {bs rest : Bytes} (h : Key.decode bs = .ok (k, rest)) :
    k.encode.length + rest.length ≤ bs.length := by
  rw [Key.decode] at h
  split at h
  · cases h
  · rename_i n tail hread
    obtain ⟨word, rfl, hword⟩ := decodeVarint_eq_some.1 hread
    split at h
    · cases h
    · split at h
      · cases h
      · rename_i wireType hcode
        split at h
        · cases h
        · cases h
          have hkey : n / 8 * 8 + wireType.code = n := by
            have hmod : wireType.code = n % 8 := by
              revert hcode
              have hlt := Nat.mod_lt n (by decide : 0 < 8)
              interval_cases n % 8 <;> intro hcode <;> cases hcode <;> rfl
            omega
          rw [Key.encode, hkey, List.length_append]
          exact Nat.add_le_add_right hword.spells.length_encodeVarint_le _

theorem Key.length_encode_of_lt {number : Nat} (h : number < 16) (wireType : WireType) :
    (Key.encode ⟨number, wireType⟩).length = 1 := by
  have hcode := wireType.code_lt
  rw [Key.encode, encodeVarint, if_pos (by dsimp only; omega), List.length_singleton]

theorem length_delimited_of_takeDelimited {bs content rest : Bytes}
    (h : takeDelimited bs = .ok (content, rest)) :
    (delimited content).length + rest.length ≤ bs.length := by
  obtain ⟨⟨n, tail⟩, hvarint, hexact⟩ := bind_eq_ok.1 h
  obtain ⟨rfl, rfl⟩ := takeExact_eq_ok.1 hexact
  have hlength := (length_of_takeVarint hvarint).1
  rw [List.length_append] at hlength
  rw [delimited, List.length_append]
  omega

/-- Skipping never hands back more than it was given. -/
theorem length_skipGroup_le {skip : Key → Bytes → Except DecodeCause Bytes}
    (hskip : ∀ key bs rest, skip key bs = .ok rest → rest.length ≤ bs.length) {number fuel : Nat}
    {bs rest : Bytes} (h : skipGroup skip number fuel bs = .ok rest) :
    rest.length ≤ bs.length := by
  induction fuel generalizing bs with
  | zero => cases h
  | succ fuel ih =>
    obtain ⟨⟨key, tail⟩, hkey, hgroup⟩ := bind_eq_ok.1 h
    have htail := Key.length_encode_le hkey
    dsimp only at hgroup htail
    split_ifs at hgroup
    · cases hgroup
      omega
    · obtain ⟨left, hfield, hmore⟩ := bind_eq_ok.1 hgroup
      have hleft := hskip _ _ _ hfield
      have hrest := ih hmore
      omega

theorem length_skipField_le {budget : Nat} {key : Key} {bs rest : Bytes}
    (h : skipField budget key bs = .ok rest) : rest.length ≤ bs.length := by
  induction budget generalizing key bs rest with
  | zero => cases h
  | succ budget ih =>
    rw [skipField] at h
    split at h
    · obtain ⟨⟨n, tail⟩, hread, rfl⟩ := map_eq_ok.1 h
      have hlength := (length_of_takeVarint hread).1
      dsimp only
      omega
    · obtain ⟨⟨word, tail⟩, hread, rfl⟩ := map_eq_ok.1 h
      obtain ⟨rfl, -⟩ := takeExact_eq_ok.1 hread
      simp
    · obtain ⟨⟨word, tail⟩, hread, rfl⟩ := map_eq_ok.1 h
      obtain ⟨rfl, -⟩ := takeExact_eq_ok.1 hread
      simp
    · obtain ⟨⟨content, tail⟩, hread, rfl⟩ := map_eq_ok.1 h
      have hlength := length_delimited_of_takeDelimited hread
      dsimp only
      omega
    · exact length_skipGroup_le (fun _ _ _ => ih) h
    · cases h

/-! ## Scalars -/

/-- A number of 32 bits with a sign is written as one of 64 bits, which takes more. -/
def Scalar.widens : Scalar → Bool
  | int32 | enumeration _ => true
  | _ => false

theorem Scalar.length_encode_pos (k : Scalar) (a : k.Val) : 0 < (k.encode a).length := by
  cases k with
  | fixed64 =>
    rw [encode, length_littleEndian]
    decide
  | bool => exact Nat.one_pos
  | string | bytes =>
    rw [encode, delimited, List.length_append]
    exact Nat.add_pos_left (length_encodeVarint_pos _) _
  | int32 | int64 | uint32 | enumeration => exact length_encodeVarint_pos _

/-- The low half of a number takes ten bytes only where the number has its 32nd bit. -/
theorem length_encodeVarint_signExtended (n : Nat) :
    (encodeVarint (Int32.ofNat n).toInt64.toUInt64.toNat).length ≤
      2 * (encodeVarint n).length := by
  by_cases hsmall : n < 2 ^ 31
  · have hvalue : (Int32.ofNat n).toInt64.toUInt64.toNat = n := by
      rw [toNat_toUInt64, Int32.toInt_toInt64, Int32.toInt_ofNat_of_lt hsmall]
      omega
    rw [hvalue]
    omega
  · have hlong : 4 < (encodeVarint n).length := by
      have hlt := lt_pow_length_encodeVarint n
      by_contra hshort
      have hpow : 128 ^ (encodeVarint n).length ≤ 128 ^ 4 :=
        Nat.pow_le_pow_right (by decide) (Nat.not_lt.1 hshort)
      omega
    have hten := length_encodeVarint_le 9 (Int32.ofNat n).toInt64.toUInt64.toNat
      (UInt64.toNat_lt _)
    omega

theorem Scalar.length_encode_le {k : Scalar} (hk : k.widens = false) {a : k.Val}
    {bs rest : Bytes} (h : k.decode bs = .ok (a, rest)) :
    (k.encode a).length + rest.length ≤ bs.length := by
  cases k with
  | int32 | enumeration => cases hk
  | int64 =>
    obtain ⟨⟨n, tail⟩, hread, h⟩ := bind_eq_ok.1 h
    cases h
    obtain ⟨hlength, hlt⟩ := length_of_takeVarint hread
    have hvalue : (Int64.ofNat n).toUInt64.toNat = n := Nat.mod_eq_of_lt hlt
    rwa [encode, hvalue]
  | uint32 =>
    obtain ⟨⟨n, tail⟩, hread, h⟩ := bind_eq_ok.1 h
    cases h
    have hlength := (length_of_takeVarint hread).1
    have hvalue := length_encodeVarint_mono (Nat.mod_le n (2 ^ 32))
    rw [encode, UInt32.toNat_ofNat']
    omega
  | fixed64 =>
    obtain ⟨⟨eight, tail⟩, hread, h⟩ := bind_eq_ok.1 h
    cases h
    obtain ⟨rfl, height⟩ := takeExact_eq_ok.1 hread
    rw [encode, length_littleEndian, List.length_append, height]
  | bool =>
    obtain ⟨⟨n, tail⟩, hread, h⟩ := bind_eq_ok.1 h
    cases h
    have hlength := (length_of_takeVarint hread).1
    have hpos := length_encodeVarint_pos n
    rw [encode, List.length_singleton]
    omega
  | string =>
    obtain ⟨⟨content, tail⟩, hread, h⟩ := bind_eq_ok.1 h
    dsimp only at h
    split at h
    · rename_i text htext
      cases h
      rw [encode, encode_of_decode? htext]
      exact length_delimited_of_takeDelimited hread
    · cases h
  | bytes => exact length_delimited_of_takeDelimited h

theorem Scalar.length_encode_le_double {k : Scalar} {a : k.Val} {bs rest : Bytes}
    (h : k.decode bs = .ok (a, rest)) : (k.encode a).length + 2 * rest.length ≤ 2 * bs.length := by
  cases hk : k.widens with
  | false =>
    have hlength := Scalar.length_encode_le hk h
    omega
  | true =>
    cases k with
    | int32 | enumeration =>
      obtain ⟨⟨n, tail⟩, hread, h⟩ := bind_eq_ok.1 h
      cases h
      have hlength := (length_of_takeVarint hread).1
      have hsigned := length_encodeVarint_signExtended n
      rw [encode]
      omega
    | int64 | uint32 | fixed64 | bool | string | bytes => cases hk

/-! ## Fields -/

section Fields

variable {label : Label} {α : Type}

/-- Taking an occurrence in adds no more than the occurrence is written as. -/
theorem Label.length_add_le (write : α → Bytes) (v : label.Of α) (a : α) :
    ((label.occurrences (label.add v a)).flatMap write).length ≤
      ((label.occurrences v).flatMap write).length + (write a).length := by
  cases label with
  | required | optional => simp [occurrences, add]
  | repeated => simp [occurrences, add]

/-- A single occurrence is what the next one merges into. -/
theorem Label.target_add (hlabel : label ≠ .repeated) (zero : α) (v : label.Of α) (a : α) :
    label.target zero (label.add v a) = a := by
  cases label with
  | required | optional => rfl
  | repeated => exact absurd rfl hlabel

theorem Label.foldl_add_repeated (as more : List α) :
    more.foldl (Label.add .repeated) as = as ++ more := by
  rw [show Label.add (α := α) .repeated = fun as a => as ++ [a] from rfl,
    List.foldl_append_eq_append]
  exact congrArg _ (List.flatMap_singleton' more)

end Fields

theorem eq_of_checkWireType {actual expected : WireType} {u : Unit}
    (h : checkWireType actual expected = .ok u) : actual = expected := by
  rw [checkWireType] at h
  split at h
  · assumption
  · cases h

/-- How a scalar field is written, occurrence by occurrence. -/
def Scalar.written (number : Nat) (label : Label) (k : Scalar) (v : label.Of k.Val) : Bytes :=
  (label.occurrences v).flatMap fun a => Key.encode ⟨number, k.wireType⟩ ++ k.encode a

/-- An element of a packed run takes at least a byte, which makes up for the key it is given. -/
theorem doubling_packedStep {number : Nat} (hnumber : number < 16) {k : Scalar}
    (hk : k.widens = false) :
    Doubling (fun as => (k.written number .repeated as).length) (packedStep k) := by
  intro as as' bs bs' hstep
  obtain ⟨⟨a, rest⟩, hread, heq⟩ := bind_eq_ok.1 hstep
  obtain ⟨rfl, rfl⟩ := Prod.mk.inj (Except.ok.inj heq)
  have hlength := Scalar.length_encode_le hk hread
  have hpos := k.length_encode_pos a
  have hadd := Label.length_add_le (fun a => Key.encode ⟨number, k.wireType⟩ ++ k.encode a)
    (as : Label.repeated.Of k.Val) a
  rw [List.length_append, Key.length_encode_of_lt hnumber] at hadd
  change (k.written number .repeated (as ++ [a])).length ≤
    (k.written number .repeated as).length + _ at hadd
  dsimp only
  omega

theorem length_written_decodeScalarField {number : Nat} {label : Label} {k : Scalar}
    (hcompact : label = .repeated → number < 16 ∧ k.widens = false) {wireType : WireType}
    {v v' : label.Of k.Val} {bs bs' : Bytes}
    (h : decodeScalarField label k wireType v bs = .ok (v', bs')) :
    (k.written number label v').length + 2 * bs'.length ≤
      (k.written number label v).length +
        2 * ((Key.encode ⟨number, wireType⟩).length + bs.length) := by
  rw [decodeScalarField] at h
  split at h
  · rename_i hpacked
    obtain ⟨rfl, -, -⟩ := hpacked
    obtain ⟨hnumber, hk⟩ := hcompact rfl
    obtain ⟨⟨as, rest⟩, hread, heq⟩ := bind_eq_ok.1 h
    cases heq
    obtain ⟨n, hlength, hsize⟩ := (doubling_packedStep hnumber hk).readStretch id hread
    have hempty : (k.written number .repeated []).length = 0 := rfl
    have happend : k.written number .repeated (v ++ as) =
        k.written number .repeated v ++ k.written number .repeated as := List.flatMap_append
    rw [Label.foldl_add_repeated, happend, List.length_append]
    omega
  · obtain ⟨u, hcheck, h⟩ := bind_eq_ok.1 h
    obtain ⟨⟨a, rest⟩, hread, heq⟩ := bind_eq_ok.1 h
    cases heq
    obtain rfl := eq_of_checkWireType hcheck
    have hlength := Scalar.length_encode_le_double hread
    have hadd := Label.length_add_le (fun a => Key.encode ⟨number, k.wireType⟩ ++ k.encode a) v a
    rw [List.length_append] at hadd
    change (k.written number label (label.add v a)).length ≤
      (k.written number label v).length + _ at hadd
    omega

/-! ## Layouts -/

namespace Layout

/-- Repeated fields are numbers with keys of one byte that are written in no more bytes than they
were read from. -/
def Compact : Layout → Prop
  | done => True
  | scalar number _ label kind rest =>
    (label = .repeated → number < 16 ∧ kind.widens = false) ∧ rest.Compact
  | message _ _ label _ inner rest => label ≠ .repeated ∧ inner.Compact ∧ rest.Compact

instance decidableCompact : (s : Layout) → Decidable s.Compact
  | done => .isTrue trivial
  | scalar _ _ _ _ rest =>
    have := rest.decidableCompact
    inferInstanceAs (Decidable ((_ → _ ∧ _) ∧ _))
  | message _ _ _ _ inner rest =>
    have := inner.decidableCompact
    have := rest.decidableCompact
    inferInstanceAs (Decidable (_ ≠ _ ∧ _ ∧ _))

/-- What the encoding takes if the embedded messages that are absent are there. -/
def room : (s : Layout) → s.Val → Nat
  | done, _ => 0
  | scalar number _ label kind rest, (v, vs) => (kind.written number label v).length + rest.room vs
  | message number _ label _ inner rest, (v, vs) =>
    let content := inner.room (label.target inner.zero v)
    (Key.encode ⟨number, .lengthDelimited⟩).length + (encodeVarint content).length + content +
      rest.room vs

theorem length_encode_le_room {s : Layout} (hs : s.Compact) (v : s.Val) :
    (s.encode v).length ≤ s.room v := by
  induction s with
  | done => exact le_rfl
  | scalar number name label kind rest ih =>
    rw [encode, room, List.length_append]
    exact Nat.add_le_add_left (ih hs.2 v.2) _
  | message number name label type inner rest ihInner ih =>
    obtain ⟨v, vs⟩ := v
    obtain ⟨hlabel, hinner, hrest⟩ := hs
    have hvs := ih hrest vs
    have hone (a : inner.Val) :
        (Key.encode ⟨number, .lengthDelimited⟩ ++ delimited (inner.encode a)).length ≤
          (Key.encode ⟨number, .lengthDelimited⟩).length +
            (encodeVarint (inner.room a)).length + inner.room a := by
      have ha := ihInner hinner a
      have hlength := length_encodeVarint_mono ha
      rw [delimited, List.length_append, List.length_append]
      omega
    rw [encode, room, List.length_append]
    apply Nat.add_le_add _ hvs
    cases label with
    | required =>
      rw [Label.occurrences, List.flatMap_singleton]
      exact hone v
    | optional =>
      cases v with
      | none => exact Nat.zero_le _
      | some a =>
        rw [Label.occurrences, Option.toList, List.flatMap_singleton]
        exact hone a
    | repeated => exact absurd rfl hlabel

/-- Reading a key and then its field lets a message grow by two for every byte at most. -/
theorem doubling_mergeField {s : Layout} {type : String} {budget : Nat}
    (hmerge : ∀ key v v' bs bs', s.mergeKnown type budget key v bs = some (.ok (v', bs')) →
      s.room v' + 2 * bs'.length ≤ s.room v + 2 * (key.encode.length + bs.length)) :
    Doubling s.room (s.mergeField type budget) := by
  intro v v' bs bs' hstep
  obtain ⟨⟨key, rest⟩, hkey, hfield⟩ := bind_eq_ok.1 hstep
  have hlength := Key.length_encode_le (mapError_eq_ok.1 hkey)
  dsimp only at hfield
  split at hfield
  · rename_i r hknown
    have hgrowth := hmerge key v v' rest bs' (hknown.trans (congrArg some hfield))
    omega
  · obtain ⟨left, hskip, heq⟩ := bind_eq_ok.1 hfield
    cases heq
    have hleft := length_skipField_le (mapError_eq_ok.1 hskip)
    omega

/-- An embedded message is read as the stretch behind its length. -/
theorem readStretch_of_mergeKnown {number : Nat} {name type innerType : String} {label : Label}
    {inner rest : Layout} {budget : Nat} {wireType : WireType} {v : label.Of inner.Val}
    {vs : rest.Val} {w : label.Of inner.Val × rest.Val} {bs bs' : Bytes}
    (h : mergeKnown (message number name label innerType inner rest) type budget
      ⟨number, wireType⟩ (v, vs) bs = some (.ok (w, bs'))) :
    wireType = .lengthDelimited ∧ ∃ a, w = (label.add v a, vs) ∧
      readStretch (⟨·, []⟩) (inner.mergeField innerType (budget - 1)) (label.target inner.zero v)
        bs = .ok (a, bs') := by
  rw [mergeKnown, if_pos rfl, checkWireType] at h
  have h := Option.some.inj h
  by_cases hwire : wireType = .lengthDelimited
  · by_cases hbudget : budget = 0
    · rw [if_pos hwire, if_pos hbudget] at h
      cases h
    · rw [if_pos hwire, if_neg hbudget] at h
      dsimp only at h
      split at h
      · rename_i a tail hmerged
        obtain ⟨rfl, rfl⟩ := Prod.mk.inj (Except.ok.inj h)
        exact ⟨hwire, a, rfl, hmerged⟩
      · cases h
  · rw [if_neg hwire] at h
    cases h

/-- The induction is on the layout: an embedded message is read by the same steps one level down. -/
theorem room_mergeKnown {s : Layout} (hs : s.Compact) {type : String} {budget : Nat} {key : Key}
    {v v' : s.Val} {bs bs' : Bytes}
    (h : s.mergeKnown type budget key v bs = some (.ok (v', bs'))) :
    s.room v' + 2 * bs'.length ≤ s.room v + 2 * (key.encode.length + bs.length) := by
  induction s generalizing type budget key bs bs' with
  | done => cases h
  | scalar number name label kind rest ih =>
    obtain ⟨v, vs⟩ := v
    rw [mergeKnown] at h
    split at h
    · rename_i hnumber
      obtain ⟨_, wireType⟩ := key
      subst hnumber
      have h := Option.some.inj h
      split at h
      · rename_i w tail hread
        cases h
        have hfield := length_written_decodeScalarField hs.1 hread
        rw [room, room]
        dsimp only at hfield ⊢
        omega
      · cases h
    · obtain ⟨r, hrest, heq⟩ := Option.map_eq_some_iff.1 h
      obtain ⟨⟨vs', tail⟩, rfl, heq⟩ := map_eq_ok.1 heq
      cases heq
      have hgrowth := ih hs.2 hrest
      rw [room, room]
      omega
  | message number name label innerType inner rest ihInner ih =>
    obtain ⟨v, vs⟩ := v
    obtain ⟨hlabel, hinner, hrest⟩ := hs
    by_cases hnumber : key.number = number
    · obtain ⟨_, wireType⟩ := key
      subst hnumber
      obtain ⟨rfl, a, rfl, hread⟩ := readStretch_of_mergeKnown h
      have hstep : Doubling inner.room (inner.mergeField innerType (budget - 1)) :=
        doubling_mergeField fun _ _ _ _ _ => ihInner hinner
      obtain ⟨n, hlength, hsize⟩ := hstep.readStretch _ hread
      have hgrown := length_encodeVarint_mono hsize
      have hsplit := length_encodeVarint_add (inner.room (label.target inner.zero v)) (2 * n)
      have hdouble := length_encodeVarint_double n
      have hpos := length_encodeVarint_pos n
      rw [room, room, Label.target_add hlabel]
      dsimp only
      omega
    · rw [mergeKnown, if_neg hnumber] at h
      obtain ⟨r, hknown, heq⟩ := Option.map_eq_some_iff.1 h
      obtain ⟨⟨vs', tail⟩, rfl, heq⟩ := map_eq_ok.1 heq
      cases heq
      have hgrowth := ih hrest hknown
      rw [room, room]
      omega

/-- Writing what was read takes at most twice the bytes, and what the empty message takes. -/
theorem length_encode_decode_le {s : Layout} (hs : s.Compact) {type : String} {v : s.Val}
    {bs : Bytes} (h : s.decode type bs = .ok v) :
    (s.encode v).length ≤ s.room s.zero + 2 * bs.length := by
  obtain ⟨⟨v', rest⟩, hread, rfl⟩ := map_eq_ok.1 h
  have hstep : Doubling s.room (s.mergeField type nestingBudget) :=
    doubling_mergeField fun _ _ _ _ _ => room_mergeKnown hs
  have hgrowth := hstep.repeatAbove _ _ _ _ _ _ _ hread
  have hroom := length_encode_le_room hs v'
  dsimp only
  omega

end Layout

theorem Message.length_encode_decode_le {M : Type} [Message M] (hs : (layout M).Compact) {m : M}
    {bs : Bytes} (h : decode M bs = .ok m) :
    (encode m).length ≤ (layout M).room (layout M).zero + 2 * bs.length := by
  obtain ⟨v, hread, rfl⟩ := map_eq_ok.1 h
  rw [encode, fields_build]
  exact Layout.length_encode_decode_le hs hread

end ClusterProbe.Protobuf
