import Mathlib.Algebra.GroupWithZero.Nat
import ClusterProbe.Proofs.Settings

/-!
# Durations read back

A spelled duration is a row of terms, each of them a number with the name of a unit. The reader
takes such a row term by term (`Duration.Reader.reads_terms`), the terms add up as long as the sum
fits into 64 bits of seconds (`Duration.Term.exists_sum`), and the terms a duration is spelled with
add up to that duration. So a time limit of the command line is the one that is dialed with.
-/
namespace ClusterProbe

namespace TimeUnit

def totalNanos (u : TimeUnit) : Nat :=
  u.seconds * Duration.nanosPerSecond + u.nanos

theorem mem_names_of_ofName? {name : String} {u : TimeUnit} (h : ofName? name = some u) :
    name ∈ u.names := by
  have hfound := List.find?_some h
  exact List.contains_iff_mem.1 hfound

theorem ne_nil_of_mem_names {name : String} {u : TimeUnit} (h : name ∈ u.names) :
    name.toList ≠ [] := by
  revert name
  cases u <;> decide +kernel

theorem isUnitLetter_of_mem_names {name : String} {u : TimeUnit} (h : name ∈ u.names) :
    ∀ c ∈ name.toList, Duration.Reader.isUnitLetter c = true := by
  have hall : ∀ name ∈ u.names, name.toList.all Duration.Reader.isUnitLetter = true := by
    cases u <;> decide +kernel
  exact List.all_eq_true.1 (hall name h)

end TimeUnit

namespace Duration

variable {d d' : Duration} {n : Nat}

/-- The nanoseconds are less than a second. -/
def IsCarried (d : Duration) : Prop :=
  d.nanos < nanosPerSecond

theorem eq_of_totalNanos (hd : d.IsCarried) (hd' : d'.IsCarried)
    (h : d.totalNanos = d'.totalNanos) : d = d' := by
  obtain ⟨seconds, nanos⟩ := d
  obtain ⟨seconds', nanos'⟩ := d'
  simp only [IsCarried, totalNanos, nanosPerSecond, mk.injEq] at *
  omega

/-! ## What is added up -/

theorem word_of_lt (h : n < Nat.pow 2 64) : word n = .ok n :=
  if_pos h

/-- Nothing is lost when the nanoseconds carry over. -/
theorem exists_extend {seconds nanos : Nat} (hnanos : d.nanos + nanos < Nat.pow 2 64)
    (fits : d.totalNanos + (seconds * nanosPerSecond + nanos) < Nat.pow 2 64 * nanosPerSecond) :
    ∃ sum, d.extend seconds nanos = .ok sum ∧ sum.IsCarried ∧
      sum.totalNanos = d.totalNanos + (seconds * nanosPerSecond + nanos) := by
  let carried := seconds + (d.nanos + nanos) / nanosPerSecond
  let sum : Duration := ⟨d.seconds + carried, (d.nanos + nanos) % nanosPerSecond⟩
  have htotal : sum.totalNanos = d.totalNanos + (seconds * nanosPerSecond + nanos) := by
    have split := Nat.div_add_mod (d.nanos + nanos) nanosPerSecond
    simp only [sum, carried, totalNanos, nanosPerSecond] at *
    omega
  have hseconds : d.seconds + carried < Nat.pow 2 64 := by
    refine Nat.lt_of_mul_lt_mul_right (a := nanosPerSecond) (Nat.lt_of_le_of_lt ?_ fits)
    rw [← htotal]
    exact Nat.le_add_right _ _
  refine ⟨sum, ?_, Nat.mod_lt _ (by decide), htotal⟩
  have hcarried : word carried = .ok carried :=
    word_of_lt (Nat.lt_of_le_of_lt (Nat.le_add_left _ _) hseconds)
  unfold extend
  rw [word_of_lt hnanos]
  change (word carried >>= fun carried => (word (d.seconds + carried) >>= fun seconds =>
    pure (⟨seconds, (d.nanos + nanos) % nanosPerSecond⟩ : Duration))) = .ok sum
  rw [hcarried]
  change (word (d.seconds + carried) >>= fun seconds => pure _) = _
  rw [word_of_lt hseconds]
  rfl

/-- A number with the name of a unit behind it, and the unit. -/
structure Term where
  count : Nat
  name : String
  unit : TimeUnit

namespace Term

variable {t : Term}

def letters (t : Term) : List Char :=
  Nat.toDigits 10 t.count ++ t.name.toList

/-- What the term stands for, in nanoseconds. -/
def amount (t : Term) : Nat :=
  t.count * t.unit.totalNanos

def addTo (d : Duration) (t : Term) : Except DurationError Duration :=
  d.addUnits t.count none t.unit

/-- The name is one of the unit, and the number is neither too large for the reader nor, if the unit
is a part of a second, worth more than that second. -/
structure IsPlain (t : Term) : Prop where
  named : TimeUnit.ofName? t.name = some t.unit
  count_lt : t.count < Nat.pow 2 64
  nanos_lt : t.count * t.unit.nanos < nanosPerSecond

theorem amount_eq (t : Term) :
    t.amount = t.count * t.unit.seconds * nanosPerSecond + t.count * t.unit.nanos := by
  rw [amount, TimeUnit.totalNanos, Nat.mul_add, Nat.mul_assoc]

theorem exists_addTo (ht : t.IsPlain) (hd : d.IsCarried)
    (fits : d.totalNanos + t.amount < Nat.pow 2 64 * nanosPerSecond) :
    ∃ sum, addTo d t = .ok sum ∧ sum.IsCarried ∧ sum.totalNanos = d.totalNanos + t.amount := by
  have hnanos : d.nanos + t.count * t.unit.nanos < Nat.pow 2 64 :=
    Nat.lt_trans (Nat.add_lt_add hd ht.nanos_lt) (by decide)
  have hunits : word (t.count * t.unit.nanos) = .ok (t.count * t.unit.nanos) :=
    word_of_lt (Nat.lt_of_le_of_lt (Nat.le_add_left _ _) hnanos)
  rw [amount_eq] at fits ⊢
  have hseconds : t.count * t.unit.seconds < Nat.pow 2 64 := by
    refine Nat.lt_of_mul_lt_mul_right (a := nanosPerSecond) (Nat.lt_of_le_of_lt ?_ fits)
    omega
  obtain ⟨sum, hsum, hcarried, htotal⟩ := exists_extend hnanos fits
  refine ⟨sum, ?_, hcarried, htotal⟩
  unfold addTo addUnits
  rw [word_of_lt hseconds, hunits]
  change (d.extend _ _ >>= pure) = _
  rw [hsum]
  rfl

/-- Plain terms add up exactly as long as the sum fits. -/
theorem exists_sum {terms : List Term} (hplain : ∀ t ∈ terms, t.IsPlain) (hd : d.IsCarried)
    (fits : d.totalNanos + (terms.map amount).sum < Nat.pow 2 64 * nanosPerSecond) :
    ∃ sum, terms.foldlM addTo d = .ok sum ∧ sum.IsCarried ∧
      sum.totalNanos = d.totalNanos + (terms.map amount).sum := by
  induction terms generalizing d with
  | nil => exact ⟨d, rfl, hd, by simp⟩
  | cons t terms ih =>
    rw [List.map_cons, List.sum_cons, ← Nat.add_assoc] at fits ⊢
    obtain ⟨d', hadd, hcarried, htotal⟩ := exists_addTo (hplain t List.mem_cons_self) hd
      (Nat.lt_of_le_of_lt (Nat.le_add_right _ _) fits)
    rw [← htotal] at fits ⊢
    obtain ⟨sum, hsum, hrest⟩ :=
      ih (fun t ht => hplain t (List.mem_cons_of_mem _ ht)) hcarried fits
    refine ⟨sum, ?_, hrest⟩
    rw [List.foldlM_cons, hadd]
    exact hsum

end Term

/-! ## How terms are read -/

namespace Reader

variable {P Q R : Reader → Prop} {cs ds : List Char} {total : Option Duration} {t : Term}

/-- From wherever `P` holds, the text is read without an error and leads to where `Q` holds. -/
def Reads (P : Reader → Prop) (cs : List Char) (Q : Reader → Prop) : Prop :=
  ∀ r, P r → ∃ r', cs.foldlM push r = .ok r' ∧ Q r'

theorem Reads.append (h : Reads P cs Q) (h' : Reads Q ds R) : Reads P (cs ++ ds) R := by
  intro r hr
  obtain ⟨r', hread, hr'⟩ := h r hr
  obtain ⟨r'', hread', hr''⟩ := h' r' hr'
  refine ⟨r'', ?_, hr''⟩
  rw [List.foldlM_append, hread]
  exact hread'

theorem Reads.cons {c : Char} (hpush : ∀ r, P r → ∃ r', r.push c = .ok r' ∧ Q r')
    (h : Reads Q cs R) : Reads P (c :: cs) R := by
  intro r hr
  obtain ⟨r', hr', hQ⟩ := hpush r hr
  obtain ⟨r'', hread, hR⟩ := h r' hQ
  refine ⟨r'', ?_, hR⟩
  rw [List.foldlM_cons, hr']
  exact hread

/-- In front of a number. -/
def AtStart (total : Option Duration) (r : Reader) : Prop :=
  r.total = total ∧ ∃ since, r.reading = .start since

def InNumber (total : Option Duration) (n : Nat) (r : Reader) : Prop :=
  r.total = total ∧ r.reading = .whole n

/-- In the name of a unit, behind a whole number. -/
def InName (total : Option Duration) (n : Nat) (letters : List Char) (r : Reader) : Prop :=
  r.total = total ∧ r.reading = .unit n none letters

theorem isUnitLetter_iff {c : Char} : isUnitLetter c = true ↔
    97 ≤ c.toNat ∧ c.toNat ≤ 122 ∨ 65 ≤ c.toNat ∧ c.toNat ≤ 90 ∨ c.toNat = 181 := by
  have hmicro : c = 'µ' ↔ c.toNat = 181 := Char.toNat_inj.symm
  simp only [isUnitLetter, Bool.or_eq_true, Bool.and_eq_true, decide_eq_true_iff, beq_iff_eq,
    hmicro, or_assoc]
  exact Iff.rfl

theorem not_isDigit_of_isUnitLetter {c : Char} (h : isUnitLetter c = true) :
    Decimal.isDigit c = false := by
  have hletter := isUnitLetter_iff.1 h
  rw [← Bool.not_eq_true, Decimal.isDigit_iff]
  omega

theorem not_isBlank_of_isUnitLetter {c : Char} (h : isUnitLetter c = true) :
    Text.isBlank c = false := by
  have hletter := isUnitLetter_iff.1 h
  simp only [Text.isBlank, Bool.or_eq_false_iff, Bool.and_eq_false_iff, decide_eq_false_iff_not,
    beq_eq_false_iff_ne]
  omega

theorem le_foldl_digits (cs : List Char) (n : Nat) :
    n ≤ cs.foldl (fun n c => n * 10 + Decimal.digitValue c) n := by
  induction cs generalizing n with
  | nil => exact Nat.le_refl n
  | cons c cs ih =>
    have hpushed := ih (n * 10 + Decimal.digitValue c)
    rw [List.foldl_cons]
    omega

/-- Further digits of a number; each number on the way is below the last. -/
theorem reads_digits (hdigits : ∀ c ∈ cs, Decimal.isDigit c = true)
    (hbound : cs.foldl (fun n c => n * 10 + Decimal.digitValue c) n < Nat.pow 2 64) :
    Reads (InNumber total n) cs
      (InNumber total (cs.foldl (fun n c => n * 10 + Decimal.digitValue c) n)) := by
  induction cs generalizing n with
  | nil => exact fun r hr => ⟨r, rfl, hr⟩
  | cons c cs ih =>
    refine .cons ?_ (ih (fun c hc => hdigits c (List.mem_cons_of_mem _ hc)) hbound)
    rintro r ⟨rfl, hreading⟩
    have hword : word (n * 10 + Decimal.digitValue c) = .ok (n * 10 + Decimal.digitValue c) :=
      word_of_lt (Nat.lt_of_le_of_lt (le_foldl_digits cs _) hbound)
    refine ⟨{ r with reading := .whole (n * 10 + Decimal.digitValue c),
                     offset := r.offset + c.utf8Size }, ?_, rfl, rfl⟩
    simp only [push, step, hreading, hdigits c List.mem_cons_self, if_true, hword]
    rfl

theorem reads_number (h : n < Nat.pow 2 64) :
    Reads (AtStart total) (Nat.toDigits 10 n) (InNumber total n) := by
  have hdigits : ∀ c ∈ Nat.toDigits 10 n, Decimal.isDigit c = true :=
    fun c => Decimal.isDigit_of_mem_toDigits
  have hvalue := Decimal.valueOf_toDigits n
  cases hcs : Nat.toDigits 10 n with
  | nil => exact absurd hcs Nat.toDigits_ne_nil
  | cons c cs =>
    rw [hcs] at hdigits hvalue
    rw [Decimal.valueOf, List.foldl_cons, Nat.zero_mul, Nat.zero_add] at hvalue
    have hrest : Reads (InNumber total (Decimal.digitValue c)) cs (InNumber total n) :=
      hvalue ▸ reads_digits (fun c hc => hdigits c (List.mem_cons_of_mem _ hc)) (hvalue.symm ▸ h)
    refine .cons ?_ hrest
    rintro r ⟨rfl, since, hreading⟩
    refine ⟨{ r with reading := .whole (Decimal.digitValue c),
                     offset := r.offset + c.utf8Size }, ?_, rfl, rfl⟩
    simp only [push, step, hreading, hdigits c List.mem_cons_self, if_true]
    rfl

/-- Further letters of a name, which the reader keeps in reverse. -/
theorem reads_letters {letters : List Char} (hletters : ∀ c ∈ cs, isUnitLetter c = true) :
    Reads (InName total n letters) cs (InName total n (cs.reverse ++ letters)) := by
  induction cs generalizing letters with
  | nil => exact fun r hr => ⟨r, rfl, hr⟩
  | cons c cs ih =>
    rw [List.reverse_cons, List.append_assoc]
    refine .cons ?_ (ih fun c hc => hletters c (List.mem_cons_of_mem _ hc))
    rintro r ⟨rfl, hreading⟩
    refine ⟨{ r with reading := .unit n none (c :: letters),
                     offset := r.offset + c.utf8Size }, ?_, rfl, rfl⟩
    simp only [push, step, hreading, hletters c List.mem_cons_self, if_true]
    rfl

theorem reads_name (hne : cs ≠ []) (hletters : ∀ c ∈ cs, isUnitLetter c = true) :
    Reads (InNumber total n) cs (InName total n cs.reverse) := by
  cases cs with
  | nil => exact absurd rfl hne
  | cons c cs =>
    have hletter := hletters c List.mem_cons_self
    rw [List.reverse_cons]
    refine .cons ?_ (reads_letters fun c hc => hletters c (List.mem_cons_of_mem _ hc))
    rintro r ⟨rfl, hreading⟩
    refine ⟨{ r with reading := .unit n none [c], offset := r.offset + c.utf8Size }, ?_, rfl, rfl⟩
    simp only [push, step, hreading, not_isDigit_of_isUnitLetter hletter,
      not_isBlank_of_isUnitLetter hletter, hletter, if_true]
    rfl

theorem reads_term (ht : t.IsPlain) :
    Reads (AtStart total) t.letters (InName total t.count t.name.toList.reverse) := by
  have hname := TimeUnit.mem_names_of_ofName? ht.named
  exact (reads_number ht.count_lt).append
    (reads_name (TimeUnit.ne_nil_of_mem_names hname) (TimeUnit.isUnitLetter_of_mem_names hname))

theorem addTerm_eq_ok {r : Reader} (named : TimeUnit.ofName? t.name = some t.unit)
    (h : t.addTo (r.total.getD ⟨0, 0⟩) = .ok d) :
    r.addTerm t.count none t.name.toList.reverse = .ok { r with total := some d } := by
  simp only [addTerm, List.reverse_reverse, String.ofList_toList, named]
  rw [Term.addTo] at h
  rw [h]
  rfl

/-- A blank ends a term. -/
theorem reads_blank (named : TimeUnit.ofName? t.name = some t.unit)
    (h : t.addTo (total.getD ⟨0, 0⟩) = .ok d) :
    Reads (InName total t.count t.name.toList.reverse) [' '] (AtStart (some d)) := by
  refine .cons ?_ (fun r hr => ⟨r, rfl, hr⟩ : Reads (AtStart (some d)) [] (AtStart (some d)))
  rintro r ⟨rfl, hreading⟩
  refine ⟨{ r with total := some d, reading := .start (r.offset + ' '.utf8Size),
                   offset := r.offset + ' '.utf8Size }, ?_, rfl, _, rfl⟩
  rw [push, step, hreading]
  simp only [addTerm_eq_ok named h]
  rfl

theorem finish_of_inName {r : Reader} (named : TimeUnit.ofName? t.name = some t.unit)
    (h : t.addTo (total.getD ⟨0, 0⟩) = .ok d)
    (hr : InName total t.count t.name.toList.reverse r) : r.finish = .ok d := by
  obtain ⟨rfl, hreading⟩ := hr
  simp only [finish, hreading, addTerm_eq_ok named h]
  rfl

/-- Terms with a blank between each two are read as their sum. -/
theorem reads_terms {terms : List Term} (hne : terms ≠ []) (hplain : ∀ t ∈ terms, t.IsPlain)
    (h : terms.foldlM Term.addTo (total.getD ⟨0, 0⟩) = .ok d) :
    Reads (AtStart total) ([' '].intercalate (terms.map Term.letters)) (finish · = .ok d) := by
  induction terms generalizing total with
  | nil => exact absurd rfl hne
  | cons t terms ih =>
    have ht := hplain t List.mem_cons_self
    obtain ⟨sum, hsum, hrest⟩ : ∃ sum, t.addTo (total.getD ⟨0, 0⟩) = .ok sum ∧
        terms.foldlM Term.addTo sum = .ok d := by
      rw [List.foldlM_cons] at h
      cases hadd : t.addTo (total.getD ⟨0, 0⟩) with
      | error e =>
        rw [hadd] at h
        cases h
      | ok sum =>
        rw [hadd] at h
        exact ⟨sum, rfl, h⟩
    cases terms with
    | nil =>
      cases hrest
      intro r hr
      obtain ⟨r', hread, hr'⟩ := reads_term ht r hr
      refine ⟨r', ?_, finish_of_inName ht.named hsum hr'⟩
      rwa [List.map_cons, List.map_nil, List.intercalate_singleton]
    | cons t' terms =>
      rw [List.map_cons, List.map_cons, List.intercalate_cons_cons]
      have hterm := (reads_term ht).append (reads_blank ht.named hsum)
      exact hterm.append (ih (List.cons_ne_nil _ _)
        (fun t ht => hplain t (List.mem_cons_of_mem _ ht)) hrest)

/-- A row of terms is no lone zero, because every term has a digit and a letter. -/
theorem one_lt_length_terms {terms : List Term} (hne : terms ≠ [])
    (hplain : ∀ t ∈ terms, t.IsPlain) :
    1 < ([' '].intercalate (terms.map Term.letters)).length := by
  cases terms with
  | nil => exact absurd rfl hne
  | cons t terms =>
    have hdigits := List.length_pos_iff.2 (Nat.toDigits_ne_nil (b := 10) (n := t.count))
    have hname := List.length_pos_iff.2 (TimeUnit.ne_nil_of_mem_names
      (TimeUnit.mem_names_of_ofName? (hplain t List.mem_cons_self).named))
    have hletters : t.letters.length = (Nat.toDigits 10 t.count).length + t.name.toList.length :=
      List.length_append
    cases terms with
    | nil =>
      rw [List.map_cons, List.map_nil, List.intercalate_singleton]
      omega
    | cons t' terms =>
      rw [List.map_cons, List.map_cons, List.intercalate_cons_cons, List.length_append,
        List.length_append]
      omega

theorem parse_terms {s : String} {terms : List Term} (hne : terms ≠ [])
    (hplain : ∀ t ∈ terms, t.IsPlain) (h : terms.foldlM Term.addTo ⟨0, 0⟩ = .ok d)
    (hletters : s.toList = [' '].intercalate (terms.map Term.letters)) : parse s = .ok d := by
  have hs : s ≠ "0" := by
    rintro rfl
    have hlength := one_lt_length_terms hne hplain
    rw [← hletters] at hlength
    exact absurd hlength (by decide)
  have hreads : Reads (AtStart none) _ _ := reads_terms hne hplain h
  obtain ⟨r, hread, hfinish⟩ := hreads {} ⟨rfl, 0, rfl⟩
  unfold parse
  rw [if_neg hs, hletters, hread]
  exact hfinish

end Reader

/-! ## What a duration is spelled with -/

/-- The parts of a duration from the years down to the nanoseconds, with zeros among them. -/
def terms (d : Duration) : List Term :=
  let long := fun (name : String) (n : Nat) (u : TimeUnit) =>
    Term.mk n (if n = 1 then name else name ++ "s") u
  let ofYear := d.seconds % TimeUnit.year.seconds
  let ofMonth := ofYear % TimeUnit.month.seconds
  let ofDay := ofMonth % TimeUnit.day.seconds
  [long "year" (d.seconds / TimeUnit.year.seconds) .year,
    long "month" (ofYear / TimeUnit.month.seconds) .month,
    long "day" (ofMonth / TimeUnit.day.seconds) .day,
    ⟨ofDay / 3600, "h", .hour⟩, ⟨ofDay % 3600 / 60, "m", .minute⟩, ⟨ofDay % 60, "s", .second⟩,
    ⟨d.nanos / 1000000, "ms", .millisecond⟩, ⟨d.nanos / 1000 % 1000, "us", .microsecond⟩,
    ⟨d.nanos % 1000, "ns", .nanosecond⟩]

def shownTerms (d : Duration) : List Term :=
  d.terms.filter (·.count ≠ 0)

theorem spelled_eq (d : Duration) :
    d.spelled = if d.shownTerms.isEmpty then "0s"
      else String.intercalate " " (d.shownTerms.map fun t => s!"{t.count}{t.name}") := by
  have hshown : (d.terms.map fun t => (t.count, t.name)).filter (fun x => decide (x.1 ≠ 0)) =
      d.shownTerms.map fun t => (t.count, t.name) := by
    rw [List.filter_map]
    rfl
  unfold spelled
  dsimp only
  split
  · rename_i hnone
    rw [List.map_eq_nil_iff.1 (hshown.symm.trans hnone)]
    rfl
  · rename_i hsome
    have hcons : d.shownTerms.isEmpty = false := by
      rw [List.isEmpty_eq_false_iff]
      exact fun hnil => hsome (hshown.trans (List.map_eq_nil_iff.2 hnil))
    rw [hcons, if_neg Bool.false_ne_true]
    refine (congrArg (fun parts => String.intercalate " "
      (parts.map fun (part : Nat × String) => s!"{part.1}{part.2}")) hshown).trans ?_
    simp only [List.map_map, Function.comp_def]

/-! The sums below are rewritten, not computed: a product with the seconds of a year is nothing the
kernel should unfold. -/

theorem Term.sum_amount (terms : List Term) :
    (terms.map amount).sum = (terms.map fun t => t.count * t.unit.seconds).sum * nanosPerSecond +
      (terms.map fun t => t.count * t.unit.nanos).sum := by
  induction terms with
  | nil => rfl
  | cons t terms ih =>
    simp only [List.map_cons, List.sum_cons, ih, amount_eq, Nat.add_mul]
    omega

/-- Years, months and so on down to seconds make up the seconds of the duration. -/
theorem sum_seconds_terms (d : Duration) :
    (d.terms.map fun t => t.count * t.unit.seconds).sum = d.seconds := by
  rw [terms]
  simp -implicitDefEqProofs only [List.map_cons, List.map_nil, List.sum_cons, List.sum_nil,
    TimeUnit.seconds]
  omega

theorem sum_nanos_terms (d : Duration) :
    (d.terms.map fun t => t.count * t.unit.nanos).sum = d.nanos := by
  rw [terms]
  simp -implicitDefEqProofs only [List.map_cons, List.map_nil, List.sum_cons, List.sum_nil,
    TimeUnit.nanos]
  omega

theorem Term.sum_amount_filter (terms : List Term) :
    ((terms.filter (·.count ≠ 0)).map amount).sum = (terms.map amount).sum := by
  induction terms with
  | nil => rfl
  | cons t terms ih =>
    by_cases hzero : t.count = 0
    · rw [List.filter_cons_of_neg (by simpa using hzero), ih, List.map_cons, List.sum_cons, amount,
        hzero, Nat.zero_mul, Nat.zero_add]
    · rw [List.filter_cons_of_pos (by simpa using hzero), List.map_cons, List.sum_cons, ih,
        List.map_cons, List.sum_cons]

/-- Leaving out zeros takes nothing away. -/
theorem sum_amount_shownTerms (d : Duration) :
    (d.shownTerms.map Term.amount).sum = d.totalNanos := by
  rw [shownTerms, Term.sum_amount_filter, Term.sum_amount, sum_seconds_terms, sum_nanos_terms,
    totalNanos]

theorem isPlain_of_mem_terms (hd : d.IsCarried) (hseconds : d.seconds < Nat.pow 2 64) :
    ∀ t ∈ d.terms, t.IsPlain := by
  have hnanos : d.nanos < 1000000000 := hd
  have long {n : Nat} {name : String} {u : TimeUnit} (hone : TimeUnit.ofName? name = some u)
      (hmany : TimeUnit.ofName? (name ++ "s") = some u) (hu : u.nanos = 0) (hn : n ≤ d.seconds) :
      (Term.mk n (if n = 1 then name else name ++ "s") u).IsPlain := by
    refine ⟨?_, Nat.lt_of_le_of_lt hn hseconds, by simp [hu, nanosPerSecond]⟩
    change TimeUnit.ofName? (if n = 1 then name else name ++ "s") = some u
    split <;> assumption
  have whole {n : Nat} {name : String} {u : TimeUnit} (named : TimeUnit.ofName? name = some u)
      (hu : u.nanos = 0) (hn : n ≤ d.seconds) : (Term.mk n name u).IsPlain :=
    ⟨named, Nat.lt_of_le_of_lt hn hseconds, by simp [hu, nanosPerSecond]⟩
  have part {n : Nat} {name : String} {u : TimeUnit} (worth : Nat)
      (named : TimeUnit.ofName? name = some u) (hu : u.nanos = worth) (hn : n < 1000000000)
      (hworth : n * worth < 1000000000) : (Term.mk n name u).IsPlain :=
    ⟨named, Nat.lt_trans hn (by decide), hu ▸ hworth⟩
  rw [terms]
  simp only [List.forall_mem_cons, TimeUnit.seconds]
  refine ⟨long rfl rfl rfl ?_, long rfl rfl rfl ?_, long rfl rfl rfl ?_, whole rfl rfl ?_,
    whole rfl rfl ?_, whole rfl rfl ?_, part 1000000 rfl rfl ?_ ?_, part 1000 rfl rfl ?_ ?_,
    part 1 rfl rfl ?_ ?_, nofun⟩
  all_goals omega

/-- A duration is read back from its text, with nothing lost and no number too large on the way. -/
theorem parse_spelled (hseconds : d.seconds < Nat.pow 2 64) (hd : d.IsCarried) :
    parse d.spelled = .ok d := by
  have hplain : ∀ t ∈ d.shownTerms, t.IsPlain :=
    fun t ht => isPlain_of_mem_terms hd hseconds t (List.mem_filter.1 ht).1
  have hamount := sum_amount_shownTerms d
  have hstart : IsCarried ⟨0, 0⟩ := Nat.zero_lt_succ _
  have htotal : d.totalNanos < Nat.pow 2 64 * nanosPerSecond := by
    have hnanos : d.nanos < nanosPerSecond := hd
    calc d.totalNanos
      _ < d.seconds * nanosPerSecond + nanosPerSecond := Nat.add_lt_add_left hnanos _
      _ = (d.seconds + 1) * nanosPerSecond := (Nat.succ_mul _ _).symm
      _ ≤ Nat.pow 2 64 * nanosPerSecond := Nat.mul_le_mul_right _ hseconds
  have hsum : d.shownTerms.foldlM Term.addTo ⟨0, 0⟩ = .ok d := by
    obtain ⟨sum, hsum, hcarried, hvalue⟩ := Term.exists_sum hplain hstart
      (Nat.lt_of_le_of_lt (Nat.le_of_eq ((Nat.zero_add _).trans hamount)) htotal)
    rw [hamount] at hvalue
    rwa [eq_of_totalNanos hcarried hd (hvalue.trans (Nat.zero_add _))] at hsum
  rw [spelled_eq]
  cases hshown : d.shownTerms with
  | nil =>
    rw [hshown] at hsum
    cases hsum
    rfl
  | cons t shown =>
    rw [hshown] at hplain hsum
    refine Reader.parse_terms (List.cons_ne_nil t shown) hplain hsum ?_
    have hletters (t : Term) : (s!"{t.count}{t.name}").toList = t.letters := by
      simp [Term.letters, toString]
    rw [List.isEmpty_cons, if_neg Bool.false_ne_true, String.toList_intercalate, List.map_map]
    exact congrArg _ (List.map_congr_left fun t _ => hletters t)

end Duration

namespace Program

variable {o : Options} {d : Duration}

/-- **The dial timeout of the command line survives its trip through text.** Any length of time with
64 bits of seconds and less than a second of nanoseconds is kept as text in the settings and read
from there exactly as it was given: over any settings, and over whatever the file and the
environment say. -/
theorem dialLimit_of_dialTimeout (ho : o.dialTimeout = some d) (hseconds : d.seconds < Nat.pow 2 64)
    (hnanos : d.nanos < 1000000000) :
    (∀ s : Settings, (s.withOptions o).dialLimit = .ok d) ∧
      ∀ (files : FileReader) (env : Environment) (s : Settings),
        (effectiveSettings files env o).result.1 = .ok s → s.dialLimit = .ok d := by
  have hparse : Duration.parse d.spelled = .ok d := Duration.parse_spelled hseconds hnanos
  have hlimit (s : Settings) (hs : s.dialTimeout = some d.spelled) : s.dialLimit = .ok d := by
    rw [Settings.dialLimit, hs]
    change (Duration.parse d.spelled).mapError _ = _
    rw [hparse]
    rfl
  constructor
  · intro s
    refine hlimit _ ?_
    rw [Settings.withOptions, ho]
    rfl
  · intro files env s hs
    obtain ⟨file, -, hmerges⟩ := effectiveSettings_eq_ok_iff.1 hs
    refine hlimit s ?_
    rw [hmerges.dialTimeout, ho]
    rfl

/-- The longest time there is, while the environment asks for five seconds. -/
theorem dialLimit_of_dialTimeout_longest :
    let longest : Duration := ⟨18446744073709551615, 999999999⟩
    let o : Options := { dialTimeout := some longest }
    let env : Environment := fun name => if name = "YUGATOOL_DIAL_TIMEOUT" then some "5s" else none
    let s : Settings := {
      dialTimeout := some "584542046090years 7months 15days 17h 5m 3s 999ms 999us 999ns" }
    (effectiveSettings .none env o).result.1 = .ok s ∧ s.dialLimit = .ok longest := by
  intro longest o env s
  have effective : (effectiveSettings .none env o).result.1 = .ok s := by
    refine effectiveSettings_eq_ok_iff.mpr ⟨{}, rfl, rfl, ?_, rfl, rfl, rfl, rfl, nofun, rfl⟩
    decide +kernel
  exact ⟨effective, (dialLimit_of_dialTimeout rfl (by decide) (by decide)).2 _ _ s effective⟩

end Program
end ClusterProbe
