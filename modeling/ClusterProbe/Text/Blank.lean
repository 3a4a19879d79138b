import ClusterProbe.Decimal

/-!
# White space

The property White_Space of Unicode, and cutting white space off the ends of a text.
-/
namespace ClusterProbe.Text

def isBlank (c : Char) : Bool :=
  let n := c.toNat
  (0x09 ≤ n && n ≤ 0x0D) || n == 0x20 || n == 0x85 || n == 0xA0 || n == 0x1680 ||
    (0x2000 ≤ n && n ≤ 0x200A) || n == 0x2028 || n == 0x2029 || n == 0x202F || n == 0x205F ||
    n == 0x3000

/-- The visible characters of ASCII are not blank. -/
theorem isBlank_of_visible {c : Char} (hlow : 33 ≤ c.toNat) (hhigh : c.toNat ≤ 126) :
    isBlank c = false := by
  simp only [isBlank, Bool.or_eq_false_iff, Bool.and_eq_false_iff, decide_eq_false_iff_not,
    beq_eq_false_iff_ne]
  omega

theorem isBlank_of_isDigit {c : Char} (h : Decimal.isDigit c = true) : isBlank c = false := by
  obtain ⟨hlow, hhigh⟩ := Decimal.isDigit_iff.1 h
  exact isBlank_of_visible (by omega) (by omega)

def trimStart (cs : List Char) : List Char :=
  cs.dropWhile isBlank

def trimEnd (cs : List Char) : List Char :=
  (cs.reverse.dropWhile isBlank).reverse

def trim (cs : List Char) : List Char :=
  trimEnd (trimStart cs)

theorem exists_trimStart (cs : List Char) :
    ∃ before, cs = before ++ trimStart cs ∧ ∀ c ∈ before, isBlank c = true :=
  ⟨cs.takeWhile isBlank, List.takeWhile_append_dropWhile.symm,
    List.all_eq_true.1 List.all_takeWhile⟩

theorem exists_trimEnd (cs : List Char) :
    ∃ after, cs = trimEnd cs ++ after ∧ ∀ c ∈ after, isBlank c = true := by
  obtain ⟨before, hbefore, hblank⟩ := exists_trimStart cs.reverse
  refine ⟨before.reverse, ?_, fun c hc => hblank c (List.mem_reverse.1 hc)⟩
  have hall := congrArg List.reverse hbefore
  rwa [List.reverse_reverse, List.reverse_append] at hall

theorem head_trimStart {cs rest : List Char} {c : Char} (h : trimStart cs = c :: rest) :
    isBlank c = false := by
  have hhead := List.head?_dropWhile_not isBlank cs
  unfold trimStart at h
  rwa [h] at hhead

theorem last_trimEnd {cs front : List Char} {c : Char} (h : trimEnd cs = front ++ [c]) :
    isBlank c = false := by
  have hrev := congrArg List.reverse h
  rw [trimEnd, List.reverse_reverse, List.reverse_append] at hrev
  exact head_trimStart hrev

theorem trimEnd_append_blanks (cs : List Char) {after : List Char}
    (h : ∀ c ∈ after, isBlank c = true) : trimEnd (cs ++ after) = trimEnd cs := by
  unfold trimEnd
  rw [List.reverse_append, List.dropWhile_append_of_pos fun c hc => h c (List.mem_reverse.1 hc)]

/-- What is trimmed away is blank, and what is left does not start with a blank. -/
theorem exists_trim (cs : List Char) :
    ∃ before after, cs = before ++ trim cs ++ after ∧ (∀ c ∈ before, isBlank c = true) ∧
      ∀ c ∈ after, isBlank c = true := by
  obtain ⟨before, hbefore, hblank⟩ := exists_trimStart cs
  obtain ⟨after, hafter, hblank'⟩ := exists_trimEnd (trimStart cs)
  refine ⟨before, after, ?_, hblank, hblank'⟩
  rw [List.append_assoc]
  exact hbefore.trans (congrArg (before ++ ·) hafter)

theorem head_trim {cs rest : List Char} {c : Char} (h : trim cs = c :: rest) :
    isBlank c = false := by
  obtain ⟨after, hafter, -⟩ := exists_trimEnd (trimStart cs)
  change trimStart cs = trim cs ++ after at hafter
  rw [h, List.cons_append] at hafter
  exact head_trimStart hafter

/-- Of a text that does not end with a blank only the front is trimmed away. -/
theorem exists_trim_of_last (front : List Char) {last : Char} (h : isBlank last = false) :
    ∃ before, front ++ [last] = before ++ trim (front ++ [last]) ∧
      ∀ c ∈ before, isBlank c = true := by
  obtain ⟨before, after, hsplit, hbefore, hafter⟩ := exists_trim (front ++ [last])
  refine ⟨before, ?_, hbefore⟩
  rcases List.eq_nil_or_concat after with rfl | ⟨rest, c, rfl⟩
  · rwa [List.append_nil] at hsplit
  · rw [List.concat_eq_append] at hsplit hafter
    rw [← List.append_assoc] at hsplit
    have hlast : [last] = [c] := List.append_inj_right' hsplit rfl
    cases hlast
    rw [hafter last (List.mem_append_right rest List.mem_cons_self)] at h
    cases h

/-- Nothing is trimmed off a text with a blank at neither end. -/
theorem trim_eq_self {front rest : List Char} {first last : Char}
    (h : front ++ [last] = first :: rest) (hfirst : isBlank first = false)
    (hlast : isBlank last = false) : trim (first :: rest) = first :: rest := by
  obtain ⟨before, hsplit, hblank⟩ := exists_trim_of_last front hlast
  rw [h] at hsplit
  cases before with
  | nil => exact hsplit.symm
  | cons c before =>
    rw [List.cons_append] at hsplit
    obtain ⟨rfl, -⟩ := List.cons.inj hsplit
    rw [hblank first List.mem_cons_self] at hfirst
    cases hfirst

theorem forall_blank_of_trim_eq_nil {cs : List Char} (h : trim cs = []) :
    ∀ c ∈ cs, isBlank c = true := by
  obtain ⟨before, after, hcs, hbefore, hafter⟩ := exists_trim cs
  intro c hc
  rw [hcs, h, List.append_nil] at hc
  rcases List.mem_append.1 hc with hc | hc
  · exact hbefore c hc
  · exact hafter c hc

end ClusterProbe.Text
