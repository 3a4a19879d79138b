import ClusterProbe.Endpoint
import ClusterProbe.Proofs.Traversal

/-!
# The grammar of addresses

An address is a host alone (`Endpoint.Bare`) or a host followed by the text of a port
(`Endpoint.Ported`), with or without brackets. What is of neither form has a fault that can be named
(`Endpoint.Fault`). An IPv6 literal has two colons at least and is not bracketed, so the forms
exclude one another, and reading a text comes to exactly what it is
(`Endpoint.parse_accepts_grammar`).
-/
namespace ClusterProbe

variable {cs : List Char} {mark c : Char}

/-! ## Parts of a text -/

theorem length_splitOn (mark : Char) (cs : List Char) :
    (cs.splitOn mark).length = cs.count mark + 1 := by
  induction cs with
  | nil => rfl
  | cons c cs ih =>
    rw [List.splitOn_cons_eq_if_modifyHead, List.count_cons]
    by_cases hc : (c == mark) = true
    · rw [if_pos hc, if_pos hc, List.length_cons, ih]
    · rw [if_neg hc, if_neg hc, List.length_modifyHead, ih, Nat.add_zero]

/-- Each character of a text is in one of its parts or between two of them. -/
theorem mem_splitOn (mark : Char) (hc : c ∈ cs) :
    c = mark ∨ ∃ part ∈ cs.splitOn mark, c ∈ part := by
  induction cs with
  | nil => cases hc
  | cons d cs ih =>
    rw [List.splitOn_cons_eq_if_modifyHead]
    by_cases hd : (d == mark) = true
    · rw [if_pos hd]
      rcases List.mem_cons.1 hc with rfl | hc
      · exact .inl (eq_of_beq hd)
      · rcases ih hc with heq | ⟨part, hpart, hin⟩
        · exact .inl heq
        · exact .inr ⟨part, List.mem_cons_of_mem _ hpart, hin⟩
    · rw [if_neg hd]
      obtain ⟨first, rest, hsplit⟩ := List.exists_cons_of_ne_nil (List.splitOn_ne_nil mark cs)
      rw [hsplit] at ih ⊢
      rcases List.mem_cons.1 hc with rfl | hc
      · exact .inr ⟨c :: first, List.mem_cons_self, List.mem_cons_self⟩
      · rcases ih hc with heq | ⟨part, hpart, hin⟩
        · exact .inl heq
        · rcases List.mem_cons.1 hpart with rfl | hpart
          · exact .inr ⟨d :: part, List.mem_cons_self, List.mem_cons_of_mem d hin⟩
          · exact .inr ⟨part, List.mem_cons_of_mem _ hpart, hin⟩

/-! ## IPv6 literals -/

namespace Ipv6

/-- The characters that literals consist of. -/
def isLiteralChar (c : Char) : Bool :=
  isHexDigit c || c == ':' || c == '.'

theorem isLiteralChar_of_digit (h : Decimal.isDigit c = true) : isLiteralChar c = true := by
  unfold Decimal.isDigit at h
  simp only [isLiteralChar, isHexDigit, h, Bool.true_or]

theorem isLiteralChar_of_group (h : isGroup cs = true) : ∀ c ∈ cs, isLiteralChar c = true := by
  intro c hc
  simp only [isGroup, Bool.and_eq_true, List.all_eq_true] at h
  simp [isLiteralChar, h.2 c hc]

theorem isLiteralChar_of_quad (h : isDottedQuad cs = true) :
    ∀ c ∈ cs, isLiteralChar c = true := by
  intro c hc
  simp only [isDottedQuad, Bool.and_eq_true, List.all_eq_true] at h
  rcases mem_splitOn '.' hc with rfl | ⟨part, hpart, hin⟩
  · rfl
  · have hoctet := h.2 part hpart
    simp only [isOctet, Bool.and_eq_true, List.all_eq_true] at hoctet
    exact isLiteralChar_of_digit (hoctet.1.1.2 c hin)

/-- Parts that stand for so many groups are not much fewer, and have nothing else in them. -/
theorem parts_of_groupCount {quadAllowed : Bool} {ps : List (List Char)} {n : Nat}
    (h : groupCount? quadAllowed ps = some n) :
    n ≤ ps.length + 1 ∧ ∀ p ∈ ps, ∀ c ∈ p, isLiteralChar c = true := by
  induction ps generalizing n with
  | nil =>
    cases h
    exact ⟨Nat.zero_le _, nofun⟩
  | cons p ps ih =>
    cases ps with
    | nil =>
      rw [List.forall_mem_singleton, List.length_singleton]
      unfold groupCount? at h
      by_cases hgroup : isGroup p = true
      · rw [if_pos hgroup] at h
        cases h
        exact ⟨by omega, isLiteralChar_of_group hgroup⟩
      · rw [if_neg hgroup] at h
        by_cases hquad : (quadAllowed && isDottedQuad p) = true
        · rw [if_pos hquad] at h
          cases h
          exact ⟨by omega, isLiteralChar_of_quad (Bool.and_eq_true_iff.1 hquad).2⟩
        · rw [if_neg hquad] at h
          cases h
    | cons q qs =>
      unfold groupCount? at h
      by_cases hgroup : isGroup p = true
      · rw [if_pos hgroup] at h
        obtain ⟨m, hm, rfl⟩ := Option.map_eq_some_iff.1 h
        obtain ⟨hle, hchars⟩ := ih hm
        refine ⟨?_, List.forall_mem_cons.2 ⟨isLiteralChar_of_group hgroup, hchars⟩⟩
        rw [List.length_cons]
        omega
      · rw [if_neg hgroup] at h
        cases h

theorem chars_of_parts (h : ∀ p ∈ parts cs, ∀ c ∈ p, isLiteralChar c = true) :
    ∀ c ∈ cs, isLiteralChar c = true := by
  intro c hc
  cases cs with
  | nil => cases hc
  | cons d ds =>
    rcases mem_splitOn ':' hc with rfl | ⟨part, hpart, hin⟩
    · rfl
    · exact h part hpart c hin

theorem eq_of_splitElision {before after : List Char}
    (h : splitElision cs = some (before, after)) : cs = before ++ ':' :: ':' :: after := by
  induction cs generalizing before with
  | nil => cases h
  | cons c cs ih =>
    unfold splitElision at h
    split at h
    · rename_i rest heq
      cases h
      exact heq
    · rename_i heq
      cases heq
      obtain ⟨⟨first, last⟩, hsplit, hpair⟩ := Option.map_eq_some_iff.1 h
      cases hpair
      rw [ih hsplit, List.cons_append]
    · rename_i heq
      cases heq

theorem literal_spells (h : isLiteral cs = true) :
    2 ≤ cs.count ':' ∧ ∀ c ∈ cs, isLiteralChar c = true := by
  unfold isLiteral at h
  cases hsplit : splitElision cs with
  | none =>
    rw [hsplit] at h
    obtain ⟨hle, hchars⟩ := parts_of_groupCount (eq_of_beq h)
    refine ⟨?_, chars_of_parts hchars⟩
    cases cs with
    | nil => exact absurd hle (by decide)
    | cons c cs =>
      have hlength := length_splitOn ':' (c :: cs)
      change 8 ≤ ((c :: cs).splitOn ':').length + 1 at hle
      omega
  | some halves =>
    obtain ⟨before, after⟩ := halves
    rw [hsplit] at h
    obtain rfl := eq_of_splitElision hsplit
    refine ⟨?_, fun c hc => ?_⟩
    · rw [List.count_append, List.count_cons_self, List.count_cons_self]
      omega
    · dsimp only at h
      split at h
      · rename_i hbefore hafter
        rcases List.mem_append.1 hc with hc | hc
        · exact chars_of_parts (parts_of_groupCount hbefore).2 c hc
        · rcases List.mem_cons.1 hc with rfl | hc
          · rfl
          · rcases List.mem_cons.1 hc with rfl | hc
            · rfl
            · exact chars_of_parts (parts_of_groupCount hafter).2 c hc
      · cases h

theorem not_isLiteral_of_count (h : cs.count ':' ≤ 1) : isLiteral cs = false := by
  by_contra hliteral
  have htwo := (literal_spells (Bool.not_eq_false _ ▸ hliteral)).1
  omega

theorem not_isLiteral_bracket (rest : List Char) : isLiteral ('[' :: rest) = false := by
  by_contra hliteral
  have hbracket := (literal_spells (Bool.not_eq_false _ ▸ hliteral)).2 '[' List.mem_cons_self
  exact absurd hbracket (by decide)

theorem ne_nil_of_isLiteral (h : isLiteral cs = true) : cs ≠ [] := by
  rintro rfl
  exact absurd h (by decide)

end Ipv6

namespace Endpoint

/-! ## Cutting a text -/

theorem cutAt_eq_none : cutAt mark cs = none ↔ mark ∉ cs := by
  induction cs with
  | nil => simp [cutAt]
  | cons c cs ih =>
    by_cases hc : c = mark
    · simp [cutAt, hc]
    · simp [cutAt, hc, ih, Ne.symm hc]

theorem cutAt_eq_some {a b : List Char} :
    cutAt mark cs = some (a, b) ↔ mark ∉ a ∧ cs = a ++ mark :: b := by
  induction cs generalizing a with
  | nil => simp [cutAt]
  | cons c cs ih =>
    by_cases hc : c = mark
    · subst hc
      cases a with
      | nil => simp [cutAt, eq_comm]
      | cons d a => simp +contextual [cutAt]
    · cases a with
      | nil => simp [cutAt, hc]
      | cons d a =>
        rw [cutAt, if_neg (by simpa using hc)]
        simp only [Option.map_eq_some_iff, Prod.exists, Prod.mk.injEq, List.cons_append,
          List.cons.injEq, List.mem_cons, not_or]
        constructor
        · rintro ⟨a', b', hcut, ⟨rfl, rfl⟩, rfl⟩
          obtain ⟨hnot, rfl⟩ := ih.1 hcut
          exact ⟨⟨Ne.symm hc, hnot⟩, rfl, rfl⟩
        · rintro ⟨⟨-, hnot⟩, rfl, rfl⟩
          exact ⟨a, b, ih.2 ⟨hnot, rfl⟩, ⟨rfl, rfl⟩, rfl⟩

theorem cutAtLast_eq_none : cutAtLast mark cs = none ↔ mark ∉ cs := by
  rw [cutAtLast, Option.map_eq_none_iff, cutAt_eq_none, List.mem_reverse]

theorem cutAtLast_eq_some {a b : List Char} :
    cutAtLast mark cs = some (a, b) ↔ mark ∉ b ∧ cs = a ++ mark :: b := by
  rw [cutAtLast, Option.map_eq_some_iff]
  constructor
  · rintro ⟨⟨b', a'⟩, hcut, hpair⟩
    obtain ⟨hnot, hcs⟩ := cutAt_eq_some.1 hcut
    cases hpair
    refine ⟨fun hmem => hnot (List.mem_reverse.1 hmem), ?_⟩
    rw [← List.reverse_reverse cs, hcs]
    simp
  · rintro ⟨hnot, rfl⟩
    refine ⟨(b.reverse, a.reverse), cutAt_eq_some.2 ⟨?_, by simp⟩, by simp⟩
    rwa [List.mem_reverse]

/-! ## Ports -/

/-- The text of a port: digits with this value, and perhaps a plus sign in front of them. -/
def PortText (cs : List Char) (port : UInt16) : Prop :=
  ∃ digits, (cs = digits ∨ cs = '+' :: digits) ∧ digits ≠ [] ∧
    (∀ c ∈ digits, Decimal.isDigit c = true) ∧ Decimal.valueOf digits = port.toNat

theorem dropPlus_of_digits {digits : List Char} (h : ∀ c ∈ digits, Decimal.isDigit c = true) :
    Decimal.dropPlus digits = digits := by
  cases digits with
  | nil => rfl
  | cons c digits =>
    have hc : c ≠ '+' := by
      rintro rfl
      exact absurd (h '+' List.mem_cons_self) (by decide)
    unfold Decimal.dropPlus
    split
    · rename_i heq
      cases heq
      exact absurd rfl hc
    · rfl

theorem eq_or_eq_plus (cs : List Char) :
    cs = Decimal.dropPlus cs ∨ cs = '+' :: Decimal.dropPlus cs := by
  unfold Decimal.dropPlus
  split
  · exact .inr rfl
  · exact .inl rfl

theorem port?_eq_some {port : UInt16} : port? cs = some port ↔ PortText cs port := by
  unfold port? Decimal.natBelow?
  constructor
  · intro h
    obtain ⟨n, hn, rfl⟩ := Option.map_eq_some_iff.1 h
    obtain ⟨hn, hlt⟩ := Option.filter_eq_some_iff.1 hn
    unfold Decimal.digitsValue? at hn
    split at hn
    · rename_i hdigits
      cases hn
      rw [Bool.and_eq_true, List.all_eq_true] at hdigits
      refine ⟨_, eq_or_eq_plus cs, by simpa using hdigits.1, hdigits.2, ?_⟩
      rw [UInt16.toNat_ofNat', Nat.mod_eq_of_lt (of_decide_eq_true hlt)]
    · cases hn
  · rintro ⟨digits, hcs, hne, hdigits, hvalue⟩
    have hdrop : Decimal.dropPlus cs = digits := by
      rcases hcs with rfl | rfl
      · exact dropPlus_of_digits hdigits
      · rfl
    have hall : (!digits.isEmpty && digits.all Decimal.isDigit) = true := by
      rw [Bool.and_eq_true, List.all_eq_true]
      exact ⟨by simpa using hne, hdigits⟩
    rw [hdrop, Decimal.digitsValue?, if_pos hall, hvalue,
      Option.filter_some, if_pos (decide_eq_true port.toNat_lt)]
    simp

/-! ## The forms of an address -/

/-- A host alone: an IPv6 literal, a host in brackets, or a host without colons. -/
inductive Bare (host : List Char) : List Char → Prop
  | literal (literal : Ipv6.isLiteral host = true) : Bare host host
  | bracketed (named : host ≠ []) (closed : ']' ∉ host) : Bare host ('[' :: (host ++ [']']))
  | plain (named : host ≠ []) (unbracketed : host.head? ≠ some '[') (noColon : ':' ∉ host) :
      Bare host host

/-- A host and what stands where the port belongs. -/
inductive Ported (host port : List Char) : List Char → Prop
  | bracketed (named : host ≠ []) (closed : ']' ∉ host) :
      Ported host port ('[' :: (host ++ ']' :: ':' :: port))
  | plain (named : host ≠ []) (unbracketed : host.head? ≠ some '[') (noColon : ':' ∉ host)
      (noColon' : ':' ∉ port) : Ported host port (host ++ ':' :: port)

/-- What is wrong with a text that has neither form. -/
inductive Fault : List Char → String → Prop
  | unclosed {rest : List Char} (unclosed : ']' ∉ rest) :
      Fault ('[' :: rest) "missing ']' in address"
  | nameless (rest : List Char) : Fault ('[' :: ']' :: rest) "empty host"
  | trailing {host rest : List Char} (named : host ≠ []) (closed : ']' ∉ host) (more : rest ≠ [])
      (noPort : rest.head? ≠ some ':') :
      Fault ('[' :: (host ++ ']' :: rest)) "unexpected characters after ']'"
  | colons {host port : List Char} (unbracketed : host.head? ≠ some '[') (colon : ':' ∈ host)
      (last : ':' ∉ port) (noLiteral : Ipv6.isLiteral (host ++ ':' :: port) = false) :
      Fault (host ++ ':' :: port) "too many colons in address"
  | hostless {port : List Char} (last : ':' ∉ port) : Fault (':' :: port) "empty host"

variable {a host port : List Char} {reason : String} (defaultPort : UInt16)

/-- Every text but the empty one has one of the forms or a fault. -/
theorem form_cases (a : List Char) :
    a = [] ∨ (∃ host, Bare host a) ∨ (∃ host port, Ported host port a) ∨
      ∃ reason, Fault a reason := by
  by_cases hliteral : Ipv6.isLiteral a = true
  · exact .inr (.inl ⟨a, .literal hliteral⟩)
  by_cases hbracket : a.head? = some '['
  · obtain ⟨rest, rfl⟩ : ∃ rest, a = '[' :: rest := List.head?_eq_some_iff.1 hbracket
    cases hcut : cutAt ']' rest with
    | none => exact .inr (.inr (.inr ⟨_, .unclosed (cutAt_eq_none.1 hcut)⟩))
    | some halves =>
      obtain ⟨host, tail⟩ := halves
      obtain ⟨hclosed, rfl⟩ := cutAt_eq_some.1 hcut
      by_cases hhost : host = []
      · subst hhost
        exact .inr (.inr (.inr ⟨_, .nameless tail⟩))
      · cases tail with
        | nil => exact .inr (.inl ⟨host, .bracketed hhost hclosed⟩)
        | cons c port =>
          by_cases hc : c = ':'
          · subst hc
            exact .inr (.inr (.inl ⟨host, port, .bracketed hhost hclosed⟩))
          · have hhead : (c :: port).head? ≠ some ':' := fun h => hc (Option.some.inj h)
            exact .inr (.inr (.inr ⟨_, .trailing hhost hclosed (List.cons_ne_nil _ _) hhead⟩))
  · by_cases hempty : a = []
    · exact .inl hempty
    · cases hcut : cutAtLast ':' a with
      | none => exact .inr (.inl ⟨a, .plain hempty hbracket (cutAtLast_eq_none.1 hcut)⟩)
      | some halves =>
        obtain ⟨host, port⟩ := halves
        obtain ⟨hlast, rfl⟩ := cutAtLast_eq_some.1 hcut
        by_cases hhost : host = []
        · subst hhost
          exact .inr (.inr (.inr ⟨_, .hostless hlast⟩))
        · have hhead : host.head? ≠ some '[' := by
            rwa [List.head?_append_of_ne_nil _ hhost] at hbracket
          by_cases hcolon : ':' ∈ host
          · exact .inr (.inr (.inr ⟨_, .colons hhead hcolon hlast (by simpa using hliteral)⟩))
          · exact .inr (.inr (.inl ⟨host, port, .plain hhost hhead hcolon hlast⟩))

/-! ## What reading comes to -/

theorem parseTrimmed_bracket (rest : List Char) :
    parseTrimmed ('[' :: rest) defaultPort = parseBracketed ('[' :: rest) rest defaultPort := by
  rw [parseTrimmed, Ipv6.not_isLiteral_bracket]
  rfl

theorem parseTrimmed_plain (hempty : a ≠ []) (hliteral : Ipv6.isLiteral a = false)
    (hbracket : a.head? ≠ some '[') : parseTrimmed a defaultPort = parsePlain a defaultPort := by
  cases a with
  | nil => exact absurd rfl hempty
  | cons c rest =>
    rw [parseTrimmed, hliteral]
    simp only [List.isEmpty_cons, Bool.false_eq_true, if_false]
    rintro rest' heq
    cases heq
    exact hbracket rfl

theorem Bare.parse (h : Bare host a) :
    parseTrimmed a defaultPort = .ok ⟨String.ofList host, defaultPort⟩ := by
  have hliteral (hlit : Ipv6.isLiteral host = true) :
      parseTrimmed host defaultPort = .ok ⟨String.ofList host, defaultPort⟩ := by
    have hempty : host.isEmpty = false := by simpa using Ipv6.ne_nil_of_isLiteral hlit
    simp [parseTrimmed, hempty, hlit]
  cases h with
  | literal hlit => exact hliteral hlit
  | bracketed named closed =>
    have hcut : cutAt ']' (host ++ [']']) = some (host, []) := cutAt_eq_some.2 ⟨closed, rfl⟩
    rw [parseTrimmed_bracket, parseBracketed, hcut]
    cases host with
    | nil => exact absurd rfl named
    | cons c host => rfl
  | plain named unbracketed noColon =>
    by_cases hlit : Ipv6.isLiteral a = true
    · exact hliteral hlit
    · rw [parseTrimmed_plain _ named (by simpa using hlit) unbracketed, parsePlain,
        cutAtLast_eq_none.2 noColon]

theorem Ported.parse (h : Ported host port a) :
    parseTrimmed a defaultPort = match port? port with
      | some p => .ok ⟨String.ofList host, p⟩
      | none => .error (.invalidPort (String.ofList a)) := by
  cases h with
  | bracketed named closed =>
    have hcut : cutAt ']' (host ++ ']' :: ':' :: port) = some (host, ':' :: port) :=
      cutAt_eq_some.2 ⟨closed, rfl⟩
    rw [parseTrimmed_bracket, parseBracketed, hcut]
    cases host with
    | nil => exact absurd rfl named
    | cons c host => rfl
  | plain named unbracketed noColon noColon' =>
    have hliteral : Ipv6.isLiteral (host ++ ':' :: port) = false := by
      refine Ipv6.not_isLiteral_of_count ?_
      simp [List.count_eq_zero_of_not_mem noColon, List.count_eq_zero_of_not_mem noColon']
    have hhead : (host ++ ':' :: port).head? ≠ some '[' := by
      rwa [List.head?_append_of_ne_nil _ named]
    have hcut : cutAtLast ':' (host ++ ':' :: port) = some (host, port) :=
      cutAtLast_eq_some.2 ⟨noColon', rfl⟩
    have hempty : host.isEmpty = false := by simpa using named
    rw [parseTrimmed_plain _ (by simp) hliteral hhead, parsePlain, hcut]
    simp only [List.contains_eq_mem, noColon, decide_false, Bool.false_eq_true, if_false, hempty]
    rfl

theorem Fault.parse (h : Fault a reason) :
    parseTrimmed a defaultPort = .error (.malformed (String.ofList a) reason) := by
  cases h with
  | unclosed unclosed => rw [parseTrimmed_bracket, parseBracketed, cutAt_eq_none.2 unclosed]
  | nameless rest =>
    have hcut : cutAt ']' (']' :: rest) = some ([], rest) :=
      cutAt_eq_some.2 ⟨List.not_mem_nil, rfl⟩
    rw [parseTrimmed_bracket, parseBracketed, hcut]
  | @trailing host rest named closed more noPort =>
    have hcut : cutAt ']' (host ++ ']' :: rest) = some (host, rest) :=
      cutAt_eq_some.2 ⟨closed, rfl⟩
    rw [parseTrimmed_bracket, parseBracketed, hcut]
    cases host with
    | nil => exact absurd rfl named
    | cons c host =>
      cases rest with
      | nil => exact absurd rfl more
      | cons d rest =>
        have hd : d ≠ ':' := fun h => noPort (congrArg some h)
        dsimp only
        split
        · rename_i heq
          cases heq
        · rename_i heq
          cases heq
        · rename_i heq
          cases heq
        · rename_i heq
          cases heq
          exact absurd rfl hd
        · rfl
  | @colons host port unbracketed colon last noLiteral =>
    have hhead : (host ++ ':' :: port).head? ≠ some '[' := by
      rwa [List.head?_append_of_ne_nil _ (List.ne_nil_of_mem colon)]
    have hcut : cutAtLast ':' (host ++ ':' :: port) = some (host, port) :=
      cutAtLast_eq_some.2 ⟨last, rfl⟩
    rw [parseTrimmed_plain _ (by simp) noLiteral hhead, parsePlain, hcut]
    simp [colon]
  | @hostless port last =>
    have hliteral : Ipv6.isLiteral (':' :: port) = false := by
      refine Ipv6.not_isLiteral_of_count ?_
      simp [List.count_eq_zero_of_not_mem last]
    have hcut : cutAtLast ':' (':' :: port) = some ([], port) :=
      cutAtLast_eq_some.2 ⟨last, rfl⟩
    rw [parseTrimmed_plain _ (List.cons_ne_nil _ _) hliteral (by simp), parsePlain, hcut]
    rfl

/-- The text stands for the endpoint. -/
def Spells (defaultPort : UInt16) (a : List Char) (e : Endpoint) : Prop :=
  Bare e.host.toList a ∧ e.port = defaultPort ∨
    ∃ port, Ported e.host.toList port a ∧ PortText port e.port

/-- Nothing is wrong with the text but that of its port. -/
def PortWrong (a : List Char) : Prop :=
  ∃ host port, Ported host port a ∧ ∀ p, ¬ PortText port p

/-- What a text without outer white space comes to when it is read. -/
inductive Reading (defaultPort : UInt16) (a : List Char) : Except EndpointError Endpoint → Prop
  | spelled {e : Endpoint} (spells : Spells defaultPort a e) : Reading defaultPort a (.ok e)
  | empty (empty : a = []) : Reading defaultPort a (.error .empty)
  | portWrong (wrong : PortWrong a) :
      Reading defaultPort a (.error (.invalidPort (String.ofList a)))
  | faulty {reason : String} (fault : Fault a reason) :
      Reading defaultPort a (.error (.malformed (String.ofList a) reason))

theorem parseTrimmed_iff {r : Except EndpointError Endpoint} :
    parseTrimmed a defaultPort = r ↔ Reading defaultPort a r := by
  constructor
  · rintro rfl
    rcases form_cases a with rfl | ⟨host, hbare⟩ | ⟨host, port, hported⟩ | ⟨reason, hfault⟩
    · exact .empty rfl
    · rw [hbare.parse]
      exact .spelled (.inl ⟨by rwa [String.toList_ofList], rfl⟩)
    · rw [hported.parse]
      cases hport : port? port with
      | some p =>
        refine .spelled (.inr ⟨port, ?_, port?_eq_some.1 hport⟩)
        rwa [String.toList_ofList]
      | none =>
        refine .portWrong ⟨host, port, hported, fun p hp => ?_⟩
        rw [port?_eq_some.2 hp] at hport
        cases hport
    · rw [hfault.parse]
      exact .faulty hfault
  · intro h
    cases h with
    | @spelled e spells =>
      rcases spells with ⟨hbare, hport⟩ | ⟨port, hported, hport⟩
      · rw [hbare.parse, String.ofList_toList, ← hport]
      · rw [hported.parse, port?_eq_some.2 hport, String.ofList_toList]
    | empty empty =>
      subst empty
      rfl
    | portWrong wrong =>
      obtain ⟨host, port, hported, hwrong⟩ := wrong
      rw [hported.parse]
      cases hport : port? port with
      | some p => exact absurd (port?_eq_some.1 hport) (hwrong p)
      | none => rfl
    | faulty fault => exact fault.parse defaultPort

/-! ## Lists of addresses -/

/-- The parts of a text between its commas. -/
def pieces (s : String) : List String :=
  (s.toList.splitOn ',').map String.ofList

/-- A blank text has one piece, which is as blank as the text. -/
theorem pieces_of_blank {s : String} (h : Text.trim s.toList = []) : pieces s = [s] := by
  have hcomma : ',' ∉ s.toList := fun hmem =>
    absurd (Text.forall_blank_of_trim_eq_nil h ',' hmem) (by decide)
  rw [pieces, List.splitOn_eq_singleton hcomma, List.map_singleton, String.ofList_toList]

theorem parseList_eq (s : String) :
    parseList s defaultPort = (pieces s).mapM fun piece => parse piece defaultPort := by
  unfold parseList
  by_cases hblank : Text.trim s.toList = []
  · rw [pieces_of_blank hblank, if_pos (List.isEmpty_iff.2 hblank), List.mapM_cons, parse, hblank]
    rfl
  · rw [if_neg (fun h => hblank (List.isEmpty_iff.1 h)), pieces, List.mapM_map]
    simp only [Function.comp_def, parse, String.toList_ofList]

/-! ## The grammar -/

/-- Reading a text gives what the grammar says, and fails as the grammar says. -/
structure AcceptsGrammar (s : String) (defaultPort : UInt16) : Prop where
  accepted : ∀ e, parse s defaultPort = .ok e ↔ Spells defaultPort (Text.trim s.toList) e
  empty : parse s defaultPort = .error .empty ↔ Text.trim s.toList = []
  portWrong : ∀ input, parse s defaultPort = .error (.invalidPort input) ↔
    input = String.ofList (Text.trim s.toList) ∧ PortWrong (Text.trim s.toList)
  malformed : ∀ input reason, parse s defaultPort = .error (.malformed input reason) ↔
    input = String.ofList (Text.trim s.toList) ∧ Fault (Text.trim s.toList) reason
  /-- Malformed is what is nothing else. -/
  otherwise : (∃ input reason, parse s defaultPort = .error (.malformed input reason)) ↔
    Text.trim s.toList ≠ [] ∧ ¬ PortWrong (Text.trim s.toList) ∧
      ∀ e, ¬ Spells defaultPort (Text.trim s.toList) e
  /-- A list is read piece by piece. -/
  list : ∀ es, parseList s defaultPort = .ok es ↔
    List.Forall₂ (fun piece e => parse piece defaultPort = .ok e) (pieces s) es
  /-- The first piece that cannot be read decides the error. -/
  listFails : ∀ error, parseList s defaultPort = .error error ↔ ∃ before piece after,
    pieces s = before ++ piece :: after ∧ (∀ p ∈ before, ∃ e, parse p defaultPort = .ok e) ∧
      parse piece defaultPort = .error error

/-- **Reading addresses accepts exactly the grammar.** -/
theorem parse_accepts_grammar (s : String) (defaultPort : UInt16) :
    AcceptsGrammar s defaultPort := by
  have hreads (r : Except EndpointError Endpoint) :
      parse s defaultPort = r ↔ Reading defaultPort (Text.trim s.toList) r :=
    parseTrimmed_iff defaultPort
  refine ⟨fun e => ?_, ?_, fun input => ?_, fun input reason => ?_, ?_, fun es => ?_,
    fun error => ?_⟩
  · rw [hreads]
    constructor
    · intro h
      cases h with
      | spelled spells => exact spells
    · exact .spelled
  · rw [hreads]
    constructor
    · intro h
      cases h with
      | empty empty => exact empty
    · exact .empty
  · rw [hreads]
    constructor
    · intro h
      cases h with
      | portWrong wrong => exact ⟨rfl, wrong⟩
    · rintro ⟨rfl, hwrong⟩
      exact .portWrong hwrong
  · rw [hreads]
    constructor
    · intro h
      cases h with
      | faulty fault => exact ⟨rfl, fault⟩
    · rintro ⟨rfl, hfault⟩
      exact .faulty hfault
  · constructor
    · rintro ⟨input, reason, hmalformed⟩
      refine ⟨fun hempty => ?_, fun hwrong => ?_, fun e hspells => ?_⟩
      · rw [(hreads _).2 (.empty hempty)] at hmalformed
        cases hmalformed
      · rw [(hreads _).2 (.portWrong hwrong)] at hmalformed
        cases hmalformed
      · rw [(hreads _).2 (.spelled hspells)] at hmalformed
        cases hmalformed
    · rintro ⟨hempty, hwrong, hspells⟩
      obtain ⟨r, hr⟩ : ∃ r, parse s defaultPort = r := ⟨_, rfl⟩
      cases (hreads r).1 hr with
      | spelled spells => exact absurd spells (hspells _)
      | empty empty => exact absurd empty hempty
      | portWrong wrong => exact absurd wrong hwrong
      | faulty fault => exact ⟨_, _, hr⟩
  · rw [parseList_eq, mapM_eq_ok]
  · rw [parseList_eq, mapM_eq_error]

end Endpoint
end ClusterProbe
