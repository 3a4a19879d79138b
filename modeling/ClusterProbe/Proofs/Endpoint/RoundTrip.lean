import ClusterProbe.Proofs.Endpoint

/-!
# Endpoints read back

The text of an endpoint is an address with a port, so by the grammar it is read as what it was
written for exactly if its host can stand in front of a port (`Endpoint.HasClearHost`). Such texts
may be joined by commas as long as none of the hosts has a comma in it.
-/
namespace ClusterProbe

namespace Endpoint

variable {e : Endpoint}

/-- The digits of the port. -/
def portDigits (e : Endpoint) : List Char :=
  Nat.toDigits 10 e.port.toNat

theorem portText_portDigits (e : Endpoint) : PortText e.portDigits e.port :=
  ⟨e.portDigits, .inl rfl, Nat.toDigits_ne_nil, fun _ => Decimal.isDigit_of_mem_toDigits,
    Decimal.valueOf_toDigits _⟩

theorem toList_text_literal (h : isIpv6 e.host = true) :
    e.text.toList = '[' :: (e.host.toList ++ ']' :: ':' :: e.portDigits) := by
  rw [text, if_pos h]
  simp [portDigits, toString]

theorem toList_text_plain (h : isIpv6 e.host = false) :
    e.text.toList = e.host.toList ++ ':' :: e.portDigits := by
  rw [text, h]
  simp [portDigits, toString]

/-- The host can stand in front of a port: it is an IPv6 literal, or it is not empty, has no colon
and starts neither with a bracket nor with a blank. -/
def HasClearHost (e : Endpoint) : Prop :=
  isIpv6 e.host = true ∨ e.host ≠ "" ∧ ':' ∉ e.host.toList ∧ e.host.toList.head? ≠ some '[' ∧
    ∀ c, e.host.toList.head? = some c → Text.isBlank c = false

theorem exists_portDigits (e : Endpoint) :
    ∃ digits digit, e.portDigits = digits ++ [digit] ∧ Decimal.isDigit digit = true := by
  obtain ⟨digits, digit, hdigits⟩ :=
    (List.eq_nil_or_concat e.portDigits).resolve_left Nat.toDigits_ne_nil
  rw [List.concat_eq_append] at hdigits
  refine ⟨digits, digit, hdigits, Decimal.isDigit_of_mem_toDigits (n := e.port.toNat) ?_⟩
  change digit ∈ e.portDigits
  rw [hdigits]
  exact List.mem_append_right digits (List.mem_singleton_self digit)

/-- A digit of the port stands at the end of the text. -/
theorem exists_last_digit (e : Endpoint) :
    ∃ front digit, e.text.toList = front ++ [digit] ∧ Decimal.isDigit digit = true := by
  obtain ⟨digits, digit, hdigits, hdigit⟩ := exists_portDigits e
  by_cases hliteral : isIpv6 e.host = true
  · refine ⟨'[' :: (e.host.toList ++ ']' :: ':' :: digits), digit, ?_, hdigit⟩
    simp [toList_text_literal hliteral, hdigits]
  · refine ⟨e.host.toList ++ ':' :: digits, digit, ?_, hdigit⟩
    simp [toList_text_plain (Bool.not_eq_true _ ▸ hliteral), hdigits]

/-- So trimming takes nothing off there. -/
theorem exists_trim_text (e : Endpoint) :
    ∃ before, e.text.toList = before ++ Text.trim e.text.toList ∧
      ∀ c ∈ before, Text.isBlank c = true := by
  obtain ⟨front, digit, hsplit, hdigit⟩ := exists_last_digit e
  rw [hsplit]
  exact Text.exists_trim_of_last front (Text.isBlank_of_isDigit hdigit)

theorem trim_text {c : Char} {rest : List Char} (h : e.text.toList = c :: rest)
    (hc : Text.isBlank c = false) : Text.trim e.text.toList = e.text.toList := by
  obtain ⟨front, digit, hsplit, hdigit⟩ := exists_last_digit e
  rw [h]
  exact Text.trim_eq_self (hsplit.symm.trans h) hc (Text.isBlank_of_isDigit hdigit)

/-- The text of an endpoint with a clear host is read as the endpoint. -/
theorem spells_text (h : e.HasClearHost) (defaultPort : UInt16) :
    Spells defaultPort (Text.trim e.text.toList) e := by
  refine .inr ⟨e.portDigits, ?_, portText_portDigits e⟩
  by_cases hliteral : isIpv6 e.host = true
  · have hne : e.host.toList ≠ [] := Ipv6.ne_nil_of_isLiteral hliteral
    have hclosed : ']' ∉ e.host.toList := fun hmem =>
      absurd ((Ipv6.literal_spells hliteral).2 ']' hmem) (by decide)
    rw [trim_text (toList_text_literal hliteral) (by decide), toList_text_literal hliteral]
    exact .bracketed hne hclosed
  · obtain ⟨hne, hcolon, hbracket, hblank⟩ := h.resolve_left hliteral
    rw [Bool.not_eq_true] at hliteral
    have hdigits : ':' ∉ e.portDigits := fun hmem =>
      absurd (Decimal.isDigit_of_mem_toDigits hmem) (by decide)
    cases hhost : e.host.toList with
    | nil => exact absurd (String.toList_eq_nil_iff.1 hhost) hne
    | cons c rest =>
      have htext : e.text.toList = c :: (rest ++ ':' :: e.portDigits) := by
        rw [toList_text_plain hliteral, hhost, List.cons_append]
      rw [trim_text htext (hblank c (congrArg List.head? hhost)), htext, ← List.cons_append]
      rw [hhost] at hcolon hbracket
      exact .plain (List.cons_ne_nil c rest) hbracket hcolon hdigits

/-- Only a clear host is found again in front of its port. -/
theorem hasClearHost_of_spells {defaultPort : UInt16}
    (h : Spells defaultPort (Text.trim e.text.toList) e) : e.HasClearHost := by
  by_cases hliteral : isIpv6 e.host = true
  · exact .inl hliteral
  have htext := toList_text_plain (Bool.not_eq_true _ ▸ hliteral)
  obtain ⟨before, hsplit, hblank⟩ := exists_trim_text e
  -- a mark is found as often in what is left as in the text, so the host has none of the marks that
  -- its form would add
  have hcount (mark : Char) (hmark : Text.isBlank mark = false) :
      (Text.trim e.text.toList).count mark =
        e.host.toList.count mark + (':' :: e.portDigits).count mark := by
    have hbefore : mark ∉ before := fun hmem => by
      rw [hblank mark hmem] at hmark
      cases hmark
    have hall := congrArg (List.count mark) hsplit
    rw [List.count_append, List.count_eq_zero_of_not_mem hbefore, Nat.zero_add] at hall
    rw [← hall, htext, List.count_append]
  have hclosing : (':' :: e.portDigits).count ']' = 0 := by
    refine List.count_eq_zero_of_not_mem fun hmem => ?_
    rcases List.mem_cons.1 hmem with heq | hmem
    · cases heq
    · exact absurd (Decimal.isDigit_of_mem_toDigits hmem) (by decide)
  have hbracket := hcount ']' (by decide)
  rw [hclosing] at hbracket
  have hcolons := hcount ':' (by decide)
  rw [List.count_cons_self] at hcolons
  rcases h with ⟨hbare, -⟩ | ⟨port, hported, -⟩
  · generalize Text.trim e.text.toList = a at hbare hbracket hcolons
    cases hbare with
    | literal literal => exact absurd literal hliteral
    | bracketed named closed =>
      rw [List.count_cons_of_ne (by decide), List.count_append,
        List.count_singleton_self] at hbracket
      omega
    | plain named unbracketed noColon => omega
  · generalize htrim : Text.trim e.text.toList = a at hported hbracket
    cases hported with
    | bracketed named closed =>
      rw [List.count_cons_of_ne (by decide), List.count_append, List.count_cons_self] at hbracket
      omega
    | plain named unbracketed noColon noColon' =>
      refine .inr ⟨fun hempty => named (String.toList_eq_nil_iff.2 hempty), noColon, unbracketed,
        fun c hc => ?_⟩
      obtain ⟨rest, hhost⟩ := List.head?_eq_some_iff.1 hc
      rw [hhost, List.cons_append] at htrim
      exact Text.head_trim htrim

theorem parse_iff_hasClearHost {defaultPort : UInt16} :
    parse e.text defaultPort = .ok e ↔ e.HasClearHost := by
  constructor
  · intro h
    cases (parseTrimmed_iff defaultPort).1 h with
    | spelled spells => exact hasClearHost_of_spells spells
  · intro h
    exact (parseTrimmed_iff defaultPort).2 (.spelled (spells_text h defaultPort))

/-- **Endpoints are read back** exactly if their hosts are clear, and so are lists of them. -/
theorem parse_text (defaultPort : UInt16) :
    (∀ e : Endpoint, parse e.text defaultPort = .ok e ↔ e.HasClearHost) ∧
      ∀ es : List Endpoint, es ≠ [] → (∀ e ∈ es, e.HasClearHost ∧ ',' ∉ e.host.toList) →
        parseList (",".intercalate (es.map text)) defaultPort = .ok es := by
  refine ⟨fun _ => parse_iff_hasClearHost, fun es hne hes => ?_⟩
  have hcomma : ∀ cs ∈ es.map (fun e => e.text.toList), ',' ∉ cs := by
    intro cs hcs hmem
    obtain ⟨e, he, rfl⟩ := List.mem_map.1 hcs
    have hdigits : ',' ∉ e.portDigits := fun hmem =>
      absurd (Decimal.isDigit_of_mem_toDigits hmem) (by decide)
    by_cases hliteral : isIpv6 e.host = true
    · rw [toList_text_literal hliteral] at hmem
      simp [hdigits, (hes e he).2] at hmem
    · rw [toList_text_plain (Bool.not_eq_true _ ▸ hliteral)] at hmem
      simp [hdigits, (hes e he).2] at hmem
  have hpieces : pieces (",".intercalate (es.map text)) = es.map text := by
    have hsplit := List.splitOn_intercalate ',' hcomma (by simpa using hne)
    rw [pieces, String.toList_intercalate, List.map_map]
    change ((List.intercalate [','] _).splitOn ',').map String.ofList = _
    rw [Function.comp_def, hsplit, List.map_map]
    simp [Function.comp_def]
  rw [parseList_eq, hpieces, mapM_eq_ok, List.forall₂_map_left_iff, List.forall₂_same]
  exact fun e he => parse_iff_hasClearHost.2 (hes e he).1

/-- A literal and a name. -/
def mixed : List Endpoint := [⟨"::1", 7101⟩, ⟨"ts1", 9100⟩]

theorem parse_text_mixed : mixed ≠ [] ∧
    (∀ e ∈ mixed, e.HasClearHost ∧ ',' ∉ e.host.toList) ∧
      parseList "[::1]:7101,ts1:9100" 7100 = .ok mixed := by
  have hclear : ∀ e ∈ mixed, e.HasClearHost ∧ ',' ∉ e.host.toList := by
    unfold mixed
    rw [List.forall_mem_cons, List.forall_mem_singleton]
    refine ⟨⟨.inl (by decide +kernel), by decide +kernel⟩, .inr ⟨by decide, by decide +kernel,
      by decide +kernel, fun c hc => ?_⟩, by decide +kernel⟩
    obtain rfl : 't' = c := Option.some.inj hc
    decide
  have htext : ",".intercalate (mixed.map text) = "[::1]:7101,ts1:9100" := by decide +kernel
  have hparse := (parse_text 7100).2 mixed (List.cons_ne_nil _ _) hclear
  rw [htext] at hparse
  exact ⟨List.cons_ne_nil _ _, hclear, hparse⟩

end Endpoint
end ClusterProbe
