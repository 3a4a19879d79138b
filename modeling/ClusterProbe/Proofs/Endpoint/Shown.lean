import ClusterProbe.Proofs.Endpoint.RoundTrip
import ClusterProbe.Survey

/-!
# Addresses in reports

Reports show the leader and the tablet servers with the texts of their endpoints, but the addresses
that masters and pinged servers name of themselves as plain texts, without brackets. That makes no
difference unless the host is an IPv6 literal: then the plain text is not that of the endpoint, and
who reads it back finds no port in it (`Endpoint.Shows`).
-/
namespace ClusterProbe

namespace Endpoint

variable {e : Endpoint} {text : String}

/-- The characters of domain names. -/
def isNameChar (c : Char) : Bool :=
  Decimal.isDigit c || ('a' ≤ c && c ≤ 'z') || ('A' ≤ c && c ≤ 'Z') || c == '-' || c == '_' ||
    c == '.'

/-- A domain name; IPv4 literals look like such names. -/
def IsName (host : String) : Prop :=
  host ≠ "" ∧ ∀ c ∈ host.toList, isNameChar c = true

theorem isName_of_quad {host : String} (h : Ipv6.isDottedQuad host.toList = true) :
    IsName host := by
  constructor
  · rintro rfl
    exact absurd h (by decide +kernel)
  · intro c hc
    simp only [Ipv6.isDottedQuad, Bool.and_eq_true, List.all_eq_true] at h
    rcases mem_splitOn '.' hc with rfl | ⟨part, hpart, hin⟩
    · rfl
    · have hoctet := h.2 part hpart
      simp only [Ipv6.isOctet, Bool.and_eq_true, List.all_eq_true] at hoctet
      simp [isNameChar, hoctet.1.1.2 c hin]

theorem isBlank_of_isNameChar {c : Char} (h : isNameChar c = true) : Text.isBlank c = false := by
  simp only [isNameChar, Bool.or_eq_true, Bool.and_eq_true, decide_eq_true_iff, beq_iff_eq,
    Decimal.isDigit_iff] at h
  rcases h with ((((⟨hlow, hhigh⟩ | ⟨hlow, hhigh⟩) | ⟨hlow, hhigh⟩) | rfl) | rfl) | rfl
  · exact Text.isBlank_of_visible (by omega) (by omega)
  · exact Text.isBlank_of_visible (Nat.le_trans (by decide) hlow) (Nat.le_trans hhigh (by decide))
  · exact Text.isBlank_of_visible (Nat.le_trans (by decide) hlow) (Nat.le_trans hhigh (by decide))
  all_goals decide

/-- A name is no IPv6 literal, and it is a clear host. -/
theorem IsName.clear (h : IsName e.host) : isIpv6 e.host = false ∧ e.HasClearHost := by
  have hcolon : ':' ∉ e.host.toList := fun hmem => absurd (h.2 ':' hmem) (by decide)
  have hliteral : isIpv6 e.host = false :=
    Ipv6.not_isLiteral_of_count (by rw [List.count_eq_zero_of_not_mem hcolon]; exact Nat.zero_le 1)
  refine ⟨hliteral, .inr ⟨h.1, hcolon, fun hhead => ?_, fun c hc => ?_⟩⟩
  · exact absurd (h.2 '[' (List.mem_of_mem_head? hhead)) (by decide)
  · exact isBlank_of_isNameChar (h.2 c (List.mem_of_mem_head? hc))

/-- What the text shown for an endpoint is, and what becomes of it when it is read again. -/
structure Shows (text : String) (e : Endpoint) : Prop where
  own : text = e.text ↔ isIpv6 e.host = false
  readable : ∀ defaultPort, parse text defaultPort = .ok e ↔
    isIpv6 e.host = false ∧ e.HasClearHost
  named : IsName e.host ∨ Ipv6.isDottedQuad e.host.toList = true →
    text = e.text ∧ ∀ defaultPort, parse text defaultPort = .ok e
  misread : isIpv6 e.host = true → ∀ defaultPort,
    parse text defaultPort = .ok ⟨text, defaultPort⟩ ∨
      parse text defaultPort = .error (.malformed text "too many colons in address")

theorem isBlank_of_isLiteralChar {c : Char} (h : Ipv6.isLiteralChar c = true) :
    Text.isBlank c = false := by
  simp only [Ipv6.isLiteralChar, Ipv6.isHexDigit, Bool.or_eq_true, Bool.and_eq_true,
    decide_eq_true_iff, beq_iff_eq] at h
  rcases h with (((⟨hlow, hhigh⟩ | ⟨hlow, hhigh⟩) | ⟨hlow, hhigh⟩) | rfl) | rfl
  iterate 3
    exact Text.isBlank_of_visible (Nat.le_trans (by decide) hlow) (Nat.le_trans hhigh (by decide))
  all_goals decide

/-- Without brackets, an IPv6 literal with a port behind it is taken for a longer literal, or for
something with too many colons. -/
theorem misread_of_literal (htext : text.toList = e.host.toList ++ ':' :: e.portDigits)
    (hliteral : isIpv6 e.host = true) (defaultPort : UInt16) :
    parse text defaultPort = .ok ⟨text, defaultPort⟩ ∨
      parse text defaultPort = .error (.malformed text "too many colons in address") := by
  obtain ⟨hcolons, hchars⟩ := Ipv6.literal_spells hliteral
  have htrim : Text.trim text.toList = text.toList := by
    obtain ⟨digits, digit, hdigits, hdigit⟩ := exists_portDigits e
    cases hhost : e.host.toList with
    | nil => exact absurd hhost (Ipv6.ne_nil_of_isLiteral hliteral)
    | cons c rest =>
      have hfirst : Text.isBlank c = false :=
        isBlank_of_isLiteralChar (hchars c (hhost ▸ List.mem_cons_self))
      have hends :
          (c :: rest ++ ':' :: digits) ++ [digit] = c :: (rest ++ ':' :: e.portDigits) := by
        simp [hdigits]
      rw [htext, hhost, List.cons_append]
      exact Text.trim_eq_self hends hfirst (Text.isBlank_of_isDigit hdigit)
  have hparse : parse text defaultPort = parseTrimmed text.toList defaultPort := by
    rw [parse, htrim]
  rw [hparse]
  by_cases hlonger : Ipv6.isLiteral text.toList = true
  · refine .inl ?_
    rw [(Bare.literal hlonger).parse, String.ofList_toList]
  · refine .inr ?_
    have hcolon : ':' ∈ e.host.toList := List.count_pos_iff.1 (by omega)
    have hdigits : ':' ∉ e.portDigits := fun hmem =>
      absurd (Decimal.isDigit_of_mem_toDigits hmem) (by decide)
    have hhead : e.host.toList.head? ≠ some '[' := fun hhead =>
      absurd (hchars '[' (List.mem_of_mem_head? hhead)) (by decide)
    have hfault : Fault text.toList "too many colons in address" := by
      rw [Bool.not_eq_true] at hlonger
      rw [htext] at hlonger ⊢
      exact .colons hhead hcolon hdigits hlonger
    rw [hfault.parse, String.ofList_toList]

end Endpoint

namespace HostPort

variable {hp : HostPort} {e : Endpoint}

theorem toList_plainText (h : hp.endpoint? = some e) :
    hp.plainText.toList = e.host.toList ++ ':' :: e.portDigits := by
  unfold endpoint? at h
  split at h
  · rename_i hport
    cases h
    have hsmall : hp.port.toUInt16.toNat = hp.port.toNat := by
      rw [UInt32.toNat_toUInt16]
      exact Nat.mod_eq_of_lt hport
    simp [plainText, Endpoint.portDigits, toString, hsmall]
  · cases h

theorem plainText_eq (h : hp.endpoint? = some e) (hliteral : Endpoint.isIpv6 e.host = false) :
    hp.plainText = e.text :=
  String.toList_inj.1 ((toList_plainText h).trans (Endpoint.toList_text_plain hliteral).symm)

theorem plainText_ne_host (h : hp.endpoint? = some e) : hp.plainText ≠ e.host := by
  intro heq
  have hlength := congrArg List.length (toList_plainText h)
  rw [heq, List.length_append, List.length_cons] at hlength
  omega

theorem shows_plainText (h : hp.endpoint? = some e) : Endpoint.Shows hp.plainText e := by
  cases hliteral : Endpoint.isIpv6 e.host with
  | false =>
    have heq := plainText_eq h hliteral
    refine ⟨iff_of_true heq hliteral, fun _ => ?_, fun hname => ⟨heq, fun _ => ?_⟩, ?_⟩
    · rw [heq, Endpoint.parse_iff_hasClearHost, and_iff_right hliteral]
    · have hclear := (hname.elim id Endpoint.isName_of_quad).clear.2
      rwa [heq, Endpoint.parse_iff_hasClearHost]
    · rw [hliteral]
      exact nofun
  | true =>
    have hmisread := Endpoint.misread_of_literal (toList_plainText h) hliteral
    have hlost (defaultPort : UInt16) :
        Endpoint.parse hp.plainText defaultPort ≠ .ok e := by
      intro hread
      rcases hmisread defaultPort with hlonger | hcolons
      · rw [hlonger] at hread
        exact plainText_ne_host h (congrArg Endpoint.host (Except.ok.inj hread))
      · rw [hcolons] at hread
        cases hread
    refine ⟨?_, fun d => ?_, fun hname => ?_, fun _ => hmisread⟩
    · rw [hliteral]
      refine iff_of_false (fun heq => hlost 0 ?_) nofun
      exact heq ▸ Endpoint.parse_iff_hasClearHost.2 (.inl hliteral)
    · rw [hliteral]
      exact iff_of_false (hlost d) nofun
    · have hplain := (hname.elim id Endpoint.isName_of_quad).clear.1
      rw [hliteral] at hplain
      cases hplain

end HostPort

namespace ClusterReport

variable (c : Cluster) (config : ClusterConfigEntry) (masters : List ServerEntry)
  (versions : Versions) (host : Host) (ping : Except SessionError Float)

/-- **How addresses are shown.** In every report the leader and the tablet servers have the texts of
their endpoints. The addresses of a master and of a pinged server are shown one by one. If the port
is one, the text is that of the endpoint unless the host is an IPv6 literal: names and IPv4 literals
are read back from it, and a literal never is. -/
theorem addresses_shown :
    let report := assemble c config masters versions
    let shown := List.Forall₂ fun text (hp : HostPort) =>
      ∀ e, hp.endpoint? = some e → Endpoint.Shows text e
    report.leader = c.leader.endpoint.text ∧
      List.Forall₂ (fun row t =>
          ∀ e, TabletServer.rpcEndpoint? t = some e → row.rpcAddress = e.text)
        report.tabletServers c.tabletServers ∧
      List.Forall₂ (fun row entry => shown row.rpcAddresses
        ((entry.registration.map ServerRegistration.privateRpcAddresses).getD []))
        report.masters masters ∧
      shown (PingRow.ofHost host ping).rpcAddresses host.status.boundRpcAddresses := by
  intro report shown
  have hshown (addresses : List HostPort) :
      shown (addresses.map HostPort.plainText) addresses := by
    change List.Forall₂ _ (addresses.map HostPort.plainText) _
    rw [List.forall₂_map_left_iff, List.forall₂_same]
    exact fun hp _ e h => HostPort.shows_plainText h
  refine ⟨rfl, ?_, ?_, hshown _⟩
  · change List.Forall₂ _ (c.tabletServers.map (row versions)) _
    rw [List.forall₂_map_left_iff, List.forall₂_same]
    intro t _ e h
    rw [row, h]
    rfl
  · change List.Forall₂ _ (masters.map MasterRow.ofEntry) _
    rw [List.forall₂_map_left_iff, List.forall₂_same]
    intro entry _
    rw [MasterRow.ofEntry]
    cases entry.registration with
    | none => exact .nil
    | some registration => exact hshown _

/-- A leader that has been connected to, and says that it is bound to these addresses. -/
def sampleLeader (e : Endpoint) (bound : List HostPort) : Host :=
  ⟨{ session := 0, endpoint := e }, ⟨none, bound, [], none⟩⟩

/-- The leader's report, in which it lists itself as a master with these addresses. -/
def sampleReport (e : Endpoint) (addresses : List HostPort) : ClusterReport :=
  assemble ⟨sampleLeader e addresses, [], 3000⟩ ⟨none, none, none⟩
    [⟨none, none, some ⟨addresses, [], none, none, []⟩, none⟩] []

theorem addresses_shown_plain :
    (sampleReport ⟨"m1", 7100⟩ [⟨"m1", 7100⟩]).masters.map MasterRow.rpcAddresses = [["m1:7100"]] ∧
      ∀ defaultPort, Endpoint.parse "m1:7100" defaultPort = .ok ⟨"m1", 7100⟩ := by
  obtain ⟨-, -, hmasters, -⟩ := addresses_shown
    ⟨sampleLeader ⟨"m1", 7100⟩ [⟨"m1", 7100⟩], [], 3000⟩ ⟨none, none, none⟩
    [⟨none, none, some ⟨[⟨"m1", 7100⟩], [], none, none, []⟩, none⟩] []
    (sampleLeader ⟨"m1", 7100⟩ []) (.ok 0)
  obtain ⟨hshown, -⟩ := List.forall₂_cons.1 hmasters
  obtain ⟨hshows, -⟩ := List.forall₂_cons.1 hshown
  have hname : "m1".toList.all Endpoint.isNameChar = true := by decide +kernel
  exact ⟨rfl, ((hshows ⟨"m1", 7100⟩ rfl).named
    (.inl ⟨by decide, List.all_eq_true.1 hname⟩)).2⟩

/-- **An IPv6 address loses its brackets.** The leader is shown with the text of its endpoint, but
as a master, and when it is pinged, it is shown without brackets, and who reads that takes the port
for a part of the literal. -/
theorem address_without_brackets :
    let e : Endpoint := ⟨"::1", 7100⟩
    let hp : HostPort := ⟨"::1", 7100⟩
    hp.endpoint? = some e ∧
      (sampleReport e [hp]).leader = "[::1]:7100" ∧
      (sampleReport e [hp]).masters.map MasterRow.rpcAddresses = [["::1:7100"]] ∧
      (PingRow.ofHost (sampleLeader e [hp]) (.ok 0)).rpcAddresses = ["::1:7100"] ∧
      Endpoint.parse "[::1]:7100" 7100 = .ok e ∧
      Endpoint.parse "::1:7100" 7100 = .ok ⟨"::1:7100", 7100⟩ := by
  intro e hp
  have hliteral : Endpoint.isIpv6 e.host = true := by decide +kernel
  have htext : e.text = "[::1]:7100" := by decide +kernel
  have hplain : hp.plainText = "::1:7100" := by decide +kernel
  refine ⟨rfl, htext, congrArg (fun text => [[text]]) hplain, congrArg (fun text => [text]) hplain,
    ?_, ?_⟩
  · rw [← htext, Endpoint.parse_iff_hasClearHost]
    exact .inl hliteral
  · rfl

end ClusterReport
end ClusterProbe
