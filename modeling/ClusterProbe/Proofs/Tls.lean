import ClusterProbe.Proofs.Logged
import ClusterProbe.Proofs.Results
import ClusterProbe.Tls.Client

/-!
# What comes of trust settings

A client is built from files in stages (`TlsClient.Stage`), each of which can find one thing wrong
(`TlsClient.Stage.failure?`). Which stages there are depends on the paths that are set, and the
first one that finds something decides the failure. A client that has been built is what the
settings asked for (`TlsClient.Meets`).
-/
namespace ClusterProbe

namespace TlsClient

/-- The stages in which a client is built, in their order. -/
inductive Stage where
  | authorityFile | authorityBundle
  | certificateFile | keyFile | chainText | chainStructure | keyText | pair
  deriving DecidableEq, Repr

namespace Stage

/-- What a stage finds wrong; nothing if what it looks at is not there. -/
def failure? (files : FileReader) (t : Trust) : Stage → Option TlsError
  | authorityFile => (failureOf (files t.caPath)).map (.read t.caPath)
  | authorityBundle => do
    match Pem.certificates (← (files t.caPath).toOption) with
    | .error _ => some (.invalidCa t.caPath)
    | .ok certificates =>
      if certificates.filterMap Certificate.authority? = [] then some (.invalidCa t.caPath)
      else none
  | certificateFile => (failureOf (files t.certificatePath)).map .readCertificate
  | keyFile => (failureOf (files t.keyPath)).map .readKey
  | chainText => do
    match Pem.certificates (← (files t.certificatePath).toOption) with
    | .error e => some (.keyPair e.message)
    | .ok [] => some (.keyPair "failed to find any PEM data in certificate input")
    | .ok (_ :: _) => none
  | chainStructure => do
    let chain ← (Pem.certificates (← (files t.certificatePath).toOption)).toOption
    chain.findSome? fun c =>
      (failureOf (Certificate.checkStructure c)).map fun e => .keyPair e.message
  | keyText => do
    match Pem.privateKey? (← (files t.keyPath).toOption) with
    | .error e => some (.keyPair e.message)
    | .ok none => some (.keyPair "failed to find any PEM data in key input")
    | .ok (some _) => none
  | pair => do
    let chain ← (Pem.certificates (← (files t.certificatePath).toOption)).toOption
    let own ← chain.head?
    let key ← (← (Pem.privateKey? (← (files t.keyPath).toOption)).toOption)
    match PrivateKey.publicHalf? key with
    | none =>
      some (.keyPair "unexpected error: failed to parse private key as RSA, ECDSA, or EdDSA")
    | some publicKey =>
      match Certificate.parse own with
      | .error e => some (.keyPair e.message)
      | .ok certificate =>
        if publicKey = certificate.publicKey then none
        else some (.keyPair "keys may not be consistent: KeyMismatch")

end Stage

variable {files : FileReader} {t : Trust}

theorem failureOf_identityOf (own : Bytes) (others : List Bytes) (key : Pem.Section) :
    failureOf (identityOf own others key) =
      match PrivateKey.publicHalf? key with
      | none =>
        some (.keyPair "unexpected error: failed to parse private key as RSA, ECDSA, or EdDSA")
      | some publicKey =>
        match Certificate.parse own with
        | .error e => some (.keyPair e.message)
        | .ok certificate =>
          if publicKey = certificate.publicKey then none
          else some (.keyPair "keys may not be consistent: KeyMismatch") := by
  unfold identityOf
  cases PrivateKey.publicHalf? key with
  | none => rfl
  | some publicKey =>
    dsimp only
    rw [keyPair, failureOf_bind, failureOf_mapError, toOption_mapError]
    cases Certificate.parse own with
    | error e => rfl
    | ok certificate =>
      by_cases belongs : publicKey = certificate.publicKey
      · simp [failureOf, Except.toOption, belongs, pure, Except.pure]
      · simp [failureOf, Except.toOption, belongs, throw, throwThe, MonadExceptOf.throw]

theorem failureOf_pair {chainText keyText : Bytes}
    (hchain : files t.certificatePath = .ok chainText)
    (hkey : files t.keyPath = .ok keyText) : failureOf (pair chainText keyText) =
      [Stage.chainText, .chainStructure, .keyText, .pair].findSome? (Stage.failure? files t) := by
  unfold pair
  simp only [findSome?_cons, List.findSome?_nil, Option.or_none, Stage.failure?, hchain, hkey,
    Except.toOption, Option.bind_eq_bind, Option.bind_some]
  cases Pem.certificates chainText with
  | error e => rfl
  | ok chain =>
    cases chain with
    | nil => rfl
    | cons own others =>
      let check (c : Bytes) : Except TlsError Unit :=
        keyPair Certificate.StructureError.message (Certificate.checkStructure c)
      have hcheck (c : Bytes) : failureOf (check c) =
          (failureOf (Certificate.checkStructure c)).map fun e => .keyPair e.message :=
        failureOf_mapError _
      have hstructure := failureOf_forM check (own :: others)
      change failureOf ((own :: others).forM check >>= fun _ => keyPair _ _ >>= _) = _
      simp only [Option.bind_some, ← hcheck, List.head?_cons]
      rw [← hstructure]
      cases (own :: others).forM check with
      | error e => rfl
      | ok _ =>
        cases Pem.privateKey? keyText with
        | error e => rfl
        | ok key =>
          cases key with
          | none => rfl
          | some key => exact failureOf_identityOf own others key

theorem chain_of_identityOf {own : Bytes} {others : List Bytes} {key : Pem.Section}
    {identity : ClientIdentity} (h : identityOf own others key = .ok identity) :
    identity.chain = own :: others := by
  unfold identityOf at h
  cases hhalf : PrivateKey.publicHalf? key with
  | none =>
    rw [hhalf] at h
    cases h
  | some publicKey =>
    simp only [hhalf] at h
    obtain ⟨certificate, -, h⟩ := bind_eq_ok.1 h
    split at h
    · cases h
      rfl
    · cases h

theorem chain_of_pair {chainText keyText : Bytes} {identity : ClientIdentity}
    (h : pair chainText keyText = .ok identity) :
    Pem.certificates chainText = .ok identity.chain := by
  obtain ⟨chain, hchain, h⟩ := bind_eq_ok.1 h
  rw [mapError_eq_ok.1 hchain]
  cases chain with
  | nil => cases h
  | cons own others =>
    obtain ⟨-, -, h⟩ := bind_eq_ok.1 h
    obtain ⟨key, -, h⟩ := bind_eq_ok.1 h
    cases key with
    | none => cases h
    | some key => rw [chain_of_identityOf h]

theorem chain_of_identityIn {certificatePath keyPath : String} {identity : ClientIdentity}
    (h : identityIn files certificatePath keyPath = .ok identity) :
    ∃ text, files certificatePath = .ok text ∧ Pem.certificates text = .ok identity.chain := by
  obtain ⟨chainText, hchain, h⟩ := bind_eq_ok.1 h
  obtain ⟨keyText, -, h⟩ := bind_eq_ok.1 h
  exact ⟨chainText, mapError_eq_ok.1 hchain, chain_of_pair h⟩

/-- The files are read one after the other, before anything in them is looked at. -/
theorem failureOf_identityIn : failureOf (identityIn files t.certificatePath t.keyPath) =
    [Stage.certificateFile, .keyFile, .chainText, .chainStructure, .keyText, .pair].findSome?
      (Stage.failure? files t) := by
  unfold identityIn
  rw [findSome?_cons, findSome?_cons]
  cases hchain : files t.certificatePath with
  | error e =>
    simp only [Stage.failure?, hchain, failureOf, Option.map_some, Option.some_or]
    rfl
  | ok chainText =>
    cases hkey : files t.keyPath with
    | error e =>
      simp only [Stage.failure?, hchain, hkey, failureOf, Option.map_none, Option.map_some,
        Option.none_or, Option.some_or]
      rfl
    | ok keyText =>
      rw [← failureOf_pair hchain hkey]
      simp only [Stage.failure?, hchain, hkey, failureOf, Option.map_none, Option.none_or]
      rfl

theorem outcome_authoritiesIn (path : String) (log : List LogEvent) :
    (authoritiesIn files path).outcome log = match files path with
      | .error e => .error (.read path e)
      | .ok bundle =>
        if usable bundle = [] then .error (.invalidCa path) else .ok (usable bundle) := by
  unfold authoritiesIn
  cases files path with
  | error e => rfl
  | ok bundle =>
    dsimp only
    by_cases hempty : usable bundle = []
    · rw [if_pos hempty]
      simp [hempty]
      rfl
    · rw [if_neg hempty]
      simp [hempty]
      rfl

theorem failureOf_authoritiesIn (log : List LogEvent) :
    failureOf ((authoritiesIn files t.caPath).outcome log) =
      [Stage.authorityFile, .authorityBundle].findSome? (Stage.failure? files t) := by
  rw [outcome_authoritiesIn]
  simp only [findSome?_cons, List.findSome?_nil, Option.or_none, Stage.failure?]
  cases files t.caPath with
  | error e => rfl
  | ok bundle =>
    cases hpem : Pem.certificates bundle with
    | error e => simp [usable, hpem, failureOf, Except.toOption]
    | ok certificates =>
      simp only [usable, hpem, failureOf, Except.toOption, Option.map_none, Option.none_or,
        Option.bind_eq_bind, Option.bind_some]
      by_cases hempty : certificates.filterMap Certificate.authority? = []
      · rw [if_pos hempty, if_pos hempty]
      · rw [if_neg hempty, if_neg hempty]

end TlsClient

namespace Trust

variable {files files' : FileReader} {t : Trust} {system : List Bytes}

/-- Just one of certificate and key is named. -/
def IsHalf (t : Trust) : Prop :=
  ¬ (t.certificatePath = "" ↔ t.keyPath = "")

/-- The stages in which the client is built that the settings ask for. -/
def stages (t : Trust) : List TlsClient.Stage :=
  (if t.caPath = "" then [] else [.authorityFile, .authorityBundle]) ++
    if t.certificatePath = "" ∨ t.keyPath = "" then []
    else [.certificateFile, .keyFile, .chainText, .chainStructure, .keyText, .pair]

/-- Those that the client trusts. -/
def trusted (system : List Bytes) (t : Trust) (named : Option (List Certificate)) :
    List Certificate :=
  named.getD (if t.skipHostVerification then [] else system.filterMap Certificate.authority?)

theorem isHalf_iff : t.IsHalf ↔ t.certificatePath.isEmpty ≠ t.keyPath.isEmpty := by
  rw [IsHalf, ne_eq, Bool.eq_iff_iff, String.isEmpty_iff, String.isEmpty_iff]

theorem clientWith_of_isHalf (h : t.IsHalf) :
    t.clientWith system files = throw .incompleteClientIdentity := by
  unfold clientWith
  rw [if_pos (isHalf_iff.1 h)]
  rfl

theorem outcome_authorities (named : Option (List Certificate)) (log : List LogEvent) :
    (t.authorities system named).outcome log = .ok (t.trusted system named) := by
  unfold authorities trusted
  cases t.skipHostVerification <;> cases named <;> rfl

theorem outcome_clientWith (h : ¬ t.IsHalf) (log : List LogEvent) :
    (t.clientWith system files).outcome log = (do
      let named ← (t.namedAuthorities files).outcome log
      let identity ← t.identity files
      return ⟨t.skipHostVerification, t.trusted system named, identity⟩) := by
  unfold clientWith
  rw [if_neg (mt isHalf_iff.2 h)]
  change (t.namedAuthorities files >>= _).outcome log = _
  rw [Logged.outcome_bind]
  refine congrArg _ (funext fun named => ?_)
  simp only [Logged.outcome_bind, outcome_authorities, Logged.outcome_lift]
  rfl

theorem failureOf_namedAuthorities (log : List LogEvent) :
    failureOf ((t.namedAuthorities files).outcome log) =
      (if t.caPath = "" then [] else [TlsClient.Stage.authorityFile, .authorityBundle]).findSome?
        (TlsClient.Stage.failure? files t) := by
  unfold namedAuthorities
  by_cases hca : t.caPath = ""
  · rw [if_pos (String.isEmpty_iff.2 hca), if_pos hca]
    rfl
  · rw [if_neg (mt String.isEmpty_iff.1 hca), if_neg hca, ← TlsClient.failureOf_authoritiesIn log,
      map_eq_pure_bind, Logged.outcome_bind]
    cases (TlsClient.authoritiesIn files t.caPath).outcome log <;> rfl

theorem hasClientIdentity_iff (h : ¬ t.IsHalf) :
    t.hasClientIdentity = true ↔ ¬ (t.certificatePath = "" ∨ t.keyPath = "") := by
  have hboth : t.certificatePath = "" ↔ t.keyPath = "" := Decidable.not_not.1 h
  simp [hasClientIdentity, hboth]

theorem failureOf_identity (h : ¬ t.IsHalf) :
    failureOf (t.identity files) = (if t.certificatePath = "" ∨ t.keyPath = "" then []
      else [TlsClient.Stage.certificateFile, .keyFile, .chainText, .chainStructure, .keyText,
        .pair]).findSome? (TlsClient.Stage.failure? files t) := by
  unfold identity
  by_cases hunset : t.certificatePath = "" ∨ t.keyPath = ""
  · rw [if_neg (fun hhas => (hasClientIdentity_iff h).1 hhas hunset), if_pos hunset]
    rfl
  · rw [if_pos ((hasClientIdentity_iff h).2 hunset), if_neg hunset,
      ← TlsClient.failureOf_identityIn]
    cases TlsClient.identityIn files t.certificatePath t.keyPath <;> rfl

/-- Building fails as the first stage does that finds something wrong. -/
theorem failureOf_clientWith (h : ¬ t.IsHalf) (log : List LogEvent) :
    failureOf ((t.clientWith system files).outcome log) =
      t.stages.findSome? (TlsClient.Stage.failure? files t) := by
  rw [stages, List.findSome?_append, ← failureOf_namedAuthorities log, ← failureOf_identity h,
    outcome_clientWith h]
  cases (t.namedAuthorities files).outcome log with
  | error e => rfl
  | ok named => cases t.identity files <;> rfl

end Trust

/-- The client is what the settings ask for. Authorities that are named are trusted instead of those
of the system, and an identity comes of the certificates that are named. -/
structure TlsClient.Meets (system : List Bytes) (files : FileReader) (t : Trust)
    (client : TlsClient) : Prop where
  skipHostVerification : client.skipHostVerification = t.skipHostVerification
  identity : client.identity.isSome = true ↔ t.certificatePath ≠ "" ∧ t.keyPath ≠ ""
  chain : ∀ identity, client.identity = some identity → ∃ text,
    files t.certificatePath = .ok text ∧ Pem.certificates text = .ok identity.chain
  named : t.caPath ≠ "" → ∃ bundle certificates, files t.caPath = .ok bundle ∧
    Pem.certificates bundle = .ok certificates ∧
    client.authorities = certificates.filterMap Certificate.authority?
  unnamed : t.skipHostVerification = false → t.caPath = "" →
    client.authorities = system.filterMap Certificate.authority?

namespace Trust

variable {files files' : FileReader} {t : Trust} {system : List Bytes}

theorem named_of_outcome {log : List LogEvent} {named : Option (List Certificate)}
    (h : (t.namedAuthorities files).outcome log = .ok named) :
    (t.caPath = "" → named = none) ∧
      (t.caPath ≠ "" → ∃ bundle certificates, files t.caPath = .ok bundle ∧
        Pem.certificates bundle = .ok certificates ∧
        named = some (certificates.filterMap Certificate.authority?)) := by
  unfold namedAuthorities at h
  by_cases hca : t.caPath = ""
  · rw [if_pos (String.isEmpty_iff.2 hca)] at h
    cases h
    exact ⟨fun _ => rfl, fun hset => absurd hca hset⟩
  · refine ⟨fun hunset => absurd hunset hca, fun _ => ?_⟩
    rw [if_neg (mt String.isEmpty_iff.1 hca), map_eq_pure_bind, Logged.outcome_bind,
      TlsClient.outcome_authoritiesIn] at h
    cases hbundle : files t.caPath with
    | error e =>
      rw [hbundle] at h
      cases h
    | ok bundle =>
      simp only [hbundle] at h
      by_cases hempty : TlsClient.usable bundle = []
      · rw [if_pos hempty] at h
        cases h
      · rw [if_neg hempty] at h
        cases h
        refine ⟨bundle, ?_⟩
        unfold TlsClient.usable at hempty ⊢
        cases hpem : Pem.certificates bundle with
        | error e =>
          rw [hpem] at hempty
          exact absurd rfl hempty
        | ok certificates => exact ⟨certificates, rfl, rfl, rfl⟩

theorem identity_of_outcome (h : ¬ t.IsHalf) {identity : Option ClientIdentity}
    (hok : t.identity files = .ok identity) :
    (identity.isSome = true ↔ ¬ (t.certificatePath = "" ∨ t.keyPath = "")) ∧
      ∀ i, identity = some i → ∃ text, files t.certificatePath = .ok text ∧
        Pem.certificates text = .ok i.chain := by
  unfold Trust.identity at hok
  by_cases hhas : t.hasClientIdentity = true
  · rw [if_pos hhas] at hok
    obtain ⟨i, hin, hi⟩ := map_eq_ok.1 hok
    subst hi
    refine ⟨iff_of_true rfl ((hasClientIdentity_iff h).1 hhas), fun _ heq => ?_⟩
    cases heq
    exact TlsClient.chain_of_identityIn hin
  · rw [if_neg hhas] at hok
    cases hok
    exact ⟨iff_of_false nofun (mt (hasClientIdentity_iff h).2 hhas), nofun⟩

theorem meets_of_outcome {log : List LogEvent} {client : TlsClient}
    (hok : (t.clientWith system files).outcome log = .ok client) :
    client.Meets system files t := by
  by_cases h : t.IsHalf
  · rw [clientWith_of_isHalf h] at hok
    cases hok
  rw [outcome_clientWith h] at hok
  obtain ⟨named, hnamed, hok⟩ := bind_eq_ok.1 hok
  obtain ⟨identity, hidentity, hok⟩ := bind_eq_ok.1 hok
  cases hok
  obtain ⟨hunset, hset⟩ := named_of_outcome hnamed
  obtain ⟨hsome, hchain⟩ := identity_of_outcome h hidentity
  refine ⟨rfl, hsome.trans not_or, hchain, fun hca => ?_, fun hskip hca => ?_⟩
  · obtain ⟨bundle, certificates, hbundle, hpem, rfl⟩ := hset hca
    exact ⟨bundle, certificates, hbundle, hpem, rfl⟩
  · rw [hunset hca]
    simp [trusted, hskip]

/-- Of the files only those at the paths that are set are looked at. -/
theorem clientWith_congr
    (h : ∀ path ∈ [t.caPath, t.certificatePath, t.keyPath], path ≠ "" → files path = files' path) :
    t.clientWith system files = t.clientWith system files' := by
  by_cases hhalf : t.IsHalf
  · rw [clientWith_of_isHalf hhalf, clientWith_of_isHalf hhalf]
  have hnamed : t.namedAuthorities files = t.namedAuthorities files' := by
    unfold namedAuthorities
    by_cases hca : t.caPath = ""
    · rw [if_pos (String.isEmpty_iff.2 hca), if_pos (String.isEmpty_iff.2 hca)]
    · unfold TlsClient.authoritiesIn
      rw [h t.caPath (by simp) hca]
  have hidentity : t.identity files = t.identity files' := by
    unfold identity
    by_cases hhas : t.hasClientIdentity = true
    · obtain ⟨hcertificate, hkey⟩ := not_or.1 ((hasClientIdentity_iff hhalf).1 hhas)
      unfold TlsClient.identityIn
      rw [h t.certificatePath (by simp) hcertificate, h t.keyPath (by simp) hkey]
    · rw [if_neg hhas, if_neg hhas]
  rw [clientWith, clientWith, hnamed, hidentity]

/-- **What comes of trust settings**, whatever the files and whatever the certificates of the system
are. If just one of certificate and key is named, that is the failure, and no file has a say in it.
Otherwise building fails as the first of its stages does that finds something wrong, and only the
stages that belong to the paths that are set take part. A client that is built is what the settings
ask for, and only the files at the three paths matter. -/
theorem client_configured (system : List Bytes) (files : FileReader) (t : Trust) :
    (t.IsHalf → t.clientWith system files = throw .incompleteClientIdentity) ∧
      (¬ t.IsHalf → ∀ log, failureOf ((t.clientWith system files).outcome log) =
        t.stages.findSome? (TlsClient.Stage.failure? files t)) ∧
      (∀ log client, (t.clientWith system files).outcome log = .ok client →
        client.Meets system files t) ∧
      ∀ files' : FileReader,
        (∀ path ∈ [t.caPath, t.certificatePath, t.keyPath], path ≠ "" →
          files path = files' path) →
        t.clientWith system files = t.clientWith system files' :=
  ⟨clientWith_of_isHalf, failureOf_clientWith, fun _ _ => meets_of_outcome,
    fun _ => clientWith_congr⟩

/-- An authority, as a file holds it. -/
def authorityText : String :=
  "-----BEGIN CERTIFICATE-----\n" ++
  "MIH8MIGvoAMCAQICAQEwBQYDK2VwMA0xCzAJBgNVBAMMAmNhMCAXDTI2MTEyMDE4\n" ++
  "NDA1NloYDzIxMjYxMDI3MTg0MDU2WjANMQswCQYDVQQDDAJjYTAqMAUGAytlcAMh\n" ++
  "AGRmH+Y9JpYmpsj0KYmMJZhguGx9Rq/KycyrZcPo41AqozIwMDAPBgNVHRMBAf8E\n" ++
  "BTADAQH/MB0GA1UdDgQWBBQUb/zzkUAbpHXl60z8EJVoV3AyIjAFBgMrZXADQQB9\n" ++
  "v43sQtfjedI2mhN1RaEJ/zVGuIl+iaG9rY6DP71GCLCMa99scLbOIS135F6eU0R4\n" ++
  "P6tTQm/YeuMr5svbMJYE\n" ++
  "-----END CERTIFICATE-----\n"

/-- A directory that holds an authority and nothing else. -/
def authorityFiles : FileReader :=
  MemoryFiles.read [("ca.pem", Utf8.encode authorityText)]

/-- If no file can be read, that of the authorities is missed first, although nobody would be
checked against them. If it can be read, and there is an authority in it, a key is missed after the
certificate that it belongs to; and without an identity there is a client that trusts just this
authority. -/
theorem client_configured_sample :
    (let t : Trust := ⟨true, "ca.pem", "client.pem", "client.key"⟩
     ¬ t.IsHalf ∧ failureOf ((t.clientWith [] .none).outcome []) =
       some (.read "ca.pem" ⟨.notFound, some "No such file or directory (os error 2)"⟩)) ∧
    (let t : Trust := ⟨false, "ca.pem", "ca.pem", "client.key"⟩
     ¬ t.IsHalf ∧ failureOf ((t.clientWith [] authorityFiles).outcome []) =
       some (.readKey ⟨.notFound, some "open client.key: file does not exist"⟩)) ∧
    let t : Trust := ⟨false, "ca.pem", "", ""⟩
    ∃ client, (t.clientWith [] authorityFiles).outcome [] = .ok client ∧
      client.Meets [] authorityFiles t ∧ client.authorities.length = 1 := by
  refine ⟨?_, ?_, ?_⟩
  · intro t
    have hhalf : ¬ t.IsHalf := Decidable.not_not.2 (by decide)
    refine ⟨hhalf, ((client_configured [] .none t).2.1 hhalf []).trans ?_⟩
    decide +kernel
  · intro t
    have hhalf : ¬ t.IsHalf := Decidable.not_not.2 (by decide)
    refine ⟨hhalf, ((client_configured [] authorityFiles t).2.1 hhalf []).trans ?_⟩
    decide +kernel
  · intro t
    have hbuilt : ((t.clientWith [] authorityFiles).outcome []).toOption.any
        (fun client => client.authorities.length == 1) = true := by
      decide +kernel
    obtain ⟨client, hclient, hone⟩ := (Option.any_eq_true _ _).1 hbuilt
    have hok := toOption_eq_some.1 hclient
    exact ⟨client, hok, (client_configured [] authorityFiles t).2.2.1 [] client hok,
      beq_iff_eq.1 hone⟩

end Trust
end ClusterProbe
