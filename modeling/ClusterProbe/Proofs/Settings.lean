import ClusterProbe.Program
import ClusterProbe.Proofs.Logged
import ClusterProbe.Proofs.Results

/-!
# Which setting counts

Every setting has three places where it may stand: the command line, the environment and the file.
`Settings.Merges` says field by field which of them counts, and the program goes on with just these
settings. What is dialed with them is plain only where no setting asks for encryption: a path or a
switch is either in force or stands in the way of dialing at all.
-/
namespace ClusterProbe

namespace Settings

/-- A text from the command line counts, else one from the environment, empty or not, else that of
the file. Host verification is skipped if the command line says so, else as the environment says,
which has to say it in words that mean something, else as the file says. The time limit of single
calls is always the file's. -/
structure Merges (file : Settings) (env : Environment) (o : Options) (s : Settings) : Prop where
  masterAddresses : s.masterAddresses =
    o.masterAddresses.or ((env "YUGATOOL_MASTER_ADDRESSES").or file.masterAddresses)
  dialTimeout : s.dialTimeout =
    (o.dialTimeout.map Duration.spelled).or ((env "YUGATOOL_DIAL_TIMEOUT").or file.dialTimeout)
  caPath : s.tls.caPath = o.caPath.or ((env "YUGATOOL_CACERT").or file.tls.caPath)
  certificatePath : s.tls.certificatePath =
    o.certificatePath.or ((env "YUGATOOL_CLIENT_CERT").or file.tls.certificatePath)
  keyPath : s.tls.keyPath = o.keyPath.or ((env "YUGATOOL_CLIENT_KEY").or file.tls.keyPath)
  skipHostVerification : s.tls.skipHostVerification = (o.skipHostVerification ||
    ((env "YUGATOOL_SKIP_HOST_VERIFICATION").bind Text.switch?).getD file.tls.skipHostVerification)
  readable : ∀ value, env "YUGATOOL_SKIP_HOST_VERIFICATION" = some value →
    (Text.switch? value).isSome
  rpcTimeoutMillis : s.rpcTimeoutMillis = file.rpcTimeoutMillis

variable {file s t : Settings} {env : Environment} {o : Options} {log : List LogEvent}

/-- The environment is refused only for a switch that is no truth value. -/
theorem skipIn_eq_ok_iff {default b : Bool} :
    skipIn env default = .ok b ↔
      (∀ value, env "YUGATOOL_SKIP_HOST_VERIFICATION" = some value →
        (Text.switch? value).isSome) ∧
      ((env "YUGATOOL_SKIP_HOST_VERIFICATION").bind Text.switch?).getD default = b := by
  unfold skipIn
  rcases env "YUGATOOL_SKIP_HOST_VERIFICATION" with _ | value
  · simp
  · rcases h : Text.switch? value with _ | b <;> simp [h]

theorem outcome_withEnvironment_eq_ok_iff :
    (file.withEnvironment env).outcome log = .ok t ↔
      ∃ skip, skipIn env file.tls.skipHostVerification = .ok skip ∧ file.under env skip = t := by
  -- What is logged first has no say in the outcome.
  have passes : ∃ before, (file.withEnvironment env).outcome log =
      (Logged.lift (skipIn env file.tls.skipHostVerification) >>= fun skip =>
        pure (file.under env skip) : Logged Failure Settings).outcome before := by
    unfold withEnvironment
    rcases env "YUGATOOL_MASTER_ADDRESSES" with _ | masters <;>
      rcases env "YUGATOOL_DIAL_TIMEOUT" with _ | timeout <;>
      exact ⟨_, rfl⟩
  obtain ⟨before, passes⟩ := passes
  rw [passes, Logged.outcome_bind_eq_ok_iff]
  simp only [Logged.outcome_lift, Logged.outcome_pure, Except.ok.injEq]

theorem merges_iff :
    file.Merges env o s ↔ ∃ skip, skipIn env file.tls.skipHostVerification = .ok skip ∧
      (file.under env skip).withOptions o = s := by
  simp only [skipIn_eq_ok_iff]
  constructor
  · intro h
    refine ⟨_, ⟨h.readable, rfl⟩, ?_⟩
    obtain ⟨masters, timeout, rpc, ca, certificate, key, skip⟩ := s
    simp only [withOptions, under, mk.injEq, TlsSettings.mk.injEq]
    exact ⟨h.masterAddresses.symm, h.dialTimeout.symm, h.rpcTimeoutMillis.symm, h.caPath.symm,
      h.certificatePath.symm, h.keyPath.symm, h.skipHostVerification.symm⟩
  · rintro ⟨_, ⟨readable, rfl⟩, rfl⟩
    exact ⟨rfl, rfl, rfl, rfl, rfl, rfl, readable, rfl⟩

/-- Whatever has been logged before. -/
theorem exists_outcome_iff_merges (log : List LogEvent) :
    (∃ t, (file.withEnvironment env).outcome log = .ok t ∧ t.withOptions o = s) ↔
      file.Merges env o s := by
  simp only [outcome_withEnvironment_eq_ok_iff, merges_iff]
  constructor
  · rintro ⟨_, ⟨skip, hskip, rfl⟩, hs⟩
    exact ⟨skip, hskip, hs⟩
  · rintro ⟨skip, hskip, hs⟩
    exact ⟨_, ⟨skip, hskip, rfl⟩, hs⟩

/-- Whatever the settings of the file are, what the environment and then the command line make of
them are the merged ones. -/
theorem merge_eq_ok_iff :
    (file.withEnvironment env).result.1.map (withOptions o) = .ok s ↔ file.Merges env o s := by
  rw [map_eq_ok, Logged.result_fst]
  exact exists_outcome_iff_merges []

end Settings

/-- A path that is not set, or set to nothing. -/
def IsUnset (path : Option String) : Prop :=
  path = none ∨ path = some ""

/-- Nothing asks for encryption. -/
structure TlsSettings.IsBare (s : TlsSettings) : Prop where
  skipHostVerification : s.skipHostVerification = false
  caPath : IsUnset s.caPath
  certificatePath : IsUnset s.certificatePath
  keyPath : IsUnset s.keyPath

theorem isUnset_iff {path : Option String} : IsUnset path ↔ path.getD "" = "" := by
  rcases path with _ | path <;> simp [IsUnset]

theorem TlsSettings.isBare_iff {s : TlsSettings} : s.IsBare ↔ s.trust.hasTls = false := by
  have bare : s.IsBare ↔ s.skipHostVerification = false ∧ IsUnset s.caPath ∧
      IsUnset s.certificatePath ∧ IsUnset s.keyPath :=
    ⟨fun h => ⟨h.1, h.2, h.3, h.4⟩, fun ⟨h1, h2, h3, h4⟩ => ⟨h1, h2, h3, h4⟩⟩
  simp [bare, isUnset_iff, trust, Trust.hasTls]

namespace Dialer

variable {files : FileReader} {limit : Duration} {log : List LogEvent}

/-- A plain dialer comes of trust settings that ask for nothing, and of them alone. -/
theorem outcome_ofTrust_plain_iff {trust : Option Trust} :
    (∃ d, (ofTrust files trust limit).outcome log = .ok d ∧ d.isTls = false) ↔
      trust.filter Trust.hasTls = none := by
  unfold ofTrust
  rcases trust.filter Trust.hasTls with _ | t
  · exact iff_of_true ⟨_, rfl, rfl⟩ rfl
  · simp only [Logged.outcome_bind_eq_ok_iff, Logged.outcome_pure, Except.ok.injEq, reduceCtorEq,
      iff_false]
    rintro ⟨_, ⟨client, -, rfl⟩, plain⟩
    cases plain

end Dialer

namespace Settings

variable {files : FileReader} {s : Settings} {limit : Duration}

/-- What a universe asks for is what the settings ask for: both drop trust settings without any
content. -/
theorem filter_trust : s.trust.filter Trust.hasTls = s.trust := by
  simp [trust, Option.filter_filter]

theorem trust_eq_none_iff : s.trust = none ↔ s.tls.IsBare := by
  simp [trust, TlsSettings.isBare_iff, Option.filter_eq_none_iff]

/-- Settings whose time limit can be read lead to a universe, and it is dialed in the clear exactly
where nothing asks for encryption. -/
theorem exists_universe (files : FileReader) (masters : List Endpoint)
    (h : s.dialLimit = .ok limit) :
    ∃ u, s.toUniverse masters = .ok u ∧
      ((∃ d, (u.dialer files).result.1 = .ok d ∧ d.isTls = false) ↔ s.tls.IsBare) := by
  refine ⟨⟨masters, limit, s.rpcTimeoutMillis.getD 3000, s.trust⟩, ?_, ?_⟩
  · rw [toUniverse, h]
    rfl
  · simp only [Universe.dialer, Logged.result_fst, Logged.outcome_mapFailure_eq_ok_iff,
      Dialer.outcome_ofTrust_plain_iff, filter_trust, trust_eq_none_iff]

end Settings

namespace Program

variable {files : FileReader} {env : Environment} {o : Options} {s : Settings}

/-- The program's settings are the merged ones: there are none only where the file or the switch in
the environment cannot be read. -/
theorem effectiveSettings_eq_ok_iff :
    (effectiveSettings files env o).result.1 = .ok s ↔
      ∃ file, (fileSettings files o).result.1 = .ok file ∧ file.Merges env o s := by
  simp only [Logged.result_fst, effectiveSettings, Logged.outcome_bind_eq_ok_iff]
  refine exists_congr fun file => and_congr_right fun _ => ?_
  rw [← Settings.exists_outcome_iff_merges ((fileSettings files o).run.run []).2]
  refine exists_congr fun t => and_congr_right fun _ => ⟨?_, ?_⟩
  · rintro ⟨⟨⟩, -, hs⟩
    exact Except.ok.inj hs
  · rintro rfl
    exact ⟨(), rfl, rfl⟩

/-- Every setting has the value of the first of command line, environment and file that gives one,
whatever the file gives, and these are the settings that the program goes on with. With settings
whose time limit can be read, connections are plain if and only if the settings say nothing of
encryption: any path, and leaving out verification, make them encrypted or make the program fail
before it dials. -/
theorem settings_take_precedence (masters : List Endpoint) :
    (∀ file : Settings,
      (file.withEnvironment env).result.1.map (Settings.withOptions o) = .ok s ↔
        file.Merges env o s) ∧
    ((effectiveSettings files env o).result.1 = .ok s ↔
      ∃ file, (fileSettings files o).result.1 = .ok file ∧ file.Merges env o s) ∧
    ∀ limit, s.dialLimit = .ok limit → ∃ u, s.toUniverse masters = .ok u ∧
      ((∃ d, (u.dialer files).result.1 = .ok d ∧ d.isTls = false) ↔ s.tls.IsBare) :=
  ⟨fun _ => Settings.merge_eq_ok_iff, effectiveSettings_eq_ok_iff,
    fun _ h => s.exists_universe files masters h⟩

/-- A settings file. -/
def settingsText : String :=
  "master_addresses: m1,m2\ndial_timeout: 5s\nrpc_timeout_millis: 250\n" ++
    "tls:\n  cacert: file.pem\n  client_cert: file.crt\n"

/-- Without a file, the environment names an authority and asks for five seconds; the command line
takes the authority back and asks for thirty. With a file, its masters, its limit for single calls
and its certificate count, the environment shortens its time to dial, and the command line names
another authority: connections are not plain then. -/
theorem settings_take_precedence_sample :
    (let env : Environment := fun name => if name = "YUGATOOL_CACERT" then some "ca.pem"
      else if name = "YUGATOOL_DIAL_TIMEOUT" then some "5s"
      else if name = "YUGATOOL_SKIP_HOST_VERIFICATION" then some "off" else none
    let o : Options := { caPath := some "", dialTimeout := some (.ofSeconds 30) }
    let s : Settings := { dialTimeout := some "30s", tls := { caPath := some "" } }
    (effectiveSettings .none env o).result.1 = .ok s ∧ s.dialLimit = .ok (.ofSeconds 30) ∧
      ∃ u, s.toUniverse [] = .ok u ∧
        ∃ d, (u.dialer .none).result.1 = .ok d ∧ d.isTls = false) ∧
    let files : FileReader := MemoryFiles.read [("c.yaml", Utf8.encode settingsText)]
    let env : Environment := fun name => if name = "YUGATOOL_CACERT" then some "ca.pem"
      else if name = "YUGATOOL_DIAL_TIMEOUT" then some "3s" else none
    let o : Options := { configPath := some "c.yaml", caPath := some "option.pem" }
    let s : Settings :=
      { masterAddresses := some "m1,m2", dialTimeout := some "3s", rpcTimeoutMillis := some 250
        tls := { caPath := some "option.pem", certificatePath := some "file.crt" } }
    (effectiveSettings files env o).result.1 = .ok s ∧ s.dialLimit = .ok (.ofSeconds 3) ∧
      ∃ u, s.toUniverse [] = .ok u ∧
        ¬ ∃ d, (u.dialer files).result.1 = .ok d ∧ d.isTls = false := by
  constructor
  · intro env o s
    have parsed : s.dialLimit = .ok (.ofSeconds 30) := rfl
    obtain ⟨-, effective, dialed⟩ := @settings_take_precedence .none env o s []
    obtain ⟨u, hu, plain⟩ := dialed _ parsed
    refine ⟨effective.mpr ⟨{}, rfl, ?_⟩, parsed, u, hu, plain.mpr ?_⟩
    · refine ⟨rfl, rfl, rfl, rfl, rfl, rfl, fun value set => ?_, rfl⟩
      cases set
      rfl
    · exact ⟨rfl, .inr rfl, .inl rfl, .inl rfl⟩
  · intro files env o s
    have parsed : s.dialLimit = .ok (.ofSeconds 3) := rfl
    obtain ⟨-, effective, dialed⟩ := @settings_take_precedence files env o s []
    obtain ⟨u, hu, plain⟩ := dialed _ parsed
    let file : Settings :=
      { masterAddresses := some "m1,m2", dialTimeout := some "5s", rpcTimeoutMillis := some 250
        tls := { caPath := some "file.pem", certificatePath := some "file.crt" } }
    have read : (fileSettings files o).result.1 = .ok file :=
      toOption_eq_some.1 (by decide +kernel)
    refine ⟨effective.mpr ⟨file, read, ?_⟩, parsed, u, hu, fun d => ?_⟩
    · exact ⟨rfl, rfl, rfl, rfl, rfl, rfl, nofun, rfl⟩
    · exact absurd (isUnset_iff.1 (plain.mp d).certificatePath) (by decide)

end Program
end ClusterProbe
