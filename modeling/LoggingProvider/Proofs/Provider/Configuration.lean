import LoggingProvider.Proofs.Http.Address
import LoggingProvider.Proofs.Outcome
import LoggingProvider.Proofs.Provider.Operations
import LoggingProvider.Proofs.Url.Authority

/-!
# Configuring the provider

A configuration that resolves gives a key, the text of an address that starts like one of the web,
and a time. The findings about a configuration tell no more than that it resolves and fits its
schema. The client needs more of the address, namely a host, so there are configurations without
findings that the provider cannot be configured with. Their address is all that is wrong with them.

An address in a configuration loses the slashes at its end. This may leave nothing after its scheme,
but the scheme and the colon stay.

## Main results

* `Config.resolve_eq_ok_iff`: when a configuration resolves, and to what
* `Http.Client.ofConfig_eq`: the client of a configuration that resolves, or why there is none
* `Provider.configure_eq_ok_nil_iff`: when configuring succeeds without findings
* `Provider.configure_of_validated`: configuring with what has no findings
* `Provider.validated_not_configured`: a configuration without findings and without a client
-/

namespace LoggingProvider

namespace Config

variable {v : Json} {environment : String → Option String} {config : Config}

/-- **When a configuration resolves, and to what.** -/
theorem resolve_eq_ok_iff : resolve v environment = .ok config ↔
    ∃ given, Given.ofJson v = .ok given ∧
      ∃ key, chooseKey given.key (environment keyVariable) = some key ∧
        isWebUrl (chooseUrl given.baseUrl (environment urlVariable)) ∧
        given.timeout.getD defaultTimeout ≠ 0 ∧
        config = ⟨key, dropSlashes (chooseUrl given.baseUrl (environment urlVariable)),
          given.timeout.getD defaultTimeout⟩ := by
  unfold resolve
  rw [Outcome.bind_eq_ok_iff]
  apply exists_congr
  intro given
  rw [Outcome.mapError_eq_ok_iff]
  apply and_congr_right
  intro _
  cases chooseKey given.key (environment keyVariable) with
  | none => simp [throw, throwThe, MonadExceptOf.throw]
  | some key =>
    by_cases hurl : isWebUrl (chooseUrl given.baseUrl (environment urlVariable))
    · by_cases htime : given.timeout.getD defaultTimeout = 0
      · simp [hurl, htime, throw, throwThe, MonadExceptOf.throw, bind, Except.bind]
      · simp [hurl, htime, pure, Except.pure, eq_comm]
    · simp [hurl, throw, throwThe, MonadExceptOf.throw, bind, Except.bind]

/-- Without its slashes at the end, an address still starts like one of the web. -/
theorem ofWeb_dropSlashes {s : String} (h : isWebUrl s) : Url.OfWeb (dropSlashes s) := by
  have hdrop : ∀ scheme : String, (scheme ++ "://").toList.isPrefixOf s.toList →
      ∃ rest, (dropSlashes s).toList = scheme.toList ++ ':' :: rest := by
    intro scheme hprefix
    obtain ⟨rest, hrest⟩ := List.isPrefixOf_iff_prefix.1 hprefix
    have hs : s.toList = scheme.toList ++ ':' :: ('/' :: '/' :: rest) := by
      rw [← hrest, String.toList_append, List.append_assoc]
      rfl
    refine ⟨(('/' :: '/' :: rest).reverse.dropWhile (· = '/')).reverse, ?_⟩
    unfold dropSlashes
    rw [hs, Url.dropEnd_append rfl, String.toList_ofList]
  unfold isWebUrl at h
  rcases Bool.or_eq_true_iff.1 h with h | h
  · obtain ⟨rest, hrest⟩ := hdrop "http" h
    exact ⟨"http", by simp, rest, hrest⟩
  · obtain ⟨rest, hrest⟩ := hdrop "https" h
    exact ⟨"https", by simp, rest, hrest⟩

/-- The address of a configuration starts like one of the web. -/
theorem ofWeb_baseUrl (h : resolve v environment = .ok config) : Url.OfWeb config.baseUrl := by
  obtain ⟨given, -, key, -, hurl, -, rfl⟩ := resolve_eq_ok_iff.1 h
  exact ofWeb_dropSlashes hurl

end Config

/-- **The client of a configuration that resolves**, or why there is none: only its address is
looked at. -/
theorem Http.Client.ofConfig_eq {v : Json} {environment : String → Option String} {config : Config}
    (h : Config.resolve v environment = .ok config) :
    Http.Client.ofConfig config =
      match Url.parse config.baseUrl with
      | .ok url => .ok ⟨url, config.key⟩
      | .error fault => .error (Http.Client.invalidUrl fault.message) := by
  unfold Http.Client.ofConfig
  cases hurl : Url.parse config.baseUrl with
  | error fault => rfl
  | ok url => simp only [Url.canBeBase_of_web (Config.ofWeb_baseUrl h) hurl, if_true]

namespace Provider

variable {σ : Type} {around : Surroundings σ} {v : Json} {z z' : Session σ}

/-- A configuration has no findings exactly when it fits its schema and resolves. -/
theorem configFindings_eq_nil_iff : configFindings around v = [] ↔
    Config.schema.validate v = [] ∧ ∃ config, Config.resolve v around.environment = .ok config := by
  unfold configFindings
  cases Config.schema.validate v with
  | cons d findings => simp
  | nil =>
    cases Config.resolve v around.environment with
    | error fault => simp [Config.diagnostics]
    | ok config => simp [Config.diagnostics]

/-- What configuring does with a configuration that resolves. -/
theorem configure_of_resolve {config : Config}
    (h : Config.resolve v around.environment = .ok config) :
    configure around v z =
      match Http.Client.ofConfig config with
      | .ok client => (.ok [], { z with link := some (client.remote around.transport) })
      | .error fault => (.error fault, z) := by
  unfold configure
  rw [h]
  simp only
  cases hclient : Http.Client.ofConfig config with
  | error fault => exact Action.bind_of_error rfl
  | ok client => exact Action.ofExcept_bind_of_ok rfl

/-- What configuring does with a configuration that does not resolve. -/
theorem configure_of_resolve_error {fault : Fault}
    (h : Config.resolve v around.environment = .error fault) :
    configure around v z = (.ok (Config.diagnostics (.error fault)), z) := by
  unfold configure
  rw [h]
  rfl

/-- **When configuring succeeds without findings**: when there is a client, which is installed. -/
theorem configure_eq_ok_nil_iff : configure around v z = (.ok [], z') ↔
    ∃ config client, Config.resolve v around.environment = .ok config ∧
      Http.Client.ofConfig config = .ok client ∧
      z' = { z with link := some (client.remote around.transport) } := by
  cases hresolve : Config.resolve v around.environment with
  | error fault =>
    rw [configure_of_resolve_error hresolve]
    refine iff_of_false ?_ (by simp)
    intro h
    cases (Prod.mk.inj h).1
  | ok config =>
    rw [configure_of_resolve hresolve]
    cases hclient : Http.Client.ofConfig config with
    | error fault =>
      refine iff_of_false ?_ (by simp [hclient])
      intro h
      cases (Prod.mk.inj h).1
    | ok client =>
      constructor
      · intro h
        exact ⟨config, client, rfl, hclient, (Prod.mk.inj h).2.symm⟩
      · rintro ⟨config', client', hconfig, hclient', rfl⟩
        obtain rfl := Except.ok.inj hconfig
        obtain rfl := Except.ok.inj (hclient.symm.trans hclient')
        rfl

/-- Configuring with findings, or with a fault, leaves everything as it was. -/
theorem configure_state_eq (h : (configure around v z).1 ≠ .ok []) :
    (configure around v z).2 = z := by
  cases hresolve : Config.resolve v around.environment with
  | error fault => rw [configure_of_resolve_error hresolve]
  | ok config =>
    rw [configure_of_resolve hresolve] at h ⊢
    cases hclient : Http.Client.ofConfig config with
    | error fault => rfl
    | ok client =>
      rw [hclient] at h
      exact absurd rfl h

/-- **Configuring with what has no findings.** A configuration without findings resolves. If its
address has a host, configuring succeeds without findings and installs the client of that address
and of the key. Otherwise the address is none, and configuring fails with its fault and changes
nothing. Whatever configures the provider without findings resolves. -/
theorem configure_of_validated (around : Surroundings σ) (v : Json) (z : Session σ) :
    ((plugin around).validateProviderConfig v z = (.ok [], z) →
      ∃ config, Config.resolve v around.environment = .ok config ∧
        (Url.Hosted config.baseUrl → ∃ url, Url.parse config.baseUrl = .ok url ∧
          (plugin around).configure v z = (.ok [],
            { z with link := some (Http.Client.remote ⟨url, config.key⟩ around.transport) })) ∧
        (¬Url.Hosted config.baseUrl → ∃ fault, Url.parse config.baseUrl = .error fault ∧
          (plugin around).configure v z = (.error (Http.Client.invalidUrl fault.message), z))) ∧
    ∀ z', (plugin around).configure v z = (.ok [], z') →
      ∃ config, Config.resolve v around.environment = .ok config := by
  constructor
  · intro hvalid
    have hnone : configFindings around v = [] := Except.ok.inj (Prod.mk.inj hvalid).1
    obtain ⟨-, config, hresolve⟩ := configFindings_eq_nil_iff.1 hnone
    have hparse := Url.exists_parse_iff (Config.ofWeb_baseUrl hresolve)
    refine ⟨config, hresolve, ?_, ?_⟩
    · intro hhost
      obtain ⟨url, hurl⟩ := hparse.2 hhost
      refine ⟨url, hurl, (configure_of_resolve hresolve).trans ?_⟩
      rw [Http.Client.ofConfig_eq hresolve, hurl]
    · intro hhost
      cases hurl : Url.parse config.baseUrl with
      | ok url => exact absurd (hparse.1 ⟨url, hurl⟩) hhost
      | error fault =>
        refine ⟨fault, rfl, (configure_of_resolve hresolve).trans ?_⟩
        rw [Http.Client.ofConfig_eq hresolve, hurl]
  · intro z' h
    obtain ⟨config, -, hresolve, -⟩ := configure_eq_ok_nil_iff.1 h
    exact ⟨config, hresolve⟩

/-- A configuration with a key and an address. -/
def webConfig (address : String) : Json :=
  .object [("api_key", .string "k"), ("base_url", .string address)]

/-- An address with a host and a port, and one with nothing after its scheme. -/
theorem configure_of_validated_addresses :
    (∃ url, Url.parse "https://api.fastly.com:8443/v1" = .ok url ∧
      (plugin (.silent Unit)).configure (webConfig "https://api.fastly.com:8443/v1/") ⟨none, ()⟩ =
        (.ok [], ⟨some (Http.Client.remote ⟨url, "k"⟩ (.silent Unit)), ()⟩)) ∧
    ∃ fault, Url.parse "http:" = .error fault ∧
      (plugin (.silent Unit)).configure (webConfig "http://") ⟨none, ()⟩ =
        (.error (Http.Client.invalidUrl fault.message), ⟨none, ()⟩) := by
  constructor
  · obtain ⟨config, hresolve, hhosted, -⟩ := (configure_of_validated (.silent Unit)
      (webConfig "https://api.fastly.com:8443/v1/") ⟨none, ()⟩).1 rfl
    obtain rfl : ⟨"k", "https://api.fastly.com:8443/v1", 30⟩ = config := Except.ok.inj hresolve
    have hport : Url.IsPort "8443".toList := ⟨by simp [Char.isDigit], by decide⟩
    exact hhosted ⟨"api.fastly.com".toList, ":8443".toList, rfl, by decide, ⟨_, rfl⟩,
      .inr ⟨_, rfl, hport⟩⟩
  · obtain ⟨config, hresolve, -, hhostless⟩ :=
      (configure_of_validated (.silent Unit) (webConfig "http://") ⟨none, ()⟩).1 rfl
    obtain rfl : ⟨"k", "http:", 30⟩ = config := Except.ok.inj hresolve
    apply hhostless
    rintro ⟨host, tail, hsplit, hhost, -⟩
    exact hhost (congrArg Prod.fst hsplit).symm

/-- **A configuration without findings that the provider is not configured with**: its address is
nothing but a scheme and slashes. -/
theorem validated_not_configured :
    (plugin (.silent Unit)).validateProviderConfig (webConfig "http://") ⟨none, ()⟩ =
        (.ok [], ⟨none, ()⟩) ∧
      (plugin (.silent Unit)).configure (webConfig "http://") ⟨none, ()⟩ =
        (.error (.configuration "invalid base_url: empty host"), ⟨none, ()⟩) := by
  constructor
  · rfl
  · rfl

end Provider

end LoggingProvider
