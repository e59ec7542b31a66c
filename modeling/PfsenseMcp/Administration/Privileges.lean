import Mathlib.Data.Finset.Sort
import Mathlib.Data.String.Basic
import PfsenseMcp.Administration.BootstrapClient

/-!
# The privileges of the service account

`security_privileges.py`, as far as provisioning uses it: what the tools need, what the OpenAPI
schema of the appliance says about it, and how the privileges of an account differ. The requirements
are listed here as `registered_read_tool_requirements` and `write_protected_tool_requirements` find
them in the sources; a tool without an endpoint requires nothing and is left out. `repr` is a
parameter.

## Main results

* `derived_eq_get_or_patch`: whatever the schema says, a privilege that is derived is one to read
  or to change, and not the one to make an API key;
* `clean_iff`, `missing_iff`: what the report about an account says.
-/

namespace Administration

open Python Tier1

/-! ### Requirements -/

/-- `ToolPrivilegeRequirement`, by the endpoint it is about. -/
structure ToolPrivilegeRequirement where
  url : String
  method : String
deriving DecidableEq, Repr

/-- The endpoints of the registered READ tools, in the order of the tools. -/
def readPathSuffixes : List String :=
  ["/services/acme/settings", "/diagnostics/arp_table", "/auth/keys",
   "/services/bind/access_lists", "/services/bind/settings", "/services/bind/sync/settings",
   "/services/bind/views", "/services/bind/zone/record", "/services/bind/zones", "/status/carp",
   "/services/cron/jobs", "/status/dhcp_server/leases", "/services/dhcp_relay",
   "/services/dhcp_server/address_pools", "/services/dhcp_server/apply",
   "/services/dhcp_server/custom_options", "/services/dhcp_servers",
   "/services/dhcp_server/static_mappings", "/diagnostics/config_history/revisions",
   "/diagnostics/tables", "/services/dns_forwarder/apply",
   "/services/dns_forwarder/host_overrides", "/services/dns_resolver/access_lists",
   "/services/dns_resolver/apply", "/services/dns_resolver/domain_overrides",
   "/services/dns_resolver/host_overrides", "/services/dns_resolver/settings",
   "/system/notifications/email_settings", "/firewall/advanced_settings", "/firewall/aliases",
   "/firewall/apply", "/firewall/nat/one_to_one/mappings", "/firewall/nat/outbound/mappings",
   "/firewall/nat/outbound/mode", "/firewall/nat/port_forwards", "/firewall/rules",
   "/firewall/schedules", "/firewall/states", "/firewall/states/size",
   "/firewall/traffic_shaper/limiters", "/firewall/traffic_shapers", "/firewall/virtual_ip/apply",
   "/firewall/virtual_ips", "/services/freeradius/eap", "/status/gateways", "/routing/gateways",
   "/services/haproxy/apply", "/services/haproxy/backend/acls",
   "/services/haproxy/backend/errorfiles", "/services/haproxy/backend/servers",
   "/services/haproxy/backends", "/services/haproxy/settings/dns_resolvers",
   "/services/haproxy/settings/email_mailers", "/services/haproxy/files",
   "/services/haproxy/frontend/acls", "/services/haproxy/frontend/addresses",
   "/services/haproxy/frontend/certificates", "/services/haproxy/frontend/error_files",
   "/services/haproxy/frontends", "/services/haproxy/settings", "/interface/apply",
   "/interface/available_interfaces", "/interface/bridges", "/interfaces", "/interface/gres",
   "/interface/groups", "/interface/laggs", "/interface/vlans", "/status/interfaces",
   "/vpn/ipsec/apply", "/services/ntp/settings", "/services/ntp/time_servers", "/routing/apply",
   "/routing/gateway/default", "/routing/gateway/groups", "/routing/static_routes",
   "/status/services", "/services/service_watchdogs", "/services/ssh", "/status/ipsec/child_sas",
   "/status/ipsec/sas", "/status/logs/settings", "/status/openvpn/clients",
   "/status/openvpn/server/connections", "/status/openvpn/server/routes",
   "/status/openvpn/servers", "/status/wireguard/peers", "/status/wireguard/tunnels",
   "/system/certificate_authorities", "/system/certificates", "/system/console", "/system/crls",
   "/system/dns", "/system/hasync", "/system/hostname", "/system/package/available",
   "/system/packages", "/system/restapi/access_list", "/system/restapi/settings",
   "/system/restapi/version", "/status/system", "/system/timezone", "/system/tunables",
   "/system/version", "/system/webgui/settings", "/user/auth_servers", "/user/groups", "/users",
   "/vpn/ipsec/phase1/encryptions", "/vpn/ipsec/phase1s", "/vpn/ipsec/phase2/encryptions",
   "/vpn/ipsec/phase2s", "/vpn/openvpn/clients", "/vpn/openvpn/csos", "/vpn/openvpn/servers",
   "/vpn/wireguard/peers", "/vpn/wireguard/settings", "/vpn/wireguard/tunnel/addresses",
   "/vpn/wireguard/tunnels", "/vpn/wireguard/apply"]

/-- The path and the method of `WriteEndpoints.active_entries()`. -/
def writeEndpoints : List (String × String) :=
  [("/firewall/alias", "PATCH"), ("/services/ntp/time_server", "PATCH"),
    ("/services/ntp/settings", "PATCH"), ("/status/logs/settings", "PATCH"),
    ("/status/logs/settings", "PATCH"), ("/system/timezone", "PATCH")]

/-- `registered_read_tool_requirements`. -/
def registeredReadToolRequirements : List ToolPrivilegeRequirement :=
  readPathSuffixes.map fun path => ⟨fullPath path, "GET"⟩

/-- `write_protected_tool_requirements`. -/
def writeProtectedToolRequirements : List ToolPrivilegeRequirement :=
  writeEndpoints.map fun entry => ⟨fullPath entry.1, entry.2⟩

/-- `TargetProfile`. -/
inductive TargetProfile where
  | readOnly
  | writeProtected
deriving DecidableEq, Repr

/-- `_expected_requirements`. -/
def expectedRequirements : TargetProfile → List ToolPrivilegeRequirement
  | .readOnly => registeredReadToolRequirements
  | .writeProtected => registeredReadToolRequirements ++ writeProtectedToolRequirements

/-! ### Privileges -/

/-- A character of a URL in the name of a privilege. -/
def slugChar (c : Char) : Char := if c = '/' ∨ c = '_' then '-' else c

/-- `compute_privilege_from_url`, of a URL and a method that pass its checks. -/
def computePrivilegeFromUrl (url method : String) : String :=
  let slug := url.toList.map slugChar
  let slug := if slug.head? = some '-' then slug.tail else slug
  String.ofList (slug ++ '-' :: method.toList.map Char.toLower)

/-- `_PAGE_ALL_PRIVILEGE`. -/
def pageAllPrivilege : String := "page-all"

/-- `_ALLOWED_PRIVILEGES_PATTERN` at the beginning of a text: its group. -/
def matchAllowedPrivileges (text : List Char) : Option (List Char) := do
  let rest ← text.dropPrefix? "Allowed privileges**:".toList
  match rest.dropWhile Bytes.isSpace with
  | '[' :: rest =>
    let rest := rest.dropWhile Bytes.isSpace
    if ']' ∈ rest then some (rest.takeWhile (· ≠ ']')) else none
  | _ => none

/-- `_ALLOWED_PRIVILEGES_PATTERN.search`. -/
def searchAllowedPrivileges : List Char → Option (List Char)
  | [] => matchAllowedPrivileges []
  | c :: cs => (matchAllowedPrivileges (c :: cs)).orElse fun _ => searchAllowedPrivileges cs

/-- `EvidenceClass`. -/
inductive EvidenceClass where
  | schemaDerived
  | sourceCrossChecked
  | accountObserved
deriving DecidableEq, Repr

/-- `ResolvedPrivilege`. -/
structure ResolvedPrivilege where
  url : String
  method : String
  privilege : Option String
  evidenceClass : Option EvidenceClass
  error : Option String

/-- `ResolvedPrivilege.ok`. -/
def ResolvedPrivilege.ok (r : ResolvedPrivilege) : Bool := r.privilege.isSome && r.error.isNone

/-- `DriftFindingKind`. -/
inductive DriftFindingKind where
  | privilegePresentAsExpected
  | privilegeMissing
  | unexpectedAdditionalPrivilege
  | schemaSourceDisagreement
  | unverifiedPackageVersion
  | malformedEvidence
deriving DecidableEq, Repr

/-- `DriftFinding`. -/
structure DriftFinding where
  kind : DriftFindingKind
  detail : String
  privilege : Option String

/-- `DriftReport`. -/
structure DriftReport where
  findings : List DriftFinding

namespace DriftReport

/-- The kinds of findings with which a report is not clean. -/
def uncleanKinds : List DriftFindingKind :=
  [.privilegeMissing, .unexpectedAdditionalPrivilege, .schemaSourceDisagreement, .malformedEvidence]

/-- `DriftReport.clean`. -/
def clean (report : DriftReport) : Bool := !report.findings.any fun f => f.kind ∈ uncleanKinds

end DriftReport

section

variable (repr : String → String)

/-- `lookup_schema_privileges`: the privileges, or what is wrong with the schema. -/
def lookupSchemaPrivileges (schema : List (String × Json)) (url method : String) :
    Except String (List String) :=
  let methodLower := String.ofList (method.toList.map Char.toLower)
  match getField schema "paths" with
  | some (.obj paths) =>
    match getField paths url with
    | some (.obj operationPath) =>
      match getField operationPath methodLower with
      | some (.obj methodObj) =>
        match getField methodObj "description" with
        | some (.str description) =>
          match searchAllowedPrivileges description.toList with
          | none => .error s!"no 'Allowed privileges' text found for {repr method} {repr url}"
          | some group =>
            let raw := Bytes.strip (String.ofList group)
            if raw = "" then
              .error s!"'Allowed privileges' list is empty for {repr method} {repr url}"
            else
              let items := (raw.toList.splitOn ',').map fun item => Bytes.strip (String.ofList item)
              if "" ∈ items then
                .error s!"malformed privilege list (empty entry) for {repr method} {repr url}"
              else .ok items.eraseDups
        | _ => .error s!"no 'description' field for {repr method} {repr url}"
      | _ => .error s!"method {repr method} not present for endpoint {repr url}"
    | _ => .error s!"endpoint not present in schema: {repr url}"
  | _ => .error "schema has no 'paths' object"

/-- `repr` of a list of texts. -/
def reprList (l : List String) : String := "[" ++ ", ".intercalate (l.map repr) ++ "]"

/-- `resolve_privilege`, with a schema. -/
def resolvePrivilege (schema : List (String × Json)) (url method : String) : ResolvedPrivilege :=
  let sourcePrivilege := computePrivilegeFromUrl url method
  match lookupSchemaPrivileges repr schema url method with
  | .error error => ⟨url, method, none, none, some error⟩
  | .ok privileges =>
    match privileges.filter (· ≠ pageAllPrivilege) with
    | [] =>
      ⟨url, method, none, none, some <|
        s!"endpoint requires {repr pageAllPrivilege} only, no narrow privilege exists: " ++
          s!"{repr method} {repr url}"⟩
    | [schemaPrivilege] =>
      if schemaPrivilege ≠ sourcePrivilege then
        ⟨url, method, none, none, some <|
          s!"schema/source disagreement for {repr method} {repr url}: " ++
            s!"schema={repr schemaPrivilege} source={repr sourcePrivilege}"⟩
      else ⟨url, method, some schemaPrivilege, some .sourceCrossChecked, none⟩
    | narrow =>
      ⟨url, method, none, none, some <|
        s!"ambiguous: more than one non-page-all privilege offered for {repr method} {repr url}: " ++
          reprList repr (narrow.insertionSort (· ≤ ·))⟩

/-- `resolve_profile_privileges`. -/
def resolveProfilePrivileges (schema : List (String × Json))
    (requirements : List ToolPrivilegeRequirement) : List ResolvedPrivilege :=
  requirements.map fun r => resolvePrivilege repr schema r.url r.method

/-- `distinct_ok_privileges`. -/
def distinctOkPrivileges (resolved : List ResolvedPrivilege) : Finset String :=
  (resolved.filterMap fun r => if r.ok then r.privilege else none).toFinset

/-- `_derive_expected_privileges`. -/
def deriveExpectedPrivileges (schema : Option (List (String × Json)))
    (targetProfile : TargetProfile) : Except String (Finset String) :=
  match schema with
  | none =>
    .error "no live OpenAPI schema supplied; provisioning requires source-cross-checked evidence"
  | some schema =>
    let resolved := resolveProfilePrivileges repr schema (expectedRequirements targetProfile)
    if resolved = [] then .error "privilege derivation produced zero resolvable requirements"
    else
      let problems := resolved.filter fun r =>
        !r.ok || r.evidenceClass ≠ some .sourceCrossChecked
      if problems ≠ [] then
        let details := "; ".intercalate <| problems.map fun r =>
          s!"{r.method} {r.url}: " ++ r.error.getD "missing source-cross-checked evidence"
        .error <| "privilege derivation lacks source-cross-checked confidence for every " ++
          s!"requirement: {details}"
      else
        let expected := distinctOkPrivileges resolved
        if expected = ∅ then .error "privilege derivation resolved to an empty privilege set"
        else .ok expected

/-! ### Drift -/

/-- `compute_account_drift`. -/
def computeAccountDrift (expected observed : Finset String)
    (resolutionErrors : List String := []) : DriftReport :=
  let missing := (expected \ observed).sort
  let unexpected := (observed \ expected).sort
  let matched :=
    if missing = [] ∧ unexpected = [] ∧ resolutionErrors = [] then (expected ∩ observed).sort else []
  { findings :=
      (missing.map fun p =>
        ⟨.privilegeMissing, s!"expected privilege not present on account: {repr p}", some p⟩) ++
      (unexpected.map fun p =>
        ⟨.unexpectedAdditionalPrivilege,
          s!"account holds a privilege not in the expected set: {repr p}", some p⟩) ++
      (resolutionErrors.map fun error => ⟨.malformedEvidence, error, none⟩) ++
      (matched.map fun p =>
        ⟨.privilegePresentAsExpected, s!"privilege matches expectation: {repr p}", some p⟩) }

end

/-! ### Versions of the package -/

/-- The version of `pfSense-pkg-RESTAPI`, a tuple of three integers. -/
structure PackageVersion where
  major : ℤ
  minor : ℤ
  patch : ℤ
deriving DecidableEq, Repr

namespace PackageVersion

/-- The order of tuples. -/
protected def le (v w : PackageVersion) : Bool :=
  v.major < w.major || v.major == w.major &&
    (v.minor < w.minor || v.minor == w.minor && v.patch ≤ w.patch)

/-- `'.'.join(map(str, version))`. -/
def text (v : PackageVersion) : String := s!"{v.major}.{v.minor}.{v.patch}"

end PackageVersion

/-- `VERIFIED_PACKAGE_VERSION_MIN`. -/
def verifiedPackageVersionMin : PackageVersion := ⟨2, 7, 7⟩

/-- `VERIFIED_PACKAGE_VERSION_MAX`. -/
def verifiedPackageVersionMax : PackageVersion := ⟨2, 10, 2⟩

/-- `check_package_version_support`. -/
def checkPackageVersionSupport (version : PackageVersion) : Option DriftFinding :=
  if verifiedPackageVersionMin.le version && version.le verifiedPackageVersionMax then none
  else some
    ⟨.unverifiedPackageVersion,
      s!"pfSense-pkg-RESTAPI version {version.text} is outside the verified range " ++
        s!"{verifiedPackageVersionMin.text}-{verifiedPackageVersionMax.text} " ++
        "-- re-confirm the derivation algorithm still matches before relying on it.", none⟩

/-! ### What a report says -/

section

variable (repr : String → String)

/-- The findings about missing privileges name those that are expected and not there. -/
theorem missing_iff {expected observed : Finset String} {p : String} :
    (∃ f ∈ (computeAccountDrift repr expected observed).findings,
      f.kind = .privilegeMissing ∧ f.privilege = some p) ↔ p ∈ expected \ observed := by
  simp only [computeAccountDrift, List.mem_append, List.mem_map, Finset.mem_sort]
  constructor
  · rintro ⟨f, ((⟨q, hq, rfl⟩ | ⟨q, -, rfl⟩) | ⟨e, -, rfl⟩) | ⟨q, -, rfl⟩, hkind, hp⟩
    · cases hp
      exact hq
    all_goals cases hkind
  · intro hp
    exact ⟨_, .inl (.inl (.inl ⟨p, hp, rfl⟩)), rfl, rfl⟩

/-- Those about unexpected ones name those that are there and not expected. -/
theorem unexpected_iff {expected observed : Finset String} {p : String} :
    (∃ f ∈ (computeAccountDrift repr expected observed).findings,
      f.kind = .unexpectedAdditionalPrivilege ∧ f.privilege = some p) ↔
      p ∈ observed \ expected := by
  simp only [computeAccountDrift, List.mem_append, List.mem_map, Finset.mem_sort]
  constructor
  · rintro ⟨f, ((⟨q, -, rfl⟩ | ⟨q, hq, rfl⟩) | ⟨e, -, rfl⟩) | ⟨q, -, rfl⟩, hkind, hp⟩
    · cases hkind
    · cases hp
      exact hq
    all_goals cases hkind
  · intro hp
    exact ⟨_, .inl (.inl (.inr ⟨p, hp, rfl⟩)), rfl, rfl⟩

/-- A report about an account is clean if the account has what is expected. -/
theorem clean_iff {expected observed : Finset String} :
    (computeAccountDrift repr expected observed).clean = true ↔ observed = expected := by
  constructor
  · intro h
    have hkind : ∀ f ∈ (computeAccountDrift repr expected observed).findings,
        f.kind ∉ DriftReport.uncleanKinds := by
      simpa [DriftReport.clean] using h
    apply Finset.Subset.antisymm
    · intro p hp
      by_contra hmem
      obtain ⟨f, hf, hunexpected, -⟩ :=
        (unexpected_iff repr).mpr (Finset.mem_sdiff.mpr ⟨hp, hmem⟩)
      apply hkind f hf
      rw [hunexpected]
      decide
    · intro p hp
      by_contra hmem
      obtain ⟨f, hf, hmissing, -⟩ := (missing_iff repr).mpr (Finset.mem_sdiff.mpr ⟨hp, hmem⟩)
      apply hkind f hf
      rw [hmissing]
      decide
  · rintro rfl
    simp [DriftReport.clean, computeAccountDrift, DriftReport.uncleanKinds]

end

/-! ### What is derived -/

section

variable (repr : String → String)

/-- A privilege that is resolved with a schema is the one that the URL and the method make. -/
theorem privilege_resolvePrivilege {schema : List (String × Json)} {url method privilege : String}
    (h : (resolvePrivilege repr schema url method).privilege = some privilege) :
    privilege = computePrivilegeFromUrl url method := by
  unfold resolvePrivilege at h
  split at h
  · cases h
  · dsimp only at h
    split at h
    · cases h
    · split_ifs at h with hne
      · cases h
        exact (not_not.mp hne)
    · cases h

theorem mem_distinctOkPrivileges {resolved : List ResolvedPrivilege} {privilege : String}
    (h : privilege ∈ distinctOkPrivileges resolved) :
    ∃ r ∈ resolved, r.privilege = some privilege := by
  rw [distinctOkPrivileges, List.mem_toFinset, List.mem_filterMap] at h
  obtain ⟨r, hr, heq⟩ := h
  split at heq
  · exact ⟨r, hr, heq⟩
  · cases heq

/-- A derived privilege is the one of a required endpoint. -/
theorem mem_of_deriveExpectedPrivileges {schema : Option (List (String × Json))}
    {targetProfile : TargetProfile} {expected : Finset String}
    (h : deriveExpectedPrivileges repr schema targetProfile = .ok expected) {privilege : String}
    (hp : privilege ∈ expected) :
    ∃ r ∈ expectedRequirements targetProfile,
      privilege = computePrivilegeFromUrl r.url r.method := by
  unfold deriveExpectedPrivileges at h
  split at h
  · cases h
  · dsimp only at h
    split_ifs at h
    cases h
    obtain ⟨resolved, hresolved, hprivilege⟩ := mem_distinctOkPrivileges hp
    obtain ⟨r, hr, rfl⟩ := List.mem_map.mp hresolved
    exact ⟨r, hr, privilege_resolvePrivilege repr hprivilege⟩

/-- Every requirement is one to read or to change. -/
theorem method_expectedRequirements {targetProfile : TargetProfile} {r : ToolPrivilegeRequirement}
    (hr : r ∈ expectedRequirements targetProfile) : r.method = "GET" ∨ r.method = "PATCH" := by
  have hread : ∀ r ∈ registeredReadToolRequirements, r.method = "GET" := by
    intro r hr
    obtain ⟨path, -, rfl⟩ := List.mem_map.mp hr
    rfl
  have hwrite : ∀ r ∈ writeProtectedToolRequirements, r.method = "PATCH" := by
    intro r hr
    obtain ⟨entry, hentry, rfl⟩ := List.mem_map.mp hr
    exact (show ∀ entry ∈ writeEndpoints, entry.2 = "PATCH" by decide) entry hentry
  cases targetProfile with
  | readOnly => exact .inl (hread r hr)
  | writeProtected => exact (List.mem_append.mp hr).imp (hread r) (hwrite r)

/-- The end of the name of a privilege is the method. -/
theorem reverse_computePrivilegeFromUrl (url method : String) :
    (method.toList.map Char.toLower).reverse <+:
      (computePrivilegeFromUrl url method).toList.reverse := by
  rw [computePrivilegeFromUrl, String.toList_ofList, List.reverse_append, List.reverse_cons,
    List.append_assoc]
  exact List.prefix_append _ _

/-- The privilege of a requirement is one to read or to change: its name ends so. -/
theorem prefix_computePrivilegeFromUrl {targetProfile : TargetProfile} {r : ToolPrivilegeRequirement}
    (hr : r ∈ expectedRequirements targetProfile) :
    "teg".toList <+: (computePrivilegeFromUrl r.url r.method).toList.reverse ∨
      "hctap".toList <+: (computePrivilegeFromUrl r.url r.method).toList.reverse := by
  have hprefix := reverse_computePrivilegeFromUrl r.url r.method
  rcases method_expectedRequirements hr with hmethod | hmethod
  · rw [hmethod] at hprefix ⊢
    exact .inl hprefix
  · rw [hmethod] at hprefix ⊢
    exact .inr hprefix

/-- Whatever the schema says, so is a derived privilege. -/
theorem derived_eq_get_or_patch {schema : Option (List (String × Json))}
    {targetProfile : TargetProfile} {expected : Finset String}
    (h : deriveExpectedPrivileges repr schema targetProfile = .ok expected) {privilege : String}
    (hp : privilege ∈ expected) :
    "teg".toList <+: privilege.toList.reverse ∨ "hctap".toList <+: privilege.toList.reverse := by
  obtain ⟨r, hr, rfl⟩ := mem_of_deriveExpectedPrivileges repr h hp
  exact prefix_computePrivilegeFromUrl hr

/-- A name that ends otherwise is another one. -/
theorem ne_of_ending {privilege other : String}
    (h : "teg".toList <+: privilege.toList.reverse ∨ "hctap".toList <+: privilege.toList.reverse)
    (hget : ¬"teg".toList <+: other.toList.reverse)
    (hpatch : ¬"hctap".toList <+: other.toList.reverse) : privilege ≠ other := by
  rintro rfl
  exact h.elim hget hpatch

end

end Administration

