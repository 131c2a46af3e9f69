-- Variants of reads that a probe left open: the candidates of a report, and the candidate that
-- an observation of a manifest stands for.
import TplinkDeco.Models.CompatibilityManifest

open json

namespace tplink_deco_api.fuzzy

open endpoint_catalog exceptions models text

/-! ## The catalogue -/

/-- Where the contract of an operation comes from. -/
inductive ContractSource where
  | none
  | documented
  | firmware_asset
  | observed
deriving DecidableEq, Repr

/-- An operation with all that the catalogue says of it. -/
structure DocumentedSpec extends EndpointSpec where
  documentation : String := "docs/endpoints/README.md"
  media_type : String := "application/json"
  optional_params : List String := []
  contract_source : ContractSource := .none
  form_selector : Bool := true

/-- `_BY_NAME[name]`, where the last operation of a name counts. -/
def get_endpoint (catalog : List DocumentedSpec) (name : String) : Except PyError DocumentedSpec :=
  match catalog.reverse.find? fun e => e.name = name with
  | some e => .ok e
  | none => .error (unknown_operation name)

/-- A probe, with all that the catalogue says of its operation. -/
structure DocumentedProbe where
  result : EndpointProbeResult
  endpoint : DocumentedSpec
  same : endpoint.toEndpointSpec = result.endpoint

/-- A variant of a catalogued read. -/
structure FuzzyReadCandidate where
  endpoint : DocumentedSpec
  source_name : String
  variant : String
  params : Option JsonObject

namespace FuzzyReadCandidate

/-- What an observation sees of a candidate. -/
def seen (candidate : FuzzyReadCandidate) : models.FuzzyReadCandidate where
  endpoint := candidate.endpoint.toEndpointSpec
  source_name := candidate.source_name
  variant := candidate.variant
  params := candidate.params

/-- The names and the types of its parameters. -/
def parameter_schema (candidate : FuzzyReadCandidate) : List String :=
  candidate.seen.parameter_schema

/-- `(path, form, operation, variant)`. -/
def identity (candidate : FuzzyReadCandidate) : Operation × String :=
  (candidate.endpoint.toOperation, candidate.variant)

end FuzzyReadCandidate

/-! ## The candidates -/

/-- `_READ_ALIASES`. -/
def READ_ALIASES : List String := ["read", "get", "getlist", "list"]

/-- `_DEVICE_SCOPED_FORMS`. -/
def DEVICE_SCOPED_FORMS : List (String × String) := [
  ("admin/network", "lan_block"),
  ("admin/network", "mac_clone_list"),
  ("admin/network", "dsl_status"),
  ("admin/wireless", "bridge"),
  ("admin/wireless", "power"),
  ("admin/device", "system"),
  ("admin/device", "gateway"),
  ("admin/device", "mini_device_list"),
  ("admin/device", "envar"),
  ("admin/device", "get_server"),
  ("admin/device", "led"),
  ("admin/device", "sysmode"),
  ("admin/device", "signal_level_list"),
  ("admin/device", "detect_mode"),
  ("admin/device", "fixed_wan_port"),
  ("admin/device", "systime"),
  ("admin/device", "eco_mode")]

/-- `_is_ambiguous_read`: the probe does not tell whether the read works. -/
def is_ambiguous_read (probe : EndpointProbeResult) : Bool :=
  probe.status ∈ [.rejected, .transport_error, .invalid_response] ||
    (probe.status = .supported && match probe.response with
      | some { result := .null, .. } => true
      | _ => false)

/-- `_is_safe_source`: only such a read has variants. -/
def is_safe_source (endpoint : EndpointSpec) : Bool :=
  endpoint.safety = .read_only && endpoint.sensitivity ≠ .secret && endpoint.generic_call_supported

/-- `params == {"device_mac": "default"}`. -/
def is_default_device : Option JsonObject → Bool
  | some [("device_mac", .str "default")] => true
  | _ => false

/-- An operation on one node. -/
def device_scoped (endpoint : EndpointSpec) : Bool :=
  (endpoint.path, endpoint.form) ∈ DEVICE_SCOPED_FORMS

/-- What the variants of other operations are named with. -/
def ALIAS : String := "operation_alias:"

/-- The read under another operation. -/
def alias_candidate (source : DocumentedSpec) (operation : String) : FuzzyReadCandidate where
  endpoint := { source with
    operation, required_params := [], optional_params := [], contract_source := .none }
  source_name := source.name
  variant := ALIAS ++ operation
  params := source.default_params

/-- The read with other parameters. -/
def parameter_candidate (source : DocumentedSpec) (variant : String)
    (params : Option JsonObject) : FuzzyReadCandidate where
  endpoint := { source with default_params := none }
  source_name := source.name
  variant := variant
  params := params

section

variable (catalog : List DocumentedSpec)

/-- The operations of the catalogue. -/
def catalog_keys : List Operation := catalog.map fun item => item.toOperation

/-- Those that are no reads. -/
def unsafe_keys : List Operation :=
  (catalog.filter fun item => item.safety ≠ .read_only).map fun item => item.toOperation

/-- The aliases of a source that the catalogue does not have. -/
def free_aliases (source : DocumentedSpec) : List String :=
  READ_ALIASES.filter fun operation =>
    let key : Operation := { source.toOperation with operation }
    ¬ (operation = source.operation ∨ key ∈ catalog_keys catalog ∨ key ∈ unsafe_keys catalog)

/-- The turn of the loop for one source. -/
def proposals (source : DocumentedSpec) : List FuzzyReadCandidate :=
  (free_aliases catalog source).map (alias_candidate source) ++
  (if source.default_params.isSome then [parameter_candidate source "params:omitted" none]
    else []) ++
  [parameter_candidate source "params:empty" (some [])] ++
  (if device_scoped source.toEndpointSpec ∧ ¬ is_default_device source.default_params then
    [parameter_candidate source "params:device_mac_default" (some default_device)] else [])

/-- The candidates so far. The set `seen` of the loop has the identity of each. -/
structure Collected where
  candidates : List FuzzyReadCandidate
  seen : List (Operation × String)
  seen_eq : seen = candidates.map FuzzyReadCandidate.identity
  distinct : seen.Nodup

/-- `_append_candidate`. -/
def append_candidate (collected : Collected) (candidate : FuzzyReadCandidate) : Collected :=
  if h : candidate.identity ∈ collected.seen then collected
  else {
    candidates := collected.candidates ++ [candidate]
    seen := collected.seen ++ [candidate.identity]
    seen_eq := by rw [collected.seen_eq, List.map_append, List.map_singleton]
    distinct := List.nodup_append.mpr ⟨collected.distinct, List.nodup_singleton _,
      fun a ha b hb hab => h (List.mem_singleton.mp hb ▸ hab ▸ ha)⟩ }

/-- The candidates of one probe. -/
def append_candidates (collected : Collected) (probe : DocumentedProbe) : Collected :=
  if is_ambiguous_read probe.result ∧ is_safe_source probe.endpoint.toEndpointSpec then
    (proposals catalog probe.endpoint).foldl append_candidate collected
  else collected

/-- `build_fuzzy_read_candidates`. -/
def build_fuzzy_read_candidates (probes : List DocumentedProbe) : List FuzzyReadCandidate :=
  (probes.foldl (append_candidates catalog)
    { candidates := [], seen := [], seen_eq := rfl, distinct := List.nodup_nil }).candidates

/-! ## The candidate of an observation -/

/-- The error of an observation that names no variant. -/
def restore_error (message : String) : PyError :=
  value_error s!"Failed to restore fuzzy read: {message}"

/-- The request of a variant: its operation and its parameters. -/
def restored_request (source : DocumentedSpec) (variant : String) :
    Except PyError (DocumentedSpec × Option JsonObject) :=
  if starts_with variant ALIAS then
    let operation := removeprefix variant ALIAS
    if operation ∉ READ_ALIASES then .error (restore_error "unsupported operation alias")
    else .ok ({ source with
      operation, required_params := [], optional_params := [], contract_source := .none },
      source.default_params)
  else if variant = "params:omitted" then .ok ({ source with default_params := none }, none)
  else if variant = "params:empty" then .ok ({ source with default_params := none }, some [])
  else if variant = "params:device_mac_default" then
    if ¬ device_scoped source.toEndpointSpec then
      .error (restore_error "form is not device-scoped")
    else .ok ({ source with default_params := none }, some default_device)
  else .error (restore_error "unknown variant")

/-- `restore_fuzzy_read_candidate`. -/
def restore_fuzzy_read_candidate (observation : FuzzyReadObservation) :
    Except PyError FuzzyReadCandidate := do
  let source ← get_endpoint catalog observation.source_name
  if ¬ is_safe_source source.toEndpointSpec then
    .error (restore_error "source is not a safe discoverable read")
  else
    let (endpoint, params) ← restored_request source observation.variant
    let candidate : FuzzyReadCandidate := {
      endpoint, source_name := source.name, variant := observation.variant, params }
    if candidate.endpoint.name ≠ observation.name then
      .error (restore_error "endpoint provenance does not match")
    else if candidate.parameter_schema ≠ observation.parameter_schema then
      .error (restore_error "parameter provenance does not match")
    else .ok candidate

end

/-! ## What a variant asks -/

/-- The candidates of one source, for any catalogue. -/
inductive Proposed (source : DocumentedSpec) : FuzzyReadCandidate → Prop where
  | operation_alias (operation : String) (h : operation ∈ READ_ALIASES) :
    Proposed source (alias_candidate source operation)
  | omitted : Proposed source (parameter_candidate source "params:omitted" none)
  | empty : Proposed source (parameter_candidate source "params:empty" (some []))
  | device (h : device_scoped source.toEndpointSpec = true) :
    Proposed source (parameter_candidate source "params:device_mac_default" (some default_device))

theorem Proposed.source_name_eq {source : DocumentedSpec} {candidate : FuzzyReadCandidate}
    (h : Proposed source candidate) : candidate.source_name = source.name := by
  cases h <;> rfl

theorem restored_request_eq_ok {source endpoint : DocumentedSpec} {variant : String}
    {params : Option JsonObject} :
    restored_request source variant = .ok (endpoint, params) ↔
      Proposed source { endpoint, source_name := source.name, variant, params } := by
  constructor
  · intro h
    unfold restored_request at h
    split at h
    case isTrue hstart =>
      dsimp only at h
      split at h
      · cases h
      · rename_i hread
        have hvariant := append_removeprefix hstart
        cases h
        have hproposed : Proposed source (alias_candidate source <| removeprefix variant ALIAS) :=
          .operation_alias _ (not_not.mp hread)
        unfold alias_candidate at hproposed
        rwa [hvariant] at hproposed
    case isFalse =>
      split at h
      · subst variant
        cases h
        exact .omitted
      · split at h
        · subst variant
          cases h
          exact .empty
        · split at h
          · split at h
            · cases h
            · rename_i hscoped
              subst variant
              cases h
              exact .device (not_not.mp hscoped)
          · cases h
  · intro h
    cases h with
    | operation_alias operation hread =>
      unfold restored_request
      rw [if_pos (starts_with_append ALIAS operation), removeprefix_append]
      exact if_neg (not_not.mpr hread)
    | omitted => rfl
    | empty => rfl
    | device hscoped =>
      show (if ¬ device_scoped source.toEndpointSpec = true then _ else _) = _
      rw [if_neg (not_not.mpr hscoped)]

section

variable {catalog : List DocumentedSpec}

/-- What the checks of the restorer let through. -/
theorem restore_eq_ok {observation : FuzzyReadObservation} {candidate : FuzzyReadCandidate} :
    restore_fuzzy_read_candidate catalog observation = .ok candidate ↔
      ∃ source, get_endpoint catalog observation.source_name = .ok source ∧
        is_safe_source source.toEndpointSpec = true ∧ Proposed source candidate ∧
        candidate.variant = observation.variant ∧ candidate.endpoint.name = observation.name ∧
        candidate.parameter_schema = observation.parameter_schema := by
  unfold restore_fuzzy_read_candidate
  rw [bind_eq_ok]
  refine exists_congr fun source => and_congr_right fun _ => ?_
  by_cases hsafe : is_safe_source source.toEndpointSpec = true
  case neg =>
    rw [if_pos hsafe]
    exact iff_of_false nofun fun h => hsafe h.1
  rw [if_neg (not_not.mpr hsafe), bind_eq_ok]
  constructor
  · rintro ⟨⟨endpoint, params⟩, hrequest, h⟩
    dsimp only at h
    split at h
    · cases h
    · rename_i hname
      split at h
      · cases h
      · rename_i hschema
        cases h
        exact ⟨hsafe, restored_request_eq_ok.mp hrequest, rfl, not_not.mp hname,
          not_not.mp hschema⟩
  · rintro ⟨-, hproposed, hvariant, hname, hschema⟩
    obtain ⟨endpoint, source_name, variant, params⟩ := candidate
    obtain rfl : source_name = source.name := hproposed.source_name_eq
    obtain rfl : variant = observation.variant := hvariant
    refine ⟨(endpoint, params), restored_request_eq_ok.mpr hproposed, ?_⟩
    dsimp only
    rw [if_neg (not_not.mpr hname), if_neg (not_not.mpr hschema)]

/-! ## What the loop collects -/

theorem mem_proposals {source : DocumentedSpec} {candidate : FuzzyReadCandidate}
    (h : candidate ∈ proposals catalog source) : Proposed source candidate := by
  simp only [proposals, List.mem_append, List.mem_map, List.mem_ite_nil_right,
    List.mem_singleton] at h
  rcases h with ((⟨operation, hfree, rfl⟩ | ⟨-, rfl⟩) | rfl) | ⟨⟨hscoped, -⟩, rfl⟩
  · exact .operation_alias operation (List.mem_filter.mp hfree).1
  · exact .omitted
  · exact .empty
  · exact .device hscoped

/-- A variant of the parameters is no alias. -/
theorem not_alias : ∀ variant ∈ ["params:omitted", "params:empty", "params:device_mac_default"],
    ¬ starts_with variant ALIAS = true := by decide

/-- The catalogue has no operation that an alias asks. -/
theorem alias_not_catalogued {source : DocumentedSpec} {candidate : FuzzyReadCandidate}
    (h : candidate ∈ proposals catalog source) (halias : starts_with candidate.variant ALIAS) :
    candidate.endpoint.toOperation ∉ catalog_keys catalog := by
  simp only [proposals, List.mem_append, List.mem_map, List.mem_ite_nil_right,
    List.mem_singleton] at h
  rcases h with ((⟨operation, hfree, rfl⟩ | ⟨-, rfl⟩) | rfl) | ⟨-, rfl⟩
  · have hnew := of_decide_eq_true (List.mem_filter.mp hfree).2
    exact fun hmem => hnew (.inr (.inl hmem))
  · exact absurd halias (not_alias _ (by simp [parameter_candidate]))
  · exact absurd halias (not_alias _ (by simp [parameter_candidate]))
  · exact absurd halias (not_alias _ (by simp [parameter_candidate]))

theorem mem_append_candidate {collected : Collected} {candidate other : FuzzyReadCandidate}
    (h : other ∈ (append_candidate collected candidate).candidates) :
    other ∈ collected.candidates ∨ other = candidate := by
  unfold append_candidate at h
  split at h
  · exact .inl h
  · simpa using h

theorem mem_foldl_append {proposed : List FuzzyReadCandidate} {collected : Collected}
    {candidate : FuzzyReadCandidate}
    (h : candidate ∈ (proposed.foldl append_candidate collected).candidates) :
    candidate ∈ collected.candidates ∨ candidate ∈ proposed := by
  induction proposed generalizing collected with
  | nil => exact .inl h
  | cons first proposed ih =>
    rw [List.mem_cons]
    rcases ih h with hcollected | hproposed
    · exact (mem_append_candidate hcollected).imp_right .inl
    · exact .inr (.inr hproposed)

theorem mem_append_candidates {collected : Collected} {probe : DocumentedProbe}
    {candidate : FuzzyReadCandidate}
    (h : candidate ∈ (append_candidates catalog collected probe).candidates) :
    candidate ∈ collected.candidates ∨
      is_safe_source probe.endpoint.toEndpointSpec = true ∧
        candidate ∈ proposals catalog probe.endpoint := by
  unfold append_candidates at h
  split at h
  · rename_i hprobe
    exact (mem_foldl_append h).imp_right fun hmem => ⟨hprobe.2, hmem⟩
  · exact .inl h

/-- A candidate of a report is a proposal for a safe source that the report probed. -/
theorem mem_build {probes : List DocumentedProbe} {candidate : FuzzyReadCandidate}
    (h : candidate ∈ build_fuzzy_read_candidates catalog probes) :
    ∃ probe ∈ probes, is_safe_source probe.endpoint.toEndpointSpec = true ∧
      candidate ∈ proposals catalog probe.endpoint := by
  have hfold : ∀ {collected : Collected},
      candidate ∈ (probes.foldl (append_candidates catalog) collected).candidates →
        candidate ∈ collected.candidates ∨
          ∃ probe ∈ probes, is_safe_source probe.endpoint.toEndpointSpec = true ∧
            candidate ∈ proposals catalog probe.endpoint := by
    clear h
    induction probes with
    | nil => exact .inl
    | cons probe probes ih =>
      intro collected h
      rcases ih h with hcollected | ⟨other, hother, hproposed⟩
      · rcases mem_append_candidates hcollected with hbefore | hproposed
        · exact .inl hbefore
        · exact .inr ⟨probe, List.mem_cons_self, hproposed⟩
      · exact .inr ⟨other, List.mem_cons_of_mem _ hother, hproposed⟩
  exact (hfold h).resolve_left List.not_mem_nil

theorem identities_nodup (probes : List DocumentedProbe) :
    ((build_fuzzy_read_candidates catalog probes).map FuzzyReadCandidate.identity).Nodup := by
  unfold build_fuzzy_read_candidates
  rw [← Collected.seen_eq]
  exact Collected.distinct _

/-! ## What an observation keeps of its candidate -/

theorem get_endpoint_of_unique {e : DocumentedSpec} (he : e ∈ catalog)
    (hunique : ∀ other ∈ catalog, other.name = e.name → other = e) :
    get_endpoint catalog e.name = .ok e := by
  unfold get_endpoint
  cases hfound : catalog.reverse.find? fun other => other.name = e.name with
  | none =>
    have hnone := List.find?_eq_none.mp hfound e (List.mem_reverse.mpr he)
    exact absurd (decide_eq_true rfl) hnone
  | some other =>
    have hname := List.find?_some hfound
    rw [decide_eq_true_eq] at hname
    have hmem := List.mem_reverse.mp (List.mem_of_find?_eq_some hfound)
    rw [hunique other hmem hname]

theorem mem_of_get_endpoint {name : String} {e : DocumentedSpec}
    (h : get_endpoint catalog name = .ok e) : e ∈ catalog := by
  unfold get_endpoint at h
  split at h
  · rename_i hfound
    cases h
    exact List.mem_reverse.mp (List.mem_of_find?_eq_some hfound)
  · cases h

variable (builtins : Builtins)

/-- The fields that the restorer reads. -/
theorem from_attempts_keeps (candidate : models.FuzzyReadCandidate)
    {attempts : List EndpointProbeResult} (hsome : attempts ≠ []) {session_recovered : List Bool}
    (haligned : session_recovered = [] ∨ session_recovered.length = attempts.length) :
    ∃ observation,
      FuzzyReadObservation.from_attempts builtins candidate attempts session_recovered =
        .ok observation ∧
      observation.name = candidate.endpoint.name ∧
      observation.source_name = candidate.source_name ∧
      observation.variant = candidate.variant ∧
      observation.parameter_schema = candidate.parameter_schema := by
  have hchecked : ¬ (session_recovered ≠ [] ∧ session_recovered.length ≠ attempts.length) := by
    tauto
  unfold FuzzyReadObservation.from_attempts
  rw [List.getLast?_eq_some_getLast hsome]
  dsimp only
  rw [if_neg hchecked]
  exact ⟨_, rfl, rfl, rfl, rfl, rfl⟩

/-- An observation of a candidate is restored as the candidate, also after it was stored. The
candidates of a report differ, and an alias asks no operation of the catalogue. -/
theorem restore_inverts_recording (catalog : List DocumentedSpec)
    (hnames : (catalog.map fun e => e.name).Nodup) (probes : List DocumentedProbe)
    (hover : ∀ probe ∈ probes, probe.endpoint ∈ catalog) :
    (∀ candidate ∈ build_fuzzy_read_candidates catalog probes,
      ∀ attempts : List EndpointProbeResult, attempts ≠ [] → ∀ session_recovered : List Bool,
      session_recovered = [] ∨ session_recovered.length = attempts.length →
      ∃ observation,
        FuzzyReadObservation.from_attempts builtins candidate.seen attempts session_recovered =
          .ok observation ∧
        restore_fuzzy_read_candidate catalog observation = .ok candidate ∧
        ∃ stored, FuzzyReadObservation.from_api builtins observation.to_dict = .ok stored ∧
          restore_fuzzy_read_candidate catalog stored = .ok candidate) ∧
    ((build_fuzzy_read_candidates catalog probes).map FuzzyReadCandidate.identity).Nodup ∧
    ∀ candidate ∈ build_fuzzy_read_candidates catalog probes,
      starts_with candidate.variant ALIAS →
        candidate.endpoint.toOperation ∉ catalog.map fun e => e.toOperation := by
  refine ⟨?_, identities_nodup probes, ?_⟩
  · intro candidate hcandidate attempts hsome session_recovered haligned
    obtain ⟨probe, hprobe, hsafe, hmem⟩ := mem_build hcandidate
    have hproposed := mem_proposals hmem
    obtain ⟨observation, hobserved, hname, hsource, hvariant, hschema⟩ :=
      from_attempts_keeps builtins candidate.seen hsome haligned
    have hrestored : restore_fuzzy_read_candidate catalog observation = .ok candidate := by
      refine restore_eq_ok.mpr ⟨probe.endpoint, ?_, hsafe, hproposed, hvariant.symm, hname.symm,
        hschema.symm⟩
      have hsource_name : observation.source_name = probe.endpoint.name :=
        hsource.trans hproposed.source_name_eq
      rw [hsource_name]
      exact get_endpoint_of_unique (hover probe hprobe) fun other hother hname =>
        List.inj_on_of_nodup_map hnames hother (hover probe hprobe) hname
    exact ⟨observation, hobserved, hrestored, observation,
      FuzzyReadObservation.from_api_to_dict builtins observation, hrestored⟩
  · intro candidate hcandidate halias
    obtain ⟨probe, -, -, hmem⟩ := mem_build hcandidate
    exact alias_not_catalogued hmem halias

end

def mesh_spec : DocumentedSpec := { toEndpointSpec := mesh_endpoint }

def refused_probe : DocumentedProbe where
  result := refused
  endpoint := mesh_spec
  same := rfl

theorem an_alias_is_restored :
    ∃ observation, FuzzyReadObservation.from_attempts plain_builtins
        (alias_candidate mesh_spec "get").seen [unreachable, refused] [] = .ok observation ∧
      restore_fuzzy_read_candidate [mesh_spec] observation =
        .ok (alias_candidate mesh_spec "get") := by
  have hbuilt : build_fuzzy_read_candidates [mesh_spec] [refused_probe] = [
      alias_candidate mesh_spec "get", alias_candidate mesh_spec "getlist",
      alias_candidate mesh_spec "list", parameter_candidate mesh_spec "params:empty" (some [])] :=
    rfl
  have hmem : alias_candidate mesh_spec "get" ∈
      build_fuzzy_read_candidates [mesh_spec] [refused_probe] := by
    rw [hbuilt]
    exact List.mem_cons_self
  have hover : ∀ probe ∈ [refused_probe], probe.endpoint ∈ [mesh_spec] := by
    intro probe hprobe
    rw [List.mem_singleton.mp hprobe]
    exact List.mem_cons_self
  obtain ⟨hrestored, -, -⟩ := restore_inverts_recording plain_builtins [mesh_spec]
    (List.nodup_singleton _) [refused_probe] hover
  obtain ⟨observation, hobserved, hback, -⟩ := hrestored _ hmem [unreachable, refused]
    (List.cons_ne_nil _ _) [] (.inl rfl)
  exact ⟨observation, hobserved, hback⟩

/-! ## Aliases that the catalogue has -/

/-- The aliases of the safe reads of one path that the path has as operations of its own. -/
def path_aliases (path : String) (rows : List (String × Traits × List String)) :
    List (Operation × String) :=
  (path_catalog path rows).flatMap fun e =>
    if is_safe_source e then
      let same_form := (path_catalog path rows).filter fun other => other.form = e.form
      (READ_ALIASES.filter fun operation =>
        operation ≠ e.operation ∧ operation ∈ same_form.map fun other => other.operation).map
          fun operation => (e.toOperation, operation)
    else []

/-- The aliases that are operations of the catalogue. -/
def CATALOGUED_ALIASES : List (Operation × String) := [
  (⟨"admin/network", "vlan", "get_vlan"⟩, "read"),
  (⟨"admin/wireless", "bridge", "get_bridge_status"⟩, "read"),
  (⟨"admin/client", "traffic_stat", "read"⟩, "list"),
  (⟨"admin/client", "traffic_stat", "list"⟩, "read"),
  (⟨"admin/client", "black_list", "getlist"⟩, "list"),
  (⟨"admin/client", "black_list", "list"⟩, "getlist"),
  (⟨"admin/smart_network", "patrol_owner", "list"⟩, "get"),
  (⟨"admin/smart_network", "patrol_owner", "get"⟩, "list"),
  (⟨"admin/smart_network", "patrol_insights", "history"⟩, "get"),
  (⟨"admin/cloud", "firmware_status", "check"⟩, "read"),
  (⟨"admin/cloud", "firmware_status", "check_upgrade"⟩, "read"),
  (⟨"admin/iot_device", "iotdevice", "getlist_by_mod"⟩, "getlist"),
  (⟨"admin/iot_device", "iotowner", "get"⟩, "getlist"),
  (⟨"admin/iot_device", "iotowner", "getlist"⟩, "get"),
  (⟨"admin/iot_automation", "iotoneclick", "get_history"⟩, "getlist"),
  (⟨"admin/usbshare", "device", "list_all"⟩, "list"),
  (⟨"admin/ga_info", "status", "read"⟩, "get"),
  (⟨"admin/ga_info", "status", "get"⟩, "read"),
  (⟨"admin/ga_info", "status", "get_internal"⟩, "read"),
  (⟨"admin/ga_info", "status", "get_internal"⟩, "get")]

theorem catalogued_aliases_eq :
    (SPECS.flatMap fun c => path_aliases c.1 c.2) = CATALOGUED_ALIASES := by decide +kernel

theorem mem_path_aliases {path : String} {rows : List (String × Traits × List String)}
    {o : Operation} {operation : String} :
    (o, operation) ∈ path_aliases path rows ↔
      ∃ e ∈ path_catalog path rows, e.toOperation = o ∧ is_safe_source e = true ∧
        operation ∈ READ_ALIASES ∧ operation ≠ o.operation ∧
        ∃ other ∈ path_catalog path rows, other.form = o.form ∧ other.operation = operation := by
  unfold path_aliases
  rw [List.mem_flatMap]
  refine exists_congr fun e => and_congr_right fun _ => ?_
  split
  case isFalse hsafe => simp [hsafe]
  case isTrue hsafe =>
    simp only [List.mem_map, List.mem_filter, decide_eq_true_eq, Prod.mk.injEq]
    constructor
    · rintro ⟨_, ⟨hread, hne, other, ⟨hother, hform⟩, rfl⟩, rfl, rfl⟩
      exact ⟨rfl, hsafe, hread, hne, other, hother, hform, rfl⟩
    · rintro ⟨rfl, -, hread, hne, other, hother, hform, rfl⟩
      exact ⟨other.operation, ⟨hread, hne, other, ⟨hother, hform⟩, rfl⟩, rfl, rfl⟩

/-- An alias of a safe read of the catalogue is an operation of the catalogue exactly if the two
are in the list. -/
theorem mem_catalogued_aliases {source : EndpointSpec} (hsource : source ∈ ENDPOINT_CATALOG)
    (hsafe : is_safe_source source = true) {operation : String} (hread : operation ∈ READ_ALIASES)
    (hne : operation ≠ source.operation) :
    (source.toOperation, operation) ∈ CATALOGUED_ALIASES ↔
      ⟨source.path, source.form, operation⟩ ∈ ENDPOINT_CATALOG.map fun e => e.toOperation := by
  rw [← catalogued_aliases_eq, List.mem_flatMap, List.mem_map]
  obtain ⟨c, hc, hmem⟩ := List.mem_flatMap.mp hsource
  constructor
  · rintro ⟨c', hc', halias⟩
    obtain ⟨e, he, hsame, -, -, -, other, hother, hform, hoperation⟩ := mem_path_aliases.mp halias
    refine ⟨other, List.mem_flatMap.mpr ⟨c', hc', hother⟩, ?_⟩
    have hpath : other.path = source.path := by
      rw [path_of_mem hother, ← path_of_mem he]
      exact congrArg Operation.path hsame
    rw [← hpath, ← hform, ← hoperation]
  · rintro ⟨other, hcatalog, hkey⟩
    obtain ⟨c', hc', hother⟩ := List.mem_flatMap.mp hcatalog
    obtain ⟨hpath, hform, hoperation⟩ := Operation.mk.inj hkey
    rw [path_of_mem hother, path_of_mem hmem] at hpath
    obtain rfl := specs_of_path hc' hc hpath
    exact ⟨c', hc', mem_path_aliases.mpr
      ⟨source, hmem, rfl, hsafe, hread, hne, other, hother, hform, hoperation⟩⟩

theorem Proposed.of_alias {source : DocumentedSpec} {candidate : FuzzyReadCandidate}
    (h : Proposed source candidate) (halias : starts_with candidate.variant ALIAS = true) :
    ∃ operation ∈ READ_ALIASES, candidate = alias_candidate source operation := by
  cases h with
  | operation_alias operation hread => exact ⟨operation, hread, rfl⟩
  | omitted => exact absurd halias (not_alias _ (by simp [parameter_candidate]))
  | empty => exact absurd halias (not_alias _ (by simp [parameter_candidate]))
  | device => exact absurd halias (not_alias _ (by simp [parameter_candidate]))

theorem catalog_keys_eq {catalog : List DocumentedSpec}
    (hcatalog : (catalog.map fun e => e.toEndpointSpec) = ENDPOINT_CATALOG) :
    catalog_keys catalog = ENDPOINT_CATALOG.map fun e => e.toOperation := by
  rw [← hcatalog, List.map_map]
  rfl

/-- An accepted alias asks something new exactly if it is another operation than that of its
source, and the two are not in the list. -/
theorem restored_alias_is_new_exactly {catalog : List DocumentedSpec}
    (hcatalog : (catalog.map fun e => e.toEndpointSpec) = ENDPOINT_CATALOG)
    {observation : FuzzyReadObservation} {source : DocumentedSpec}
    (hsource : get_endpoint catalog observation.source_name = .ok source)
    {candidate : FuzzyReadCandidate}
    (hrestored : restore_fuzzy_read_candidate catalog observation = .ok candidate)
    (halias : starts_with observation.variant ALIAS = true) :
    candidate.endpoint.toOperation ∉ catalog_keys catalog ∧
        candidate.endpoint.operation ≠ source.operation ↔
      removeprefix observation.variant ALIAS ≠ source.operation ∧
        (source.toOperation, removeprefix observation.variant ALIAS) ∉ CATALOGUED_ALIASES := by
  obtain ⟨found, hfound, hsafe, hproposed, hvariant, -, -⟩ := restore_eq_ok.mp hrestored
  obtain rfl : source = found := Except.ok.inj (hsource.symm.trans hfound)
  rw [← hvariant] at halias ⊢
  obtain ⟨operation, hread, rfl⟩ := hproposed.of_alias halias
  have hoperation : removeprefix (alias_candidate source operation).variant ALIAS = operation :=
    removeprefix_append ALIAS operation
  have hmem : source.toEndpointSpec ∈ ENDPOINT_CATALOG := by
    rw [← hcatalog]
    exact List.mem_map_of_mem (mem_of_get_endpoint hfound)
  rw [hoperation, catalog_keys_eq hcatalog]
  constructor
  · rintro ⟨hnew, hne⟩
    exact ⟨hne, fun hlisted => hnew ((mem_catalogued_aliases hmem hsafe hread hne).mp hlisted)⟩
  · rintro ⟨hne, hunlisted⟩
    exact ⟨fun hkey => hunlisted ((mem_catalogued_aliases hmem hsafe hread hne).mpr hkey), hne⟩

/-- The path of an operation in its name. -/
def dotted (path : String) : List Char :=
  (((path.toList.dropWhile (· = '/')).reverse.dropWhile (· = '/')).reverse.map
    fun c => if c = '/' then '.' else c).map fun c => if c = '-' then '_' else c

theorem dotted_prefix (o : Operation) : dotted o.path ++ ['.'] <+: o.name.toList := by
  unfold Operation.name
  simp only [String.toList_append, List.append_assoc]
  unfold replaced stripped dotted
  simp only [String.toList_ofList]
  exact (List.prefix_append_right_inj _).mpr (List.prefix_append _ _)

theorem ga_status_of_name {e : EndpointSpec} (he : e ∈ ENDPOINT_CATALOG)
    (hname : e.name = "admin.ga_info.status.read") :
    e.toOperation = ⟨"admin/ga_info", "status", "read"⟩ := by
  have hpaths : ∀ c ∈ SPECS, dotted c.1 ++ ['.'] <+: "admin.ga_info.status.read".toList →
      ∀ e ∈ path_catalog c.1 c.2, e.name = "admin.ga_info.status.read" →
        e.toOperation = ⟨"admin/ga_info", "status", "read"⟩ := by decide +kernel
  obtain ⟨c, hc, hmem⟩ := List.mem_flatMap.mp he
  refine hpaths c hc ?_ e hmem hname
  rw [← path_of_mem hmem, ← hname]
  exact dotted_prefix e.toOperation

/-- The catalogue, without its documentation. -/
def plain_catalog : List DocumentedSpec :=
  ENDPOINT_CATALOG.map fun e => { toEndpointSpec := e }

theorem plain_catalog_eq : (plain_catalog.map fun e => e.toEndpointSpec) = ENDPOINT_CATALOG := by
  unfold plain_catalog
  rw [List.map_map]
  exact List.map_id _

/-- The failing source. -/
def ga_status : DocumentedSpec where
  toEndpointSpec := spec "admin/ga_info" "status" { sensitivity := .private_ } "read"

theorem ga_status_listed : ga_status.toEndpointSpec ∈ ENDPOINT_CATALOG := by
  have hpath : ("admin/ga_info", [
      ("status", ({ sensitivity := .private_ } : Traits), ["read", "get", "get_internal"]),
      ("status", { safety := .mutation }, ["write"])]) ∈ SPECS :=
    List.mem_of_getElem? (show SPECS[49]? = some _ from rfl)
  exact List.mem_flatMap.mpr ⟨_, hpath, List.mem_flatMap.mpr
    ⟨_, List.mem_cons_self, List.mem_map.mpr ⟨_, List.mem_cons_self, rfl⟩⟩⟩

theorem ga_names : ga_status.name = "admin.ga_info.status.read" ∧
    (alias_candidate ga_status "list").endpoint.name = "admin.ga_info.status." ++ "list" ∧
    (alias_candidate ga_status "get").endpoint.name = "admin.ga_info.status." ++ "get" := by
  decide +kernel

theorem ga_status_found :
    get_endpoint plain_catalog "admin.ga_info.status.read" = .ok ga_status := by
  rw [← ga_names.1]
  refine get_endpoint_of_unique (List.mem_map_of_mem ga_status_listed) fun other hother hsame => ?_
  obtain ⟨e, he, rfl⟩ := List.mem_map.mp hother
  have hoperation := ga_status_of_name he (hsame.trans ga_names.1)
  rw [List.inj_on_of_nodup_map operations_nodup he ga_status_listed hoperation]
  rfl

/-- An observation of `ga_info` under another operation. -/
def ga_observation (operation : String) : FuzzyReadObservation where
  name := "admin.ga_info.status." ++ operation
  source_name := "admin.ga_info.status.read"
  variant := "operation_alias:" ++ operation
  parameter_schema := []
  attempt_statuses := [⟨.rejected, rejected_tested⟩]
  attempt_error_codes := [some (-1)]
  attempt_http_statuses := [none]
  attempt_session_recovered := [false]
  consistent := true
  confirmed_supported := false
  confirmed_data := false
  response_kind := "object"
  elapsed_seconds := some (1 / 4)
  error_code := some (-1)
  http_status := none
  schema_paths := []
  schema_sha256 := ""

theorem ga_observation_restored {operation : String} (hread : operation ∈ READ_ALIASES)
    (hname : (alias_candidate ga_status operation).endpoint.name =
      (ga_observation operation).name) :
    restore_fuzzy_read_candidate plain_catalog (ga_observation operation) =
      .ok (alias_candidate ga_status operation) :=
  restore_eq_ok.mpr
    ⟨ga_status, ga_status_found, rfl, .operation_alias operation hread, rfl, hname, rfl⟩

theorem a_new_alias_is_restored :
    (alias_candidate ga_status "list").endpoint.toOperation ∉ catalog_keys plain_catalog ∧
      (alias_candidate ga_status "list").endpoint.operation ≠ ga_status.operation := by
  have hoperation : removeprefix (ga_observation "list").variant ALIAS = "list" :=
    removeprefix_append ALIAS "list"
  have hfound : get_endpoint plain_catalog (ga_observation "list").source_name = .ok ga_status :=
    ga_status_found
  refine (restored_alias_is_new_exactly plain_catalog_eq hfound
    (ga_observation_restored (by decide) ga_names.2.1) (starts_with_append ALIAS "list")).mpr ?_
  rw [hoperation]
  exact ⟨show "list" ≠ "read" by decide,
    show (⟨"admin/ga_info", "status", "read"⟩, "list") ∉ CATALOGUED_ALIASES by
      simp [CATALOGUED_ALIASES]⟩

/-- The catalogue has the operation of this alias. -/
theorem a_catalogued_alias_is_restored :
    restore_fuzzy_read_candidate plain_catalog (ga_observation "get") =
        .ok (alias_candidate ga_status "get") ∧
      starts_with (ga_observation "get").variant ALIAS = true ∧
      (alias_candidate ga_status "get").endpoint.toOperation ∈ catalog_keys plain_catalog := by
  refine ⟨ga_observation_restored (by decide) ga_names.2.2, starts_with_append ALIAS "get", ?_⟩
  have hlisted : (⟨"admin/ga_info", "status", "read"⟩, "get") ∈ CATALOGUED_ALIASES := by
    simp [CATALOGUED_ALIASES]
  rw [catalog_keys_eq plain_catalog_eq]
  exact (mem_catalogued_aliases ga_status_listed rfl (by decide) (by decide)).mp hlisted

end tplink_deco_api.fuzzy
