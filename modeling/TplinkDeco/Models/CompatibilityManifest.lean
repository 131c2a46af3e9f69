-- The manifest of what the probes of one firmware found. It is stored as JSON, and read again
-- to compare one firmware with the next.
import TplinkDeco.Models.Accessors
import TplinkDeco.Lib.JsonText
import TplinkDeco.Surface.Endpoints

open json

namespace tplink_deco_api.models

open endpoint_catalog exceptions
open surface (Availability observation_of sorted_set)

/-- What is used of Python and not modelled: floats, and the `repr` of a text. -/
structure Builtins where
  float_of_int : Int → Except PyError (Option Rat)
  float_of_text : String → Option (Option Rat)
  sum : List (Option Rat) → Option Rat
  repr : String → String

variable (builtins : Builtins)

/-- `get_float`: a number, a Boolean, or nothing. -/
def get_float (data : JsonObject) (key : String) : Except PyError (Option Rat) :=
  match get data key with
  | .bool value => .ok (some (if value then 1 else 0))
  | .int value => builtins.float_of_int value
  | .float value => .ok value
  | .str value => .ok ((builtins.float_of_text value).getD (some 0))
  | _ => .ok (some 0)

/-- `get_int(data, key) if isinstance(data.get(key), int) else None`. -/
def optional_int (data : JsonObject) (key : String) : Option Int :=
  match get data key with
  | .bool _ | .int _ => some (get_int data key)
  | _ => none

/-! ## Probes -/

/-- How a probe can end. -/
abbrev ProbeStatus := { status : Availability // status ≠ .untested }

/-- `_PROBE_STATUSES`. -/
def PROBE_STATUSES : List ProbeStatus := [
  ⟨.supported, by decide⟩, ⟨.rejected, by decide⟩, ⟨.not_found, by decide⟩,
  ⟨.transport_error, by decide⟩, ⟨.invalid_response, by decide⟩]

/-- The value of a status. -/
def ProbeStatus.text (status : ProbeStatus) : String :=
  match status.val with
  | .supported => "supported"
  | .rejected => "rejected"
  | .not_found => "not_found"
  | .transport_error => "transport_error"
  | .invalid_response => "invalid_response"
  | .untested => "untested"

/-- The status of a text, if it is one. -/
def probe_status (value : String) : Option ProbeStatus :=
  PROBE_STATUSES.find? fun status => status.text = value

/-- The value of a `ResponseKind`. -/
def response_kind_text : ResponseKind → String
  | .object => "object"
  | .list => "list"
  | .value => "value"
  | .binary => "binary"

/-- A probe with its time. -/
structure EndpointProbeResult extends surface.EndpointProbeResult where
  elapsed_seconds : Option Rat
  tested : status ≠ .untested

/-- The probes of one discovery. -/
structure CapabilityReport where
  observed_at : String
  probes : List EndpointProbeResult

/-! ## `EndpointObservation` -/

/-- What a manifest keeps of a probe: no value that the router answered. -/
structure EndpointObservation where
  name : String
  status : ProbeStatus
  response_kind : String
  elapsed_seconds : Option Rat
  error_code : Option Int
  schema_paths : List String
  schema_sha256 : String
  http_status : Option Int := none

namespace EndpointObservation

/-- `EndpointObservation.from_probe`. -/
def from_probe (probe : EndpointProbeResult) : EndpointObservation :=
  let observed := observation_of probe.toEndpointProbeResult
  { name := observed.name
    status := ⟨probe.status, probe.tested⟩
    response_kind := response_kind_text observed.response_kind
    elapsed_seconds := probe.elapsed_seconds
    error_code := observed.error_code
    schema_paths := observed.schema_paths
    schema_sha256 := observed.schema_sha256
    http_status := observed.http_status }

/-- The status of a serialized observation. -/
def checked_status (value : String) : Except PyError ProbeStatus :=
  match probe_status value with
  | some status => .ok status
  | none => .error (value_error
    s!"Failed to parse endpoint observation: invalid status {builtins.repr value}")

/-- `EndpointObservation.from_api`. -/
def from_api (data : JsonObject) : Except PyError EndpointObservation := do
  let status ← checked_status builtins (get_str data "status")
  let elapsed_seconds ← get_float builtins data "elapsed_seconds"
  return {
    name := get_str data "name"
    status
    response_kind := get_str data "response_kind"
    elapsed_seconds
    error_code := optional_int data "error_code"
    schema_paths := get_str_tuple data "schema_paths"
    schema_sha256 := get_str data "schema_sha256"
    http_status := optional_int data "http_status" }

/-- `CompatibilityManifest.to_dict`. -/
def to_dict (observation : EndpointObservation) : JsonObject := [
  ("name", .str observation.name),
  ("status", .str observation.status.text),
  ("response_kind", .str observation.response_kind),
  ("elapsed_seconds", .float observation.elapsed_seconds),
  ("error_code", observation.error_code.elim .null .int),
  ("schema_paths", .arr (observation.schema_paths.map .str)),
  ("schema_sha256", .str observation.schema_sha256),
  ("http_status", observation.http_status.elim .null .int)]

end EndpointObservation

/-! ## `FuzzyReadObservation` -/

/-- `_json_scalar_type`. -/
def json_scalar_type : Json → String
  | .null => "null"
  | .bool _ => "boolean"
  | .int _ => "integer"
  | .float _ => "number"
  | .str _ => "string"
  | .obj _ => "object"
  | .arr _ => "array"

/-- A variant of a read that is tried. -/
structure FuzzyReadCandidate where
  endpoint : EndpointSpec
  source_name : String
  variant : String
  params : Option JsonObject

/-- The names and the types of its parameters. -/
def FuzzyReadCandidate.parameter_schema (candidate : FuzzyReadCandidate) : List String :=
  match candidate.params with
  | none => []
  | some params =>
    (params.map fun (name, value) => s!"{name}:{json_scalar_type value}").insertionSort (· ≤ ·)

/-- What a manifest keeps of the attempts of one variant. -/
structure FuzzyReadObservation where
  name : String
  source_name : String
  variant : String
  parameter_schema : List String
  attempt_statuses : List ProbeStatus
  attempt_error_codes : List (Option Int)
  attempt_http_statuses : List (Option Int)
  attempt_session_recovered : List Bool
  consistent : Bool
  confirmed_supported : Bool
  confirmed_data : Bool
  response_kind : String
  elapsed_seconds : Option Rat
  error_code : Option Int
  http_status : Option Int
  schema_paths : List String
  schema_sha256 : String

/-- `_optional_int_tuple`. -/
def optional_int_tuple (data : JsonObject) (key : String) : List (Option Int) :=
  (((get data key).asArr).getD []).map Json.asInt

/-- `_bool_tuple`: the Booleans of a list. -/
def bool_tuple (data : JsonObject) (key : String) : List Bool :=
  (((get data key).asArr).getD []).filterMap Json.asBool

namespace FuzzyReadObservation

/-- `FuzzyReadObservation.from_attempts`. -/
def from_attempts (candidate : FuzzyReadCandidate) (attempts : List EndpointProbeResult)
    (session_recovered : List Bool) : Except PyError FuzzyReadObservation :=
  match attempts.getLast? with
  | none =>
    .error (value_error "Failed to summarize fuzzy read: no attempts were supplied")
  | some last =>
    if session_recovered ≠ [] ∧ session_recovered.length ≠ attempts.length then
      .error (value_error "Failed to summarize fuzzy read: recovery evidence is misaligned")
    else
      let statuses : List ProbeStatus :=
        attempts.map fun attempt => ⟨attempt.status, attempt.tested⟩
      let signatures := attempts.map fun attempt => (attempt.status, attempt.error_code,
        attempt.http_status, (EndpointObservation.from_probe attempt).schema_sha256)
      -- the latest attempt with a response, or else the last one
      let selected := (attempts.reverse.find? fun attempt => attempt.response.isSome).getD last
      let observation := EndpointObservation.from_probe selected
      .ok {
        name := candidate.endpoint.name
        source_name := candidate.source_name
        variant := candidate.variant
        parameter_schema := candidate.parameter_schema
        attempt_statuses := statuses
        attempt_error_codes := attempts.map fun attempt => attempt.error_code
        attempt_http_statuses := attempts.map fun attempt => attempt.http_status
        attempt_session_recovered :=
          if session_recovered ≠ [] then session_recovered else attempts.map fun _ => false
        consistent := signatures.eraseDups.length = 1
        confirmed_supported := statuses.all fun status => status.val = .supported
        confirmed_data := attempts.all fun attempt => match attempt.response with
          | some { result := .null, .. } => false
          | some _ => true
          | none => false
        response_kind := observation.response_kind
        elapsed_seconds := builtins.sum (attempts.map fun attempt => attempt.elapsed_seconds)
        error_code := last.error_code
        http_status := last.http_status
        schema_paths := observation.schema_paths
        schema_sha256 := observation.schema_sha256 }

/-- The status of one serialized attempt. -/
def checked_status (value : String) : Except PyError ProbeStatus :=
  match probe_status value with
  | some status => .ok status
  | none => .error (value_error "Failed to parse fuzzy read observation: invalid attempt status")

def from_api (data : JsonObject) : Except PyError FuzzyReadObservation := do
  let statuses ← (get_str_tuple data "attempt_statuses").mapM checked_status
  let elapsed_seconds ← get_float builtins data "elapsed_seconds"
  return {
    name := get_str data "name"
    source_name := get_str data "source_name"
    variant := get_str data "variant"
    parameter_schema := get_str_tuple data "parameter_schema"
    attempt_statuses := statuses
    attempt_error_codes := optional_int_tuple data "attempt_error_codes"
    attempt_http_statuses := optional_int_tuple data "attempt_http_statuses"
    attempt_session_recovered := bool_tuple data "attempt_session_recovered"
    consistent := get_bool data "consistent"
    confirmed_supported := get_bool data "confirmed_supported"
    confirmed_data := get_bool data "confirmed_data"
    response_kind := get_str data "response_kind"
    elapsed_seconds
    error_code := optional_int data "error_code"
    http_status := optional_int data "http_status"
    schema_paths := get_str_tuple data "schema_paths"
    schema_sha256 := get_str data "schema_sha256" }

def to_dict (observation : FuzzyReadObservation) : JsonObject := [
  ("name", .str observation.name),
  ("source_name", .str observation.source_name),
  ("variant", .str observation.variant),
  ("parameter_schema", .arr (observation.parameter_schema.map .str)),
  ("attempt_statuses", .arr (observation.attempt_statuses.map fun status => .str status.text)),
  ("attempt_error_codes", .arr (observation.attempt_error_codes.map (·.elim .null .int))),
  ("attempt_http_statuses", .arr (observation.attempt_http_statuses.map (·.elim .null .int))),
  ("attempt_session_recovered", .arr (observation.attempt_session_recovered.map .bool)),
  ("consistent", .bool observation.consistent),
  ("confirmed_supported", .bool observation.confirmed_supported),
  ("confirmed_data", .bool observation.confirmed_data),
  ("response_kind", .str observation.response_kind),
  ("elapsed_seconds", .float observation.elapsed_seconds),
  ("error_code", observation.error_code.elim .null .int),
  ("http_status", observation.http_status.elim .null .int),
  ("schema_paths", .arr (observation.schema_paths.map .str)),
  ("schema_sha256", .str observation.schema_sha256)]

end FuzzyReadObservation

/-! ## `CompatibilityManifest` -/

/-- The observations of one firmware, with what it runs on. -/
structure CompatibilityManifest where
  manifest_version : Int
  catalog_version : Int
  model : String
  hardware_versions : List String
  firmware_version : String
  system_mode : String
  observed_at : String
  observations : List EndpointObservation
  fuzzy_observations : List FuzzyReadObservation := []
  fuzzy_observed_at : String := ""

namespace CompatibilityManifest

/-- `CompatibilityManifest.from_report`. -/
def from_report (report : CapabilityReport) (catalog_version : Int) (model : String)
    (hardware_versions : List String) (firmware_version system_mode : String)
    (fuzzy_observations : List FuzzyReadObservation) : CompatibilityManifest where
  manifest_version := if fuzzy_observations = [] then 1 else 2
  catalog_version := catalog_version
  model := model
  hardware_versions := sorted_set hardware_versions
  firmware_version := firmware_version
  system_mode := system_mode
  observed_at := report.observed_at
  observations := report.probes.map EndpointObservation.from_probe
  fuzzy_observations := fuzzy_observations
  fuzzy_observed_at := if fuzzy_observations = [] then "" else report.observed_at

/-- The objects of the array under a key. -/
def rows (data : JsonObject) (key : String) : List JsonObject :=
  (((get data key).asArr).getD []).filterMap Json.asObj

/-- `CompatibilityManifest.from_dict`. -/
def from_dict (data : JsonObject) : Except PyError CompatibilityManifest := do
  let observations ← (rows data "observations").mapM (EndpointObservation.from_api builtins)
  let fuzzy_observations ←
    (rows data "fuzzy_observations").mapM (FuzzyReadObservation.from_api builtins)
  let manifest_version := get_int data "manifest_version"
  if manifest_version ∉ [1, 2] then
    .error (value_error
      s!"Failed to parse compatibility manifest: unsupported version {manifest_version}")
  else return {
    manifest_version
    catalog_version := get_int data "catalog_version"
    model := get_str data "model"
    hardware_versions := get_str_tuple data "hardware_versions"
    firmware_version := get_str data "firmware_version"
    system_mode := get_str data "system_mode"
    observed_at := get_str data "observed_at"
    observations
    fuzzy_observations
    fuzzy_observed_at := get_str data "fuzzy_observed_at" }

def to_dict (manifest : CompatibilityManifest) : JsonObject := [
  ("manifest_version", .int manifest.manifest_version),
  ("catalog_version", .int manifest.catalog_version),
  ("model", .str manifest.model),
  ("hardware_versions", .arr (manifest.hardware_versions.map .str)),
  ("firmware_version", .str manifest.firmware_version),
  ("system_mode", .str manifest.system_mode),
  ("observed_at", .str manifest.observed_at),
  ("observations", .arr (manifest.observations.map fun item => .obj item.to_dict)),
  ("fuzzy_observations", .arr (manifest.fuzzy_observations.map fun item => .obj item.to_dict)),
  ("fuzzy_observed_at", .str manifest.fuzzy_observed_at)]

/-- `float_repr` is the text of a float. -/
def to_json (float_repr : Option Rat → String) (manifest : CompatibilityManifest) : String :=
  indented float_repr 0 (.obj manifest.to_dict)

/-- `loads` is the parser, which raises for a text that is no object. -/
def from_json (loads : String → Except PyError JsonObject) (payload : String) :
    Except PyError CompatibilityManifest := do
  let data ← loads payload
  from_dict builtins data

end CompatibilityManifest

/-! ## What the accessors read back -/

section

variable {data : JsonObject} {key : String}

theorem get_float_of {value : Option Rat} (h : get data key = .float value) :
    get_float builtins data key = .ok value := by
  unfold get_float
  rw [h]

theorem bool_tuple_of {values : List Bool} (h : get data key = .arr (values.map .bool)) :
    bool_tuple data key = values := by
  have hread : Json.asBool ∘ Json.bool = some := rfl
  unfold bool_tuple
  rw [h]
  show (values.map Json.bool).filterMap Json.asBool = values
  rw [List.filterMap_map, hread, List.filterMap_some]

/-- A code that is none comes back as none. -/
theorem optional_int_of {value : Option Int} (h : get data key = value.elim .null .int) :
    optional_int data key = value := by
  unfold optional_int get_int
  rw [h]
  cases value <;> rfl

theorem optional_int_tuple_of {values : List (Option Int)}
    (h : get data key = .arr (values.map (·.elim .null .int))) :
    optional_int_tuple data key = values := by
  have hread : Json.asInt ∘ (fun value : Option Int => value.elim .null .int) = id := by
    funext value
    cases value <;> rfl
  unfold optional_int_tuple
  rw [h]
  show (values.map fun value => value.elim .null .int).map Json.asInt = values
  rw [List.map_map, hread, List.map_id]

theorem probe_status_text (status : ProbeStatus) : probe_status status.text = some status := by
  obtain ⟨status, htested⟩ := status
  cases status with
  | untested => exact absurd rfl htested
  | _ => rfl

end

/-! ## The round trip -/

/-- Items that are each read back are read back together. -/
theorem mapM_map_ok {α β : Type} {write : α → β} {read : β → Except PyError α} {items : List α}
    (h : ∀ item ∈ items, read (write item) = .ok item) :
    (items.map write).mapM read = .ok items := by
  induction items with
  | nil => rfl
  | cons item items ih =>
    rw [List.map_cons, List.mapM_cons, h item List.mem_cons_self,
      ih fun other hother => h other (List.mem_cons_of_mem _ hother)]
    rfl

theorem canonical_optional (value : Option Int) :
    canonical (value.elim .null .int) = value.elim .null .int := by
  cases value <;> rfl

namespace EndpointObservation

theorem checked_status_text (status : ProbeStatus) :
    checked_status builtins status.text = .ok status := by
  unfold checked_status
  rw [probe_status_text]

/-- An observation is read back from any data that has its values under its keys. -/
theorem from_api_of_gets {observation : EndpointObservation} {data : JsonObject}
    (h : ∀ key, get data key = get observation.to_dict key) :
    from_api builtins data = .ok observation := by
  unfold from_api
  rw [get_str_of (h "status"), checked_status_text, get_float_of builtins (h "elapsed_seconds"),
    get_str_of (h "name"), get_str_of (h "response_kind"), optional_int_of (h "error_code"),
    get_str_tuple_of (h "schema_paths"), get_str_of (h "schema_sha256"),
    optional_int_of (h "http_status")]
  rfl

theorem from_api_to_dict (observation : EndpointObservation) :
    from_api builtins observation.to_dict = .ok observation :=
  from_api_of_gets builtins fun _ => rfl

theorem from_api_sorted (observation : EndpointObservation) :
    from_api builtins (sorted_fields observation.to_dict) = .ok observation := by
  have hflat : ∀ field ∈ observation.to_dict, canonical field.2 = field.2 := by
    simp only [to_dict, List.forall_mem_cons, List.not_mem_nil, false_implies, implies_true,
      and_true]
    exact ⟨rfl, rfl, rfl, rfl, canonical_optional _, canonical_map (fun _ => rfl) _, rfl,
      canonical_optional _⟩
  apply from_api_of_gets
  exact fun key => get_sorted_of_flat (by simp [to_dict]) fun field hfield _ => hflat field hfield

end EndpointObservation

namespace FuzzyReadObservation

theorem checked_statuses (statuses : List ProbeStatus) :
    (statuses.map ProbeStatus.text).mapM checked_status = .ok statuses := by
  apply mapM_map_ok
  intro status _
  unfold checked_status
  rw [probe_status_text]

theorem from_api_of_gets {observation : FuzzyReadObservation} {data : JsonObject}
    (h : ∀ key, get data key = get observation.to_dict key) :
    from_api builtins data = .ok observation := by
  have hstatuses : get_str_tuple data "attempt_statuses" =
      observation.attempt_statuses.map ProbeStatus.text := by
    apply get_str_tuple_of
    rw [h, List.map_map]
    rfl
  unfold from_api
  rw [hstatuses, checked_statuses, get_float_of builtins (h "elapsed_seconds"),
    get_str_of (h "name"), get_str_of (h "source_name"), get_str_of (h "variant"),
    get_str_tuple_of (h "parameter_schema"), optional_int_tuple_of (h "attempt_error_codes"),
    optional_int_tuple_of (h "attempt_http_statuses"),
    bool_tuple_of (h "attempt_session_recovered"), get_bool_of (h "consistent"),
    get_bool_of (h "confirmed_supported"), get_bool_of (h "confirmed_data"),
    get_str_of (h "response_kind"), optional_int_of (h "error_code"),
    optional_int_of (h "http_status"), get_str_tuple_of (h "schema_paths"),
    get_str_of (h "schema_sha256")]
  rfl

theorem from_api_to_dict (observation : FuzzyReadObservation) :
    from_api builtins observation.to_dict = .ok observation :=
  from_api_of_gets builtins fun _ => rfl

theorem from_api_sorted (observation : FuzzyReadObservation) :
    from_api builtins (sorted_fields observation.to_dict) = .ok observation := by
  have hflat : ∀ field ∈ observation.to_dict, canonical field.2 = field.2 := by
    simp only [to_dict, List.forall_mem_cons, List.not_mem_nil, false_implies, implies_true,
      and_true]
    exact ⟨rfl, rfl, rfl, canonical_map (fun _ => rfl) _, canonical_map (fun _ => rfl) _,
      canonical_map canonical_optional _, canonical_map canonical_optional _,
      canonical_map (fun _ => rfl) _, rfl, rfl, rfl, rfl, rfl, canonical_optional _,
      canonical_optional _, canonical_map (fun _ => rfl) _, rfl⟩
  apply from_api_of_gets
  exact fun key => get_sorted_of_flat (by simp [to_dict]) fun field hfield _ => hflat field hfield

end FuzzyReadObservation

namespace CompatibilityManifest

/-- A manifest is read back from any data that has its values under its keys, and items that are
read back as its observations. -/
theorem from_dict_of_gets {manifest : CompatibilityManifest} {data : JsonObject}
    (hversion : manifest.manifest_version ∈ [1, 2])
    (h : ∀ key, key ∉ ["observations", "fuzzy_observations"] →
      get data key = get manifest.to_dict key)
    (hobservations : (rows data "observations").mapM (EndpointObservation.from_api builtins) =
      .ok manifest.observations)
    (hfuzzy : (rows data "fuzzy_observations").mapM (FuzzyReadObservation.from_api builtins) =
      .ok manifest.fuzzy_observations) : from_dict builtins data = .ok manifest := by
  unfold from_dict
  rw [hobservations, hfuzzy, get_int_of (h "manifest_version" (by decide)),
    get_int_of (h "catalog_version" (by decide)), get_str_of (h "model" (by decide)),
    get_str_tuple_of (h "hardware_versions" (by decide)),
    get_str_of (h "firmware_version" (by decide)), get_str_of (h "system_mode" (by decide)),
    get_str_of (h "observed_at" (by decide)), get_str_of (h "fuzzy_observed_at" (by decide))]
  show (if manifest.manifest_version ∉ [1, 2] then _ else Except.ok manifest) = _
  rw [if_neg (not_not.mpr hversion)]

/-- The objects of an array of objects. -/
theorem rows_of {α : Type} {data : JsonObject} {key : String} {make : α → JsonObject}
    {items : List α} (h : get data key = .arr (items.map fun item => .obj (make item))) :
    rows data key = items.map make := by
  have hread : Json.asObj ∘ (fun item => Json.obj (make item)) = some ∘ make := rfl
  unfold rows
  rw [h]
  show (items.map fun item => Json.obj (make item)).filterMap Json.asObj = items.map make
  rw [List.filterMap_map, hread, List.filterMap_eq_map]

theorem from_dict_to_dict {manifest : CompatibilityManifest}
    (hversion : manifest.manifest_version ∈ [1, 2]) :
    from_dict builtins manifest.to_dict = .ok manifest := by
  have hobservations : rows manifest.to_dict "observations" =
      manifest.observations.map EndpointObservation.to_dict := rows_of rfl
  have hfuzzy : rows manifest.to_dict "fuzzy_observations" =
      manifest.fuzzy_observations.map FuzzyReadObservation.to_dict := rows_of rfl
  apply from_dict_of_gets builtins hversion fun _ _ => rfl
  · rw [hobservations]
    exact mapM_map_ok fun item _ => EndpointObservation.from_api_to_dict builtins item
  · rw [hfuzzy]
    exact mapM_map_ok fun item _ => FuzzyReadObservation.from_api_to_dict builtins item

/-- The order of the keys makes no difference. -/
theorem from_dict_sorted {manifest : CompatibilityManifest}
    (hversion : manifest.manifest_version ∈ [1, 2]) :
    from_dict builtins (sorted_fields manifest.to_dict) = .ok manifest := by
  have hdistinct : (manifest.to_dict.map Prod.fst).Nodup := by simp [to_dict]
  have hobservations : rows (sorted_fields manifest.to_dict) "observations" =
      manifest.observations.map fun item => sorted_fields item.to_dict := by
    apply rows_of
    rw [get_sorted_fields hdistinct]
    show canonical (.arr (manifest.observations.map fun item => .obj item.to_dict)) = _
    unfold canonical
    rw [canonical_items_eq, List.map_map]
    rfl
  have hfuzzy : rows (sorted_fields manifest.to_dict) "fuzzy_observations" =
      manifest.fuzzy_observations.map fun item => sorted_fields item.to_dict := by
    apply rows_of
    rw [get_sorted_fields hdistinct]
    show canonical (.arr (manifest.fuzzy_observations.map fun item => .obj item.to_dict)) = _
    unfold canonical
    rw [canonical_items_eq, List.map_map]
    rfl
  apply from_dict_of_gets builtins hversion
  · intro key hkey
    have hitems : "observations" ≠ key ∧ "fuzzy_observations" ≠ key := by
      simpa [eq_comm] using hkey
    apply get_sorted_of_flat hdistinct
    simp only [to_dict, List.forall_mem_cons, List.not_mem_nil, false_implies, implies_true,
      and_true]
    exact ⟨fun _ => rfl, fun _ => rfl, fun _ => rfl, fun _ => canonical_map (fun _ => rfl) _,
      fun _ => rfl, fun _ => rfl, fun _ => rfl, fun h => absurd h hitems.1,
      fun h => absurd h hitems.2, fun _ => rfl⟩
  · rw [hobservations]
    exact mapM_map_ok fun item _ => EndpointObservation.from_api_sorted builtins item
  · rw [hfuzzy]
    exact mapM_map_ok fun item _ => FuzzyReadObservation.from_api_sorted builtins item

theorem from_json_to_json {manifest : CompatibilityManifest}
    (hversion : manifest.manifest_version ∈ [1, 2]) {float_repr : Option Rat → String}
    {loads : String → Except PyError JsonObject}
    (hexact : loads (manifest.to_json float_repr) = .ok (sorted_fields manifest.to_dict)) :
    from_json builtins loads (manifest.to_json float_repr) = .ok manifest := by
  have hread : ∀ {data : JsonObject}, loads (manifest.to_json float_repr) = .ok data →
      from_json builtins loads (manifest.to_json float_repr) = from_dict builtins data := by
    intro data h
    unfold from_json
    rw [h]
    rfl
  rw [hread hexact]
  exact from_dict_sorted builtins hversion

end CompatibilityManifest

/-! ## What the manifest records -/

/-- The repeated probes of one variant. -/
structure FuzzyRun where
  candidate : FuzzyReadCandidate
  attempts : List EndpointProbeResult
  session_recovered : List Bool

/-- The observation of the run. -/
def FuzzyRun.observe (run : FuzzyRun) : Except PyError FuzzyReadObservation :=
  FuzzyReadObservation.from_attempts builtins run.candidate run.attempts run.session_recovered

/-- The observation has the evidence of each attempt, in the order of the attempts. -/
structure Records (run : FuzzyRun) (observation : FuzzyReadObservation) : Prop where
  statuses : observation.attempt_statuses.map Subtype.val =
    run.attempts.map fun attempt => attempt.status
  error_codes : observation.attempt_error_codes = run.attempts.map fun attempt => attempt.error_code
  http_statuses : observation.attempt_http_statuses =
    run.attempts.map fun attempt => attempt.http_status
  recovered : observation.attempt_session_recovered =
    if run.session_recovered ≠ [] then run.session_recovered else run.attempts.map fun _ => false

theorem observe_records {run : FuzzyRun} {observation : FuzzyReadObservation}
    (h : run.observe builtins = .ok observation) : Records run observation := by
  unfold FuzzyRun.observe FuzzyReadObservation.from_attempts at h
  cases hlast : run.attempts.getLast? with
  | none =>
    rw [hlast] at h
    cases h
  | some last =>
    rw [hlast] at h
    simp only at h
    split at h
    · cases h
    · rw [← Except.ok.inj h]
      refine ⟨?_, rfl, rfl, rfl⟩
      rw [List.map_map]
      rfl

/-- The manifest of a report is read back as it was, from its dictionary and from its text. It has
every probe of the report and the evidence of every attempt. -/
theorem manifest_survives (report : CapabilityReport) (catalog_version : Int) (model : String)
    (hardware_versions : List String) (firmware_version system_mode : String)
    (runs : List FuzzyRun) (fuzzy_observations : List FuzzyReadObservation)
    (hruns : runs.mapM (FuzzyRun.observe builtins) = .ok fuzzy_observations)
    (manifest : CompatibilityManifest)
    (hmanifest : manifest = .from_report report catalog_version model hardware_versions
      firmware_version system_mode fuzzy_observations) :
    manifest.observations = report.probes.map EndpointObservation.from_probe ∧
    List.Forall₂ Records runs manifest.fuzzy_observations ∧
    CompatibilityManifest.from_dict builtins manifest.to_dict = .ok manifest ∧
    ∀ (float_repr : Option Rat → String) (loads : String → Except PyError JsonObject),
      loads (manifest.to_json float_repr) = .ok (sorted_fields manifest.to_dict) →
      CompatibilityManifest.from_json builtins loads (manifest.to_json float_repr) =
        .ok manifest := by
  subst hmanifest
  have hversion : (CompatibilityManifest.from_report report catalog_version model
      hardware_versions firmware_version system_mode
        fuzzy_observations).manifest_version ∈ [1, 2] := by
    show (if fuzzy_observations = [] then (1 : Int) else 2) ∈ [1, 2]
    split <;> decide
  refine ⟨rfl, ?_, ?_, ?_⟩
  · exact (mapM_eq_ok.mp hruns).imp fun run observation h => observe_records builtins h
  · exact CompatibilityManifest.from_dict_to_dict builtins hversion
  · exact fun _ _ => CompatibilityManifest.from_json_to_json builtins hversion

/-- Floats with few digits. -/
def plain_builtins : Builtins where
  float_of_int value := .ok (some value)
  float_of_text _ := none
  sum values := some ((values.filterMap id).foldl (· + ·) 0)
  repr value := "'" ++ value ++ "'"

theorem supported_tested : Availability.supported ≠ .untested := by decide

theorem rejected_tested : Availability.rejected ≠ .untested := by decide

def mesh_endpoint : EndpointSpec where
  path := "admin/device"
  form := "device_list"
  operation := "read"

def unreachable : EndpointProbeResult where
  endpoint := mesh_endpoint
  status := .transport_error
  http_status := some 503
  elapsed_seconds := some (1 / 2)
  tested := by decide

def refused : EndpointProbeResult where
  endpoint := mesh_endpoint
  status := .rejected
  error_code := some (-1)
  elapsed_seconds := some (1 / 4)
  tested := rejected_tested

def mesh_run : FuzzyRun where
  candidate := {
    endpoint := mesh_endpoint, source_name := "mesh", variant := "empty", params := none }
  attempts := [unreachable, refused]
  session_recovered := [true, false]

/-- What the run records. -/
def mesh_observation : FuzzyReadObservation where
  name := mesh_endpoint.name
  source_name := "mesh"
  variant := "empty"
  parameter_schema := []
  attempt_statuses := [⟨.transport_error, by decide⟩, ⟨.rejected, by decide⟩]
  attempt_error_codes := [none, some (-1)]
  attempt_http_statuses := [some 503, none]
  attempt_session_recovered := [true, false]
  consistent := false
  confirmed_supported := false
  confirmed_data := false
  response_kind := "object"
  elapsed_seconds := plain_builtins.sum [some (1 / 2), some (1 / 4)]
  error_code := some (-1)
  http_status := none
  schema_paths := []
  schema_sha256 := ""

def mesh_manifest : CompatibilityManifest :=
  .from_report { observed_at := "2024-01-01T00:00:00+00:00", probes := [refused] } 1 "X50"
    ["2.0", "1.0"] "1.1.0" "router" [mesh_observation]

theorem the_mesh_manifest_survives :
    CompatibilityManifest.from_dict plain_builtins mesh_manifest.to_dict = .ok mesh_manifest ∧
    CompatibilityManifest.from_json plain_builtins
      (fun _ => .ok (sorted_fields mesh_manifest.to_dict)) (mesh_manifest.to_json fun _ => "0.25") =
        .ok mesh_manifest := by
  obtain ⟨-, -, hdict, hjson⟩ := manifest_survives plain_builtins
    { observed_at := "2024-01-01T00:00:00+00:00", probes := [refused] } 1 "X50" ["2.0", "1.0"]
    "1.1.0" "router" [mesh_run] [mesh_observation] rfl mesh_manifest rfl
  exact ⟨hdict, hjson (fun _ => "0.25") (fun _ => .ok (sorted_fields mesh_manifest.to_dict)) rfl⟩

end tplink_deco_api.models
