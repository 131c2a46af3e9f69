-- The methods that read operations of the HTTP catalogue: one by its name, those
-- of a selection, the downloads, and the probes and the schemas of the client.
import TplinkDeco.Surface.Resources

open dialogue json

namespace tplink_deco_api.surface

open endpoint_catalog exceptions http_noop_verification service tmp_batches tmp_client

/-- The value of a `SafetyLevel`. -/
def safety_name : SafetyLevel → String
  | .read_only => "read_only"
  | .mutation => "mutation"
  | .destructive => "destructive"
  | .internal => "internal"

/-- The value of an `AuthenticationMode`. -/
def authentication_name : AuthenticationMode → String
  | .encrypted => "encrypted"
  | .plain => "plain"
  | .multipart => "multipart"
  | .download => "download"
  | .bootstrap => "bootstrap"
  | .group_key => "group_key"
  | .token => "token"

/-- The availability of an operation, and how a probe of it ends. -/
inductive Availability where
  | supported
  | rejected
  | not_found
  | transport_error
  | invalid_response
  | untested
deriving DecidableEq, Repr

/-- What the bundled profile of the P9 says of an operation, by its name. -/
structure ModelCompatibilityProfile where
  availability : String → Availability
  asset_present : String → Bool

variable (views : Views) (config : ServerConfig) (profile : ModelCompatibilityProfile)

/-! ## `read_endpoint` -/

/-- The refusal of a single read. -/
def read_endpoint_error (message : String) : PyError :=
  permission_error s!"Failed to read endpoint: {message}"

/-- An operation that the client can call, with or without a session. -/
def callable (e : EndpointSpec) : Bool := e.generic_call_supported || e.bootstrap_call_supported

/-- The checks of `read_endpoint`. -/
def check_read_endpoint (e : EndpointSpec) (params : Option JsonObject) : Except PyError Unit :=
  if e.safety ≠ .read_only then
    .error (read_endpoint_error s!"{e.name} is classified as {safety_name e.safety}")
  else if e.sensitivity = .secret ∧ ¬ config.allow_sensitive_reads then
    .error (read_endpoint_error "sensitive reads require DECO_ALLOW_SENSITIVE_READS=1")
  else if ¬ callable e then
    .error (read_endpoint_error
      (s!"transport '{authentication_name e.authentication}' " ++
        "is catalogued but not supported by the SDK"))
  else e.validate_params params

/-- The classes of the errors after which an HTTP read may log in once more. -/
def SESSION_ERRORS : List ExcClass := [.ApiError, .TransportError]

/-- `DecoService.read_endpoint`: a bootstrap call needs no session, any other is repeated after a
new login where its session was lost. -/
def read_endpoint (name : String) (params : Option JsonObject := none) :
    SurfaceM ApiResponse := do
  let e ← Dialogue.lift (get_endpoint name)
  Dialogue.lift (check_read_endpoint config e params)
  if e.bootstrap_call_supported then call_bootstrap e params
  else with_relogin config SESSION_ERRORS (call e params)

/-! ## The reads of a selection -/

/-- One of the `results` of a selection. -/
structure HttpReadEntry where
  name : String
  controller : String
  form : String
  status : String
  error_type : Option String := none
  response : Option ApiResponse := none

/-- The entry of a read, with the words for the two kinds of an answer. -/
def http_read_entry (accepted refused : String) (e : EndpointSpec)
    (outcome : Except PyError ApiResponse) : HttpReadEntry :=
  let base : HttpReadEntry := { name := e.name, controller := e.path, form := e.form, status := "" }
  match outcome with
  | .error exc => { base with status := "error", error_type := some exc.cls.name }
  | .ok response => { base with
      status := if response.error_code = 0 then accepted else refused
      response := some response }

/-- The loop over a selection. An error of a read is its entry. -/
def read_selection (accepted refused : String) (selected : List EndpointSpec) :
    SurfaceM (List HttpReadEntry) :=
  Dialogue.each (fun e => do
    let outcome ← live (read_endpoint config e.name e.default_params)
    pure (http_read_entry accepted refused e outcome)) selected

/-- The reads of the catalogue that the client can call, with this availability on the P9. -/
def p9_reads (availability : Availability) : List EndpointSpec :=
  ENDPOINT_CATALOG.filter fun e =>
    e.safety = .read_only ∧ callable e ∧ profile.availability e.name = availability

/-- `DecoService.p9_http_data`: the supported reads of one controller or of all, each with its
answer or error. -/
def p9_http_data (controller : String) (include_sensitive : Bool) :
    SurfaceM (List HttpReadEntry) :=
  let supported := p9_reads profile .supported
  if controller ≠ "" ∧ ∀ e ∈ supported, e.path ≠ controller then
    .raised (value_error s!"Failed to read P9 HTTP data: unknown controller '{controller}'")
  else if include_sensitive ∧ ¬ config.allow_sensitive_reads then
    .raised (permission_error "Failed to read P9 HTTP data: DECO_ALLOW_SENSITIVE_READS is disabled")
  else
    let in_scope := supported.filter fun e => controller = "" ∨ e.path = controller
    read_selection config "ok" "firmware_error"
      (in_scope.filter fun e => include_sensitive ∨ e.sensitivity ≠ .secret)

/-- `DecoService.discover_p9_untested_http_reads`: those without secrets. -/
def discover_p9_untested_http_reads : SurfaceM (List HttpReadEntry) :=
  read_selection config "supported" "rejected"
    ((p9_reads profile .untested).filter fun e => e.sensitivity ≠ .secret)

/-! ## The downloads -/

/-- A download: the endpoint and its bytes. -/
structure BinaryResponse where
  endpoint : String
  content : List UInt8

/-- The checks of `read_binary_endpoint`. -/
def check_read_binary_endpoint (e : EndpointSpec) (include_content : Bool) : Except PyError Unit :=
  let error (message : String) : Except PyError Unit :=
    .error (permission_error s!"Failed to read binary endpoint: {message}")
  if e.safety ≠ .read_only ∨ e.response_kind ≠ .binary then error "operation is not a binary read"
  else if e.sensitivity = .secret ∧ ¬ config.allow_sensitive_reads then
    error "sensitive reads require DECO_ALLOW_SENSITIVE_READS=1"
  else if ¬ config.allow_bulk_secret_reads then
    error "bulk secret reads require DECO_ALLOW_BULK_SECRET_READS=1"
  else if include_content ∧ ¬ config.allow_binary_content then
    error "content export requires DECO_ALLOW_BINARY_CONTENT=1"
  else .ok ()

/-- What is asked anew here is the `TransportError` of a lost session alone. -/
def read_binary_endpoint (name : String) (include_content : Bool := false) :
    SurfaceM BinaryResponse := do
  let e ← Dialogue.lift (get_endpoint name)
  Dialogue.lift (check_read_binary_endpoint config e include_content)
  let content ← with_relogin config [.TransportError] (call_binary e)
  pure { endpoint := e.name, content }

/-- The downloads of the P9. -/
def P9_BINARY_READ_NAMES : List String := [
  "admin.firmware.config.backup",
  "admin.firmware.config_multipart.backup",
  "admin.log_export.save_log.download"]

/-- One of the `results` of `discover_p9_binary_reads`: no content, only its digest. -/
structure BinaryReadEntry where
  name : String
  status : String
  error_type : Option String := none
  size : Option Nat := none
  sha256 : Option String := none

/-- What is reported of one download, without its bytes. -/
def binary_read_entry (name : String) (outcome : Except PyError BinaryResponse) :
    BinaryReadEntry :=
  match outcome with
  | .error exc => { name, status := "error", error_type := some exc.cls.name }
  | .ok response => {
      name
      status := "received"
      size := some response.content.length
      sha256 := some (sha256.hexdigest response.content) }

/-- `DecoService.discover_p9_binary_reads`: both gates, then each download. -/
def discover_p9_binary_reads : SurfaceM (List BinaryReadEntry) :=
  if ¬ config.allow_sensitive_reads then
    .raised (permission_error ("Failed to discover P9 binary reads: sensitive reads require " ++
      "DECO_ALLOW_SENSITIVE_READS=1"))
  else if ¬ config.allow_bulk_secret_reads then
    .raised (permission_error ("Failed to discover P9 binary reads: bulk secret reads require " ++
      "DECO_ALLOW_BULK_SECRET_READS=1"))
  else
    Dialogue.each (fun name => do
      let outcome ← live (read_binary_endpoint config name)
      pure (binary_read_entry name outcome)) P9_BINARY_READ_NAMES

/-! ## Probes -/

/-- How a probe of one operation ended. The time that it took is left out. -/
structure EndpointProbeResult where
  endpoint : EndpointSpec
  status : Availability
  error_code : Option Int := none
  http_status : Option Int := none
  error : String := ""
  response : Option ApiResponse := none

/-- The classes of the three `except` clauses of `_probe_endpoint`. -/
def PROBE_ERRORS : List ExcClass :=
  [.ApiError, .TransportError, .DecoError, .TypeError, .ValueError]

/-- What one answer says of the support for an endpoint. -/
def probe_result (endpoint : EndpointSpec) (outcome : Except PyError ApiResponse) :
    EndpointProbeResult :=
  match outcome with
  | .ok response => { endpoint, status := .supported, response := some response }
  | .error exc =>
    if exc.isinstance [.ApiError] then
      { endpoint, status := .rejected, error_code := exc.code, error := exc.message }
    else if exc.isinstance [.TransportError] then {
      endpoint
      status := if exc.code = some 404 then .not_found else .transport_error
      http_status := exc.code
      error := exc.message }
    else { endpoint, status := .invalid_response, error := exc.message }

/-- `_probe_endpoint`, which checks nothing. -/
def probe_unchecked (e : EndpointSpec) : SurfaceM EndpointProbeResult := do
  let outcome ← (if e.bootstrap_call_supported then call_bootstrap e none else call e).trying
    (·.isinstance PROBE_ERRORS)
  pure (probe_result e outcome)

/-- A probe may send this: it reads, and no secret. -/
def probeable (e : EndpointSpec) : Bool := e.safety = .read_only && e.sensitivity ≠ .secret

/-- `client.probe_endpoint`. -/
def probe_endpoint (e : EndpointSpec) : SurfaceM EndpointProbeResult :=
  if ¬ probeable e then
    .raised (permission_error s!"Failed to probe endpoint: unsafe operation: {e.name}")
  else probe_unchecked e

/-- `client.probe_endpoints`: none of them is sent if one is unsafe. -/
def probe_endpoints (endpoints : List EndpointSpec) : SurfaceM (List EndpointProbeResult) :=
  match endpoints.filter fun e => ¬ probeable e with
  | [] => Dialogue.each probe_endpoint endpoints
  | refused =>
    let joined := ", ".intercalate (refused.map fun e => e.name)
    .raised (permission_error s!"Failed to probe endpoints: unsafe operations: {joined}")

/-- The reads that report what the firmware can do. -/
def CAPABILITY_NAMES : List String := [
  "admin.component_control.switch_list.read",
  "admin.web.extra_component_info.get",
  "admin.component_list.mobile.read",
  "admin.wireless.get_support.read"]

/-- The reads that are known of the P9. -/
def P9_READ_NAMES : List String := [
  "admin.network.wan_mode.read",
  "admin.network.lan_ipv4.read",
  "admin.network.lan_ip.read",
  "admin.network.internet.read",
  "admin.network.vlan.read",
  "admin.network.mac_clone.read",
  "admin.network.performance.read",
  "admin.wireless.operation_mode.read",
  "admin.wireless.bridge.read",
  "admin.wireless.ieee80211r.read",
  "admin.wireless.beamforming.read",
  "admin.device.device_list.read",
  "admin.device.mode.read",
  "admin.device.speedtest.read",
  "admin.device.timesetting.read",
  "admin.component_control.switch_list.read",
  "locale.lang.read",
  "locale.country.read",
  "locale.country_list.read",
  "admin.client.client_list.read",
  "admin.client.traffic_stat.list",
  "admin.client.black_list.list",
  "admin.client.addr_reservation.getlist",
  "admin.cloud.nickname.read",
  "admin.cloud.firmware_status.read",
  "admin.cloud.firmware_status.check",
  "admin.cloud.firmware_status.check_upgrade",
  "admin.cloud_account.check_internet.read",
  "admin.cloud_account.check_device.read",
  "admin.cloud_account.check_connection.read",
  "admin.cloud_account.check_cloud_connection.read",
  "admin.cloud_account.check_support.read",
  "admin.cloud_account.get_dev_info.read",
  "admin.log_export.types.read",
  "login.auth.read",
  "login.keys.read",
  "login.check_factory_default.read"]

/-- The catalogued endpoints of `CAPABILITY_NAMES`. -/
def CAPABILITY_ENDPOINTS : List EndpointSpec :=
  ENDPOINT_CATALOG.filter fun e => e.name ∈ CAPABILITY_NAMES

/-- The catalogued endpoints of `P9_READ_NAMES`. -/
def P9_READ_ENDPOINTS : List EndpointSpec :=
  ENDPOINT_CATALOG.filter fun e => e.name ∈ P9_READ_NAMES

/-- Every catalogued read that a probe may send and the client can call. -/
def DISCOVERABLE_READ_ENDPOINTS : List EndpointSpec :=
  ENDPOINT_CATALOG.filter fun e => probeable e ∧ callable e

/-- A `discover` method of the client, with a session. -/
def discover (endpoints : List EndpointSpec) : SurfaceM (List EndpointProbeResult) := do
  get_client config
  probe_endpoints endpoints

/-- `DecoService.discover_capabilities`. -/
def discover_capabilities : SurfaceM (List EndpointProbeResult) :=
  discover config CAPABILITY_ENDPOINTS

/-- `DecoService.discover_p9_reads`. -/
def discover_p9_reads : SurfaceM (List EndpointProbeResult) := discover config P9_READ_ENDPOINTS

/-- `DecoService.discover_all_reads`. -/
def discover_all_reads : SurfaceM (List EndpointProbeResult) :=
  discover config DISCOVERABLE_READ_ENDPOINTS

/-! ## Schemas -/

/-- What an answer shows without its values: its status, and the paths and the hash of its schema.
-/
structure EndpointObservation where
  name : String
  status : Availability
  response_kind : ResponseKind
  error_code : Option Int
  schema_paths : List String
  schema_sha256 : String
  http_status : Option Int

/-- `EndpointObservation.from_probe`: the shape of the response, without its values. -/
def observation_of (probe : EndpointProbeResult) : EndpointObservation :=
  let schema_paths := match probe.response with
    | some response => (paths "$" response.result).eraseDups.insertionSort (· ≤ ·)
    | none => []
  { name := probe.endpoint.name
    status := probe.status
    response_kind := probe.endpoint.response_kind
    error_code := probe.error_code
    schema_paths
    schema_sha256 := if schema_paths = [] then ""
      else sha256.hexdigest (text.encode ("\n".intercalate schema_paths))
    http_status := probe.http_status }

/-- `client.observe_endpoint_schema`: a read, and one of secrets only if they are included. -/
def observe_endpoint_schema (e : EndpointSpec) (include_sensitive : Bool) :
    SurfaceM EndpointObservation :=
  if e.safety ≠ .read_only then
    .raised (permission_error
      s!"Failed to observe endpoint schema: non-read operation: {e.name}")
  else if e.sensitivity = .secret ∧ ¬ include_sensitive then
    .raised (permission_error
      "Failed to observe endpoint schema: sensitive reads require explicit opt-in")
  else do
    let probe ← probe_unchecked e
    pure (observation_of probe)

/-- The catalogued reads of secrets that the client can call. -/
def SENSITIVE_SCHEMA_ENDPOINTS : List EndpointSpec :=
  ENDPOINT_CATALOG.filter fun e => e.safety = .read_only ∧ e.sensitivity = .secret ∧ callable e

/-- Those of them that the assets of the P9 name. -/
def P9_SENSITIVE_SCHEMA_ENDPOINTS : List EndpointSpec :=
  SENSITIVE_SCHEMA_ENDPOINTS.filter fun e => profile.asset_present e.name

/-- Both discoveries of secret schemas, with the endpoints that they observe. -/
def discover_sensitive_schemas (endpoints : List EndpointSpec) :
    SurfaceM (List EndpointObservation) :=
  if ¬ config.allow_sensitive_reads then
    .raised (permission_error
      "Failed to discover sensitive schemas: DECO_ALLOW_SENSITIVE_READS=1 is required")
  else do
    get_client config
    Dialogue.each (observe_endpoint_schema · true) endpoints

/-- `DecoService.discover_p9_sensitive_schemas`. -/
def discover_p9_sensitive_schemas : SurfaceM (List EndpointObservation) :=
  discover_sensitive_schemas config (P9_SENSITIVE_SCHEMA_ENDPOINTS profile)

/-- `DecoService.discover_all_sensitive_schemas`. -/
def discover_all_sensitive_schemas : SurfaceM (List EndpointObservation) :=
  discover_sensitive_schemas config SENSITIVE_SCHEMA_ENDPOINTS

/-- What the manifest is made of. Its versions and its time are left out. -/
structure CompatibilityManifest where
  model : String
  hardware_versions : List String
  firmware_version : String
  system_mode : Json
  observations : List EndpointObservation

/-- `sorted(set(values))`. -/
def sorted_set (values : List String) : List String := values.eraseDups.insertionSort (· ≤ ·)

/-- The manifest of the nodes, the mode and the probes. -/
def manifest (devices : List Device) (mode : Json) (probes : List EndpointProbeResult) :
    CompatibilityManifest := {
  model := ", ".intercalate (sorted_set ((devices.map (·.device_model)).filter (· ≠ "")))
  hardware_versions := sorted_set (devices.map (·.hardware_ver))
  firmware_version := ", ".intercalate (sorted_set ((devices.map (·.software_ver)).filter (· ≠ "")))
  system_mode := get (mode.asObj.getD []) "sysmode"
  observations := probes.map observation_of }

/-- `DecoService.build_compatibility_manifest`. -/
def build_compatibility_manifest (full : Bool) : SurfaceM CompatibilityManifest := do
  get_client config
  let devices ← get_device_list views
  let mode ← get_device_mode views
  let probes ← probe_endpoints (if full then DISCOVERABLE_READ_ENDPOINTS else P9_READ_ENDPOINTS)
  pure (manifest devices mode probes)

end tplink_deco_api.surface
