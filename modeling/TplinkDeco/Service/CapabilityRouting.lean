-- The routes of the semantic reads, and `read_capability`, which selects the
-- interface that answers. Its two readers may do anything here.
import TplinkDeco.Http.EndpointCatalog
import TplinkDeco.Lib.Dialogue
import TplinkDeco.Service.DecoService
import TplinkDeco.TmpClient.SshConfig

open dialogue json

namespace tplink_deco_api.service

open endpoint_catalog exceptions
open tmp_ssh_config (TmpSshConfig)

/-! ## The routes -/

/-- The interfaces of the router. -/
inductive CapabilityInterface where
  | http_luci
  | tmp_appv2
deriving DecidableEq, Repr

/-- The value of an interface. -/
def CapabilityInterface.name : CapabilityInterface → String
  | .http_luci => "http_luci"
  | .tmp_appv2 => "tmp_appv2"

/-- Whether a capability may be read over the other interface. -/
inductive CapabilityFallbackPolicy where
  | none
  | equivalent_read_only
deriving DecidableEq, Repr

/-- How a capability is read. -/
structure CapabilityRoute where
  name : String
  sensitivity : SensitivityLevel
  primary_interface : CapabilityInterface
  primary_operation : String
  fallback_interface : Option CapabilityInterface
  fallback_operation : String
  fallback_policy : CapabilityFallbackPolicy
  equivalence_evidence : String
  schema_version : Nat := 1
deriving DecidableEq, Repr

/-- A route that HTTP answers first, and TMP in its place. -/
def http_route (name : String) (sensitivity : SensitivityLevel)
    (primary_operation fallback_operation equivalence_evidence : String) : CapabilityRoute := {
  name
  sensitivity
  primary_interface := .http_luci
  primary_operation
  fallback_interface := some .tmp_appv2
  fallback_operation
  fallback_policy := .equivalent_read_only
  equivalence_evidence }

/-- A route that only TMP answers. -/
def tmp_route (name : String) (sensitivity : SensitivityLevel)
    (primary_operation equivalence_evidence : String) : CapabilityRoute := {
  name
  sensitivity
  primary_interface := .tmp_appv2
  primary_operation
  fallback_interface := none
  fallback_operation := ""
  fallback_policy := .none
  equivalence_evidence }

/-- `CAPABILITY_ROUTES`. -/
def CAPABILITY_ROUTES : List CapabilityRoute := [
  http_route "mesh_nodes" .private_ "admin.device.device_list.read" "0x400F"
    "p9_live_schema_equivalence",
  http_route "clients" .secret "admin.client.client_list.read" "0x4012"
    "p9_live_schema_equivalence",
  http_route "internet_status" .private_ "admin.network.internet.read" "0x400C"
    "p9_live_schema_equivalence",
  http_route "address_reservations" .secret "admin.client.addr_reservation.getlist" "0x40C0"
    "p9_live_schema_equivalence",
  http_route "fast_roaming" .normal "admin.wireless.ieee80211r.read" "0x4208"
    "p9_live_boolean_contract",
  http_route "beamforming" .normal "admin.wireless.beamforming.read" "0x421B"
    "p9_live_boolean_contract",
  http_route "wireless_operation_mode" .private_ "admin.wireless.operation_mode.read" "0x40A0"
    "p9_live_normalized_field_equivalence",
  http_route "wireless_bridge" .private_ "admin.wireless.bridge.read" "0x400A"
    "p9_live_schema_equivalence",
  http_route "traffic" .secret "admin.client.traffic_stat.list" "0x4014"
    "p9_live_schema_equivalence",
  http_route "blocked_clients" .secret "admin.client.black_list.list" "0x4018"
    "p9_live_schema_equivalence",
  http_route "speed_test" .normal "admin.device.speedtest.read" "0x4010"
    "p9_live_schema_equivalence",
  http_route "firmware_status" .private_ "admin.cloud.firmware_status.check" "0x401C"
    "p9_live_normalized_field_equivalence",
  http_route "ddns" .secret "admin.cloud.ddns.get" "0x40D0" "p9_live_schema_equivalence",
  http_route "wlan_state" .secret "admin.wireless.wlan.read" "0x4009"
    "p9_live_normalized_field_equivalence",
  http_route "ipv4_configuration" .secret "admin.network.wan_ipv4.read" "0x4004"
    "p9_live_normalized_field_equivalence",
  tmp_route "led_configuration" .private_ "0x401A" "p9_live_schema_contract",
  tmp_route "mesh_traffic" .private_ "0x422F" "p9_live_schema_contract",
  tmp_route "wps_status" .private_ "0x4215" "p9_live_schema_contract",
  tmp_route "monthly_report_settings" .private_ "0x4222" "p9_live_schema_contract",
  tmp_route "monthly_reports" .secret "0x40E0" "p9_live_schema_contract",
  tmp_route "notifications" .secret "0x4028" "p9_live_schema_contract",
  tmp_route "speed_test_servers" .private_ "0x4228" "p9_live_schema_contract",
  tmp_route "parental_control_profiles" .secret "0x4029" "p9_live_schema_contract",
  tmp_route "parental_control_filter_levels" .private_ "0x4035" "p9_live_schema_contract",
  tmp_route "parental_control_catalog" .private_ "0x403A" "p9_live_confirmed_parameter_contract",
  tmp_route "access_permissions" .secret "0x4229" "p9_live_schema_contract",
  tmp_route "ipv6_configuration" .secret "0x4006" "p9_live_schema_contract",
  tmp_route "ipv6_firewall" .secret "0x4230" "p9_live_schema_contract",
  tmp_route "ipv6_clients" .secret "0x4234" "p9_live_schema_contract",
  tmp_route "lan_configuration" .secret "0x4211" "p9_live_schema_contract",
  tmp_route "dhcp_configuration" .secret "0x4213" "p9_live_schema_contract",
  tmp_route "qos_mode" .private_ "0x4036" "p9_live_schema_contract",
  tmp_route "bandwidth_configuration" .private_ "0x4219" "p9_live_schema_contract",
  tmp_route "vlan_configuration" .private_ "0x420D" "p9_live_schema_contract",
  tmp_route "port_forwarding" .secret "0x40B0" "p9_live_schema_contract",
  tmp_route "iptv_configuration" .private_ "0x4224" "p9_live_schema_contract",
  tmp_route "sip_alg" .private_ "0x421D" "p9_live_schema_contract",
  tmp_route "mac_clone" .private_ "0x4226" "p9_live_schema_contract"]

/-- `get_capability_route`. -/
def get_capability_route (name : String) : Option CapabilityRoute :=
  CAPABILITY_ROUTES.find? fun route => route.name = name

/-! ## What a read gives -/

/-- The data of a capability: a view of the answer, or the nodes. -/
inductive CapabilityData where
  | view (value : Json)
  | nodes (devices : List Device)

/-- What a reader gives. The interface that it was read over is for the reader only. -/
structure Reading where
  data : CapabilityData
  read_over : CapabilityInterface

/-- An attempt at a source, with the reason where it was not made. -/
structure SourceAttempt extends Attempt where
  reason : Option String := none

/-- Where the data of a response were read. -/
structure Provenance where
  source_interface : String
  source_operation : String
  fallback_used : Bool
  fallback_policy : CapabilityFallbackPolicy
  equivalence_evidence : String
  attempts : List SourceAttempt

/-- The response of `read_capability`. -/
structure CapabilityResponse where
  capability : String
  schema_version : Nat
  reading : Reading
  provenance : Provenance

/-- `_capability_response`, with the last of the attempts apart. -/
def capability_response (route : CapabilityRoute) (reading : Reading)
    (earlier : List SourceAttempt) (selected : SourceAttempt) (fallback_used : Bool) :
    CapabilityResponse := {
  capability := route.name
  schema_version := route.schema_version
  reading
  provenance := {
    source_interface := selected.interface
    source_operation := selected.operation
    fallback_used
    fallback_policy := route.fallback_policy
    equivalence_evidence := route.equivalence_evidence
    attempts := earlier ++ [selected] } }

/-- The attempt of the primary source of a route. -/
def primary_attempt (route : CapabilityRoute) (status : String) : SourceAttempt := {
  interface := route.primary_interface.name
  operation := route.primary_operation
  status }

/-- The attempt of TMP in the place of the primary source. -/
def tmp_attempt (route : CapabilityRoute) : SourceAttempt := {
  interface := CapabilityInterface.tmp_appv2.name
  operation := route.fallback_operation
  status := "ok" }

/-- The interface that a resource is read over, with how it was chosen. -/
structure ResourceReadContext where
  interface : CapabilityInterface
  source_operation : String
  attempts : List SourceAttempt
  identity_attempts : List Attempt
  fallback_used : Bool

/-- `interface in {"http_luci", "tmp_appv2"}`. -/
def interface_named (name : String) : Option CapabilityInterface :=
  if name = "http_luci" then some .http_luci
  else if name = "tmp_appv2" then some .tmp_appv2
  else none

/-- `_resource_read_context`: the interface that identified the controller. -/
def resource_read_context (inventory : Inventory) : Except PyError ResourceReadContext :=
  match interface_named inventory.identity_interface with
  | none => .error (value_error
      "Failed to select resource interface: unknown identity interface")
  | some interface => .ok {
      interface
      source_operation := inventory.identity_source
      attempts := inventory.identity_attempts.map fun attempt => { attempt with }
      identity_attempts := inventory.identity_attempts
      fallback_used := inventory.fallback_used }

/-- `_capability_read_context`: the interface that gave a capability. -/
def capability_read_context (capability : CapabilityResponse) (inventory : Inventory) :
    Except PyError ResourceReadContext :=
  match interface_named capability.provenance.source_interface with
  | none => .error (value_error
      "Failed to select resource interface: unknown capability interface")
  | some interface => .ok {
      interface
      source_operation := capability.provenance.source_operation
      attempts := capability.provenance.attempts
      identity_attempts := inventory.identity_attempts
      fallback_used := capability.provenance.fallback_used }

/-! ## `read_capability` -/

/-- What `read_capability` turns to: the inventory, the cache, and the two readers. -/
inductive ReadStep where
  | device_inventory
  | device_cache
  | read_http_capability (name : String) (include_passwords : Bool)
  | read_tmp_capability (name : String) (include_passwords : Bool)

/-- The answer to each step. -/
abbrev ReadStep.Answer : ReadStep → Type
  | .device_inventory => Except PyError Inventory
  | .device_cache => Option (List Device)
  | .read_http_capability _ _ => Except PyError Reading
  | .read_tmp_capability _ _ => Except PyError Reading

/-- A read of a capability. Its steps are answered by the service. -/
abbrev ReadM := Dialogue ReadStep ReadStep.Answer PyError

/-- `_tmp_ssh_config`, whose `TmpSshConfig` checks itself. -/
def tmp_ssh_config (config : ServerConfig) (require_host_key : Bool) :
    Except PyError TmpSshConfig :=
  if config.tp_link_id = "" then
    .error (value_error "Failed to connect to TMP: DECO_TP_LINK_ID is not configured")
  else if config.password = "" then
    .error (value_error "Failed to connect to TMP: DECO_PASSWORD is not configured")
  else if require_host_key ∧ config.tmp_host_key_sha256 = "" then
    .error (value_error "Failed to connect to TMP: DECO_TMP_HOST_KEY_SHA256 is not configured")
  else TmpSshConfig.post_init {
    host := config.host
    tp_link_id := config.tp_link_id
    password := config.password
    host_key_sha256 := config.tmp_host_key_sha256
    timeout := config.timeout }

/-- The refusal of a read. -/
def read_error (message : String) : PyError :=
  permission_error s!"Failed to read capability: {message}"

variable (config : ServerConfig)

/-- The checks before the inventory. -/
def check_route (route : CapabilityRoute) : Except PyError Unit :=
  if route.sensitivity = .secret ∧ ¬ config.allow_sensitive_reads then
    .error (read_error "DECO_ALLOW_SENSITIVE_READS is disabled")
  else if route.primary_interface = .tmp_appv2 then
    if ¬ config.allow_tmp_reads then .error (read_error "DECO_ALLOW_TMP_READS is disabled")
    else do
      let _ ← tmp_ssh_config config true
      .ok ()
  else .ok ()

/-- Look into the cache. -/
def device_cache : ReadM (Option (List Device)) := Dialogue.question ReadStep.device_cache

/-- `_tmp_fallback_available`. -/
def tmp_fallback_available (sensitivity : SensitivityLevel) : ReadM Bool :=
  if ¬ tmp_identity_bootstrap_available config then pure false
  else do
    match ← device_cache with
    | none => pure false
    | some devices => do
      let controller ← Dialogue.lift (controller_device devices)
      pure (decide (profile_match controller = .exact) &&
        (decide (sensitivity ≠ .secret) || config.allow_sensitive_reads))

/-- Read over HTTP, and take the error as a value. -/
def read_http (name : String) (include_passwords : Bool) : ReadM (Except PyError Reading) :=
  Dialogue.question (ReadStep.read_http_capability name include_passwords)

/-- Read over TMP. -/
def read_tmp (name : String) (include_passwords : Bool) : ReadM Reading := do
  let answer ← Dialogue.question (ReadStep.read_tmp_capability name include_passwords)
  Dialogue.lift answer

/-- The answer for `mesh_nodes`, from the inventory. The source of its reading is the one
that the inventory names. -/
def mesh_nodes_response (route : CapabilityRoute) (inventory : Inventory) : CapabilityResponse :=
  let reading : Reading := {
    data := .nodes inventory.nodes
    read_over := (interface_named inventory.identity_interface).getD .http_luci }
  let attempts : List SourceAttempt := inventory.identity_attempts.map fun attempt => { attempt with }
  match attempts.reverse with
  | [] => capability_response route reading [] {
      interface := "http_luci", operation := route.primary_operation, status := "ok" }
      inventory.fallback_used
  | selected :: earlier =>
    capability_response route reading earlier.reverse selected inventory.fallback_used

/-- A route whose primary source is TMP. -/
def read_primary_tmp (route : CapabilityRoute) (inventory : Inventory)
    (include_passwords : Bool) : ReadM CapabilityResponse :=
  if inventory.profile_match ≠ .exact then
    .raised (read_error "no exact compatibility evidence")
  else do
    let reading ← read_tmp route.name include_passwords
    pure (capability_response route reading [] (primary_attempt route "ok") false)

/-- The identity came over TMP, so that TMP answers this route too. -/
def read_selected_tmp (route : CapabilityRoute) (include_passwords : Bool) :
    ReadM CapabilityResponse := do
  let reading ← read_tmp route.name include_passwords
  let skipped : SourceAttempt := {
    primary_attempt route "skipped" with reason := some "identity_bootstrap_selected_tmp" }
  pure (capability_response route reading [skipped] (tmp_attempt route) true)

/-- The `except` clause of the HTTP read. -/
def read_fallback (route : CapabilityRoute) (include_passwords : Bool) (primary_error : PyError) :
    ReadM CapabilityResponse :=
  if route.fallback_policy ≠ .equivalent_read_only ∨ route.fallback_interface ≠ some .tmp_appv2 then
    .raised primary_error
  else do
    let available ← tmp_fallback_available config route.sensitivity
    if ¬ available then .raised primary_error
    else do
      let reading ← read_tmp route.name include_passwords
      let failed : SourceAttempt := {
        primary_attempt route "error" with error_type := some primary_error.cls.name }
      pure (capability_response route reading [failed] (tmp_attempt route) true)

/-- A route that starts with HTTP. -/
def read_http_first (route : CapabilityRoute) (include_passwords : Bool) :
    ReadM CapabilityResponse := do
  match ← read_http route.name include_passwords with
  | .ok reading => pure (capability_response route reading [] (primary_attempt route "ok") false)
  | .error primary_error =>
    if primary_error.isinstance [.ApiError, .TransportError, .ValueError] then
      read_fallback config route include_passwords primary_error
    else .raised primary_error

/-- `context.interface == "tmp_appv2"` and the two conditions after it. -/
def selects_tmp (route : CapabilityRoute) (context : ResourceReadContext) : ReadM Bool :=
  if context.interface = .tmp_appv2 ∧ route.fallback_interface = some .tmp_appv2 then
    tmp_fallback_available config route.sensitivity
  else pure false

/-- `read_capability` after the checks, for the capabilities other than `mesh_nodes`. -/
def read_route (route : CapabilityRoute) (inventory : Inventory) (include_passwords : Bool) :
    ReadM CapabilityResponse :=
  if route.primary_interface = .tmp_appv2 then read_primary_tmp route inventory include_passwords
  else do
    let context ← Dialogue.lift (resource_read_context inventory)
    let selected ← selects_tmp config route context
    if selected then read_selected_tmp route include_passwords
    else read_http_first config route include_passwords

/-- Ask for the inventory. -/
def read_inventory : ReadM Inventory := do
  let answer ← Dialogue.question ReadStep.device_inventory
  Dialogue.lift answer

/-- `DecoService.read_capability`. -/
def read_capability (name : String) (include_passwords : Bool) : ReadM CapabilityResponse :=
  if include_passwords ∧ name ≠ "wlan_state" then
    .raised (value_error
      "Failed to read capability: password inclusion is supported only for WLAN state")
  else
    match get_capability_route name with
    | none => .raised (value_error s!"Failed to read capability: unknown capability '{name}'")
    | some route => do
      Dialogue.lift (check_route config route)
      let inventory ← read_inventory
      if name = "mesh_nodes" then pure (mesh_nodes_response route inventory)
      else read_route config route inventory include_passwords

end tplink_deco_api.service
