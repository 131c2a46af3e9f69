-- The shared state of `DecoService`, and its sections that hold the lock: the
-- device cache, the pending mutation plans, and the latch of the HTTP writes.
import Mathlib.Algebra.Order.Ring.Unbundled.Rat
import TplinkDeco.Lib.Dict
import TplinkDeco.Lib.Prog
import TplinkDeco.Service.Devices
import TplinkDeco.Service.Transport

open dict json prog text

namespace tplink_deco_api.service

open exceptions http_noop_verification

/-- The settings that the service reads. -/
structure ServerConfig where
  host : String := "192.168.68.1"
  password : String
  timeout : Rat := 60
  tp_link_id : String := ""
  tmp_host_key_sha256 : String := ""
  allow_sensitive_reads : Bool := false
  allow_bulk_secret_reads : Bool := false
  allow_binary_content : Bool := false
  allow_mutations : Bool := false
  allow_destructive : Bool := false
  allow_internal : Bool := false
  allow_tmp_reads : Bool := false
  allow_unverified_tmp_reads : Bool := false
  allow_http_noop_verification : Bool := false

/-- The error of a wait without an end. -/
def timed_out : PyError := { cls := .TimeoutError, message := "timed out" }

/-- What the outside gives to one section: the clock, a new token, how a login and each
request would end, and what each POST of the HTTP verifier gives. -/
structure Outside where
  now : Rat := 0
  token : String := ""
  login : Option PyError := none
  http_devices : Except PyError (List Device) := .ok []
  tmp_devices : Except PyError (List Device) := .ok []
  clients_by_node : Option PyError := none
  safe_url : String := ""
  posted : Nat → Except PyError (Except PyError ApiResponse) := fun _ => .error timed_out
  logout : Option PyError := none
  tmp_close : Option PyError := none

/-- The answers to the calls of the HTTP verifier. -/
def Outside.answers (x : Outside) (n : Nat) : Except PyError ApiResponse :=
  transport.answer x.safe_url (x.posted n)

/-! ## The state -/

/-- One attempt to list the nodes. -/
structure Attempt where
  interface : String
  operation : String
  status : String
  error_type : Option String := none
deriving DecidableEq, Repr

/-- Where the nodes were listed, and what was tried before. -/
structure DeviceInventoryResolution where
  devices : List Device
  source_interface : String
  source_operation : String
  attempts : List Attempt
  fallback_used : Bool
deriving DecidableEq, Repr

/-- A plan that waits for its confirmation. -/
structure PendingMutationPlan where
  plan_id : String
  mutation : String
  mode : String
  confirmation : String
  controller_identity : String
  expires_at : Rat
deriving DecidableEq, Repr

/-- `client` is the shared HTTP client, if there is one, and whether it is authenticated. -/
structure DecoService where
  client : Option Bool := none
  device_cache : Option (List Device) := none
  device_resolution : Option DeviceInventoryResolution := none
  pending_mutation_plans : Dict String PendingMutationPlan := Dict.empty
  http_mutation_latched : Bool := false

/-- A section of the service. Its state is that of the service. -/
abbrev ServiceM := Prog PyError DecoService

variable (config : ServerConfig)

/-- Raise what came back, if an error did. -/
def raise_some (error : Option PyError) : ServiceM Unit :=
  match error with
  | none => pure ()
  | some e => Prog.raise e

/-- `_get_client`: log in if there is no session. -/
def get_client (x : Outside) : ServiceM Unit := fun s =>
  if config.password = "" then
    (.raised (value_error "Failed to connect to Deco: DECO_PASSWORD is not configured"), s)
  else if s.client = some true then (.ok (), s)
  else
    match x.login with
    | none => (.ok (), { s with client := some true })
    | some e => (.raised e, { s with client := some false })

/-! ## The device cache -/

/-- The read that lists the nodes over HTTP. -/
def HTTP_DEVICE_LIST : String := "admin.device.device_list.read"

/-- The opcode that lists them over TMP. -/
def TMP_DEVICE_LIST : String := "0x400F"

/-- `_read_http_device_inventory`. -/
def read_http_device_inventory (x : Outside) : ServiceM (List Device) := do
  get_client config x
  let devices ← Prog.lift x.http_devices
  Prog.lift (validate_device_inventory devices)
  pure devices

/-- `_read_tmp_device_inventory`. -/
def read_tmp_device_inventory (x : Outside) : ServiceM (List Device) := do
  let devices ← Prog.lift x.tmp_devices
  Prog.lift (validate_device_inventory devices)
  pure devices

/-- `_tmp_identity_bootstrap_available`. -/
def tmp_identity_bootstrap_available : Bool :=
  config.allow_tmp_reads && config.tp_link_id ≠ "" && config.password ≠ "" &&
    config.tmp_host_key_sha256 ≠ ""

/-- `_resolve_device_inventory`: HTTP first, and TMP if that is allowed. -/
def resolve_device_inventory (x : Outside) : ServiceM DeviceInventoryResolution := do
  match ← (read_http_device_inventory config x).trying
      (·.isinstance [.TransportError, .ValueError]) with
  | .ok devices =>
    pure {
      devices
      source_interface := "http_luci"
      source_operation := HTTP_DEVICE_LIST
      attempts := [{ interface := "http_luci", operation := HTTP_DEVICE_LIST, status := "ok" }]
      fallback_used := false }
  | .error primary_error =>
    if ¬ tmp_identity_bootstrap_available config then Prog.raise primary_error
    else do
      let devices ← read_tmp_device_inventory x
      pure {
        devices
        source_interface := "tmp_appv2"
        source_operation := TMP_DEVICE_LIST
        attempts := [
          { interface := "http_luci", operation := HTTP_DEVICE_LIST, status := "error",
            error_type := some primary_error.cls.name },
          { interface := "tmp_appv2", operation := TMP_DEVICE_LIST, status := "ok" }]
        fallback_used := true }

/-- The result of `device_inventory`. -/
structure Inventory where
  controller : Device
  nodes : List Device
  identity_source : String
  identity_interface : String
  identity_attempts : List Attempt
  fallback_used : Bool
  profile_match : ProfileMatch
  router_contacted : Bool

/-- `if refresh or self._device_cache is None`, with what it reads. -/
def refresh_cache (refresh : Bool) (x : Outside) : ServiceM Bool := fun s =>
  if refresh = true ∨ s.device_cache = none then
    (do
      let resolution ← resolve_device_inventory config x
      fun s => (.ok true, { s with
        device_cache := some resolution.devices, device_resolution := some resolution }) :
      ServiceM Bool) s
  else (.ok false, s)

/-- The view of the cached devices, with the resolution that a cache without one stands for. -/
def inventory_view (router_contacted : Bool) (devices : List Device)
    (resolution : Option DeviceInventoryResolution) : Except PyError Inventory := do
  let resolution := resolution.getD {
    devices, source_interface := "http_luci", source_operation := HTTP_DEVICE_LIST
    attempts := [], fallback_used := false }
  let controller ← controller_device devices
  .ok {
    controller
    nodes := devices
    identity_source := resolution.source_operation
    identity_interface := resolution.source_interface
    identity_attempts := resolution.attempts
    fallback_used := resolution.fallback_used
    profile_match := profile_match controller
    router_contacted }

/-- The answer is made of the cache. -/
def cached_inventory (router_contacted : Bool) : ServiceM Inventory := fun s =>
  Prog.lift (inventory_view router_contacted (s.device_cache.getD []) s.device_resolution) s

/-- `DecoService.device_inventory`. -/
def device_inventory (refresh : Bool) (x : Outside) : ServiceM Inventory := do
  let router_contacted ← refresh_cache config refresh x
  cached_inventory router_contacted

/-- Store nodes without a resolution. -/
def set_device_cache (devices : List Device) : ServiceM Unit := fun s =>
  (.ok (), { s with device_cache := some devices })

/-- `DecoService.mesh_overview`, as far as the nodes. -/
def mesh_overview (x : Outside) : ServiceM (List Device) := do
  if ¬ config.allow_sensitive_reads then
    Prog.raise (permission_error
      "Failed to read mesh overview: DECO_ALLOW_SENSITIVE_READS=1 is required")
  else do
    get_client config x
    let devices ← Prog.lift x.http_devices
    set_device_cache devices
    raise_some x.clients_by_node
    pure devices

/-- The cached devices, or those that the router lists. An empty cache counts as none. -/
def cached_or_listed (x : Outside) : ServiceM (List Device) := fun s =>
  match s.device_cache with
  | some (device :: devices) => (.ok (device :: devices), s)
  | _ => Prog.lift x.http_devices s

/-- `_read_http_capability("mesh_nodes")`. -/
def read_http_mesh_nodes (x : Outside) : ServiceM (List Device) := do
  get_client config x
  let devices ← cached_or_listed x
  set_device_cache devices
  pure devices

/-- `close`. An error of the second closing takes the place of one of the first. -/
def close (x : Outside) : ServiceM Unit := fun s =>
  (match x.tmp_close with
    | some e => .raised e
    | none =>
      match s.client, x.logout with
      | some true, some e => .raised e
      | _, _ => .ok (),
  { s with
    client := none, device_cache := none, device_resolution := none
    pending_mutation_plans := Dict.empty })

/-! ## The mutation routes -/

/-- How a setting is changed. -/
structure MutationCapabilityRoute where
  name : String
  interface : String
  operation : String
  confirmation : String
  required_environment_gates : List String

/-- The route of a setting that a no-op can verify. -/
def http_noop_route (name operation : String) : MutationCapabilityRoute := {
  name
  interface := "http_luci"
  operation
  confirmation := (HTTP_NOOP_CONFIRMATIONS operation).getD ""
  required_environment_gates := ["DECO_ALLOW_MUTATIONS", "DECO_ALLOW_HTTP_NOOP_VERIFICATION"] }

/-- `MUTATION_CAPABILITY_ROUTES`. -/
def MUTATION_CAPABILITY_ROUTES : List MutationCapabilityRoute := [
  http_noop_route "beamforming" BEAMFORMING_WRITE,
  http_noop_route "fast_roaming" IEEE80211R_WRITE,
  http_noop_route "time_settings" TIMESETTING_WRITE]

/-- `get_mutation_capability_route`. -/
def get_mutation_capability_route (name : String) : Option MutationCapabilityRoute :=
  MUTATION_CAPABILITY_ROUTES.find? fun route => route.name = name

/-- `_mutation_gate_enabled`. -/
def mutation_gate_enabled (gate : String) : Bool :=
  if gate = "DECO_ALLOW_MUTATIONS" then config.allow_mutations
  else if gate = "DECO_ALLOW_HTTP_NOOP_VERIFICATION" then config.allow_http_noop_verification
  else if gate = "DECO_ALLOW_TMP_READS" then config.allow_tmp_reads
  else false

/-- The names of `_SEMANTIC_MUTATION_OPERATIONS`. -/
def SEMANTIC_MUTATIONS : List String := [
  "wan_mode", "lan_ip", "vlan", "mac_clone", "wireless_operation_mode", "fast_roaming",
  "beamforming", "remove_device", "speed_test_start", "speed_test_stop", "time_settings",
  "language", "country", "block_client", "unblock_client", "address_reservation_add",
  "address_reservation_modify", "address_reservation_remove", "nickname", "firmware_upgrade",
  "system_log_prepare", "monthly_report"]

/-! ## The mutation plans -/

/-- The mode of a plan that verifies. -/
def VERIFY_MODE : String := "verify_current_value_noop"

/-- How long a plan waits. -/
def SEMANTIC_PLAN_TTL_SECONDS : Rat := 300

/-- The modes that a plan may have. -/
def check_mode (mode : String) : Except PyError Unit :=
  if mode = "change" ∨ mode = VERIFY_MODE then .ok ()
  else .error (value_error s!"Failed to plan semantic mutation: unsupported mode '{mode}'")

/-- `execution_allowed` of `preflight_semantic_mutation`, from the inventory. -/
def execution_allowed (name : String) (changes : JsonObject) (mode : String)
    (profile : ProfileMatch) : Except PyError Bool :=
  if name ∉ SEMANTIC_MUTATIONS then
    .error (value_error s!"Failed to plan semantic mutation: unknown mutation '{name}'")
  else
    match get_mutation_capability_route name with
    | none => .ok false
    | some route => .ok (decide (mode = VERIFY_MODE) && changes.isEmpty &&
        decide (profile = .exact) &&
        route.required_environment_gates.all (mutation_gate_enabled config))

/-- `_controller_identity` of the cached devices. -/
def cached_controller_identity : ServiceM String := fun s =>
  Prog.lift (controller_identity s.device_cache) s

/-- The section of `plan_semantic_mutation` that stores the plan. -/
def store_plan (plan_id name mode confirmation : String) (expires_at : Rat) : ServiceM Unit :=
  fun s =>
    match controller_identity s.device_cache with
    | .error e => (.raised e, s)
    | .ok controller_identity =>
      (.ok (), { s with
        pending_mutation_plans := s.pending_mutation_plans.set plan_id {
          plan_id, mutation := name, mode, confirmation, controller_identity, expires_at } })

/-- The error of a plan that is not there. -/
def unknown_plan (action : String) : PyError := {
  cls := .UnknownPlanError
  message := s!"Failed to {action}: unknown plan ID" }

/-- The error of a plan that is too old. -/
def expired_plan (action : String) : PyError := {
  cls := .ExpiredPlanError
  message := s!"Failed to {action}: plan has expired" }

/-- The error of another confirmation. -/
def confirmation_required : PyError := {
  cls := .ConfirmationError
  message := "Failed to execute semantic mutation: exact plan confirmation is required" }

/-- The error of another controller. -/
def controller_changed : PyError := {
  cls := .ControllerChangedError
  message := "Failed to execute semantic mutation: connected controller identity changed" }

/-- The error of a plan that is not for a verification. -/
def unsupported_mode : PyError :=
  permission_error "Failed to execute semantic mutation: unsupported execution mode"

/-- Forget a plan. -/
def delete_plan (plan_id : String) : ServiceM Unit := fun s =>
  (.ok (), { s with pending_mutation_plans := s.pending_mutation_plans.erase plan_id })

/-- The section of `execute_semantic_mutation`. -/
def claim_plan (plan_id confirmation : String) (x : Outside) : ServiceM PendingMutationPlan :=
  fun s =>
    match s.pending_mutation_plans.get? plan_id with
    | none => (.raised (unknown_plan "execute semantic mutation"), s)
    | some plan =>
      (if plan.expires_at < x.now then do
        delete_plan plan_id
        Prog.raise (expired_plan "execute semantic mutation")
      else if confirmation ≠ plan.confirmation then Prog.raise confirmation_required
      else do
        let _ ← device_inventory config true x
        let identity ← cached_controller_identity
        if identity ≠ plan.controller_identity then do
          delete_plan plan_id
          Prog.raise controller_changed
        else do
          delete_plan plan_id
          pure plan : ServiceM PendingMutationPlan) s

/-- The section of `semantic_mutation_plan`. No time is left when the plan expires now. -/
def semantic_mutation_plan (plan_id : String) (x : Outside) : ServiceM PendingMutationPlan :=
  fun s =>
    match s.pending_mutation_plans.get? plan_id with
    | none => (.raised (unknown_plan "read semantic mutation plan"), s)
    | some plan =>
      (if plan.expires_at ≤ x.now then do
        delete_plan plan_id
        Prog.raise (expired_plan "read semantic mutation plan")
      else pure plan : ServiceM PendingMutationPlan) s

/-! ## The no-op verification -/

/-- The checks of `verify_setting_noop`: the operation of the mutation. -/
def setting_noop_operation (name confirmation : String) : Except PyError String :=
  match get_mutation_capability_route name with
  | none => .error (value_error s!"Failed to verify setting no-op: unknown capability '{name}'")
  | some route =>
    if confirmation ≠ route.confirmation then
      .error (permission_error
        "Failed to verify setting no-op: exact per-call confirmation is required")
    else if route.interface ≠ "http_luci" then
      .error (permission_error
        s!"Failed to verify setting no-op: no executor for capability '{name}'")
    else .ok route.operation

/-- What was tested of an operation on a model. -/
structure OperationCompatibility where
  mutation_tested : Bool := false
  mutation_test_scope : String := "none"
  error_code : Option Int := none

/-- `P9_COMPATIBILITY_PROFILE.get(operation)`, for the operations of the HTTP verifier. -/
def P9_COMPATIBILITY_PROFILE (operation : String) : OperationCompatibility :=
  if operation ∈ [BEAMFORMING_WRITE, IEEE80211R_WRITE, TIMESETTING_WRITE] then
    { mutation_tested := true, mutation_test_scope := "noop_only", error_code := some 0 }
  else {}

/-- The refusal of a verification. -/
def p9_noop_error (message : String) : PyError :=
  permission_error s!"Failed to verify P9 HTTP no-op: {message}"

/-- The checks of `verify_p9_http_noop` before its first section. -/
def check_p9_http_noop (operation confirmation : String) : Except PyError Unit :=
  match HTTP_NOOP_CONFIRMATIONS operation with
  | none =>
    .error (value_error s!"Failed to verify P9 HTTP no-op: unsupported operation '{operation}'")
  | some expected =>
    let compatibility := P9_COMPATIBILITY_PROFILE operation
    if confirmation ≠ expected then
      .error (p9_noop_error "exact per-call confirmation is required")
    else if ¬ config.allow_mutations then
      .error (p9_noop_error "DECO_ALLOW_MUTATIONS is disabled")
    else if ¬ config.allow_http_noop_verification then
      .error (p9_noop_error "DECO_ALLOW_HTTP_NOOP_VERIFICATION is disabled")
    else if ¬ compatibility.mutation_tested ∨ compatibility.mutation_test_scope ≠ "noop_only" ∨
        compatibility.error_code ≠ some 0 then
      .error (p9_noop_error "P9 safety evidence is incomplete")
    else .ok ()

/-- `_require_exact_p9_profile`. -/
def require_exact_p9_profile (x : Outside) : ServiceM Unit := do
  let inventory ← device_inventory config false x
  if inventory.profile_match ≠ .exact then
    Prog.raise (permission_error ("Failed to verify P9 HTTP no-op: " ++
      "connected controller lacks the exact verified P9 profile"))
  else pure ()

/-- The refusal after the latch has closed. -/
def latched_error : PyError := p9_noop_error "safety latch requires server restart"

/-- How the last section of `verify_p9_http_noop` ends, with the calls that it made. -/
structure NoopRun where
  outcome : Outcome PyError HttpNoopVerificationResult
  calls : List HttpCall := []

/-- The last section of `verify_p9_http_noop`. -/
def run_noop (operation confirmation : String) (x : Outside) (s : DecoService) :
    NoopRun × DecoService :=
  if s.http_mutation_latched then ({ outcome := .raised latched_error }, s)
  else
    match get_client config x s with
    | (.raised e, s) => ({ outcome := .raised e }, s)
    | (.waiting, s) => ({ outcome := .waiting }, s)
    | (.ok (), s) =>
      let run := verify_http_setting_noop operation confirmation { answers := x.answers }
      ({ outcome := run.1, calls := run.2.calls },
        match run.1 with
        | .ok result => if result.verified_noop then s else { s with http_mutation_latched := true }
        | _ => s)

end tplink_deco_api.service
