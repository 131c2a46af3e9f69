-- The methods that plan, check, verify or send a mutation, and the closing of the
-- service. Only `invoke_mutation` and the no-op verification send a write.
import TplinkDeco.Lib.JsonText
import TplinkDeco.Surface.SemanticReads

open dialogue dict json text

namespace tplink_deco_api.surface

open endpoint_catalog exceptions http_noop_verification service tmp_batches tmp_client

variable (views : Views) (config : ServerConfig) (catalog : TmpOpcodeCatalog)

/-! ## Semantic plans -/

/-- The part of `DecoService.capabilities` that asks: the inventory. -/
def capabilities : SurfaceM Inventory := device_inventory views config catalog

/-- The part of `DecoService.semantic_mutations` that asks. -/
def semantic_mutations : SurfaceM Inventory := device_inventory views config catalog

/-- The same of `DecoService.semantic_mutation`, for a name that is known. -/
def semantic_mutation (name : String) : SurfaceM Inventory :=
  if name ∉ SEMANTIC_MUTATIONS then
    .raised (value_error s!"Failed to read semantic mutation: unknown mutation '{name}'")
  else device_inventory views config catalog

/-- Whether the execution is allowed. -/
def preflight_semantic_mutation (name : String) (changes : JsonObject) (mode : String) :
    SurfaceM Bool := do
  Dialogue.lift (check_mode mode)
  let inventory ← semantic_mutations views config catalog
  Dialogue.lift (execution_allowed config name changes mode inventory.profile_match)

/-- Change the pending plans. -/
def set_plans (f : Dict String PendingMutationPlan → Dict String PendingMutationPlan) :
    SurfaceM Unit :=
  update fun d => { d with service := { d.service with
    pending_mutation_plans := f d.service.pending_mutation_plans } }

/-- `_controller_identity`. -/
def cached_identity : SurfaceM String := do
  let d ← desk
  Dialogue.lift (controller_identity d.service.device_cache)

/-- The part of `plan_semantic_mutation` that stores a plan. -/
def register_plan (plan_id name mode confirmation : String) (expires_at : Rat) :
    SurfaceM Unit := do
  let controller_identity ← cached_identity
  set_plans fun plans => plans.set plan_id {
    plan_id, mutation := name, mode, confirmation, controller_identity, expires_at }

/-- `now` is the time, and `token` the new plan id. The answer is the id of the plan. -/
def plan_semantic_mutation (name : String) (changes : JsonObject) (mode : String) (now : Rat)
    (token : String) : SurfaceM (Option String) := do
  let allowed ← preflight_semantic_mutation views config catalog name changes mode
  match allowed, get_mutation_capability_route name with
  | true, some route => do
    register_plan token name mode route.confirmation (now + SEMANTIC_PLAN_TTL_SECONDS)
    pure (some token)
  | _, _ => pure none

/-- `DecoService.semantic_mutation_plan`: a plan that has expired is dropped. -/
def semantic_mutation_plan (plan_id : String) (now : Rat) : SurfaceM PendingMutationPlan := do
  let d ← desk
  match d.service.pending_mutation_plans.get? plan_id with
  | none => .raised (unknown_plan "read semantic mutation plan")
  | some plan =>
    if plan.expires_at ≤ now then do
      set_plans (·.erase plan_id)
      .raised (expired_plan "read semantic mutation plan")
    else pure plan

/-! ## The no-op verification -/

/-- `_require_exact_p9_profile`, for the one label that it is called with. -/
def require_exact_p9_profile : SurfaceM Unit := do
  let inventory ← device_inventory views config catalog
  if inventory.profile_match ≠ .exact then
    .raised (permission_error ("Failed to verify P9 HTTP no-op: " ++
      "connected controller lacks the exact verified P9 profile"))
  else pure ()

/-- How the verifier ends on these answers. It never waits. -/
def noop_outcome (operation confirmation : String) (answers : Nat → Except PyError ApiResponse) :
    Except PyError HttpNoopVerificationResult :=
  match (verify_http_setting_noop operation confirmation { answers }).1 with
  | .ok result => .ok result
  | .raised e => .error e
  | .waiting => .error timed_out

/-- Close the latch for the rest of the process. -/
def set_latch : SurfaceM Unit :=
  update fun d => { d with service := { d.service with http_mutation_latched := true } }

/-- The calls of the verifier, and the latch after them. -/
def run_verifier (operation confirmation : String) : SurfaceM HttpNoopVerificationResult := do
  let answers ← send (.http_noop operation)
  let result ← Dialogue.lift (noop_outcome operation confirmation answers)
  if result.verified_noop then pure result
  else do
    set_latch
    pure result

/-- The section of `verify_p9_http_noop` that holds the lock. -/
def noop_section (operation confirmation : String) : SurfaceM HttpNoopVerificationResult := do
  let d ← desk
  if d.service.http_mutation_latched then .raised latched_error
  else do
    get_client config
    run_verifier operation confirmation

/-- `DecoService.verify_p9_http_noop`: the gates, the profile, and the section with the lock. -/
def verify_p9_http_noop (operation confirmation : String) :
    SurfaceM HttpNoopVerificationResult := do
  Dialogue.lift (check_p9_http_noop config operation confirmation)
  require_exact_p9_profile views config catalog
  noop_section config operation confirmation

/-- `DecoService.verify_setting_noop`, under the name of the setting. -/
def verify_setting_noop (name confirmation : String) : SurfaceM HttpNoopVerificationResult := do
  let operation ← Dialogue.lift (setting_noop_operation name confirmation)
  verify_p9_http_noop views config catalog operation confirmation

/-- The section of `execute_semantic_mutation`. -/
def claim_plan (plan_id confirmation : String) (now : Rat) : SurfaceM PendingMutationPlan := do
  let d ← desk
  match d.service.pending_mutation_plans.get? plan_id with
  | none => .raised (unknown_plan "execute semantic mutation")
  | some plan =>
    if plan.expires_at < now then do
      set_plans (·.erase plan_id)
      .raised (expired_plan "execute semantic mutation")
    else if confirmation ≠ plan.confirmation then .raised confirmation_required
    else do
      let _ ← device_inventory views config catalog true
      let identity ← cached_identity
      set_plans (·.erase plan_id)
      if identity ≠ plan.controller_identity then .raised controller_changed
      else pure plan

/-- `DecoService.execute_semantic_mutation`: a plan is used up before its mutation is verified. -/
def execute_semantic_mutation (plan_id confirmation : String) (now : Rat) :
    SurfaceM HttpNoopVerificationResult := do
  let plan ← claim_plan views config catalog plan_id confirmation now
  if plan.mode ≠ VERIFY_MODE then .raised unsupported_mode
  else verify_setting_noop views config catalog plan.mutation confirmation

/-! ## The plans of single operations -/

/-- `_FORM_READ_NAMES`. -/
def FORM_READ_NAMES : List ((String × String) × String) := [
  (("admin/network", "wan_mode"), "admin.network.wan_mode.read"),
  (("admin/network", "lan_ip"), "admin.network.lan_ip.read"),
  (("admin/network", "vlan"), "admin.network.vlan.read"),
  (("admin/network", "mac_clone"), "admin.network.mac_clone.read"),
  (("admin/wireless", "operation_mode"), "admin.wireless.operation_mode.read"),
  (("admin/wireless", "ieee80211r"), "admin.wireless.ieee80211r.read"),
  (("admin/wireless", "beamforming"), "admin.wireless.beamforming.read"),
  (("admin/device", "device_list"), "admin.device.device_list.read"),
  (("admin/device", "speedtest"), "admin.device.speedtest.read"),
  (("admin/device", "timesetting"), "admin.device.timesetting.read"),
  (("locale", "lang"), "locale.lang.read"),
  (("locale", "country"), "locale.country.read"),
  (("admin/client", "black_list"), "admin.client.black_list.list"),
  (("admin/client", "addr_reservation"), "admin.client.addr_reservation.getlist"),
  (("admin/cloud", "nickname"), "admin.cloud.nickname.read"),
  (("admin/cloud", "firmware_status"), "admin.cloud.firmware_status.read"),
  (("admin/log_export", "feedback_log"), "admin.log_export.feedback_log.read")]

/-- The scopes of the observations in `p9_mutation_compatibility.json`. -/
def MUTATION_TEST_SCOPES : List (String × String) := [
  ("admin.client.addr_reservation.modify", "noop_only"),
  (BEAMFORMING_WRITE, "noop_only"),
  (IEEE80211R_WRITE, "noop_only"),
  (TIMESETTING_WRITE, "noop_only"),
  ("admin.log_export.feedback_log.build", "general")]

/-- What the profile of the P9 says of a mutation. The error code of each observation is 0. -/
def mutation_compatibility (name : String) : OperationCompatibility :=
  match MUTATION_TEST_SCOPES.lookup name with
  | some scope =>
    { mutation_tested := true, mutation_test_scope := scope, error_code := some 0 }
  | none => {}

/-- `get_compatibility_profile(model).get(name)`. -/
def model_compatibility (model name : String) : Except PyError OperationCompatibility :=
  if upper (strip model) ≠ "P9" then
    .error { cls := .KeyError, message := s!"Unknown Deco model compatibility profile: {model}" }
  else .ok (mutation_compatibility name)

variable (float_repr : Option Rat → String)

/-- `_confirmation_sha256`. -/
def confirmation_sha256 (name : String) (params : JsonObject) : String :=
  sha256.hexdigest (encode (dumps float_repr (.obj [("name", .str name), ("params", .obj params)])))

/-- The fields of a `MutationPlan` that the service reads. -/
structure MutationPlan where
  name : String
  params : JsonObject
  preflight_read : String
  confirmation_sha256 : String

/-- `build_mutation_plan`: the parameters as they are selected, and the hash that binds them. -/
def build_mutation_plan (e : EndpointSpec) (params : Option JsonObject) : MutationPlan :=
  let selected_params := (e.selected_params params).getD []
  { name := e.name
    params := selected_params
    preflight_read := (FORM_READ_NAMES.lookup (e.path, e.form)).getD ""
    confirmation_sha256 := confirmation_sha256 float_repr e.name selected_params }

/-! ## `preflight_mutation` -/

/-- `_HTTP_LIVE_PREFLIGHT_NAMES`. -/
def HTTP_LIVE_PREFLIGHT_NAMES : List String := [
  "admin.network.wan_mode.write",
  IEEE80211R_WRITE,
  BEAMFORMING_WRITE,
  "admin.wireless.operation_mode.write",
  TIMESETTING_WRITE,
  "admin.client.black_list.add",
  "admin.client.black_list.remove",
  "admin.client.addr_reservation.add",
  "admin.client.addr_reservation.modify",
  "admin.client.addr_reservation.remove"]

/-- The refusal of parameters that no preflight accepts. -/
def preflight_error (message : String) : Except PyError Unit :=
  .error (value_error s!"Failed to preflight mutation: {message}")

/-- `_mutation_mac`. -/
def check_mac (params : JsonObject) (key : String) : Except PyError Unit :=
  match (get params key).asStr with
  | some value =>
    if is_mac (normalize_mac value) then .ok ()
    else preflight_error s!"{key} must be a MAC address"
  | none => preflight_error s!"{key} must be a MAC address"

/-- An octet of an IPv4 address: up to three digits, with no zero before another digit. -/
def is_octet (part : String) : Bool :=
  let digits := part.toList
  digits ≠ [] && digits.length ≤ 3 && digits.all Char.isDigit &&
    (digits.length = 1 || digits.head? ≠ some '0') && part.toNat?.getD 256 ≤ 255

/-- `_mutation_ip`. -/
def check_ip (params : JsonObject) : Except PyError Unit :=
  let parts := ((get params "ip").asStr.getD "").splitOn "."
  if parts.length = 4 ∧ parts.all is_octet then .ok ()
  else preflight_error "ip must be an IPv4 address"

/-- `_mutation_string`. -/
def check_string (params : JsonObject) (key : String) : Except PyError Unit :=
  if ((get params key).asStr.getD "") ≠ "" then .ok ()
  else preflight_error s!"{key} must be a non-empty string"

/-- `_mutation_bool`. -/
def check_bool (params : JsonObject) (key : String) : Except PyError Unit :=
  if (get params key).asBool.isSome then .ok ()
  else preflight_error s!"{key} must be a boolean"

/-- The check, where the key is there. -/
def check_given (check : JsonObject → String → Except PyError Unit) (params : JsonObject)
    (key : String) : Except PyError Unit :=
  if (params.lookup key).isSome then check params key else .ok ()

/-- `_validate_reservation_mutation_params`. -/
def validate_reservation_mutation_params (plan : MutationPlan) : Except PyError Unit := do
  check_mac plan.params "mac"
  if plan.name.endsWith ".add" ∨ plan.name.endsWith ".modify" then check_ip plan.params
  else .ok ()
  check_given check_mac plan.params "old_mac"

/-- `_validate_live_preflight_params`: each operation has its own fields. -/
def validate_live_preflight_params (plan : MutationPlan) : Except PyError Unit :=
  if plan.name.startsWith "admin.client.addr_reservation." then
    validate_reservation_mutation_params plan
  else if plan.name ∈ ["admin.network.wan_mode.write", "admin.wireless.operation_mode.write"] then
    check_string plan.params "mode"
  else if plan.name ∈ [IEEE80211R_WRITE, BEAMFORMING_WRITE] then check_bool plan.params "enable"
  else if plan.name = TIMESETTING_WRITE then do
    check_string plan.params "timezone"
    check_string plan.params "continent"
    check_string plan.params "tz_region"
  else do
    check_mac plan.params "mac"
    check_given check_string plan.params "name"
    check_given check_string plan.params "client_type"

/-- What the preflight looks at, if there is one. -/
inductive Preflight where
  | unsupported
  | state (response : ApiResponse)
  | reservations (table : Json)

/-- The reads of a preflight that is known. -/
def preflight_read (e : EndpointSpec) (plan : MutationPlan) : SurfaceM Preflight :=
  if e.path ≠ "admin/client" ∨ e.form ≠ "addr_reservation" then do
    let response ← read_endpoint config plan.preflight_read
    pure (.state response)
  else do
    let table ← with_relogin config SESSION_ERRORS (get_address_reservations views)
    pure (.reservations table)

/-- `DecoService.preflight_mutation`, up to the live read. What it evaluates comes after. -/
def preflight_mutation (name : String) (params : Option JsonObject) (model : String) :
    SurfaceM Preflight := do
  let e ← Dialogue.lift (get_endpoint name)
  if e.safety = .read_only then
    .raised (permission_error "Failed to preflight mutation: operation is read-only")
  else do
    Dialogue.lift (e.validate_params params)
    let _ ← Dialogue.lift (model_compatibility model name)
    let plan := build_mutation_plan float_repr e params
    if plan.preflight_read = "" ∨ e.name ∉ HTTP_LIVE_PREFLIGHT_NAMES then pure .unsupported
    else do
      Dialogue.lift (validate_live_preflight_params plan)
      preflight_read views config e plan

/-! ## `invoke_mutation` -/

/-- The refusal of a mutation. -/
def mutate_error (message : String) : Except PyError Unit :=
  .error (permission_error s!"Failed to mutate endpoint: {message}")

/-- The gate of a safety class. -/
def safety_gate (safety : SafetyLevel) : Bool :=
  match safety with
  | .read_only => true
  | .mutation => config.allow_mutations
  | .destructive => config.allow_destructive
  | .internal => config.allow_internal

/-- The text for a gate that is closed. -/
def gate_message (safety : SafetyLevel) : String :=
  match safety with
  | .read_only => ""
  | .mutation => "mutations require DECO_ALLOW_MUTATIONS=1"
  | .destructive => "destructive calls require DECO_ALLOW_DESTRUCTIVE=1"
  | .internal => "internal calls require DECO_ALLOW_INTERNAL=1"

/-- The checks of the operation, before its parameters. -/
def check_invocation (e : EndpointSpec) (name confirmation : String) : Except PyError Unit :=
  if e.safety = .read_only then mutate_error "use the read operation for read-only calls"
  else if confirmation ≠ name then mutate_error "confirmation must exactly match its name"
  else if ¬ safety_gate config e.safety then mutate_error (gate_message e.safety)
  else if ¬ e.generic_call_supported then
    mutate_error (s!"transport '{authentication_name e.authentication}' " ++
      "is catalogued but not supported by the owner-session client")
  else .ok ()

/-- The checks of the plan and of the evidence. -/
def check_plan (e : EndpointSpec) (name : String) (params : Option JsonObject)
    (plan_confirmation model : String) : Except PyError Unit := do
  let compatibility ← model_compatibility model name
  if plan_confirmation ≠ (build_mutation_plan float_repr e params).confirmation_sha256 then
    mutate_error "plan confirmation must match the reviewed parameters"
  else if ¬ compatibility.mutation_tested then
    mutate_error s!"{name} has not been verified on {model}"
  else if compatibility.mutation_test_scope ≠ "general" then
    mutate_error s!"{name} verification is limited to {compatibility.mutation_test_scope}"
  else .ok ()

/-- All that `invoke_mutation` checks before it turns to the client. -/
def check_invoke_mutation (name : String) (params : Option JsonObject)
    (confirmation plan_confirmation model : String) : Except PyError EndpointSpec := do
  let e ← get_endpoint name
  check_invocation config e name confirmation
  e.validate_params params
  check_plan float_repr e name params plan_confirmation model
  .ok e

/-- `DecoService.invoke_mutation`: every check is made before the client is there. -/
def invoke_mutation (name : String) (params : Option JsonObject)
    (confirmation plan_confirmation model : String) : SurfaceM ApiResponse := do
  let e ← Dialogue.lift (check_invoke_mutation config float_repr name params confirmation
    plan_confirmation model)
  get_client config
  call e params

/-! ## `close` -/

/-- `client.logout()`, of a client that is authenticated. -/
def logout (client : Option Bool) : SurfaceM Unit :=
  if client = some true then do
    let error ← send .logout
    raise_some error
  else pure ()

/-- An error of the TMP client takes the place of one of the logout. Where there is no TMP
client, its closing gives none. -/
def close : SurfaceM Unit := do
  let d ← desk
  update fun d => {
    service := { d.service with
      client := none
      device_cache := none
      device_resolution := none
      pending_mutation_plans := Dict.empty }
    listed_over := none }
  let outcome ← attempt (logout d.service.client)
  let error ← send .tmp_close
  raise_some error
  Dialogue.lift outcome

end tplink_deco_api.surface
