-- The probes of `tmp_unverified_read_probe.py` and `tmp_read_contract_probe.py`.
-- They keep the schemas of the responses, and no values.
import TplinkDeco.TmpClient.Batches

open bytes json prog script text

namespace tplink_deco_api.tmp_batches

open exceptions tmp_client tmp_protocol tmp_boolean_noop_verification

/-! ## What is kept of a response -/

mutual

def paths (path : String) : Json → List String
  | .null => [s!"{path}:null"]
  | .bool _ => [s!"{path}:boolean"]
  | .int _ => [s!"{path}:integer"]
  | .float _ => [s!"{path}:number"]
  | .str _ => [s!"{path}:string"]
  | .arr items => s!"{path}:array" :: item_paths s!"{path}[]" items
  | .obj fields => s!"{path}:object" :: field_paths path fields

def item_paths (path : String) : List Json → List String
  | [] => []
  | item :: items => paths path item ++ item_paths path items

def field_paths (path : String) : List (String × Json) → List String
  | [] => []
  | (key, child) :: fields => paths s!"{path}.{key}" child ++ field_paths path fields

end

/-- `sorted(_schema_paths(response))`. -/
def schema_paths (response : JsonObject) : List String :=
  (paths "$" (.obj response)).eraseDups.insertionSort (· ≤ ·)

/-- `value not in (None, {}, [], ())`. -/
def has_data : Json → Bool
  | .null => false
  | .obj [] => false
  | .arr [] => false
  | _ => true

/-- The error code that an answer has of the firmware. -/
def firmware_error_code (response : JsonObject) : Option Int :=
  (get response "error_code").asInt

/-- The status of an answer that was received. -/
def firmware_status (response : JsonObject) : String :=
  if firmware_error_code response = some 0 then
    if has_data (get response "result") then "returned_data" else "accepted_empty"
  else "payload_rejected"

/-! ## `probe_tmp_unverified_reads` -/

/-- `AppV2 error (\d+)`, where it is found first. -/
def appv2_error_code (message : List Char) : Option Nat :=
  match message with
  | [] => none
  | c :: rest =>
    let digits := ((c :: rest).drop "AppV2 error ".length).takeWhile Char.isDigit
    if "AppV2 error ".toList <+: c :: rest ∧ digits ≠ [] then (String.ofList digits).toNat?
    else appv2_error_code rest

/-- An answer as an object, or else as bytes. -/
inductive RawAnswer where
  | object (fields : JsonObject)
  | binary (content : Bytes)

/-- `loads`, under its `except` clause. -/
def parse_raw (response : RawResponse) : Except PyError RawAnswer :=
  match response.loaded with
  | .ok fields => .ok (.object fields)
  | .error e =>
    if e.isinstance [.UnicodeDecodeError, .ValueError] then .ok (.binary response.content)
    else .error e

/-- One read of a probe. -/
def raw_outcome (router : Router) (read : TmpRead) : ClientM (Except PyError RawAnswer) := do
  match ← (request_read router read.code).trying caught with
  | .error exc => pure (.error exc)
  | .ok response =>
    let answer ← Prog.lift (parse_raw response)
    pure (.ok answer)

/-- What one probe reports. -/
structure Observation where
  code : Nat
  hex_code : String
  name : String
  category : String
  sensitivity : Sensitivity
  variant : String
  parameter_keys : List String
  app_contract_status : TmpAppContractStatus
  app_candidate_parameter_keys : List String
  status : String
  error_type : String := ""
  appv2_error_code : Option Nat := none
  firmware_error_code : Option Int := none
  response_size : Option Nat := none
  response_sha256 : String := ""
  schema_paths : List String := []

/-- The names of the parameters. -/
def keys_of (params : Json) : List String :=
  match params with
  | .obj fields => sorted_keys fields
  | _ => []

/-- The status of a probe. -/
def probe_status (outcome : Except PyError RawAnswer) : String :=
  match outcome with
  | .error exc =>
    if (appv2_error_code exc.message.toList).isSome then "appv2_rejected" else "transport_error"
  | .ok (.binary _) => "returned_binary"
  | .ok (.object response) => firmware_status response

/-- `_observe`, once the request has ended. -/
def observation (opcode : TmpOpcode) (variant : String) (params : Json)
    (outcome : Except PyError RawAnswer) : Observation :=
  let base : Observation := {
    code := opcode.code
    hex_code := hex_code opcode.code
    name := opcode.name
    category := opcode.category
    sensitivity := opcode.sensitivity
    variant
    parameter_keys := keys_of params
    app_contract_status := opcode.app_contract_status
    app_candidate_parameter_keys := opcode.app_candidate_parameter_keys
    status := probe_status outcome }
  match outcome with
  | .error exc => { base with
      error_type := exc.cls.name
      appv2_error_code := appv2_error_code exc.message.toList }
  | .ok (.binary content) => { base with
      response_size := some content.length
      response_sha256 := sha256.hexdigest content }
  | .ok (.object response) => { base with
      firmware_error_code := firmware_error_code response
      schema_paths := schema_paths response }

/-- One step of the probes. -/
abbrev ProbeStep := Step TmpRead (Except PyError RawAnswer) Observation

/-- The probe of an opcode with one variant of its parameters. -/
def probe_step (opcode : TmpOpcode) (variant : String × Json) : ProbeStep :=
  .asks { code := opcode.code, params := variant.2 } (observation opcode variant.1 variant.2)

/-- `_variants`. -/
def variants (opcode : TmpOpcode) : List (String × Json) :=
  if opcode.app_contract_status = .static_null_payload then [("json_null", .null)]
  else [("json_null", .null), ("json_empty_object", .obj [])]

/-- Its probes with every variant. -/
def probe_steps (opcode : TmpOpcode) : List ProbeStep := (variants opcode).map (probe_step opcode)

/-- `_run_control`. -/
def control_step (control : TmpOpcode) (position : String) : ProbeStep :=
  probe_step control (s!"control_{position}_json_null", .null)

/-- The candidates of a run of probes, and what limits it. -/
structure ProbeSelection where
  candidates : List TmpOpcode
  include_sensitive : Bool
  max_operations : Option Nat

/-- The candidates that the app sends as writes. -/
def ProbeSelection.dispatch_set_operations (s : ProbeSelection) : List TmpOpcode :=
  s.candidates.filter fun opcode => "set" ∈ opcode.app_dispatch_methods

/-- The others. -/
def ProbeSelection.safe_candidates (s : ProbeSelection) : List TmpOpcode :=
  s.candidates.filter fun opcode => "set" ∉ opcode.app_dispatch_methods

/-- What is probed of those. -/
def ProbeSelection.selected (s : ProbeSelection) : List TmpOpcode :=
  let selected := s.safe_candidates.filter fun opcode =>
    s.include_sensitive ∨ opcode.sensitivity ≠ .secret
  match s.max_operations with
  | none => selected
  | some n => selected.take n

/-- The statuses of an opcode that works. -/
def POSITIVE_STATUSES : List String := ["accepted_empty", "returned_binary", "returned_data"]

/-- `dict(sorted(status_counts.items()))`. -/
def status_counts (observations : List Observation) : List (String × Nat) :=
  ((observations.map (·.status)).eraseDups.insertionSort (· ≤ ·)).map fun status =>
    (status, observations.countP (·.status = status))

/-- The report of a run of probes. -/
structure TmpUnverifiedReads where
  catalogued_untested_read_count : Nat
  safe_candidate_count : Nat
  selected_operation_count : Nat
  attempted_operation_count : Nat
  attempted_variant_count : Nat
  positive_operation_count : Nat
  status_counts : List (String × Nat)
  observations : List Observation
  control_observations : List Observation
  control_status_counts : List (String × Nat)
  session_control_passed : Bool
  include_sensitive : Bool
  sensitive_operation_count : Nat
  excluded_sensitive_operation_count : Nat
  excluded_dispatch_set_operations : List TmpOpcode

/-- The report of its observations. -/
def probe_result (s : ProbeSelection) (observations controls : List Observation) :
    TmpUnverifiedReads := {
  catalogued_untested_read_count := s.candidates.length
  safe_candidate_count := s.safe_candidates.length
  selected_operation_count := s.selected.length
  attempted_operation_count := (observations.map (·.code)).eraseDups.length
  attempted_variant_count := observations.length
  positive_operation_count :=
    ((observations.filter (·.status ∈ POSITIVE_STATUSES)).map (·.code)).eraseDups.length
  status_counts := status_counts observations
  observations
  control_observations := controls
  control_status_counts := status_counts controls
  session_control_passed := controls.all (·.status ∈ POSITIVE_STATUSES)
  include_sensitive := s.include_sensitive
  sensitive_operation_count := s.selected.countP (·.sensitivity = .secret)
  excluded_sensitive_operation_count :=
    if s.include_sensitive then 0 else s.safe_candidates.countP (·.sensitivity = .secret)
  excluded_dispatch_set_operations := s.dispatch_set_operations }

/-- The control read, the probes, and the control read again. -/
def probe_batch (s : ProbeSelection) (control : TmpOpcode) :
    Script TmpRead (Except PyError RawAnswer) TmpUnverifiedReads := do
  let before ← report [control_step control "before"]
  let observations ← report (s.selected.flatMap probe_steps)
  let after ← report [control_step control "after"]
  pure (probe_result s observations (before ++ after))

/-- The check of the limit, and the operations that the probe takes. -/
def select_unverified_reads (catalog : TmpOpcodeCatalog) (include_sensitive : Bool)
    (max_operations : Option Int) : Except PyError ProbeSelection :=
  if ∃ n ∈ max_operations, n ≤ 0 then
    .error (value_error "Failed to probe unverified TMP reads: limit must be positive")
  else .ok {
    candidates := catalog.opcodes.filter fun opcode =>
      opcode.safety = "read_only" ∧ opcode.p9_observation = .untested
    include_sensitive
    max_operations := max_operations.map Int.toNat }

/-- `probe_tmp_unverified_reads`. -/
def probe_tmp_unverified_reads (router : Router) (catalog : TmpOpcodeCatalog)
    (include_sensitive : Bool) (max_operations : Option Int) : ClientM TmpUnverifiedReads := do
  let selection ← Prog.lift (select_unverified_reads catalog include_sensitive max_operations)
  (probe_batch selection (catalog.get_tmp_opcode CONTROL_OPCODE control_listed)).run
    (raw_outcome router)

/-! ## `probe_tmp_read_contracts` -/

/-- The budget of a run of contract probes. -/
def MAX_ATTEMPTS : Nat := 60

/-- The modules that the app names. -/
def IOT_MODULE_NAMES : List String := [
  "zigbee", "tpra", "ble", "nest", "hue", "cloud", "network", "network_device", "notification",
  "tapo", "matter"]

/-- One read with inferred parameters. No other opcodes are probed. -/
structure ReadVariant where
  code : Nat
  label : String
  params : JsonObject
  value_source : String
  probed : code ∈ PROBED_CODES

/-- One variant for each value of a key. -/
def value_variants (code : Nat) (key : String) (values : List String) (value_source : String)
    (probed : code ∈ PROBED_CODES) : List ReadVariant :=
  (values.zipIdx 1).map fun (value, index) => {
    code
    label := s!"{key}_{index}"
    params := [(key, .str value)]
    value_source
    probed }

/-- The variants of the signed contracts, with the values that the app sends. -/
def static_variants : List ReadVariant := [
  { code := 0x403A
    label := "apk_cached_version"
    params := [("version", .int 1029)]
    value_source := "deco_android_1.10.5.OwnerDefaultWebsiteParams"
    probed := by decide },
  { code := 0x4049
    label := "apk_empty_iot_client_list"
    params := [("iot_client_list", .arr [])]
    value_source := "deco_android_1.10.5.ObtainIotDeviceParams"
    probed := by decide },
  { code := 0x4201
    label := "apk_category_version"
    params := [("version", .int 1)]
    value_source := "deco_android_1.10.5.CategoryOrRuleListParams"
    probed := by decide },
  { code := 0x4202
    label := "apk_rule_version"
    params := [("version", .int 1029)]
    value_source := "deco_android_1.10.5.CategoryOrRuleListParams"
    probed := by decide }]

/-- One variant for each module. -/
def module_variants : List ReadVariant :=
  IOT_MODULE_NAMES.map fun module_name => {
    code := 0x404B
    label := s!"inferred_module_{module_name}"
    params := [("module", .str module_name)]
    value_source := "deco_android_3.10.215.EnumIotModuleType"
    probed := by decide }

/-- The variants of one owner, over the last day. -/
def owner_variants (code : Nat) (owner_id : String) (now : Int)
    (probed : code ∈ PROBED_CODES) : List ReadVariant := [
  { code
    label := "owner_epoch_range"
    params := [("owner_id", .str owner_id), ("start_time", .int (now - 86400)),
      ("end_time", .int now)]
    value_source := "owner_list.owner_id"
    probed },
  { code
    label := "owner_pagination"
    params := [("owner_id", .str owner_id), ("page", .int 1), ("page_size", .int 20)]
    value_source := "owner_list.owner_id"
    probed }]

/-- `_build_variants`. -/
def build_variants (owner_ids : List String) (include_inferred_iot_module_contract : Bool)
    (now : Int) : List ReadVariant :=
  value_variants 0x402D "owner_id" owner_ids "owner_list.owner_id" (by decide) ++
  value_variants 0x402F "owner_id" owner_ids "owner_list.owner_id" (by decide) ++
  value_variants 0x4031 "owner_id" owner_ids "owner_list.owner_id" (by decide) ++
  value_variants 0x402D "id" owner_ids "owner_list.owner_id" (by decide) ++
  static_variants ++
  (if include_inferred_iot_module_contract then module_variants else []) ++
  (owner_ids.take 1).flatMap fun owner_id =>
    owner_variants 0x402F owner_id now (by decide) ++ owner_variants 0x4031 owner_id now (by decide)

/-- What one contract probe reports. -/
structure ContractObservation where
  code : Nat
  hex_code : String
  name : String
  variant : String
  parameter_keys : List String
  value_source : String
  status : String
  error_type : String
  firmware_error_code : Option Int
  schema_paths : List String

/-- `_observe` of the contract probe, once the request has ended. -/
def contract_observation (catalog : TmpOpcodeCatalog) (variant : ReadVariant)
    (outcome : Except PyError JsonObject) : ContractObservation :=
  let base : ContractObservation := {
    code := variant.code
    hex_code := hex_code variant.code
    name := (catalog.get_tmp_opcode variant.code variant.probed).name
    variant := variant.label
    parameter_keys := sorted_keys variant.params
    value_source := variant.value_source
    status := "transport_error"
    error_type := ""
    firmware_error_code := none
    schema_paths := [] }
  match outcome with
  | .error exc => { base with error_type := exc.cls.name }
  | .ok response => { base with
      status := firmware_status response
      firmware_error_code := firmware_error_code response
      schema_paths := schema_paths response }

/-- One step of the contract probes. -/
def contract_step (catalog : TmpOpcodeCatalog) (variant : ReadVariant) :
    Step TmpRead (Except PyError JsonObject) ContractObservation :=
  .asks { code := variant.code, params := .obj variant.params }
    (contract_observation catalog variant)

/-- The report of the contract probes. -/
structure TmpReadContracts where
  owner_id_count : Nat
  inferred_iot_module_contract_included : Bool
  attempted_count : Nat
  confirmed_contracts : List ContractObservation
  observations : List ContractObservation

/-- The reads of the sources, whose errors come up, and the owners that they show. -/
def read_contract_sources (router : Router) : ClientM (List String) := do
  let clients ← request_read_json router 0x4012
  let owners ← request_read_json router 0x4029
  let iot_owners ← request_read_json router 0x4060
  pure ((tmp_result_strings (some owners) "owner_list" "owner_id" ++
    tmp_result_strings (some iot_owners) "owner_list" "owner_id" ++
    tmp_result_strings (some clients) "client_list" "owner_id").eraseDups.take 3)

/-- The variants, and their loop. -/
def try_contracts (router : Router) (catalog : TmpOpcodeCatalog) (included : Bool)
    (now : Int) (owner_ids : List String) : ClientM TmpReadContracts := do
  let attempts := build_variants owner_ids included now
  if MAX_ATTEMPTS < attempts.length then
    Prog.raise (value_error
      s!"Failed to probe TMP read contracts: {attempts.length} exceeds the request budget")
  else do
    let observations ← (report (attempts.map (contract_step catalog))).run (read_outcome router)
    pure {
      owner_id_count := owner_ids.length
      inferred_iot_module_contract_included := included
      attempted_count := observations.length
      confirmed_contracts := observations.filter fun observation =>
        observation.status = "returned_data" ∨ observation.status = "accepted_empty"
      observations }

/-- `probe_tmp_read_contracts`. -/
def probe_tmp_read_contracts (router : Router) (catalog : TmpOpcodeCatalog) (included : Bool)
    (now : Int) : ClientM TmpReadContracts := do
  let owner_ids ← read_contract_sources router
  try_contracts router catalog included now owner_ids

end tplink_deco_api.tmp_batches
