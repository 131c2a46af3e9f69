-- The methods over TMP beside `tmp_read`: the binary read, and the batches, whose
-- scripts put their questions to the client of the service.
import TplinkDeco.Surface.Resources

open dialogue json script

namespace tplink_deco_api.surface

open endpoint_catalog exceptions service tmp_batches tmp_client

variable (config : ServerConfig) (catalog : TmpOpcodeCatalog)

/-! ## `tmp_read_binary` -/

/-- A binary answer, with its content if that was asked for. -/
structure TmpBinary where
  opcode : Nat
  size : Nat
  sha256 : String
  content : Option (List UInt8)

/-- The checks of `tmp_read_binary`. -/
def check_tmp_read_binary (opcode : Nat) (include_content : Bool) : Except PyError Unit :=
  let error (message : String) : Except PyError Unit :=
    .error (permission_error s!"Failed to read binary TMP operation: {message}")
  if ¬ config.allow_tmp_reads then error "DECO_ALLOW_TMP_READS is disabled"
  else
    match get_tmp_opcode catalog opcode with
    | none => .error (value_error
        s!"Failed to read binary TMP operation: unknown opcode {hex_code opcode}")
    | some operation =>
      if operation.safety ≠ "read_only" then error s!"{operation.name} is {operation.safety}"
      else if operation.p9_observation ≠ .returned_binary then
        error "opcode lacks a P9 binary observation"
      else if include_content ∧ ¬ config.allow_sensitive_reads then
        error "content requires DECO_ALLOW_SENSITIVE_READS=1"
      else if include_content ∧ ¬ config.allow_binary_content then
        error "content export requires DECO_ALLOW_BINARY_CONTENT=1"
      else .ok ()

/-- `DecoService.tmp_read_binary`. -/
def tmp_read_binary (opcode : Nat) (params : Json) (include_content : Bool) :
    SurfaceM TmpBinary := do
  Dialogue.lift (check_tmp_read_binary config catalog opcode include_content)
  get_tmp_client config
  let response ← request_read catalog opcode params
  pure {
    opcode
    size := response.content.length
    sha256 := sha256.hexdigest response.content
    content := if include_content then some response.content else none }

/-! ## The batches -/

/-- A JSON read of a batch, under its `except` clause. -/
def ask_read (read : TmpRead) : SurfaceM (Except PyError JsonObject) :=
  live (request_read_json catalog read.code read.params)

/-- A raw read of a batch. The `except` clause is that of the request. -/
def ask_raw (read : TmpRead) : SurfaceM (Except PyError RawAnswer) := do
  match ← live (request_read catalog read.code read.params) with
  | .error e => pure (.error e)
  | .ok response => do
    let answer ← Dialogue.lift (parse_raw response)
    pure (.ok answer)

/-- `DecoService.p9_tmp_data`: the gates and the selection, then the reads one after the other. -/
def p9_tmp_data (category : String) (include_parameterized : Bool) : SurfaceM TmpData := do
  let selection ← Dialogue.lift (select_tmp_data config.allow_tmp_reads
    config.allow_sensitive_reads catalog category include_parameterized)
  get_tmp_client config
  Dialogue.ofScript (ask_read catalog) (tmp_data_batch selection)

/-- The refusal of the discovery. -/
def unverified_error (message : String) : PyError :=
  permission_error s!"Failed to discover unverified TMP reads: {message}"

/-- The gates of the discovery. -/
def check_unverified_reads (include_sensitive : Bool) : Except PyError Unit :=
  if ¬ config.allow_tmp_reads then .error (unverified_error "DECO_ALLOW_TMP_READS is disabled")
  else if ¬ config.allow_unverified_tmp_reads then
    .error (unverified_error "DECO_ALLOW_UNVERIFIED_TMP_READS is disabled")
  else if include_sensitive ∧ ¬ config.allow_sensitive_reads then
    .error (unverified_error "DECO_ALLOW_SENSITIVE_READS is disabled")
  else .ok ()

/-- `DecoService.discover_tmp_unverified_reads`. -/
def discover_tmp_unverified_reads (include_sensitive : Bool) (max_operations : Option Int) :
    SurfaceM TmpUnverifiedReads := do
  Dialogue.lift (check_unverified_reads config include_sensitive)
  get_tmp_client config
  let selection ← Dialogue.lift
    (select_unverified_reads catalog include_sensitive max_operations)
  Dialogue.ofScript (ask_raw catalog)
    (probe_batch selection (catalog.get_tmp_opcode CONTROL_OPCODE control_listed))

/-- The gates of the contract discovery. -/
def check_read_contracts (included : Bool) : Except PyError Unit :=
  if ¬ config.allow_tmp_reads then
    .error (permission_error
      "Failed to discover TMP read contracts: DECO_ALLOW_TMP_READS is disabled")
  else if ¬ config.allow_sensitive_reads then
    .error (permission_error
      "Failed to discover TMP read contracts: DECO_ALLOW_SENSITIVE_READS is disabled")
  else if included ∧ ¬ config.allow_unverified_tmp_reads then
    .error (permission_error ("Failed to discover inferred TMP read contract: " ++
      "DECO_ALLOW_UNVERIFIED_TMP_READS is disabled"))
  else .ok ()

/-- The owners that the three sources show. An error of a source comes up. -/
def read_contract_owners : SurfaceM (List String) := do
  let clients ← request_read_json catalog 0x4012 .null
  let owners ← request_read_json catalog 0x4029 .null
  let iot_owners ← request_read_json catalog 0x4060 .null
  pure ((tmp_result_strings (some owners) "owner_list" "owner_id" ++
    tmp_result_strings (some iot_owners) "owner_list" "owner_id" ++
    tmp_result_strings (some clients) "client_list" "owner_id").eraseDups.take 3)

/-- The variants, and their loop. -/
def probe_contracts (included : Bool) (now : Int) (owner_ids : List String) :
    SurfaceM TmpReadContracts :=
  let attempts := build_variants owner_ids included now
  if MAX_ATTEMPTS < attempts.length then
    .raised (value_error
      s!"Failed to probe TMP read contracts: {attempts.length} exceeds the request budget")
  else do
    let observations ← Dialogue.ofScript (ask_read catalog)
      (report (attempts.map (contract_step catalog)))
    pure {
      owner_id_count := owner_ids.length
      inferred_iot_module_contract_included := included
      attempted_count := observations.length
      confirmed_contracts := observations.filter fun observation =>
        observation.status = "returned_data" ∨ observation.status = "accepted_empty"
      observations }

/-- `now` is the time at which the variants are built. -/
def discover_tmp_read_contracts (included : Bool) (now : Int) : SurfaceM TmpReadContracts := do
  Dialogue.lift (check_read_contracts config included)
  get_tmp_client config
  let owner_ids ← read_contract_owners catalog
  probe_contracts catalog included now owner_ids

end tplink_deco_api.surface
