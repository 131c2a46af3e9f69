-- The batches of TMP reads: the data that the P9 is known to return, the probe of
-- the reads that are not tested yet, and the variants of the read contract probe.
-- A batch is a script, and its questions are put to the connected client.
import TplinkDeco.Lib.Script
import TplinkDeco.Lib.Sha256
import TplinkDeco.TmpClient.Serving
import Mathlib.Data.List.Sort

open json prog script text

namespace tplink_deco_api.tmp_batches

open exceptions tmp_client tmp_protocol tmp_boolean_noop_verification

/-! ## The opcode catalogue -/

/-- How private an answer is. -/
inductive Sensitivity where
  | normal
  | «private»
  | secret
deriving DecidableEq

/-- What the P9 answered to an opcode when it was probed. -/
inductive TmpP9Observation where
  | untested
  | accepted
  | returned_data
  | returned_binary
  | rejected
  | payload_rejected
deriving DecidableEq

/-- What the call sites of the app say of the parameters. -/
inductive TmpAppContractStatus where
  | no_app_call_site
  | static_keys_recovered
  | static_model_recovered
  | static_null_payload
deriving DecidableEq

/-- A catalogued opcode, with what a batch reads of it. -/
structure TmpOpcode extends TmpOpcodeSpec where
  code : Nat
  sensitivity : Sensitivity
  category : String
  app_dispatch_methods : List String
  app_contract_status : TmpAppContractStatus
  app_candidate_parameter_keys : List String
  p9_observation : TmpP9Observation
  p9_confirmed_parameter_sets : List (List String)

/-- An opcode as the reports write it. -/
def hex_code (code : Nat) : String := s!"0x{hex4 code}"

/-- The device list, which is read before and after a batch of probes. -/
def CONTROL_OPCODE : Nat := 0x400F

/-- The opcodes that the probes look up by their code. -/
def PROBED_CODES : List Nat :=
  [CONTROL_OPCODE, 0x402D, 0x402F, 0x4031, 0x403A, 0x4049, 0x4201, 0x4202, 0x404B]

theorem control_listed : CONTROL_OPCODE ∈ PROBED_CODES := List.mem_cons_self

/-- `TMP_OPCODE_CATALOG`. -/
structure TmpOpcodeCatalog where
  opcodes : List TmpOpcode
  listed : ∀ code ∈ PROBED_CODES, (opcodes.find? (·.code = code)).isSome

/-- `get_tmp_opcode`, for a code that the catalogue is known to list. -/
def TmpOpcodeCatalog.get_tmp_opcode (catalog : TmpOpcodeCatalog) (code : Nat)
    (h : code ∈ PROBED_CODES) : TmpOpcode :=
  (catalog.opcodes.find? (·.code = code)).get (catalog.listed code h)

/-- One read of a batch. -/
structure TmpRead where
  code : Nat
  params : Json

/-! ## `p9_tmp_data` -/

/-- `request_read_json` under the `except` clause of a batch. -/
def read_outcome (router : Router) (read : TmpRead) : ClientM (Except PyError JsonObject) :=
  (request_read_json router read.code).trying caught

/-- One of the `results`. The later fields are there only where the source sets them. -/
structure TmpDataEntry where
  code : Nat
  hex_code : String
  name : String
  category : String
  status : String
  error_type : Option String := none
  response : Option JsonObject := none
  skip_reason : Option String := none
  parameter_keys : Option (List String) := none
  parameter_source : Option String := none
  variant_index : Option Nat := none

/-- The reads of one owner. -/
def TMP_OWNER_PARAMETERIZED_OPCODES : List Nat := [0x402D, 0x402F, 0x4031]

/-- The reads whose answers name owners. -/
def TMP_PARAMETER_SOURCE_OPCODES : List Nat := [0x4012, 0x4029, 0x4060]

/-- An entry of the report, before its outcome. -/
def data_entry (opcode : TmpOpcode) (status : String) : TmpDataEntry := {
  code := opcode.code
  hex_code := hex_code opcode.code
  name := opcode.name
  category := opcode.category
  status }

/-- The entry of a read that was made. -/
def with_outcome (base : TmpDataEntry) (outcome : Except PyError JsonObject) : TmpDataEntry :=
  match outcome with
  | .error exc => { base with status := "error", error_type := some exc.cls.name }
  | .ok response => { base with status := "ok", response := some response }

/-- One step of the batch: an entry at once, or a read that gives it. -/
abbrev DataStep := Step TmpRead (Except PyError JsonObject) TmpDataEntry

/-- The read of an opcode without parameters. -/
def direct_step (opcode : TmpOpcode) : DataStep :=
  .asks { code := opcode.code, params := .null } (with_outcome (data_entry opcode ""))

/-- The strings under `key` in the rows of a list of the result. -/
def tmp_result_strings (payload : Option JsonObject) (list_name key : String) : List String :=
  match payload.bind fun payload => (get payload "result").asObj with
  | none => []
  | some result =>
    match (get result list_name).asArr with
    | none => []
    | some rows => rows.filterMap fun row => do
      let fields ← row.asObj
      let value ← (get fields key).asStr
      if value = "" then none else some value

/-- The answers that a batch has so far. -/
abbrev Responses := List (Nat × JsonObject)

/-- The first three owners that the answers name. -/
def tmp_owner_ids (responses : Responses) : List String :=
  (tmp_result_strings (responses.lookup 0x4012) "client_list" "owner_id" ++
    tmp_result_strings (responses.lookup 0x4029) "owner_list" "owner_id" ++
    tmp_result_strings (responses.lookup 0x4060) "owner_list" "owner_id").eraseDups.take 3

/-- The parameters of a read, each with where they come from. -/
def tmp_parameterized_requests (code : Nat) (owner_ids : List String) :
    List (JsonObject × String) :=
  if code ∈ TMP_OWNER_PARAMETERIZED_OPCODES then
    owner_ids.map fun owner_id => ([("owner_id", .str owner_id)], "confirmed_read.owner_id")
  else
    let static : List (Nat × JsonObject) := [
      (0x403A, [("version", .int 1029)]),
      (0x4049, [("iot_client_list", .arr [])]),
      (0x4201, [("version", .int 1)]),
      (0x4202, [("version", .int 1029)])]
    match static.lookup code with
    | none => []
    | some params => [(params, "signed_app_confirmed_static_contract")]

/-- `sorted(params)`. -/
def sorted_keys (params : JsonObject) : List String :=
  (params.map Prod.fst).insertionSort (· ≤ ·)

/-- The entry of a read that was not made. -/
def skipped_entry (opcode : TmpOpcode) : TmpDataEntry := {
  data_entry opcode "skipped" with
  skip_reason := some (
    if opcode.code ∈ TMP_OWNER_PARAMETERIZED_OPCODES then
      "confirmed owner identifier unavailable"
    else "parameter resolver unavailable")
  parameter_keys := opcode.p9_confirmed_parameter_sets.head? }

/-- The reads of an opcode that takes parameters, numbered from 1. -/
def parameterized_steps (owner_ids : List String) (opcode : TmpOpcode) : List DataStep :=
  match tmp_parameterized_requests opcode.code owner_ids with
  | [] => [.entry (skipped_entry opcode)]
  | requests => (requests.zipIdx 1).map fun ((params, parameter_source), variant_index) =>
      .asks { code := opcode.code, params := .obj params } (with_outcome {
        data_entry opcode "" with
        parameter_keys := some (sorted_keys params)
        parameter_source := some parameter_source
        variant_index := some variant_index })

/-- The responses by code that the entries show. A later one takes the place of an earlier. -/
def responses_of (entries : List TmpDataEntry) : Responses :=
  (entries.filterMap fun entry => entry.response.map (entry.code, ·)).reverse

/-- A source of parameters that could not be read. -/
structure DependencyError where
  code : Nat
  hex_code : String
  error_type : String

/-- The error of one source. -/
def dependency_error (code : Nat) (exc : PyError) : DependencyError := {
  code
  hex_code := hex_code code
  error_type := exc.cls.name }

/-- The owners that were found, and what that took. -/
structure Dependencies where
  owner_ids : List String
  request_count : Nat := 0
  errors : List DependencyError := []

/-- The loop over the sources that were not read yet. It stops at the first owner. -/
def read_dependencies (attempted : List Nat) (responses : Responses) :
    List Nat → Script TmpRead (Except PyError JsonObject) Dependencies
  | [] => pure { owner_ids := tmp_owner_ids responses }
  | source :: sources => do
    if source ∈ attempted then read_dependencies attempted responses sources
    else
      match ← Script.question { code := source, params := .null } with
      | .error exc =>
        let rest ← read_dependencies attempted responses sources
        pure { rest with
          request_count := rest.request_count + 1
          errors := dependency_error source exc :: rest.errors }
      | .ok response =>
        let responses := (source, response) :: responses
        if tmp_owner_ids responses ≠ [] then
          pure { owner_ids := tmp_owner_ids responses, request_count := 1 }
        else do
          let rest ← read_dependencies attempted responses sources
          pure { rest with request_count := rest.request_count + 1 }

/-- The opcodes of a batch: those with parameters may be left out. -/
structure DataSelection where
  available : List TmpOpcode
  include_parameterized : Bool

/-- The reads without parameters. -/
def DataSelection.selected (s : DataSelection) : List TmpOpcode :=
  s.available.filter (·.p9_confirmed_parameter_sets = [])

/-- The reads with parameters that are left out. -/
def DataSelection.skipped_parameterized (s : DataSelection) : List TmpOpcode :=
  s.available.filter fun opcode =>
    opcode.p9_confirmed_parameter_sets ≠ [] ∧ s.include_parameterized = false

/-- The reads with parameters that are made. -/
def DataSelection.selected_parameterized (s : DataSelection) : List TmpOpcode :=
  s.available.filter fun opcode =>
    opcode.p9_confirmed_parameter_sets ≠ [] ∧ s.include_parameterized = true

/-- The report of the batch. -/
structure TmpData where
  available_count : Nat
  selected_count : Nat
  parameterized_selected_count : Nat
  parameterized_resolved_count : Nat
  dependency_request_count : Nat
  dependency_errors : List DependencyError
  skipped_parameterized_operations : List TmpOpcode
  succeeded_count : Nat
  failed_count : Nat
  skipped_count : Nat
  results : List TmpDataEntry

/-- The number of entries with a status. -/
def count_status (status : String) (results : List TmpDataEntry) : Nat :=
  results.countP (·.status = status)

/-- The report of its entries. -/
def tmp_data_result (s : DataSelection) (dependencies : Dependencies)
    (results : List TmpDataEntry) : TmpData := {
  available_count := s.available.length
  selected_count := s.selected.length + s.selected_parameterized.length
  parameterized_selected_count := s.selected_parameterized.length
  parameterized_resolved_count :=
    ((results.filter (·.parameter_source.isSome)).map (·.code)).eraseDups.length
  dependency_request_count := dependencies.request_count
  dependency_errors := dependencies.errors
  skipped_parameterized_operations := s.skipped_parameterized
  succeeded_count := count_status "ok" results
  failed_count := count_status "error" results
  skipped_count := count_status "skipped" results
  results }

/-- The sources that are read for the owners, when no read so far shows one. -/
def owner_sources (s : DataSelection) (responses : Responses) : List Nat :=
  if s.selected_parameterized.any (·.code ∈ TMP_OWNER_PARAMETERIZED_OPCODES) ∧
      tmp_owner_ids responses = [] then TMP_PARAMETER_SOURCE_OPCODES
  else []

/-- The part of `p9_tmp_data` that holds the lock. -/
def tmp_data_batch (s : DataSelection) : Script TmpRead (Except PyError JsonObject) TmpData := do
  let direct ← report (s.selected.map direct_step)
  let dependencies ← read_dependencies (s.selected.map (·.code)) (responses_of direct)
    (owner_sources s (responses_of direct))
  let parameterized ← report
    (s.selected_parameterized.flatMap (parameterized_steps dependencies.owner_ids))
  pure (tmp_data_result s dependencies (direct ++ parameterized))

/-- The gates of `p9_tmp_data`, and the operations that it takes. -/
def select_tmp_data (allow_tmp_reads allow_sensitive_reads : Bool) (catalog : TmpOpcodeCatalog)
    (category : String) (include_parameterized : Bool) : Except PyError DataSelection :=
  if ¬ allow_tmp_reads then
    .error (permission_error "Failed to read P9 TMP data: DECO_ALLOW_TMP_READS is disabled")
  else if ¬ allow_sensitive_reads then
    .error (permission_error "Failed to read P9 TMP data: DECO_ALLOW_SENSITIVE_READS is disabled")
  else if category ≠ "" ∧ ∀ opcode ∈ catalog.opcodes, opcode.category ≠ category then
    .error (value_error s!"Failed to read P9 TMP data: unknown category '{category}'")
  else .ok {
    available := catalog.opcodes.filter fun opcode =>
      opcode.p9_observation = .returned_data ∧ (category = "" ∨ opcode.category = category)
    include_parameterized }

/-- `p9_tmp_data`, with the client that `_get_tmp_client` gives. -/
def p9_tmp_data (router : Router) (allow_tmp_reads allow_sensitive_reads : Bool)
    (catalog : TmpOpcodeCatalog) (category : String) (include_parameterized : Bool) :
    ClientM TmpData := do
  let selection ← Prog.lift (select_tmp_data allow_tmp_reads allow_sensitive_reads catalog category
    include_parameterized)
  (tmp_data_batch selection).run (read_outcome router)

end tplink_deco_api.tmp_batches
