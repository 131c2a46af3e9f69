-- The verifier of `http_noop_verification.py`: write the live value of a setting,
-- read it again, and write it once more when the second read does not show it.
import TplinkDeco.Exceptions
import TplinkDeco.Lib.Json
import TplinkDeco.Lib.Prog

open json prog

namespace tplink_deco_api.http_noop_verification

open exceptions

/-! ## The client -/

/-- The fields of an `ApiResponse` that the verifier reads. -/
structure ApiResponse where
  error_code : Int
  result : Json

/-- `response.result_object()`. -/
def ApiResponse.result_object (response : ApiResponse) : JsonObject :=
  (response.result.asObj).getD []

/-- One `client.call`: the operation, and the parameters of a write. -/
structure HttpCall where
  operation : String
  params : Option JsonObject

/-- A `DecoClient` with what each of its calls will give, and the calls made so far. -/
structure Http where
  answers : Nat → Except PyError ApiResponse
  calls : List HttpCall := []

/-- A program of the verifier. Its state is the client. -/
abbrev HttpM := Prog PyError Http

/-- `client.call`: the next answer, and the call in the log. -/
def call (operation : String) (params : Option JsonObject := none) : HttpM ApiResponse := fun h =>
  (match h.answers h.calls.length with
    | .ok response => .ok response
    | .error e => .raised e,
  { h with calls := h.calls ++ [{ operation, params }] })

/-! ## The operations -/

def BEAMFORMING_WRITE : String := "admin.wireless.beamforming.write"
def IEEE80211R_WRITE : String := "admin.wireless.ieee80211r.write"
def TIMESETTING_WRITE : String := "admin.device.timesetting.write"

/-- `HTTP_NOOP_CONFIRMATIONS.get(operation)`. -/
def HTTP_NOOP_CONFIRMATIONS (operation : String) : Option String :=
  if operation ∈ [BEAMFORMING_WRITE, IEEE80211R_WRITE, TIMESETTING_WRITE] then
    some (s!"I authorize a P9 HTTP current-value no-op verification for {operation}, " ++
      "with immediate post-read verification and rollback on mismatch.")
  else none

/-- `HTTP_NOOP_PREFLIGHT_OPERATIONS[operation]`, for the operations that it has. -/
def HTTP_NOOP_PREFLIGHT_OPERATIONS (operation : String) : String :=
  if operation = BEAMFORMING_WRITE then "admin.wireless.beamforming.read"
  else if operation = IEEE80211R_WRITE then "admin.wireless.ieee80211r.read"
  else "admin.device.timesetting.read"

/-- The errors of a request that the verifier catches. -/
def REQUEST_ERRORS : List ExcClass := [.DecoError, .OSError, .TimeoutError, .ValueError]

/-- The errors of a call that the verifier catches. -/
def caught (e : PyError) : Bool := e.isinstance REQUEST_ERRORS

/-! ## The live state of a setting -/

/-- The object that `_read_state` builds. -/
inductive LiveState where
  | enabled (enable : Bool)
  | zone (timezone continent tz_region : String)
deriving DecidableEq, Repr

/-- The parameters that write the state again. -/
def LiveState.params : LiveState → JsonObject
  | .enabled enable => [("enable", .bool enable)]
  | .zone timezone continent tz_region =>
    [("timezone", .str timezone), ("continent", .str continent), ("tz_region", .str tz_region)]

/-- `tuple(sorted(state))`. -/
def LiveState.parameter_keys : LiveState → List String
  | .enabled _ => ["enable"]
  | .zone _ _ _ => ["continent", "timezone", "tz_region"]

/-- The error of a verification that cannot start. -/
def noop_error (message : String) : PyError :=
  value_error s!"Failed to verify HTTP no-op: {message}"

/-- `_string`. -/
def text_of (data : JsonObject) (key : String) : Except PyError String :=
  match (get data key).asStr with
  | some value => if value = "" then .error (noop_error s!"preflight result lacks {key}")
    else .ok value
  | none => .error (noop_error s!"preflight result lacks {key}")

/-- `_boolean`. -/
def boolean_of (data : JsonObject) (key : String) : Except PyError Bool :=
  match (get data key).asBool with
  | some value => .ok value
  | none => .error (noop_error s!"preflight result lacks boolean {key}")

/-- The part of `_read_state` after its call. -/
def state_of (operation : String) (response : ApiResponse) : Except PyError LiveState :=
  if response.error_code ≠ 0 then
    .error (noop_error s!"preflight returned error_code={response.error_code}")
  else
    let result := response.result_object
    if operation ∈ [BEAMFORMING_WRITE, IEEE80211R_WRITE] then do
      let enable ← boolean_of result "enable"
      .ok (.enabled enable)
    else do
      let timezone ← text_of result "timezone"
      let continent ← text_of result "continent"
      let tz_region ← text_of result "tz_region"
      .ok (.zone timezone continent tz_region)

/-! ## The verifier -/

/-- What the verifier reports. -/
structure HttpNoopVerificationResult where
  status : String
  operation_name : String
  preflight_name : String
  parameter_keys : List String
  write_firmware_error_code : Option Int
  write_error_type : String
  post_read_succeeded : Bool
  state_unchanged : Option Bool
  rollback_attempted : Bool
  rollback_firmware_error_code : Option Int
  rollback_error_type : String
  rollback_verified : Option Bool
  mutation_request_count : Nat
deriving DecidableEq, Repr

/-- `result.verified_noop`. -/
def HttpNoopVerificationResult.verified_noop (result : HttpNoopVerificationResult) : Bool :=
  result.status = "verified_noop"

/-- `_read_state`. -/
def read_state (operation : String) : HttpM LiveState := do
  let response ← call (HTTP_NOOP_PREFLIGHT_OPERATIONS operation)
  Prog.lift (state_of operation response)

/-- The error code and the error type of a write. -/
def write_state (operation : String) (state : LiveState) : HttpM (Option Int × String) := do
  match ← (call operation (some state.params)).trying caught with
  | .error exc => pure (none, exc.cls.name)
  | .ok response => pure (some response.error_code, "")

/-- Whether the read succeeded, and whether it gave the preflight state. -/
def compare_state (operation : String) (before : LiveState) : HttpM (Bool × Option Bool) := do
  match ← (read_state operation).trying caught with
  | .error _ => pure (false, none)
  | .ok state => pure (true, some (state == before))

/-- `_result`, before the rollback. -/
def result_of (operation status : String) (state : LiveState) (write : Option Int × String)
    (post : Bool × Option Bool) : HttpNoopVerificationResult := {
  status
  operation_name := operation
  preflight_name := HTTP_NOOP_PREFLIGHT_OPERATIONS operation
  parameter_keys := state.parameter_keys
  write_firmware_error_code := write.1
  write_error_type := write.2
  post_read_succeeded := post.1
  state_unchanged := post.2
  rollback_attempted := false
  rollback_firmware_error_code := none
  rollback_error_type := ""
  rollback_verified := none
  mutation_request_count := 1 }

/-- The part after the first read: the write, and what follows it. -/
def write_and_verify (operation : String) (before : LiveState) :
    HttpM HttpNoopVerificationResult := do
  let write ← write_state operation before
  let post ← compare_state operation before
  if post = (true, some true) then
    let status :=
      if write = (some 0, "") then "verified_noop"
      else "write_rejected_or_uncertain_state_unchanged"
    pure (result_of operation status before write post)
  else do
    let rollback ← write_state operation before
    let final ← compare_state operation before
    let status :=
      if final = (true, some true) then "verification_failed_rollback_confirmed"
      else "rollback_unconfirmed"
    pure { result_of operation status before write post with
      rollback_attempted := true
      rollback_firmware_error_code := rollback.1
      rollback_error_type := rollback.2
      rollback_verified := if final.1 then final.2 else none
      mutation_request_count := 2 }

/-- `verify_http_setting_noop`: read, write, read again, and write once more if the state is not
back. -/
def verify_http_setting_noop (operation confirmation : String) :
    HttpM HttpNoopVerificationResult := do
  match HTTP_NOOP_CONFIRMATIONS operation with
  | none => Prog.raise (value_error
      s!"Failed to verify HTTP no-op: unsupported operation '{operation}'")
  | some expected =>
    if confirmation ≠ expected then
      Prog.raise (permission_error
        "Failed to verify HTTP no-op: confirmation does not match exact scope")
    else do
      let before ← read_state operation
      write_and_verify operation before

end tplink_deco_api.http_noop_verification
