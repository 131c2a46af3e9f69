-- The verifier of `tmp_boolean_noop_verification.py`: write the value that was
-- read, read again, and write it once more when the second read does not show it.
import TplinkDeco.TmpClient.Lab

open json prog

namespace tplink_deco_api.tmp_boolean_noop_verification

open exceptions tmp_client tmp_lab

/-- The errors of a request that the verifier catches. -/
def REQUEST_ERRORS : List ExcClass := [.DecoError, .OSError, .TimeoutError, .ValueError]

/-- The errors of a request that the verifier catches. -/
def caught (e : PyError) : Bool := e.isinstance REQUEST_ERRORS

/-- What the verifier reports. -/
structure TmpNoopVerificationResult where
  status : String
  operation_code : Nat
  preflight_code : Nat
  write_firmware_error_code : Option Int
  write_error_type : String
  post_read_succeeded : Bool
  state_unchanged : Option Bool
  rollback_attempted : Bool
  rollback_firmware_error_code : Option Int
  rollback_error_type : String
  rollback_verified : Option Bool
  mutation_request_count : Nat
  operation_name : String
  preflight_name : String
deriving DecidableEq, Repr

/-- The arguments of `_verify_tmp_boolean_noop` other than the client. Its progress
callback does not touch the client and does not raise, so it is left out. -/
structure BooleanNoop where
  expected_confirmation : String
  label : String
  read_opcode : Nat
  read_name : String
  write_opcode : Nat
  write_name : String
  target : Option TmpLabTarget

variable (router : Router) (args : BooleanNoop)

/-- The error of a verification that cannot start. -/
def verify_error (message : String) : PyError :=
  value_error s!"Failed to verify {args.label}: {message}"

/-- `_error_code`. -/
def error_code (response : JsonObject) : Except PyError Int :=
  match (get response "error_code").asInt with
  | some code => .ok code
  | none => .error (verify_error args "response error_code is missing")

/-- The value that a preflight read shows. -/
def enable_of (response : JsonObject) : Except PyError Bool := do
  let code ← error_code args response
  if code ≠ 0 then .error (verify_error args s!"preflight returned error_code={code}")
  else
    match (get response "result").asObj with
    | none => .error (verify_error args "preflight result is missing")
    | some result =>
      match (get result "enable").asBool with
      | none => .error (verify_error args "preflight enable is missing")
      | some enable => .ok enable

/-- `_read_enable`. -/
def read_enable : ClientM Bool := do
  let response ← request_read_json router args.read_opcode
  Prog.lift (enable_of args response)

/-- The error code and the error type of a write. -/
def write_enable (enable : Bool) : ClientM (Option Int × String) := do
  match ← (request_mutation_json router args.write_opcode [("enable", .bool enable)]).trying
      caught with
  | .error exc => pure (none, exc.cls.name)
  | .ok response =>
    match (get response "error_code").asInt with
    | none => pure (none, "InvalidFirmwareResponse")
    | some code => pure (some code, "")

/-- Whether the read succeeded, and whether it gave the preflight value. -/
def compare_state (before : Bool) : ClientM (Bool × Option Bool) := do
  match ← (read_enable router args).trying caught with
  | .error _ => pure (false, none)
  | .ok enable => pure (true, some (enable == before))

/-- `_result`, before the rollback. -/
def result_of (status : String) (write : Option Int × String) (post : Bool × Option Bool) :
    TmpNoopVerificationResult := {
  status
  operation_code := args.write_opcode
  preflight_code := args.read_opcode
  write_firmware_error_code := write.1
  write_error_type := write.2
  post_read_succeeded := post.1
  state_unchanged := post.2
  rollback_attempted := false
  rollback_firmware_error_code := none
  rollback_error_type := ""
  rollback_verified := none
  mutation_request_count := 1
  operation_name := args.write_name
  preflight_name := args.read_name }

/-- The part after the first read: the write, and what follows it. -/
def write_and_verify (before : Bool) : ClientM TmpNoopVerificationResult := do
  let write ← write_enable router args before
  let post ← compare_state router args before
  if post = (true, some true) then
    let status :=
      if write = (some 0, "") then "verified_noop"
      else "write_rejected_or_uncertain_state_unchanged"
    pure (result_of args status write post)
  else do
    let rollback ← write_enable router args before
    let final ← compare_state router args before
    let status :=
      if final = (true, some true) then "verification_failed_rollback_confirmed"
      else "rollback_unconfirmed"
    pure { result_of args status write post with
      rollback_attempted := true
      rollback_firmware_error_code := rollback.1
      rollback_error_type := rollback.2
      rollback_verified := if final.1 then final.2 else none
      mutation_request_count := 2 }

/-- The part before the first write. -/
def preflight (environ : Environ) (confirmation : String) : ClientM Bool := do
  if confirmation ≠ args.expected_confirmation then
    Prog.raise (permission_error
      s!"Failed to verify {args.label}: confirmation does not match exact scope")
  else do
    verify_tmp_lab_target router environ args.target
    read_enable router args

/-- `_verify_tmp_boolean_noop`: nothing is written before the preflight passed. -/
def verify_tmp_boolean_noop (environ : Environ) (confirmation : String) :
    ClientM TmpNoopVerificationResult := do
  let before ← preflight router args environ confirmation
  write_and_verify router args before

/-! ## The three settings -/

/-- `verify_tmp_beamforming_noop`. -/
def tmp_beamforming_noop (target : Option TmpLabTarget) : BooleanNoop := {
  expected_confirmation :=
    "I authorize a TMP/AppV2 beamforming no-op write on opcode 0x421C, using the current " ++
    "value read from 0x421B, with immediate post-read verification and rollback on mismatch."
  label := "TMP beamforming no-op"
  read_opcode := 0x421B
  read_name := "TMP_APPV2_OP_BEAMFORMING_GET"
  write_opcode := 0x421C
  write_name := "TMP_APPV2_OP_BEAMFORMING_SET"
  target }

/-- `verify_tmp_ieee80211r_noop`. -/
def tmp_ieee80211r_noop (target : Option TmpLabTarget) : BooleanNoop := {
  expected_confirmation :=
    "I authorize a TMP/AppV2 802.11r no-op write on opcode 0x4209, using the current " ++
    "value read from 0x4208, with immediate post-read verification and rollback on mismatch."
  label := "TMP 802.11r no-op"
  read_opcode := 0x4208
  read_name := "TMP_APPV2_OP_11R_GET"
  write_opcode := 0x4209
  write_name := "TMP_APPV2_OP_11R_SET"
  target }

/-- `verify_tmp_monthly_report_noop`. -/
def tmp_monthly_report_noop (target : Option TmpLabTarget) : BooleanNoop := {
  expected_confirmation :=
    "I authorize a TMP/AppV2 monthly-report no-op write on opcode 0x4223, using the current " ++
    "value read from 0x4222, with immediate post-read verification and rollback on mismatch."
  label := "TMP monthly-report no-op"
  read_opcode := 0x4222
  read_name := "TMP_APPV2_OP_MONTHLY_REPORT_MGR_GET"
  write_opcode := 0x4223
  write_name := "TMP_APPV2_OP_MONTHLY_REPORT_MGR_SET"
  target }

end tplink_deco_api.tmp_boolean_noop_verification
