-- The authorization boundary of `tmp_lab.py`: the switch in the environment, and
-- the controller that a lab write is bound to.
import TplinkDeco.TmpClient.Client

open json prog text

namespace tplink_deco_api.tmp_lab

open exceptions tmp_client

/-- The variable that allows writes in the lab. -/
def TMP_LAB_WRITE_ENV : String := "DECO_TMP_LAB_ALLOW_WRITES"

/-- The texts that switch it on. -/
def TRUE_VALUES : List String := ["1", "true", "yes", "on"]

/-- `_normalized_mac`, for a text. -/
def normalized_text_mac (value : String) : String :=
  upper (strip (without '-' (without ':' value)))

/-- `_normalized_mac`. -/
def normalized_mac (value : Json) : String :=
  match value with
  | .str s => normalized_text_mac s
  | _ => ""

/-- `^[0-9A-F]{12}$`. -/
def is_mac (s : String) : Bool :=
  s.toList.length = 12 && s.toList.all fun c =>
    ('0' ≤ c && c ≤ '9') || ('A' ≤ c && c ≤ 'F')

/-- The router that may be written to, with all its fields given. -/
structure TmpLabTarget where
  model : String
  firmware_version : String
  controller_mac : String
  has_model : strip model ≠ ""
  has_firmware : strip firmware_version ≠ ""
  has_mac : is_mac (normalized_text_mac controller_mac) = true

/-- The error of a target that is not complete. -/
def lab_error (message : String) : PyError :=
  value_error s!"Failed to configure TMP lab target: {message}"

/-- The constructor, with its `__post_init__`. -/
def tmp_lab_target (model firmware_version controller_mac : String) :
    Except PyError TmpLabTarget :=
  if has_model : strip model ≠ "" then
    if has_firmware : strip firmware_version ≠ "" then
      if has_mac : is_mac (normalized_text_mac controller_mac) = true then
        .ok { model, firmware_version, controller_mac, has_model, has_firmware, has_mac }
      else .error (lab_error "controller MAC is invalid")
    else .error (lab_error "firmware version is required")
  else .error (lab_error "model is required")

/-- `os.environ.get(name, "")`. -/
abbrev Environ := String → String

/-- `TmpLabTarget.from_env`. -/
def from_env (environ : Environ) : Except PyError TmpLabTarget :=
  tmp_lab_target (environ "DECO_TMP_LAB_TARGET_MODEL") (environ "DECO_TMP_LAB_TARGET_FIRMWARE")
    (environ "DECO_TMP_LAB_TARGET_MAC")

/-- The refusal of a write. -/
def unauthorized (message : String) : PyError :=
  permission_error s!"Failed to authorize TMP lab write: {message}"

/-- `require_tmp_lab_write_enabled`. -/
def require_tmp_lab_write_enabled (environ : Environ) : Except PyError Unit :=
  if lower (strip (environ TMP_LAB_WRITE_ENV)) ∈ TRUE_VALUES then .ok ()
  else .error (unauthorized "DECO_TMP_LAB_ALLOW_WRITES is disabled")

/-- `device.get("role") == "master"`, for the devices that are objects. -/
def as_master (device : Json) : Option JsonObject :=
  match device with
  | .obj fields => if (get fields "role").asStr = some "master" then some fields else none
  | _ => none

/-- The checks of the identity response. -/
def check_identity (expected : TmpLabTarget) (response : JsonObject) : Except PyError Unit :=
  if ¬ (get response "error_code").equalsInt 0 then
    .error (unauthorized "controller identity read was rejected")
  else
    match (get response "result").asObj with
    | none => .error (unauthorized "controller identity result is missing")
    | some result =>
      match (get result "device_list").asArr with
      | none => .error (unauthorized "controller device list is missing")
      | some devices =>
        match devices.findSome? as_master with
        | none => .error (unauthorized "main controller identity is missing")
        | some controller =>
          if (get controller "device_model").asStr = some (strip expected.model) ∧
              (get controller "software_ver").asStr = some (strip expected.firmware_version) ∧
              normalized_mac (get controller "mac") =
                normalized_text_mac expected.controller_mac then .ok ()
          else .error (unauthorized "live controller identity does not match target")

/-- `verify_tmp_lab_target`: the connected controller is the expected one. -/
def verify_tmp_lab_target (router : Router) (environ : Environ)
    (expected : Option TmpLabTarget) : ClientM Unit := do
  Prog.lift (require_tmp_lab_write_enabled environ)
  let expected ←
    match expected with
    | some target => pure target
    | none => Prog.lift (from_env environ)
  let response ← request_read_json router 0x400F
  Prog.lift (check_identity expected response)

end tplink_deco_api.tmp_lab
