-- The mesh nodes that the router lists, and the controller among them: its
-- profile and its identity.
import TplinkDeco.Exceptions
import TplinkDeco.Lib.Sha256
import TplinkDeco.Lib.Text

open text

namespace tplink_deco_api.service

open exceptions

/-- The firmware that was verified. -/
def P9_PROFILE_FIRMWARE : String := "1.3.0 Build 20250804 Rel. 58832"

/-- The hardware that was verified. -/
def P9_PROFILE_HARDWARE_VERSIONS : List String := ["1.0", "2.0"]

/-- The signal of each band, as the router writes it. -/
structure SignalLevel where
  band2_4 : String := "0"
  band5 : String := "0"
  band6 : String := "0"
deriving DecidableEq, Repr

/-- The fields of a `Device` that decide nothing. They are carried with it, since two lists of
devices are the same only if they agree on these too. A field that the row lacks is read as its
default. -/
structure DeviceDetails where
  device_ip : String := ""
  device_type : String := ""
  nickname : String := ""
  custom_nickname : String := ""
  oem_id : String := ""
  hw_id : String := ""
  bssid_2g : String := ""
  bssid_5g : String := ""
  bssid_sta_2g : String := ""
  bssid_sta_5g : String := ""
  inet_status : String := ""
  inet_error_msg : String := ""
  group_status : String := ""
  signal_level : SignalLevel := {}
  product_level : Int := 0
  set_gateway_support : Bool := false
  support_plc : Bool := false
  oversized_firmware : Bool := false
  nand_flash : Bool := false
  device_id : String := ""
  parent_device_id : String := ""
  connection_type : List String := []
  previous : String := ""
  speed_get_support : Bool := false
deriving DecidableEq, Repr

/-- A mesh node: what the choice of the controller, its profile and its identity read, and the
rest. -/
structure Device where
  mac : String
  device_model : String
  role : String
  hardware_ver : String
  software_ver : String
  details : DeviceDetails := {}
deriving DecidableEq, Repr

/-- `_controller_device`: the first master, or else the first node. -/
def controller_device (devices : List Device) : Except PyError Device :=
  match devices with
  | [] => .error (value_error "Failed to resolve controller identity: device list is empty")
  | first :: _ => .ok ((devices.find? fun device => device.role = "master").getD first)

/-- `_validate_device_inventory`. -/
def validate_device_inventory (devices : List Device) : Except PyError Unit := do
  let controller ← controller_device devices
  if controller.mac = "" ∨ strip controller.device_model = "" then
    .error (value_error
      "Failed to resolve controller identity: controller model and MAC are required")
  else .ok ()

/-- How the controller fits the profile that was verified. -/
inductive ProfileMatch where
  | exact
  | model_only
  | unknown
deriving DecidableEq, Repr

/-- `_profile_match`. -/
def profile_match (controller : Device) : ProfileMatch :=
  if upper (strip controller.device_model) ≠ "P9" then .unknown
  else if controller.hardware_ver ∈ P9_PROFILE_HARDWARE_VERSIONS ∧
      controller.software_ver = P9_PROFILE_FIRMWARE then .exact
  else .model_only

/-- `_controller_identity`, of the device cache. -/
def controller_identity (device_cache : Option (List Device)) : Except PyError String :=
  match device_cache with
  | none =>
    .error (permission_error
      "Failed to resolve controller identity: call the device profile first")
  | some devices => do
    let controller ← controller_device devices
    let identity := "\n".intercalate [controller.mac, controller.device_model,
      controller.hardware_ver, controller.software_ver]
    .ok (sha256.hexdigest (encode identity))

end tplink_deco_api.service
