-- The catalogue of `tmp_opcode_catalog.py`: the registry of the opcodes, what the P9 answered to
-- them and what the signed apps do with them, each read from an artifact and checked against the
-- others.
import TplinkDeco.Lib.Dict
import TplinkDeco.Lib.JsonText
import TplinkDeco.Lib.Ordered
import TplinkDeco.Models.Accessors
import TplinkDeco.TmpClient.MutationPlanner

open dict json ordered text

namespace tplink_deco_api.tmp_opcode_catalog

open exceptions tmp_batches tmp_mutation_planner
open models (get_bool get_int get_str get_str_tuple int_of_text)

/-! ## The tables -/

/-- `_LEGACY_OPCODE_ROWS`. -/
def LEGACY_OPCODE_ROWS : List (Nat × String) := [
  (0x0000, "TMP_APPV2_OP_UNKNOWN"), (0x0001, "TMP_APPV2_OP_TOKEN_ALLOC"),
  (0x0002, "TMP_APPV2_OP_TOKEN_VERIFY"), (0x0003, "TMP_APPV2_OP_TOKEN_FREE"),
  (0x4001, "TMP_APPV2_OP_COMP_NEGOTIATE"), (0x4002, "TMP_APPV2_OP_COMP_NEGOTIATE_BT"),
  (0x4003, "TMP_APPV2_OP_NICKNAME_SET"), (0x4004, "TMP_APPV2_OP_IPV4_GET"),
  (0x4005, "TMP_APPV2_OP_IPV4_SET"), (0x4006, "TMP_APPV2_OP_IPV6_GET"),
  (0x4007, "TMP_APPV2_OP_IPV6_SET"), (0x4008, "TMP_APPV2_OP_WIRELESS_SET"),
  (0x4009, "TMP_APPV2_OP_WIRELESS_GET"), (0x400A, "TMP_APPV2_OP_LOCATION_GET"),
  (0x400B, "TMP_APPV2_OP_QS_M5_SLAVE_TRY"), (0x400C, "TMP_APPV2_OP_INTERNET_GET"),
  (0x400D, "TMP_APPV2_OP_BRIDGE_STATUS_GET"), (0x400E, "TMP_APPV2_OP_TIME_SYNC"),
  (0x400F, "TMP_APPV2_OP_DEVICE_LIST_GET"), (0x4010, "TMP_APPV2_OP_SPEEDTEST_INFO_GET"),
  (0x4011, "TMP_APPV2_OP_SPEEDTEST_START"), (0x4012, "TMP_APPV2_OP_CLIENT_LIST_GET"),
  (0x4013, "TMP_APPV2_OP_CLIENT_LIST_SET"), (0x4014, "TMP_APPV2_OP_CLIENT_LIST_SPEED_GET"),
  (0x4015, "TMP_APPV2_OP_CLIENT_SPEED_GET"), (0x4016, "TMP_APPV2_OP_DEVICE_LIST_REBOOT"),
  (0x4017, "TMP_APPV2_OP_CLIENT_LIST_BLOCK"), (0x4018, "TMP_APPV2_OP_BLOCKED_LIST_GET"),
  (0x4019, "TMP_APPV2_OP_BLOCKED_LIST_UNBLOCK"), (0x401A, "TMP_APPV2_OP_AUTO_LED_GET"),
  (0x401B, "TMP_APPV2_OP_AUTO_LED_SET"), (0x401C, "TMP_APPV2_OP_FW_LATEST_GET"),
  (0x401D, "TMP_APPV2_OP_FW_UPDATE"), (0x401E, "TMP_APPV2_OP_FW_PROG_GET"),
  (0x401F, "TMP_APPV2_OP_QS_M5_MASTER_TRY"), (0x4020, "TMP_APPV2_OP_QS_M5_MASTER_SET"),
  (0x4021, "TMP_APPV2_OP_QS_M5_SLAVE_SET"), (0x4022, "TMP_APPV2_OP_DEVICE_LIST_REMOVE"),
  (0x4023, "TMP_APPV2_OP_NETWORK_UNBIND"), (0x4024, "TMP_APPV2_OP_SPEEDTEST_HISTORY_GET"),
  (0x4025, "TMP_APPV2_OP_SPEEDTEST_HISTORY_CLEAR"), (0x4026, "TMP_APPV2_OP_SPEEDTEST_LATEST_GET"),
  (0x4027, "TMP_APPV2_OP_SPEEDTEST_STOP"), (0x4028, "TMP_APPV2_OP_MESSAGE_LIST_GET"),
  (0x4029, "TMP_APPV2_OP_OWNER_LIST_GET"), (0x402A, "TMP_APPV2_OP_OWNER_LIST_ADD"),
  (0x402B, "TMP_APPV2_OP_OWNER_LIST_REMOVE"), (0x402C, "TMP_APPV2_OP_OWNER_MODIFY"),
  (0x402D, "TMP_APPV2_OP_OWNER_GET"), (0x402E, "TMP_APPV2_OP_PARENT_CTRL_INTERNET_BLOCK"),
  (0x402F, "TMP_APPV2_OP_PARENT_CTRL_INSIGHTS_GET"),
  (0x4030, "TMP_APPV2_OP_PARENT_CTRL_WEBSITE_BLOCK"),
  (0x4031, "TMP_APPV2_OP_PARENT_CTRL_HISTORY_GET"), (0x4032, "TMP_APPV2_OP_FILTER_CATEGORIES_GET"),
  (0x4033, "TMP_APPV2_OP_PARENT_CTRL_CLIENT_ADD"),
  (0x4034, "TMP_APPV2_OP_PARENT_CTRL_CLIENT_REMOVE"),
  (0x4035, "TMP_APPV2_OP_DEFAULT_FILTER_LEVEL_GET"), (0x4036, "TMP_APPV2_OP_QOS_MODE_GET"),
  (0x4037, "TMP_APPV2_OP_QOS_MODE_SET"), (0x4038, "TMP_APPV2_OP_ACCOUNT_MODIFY"),
  (0x4039, "TMP_APPV2_OP_PROFILE_GET"), (0x403A, "TMP_APPV2_OP_DEFAULT_WEBSITE_APP_GET"),
  (0x403B, "TMP_APPV2_OP_SECURITY_INFO_GET"), (0x403C, "TMP_APPV2_OP_SECURITY_INFO_SET"),
  (0x403D, "TMP_APPV2_OP_SECURITY_HISTORY_GET"), (0x403E, "TMP_APPV2_OP_SECURITY_HISTORY_CLEAR"),
  (0x403F, "TMP_APPV2_OP_SECURITY_HISTORY_REMOVE"), (0x4040, "TMP_APPV2_OP_IOT_CLIENT_LIST_GET"),
  (0x4041, "TMP_APPV2_OP_IOT_CLIENT_LIST_REMOVE"), (0x4042, "TMP_APPV2_OP_IOT_CLIENT_LIST_ADD"),
  (0x4043, "TMP_APPV2_OP_IOT_CLIENT_LIST_MODIFY"), (0x4044, "TMP_APPV2_OP_IOT_CLIENT_LIST_SCAN"),
  (0x4045, "TMP_APPV2_OP_IOT_PRODUCT_PROFILE_GET"),
  (0x4047, "TMP_APPV2_OP_IOT_NEST_ACCOUNT_DELETE"),
  (0x4048, "TMP_APPV2_OP_IOT_CLIENT_LIST_BEGIN_SCANNING"), (0x4049, "TMP_APPV2_OP_IOT_CLIENT_GET"),
  (0x404A, "TMP_APPV2_OP_IOT_CLIENT_IDENTIFY"),
  (0x404B, "TMP_APPV2_OP_IOT_CLIENT_LIST_GET_BY_MODULE"),
  (0x404C, "TMP_APPV2_OP_IOT_CLIENT_LIST_END_SCANNING"),
  (0x4050, "TMP_APPV2_OP_IOT_SPACE_LIST_GET"), (0x4051, "TMP_APPV2_OP_IOT_SPACE_LIST_ADD"),
  (0x4052, "TMP_APPV2_OP_IOT_SPACE_LIST_MODIFY"), (0x4053, "TMP_APPV2_OP_IOT_SPACE_LIST_REMOVE"),
  (0x4054, "TMP_APPV2_OP_IOT_SPACE_SET"), (0x4060, "TMP_APPV2_OP_IOT_OWNER_LIST_GET"),
  (0x4070, "TMP_APPV2_OP_ONE_CLICK_LIST_GET"), (0x4071, "TMP_APPV2_OP_ONE_CLICK_SET"),
  (0x4073, "TMP_APPV2_OP_ONE_CLICK_SCENE_ADD"), (0x4074, "TMP_APPV2_OP_ONE_CLICK_SCENE_MODIFY"),
  (0x4075, "TMP_APPV2_OP_ONE_CLICK_SCENE_LIST_REMOVE"),
  (0x4076, "TMP_APPV2_OP_ONE_CLICK_ACTION_ADD"), (0x4077, "TMP_APPV2_OP_ONE_CLICK_ACTION_MODIFY"),
  (0x4078, "TMP_APPV2_OP_ONE_CLICK_ACTION_LIST_REMOVE"),
  (0x4079, "TMP_APPV2_OP_ONE_CLICK_HISTORY_GET"), (0x407A, "TMP_APPV2_OP_ONE_CLICK_HISTORY_REMOVE"),
  (0x4080, "TMP_APPV2_OP_AUTOMATION_TASK_LIST_GET"), (0x4082, "TMP_APPV2_OP_AUTOMATION_TASK_ADD"),
  (0x4083, "TMP_APPV2_OP_AUTOMATION_TASK_MODIFY"),
  (0x4084, "TMP_APPV2_OP_AUTOMATION_TASK_LIST_REMOVE"),
  (0x4086, "TMP_APPV2_OP_AUTOMATION_TRIGGER_ADD"),
  (0x4087, "TMP_APPV2_OP_AUTOMATION_TRIGGER_MODIFY"),
  (0x4088, "TMP_APPV2_OP_AUTOMATION_TRIGGER_LIST_REMOVE"),
  (0x4089, "TMP_APPV2_OP_AUTOMATION_ACTION_ADD"), (0x408A, "TMP_APPV2_OP_AUTOMATION_ACTION_MODIFY"),
  (0x408B, "TMP_APPV2_OP_AUTOMATION_ACTION_LIST_REMOVE"),
  (0x408C, "TMP_APPV2_OP_AUTOMATION_HISTORY_GET"),
  (0x408D, "TMP_APPV2_OP_AUTOMATION_HISTORY_REMOVE"),
  (0x408E, "TMP_APPV2_OP_AUTOMATION_TASK_LIST_MODIFY"), (0x4090, "TMP_APPV2_OP_CLIENT_LIST_REMOVE"),
  (0x40A0, "TMP_APPV2_OP_OPERATION_MODE_GET"), (0x40A1, "TMP_APPV2_OP_OPERATION_MODE_SET"),
  (0x40B0, "TMP_APPV2_OP_PORT_FORWARDING_LIST_GET"), (0x40B1, "TMP_APPV2_OP_PORT_FORWARDING_ADD"),
  (0x40B2, "TMP_APPV2_OP_PORT_FORWARDING_MODIFY"), (0x40B3, "TMP_APPV2_OP_PORT_FORWARDING_DELETE"),
  (0x40C0, "TMP_APPV2_OP_IP_RESERVATION_LIST_GET"),
  (0x40C1, "TMP_APPV2_OP_IP_RESERVATION_LIST_ADD"), (0x40C2, "TMP_APPV2_OP_IP_RESERVATION_MODIFY"),
  (0x40C3, "TMP_APPV2_OP_IP_RESERVATION_LIST_REMOVE"), (0x40D0, "TMP_APPV2_OP_DDNS_GET"),
  (0x40D1, "TMP_APPV2_OP_DDNS_SET"), (0x40E0, "TMP_APPV2_OP_MONTHLY_REPORT_GET"),
  (0x4100, "TMP_APPV2_OP_ZIGBEE_COORDINATOR_ELECT"),
  (0x4201, "TMP_APPV2_OP_SECURITY_CATEGORY_LIST_GET"),
  (0x4202, "TMP_APPV2_OP_SECURITY_RULE_LIST_GET"), (0x4204, "TMP_APPV2_OP_ENV_VAR_SYNC"),
  (0x4205, "TMP_APPV2_OP_FW_DOWNLOAD"), (0x4206, "TMP_APPV2_OP_QS_HEART_BEAT"),
  (0x4207, "TMP_APPV2_OP_EPONYMOUS_NETWORK_DETECTION"), (0x4208, "TMP_APPV2_OP_11R_GET"),
  (0x4209, "TMP_APPV2_OP_11R_SET"), (0x420A, "TMP_APPV2_OP_QS_DISCOVERED_DEVICELIST_GET"),
  (0x420B, "TMP_APPV2_OP_QS_BATCHES_DEVICE_ALIAS_SET"), (0x420C, "TMP_APPV2_OP_WAN_SET"),
  (0x420D, "TMP_APPV2_OP_VLAN_GET"), (0x420E, "TMP_APPV2_OP_VLAN_SET"),
  (0x420F, "TMP_APPV2_OP_DEVICE_GATEWAY_SET"), (0x4211, "TMP_APPV2_OP_LAN_IP_GET"),
  (0x4212, "TMP_APPV2_OP_LAN_IP_SET"), (0x4213, "TMP_APPV2_OP_DHCP_GET"),
  (0x4214, "TMP_APPV2_OP_DHCP_SET"), (0x4215, "TMP_APPV2_OP_WPS_GET"),
  (0x4216, "TMP_APPV2_OP_WPS_SET"), (0x4217, "TMP_APPV2_OP_DEVICE_NETWORK_REMOVE"),
  (0x4218, "TMP_APPV2_OP_DEVICE_ACCOUNT_MODIFY"), (0x4219, "TMP_APPV2_OP_BANDWIDTH_GET"),
  (0x421A, "TMP_APPV2_OP_BANDWIDTH_SET"), (0x421B, "TMP_APPV2_OP_BEAMFORMING_GET"),
  (0x421C, "TMP_APPV2_OP_BEAMFORMING_SET"), (0x421D, "TMP_APPV2_OP_SIP_ALG_GET"),
  (0x421E, "TMP_APPV2_OP_SIP_ALG_SET"), (0x4220, "TMP_APPV2_OP_PARENT_CTRL_INSIGHTS_REMOVE"),
  (0x4221, "TMP_APPV2_OP_MONTHLY_REPORT_REMOVE"), (0x4222, "TMP_APPV2_OP_MONTHLY_REPORT_MGR_GET"),
  (0x4223, "TMP_APPV2_OP_MONTHLY_REPORT_MGR_SET"), (0x4224, "TMP_APPV2_OP_IPTV_GET"),
  (0x4225, "TMP_APPV2_OP_IPTV_SET"), (0x4226, "TMP_APPV2_OP_MAC_CLONE_GET"),
  (0x4227, "TMP_APPV2_OP_MAC_CLONE_SET"), (0x4228, "TMP_APPV2_OP_SPEEDTEST_SERVER_LIST_GET"),
  (0x4229, "TMP_APPV2_OP_MANAGER_PERMISSION_GET"), (0x422A, "TMP_APPV2_OP_MANAGER_PERMISSION_SET"),
  (0x422B, "TMP_APPV2_OP_SCAN_SSID_LIST_GET"), (0x422C, "TMP_APPV2_OP_HOST_NETWORK_SET"),
  (0x422D, "TMP_APPV2_OP_HOST_NETWORK_GET"), (0x422E, "TMP_APPV2_OP_FEEDBACK_LOG_BUILD"),
  (0x422F, "TMP_APPV2_OP_DEVICE_LIST_SPEED_GET"), (0x4230, "TMP_APPV2_OP_IPV6_FIREWALL_LIST_GET"),
  (0x4231, "TMP_APPV2_OP_IPV6_FIREWALL_LIST_ADD"),
  (0x4232, "TMP_APPV2_OP_IPV6_FIREWALL_LIST_REMOVE"),
  (0x4233, "TMP_APPV2_OP_IPV6_FIREWALL_LIST_MODIFY"), (0x4234, "TMP_APPV2_OP_IPV6_CLIENT_LIST_GET"),
  (0x4235, "TMP_APPV2_OP_FW_SYNC_GET"), (0x4236, "TMP_APPV2_OP_PARENT_CTRL_WEBSITE_UNBLOCK"),
  (0x4237, "TMP_APPV2_OP_SECURITY_DATABASE_UPDATE"),
  (0x4238, "TMP_APPV2_OP_IOT_CLIENT_LIST_MESH_SET"), (0x4239, "TMP_APPV2_OP_GA_INFO_LIST_GET"),
  (0x423A, "TMP_APPV2_OP_SECURITY_WHITELIST_GET"), (0x423B, "TMP_APPV2_OP_SECURITY_WHITELIST_ADD"),
  (0x423C, "TMP_APPV2_OP_SECURITY_WHITELIST_REMOVE"), (0x423D, "TMP_APPV2_OP_CLIENT_LEASE_GET"),
  (0x424A, "TMP_APPV2_OP_UPNP_GET"), (0x424B, "TMP_APPV2_OP_UPNP_SET"),
  (0x424C, "TMP_APPV2_OP_PLC_PAIR_GET"), (0x424D, "TMP_APPV2_OP_PLC_PAIR_SET"),
  (0x424E, "TMP_APPV2_HOMECARE_SERVICE_INFO_GET"),
  (0x424F, "TMP_APPV2_OP_NETWORK_OPTIMIZATION_SCAN"),
  (0x4250, "TMP_APPV2_OP_NETWORK_OPTIMIZATION_OPTIMIZE"),
  (0x4251, "TMP_APPV2_OP_WIRELESS_BANDWIDTH_ENHANCE_GET"),
  (0x4252, "TMP_APPV2_OP_WIRELESS_BANDWIDTH_ENHANCE_SET"),
  (0x4253, "TMP_APPV2_OP_DEVICE_LIST_TRANSFER_OWNERSHIP"),
  (0x4301, "TMP_APPV2_OP_FWLIST_LATEST_GET")]

/-- `_DESTRUCTIVE_MARKERS`. -/
def DESTRUCTIVE_MARKERS : List String := [
  "_REBOOT", "_REMOVE", "_DELETE", "_CLEAR", "_EJECT", "_UNBIND", "_FW_UPDATE", "_FW_DOWNLOAD",
  "_TRANSFER_OWNERSHIP"]

/-- `_SECRET_MARKERS`. -/
def SECRET_MARKERS : List String := [
  "ACCOUNT", "CLIENT", "DDNS", "DHCP", "FEEDBACK_LOG", "HOST_NETWORK", "CONFIG_BACKUP",
  "ISP_PROFILE", "IPV4", "IPV6", "LAN_IP", "MANAGER_PERMISSION", "MESSAGE", "OWNER", "PARENT_CTRL",
  "RESERVATION", "SECURITY", "CALL_LOG", "PHONE_NUMBER", "PIN", "SIM_", "SMS", "TELEPHONE",
  "VOICE_MAIL", "VPN", "WIRELESS"]

/-- `_CATEGORY_MARKERS`: the first one that a name has decides. -/
def CATEGORY_MARKERS : List (String × String) := [
  ("PLC_", "plc"), ("MATTER", "iot"), ("IOT", "iot"), ("CLIENT", "clients"), ("DEVICE", "devices"),
  ("CAMERA_SECURITY", "security"), ("ANTIVIRUS", "security"), ("AVIRA", "security"),
  ("AD_FILTERING", "security"), ("HOMECARE", "security"), ("DPI_", "security"),
  ("WIRELESS", "wireless"), ("11R", "wireless"), ("BEAMFORMING", "wireless"), ("WAN", "network"),
  ("LAN_", "network"), ("IPV4", "network"), ("IPV6", "network"), ("VLAN", "network"),
  ("DHCP", "network"), ("IP_RESERVATION", "network"), ("IP_MAC_BINDING", "network"),
  ("WOL_", "network"), ("ISP_PROFILE", "network"), ("ROUTE_STATIC", "routing"),
  ("STATIC_ROUTE", "routing"), ("PORT_FORWARDING", "nat"), ("UPNP", "nat"), ("SIP_ALG", "nat"),
  ("SPEEDTEST", "diagnostics"), ("NETWORK_OPTIMIZATION", "diagnostics"),
  ("TRAFFIC_USAGE", "statistics"), ("FW", "firmware"), ("SECURITY", "security"),
  ("PARENT_CTRL", "parental_control"), ("QOS", "qos"), ("VPN", "vpn"), ("SMS", "telephony"),
  ("VOICE_MAIL", "telephony"), ("TELEPHONE", "telephony"), ("CALL_", "telephony"),
  ("DECT", "telephony"), ("VOIP", "telephony"), ("USB", "storage"), ("CONFIG_BACKUP", "backup"),
  ("REBOOT_SCHEDULE", "system"), ("AUTOMATION", "automation"), ("ONE_CLICK", "automation"),
  ("OWNER", "account"), ("ACCOUNT", "account"), ("DDNS", "cloud"), ("REPORT", "cloud"),
  ("TOKEN", "protocol"), ("COMP_NEGOTIATE", "protocol")]

/-- The parameters that the probes of the PLC opcodes tried. -/
def P9_PLC_VARIANTS : List String := [
  "json_null", "json_empty_object", "json_default_device", "json_first_device_id", "raw_empty"]

/-- The reads that the app sends through its set dispatcher, with the review of each. -/
def SET_DISPATCHED_GET_REVIEWS : List (Nat × String) := [
  (0x4097, "signed app repeatedly invokes quick-setup configuration synchronization through " ++
    "the set dispatcher with a mutable check_link request"),
  (0x40A5, "signed app invokes TSS network-configuration synchronization through the set " ++
    "dispatcher"),
  (0x4369, "signed app triggers OpenVPN certificate export through the set dispatcher and " ++
    "expects only Boolean completion")]

/-- The opcodes that are secret whatever their names are. -/
def SECRET_OPCODE_CODES : List Nat := SET_DISPATCHED_GET_REVIEWS.map Prod.fst ++ [0x40E0]

/-- The opcodes whose category is given. -/
def CATEGORY_OVERRIDES : List (Nat × String) := [(0x4097, "network"), (0x40A5, "network")]

/-- The opcodes of the protocol itself. -/
def PROTOCOL_NAMES : List String := [
  "TMP_APPV2_OP_UNKNOWN", "TMP_APPV2_OP_TOKEN_ALLOC", "TMP_APPV2_OP_TOKEN_VERIFY",
  "TMP_APPV2_OP_TOKEN_FREE", "TMP_APPV2_OP_COMP_NEGOTIATE", "TMP_APPV2_OP_COMP_NEGOTIATE_BT"]

/-! ## What a name says -/

/-- The app sends this read as a write. -/
def is_reviewed (code : Nat) : Bool := (SET_DISPATCHED_GET_REVIEWS.lookup code).isSome

/-- A name of a read. -/
def is_read_name (name : String) : Bool := ends_with name "_GET" || contains "_GET_BY_" name

/-- A name that tells of a loss. -/
def is_destructive_name (name : String) : Bool :=
  DESTRUCTIVE_MARKERS.any fun marker => contains marker name

/-- `_safety`. -/
def safety_of (code : Nat) (name : String) : String :=
  if is_reviewed code then "mutation"
  else if is_read_name name then "read_only"
  else if name ∈ PROTOCOL_NAMES then "internal"
  else if is_destructive_name name then "destructive"
  else "mutation"

/-- `_safety_evidence`. -/
def safety_evidence_of (code : Nat) (name : String) : String :=
  if is_reviewed code then "signed_app_set_dispatch_and_workflow_side_effect"
  else if is_read_name name then "opcode_name_read_semantics"
  else if name ∈ PROTOCOL_NAMES then "protocol_internal_opcode"
  else if is_destructive_name name then "destructive_opcode_name_marker"
  else "opcode_name_mutation_semantics"

/-- `_sensitivity`. -/
def sensitivity_of (code : Nat) (name : String) : Sensitivity :=
  if code ∈ SECRET_OPCODE_CODES ∨ SECRET_MARKERS.any fun marker => contains marker name then
    .secret
  else .private

/-- `_category`. -/
def category_of (code : Nat) (name : String) : String :=
  match CATEGORY_OVERRIDES.lookup code with
  | some override => override
  | none =>
    match CATEGORY_MARKERS.find? fun (marker, _) => contains marker name with
    | some (_, category) => category
    | none => "system"

/-! ## The records of an artifact -/

/-- `get_int(data, key, default)`. -/
def get_int_or (data : JsonObject) (key : String) (default : Int) : Int :=
  match get data key with
  | .bool value => if value then 1 else 0
  | .int value => value
  | .str value => (int_of_text value).getD default
  | _ => default

/-- The opcode of a record, if it has one. -/
def code_of (record : JsonObject) : Option Nat :=
  let code := get_int_or record "code" (-1)
  if code < 0 then none else some code.toNat

/-- One turn of a loading loop: what is no object is passed over. -/
def add_record {α : Type} (message : String) (read : Dict Nat α → JsonObject → Option (Nat × α))
    (loaded : Dict Nat α) (item : Json) : Except PyError (Dict Nat α) :=
  match item with
  | .obj record =>
    match read loaded record with
    | some (code, value) => .ok (loaded.set code value)
    | none => .error (value_error message)
  | _ => .ok loaded

/-- Read the records of an artifact, each opcode once. -/
def load_records {α : Type} (message : String)
    (read : Dict Nat α → JsonObject → Option (Nat × α)) (records : List Json) :
    Except PyError (Dict Nat α) :=
  records.foldlM (add_record message read) .empty

/-- A check of an artifact. -/
def require (holds : Bool) (message : String) : Except PyError Unit :=
  if holds then .ok () else .error (value_error message)

/-- `data.get(key)` where it has to be a list. -/
def records_of (data : JsonObject) (key message : String) : Except PyError (List Json) :=
  match get data key with
  | .arr records => .ok records
  | _ => .error (value_error message)

/-- `data.get(key)` where it has to be an object. -/
def object_of (data : JsonObject) (key message : String) : Except PyError JsonObject :=
  match get data key with
  | .obj fields => .ok fields
  | _ => .error (value_error message)

/-! ## The registry -/

/-- An opcode of the registry. -/
structure Operation where
  name : String
  aliases : List String
  mapping_occurrences : Int

/-- One operation of the registry artifact. -/
def read_operation (_ : Dict Nat Operation) (record : JsonObject) : Option (Nat × Operation) := do
  let code ← code_of record
  let name := get_str record "name"
  let mapping_occurrences := get_int record "mapping_occurrences"
  if starts_with name "TMP_" ∧ 1 ≤ mapping_occurrences then
    some (code, { name, aliases := get_str_tuple record "aliases", mapping_occurrences })
  else none

/-- The name under which the registry has to list a row. -/
def registry_name (code : Nat) (name : String) : String :=
  if code = 0x400E then "TMP_APPV2_OP_SYSTEM_TIME" else name

structure OpcodeRegistry where
  operations : Dict Nat Operation
  application : String

def load_opcode_registry (data : JsonObject) : Except PyError OpcodeRegistry := do
  require (get_int data "schema_version" = 1)
    "Failed to load TMP opcode registry: unsupported schema version"
  let missing := "Failed to load TMP opcode registry: registry data is missing"
  let records ← records_of data "operations" missing
  let source ← object_of data "source" missing
  let operations ← load_records "Failed to load TMP opcode registry: invalid operation"
    read_operation records
  require (operations.size = get_int data "operation_count")
    "Failed to load TMP opcode registry: operation count mismatch"
  require (LEGACY_OPCODE_ROWS.all fun (code, name) =>
      (operations.get? code).any fun operation => operation.name = registry_name code name)
    "Failed to load TMP opcode registry: legacy coverage is incomplete"
  require (get_str source "application" ≠ "")
    "Failed to load TMP opcode registry: source is missing"
  return { operations, application := get_str source "application" }

namespace OpcodeRegistry

/-- `_OPCODE_ROWS`. -/
def rows (registry : OpcodeRegistry) : List (Nat × Operation) :=
  by_key Prod.fst registry.operations.entries

/-- The safety of a code of the registry. -/
def safety_at (registry : OpcodeRegistry) (code : Nat) : Option String :=
  (registry.operations.get? code).map fun operation => safety_of code operation.name

end OpcodeRegistry

/-! ## The observations -/

/-- The observations that the artifact may hold for a read. -/
def read_status : String → Option TmpP9Observation
  | "returned_data" => some .returned_data
  | "returned_binary" => some .returned_binary
  | "rejected" => some .rejected
  | "payload_rejected" => some .payload_rejected
  | _ => none

/-- What was observed of a read. -/
structure ReadObservation where
  record : JsonObject
  status : TmpP9Observation

/-- One observation of the read artifact. -/
def read_observation (_ : Dict Nat ReadObservation) (record : JsonObject) :
    Option (Nat × ReadObservation) := do
  let code ← code_of record
  let status ← read_status (get_str record "status")
  some (code, { record, status })

/-- `_load_p9_read_observations`. -/
def load_p9_read_observations (registry : OpcodeRegistry) (data : JsonObject) :
    Except PyError (Dict Nat ReadObservation) := do
  require (get_int data "schema_version" = 1)
    "Failed to load TMP compatibility: unsupported schema version"
  let records ← records_of data "observations"
    "Failed to load TMP compatibility: observations are missing"
  let observations ← load_records "Failed to load TMP compatibility: invalid observation"
    read_observation records
  require (observations.size = get_int data "read_only_opcode_count" ∧
      observations.keys.all fun code => registry.safety_at code = some "read_only")
    "Failed to load TMP compatibility: tested read coverage is invalid"
  return observations

/-- The observations that the artifact may hold for a mutation. -/
def mutation_status : String → Option TmpP9MutationObservation
  | "verified_noop" => some .verified_noop
  | "same_value_immediate_verification_passed" => some .same_value_immediate_verification_passed
  | "write_rejected" => some .write_rejected
  | "rollback_confirmed" => some .rollback_confirmed
  | "rollback_unconfirmed" => some .rollback_unconfirmed
  | _ => none

/-- The one safety status that an observation may have. -/
def safety_status : String → Option TmpP9MutationSafetyStatus
  | "safety_not_established" => some .safety_not_established
  | _ => none

/-- What was observed of a mutation. -/
structure MutationObservation where
  record : JsonObject
  status : TmpP9MutationObservation
  safety_status : TmpP9MutationSafetyStatus

/-- One observation of the mutation artifact, for an opcode that the registry has as a mutation. -/
def read_mutation_observation (registry : OpcodeRegistry) (_ : Dict Nat MutationObservation)
    (record : JsonObject) : Option (Nat × MutationObservation) := do
  let code ← code_of record
  let status ← mutation_status (get_str record "status")
  let safety_status ← safety_status (get_str record "safety_status")
  if registry.safety_at code = some "mutation" then some (code, { record, status, safety_status })
  else none

/-- `_load_p9_mutation_observations`. -/
def load_p9_mutation_observations (registry : OpcodeRegistry) (data : JsonObject) :
    Except PyError (Dict Nat MutationObservation) := do
  require (get_int data "schema_version" = 2)
    "Failed to load TMP mutation compatibility: unsupported schema version"
  let records ← records_of data "observations"
    "Failed to load TMP mutation compatibility: observations are missing"
  let observations ← load_records "Failed to load TMP mutation compatibility: invalid observation"
    (read_mutation_observation registry) records
  require (observations.size = get_int data "tested_mutation_count")
    "Failed to load TMP mutation compatibility: tested count mismatch"
  return observations

/-! ## The contracts of the signed apps -/

/-- The status of a contract. -/
def contract_status : String → Option TmpAppContractStatus
  | "no_app_call_site" => some .no_app_call_site
  | "static_keys_recovered" => some .static_keys_recovered
  | "static_model_recovered" => some .static_model_recovered
  | "static_null_payload" => some .static_null_payload
  | _ => none

/-- What the app says of the parameters of an opcode. -/
structure AppContract where
  record : JsonObject
  status : TmpAppContractStatus
  contract_sha256 : String

/-- One contract of the app artifact. -/
def read_app_contract (_ : Dict Nat AppContract) (record : JsonObject) :
    Option (Nat × AppContract) := do
  let code ← code_of record
  let status ← contract_status (get_str record "static_contract_status")
  let contract_sha256 := get_str record "contract_sha256"
  if contract_sha256.length = 64 then some (code, { record, status, contract_sha256 }) else none

/-- The contracts with the sources of their analysis. -/
structure AppContracts where
  contracts : Dict Nat AppContract
  analysis_sources : List String

/-- `_load_app_contracts`. -/
def load_app_contracts (registry : OpcodeRegistry) (data : JsonObject) :
    Except PyError AppContracts := do
  require (get_int data "schema_version" = 2)
    "Failed to load TMP app contracts: unsupported schema version"
  let missing := "Failed to load TMP app contracts: contracts are missing"
  let records ← records_of data "contracts" missing
  let sources ← records_of data "sources" missing
  let analysis_sources := sources.filterMap fun
    | .obj source =>
      if get_str source "application" ≠ "" then some (get_str source "application") else none
    | _ => none
  require (analysis_sources.length = sources.length)
    "Failed to load TMP app contracts: sources are invalid"
  let contracts ← load_records "Failed to load TMP app contracts: invalid contract"
    read_app_contract records
  require (contracts.keys.all (· ∈ registry.operations.keys) ∧
      registry.operations.keys.all (· ∈ contracts.keys))
    "Failed to load TMP app contracts: opcode coverage is incomplete"
  return { contracts, analysis_sources }

/-- What is known of an opcode that no call site names, for which the app looks up its method. Its
digest is that of the canonical text of the record. -/
def read_indirect_app_contract (float_repr : Option Rat → String) (loaded : Dict Nat AppContract)
    (record : JsonObject) : Option (Nat × AppContract) := do
  let code ← code_of record
  let status ← contract_status (get_str record "static_contract_status")
  if status ≠ .no_app_call_site ∧ code ∉ loaded.keys then
    let contract_sha256 := sha256.hexdigest (encode (dumps float_repr (.obj record)))
    some (code, { record, status, contract_sha256 })
  else none

/-- `_load_indirect_app_contracts`. -/
def load_indirect_app_contracts (float_repr : Option Rat → String) (data : JsonObject) :
    Except PyError (Dict Nat AppContract) := do
  require (get_int data "schema_version" = 1)
    "Failed to load indirect TMP app contracts: unsupported schema version"
  let records ← records_of data "contracts"
    "Failed to load indirect TMP app contracts: contracts are missing"
  load_records "Failed to load indirect TMP app contracts: invalid contract"
    (read_indirect_app_contract float_repr) records

/-- A contract that was found indirectly takes the place of one without a call site. -/
def merge_contract (contracts : Dict Nat AppContract) (entry : Nat × AppContract) :
    Except PyError (Dict Nat AppContract) :=
  if (contracts.get? entry.1).any fun existing => existing.status = .no_app_call_site then
    .ok (contracts.set entry.1 entry.2)
  else .error (value_error
    "Failed to merge indirect TMP app contracts: unexpected base contract")

/-- `_merge_indirect_app_contracts`. -/
def merge_indirect_app_contracts (contracts indirect_contracts : Dict Nat AppContract) :
    Except PyError (Dict Nat AppContract) :=
  indirect_contracts.entries.foldlM merge_contract contracts

/-! ## The catalogue -/

/-- The parsed artifacts that the catalogue is loaded from. -/
structure Artifacts where
  registry : JsonObject
  p9_reads : JsonObject
  p9_mutations : JsonObject
  app_contracts : JsonObject
  indirect_app_contracts : JsonObject

/-- What is read from the artifacts before the catalogue is made. -/
structure Evidence where
  registry : OpcodeRegistry
  reads : Dict Nat ReadObservation
  mutations : Dict Nat MutationObservation
  contracts : Dict Nat AppContract
  analysis_sources : List String
  indirect_contracts : Dict Nat AppContract

/-- Load all five, in the order of the module. -/
def load_evidence (float_repr : Option Rat → String) (artifacts : Artifacts) :
    Except PyError Evidence := do
  let registry ← load_opcode_registry artifacts.registry
  let reads ← load_p9_read_observations registry artifacts.p9_reads
  let mutations ← load_p9_mutation_observations registry artifacts.p9_mutations
  let direct ← load_app_contracts registry artifacts.app_contracts
  let indirect_contracts ← load_indirect_app_contracts float_repr artifacts.indirect_app_contracts
  let contracts ← merge_indirect_app_contracts direct.contracts indirect_contracts
  return { registry, reads, mutations, contracts
           analysis_sources := direct.analysis_sources
           indirect_contracts }

/-- `_optional_int`: a `bool` is none. -/
def optional_int (data : JsonObject) (key : String) : Option Int := (get data key).asInt

/-- The strings of a list, each once and none empty. -/
def distinct_texts (items : List String) : List String := (items.filter (· ≠ "")).eraseDups

/-- `_tested_variants`. -/
def tested_variants (data : JsonObject) (code : Nat) : List String :=
  if code = 0x424C then P9_PLC_VARIANTS
  else
    let fuzzy := (((get data "fuzzy_variants").asArr).getD []).filterMap fun item =>
      item.asObj.map fun variant => get_str variant "variant"
    distinct_texts (get_str data "variant" :: get_str_tuple data "tested_variants" ++ fuzzy)

/-- `_confirmed_parameter_sets`. -/
def confirmed_parameter_sets (data : JsonObject) : List (List String) :=
  let items := ((get data "confirmed_parameter_sets").asArr).getD []
  let parameter_sets := items.filterMap fun item =>
    item.asArr.map fun keys => (keys.filterMap Json.asStr).filter (· ≠ "")
  (parameter_sets.filter (· ≠ [])).eraseDups

/-- How the contract of an opcode was found. -/
def app_contract_provenance (evidence : Evidence) (code : Nat) (contract : AppContract) :
    TmpAppContractProvenance :=
  if code ∈ evidence.indirect_contracts.keys then .indirect_virtual_dispatch
  else if contract.status = .no_app_call_site then .none
  else .direct

/-- A `TmpOpcodeSpec`, with the fields that no plan uses. -/
structure CataloguedOpcode extends EvidencedOpcode where
  aliases : List String
  opcode_registry_source : String
  opcode_registry_mapping_occurrences : Int
  p9_appv2_error_code : Option Int
  p9_firmware_error_code : Option Int
  p9_tested_variants : List String
  p9_parameter_value_source : String
  p9_response_size : Option Int
  p9_response_sha256 : String
  p9_fuzzy_status : String

/-- A field of an observation, where there is one. -/
def observed {α β : Type} (observation : Option α) (default : β) (field : α → β) : β :=
  observation.elim default field

/-- One entry of the catalogue. -/
def catalogue_entry (evidence : Evidence) (row : Nat × Operation) :
    Except PyError CataloguedOpcode :=
  let (code, operation) := row
  let name := operation.name
  match evidence.contracts.get? code with
  | none => .error { cls := .KeyError, message := toString code }
  | some contract =>
    let read := evidence.reads.get? code
    let mutation := evidence.mutations.get? code
    .ok {
      code, name
      safety := safety_of code name
      safety_evidence := safety_evidence_of code name
      sensitivity := sensitivity_of code name
      category := category_of code name
      aliases := operation.aliases
      opcode_registry_source := evidence.registry.application
      opcode_registry_mapping_occurrences := operation.mapping_occurrences
      app_analysis_sources := evidence.analysis_sources
      app_contract_sources := get_str_tuple contract.record "contract_sources"
      app_dispatch_methods := get_str_tuple contract.record "dispatch_methods"
      app_contract_provenance := app_contract_provenance evidence code contract
      app_contract_status := contract.status
      app_request_models := get_str_tuple contract.record "request_models"
      app_candidate_parameter_keys := get_str_tuple contract.record "candidate_parameter_keys"
      app_call_site_count := (((get contract.record "call_sites").asArr).getD []).length
      app_contract_sha256 := contract.contract_sha256
      app_set_dispatch_review := (SET_DISPATCHED_GET_REVIEWS.lookup code).getD ""
      p9_observation :=
        if code ∈ [0x0001, 0x4001] then .accepted
        else observed read .untested fun found => found.status
      p9_appv2_error_code := observed read none fun found =>
        optional_int found.record "appv2_error_code"
      p9_firmware_error_code := observed read none fun found =>
        optional_int found.record "firmware_error_code"
      p9_tested_variants := observed read [] fun found => tested_variants found.record code
      p9_confirmed_parameter_sets := observed read [] fun found =>
        confirmed_parameter_sets found.record
      p9_parameter_value_source := observed read "" fun found =>
        get_str found.record "parameter_value_source"
      p9_schema_paths := observed read [] fun found => get_str_tuple found.record "schema_paths"
      p9_response_size := observed read none fun found => optional_int found.record "response_size"
      p9_response_sha256 := observed read "" fun found => get_str found.record "response_sha256"
      p9_fuzzy_status := observed read "" fun found => get_str found.record "fuzzy_status"
      p9_mutation_observation := observed mutation .untested fun found => found.status
      p9_mutation_safety_status := observed mutation .untested fun found => found.safety_status
      p9_mutation_firmware_error_code := observed mutation none fun found =>
        optional_int found.record "firmware_error_code"
      p9_mutation_parameter_keys := observed mutation [] fun found =>
        get_str_tuple found.record "parameter_keys"
      p9_mutation_state_unchanged := observed mutation none fun found =>
        some (get_bool found.record "state_unchanged")
      p9_mutation_rollback_attempted := observed mutation false fun found =>
        get_bool found.record "rollback_attempted"
      p9_mutation_rollback_verified := observed mutation none fun found =>
        (get found.record "rollback_verified").asBool
      p9_mutation_request_count := observed mutation 0 fun found =>
        get_int found.record "mutation_request_count"
      p9_mutation_evidence_artifact := observed mutation "" fun found =>
        get_str found.record "evidence_artifact" }

/-- `TMP_OPCODE_CATALOG`. -/
def load_catalog (float_repr : Option Rat → String) (artifacts : Artifacts) :
    Except PyError (List CataloguedOpcode) := do
  let evidence ← load_evidence float_repr artifacts
  evidence.registry.rows.mapM (catalogue_entry evidence)

end tplink_deco_api.tmp_opcode_catalog
