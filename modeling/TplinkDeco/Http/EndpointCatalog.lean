-- The operations of the firmware that the package knows, as `endpoint_spec.py`
-- and `endpoint_catalog.py` describe them.
import Mathlib.Data.List.Nodup
import TplinkDeco.Exceptions
import TplinkDeco.Lib.Json

open json

namespace tplink_deco_api.endpoint_catalog

open exceptions

/-! ## The description of one operation -/

/-- `AuthenticationMode`. -/
inductive AuthenticationMode where
  | encrypted
  | plain
  | multipart
  | download
  | bootstrap
  | group_key
  | token
deriving DecidableEq, Repr

/-- `ResponseKind`. -/
inductive ResponseKind where
  | object
  | list
  | value
  | binary
deriving DecidableEq, Repr

/-- `SafetyLevel`. -/
inductive SafetyLevel where
  | read_only
  | mutation
  | destructive
  | internal
deriving DecidableEq, Repr

/-- `SensitivityLevel`. -/
inductive SensitivityLevel where
  | normal
  | private_
  | secret
deriving DecidableEq, Repr

/-- What a request names: the path and the form of its URL, and the operation of its body. -/
structure Operation where
  path : String
  form : String
  operation : String
deriving DecidableEq, Repr

/-- The keyword arguments of `_specs`, as far as a function here reads them. -/
structure Traits where
  authentication : AuthenticationMode := .encrypted
  response_kind : ResponseKind := .object
  safety : SafetyLevel := .read_only
  sensitivity : SensitivityLevel := .normal
  default_params : Option JsonObject := none

/-- `EndpointSpec`: an operation, with how it is called and what it may show or change. -/
structure EndpointSpec extends Traits, Operation where
  required_params : List String := []

/-- `s.replace(old, new)` for one character. -/
def replaced (old new : Char) (s : String) : String :=
  String.ofList (s.toList.map fun c => if c = old then new else c)

/-- `s.strip(c)`. -/
def stripped (c : Char) (s : String) : String :=
  String.ofList (((s.toList.dropWhile (· = c)).reverse.dropWhile (· = c)).reverse)

/-- The name of an operation in the catalogue. -/
def Operation.name (o : Operation) : String :=
  replaced '-' '_' (replaced '/' '.' (stripped '/' o.path)) ++ "." ++ replaced '-' '_' o.form ++
    "." ++ replaced '-' '_' o.operation

namespace EndpointSpec

variable (e : EndpointSpec)

/-- `call` can send it. -/
def generic_call_supported : Bool :=
  e.authentication ∈ [.encrypted, .plain] && e.response_kind ≠ .binary

/-- `call_binary` can send it. -/
def binary_call_supported : Bool :=
  e.response_kind = .binary && (e.authentication ∈ [.download, .encrypted] ||
    (e.authentication = .multipart &&
      e.toOperation = ⟨"admin/firmware", "config_multipart", "backup"⟩))

/-- `call_bootstrap` can send it. -/
def bootstrap_call_supported : Bool :=
  e.authentication = .bootstrap && e.path = "login" && e.operation = "read" &&
    e.response_kind ≠ .binary

/-- The parameters that a request sends: those that are given, or the default ones. -/
def selected_params (params : Option JsonObject) : Option JsonObject := params.or e.default_params

/-- The required parameters that are not given. -/
def missing_params (params : Option JsonObject) : List String :=
  match e.selected_params params with
  | none => e.required_params
  | some selected => e.required_params.filter fun name => (selected.lookup name).isNone

/-- `EndpointSpec.validate_params`. -/
def validate_params (params : Option JsonObject) : Except PyError Unit :=
  match e.missing_params params with
  | [] => .ok ()
  | missing =>
    let missing_params := ", ".intercalate missing
    .error (value_error s!"Failed to call {e.name}: missing required params: {missing_params}")

/-- `request_data`, without the operation: the parameters of the body. -/
def request_params (params : Option JsonObject) : Except PyError (Option JsonObject) := do
  e.validate_params (e.selected_params params)
  .ok (e.selected_params params)

end EndpointSpec

/-! ## The catalogue -/

/-- The default parameters of an operation on one node. -/
def default_device : JsonObject := [("device_mac", .str "default")]

/-- The required parameters of `_PARAMETER_CONTRACTS`. -/
def PARAMETER_CONTRACTS : List ((String × String × String) × List String) := [
  (("admin/network", "wan_mode", "write"), ["mode"]),
  (("admin/network", "lan_ip", "write"), ["ip", "mask"]),
  (("admin/network", "dhcp_dial", "write"), ["enable_unicast"]),
  (("admin/network", "igmp_setting", "write"), ["enable_join_igmpv3"]),
  (("admin/network", "wifi_network", "write"), ["enable_wfnetwork"]),
  (("admin/network", "flow_control", "write"), ["enable_flow_control"]),
  (("admin/network", "fast_xmit_setting", "write"), ["enable"]),
  (("admin/network", "vlan", "set_vlan"), ["vlan_id"]),
  (("admin/network", "vlan", "write"), ["vlan_id"]),
  (("admin/network", "mac_clone", "write"), ["clone_mode"]),
  (("admin/network", "routes_static", "add"),
    ["name", "target", "netmask", "gateway", "interface"]),
  (("admin/network", "routes_static", "modify"),
    ["key", "name", "target", "netmask", "gateway", "interface"]),
  (("admin/network", "routes_static", "remove"), ["key"]),
  (("admin/dhcp", "dhcp_info", "write"), ["startIpAddress", "endIpAddress"]),
  (("admin/wireless", "ieee80211r", "write"), ["enable"]),
  (("admin/wireless", "beamforming", "write"), ["enable"]),
  (("admin/wireless", "operation_mode", "write"), ["mode"]),
  (("admin/wireless", "bandwidth_enhance", "write"), ["enable_ht160"]),
  (("admin/wireless", "ofdma", "write"), ["enable"]),
  (("admin/device", "timesetting", "write"), ["timezone", "continent", "tz_region"]),
  (("admin/device", "system", "reboot"), ["mac_list"]),
  (("admin/device", "device_list", "remove"), ["device_id"]),
  (("admin/device", "reboot", "write"), ["device_id"]),
  (("admin/device", "led", "write"), ["enable"]),
  (("locale", "lang", "write"), ["locale"]),
  (("locale", "country", "write"), ["value"]),
  (("admin/client", "client", "write"), ["mac"]),
  (("admin/client", "client_access", "write"), ["mac", "action"]),
  (("admin/client", "black_list", "add"), ["mac"]),
  (("admin/client", "black_list", "remove"), ["mac"]),
  (("admin/client", "block", "write"), ["mac"]),
  (("admin/client", "unblock", "write"), ["mac"]),
  (("admin/client", "addr_reservation", "add"), ["mac", "ip"]),
  (("admin/client", "addr_reservation", "modify"), ["mac", "ip"]),
  (("admin/client", "addr_reservation", "remove"), ["mac"]),
  (("admin/smart_network", "bandwidth", "set"), ["upstream_bandwidth", "downstream_bandwidth"]),
  (("admin/nat", "vs", "add"),
    ["name", "external_port", "internal_ip", "internal_port", "protocol"]),
  (("admin/nat", "vs", "modify"), ["port_forwarding_id"]),
  (("admin/nat", "vs", "remove"), ["port_forwarding_id"]),
  (("admin/nat", "dmz", "write"), ["enable"]),
  (("admin/nat", "sip_alg", "set"), ["enable"]),
  (("admin/ddns", "ddns", "set"), ["ddns_status"]),
  (("admin/ipv6_firewall", "firewall", "remove"), ["id"]),
  (("admin/iptv", "iptv", "set"), ["enable"]),
  (("admin/wps", "state", "set"), ["state"]),
  (("admin/cloud", "firmware", "upload"), ["hw_id", "oem_id", "device_model"]),
  (("admin/log_export", "feedback_log", "build"), ["level"]),
  (("admin/log_export", "feedback_log", "read"), ["index", "limit"]),
  (("admin/syslog", "mail", "write"), ["from", "password", "smtp_server", "port", "to"])]

/-- An entry of the catalogue. -/
def spec (path form : String) (traits : Traits) (operation : String) : EndpointSpec := { traits with
  path
  form
  operation
  required_params := (PARAMETER_CONTRACTS.lookup (path, form, operation)).getD [] }

/-- The calls of `_specs`, path by path. -/
def SPECS : List (String × List (String × Traits × List String)) := [
  ("login", [
    ("auth", { authentication := .bootstrap }, ["read"]),
    ("keys", { authentication := .bootstrap }, ["read"]),
    ("login", { authentication := .bootstrap, safety := .mutation, sensitivity := .secret },
      ["login"]),
    ("check_factory_default", { authentication := .bootstrap }, ["read"]),
    ("default_info", { authentication := .bootstrap, sensitivity := .secret }, ["read"]),
    ("mini_login", { authentication := .bootstrap, safety := .mutation, sensitivity := .secret },
      ["login"]),
    ("cloud_login", { authentication := .bootstrap, safety := .mutation, sensitivity := .secret },
      ["login"])]),
  ("domain_login", [
    ("dlogin", { authentication := .encrypted, sensitivity := .secret }, ["read"]),
    ("dlogin", { authentication := .encrypted, safety := .mutation, sensitivity := .secret },
      ["write"])]),
  ("admin/network", [
    ("wan_mode", {}, ["read"]),
    ("wan_mode", { safety := .mutation }, ["write"]),
    ("wan_ipv4", { sensitivity := .secret, default_params := some default_device }, ["read"]),
    ("wan_ipv4", { safety := .mutation, sensitivity := .secret },
      ["write", "connect", "disconnect"]),
    ("lan_ipv4", { sensitivity := .private_, default_params := some default_device }, ["read"]),
    ("lan_ip", { sensitivity := .private_, default_params := some default_device }, ["read"]),
    ("lan_ip", { safety := .mutation, sensitivity := .private_ }, ["write"]),
    ("lan_block", { sensitivity := .private_ }, ["read"]),
    ("lan_block", { safety := .mutation }, ["write"]),
    ("internet", { sensitivity := .private_ }, ["read"]),
    ("ipv6", { sensitivity := .secret }, ["read"]),
    ("ipv6", { safety := .mutation, sensitivity := .private_ }, ["write"]),
    ("vlan", {}, ["read", "get_vlan"]),
    ("vlan", { safety := .mutation }, ["write", "set_vlan"]),
    ("mac_clone", { sensitivity := .private_ }, ["read"]),
    ("mac_clone", { safety := .mutation }, ["write"]),
    ("mac_clone_list", { sensitivity := .private_ }, ["read"]),
    ("performance", {}, ["read"]),
    ("dhcp_dial", { sensitivity := .secret }, ["read"]),
    ("dhcp_dial", { safety := .mutation, sensitivity := .secret }, ["write"]),
    ("igmp_setting", {}, ["read"]),
    ("igmp_setting", { safety := .mutation }, ["write"]),
    ("wifi_network", { sensitivity := .private_ }, ["read"]),
    ("wifi_network", { safety := .mutation }, ["write"]),
    ("erp_setting", {}, ["read"]),
    ("erp_setting", { safety := .mutation }, ["write"]),
    ("flow_control", {}, ["read"]),
    ("flow_control", { safety := .mutation }, ["write"]),
    ("fast_xmit_setting", {}, ["read"]),
    ("fast_xmit_setting", { safety := .mutation }, ["write"]),
    ("flow_control_lan_wan", {}, ["read"]),
    ("flow_control_lan_wan", { safety := .mutation }, ["write"]),
    ("upnp", { sensitivity := .private_ }, ["read"]),
    ("upnp", { safety := .mutation }, ["write"]),
    ("routes_static", { sensitivity := .private_ }, ["getlist"]),
    ("routes_static", { safety := .mutation, sensitivity := .private_ },
      ["add", "modify", "remove"]),
    ("routes_system", { sensitivity := .private_ }, ["getlist"]),
    ("dsl_status", { default_params := some default_device }, ["read"])]),
  ("admin/route", [
    ("route", { sensitivity := .private_ }, ["read"]),
    ("route", { safety := .mutation, sensitivity := .private_ }, ["insert", "delete", "update"])]),
  ("admin/dhcp", [
    ("dhcp_info", { sensitivity := .private_ }, ["read"]),
    ("dhcp_info", { safety := .mutation, sensitivity := .private_ }, ["write"]),
    ("dhcp_dial", { safety := .mutation }, ["set"]),
    ("dhcp_ap", {}, ["get"]),
    ("dhcp_ap", { safety := .mutation }, ["set"])]),
  ("admin/wireless", [
    ("wlan", { sensitivity := .secret }, ["read"]),
    ("wlan", { safety := .mutation, sensitivity := .secret }, ["write"]),
    ("operation_mode", {}, ["read"]),
    ("operation_mode", { safety := .mutation }, ["write"]),
    ("bridge", { sensitivity := .private_ }, ["read", "get_bridge_status"]),
    ("check", { sensitivity := .private_ }, ["check"]),
    ("ieee80211r", {}, ["read"]),
    ("ieee80211r", { safety := .mutation }, ["write"]),
    ("beamforming", {}, ["read"]),
    ("beamforming", { safety := .mutation }, ["write"]),
    ("bandwidth_enhance", {}, ["read"]),
    ("bandwidth_enhance", { safety := .mutation }, ["write"]),
    ("bandwidth_switch", {}, ["read"]),
    ("bandwidth_switch", { safety := .mutation }, ["write"]),
    ("power", { default_params := some default_device }, ["read"]),
    ("power", { safety := .mutation }, ["write"]),
    ("smart_antenna", {}, ["read"]),
    ("smart_antenna", { safety := .mutation }, ["write"]),
    ("wifi_schedule", {}, ["read"]),
    ("wifi_schedule", { safety := .mutation }, ["write"]),
    ("ofdma", {}, ["read"]),
    ("ofdma", { safety := .mutation }, ["write"]),
    ("mlo_network", { sensitivity := .secret }, ["read"]),
    ("mlo_network", { safety := .mutation, sensitivity := .secret }, ["write"]),
    ("backhaul_optimization", {}, ["read"]),
    ("backhaul_optimization", { safety := .mutation }, ["write"]),
    ("get_support", {}, ["read"])]),
  ("admin/network_optimize", [
    ("acs_optimize", {}, ["read"]),
    ("acs_optimize", { safety := .mutation }, ["write"]),
    ("acs_filter_macs", { sensitivity := .private_ }, ["get"])]),
  ("admin/device", [
    ("device_list", { sensitivity := .private_ }, ["read"]),
    ("device_list", { safety := .destructive }, ["remove"]),
    ("mode", {}, ["read"]),
    ("speedtest", {}, ["read"]),
    ("speedtest", { safety := .mutation }, ["write", "stop"]),
    ("speedinfo", {}, ["read"]),
    ("timesetting", {}, ["read"]),
    ("timesetting", { safety := .mutation }, ["write"]),
    ("timesetting", { safety := .mutation }, ["gmt"]),
    ("system", { sensitivity := .private_ }, ["read"]),
    ("system", { safety := .mutation }, ["write"]),
    ("system", { safety := .destructive }, ["reboot"]),
    ("reboot", { safety := .destructive }, ["write"]),
    ("factory", { safety := .destructive }, ["write"]),
    ("gateway", {}, ["read"]),
    ("mini_device_list", { sensitivity := .private_ }, ["read"]),
    ("envar", {}, ["read"]),
    ("envar", { safety := .mutation }, ["write"]),
    ("get_server", {}, ["read"]),
    ("get_server", { safety := .mutation }, ["clear"]),
    ("led", {}, ["read"]),
    ("led", { safety := .mutation }, ["write"]),
    ("sysmode", {}, ["read"]),
    ("set_backup", { safety := .mutation }, ["write"]),
    ("device_prefer_set", { safety := .mutation }, ["set"]),
    ("signal_level_list", { sensitivity := .private_ }, ["read"]),
    ("detect_mode", {}, ["read"]),
    ("fixed_wan_port", {}, ["read"]),
    ("fixed_wan_port", { safety := .mutation }, ["write"]),
    ("systime", {}, ["read"]),
    ("eco_mode", {}, ["read"]),
    ("eco_mode", { safety := .mutation }, ["write"])]),
  ("admin/system", [
    ("envar", { authentication := .plain }, ["read"]),
    ("envar", { authentication := .plain, safety := .mutation }, ["write"]),
    ("sysmode", { authentication := .plain }, ["read"]),
    ("logout", { safety := .mutation }, ["write"]),
    ("logout", { safety := .mutation }, ["logout"])]),
  ("admin/component_control", [("switch_list", {}, ["read"])]),
  ("admin/web", [("extra_component_info", {}, ["get"])]),
  ("locale", [
    ("lang", {}, ["read"]),
    ("lang", { safety := .mutation }, ["write"]),
    ("country", {}, ["read"]),
    ("country", { safety := .mutation }, ["write"]),
    ("country_list", {}, ["read"]),
    ("list", { response_kind := .list }, ["read"])]),
  ("admin/eco_mode", [
    ("eco_mode", {}, ["read"]),
    ("eco_mode", { safety := .mutation }, ["write"]),
    ("get_period", {}, ["read"]),
    ("skip_schedule", { safety := .mutation }, ["write"])]),
  ("admin/time_setting", [
    ("request", {}, ["read"]),
    ("notify", { safety := .mutation }, ["write"])]),
  ("admin/client", [
    ("client_list", { sensitivity := .private_, default_params := some default_device }, ["read"]),
    ("client", { sensitivity := .private_ }, ["read"]),
    ("client", { safety := .mutation, sensitivity := .private_ }, ["write"]),
    ("traffic_stat", { sensitivity := .private_ }, ["read", "list"]),
    ("black_list", { sensitivity := .private_ }, ["getlist", "list"]),
    ("black_list", { safety := .mutation, sensitivity := .private_ }, ["add", "remove"]),
    ("block", { safety := .mutation, sensitivity := .private_ }, ["write"]),
    ("unblock", { safety := .mutation, sensitivity := .private_ }, ["write"]),
    ("addr_reservation", { sensitivity := .private_ }, ["getlist"]),
    ("addr_reservation", { safety := .mutation, sensitivity := .private_ },
      ["add", "modify", "remove"]),
    ("client_access", { safety := .mutation }, ["write"]),
    ("client_isolation", {}, ["read"]),
    ("client_isolation", { safety := .mutation }, ["write"]),
    ("access_refuse", { sensitivity := .private_ }, ["get"]),
    ("access_refuse", { safety := .mutation, sensitivity := .private_ }, ["write"]),
    ("apply_list", { sensitivity := .private_ }, ["get"]),
    ("apply_list", { safety := .mutation, sensitivity := .private_ }, ["set"]),
    ("white_list", { sensitivity := .private_ }, ["get"]),
    ("lease", { sensitivity := .private_ }, ["get"])]),
  ("admin/nrd", [
    ("black_list", { sensitivity := .private_ }, ["list"]),
    ("black_list", { safety := .mutation, sensitivity := .private_ }, ["block", "unblock"])]),
  ("admin/smart_network", [
    ("tm_qos", {}, ["read"]),
    ("tm_qos", { safety := .mutation }, ["write"]),
    ("bandwidth", {}, ["get"]),
    ("bandwidth", { safety := .mutation }, ["set"]),
    ("patrol_owner", { sensitivity := .private_ }, ["list", "get"]),
    ("patrol_owner", { safety := .mutation, sensitivity := .private_ },
      ["add", "del", "block", "set"]),
    ("patrol_insights", { sensitivity := .private_ }, ["get", "history"]),
    ("patrol_insights", { safety := .mutation, sensitivity := .private_ }, ["remove"]),
    ("patrol_cli", { safety := .mutation, sensitivity := .private_ }, ["add", "del"]),
    ("patrol_filter", { sensitivity := .private_ }, ["get"]),
    ("patrol_filter", { safety := .mutation, sensitivity := .private_ }, ["add", "del"]),
    ("patrol_owner_avatar", { sensitivity := .private_ }, ["get"]),
    ("patrol_owner_avatar", { safety := .mutation, sensitivity := .private_ }, ["set"]),
    ("white_list", { sensitivity := .private_ }, ["get"]),
    ("white_list", { safety := .mutation, sensitivity := .private_ }, ["add", "remove"]),
    ("app_block_list", { sensitivity := .private_ }, ["read"]),
    ("app_dpi", { safety := .mutation, sensitivity := .private_ }, ["add", "modify", "remove"]),
    ("time_limit_add", { safety := .mutation, sensitivity := .private_ }, ["write"]),
    ("time_limit_modify", { safety := .mutation, sensitivity := .private_ }, ["write"]),
    ("time_limit_remove", { safety := .mutation, sensitivity := .private_ }, ["write"]),
    ("tmp_avira", { sensitivity := .secret },
      ["getOwnerInList", "getFamilyTimeInfo", "getTodayInsightTimeUsagePro", "getInsightData",
        "scanGet", "ispGet", "service_state_check", "service_status_check",
        "cloud_service_state_check", "get_sec_whitelist"]),
    ("tmp_avira", { safety := .mutation, sensitivity := .secret },
      ["addOwnerInList", "delOwnerInList", "modifyBaseInfo", "bonusTimeSet", "ownerClientListSet",
        "white_list_add", "white_list_remove", "setFamilyTimeInfo", "ignoreReq", "scanStart",
        "scanStop", "networkQualityStartOptimize", "add_sec_whitelist", "remove_sec_whitelist"])]),
  ("admin/security", [
    ("info", { sensitivity := .private_ }, ["read"]),
    ("info", { safety := .mutation }, ["write"]),
    ("category", {}, ["read"]),
    ("rule", {}, ["read"]),
    ("history", { sensitivity := .private_ }, ["get"]),
    ("history", { safety := .mutation, sensitivity := .private_ }, ["clear", "remove"]),
    ("update", { safety := .mutation }, ["write"])]),
  ("admin/camera_security", [
    ("camera_security", { sensitivity := .private_ }, ["get"]),
    ("camera_security", { safety := .mutation }, ["set"]),
    ("camera_security_blocked_period", { sensitivity := .private_ }, ["get"]),
    ("camera_security_blocked_period", { safety := .mutation }, ["set"])]),
  ("admin/firmware", [
    ("config", { sensitivity := .secret }, ["read", "check"]),
    ("config", { response_kind := .binary, sensitivity := .secret }, ["backup"]),
    ("config", { safety := .destructive, sensitivity := .secret }, ["restore"]),
    ("config_multipart", {
        authentication := .multipart
        response_kind := .value
        safety := .destructive
        sensitivity := .secret }, ["upload"]),
    ("config_multipart", {
        authentication := .multipart
        response_kind := .binary
        sensitivity := .secret }, ["backup"]),
    ("config_multipart", {
        authentication := .multipart
        response_kind := .value
        safety := .destructive
        sensitivity := .secret }, ["restore"]),
    ("upgrade", {}, ["read"]),
    ("upgrade", { safety := .destructive }, ["write"])]),
  ("admin/isp", [
    ("isp_upgrade", {}, ["read"]),
    ("isp_upgrade", {
        authentication := .multipart
        response_kind := .value
        safety := .destructive }, ["upgrade"])]),
  ("mcu_upgrade", [("mcu_upgrade", { safety := .destructive }, ["check"])]),
  ("admin/cloud", [
    ("nickname", { sensitivity := .private_ }, ["read"]),
    ("nickname", { safety := .mutation }, ["write"]),
    ("firmware", { authentication := .plain },
      ["check", "status", "firmware_status", "sync_check_firmware", "get_sync"]),
    ("firmware", { authentication := .plain, safety := .destructive },
      ["upgrade", "download", "local_upgrade"]),
    ("firmware", { authentication := .plain, safety := .mutation }, ["auto_upgrade"]),
    ("firmware", {
        authentication := .multipart
        response_kind := .value
        safety := .destructive
        sensitivity := .secret }, ["upload"]),
    ("firmware_status", {}, ["read", "check", "check_upgrade"]),
    ("firmware_status", { safety := .destructive }, ["upgrade", "local_upgrade"]),
    ("group", { sensitivity := .secret }, ["get"]),
    ("group", { sensitivity := .secret }, ["iot_read"]),
    ("group", { safety := .mutation, sensitivity := .secret },
      ["create", "add", "set", "update", "remove", "report", "message", "push", "push_weekly"]),
    ("system", { safety := .destructive, sensitivity := .secret },
      ["bind", "unbind", "remove_all", "transfer"]),
    ("system", { safety := .mutation, sensitivity := .secret }, ["proxy", "account"]),
    ("system", { safety := .internal, sensitivity := .secret }, ["notify", "sync"]),
    ("ddns", { sensitivity := .secret }, ["get"]),
    ("ddns", { safety := .mutation, sensitivity := .secret }, ["set"]),
    ("manager", { sensitivity := .secret }, ["get"]),
    ("manager", { safety := .mutation, sensitivity := .secret }, ["set"]),
    ("homecare_service", { sensitivity := .private_ }, ["get"])]),
  ("admin/cloud_account", [
    ("read", { sensitivity := .secret }, ["read_keys"]),
    ("read", { sensitivity := .secret }, ["get_device_token", "get_deviceInfo"]),
    ("login", { safety := .mutation, sensitivity := .secret },
      ["user_login", "bind_and_login", "cloud_bind_and_login"]),
    ("check_internet", {}, ["read"]),
    ("check_device", {}, ["read"]),
    ("check_connection", {}, ["read"]),
    ("check_login", { sensitivity := .secret }, ["read"]),
    ("check_cloud_connection", {}, ["read"]),
    ("check_support", {}, ["read"]),
    ("bind_owner", { safety := .destructive }, ["write"]),
    ("unbind_owner", { safety := .destructive }, ["write"]),
    ("get_dev_info", { sensitivity := .private_ }, ["read"]),
    ("get_deviceInfo", { sensitivity := .private_ }, ["read"]),
    ("set_dev_info", { safety := .mutation }, ["write"]),
    ("cloud_pass_through", { safety := .internal, sensitivity := .secret }, ["write"]),
    ("tmp_cloud_pass_through", { safety := .internal, sensitivity := .secret }, ["write"]),
    ("upgrade", { safety := .destructive, sensitivity := .secret }, ["write"]),
    ("cloud_upgrade", { safety := .destructive, sensitivity := .secret }, ["write"]),
    ("load", { sensitivity := .secret }, ["read"]),
    ("get_token", { sensitivity := .secret }, ["read"]),
    ("tmp_cmd", { safety := .internal, sensitivity := .secret }, ["write"]),
    ("write", { safety := .mutation, sensitivity := .secret }, ["write"])]),
  ("admin/iot_device", [
    ("iotdevice", { sensitivity := .private_ }, ["getlist", "getlist_by_mod"]),
    ("iotdevice", { safety := .mutation, sensitivity := .private_ },
      ["add", "modify", "remove", "scan", "begin_scan", "end_scan", "identify"]),
    ("iotdevice", { safety := .mutation, sensitivity := .secret }, ["account_sync"]),
    ("iotdevice", { safety := .internal, sensitivity := .secret },
      ["inner_getlist", "inner_remove", "inner_modify", "inner_scan", "inner_begin_scan",
        "inner_inquiry", "inner_begin_assoc", "inner_get", "inner_act", "inner_act_qr",
        "inner_upnp_get", "inner_dhcpd_get", "inner_file_pull", "inner_file_push",
        "inner_client_mgmt", "inner_client_netdev_req"]),
    ("iotprofile", { safety := .mutation, sensitivity := .secret }, ["get_and_update_pwd"]),
    ("iotspace", { safety := .mutation, sensitivity := .private_ },
      ["set", "set_network_device", "remove_network_device"]),
    ("iotowner", { sensitivity := .private_ }, ["get", "getlist"]),
    ("iotowner", { safety := .mutation, sensitivity := .private_ }, ["set"]),
    ("iotowner", { safety := .internal, sensitivity := .private_ },
      ["testcmd", "inner_report_sensor", "inner_network", "form_network"]),
    ("iotowner", { safety := .destructive, sensitivity := .private_ }, ["remove_all"]),
    ("iotrole", { sensitivity := .private_ },
      ["get_init_info", "get_avail_node_id", "check_node_status"]),
    ("iotrole", { safety := .mutation, sensitivity := .secret },
      ["commission_complete", "get_pairing_code"]),
    ("iotrole", { safety := .internal, sensitivity := .secret }, ["inner_update_config"])]),
  ("admin/iot_automation", [
    ("iotautomation", { sensitivity := .private_ }, ["get_tasklist"]),
    ("iotautomation", { safety := .mutation, sensitivity := .private_ },
      ["add_task", "modify_task", "modify_task_list", "remove_tasklist", "add_trigger",
        "modify_trigger", "remove_triggerlist"]),
    ("iotoneclick", { sensitivity := .private_ }, ["getlist", "get_history"]),
    ("iotoneclick", { safety := .mutation, sensitivity := .private_ },
      ["set", "add_scene", "modify_scene", "remove_scene", "add_action", "modify_action",
        "remove_actionlist", "remove_history"])]),
  ("admin/wps", [
    ("status", {}, ["get"]),
    ("state", { safety := .mutation, sensitivity := .secret }, ["set"])]),
  ("admin/vpn_client", [
    ("config", { sensitivity := .secret }, ["read", "load"]),
    ("config", { safety := .mutation, sensitivity := .secret },
      ["write", "insert", "update", "remove"])]),
  ("admin/vpn_server", [
    ("server", { sensitivity := .secret }, ["read"]),
    ("server", { safety := .mutation, sensitivity := .secret }, ["insert", "remove", "update"]),
    ("accounts", { safety := .mutation, sensitivity := .secret }, ["insert", "remove", "update"]),
    ("cert", { sensitivity := .secret }, ["get"]),
    ("cert", { safety := .mutation, sensitivity := .secret }, ["set"]),
    ("key", { sensitivity := .secret }, ["gets", "getc"]),
    ("key", { safety := .mutation, sensitivity := .secret }, ["renews", "renewc"])]),
  ("admin/vpnconn", [
    ("conn", { sensitivity := .private_ }, ["list"]),
    ("conn", { safety := .mutation }, ["disconnect"]),
    ("cert", { safety := .internal, sensitivity := .secret }, ["sync"])]),
  ("admin/nat", [
    ("setting", {}, ["read"]),
    ("setting", { safety := .mutation }, ["write"]),
    ("vs", { sensitivity := .private_ }, ["getlist"]),
    ("vs", { safety := .mutation, sensitivity := .private_ },
      ["add", "modify", "batch_remove", "remove"]),
    ("pt", { sensitivity := .private_ }, ["load"]),
    ("pt", { safety := .mutation }, ["insert", "update"]),
    ("dmz", { sensitivity := .private_ }, ["read"]),
    ("dmz", { safety := .mutation, sensitivity := .private_ }, ["write"]),
    ("alg", {}, ["get"]),
    ("alg", { safety := .mutation }, ["write"]),
    ("sip_alg", {}, ["get"]),
    ("sip_alg", { safety := .mutation }, ["set"])]),
  ("admin/ddns", [
    ("ddns", { sensitivity := .secret }, ["get"]),
    ("ddns", { safety := .mutation, sensitivity := .secret }, ["set"])]),
  ("admin/ipv6_firewall", [
    ("firewall", { sensitivity := .private_ }, ["read"]),
    ("firewall", { safety := .mutation, sensitivity := .private_ }, ["write", "remove", "modify"]),
    ("client", { sensitivity := .private_ }, ["read"])]),
  ("admin/iptv", [
    ("iptv", {}, ["get"]),
    ("iptv", { safety := .mutation }, ["set"])]),
  ("admin/usbshare", [
    ("device", { sensitivity := .private_ }, ["list", "list_all"]),
    ("device", { safety := .mutation, sensitivity := .private_ },
      ["scan", "remove", "remove_list"]),
    ("server", { sensitivity := .secret }, ["read", "read_list"]),
    ("server", { safety := .mutation, sensitivity := .secret }, ["write", "write_list"]),
    ("status", {}, ["read"]),
    ("sync", { safety := .internal }, ["read"])]),
  ("admin/time_machine", [
    ("settings", { sensitivity := .secret }, ["read"]),
    ("settings", { safety := .mutation, sensitivity := .secret }, ["write"]),
    ("info", { sensitivity := .private_ }, ["read"]),
    ("content", { sensitivity := .private_ }, ["read"])]),
  ("admin/administration", [
    ("account", { sensitivity := .secret }, ["read", "appget", "mcu_read", "mcu_check"]),
    ("account", { safety := .mutation, sensitivity := .secret },
      ["write", "set", "appset", "mcu_write"]),
    ("recovery", { sensitivity := .secret }, ["read"]),
    ("recovery", { safety := .destructive, sensitivity := .secret }, ["update"]),
    ("mode", { safety := .mutation }, ["local", "remote"]),
    ("local", { sensitivity := .secret }, ["load", "view"]),
    ("local", { safety := .mutation, sensitivity := .secret }, ["insert", "update", "remove"]),
    ("remote", { sensitivity := .secret }, ["read"]),
    ("remote", { safety := .mutation, sensitivity := .secret }, ["write"]),
    ("login", { sensitivity := .secret }, ["read"]),
    ("login", { safety := .mutation, sensitivity := .secret }, ["write"])]),
  ("discover", [
    ("_discover", { authentication := .group_key, safety := .internal, sensitivity := .private_ },
      ["read"]),
    ("sync_config", { authentication := .group_key, safety := .internal, sensitivity := .secret },
      ["read"]),
    ("sync_config_emmc", {
        authentication := .group_key
        safety := .internal
        sensitivity := .secret }, ["read"]),
    ("sync_slave_check", {
        authentication := .group_key
        safety := .internal
        sensitivity := .secret }, ["read"]),
    ("sync_master_check", {
        authentication := .group_key
        safety := .internal
        sensitivity := .secret }, ["read"])]),
  ("admin/log", [
    ("log", { sensitivity := .secret }, ["read", "load"]),
    ("log", { safety := .mutation, sensitivity := .secret }, ["write"])]),
  ("admin/log_export", [
    ("types", { response_kind := .list }, ["read"]),
    ("save", { safety := .mutation, sensitivity := .secret }, ["write"]),
    ("save_log", { authentication := .download, response_kind := .binary, sensitivity := .secret },
      ["download"]),
    ("feedback_log", { safety := .mutation, sensitivity := .secret }, ["build"]),
    ("feedback_log", { sensitivity := .secret }, ["read"])]),
  ("admin/syslog", [
    ("mail", { sensitivity := .secret }, ["read"]),
    ("mail", { safety := .mutation, sensitivity := .secret }, ["write"]),
    ("log", { safety := .mutation, sensitivity := .secret }, ["mail"])]),
  ("admin/telemetry_collect", [
    ("telemetry_device", { sensitivity := .private_ }, ["read"]),
    ("telemetry_client", { sensitivity := .private_ }, ["read"]),
    ("telemetry_system", { sensitivity := .private_ }, ["read"]),
    ("telemetry_usb", { sensitivity := .private_ }, ["read"]),
    ("telemetry_control", {}, ["read"]),
    ("telemetry_control", { safety := .mutation }, ["write"])]),
  ("admin/debug", [
    ("qlog", { safety := .internal, sensitivity := .secret }, ["start", "stop"]),
    ("simplecom", { safety := .internal, sensitivity := .secret }, ["start", "stop"]),
    ("tty2tcp", { safety := .internal, sensitivity := .secret }, ["start", "stop"]),
    ("tm", { safety := .internal, sensitivity := .secret }, ["start", "stop"])]),
  ("admin/auto_test", [
    ("test", { safety := .internal }, ["nat", "upnp", "dhcp", "wifi"]),
    ("test", { safety := .internal, sensitivity := .secret }, ["all_info"])]),
  ("admin/arptbl", [("syn", { safety := .internal, sensitivity := .private_ }, ["tbl_op"])]),
  ("admin/cwmp", [
    ("cwmp", { sensitivity := .secret }, ["get"]),
    ("cwmp", { safety := .mutation, sensitivity := .secret }, ["set"]),
    ("cwmp_info", { sensitivity := .secret }, ["read"]),
    ("cwmp_info", { safety := .mutation, sensitivity := .secret }, ["write"])]),
  ("admin/folder_sharing", [("tree", { sensitivity := .private_ }, ["read"])]),
  ("admin/combo_port", [
    ("list", {}, ["read"]),
    ("switch", { safety := .mutation }, ["set"])]),
  ("admin/component_list", [
    ("mobile", {}, ["read"]),
    ("bluetooth", {}, ["read"]),
    ("profile", {}, ["read"])]),
  ("admin/ga_info", [
    ("status", { sensitivity := .private_ }, ["read", "get", "get_internal"]),
    ("status", { safety := .mutation }, ["write"])]),
  ("admin/op_manager", [("read", { safety := .internal }, ["get", "list", "getlist"])]),
  ("admin/wifidog", [
    ("portal_content", { sensitivity := .secret }, ["read"]),
    ("portal_content", { safety := .mutation, sensitivity := .secret }, ["upload"])]),
  ("admin/iot_cloud", [
    ("iot_cloud_req", { safety := .internal, sensitivity := .secret }, ["index"])]),
  ("admin/iot_client_mesh", [
    ("client_mesh", { safety := .internal, sensitivity := .private_ },
      ["set", "tss", "sync_device_msg", "sync_cloud_msg"])]),
  ("admin/msg_server", [
    ("coordinator", { safety := .internal }, ["notify"]),
    ("notify", { safety := .internal }, ["notify"])]),
  ("admin/wpsd", [
    ("main", { safety := .internal, sensitivity := .secret }, ["report"]),
    ("code", { safety := .internal, sensitivity := .secret }, ["report"])]),
  ("admin/quick_setup", [
    ("newgroup", { safety := .destructive, sensitivity := .secret }, ["write"]),
    ("newdevice", { safety := .destructive, sensitivity := .secret }, ["write"]),
    ("batchdevices", { safety := .destructive, sensitivity := .secret }, ["write"]),
    ("preconf", { sensitivity := .secret }, ["read"]),
    ("preconf", { safety := .destructive, sensitivity := .secret }, ["write", "add"]),
    ("heartbeat", { safety := .internal }, ["read"]),
    ("sync", { safety := .internal, sensitivity := .secret }, ["write"]),
    ("eponymous_detect", { safety := .internal, sensitivity := .private_ }, ["read"]),
    ("bluetooth", { safety := .internal, sensitivity := .secret }, ["write"]),
    ("dcmp_pre_config", { safety := .destructive, sensitivity := .secret }, ["write"]),
    ("tss", { safety := .internal, sensitivity := .private_ }, ["write"]),
    ("sync_dev_list", { safety := .internal, sensitivity := .private_ }, ["write"]),
    ("get_dev_list", { safety := .internal, sensitivity := .private_ }, ["read"])]),
  ("admin/tipc-controller", [
    ("newdevice", { safety := .internal, sensitivity := .secret }, ["write"]),
    ("sync", { safety := .internal, sensitivity := .secret }, ["write"])]),
  ("admin/sync", [
    ("sync_check", { authentication := .token, safety := .internal, sensitivity := .secret },
      ["read"]),
    ("sync_config", { authentication := .token, safety := .internal, sensitivity := .secret },
      ["write"]),
    ("sync_emmc_check", { authentication := .token, safety := .internal, sensitivity := .secret },
      ["read"]),
    ("sync_emmc_config", { authentication := .token, safety := .internal, sensitivity := .secret },
      ["write"]),
    ("sync_get_info", { authentication := .token, safety := .internal, sensitivity := .secret },
      ["read"]),
    ("sync_get_cfg", { authentication := .token, safety := .internal, sensitivity := .secret },
      ["read"]),
    ("sync_subconfig", { authentication := .token, safety := .internal, sensitivity := .secret },
      ["write"]),
    ("sync_update_dev_list", {
        authentication := .token
        safety := .internal
        sensitivity := .private_ }, ["write"]),
    ("sync_detect_slave", {
        authentication := .token
        safety := .internal
        sensitivity := .private_ }, ["read"]),
    ("check_firmware", { authentication := .token, safety := .internal }, ["read"]),
    ("sync_firmware", { authentication := .token, safety := .internal }, ["write"]),
    ("sync_upgrade", { authentication := .token, safety := .destructive }, ["write"]),
    ("force_upgrade", { authentication := .token, safety := .destructive }, ["write"]),
    ("sync_download_bigfirm", { authentication := .token, safety := .internal }, ["write"]),
    ("sync_download_status_bigfirm", { authentication := .token, safety := .internal }, ["read"]),
    ("sync_download_lte", { authentication := .token, safety := .internal }, ["write"]),
    ("sync_download_status_lte", { authentication := .token, safety := .internal }, ["read"]),
    ("force_upgrade_lte", { authentication := .token, safety := .destructive }, ["write"]),
    ("sync_isp_profile", { authentication := .token, safety := .internal, sensitivity := .secret },
      ["write"]),
    ("sync_re_handle_fap_fdb", {
        authentication := .token
        safety := .internal
        sensitivity := .private_ }, ["write"])]),
  ("blocking", [
    ("check", { sensitivity := .private_ }, ["get"]),
    ("check", { safety := .mutation, sensitivity := .private_ }, ["set"]),
    ("vercode", { sensitivity := .secret }, ["read"]),
    ("vercode", { safety := .mutation, sensitivity := .secret }, ["write"])]),
  ("admin/conn-indicator", [("internet", { safety := .internal }, ["down", "sync"])]),
  ("admin/re_disconnect_cloud", [("notify", { safety := .internal }, ["write"])])]

/-- The entries of one path. -/
def path_catalog (path : String) (rows : List (String × Traits × List String)) :
    List EndpointSpec :=
  rows.flatMap fun (form, traits, operations) => operations.map (spec path form traits)

def ENDPOINT_CATALOG : List EndpointSpec := SPECS.flatMap fun (path, rows) => path_catalog path rows

/-- The error of a name that is not in the catalogue. -/
def unknown_operation (name : String) : PyError := {
  cls := .KeyError
  message := s!"Unknown Deco endpoint operation: {name}" }

/-- `get_endpoint`: the first entry of the name. -/
def get_endpoint (name : String) : Except PyError EndpointSpec :=
  match ENDPOINT_CATALOG.find? fun e => e.name = name with
  | some e => .ok e
  | none => .error (unknown_operation name)

/-- What the catalogue says of the operation that a request names. -/
def classified (o : Operation) : Option EndpointSpec :=
  ENDPOINT_CATALOG.find? fun e => e.toOperation = o

/-! ## One entry for each operation -/

theorem path_of_mem {path : String} {rows : List (String × Traits × List String)}
    {e : EndpointSpec} (he : e ∈ path_catalog path rows) : e.path = path := by
  obtain ⟨row, -, hrow⟩ := List.mem_flatMap.mp he
  obtain ⟨operation, -, rfl⟩ := List.mem_map.mp hrow
  rfl

theorem paths_nodup : (SPECS.map fun c => c.1).Nodup := by decide +kernel

/-- Entries of one path are entries of one call. -/
theorem specs_of_path {c c' : String × List (String × Traits × List String)} (hc : c ∈ SPECS)
    (hc' : c' ∈ SPECS) (hpath : c.1 = c'.1) : c = c' :=
  List.inj_on_of_nodup_map paths_nodup hc hc' hpath

theorem operations_nodup : (ENDPOINT_CATALOG.map fun e => e.toOperation).Nodup := by
  have hforms : ∀ c ∈ SPECS,
      ((path_catalog c.1 c.2).map fun e => (e.form, e.operation)).Nodup := by decide +kernel
  unfold ENDPOINT_CATALOG
  rw [List.map_flatMap, List.nodup_flatMap]
  constructor
  · intro c hc
    refine List.Nodup.of_map (fun o : Operation => (o.form, o.operation)) ?_
    rw [List.map_map]
    exact hforms c hc
  · refine (List.pairwise_map.mp paths_nodup).imp ?_
    intro c c' hne o hc hc'
    obtain ⟨e, he, rfl⟩ := List.mem_map.mp hc
    obtain ⟨e', he', hsame⟩ := List.mem_map.mp hc'
    have hpath : e'.path = e.path := congrArg Operation.path hsame
    rw [path_of_mem he, path_of_mem he'] at hpath
    exact hne hpath.symm

/-- An entry of the catalogue is what the catalogue says of its operation. -/
theorem classified_of_mem {e : EndpointSpec} (he : e ∈ ENDPOINT_CATALOG) :
    classified e.toOperation = some e := by
  have hfound : (classified e.toOperation).isSome :=
    List.find?_isSome.mpr ⟨e, he, decide_eq_true rfl⟩
  obtain ⟨other, hother⟩ := Option.isSome_iff_exists.mp hfound
  have hsame := List.find?_some hother
  rw [decide_eq_true_eq] at hsame
  have hmem := List.mem_of_find?_eq_some hother
  rw [hother, List.inj_on_of_nodup_map operations_nodup hmem he hsame]

theorem mem_of_get_endpoint {name : String} {e : EndpointSpec} (h : get_endpoint name = .ok e) :
    e ∈ ENDPOINT_CATALOG ∧ e.name = name := by
  unfold get_endpoint at h
  split at h
  · rename_i found hfind
    cases h
    have hname := List.find?_some hfind
    exact ⟨List.mem_of_find?_eq_some hfind, by simpa using hname⟩
  · cases h

end tplink_deco_api.endpoint_catalog
