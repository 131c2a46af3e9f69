-- The semantic reads down to their requests: the device inventory, the typed
-- getters of the HTTP client, and the two readers behind `read_capability`.
import TplinkDeco.Surface.Requests

open dialogue json

namespace tplink_deco_api.surface

open endpoint_catalog exceptions service tmp_batches tmp_client

/-- The parsers of the models, and the views of what they give. Each may raise, and none asks
anything. -/
structure Views where
  /-- `Device.from_api`. -/
  device : JsonObject → Except PyError Device
  /-- `ClientDevice.from_api`. -/
  client : JsonObject → Except PyError Json
  /-- `from_api` of a model, by its name. -/
  model : String → JsonObject → Except PyError Json
  /-- The views of an HTTP result, by the capability and whether passwords are included. -/
  http_view : String → Bool → Json → Except PyError Json
  /-- The views of a TMP result. -/
  tmp_view : String → Bool → Json → Except PyError Json

variable (views : Views) (config : ServerConfig) (catalog : TmpOpcodeCatalog)

/-- The objects in `data[key]`, if that is a list. -/
def list_of_objects (data : JsonObject) (key : String) : List JsonObject :=
  ((get data key).asArr.getD []).filterMap Json.asObj

/-! ## The getters of the HTTP client -/

/-- `DecoClient.request`. -/
def request (operation : Operation) (params : Option JsonObject := none) :
    SurfaceM JsonObject := do
  let response ← request_envelope operation params
  pure response.result_object

/-- A getter that gives the result as it is. -/
def get_result (operation : Operation) (params : Option JsonObject := none) : SurfaceM Json := do
  let result ← request operation params
  pure (.obj result)

/-- A getter that parses a model. -/
def get_model (model : String) (operation : Operation) (params : Option JsonObject := none) :
    SurfaceM Json := do
  let result ← request operation params
  Dialogue.lift (views.model model result)

/-- `client.call(...).result`. -/
def call_result (operation : Operation) : SurfaceM Json := do
  let response ← call_operation operation
  pure response.result

/-- The parameters that name one node. -/
def device_mac (mac : String) : JsonObject := [("device_mac", .str mac)]

def DEVICE_LIST : Operation := ⟨"admin/device", "device_list", "read"⟩

def WAN_IPV4 : Operation := ⟨"admin/network", "wan_ipv4", "read"⟩

/-- `client.get_device_list`, through the parser of the rows. -/
def get_device_list : SurfaceM (List Device) := do
  let result ← request DEVICE_LIST
  Dialogue.lift ((list_of_objects result "device_list").mapM views.device)

/-- `client.get_client_list`: the devices at one node, or at all of them. -/
def get_client_list (deco_mac : String := "default") : SurfaceM Json := do
  let result ← request ⟨"admin/client", "client_list", "read"⟩ (some (device_mac deco_mac))
  let clients ← Dialogue.lift ((list_of_objects result "client_list").mapM views.client)
  pure (.arr clients)

def get_internet_status : SurfaceM Json :=
  get_model views "InternetStatus" ⟨"admin/network", "internet", "read"⟩

def get_address_reservations : SurfaceM Json :=
  get_model views "AddressReservationTable" ⟨"admin/client", "addr_reservation", "getlist"⟩

def get_fast_roaming : SurfaceM Json := get_result ⟨"admin/wireless", "ieee80211r", "read"⟩

def get_beamforming : SurfaceM Json := get_result ⟨"admin/wireless", "beamforming", "read"⟩

def get_wireless_operation_mode : SurfaceM Json :=
  get_result ⟨"admin/wireless", "operation_mode", "read"⟩

def get_bridge_status : SurfaceM Json := get_result ⟨"admin/wireless", "bridge", "read"⟩

def get_traffic_statistics : SurfaceM Json := get_result ⟨"admin/client", "traffic_stat", "list"⟩

def get_speed_test : SurfaceM Json :=
  get_model views "SpeedTest" ⟨"admin/device", "speedtest", "read"⟩

def get_wlan_config : SurfaceM Json :=
  get_model views "WlanConfig" ⟨"admin/wireless", "wlan", "read"⟩

/-- `client.get_wan_info`, of the default node. -/
def get_wan_info : SurfaceM Json :=
  get_model views "WanInfo" WAN_IPV4 (some (device_mac "default"))

def get_performance : SurfaceM Json :=
  get_model views "Performance" ⟨"admin/network", "performance", "read"⟩

def get_device_mode : SurfaceM Json :=
  get_model views "DeviceMode" ⟨"admin/device", "mode", "read"⟩

def get_dhcp_info : SurfaceM Json := get_result ⟨"admin/dhcp", "dhcp_info", "read"⟩

/-- `client.get_lan_ipv4`, of the default node. -/
def get_lan_ipv4 : SurfaceM Json :=
  get_result ⟨"admin/network", "lan_ipv4", "read"⟩ (some (device_mac "default"))

/-- `client.get_lan_ip`, of the default node. -/
def get_lan_ip : SurfaceM Json :=
  get_result ⟨"admin/network", "lan_ip", "read"⟩ (some (device_mac "default"))

def get_time_settings : SurfaceM Json :=
  get_model views "TimeSettings" ⟨"admin/device", "timesetting", "read"⟩

/-! ## The device inventory -/

/-- What `m` gives or raises, as a value. -/
def attempt {α : Type} (m : SurfaceM α) : SurfaceM (Except PyError α) := m.trying fun _ => true

/-- `_read_http_device_inventory`: list the nodes, and check that they have a controller. -/
def read_http_device_inventory : SurfaceM (List Device) := do
  get_client config
  let devices ← get_device_list views
  Dialogue.lift (validate_device_inventory devices)
  pure devices

/-- `_read_tmp_device_inventory`: the same over opcode 0x400F. -/
def read_tmp_device_inventory : SurfaceM (List Device) := do
  let payload ← tmp_read config catalog 0x400F
  match (get payload "result").asObj with
  | none => .raised (value_error
      "Failed to resolve controller identity: TMP result is not an object")
  | some result => do
    let devices ← Dialogue.lift ((list_of_objects result "device_list").mapM views.device)
    Dialogue.lift (validate_device_inventory devices)
    pure devices

/-- What is recorded of nodes that HTTP listed at once. -/
def http_resolution (devices : List Device) : DeviceInventoryResolution := {
  devices
  source_interface := "http_luci"
  source_operation := HTTP_DEVICE_LIST
  attempts := [{ interface := "http_luci", operation := HTTP_DEVICE_LIST, status := "ok" }]
  fallback_used := false }

/-- What is recorded of nodes that TMP listed after HTTP had failed. -/
def tmp_resolution (primary_error : PyError) (devices : List Device) :
    DeviceInventoryResolution := {
  devices
  source_interface := "tmp_appv2"
  source_operation := TMP_DEVICE_LIST
  attempts := [
    { interface := "http_luci", operation := HTTP_DEVICE_LIST, status := "error",
      error_type := some primary_error.cls.name },
    { interface := "tmp_appv2", operation := TMP_DEVICE_LIST, status := "ok" }]
  fallback_used := true }

/-- The `except` clause of `_resolve_device_inventory`. -/
def resolve_fallback (primary_error : PyError) : SurfaceM DeviceInventoryResolution :=
  if ¬ tmp_identity_bootstrap_available config then .raised primary_error
  else do
    let devices ← read_tmp_device_inventory views config catalog
    pure (tmp_resolution primary_error devices)

/-- `_resolve_device_inventory`: HTTP first, and the fallback after an error of its own. -/
def resolve_device_inventory : SurfaceM DeviceInventoryResolution := do
  match ← (read_http_device_inventory views config).trying
      (·.isinstance [.TransportError, .ValueError]) with
  | .ok devices => pure (http_resolution devices)
  | .error primary_error => resolve_fallback views config catalog primary_error

/-- Both fields of the cache are set together, with the interface that listed the nodes. -/
def store_resolution (resolution : DeviceInventoryResolution) : SurfaceM Unit :=
  update fun d => {
    service := { d.service with
      device_cache := some resolution.devices
      device_resolution := some resolution }
    listed_over := interface_named resolution.source_interface }

/-- `if refresh or self._device_cache is None`. -/
def Desk.due (d : Desk) (refresh : Bool) : Bool :=
  refresh || decide (d.service.device_cache = none)

/-- The first half of `device_inventory`: resolve the nodes if a refresh is due. It tells whether
the router was asked. -/
def refresh_cache (refresh : Bool) : SurfaceM Bool := do
  let d ← desk
  if d.due refresh then do
    let resolution ← resolve_device_inventory views config catalog
    store_resolution resolution
    pure true
  else pure false

/-- The second half of `device_inventory`: the answer is made of the cache. -/
def cached_inventory (router_contacted : Bool) : SurfaceM Inventory := do
  let d ← desk
  Dialogue.lift (inventory_view router_contacted (d.service.device_cache.getD [])
    d.service.device_resolution)

/-- `DecoService.device_inventory`. -/
def device_inventory (refresh : Bool := false) : SurfaceM Inventory := do
  let router_contacted ← refresh_cache views config catalog refresh
  cached_inventory router_contacted

/-! ## The readers -/

/-- `self._device_cache or tuple(client.get_device_list())`, which stays in the cache. -/
def http_mesh_nodes : SurfaceM (List Device) := do
  let d ← desk
  match d.service.device_cache with
  | some (device :: devices) => pure (device :: devices)
  | _ => do
    let devices ← get_device_list views
    update fun d => {
      service := { d.service with device_cache := some devices }
      listed_over := some .http_luci }
    pure devices

/-- The error of a capability whose result is no object. -/
def not_an_object (name : String) : PyError :=
  value_error s!"Failed to read HTTP capability: {name} result is not an object"

/-- `client.call(...).result`, which has to be an object. -/
def call_object (name : String) (operation : Operation) : SurfaceM Json := do
  let result ← call_result operation
  match result with
  | .obj fields => pure (.obj fields)
  | _ => .raised (not_an_object name)

/-- What `_read_http_capability` asks the client for a capability. -/
def http_capability (name : String) : SurfaceM Json :=
  if name = "clients" then get_client_list views
  else if name = "internet_status" then get_internet_status views
  else if name = "address_reservations" then get_address_reservations views
  else if name = "fast_roaming" then get_fast_roaming
  else if name = "beamforming" then get_beamforming
  else if name = "wireless_operation_mode" then get_wireless_operation_mode
  else if name = "wireless_bridge" then get_bridge_status
  else if name = "traffic" then get_traffic_statistics
  else if name = "blocked_clients" then
    call_object "blocked clients" ⟨"admin/client", "black_list", "list"⟩
  else if name = "speed_test" then get_speed_test views
  else if name = "firmware_status" then
    call_object "firmware status" ⟨"admin/cloud", "firmware_status", "check"⟩
  else if name = "ddns" then call_object "DDNS" ⟨"admin/cloud", "ddns", "get"⟩
  else if name = "wlan_state" then get_wlan_config views
  else if name = "ipv4_configuration" then get_wan_info views
  else .raised (value_error s!"Failed to read HTTP capability: unknown capability '{name}'")

/-- `_read_http_capability`: the getter of the capability's name, after the login. -/
def read_http_capability (name : String) (include_passwords : Bool := false) :
    SurfaceM Reading := do
  get_client config
  if name = "mesh_nodes" then do
    let devices ← http_mesh_nodes views
    let d ← desk
    pure { data := .nodes devices, read_over := d.listed_over.getD .http_luci }
  else do
    let value ← http_capability views name
    let value ← Dialogue.lift (views.http_view name include_passwords value)
    pure { data := .view value, read_over := .http_luci }

/-- `opcodes` of `_read_tmp_capability`. -/
def TMP_CAPABILITY_OPCODES : List (String × Nat) := [
  ("mesh_nodes", 0x400F),
  ("clients", 0x4012),
  ("internet_status", 0x400C),
  ("address_reservations", 0x40C0),
  ("fast_roaming", 0x4208),
  ("beamforming", 0x421B),
  ("wireless_operation_mode", 0x40A0),
  ("wireless_bridge", 0x400A),
  ("traffic", 0x4014),
  ("blocked_clients", 0x4018),
  ("speed_test", 0x4010),
  ("firmware_status", 0x401C),
  ("ddns", 0x40D0),
  ("wlan_state", 0x4009),
  ("ipv4_configuration", 0x4004),
  ("led_configuration", 0x401A),
  ("mesh_traffic", 0x422F),
  ("wps_status", 0x4215),
  ("monthly_report_settings", 0x4222),
  ("monthly_reports", 0x40E0),
  ("notifications", 0x4028),
  ("speed_test_servers", 0x4228),
  ("parental_control_profiles", 0x4029),
  ("parental_control_filter_levels", 0x4035),
  ("parental_control_catalog", 0x403A),
  ("parental_control_profile", 0x402D),
  ("parental_control_insights", 0x402F),
  ("parental_control_history", 0x4031),
  ("access_permissions", 0x4229),
  ("ipv6_configuration", 0x4006),
  ("ipv6_firewall", 0x4230),
  ("ipv6_clients", 0x4234),
  ("lan_configuration", 0x4211),
  ("dhcp_configuration", 0x4213),
  ("qos_mode", 0x4036),
  ("bandwidth_configuration", 0x4219),
  ("vlan_configuration", 0x420D),
  ("port_forwarding", 0x40B0),
  ("iptv_configuration", 0x4224),
  ("sip_alg", 0x421D),
  ("mac_clone", 0x4226)]

/-- The parameters of the read: those of the caller, and for the catalogue of the parental
controls those of the source. -/
def tmp_capability_params (name : String) (params : Json) : Json :=
  match params with
  | .null => if name = "parental_control_catalog" then .obj [("version", .int 1029)] else .null
  | params => params

/-- The view of a TMP payload. The monthly reports may be anything, the others are objects. -/
def tmp_capability_view (name : String) (include_passwords : Bool) (payload : JsonObject) :
    Except PyError CapabilityData :=
  let result := get payload "result"
  if name = "monthly_reports" then do
    let value ← views.tmp_view name include_passwords result
    .ok (.view value)
  else
    match result.asObj with
    | none =>
      .error (value_error s!"Failed to read TMP capability: {name} result is not an object")
    | some fields =>
      if name = "mesh_nodes" then do
        let devices ← (list_of_objects fields "device_list").mapM views.device
        .ok (.nodes devices)
      else do
        let value ← views.tmp_view name include_passwords result
        .ok (.view value)

/-- `_read_tmp_capability`: the opcode of the capability's name. -/
def read_tmp_capability (name : String) (include_passwords : Bool := false)
    (params : Json := .null) : SurfaceM Reading :=
  match TMP_CAPABILITY_OPCODES.lookup name with
  | none =>
    .raised (value_error s!"Failed to read TMP capability: unknown capability '{name}'")
  | some code => do
    let payload ← tmp_read config catalog code (tmp_capability_params name params)
    let data ← Dialogue.lift (tmp_capability_view views name include_passwords payload)
    pure { data, read_over := .tmp_appv2 }

/-! ## `read_capability` -/

/-- Where `read_capability` turns to, down to the requests. -/
def read_step : (i : ReadStep) → SurfaceM i.Answer
  | .device_inventory => attempt (device_inventory views config catalog)
  | .device_cache => do
    let d ← desk
    pure d.service.device_cache
  | .read_http_capability name include_passwords =>
    attempt (read_http_capability views config name include_passwords)
  | .read_tmp_capability name include_passwords =>
    attempt (read_tmp_capability views config catalog name include_passwords)

/-- `DecoService.read_capability`, with the readers of this service. -/
def read_capability (name : String) (include_passwords : Bool := false) :
    SurfaceM CapabilityResponse :=
  (service.read_capability config name include_passwords).interpret
    (read_step views config catalog)

end tplink_deco_api.surface
