-- The semantic resources: one capability each, or a few that belong together,
-- all read through `read_capability` first.
import TplinkDeco.Surface.Overviews

open dialogue json text

namespace tplink_deco_api.surface

open endpoint_catalog exceptions service tmp_batches tmp_client

variable (views : Views) (config : ServerConfig) (catalog : TmpOpcodeCatalog)

/-! ## One capability -/

/-- A capability as a resource of its own: its data, and where they were read. -/
structure SemanticResource where
  data : JsonObject
  provenance : Provenance

/-- `_capability_resource_parts`. -/
def capability_resource_parts (dataset : String) (capability : CapabilityResponse) :
    Except PyError SemanticResource :=
  match capability.reading.data with
  | .view (.obj data) => .ok { data, provenance := capability.provenance }
  | _ => .error (value_error s!"Failed to read {dataset}: data is not an object")

/-- `_semantic_capability_resource`. -/
def semantic_capability_resource (name dataset : String) : SurfaceM SemanticResource := do
  let capability ← read_capability views config catalog name
  Dialogue.lift (capability_resource_parts dataset capability)

/-- `DecoService.address_reservations_resource`, the one that is answered as the capability
itself. -/
def address_reservations_resource : SurfaceM CapabilityResponse :=
  read_capability views config catalog "address_reservations"

def ipv4_configuration_resource : SurfaceM SemanticResource :=
  semantic_capability_resource views config catalog "ipv4_configuration" "IPv4 configuration"

def led_configuration_resource : SurfaceM SemanticResource :=
  semantic_capability_resource views config catalog "led_configuration" "LED configuration"

def mesh_traffic_resource : SurfaceM SemanticResource :=
  semantic_capability_resource views config catalog "mesh_traffic" "mesh traffic"

def wps_status_resource : SurfaceM SemanticResource :=
  semantic_capability_resource views config catalog "wps_status" "WPS status"

def monthly_report_settings_resource : SurfaceM SemanticResource :=
  semantic_capability_resource views config catalog "monthly_report_settings"
    "monthly report settings"

def monthly_reports_resource : SurfaceM SemanticResource :=
  semantic_capability_resource views config catalog "monthly_reports" "monthly reports"

def notifications_resource : SurfaceM SemanticResource :=
  semantic_capability_resource views config catalog "notifications" "notifications"

def speed_test_servers_resource : SurfaceM SemanticResource :=
  semantic_capability_resource views config catalog "speed_test_servers" "speed-test servers"

def parental_controls_resource : SurfaceM SemanticResource :=
  semantic_capability_resource views config catalog "parental_control_profiles"
    "parental-control profiles"

def parental_control_filter_levels_resource : SurfaceM SemanticResource :=
  semantic_capability_resource views config catalog "parental_control_filter_levels"
    "parental-control filter levels"

def parental_control_catalog_resource : SurfaceM SemanticResource :=
  semantic_capability_resource views config catalog "parental_control_catalog"
    "parental-control catalogue"

def access_permissions_resource : SurfaceM SemanticResource :=
  semantic_capability_resource views config catalog "access_permissions" "access permissions"

def ipv6_configuration_resource : SurfaceM SemanticResource :=
  semantic_capability_resource views config catalog "ipv6_configuration" "IPv6 configuration"

def ipv6_firewall_resource : SurfaceM SemanticResource :=
  semantic_capability_resource views config catalog "ipv6_firewall" "IPv6 firewall"

def ipv6_devices_resource : SurfaceM SemanticResource :=
  semantic_capability_resource views config catalog "ipv6_clients" "IPv6 clients"

def lan_configuration_resource : SurfaceM SemanticResource :=
  semantic_capability_resource views config catalog "lan_configuration" "LAN configuration"

def dhcp_configuration_resource : SurfaceM SemanticResource :=
  semantic_capability_resource views config catalog "dhcp_configuration" "DHCP configuration"

def vlan_configuration_resource : SurfaceM SemanticResource :=
  semantic_capability_resource views config catalog "vlan_configuration" "VLAN configuration"

def port_forwarding_resource : SurfaceM SemanticResource :=
  semantic_capability_resource views config catalog "port_forwarding" "port forwarding"

def iptv_configuration_resource : SurfaceM SemanticResource :=
  semantic_capability_resource views config catalog "iptv_configuration" "IPTV configuration"

def sip_alg_resource : SurfaceM SemanticResource :=
  semantic_capability_resource views config catalog "sip_alg" "SIP ALG"

def mac_clone_resource : SurfaceM SemanticResource :=
  semantic_capability_resource views config catalog "mac_clone" "MAC clone"

/-! ## QoS -/

/-- The two parts of the QoS resource. -/
structure QosResource where
  mode : SemanticResource
  bandwidth : SemanticResource

/-- The two parts, which have to come from one source. -/
def qos_parts (mode bandwidth : CapabilityResponse) : Except PyError QosResource := do
  let mode ← capability_resource_parts "QoS mode" mode
  let bandwidth ← capability_resource_parts "bandwidth configuration" bandwidth
  if mode.provenance.source_interface ≠ bandwidth.provenance.source_interface then
    .error (value_error "Failed to read QoS: capability sources do not match")
  else .ok { mode, bandwidth }

/-- `DecoService.qos_resource`: two capabilities. -/
def qos_resource : SurfaceM QosResource := do
  let mode ← read_capability views config catalog "qos_mode"
  let bandwidth ← read_capability views config catalog "bandwidth_configuration"
  Dialogue.lift (qos_parts mode bandwidth)

/-! ## The parental controls of one owner -/

/-- The refusal of a read of the parental controls. -/
def parental_error (message : String) : PyError :=
  permission_error s!"Failed to read parental controls: {message}"

/-- `_validate_owner_id`. -/
def validate_owner_id (owner_id : String) : Except PyError Unit :=
  let error (message : String) : Except PyError Unit :=
    .error (value_error s!"Failed to read parental controls: {message}")
  if owner_id = "" ∨ strip owner_id = "" then error "owner_id must be non-empty"
  else if 256 < owner_id.length then error "owner_id is too long"
  else if owner_id.toList.any fun c => c.toNat < 32 || c.toNat = 127 then
    error "owner_id contains a control character"
  else .ok ()

/-- The gates of `_parameterized_parental_control_resource`. -/
def check_parental : Except PyError Unit :=
  if ¬ config.allow_sensitive_reads then
    .error (parental_error "DECO_ALLOW_SENSITIVE_READS is disabled")
  else if ¬ config.allow_tmp_reads then
    .error (parental_error "DECO_ALLOW_TMP_READS is disabled")
  else do
    let _ ← tmp_ssh_config config true
    .ok ()

/-- `_parameterized_parental_control_resource`. -/
def parameterized_parental_control_resource (name dataset owner_id : String) :
    SurfaceM JsonObject := do
  Dialogue.lift (check_parental config)
  let inventory ← device_inventory views config catalog
  if inventory.profile_match ≠ .exact then
    .raised (parental_error "no exact compatibility evidence")
  else do
    let reading ← read_tmp_capability views config catalog name false
      (.obj [("owner_id", .str owner_id)])
    match reading.data with
    | .view (.obj data) => pure data
    | _ => .raised (value_error s!"Failed to read {dataset}: data is not an object")

/-- A resource of one owner, where `shown` finds the owner in it. -/
def owner_resource (name dataset owner_id : String) (shown : JsonObject → Json) :
    SurfaceM JsonObject := do
  Dialogue.lift (validate_owner_id owner_id)
  let resource ← parameterized_parental_control_resource views config catalog name dataset owner_id
  if (shown resource).asStr ≠ some owner_id then
    .raised (value_error s!"Failed to read {dataset}: owner_id does not match")
  else pure resource

/-- `DecoService.parental_control_profile_resource`. -/
def parental_control_profile_resource (owner_id : String) : SurfaceM JsonObject :=
  owner_resource views config catalog "parental_control_profile" "parental-control profile" owner_id
    fun resource => get ((get resource "profile").asObj.getD []) "owner_id"

/-- `DecoService.parental_control_insights_resource`. -/
def parental_control_insights_resource (owner_id : String) : SurfaceM JsonObject :=
  owner_resource views config catalog "parental_control_insights" "parental-control insights"
    owner_id fun resource => get resource "owner_id"

/-- `DecoService.parental_control_history_resource`. -/
def parental_control_history_resource (owner_id : String) : SurfaceM JsonObject :=
  owner_resource views config catalog "parental_control_history" "parental-control history"
    owner_id fun resource => get resource "owner_id"

/-! ## The clients -/

/-- The rows that the view takes its records from. -/
def client_devices_resource (view : String) : SurfaceM CapabilityResponse :=
  if view ∉ ["all", "active", "inactive", "blocked"] then
    .raised (value_error s!"Failed to read client devices: unknown view '{view}'")
  else
    read_capability views config catalog
      (if view = "blocked" then "blocked_clients" else "clients")

/-- `m` under an `except _LIVE_READ_ERRORS` clause, with what stands in its place. -/
def read_or {α : Type} (name : String) (default : α) (m : SurfaceM α) :
    SurfaceM (α × List UnavailableSection) := do
  match ← live m with
  | .ok a => pure (a, [])
  | .error e => pure (default, (configuration_error name e).errors)

/-- `normalize_mac`. -/
def normalize_mac (value : String) : String := upper (replaced '-' ':' value)

/-- `(?:[0-9A-F]{2}:){5}[0-9A-F]{2}`, for all of the text. -/
def is_mac (value : String) : Bool :=
  let octets := value.splitOn ":"
  octets.length = 6 && octets.all fun octet =>
    octet.length = 2 && octet.toList.all fun c => c.isDigit || ('A' ≤ c && c ≤ 'F')

/-- A closed text can be shown to be a MAC address part by part. -/
theorem is_mac_of_splits {value normal : String} {parts : List String}
    (hnormal : normalize_mac value = normal) (hparts : splits normal ":" 18 0 0 0 [] = some parts)
    (h : (parts.length = 6 && parts.all fun octet => octet.length = 2 &&
      octet.toList.all fun c => c.isDigit || ('A' ≤ c && c ≤ 'F')) = true) :
    is_mac (normalize_mac value) = true := by
  rw [hnormal]
  unfold is_mac
  rw [splitOn_of_splits 18 (by decide) hparts]
  exact h

/-- `_json_rows`. -/
def json_rows (value : Json) : List JsonObject := (value.asArr.getD []).filterMap Json.asObj

/-- `_mapping_rows`, of the data of a reading. -/
def mapping_rows (data : CapabilityData) (key : String) : List JsonObject :=
  match data with
  | .view (.obj fields) => list_of_objects fields key
  | _ => []

/-- What `client_device_resource` reads beside the clients. -/
structure ClientDeviceSources where
  node_clients : List NodeClientList := []
  blocked : List JsonObject
  speeds : List JsonObject
  reservations : List JsonObject
  errors : List UnavailableSection

/-- A reading under its `except` clause, as the rows under a key. -/
def rows_or (name key : String) (read : SurfaceM Reading) :
    SurfaceM (List JsonObject × List UnavailableSection) :=
  read_or name [] (do
    let reading ← read
    pure (mapping_rows reading.data key))

/-- The reserved addresses, as the HTTP client lists them. -/
def http_reservation_rows : SurfaceM (List JsonObject) := do
  get_client config
  let table ← get_address_reservations views
  pure (list_of_objects (table.asObj.getD []) "reservations")

/-- The other lists of client devices over HTTP, each with its own failure. -/
def http_client_sources : SurfaceM ClientDeviceSources := do
  let (node_clients, e1) ← read_or "clients_by_node" [] (get_clients_by_node views config)
  let (blocked, e2) ← rows_or "blocked_devices" "devices"
    (read_http_capability views config "blocked_clients")
  let (speeds, e3) ← rows_or "device_speeds" "device_speeds"
    (read_http_capability views config "traffic")
  let (reservations, e4) ← read_or "address_reservations" [] (http_reservation_rows views config)
  pure { node_clients, blocked, speeds, reservations, errors := e1 ++ e2 ++ e3 ++ e4 }

/-- The same lists over TMP, which has no lists of the nodes. -/
def tmp_client_sources : SurfaceM ClientDeviceSources := do
  let (blocked, e2) ← rows_or "blocked_devices" "devices"
    (read_tmp_capability views config catalog "blocked_clients")
  let (speeds, e3) ← rows_or "device_speeds" "device_speeds"
    (read_tmp_capability views config catalog "traffic")
  let (reservations, e4) ← rows_or "address_reservations" "entries"
    (read_tmp_capability views config catalog "address_reservations")
  pure {
    blocked, speeds, reservations
    errors := (source_unavailable "clients_by_node").errors ++ e2 ++ e3 ++ e4 }

/-- The lists are read over the interface that gave the clients. -/
def client_sources (source_interface : String) : SurfaceM ClientDeviceSources :=
  match interface_named source_interface with
  | some .http_luci => http_client_sources views config
  | some .tmp_appv2 => tmp_client_sources views config catalog
  | none => .raised (value_error "Failed to read client device: unknown source interface")

/-- The MAC addresses of the records that the rows make. -/
def record_macs (clients : List JsonObject) (sources : ClientDeviceSources) : List String :=
  let rows := clients ++ sources.node_clients.flatMap (fun node => json_rows node.clients) ++
    sources.blocked ++ sources.speeds ++ sources.reservations
  (rows.map fun row => normalize_mac ((get row "mac").asStr.getD "")).filter (· ≠ "")

/-- What `client_device_resource` reads of all devices. -/
structure ClientDeviceResource where
  clients : CapabilityResponse
  sources : ClientDeviceSources

/-- `DecoService.client_device_resource`, up to the merge of its rows. -/
def client_device_resource (mac : String) : SurfaceM ClientDeviceResource :=
  if ¬ is_mac (normalize_mac mac) then
    .raised (value_error "Failed to read client device: MAC address is invalid")
  else do
    let clients ← read_capability views config catalog "clients"
    let sources ← client_sources views config catalog clients.provenance.source_interface
    let rows := match clients.reading.data with
      | .view value => json_rows value
      | .nodes _ => []
    if normalize_mac mac ∉ record_macs rows sources then
      .raised { cls := .KeyError, message := normalize_mac mac }
    else pure { clients, sources }

/-- `DecoService.traffic_resource`. -/
def traffic_resource : SurfaceM (Option SemanticResource × List UnavailableSection) :=
  sensitive config "traffic" (read_or "device_speeds" none (do
    let resource ← semantic_capability_resource views config catalog "traffic" "traffic"
    pure (some resource)))

/-! ## The WLAN and the cloud -/

/-- The networks, and the wireless features beside them. -/
structure WlanState where
  wlan : SemanticResource
  features : List Sections

/-- `DecoService.wlan_state`. -/
def wlan_state (include_passwords : Bool) : SurfaceM WlanState :=
  sensitive config "WLAN state" (do
    let capability ← read_capability views config catalog "wlan_state" include_passwords
    let wlan ← Dialogue.lift (capability_resource_parts "WLAN state" capability)
    let inventory ← device_inventory views config catalog
    let context ← Dialogue.lift (capability_read_context capability inventory)
    let features ← Dialogue.each (fun (field_name, capability) =>
      try_sections s!"features.{field_name}"
        (capability_section views config catalog field_name capability context))
      WIRELESS_FEATURE_CAPABILITIES
    pure { wlan, features })

/-- The DDNS state, and the manager where HTTP shows one. -/
structure CloudState where
  ddns : SemanticResource
  manager : Json
  unavailable_sections : List UnavailableSection

/-- The manager of the cloud account is read over HTTP only. -/
def read_manager (source_interface : String) : SurfaceM (Json × List UnavailableSection) :=
  if source_interface = "http_luci" then
    read_or "manager" .null (do
      let response ← read_endpoint config "admin.cloud.manager.get"
      pure response.result)
  else pure (.null, (source_unavailable "manager").errors)

/-- `DecoService.cloud_state`. -/
def cloud_state : SurfaceM CloudState :=
  sensitive config "cloud state" (do
    let ddns ← semantic_capability_resource views config catalog "ddns" "DDNS"
    let (manager, unavailable_sections) ← read_manager config ddns.provenance.source_interface
    pure { ddns, manager, unavailable_sections })

end tplink_deco_api.surface
