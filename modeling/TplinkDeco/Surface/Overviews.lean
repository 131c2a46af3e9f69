-- The methods that ask the client for one value after another, each with its gate
-- before the first request, and those that only look at the ports of the router.
import TplinkDeco.Surface.Endpoints

open dialogue json

namespace tplink_deco_api.surface

open endpoint_catalog exceptions service tmp_batches tmp_client

variable (views : Views) (config : ServerConfig)

/-- A method behind `DECO_ALLOW_SENSITIVE_READS`. -/
def sensitive {α : Type} (label : String) (m : SurfaceM α) : SurfaceM α :=
  if ¬ config.allow_sensitive_reads then
    .raised (permission_error
      s!"Failed to read {label}: DECO_ALLOW_SENSITIVE_READS=1 is required")
  else m

/-! ## The clients of the nodes -/

/-- The clients that one node lists. -/
structure NodeClientList where
  node_mac : String
  clients : Json

/-- `client.get_clients_by_node()`. -/
def clients_by_node : SurfaceM (List NodeClientList) := do
  let devices ← get_device_list views
  Dialogue.each (fun device => do
    let clients ← get_client_list views device.mac
    pure { node_mac := device.mac, clients }) (devices.filter fun device => device.mac ≠ "")

/-- `DecoService.get_clients_by_node`. -/
def get_clients_by_node : SurfaceM (List NodeClientList) :=
  sensitive config "clients by node"
    (with_relogin config SESSION_ERRORS (clients_by_node views))

/-- The nodes, and the clients at each. -/
structure MeshOverview where
  nodes : List Device
  clients_by_node : List NodeClientList

/-- The list goes into the cache as it is, and the resolution beside it stays. -/
def mesh_overview : SurfaceM MeshOverview :=
  sensitive config "mesh overview" (do
    get_client config
    let nodes ← get_device_list views
    update fun d => {
      service := { d.service with device_cache := some nodes }
      listed_over := some .http_luci }
    let clients_by_node ← clients_by_node views
    pure { nodes, clients_by_node })

/-! ## The overviews -/

/-- The reads of the overview, under the keys of their views. -/
def network_overview : SurfaceM Json :=
  sensitive config "network overview" (do
    get_client config
    let device_mode ← get_device_mode views
    let internet ← get_internet_status views
    let wan_info ← get_wan_info views
    let performance ← get_performance views
    let time ← get_time_settings views
    let address_reservations ← get_address_reservations views
    let configuration ← network_features
    pure (.obj [("device_mode", device_mode), ("internet", internet), ("wan_info", wan_info),
      ("configuration", configuration), ("performance", performance), ("time", time),
      ("address_reservations", address_reservations)]))

/-- `DecoService.client_overview`. -/
def client_overview : SurfaceM Json :=
  sensitive config "client overview" (do
    get_client config
    let clients ← get_client_list views
    let traffic_statistics ← get_traffic_statistics
    let blacklist ← call_result ⟨"admin/client", "black_list", "list"⟩
    let address_reservations ← get_address_reservations views
    pure (.obj [("clients", clients), ("traffic_statistics", traffic_statistics),
      ("blacklist", blacklist), ("address_reservations", address_reservations)]))

/-- `client.get_log_types()`. -/
def get_log_types : SurfaceM Json := do
  let response ← request_envelope ⟨"admin/log_export", "types", "read"⟩
  let items := (response.result.asArr.getD []).filterMap Json.asObj
  let log_types ← Dialogue.lift (items.mapM (views.model "LogType"))
  pure (.arr log_types)

/-- `DecoService.system_overview`. -/
def system_overview : SurfaceM Json :=
  sensitive config "system overview" (do
    get_client config
    let speed_test ← get_speed_test views
    let firmware_status ← call_result ⟨"admin/cloud", "firmware_status", "read"⟩
    let nickname ← call_result ⟨"admin/cloud", "nickname", "read"⟩
    let log_types ← get_log_types views
    pure (.obj [("speed_test", speed_test), ("firmware_status", firmware_status),
      ("nickname", nickname), ("log_types", log_types)]))

/-! ## The logs -/

/-- The log levels, or why they could not be read. -/
def logs_resource : SurfaceM Sections :=
  try_sections "categories" (do
    get_client config
    http_section "categories" (get_log_types views))

/-- The checks of the page that the service and the client both make. -/
def check_log_page (index limit : Int) : Except PyError Unit :=
  if index < 0 then
    .error (value_error "Failed to read system log: index must be non-negative")
  else if ¬ (1 ≤ limit ∧ limit ≤ 100) then
    .error (value_error "Failed to read system log: limit must be between 1 and 100")
  else .ok ()

/-- `client.get_system_log(index=index, limit=limit)`. -/
def get_system_log (index limit : Int) : SurfaceM Json := do
  Dialogue.lift (check_log_page index limit)
  get_model views "SystemLogPage" ⟨"admin/log_export", "feedback_log", "read"⟩
    (some [("index", .int index), ("limit", .int limit)])

/-- `DecoService.system_log_page_resource`: the gates, the bounds of the page, and the read. -/
def system_log_page_resource (index limit : Int) : SurfaceM Json :=
  sensitive config "system log" (
    if ¬ config.allow_bulk_secret_reads then
      .raised (permission_error
        "Failed to read system log: DECO_ALLOW_BULK_SECRET_READS=1 is required")
    else do
      Dialogue.lift (check_log_page index limit)
      get_client config
      get_system_log views index limit)

/-! ## The ports of the router -/

/-- The address of a node, as `Device.from_api` reads it. -/
def device_ip (row : JsonObject) : String :=
  match (get row "device_ip").asStr with
  | some ip => if ip = "" then ((get row "ip").asStr.getD "") else ip
  | none => (get row "ip").asStr.getD ""

/-- The addresses that the router lists for its nodes. -/
def node_addresses : SurfaceM (List String) := do
  get_client config
  let result ← request DEVICE_LIST
  let rows := list_of_objects result "device_list"
  let _ ← Dialogue.lift (rows.mapM views.device)
  pure ((rows.map device_ip).filter (· ≠ ""))

/-- The ports that are probed. -/
def P9_SERVICES : List (Nat × String) :=
  [(22, "conventional_ssh"), (20001, "tmp_ssh"), (20002, "tmp_direct")]

/-- What one probe of a port showed. -/
structure ServiceProbe where
  host : String
  port : Nat
  service : String
  status : TcpStatus

/-- Connect once to a port. -/
def probe_tcp_service (host : String) (port : Nat) (service : String) : SurfaceM ServiceProbe := do
  let reply ← send (.probe_tcp host port)
  let status ← Dialogue.lift reply
  pure { host, port, service, status }

/-- Every port of every host, a host that is named twice once. -/
def probe_hosts (hosts : List String) : SurfaceM (List ServiceProbe) :=
  Dialogue.each (fun (host, port, service) => probe_tcp_service host port service)
    (hosts.eraseDups.flatMap fun host => P9_SERVICES.map fun (port, service) => (host, port, service))

/-- `DecoService.probe_p9_transport_services`. -/
def probe_p9_transport_services (include_nodes : Bool) (timeout : Rat) :
    SurfaceM (List ServiceProbe) :=
  if timeout ≤ 0 ∨ 10 < timeout then
    .raised (value_error "Failed to probe P9 services: timeout must be between 0 and 10")
  else if include_nodes then do
    let addresses ← node_addresses views config
    probe_hosts (config.host :: addresses)
  else probe_hosts [config.host]

/-- The key that the host shows, and whether it is the configured one. -/
structure TmpHostKey where
  host : String
  host_key_sha256 : String
  matches_configured : Bool

/-- The key of the SSH server, asked for by a client of its own. -/
def tmp_host_key : SurfaceM TmpHostKey := do
  let _ ← Dialogue.lift (tmp_ssh_config config false)
  let reply ← send .probe_host_key
  let fingerprint ← Dialogue.lift reply
  pure {
    host := config.host
    host_key_sha256 := fingerprint
    matches_configured :=
      config.tmp_host_key_sha256 ≠ "" && config.tmp_host_key_sha256 = fingerprint }

end tplink_deco_api.surface
