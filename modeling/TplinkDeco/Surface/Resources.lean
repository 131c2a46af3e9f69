-- The compound resources: the network status and the configuration, each from the
-- inventory, the internet status, and the sections that are read after them.
import TplinkDeco.Surface.Capabilities

open dialogue json

namespace tplink_deco_api.surface

open endpoint_catalog exceptions service tmp_batches tmp_client

/-! ## Sections -/

/-- `_LIVE_READ_ERRORS`. -/
def LIVE_READ_ERRORS : List ExcClass := [.DecoError, .OSError, .TimeoutError, .ValueError]

/-- `m`, under an `except _LIVE_READ_ERRORS` clause. -/
def live {α : Type} (m : SurfaceM α) : SurfaceM (Except PyError α) :=
  m.trying (·.isinstance LIVE_READ_ERRORS)

/-- A part of a resource, with where it was read. -/
structure ResourceSection where
  name : String
  reading : Reading

/-- An entry of `unavailable_sections`. -/
structure UnavailableSection where
  name : String
  error_type : String

/-- The sections that a part of a resource adds, and those that it could not read. -/
structure Sections where
  available : List ResourceSection := []
  errors : List UnavailableSection := []

instance : Append Sections where
  append first second := {
    available := first.available ++ second.available
    errors := first.errors ++ second.errors }

/-- `_configuration_error`. -/
def configuration_error (name : String) (e : PyError) : Sections :=
  { errors := [{ name, error_type := e.cls.name }] }

/-- `_source_unavailable`. -/
def source_unavailable (name : String) : Sections :=
  { errors := [{ name, error_type := "SourceUnavailable" }] }

/-- What `read` adds, or the entry of the section `name` that it could not read. -/
def try_sections (name : String) (read : SurfaceM (List ResourceSection)) : SurfaceM Sections := do
  match ← live read with
  | .ok available => pure { available }
  | .error e => pure (configuration_error name e)

/-- A section that the HTTP client gives. -/
def http_section (name : String) (read : SurfaceM Json) : SurfaceM (List ResourceSection) := do
  let value ← read
  pure [{ name, reading := { data := .view value, read_over := .http_luci } }]

variable (views : Views) (config : ServerConfig) (catalog : TmpOpcodeCatalog)

/-- `_tmp_fallback_available`. -/
def tmp_fallback_available (sensitivity : SensitivityLevel) : SurfaceM Bool :=
  (service.tmp_fallback_available config sensitivity).interpret (read_step views config catalog)

/-- `_read_resource_capability`: over the interface of the context alone. -/
def read_resource_capability (name : String) (context : ResourceReadContext) :
    SurfaceM Reading :=
  match get_capability_route name with
  | none => .raised { cls := .KeyError, message := name }
  | some route =>
    if route.sensitivity = .secret ∧ ¬ config.allow_sensitive_reads then
      .raised (permission_error
        "Failed to read resource capability: DECO_ALLOW_SENSITIVE_READS is disabled")
    else if context.interface = .http_luci then read_http_capability views config name
    else do
      let available ← tmp_fallback_available views config catalog route.sensitivity
      if ¬ available then
        .raised (permission_error "Failed to read resource capability: TMP route is not eligible")
      else read_tmp_capability views config catalog name

/-- A section that is the reading of a capability. -/
def capability_section (name capability : String) (context : ResourceReadContext) :
    SurfaceM (List ResourceSection) := do
  let reading ← read_resource_capability views config catalog capability context
  pure [{ name, reading }]

/-- The internet status, which selects the context of all that is read after it. -/
def read_internet (inventory : Inventory) (context : ResourceReadContext) :
    SurfaceM (ResourceReadContext × Sections) := do
  match ← live (read_capability views config catalog "internet_status") with
  | .error e => pure (context, configuration_error "internet" e)
  | .ok capability =>
    let internet : Sections :=
      { available := [{ name := "internet", reading := capability.reading }] }
    match capability_read_context capability inventory with
    | .ok selected => pure (selected, internet)
    | .error e => pure (context, internet ++ configuration_error "internet" e)

/-- A resource: what it shows of the cached devices, its sections, and the context that its
provenance is made of. What is computed from the sections alone is left out. -/
structure ResourceResponse where
  controller : Device
  mesh : Option (List Device)
  listed_over : CapabilityInterface
  sections : Sections
  gated_status : String
  context : ResourceReadContext

/-! ## `network_status_resource` -/

/-- `len(_json_rows(data))`. -/
def json_row_count : CapabilityData → Nat
  | .view (.arr items) => (items.filterMap Json.asObj).length
  | .view _ => 0
  | .nodes devices => devices.length

/-- The number of clients, in the place of the clients. -/
def client_count_section (context : ResourceReadContext) : SurfaceM (List ResourceSection) := do
  let reading ← read_resource_capability views config catalog "clients" context
  let count : Json := .int (json_row_count reading.data)
  pure [{ name := "client_count", reading := { reading with data := .view count } }]

/-- Whether a gated section was read, could not be read, or was not tried. -/
def status_of (sections : Sections) : String :=
  if sections.available.isEmpty then "unavailable" else "available"

/-- The client count and its status. -/
def read_client_count (context : ResourceReadContext) : SurfaceM (Sections × String) :=
  if ¬ config.allow_sensitive_reads then pure ({}, "gated")
  else do
    let sections ← try_sections "client_count" (client_count_section views config catalog context)
    pure (sections, status_of sections)

/-- The sections of both branches. -/
def status_capabilities (context : ResourceReadContext) : SurfaceM (Sections × String) := do
  let firmware ← try_sections "firmware"
    (capability_section views config catalog "firmware" "firmware_status" context)
  let speed_test ← try_sections "speed_test"
    (capability_section views config catalog "speed_test" "speed_test" context)
  let (client_count, status) ← read_client_count views config catalog context
  pure (firmware ++ speed_test ++ client_count, status)

/-- The performance is read over HTTP only. -/
def performance_section (context : ResourceReadContext) : SurfaceM Sections :=
  if context.interface = .http_luci then do
    get_client config
    try_sections "performance" (http_section "performance" (get_performance views))
  else pure (source_unavailable "performance")

/-- What the resource shows of the cached devices: the controller, and the mesh. -/
def cached_devices : SurfaceM (Device × List Device × CapabilityInterface) := do
  let d ← desk
  let devices := d.service.device_cache.getD []
  let controller ← Dialogue.lift (controller_device devices)
  pure (controller, devices, d.listed_over.getD .http_luci)

/-- `DecoService.network_status_resource`. -/
def network_status_resource : SurfaceM ResourceResponse := do
  let inventory ← device_inventory views config catalog true
  let context ← Dialogue.lift (resource_read_context inventory)
  let (controller, devices, listed_over) ← cached_devices
  let (context, internet) ← read_internet views config catalog inventory context
  let performance ← performance_section views config context
  let (capabilities, client_count_status) ← status_capabilities views config catalog context
  pure {
    controller
    mesh := some devices
    listed_over
    sections := internet ++ performance ++ capabilities
    gated_status := client_count_status
    context }

/-! ## `configuration_resource` -/

/-- The sections of the WAN and the LAN, from a view of the IPv4 configuration. -/
def wan_lan_sections (ipv4 : JsonObject) (read_over : CapabilityInterface) :
    List ResourceSection := [
  { name := "wan", reading := { data := .view (get ipv4 "wan"), read_over } },
  { name := "lan", reading := { data := .view (get ipv4 "lan"), read_over } }]

/-- The WAN and LAN parts of the HTTP configuration. -/
def http_wan_lan : SurfaceM (List ResourceSection) := do
  let info ← get_wan_info views
  let ipv4 ← Dialogue.lift (views.http_view "ipv4_configuration" false info)
  pure (wan_lan_sections (ipv4.asObj.getD []) .http_luci)

/-- The same parts over TMP. -/
def tmp_wan_lan (context : ResourceReadContext) : SurfaceM (List ResourceSection) := do
  let reading ← read_resource_capability views config catalog "ipv4_configuration" context
  match reading.data with
  | .view (.obj ipv4) => pure (wan_lan_sections ipv4 reading.read_over)
  | _ => .raised (value_error
      "Failed to read configuration: IPv4 configuration is not an object")

/-- The five reads of `network_features`. -/
def network_features : SurfaceM Json := do
  let wan_mode ← call_result ⟨"admin/network", "wan_mode", "read"⟩
  let lan_ipv4 ← get_lan_ipv4
  let lan_ip ← get_lan_ip
  let vlan ← call_result ⟨"admin/network", "vlan", "read"⟩
  let mac_clone ← call_result ⟨"admin/network", "mac_clone", "read"⟩
  pure (.obj [("wan_mode", wan_mode), ("lan_ipv4", lan_ipv4), ("lan_ip", lan_ip), ("vlan", vlan),
    ("mac_clone", mac_clone)])

/-- The nickname and its status. -/
def read_nickname : SurfaceM (Sections × String) :=
  if ¬ config.allow_sensitive_reads then pure ({}, "gated")
  else do
    let sections ← try_sections "nickname"
      (http_section "nickname" (call_result ⟨"admin/cloud", "nickname", "read"⟩))
    pure (sections, status_of sections)

/-- The sections before those of the WAN and the LAN, in the branch of HTTP. -/
def http_operating_mode : SurfaceM Sections := do
  get_client config
  try_sections "operating_mode" (http_section "operating_mode" (get_device_mode views))

/-- The sections after those of the WAN and the LAN. -/
def http_configuration_rest : SurfaceM (Sections × String) := do
  let dhcp ← try_sections "dhcp" (http_section "dhcp" get_dhcp_info)
  let features ← try_sections "network_features" (http_section "network_features" network_features)
  let time_settings ← try_sections "time_settings"
    (http_section "time_settings" (get_time_settings views))
  let (nickname, status) ← read_nickname config
  pure (dhcp ++ features ++ time_settings ++ nickname, status)

/-- The sections of the configuration over HTTP, and the status of the nickname. -/
def http_configuration : SurfaceM (Sections × String) := do
  let operating_mode ← http_operating_mode views config
  let wan_lan ← try_sections "wan_lan" (http_wan_lan views)
  let (rest, status) ← http_configuration_rest views config
  pure (operating_mode ++ wan_lan ++ rest, status)

/-- Over TMP most sections are unavailable. -/
def tmp_configuration (context : ResourceReadContext) : SurfaceM (Sections × String) := do
  let unavailable := source_unavailable "operating_mode" ++ source_unavailable "dhcp" ++
    source_unavailable "network_features" ++ source_unavailable "time_settings"
  let wan_lan ← try_sections "wan_lan" (tmp_wan_lan views config catalog context)
  if config.allow_sensitive_reads then
    pure (unavailable ++ wan_lan ++ source_unavailable "nickname", "unavailable")
  else pure (unavailable ++ wan_lan, "gated")

/-- The sections, over the interface of the context. -/
def configuration_sections (context : ResourceReadContext) : SurfaceM (Sections × String) :=
  if context.interface = .http_luci then http_configuration views config
  else tmp_configuration views config catalog context

/-- `_WIRELESS_FEATURE_CAPABILITIES`. -/
def WIRELESS_FEATURE_CAPABILITIES : List (String × String) := [
  ("operation_mode", "wireless_operation_mode"),
  ("bridge", "wireless_bridge"),
  ("fast_roaming", "fast_roaming"),
  ("beamforming", "beamforming")]

/-- Each wireless feature is a section that may fail alone. -/
def wireless_features (context : ResourceReadContext) : SurfaceM (List Sections) :=
  Dialogue.each (fun (field_name, capability) =>
    try_sections s!"wireless_features.{field_name}"
      (capability_section views config catalog field_name capability context))
    WIRELESS_FEATURE_CAPABILITIES

/-- The context, and what comes before the branches of `configuration_resource`. -/
def configuration_start :
    SurfaceM (Device × CapabilityInterface × ResourceReadContext × Sections) := do
  let inventory ← device_inventory views config catalog
  let d ← desk
  let context ← Dialogue.lift (resource_read_context inventory)
  let (context, internet) ← read_internet views config catalog inventory context
  pure (inventory.controller, d.listed_over.getD .http_luci, context, internet)

/-- `DecoService.configuration_resource`. -/
def configuration_resource : SurfaceM ResourceResponse := do
  let (controller, listed_over, context, internet) ← configuration_start views config catalog
  let (sections, nickname_status) ← configuration_sections views config catalog context
  let features ← wireless_features views config catalog context
  pure {
    controller
    mesh := none
    listed_over
    sections := features.foldl (· ++ ·) (internet ++ sections)
    gated_status := nickname_status
    context }

end tplink_deco_api.surface
