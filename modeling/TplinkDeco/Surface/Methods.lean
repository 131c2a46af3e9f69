-- Every public method of the service, with its arguments, as one type: what each
-- asks, and what a sequence of them asks.
import TplinkDeco.Surface.Mutations
import TplinkDeco.Surface.TmpReads

open dialogue json

namespace tplink_deco_api.surface

open endpoint_catalog exceptions http_noop_verification service tmp_batches tmp_client

/-- What a service is built from: its configuration, the parsers and views, and the bundled
catalogue and profile. `float_repr` is the text that Python has for a `float`. -/
structure Setup where
  config : ServerConfig
  views : Views
  catalog : TmpOpcodeCatalog
  profile : ModelCompatibilityProfile
  float_repr : Option Rat → String

/-- A call of a public method. The clock and the token that a method draws stand beside its
arguments. `offline` stands for the methods that compute their answer from the bundled data,
from the state of the service, and from whether the TMP client is connected. -/
inductive PublicCall where
  | offline (view : Desk → Bool → Except PyError Json)
  | close
  | device_inventory (refresh : Bool)
  | read_capability (name : String) (include_passwords : Bool)
  | ipv4_configuration_resource
  | led_configuration_resource
  | mesh_traffic_resource
  | wps_status_resource
  | monthly_report_settings_resource
  | monthly_reports_resource
  | notifications_resource
  | speed_test_servers_resource
  | parental_controls_resource
  | parental_control_filter_levels_resource
  | parental_control_catalog_resource
  | access_permissions_resource
  | ipv6_configuration_resource
  | ipv6_firewall_resource
  | ipv6_devices_resource
  | lan_configuration_resource
  | dhcp_configuration_resource
  | vlan_configuration_resource
  | port_forwarding_resource
  | iptv_configuration_resource
  | sip_alg_resource
  | mac_clone_resource
  | address_reservations_resource
  | qos_resource
  | parental_control_profile_resource (owner_id : String)
  | parental_control_insights_resource (owner_id : String)
  | parental_control_history_resource (owner_id : String)
  | client_devices_resource (view : String)
  | client_device_resource (mac : String)
  | traffic_resource
  | logs_resource
  | system_log_page_resource (index limit : Int)
  | network_status_resource
  | configuration_resource
  | network_overview
  | mesh_overview
  | client_overview
  | system_overview
  | wlan_state (include_passwords : Bool)
  | cloud_state
  | get_clients_by_node
  | probe_p9_transport_services (include_nodes : Bool) (timeout : Rat)
  | tmp_host_key
  | tmp_read (opcode : Nat) (params : Json)
  | tmp_read_binary (opcode : Nat) (params : Json) (include_content : Bool)
  | p9_tmp_data (category : String) (include_parameterized : Bool)
  | discover_tmp_read_contracts (included : Bool) (now : Int)
  | discover_tmp_unverified_reads (include_sensitive : Bool) (max_operations : Option Int)
  | read_endpoint (name : String) (params : Option JsonObject)
  | p9_http_data (controller : String) (include_sensitive : Bool)
  | discover_p9_untested_http_reads
  | read_binary_endpoint (name : String) (include_content : Bool)
  | discover_p9_binary_reads
  | discover_capabilities
  | discover_p9_reads
  | discover_all_reads
  | discover_p9_sensitive_schemas
  | discover_all_sensitive_schemas
  | build_compatibility_manifest (full : Bool)
  | capabilities
  | semantic_mutations
  | semantic_mutation (name : String)
  | preflight_semantic_mutation (name : String) (changes : JsonObject) (mode : String)
  | plan_semantic_mutation (name : String) (changes : JsonObject) (mode : String) (now : Rat)
      (token : String)
  | semantic_mutation_plan (plan_id : String) (now : Rat)
  | execute_semantic_mutation (plan_id confirmation : String) (now : Rat)
  | verify_setting_noop (name confirmation : String)
  | verify_p9_http_noop (operation confirmation : String)
  | preflight_mutation (name : String) (params : Option JsonObject) (model : String)
  | invoke_mutation (name : String) (params : Option JsonObject)
      (confirmation plan_confirmation model : String)

namespace PublicCall

/-- What the answer of a method is made of. The resources of one capability are the rest. -/
abbrev Answer : PublicCall → Type
  | offline _ => Json
  | close => Unit
  | device_inventory _ | capabilities | semantic_mutations | semantic_mutation _ => Inventory
  | read_capability _ _ | address_reservations_resource | client_devices_resource _ =>
    CapabilityResponse
  | qos_resource => QosResource
  | parental_control_profile_resource _ | parental_control_insights_resource _
  | parental_control_history_resource _ => JsonObject
  | client_device_resource _ => ClientDeviceResource
  | traffic_resource => Option SemanticResource × List UnavailableSection
  | logs_resource => Sections
  | system_log_page_resource _ _ | network_overview | client_overview | system_overview => Json
  | network_status_resource | configuration_resource => ResourceResponse
  | mesh_overview => MeshOverview
  | wlan_state _ => WlanState
  | cloud_state => CloudState
  | get_clients_by_node => List NodeClientList
  | probe_p9_transport_services _ _ => List ServiceProbe
  | tmp_host_key => TmpHostKey
  | tmp_read _ _ => JsonObject
  | tmp_read_binary _ _ _ => TmpBinary
  | p9_tmp_data _ _ => TmpData
  | discover_tmp_read_contracts _ _ => TmpReadContracts
  | discover_tmp_unverified_reads _ _ => TmpUnverifiedReads
  | read_endpoint _ _ | invoke_mutation _ _ _ _ _ => ApiResponse
  | p9_http_data _ _ | discover_p9_untested_http_reads => List HttpReadEntry
  | read_binary_endpoint _ _ => BinaryResponse
  | discover_p9_binary_reads => List BinaryReadEntry
  | discover_capabilities | discover_p9_reads | discover_all_reads => List EndpointProbeResult
  | discover_p9_sensitive_schemas | discover_all_sensitive_schemas => List EndpointObservation
  | build_compatibility_manifest _ => CompatibilityManifest
  | preflight_semantic_mutation _ _ _ => Bool
  | plan_semantic_mutation _ _ _ _ _ => Option String
  | semantic_mutation_plan _ _ => PendingMutationPlan
  | execute_semantic_mutation _ _ _ | verify_setting_noop _ _ | verify_p9_http_noop _ _ =>
    HttpNoopVerificationResult
  | preflight_mutation _ _ _ => Preflight
  | _ => SemanticResource

/-- A method that contacts nothing. -/
def answer_offline (view : Desk → Bool → Except PyError Json) : SurfaceM Json := do
  let d ← desk
  let connected ← send .tmp_connected
  Dialogue.lift (view d connected)

variable (setup : Setup)

/-- The method that a call runs, with its arguments. -/
def program : (call : PublicCall) → SurfaceM call.Answer
  | offline view => answer_offline view
  | close => surface.close
  | device_inventory refresh =>
    surface.device_inventory setup.views setup.config setup.catalog refresh
  | read_capability name include_passwords =>
    surface.read_capability setup.views setup.config setup.catalog name include_passwords
  | ipv4_configuration_resource =>
    surface.ipv4_configuration_resource setup.views setup.config setup.catalog
  | led_configuration_resource =>
    surface.led_configuration_resource setup.views setup.config setup.catalog
  | mesh_traffic_resource => surface.mesh_traffic_resource setup.views setup.config setup.catalog
  | wps_status_resource => surface.wps_status_resource setup.views setup.config setup.catalog
  | monthly_report_settings_resource =>
    surface.monthly_report_settings_resource setup.views setup.config setup.catalog
  | monthly_reports_resource =>
    surface.monthly_reports_resource setup.views setup.config setup.catalog
  | notifications_resource => surface.notifications_resource setup.views setup.config setup.catalog
  | speed_test_servers_resource =>
    surface.speed_test_servers_resource setup.views setup.config setup.catalog
  | parental_controls_resource =>
    surface.parental_controls_resource setup.views setup.config setup.catalog
  | parental_control_filter_levels_resource =>
    surface.parental_control_filter_levels_resource setup.views setup.config setup.catalog
  | parental_control_catalog_resource =>
    surface.parental_control_catalog_resource setup.views setup.config setup.catalog
  | access_permissions_resource =>
    surface.access_permissions_resource setup.views setup.config setup.catalog
  | ipv6_configuration_resource =>
    surface.ipv6_configuration_resource setup.views setup.config setup.catalog
  | ipv6_firewall_resource => surface.ipv6_firewall_resource setup.views setup.config setup.catalog
  | ipv6_devices_resource => surface.ipv6_devices_resource setup.views setup.config setup.catalog
  | lan_configuration_resource =>
    surface.lan_configuration_resource setup.views setup.config setup.catalog
  | dhcp_configuration_resource =>
    surface.dhcp_configuration_resource setup.views setup.config setup.catalog
  | vlan_configuration_resource =>
    surface.vlan_configuration_resource setup.views setup.config setup.catalog
  | port_forwarding_resource =>
    surface.port_forwarding_resource setup.views setup.config setup.catalog
  | iptv_configuration_resource =>
    surface.iptv_configuration_resource setup.views setup.config setup.catalog
  | sip_alg_resource => surface.sip_alg_resource setup.views setup.config setup.catalog
  | mac_clone_resource => surface.mac_clone_resource setup.views setup.config setup.catalog
  | address_reservations_resource =>
    surface.address_reservations_resource setup.views setup.config setup.catalog
  | qos_resource => surface.qos_resource setup.views setup.config setup.catalog
  | parental_control_profile_resource owner_id =>
    surface.parental_control_profile_resource setup.views setup.config setup.catalog owner_id
  | parental_control_insights_resource owner_id =>
    surface.parental_control_insights_resource setup.views setup.config setup.catalog owner_id
  | parental_control_history_resource owner_id =>
    surface.parental_control_history_resource setup.views setup.config setup.catalog owner_id
  | client_devices_resource view =>
    surface.client_devices_resource setup.views setup.config setup.catalog view
  | client_device_resource mac =>
    surface.client_device_resource setup.views setup.config setup.catalog mac
  | traffic_resource => surface.traffic_resource setup.views setup.config setup.catalog
  | logs_resource => surface.logs_resource setup.views setup.config
  | system_log_page_resource index limit =>
    surface.system_log_page_resource setup.views setup.config index limit
  | network_status_resource =>
    surface.network_status_resource setup.views setup.config setup.catalog
  | configuration_resource =>
    surface.configuration_resource setup.views setup.config setup.catalog
  | network_overview => surface.network_overview setup.views setup.config
  | mesh_overview => surface.mesh_overview setup.views setup.config
  | client_overview => surface.client_overview setup.views setup.config
  | system_overview => surface.system_overview setup.views setup.config
  | wlan_state include_passwords =>
    surface.wlan_state setup.views setup.config setup.catalog include_passwords
  | cloud_state => surface.cloud_state setup.views setup.config setup.catalog
  | get_clients_by_node => surface.get_clients_by_node setup.views setup.config
  | probe_p9_transport_services include_nodes timeout =>
    surface.probe_p9_transport_services setup.views setup.config include_nodes timeout
  | tmp_host_key => surface.tmp_host_key setup.config
  | tmp_read opcode params => surface.tmp_read setup.config setup.catalog opcode params
  | tmp_read_binary opcode params include_content =>
    surface.tmp_read_binary setup.config setup.catalog opcode params include_content
  | p9_tmp_data category include_parameterized =>
    surface.p9_tmp_data setup.config setup.catalog category include_parameterized
  | discover_tmp_read_contracts included now =>
    surface.discover_tmp_read_contracts setup.config setup.catalog included now
  | discover_tmp_unverified_reads include_sensitive max_operations =>
    surface.discover_tmp_unverified_reads setup.config setup.catalog include_sensitive
      max_operations
  | read_endpoint name params => surface.read_endpoint setup.config name params
  | p9_http_data controller include_sensitive =>
    surface.p9_http_data setup.config setup.profile controller include_sensitive
  | discover_p9_untested_http_reads =>
    surface.discover_p9_untested_http_reads setup.config setup.profile
  | read_binary_endpoint name include_content =>
    surface.read_binary_endpoint setup.config name include_content
  | discover_p9_binary_reads => surface.discover_p9_binary_reads setup.config
  | discover_capabilities => surface.discover_capabilities setup.config
  | discover_p9_reads => surface.discover_p9_reads setup.config
  | discover_all_reads => surface.discover_all_reads setup.config
  | discover_p9_sensitive_schemas =>
    surface.discover_p9_sensitive_schemas setup.config setup.profile
  | discover_all_sensitive_schemas => surface.discover_all_sensitive_schemas setup.config
  | build_compatibility_manifest full =>
    surface.build_compatibility_manifest setup.views setup.config full
  | capabilities => surface.capabilities setup.views setup.config setup.catalog
  | semantic_mutations => surface.semantic_mutations setup.views setup.config setup.catalog
  | semantic_mutation name =>
    surface.semantic_mutation setup.views setup.config setup.catalog name
  | preflight_semantic_mutation name changes mode =>
    surface.preflight_semantic_mutation setup.views setup.config setup.catalog name changes mode
  | plan_semantic_mutation name changes mode now token =>
    surface.plan_semantic_mutation setup.views setup.config setup.catalog name changes mode now
      token
  | semantic_mutation_plan plan_id now => surface.semantic_mutation_plan plan_id now
  | execute_semantic_mutation plan_id confirmation now =>
    surface.execute_semantic_mutation setup.views setup.config setup.catalog plan_id confirmation
      now
  | verify_setting_noop name confirmation =>
    surface.verify_setting_noop setup.views setup.config setup.catalog name confirmation
  | verify_p9_http_noop operation confirmation =>
    surface.verify_p9_http_noop setup.views setup.config setup.catalog operation confirmation
  | preflight_mutation name params model =>
    surface.preflight_mutation setup.views setup.config setup.float_repr name params model
  | invoke_mutation name params confirmation plan_confirmation model =>
    surface.invoke_mutation setup.config setup.float_repr name params confirmation
      plan_confirmation model

end PublicCall

/-- A call that has ended, with its answer or its error. -/
structure Served where
  call : PublicCall
  outcome : Except PyError call.Answer

/-- One call after another. -/
def serve (setup : Setup) (calls : List PublicCall) : SurfaceM (List Served) :=
  Dialogue.each (fun call => do
    let outcome ← attempt (call.program setup)
    pure { call, outcome }) calls

end tplink_deco_api.surface
