-- Method after method: all of them ask for permitted reads alone, but for the one
-- ungated section of `configuration_resource`, the no-ops, and `invoke_mutation`.
import TplinkDeco.Surface.Permitted

open dialogue json script

namespace tplink_deco_api.surface

open endpoint_catalog exceptions http_noop_verification service tmp_batches tmp_client Dialogue

variable {catalog : TmpOpcodeCatalog} {secrets : Bool} {α : Type}
variable (config : ServerConfig) (views : Views) (profile : ModelCompatibilityProfile)

-- Unfolded, these would compare texts that are not known, the first with all names of the catalogue.
attribute [local irreducible] get_endpoint model_compatibility

/-! ## Operations of the catalogue -/

theorem permits_of_gate {e : EndpointSpec} (he : e ∈ ENDPOINT_CATALOG)
    (hread : e.safety = .read_only)
    (hgate : ¬ (e.sensitivity = .secret ∧ ¬ config.allow_sensitive_reads)) :
    permits config.allow_sensitive_reads e.toOperation = true :=
  permits_of_mem he hread fun hsecret => by simpa [hsecret] using hgate

theorem permits_of_read {e : EndpointSpec} {params : Option JsonObject}
    (he : e ∈ ENDPOINT_CATALOG) (h : check_read_endpoint config e params = .ok ()) :
    permits config.allow_sensitive_reads e.toOperation = true := by
  unfold check_read_endpoint at h
  split at h
  case isTrue => cases h
  case isFalse hread =>
    split at h
    case isTrue => cases h
    case isFalse hgate => exact permits_of_gate config he (not_not.mp hread) hgate

theorem read_endpoint_reads (name : String) (params : Option JsonObject) :
    Reads catalog config.allow_sensitive_reads (read_endpoint config name params) := by
  refine Asks.checked fun e hname => Asks.checked fun _ hcheck => ?_
  have hpermits := permits_of_read config (mem_of_get_endpoint hname).1 hcheck
  exact Asks.ite (fun _ => call_bootstrap_asks (fun _ => hpermits)) fun _ =>
    with_relogin_asks config _ (call_asks fun _ => hpermits)

theorem read_selection_reads (accepted refused : String) (selected : List EndpointSpec) :
    Reads catalog config.allow_sensitive_reads
      (read_selection config accepted refused selected) :=
  Asks.each fun e _ => (live_reads (read_endpoint_reads config e.name _)).bind fun _ => Asks.pure _

theorem p9_http_data_reads (controller : String) (include_sensitive : Bool) :
    Reads catalog config.allow_sensitive_reads
      (p9_http_data config profile controller include_sensitive) := by
  refine Asks.ite (fun _ => Asks.raised _) fun _ => ?_
  exact Asks.ite (fun _ => Asks.raised _) fun _ => read_selection_reads config _ _ _

theorem permits_of_binary {e : EndpointSpec} {include_content : Bool}
    (he : e ∈ ENDPOINT_CATALOG) (h : check_read_binary_endpoint config e include_content = .ok ()) :
    permits config.allow_sensitive_reads e.toOperation = true := by
  unfold check_read_binary_endpoint at h
  dsimp only at h
  split at h
  case isTrue => cases h
  case isFalse hkind =>
    split at h
    case isTrue => cases h
    case isFalse hgate =>
      have hread : e.safety = .read_only := by
        by_contra hsafety
        exact hkind (Or.inl hsafety)
      exact permits_of_gate config he hread hgate

theorem read_binary_endpoint_reads (name : String) (include_content : Bool) :
    Reads catalog config.allow_sensitive_reads
      (read_binary_endpoint config name include_content) := by
  refine Asks.checked fun e hname => Asks.checked fun _ hcheck => ?_
  have hpermits := permits_of_binary config (mem_of_get_endpoint hname).1 hcheck
  exact (with_relogin_asks config _ (call_binary_asks hpermits)).bind fun _ => Asks.pure _

theorem discover_p9_binary_reads_reads :
    Reads catalog config.allow_sensitive_reads (discover_p9_binary_reads config) := by
  refine Asks.ite (fun _ => Asks.raised _) fun _ => Asks.ite (fun _ => Asks.raised _) fun _ => ?_
  exact Asks.each fun name _ => (live_reads (read_binary_endpoint_reads config name _)).bind
    fun _ => Asks.pure _

/-! ## Probes -/

theorem probe_unchecked_reads {e : EndpointSpec} (he : permits secrets e.toOperation = true) :
    Reads catalog secrets (probe_unchecked e) := by
  refine Asks.bind (Asks.trying _ (Asks.ite (fun _ => ?_) fun _ => ?_)) fun _ => Asks.pure _
  · exact call_bootstrap_asks fun _ => he
  · exact call_asks fun _ => he

/-- The probes check each operation, so that any part of the catalogue will do. -/
theorem probe_endpoints_reads {endpoints : List EndpointSpec}
    (hcatalog : ∀ e ∈ endpoints, e ∈ ENDPOINT_CATALOG) :
    Reads catalog secrets (probe_endpoints endpoints) := by
  unfold probe_endpoints
  split
  case h_1 =>
    refine Asks.each fun e he => Asks.ite (fun _ => Asks.raised _) fun hprobe => ?_
    have hprobeable : e.safety = .read_only ∧ e.sensitivity ≠ .secret := by
      simpa [probeable] using hprobe
    exact probe_unchecked_reads (permits_of_mem (hcatalog e he) hprobeable.1 fun hsecret =>
      absurd hsecret hprobeable.2)
  case h_2 => exact Asks.raised _

theorem discover_reads {endpoints : List EndpointSpec}
    (hcatalog : ∀ e ∈ endpoints, e ∈ ENDPOINT_CATALOG) :
    Reads catalog secrets (discover config endpoints) :=
  (get_client_asks config).bind fun _ => probe_endpoints_reads hcatalog

theorem discover_sensitive_schemas_reads {endpoints : List EndpointSpec}
    (hcatalog : ∀ e ∈ endpoints, e ∈ ENDPOINT_CATALOG) :
    Reads catalog config.allow_sensitive_reads
      (discover_sensitive_schemas config endpoints) := by
  refine Asks.ite (fun _ => Asks.raised _) fun hgate => ?_
  refine (get_client_asks config).bind fun _ => Asks.each fun e he => ?_
  refine Asks.ite (fun _ => Asks.raised _) fun hread => Asks.ite (fun _ => Asks.raised _) fun _ => ?_
  have hpermits := permits_of_mem (hcatalog e he) (not_not.mp hread) fun _ => not_not.mp hgate
  exact (probe_unchecked_reads hpermits).bind fun _ => Asks.pure _

theorem build_compatibility_manifest_reads (full : Bool) :
    Reads catalog secrets (build_compatibility_manifest views config full) := by
  refine (get_client_asks config).bind fun _ => (get_device_list_reads views).bind fun _ => ?_
  refine (get_device_mode_reads views).bind fun _ => Asks.bind ?_ fun _ => Asks.pure _
  refine probe_endpoints_reads fun e he => ?_
  split at he
  case isTrue => exact List.mem_of_mem_filter he
  case isFalse => exact List.mem_of_mem_filter he

/-! ## Overviews -/

/-- Behind its gate a method may ask for anything that the catalogue has as a read. -/
theorem sensitive_reads (label : String) {m : SurfaceM α} (hm : Reads catalog true m) :
    Reads catalog config.allow_sensitive_reads (sensitive config label m) := by
  unfold sensitive
  refine Asks.ite (fun _ => Asks.raised _) fun hgate => ?_
  rw [not_not.mp hgate]
  exact hm

theorem clients_by_node_reads : Reads catalog secrets (clients_by_node views) :=
  (get_device_list_reads views).bind fun _ => Asks.each fun device _ =>
    (get_client_list_reads views device.mac).bind fun _ => Asks.pure _

theorem get_clients_by_node_reads :
    Reads catalog config.allow_sensitive_reads (get_clients_by_node views config) :=
  sensitive_reads config _ (with_relogin_asks config _ (clients_by_node_reads views))

theorem mesh_overview_reads :
    Reads catalog config.allow_sensitive_reads (mesh_overview views config) := by
  refine sensitive_reads config _ ((get_client_asks config).bind fun _ => ?_)
  exact (get_device_list_reads views).bind fun _ => (update_asks _).bind fun _ =>
    (clients_by_node_reads views).bind fun _ => Asks.pure _

theorem get_internet_status_reads : Reads catalog secrets (get_internet_status views) :=
  get_model_asks (permits_read (by decide))

theorem network_overview_reads :
    Reads catalog config.allow_sensitive_reads (network_overview views config) := by
  refine sensitive_reads config _ ((get_client_asks config).bind fun _ => ?_)
  refine (get_device_mode_reads views).bind fun _ => ?_
  refine (get_internet_status_reads views).bind fun _ => ?_
  refine Asks.bind (get_model_asks (permits_secret (by decide))) fun _ => ?_
  refine (get_performance_reads views).bind fun _ => (get_time_settings_reads views).bind fun _ => ?_
  refine (get_address_reservations_reads views).bind fun _ => ?_
  exact network_features_reads.bind fun _ => Asks.pure _

theorem client_overview_reads :
    Reads catalog config.allow_sensitive_reads (client_overview views config) := by
  refine sensitive_reads config _ ((get_client_asks config).bind fun _ => ?_)
  refine (get_client_list_reads views _).bind fun _ => ?_
  refine Asks.bind (get_result_asks (permits_read (by decide))) fun _ => ?_
  refine (call_read _ _ _ (by decide)).bind fun _ => ?_
  exact (get_address_reservations_reads views).bind fun _ => Asks.pure _

theorem get_log_types_reads : Reads catalog secrets (get_log_types views) :=
  (request_envelope_asks (permits_read (by decide))).bind fun _ =>
    (Asks.lift _).bind fun _ => Asks.pure _

theorem system_overview_reads :
    Reads catalog config.allow_sensitive_reads (system_overview views config) := by
  refine sensitive_reads config _ ((get_client_asks config).bind fun _ => ?_)
  refine Asks.bind (get_model_asks (permits_read (by decide))) fun _ => ?_
  refine (call_read _ _ _ (by decide)).bind fun _ => nickname_reads.bind fun _ => ?_
  exact (get_log_types_reads views).bind fun _ => Asks.pure _

theorem logs_resource_reads : Reads catalog secrets (logs_resource views config) :=
  try_sections_reads _ ((get_client_asks config).bind fun _ =>
    http_section_reads _ (get_log_types_reads views))

theorem system_log_page_resource_reads (index limit : Int) :
    Reads catalog config.allow_sensitive_reads
      (system_log_page_resource views config index limit) := by
  refine sensitive_reads config _ (Asks.ite (fun _ => Asks.raised _) fun _ => ?_)
  refine (Asks.lift _).bind fun _ => (get_client_asks config).bind fun _ => ?_
  exact (Asks.lift _).bind fun _ => get_model_asks (permits_secret (by decide))

theorem probe_hosts_reads (hosts : List String) : Reads catalog secrets (probe_hosts hosts) :=
  Asks.each fun _ _ => (Asks.question trivial).bind fun reply =>
    (Asks.lift reply).bind fun _ => Asks.pure _

theorem probe_p9_transport_services_reads (include_nodes : Bool) (timeout : Rat) :
    Reads catalog secrets (probe_p9_transport_services views config include_nodes timeout) := by
  refine Asks.ite (fun _ => Asks.raised _) fun _ => Asks.ite (fun _ => ?_) fun _ =>
    probe_hosts_reads _
  refine Asks.bind ?_ fun addresses => probe_hosts_reads _
  refine (get_client_asks config).bind fun _ => ?_
  exact (request_asks (permits_read (by decide))).bind fun _ =>
    (Asks.lift _).bind fun _ => Asks.pure _

theorem tmp_host_key_reads : Reads catalog secrets (tmp_host_key config) :=
  (Asks.lift _).bind fun _ => (Asks.question trivial).bind fun reply =>
    (Asks.lift reply).bind fun _ => Asks.pure _

/-! ## Semantic reads -/

theorem semantic_capability_resource_reads (name dataset : String) :
    Reads catalog config.allow_sensitive_reads
      (semantic_capability_resource views config catalog name dataset) :=
  (read_capability_reads config views name _).bind fun _ => Asks.lift _

theorem qos_resource_reads :
    Reads catalog config.allow_sensitive_reads (qos_resource views config catalog) :=
  (read_capability_reads config views _ _).bind fun _ =>
    (read_capability_reads config views _ _).bind fun _ => Asks.lift _

theorem owner_resource_reads (name dataset owner_id : String) (shown : JsonObject → Json) :
    Reads catalog secrets (owner_resource views config catalog name dataset owner_id shown) := by
  refine (Asks.lift _).bind fun _ => Asks.bind ((Asks.lift _).bind fun _ => ?_) fun resource => ?_
  · refine (device_inventory_reads config views _).bind fun inventory => ?_
    refine Asks.ite (fun _ => Asks.raised _) fun _ => ?_
    refine (read_tmp_capability_reads config views _ _ _).bind fun reading => ?_
    split
    · exact Asks.pure _
    · exact Asks.raised _
  · exact Asks.ite (fun _ => Asks.raised _) fun _ => Asks.pure _

theorem client_devices_resource_reads (view : String) :
    Reads catalog config.allow_sensitive_reads
      (client_devices_resource views config catalog view) :=
  Asks.ite (fun _ => Asks.raised _) fun _ => read_capability_reads config views _ _

theorem read_or_reads (name : String) (default : α) {m : SurfaceM α}
    (hm : Reads catalog secrets m) : Reads catalog secrets (read_or name default m) := by
  refine (live_reads hm).bind fun outcome => ?_
  cases outcome with
  | ok a => exact Asks.pure _
  | error e => exact Asks.pure _

theorem rows_or_reads (name key : String) {read : SurfaceM Reading}
    (hread : Reads catalog secrets read) : Reads catalog secrets (rows_or name key read) :=
  read_or_reads _ _ (hread.bind fun _ => Asks.pure _)

theorem client_sources_reads (source_interface : String) :
    Reads catalog config.allow_sensitive_reads
      (client_sources views config catalog source_interface) := by
  unfold client_sources
  split
  · refine (read_or_reads _ _ (get_clients_by_node_reads config views)).bind fun _ => ?_
    refine (rows_or_reads _ _ (read_http_capability_reads config views _ fun h =>
      absurd h (by decide))).bind
      fun _ => ?_
    refine (rows_or_reads _ _ (read_http_capability_reads config views _ fun h =>
      absurd h (by decide))).bind
      fun _ => ?_
    refine Asks.bind (read_or_reads _ _ ?_) fun _ => Asks.pure _
    exact (get_client_asks config).bind fun _ =>
      (get_address_reservations_reads views).bind fun _ => Asks.pure _
  · refine (rows_or_reads _ _ (read_tmp_capability_reads config views _ _ _)).bind fun _ => ?_
    refine (rows_or_reads _ _ (read_tmp_capability_reads config views _ _ _)).bind fun _ => ?_
    exact (rows_or_reads _ _ (read_tmp_capability_reads config views _ _ _)).bind
      fun _ => Asks.pure _
  · exact Asks.raised _

theorem client_device_resource_reads (mac : String) :
    Reads catalog config.allow_sensitive_reads
      (client_device_resource views config catalog mac) := by
  refine Asks.ite (fun _ => Asks.raised _) fun _ => ?_
  refine (read_capability_reads config views _ _).bind fun clients => ?_
  refine (client_sources_reads config views _).bind fun sources => ?_
  exact Asks.ite (fun _ => Asks.raised _) fun _ => Asks.pure _

theorem traffic_resource_reads :
    Reads catalog config.allow_sensitive_reads (traffic_resource views config catalog) :=
  sensitive_reads config _ (read_or_reads _ _
    ((reads_all (semantic_capability_resource_reads config views _ _)).bind fun _ => Asks.pure _))

theorem wlan_state_reads (include_passwords : Bool) :
    Reads catalog config.allow_sensitive_reads
      (wlan_state views config catalog include_passwords) := by
  refine sensitive_reads config _ ?_
  refine (reads_all (read_capability_reads config views _ _)).bind fun capability => ?_
  refine (Asks.lift _).bind fun _ => (device_inventory_reads config views _).bind fun _ => ?_
  refine (Asks.lift _).bind fun context => Asks.bind (Asks.each fun _ _ => ?_) fun _ => Asks.pure _
  exact try_sections_reads _ (reads_all (capability_section_reads config views _ _ _))

theorem cloud_state_reads :
    Reads catalog config.allow_sensitive_reads (cloud_state views config catalog) := by
  refine sensitive_reads config _ ?_
  refine (reads_all (semantic_capability_resource_reads config views _ _)).bind fun ddns => ?_
  refine Asks.bind (Asks.ite (fun _ => ?_) fun _ => Asks.pure _) fun _ => Asks.pure _
  exact read_or_reads _ _ ((reads_all (read_endpoint_reads config _ _)).bind fun _ => Asks.pure _)

/-! ## Reads over TMP -/

theorem tmp_read_binary_reads (opcode : Nat) (params : Json) (include_content : Bool) :
    Reads catalog secrets (tmp_read_binary config catalog opcode params include_content) :=
  (Asks.lift _).bind fun _ => (get_tmp_client_asks config).bind fun _ =>
    (request_read_reads opcode params).bind fun _ => Asks.pure _

theorem ask_read_reads (read : TmpRead) : Reads catalog secrets (ask_read catalog read) :=
  live_reads (request_read_json_reads _ _)

theorem ask_raw_reads (read : TmpRead) : Reads catalog secrets (ask_raw catalog read) := by
  refine (live_reads (request_read_reads _ _)).bind fun outcome => ?_
  cases outcome with
  | error e => exact Asks.pure _
  | ok response => exact (Asks.lift _).bind fun _ => Asks.pure _

theorem p9_tmp_data_reads (category : String) (include_parameterized : Bool) :
    Reads catalog secrets (p9_tmp_data config catalog category include_parameterized) :=
  (Asks.lift _).bind fun _ => (get_tmp_client_asks config).bind fun _ =>
    Asks.ofScript ask_read_reads _

theorem discover_tmp_unverified_reads_reads (include_sensitive : Bool)
    (max_operations : Option Int) :
    Reads catalog secrets
      (discover_tmp_unverified_reads config catalog include_sensitive max_operations) :=
  (Asks.lift _).bind fun _ => (get_tmp_client_asks config).bind fun _ =>
    (Asks.lift _).bind fun _ => Asks.ofScript ask_raw_reads _

theorem discover_tmp_read_contracts_reads (included : Bool) (now : Int) :
    Reads catalog secrets (discover_tmp_read_contracts config catalog included now) := by
  refine (Asks.lift _).bind fun _ => (get_tmp_client_asks config).bind fun _ => ?_
  refine Asks.bind ?_ fun owner_ids => Asks.ite (fun _ => Asks.raised _) fun _ => ?_
  · exact (request_read_json_reads _ _).bind fun _ => (request_read_json_reads _ _).bind fun _ =>
      (request_read_json_reads _ _).bind fun _ => Asks.pure _
  · exact (Asks.ofScript ask_read_reads _).bind fun _ => Asks.pure _

/-! ## Plans and their checks -/

theorem preflight_semantic_mutation_reads (name : String) (changes : JsonObject)
    (mode : String) :
    Reads catalog secrets
      (preflight_semantic_mutation views config catalog name changes mode) :=
  (Asks.lift _).bind fun _ => (device_inventory_reads config views _).bind fun _ => Asks.lift _

theorem cached_identity_reads : Reads catalog secrets cached_identity :=
  desk_asks.bind fun _ => Asks.lift _

theorem plan_semantic_mutation_reads (name : String) (changes : JsonObject) (mode : String)
    (now : Rat) (token : String) :
    Reads catalog secrets
      (plan_semantic_mutation views config catalog name changes mode now token) := by
  refine (preflight_semantic_mutation_reads config views _ _ _).bind fun allowed => ?_
  split
  · exact (cached_identity_reads.bind fun _ => update_asks _).bind fun _ => Asks.pure _
  · exact Asks.pure _

theorem semantic_mutation_plan_reads (plan_id : String) (now : Rat) :
    Reads catalog secrets (semantic_mutation_plan plan_id now) := by
  refine desk_asks.bind fun d => ?_
  split
  · exact Asks.raised _
  · exact Asks.ite (fun _ => (update_asks _).bind fun _ => Asks.raised _) fun _ => Asks.pure _

theorem claim_plan_reads (plan_id confirmation : String) (now : Rat) :
    Reads catalog secrets (claim_plan views config catalog plan_id confirmation now) := by
  refine desk_asks.bind fun d => ?_
  split
  · exact Asks.raised _
  · refine Asks.ite (fun _ => (update_asks _).bind fun _ => Asks.raised _) fun _ => ?_
    refine Asks.ite (fun _ => Asks.raised _) fun _ => ?_
    refine (device_inventory_reads config views _).bind fun _ => ?_
    refine cached_identity_reads.bind fun _ => (update_asks _).bind fun _ => ?_
    exact Asks.ite (fun _ => Asks.raised _) fun _ => Asks.pure _

theorem preflight_read_reads (e : EndpointSpec) (plan : MutationPlan) :
    Reads catalog config.allow_sensitive_reads (preflight_read views config e plan) := by
  refine Asks.ite (fun _ => ?_) fun _ => ?_
  · exact (read_endpoint_reads config plan.preflight_read _).bind fun _ => Asks.pure _
  · exact (with_relogin_asks config _ (get_address_reservations_reads views)).bind
      fun _ => Asks.pure _

theorem preflight_mutation_reads (float_repr : Option Rat → String) (name : String)
    (params : Option JsonObject) (model : String) :
    Reads catalog config.allow_sensitive_reads
      (preflight_mutation views config float_repr name params model) := by
  refine (Asks.lift _).bind fun e => Asks.ite (fun _ => Asks.raised _) fun _ => ?_
  refine (Asks.lift _).bind fun _ => (Asks.lift _).bind fun _ => ?_
  generalize build_mutation_plan float_repr e params = plan
  refine Asks.ite (fun _ => Asks.pure _) fun _ => (Asks.lift _).bind fun _ => ?_
  exact preflight_read_reads config views e plan

theorem close_reads : Reads catalog secrets close := by
  refine desk_asks.bind fun d => (update_asks _).bind fun _ => Asks.bind ?_ fun outcome => ?_
  · refine Asks.trying _ (Asks.ite (fun _ => ?_) fun _ => Asks.pure _)
    exact (Asks.question trivial).bind fun error => raise_some_asks error
  · exact (Asks.question trivial).bind fun error => (raise_some_asks error).bind fun _ =>
      Asks.lift _

/-! ## Every method -/

/-- The methods that only read, all of it behind a gate. -/
def PublicCall.OnlyReads : PublicCall → Prop
  | configuration_resource => False
  | execute_semantic_mutation _ _ _ => False
  | verify_setting_noop _ _ => False
  | verify_p9_http_noop _ _ => False
  | invoke_mutation _ _ _ _ _ => False
  | _ => True

theorem method_reads (setup : Setup) {call : PublicCall} (hcall : call.OnlyReads) :
    Reads setup.catalog setup.config.allow_sensitive_reads (call.program setup) := by
  cases call with
  | offline view =>
    exact desk_asks.bind fun _ => (Asks.question trivial).bind fun _ => Asks.lift _
  | close => exact close_reads
  | device_inventory refresh => exact device_inventory_reads _ _ _
  | read_capability name include_passwords => exact read_capability_reads _ _ _ _
  | address_reservations_resource => exact read_capability_reads _ _ _ _
  | qos_resource => exact qos_resource_reads _ _
  | parental_control_profile_resource owner_id => exact owner_resource_reads _ _ _ _ _ _
  | parental_control_insights_resource owner_id => exact owner_resource_reads _ _ _ _ _ _
  | parental_control_history_resource owner_id => exact owner_resource_reads _ _ _ _ _ _
  | client_devices_resource view => exact client_devices_resource_reads _ _ _
  | client_device_resource mac => exact client_device_resource_reads _ _ _
  | traffic_resource => exact traffic_resource_reads _ _
  | logs_resource => exact logs_resource_reads _ _
  | system_log_page_resource index limit => exact system_log_page_resource_reads _ _ _ _
  | network_status_resource => exact network_status_resource_reads _ _
  | configuration_resource => exact hcall.elim
  | network_overview => exact network_overview_reads _ _
  | mesh_overview => exact mesh_overview_reads _ _
  | client_overview => exact client_overview_reads _ _
  | system_overview => exact system_overview_reads _ _
  | wlan_state include_passwords => exact wlan_state_reads _ _ _
  | cloud_state => exact cloud_state_reads _ _
  | get_clients_by_node => exact get_clients_by_node_reads _ _
  | probe_p9_transport_services include_nodes timeout =>
    exact probe_p9_transport_services_reads _ _ _ _
  | tmp_host_key => exact tmp_host_key_reads _
  | tmp_read opcode params => exact tmp_read_reads _ _ _
  | tmp_read_binary opcode params include_content => exact tmp_read_binary_reads _ _ _ _
  | p9_tmp_data category include_parameterized => exact p9_tmp_data_reads _ _ _
  | discover_tmp_read_contracts included now => exact discover_tmp_read_contracts_reads _ _ _
  | discover_tmp_unverified_reads include_sensitive max_operations =>
    exact discover_tmp_unverified_reads_reads _ _ _
  | read_endpoint name params => exact read_endpoint_reads _ _ _
  | p9_http_data controller include_sensitive => exact p9_http_data_reads _ _ _ _
  | discover_p9_untested_http_reads => exact read_selection_reads _ _ _ _
  | read_binary_endpoint name include_content => exact read_binary_endpoint_reads _ _ _
  | discover_p9_binary_reads => exact discover_p9_binary_reads_reads _
  | discover_capabilities => exact discover_reads _ fun _ he => List.mem_of_mem_filter he
  | discover_p9_reads => exact discover_reads _ fun _ he => List.mem_of_mem_filter he
  | discover_all_reads => exact discover_reads _ fun _ he => List.mem_of_mem_filter he
  | discover_p9_sensitive_schemas =>
    exact discover_sensitive_schemas_reads _ fun _ he =>
      List.mem_of_mem_filter (List.mem_of_mem_filter he)
  | discover_all_sensitive_schemas =>
    exact discover_sensitive_schemas_reads _ fun _ he => List.mem_of_mem_filter he
  | build_compatibility_manifest full => exact build_compatibility_manifest_reads _ _ _
  | capabilities => exact device_inventory_reads _ _ _
  | semantic_mutations => exact device_inventory_reads _ _ _
  | semantic_mutation name =>
    exact Asks.ite (fun _ => Asks.raised _) fun _ => device_inventory_reads _ _ _
  | preflight_semantic_mutation name changes mode =>
    exact preflight_semantic_mutation_reads _ _ _ _ _
  | plan_semantic_mutation name changes mode now token =>
    exact plan_semantic_mutation_reads _ _ _ _ _ _ _
  | semantic_mutation_plan plan_id now => exact semantic_mutation_plan_reads _ _
  | execute_semantic_mutation plan_id confirmation now => exact hcall.elim
  | verify_setting_noop name confirmation => exact hcall.elim
  | verify_p9_http_noop operation confirmation => exact hcall.elim
  | preflight_mutation name params model => exact preflight_mutation_reads _ _ _ _ _ _
  | invoke_mutation name params confirmation plan_confirmation model => exact hcall.elim
  -- the resources of one capability
  | _ => exact semantic_capability_resource_reads _ _ _ _

end tplink_deco_api.surface
