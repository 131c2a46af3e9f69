-- What the methods of the service may ask at all: over HTTP the reads of the
-- catalogue, the secret ones only where they are allowed, and over TMP its reads.
import TplinkDeco.Surface.ClientQuestions
import TplinkDeco.Surface.Methods

open dialogue json

namespace tplink_deco_api.surface

open endpoint_catalog exceptions http_noop_verification service tmp_batches tmp_client Dialogue

/-! ## The requests that are permitted -/

/-- The catalogue has the operation as a read, and not as a secret one unless `secrets`. -/
def permits (secrets : Bool) (o : Operation) : Bool :=
  (classified o).any fun e => e.safety = .read_only && (secrets || e.sensitivity ≠ .secret)

/-- A question that only reads: what it sends is catalogued as a read, and reads secrets only if
`secrets` allows it. -/
def Question.Permitted (catalog : TmpOpcodeCatalog) (secrets : Bool) : Question → Prop
  | .send (.http o _) => permits secrets o = true
  | .send (.bootstrap o _) => permits secrets o = true
  | .send (.binary o) => permits secrets o = true
  | .send (.http_noop _) => False
  | .send (.tmp opcode _) =>
    ∃ o, get_tmp_opcode catalog opcode = some o ∧ o.safety = "read_only"
  | _ => True

/-- A program that asks for nothing but reads. -/
abbrev Reads (catalog : TmpOpcodeCatalog) (secrets : Bool) {α : Type} (m : SurfaceM α) : Prop :=
  m.Asks (Question.Permitted catalog secrets)

variable {catalog : TmpOpcodeCatalog} {secrets : Bool} {α : Type}

theorem permits_public {o : Operation} (h : permits false o = true) :
    permits secrets o = true := by
  cases secrets with
  | false => exact h
  | true =>
    unfold permits at h ⊢
    obtain ⟨e, he, hread⟩ := Option.any_eq_true .. |>.mp h
    refine Option.any_eq_true .. |>.mpr ⟨e, he, ?_⟩
    simp only [Bool.and_eq_true] at hread
    simp [hread.1]

theorem permits_of_mem {e : EndpointSpec} (he : e ∈ ENDPOINT_CATALOG)
    (hread : e.safety = .read_only) (hsecret : e.sensitivity = .secret → secrets = true) :
    permits secrets e.toOperation = true := by
  unfold permits
  rw [classified_of_mem he]
  by_cases hs : e.sensitivity = .secret
  · simp [hread, hsecret hs]
  · simp [hread, hs]

theorem Question.Permitted.all {q : Question} (h : q.Permitted catalog secrets) :
    q.Permitted catalog true := by
  have hall : ∀ o, permits secrets o = true → permits true o = true := by
    intro o ho
    cases secrets with
    | false => exact permits_public ho
    | true => exact ho
  cases q with
  | desk => trivial
  | update f => trivial
  | send request =>
    cases request with
    | http o params => exact hall o h
    | bootstrap o params => exact hall o h
    | binary o => exact hall o h
    | http_noop o => exact h
    | tmp opcode params => exact h
    | _ => trivial

theorem reads_all {m : SurfaceM α} (hm : Reads catalog secrets m) : Reads catalog true m :=
  hm.mono fun _ h => h.all

/-! ## The operations of the readers -/

/-- The operations that the readers request behind no gate. -/
def public_reads : List Operation := [
  ⟨"admin/client", "addr_reservation", "getlist"⟩, ⟨"admin/client", "black_list", "list"⟩,
  ⟨"admin/client", "client_list", "read"⟩, ⟨"admin/client", "traffic_stat", "list"⟩,
  ⟨"admin/cloud", "firmware_status", "check"⟩, ⟨"admin/cloud", "firmware_status", "read"⟩,
  ⟨"admin/cloud", "nickname", "read"⟩, ⟨"admin/device", "device_list", "read"⟩,
  ⟨"admin/device", "mode", "read"⟩, ⟨"admin/device", "speedtest", "read"⟩,
  ⟨"admin/device", "timesetting", "read"⟩, ⟨"admin/dhcp", "dhcp_info", "read"⟩,
  ⟨"admin/log_export", "types", "read"⟩, ⟨"admin/network", "internet", "read"⟩,
  ⟨"admin/network", "lan_ip", "read"⟩, ⟨"admin/network", "lan_ipv4", "read"⟩,
  ⟨"admin/network", "mac_clone", "read"⟩, ⟨"admin/network", "performance", "read"⟩,
  ⟨"admin/network", "vlan", "read"⟩, ⟨"admin/network", "wan_mode", "read"⟩,
  ⟨"admin/wireless", "beamforming", "read"⟩, ⟨"admin/wireless", "bridge", "read"⟩,
  ⟨"admin/wireless", "ieee80211r", "read"⟩, ⟨"admin/wireless", "operation_mode", "read"⟩]

/-- The operations that they request where secrets are allowed. -/
def secret_reads : List Operation := [
  ⟨"admin/cloud", "ddns", "get"⟩, ⟨"admin/log_export", "feedback_log", "read"⟩,
  ⟨"admin/network", "wan_ipv4", "read"⟩, ⟨"admin/wireless", "wlan", "read"⟩]

theorem permits_reads : (∀ o ∈ public_reads, permits false o = true) ∧
    ∀ o ∈ secret_reads, permits true o = true := by
  decide +kernel

theorem permits_read {o : Operation} (h : o ∈ public_reads) : permits secrets o = true :=
  permits_public (permits_reads.1 o h)

theorem permits_secret {o : Operation} (h : o ∈ secret_reads) : permits true o = true :=
  permits_reads.2 o h

/-! ## The clients -/

instance : Connects (Question.Permitted catalog secrets) where
  desk := trivial
  update _ := trivial
  login := trivial
  tmp_connected := trivial
  tmp_open := trivial
  tmp_close := trivial

variable (config : ServerConfig)

theorem request_read_reads (opcode : Nat) (params : Json) :
    Reads catalog secrets (request_read catalog opcode params) :=
  request_read_asks fun o ho hsafety => ⟨o, ho, hsafety⟩

theorem request_read_json_reads (opcode : Nat) (params : Json) :
    Reads catalog secrets (request_read_json catalog opcode params) :=
  request_read_json_asks fun o ho hsafety => ⟨o, ho, hsafety⟩

theorem tmp_read_reads (opcode : Nat) (params : Json) :
    Reads catalog secrets (tmp_read config catalog opcode params) :=
  tmp_read_asks config fun o ho hsafety => ⟨o, ho, hsafety⟩

/-! ## The device inventory -/

variable (views : Views)

theorem get_device_list_reads : Reads catalog secrets (get_device_list views) :=
  get_device_list_asks views (permits_read (by decide))

theorem device_inventory_reads (refresh : Bool) :
    Reads catalog secrets (device_inventory views config catalog refresh) :=
  device_inventory_asks config views (permits_read (by decide))
    (fun o ho hsafety => ⟨o, ho, hsafety⟩) refresh

/-! ## The readers -/

theorem get_client_list_reads (deco_mac : String) :
    Reads catalog secrets (get_client_list views deco_mac) :=
  (request_asks (permits_read (by decide))).bind fun _ =>
    (Asks.lift _).bind fun _ => Asks.pure _

theorem http_mesh_nodes_reads : Reads catalog secrets (http_mesh_nodes views) := by
  refine desk_asks.bind fun d => ?_
  split
  · exact Asks.pure _
  · exact (get_device_list_reads views).bind fun _ => (update_asks _).bind fun _ => Asks.pure _

/-- The capabilities whose operation the catalogue has as secret. -/
def secret_over_http (name : String) : Bool := name ∈ ["ddns", "wlan_state", "ipv4_configuration"]

theorem http_capability_reads {name : String} (hsecret : secret_over_http name → secrets = true) :
    Reads catalog secrets (http_capability views name) := by
  have hopen : ∀ s, name = s → secret_over_http s = true → secrets = true := by
    rintro s rfl hs
    exact hsecret hs
  unfold http_capability
  refine Asks.ite (fun _ => get_client_list_reads views _) fun _ => ?_
  refine Asks.ite (fun _ => get_model_asks (permits_read (by decide))) fun _ => ?_
  refine Asks.ite (fun _ => get_model_asks (permits_read (by decide))) fun _ => ?_
  refine Asks.ite (fun _ => get_result_asks (permits_read (by decide))) fun _ => ?_
  refine Asks.ite (fun _ => get_result_asks (permits_read (by decide))) fun _ => ?_
  refine Asks.ite (fun _ => get_result_asks (permits_read (by decide))) fun _ => ?_
  refine Asks.ite (fun _ => get_result_asks (permits_read (by decide))) fun _ => ?_
  refine Asks.ite (fun _ => get_result_asks (permits_read (by decide))) fun _ => ?_
  refine Asks.ite (fun _ => call_object_asks (fun _ => permits_read (by decide))) fun _ => ?_
  refine Asks.ite (fun _ => get_model_asks (permits_read (by decide))) fun _ => ?_
  refine Asks.ite (fun _ => call_object_asks (fun _ => permits_read (by decide))) fun _ => ?_
  refine Asks.ite (fun h => ?_) fun _ => ?_
  · cases hopen _ h (by decide)
    exact call_object_asks (fun _ => permits_secret (by decide))
  refine Asks.ite (fun h => ?_) fun _ => ?_
  · cases hopen _ h (by decide)
    exact get_model_asks (permits_secret (by decide))
  refine Asks.ite (fun h => ?_) fun _ => Asks.raised _
  cases hopen _ h (by decide)
  exact get_model_asks (permits_secret (by decide))

theorem read_http_capability_reads {name : String} (include_passwords : Bool)
    (hsecret : secret_over_http name → secrets = true) :
    Reads catalog secrets (read_http_capability views config name include_passwords) := by
  refine (get_client_asks config).bind fun _ => ?_
  refine Asks.ite (fun _ => ?_) fun _ => ?_
  · exact (http_mesh_nodes_reads views).bind fun _ => desk_asks.bind fun _ => Asks.pure _
  · exact (http_capability_reads views hsecret).bind fun _ =>
      (Asks.lift _).bind fun _ => Asks.pure _

theorem read_tmp_capability_reads (name : String) (include_passwords : Bool) (params : Json) :
    Reads catalog secrets
      (read_tmp_capability views config catalog name include_passwords params) := by
  unfold read_tmp_capability
  split
  · exact Asks.raised _
  · exact (tmp_read_reads config _ _).bind fun _ => (Asks.lift _).bind fun _ => Asks.pure _

/-! ## `read_capability` -/

/-- The HTTP reader is asked for this name alone, and only where its route is open. -/
def ReadsOnly (name : String) : ReadStep → Prop
  | .read_http_capability n _ => n = name ∧
      (secret_over_http name → config.allow_sensitive_reads = true)
  | _ => True

theorem secret_route {name : String} {route : CapabilityRoute}
    (hroute : get_capability_route name = some route) (hsecret : secret_over_http name = true) :
    route.sensitivity = .secret := by
  have hnames : name = "ddns" ∨ name = "wlan_state" ∨ name = "ipv4_configuration" := by
    simpa [secret_over_http] using hsecret
  have hroutes : ∀ n ∈ ["ddns", "wlan_state", "ipv4_configuration"],
      ((get_capability_route n).all fun route => route.sensitivity = .secret) = true := by decide
  have hname := hroutes name (by simpa using hnames)
  rw [hroute] at hname
  simpa using hname

theorem gate_of_check {route : CapabilityRoute} (h : check_route config route = .ok ())
    (hsecret : route.sensitivity = .secret) : config.allow_sensitive_reads = true := by
  unfold check_route at h
  split at h
  case isTrue => cases h
  case isFalse hgate => simpa [hsecret] using hgate

theorem service_read_capability_asks (name : String) (include_passwords : Bool) :
    (service.read_capability config name include_passwords).Asks (ReadsOnly config name) := by
  unfold service.read_capability
  refine Asks.ite (fun _ => Asks.raised _) fun _ => ?_
  cases hroute : get_capability_route name with
  | none => exact Asks.raised _
  | some route =>
    have hname : route.name = name := by simpa using List.find?_some hroute
    subst hname
    refine Asks.checked fun _ hcheck => ?_
    refine Asks.bind ((Asks.question trivial).bind fun answer => Asks.lift answer)
      fun inventory => ?_
    refine Asks.ite (fun _ => Asks.pure _) fun _ => ?_
    have hopen : secret_over_http route.name → config.allow_sensitive_reads = true := fun hsecret =>
      gate_of_check config hcheck (secret_route hroute hsecret)
    exact read_route_asks config trivial ⟨rfl, hopen⟩ trivial inventory

theorem read_step_reads {name : String} {step : ReadStep} (h : ReadsOnly config name step) :
    Reads catalog config.allow_sensitive_reads (read_step views config catalog step) := by
  cases step with
  | device_inventory => exact (device_inventory_reads config views _).trying _
  | device_cache => exact desk_asks.bind fun _ => Asks.pure _
  | read_http_capability n include_passwords =>
    obtain ⟨rfl, hopen⟩ := h
    exact (read_http_capability_reads config views _ hopen).trying _
  | read_tmp_capability n include_passwords =>
    exact (read_tmp_capability_reads config views _ _ _).trying _

theorem read_capability_reads (name : String) (include_passwords : Bool) :
    Reads catalog config.allow_sensitive_reads
      (read_capability views config catalog name include_passwords) :=
  (service_read_capability_asks config name include_passwords).interpret fun _ =>
    read_step_reads config views

/-! ## Sections -/

theorem live_reads {m : SurfaceM α} (hm : Reads catalog secrets m) :
    Reads catalog secrets (live m) := hm.trying _

theorem try_sections_reads (name : String) {read : SurfaceM (List ResourceSection)}
    (hread : Reads catalog secrets read) : Reads catalog secrets (try_sections name read) := by
  refine (live_reads hread).bind fun outcome => ?_
  cases outcome with
  | ok available => exact Asks.pure _
  | error e => exact Asks.pure _

theorem http_section_reads (name : String) {read : SurfaceM Json}
    (hread : Reads catalog secrets read) : Reads catalog secrets (http_section name read) :=
  hread.bind fun _ => Asks.pure _

theorem read_resource_capability_reads (name : String) (context : ResourceReadContext) :
    Reads catalog config.allow_sensitive_reads
      (read_resource_capability views config catalog name context) := by
  unfold read_resource_capability
  cases hroute : get_capability_route name with
  | none => exact Asks.raised _
  | some route =>
    refine Asks.ite (fun _ => Asks.raised _) fun hgate => ?_
    refine Asks.ite (fun _ => ?_) fun _ => Asks.bind ?_ fun available => ?_
    · refine read_http_capability_reads config views _ fun hsecret => ?_
      simpa [secret_route hroute hsecret] using hgate
    · exact (fallback_available_asks config (Q := ReadsOnly config name) trivial _).interpret fun _ =>
        read_step_reads config views
    · exact Asks.ite (fun _ => Asks.raised _) fun _ =>
        read_tmp_capability_reads config views _ _ _

theorem capability_section_reads (name capability : String) (context : ResourceReadContext) :
    Reads catalog config.allow_sensitive_reads
      (capability_section views config catalog name capability context) :=
  (read_resource_capability_reads config views capability context).bind fun _ => Asks.pure _

theorem read_internet_reads (inventory : Inventory) (context : ResourceReadContext) :
    Reads catalog config.allow_sensitive_reads
      (read_internet views config catalog inventory context) := by
  refine (live_reads (read_capability_reads config views _ _)).bind fun outcome => ?_
  cases outcome with
  | error e => exact Asks.pure _
  | ok capability =>
    dsimp only
    split <;> exact Asks.pure _

theorem call_read (path form operation : String)
    (ho : ⟨path, form, operation⟩ ∈ public_reads) :
    Reads catalog secrets (call_result ⟨path, form, operation⟩) :=
  call_result_asks (fun _ => permits_read ho)

theorem network_features_reads : Reads catalog secrets network_features := by
  refine (call_read _ _ _ (by decide)).bind fun _ => ?_
  refine (get_result_asks (permits_read (by decide))).bind fun _ => ?_
  refine (get_result_asks (permits_read (by decide))).bind fun _ => ?_
  refine (call_read _ _ _ (by decide)).bind fun _ => ?_
  exact (call_read _ _ _ (by decide)).bind fun _ => Asks.pure _

theorem get_device_mode_reads : Reads catalog secrets (get_device_mode views) :=
  get_model_asks (permits_read (by decide))

theorem get_time_settings_reads : Reads catalog secrets (get_time_settings views) :=
  get_model_asks (permits_read (by decide))

theorem get_performance_reads : Reads catalog secrets (get_performance views) :=
  get_model_asks (permits_read (by decide))

theorem get_address_reservations_reads :
    Reads catalog secrets (get_address_reservations views) :=
  get_model_asks (permits_read (by decide))

theorem nickname_reads :
    Reads catalog secrets (call_result ⟨"admin/cloud", "nickname", "read"⟩) :=
  call_read _ _ _ (by decide)

theorem cached_devices_reads : Reads catalog secrets cached_devices :=
  desk_asks.bind fun _ => (Asks.lift _).bind fun _ => Asks.pure _

theorem network_status_resource_reads :
    Reads catalog config.allow_sensitive_reads (network_status_resource views config catalog) := by
  refine (device_inventory_reads config views _).bind fun inventory => ?_
  refine (Asks.lift _).bind fun context => cached_devices_reads.bind fun cached => ?_
  refine (read_internet_reads config views _ _).bind fun internet => ?_
  refine Asks.bind ?_ fun performance => Asks.bind ?_ fun capabilities => Asks.pure _
  · exact Asks.ite (fun _ => (get_client_asks config).bind fun _ =>
      try_sections_reads _ (http_section_reads _ (get_performance_reads views)))
      fun _ => Asks.pure _
  · refine (try_sections_reads _ (capability_section_reads config views _ _ _)).bind fun _ => ?_
    refine (try_sections_reads _ (capability_section_reads config views _ _ _)).bind fun _ => ?_
    refine Asks.bind (Asks.ite (fun _ => Asks.pure _) fun _ => Asks.bind ?_ fun _ => Asks.pure _)
      fun _ => Asks.pure _
    exact try_sections_reads _ ((read_resource_capability_reads config views _ _).bind
      fun _ => Asks.pure _)

/-! ## `configuration_resource` -/

theorem configuration_start_reads :
    Reads catalog config.allow_sensitive_reads (configuration_start views config catalog) := by
  refine (device_inventory_reads config views _).bind fun inventory => desk_asks.bind fun d => ?_
  exact (Asks.lift _).bind fun context =>
    (read_internet_reads config views _ _).bind fun _ => Asks.pure _

theorem http_operating_mode_reads :
    Reads catalog secrets (http_operating_mode views config) :=
  (get_client_asks config).bind fun _ =>
    try_sections_reads _ (http_section_reads _ (get_device_mode_reads views))

/-- The one read that no gate stands before. -/
theorem http_wan_lan_reads : Reads catalog true (http_wan_lan views) :=
  (get_model_asks (permits_secret (by decide))).bind fun _ => (Asks.lift _).bind fun _ => Asks.pure _

theorem http_configuration_rest_reads :
    Reads catalog secrets (http_configuration_rest views config) := by
  refine (try_sections_reads _ (http_section_reads _ (get_result_asks
    (permits_read (by decide))))).bind fun _ => ?_
  refine (try_sections_reads _ (http_section_reads _ network_features_reads)).bind fun _ => ?_
  refine (try_sections_reads _ (http_section_reads _ (get_time_settings_reads views))).bind
    fun _ => ?_
  refine Asks.bind (Asks.ite (fun _ => Asks.pure _) fun _ => ?_) fun _ => Asks.pure _
  exact (try_sections_reads _ (http_section_reads _ nickname_reads)).bind fun _ => Asks.pure _

theorem tmp_configuration_reads (context : ResourceReadContext) :
    Reads catalog config.allow_sensitive_reads (tmp_configuration views config catalog context) := by
  refine (try_sections_reads _ ((read_resource_capability_reads config views _ _).bind
    fun reading => ?_)).bind fun _ => ?_
  · split
    · exact Asks.pure _
    · exact Asks.raised _
  · exact Asks.ite (fun _ => Asks.pure _) fun _ => Asks.pure _

theorem wireless_features_reads (context : ResourceReadContext) :
    Reads catalog config.allow_sensitive_reads (wireless_features views config catalog context) :=
  Asks.each fun _ _ => try_sections_reads _ (capability_section_reads config views _ _ _)

theorem configuration_resource_reads :
    Reads catalog true (configuration_resource views config catalog) := by
  refine (reads_all (configuration_start_reads config views)).bind fun start => ?_
  refine Asks.bind (Asks.ite (fun _ => ?_) fun _ => ?_) fun sections => ?_
  · refine (http_operating_mode_reads config views).bind fun _ => ?_
    refine (try_sections_reads _ (http_wan_lan_reads views)).bind fun _ => ?_
    exact (http_configuration_rest_reads config views).bind fun _ => Asks.pure _
  · exact reads_all (tmp_configuration_reads config views _)
  · exact (reads_all (wireless_features_reads config views _)).bind fun _ => Asks.pure _

end tplink_deco_api.surface
