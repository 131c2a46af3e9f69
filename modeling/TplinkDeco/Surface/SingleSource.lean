-- Over which interface the values of a compound resource were read: all sections
-- over the one that its context names, and the devices over that of their listing.
import TplinkDeco.Surface.SourceAnswers

open dialogue json

namespace tplink_deco_api.surface

open endpoint_catalog exceptions http_noop_verification service tmp_batches tmp_client Dialogue

/-! ## The readings of the sections -/

/-- Every section was read over `interface`. -/
def Sections.Over (interface : CapabilityInterface) (sections : Sections) : Prop :=
  ∀ entry ∈ sections.available, entry.reading.read_over = interface

variable {interface : CapabilityInterface}

theorem Sections.Over.append {first second : Sections} (hfirst : first.Over interface)
    (hsecond : second.Over interface) : (first ++ second).Over interface := by
  intro entry hentry
  rcases List.mem_append.mp hentry with hentry | hentry
  · exact hfirst entry hentry
  · exact hsecond entry hentry

theorem Sections.over_of_empty {sections : Sections} (h : sections.available = []) :
    sections.Over interface := by
  intro entry hentry
  rw [h] at hentry
  cases hentry

theorem over_foldl {sections : List Sections} {first : Sections} (hfirst : first.Over interface)
    (h : ∀ part ∈ sections, part.Over interface) :
    (sections.foldl (· ++ ·) first).Over interface := by
  induction sections generalizing first with
  | nil => exact hfirst
  | cons part sections ih =>
    refine ih (hfirst.append (h part List.mem_cons_self)) fun part' hpart' => ?_
    exact h part' (List.mem_cons_of_mem _ hpart')

/-- Every section was read over one interface. -/
def AllOver (interface : CapabilityInterface) (available : List ResourceSection) : Prop :=
  ∀ entry ∈ available, entry.reading.read_over = interface

theorem try_sections_over {name : String} {read : SurfaceM (List ResourceSection)}
    (h : read.Gives (AllOver interface)) :
    (try_sections name read).Gives (Sections.Over interface) := by
  refine (h.trying _).bind fun outcome houtcome => ?_
  cases outcome with
  | ok available => exact Gives.pure (houtcome available rfl)
  | error e => exact Gives.pure (Sections.over_of_empty rfl)

theorem http_section_over (name : String) (read : SurfaceM Json) :
    (http_section name read).Gives (AllOver .http_luci) :=
  Gives.last fun value => Gives.pure fun entry hentry => by
    cases List.mem_singleton.mp hentry
    rfl

theorem try_http_section_over (name : String) (read : SurfaceM Json) :
    (try_sections name (http_section name read)).Gives (Sections.Over .http_luci) :=
  try_sections_over (http_section_over name read)

variable (views : Views) (config : ServerConfig) (catalog : TmpOpcodeCatalog)

theorem read_http_capability_over {name : String} (hname : name ≠ "mesh_nodes")
    (include_passwords : Bool) :
    (read_http_capability views config name include_passwords).Gives
      (·.read_over = .http_luci) := by
  unfold read_http_capability
  rw [if_neg hname]
  exact Gives.last fun _ => Gives.last fun _ => Gives.last fun _ => Gives.pure rfl

theorem read_tmp_capability_over (name : String) (include_passwords : Bool) (params : Json) :
    (read_tmp_capability views config catalog name include_passwords params).Gives
      (·.read_over = .tmp_appv2) := by
  unfold read_tmp_capability
  split
  · exact Gives.raised _
  · exact Gives.last fun _ => Gives.last fun _ => Gives.pure rfl

theorem read_resource_capability_over {name : String} (hname : name ≠ "mesh_nodes")
    (context : ResourceReadContext) :
    (read_resource_capability views config catalog name context).Gives
      (·.read_over = context.interface) := by
  unfold read_resource_capability
  split
  · exact Gives.raised _
  · split
    · exact Gives.raised _
    · split
      case isTrue hhttp =>
        rw [hhttp]
        exact read_http_capability_over views config hname false
      case isFalse hother =>
        have htmp : context.interface = .tmp_appv2 := by
          cases hinterface : context.interface with
          | http_luci => exact absurd hinterface hother
          | tmp_appv2 => rfl
        rw [htmp]
        refine Gives.last fun available => ?_
        split
        · exact Gives.raised _
        · exact read_tmp_capability_over views config catalog name false .null

theorem capability_section_over (name : String) {capability : String}
    (hname : capability ≠ "mesh_nodes") (context : ResourceReadContext) :
    (capability_section views config catalog name capability context).Gives
      (AllOver context.interface) := by
  refine (read_resource_capability_over views config catalog hname context).bind
    fun reading hreading => Gives.pure fun entry hentry => ?_
  cases List.mem_singleton.mp hentry
  exact hreading

/-! ## The parts of the network status -/

theorem client_count_over (context : ResourceReadContext) :
    (client_count_section views config catalog context).Gives (AllOver context.interface) := by
  refine (read_resource_capability_over views config catalog (by decide) context).bind
    fun reading hreading => Gives.pure fun entry hentry => ?_
  cases List.mem_singleton.mp hentry
  exact hreading

theorem read_client_count_over (context : ResourceReadContext) :
    (read_client_count views config catalog context).Gives (·.1.Over context.interface) := by
  unfold read_client_count
  split
  · exact Gives.pure (Sections.over_of_empty rfl)
  · exact (try_sections_over (client_count_over views config catalog context)).bind
      fun sections hsections => Gives.pure hsections

theorem status_capabilities_over (context : ResourceReadContext) :
    (status_capabilities views config catalog context).Gives (·.1.Over context.interface) := by
  refine (try_sections_over (capability_section_over views config catalog _ (by decide)
    context)).bind fun firmware hfirmware => ?_
  refine (try_sections_over (capability_section_over views config catalog _ (by decide)
    context)).bind fun speed_test hspeed_test => ?_
  refine (read_client_count_over views config catalog context).bind fun count hcount => ?_
  exact Gives.pure ((hfirmware.append hspeed_test).append hcount)

theorem performance_section_over (context : ResourceReadContext) :
    (performance_section views config context).Gives (Sections.Over context.interface) := by
  unfold performance_section
  split
  case isTrue hhttp =>
    rw [hhttp]
    exact Gives.last fun _ => try_http_section_over _ _
  case isFalse => exact Gives.pure (Sections.over_of_empty rfl)

/-! ## The parts of the configuration -/

theorem wan_lan_over (ipv4 : JsonObject) : AllOver interface (wan_lan_sections ipv4 interface) := by
  intro entry hentry
  rcases List.mem_cons.mp hentry with rfl | hentry
  · rfl
  · cases List.mem_singleton.mp hentry
    rfl

theorem http_wan_lan_over : (http_wan_lan views).Gives (AllOver .http_luci) :=
  Gives.last fun _ => Gives.last fun _ => Gives.pure (wan_lan_over _)

theorem tmp_wan_lan_over (context : ResourceReadContext) :
    (tmp_wan_lan views config catalog context).Gives (AllOver context.interface) := by
  refine (read_resource_capability_over views config catalog (by decide) context).bind
    fun reading hreading => ?_
  split
  · rw [hreading]
    exact Gives.pure (wan_lan_over _)
  · exact Gives.raised _

theorem read_nickname_over : (read_nickname config).Gives (·.1.Over .http_luci) := by
  unfold read_nickname
  split
  · exact Gives.pure (Sections.over_of_empty rfl)
  · exact (try_http_section_over _ _).bind fun sections hsections => Gives.pure hsections

theorem http_configuration_rest_over :
    (http_configuration_rest views config).Gives (·.1.Over .http_luci) := by
  refine (try_http_section_over _ _).bind fun dhcp hdhcp => ?_
  refine (try_http_section_over _ _).bind fun features hfeatures => ?_
  refine (try_http_section_over _ _).bind fun settings hsettings => ?_
  refine (read_nickname_over config).bind fun nickname hnickname => Gives.pure ?_
  exact ((hdhcp.append hfeatures).append hsettings).append hnickname

theorem http_configuration_over :
    (http_configuration views config).Gives (·.1.Over .http_luci) := by
  refine Gives.bind (Gives.last fun _ => try_http_section_over _ _) fun mode hmode => ?_
  refine (try_sections_over (http_wan_lan_over views)).bind fun wan_lan hwan_lan => ?_
  refine (http_configuration_rest_over views config).bind fun rest hrest => Gives.pure ?_
  exact (hmode.append hwan_lan).append hrest

theorem tmp_configuration_over (context : ResourceReadContext) :
    (tmp_configuration views config catalog context).Gives (·.1.Over context.interface) := by
  have hnone : ∀ name, (source_unavailable name).Over context.interface := fun _ =>
    Sections.over_of_empty rfl
  have hunavailable := (((hnone "operating_mode").append (hnone "dhcp")).append
    (hnone "network_features")).append (hnone "time_settings")
  refine (try_sections_over (tmp_wan_lan_over views config catalog context)).bind
    fun wan_lan hwan_lan => ?_
  split
  · exact Gives.pure ((hunavailable.append hwan_lan).append (hnone _))
  · exact Gives.pure (hunavailable.append hwan_lan)

theorem wireless_features_over (context : ResourceReadContext) :
    (wireless_features views config catalog context).Gives
      fun features => ∀ part ∈ features, part.Over context.interface := by
  refine Gives.each fun (field_name, capability) hfeature => ?_
  have hname : capability ≠ "mesh_nodes" := by
    rintro rfl
    revert hfeature
    unfold WIRELESS_FEATURE_CAPABILITIES
    simp
  exact try_sections_over (capability_section_over views config catalog _ hname context)

/-! ## The internet status -/

section

variable {ρ : Type} {views config catalog} {router : Router ρ}

/-- The route of the internet status. -/
def internet_route : CapabilityRoute :=
  http_route "internet_status" .private_ "admin.network.internet.read" "0x400C"
    "p9_live_schema_equivalence"

theorem internet_checked : PassesChecks config "internet_status" false internet_route where
  passwords := by decide
  found := by decide
  checked := rfl

theorem device_inventory_unasked (refresh : Bool) :
    (internet_datum views).Unasked (device_inventory views config catalog refresh) := by
  have hhttp : DEVICE_LIST ≠ INTERNET := by decide
  have htmp : 0x400F ≠ 0x400C := by decide
  exact device_inventory_asks config views (hidden_http hhttp) (fun _ _ _ => hidden_tmp htmp) refresh

/-- The interface that the provenance of a response names. -/
def named_source (capability : CapabilityResponse) : Option CapabilityInterface :=
  interface_named capability.provenance.source_interface

theorem read_selected_tmp_shown :
    (interpreted views config catalog (read_selected_tmp internet_route false)).Tells
      (internet_datum views).shown named_source none := by
  have hread : (read_tmp internet_route.name false).interpret (read_step views config catalog) = _ :=
    interpreted_read_tmp _ _
  unfold read_selected_tmp interpreted
  rw [interpret_bind, hread]
  exact Tells.bind read_tmp_internet_shown fun reading => Tells.pure rfl

theorem read_http_first_shown :
    (interpreted views config catalog (read_http_first config internet_route false)).Tells
      (internet_datum views).shown named_source none := by
  have hhttp : (read_http internet_route.name false).interpret (read_step views config catalog) =
      attempt (read_http_capability views config "internet_status") := interpret_question _
  have htmp : (read_tmp internet_route.name false).interpret (read_step views config catalog) = _ :=
    interpreted_read_tmp _ _
  unfold read_http_first interpreted
  rw [interpret_bind, hhttp]
  refine Tells.bind (read_http_internet_shown.trying _) fun outcome => ?_
  cases outcome with
  | ok reading => exact Tells.pure rfl
  | error e =>
    show Tells _ _ (interpret _ (if _ then _ else _)) none
    split
    · unfold read_fallback
      rw [if_neg (by decide), interpret_bind]
      refine after_unasked ((fallback_available_elsewhere _).mono fun _ h => h.2) fun available => ?_
      split
      · exact Tells.raised e
      · rw [interpret_bind, htmp]
        exact Tells.bind read_tmp_internet_shown fun reading => Tells.pure rfl
    · exact Tells.raised e

/-- A response names the interface over which the router gave the internet status. -/
theorem read_capability_shown :
    (read_capability views config catalog "internet_status").Tells (internet_datum views).shown
      named_source none := by
  rw [read_capability_eq internet_checked]
  refine after_unasked (device_inventory_unasked false) fun inventory => ?_
  rw [if_neg (by decide)]
  unfold read_route interpreted
  rw [if_neg (by decide), interpret_bind, interpret_lift]
  refine after_unasked (Asks.lift _) fun context => ?_
  rw [interpret_bind]
  refine after_unasked ?_ fun selected => ?_
  · unfold selects_tmp
    split
    · exact (fallback_available_elsewhere _).mono fun _ h => h.2
    · exact Asks.pure _
  · split
    · exact read_selected_tmp_shown
    · exact read_http_first_shown

/-- The source that a response names is the one of its reading. -/
theorem read_capability_named :
    (read_capability views config catalog "internet_status").Gives fun capability =>
      named_source capability = some capability.reading.read_over := by
  have hhttp : (attempt (read_http_capability views config "internet_status")).Gives fun outcome =>
      ∀ reading, outcome = .ok reading → reading.read_over = .http_luci :=
    (read_http_capability_over views config (by decide) false).trying _
  have htmp : (interpreted views config catalog (read_tmp internet_route.name false)).Gives
      (·.read_over = .tmp_appv2) := by
    rw [interpreted_read_tmp]
    exact read_tmp_capability_over views config catalog _ false .null
  rw [read_capability_eq internet_checked]
  refine Gives.last fun inventory => ?_
  rw [if_neg (by decide)]
  unfold read_route interpreted at *
  rw [if_neg (by decide), interpret_bind]
  refine Gives.last fun context => ?_
  rw [interpret_bind]
  refine Gives.last fun selected => ?_
  split
  · unfold read_selected_tmp
    rw [interpret_bind]
    exact htmp.bind fun reading hreading => Gives.pure (congrArg some hreading.symm)
  · unfold read_http_first
    rw [interpret_bind]
    refine Gives.bind (A := fun outcome => ∀ reading, outcome = .ok reading →
      reading.read_over = .http_luci) ?_ fun outcome houtcome => ?_
    · unfold read_http
      rw [interpret_question]
      exact hhttp
    cases outcome with
    | ok reading =>
      exact Gives.pure (congrArg some (houtcome reading rfl).symm)
    | error e =>
      show (interpret _ (if _ then _ else _)).Gives _
      split
      · unfold read_fallback
        rw [if_neg (by decide), interpret_bind]
        refine Gives.last fun available => ?_
        split
        · exact Gives.raised e
        · rw [interpret_bind]
          exact htmp.bind fun reading hreading => Gives.pure (congrArg some hreading.symm)
      · exact Gives.raised e

/-- The readings of sections, by the first of them. -/
def Sections.first_over (sections : Sections) : Option CapabilityInterface :=
  sections.available.head?.map (·.reading.read_over)

/-- The internet status selects the interface over which it was read. -/
theorem read_internet_selects (inventory : Inventory) (before : ResourceReadContext) :
    (read_internet views config catalog inventory before).Gives fun (context, internet) =>
      internet.Over context.interface ∧
        context.interface = internet.first_over.getD before.interface := by
  refine (read_capability_named.trying _).bind fun outcome houtcome => ?_
  cases outcome with
  | error e => exact Gives.pure ⟨Sections.over_of_empty rfl, rfl⟩
  | ok capability =>
    have hnamed : interface_named capability.provenance.source_interface = _ :=
      houtcome capability rfl
    dsimp only
    unfold capability_read_context
    rw [hnamed]
    refine Gives.pure ⟨fun entry hentry => ?_, rfl⟩
    cases List.mem_singleton.mp hentry
    rfl

/-- The section of the internet status is there where the router gave it. -/
theorem read_internet_shown (inventory : Inventory) (before : ResourceReadContext) :
    (read_internet views config catalog inventory before).Tells (internet_datum views).shown
      (fun (_, internet) => internet.first_over) none := by
  have hread : (read_capability views config catalog "internet_status").Tells
      (internet_datum views).shown (fun capability => some capability.reading.read_over) none :=
    read_capability_shown.congr read_capability_named
  refine Tells.bind (hread.trying _) fun outcome => ?_
  cases outcome with
  | error e => exact Tells.pure rfl
  | ok capability =>
    dsimp only
    split <;> exact Tells.pure rfl

end

/-! ## The resources -/

/-- Every value of the response, those of the controller and the mesh included, was read over
the interface that its provenance names. -/
def ResourceResponse.SingleSource (response : ResourceResponse) : Prop :=
  response.listed_over = response.context.interface ∧
    response.sections.Over response.context.interface

section

variable {ρ : Type} {views config catalog} {router : Router ρ}

/-- What the cached devices were listed over. -/
def Desk.listing (d : Desk) : CapabilityInterface := d.listed_over.getD .http_luci

/-- The interface that the cached resolution names, or that of a cache without one. -/
def Desk.identity (d : Desk) : Option CapabilityInterface :=
  match d.service.device_resolution with
  | none => some .http_luci
  | some resolution => interface_named resolution.source_interface

/-- The interface over which the router gives the datum in this run. -/
def Datum.given {α : Type} (datum : Datum α) (log : Log ρ) : Option CapabilityInterface :=
  first_shown datum.shown log

variable (views) in
/-- The interface of the devices: the router lists them in this run, or they were cached. -/
def listed_over (log : Log ρ) (d : Desk) : CapabilityInterface :=
  ((device_datum views).given log).getD d.listing

variable (views) in
/-- The interface of the internet status, if the router gives it in this run, and else that of
the identity. -/
def selected_over (log : Log ρ) (d : Desk) : Option CapabilityInterface :=
  ((internet_datum views).given log).or (((device_datum views).given log).or d.identity)

variable (views) in
/-- In the run with this log from the state `d`, the devices and the internet status come over
different interfaces. -/
def Mixes (log : Log ρ) (d : Desk) : Prop := selected_over views log d ≠ some (listed_over views log d)

section

variable {α β γ : Type} {datum : Datum γ} {m : SurfaceM α}

theorem Datum.given_append (first second : Log ρ) :
    datum.given (first ++ second) = (datum.given first).or (datum.given second) :=
  first_shown_append first second

variable (router) in
theorem given_of_unasked (h : datum.Unasked m) (s : Desk × ρ) :
    datum.given (m.run (perform router) s).log = none :=
  List.findSome?_eq_none_iff.mpr fun x hx => h.of_run s x hx x.answer

variable (router) in
theorem given_elsewhere (h : m.Asks (Elsewhere views)) (s : Desk × ρ) :
    (device_datum views).given (m.run (perform router) s).log = none ∧
      (internet_datum views).given (m.run (perform router) s).log = none :=
  ⟨given_of_unasked router (h.mono fun _ hq => hq.1) s,
    given_of_unasked router (h.mono fun _ hq => hq.2) s⟩

/-- The log of a run that goes on after its first part. -/
theorem given_bind {f : α → SurfaceM β} {a : α} {s s1 : Desk × ρ} {log : Log ρ}
    (h : m.run (perform router) s = ⟨.ok a, s1, log⟩) :
    datum.given ((m >>= f).run (perform router) s).log =
      (datum.given log).or (datum.given ((f a).run (perform router) s1).log) := by
  rw [run_bind_ok h, after_log, Datum.given_append]

end

/-! ### The inventory -/

theorem identity_of_view {contacted : Bool} {devices : List Device}
    {resolution : Option DeviceInventoryResolution} {inventory : Inventory}
    (h : inventory_view contacted devices resolution = .ok inventory) :
    inventory.identity_interface = (resolution.map (·.source_interface)).getD "http_luci" := by
  unfold inventory_view at h
  cases hcontroller : controller_device devices with
  | error e =>
    rw [hcontroller] at h
    cases h
  | ok controller =>
    rw [hcontroller] at h
    have hinventory := congrArg Inventory.identity_interface (Except.ok.inj h)
    cases resolution <;> exact hinventory.symm

theorem identity_named {contacted : Bool} {d : Desk} {inventory : Inventory}
    (h : inventory_view contacted (d.service.device_cache.getD []) d.service.device_resolution =
      .ok inventory) :
    interface_named inventory.identity_interface = d.identity := by
  rw [identity_of_view h]
  unfold Desk.identity
  cases d.service.device_resolution <;> rfl

/-- A resolution names an interface. -/
theorem resolve_device_inventory_named :
    (resolve_device_inventory views config catalog).Gives fun resolution =>
      ∃ interface, interface_named resolution.source_interface = some interface := by
  refine Gives.last fun outcome => ?_
  cases outcome with
  | ok devices => exact Gives.pure ⟨.http_luci, rfl⟩
  | error e =>
    show (if _ then _ else _ : SurfaceM DeviceInventoryResolution).Gives _
    split
    · exact Gives.raised e
    · exact Gives.last fun devices => Gives.pure ⟨.tmp_appv2, rfl⟩

theorem desk_given {α : Type} {datum : Datum α} (s : Desk × ρ) :
    datum.given ([⟨s, .desk, s.1⟩] : Log ρ) = none := rfl

/-- After a refresh the identity and the listing are those of the devices that the router gave for
it, or as they were. -/
theorem refresh_given {refresh contacted : Bool} {s s1 : Desk × ρ} {log : Log ρ}
    (h : (refresh_cache views config catalog refresh).run (perform router) s =
      ⟨.ok contacted, s1, log⟩) :
    s1.1.identity = ((device_datum views).given log).or s.1.identity ∧
      s1.1.listing = listed_over views log s.1 := by
  unfold refresh_cache at h
  rw [run_bind_ok (run_desk s)] at h
  unfold listed_over
  cases hdue : s.1.due refresh with
  | false =>
    rw [hdue] at h
    cases h
    exact ⟨rfl, rfl⟩
  | true =>
    rw [if_pos hdue] at h
    rcases hresolve : (resolve_device_inventory views config catalog).run (perform router) s with
      ⟨outcome, s2, log2⟩
    cases outcome with
    | error e =>
      rw [run_bind_raised hresolve] at h
      cases h
    | ok resolution =>
      have houtcome := congrArg Run.outcome hresolve
      have hshown := resolve_device_inventory_shown.of_run houtcome
      obtain ⟨interface, hnamed⟩ := resolve_device_inventory_named.of_run houtcome
      rw [hresolve, hnamed, Option.none_or] at hshown
      rw [run_bind_ok hresolve] at h
      cases h
      have hgiven : (device_datum views).given log2 = some interface := hshown
      rw [Datum.given_append, after_log, Datum.given_append, desk_given, hgiven]
      refine ⟨?_, ?_⟩
      · show interface_named resolution.source_interface = _
        exact hnamed
      · show (interface_named resolution.source_interface).getD _ = _
        rw [hnamed]
        rfl

/-- So are those of an inventory. -/
theorem inventory_given {refresh : Bool} {s s1 : Desk × ρ} {log : Log ρ} {inventory : Inventory}
    (h : (device_inventory views config catalog refresh).run (perform router) s =
      ⟨.ok inventory, s1, log⟩) :
    interface_named inventory.identity_interface =
        ((device_datum views).given log).or s.1.identity ∧
      s1.1.listing = listed_over views log s.1 := by
  obtain ⟨contacted, hview⟩ := view_of_inventory h
  rw [identity_named hview]
  unfold device_inventory at h
  rcases hrefresh : (refresh_cache views config catalog refresh).run (perform router) s with
    ⟨outcome, s2, log2⟩
  cases outcome with
  | error e =>
    rw [run_bind_raised hrefresh] at h
    cases h
  | ok contacted' =>
    have hgiven := refresh_given hrefresh
    rw [run_bind_ok hrefresh] at h
    unfold surface.cached_inventory at h
    rw [run_bind_ok (run_desk s2), run_lift] at h
    have hstate : s2 = s1 := congrArg Run.state h
    have hlog : log2 ++ ([⟨s2, .desk, s2.1⟩] ++ []) = log := congrArg Run.log h
    have hsame : (device_datum views).given log = (device_datum views).given log2 := by
      rw [← hlog, List.append_nil, Datum.given_append, desk_given, Option.or_none]
    unfold listed_over at hgiven ⊢
    rw [hsame, ← hstate]
    exact hgiven

/-! ### After the inventory -/

theorem view_contacted (contacted : Bool) {contacted' : Bool} {devices : List Device}
    {resolution : Option DeviceInventoryResolution} {inventory : Inventory}
    (h : inventory_view contacted' devices resolution = .ok inventory) :
    inventory_view contacted devices resolution =
      .ok { inventory with router_contacted := contacted } := by
  have hmap : inventory_view contacted devices resolution =
      (inventory_view contacted' devices resolution).map
        fun inventory => { inventory with router_contacted := contacted } := by
    unfold inventory_view
    cases controller_device devices with
    | error e => rfl
    | ok controller => dsimp only [bind, Except.bind, Except.map]
  rw [hmap, h]
  rfl

variable (views config catalog router) in
/-- The inventory once more, from the cache that it was just read from. -/
theorem run_inventory_again {inventory : Inventory} {s : Desk × ρ} {contacted : Bool}
    (hview : inventory_view contacted (s.1.service.device_cache.getD [])
      s.1.service.device_resolution = .ok inventory) :
    (device_inventory views config catalog).run (perform router) s =
      ⟨.ok { inventory with router_contacted := false }, s, [⟨s, .desk, s.1⟩, ⟨s, .desk, s.1⟩]⟩ := by
  have hdue : s.1.due false = false := by
    unfold Desk.due
    cases hcache : s.1.service.device_cache with
    | none =>
      rw [hcache] at hview
      cases hview
    | some devices => simp
  have hlast : (surface.cached_inventory false).run (perform router) s =
      ⟨.ok { inventory with router_contacted := false }, s, [⟨s, .desk, s.1⟩]⟩ := by
    unfold surface.cached_inventory
    rw [run_bind_ok (run_desk s), run_lift, view_contacted false hview]
    rfl
  unfold device_inventory refresh_cache
  rw [Dialogue.bind_assoc, run_bind_ok (run_desk s), hdue, if_neg Bool.false_ne_true]
  exact congrArg (Run.after _) hlast

/-- The steps of the internet route that do not resolve the devices. -/
def InternetStep : ReadStep → Prop
  | .device_inventory => False
  | .device_cache => True
  | .read_http_capability name _ => name = "internet_status"
  | .read_tmp_capability name _ => name = "internet_status"

theorem internet_step_unasked {step : ReadStep} (h : InternetStep step) :
    (device_datum views).Unasked (read_step views config catalog step) := by
  have hhttp : INTERNET ≠ DEVICE_LIST := by decide
  have htmp : 0x400C ≠ 0x400F := by decide
  cases step with
  | device_inventory => exact h.elim
  | device_cache => exact desk_asks.bind fun _ => Asks.pure _
  | read_http_capability name include_passwords =>
    obtain rfl : name = "internet_status" := h
    refine Asks.trying _ ((get_client_asks config).bind fun _ => ?_)
    rw [if_neg (by decide), http_capability_internet]
    exact (get_model_asks (hidden_http hhttp)).bind fun _ => (Asks.lift _).bind fun _ => Asks.pure _
  | read_tmp_capability name include_passwords =>
    obtain rfl : name = "internet_status" := h
    refine Asks.trying _ ((tmp_read_asks config fun _ _ _ => hidden_tmp htmp).bind fun _ => ?_)
    exact (Asks.lift _).bind fun _ => Asks.pure _

variable (views config catalog router) in
/-- The internet status is read without a new list of the devices. -/
theorem read_internet_unlisted {inventory : Inventory} {s : Desk × ρ} {contacted : Bool}
    (hview : inventory_view contacted (s.1.service.device_cache.getD [])
      s.1.service.device_resolution = .ok inventory) (before : ResourceReadContext) :
    (device_datum views).given
      ((read_internet views config catalog inventory before).run (perform router) s).log = none := by
  have hname : internet_route.name = "internet_status" := rfl
  have hroute : ∀ again, (device_datum views).Unasked
      (interpreted views config catalog (read_route config internet_route again false)) := fun again =>
    (read_route_asks config (Q := InternetStep) trivial hname hname again).interpret
      fun _ => internet_step_unasked
  have hcapability : (device_datum views).given
      ((live (read_capability views config catalog "internet_status")).run (perform router) s).log =
        none := by
    unfold live
    rw [run_trying, read_capability_eq internet_checked,
      given_bind (run_inventory_again views config catalog router hview), if_neg (by decide)]
    exact given_of_unasked router (hroute _) s
  rcases hlive : (live (read_capability views config catalog "internet_status")).run
    (perform router) s with ⟨outcome, s1, log⟩
  rw [hlive] at hcapability
  unfold read_internet
  cases outcome with
  | error e =>
    rw [run_bind_raised hlive]
    exact hcapability
  | ok answer =>
    rw [given_bind hlive, hcapability, Option.none_or]
    refine given_of_unasked router ?_ s1
    cases answer with
    | error e => exact Asks.pure _
    | ok capability =>
      dsimp only
      split <;> exact Asks.pure _

/-! ### The two resources -/

theorem run_cached_devices {s s1 : Desk × ρ} {log : Log ρ}
    {cached : Device × List Device × CapabilityInterface}
    (h : cached_devices.run (perform router) s = ⟨.ok cached, s1, log⟩) :
    s1 = s ∧ cached.2.2 = s.1.listing ∧ log = [⟨s, .desk, s.1⟩] := by
  unfold cached_devices at h
  rw [run_bind_ok (run_desk s)] at h
  dsimp only at h
  cases hcontroller : controller_device (s.1.service.device_cache.getD []) with
  | error e =>
    rw [hcontroller] at h
    cases congrArg Run.outcome h
  | ok controller =>
    rw [hcontroller] at h
    cases h
    exact ⟨rfl, rfl, rfl⟩

theorem run_lift_ok {α : Type} {x : Except PyError α} {a : α} {s s1 : Desk × ρ} {log : Log ρ}
    (h : (Dialogue.lift x : SurfaceM α).run (perform router) s = ⟨.ok a, s1, log⟩) :
    x = .ok a ∧ s1 = s ∧ log = [] := by
  rw [run_lift] at h
  cases h
  exact ⟨rfl, rfl, rfl⟩

/-- What the inventory and the internet status show in the run of a resource. -/
theorem resource_given {refresh : Bool} {inventory : Inventory} {before context : ResourceReadContext}
    {internet : Sections} {s s1 s2 : Desk × ρ} {first second : Log ρ}
    (hinventory : (device_inventory views config catalog refresh).run (perform router) s =
      ⟨.ok inventory, s1, first⟩)
    (hinternet : (read_internet views config catalog inventory before).run (perform router) s1 =
      ⟨.ok (context, internet), s2, second⟩) :
    (internet_datum views).given first = none ∧ (device_datum views).given second = none ∧
      (internet_datum views).given second = internet.first_over := by
  obtain ⟨contacted, hview⟩ := view_of_inventory hinventory
  have hunasked : (internet_datum views).Unasked (device_inventory views config catalog refresh) :=
    device_inventory_unasked refresh
  have hfirst := given_of_unasked router hunasked s
  have hunlisted := read_internet_unlisted views config catalog router hview before
  have hshown := (read_internet_shown inventory before).of_run (congrArg Run.outcome hinternet)
  rw [hinventory] at hfirst
  rw [hinternet] at hunlisted hshown
  exact ⟨hfirst, hunlisted, hshown⟩

/-- A response has one source exactly where the run that made it mixes none: `m` is what the
resource reads after the internet status. -/
theorem resource_single_source {refresh : Bool} {inventory : Inventory}
    {before context : ResourceReadContext} {internet : Sections} {response : ResourceResponse}
    {α : Type} {m : SurfaceM α} {s s1 s2 : Desk × ρ} {first second : Log ρ}
    (hinventory : (device_inventory views config catalog refresh).run (perform router) s =
      ⟨.ok inventory, s1, first⟩)
    (hbefore : resource_read_context inventory = .ok before)
    (hinternet : (read_internet views config catalog inventory before).run (perform router) s1 =
      ⟨.ok (context, internet), s2, second⟩)
    (hrest : m.Asks (Elsewhere views)) (hlisted : response.listed_over = s1.1.listing)
    (hcontext : response.context = context)
    (hsections : response.sections.Over response.context.interface) :
    response.SingleSource ↔ ¬ Mixes views
      (first ++ (⟨s1, .desk, s1.1⟩ :: (second ++ (m.run (perform router) s2).log))) s.1 := by
  obtain ⟨hidentity, hlisting⟩ := inventory_given hinventory
  obtain ⟨hfirst, hunlisted, hshown⟩ := resource_given hinventory hinternet
  obtain ⟨hlist_later, hstatus_later⟩ := given_elsewhere router hrest s2
  obtain ⟨-, hselected⟩ :=
    (read_internet_selects inventory before).of_run (congrArg Run.outcome hinternet)
  let log : Log ρ := first ++ ([⟨s1, .desk, s1.1⟩] ++ (second ++ (m.run (perform router) s2).log))
  have hlist : (device_datum views).given log = (device_datum views).given first := by
    simp only [log, Datum.given_append, desk_given, hunlisted, hlist_later, Option.or_none]
  have hstatus : (internet_datum views).given log = internet.first_over := by
    simp only [log, Datum.given_append, desk_given, hfirst, hshown, hstatus_later, Option.or_none,
      Option.none_or]
  have hover : response.listed_over = listed_over views log s.1 := by
    rw [hlisted, hlisting]
    unfold listed_over
    rw [hlist]
  have hnamed : selected_over views log s.1 = some response.context.interface := by
    unfold selected_over
    rw [hstatus, hlist, ← hidentity, resource_read_context_named hbefore, hcontext, hselected]
    cases internet.first_over <;> rfl
  change _ ↔ ¬ Mixes views log s.1
  unfold Mixes ResourceResponse.SingleSource
  rw [hnamed, ← hover, not_ne_iff, Option.some_inj]
  exact ⟨fun h => h.1.symm, fun h => ⟨h.symm, hsections⟩⟩

theorem network_single_source {s : Desk × ρ} {response : ResourceResponse}
    (h : ((network_status_resource views config catalog).run (perform router) s).outcome =
      .ok response) :
    response.SingleSource ↔
      ¬ Mixes views ((network_status_resource views config catalog).run (perform router) s).log s.1 := by
  unfold network_status_resource at h ⊢
  obtain ⟨inventory, s1, log1, hinventory, hafter⟩ := ok_of_bind h
  obtain ⟨before, s2, log2, hbefore, hafter2⟩ := ok_of_bind hafter
  obtain ⟨cached, s3, log3, hcached, hafter3⟩ := ok_of_bind hafter2
  obtain ⟨⟨context, internet⟩, s4, log4, hinternet, hrest⟩ := ok_of_bind hafter3
  obtain ⟨hcontext, rfl, rfl⟩ := run_lift_ok hbefore
  obtain ⟨rfl, hlisting, rfl⟩ := run_cached_devices hcached
  obtain ⟨hover, -⟩ :=
    (read_internet_selects inventory before).of_run (congrArg Run.outcome hinternet)
  obtain ⟨hperformance, hcapabilities⟩ : _ ∧ (status_capabilities views config catalog context).Asks
    (Elsewhere views) := status_sections_elsewhere context
  have hgives : response.listed_over = s3.1.listing ∧ response.context = context ∧
      response.sections.Over context.interface := by
    refine Gives.of_run (A := fun r : ResourceResponse => r.listed_over = s3.1.listing ∧
      r.context = context ∧ r.sections.Over context.interface) ?_ hrest
    refine (performance_section_over views config context).bind fun performance hperformance => ?_
    refine (status_capabilities_over views config catalog context).bind
      fun capabilities hcapabilities => Gives.pure ⟨hlisting, rfl, ?_⟩
    exact (hover.append hperformance).append hcapabilities
  obtain ⟨hlisted, hcontext_of, hsections⟩ := hgives
  rw [run_bind_ok hinventory, run_bind_ok hbefore, run_bind_ok hcached, run_bind_ok hinternet]
  refine resource_single_source hinventory hcontext hinternet ?_ hlisted hcontext_of
    (hcontext_of ▸ hsections)
  exact hperformance.bind fun performance => hcapabilities.bind fun capabilities => Asks.pure _

theorem configuration_single_source {s : Desk × ρ} {response : ResourceResponse}
    (h : ((configuration_resource views config catalog).run (perform router) s).outcome =
      .ok response) :
    response.SingleSource ↔
      ¬ Mixes views ((configuration_resource views config catalog).run (perform router) s).log s.1 := by
  unfold configuration_resource configuration_start at h ⊢
  simp only [Dialogue.bind_assoc] at h ⊢
  obtain ⟨inventory, s1, log1, hinventory, hafter⟩ := ok_of_bind h
  rw [run_bind_ok (run_desk s1)] at hafter
  obtain ⟨before, s2, log2, hbefore, hafter2⟩ := ok_of_bind hafter
  obtain ⟨⟨context, internet⟩, s3, log3, hinternet, hrest⟩ := ok_of_bind hafter2
  obtain ⟨hcontext, rfl, rfl⟩ := run_lift_ok hbefore
  obtain ⟨hover, -⟩ :=
    (read_internet_selects inventory before).of_run (congrArg Run.outcome hinternet)
  obtain ⟨hsections_asked, hfeatures_asked⟩ : _ ∧
    (wireless_features views config catalog context).Asks (Elsewhere views) :=
      configuration_sections_elsewhere context
  have hbranch : (configuration_sections views config catalog context).Gives
      (·.1.Over context.interface) := by
    unfold configuration_sections
    split
    case isTrue hhttp =>
      rw [hhttp]
      exact http_configuration_over views config
    case isFalse => exact tmp_configuration_over views config catalog context
  have hgives : response.listed_over = s2.1.listing ∧ response.context = context ∧
      response.sections.Over context.interface := by
    refine Gives.of_run (A := fun r : ResourceResponse => r.listed_over = s2.1.listing ∧
      r.context = context ∧ r.sections.Over context.interface) ?_ hrest
    refine hbranch.bind fun sections hsections => ?_
    refine (wireless_features_over views config catalog context).bind
      fun features hfeatures => Gives.pure ⟨rfl, rfl, ?_⟩
    exact over_foldl (hover.append hsections) hfeatures
  obtain ⟨hlisted, hcontext_of, hsections⟩ := hgives
  rw [run_bind_ok hinventory, run_bind_ok (run_desk s2), run_bind_ok hbefore, run_bind_ok hinternet]
  refine resource_single_source hinventory hcontext hinternet ?_ hlisted hcontext_of
    (hcontext_of ▸ hsections)
  exact hsections_asked.bind fun sections => hfeatures_asked.bind fun features => Asks.pure _

/-- The compound resources. -/
inductive CompoundResource where
  | network_status
  | configuration

variable (views config catalog) in
/-- The method of a resource. -/
def CompoundResource.read : CompoundResource → SurfaceM ResourceResponse
  | .network_status => network_status_resource views config catalog
  | .configuration => configuration_resource views config catalog

/-- A compound resource has one source exactly where the router gives the internet status, if it
gives it, over the interface of the devices. -/
theorem single_source_exactly (resource : CompoundResource) {s : Desk × ρ}
    {response : ResourceResponse}
    (h : ((resource.read views config catalog).run (perform router) s).outcome = .ok response) :
    response.SingleSource ↔
      ¬ Mixes views ((resource.read views config catalog).run (perform router) s).log s.1 := by
  cases resource with
  | network_status => exact network_single_source h
  | configuration => exact configuration_single_source h

end

/-! ## A router without the internet status over HTTP -/

/-- The reads of the network status, beside some others. -/
def status_reads : TmpOpcodeCatalog := {
  opcodes := [
    read_opcode 0x400C "TMP_APPV2_OP_INTERNET_GET" .returned_data [],
    read_opcode 0x4010 "TMP_APPV2_OP_SPEEDTEST_INFO_GET" .returned_data [],
    read_opcode 0x401C "TMP_APPV2_OP_FIRMWARE_STATUS_GET" .returned_data []] ++ some_reads.opcodes
  listed := by decide }

/-- What a call raises that the router refuses. -/
def rejected : PyError := { cls := .ApiError, message := "Failed to call API", code := some 1 }

/-- HTTP lists the devices, and gives the internet status as `internet` says. -/
def status_answer (internet : Except PyError ApiResponse) : (request : Request) → request.Reply
  | .login => none
  | .logout => none
  | .http operation _ =>
    if operation = DEVICE_LIST then
      .ok { error_code := 0, result := .obj [("device_list", .arr [.obj p9_row])] }
    else if operation.form = "internet" then internet
    else .ok { error_code := 0, result := .obj [] }
  | .bootstrap _ _ => .error rejected
  | .binary _ => .error rejected
  | .http_noop _ => fun _ => .error rejected
  | .tmp_connected => false
  | .tmp_open => none
  | .tmp _ _ => .ok { loaded := .ok [("result", .obj [("link_status", .str "plugged")])] }
  | .tmp_close => none
  | .probe_host_key => .ok ""
  | .probe_tcp _ _ => .ok .connected

def status_router (internet : Except PyError ApiResponse) : Router Bool :=
  connecting (status_answer internet)

/-- The status of a new service, with no TMP client yet. -/
def status_run (internet : Except PyError ApiResponse) :
    Run Question Question.Answer PyError ResourceResponse (Desk × Bool) :=
  (CompoundResource.network_status.read plain_views bootstrap_config status_reads).run
    (perform (status_router internet)) ({}, false)

/-- The status of a line that is plugged in. -/
def plugged : Except PyError ApiResponse :=
  .ok { error_code := 0, result := .obj [("link_status", .str "plugged")] }

theorem the_status_of_one_source :
    ∃ response, (status_run plugged).outcome = .ok response ∧ response.SingleSource := by
  have hread : (status_run plugged).outcome.toOption.map ResourceResponse.listed_over =
      some .http_luci := by decide +kernel
  have hsame : ¬ Mixes plain_views (status_run plugged).log {} := by
    unfold Mixes
    decide +kernel
  obtain ⟨response, hrun, -⟩ := ok_of_shown hread
  exact ⟨response, hrun, (single_source_exactly .network_status hrun).mpr hsame⟩

/-- The devices are listed over HTTP; HTTP rejects the read of the internet status, and TMP is
named as the one source of the resource. -/
theorem the_status_mixes_two_sources :
    ∃ response, (status_run (.error rejected)).outcome = .ok response ∧
      response.listed_over = .http_luci ∧ response.context.interface = .tmp_appv2 ∧
      ¬ response.SingleSource := by
  have hread : (status_run (.error rejected)).outcome.toOption.map
      (fun response => (response.listed_over, response.context.interface)) =
        some (.http_luci, .tmp_appv2) := by decide +kernel
  obtain ⟨response, hrun, hshown⟩ := ok_of_shown hread
  obtain ⟨hlisted, hselected⟩ := Prod.mk.inj hshown
  refine ⟨response, hrun, hlisted, hselected, fun hsingle => ?_⟩
  cases hlisted.symm.trans (hsingle.1.trans hselected)

end tplink_deco_api.surface
