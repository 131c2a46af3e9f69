-- The device cache and the resolution that it came from: they go together in every
-- run in which no call stores a list of devices that it did not resolve.
import TplinkDeco.Service.Calls
import TplinkDeco.Service.SectionSpecs
import TplinkDeco.Service.Turns

open dict prog threads

namespace tplink_deco_api.service

open exceptions rest Prog

variable {config : ServerConfig} {store : InMemoryIdempotencyStore Rat} {x : Outside}

/-! ## The law of the cache -/

/-- What `_validate_device_inventory` demands of the cached devices. -/
structure ValidDevices (devices : List Device) : Prop where
  nonempty : devices ≠ []
  identified : ∃ controller, controller_device devices = .ok controller ∧ controller.mac ≠ "" ∧
    text.strip controller.device_model ≠ ""

/-- The invariant of the cache. -/
structure CacheSound (s : DecoService) : Prop where
  together : s.device_cache = none ↔ s.device_resolution = none
  valid : ∀ devices, s.device_cache = some devices → ValidDevices devices
  recorded : ∀ devices resolution, s.device_cache = some devices →
    s.device_resolution = some resolution → resolution.devices = devices

/-- What the inventory says of its devices is what their resolution recorded. -/
structure Describes (resolution : DeviceInventoryResolution) (inventory : Inventory) : Prop where
  devices : resolution.devices = inventory.nodes
  identity_source : inventory.identity_source = resolution.source_operation
  identity_interface : inventory.identity_interface = resolution.source_interface
  identity_attempts : inventory.identity_attempts = resolution.attempts
  fallback_used : inventory.fallback_used = resolution.fallback_used

/-! ## The lists that are stored without a resolution -/

/-- `_get_client` gives the client. -/
def client_given (config : ServerConfig) (x : Outside) (s : DecoService) : Bool :=
  decide (config.password ≠ "") && (decide (s.client = some true) || x.login.isNone)

/-- The list that `mesh_overview` stores. -/
def overview_list (config : ServerConfig) (x : Outside) (s : DecoService) :
    Option (List Device) :=
  if config.allow_sensitive_reads && client_given config x s then x.http_devices.toOption else none

/-- The list that `_read_http_capability("mesh_nodes")` stores. -/
def mesh_nodes_list (config : ServerConfig) (x : Outside) (s : DecoService) :
    Option (List Device) :=
  if client_given config x s then
    match s.device_cache with
    | some (device :: devices) => some (device :: devices)
    | _ => x.http_devices.toOption
  else none

/-- The list that a section of a call stores without resolving it. -/
def stored_list (config : ServerConfig) : Act → World → Call → Option (List Device)
  | .section x, w, .overviewing => overview_list config x w.deco_service
  | .read .mesh_nodes x, w, .reading => mesh_nodes_list config x w.deco_service
  | _, _, _ => none

/-- A list that a section stores without resolving it is the one in the cache already. -/
def StoresCached (config : ServerConfig) (p : Pool World Call) (t : Nat) (a : Act) : Prop :=
  ∀ devices, stored_list config a p.shared (p.thread t) = some devices →
    p.shared.deco_service.device_cache = some devices

/-! ## The validation -/

theorem validDevices_of_validate {devices : List Device}
    (h : validate_device_inventory devices = .ok ()) : ValidDevices devices := by
  unfold validate_device_inventory at h
  cases hcontroller : controller_device devices with
  | error e =>
    rw [hcontroller] at h
    cases h
  | ok controller =>
    rw [hcontroller] at h
    by_cases hblank : controller.mac = "" ∨ text.strip controller.device_model = ""
    · simp [bind, Except.bind, hblank] at h
    · rw [not_or] at hblank
      refine ⟨?_, controller, hcontroller, hblank.1, hblank.2⟩
      rintro rfl
      cases hcontroller

theorem read_http_device_inventory_valid {s s' : DecoService} {devices : List Device}
    (h : read_http_device_inventory config x s = (.ok devices, s')) : ValidDevices devices := by
  obtain ⟨_, _, -, h⟩ := bind_eq_ok h
  obtain ⟨listed, _, -, h⟩ := bind_eq_ok h
  obtain ⟨_, _, hvalid, h⟩ := bind_eq_ok h
  cases h
  cases hv : validate_device_inventory devices with
  | ok _ => exact validDevices_of_validate hv
  | error e =>
    rw [hv] at hvalid
    cases hvalid

theorem read_tmp_device_inventory_valid {s s' : DecoService} {devices : List Device}
    (h : read_tmp_device_inventory x s = (.ok devices, s')) : ValidDevices devices := by
  obtain ⟨listed, _, -, h⟩ := bind_eq_ok h
  obtain ⟨_, _, hvalid, h⟩ := bind_eq_ok h
  cases h
  cases hv : validate_device_inventory devices with
  | ok _ => exact validDevices_of_validate hv
  | error e =>
    rw [hv] at hvalid
    cases hvalid

theorem resolve_device_inventory_valid {s s' : DecoService}
    {resolution : DeviceInventoryResolution}
    (h : resolve_device_inventory config x s = (.ok resolution, s')) :
    ValidDevices resolution.devices := by
  unfold resolve_device_inventory at h
  obtain ⟨attempt, s1, htry, h⟩ := bind_eq_ok h
  cases attempt with
  | ok devices =>
    cases h
    exact read_http_device_inventory_valid (ok_of_trying htry)
  | error e =>
    simp only at h
    by_cases hfallback : tmp_identity_bootstrap_available config = true
    · rw [if_neg (not_not.mpr hfallback)] at h
      obtain ⟨devices, s2, hread, h⟩ := bind_eq_ok h
      cases h
      exact read_tmp_device_inventory_valid hread
    · rw [if_pos hfallback] at h
      cases h

/-! ## The moves of the cache -/

/-- The cache with its resolution. -/
def cached (s : DecoService) : Option (List Device) × Option DeviceInventoryResolution :=
  (s.device_cache, s.device_resolution)

/-- What a section does to the cache when it stores no list that it did not resolve. -/
inductive CacheMove (s s' : DecoService) : Prop
  | kept (same : cached s' = cached s)
  | resolved (resolution : DeviceInventoryResolution) (valid : ValidDevices resolution.devices)
      (now : cached s' = (some resolution.devices, some resolution))
  | cleared (now : cached s' = (none, none))

theorem CacheMove.sound {s s' : DecoService} (move : CacheMove s s') (h : CacheSound s) :
    CacheSound s' := by
  cases move with
  | kept same =>
    obtain ⟨hcache, hresolution⟩ := Prod.mk.inj same
    exact ⟨by rw [hcache, hresolution]; exact h.together, by rw [hcache]; exact h.valid,
      by rw [hcache, hresolution]; exact h.recorded⟩
  | resolved resolution valid now =>
    obtain ⟨hcache, hresolution⟩ := Prod.mk.inj now
    refine ⟨by simp [hcache, hresolution], ?_, ?_⟩
    · intro devices hdevices
      rw [hcache] at hdevices
      cases hdevices
      exact valid
    · intro devices resolution' hdevices hr
      rw [hcache] at hdevices
      rw [hresolution] at hr
      cases hdevices
      cases hr
      rfl
  | cleared now =>
    obtain ⟨hcache, hresolution⟩ := Prod.mk.inj now
    exact ⟨by simp [hcache, hresolution], by simp [hcache], by simp [hcache]⟩

theorem clientless_cached (s : DecoService) (client : Option Bool) :
    cached { s with client } = cached s := rfl

/-- How a refresh of the cache ends. -/
inductive Refreshes (s : DecoService) : Outcome PyError Bool → DecoService → Prop
  | resolved (resolution : DeviceInventoryResolution) (after : DecoService)
      (valid : ValidDevices resolution.devices)
      (now : cached after = (some resolution.devices, some resolution)) :
      Refreshes s (.ok true) after
  | failed (e : PyError) (after : DecoService) (same : cached after = cached s) :
      Refreshes s (.raised e) after
  | waiting (after : DecoService) (same : cached after = cached s) : Refreshes s .waiting after
  | unneeded (listed : s.device_cache ≠ none) : Refreshes s (.ok false) s

/-- Both fields of the cache are set together. -/
def store_resolution (resolution : DeviceInventoryResolution) : ServiceM Bool := fun s =>
  (.ok true, { s with
    device_cache := some resolution.devices, device_resolution := some resolution })

theorem refresh_cache_refreshes (refresh : Bool) (s : DecoService) :
    Refreshes s (refresh_cache config refresh x s).1 (refresh_cache config refresh x s).2 := by
  by_cases hneeded : refresh = true ∨ s.device_cache = none
  · have hrun : refresh_cache config refresh x s =
        (resolve_device_inventory config x >>= store_resolution) s := if_pos hneeded
    rw [hrun]
    rcases hresolve : resolve_device_inventory config x s with ⟨r, s1⟩
    have hkept := (resolve_device_inventory_keeps clientless_cached).of_run hresolve
    cases r with
    | ok resolution =>
      rw [bind_ok hresolve]
      exact .resolved resolution _ (resolve_device_inventory_valid hresolve) rfl
    | raised e =>
      rw [bind_raised hresolve]
      exact .failed e s1 hkept
    | waiting =>
      rw [bind_waiting hresolve]
      exact .waiting s1 hkept
  · have hrun : refresh_cache config refresh x s = (.ok false, s) := if_neg hneeded
    rw [not_or] at hneeded
    rw [hrun]
    exact .unneeded hneeded.2

theorem Refreshes.of_run {refresh : Bool} {s s' : DecoService} {r : Outcome PyError Bool}
    (h : refresh_cache config refresh x s = (r, s')) : Refreshes s r s' := by
  have hends : Refreshes s (refresh_cache config refresh x s).1
      (refresh_cache config refresh x s).2 := refresh_cache_refreshes refresh s
  rwa [h] at hends

theorem cached_inventory_state (router_contacted : Bool) (s : DecoService) :
    (cached_inventory router_contacted s).2 = s := by
  have hkept : Keeps id (cached_inventory router_contacted) := cached_inventory_keeps _
  exact hkept s

/-- The view of valid devices can be given, and says what the resolution recorded. -/
theorem cached_inventory_describes {s : DecoService} {resolution : DeviceInventoryResolution}
    (hvalid : ValidDevices resolution.devices)
    (hcached : cached s = (some resolution.devices, some resolution)) (router_contacted : Bool) :
    ∃ inventory, cached_inventory router_contacted s = (.ok inventory, s) ∧
      Describes resolution inventory := by
  obtain ⟨hcache, hresolution⟩ := Prod.mk.inj hcached
  obtain ⟨controller, hcontroller, -⟩ := hvalid.identified
  unfold cached_inventory inventory_view
  rw [hcache, hresolution]
  simp only [Option.getD_some, hcontroller]
  exact ⟨_, rfl, rfl, rfl, rfl, rfl, rfl⟩

/-- How an inventory ends. -/
inductive Inventories (s : DecoService) : Outcome PyError Inventory → DecoService → Prop
  | resolved (inventory : Inventory) (resolution : DeviceInventoryResolution)
      (after : DecoService) (valid : ValidDevices resolution.devices)
      (now : cached after = (some resolution.devices, some resolution))
      (describes : Describes resolution inventory) : Inventories s (.ok inventory) after
  | viewed (inventory : Inventory) (router_contacted : Bool) (listed : s.device_cache ≠ none)
      (view : cached_inventory router_contacted s = (.ok inventory, s)) :
      Inventories s (.ok inventory) s
  | failed (e : PyError) (after : DecoService) (same : cached after = cached s) :
      Inventories s (.raised e) after
  | waiting (after : DecoService) (same : cached after = cached s) : Inventories s .waiting after

theorem device_inventory_inventories (refresh : Bool) (s : DecoService) :
    Inventories s (device_inventory config refresh x s).1
      (device_inventory config refresh x s).2 := by
  unfold device_inventory
  rcases hrefresh : refresh_cache config refresh x s with ⟨r, s1⟩
  cases Refreshes.of_run hrefresh with
  | resolved resolution _ valid now =>
    obtain ⟨inventory, hview, hdescribes⟩ := cached_inventory_describes valid now true
    rw [bind_ok hrefresh, hview]
    exact .resolved inventory resolution s1 valid now hdescribes
  | failed e _ same =>
    rw [bind_raised hrefresh]
    exact .failed e s1 same
  | waiting _ same =>
    rw [bind_waiting hrefresh]
    exact .waiting s1 same
  | unneeded listed =>
    rw [bind_ok hrefresh]
    have hstate := cached_inventory_state false s
    rcases hview : cached_inventory false s with ⟨r, s2⟩
    rw [hview] at hstate
    cases hstate
    cases r with
    | ok inventory => exact .viewed inventory false listed hview
    | raised e => exact .failed e s2 rfl
    | waiting => exact .waiting s2 rfl

theorem Inventories.of_run {refresh : Bool} {s s' : DecoService} {r : Outcome PyError Inventory}
    (h : device_inventory config refresh x s = (r, s')) : Inventories s r s' := by
  have hends : Inventories s (device_inventory config refresh x s).1
      (device_inventory config refresh x s).2 := device_inventory_inventories refresh s
  rwa [h] at hends

theorem Inventories.moves {s s' : DecoService} {r : Outcome PyError Inventory}
    (h : Inventories s r s') : CacheMove s s' := by
  cases h with
  | resolved inventory resolution _ valid now describes => exact .resolved resolution valid now
  | viewed inventory router_contacted listed view => exact .kept rfl
  | failed e _ same => exact .kept same
  | waiting _ same => exact .kept same

/-- An inventory that raises leaves the cache and the resolution as they were. -/
theorem failed_inventory_keeps {refresh : Bool} {s s' : DecoService} {e : PyError}
    (h : device_inventory config refresh x s = (.raised e, s')) : cached s' = cached s := by
  cases Inventories.of_run h with
  | failed _ _ same => exact same

/-- In a sound state the inventory describes the devices that it returns. -/
theorem inventory_described {refresh : Bool} {s s' : DecoService} {inventory : Inventory}
    (hsound : CacheSound s) (h : device_inventory config refresh x s = (.ok inventory, s')) :
    ∃ resolution, s'.device_resolution = some resolution ∧ Describes resolution inventory := by
  cases Inventories.of_run h with
  | resolved _ resolution _ valid now describes =>
    exact ⟨resolution, (Prod.mk.inj now).2, describes⟩
  | viewed _ router_contacted listed view =>
    cases hresolution : s.device_resolution with
    | none => exact absurd (hsound.together.mpr hresolution) listed
    | some resolution =>
      cases hcache : s.device_cache with
      | none => exact absurd hcache listed
      | some devices =>
        have hdevices := hsound.recorded devices resolution hcache hresolution
        subst hdevices
        have hcached : cached s = (some resolution.devices, some resolution) := by
          unfold cached
          rw [hcache, hresolution]
        obtain ⟨inventory', hview, hdescribes⟩ :=
          cached_inventory_describes (hsound.valid _ hcache) hcached router_contacted
        rw [view] at hview
        cases hview
        exact ⟨resolution, rfl, hdescribes⟩

/-! ## One step -/

theorem get_client_given (s : DecoService) :
    (∃ s', get_client config x s = (.ok (), s')) ↔ client_given config x s = true := by
  unfold get_client client_given
  by_cases hpassword : config.password = ""
  · simp [hpassword]
  · by_cases hclient : s.client = some true
    · simp [hpassword, hclient]
    · cases hlogin : x.login with
      | none => simp [hpassword, hclient]
      | some e => simp [hpassword, hclient]

/-- The cache and the resolution, when a list is stored or none is. -/
def cached_after (stored : Option (List Device)) (s : DecoService) :
    Option (List Device) × Option DeviceInventoryResolution :=
  match stored with
  | some devices => (some devices, s.device_resolution)
  | none => cached s

/-- A section that gets the client first stores a list only if it is given the client. -/
theorem after_client {α : Type} {m : ServiceM α} {stored : Option (List Device)} {s : DecoService}
    (hm : ∀ s', cached s' = cached s → cached (m s').2 = cached_after stored s) :
    cached ((get_client config x >>= fun _ => m) s).2 =
      cached_after (if client_given config x s then stored else none) s := by
  have hgiven : (∃ s', get_client config x s = (.ok (), s')) ↔ client_given config x s = true :=
    get_client_given s
  rcases hclient : get_client config x s with ⟨r, s'⟩
  have hkept := (get_client_keeps clientless_cached).of_run hclient
  rw [hclient] at hgiven
  cases r with
  | ok _ =>
    rw [bind_ok hclient, if_pos (hgiven.mp ⟨s', rfl⟩)]
    exact hm s' hkept
  | raised e =>
    rw [bind_raised hclient, if_neg (by rw [← hgiven]; simp)]
    exact hkept
  | waiting =>
    rw [bind_waiting hclient, if_neg (by rw [← hgiven]; simp)]
    exact hkept

/-- The list is stored, whatever comes after it without a change. -/
theorem store_then {α : Type} {m : ServiceM α} (hm : ∀ s, (m s).2 = s) (devices : List Device)
    {s s' : DecoService} (hsame : cached s' = cached s) :
    cached ((set_device_cache devices >>= fun _ => m) s').2 = cached_after (some devices) s := by
  have hstored : set_device_cache devices s' =
      (.ok (), { s' with device_cache := some devices }) := rfl
  rw [bind_ok hstored, hm]
  exact Prod.ext rfl (Prod.mk.inj hsame).2

theorem mesh_overview_cached (s : DecoService) :
    cached (mesh_overview config x s).2 = cached_after (overview_list config x s) s := by
  have hlast : ∀ devices t, ((raise_some x.clients_by_node >>= fun _ => pure devices :
      ServiceM (List Device)) t).2 = t := by
    intro devices t
    cases x.clients_by_node <;> rfl
  unfold mesh_overview overview_list
  by_cases hgate : config.allow_sensitive_reads = true
  · rw [if_neg (not_not.mpr hgate), hgate, Bool.true_and]
    apply after_client
    intro s' hsame
    cases x.http_devices with
    | ok devices => exact store_then (hlast devices) devices hsame
    | error e => exact hsame
  · rw [if_pos hgate]
    rw [Bool.not_eq_true] at hgate
    rw [hgate]
    rfl

theorem read_http_mesh_nodes_cached (s : DecoService) :
    cached (read_http_mesh_nodes config x s).2 = cached_after (mesh_nodes_list config x s) s := by
  unfold read_http_mesh_nodes mesh_nodes_list
  apply after_client
  intro s' hsame
  have hcache : s'.device_cache = s.device_cache := (Prod.mk.inj hsame).1
  have hstored : ∀ devices, cached_or_listed x s' = (.ok devices, s') →
      cached ((cached_or_listed x >>= fun devices => set_device_cache devices >>= fun _ =>
        pure devices) s').2 = cached_after (some devices) s := by
    intro devices hlisted
    rw [bind_ok hlisted]
    exact store_then (fun _ => rfl) devices hsame
  have hlisted : cached_or_listed x s' = match s'.device_cache with
      | some (device :: devices) => (.ok (device :: devices), s')
      | _ => Prog.lift x.http_devices s' := by
    unfold cached_or_listed
    rcases s'.device_cache with _ | _ | ⟨device, devices⟩ <;> rfl
  rw [hcache] at hlisted
  split at hlisted
  · exact hstored _ hlisted
  · cases hdevices : x.http_devices with
    | ok devices =>
      rw [hdevices] at hlisted
      exact hstored devices hlisted
    | error e =>
      rw [hdevices] at hlisted
      rw [bind_raised hlisted]
      exact hsame

theorem cacheMove_of_section {α : Type} {m : ServiceM α} {w w' : World} {own' : Call}
    {es : List Event} {ok : α → Call × List Event} {raised : PyError → Call × List Event}
    (hm : CacheMove w.deco_service (m w.deco_service).2)
    (h : on_service m w ok raised = some (w', own', es)) :
    CacheMove w.deco_service w'.deco_service := by
  obtain ⟨after, rfl, ⟨a, hrun, -⟩ | ⟨e, hrun, -⟩⟩ := on_service_cases h
  · rwa [hrun] at hm
  · rwa [hrun] at hm

theorem cached_of_section {α : Type} {m : ServiceM α} {w w' : World} {own' : Call}
    {es : List Event} {ok : α → Call × List Event} {raised : PyError → Call × List Event}
    {stored : Option (List Device)}
    (hm : cached (m w.deco_service).2 = cached_after stored w.deco_service)
    (h : on_service m w ok raised = some (w', own', es)) :
    cached w'.deco_service = cached_after stored w.deco_service := by
  obtain ⟨after, rfl, ⟨a, hrun, -⟩ | ⟨e, hrun, -⟩⟩ := on_service_cases h
  · rwa [hrun] at hm
  · rwa [hrun] at hm

theorem Claims.cacheMove {plan_id confirmation : String} {s after : DecoService}
    {r : Outcome PyError PendingMutationPlan}
    (claim : Claims config plan_id confirmation x s r after) : CacheMove s after := by
  have hdeleted : ∀ t, CacheMove s t → CacheMove s (delete_plan plan_id t).2 := by
    intro t ht
    cases ht with
    | kept same => exact .kept same
    | resolved resolution valid now => exact .resolved resolution valid now
    | cleared now => exact .cleared now
  cases claim with
  | unknown absent => exact .kept rfl
  | expired plan found late => exact .kept rfl
  | unconfirmed plan found in_time wrong => exact .kept rfl
  | unlisted plan e after found in_time right refresh => exact (Inventories.of_run refresh).moves
  | unidentified plan inventory e after found in_time right refresh identity =>
    exact (Inventories.of_run refresh).moves
  | changed plan inventory identity after found in_time right refresh identified other =>
    exact hdeleted _ (Inventories.of_run refresh).moves
  | claimed plan inventory after found in_time right refresh identified =>
    exact hdeleted _ (Inventories.of_run refresh).moves
  | waiting after refresh => exact (Inventories.of_run refresh).moves

theorem require_exact_p9_profile_moves (s : DecoService) :
    CacheMove s (require_exact_p9_profile config x s).2 := by
  unfold require_exact_p9_profile
  rcases hrun : device_inventory config false x s with ⟨r, after⟩
  have hmove := (Inventories.of_run hrun).moves
  cases r with
  | ok inventory =>
    rw [bind_ok hrun]
    split <;> exact hmove
  | raised e =>
    rw [bind_raised hrun]
    exact hmove
  | waiting =>
    rw [bind_waiting hrun]
    exact hmove

theorem store_plan_moves (plan_id name mode confirmation : String) (expires_at : Rat)
    (s : DecoService) : CacheMove s (store_plan plan_id name mode confirmation expires_at s).2 := by
  unfold store_plan
  split <;> exact .kept rfl

theorem semantic_mutation_plan_moves (plan_id : String) (s : DecoService) :
    CacheMove s (semantic_mutation_plan plan_id x s).2 := by
  unfold semantic_mutation_plan
  split
  · exact .kept rfl
  · split <;> exact .kept rfl

/-- How a step leaves the cache: it stores a list that it did not resolve, or it moves. -/
def CacheStep (config : ServerConfig) (a : Act) (w : World) (own : Call) (w' : World) : Prop :=
  match stored_list config a w own with
  | some devices => cached w'.deco_service = (some devices, w.deco_service.device_resolution)
  | none => CacheMove w.deco_service w'.deco_service

theorem cacheStep_of_stored {a : Act} {w w' : World} {own : Call}
    (h : cached w'.deco_service = cached_after (stored_list config a w own) w.deco_service) :
    CacheStep config a w own w' := by
  unfold CacheStep
  unfold cached_after at h
  split
  · rename_i devices hstored
    rwa [hstored] at h
  · rename_i hstored
    rw [hstored] at h
    exact .kept h

theorem noop_step_cached {job : NoopJob} {w w' : World} {own' : Call} {es : List Event}
    (h : noop_step config job x w = some (w', own', es)) :
    CacheMove w.deco_service w'.deco_service := by
  have hkept : cached (run_noop config job.operation job.confirmation x w.deco_service).2 =
      cached w.deco_service :=
    run_noop_keeps clientless_cached (fun _ _ => rfl) job.operation job.confirmation w.deco_service
  unfold noop_step at h
  simp only [Option.map_eq_some_iff] at h
  obtain ⟨⟨call, events⟩, -, h⟩ := h
  cases h
  exact .kept hkept

theorem reserve_step_service (store : InMemoryIdempotencyStore Rat) (request : Request)
    (plan_id confirmation : String) (x : Outside) (w : World) :
    (reserve_step store request plan_id confirmation x w).1.deco_service = w.deco_service := by
  unfold reserve_step
  split <;> rfl

theorem answer_step_service (store : InMemoryIdempotencyStore Rat) (request : Request)
    (outcome : Except PyError Execution) (x : Outside) (w : World) :
    (answer_step store request outcome x w).1.deco_service = w.deco_service := by
  unfold answer_step
  split <;> rfl

theorem read_step_cached {what : ReadSection} {w w' : World} {own' : Call} {es : List Event}
    (h : read_step config x w what = some (w', own', es)) :
    CacheStep config (.read what x) w .reading w' := by
  cases what with
  | devices => exact cacheMove_of_section (device_inventory_inventories _ _).moves h
  | mesh_nodes => exact cacheStep_of_stored (cached_of_section (read_http_mesh_nodes_cached _) h)
  | client =>
    have hkept : Keeps cached (get_client config x) := get_client_keeps clientless_cached
    exact cacheMove_of_section (.kept (hkept _)) h

theorem service_step_cached {a : Act} {w w' : World} {own own' : Call} {es : List Event}
    (h : service_step config store a w own = some (w', own', es)) :
    CacheStep config a w own w' := by
  unfold service_step at h
  split at h
  · injection h with h
    injection h with hw hgoes
    subst hw
    exact .kept rfl
  · exact cacheMove_of_section (device_inventory_inventories _ _).moves h
  · cases h
    exact .kept rfl
  · exact cacheMove_of_section (store_plan_moves _ _ _ _ _ _) h
  · rename_i x request plan_id confirmation
    have hservice := reserve_step_service store request plan_id confirmation x w
    rw [Option.some.inj h] at hservice
    exact .kept (congrArg cached hservice)
  · exact cacheMove_of_section (claim_plan_claims _ _ _).cacheMove h
  · exact cacheMove_of_section (require_exact_p9_profile_moves _) h
  · exact noop_step_cached h
  · rename_i x request outcome
    have hservice := answer_step_service store request outcome x w
    rw [Option.some.inj h] at hservice
    exact .kept (congrArg cached hservice)
  · exact cacheMove_of_section (semantic_mutation_plan_moves _ _) h
  · exact cacheMove_of_section (device_inventory_inventories _ _).moves h
  · exact cacheStep_of_stored (cached_of_section (mesh_overview_cached _) h)
  · exact cacheMove_of_section (device_inventory_inventories _ _).moves h
  · exact cacheMove_of_section (.cleared rfl) h
  · exact read_step_cached h
  · cases h
    exact .kept rfl
  · cases h

/-- A step keeps the cache sound exactly when it stores no list but the one in the cache. -/
theorem sound_step {a : Act} {w w' : World} {own own' : Call} {es : List Event}
    (hsound : CacheSound w.deco_service)
    (h : service_step config store a w own = some (w', own', es)) :
    CacheSound w'.deco_service ↔ ∀ devices, stored_list config a w own = some devices →
      w.deco_service.device_cache = some devices := by
  have hstep := service_step_cached h
  unfold CacheStep at hstep
  split at hstep
  · rename_i devices hstored
    obtain ⟨hcache, hresolution⟩ := Prod.mk.inj hstep
    simp only [hstored, Option.some.injEq, forall_eq']
    constructor
    · intro hsound'
      cases hres : w.deco_service.device_resolution with
      | none =>
        rw [hres] at hresolution
        have hnone := hsound'.together.mpr hresolution
        rw [hcache] at hnone
        cases hnone
      | some resolution =>
        rw [hres] at hresolution
        have hnow := hsound'.recorded devices resolution hcache hresolution
        cases hbefore : w.deco_service.device_cache with
        | none =>
          rw [hsound.together.mp hbefore] at hres
          cases hres
        | some before => rw [← hnow, hsound.recorded before resolution hbefore hres]
    · intro hsame
      refine CacheMove.sound (.kept ?_) hsound
      exact Prod.ext (hcache.trans hsame.symm) hresolution
  · rename_i hstored
    simp only [hstored, reduceCtorEq, false_implies, implies_true, iff_true]
    exact hstep.sound hsound

/-! ## Whole runs -/

/-- The cache is sound in every state of every run whose steps store no list but the one in
the cache, and a step that stores another one breaks it. An inventory that raises changes
neither field, and in a sound state it describes the devices that it returns. -/
theorem the_cache_is_sound_exactly_when_resolved (config : ServerConfig)
    (store : InMemoryIdempotencyStore Rat) :
    (∀ p h, Reaches (service_threads config store) (StoresCached config) started p h →
      CacheSound p.shared.deco_service) ∧
    (∀ p h t a w own es, Reaches (service_threads config store) (StoresCached config) started p h →
      service_step config store a p.shared (p.thread t) = some (w, own, es) →
      (CacheSound w.deco_service ↔ StoresCached config p t a)) ∧
    (∀ refresh x s e s', device_inventory config refresh x s = (.raised e, s') →
      s'.device_cache = s.device_cache ∧ s'.device_resolution = s.device_resolution) ∧
    ∀ refresh x s inventory s', CacheSound s →
      device_inventory config refresh x s = (.ok inventory, s') →
      ∃ resolution, s'.device_resolution = some resolution ∧ Describes resolution inventory := by
  have hsound : ∀ p h, Reaches (service_threads config store) (StoresCached config) started p h →
      CacheSound p.shared.deco_service := by
    intro p h hr
    refine hr.invariant (I := fun p _ => CacheSound p.shared.deco_service) ?_ ?_
    · exact ⟨by simp [started], by simp [started], by simp [started]⟩
    · intro p h t a w own es hp hallowed hfires
      exact (sound_step hp hfires).mpr hallowed
  refine ⟨hsound, ?_, ?_, ?_⟩
  · intro p h t a w own es hr hfires
    exact sound_step (hsound p h hr) hfires
  · intro refresh x s e s' h
    exact Prod.mk.inj (failed_inventory_keeps h)
  · intro refresh x s inventory s' hs h
    exact inventory_described hs h

/-! ## An overview of other devices -/

def reading_config : ServerConfig := { password := "secret", allow_sensitive_reads := true }

/-- The devices are resolved, and then an overview lists `devices`. -/
def resolved_and_overviewed (devices : List Device) : List (Nat × Act) := [
  (0, .call (.device_inventory false)),
  (0, .section { http_devices := .ok [p9_controller "AA-BB-CC-DD-EE-FF"] }),
  (0, .call .mesh_overview),
  (0, .section { http_devices := .ok devices })]

/-- What the state shows of the cached devices, and of those that the resolution recorded. -/
def shown (p : Pool World Call) : Option (List Device) × Option (List Device) :=
  (p.shared.deco_service.device_cache, p.shared.deco_service.device_resolution.map (·.devices))

theorem storesCached_of_check (p : Pool World Call) (t : Nat) (a : Act)
    (h : (match stored_list reading_config a p.shared (p.thread t) with
      | some devices => decide (p.shared.deco_service.device_cache = some devices)
      | none => true) = true) : StoresCached reading_config p t a := by
  intro devices hstored
  rw [hstored] at h
  exact of_decide_eq_true h

/-- An overview of the resolved devices. -/
theorem an_overview_of_the_resolved_devices : ∃ p h,
    Reaches (service_threads reading_config lab_store) (StoresCached reading_config) started p h ∧
      shown p = (some [p9_controller "AA-BB-CC-DD-EE-FF"],
        some [p9_controller "AA-BB-CC-DD-EE-FF"]) ∧ CacheSound p.shared.deco_service := by
  have hrun : ((service_threads reading_config lab_store).run
      (resolved_and_overviewed [p9_controller "AA-BB-CC-DD-EE-FF"]) started []).map
        (fun r => shown r.1) = some (some [p9_controller "AA-BB-CC-DD-EE-FF"],
          some [p9_controller "AA-BB-CC-DD-EE-FF"]) := by
    decide +kernel
  obtain ⟨⟨p, h⟩, hrun, hshown⟩ := Option.map_eq_some_iff.mp hrun
  have hreaches := reaches_of_allowed_run _ .refl hrun
    (runAllowed_of_passes storesCached_of_check _ started (by decide +kernel))
  exact ⟨p, h, hreaches, hshown,
    (the_cache_is_sound_exactly_when_resolved reading_config lab_store).1 p h hreaches⟩

/-- An overview that lists a controller without a MAC: it is cached as it is, beside the
resolution of the devices that were there before. -/
theorem an_overview_stores_what_it_did_not_resolve :
    (∃ p h, Reaches (service_threads reading_config lab_store) anyStep started p h ∧
      shown p = (some [p9_controller ""], some [p9_controller "AA-BB-CC-DD-EE-FF"])) ∧
    ¬ ∀ config store p h, Reaches (service_threads config store) anyStep started p h →
      CacheSound p.shared.deco_service := by
  have hrun : ((service_threads reading_config lab_store).run
      (resolved_and_overviewed [p9_controller ""]) started []).map (fun r => shown r.1) =
        some (some [p9_controller ""], some [p9_controller "AA-BB-CC-DD-EE-FF"]) := by
    decide +kernel
  obtain ⟨⟨p, h⟩, hrun, hshown⟩ := Option.map_eq_some_iff.mp hrun
  have hreaches := reaches_of_run _ .refl hrun
  refine ⟨⟨p, h, hreaches, hshown⟩, ?_⟩
  intro hall
  have hvalid := (hall _ _ p h hreaches).valid _ (Prod.mk.inj hshown).1
  obtain ⟨controller, hcontroller, hmac, -⟩ := hvalid.identified
  cases hcontroller
  exact hmac rfl

end tplink_deco_api.service
