-- The planner and the executor of the semantic mutations. An eligible mutation that
-- one thread plans and executes at once reaches its preflight read exactly when the
-- latch of the HTTP writes is clear.
import TplinkDeco.Service.CacheInvariant
import TplinkDeco.Service.Latch

open dict json prog threads

namespace tplink_deco_api.service

open exceptions http_noop_verification rest Prog

variable {config : ServerConfig} {store : InMemoryIdempotencyStore Rat}

/-! ## What the catalogue reports -/

/-- Whether a mutation can be made now. -/
inductive ExecutionStatus where
  | blocked
  | gated
  | ready
deriving DecidableEq

/-- The fields of `_semantic_mutation_entry` that say whether and how it can be executed. -/
structure SemanticMutationEntry where
  name : String
  execution_scope : String
  execution_status : ExecutionStatus
  required_gates : List String
  confirmation_required : Bool
  execute_operation : Option String

/-- `_semantic_mutation_entry`. -/
def semantic_mutation_entry (config : ServerConfig) (name : String) (profile : ProfileMatch) :
    SemanticMutationEntry :=
  let route := get_mutation_capability_route name
  let gates := (route.map (·.required_environment_gates)).getD []
  let exact_route := route.isSome && decide (profile = .exact)
  { name
    execution_scope := if exact_route then "noop_only" else "none"
    execution_status :=
      if ¬ exact_route then .blocked
      else if gates.all (mutation_gate_enabled config) then .ready
      else .gated
    required_gates := gates
    confirmation_required := exact_route
    execute_operation := if exact_route then some "execute_mutation" else none }

/-- What both the preflight and the catalogue check. -/
structure Eligible (config : ServerConfig) (name : String) (profile : ProfileMatch)
    (route : MutationCapabilityRoute) : Prop where
  routed : get_mutation_capability_route name = some route
  exact_profile : profile = .exact
  gates_open : route.required_environment_gates.all (mutation_gate_enabled config) = true

theorem eligible_of_ready {name : String} {profile : ProfileMatch}
    (h : (semantic_mutation_entry config name profile).execution_status = .ready) :
    ∃ route, Eligible config name profile route := by
  unfold semantic_mutation_entry at h
  cases hroute : get_mutation_capability_route name with
  | none => simp [hroute] at h
  | some route =>
    by_cases hprofile : profile = .exact
    · by_cases hgates : route.required_environment_gates.all (mutation_gate_enabled config) = true
      · exact ⟨route, hroute, hprofile, hgates⟩
      · simp [hroute, hprofile, hgates] at h
    · simp [hroute, hprofile] at h

theorem eligible_of_allowed {name : String} {changes : JsonObject} {mode : String}
    {profile : ProfileMatch} (h : execution_allowed config name changes mode profile = .ok true) :
    ∃ route, Eligible config name profile route := by
  unfold execution_allowed at h
  split at h
  · cases h
  · cases hroute : get_mutation_capability_route name with
    | none => simp [hroute] at h
    | some route =>
      simp only [hroute, Except.ok.injEq, Bool.and_eq_true, decide_eq_true_eq] at h
      exact ⟨route, hroute, h.1.2, h.2⟩

/-! ## The routes -/

/-- What the executor asks of the operation of a route. -/
structure NoopRoute (route : MutationCapabilityRoute) : Prop where
  listed : route.name ∈ SEMANTIC_MUTATIONS
  interface : route.interface = "http_luci"
  confirmation : HTTP_NOOP_CONFIRMATIONS route.operation = some route.confirmation
  gates : route.required_environment_gates =
    ["DECO_ALLOW_MUTATIONS", "DECO_ALLOW_HTTP_NOOP_VERIFICATION"]
  evidence : P9_COMPATIBILITY_PROFILE route.operation =
    { mutation_tested := true, mutation_test_scope := "noop_only", error_code := some 0 }

theorem noopRoute_of_mem {route : MutationCapabilityRoute}
    (h : route ∈ MUTATION_CAPABILITY_ROUTES) : NoopRoute route := by
  simp only [MUTATION_CAPABILITY_ROUTES, List.mem_cons, List.not_mem_nil, or_false] at h
  rcases h with rfl | rfl | rfl <;> exact ⟨by decide, rfl, rfl, rfl, rfl⟩

theorem route_of_name {name : String} {route : MutationCapabilityRoute}
    (h : get_mutation_capability_route name = some route) :
    route.name = name ∧ NoopRoute route := by
  unfold get_mutation_capability_route at h
  have hname := List.find?_some h
  exact ⟨of_decide_eq_true hname, noopRoute_of_mem (List.mem_of_find?_eq_some h)⟩

variable {name : String} {profile : ProfileMatch} {route : MutationCapabilityRoute}

theorem Eligible.open_gates (h : Eligible config name profile route) :
    config.allow_mutations = true ∧ config.allow_http_noop_verification = true := by
  have hgates := h.gates_open
  rw [(route_of_name h.routed).2.gates] at hgates
  simpa [mutation_gate_enabled] using hgates

theorem Eligible.allowed (h : Eligible config name profile route) :
    execution_allowed config name [] VERIFY_MODE profile = .ok true := by
  obtain ⟨hname, hroute⟩ := route_of_name h.routed
  have hlisted : name ∈ SEMANTIC_MUTATIONS := hname ▸ hroute.listed
  unfold execution_allowed
  rw [if_neg (not_not.mpr hlisted)]
  simp only [h.routed, h.exact_profile, h.gates_open]
  rfl

theorem Eligible.ready (h : Eligible config name profile route) :
    (semantic_mutation_entry config name profile).execution_status = .ready := by
  unfold semantic_mutation_entry
  simp only [h.routed, h.exact_profile, Option.map_some, Option.getD_some, h.gates_open]
  rfl

/-- The checks of the executor before its first section find nothing wrong. -/
theorem Eligible.checked (h : Eligible config name profile route) :
    check_p9_http_noop config route.operation route.confirmation = .ok () := by
  obtain ⟨hmutations, hnoop⟩ := h.open_gates
  have hroute := (route_of_name h.routed).2
  unfold check_p9_http_noop
  simp [hroute.confirmation, hroute.evidence, hmutations, hnoop]

theorem Eligible.operation (h : Eligible config name profile route) :
    setting_noop_operation name route.confirmation = .ok route.operation := by
  unfold setting_noop_operation
  simp [h.routed, (route_of_name h.routed).2.interface]

/-! ## The controller of an inventory -/

/-- The fields of which the identity of a controller is made. -/
structure SameController (controller other : Device) : Prop where
  mac : other.mac = controller.mac
  device_model : other.device_model = controller.device_model
  hardware_ver : other.hardware_ver = controller.hardware_ver
  software_ver : other.software_ver = controller.software_ver

/-- The inventory shows the controller of the devices that are cached after it. -/
structure ShowsController (inventory : Inventory) (s : DecoService) : Prop where
  listed : ∃ devices, s.device_cache = some devices ∧
    controller_device devices = .ok inventory.controller
  profile : inventory.profile_match = profile_match inventory.controller

/-- The view of the cached devices: its controller, and the profile of the controller. -/
theorem view_cases {router_contacted : Bool} {inventory : Inventory} {s s' : DecoService}
    {devices : List Device} (hcache : s.device_cache = some devices)
    (h : cached_inventory router_contacted s = (.ok inventory, s')) :
    controller_device devices = .ok inventory.controller ∧
      inventory.profile_match = profile_match inventory.controller := by
  unfold cached_inventory at h
  rw [hcache] at h
  cases hcontroller : controller_device devices with
  | error e =>
    unfold inventory_view at h
    simp only [Option.getD_some, hcontroller] at h
    cases h
  | ok controller =>
    unfold inventory_view at h
    simp only [Option.getD_some, hcontroller] at h
    injection h with h
    injection h with h
    have hshown := congrArg Inventory.controller h
    have hprofile := congrArg Inventory.profile_match h
    dsimp only at hshown hprofile
    rw [← hprofile, ← hshown]
    exact ⟨rfl, rfl⟩

theorem shows_of_view {router_contacted : Bool} {inventory : Inventory} {s s' : DecoService}
    (hlisted : s.device_cache ≠ none)
    (h : cached_inventory router_contacted s = (.ok inventory, s')) :
    ShowsController inventory s := by
  cases hcache : s.device_cache with
  | none => exact absurd hcache hlisted
  | some devices =>
    obtain ⟨hcontroller, hprofile⟩ := view_cases hcache h
    exact ⟨⟨devices, hcache, hcontroller⟩, hprofile⟩

theorem shows_of_inventory {refresh : Bool} {x : Outside} {inventory : Inventory}
    {s s' : DecoService} (h : device_inventory config refresh x s = (.ok inventory, s')) :
    ShowsController inventory s' := by
  obtain ⟨router_contacted, s1, hrefresh, hview⟩ := bind_eq_ok h
  have hlisted : s1.device_cache ≠ none := by
    cases Refreshes.of_run hrefresh with
    | resolved resolution _ valid now => simp [(Prod.mk.inj now).1]
    | unneeded listed => exact listed
  have hstate := cached_inventory_state router_contacted s1
  rw [hview] at hstate
  cases hstate
  exact shows_of_view hlisted hview

/-- The identity of the controller, from its fields. -/
def identity_of (controller : Device) : String :=
  sha256.hexdigest (text.encode ("\n".intercalate [controller.mac, controller.device_model,
    controller.hardware_ver, controller.software_ver]))

theorem ShowsController.identity {inventory : Inventory} {s : DecoService}
    (h : ShowsController inventory s) :
    controller_identity s.device_cache = .ok (identity_of inventory.controller) := by
  obtain ⟨devices, hcache, hcontroller⟩ := h.listed
  rw [hcache]
  show (controller_device devices >>= fun controller => Except.ok (identity_of controller)) = _
  rw [hcontroller]
  rfl

theorem identity_of_same {controller other : Device} (h : SameController controller other) :
    identity_of other = identity_of controller := by
  unfold identity_of
  rw [h.mac, h.device_model, h.hardware_ver, h.software_ver]

theorem profile_of_same {controller other : Device} (h : SameController controller other) :
    profile_match other = profile_match controller := by
  unfold profile_match
  rw [h.device_model, h.hardware_ver, h.software_ver]

/-- Devices are only listed with a password. -/
theorem password_of_resolve {x : Outside} {resolution : DeviceInventoryResolution}
    {s s' : DecoService} (h : resolve_device_inventory config x s = (.ok resolution, s')) :
    config.password ≠ "" := by
  obtain ⟨attempt, s1, htry, h⟩ := bind_eq_ok h
  cases attempt with
  | ok devices =>
    obtain ⟨_, _, hclient, -⟩ := bind_eq_ok (ok_of_trying htry)
    intro hnone
    simp [get_client, hnone] at hclient
  | error e =>
    simp only at h
    by_cases hfallback : tmp_identity_bootstrap_available config = true
    · simp only [tmp_identity_bootstrap_available, Bool.and_eq_true, decide_eq_true_eq] at hfallback
      exact hfallback.1.2
    · rw [if_pos hfallback] at h
      cases h

theorem password_of_refresh {x : Outside} {inventory : Inventory} {s s' : DecoService}
    (h : device_inventory config true x s = (.ok inventory, s')) : config.password ≠ "" := by
  obtain ⟨router_contacted, s1, hrefresh, -⟩ := bind_eq_ok h
  have hrun : refresh_cache config true x s =
      (resolve_device_inventory config x >>= store_resolution) s := if_pos (Or.inl rfl)
  rw [hrun] at hrefresh
  obtain ⟨resolution, s2, hresolve, -⟩ := bind_eq_ok hrefresh
  exact password_of_resolve hresolve

/-! ## The sections of the executor -/

/-- A plan that is found in time, with its confirmation and for the same controller. -/
theorem claim_plan_ok {x : Outside} {s after : DecoService} {plan : PendingMutationPlan}
    {inventory : Inventory} (hfound : s.pending_mutation_plans.get? plan.plan_id = some plan)
    (hin_time : x.now ≤ plan.expires_at)
    (hrefresh : device_inventory config true x s = (.ok inventory, after))
    (hidentity : controller_identity after.device_cache = .ok plan.controller_identity) :
    claim_plan config plan.plan_id plan.confirmation x s =
      (.ok plan, (delete_plan plan.plan_id after).2) := by
  unfold claim_plan
  simp only [hfound, not_lt.mpr hin_time, if_false, ne_eq, not_true]
  rw [bind_ok hrefresh, bind_ok (cached_controller_identity_ok hidentity)]
  simp only [not_true, if_false]
  rfl

theorem require_exact_p9_profile_ok {x : Outside} {s : DecoService} {inventory : Inventory}
    (hshows : ShowsController inventory s) (hprofile : inventory.profile_match = .exact) :
    require_exact_p9_profile config x s = (.ok (), s) := by
  obtain ⟨devices, hcache, hcontroller⟩ := hshows.listed
  have hrefresh : refresh_cache config false x s = (.ok false, s) := if_neg (by simp [hcache])
  obtain ⟨seen, hseen⟩ : ∃ seen, cached_inventory false s = (.ok seen, s) := by
    unfold cached_inventory inventory_view
    rw [hcache]
    simp only [Option.getD_some, hcontroller]
    exact ⟨_, rfl⟩
  obtain ⟨hsame, hexact⟩ := view_cases hcache hseen
  rw [hcontroller] at hsame
  rw [← Except.ok.inj hsame, ← hshows.profile, hprofile] at hexact
  have hinventory : device_inventory config false x s = (.ok seen, s) := by
    unfold device_inventory
    rw [bind_ok hrefresh, hseen]
  unfold require_exact_p9_profile
  rw [bind_ok hinventory, if_neg (not_not.mpr hexact)]
  rfl

/-- The last section, with a password and a login that is not refused: it runs the verifier
when the latch is clear. -/
theorem run_noop_unlatched {x : Outside} {s : DecoService} (operation confirmation : String)
    (hpassword : config.password ≠ "") (hlogin : x.login = none)
    (hlatch : s.http_mutation_latched = false) :
    (run_noop config operation confirmation x s).1.calls =
      (verify_http_setting_noop operation confirmation { answers := x.answers }).2.calls := by
  have hclient : ∃ s', get_client config x s = (.ok (), s') := by
    rw [get_client_given]
    simp [client_given, hpassword, hlogin]
  obtain ⟨s', hclient⟩ := hclient
  unfold run_noop
  simp only [hlatch, Bool.false_eq_true, if_false, hclient]

theorem run_noop_latched {x : Outside} {s : DecoService} (operation confirmation : String)
    (hlatch : s.http_mutation_latched = true) :
    run_noop config operation confirmation x s = ({ outcome := .raised latched_error }, s) := by
  unfold run_noop
  rw [if_pos hlatch]

/-! ## One thread plans and executes -/

variable (store)

/-- The steps of `plan_semantic_mutation`, on what the outside gives to each of them. -/
def planning (t : Nat) (name : String) (changes : JsonObject) (mode : String)
    (x1 x2 x3 : Outside) : List (Nat × Act) := [
  (t, .call (.plan_semantic_mutation name changes mode)), (t, .section x1), (t, .section x2),
  (t, .section x3)]

/-- The steps of `execute_semantic_mutation`. -/
def executing (t : Nat) (plan_id confirmation : String) (x4 x5 x6 : Outside) :
    List (Nat × Act) := [
  (t, .call (.execute_semantic_mutation plan_id confirmation)), (t, .section x4), (t, .section x5),
  (t, .section x6)]

/-- The plan that is made of a new token. -/
def planned (x : Outside) (name confirmation identity : String) : PendingMutationPlan := {
  plan_id := x.token
  mutation := name
  mode := VERIFY_MODE
  confirmation
  controller_identity := identity
  expires_at := x.now + SEMANTIC_PLAN_TTL_SECONDS }

@[simp] theorem planned_plan_id (x : Outside) (name confirmation identity : String) :
    (planned x name confirmation identity).plan_id = x.token := rfl

theorem planning_run {p : Pool World Call} {t : Nat} {x1 : Outside} {inventory : Inventory}
    {s1 : DecoService} (hidle : p.thread t = .idle)
    (hinventory : device_inventory config false x1 p.shared.deco_service = (.ok inventory, s1))
    (h : Eligible config name inventory.profile_match route) (x2 x3 : Outside) :
    ∃ p1, (service_threads config store).run (planning t name [] VERIFY_MODE x1 x2 x3) p [] =
        some (p1, [(t, .planned x2.token), (t, .returned)]) ∧
      p1.thread t = .idle ∧
      p1.shared.deco_service = { s1 with
        pending_mutation_plans := s1.pending_mutation_plans.set x2.token
          (planned x2 name route.confirmation (identity_of inventory.controller)) } := by
  have hcall : service_step config store (.call (.plan_semantic_mutation name [] VERIFY_MODE))
      p.shared .idle = some (p.shared, .planning name [] VERIFY_MODE, []) := rfl
  have hassess : service_step config store (.section x1) p.shared (.planning name [] VERIFY_MODE) =
      some ({ p.shared with deco_service := s1 }, .drawing name VERIFY_MODE route.confirmation,
        []) := by
    unfold service_step on_service assess_plan
    simp only [hinventory, h.allowed, h.routed]
  have hstore : ∀ w : World, w.deco_service = s1 →
      service_step config store (.section x3) w (.storing x2.token name VERIFY_MODE
        route.confirmation (x2.now + SEMANTIC_PLAN_TTL_SECONDS)) =
      some ({ w with deco_service := { s1 with
          pending_mutation_plans := s1.pending_mutation_plans.set x2.token
            (planned x2 name route.confirmation (identity_of inventory.controller)) } },
        .idle, [.planned x2.token, .returned]) := by
    rintro w rfl
    have hidentity := (shows_of_inventory hinventory).identity
    unfold service_step on_service store_plan
    simp only [hidentity]
    rfl
  unfold planning
  rw [run_cons (S := service_threads config store) (by rw [hidle]; exact hcall),
    run_cons (S := service_threads config store) (by rw [put_same]; exact hassess),
    run_cons (S := service_threads config store) (by rw [put_same]; rfl),
    run_cons (S := service_threads config store) (by rw [put_same]; exact hstore _ rfl)]
  exact ⟨_, rfl, put_same _ _ _ _, rfl⟩

/-- What the router gives to an execution: in time, with the controller of the plan, and
with a login that it does not refuse. -/
structure Favourable (config : ServerConfig) (s : DecoService) (plan : PendingMutationPlan)
    (controller : Device) (x4 x6 : Outside) (other : Inventory) (s4 : DecoService) : Prop where
  in_time : x4.now ≤ plan.expires_at
  reported : device_inventory config true x4 s = (.ok other, s4)
  same : SameController controller other.controller
  login : x6.login = none

theorem execute_plan_eligible {plan : PendingMutationPlan} (hmode : plan.mode = VERIFY_MODE)
    (h : Eligible config plan.mutation profile route) :
    execute_plan config route.confirmation none plan =
      (.profiling {
        operation := route.operation
        confirmation := route.confirmation
        plan := some plan }, [.verifying plan.plan_id]) := by
  unfold execute_plan start_setting_noop start_p9_http_noop
  rw [if_neg (not_not.mpr hmode)]
  simp only [h.operation, h.checked]

/-- The execution of a plan comes to the last section of the verifier. -/
theorem executing_run {p : Pool World Call} {t : Nat} {plan : PendingMutationPlan}
    {controller : Device} {x4 x6 : Outside} {other : Inventory} {s4 : DecoService}
    (hidle : p.thread t = .idle)
    (hfound : p.shared.deco_service.pending_mutation_plans.get? plan.plan_id = some plan)
    (hmode : plan.mode = VERIFY_MODE) (hconfirmation : plan.confirmation = route.confirmation)
    (hidentity : plan.controller_identity = identity_of controller)
    (h : Eligible config plan.mutation (profile_match controller) route)
    (hx : Favourable config p.shared.deco_service plan controller x4 x6 other s4)
    (x5 : Outside) :
    ∃ p2 job identity events,
      (service_threads config store).run
          (executing t plan.plan_id route.confirmation x4 x5 x6) p [] =
        some (p2, (t, .verifying plan.plan_id) :: (t, .noop job identity
          (run_noop config route.operation route.confirmation x6
            (delete_plan plan.plan_id s4).2).1) :: events.map fun e => (t, e)) ∧
      ∃ call, finish_noop job (run_noop config route.operation route.confirmation x6
        (delete_plan plan.plan_id s4).2).1 = some (call, events) ∧ job.request = none := by
  let job : NoopJob := {
    operation := route.operation, confirmation := route.confirmation, plan := some plan }
  let s5 : DecoService := (delete_plan plan.plan_id s4).2
  have hreported : ShowsController other s4 := shows_of_inventory hx.reported
  have hshows : ShowsController other s5 := ⟨hreported.listed, hreported.profile⟩
  have hexact : other.profile_match = .exact := by
    rw [hshows.profile, profile_of_same hx.same]
    exact h.exact_profile
  have hidentified : controller_identity s4.device_cache = .ok plan.controller_identity := by
    rw [hidentity, ← identity_of_same hx.same]
    exact hreported.identity
  have hclaim : service_step config store (.section x4) p.shared
      (.claiming plan.plan_id route.confirmation none) =
        some ({ p.shared with deco_service := s5 }, .profiling job,
          [.verifying plan.plan_id]) := by
    have hclaimed := claim_plan_ok hfound hx.in_time hx.reported hidentified
    rw [hconfirmation] at hclaimed
    unfold service_step on_service
    simp only [hclaimed]
    rw [execute_plan_eligible hmode h]
  have hprofile : ∀ w : World, w.deco_service = s5 →
      service_step config store (.section x5) w (.profiling job) =
        some (w, .writing job, []) := by
    rintro w hw
    have hprofiled : require_exact_p9_profile config x5 s5 = (.ok (), s5) :=
      require_exact_p9_profile_ok hshows hexact
    rw [← hw] at hprofiled
    unfold service_step on_service
    simp only [hprofiled]
  have hends : Noops route.operation route.confirmation x6 s5
      (run_noop config route.operation route.confirmation x6 s5).1
      (run_noop config route.operation route.confirmation x6 s5).2 := run_noop_noops _ _ _
  obtain ⟨call, events, hfinish⟩ := finish_noop_ends job hends.prompt
  have hwrite : ∀ w : World, w.deco_service = s5 →
      service_step config store (.section x6) w (.writing job) = some
        ({ w with deco_service :=
            (run_noop config route.operation route.confirmation x6 s5).2 }, call,
          .noop job (controller_identity s5.device_cache)
            (run_noop config route.operation route.confirmation x6 s5).1 :: events) := by
    rintro w hw
    unfold service_step noop_step
    simp only [job, hw, hfinish, Option.map_some]
  have hrun : ∃ p2, (service_threads config store).run
      (executing t plan.plan_id route.confirmation x4 x5 x6) p [] =
        some (p2, (t, .verifying plan.plan_id) :: (t, .noop job
          (controller_identity s5.device_cache)
          (run_noop config route.operation route.confirmation x6 s5).1) ::
          events.map fun e => (t, e)) := by
    unfold executing
    rw [run_cons (S := service_threads config store) (by rw [hidle]; rfl),
      run_cons (S := service_threads config store) (by rw [put_same]; exact hclaim),
      run_cons (S := service_threads config store) (by rw [put_same]; exact hprofile _ rfl),
      run_cons (S := service_threads config store) (by rw [put_same]; exact hwrite _ rfl)]
    exact ⟨_, rfl⟩
  obtain ⟨p2, hrun⟩ := hrun
  exact ⟨p2, job, _, events, hrun, call, hfinish, rfl⟩

/-! ## Eligible and executed -/

/-- The execution comes to the preflight read of its operation. -/
def ReachesPreflight (route : MutationCapabilityRoute) (h : List (Nat × Event)) : Prop :=
  ∃ e ∈ h, ∃ job identity run, e.2 = .noop job identity run ∧ run.calls.head? =
    some { operation := HTTP_NOOP_PREFLIGHT_OPERATIONS route.operation, params := none }

/-- A last section that is refused makes no call, and nothing after it does. -/
theorem no_preflight_when_refused {t : Nat} {plan_id : String} {job : NoopJob} {e : PyError}
    {identity : Except PyError String} {call : Call} {events : List Event}
    (hquiet : Quiet (call, events)) :
    ¬ ReachesPreflight route ((t, .verifying plan_id) ::
      (t, .noop job identity { outcome := .raised e }) :: events.map fun event => (t, event)) := by
  rintro ⟨event, hmem, job', identity', run, hnoop, hcalls⟩
  simp only [List.mem_cons, List.mem_map] at hmem
  rcases hmem with rfl | rfl | ⟨event', hevent, rfl⟩
  · cases hnoop
  · cases hnoop
    cases hcalls
  · have hplain := hquiet.events event' hevent
    change event' = _ at hnoop
    rw [hnoop] at hplain
    cases hplain

/-- The catalogue or the preflight reports that the no-op of this mutation can be executed. -/
def ReportedEligible (config : ServerConfig) (name : String) (changes : JsonObject)
    (mode : String) (profile : ProfileMatch) : Prop :=
  execution_allowed config name changes mode profile = .ok true ∨
    (semantic_mutation_entry config name profile).execution_status = .ready ∧
      changes = [] ∧ mode = VERIFY_MODE

theorem eligible_of_reported {changes : JsonObject} {mode : String}
    (h : ReportedEligible config name changes mode profile) :
    changes = [] ∧ mode = VERIFY_MODE ∧ ∃ route, Eligible config name profile route := by
  rcases h with hallowed | ⟨hready, hchanges, hmode⟩
  · obtain ⟨route, heligible⟩ := eligible_of_allowed hallowed
    unfold execution_allowed at hallowed
    split at hallowed
    · cases hallowed
    · simp only [heligible.routed, Except.ok.injEq, Bool.and_eq_true, decide_eq_true_eq,
        List.isEmpty_iff] at hallowed
      exact ⟨hallowed.1.1.2, hallowed.1.1.1, route, heligible⟩
  · exact ⟨hchanges, hmode, eligible_of_ready hready⟩

/-- What becomes of the execution of a plan, in a state of the service. -/
structure Executes (config : ServerConfig) (store : InMemoryIdempotencyStore Rat)
    (p p1 : Pool World Call) (t : Nat) (plan_id : String) (route : MutationCapabilityRoute)
    (x4 x5 x6 : Outside) (p2 : Pool World Call) (h2 : List (Nat × Event)) : Prop where
  run : (service_threads config store).run
    (executing t plan_id route.confirmation x4 x5 x6) p1 [] = some (p2, h2)
  reaches : ReachesPreflight route h2 ↔ p.shared.deco_service.http_mutation_latched = false
  refused : p.shared.deco_service.http_mutation_latched = true → (t, .raised latched_error) ∈ h2

theorem planned_then_executed {p : Pool World Call} {t : Nat} {x1 : Outside}
    {inventory : Inventory} {s1 : DecoService} (hidle : p.thread t = .idle)
    (hinventory : device_inventory config false x1 p.shared.deco_service = (.ok inventory, s1))
    (h : Eligible config name inventory.profile_match route) (x2 x3 : Outside) :
    ∃ p1, (service_threads config store).run (planning t name [] VERIFY_MODE x1 x2 x3) p [] =
        some (p1, [(t, .planned x2.token), (t, .returned)]) ∧
      p1.shared.deco_service.pending_mutation_plans.get? x2.token =
        some (planned x2 name route.confirmation (identity_of inventory.controller)) ∧
      ∀ x4 x5 x6 other s4,
        Favourable config p1.shared.deco_service
          (planned x2 name route.confirmation (identity_of inventory.controller))
          inventory.controller x4 x6 other s4 →
        ∃ p2 h2, Executes config store p p1 t x2.token route x4 x5 x6 p2 h2 := by
  obtain ⟨p1, hplanned, hidle1, hservice⟩ :=
    planning_run store hidle hinventory h x2 x3
  have hfound : p1.shared.deco_service.pending_mutation_plans.get? x2.token =
      some (planned x2 name route.confirmation (identity_of inventory.controller)) := by
    rw [hservice, Dict.get?_set_self]
  refine ⟨p1, hplanned, hfound, ?_⟩
  intro x4 x5 x6 other s4 hx
  have hshows := shows_of_inventory hinventory
  rw [hshows.profile] at h
  obtain ⟨p2, job, identity, events, hrun, call, hfinish, hjob⟩ := executing_run store
    hidle1 hfound rfl rfl rfl h hx x5
  rw [planned_plan_id] at hrun hfinish
  have hlatch : (delete_plan x2.token s4).2.http_mutation_latched =
      p.shared.deco_service.http_mutation_latched := by
    have hfirst := (device_inventory_keeps unlisted_latch false).of_run hinventory
    have hsecond := (device_inventory_keeps unlisted_latch true).of_run hx.reported
    rw [hservice] at hsecond
    exact hsecond.trans hfirst
  refine ⟨p2, _, hrun, ?_, ?_⟩
  · rw [← hlatch]
    constructor
    · intro hreaches
      by_contra hlatched
      rw [Bool.not_eq_false] at hlatched
      rw [run_noop_latched _ _ hlatched] at hreaches hfinish
      exact no_preflight_when_refused (finish_noop_goes hfinish) hreaches
    · intro hunlatched
      refine ⟨_, List.mem_cons_of_mem _ List.mem_cons_self, job, identity, _, rfl, ?_⟩
      rw [run_noop_unlatched _ _ (password_of_refresh hx.reported) hx.login hunlatched]
      exact first_call_of_verify (route_of_name h.routed).2.confirmation _
  · intro hlatched
    rw [← hlatch] at hlatched
    rw [run_noop_latched _ _ hlatched] at hfinish
    unfold finish_noop at hfinish
    rw [hjob] at hfinish
    cases hfinish
    rw [run_noop_latched _ _ hlatched]
    exact List.mem_cons_of_mem _ (List.mem_cons_of_mem _ List.mem_cons_self)

/-- A mutation that is reported as eligible is planned, and the execution of its plan reaches
the preflight read exactly when the latch is clear. When the latch is set, the execution is
refused with the error of the latch. -/
theorem executed_exactly_when_unlatched {p : Pool World Call} {t : Nat} {x1 : Outside}
    {inventory : Inventory} {s1 : DecoService} {changes : JsonObject} {mode : String}
    (hidle : p.thread t = .idle)
    (hinventory : device_inventory config false x1 p.shared.deco_service = (.ok inventory, s1))
    (heligible : ReportedEligible config name changes mode inventory.profile_match)
    (x2 x3 : Outside) :
    ∃ route p1 plan, get_mutation_capability_route name = some route ∧
      (service_threads config store).run (planning t name changes mode x1 x2 x3) p [] =
        some (p1, [(t, .planned x2.token), (t, .returned)]) ∧
      p1.shared.deco_service.pending_mutation_plans.get? x2.token = some plan ∧
      plan.confirmation = route.confirmation ∧
      plan.expires_at = x2.now + SEMANTIC_PLAN_TTL_SECONDS ∧
      ∀ x4 x5 x6 other s4,
        Favourable config p1.shared.deco_service plan inventory.controller x4 x6 other s4 →
        ∃ p2 h2, Executes config store p p1 t x2.token route x4 x5 x6 p2 h2 := by
  obtain ⟨rfl, rfl, route, h⟩ := eligible_of_reported heligible
  obtain ⟨p1, hplanned, hfound, hexecutes⟩ :=
    planned_then_executed store hidle hinventory h x2 x3
  exact ⟨route, p1, _, h.routed, hplanned, hfound, rfl, rfl, hexecutes⟩

/-! ## A plan that is made behind a closed latch -/

/-- An inventory that is read from the router reports the controller that it lists. -/
theorem refresh_reports {x : Outside} {s : DecoService} {devices : List Device}
    {controller : Device} {refresh : Bool} (hneeded : refresh = true ∨ s.device_cache = none)
    (hclient : client_given config x s = true) (hdevices : x.http_devices = .ok devices)
    (hvalid : validate_device_inventory devices = .ok ())
    (hcontroller : controller_device devices = .ok controller) :
    ∃ inventory s', device_inventory config refresh x s = (.ok inventory, s') ∧
      inventory.controller = controller := by
  obtain ⟨s1, hclient⟩ := (get_client_given s).mpr hclient
  have hread : read_http_device_inventory config x s = (.ok devices, s1) := by
    unfold read_http_device_inventory
    rw [bind_ok hclient, hdevices, bind_ok (lift_ok devices s1), hvalid,
      bind_ok (lift_ok () s1)]
    rfl
  obtain ⟨resolution, hresolve, hlisted⟩ : ∃ resolution,
      resolve_device_inventory config x s = (.ok resolution, s1) ∧
        resolution.devices = devices := by
    unfold resolve_device_inventory
    rw [bind_ok (trying_ok hread)]
    exact ⟨_, rfl, rfl⟩
  let s2 : DecoService := { s1 with
    device_cache := some resolution.devices, device_resolution := some resolution }
  have hrefresh : refresh_cache config refresh x s = (.ok true, s2) := by
    have hrun : refresh_cache config refresh x s =
        (resolve_device_inventory config x >>= store_resolution) s := if_pos hneeded
    rw [hrun, bind_ok hresolve]
    rfl
  have hvalid : ValidDevices resolution.devices := hlisted ▸ validDevices_of_validate hvalid
  obtain ⟨inventory, hview, -⟩ := cached_inventory_describes (s := s2) hvalid rfl true
  have hinventory : device_inventory config refresh x s = (.ok inventory, s2) := by
    unfold device_inventory
    rw [bind_ok hrefresh, hview]
  have hshown := (view_cases rfl hview).1
  rw [hlisted, hcontroller] at hshown
  exact ⟨inventory, s2, hinventory, (Except.ok.inj hshown).symm⟩

def lab_controller : Device := p9_controller "AA-AA-AA-AA-AA-AA"

/-- The router lists the one controller, and takes every login. -/
def listing_one : Outside := { token := "plan", http_devices := .ok [lab_controller] }

/-- The inventory of the one controller. -/
theorem lab_inventory {s : DecoService} (refresh : Bool)
    (hneeded : refresh = true ∨ s.device_cache = none) :
    ∃ inventory s', device_inventory lab_config refresh listing_one s = (.ok inventory, s') ∧
      inventory.controller = lab_controller :=
  refresh_reports hneeded (by simp [client_given, lab_config, listing_one]) rfl (by decide) rfl

theorem lab_reported {inventory : Inventory} {s s' : DecoService} {refresh : Bool}
    (h : device_inventory lab_config refresh listing_one s = (.ok inventory, s'))
    (hcontroller : inventory.controller = lab_controller) :
    ReportedEligible lab_config "beamforming" [] VERIFY_MODE inventory.profile_match := by
  rw [(shows_of_inventory h).profile, hcontroller]
  exact Or.inl (by decide +kernel)

theorem lab_favourable {s : DecoService} {plan : PendingMutationPlan}
    (hplan : 0 ≤ plan.expires_at) {inventory : Inventory}
    (hcontroller : inventory.controller = lab_controller) :
    ∃ other s4, Favourable lab_config s plan inventory.controller listing_one {} other s4 := by
  obtain ⟨other, s4, hrefresh, hother⟩ := lab_inventory (s := s) true (Or.inl rfl)
  refine ⟨other, s4, hplan, hrefresh, ?_, rfl⟩
  rw [hcontroller, hother]
  exact ⟨rfl, rfl, rfl, rfl⟩

/-- On a new server the planned no-op reaches its preflight read. -/
theorem a_new_server_executes_its_plan : ∃ route p1 p2 h2,
    (service_threads lab_config lab_store).run
      (planning 0 "beamforming" [] VERIFY_MODE listing_one listing_one {}) started [] =
        some (p1, [(0, .planned "plan"), (0, .returned)]) ∧
    (service_threads lab_config lab_store).run
      (executing 0 "plan" route.confirmation listing_one {} {}) p1 [] = some (p2, h2) ∧
    ReachesPreflight route h2 := by
  obtain ⟨inventory, s1, hinventory, hcontroller⟩ :=
    lab_inventory (s := started.shared.deco_service) false (Or.inr rfl)
  obtain ⟨route, p1, plan, -, hplanned, -, -, hexpires, hexecutes⟩ :=
    executed_exactly_when_unlatched lab_store (p := started) (t := 0) rfl hinventory
      (lab_reported hinventory hcontroller) listing_one {}
  have hplan : 0 ≤ plan.expires_at := by
    rw [hexpires]
    decide +kernel
  obtain ⟨other, s4, hfavourable⟩ :=
    lab_favourable (s := p1.shared.deco_service) hplan hcontroller
  obtain ⟨p2, h2, hexecution⟩ := hexecutes listing_one {} {} other s4 hfavourable
  exact ⟨route, p1, p2, h2, hplanned, hexecution.run, hexecution.reaches.mpr rfl⟩

/-- A write that the router refuses, and then a new session. -/
def latched_and_closed : List (Nat × Act) :=
  (two_verifications refused_write).take 3 ++ [(0, .call .close), (0, .section {})]

/-- Behind a closed latch the no-op is still reported as eligible and planned, and the
execution of the plan is refused. -/
theorem a_latched_server_refuses_its_plan : ∃ p h inventory s1 route p1 plan other s4 p2 h2,
    Reaches (service_threads lab_config lab_store) anyStep started p h ∧
    device_inventory lab_config false listing_one p.shared.deco_service = (.ok inventory, s1) ∧
    execution_allowed lab_config "beamforming" [] VERIFY_MODE inventory.profile_match = .ok true ∧
    (semantic_mutation_entry lab_config "beamforming" inventory.profile_match).execution_status =
      .ready ∧
    (service_threads lab_config lab_store).run
      (planning 1 "beamforming" [] VERIFY_MODE listing_one listing_one {}) p [] =
        some (p1, [(1, .planned "plan"), (1, .returned)]) ∧
    Favourable lab_config p1.shared.deco_service plan inventory.controller listing_one {} other
      s4 ∧
    (service_threads lab_config lab_store).run
      (executing 1 "plan" route.confirmation listing_one {} {}) p1 [] = some (p2, h2) ∧
    (1, .raised latched_error) ∈ h2 ∧ ¬ ReachesPreflight route h2 := by
  have hrun : ((service_threads lab_config lab_store).run latched_and_closed started []).map
      (fun r => (r.1.shared.deco_service.http_mutation_latched,
        r.1.shared.deco_service.device_cache)) = some (true, none) := by
    decide +kernel
  obtain ⟨⟨p, h⟩, hrun, hstate⟩ := Option.map_eq_some_iff.mp hrun
  obtain ⟨hlatched, hcache⟩ := Prod.mk.inj hstate
  have hidle : p.thread 1 = .idle := run_other hrun (by decide)
  obtain ⟨inventory, s1, hinventory, hcontroller⟩ :=
    lab_inventory (s := p.shared.deco_service) false (Or.inr hcache)
  obtain ⟨-, -, route, heligible⟩ := eligible_of_reported (lab_reported hinventory hcontroller)
  obtain ⟨p1, hplanned, -, hexecutes⟩ := planned_then_executed lab_store hidle
    hinventory heligible listing_one {}
  have hplan : (0 : Rat) ≤ listing_one.now + SEMANTIC_PLAN_TTL_SECONDS := by decide +kernel
  obtain ⟨other, s4, hfavourable⟩ : ∃ other s4, Favourable lab_config p1.shared.deco_service
      (planned listing_one "beamforming" route.confirmation (identity_of inventory.controller))
      inventory.controller listing_one {} other s4 :=
    lab_favourable hplan hcontroller
  obtain ⟨p2, h2, hexecution⟩ := hexecutes listing_one {} {} other s4 hfavourable
  refine ⟨p, h, inventory, s1, route, p1, _, other, s4, p2, h2, reaches_of_run _ .refl hrun,
    hinventory, heligible.allowed, heligible.ready, hplanned, hfavourable, hexecution.run,
    hexecution.refused hlatched, ?_⟩
  rw [hexecution.reaches, hlatched]
  decide

end tplink_deco_api.service
