-- What one step of a thread can be: a step that touches neither the plans nor the
-- latch, or one of the steps of a plan and of its write.
import TplinkDeco.Service.Calls
import TplinkDeco.Service.SectionSpecs

open dict json prog threads

namespace tplink_deco_api.service

open exceptions http_noop_verification rest Prog

variable {config : ServerConfig} {store : InMemoryIdempotencyStore Rat}

/-! ## Where a call goes -/

/-- The plan that a call executes, from its claim to its write. -/
def Call.executes : Call → Option PendingMutationPlan
  | .profiling job => job.plan
  | .writing job => job.plan
  | _ => none

/-- A call that neither stores a plan, executes one, nor is about to write. -/
def Call.plain : Call → Bool
  | .storing .. => false
  | .writing _ => false
  | .profiling job => job.plan.isNone
  | _ => true

/-- An event that is about no verification. -/
def Event.plain : Event → Bool
  | .verifying _ => false
  | .noop .. => false
  | _ => true

/-- The step has nothing to do with a verification. -/
structure Quiet (result : Call × List Event) : Prop where
  call : result.1.plain = true
  events : ∀ e ∈ result.2, e.plain = true

theorem quiet_idle {es : List Event} (h : ∀ e ∈ es, e.plain = true) : Quiet (.idle, es) :=
  ⟨rfl, h⟩

theorem quiet_end_with (e : PyError) : Quiet (end_with e) := by
  apply quiet_idle
  simp [Event.plain]

theorem quiet_returning {α : Type} (a : α) : Quiet (returning a) := by
  apply quiet_idle
  simp [Event.plain]

theorem quiet_silent {call : Call} (h : call.plain = true) : Quiet (call, []) :=
  ⟨h, by simp⟩

theorem quiet_finish (request : Option Request) (outcome : Except PyError Execution) :
    Quiet (finish request outcome) := by
  cases request with
  | some request => exact quiet_silent rfl
  | none =>
    cases outcome with
    | ok _ => exact quiet_idle (by simp [Event.plain])
    | error e => exact quiet_end_with e

/-- The checks before the profile either end the call or lead to its profile check. -/
theorem start_p9_http_noop_goes (operation confirmation : String)
    (plan : Option PendingMutationPlan) (request : Option Request) :
    Quiet (start_p9_http_noop config operation confirmation plan request) ∨
      ∃ job : NoopJob, start_p9_http_noop config operation confirmation plan request =
        (.profiling job, []) ∧ job.plan = plan := by
  unfold start_p9_http_noop
  split
  · exact Or.inl (quiet_finish _ _)
  · exact Or.inr ⟨_, rfl, rfl⟩

theorem start_setting_noop_goes (name confirmation : String)
    (plan : Option PendingMutationPlan) (request : Option Request) :
    Quiet (start_setting_noop config name confirmation plan request) ∨
      ∃ job : NoopJob, start_setting_noop config name confirmation plan request =
        (.profiling job, []) ∧ job.plan = plan := by
  unfold start_setting_noop
  split
  · exact Or.inl (quiet_finish _ _)
  · exact start_p9_http_noop_goes _ _ _ _

/-- An execution without a plan is quiet. -/
theorem quiet_of_goes {result : Call × List Event}
    (h : Quiet result ∨ ∃ job : NoopJob, result = (.profiling job, []) ∧ job.plan = none) :
    Quiet result := by
  rcases h with h | ⟨job, rfl, hplan⟩
  · exact h
  · apply quiet_silent
    simp [Call.plain, hplan]

/-- What follows the claim of a plan: at most one `verifying`, of this plan. -/
theorem execute_plan_goes (confirmation : String) (request : Option Request)
    (plan : PendingMutationPlan) :
    Quiet (execute_plan config confirmation request plan) ∨
      ∃ call es, execute_plan config confirmation request plan =
          (call, .verifying plan.plan_id :: es) ∧ (∀ e ∈ es, e.plain = true) ∧
        (call.plain = true ∨ ∃ job : NoopJob, call = .profiling job ∧ job.plan = some plan) := by
  unfold execute_plan
  split
  · exact Or.inl (quiet_finish _ _)
  · right
    refine ⟨(start_setting_noop config plan.mutation confirmation (some plan) request).1,
      (start_setting_noop config plan.mutation confirmation (some plan) request).2, rfl, ?_⟩
    rcases start_setting_noop_goes plan.mutation confirmation (some plan) request
      with hquiet | ⟨job, hjob, hplan⟩
    · exact ⟨hquiet.events, Or.inl hquiet.call⟩
    · rw [hjob]
      exact ⟨by simp, Or.inr ⟨job, rfl, hplan⟩⟩

theorem quiet_assess_plan (name : String) (changes : JsonObject) (mode : String)
    (inventory : Inventory) : Quiet (assess_plan config name changes mode inventory) := by
  unfold assess_plan
  split
  · exact quiet_end_with _
  · exact quiet_idle (by simp [Event.plain])
  · split
    · exact quiet_idle (by simp [Event.plain])
    · exact quiet_silent rfl

theorem quiet_start_call (op : Op) : Quiet (start_call config op) := by
  cases op with
  | plan_semantic_mutation name changes mode =>
    simp only [start_call]
    cases check_mode mode with
    | error e => exact quiet_end_with e
    | ok _ => exact quiet_silent rfl
  | verify_setting_noop name confirmation =>
    exact quiet_of_goes (start_setting_noop_goes name confirmation none none)
  | verify_p9_http_noop operation confirmation =>
    exact quiet_of_goes (start_p9_http_noop_goes operation confirmation none none)
  | _ => exact quiet_silent rfl

theorem finish_noop_goes {job : NoopJob} {run : NoopRun} {result : Call × List Event}
    (h : finish_noop job run = some result) : Quiet result := by
  unfold finish_noop at h
  split at h
  · cases h
    exact quiet_finish _ _
  · cases h
    exact quiet_finish _ _
  · cases h

/-! ## The steps -/

/-- The plans and the latch are as they were. -/
structure Untouched (s s' : DecoService) : Prop where
  plans : s'.pending_mutation_plans = s.pending_mutation_plans
  latch : s'.http_mutation_latched = s.http_mutation_latched

/-- What one step can do. -/
inductive Turn (config : ServerConfig) (w : World) : Act → Call → World → Call → List Event → Prop
  /-- Every other step. -/
  | quiet {a : Act} {own own' : Call} {w' : World} {es : List Event}
      (untouched : Untouched w.deco_service w'.deco_service) (drawn : w'.drawn = w.drawn)
      (goes : Quiet (own', es)) : Turn config w a own w' own' es
  | drawn (x : Outside) (name mode confirmation : String) :
      Turn config w (.section x) (.drawing name mode confirmation)
        { w with drawn := x.token :: w.drawn }
        (.storing x.token name mode confirmation (x.now + SEMANTIC_PLAN_TTL_SECONDS)) []
  | stored (x : Outside) (plan : PendingMutationPlan)
      (identified : controller_identity w.deco_service.device_cache =
        .ok plan.controller_identity) :
      Turn config w (.section x)
        (.storing plan.plan_id plan.mutation plan.mode plan.confirmation plan.expires_at)
        { w with deco_service := { w.deco_service with
          pending_mutation_plans := w.deco_service.pending_mutation_plans.set plan.plan_id plan } }
        .idle [.planned plan.plan_id, .returned]
  | claimed (x : Outside) (plan_id confirmation : String) (request : Option Request)
      (plan : PendingMutationPlan) (after : DecoService) (own' : Call) (es : List Event)
      (claim : Claims config plan_id confirmation x w.deco_service (.ok plan) after)
      (goes : execute_plan config confirmation request plan = (own', es)) :
      Turn config w (.section x) (.claiming plan_id confirmation request)
        { w with deco_service := after } own' es
  | unclaimed (x : Outside) (plan_id confirmation : String) (request : Option Request)
      (e : PyError) (after : DecoService) (own' : Call) (es : List Event)
      (claim : Claims config plan_id confirmation x w.deco_service (.raised e) after)
      (goes : finish request (.error e) = (own', es)) :
      Turn config w (.section x) (.claiming plan_id confirmation request)
        { w with deco_service := after } own' es
  | profiled (x : Outside) (job : NoopJob) (after : DecoService)
      (exact : require_exact_p9_profile config x w.deco_service = (.ok (), after)) :
      Turn config w (.section x) (.profiling job) { w with deco_service := after }
        (.writing job) []
  | noop (x : Outside) (job : NoopJob) (run : NoopRun) (after : DecoService) (own' : Call)
      (es : List Event)
      (ends : run_noop config job.operation job.confirmation x w.deco_service = (run, after))
      (goes : finish_noop job run = some (own', es)) :
      Turn config w (.section x) (.writing job) { w with deco_service := after } own'
        (.noop job (controller_identity w.deco_service.device_cache) run :: es)
  | lapsed (x : Outside) (plan_id : String) (plan : PendingMutationPlan)
      (found : w.deco_service.pending_mutation_plans.get? plan_id = some plan)
      (late : plan.expires_at ≤ x.now) :
      Turn config w (.section x) (.showing plan_id)
        { w with deco_service := (delete_plan plan_id w.deco_service).2 } .idle
        [.raised (expired_plan "read semantic mutation plan")]
  | closed (x : Outside) (after : DecoService) (own' : Call) (es : List Event)
      (empty : after.pending_mutation_plans = Dict.empty)
      (latch : after.http_mutation_latched = w.deco_service.http_mutation_latched)
      (goes : Quiet (own', es)) :
      Turn config w (.section x) .closing { w with deco_service := after } own' es

/-- How a section of a thread ended. -/
theorem on_service_cases {α : Type} {m : ServiceM α} {w w' : World} {own' : Call}
    {es : List Event} {ok : α → Call × List Event} {raised : PyError → Call × List Event}
    (h : on_service m w ok raised = some (w', own', es)) :
    ∃ after, w' = { w with deco_service := after } ∧
      ((∃ a, m w.deco_service = (.ok a, after) ∧ ok a = (own', es)) ∨
        ∃ e, m w.deco_service = (.raised e, after) ∧ raised e = (own', es)) := by
  unfold on_service at h
  split at h
  · rename_i a after hm
    injection h with h
    injection h with hw hgoes
    exact ⟨after, hw.symm, Or.inl ⟨a, hm, hgoes⟩⟩
  · rename_i e after hm
    injection h with h
    injection h with hw hgoes
    exact ⟨after, hw.symm, Or.inr ⟨e, hm, hgoes⟩⟩
  · cases h

/-- A section that keeps the plans and the latch, with quiet ends. -/
theorem turn_of_quiet_section {α : Type} {m : ServiceM α} {w w' : World} {a : Act}
    {own own' : Call} {es : List Event} {ok : α → Call × List Event}
    {raised : PyError → Call × List Event}
    (hplans : Keeps DecoService.pending_mutation_plans m)
    (hlatch : Keeps DecoService.http_mutation_latched m)
    (hok : ∀ a, Quiet (ok a)) (hraised : ∀ e, Quiet (raised e))
    (h : on_service m w ok raised = some (w', own', es)) : Turn config w a own w' own' es := by
  obtain ⟨after, rfl, ⟨a, hm, hgoes⟩ | ⟨e, hm, hgoes⟩⟩ := on_service_cases h
  · refine .quiet ⟨hplans.of_run hm, hlatch.of_run hm⟩ rfl ?_
    rw [← hgoes]
    exact hok a
  · refine .quiet ⟨hplans.of_run hm, hlatch.of_run hm⟩ rfl ?_
    rw [← hgoes]
    exact hraised e

theorem turn_of_read {x : Outside} {w w' : World} {what : ReadSection} {own own' : Call}
    {a : Act} {es : List Event} (h : read_step config x w what = some (w', own', es)) :
    Turn config w a own w' own' es := by
  have hquiet : Quiet (.reading, []) := quiet_silent rfl
  cases what with
  | devices =>
    exact turn_of_quiet_section (device_inventory_keeps unlisted_plans false)
      (device_inventory_keeps unlisted_latch false) (fun _ => hquiet) (fun _ => hquiet) h
  | mesh_nodes =>
    exact turn_of_quiet_section (read_http_mesh_nodes_keeps unlisted_plans)
      (read_http_mesh_nodes_keeps unlisted_latch) (fun _ => hquiet) (fun _ => hquiet) h
  | client =>
    exact turn_of_quiet_section (get_client_keeps unlisted_plans.clientless)
      (get_client_keeps unlisted_latch.clientless) (fun _ => hquiet) (fun _ => hquiet) h

theorem turn_of_store {plan_id name mode confirmation : String} {expires_at : Rat}
    {x : Outside} {w w' : World} {own' : Call} {es : List Event}
    (h : on_service (store_plan plan_id name mode confirmation expires_at) w
      (fun _ => (.idle, [.planned plan_id, .returned])) end_with = some (w', own', es)) :
    Turn config w (.section x) (.storing plan_id name mode confirmation expires_at) w' own' es := by
  unfold on_service store_plan at h
  cases hidentity : controller_identity w.deco_service.device_cache with
  | error e =>
    rw [hidentity] at h
    cases h
    exact .quiet ⟨rfl, rfl⟩ rfl (quiet_end_with e)
  | ok identity =>
    rw [hidentity] at h
    cases h
    let plan : PendingMutationPlan := {
      plan_id, mutation := name, mode, confirmation, controller_identity := identity, expires_at }
    exact .stored x plan hidentity

theorem turn_of_claim {plan_id confirmation : String} {request : Option Request} {x : Outside}
    {w w' : World} {own' : Call} {es : List Event}
    (h : on_service (claim_plan config plan_id confirmation x) w
      (execute_plan config confirmation request) (fun e => finish request (.error e)) =
        some (w', own', es)) :
    Turn config w (.section x) (.claiming plan_id confirmation request) w' own' es := by
  obtain ⟨after, rfl, ⟨plan, hm, hgoes⟩ | ⟨e, hm, hgoes⟩⟩ := on_service_cases h
  · exact .claimed x plan_id confirmation request plan after own' es (Claims.of_run hm) hgoes
  · exact .unclaimed x plan_id confirmation request e after own' es (Claims.of_run hm) hgoes

theorem turn_of_profile {job : NoopJob} {x : Outside} {w w' : World} {own' : Call}
    {es : List Event}
    (h : on_service (require_exact_p9_profile config x) w (fun _ => (.writing job, []))
      (fun e => finish job.request (.error e)) = some (w', own', es)) :
    Turn config w (.section x) (.profiling job) w' own' es := by
  obtain ⟨after, rfl, ⟨u, hm, hgoes⟩ | ⟨e, hm, hgoes⟩⟩ := on_service_cases h
  · cases hgoes
    exact .profiled x job after hm
  · refine .quiet ⟨(require_exact_p9_profile_keeps unlisted_plans).of_run hm,
      (require_exact_p9_profile_keeps unlisted_latch).of_run hm⟩ rfl ?_
    rw [← hgoes]
    exact quiet_finish _ _

theorem turn_of_noop {job : NoopJob} {x : Outside} {w w' : World} {own' : Call}
    {es : List Event} (h : noop_step config job x w = some (w', own', es)) :
    Turn config w (.section x) (.writing job) w' own' es := by
  unfold noop_step at h
  rcases hrun : run_noop config job.operation job.confirmation x w.deco_service with ⟨run, after⟩
  rw [hrun] at h
  simp only [Option.map_eq_some_iff] at h
  obtain ⟨⟨call, events⟩, hgoes, h⟩ := h
  cases h
  exact .noop x job run after _ events hrun hgoes

theorem turn_of_show {plan_id : String} {x : Outside} {w w' : World} {own' : Call}
    {es : List Event}
    (h : on_service (semantic_mutation_plan plan_id x) w returning end_with =
      some (w', own', es)) : Turn config w (.section x) (.showing plan_id) w' own' es := by
  unfold on_service semantic_mutation_plan at h
  cases hfound : w.deco_service.pending_mutation_plans.get? plan_id with
  | none =>
    rw [hfound] at h
    cases h
    exact .quiet ⟨rfl, rfl⟩ rfl (quiet_end_with _)
  | some plan =>
    simp only [hfound] at h
    by_cases hlate : plan.expires_at ≤ x.now
    · rw [if_pos hlate] at h
      cases h
      exact .lapsed x plan_id plan hfound hlate
    · rw [if_neg hlate] at h
      cases h
      exact .quiet ⟨rfl, rfl⟩ rfl (quiet_returning plan)

theorem turn_of_close {x : Outside} {w w' : World} {own' : Call} {es : List Event}
    (h : on_service (close x) w returning end_with = some (w', own', es)) :
    Turn config w (.section x) .closing w' own' es := by
  have hstate : ∀ r after, close x w.deco_service = (r, after) →
      after.pending_mutation_plans = Dict.empty ∧
        after.http_mutation_latched = w.deco_service.http_mutation_latched := by
    rintro r after hclose
    cases hclose
    exact ⟨rfl, rfl⟩
  obtain ⟨after, rfl, ⟨a, hm, hgoes⟩ | ⟨e, hm, hgoes⟩⟩ := on_service_cases h
  · obtain ⟨hempty, hlatch⟩ := hstate _ _ hm
    refine .closed x after own' es hempty hlatch ?_
    rw [← hgoes]
    exact quiet_returning a
  · obtain ⟨hempty, hlatch⟩ := hstate _ _ hm
    refine .closed x after own' es hempty hlatch ?_
    rw [← hgoes]
    exact quiet_end_with e

theorem turn_of_reserve {request : Request} {plan_id confirmation : String} {x : Outside}
    {w w' : World} {own own' : Call} {a : Act} {es : List Event}
    (h : reserve_step store request plan_id confirmation x w = (w', own', es)) :
    Turn config w a own w' own' es := by
  unfold reserve_step at h
  split at h
  · cases h
    exact .quiet ⟨rfl, rfl⟩ rfl (quiet_end_with _)
  · cases h
    exact .quiet ⟨rfl, rfl⟩ rfl (quiet_returning ())
  · cases h
    exact .quiet ⟨rfl, rfl⟩ rfl (quiet_silent rfl)

theorem turn_of_answer {request : Request} {outcome : Except PyError Execution} {x : Outside}
    {w w' : World} {own own' : Call} {a : Act} {es : List Event}
    (h : answer_step store request outcome x w = (w', own', es)) :
    Turn config w a own w' own' es := by
  unfold answer_step at h
  split at h
  · cases h
    exact .quiet ⟨rfl, rfl⟩ rfl (quiet_end_with _)
  · cases h
    exact .quiet ⟨rfl, rfl⟩ rfl (quiet_returning ())

/-- Every step is a turn. -/
theorem service_step_turn {a : Act} {w w' : World} {own own' : Call} {es : List Event}
    (h : service_step config store a w own = some (w', own', es)) :
    Turn config w a own w' own' es := by
  unfold service_step at h
  split at h
  · rename_i op
    injection h with h
    injection h with hw hgoes
    subst hw
    refine .quiet ⟨rfl, rfl⟩ rfl ?_
    rw [← hgoes]
    exact quiet_start_call op
  · exact turn_of_quiet_section (device_inventory_keeps unlisted_plans false)
      (device_inventory_keeps unlisted_latch false) (quiet_assess_plan _ _ _) quiet_end_with h
  · cases h
    exact .drawn _ _ _ _
  · exact turn_of_store h
  · exact turn_of_reserve (Option.some.inj h)
  · exact turn_of_claim h
  · exact turn_of_profile h
  · exact turn_of_noop h
  · exact turn_of_answer (Option.some.inj h)
  · exact turn_of_show h
  · exact turn_of_quiet_section (device_inventory_keeps unlisted_plans _)
      (device_inventory_keeps unlisted_latch _) quiet_returning quiet_end_with h
  · exact turn_of_quiet_section (mesh_overview_keeps unlisted_plans)
      (mesh_overview_keeps unlisted_latch) quiet_returning quiet_end_with h
  · exact turn_of_quiet_section (device_inventory_keeps unlisted_plans true)
      (device_inventory_keeps unlisted_latch true) (fun _ => quiet_silent rfl) quiet_end_with h
  · exact turn_of_close h
  · exact turn_of_read h
  · cases h
    exact .quiet ⟨rfl, rfl⟩ rfl (quiet_returning ())
  · cases h

end tplink_deco_api.service
