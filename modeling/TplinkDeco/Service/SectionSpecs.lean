-- What each section of the service does to the plans and to the latch, and which
-- parts of the state it leaves alone.
import TplinkDeco.Service.DecoService
import TplinkDeco.Service.HttpNoopSpecs

open dict json prog

namespace tplink_deco_api.service

open exceptions http_noop_verification Prog

variable {config : ServerConfig} {x : Outside}

/-! ## The sections that list the devices -/

/-- A part of the state in which the client and the device cache do not show. -/
def Unlisted {γ : Type} (part : DecoService → γ) : Prop :=
  ∀ s client device_cache device_resolution,
    part { s with client, device_cache, device_resolution } = part s

theorem unlisted_plans : Unlisted DecoService.pending_mutation_plans := fun _ _ _ _ => rfl

theorem unlisted_latch : Unlisted DecoService.http_mutation_latched := fun _ _ _ _ => rfl

section

variable {γ : Type} {part : DecoService → γ}

theorem raise_some_keeps (error : Option PyError) : Keeps part (raise_some error) := by
  cases error with
  | none => exact Keeps.pure ()
  | some e => exact Keeps.raise e

theorem Unlisted.clientless (hp : Unlisted part) (s : DecoService) (client : Option Bool) :
    part { s with client } = part s :=
  hp s client s.device_cache s.device_resolution

theorem get_client_keeps (hp : ∀ s client, part { s with client } = part s) :
    Keeps part (get_client config x) := by
  intro s
  unfold get_client
  split
  · rfl
  · split
    · rfl
    · split
      · exact hp s (some true)
      · exact hp s (some false)

theorem read_http_device_inventory_keeps (hp : ∀ s client, part { s with client } = part s) :
    Keeps part (read_http_device_inventory config x) := by
  apply (get_client_keeps hp).bind
  intro _
  apply (Keeps.lift x.http_devices).bind
  intro devices
  exact (Keeps.lift (validate_device_inventory devices)).bind fun _ => Keeps.pure devices

theorem read_tmp_device_inventory_keeps : Keeps part (read_tmp_device_inventory x) := by
  apply (Keeps.lift x.tmp_devices).bind
  intro devices
  exact (Keeps.lift (validate_device_inventory devices)).bind fun _ => Keeps.pure devices

theorem resolve_device_inventory_keeps (hp : ∀ s client, part { s with client } = part s) :
    Keeps part (resolve_device_inventory config x) := by
  apply ((read_http_device_inventory_keeps hp).trying _).bind
  intro r
  cases r with
  | ok devices => exact Keeps.pure _
  | error e =>
    apply Keeps.ite (Keeps.raise e)
    exact read_tmp_device_inventory_keeps.bind fun devices => Keeps.pure _

theorem refresh_cache_keeps (hp : Unlisted part) (refresh : Bool) :
    Keeps part (refresh_cache config refresh x) := by
  intro s
  unfold refresh_cache
  split
  · apply (resolve_device_inventory_keeps hp.clientless).bind
    intro resolution s
    exact hp s s.client (some resolution.devices) (some resolution)
  · rfl

theorem cached_inventory_keeps (router_contacted : Bool) :
    Keeps part (cached_inventory router_contacted) :=
  fun s => Keeps.lift _ s

theorem device_inventory_keeps (hp : Unlisted part) (refresh : Bool) :
    Keeps part (device_inventory config refresh x) :=
  (refresh_cache_keeps hp refresh).bind fun router_contacted =>
    cached_inventory_keeps router_contacted

theorem set_device_cache_keeps (hp : Unlisted part) (devices : List Device) :
    Keeps part (set_device_cache devices) :=
  fun s => hp s s.client (some devices) s.device_resolution

theorem mesh_overview_keeps (hp : Unlisted part) : Keeps part (mesh_overview config x) := by
  apply Keeps.ite (Keeps.raise _)
  apply (get_client_keeps hp.clientless).bind
  intro _
  apply (Keeps.lift x.http_devices).bind
  intro devices
  apply (set_device_cache_keeps hp devices).bind
  intro _
  exact (raise_some_keeps x.clients_by_node).bind fun _ => Keeps.pure devices

theorem cached_or_listed_keeps : Keeps part (cached_or_listed x) := by
  intro s
  unfold cached_or_listed
  split
  · rfl
  · exact Keeps.lift x.http_devices s

theorem read_http_mesh_nodes_keeps (hp : Unlisted part) :
    Keeps part (read_http_mesh_nodes config x) := by
  apply (get_client_keeps hp.clientless).bind
  intro _
  apply cached_or_listed_keeps.bind
  intro devices
  exact (set_device_cache_keeps hp devices).bind fun _ => Keeps.pure devices

theorem require_exact_p9_profile_keeps (hp : Unlisted part) :
    Keeps part (require_exact_p9_profile config x) := by
  apply (device_inventory_keeps hp false).bind
  intro inventory
  exact Keeps.ite (Keeps.raise _) (Keeps.pure ())

end

/-! ## The profile check with a cache -/

theorem device_inventory_cached {s : DecoService} (hcache : s.device_cache ≠ none) :
    (device_inventory config false x s).2 = s := by
  have hrefresh : refresh_cache config false x s = (.ok false, s) := by
    unfold refresh_cache
    rw [if_neg (by simpa using hcache)]
  unfold device_inventory
  rw [bind_ok hrefresh]
  have hkept : Keeps id (cached_inventory false) := cached_inventory_keeps false
  exact hkept s

/-- With devices in the cache, the profile check contacts nothing and changes nothing. -/
theorem require_exact_p9_profile_cached {s : DecoService} (hcache : s.device_cache ≠ none) :
    (require_exact_p9_profile config x s).2 = s := by
  have hstate : (device_inventory config false x s).2 = s := device_inventory_cached hcache
  unfold require_exact_p9_profile
  rcases hinventory : device_inventory config false x s with ⟨r, after⟩
  rw [hinventory] at hstate
  subst hstate
  cases r with
  | ok inventory =>
    rw [bind_ok hinventory]
    split
    · rfl
    · rfl
  | raised e => rw [bind_raised hinventory]
  | waiting => rw [bind_waiting hinventory]

/-! ## The section of the write -/

theorem get_client_prompt : Prompt (get_client config x) := by
  intro s
  unfold get_client
  split
  · simp
  · split
    · simp
    · split <;> simp

/-- How the last section of `verify_p9_http_noop` ends: without a call of the verifier, or
with its run. -/
inductive Noops (operation confirmation : String) (x : Outside) (s : DecoService) :
    NoopRun → DecoService → Prop
  | refused (e : PyError) (after : DecoService)
      (latch : after.http_mutation_latched = s.http_mutation_latched) :
      Noops operation confirmation x s { outcome := .raised e } after
  | verified (run : NoopRun) (after : DecoService) (open_latch : s.http_mutation_latched = false)
      (outcome : run.outcome =
        (verify_http_setting_noop operation confirmation { answers := x.answers }).1)
      (calls : run.calls =
        (verify_http_setting_noop operation confirmation { answers := x.answers }).2.calls)
      (latch : after.http_mutation_latched =
        match run.outcome with
        | .ok result => !result.verified_noop
        | _ => false) :
      Noops operation confirmation x s run after

theorem run_noop_noops (operation confirmation : String) (s : DecoService) :
    Noops operation confirmation x s (run_noop config operation confirmation x s).1
      (run_noop config operation confirmation x s).2 := by
  unfold run_noop
  by_cases hlatch : s.http_mutation_latched = true
  · rw [if_pos hlatch]
    exact .refused latched_error s rfl
  · rw [if_neg hlatch]
    have hkept : (get_client config x s).2.http_mutation_latched = s.http_mutation_latched :=
      get_client_keeps unlisted_latch.clientless s
    have hprompt : (get_client config x s).1 ≠ .waiting := get_client_prompt s
    rcases hclient : get_client config x s with ⟨r, after⟩
    rw [hclient] at hkept hprompt
    have hopen : after.http_mutation_latched = false := by
      rw [hkept]
      simpa using hlatch
    cases r with
    | raised e => exact .refused e after hkept
    | waiting => exact absurd rfl hprompt
    | ok _ =>
      refine .verified _ _ (by simpa using hlatch) rfl rfl ?_
      simp only
      generalize (verify_http_setting_noop operation confirmation { answers := x.answers }).1 = r
      cases r with
      | ok result =>
        by_cases hverified : result.verified_noop = true
        · simp [hverified, hopen]
        · simp [hverified]
      | raised e => exact hopen
      | waiting => exact hopen

theorem Noops.of_run {operation confirmation : String} {s after : DecoService} {run : NoopRun}
    (h : run_noop config operation confirmation x s = (run, after)) :
    Noops operation confirmation x s run after := by
  have hnoops : Noops operation confirmation x s (run_noop config operation confirmation x s).1
      (run_noop config operation confirmation x s).2 := run_noop_noops _ _ _
  rwa [h] at hnoops

theorem run_noop_keeps {γ : Type} {part : DecoService → γ}
    (hclient : ∀ s client, part { s with client } = part s)
    (hlatch : ∀ s http_mutation_latched, part { s with http_mutation_latched } = part s)
    (operation confirmation : String) (s : DecoService) :
    part (run_noop config operation confirmation x s).2 = part s := by
  unfold run_noop
  split
  · rfl
  · have hkept : part (get_client config x s).2 = part s := get_client_keeps hclient s
    split
    · rename_i e after hm
      rw [hm] at hkept
      exact hkept
    · rename_i after hm
      rw [hm] at hkept
      exact hkept
    · rename_i after hm
      rw [hm] at hkept
      simp only
      split
      · split
        · exact hkept
        · exact (hlatch after true).trans hkept
      · exact hkept

theorem Noops.prompt {operation confirmation : String} {s after : DecoService} {run : NoopRun}
    (h : Noops operation confirmation x s run after) : run.outcome ≠ .waiting := by
  cases h with
  | refused e after latch => simp
  | verified run after open_latch outcome calls latch =>
    rw [outcome]
    exact verify_http_setting_noop_prompt operation confirmation _

/-! ## The sections of a plan -/

theorem cached_controller_identity_ok {s : DecoService} {identity : String}
    (h : controller_identity s.device_cache = .ok identity) :
    cached_controller_identity s = (.ok identity, s) := by
  unfold cached_controller_identity
  rw [h]
  rfl

theorem cached_controller_identity_error {s : DecoService} {e : PyError}
    (h : controller_identity s.device_cache = .error e) :
    cached_controller_identity s = (.raised e, s) := by
  unfold cached_controller_identity
  rw [h]
  rfl

/-- How the section of `execute_semantic_mutation` ends. -/
inductive Claims (config : ServerConfig) (plan_id confirmation : String) (x : Outside)
    (s : DecoService) : Outcome PyError PendingMutationPlan → DecoService → Prop
  | unknown (absent : s.pending_mutation_plans.get? plan_id = none) :
      Claims config plan_id confirmation x s
        (.raised (unknown_plan "execute semantic mutation")) s
  | expired (plan : PendingMutationPlan)
      (found : s.pending_mutation_plans.get? plan_id = some plan)
      (late : plan.expires_at < x.now) :
      Claims config plan_id confirmation x s
        (.raised (expired_plan "execute semantic mutation")) (delete_plan plan_id s).2
  | unconfirmed (plan : PendingMutationPlan)
      (found : s.pending_mutation_plans.get? plan_id = some plan)
      (in_time : ¬ plan.expires_at < x.now) (wrong : confirmation ≠ plan.confirmation) :
      Claims config plan_id confirmation x s (.raised confirmation_required) s
  | unlisted (plan : PendingMutationPlan) (e : PyError) (after : DecoService)
      (found : s.pending_mutation_plans.get? plan_id = some plan)
      (in_time : ¬ plan.expires_at < x.now) (right : confirmation = plan.confirmation)
      (refresh : device_inventory config true x s = (.raised e, after)) :
      Claims config plan_id confirmation x s (.raised e) after
  | unidentified (plan : PendingMutationPlan) (inventory : Inventory) (e : PyError)
      (after : DecoService) (found : s.pending_mutation_plans.get? plan_id = some plan)
      (in_time : ¬ plan.expires_at < x.now) (right : confirmation = plan.confirmation)
      (refresh : device_inventory config true x s = (.ok inventory, after))
      (identity : controller_identity after.device_cache = .error e) :
      Claims config plan_id confirmation x s (.raised e) after
  | changed (plan : PendingMutationPlan) (inventory : Inventory) (identity : String)
      (after : DecoService) (found : s.pending_mutation_plans.get? plan_id = some plan)
      (in_time : ¬ plan.expires_at < x.now) (right : confirmation = plan.confirmation)
      (refresh : device_inventory config true x s = (.ok inventory, after))
      (identified : controller_identity after.device_cache = .ok identity)
      (other : identity ≠ plan.controller_identity) :
      Claims config plan_id confirmation x s (.raised controller_changed)
        (delete_plan plan_id after).2
  | claimed (plan : PendingMutationPlan) (inventory : Inventory) (after : DecoService)
      (found : s.pending_mutation_plans.get? plan_id = some plan)
      (in_time : ¬ plan.expires_at < x.now) (right : confirmation = plan.confirmation)
      (refresh : device_inventory config true x s = (.ok inventory, after))
      (identified : controller_identity after.device_cache = .ok plan.controller_identity) :
      Claims config plan_id confirmation x s (.ok plan) (delete_plan plan_id after).2
  | waiting (after : DecoService)
      (refresh : device_inventory config true x s = (.waiting, after)) :
      Claims config plan_id confirmation x s .waiting after

theorem claim_plan_claims (plan_id confirmation : String) (s : DecoService) :
    Claims config plan_id confirmation x s (claim_plan config plan_id confirmation x s).1
      (claim_plan config plan_id confirmation x s).2 := by
  unfold claim_plan
  cases hfound : s.pending_mutation_plans.get? plan_id with
  | none => exact .unknown hfound
  | some plan =>
    simp only
    by_cases hlate : plan.expires_at < x.now
    · rw [if_pos hlate]
      exact .expired plan hfound hlate
    · rw [if_neg hlate]
      by_cases hwrong : confirmation ≠ plan.confirmation
      · rw [if_pos hwrong]
        exact .unconfirmed plan hfound hlate hwrong
      · rw [if_neg hwrong]
        have hright := not_not.mp hwrong
        rcases hrefresh : device_inventory config true x s with ⟨r, after⟩
        cases r with
        | raised e =>
          rw [bind_raised hrefresh]
          exact .unlisted plan e after hfound hlate hright hrefresh
        | waiting =>
          rw [bind_waiting hrefresh]
          exact .waiting after hrefresh
        | ok inventory =>
          rw [bind_ok hrefresh]
          cases hidentity : controller_identity after.device_cache with
          | error e =>
            rw [bind_raised (cached_controller_identity_error hidentity)]
            exact .unidentified plan inventory e after hfound hlate hright hrefresh hidentity
          | ok identity =>
            rw [bind_ok (cached_controller_identity_ok hidentity)]
            by_cases hother : identity ≠ plan.controller_identity
            · rw [if_pos hother]
              exact .changed plan inventory identity after hfound hlate hright hrefresh hidentity
                hother
            · rw [if_neg hother]
              rw [not_not.mp hother] at hidentity
              exact .claimed plan inventory after hfound hlate hright hrefresh hidentity

theorem Claims.of_run {plan_id confirmation : String} {s after : DecoService}
    {r : Outcome PyError PendingMutationPlan}
    (h : claim_plan config plan_id confirmation x s = (r, after)) :
    Claims config plan_id confirmation x s r after := by
  have hclaims : Claims config plan_id confirmation x s _ _ :=
    claim_plan_claims plan_id confirmation s
  rwa [h] at hclaims

theorem Claims.keeps {γ : Type} {part : DecoService → γ} (hp : Unlisted part)
    (hplans : ∀ s pending_mutation_plans, part { s with pending_mutation_plans } = part s)
    {plan_id confirmation : String} {s after : DecoService}
    {r : Outcome PyError PendingMutationPlan}
    (claim : Claims config plan_id confirmation x s r after) : part after = part s := by
  cases claim with
  | unknown absent => rfl
  | expired plan found late => exact hplans _ _
  | unconfirmed plan found in_time wrong => rfl
  | unlisted plan e after found in_time right refresh =>
    exact (device_inventory_keeps hp true).of_run refresh
  | unidentified plan inventory e after found in_time right refresh identity =>
    exact (device_inventory_keeps hp true).of_run refresh
  | changed plan inventory identity after found in_time right refresh identified other =>
    exact (hplans _ _).trans ((device_inventory_keeps hp true).of_run refresh)
  | claimed plan inventory after found in_time right refresh identified =>
    exact (hplans _ _).trans ((device_inventory_keeps hp true).of_run refresh)
  | waiting after refresh => exact (device_inventory_keeps hp true).of_run refresh

end tplink_deco_api.service
