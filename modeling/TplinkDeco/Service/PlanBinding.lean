-- The controller that a plan is bound to: the identity check and the write are two
-- sections, and what another call does to the device cache between them.
import TplinkDeco.Service.Latch

open dict prog threads

namespace tplink_deco_api.service

open exceptions http_noop_verification rest Prog

variable {config : ServerConfig} {store : InMemoryIdempotencyStore Rat}

/-- The identity of the controller in the cache. -/
def World.identity (w : World) : Except PyError String :=
  controller_identity w.deco_service.device_cache

/-! ## The law of the plans -/

/-- A write of a plan goes to the controller of the plan. -/
def Event.bound : Event → Bool
  | .noop job identity run =>
    match job.plan with
    | some plan => !wrote run.calls || decide (identity = .ok plan.controller_identity)
    | none => true
  | _ => true

/-- Every write went to the controller of its plan. -/
def WritesBound (h : List (Nat × Event)) : Prop := ∀ e ∈ h, e.2.bound = true

/-- While a thread executes a plan, no section of another thread gives the device cache
another controller identity, or none. -/
def Undisturbed (config : ServerConfig) (store : InMemoryIdempotencyStore Rat)
    (p : Pool World Call) (t : Nat) (a : Act) : Prop :=
  ∀ i plan w own es, i ≠ t → (p.thread i).executes = some plan →
    service_step config store a p.shared (p.thread t) = some (w, own, es) →
    w.identity = p.shared.identity

/-- The device cache shows the controller of the plan that the call executes. -/
def Bound (w : World) (call : Call) : Prop :=
  ∀ plan, call.executes = some plan → w.identity = .ok plan.controller_identity

/-! ## One step -/

theorem bound_noop {job : NoopJob} {identity : Except PyError String} {run : NoopRun} :
    (Event.noop job identity run).bound = true ↔
      ∀ plan, job.plan = some plan → wrote run.calls = true →
        identity = .ok plan.controller_identity := by
  simp only [Event.bound]
  cases job.plan with
  | none => simp
  | some plan => cases hwrote : wrote run.calls <;> simp

theorem bound_of_not_writes {e : Event} (h : e.writes = false) : e.bound = true := by
  cases e with
  | noop job identity run =>
    apply bound_noop.mpr
    intro plan _ hwrote
    have hnone : wrote run.calls = false := h
    rw [hwrote] at hnone
    cases hnone
  | _ => rfl

theorem executes_of_plain {call : Call} (h : call.plain = true) : call.executes = none := by
  cases call with
  | profiling job =>
    have hnone : job.plan.isNone = true := h
    exact Option.isNone_iff_eq_none.mp hnone
  | writing job => cases h
  | _ => rfl

theorem bound_of_free {w : World} {call : Call} (h : call.executes = none) : Bound w call := by
  intro plan hexecutes
  rw [h] at hexecutes
  cases hexecutes

theorem bound_of_plain {w : World} {call : Call} (h : call.plain = true) : Bound w call :=
  bound_of_free (executes_of_plain h)

theorem Bound.same {w w' : World} {call : Call} (h : Bound w call)
    (hidentity : w'.identity = w.identity) : Bound w' call := by
  intro plan hexecutes
  rw [hidentity]
  exact h plan hexecutes

/-- A thread that passes its profile check kept the cache that its claim left. -/
theorem bound_of_profile {w : World} {x : Outside} {job : NoopJob} {after : DecoService}
    (hexact : require_exact_p9_profile config x w.deco_service = (.ok (), after))
    (hbound : Bound w (.profiling job)) :
    Bound { w with deco_service := after } (.writing job) := by
  intro plan hplan
  have hidentity := hbound plan hplan
  have hcache : w.deco_service.device_cache ≠ none := by
    intro hnone
    unfold World.identity at hidentity
    rw [hnone] at hidentity
    cases hidentity
  have hafter : (require_exact_p9_profile config x w.deco_service).2 = w.deco_service :=
    require_exact_p9_profile_cached hcache
  rw [hexact] at hafter
  change after = w.deco_service at hafter
  rw [hafter]
  exact hidentity

/-- A claim succeeds only on the controller of its plan. -/
theorem bound_of_claim {w : World} {x : Outside} {plan_id confirmation : String}
    {request : Option Request} {plan : PendingMutationPlan} {after : DecoService} {own' : Call}
    {es : List Event}
    (claim : Claims config plan_id confirmation x w.deco_service (.ok plan) after)
    (hgoes : execute_plan config confirmation request plan = (own', es)) :
    Bound { w with deco_service := after } own' := by
  have hidentity : controller_identity after.device_cache = .ok plan.controller_identity := by
    cases claim with
    | claimed plan inventory after found in_time right refresh identified => exact identified
  rcases execute_plan_goes confirmation request plan
    with hquiet | ⟨call, rest, hcall, -, hplain | ⟨job, hjob, hplan⟩⟩
  · rw [hgoes] at hquiet
    exact bound_of_plain hquiet.call
  · rw [hgoes] at hcall
    cases hcall
    exact bound_of_plain hplain
  · rw [hgoes] at hcall
    cases hcall
    subst hjob
    intro other hexecutes
    have hother : job.plan = some other := hexecutes
    rw [hplan] at hother
    cases hother
    exact hidentity

theorem Turn.bound {w w' : World} {a : Act} {own own' : Call} {es : List Event}
    (turn : Turn config w a own w' own' es) (hbound : Bound w own) : Bound w' own' := by
  cases turn with
  | quiet untouched drawn goes => exact bound_of_plain goes.call
  | drawn x name mode confirmation => exact bound_of_free rfl
  | stored x plan identified => exact bound_of_plain rfl
  | claimed x plan_id confirmation request plan after own' es claim goes =>
    exact bound_of_claim claim goes
  | unclaimed x plan_id confirmation request e after own' es claim goes =>
    have hquiet := quiet_finish request (.error e)
    rw [goes] at hquiet
    exact bound_of_plain hquiet.call
  | profiled x job after exact => exact bound_of_profile exact hbound
  | noop x job run after own' es ends goes => exact bound_of_plain (finish_noop_goes goes).call
  | lapsed x plan_id plan found late => exact bound_of_plain rfl
  | closed x after own' es empty latch goes => exact bound_of_plain goes.call

theorem Turn.writes_bound {w w' : World} {a : Act} {own own' : Call} {es : List Event}
    (turn : Turn config w a own w' own' es) (hbound : Bound w own) :
    ∀ e ∈ es, e.bound = true := by
  rcases turn.latch with ⟨-, hes⟩ | ⟨x, job, run, rest, -, rfl, -, rfl, hrest⟩
  · exact fun e he => bound_of_not_writes (hes e he)
  · rintro e (_ | ⟨_, he⟩)
    · apply bound_noop.mpr
      intro plan hplan _
      exact hbound plan hplan
    · exact bound_of_not_writes (hrest e he)

/-! ## Every run -/

/-- In every run in which no other call moves the cached controller of an execution, the
writes of the plans go to their own controllers. -/
theorem plans_stay_with_their_controllers (config : ServerConfig)
    (store : InMemoryIdempotencyStore Rat) {p : Pool World Call} {h : List (Nat × Event)}
    (hr : Reaches (service_threads config store) (Undisturbed config store) started p h) :
    WritesBound h := by
  have hinv : (∀ i, Bound p.shared (p.thread i)) ∧ WritesBound h := by
    apply hr.invariant (I := fun p h => (∀ i, Bound p.shared (p.thread i)) ∧ WritesBound h)
    · refine ⟨fun i => bound_of_free rfl, ?_⟩
      intro e he
      cases he
    · rintro p h t a w own es ⟨hbound, hwrites⟩ hallowed hfires
      have hturn := service_step_turn hfires
      constructor
      · refine put_forall (P := fun _ call => Bound w call) (hturn.bound (hbound t)) ?_
        intro i hi plan hexecutes
        have hsame := hallowed i plan w own es hi hexecutes hfires
        exact (hbound i).same hsame plan hexecutes
      · intro e he
        rcases List.mem_append.mp he with hold | hnew
        · exact hwrites e hold
        · obtain ⟨event, hevent, rfl⟩ := List.mem_map.mp hnew
          exact hturn.writes_bound (hbound t) event hevent
  exact hinv.2

/-! ## Runs on given device lists -/

/-- Of two threads, the other one executes no plan, or the section leaves the identity. -/
def leaves_identity (config : ServerConfig) (store : InMemoryIdempotencyStore Rat)
    (p : Pool World Call) (t : Nat) (a : Act) : Bool :=
  t < 2 && ((p.thread (1 - t)).executes.isNone ||
    (service_step config store a p.shared (p.thread t)).all fun step =>
      step.1.identity = p.shared.identity)

theorem undisturbed_of_leaves {p : Pool World Call} {t : Nat} {a : Act}
    (h : leaves_identity config store p t a = true)
    (hothers : ∀ i, 2 ≤ i → (p.thread i).executes = none) :
    Undisturbed config store p t a := by
  unfold leaves_identity at h
  simp only [Bool.and_eq_true, decide_eq_true_eq, Bool.or_eq_true] at h
  obtain ⟨ht, hleaves⟩ := h
  intro i plan w own es hi hexecutes hfires
  have hother : i = 1 - t := by
    by_contra hne
    rw [hothers i (by omega)] at hexecutes
    cases hexecutes
  subst hother
  rcases hleaves with hnone | hsame
  · rw [hexecutes] at hnone
    cases hnone
  · rw [hfires] at hsame
    exact of_decide_eq_true hsame

/-- In a run of two threads each section is looked at where it is taken. -/
theorem undisturbed_two (steps : List (Nat × Act)) (p : Pool World Call)
    (hpasses : (service_threads config store).passes (leaves_identity config store) steps p = true)
    (hothers : ∀ i, 2 ≤ i → (p.thread i).executes = none) :
    (service_threads config store).RunAllowed (Undisturbed config store) steps p := by
  refine runAllowed_of_invariant (J := fun steps p =>
    (service_threads config store).passes (leaves_identity config store) steps p = true ∧
      ∀ i, 2 ≤ i → (p.thread i).executes = none) ?_ ?_ steps p ⟨hpasses, hothers⟩
  · rintro t a steps p ⟨hpasses, hothers⟩
    exact undisturbed_of_leaves (Bool.and_eq_true_iff.mp hpasses).1 hothers
  · rintro t a steps p w own es ⟨hpasses, hothers⟩ hfires
    obtain ⟨hleaves, hrest⟩ := Bool.and_eq_true_iff.mp hpasses
    have ht : t < 2 := by
      unfold leaves_identity at hleaves
      exact of_decide_eq_true (Bool.and_eq_true_iff.mp hleaves).1
    rw [hfires] at hrest
    refine ⟨hrest, fun i hi => ?_⟩
    rw [put_other p w own (by omega)]
    exact hothers i hi

def first_controller : Device := p9_controller "AA-AA-AA-AA-AA-AA"

def second_controller : Device := p9_controller "BB-BB-BB-BB-BB-BB"

/-- A thread plans a no-op and claims the plan, on the first controller. -/
def planned_and_claimed : List (Nat × Act) :=
  let confirmation := (HTTP_NOOP_CONFIRMATIONS BEAMFORMING_WRITE).getD ""
  [(0, .call (.plan_semantic_mutation "beamforming" [] VERIFY_MODE)),
    (0, .section { http_devices := .ok [first_controller] }),
    (0, .section { token := "plan" }),
    (0, .section {}),
    (0, .call (.execute_semantic_mutation "plan" confirmation)),
    (0, .section { http_devices := .ok [first_controller] })]

/-- It passes its profile check and writes. -/
def checked_and_written : List (Nat × Act) := [
  (0, .section {}),
  (0, .section { posted := fun _ => .ok (.ok enabled_answer) })]

/-- Another thread refreshes the cache, and the router lists this controller. -/
def another_refresh (controller : Device) : List (Nat × Act) := [
  (1, .call (.device_inventory true)),
  (1, .section { http_devices := .ok [controller] })]

/-- Which writes a run made, and whether they went to the controller of their plan. -/
def bindings_of (h : List (Nat × Event)) : List (Bool × Bool) :=
  (h.filter fun e => e.2.writes).map fun e => (e.2.writes, e.2.bound)

/-- A refresh between the claim and the profile check that lists the same controller. -/
theorem an_undisturbed_execution_writes_to_its_controller : ∃ p h,
    Reaches (service_threads lab_config lab_store) (Undisturbed lab_config lab_store) started p h ∧
      bindings_of h = [(true, true)] ∧ WritesBound h := by
  let steps := planned_and_claimed ++ another_refresh first_controller ++ checked_and_written
  have hrun : ((service_threads lab_config lab_store).run steps started []).map
      (fun r => bindings_of r.2) = some [(true, true)] := by
    decide +kernel
  have hpasses : (service_threads lab_config lab_store).passes
      (leaves_identity lab_config lab_store) steps started = true := by
    decide +kernel
  obtain ⟨⟨p, h⟩, hrun, hbindings⟩ := Option.map_eq_some_iff.mp hrun
  have hreaches := reaches_of_allowed_run _ .refl hrun
    (undisturbed_two _ started hpasses fun _ _ => rfl)
  exact ⟨p, h, hreaches, hbindings, plans_stay_with_their_controllers lab_config lab_store hreaches⟩

/-- A refresh between the claim and the profile check: the write goes to the second controller. -/
theorem a_refresh_moves_a_claimed_plan : ∃ p h,
    (service_threads lab_config lab_store).run
        (planned_and_claimed ++ another_refresh second_controller ++ checked_and_written) started
          [] = some (p, h) ∧
      bindings_of h = [(true, false)] ∧ ¬ WritesBound h := by
  have hrun : ((service_threads lab_config lab_store).run
      (planned_and_claimed ++ another_refresh second_controller ++ checked_and_written) started
        []).map (fun r => bindings_of r.2) = some [(true, false)] := by
    decide +kernel
  obtain ⟨⟨p, h⟩, hrun, hbindings⟩ := Option.map_eq_some_iff.mp hrun
  refine ⟨p, h, hrun, hbindings, ?_⟩
  intro hbound
  have hmem : (true, false) ∈ bindings_of h := by
    rw [hbindings]
    simp
  obtain ⟨e, he, heq⟩ := List.mem_map.mp hmem
  have hunbound : e.2.bound = false := congrArg Prod.snd heq
  rw [hbound e (List.mem_filter.mp he).1] at hunbound
  cases hunbound

end tplink_deco_api.service
