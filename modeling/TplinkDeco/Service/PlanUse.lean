-- A plan is used at most once: it leaves the pending map before its one execution
-- starts, and no other call can find it there again.
import TplinkDeco.Service.Turns

open dict prog threads

namespace tplink_deco_api.service

open exceptions http_noop_verification rest Prog

variable {config : ServerConfig} {store : InMemoryIdempotencyStore Rat}

/-- The plans that wait. -/
abbrev World.pending (w : World) : Dict String PendingMutationPlan :=
  w.deco_service.pending_mutation_plans

/-- The plan that a call is about to store. -/
def Call.stores : Call → Option String
  | .storing plan_id _ _ _ _ => some plan_id
  | _ => none

/-- The event uses the plan up. -/
def Event.uses (plan_id : String) : Event → Bool
  | .verifying used => used = plan_id
  | _ => false

/-- How often a plan led to a call of `verify_setting_noop`. -/
def uses (plan_id : String) (h : List (Nat × Event)) : Nat :=
  h.countP fun e => e.2.uses plan_id

/-- The token of a new plan was not drawn before. -/
def fresh_token (p : Pool World Call) (t : Nat) (a : Act) : Bool :=
  match p.thread t, a with
  | .drawing _ _ _, .section x => decide (x.token ∉ p.shared.drawn)
  | _, _ => true

/-- The plan that is stored gets an identifier of its own. -/
def FreshTokens (p : Pool World Call) (t : Nat) (a : Act) : Prop := fresh_token p t a = true

/-! ## The invariant of the plans -/

/-- The invariant of the plans. -/
structure PlansSafe (p : Pool World Call) (h : List (Nat × Event)) : Prop where
  pending : ∀ plan_id plan, p.shared.pending.get? plan_id = some plan →
    plan.plan_id = plan_id ∧ plan_id ∈ p.shared.drawn ∧ uses plan_id h = 0
  storing : ∀ t plan_id, (p.thread t).stores = some plan_id →
    plan_id ∈ p.shared.drawn ∧ p.shared.pending.get? plan_id = none ∧ uses plan_id h = 0
  apart : ∀ t i plan_id, (p.thread t).stores = some plan_id →
    (p.thread i).stores = some plan_id → t = i
  known : ∀ plan_id, 0 < uses plan_id h → plan_id ∈ p.shared.drawn
  once : ∀ plan_id, uses plan_id h ≤ 1

theorem uses_extend (plan_id : String) (h : List (Nat × Event)) (t : Nat) (es : List Event) :
    uses plan_id (h ++ es.map fun e => (t, e)) =
      uses plan_id h + es.countP fun e => e.uses plan_id := by
  unfold uses
  rw [List.countP_append, List.countP_map]
  rfl

theorem plansSafe_started : PlansSafe started [] where
  pending := by
    intro plan_id plan hget
    cases hget
  storing := by
    intro t plan_id hstores
    cases hstores
  apart := by
    intro t i plan_id hstores
    cases hstores
  known := by
    intro plan_id hused
    cases hused
  once := by
    intro plan_id
    simp [uses]

section

variable {p : Pool World Call} {h : List (Nat × Event)} {t : Nat} {w : World} {own : Call}
  {es : List Event}

/-- A thread that stores nothing after its step was another one if it stores. -/
theorem stores_before (hown : own.stores = none) {i : Nat} {plan_id : String}
    (hi : ((p.put t w own).thread i).stores = some plan_id) :
    (p.thread i).stores = some plan_id ∧ i ≠ t := by
  by_cases ht : i = t
  · subst ht
    rw [put_same, hown] at hi
    cases hi
  · rw [put_other p w own ht] at hi
    exact ⟨hi, ht⟩

/-- A fresh token is neither pending, nor stored by another thread, nor used. -/
theorem PlansSafe.draws (hs : PlansSafe p h) {token : String} (hfresh : token ∉ p.shared.drawn)
    (hown : own.stores = some token) :
    PlansSafe (p.put t { p.shared with drawn := token :: p.shared.drawn } own) h := by
  have hunused : uses token h = 0 := by
    have := mt (hs.known token) hfresh
    omega
  have hunstored : ∀ i, (p.thread i).stores ≠ some token := by
    intro i hi
    exact hfresh (hs.storing i token hi).1
  have hbefore : ∀ i plan_id, ((p.put t { p.shared with drawn := token :: p.shared.drawn }
      own).thread i).stores = some plan_id →
        (i = t ∧ plan_id = token) ∨ (i ≠ t ∧ (p.thread i).stores = some plan_id) := by
    intro i plan_id hi
    by_cases ht : i = t
    · subst ht
      rw [put_same, hown] at hi
      exact Or.inl ⟨rfl, (Option.some.inj hi).symm⟩
    · rw [put_other p _ own ht] at hi
      exact Or.inr ⟨ht, hi⟩
  constructor
  · intro plan_id plan hget
    obtain ⟨hid, hdrawn, hnone⟩ := hs.pending plan_id plan hget
    exact ⟨hid, List.mem_cons_of_mem token hdrawn, hnone⟩
  · intro i plan_id hi
    rcases hbefore i plan_id hi with ⟨-, rfl⟩ | ⟨-, hi⟩
    · refine ⟨by simp, ?_, hunused⟩
      cases hget : p.shared.pending.get? plan_id with
      | none => exact hget
      | some plan => exact absurd (hs.pending plan_id plan hget).2.1 hfresh
    · obtain ⟨hdrawn, hnone, hzero⟩ := hs.storing i plan_id hi
      exact ⟨List.mem_cons_of_mem token hdrawn, hnone, hzero⟩
  · intro i j plan_id hi hj
    rcases hbefore i plan_id hi with ⟨rfl, rfl⟩ | ⟨-, hstored⟩
    · rcases hbefore j plan_id hj with ⟨rfl, -⟩ | ⟨-, hstored⟩
      · rfl
      · exact absurd hstored (hunstored j)
    · rcases hbefore j plan_id hj with ⟨-, rfl⟩ | ⟨-, hstored'⟩
      · exact absurd hstored (hunstored i)
      · exact hs.apart i j plan_id hstored hstored'
  · intro plan_id hused
    exact List.mem_cons_of_mem token (hs.known plan_id hused)
  · exact hs.once

/-- What a step does to one plan id: nothing or a removal, the end of its storing, or the
start of its execution. -/
inductive PlanStep (p : Pool World Call) (t : Nat) (w : World) (es : List Event)
    (plan_id : String) : Prop
  | kept (unused : es.countP (fun e => e.uses plan_id) = 0)
      (map : ∀ plan, w.pending.get? plan_id = some plan →
        p.shared.pending.get? plan_id = some plan)
  | stored (unused : es.countP (fun e => e.uses plan_id) = 0)
      (thread : (p.thread t).stores = some plan_id)
      (map : ∀ plan, w.pending.get? plan_id = some plan → plan.plan_id = plan_id)
  | spent (plan : PendingMutationPlan) (found : p.shared.pending.get? plan_id = some plan)
      (gone : w.pending.get? plan_id = none) (used : es.countP (fun e => e.uses plan_id) ≤ 1)

theorem PlansSafe.step (hs : PlansSafe p h) (hdrawn : w.drawn = p.shared.drawn)
    (hown : own.stores = none) (hids : ∀ plan_id, PlanStep p t w es plan_id) :
    PlansSafe (p.put t w own) (h ++ es.map fun e => (t, e)) := by
  constructor
  · intro plan_id plan hget
    rw [put_shared] at hget
    rw [put_shared, hdrawn, uses_extend]
    cases hids plan_id with
    | kept unused map =>
      rw [unused]
      exact hs.pending plan_id plan (map plan hget)
    | stored unused thread map =>
      obtain ⟨hnew, -, hunused⟩ := hs.storing t plan_id thread
      rw [unused]
      exact ⟨map plan hget, hnew, hunused⟩
    | spent old found gone used =>
      rw [gone] at hget
      cases hget
  · intro i plan_id hi
    obtain ⟨hi, hne⟩ := stores_before hown hi
    obtain ⟨hnew, hnone, hunused⟩ := hs.storing i plan_id hi
    rw [put_shared, hdrawn, uses_extend]
    cases hids plan_id with
    | kept unused map =>
      rw [unused]
      refine ⟨hnew, ?_, hunused⟩
      cases hget : w.pending.get? plan_id with
      | none => rfl
      | some plan =>
        rw [map plan hget] at hnone
        cases hnone
    | stored unused thread map => exact absurd (hs.apart i t plan_id hi thread) hne
    | spent plan found gone used =>
      rw [found] at hnone
      cases hnone
  · intro i j plan_id hi hj
    exact hs.apart i j plan_id (stores_before hown hi).1 (stores_before hown hj).1
  · intro plan_id hused
    rw [uses_extend] at hused
    rw [put_shared, hdrawn]
    cases hids plan_id with
    | kept unused map =>
      rw [unused] at hused
      exact hs.known plan_id hused
    | stored unused thread map =>
      rw [unused] at hused
      exact hs.known plan_id hused
    | spent plan found gone used => exact (hs.pending plan_id plan found).2.1
  · intro plan_id
    have honce := hs.once plan_id
    rw [uses_extend]
    cases hids plan_id with
    | kept unused map => omega
    | stored unused thread map => omega
    | spent plan found gone used =>
      have hunused := (hs.pending plan_id plan found).2.2
      omega

end

/-! ## The steps of the service -/

theorem unused_of_plain {es : List Event} (h : ∀ e ∈ es, e.plain = true) (plan_id : String) :
    es.countP (fun e => e.uses plan_id) = 0 := by
  apply List.countP_eq_zero.mpr
  intro e he huses
  have hplain := h e he
  cases e with
  | verifying used => cases hplain
  | _ => cases huses

theorem stores_of_plain {call : Call} (h : call.plain = true) : call.stores = none := by
  cases call with
  | storing plan_id name mode confirmation expires_at => cases h
  | _ => rfl

theorem get?_of_erase {pending : Dict String PendingMutationPlan} {erased plan_id : String}
    {plan : PendingMutationPlan} (h : (pending.erase erased).get? plan_id = some plan) :
    pending.get? plan_id = some plan := by
  rw [Dict.get?_erase] at h
  split at h
  · cases h
  · exact h

theorem inventory_keeps_plans {x : Outside} {refresh : Bool} {s after : DecoService}
    {r : Outcome PyError Inventory} (h : device_inventory config refresh x s = (r, after)) :
    after.pending_mutation_plans = s.pending_mutation_plans :=
  (device_inventory_keeps unlisted_plans refresh).of_run h

/-- The section of `execute_semantic_mutation` keeps the map, or takes its plan out. -/
theorem Claims.map {x : Outside} {plan_id confirmation : String} {s after : DecoService}
    {r : Outcome PyError PendingMutationPlan}
    (claim : Claims config plan_id confirmation x s r after) :
    after.pending_mutation_plans = s.pending_mutation_plans ∨
      after.pending_mutation_plans = s.pending_mutation_plans.erase plan_id := by
  cases claim with
  | unknown absent => exact Or.inl rfl
  | expired plan found late => exact Or.inr rfl
  | unconfirmed plan found in_time wrong => exact Or.inl rfl
  | unlisted plan e after found in_time right refresh => exact Or.inl (inventory_keeps_plans refresh)
  | unidentified plan inventory e after found in_time right refresh identity =>
    exact Or.inl (inventory_keeps_plans refresh)
  | changed plan inventory identity after found in_time right refresh identified other =>
    rw [← inventory_keeps_plans refresh]
    exact Or.inr rfl
  | claimed plan inventory after found in_time right refresh identified =>
    rw [← inventory_keeps_plans refresh]
    exact Or.inr rfl
  | waiting after refresh => exact Or.inl (inventory_keeps_plans refresh)

theorem Claims.shrinks {x : Outside} {plan_id confirmation : String} {s after : DecoService}
    {r : Outcome PyError PendingMutationPlan}
    (claim : Claims config plan_id confirmation x s r after) {other : String}
    {plan : PendingMutationPlan} (h : after.pending_mutation_plans.get? other = some plan) :
    s.pending_mutation_plans.get? other = some plan := by
  rcases claim.map with hmap | hmap
  · rwa [hmap] at h
  · rw [hmap] at h
    exact get?_of_erase h

theorem Claims.others {x : Outside} {plan_id confirmation other : String} {s after : DecoService}
    {r : Outcome PyError PendingMutationPlan}
    (claim : Claims config plan_id confirmation x s r after) (hne : other ≠ plan_id) :
    after.pending_mutation_plans.get? other = s.pending_mutation_plans.get? other := by
  rcases claim.map with hmap | hmap
  · rw [hmap]
  · rw [hmap]
    exact Dict.get?_erase_of_ne _ hne

theorem run_noop_keeps_plans {operation confirmation : String} {x : Outside}
    {s after : DecoService} {run : NoopRun}
    (h : run_noop config operation confirmation x s = (run, after)) :
    after.pending_mutation_plans = s.pending_mutation_plans := by
  have hkept : (run_noop config operation confirmation x s).2.pending_mutation_plans =
      s.pending_mutation_plans :=
    run_noop_keeps (fun _ _ => rfl) (fun _ _ => rfl) operation confirmation s
  rwa [h] at hkept

/-- A claim takes the plan out of the map. -/
theorem Claims.takes {x : Outside} {plan_id confirmation : String} {s after : DecoService}
    {plan : PendingMutationPlan}
    (claim : Claims config plan_id confirmation x s (.ok plan) after) :
    s.pending_mutation_plans.get? plan_id = some plan ∧
      after.pending_mutation_plans.get? plan_id = none := by
  cases claim with
  | claimed plan inventory after found in_time right refresh identified =>
    exact ⟨found, Dict.get?_erase_self _ _⟩

/-- What follows a claim stores no plan, and uses at most the claimed one, once. -/
theorem execute_plan_uses {confirmation : String} {request : Option Request}
    {plan : PendingMutationPlan} {own : Call} {es : List Event}
    (h : execute_plan config confirmation request plan = (own, es)) :
    own.stores = none ∧ es.countP (fun e => e.uses plan.plan_id) ≤ 1 ∧
      ∀ plan_id, plan_id ≠ plan.plan_id → es.countP (fun e => e.uses plan_id) = 0 := by
  rcases execute_plan_goes confirmation request plan with hquiet | ⟨call, rest, hgoes, hrest, hcall⟩
  · rw [h] at hquiet
    refine ⟨stores_of_plain hquiet.call, ?_, fun plan_id _ => unused_of_plain hquiet.events plan_id⟩
    rw [unused_of_plain hquiet.events]
    omega
  · rw [h] at hgoes
    cases hgoes
    refine ⟨?_, ?_, ?_⟩
    · rcases hcall with hplain | ⟨job, rfl, -⟩
      · exact stores_of_plain hplain
      · rfl
    · rw [List.countP_cons, unused_of_plain hrest]
      split <;> omega
    · intro plan_id hne
      rw [List.countP_cons, unused_of_plain hrest]
      simp [Event.uses, hne.symm]

/-- A step that uses no plan, stores none, and at most removes some. -/
theorem PlansSafe.shrinks {p : Pool World Call} {h : List (Nat × Event)} {t : Nat} {w : World}
    {own : Call} {es : List Event} (hs : PlansSafe p h) (hdrawn : w.drawn = p.shared.drawn)
    (hown : own.stores = none) (hes : ∀ plan_id, es.countP (fun e => e.uses plan_id) = 0)
    (hmap : ∀ plan_id plan, w.pending.get? plan_id = some plan →
      p.shared.pending.get? plan_id = some plan) :
    PlansSafe (p.put t w own) (h ++ es.map fun e => (t, e)) := by
  apply hs.step hdrawn hown
  intro plan_id
  exact PlanStep.kept (hes plan_id) (hmap plan_id)

theorem PlansSafe.turn {p : Pool World Call} {h : List (Nat × Event)} {t : Nat} {a : Act}
    {w : World} {own : Call} {es : List Event} (hs : PlansSafe p h) (hfresh : FreshTokens p t a)
    (turn : Turn config p.shared a (p.thread t) w own es) :
    PlansSafe (p.put t w own) (h ++ es.map fun e => (t, e)) := by
  unfold FreshTokens fresh_token at hfresh
  generalize hthread : p.thread t = call at turn hfresh
  cases turn with
  | quiet untouched drawn goes =>
    refine hs.shrinks drawn (stores_of_plain goes.call) (unused_of_plain goes.events) ?_
    intro plan_id plan hget
    rwa [World.pending, untouched.plans] at hget
  | drawn x name mode confirmation =>
    rw [List.map_nil, List.append_nil]
    exact hs.draws (by simpa using hfresh) rfl
  | stored x plan identified =>
    refine hs.step rfl rfl ?_
    intro plan_id
    by_cases heq : plan_id = plan.plan_id
    · subst heq
      apply PlanStep.stored (by simp [Event.uses]) (by rw [hthread]; rfl)
      intro other hget
      rw [World.pending, Dict.get?_set_self] at hget
      cases hget
      rfl
    · apply PlanStep.kept (by simp [Event.uses])
      intro other hget
      rwa [World.pending, Dict.get?_set_of_ne _ _ heq] at hget
  | claimed x plan_id confirmation request plan after own es claim goes =>
    obtain ⟨hown, hself, hother⟩ := execute_plan_uses goes
    obtain ⟨hfound, hgone⟩ := claim.takes
    have hid := (hs.pending plan_id plan hfound).1
    refine hs.step rfl hown ?_
    intro other
    by_cases heq : other = plan_id
    · subst heq
      rw [hid] at hself
      exact PlanStep.spent plan hfound hgone hself
    · apply PlanStep.kept (hother other (by rwa [hid]))
      exact fun plan hget => claim.shrinks hget
  | unclaimed x plan_id confirmation request e after own es claim goes =>
    have hquiet := quiet_finish request (.error e)
    rw [goes] at hquiet
    refine hs.shrinks rfl (stores_of_plain hquiet.call) (unused_of_plain hquiet.events) ?_
    exact fun other plan hget => claim.shrinks hget
  | profiled x job after exact =>
    refine hs.shrinks rfl rfl (fun _ => rfl) ?_
    intro plan_id plan hget
    rwa [World.pending, (require_exact_p9_profile_keeps unlisted_plans).of_run exact] at hget
  | noop x job run after own es ends goes =>
    have hquiet := finish_noop_goes goes
    refine hs.shrinks rfl (stores_of_plain hquiet.call) ?_ ?_
    · intro plan_id
      rw [List.countP_cons, unused_of_plain hquiet.events]
      rfl
    · intro plan_id plan hget
      rwa [World.pending, run_noop_keeps_plans ends] at hget
  | lapsed x plan_id plan found late =>
    exact hs.shrinks rfl rfl (fun _ => by simp [Event.uses]) fun other plan hget => get?_of_erase hget
  | closed x after own es empty latch goes =>
    refine hs.shrinks rfl (stores_of_plain goes.call) (unused_of_plain goes.events) ?_
    intro plan_id plan hget
    rw [World.pending, empty] at hget
    cases hget

theorem plansSafe_of_reaches {p : Pool World Call} {h : List (Nat × Event)}
    (hr : Reaches (service_threads config store) FreshTokens started p h) : PlansSafe p h := by
  apply hr.invariant
  · exact plansSafe_started
  · intro p h t a w own es hs hallowed hfires
    exact hs.turn hallowed (service_step_turn hfires)

/-! ## How a plan leaves the map -/

/-- Why a pending plan is no longer in the map after a step, and how the call goes on. -/
inductive Leaves (config : ServerConfig) (w : World) (plan : PendingMutationPlan) :
    Act → Call → Call → List Event → Prop
  | expired (x : Outside) (confirmation : String) (request : Option Request) (own : Call)
      (es : List Event) (late : plan.expires_at < x.now)
      (goes : finish request (.error (expired_plan "execute semantic mutation")) = (own, es)) :
      Leaves config w plan (.section x) (.claiming plan.plan_id confirmation request) own es
  | lapsed (x : Outside) (late : plan.expires_at ≤ x.now) :
      Leaves config w plan (.section x) (.showing plan.plan_id) .idle
        [.raised (expired_plan "read semantic mutation plan")]
  | changed (x : Outside) (confirmation : String) (request : Option Request) (own : Call)
      (es : List Event) (inventory : Inventory) (identity : String) (after : DecoService)
      (refresh : device_inventory config true x w.deco_service = (.ok inventory, after))
      (identified : controller_identity after.device_cache = .ok identity)
      (other : identity ≠ plan.controller_identity)
      (goes : finish request (.error controller_changed) = (own, es)) :
      Leaves config w plan (.section x) (.claiming plan.plan_id confirmation request) own es
  | started (x : Outside) (request : Option Request) (own : Call) (es : List Event)
      (in_time : ¬ plan.expires_at < x.now)
      (goes : execute_plan config plan.confirmation request plan = (own, es)) :
      Leaves config w plan (.section x) (.claiming plan.plan_id plan.confirmation request) own es
  | closed (x : Outside) (own : Call) (es : List Event) (goes : Quiet (own, es)) :
      Leaves config w plan (.section x) .closing own es

/-- A call whose next section edits the map of the plans. -/
def Call.edits_plans : Call → Bool
  | .storing .. => true
  | .claiming .. => true
  | .showing _ => true
  | .closing => true
  | _ => false

/-- The section of `execute_semantic_mutation` ends with `e`, in a `ConfirmationError` or in
its refresh of the inventory. -/
inductive Refuses (config : ServerConfig) (x : Outside) (s : DecoService)
    (plan_id confirmation : String) (e : PyError) : Prop
  | confirmation (raises : (claim_plan config plan_id confirmation x s).1 = .raised e)
      (cls : e.cls = .ConfirmationError)
  | refresh (plan : PendingMutationPlan) (after : DecoService)
      (found : s.pending_mutation_plans.get? plan_id = some plan)
      (in_time : ¬ plan.expires_at < x.now) (right : confirmation = plan.confirmation)
      (fails : device_inventory config true x s = (.raised e, after))

/-- A step that is no edit of the map leaves it as it is. -/
theorem Turn.steady {w w' : World} {a : Act} {own own' : Call} {es : List Event}
    (turn : Turn config w a own w' own' es) (hown : own.edits_plans = false) :
    w'.pending = w.pending := by
  cases turn with
  | quiet untouched drawn goes => exact untouched.plans
  | drawn x name mode confirmation => rfl
  | profiled x job after exact =>
    exact (require_exact_p9_profile_keeps unlisted_plans).of_run exact
  | noop x job run after own es ends goes => exact run_noop_keeps_plans ends
  | stored x plan identified => cases hown
  | claimed x plan_id confirmation request plan after own es claim goes => cases hown
  | unclaimed x plan_id confirmation request e after own es claim goes => cases hown
  | lapsed x plan_id plan found late => cases hown
  | closed x after own es empty latch goes => cases hown

/-- A claim that succeeds starts the execution of its plan. -/
theorem leaves_of_claimed {w : World} {x : Outside} {plan_id confirmation : String}
    {request : Option Request} {plan found : PendingMutationPlan} {after : DecoService}
    {own : Call} {es : List Event}
    (claim : Claims config plan_id confirmation x w.deco_service (.ok found) after)
    (hid : plan.plan_id = plan_id) (hpending : w.pending.get? plan_id = some plan)
    (goes : execute_plan config confirmation request found = (own, es)) :
    Leaves config w plan (.section x) (.claiming plan_id confirmation request) own es := by
  cases claim with
  | claimed found inventory after hfound in_time right refresh identified =>
    rw [World.pending, hfound] at hpending
    cases hpending
    rw [← hid]
    rw [right] at goes ⊢
    exact .started x request own es in_time goes

/-- A claim that fails drops its plan only when the plan is late or the controller changed. -/
theorem leaves_of_unclaimed {w : World} {x : Outside} {plan_id confirmation : String}
    {request : Option Request} {plan : PendingMutationPlan} {e : PyError} {after : DecoService}
    {own : Call} {es : List Event}
    (claim : Claims config plan_id confirmation x w.deco_service (.raised e) after)
    (hid : plan.plan_id = plan_id) (hfound : w.pending.get? plan_id = some plan)
    (hgone : after.pending_mutation_plans.get? plan_id ≠ some plan)
    (goes : finish request (.error e) = (own, es)) :
    Leaves config w plan (.section x) (.claiming plan_id confirmation request) own es := by
  have hkept : ∀ {r after}, device_inventory config true x w.deco_service = (r, after) →
      after.pending_mutation_plans.get? plan_id = some plan := by
    intro r after hrun
    rw [inventory_keeps_plans hrun]
    exact hfound
  rw [World.pending] at hfound
  cases claim with
  | unknown absent => exact absurd hfound hgone
  | expired old found late =>
    rw [found] at hfound
    cases hfound
    rw [← hid]
    exact .expired x confirmation request own es late goes
  | unconfirmed old found in_time wrong => exact absurd hfound hgone
  | unlisted old e after found in_time right refresh => exact absurd (hkept refresh) hgone
  | unidentified old inventory e after found in_time right refresh identity =>
    exact absurd (hkept refresh) hgone
  | changed old inventory identity after found in_time right refresh identified other =>
    rw [found] at hfound
    cases hfound
    rw [← hid]
    exact .changed x confirmation request own es inventory identity after refresh identified other
      goes

theorem PlansSafe.leaves {p : Pool World Call} {h : List (Nat × Event)} {t : Nat} {a : Act}
    {w : World} {own : Call} {es : List Event} {plan_id : String} {plan : PendingMutationPlan}
    (hs : PlansSafe p h) (turn : Turn config p.shared a (p.thread t) w own es)
    (hpending : p.shared.pending.get? plan_id = some plan)
    (hgone : w.pending.get? plan_id ≠ some plan) :
    Leaves config p.shared plan a (p.thread t) own es := by
  have hid := (hs.pending plan_id plan hpending).1
  have hedits : (p.thread t).edits_plans = true := by
    by_contra hsteady
    rw [turn.steady (by simpa using hsteady)] at hgone
    exact hgone hpending
  generalize hthread : p.thread t = call at turn hedits
  cases turn with
  | quiet untouched drawn goes =>
    rw [World.pending, untouched.plans] at hgone
    exact absurd hpending hgone
  | drawn x name mode confirmation => cases hedits
  | profiled x job after exact => cases hedits
  | noop x job run after own es ends goes => cases hedits
  | stored x new identified =>
    have hne : plan_id ≠ new.plan_id := by
      intro heq
      have hnone := (hs.storing t new.plan_id (by rw [hthread]; rfl)).2.1
      rw [← heq, hpending] at hnone
      cases hnone
    rw [World.pending, Dict.get?_set_of_ne _ _ hne] at hgone
    exact absurd hpending hgone
  | claimed x claimed_id confirmation request found after own es claim goes =>
    by_cases hne : plan_id = claimed_id
    · subst hne
      exact leaves_of_claimed claim hid hpending goes
    · rw [World.pending, claim.others hne] at hgone
      exact absurd hpending hgone
  | unclaimed x claimed_id confirmation request e after own es claim goes =>
    by_cases hne : plan_id = claimed_id
    · subst hne
      exact leaves_of_unclaimed claim hid hpending hgone goes
    · rw [World.pending, claim.others hne] at hgone
      exact absurd hpending hgone
  | lapsed x shown_id found hfound late =>
    by_cases hne : plan_id = shown_id
    · subst hne
      rw [World.pending, hfound] at hpending
      cases hpending
      rw [← hid]
      exact .lapsed x late
    · have hsame : ((delete_plan shown_id p.shared.deco_service).2).pending_mutation_plans.get?
          plan_id = p.shared.pending.get? plan_id := Dict.get?_erase_of_ne _ hne
      rw [World.pending, hsame] at hgone
      exact absurd hpending hgone
  | closed x after own es empty latch goes => exact .closed x own es goes

/-! ## What refuses a claim -/

theorem claim_plan_unlisted {x : Outside} {plan_id confirmation : String}
    {s after : DecoService} {plan : PendingMutationPlan} {e : PyError}
    (found : s.pending_mutation_plans.get? plan_id = some plan)
    (in_time : ¬ plan.expires_at < x.now) (right : confirmation = plan.confirmation)
    (fails : device_inventory config true x s = (.raised e, after)) :
    claim_plan config plan_id confirmation x s = (.raised e, after) := by
  unfold claim_plan
  rw [found]
  simp only [in_time, right, ne_eq, not_true, if_false]
  exact bind_raised fails

theorem Refuses.ends {x : Outside} {plan_id confirmation : String} {s after : DecoService}
    {r : Outcome PyError PendingMutationPlan} {e : PyError}
    (hrefuses : Refuses config x s plan_id confirmation e)
    (hrun : claim_plan config plan_id confirmation x s = (r, after)) :
    r = .raised e ∧ after.pending_mutation_plans = s.pending_mutation_plans := by
  have claim := Claims.of_run hrun
  cases hrefuses with
  | confirmation raises cls =>
    rw [hrun] at raises
    subst raises
    refine ⟨rfl, ?_⟩
    cases claim with
    | unknown absent => rfl
    | expired plan found late => cases cls
    | unconfirmed plan found in_time wrong => rfl
    | unlisted plan e after found in_time right refresh => exact inventory_keeps_plans refresh
    | unidentified plan inventory e after found in_time right refresh identity =>
      exact inventory_keeps_plans refresh
    | changed plan inventory identity after found in_time right refresh identified other =>
      cases cls
  | refresh plan failed found in_time right fails =>
    rw [claim_plan_unlisted found in_time right fails] at hrun
    cases hrun
    exact ⟨rfl, inventory_keeps_plans fails⟩

theorem refused_step {p : Pool World Call} {t : Nat} {x : Outside}
    {plan_id confirmation : String} {request : Option Request} {w : World} {own : Call}
    {es : List Event} {e : PyError}
    (hthread : p.thread t = .claiming plan_id confirmation request)
    (hfires : service_step config store (.section x) p.shared (p.thread t) = some (w, own, es))
    (hrefuses : Refuses config x p.shared.deco_service plan_id confirmation e) :
    w.pending = p.shared.pending ∧ (own, es) = finish request (.error e) := by
  rw [hthread] at hfires
  obtain ⟨after, rfl, hends⟩ := on_service_cases hfires
  rcases hends with ⟨plan, hm, hgoes⟩ | ⟨raised, hm, hgoes⟩
  · cases (hrefuses.ends hm).1
  · obtain ⟨heq, hkept⟩ := hrefuses.ends hm
    cases heq
    exact ⟨hkept, hgoes.symm⟩

/-! ## Every run -/

/-- What holds after any run, for the next section of any thread too. -/
structure PlanGuarantees (config : ServerConfig) (store : InMemoryIdempotencyStore Rat)
    (p : Pool World Call) (h : List (Nat × Event)) : Prop where
  once : ∀ plan_id, uses plan_id h ≤ 1
  unused : ∀ plan_id plan, p.shared.pending.get? plan_id = some plan →
    plan.plan_id = plan_id ∧ uses plan_id h = 0
  leaves : ∀ t a w own es plan_id plan,
    service_step config store a p.shared (p.thread t) = some (w, own, es) →
    p.shared.pending.get? plan_id = some plan → w.pending.get? plan_id ≠ some plan →
    Leaves config p.shared plan a (p.thread t) own es
  steady : ∀ t a w own es,
    service_step config store a p.shared (p.thread t) = some (w, own, es) →
    (p.thread t).edits_plans = false → w.pending = p.shared.pending
  refused : ∀ t x plan_id confirmation request w own es e,
    p.thread t = .claiming plan_id confirmation request →
    service_step config store (.section x) p.shared (p.thread t) = some (w, own, es) →
    Refuses config x p.shared.deco_service plan_id confirmation e →
    w.pending = p.shared.pending ∧ (own, es) = finish request (.error e)

/-- In every run whose tokens are fresh, each plan is used at most once, and it leaves the map
only for the reasons that the code has. -/
theorem a_plan_is_used_at_most_once (config : ServerConfig)
    (store : InMemoryIdempotencyStore Rat) {p : Pool World Call} {h : List (Nat × Event)}
    (hr : Reaches (service_threads config store) FreshTokens started p h) :
    PlanGuarantees config store p h := by
  have hs := plansSafe_of_reaches hr
  constructor
  · exact hs.once
  · intro plan_id plan hget
    obtain ⟨hid, -, hunused⟩ := hs.pending plan_id plan hget
    exact ⟨hid, hunused⟩
  · intro t a w own es plan_id plan hfires hget hgone
    exact hs.leaves (service_step_turn hfires) hget hgone
  · intro t a w own es hfires hown
    exact (service_step_turn hfires).steady hown
  · intro t x plan_id confirmation request w own es e hthread hfires hrefuses
    exact refused_step hthread hfires hrefuses

/-- A plan that a first request does not confirm, that a second one executes, and that a
third call no longer finds. -/
def three_executions : List (Nat × Act) :=
  let confirmation := (HTTP_NOOP_CONFIRMATIONS BEAMFORMING_WRITE).getD ""
  let listed : Outside := { http_devices := .ok [p9_controller "AA-AA-AA-AA-AA-AA"] }
  [(0, .call (.plan_semantic_mutation "beamforming" [] VERIFY_MODE)),
    (0, .section listed),
    (0, .section { token := "plan" }),
    (0, .section {}),
    (1, .call (.execute_mutation_plan "first" "plan" "")),
    (2, .call (.execute_mutation_plan "second" "plan" confirmation)),
    (1, .section {}),
    (2, .section {}),
    (1, .section listed),
    (2, .section listed),
    (1, .section {}),
    (3, .call (.execute_semantic_mutation "plan" confirmation)),
    (3, .section listed)]

def raised_by (h : List (Nat × Event)) : List (Nat × ExcClass) :=
  h.filterMap fun e =>
    match e.2 with
    | .raised error => some (e.1, error.cls)
    | _ => none

theorem the_second_execution_uses_the_plan : ∃ p h,
    Reaches (service_threads lab_config lab_store) FreshTokens started p h ∧
      uses "plan" h = 1 ∧
      raised_by h = [(1, .ConfirmationError), (3, .UnknownPlanError)] ∧
      PlanGuarantees lab_config lab_store p h := by
  have hrun : ((service_threads lab_config lab_store).run three_executions started []).map
      (fun r => (uses "plan" r.2, raised_by r.2)) =
        some (1, [(1, .ConfirmationError), (3, .UnknownPlanError)]) := by
    decide +kernel
  have hpasses : (service_threads lab_config lab_store).passes fresh_token three_executions
      started = true := by
    decide +kernel
  obtain ⟨⟨p, h⟩, hrun, hends⟩ := Option.map_eq_some_iff.mp hrun
  obtain ⟨huses, hraised⟩ : uses "plan" h = 1 ∧
      raised_by h = [(1, .ConfirmationError), (3, .UnknownPlanError)] := Prod.mk.inj hends
  have hreaches := reaches_of_allowed_run _ .refl hrun
    (runAllowed_of_passes (fun _ _ _ h => h) _ started hpasses)
  exact ⟨p, h, hreaches, huses, hraised,
    a_plan_is_used_at_most_once lab_config lab_store hreaches⟩

end tplink_deco_api.service
