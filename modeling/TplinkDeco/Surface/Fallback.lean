-- Which failures of HTTP the fallback to TMP hides: the refusals of a login or of
-- a request, through `device_inventory` and `read_capability`.
import TplinkDeco.Service.Eligibility
import TplinkDeco.Surface.Attempts
import TplinkDeco.TmpClient.BatchSafety

open dialogue json

namespace tplink_deco_api.surface

open endpoint_catalog exceptions service tmp_batches tmp_client Dialogue

variable {ρ α β : Type}

/-! ## What a log shows -/

/-- The log shows that authentication or authorization failed, with the error `e`. -/
def ShowsFailure (log : Log ρ) (e : PyError) : Prop :=
  ∃ x ∈ log, auth_failure x.question x.answer = some e

/-- Where authentication or authorization failed, the call raises that error, and it sent
nothing over TMP. -/
def Unconcealed (log : Log ρ) (raised : Option PyError) : Prop :=
  ∀ e, ShowsFailure log e → raised = some e ∧ ¬ SentOverTmp log

theorem not_showsFailure_nil (e : PyError) : ¬ ShowsFailure ([] : Log ρ) e :=
  fun ⟨_, hx, _⟩ => nomatch hx

theorem not_sentOverTmp_nil : ¬ SentOverTmp ([] : Log ρ) := fun ⟨_, hx, _⟩ => nomatch hx

@[simp] theorem showsFailure_append {first second : Log ρ} {e : PyError} :
    ShowsFailure (first ++ second) e ↔ ShowsFailure first e ∨ ShowsFailure second e := by
  unfold ShowsFailure
  simp only [List.mem_append, or_and_right, exists_or]

@[simp] theorem sentOverTmp_append {first second : Log ρ} :
    SentOverTmp (first ++ second) ↔ SentOverTmp first ∨ SentOverTmp second := by
  unfold SentOverTmp
  simp only [List.mem_append, or_and_right, exists_or]

theorem Surfaces.eq_of_shows {log : Log ρ} {raised : Option PyError} (h : Surfaces log raised)
    {e : PyError} (he : ShowsFailure log e) : raised = some e := by
  obtain ⟨x, hx, hfailure⟩ := he
  exact h x hx e hfailure

theorem login_rejected_of_shows {log : Log ρ} {e : PyError} (h : ShowsFailure log e) :
    login_rejected e = true := by
  obtain ⟨⟨s, q, answer⟩, hx, he⟩ := h
  cases q with
  | desk => cases he
  | update f => cases he
  | send request =>
    cases request with
    | login =>
      cases answer with
      | none => cases he
      | some error => exact (login_of_auth_failure he).2
    | http operation params =>
      cases answer with
      | ok response => cases he
      | error error =>
        unfold login_rejected
        rw [(http_of_auth_failure he).2, Bool.or_true]
    | _ => cases he

/-- Of the errors that the inventory catches, only a refusal shows a failed authentication. -/
theorem refused_of_caught {e : PyError} (h : login_rejected e = true)
    (hcaught : e.isinstance [.TransportError, .ValueError] = true) : refused e = true := by
  unfold login_rejected at h
  rcases Bool.or_eq_true_iff.mp h with hlogin | hrefused
  · unfold PyError.isinstance at hlogin hcaught
    cases hcls : e.cls <;> rw [hcls] at hlogin hcaught <;>
      first
      | exact absurd hlogin (by decide)
      | exact absurd hcaught (by decide)
  · exact hrefused

theorem caught_of_refused {e : PyError} (h : refused e = true) {classes : List ExcClass}
    (hclasses : ExcClass.TransportError ∈ classes) : e.isinstance classes = true := by
  have htransport := (Bool.and_eq_true_iff.mp h).1
  unfold PyError.isinstance at htransport ⊢
  obtain ⟨c, hc, hmem⟩ := List.any_eq_true.mp htransport
  refine List.any_eq_true.mpr ⟨c, hc, decide_eq_true ?_⟩
  cases List.mem_singleton.mp (of_decide_eq_true hmem)
  exact hclasses

/-! ## Logs without a failure -/

theorem silent_of_asks {m : SurfaceM α} {P : Question → Prop} (hm : m.Asks P)
    (hP : ∀ q, P q → ∀ a : q.Answer, auth_failure q a = none) (router : Router ρ)
    (s : Desk × ρ) (e : PyError) : ¬ ShowsFailure (m.run (perform router) s).log e := by
  rintro ⟨x, hx, he⟩
  rw [hP x.question (hm.of_run s x hx) x.answer] at he
  cases he

theorem unsent_of_asks {m : SurfaceM α} {P : Question → Prop} (hm : m.Asks P)
    (hP : ∀ q, P q → q.over_tmp = false) (router : Router ρ) (s : Desk × ρ) :
    ¬ SentOverTmp (m.run (perform router) s).log := by
  rintro ⟨x, hx, he⟩
  rw [hP x.question (hm.of_run s x hx)] at he
  cases he

theorem HttpAttempt.unsent {m : SurfaceM α} (hm : HttpAttempt m) (router : Router ρ)
    (s : Desk × ρ) : ¬ SentOverTmp (m.run (perform router) s).log := by
  refine unsent_of_asks hm.asks (fun q hq => ?_) router s
  have hq := hq.1
  unfold Question.about_tmp at hq
  split at hq
  · cases hq
  · exact hq

/-- A look at the service, or a change to it. -/
def Question.Local : Question → Prop
  | .send _ => False
  | _ => True

theorem Question.Local.silent {q : Question} (h : q.Local) (a : q.Answer) :
    auth_failure q a = none := by
  cases q with
  | send request => cases h
  | _ => rfl

/-- A call whose log shows no failure hides none. -/
theorem unconcealed_of_silent {log : Log ρ} {raised : Option PyError}
    (h : ∀ e, ¬ ShowsFailure log e) : Unconcealed log raised := fun e he => absurd he (h e)

/-- A failed authentication or authorization is hidden: something was sent over TMP, or the
call raises another error. -/
def Conceals (log : Log ρ) (raised : Option PyError) : Prop :=
  ∃ e, ShowsFailure log e ∧ (SentOverTmp log ∨ ∃ e', raised = some e' ∧ e' ≠ e)

theorem Conceals.not_unconcealed {log : Log ρ} {raised : Option PyError}
    (h : Conceals log raised) : ¬ Unconcealed log raised := by
  intro hun
  obtain ⟨e, hfailure, hhidden⟩ := h
  obtain ⟨hraised, hunsent⟩ := hun e hfailure
  rcases hhidden with hsent | ⟨e', hother, hne⟩
  · exact hunsent hsent
  · exact hne (Option.some.inj (hother.symm.trans hraised))

theorem Conceals.append {first : Log ρ} (h : Conceals first none) (rest : Log ρ)
    (raised : Option PyError) : Conceals (first ++ rest) raised := by
  obtain ⟨e, hfailure, hsent | ⟨_, h, _⟩⟩ := h
  · exact ⟨e, showsFailure_append.mpr (.inl hfailure), .inl (sentOverTmp_append.mpr (.inl hsent))⟩
  · cases h

/-- What came before, without a failure and with nothing sent over TMP, changes nothing. -/
theorem Conceals.prepend {rest : Log ρ} {raised : Option PyError} (h : Conceals rest raised)
    (first : Log ρ) : Conceals (first ++ rest) raised := by
  obtain ⟨e, hfailure, hhidden⟩ := h
  exact ⟨e, showsFailure_append.mpr (.inr hfailure),
    hhidden.imp_left fun hsent => sentOverTmp_append.mpr (.inr hsent)⟩

theorem Unconcealed.prepend {first rest : Log ρ} {raised : Option PyError}
    (h : Unconcealed rest raised) (hsilent : ∀ e, ¬ ShowsFailure first e)
    (hunsent : ¬ SentOverTmp first) : Unconcealed (first ++ rest) raised := by
  intro e he
  rcases showsFailure_append.mp he with he | he
  · exact absurd he (hsilent e)
  · obtain ⟨hraised, hrest⟩ := h e he
    exact ⟨hraised, fun hsent => (sentOverTmp_append.mp hsent).elim hunsent hrest⟩

theorem Unconcealed.silent {log : Log ρ} (h : Unconcealed log none) (e : PyError) :
    ¬ ShowsFailure log e := fun he => nomatch (h e he).1

/-- After the failure of an HTTP attempt, a program over TMP conceals it. -/
theorem conceals_of_speaks {first rest : Log ρ} {raised : Option PyError} {e : PyError}
    (he : ShowsFailure first e) (h : Speaks rest raised) : Conceals (first ++ rest) raised := by
  refine ⟨e, showsFailure_append.mpr (.inl he), ?_⟩
  rcases h with hsent | ⟨e', hraised, hdeclared⟩
  · exact .inl (sentOverTmp_append.mpr (.inr hsent))
  · refine .inr ⟨e', hraised, ?_⟩
    rintro rfl
    rw [login_rejected_of_shows he] at hdeclared
    cases hdeclared

/-! ## The inventory -/

section

variable (views : Views) (config : ServerConfig) (catalog : TmpOpcodeCatalog)
  (router : Router ρ)

/-- The HTTP attempt `m` fails because authentication or authorization does. -/
def Fails (m : SurfaceM α) (s : Desk × ρ) (e : PyError) : Prop :=
  ShowsFailure (m.run (perform router) s).log e

/-- The inventory is read, the router refuses the HTTP read, and TMP is there in its place. -/
structure InventoryHides (refresh : Bool) (s : Desk × ρ) : Prop where
  due : s.1.due refresh = true
  available : tmp_identity_bootstrap_available config = true
  refused : ∃ e, Fails router (read_http_device_inventory views config) s e ∧ refused e = true

variable {views config catalog router}

theorem store_resolution_local (resolution : DeviceInventoryResolution) :
    (store_resolution resolution).Asks Question.Local := Asks.question trivial

theorem cached_inventory_local (router_contacted : Bool) :
    (cached_inventory router_contacted).Asks Question.Local :=
  (Asks.question trivial).bind fun _ => Asks.lift _

theorem Question.OverTmp.silent {q : Question} (h : q.OverTmp) (a : q.Answer) :
    auth_failure q a = none := h.1 a

/-- A program without failures, after one. -/
theorem run_then_silent {m : SurfaceM α} {f : α → SurfaceM β} {s : Desk × ρ}
    (hf : ∀ a s e, ¬ ShowsFailure ((f a).run (perform router) s).log e) :
    (Conceals (m.run (perform router) s).log (m.run (perform router) s).raises →
      Conceals ((m >>= f).run (perform router) s).log ((m >>= f).run (perform router) s).raises) ∧
    (Unconcealed (m.run (perform router) s).log (m.run (perform router) s).raises →
      Unconcealed ((m >>= f).run (perform router) s).log
        ((m >>= f).run (perform router) s).raises) := by
  rcases hrun : m.run (perform router) s with ⟨outcome, s1, log⟩
  cases outcome with
  | ok a =>
    rw [run_bind_ok hrun]
    refine ⟨fun h => h.append _ _, fun h => unconcealed_of_silent fun e he => ?_⟩
    rcases showsFailure_append.mp he with he | he
    · exact h.silent e he
    · exact hf a s1 e he
  | error e =>
    rw [run_bind_raised hrun]
    exact ⟨id, id⟩

variable (views config catalog router) in
/-- The refusals that the inventory hides, and what becomes of the others. -/
theorem resolve_unconcealed (s : Desk × ρ) :
    let run := (resolve_device_inventory views config catalog).run (perform router) s
    ((tmp_identity_bootstrap_available config = true ∧
        ∃ e, Fails router (read_http_device_inventory views config) s e ∧ refused e = true) →
      Conceals run.log run.raises) ∧
    (¬ (tmp_identity_bootstrap_available config = true ∧
        ∃ e, Fails router (read_http_device_inventory views config) s e ∧ refused e = true) →
      Unconcealed run.log run.raises) := by
  have hhttp := read_http_device_inventory_attempt views config
  have hsurfaces := hhttp.surfaces router s
  have hunsent := hhttp.unsent router s
  have htmp := read_tmp_device_inventory_attempt views config catalog
  dsimp only
  unfold resolve_device_inventory Fails
  rcases hrun : (read_http_device_inventory views config).run (perform router) s with
    ⟨outcome, s1, log⟩
  rw [hrun] at hsurfaces hunsent
  cases outcome with
  | ok devices =>
    rw [run_bind_ok (run_trying_ok hrun _)]
    refine ⟨fun ⟨_, e, he, _⟩ => (nomatch hsurfaces.eq_of_shows he), fun _ => ?_⟩
    refine unconcealed_of_silent fun e he => ?_
    rcases showsFailure_append.mp he with he | he
    · cases hsurfaces.eq_of_shows he
    · exact nomatch he.choose_spec.1
  | error error =>
    cases hcaught : error.isinstance [.TransportError, .ValueError] with
    | false =>
      rw [run_bind_raised (run_trying_through hrun hcaught)]
      refine ⟨fun ⟨_, e, he, hrefused⟩ => ?_, fun _ e he => ⟨hsurfaces.eq_of_shows he, hunsent⟩⟩
      cases hsurfaces.eq_of_shows he
      rw [caught_of_refused hrefused (by simp)] at hcaught
      cases hcaught
    | true =>
      rw [run_bind_ok (run_trying_caught hrun hcaught)]
      dsimp only
      unfold resolve_fallback
      split
      case isTrue hunavailable =>
        refine ⟨fun h => absurd h.1 hunavailable, fun _ e he => ?_⟩
        rw [run_raised, after_log, List.append_nil] at he ⊢
        exact ⟨hsurfaces.eq_of_shows he, hunsent⟩
      case isFalse havailable =>
        have havailable := not_not.mp havailable
        have hspeaks := (htmp.then fun devices =>
          (Asks.pure (tmp_resolution error devices))).speaks router s1
        refine ⟨fun ⟨_, e, he, _⟩ => conceals_of_speaks he hspeaks, fun hnone => ?_⟩
        refine unconcealed_of_silent fun e he => ?_
        rcases showsFailure_append.mp he with he | he
        · cases hsurfaces.eq_of_shows he
          exact hnone ⟨havailable, error, he,
            refused_of_caught (login_rejected_of_shows he) hcaught⟩
        · refine silent_of_asks (htmp.asks.bind fun devices => ?_)
            (fun _ => Question.OverTmp.silent) router s1 e he
          exact Asks.pure _

theorem run_desk (s : Desk × ρ) :
    desk.run (perform router) s = ⟨.ok s.1, s, [⟨s, .desk, s.1⟩]⟩ := rfl

theorem desk_silent (s : Desk × ρ) (e : PyError) :
    ¬ ShowsFailure [(⟨s, .desk, s.1⟩ : Exchange Question Question.Answer (Desk × ρ))] e := by
  rintro ⟨x, hx, he⟩
  cases List.mem_singleton.mp hx
  cases he

theorem desk_unsent (s : Desk × ρ) :
    ¬ SentOverTmp [(⟨s, .desk, s.1⟩ : Exchange Question Question.Answer (Desk × ρ))] := by
  rintro ⟨x, hx, he⟩
  cases List.mem_singleton.mp hx
  cases he

theorem silent_of_local {m : SurfaceM α} (hm : m.Asks Question.Local) (s : Desk × ρ)
    (e : PyError) : ¬ ShowsFailure (m.run (perform router) s).log e :=
  silent_of_asks hm (fun _ => Question.Local.silent) router s e

variable (views config catalog router) in
theorem inventory_unconcealed (refresh : Bool) (s : Desk × ρ) :
    let run := (device_inventory views config catalog refresh).run (perform router) s
    (InventoryHides views config router refresh s → Conceals run.log run.raises) ∧
    (¬ InventoryHides views config router refresh s → Unconcealed run.log run.raises) := by
  have hresolve := resolve_unconcealed views config catalog router s
  dsimp only at hresolve ⊢
  unfold device_inventory refresh_cache
  rw [Dialogue.bind_assoc, run_bind_ok (run_desk s)]
  cases hdue : s.1.due refresh with
  | false =>
    rw [if_neg Bool.false_ne_true]
    refine ⟨fun h => absurd h.due (by rw [hdue]; exact Bool.false_ne_true), fun _ => ?_⟩
    refine (unconcealed_of_silent (silent_of_local ?_ s)).prepend (desk_silent s) (desk_unsent s)
    exact (Asks.pure _).bind cached_inventory_local
  | true =>
    rw [if_pos rfl, Dialogue.bind_assoc]
    have hrest := fun resolution => (store_resolution_local resolution).bind fun _ =>
      (Asks.pure true).bind cached_inventory_local
    have hsilent := fun resolution s1 => silent_of_asks (hrest resolution)
      (fun _ => Question.Local.silent) router s1
    have hthen := run_then_silent (m := resolve_device_inventory views config catalog) (s := s)
      hsilent
    constructor
    · intro h
      exact (hthen.1 (hresolve.1 ⟨h.available, h.refused⟩)).prepend _
    · intro h
      refine (hthen.2 (hresolve.2 ?_)).prepend (desk_silent s) (desk_unsent s)
      rintro ⟨havailable, hrefused⟩
      exact h ⟨hdue, havailable, hrefused⟩

/-! ## `read_capability` -/

variable (config) in
/-- TMP may answer in the place of HTTP: it is there, and the controller has the exact profile. -/
def FallbackEligible (inventory : Inventory) : Prop :=
  tmp_identity_bootstrap_available config = true ∧ inventory.profile_match = .exact

variable (config) in
/-- The source of the identity is known, and TMP does not answer because of it. -/
def SelectsHttp (inventory : Inventory) : Prop :=
  ∃ interface, interface_named inventory.identity_interface = some interface ∧
    ¬ (interface = .tmp_appv2 ∧ FallbackEligible config inventory)

variable (config) in
/-- The checks of `read_capability` pass. -/
structure PassesChecks (name : String) (include_passwords : Bool) (route : CapabilityRoute) :
    Prop where
  passwords : ¬ (include_passwords = true ∧ name ≠ "wlan_state")
  found : get_capability_route name = some route
  checked : check_route config route = .ok ()

variable (views config catalog router) in
/-- `read_capability` comes to its HTTP read. The inventory before it left `s1` and `log`. -/
structure ReachesHttp (name : String) (include_passwords : Bool) (s s1 : Desk × ρ) (log : Log ρ)
    (inventory : Inventory) : Prop where
  capability : name ≠ "mesh_nodes"
  primary : ∃ route, PassesChecks config name include_passwords route ∧
    route.primary_interface = .http_luci
  resolved : (device_inventory views config catalog).run (perform router) s =
    ⟨.ok inventory, s1, log⟩
  selected : SelectsHttp config inventory

variable (views config catalog router) in
/-- The HTTP read fails because authentication or authorization does, and the call has spoken
TMP before, or turns to it now. -/
def ReadHides (name : String) (include_passwords : Bool) (s : Desk × ρ) : Prop :=
  ∃ s1 log inventory, ReachesHttp views config catalog router name include_passwords s s1 log
      inventory ∧
    ∃ e, Fails router (read_http_capability views config name include_passwords) s1 e ∧
      (SentOverTmp log ∨
        e.isinstance [.ApiError, .TransportError, .ValueError] = true ∧
          FallbackEligible config inventory)

/-- Every route that HTTP answers first falls back to TMP. -/
theorem http_routes_fall_back : ∀ route ∈ CAPABILITY_ROUTES,
    route.primary_interface = .http_luci →
      route.fallback_policy = .equivalent_read_only ∧
        route.fallback_interface = some .tmp_appv2 := by
  decide

theorem attempt_lift (m : SurfaceM α) : attempt m >>= Dialogue.lift = m := by
  unfold attempt
  induction m with
  | done a => rfl
  | raised e => rfl
  | ask i next ih => exact congrArg (ask i) (funext ih)

variable (views config catalog) in
abbrev interpreted {α : Type} (m : ReadM α) : SurfaceM α :=
  m.interpret (read_step views config catalog)

@[simp] theorem interpreted_read_inventory :
    interpreted views config catalog read_inventory = device_inventory views config catalog := by
  unfold interpreted read_inventory
  rw [interpret_bind, interpret_question]
  simp only [interpret_lift]
  exact attempt_lift _

@[simp] theorem interpreted_read_tmp (name : String) (include_passwords : Bool) :
    interpreted views config catalog (read_tmp name include_passwords) =
      read_tmp_capability views config catalog name include_passwords := by
  unfold interpreted read_tmp
  rw [interpret_bind, interpret_question]
  simp only [interpret_lift]
  exact attempt_lift _

/-- `read_capability`, after its checks. -/
theorem read_capability_eq {name : String} {include_passwords : Bool} {route : CapabilityRoute}
    (h : PassesChecks config name include_passwords route) :
    read_capability views config catalog name include_passwords =
      device_inventory views config catalog >>= fun inventory =>
        if name = "mesh_nodes" then pure (mesh_nodes_response route inventory)
        else interpreted views config catalog
          (read_route config route inventory include_passwords) := by
  unfold surface.read_capability service.read_capability
  rw [if_neg h.passwords, h.found]
  dsimp only
  rw [h.checked]
  show interpreted views config catalog (read_inventory >>= _) = _
  unfold interpreted
  rw [interpret_bind]
  refine congrArg₂ _ interpreted_read_inventory (funext fun inventory => ?_)
  split <;> rfl

variable (views catalog) in
theorem read_capability_checked {name : String} {include_passwords : Bool}
    (h : ∀ route, ¬ PassesChecks config name include_passwords route) :
    ∃ e, read_capability views config catalog name include_passwords = .raised e := by
  unfold surface.read_capability service.read_capability
  split
  · exact ⟨_, rfl⟩
  case isFalse hpasswords =>
    split
    · exact ⟨_, rfl⟩
    case h_2 route hroute =>
      cases hcheck : check_route config route with
      | ok u => exact absurd ⟨hpasswords, hroute, hcheck⟩ (h route)
      | error e => exact ⟨e, rfl⟩

/-- A result of the inventory is a view of what is in the cache after it. -/
theorem view_of_inventory {refresh : Bool} {s s1 : Desk × ρ} {log : Log ρ}
    {inventory : Inventory}
    (h : (device_inventory views config catalog refresh).run (perform router) s =
      ⟨.ok inventory, s1, log⟩) :
    ∃ contacted, inventory_view contacted (s1.1.service.device_cache.getD [])
      s1.1.service.device_resolution = .ok inventory := by
  unfold device_inventory at h
  rcases hrun : (refresh_cache views config catalog refresh).run (perform router) s with
    ⟨outcome, s2, log2⟩
  cases outcome with
  | error e =>
    rw [run_bind_raised hrun] at h
    cases h
  | ok contacted =>
    rw [run_bind_ok hrun] at h
    unfold surface.cached_inventory at h
    rw [run_bind_ok (run_desk s2), run_lift] at h
    have hview : inventory_view contacted (s2.1.service.device_cache.getD [])
        s2.1.service.device_resolution = .ok inventory := congrArg Run.outcome h
    have hstate : s2 = s1 := congrArg Run.state h
    subst hstate
    exact ⟨contacted, hview⟩

/-- A result of the inventory shows the controller of the devices in the cache. -/
theorem shows_of_inventory {refresh : Bool} {s s1 : Desk × ρ} {log : Log ρ}
    {inventory : Inventory}
    (h : (device_inventory views config catalog refresh).run (perform router) s =
      ⟨.ok inventory, s1, log⟩) : ShowsController inventory s1.1.service := by
  obtain ⟨contacted, hview⟩ := view_of_inventory h
  have hcached : service.cached_inventory contacted s1.1.service = (.ok inventory, s1.1.service) := by
    unfold service.cached_inventory
    rw [hview]
    rfl
  refine shows_of_view (fun hnone => ?_) hcached
  rw [hnone] at hview
  cases hview

variable (views config catalog router) in
/-- Where the inventory shows the cache, the fallback is there as the inventory says. -/
theorem run_tmp_fallback_available {s : Desk × ρ} {inventory : Inventory}
    {sensitivity : SensitivityLevel} (hshows : ShowsController inventory s.1.service)
    (hsensitivity : sensitivity = .secret → config.allow_sensitive_reads = true) :
    ∃ available log, (interpreted views config catalog
        (service.tmp_fallback_available config sensitivity)).run (perform router) s =
        ⟨.ok available, s, log⟩ ∧
      (available = true ↔ FallbackEligible config inventory) ∧
      (∀ e, ¬ ShowsFailure log e) ∧ ¬ SentOverTmp log := by
  obtain ⟨devices, hcache, hcontroller⟩ := hshows.listed
  unfold service.tmp_fallback_available FallbackEligible
  cases havailable : tmp_identity_bootstrap_available config with
  | false =>
    exact ⟨false, [], rfl, by simp, not_showsFailure_nil, not_sentOverTmp_nil⟩
  | true =>
    have hrun : (interpreted views config catalog device_cache).run (perform router) s =
        ⟨.ok s.1.service.device_cache, s, [⟨s, .desk, s.1⟩]⟩ := rfl
    rw [if_neg (by simp)]
    unfold interpreted
    rw [interpret_bind, run_bind_ok hrun, hcache]
    simp only [interpret_bind, hcontroller, interpret_lift]
    refine ⟨_, _, rfl, ?_, desk_silent s, desk_unsent s⟩
    rw [hshows.profile]
    cases sensitivity with
    | secret => simp [hsensitivity rfl]
    | _ => simp

variable (router) in
theorem HttpAttempt.keeps_devices {m : SurfaceM α} (hm : HttpAttempt m) {I : DecoService → Prop}
    (hI : ∀ service service', service'.device_cache = service.device_cache → I service → I service')
    {s : Desk × ρ} (hs : I s.1.service) : I (m.run (perform router) s).state.1.service := by
  refine hm.asks.keeps (I := fun (s : Desk × ρ) => I s.1.service) (fun q hq s hs => ?_) hs
  cases q with
  | update f => exact hI _ _ (hq.2 s.1).2.1 hs
  | _ => exact hs

theorem ShowsController.of_cache {inventory : Inventory} {service service' : DecoService}
    (hcache : service'.device_cache = service.device_cache)
    (h : ShowsController inventory service) : ShowsController inventory service' where
  listed := by
    rw [hcache]
    exact h.listed
  profile := h.profile

variable (views config catalog router) in
/-- The `except` clause of the HTTP read, for an error that it catches. -/
theorem run_read_fallback {route : CapabilityRoute} (include_passwords : Bool) (e : PyError)
    {inventory : Inventory} {s : Desk × ρ}
    (hpolicy : route.fallback_policy = .equivalent_read_only ∧
      route.fallback_interface = some .tmp_appv2)
    (hshows : ShowsController inventory s.1.service)
    (hsensitivity : route.sensitivity = .secret → config.allow_sensitive_reads = true) :
    let run := (interpreted views config catalog
      (read_fallback config route include_passwords e)).run (perform router) s
    (∀ e', ¬ ShowsFailure run.log e') ∧
    (FallbackEligible config inventory → Speaks run.log run.raises) ∧
    (¬ FallbackEligible config inventory → run.raises = some e ∧ ¬ SentOverTmp run.log) := by
  obtain ⟨available, log, hrun, heligible, hsilent, hunsent⟩ :=
    run_tmp_fallback_available views config catalog router hshows hsensitivity
  have htmp := read_tmp_capability_attempt views config catalog route.name include_passwords .null
  dsimp only
  unfold read_fallback
  rw [if_neg (by simp [hpolicy.1, hpolicy.2])]
  unfold interpreted at hrun ⊢
  rw [interpret_bind, run_bind_ok hrun]
  cases available with
  | false =>
    rw [if_pos Bool.false_ne_true]
    have hineligible : ¬ FallbackEligible config inventory := fun h => nomatch heligible.mpr h
    refine ⟨?_, fun h => absurd h hineligible, fun _ => ⟨rfl, ?_⟩⟩
    · simpa using hsilent
    · simpa using hunsent
  | true =>
    rw [if_neg (by simp), interpret_bind]
    have hread : (read_tmp route.name include_passwords).interpret
        (read_step views config catalog) = _ := interpreted_read_tmp _ _
    rw [hread]
    have hthen := htmp.then fun reading => (Asks.pure (capability_response route reading
      [{ primary_attempt route "error" with error_type := some e.cls.name }] (tmp_attempt route)
      true))
    refine ⟨fun e' he' => ?_, fun _ => ?_, fun h => absurd (heligible.mp rfl) h⟩
    · rcases showsFailure_append.mp he' with he' | he'
      · exact hsilent e' he'
      · exact silent_of_asks hthen.asks (fun _ => Question.OverTmp.silent) router s e' he'
    · rcases hthen.speaks router s with hsent | hraised
      · exact .inl (hsent.append_right log)
      · exact .inr hraised

variable (views config catalog router) in
/-- The HTTP read of a route, and what follows on its failure. -/
theorem http_first_unconcealed {route : CapabilityRoute} (include_passwords : Bool)
    {inventory : Inventory} {s : Desk × ρ} (hname : route.name ≠ "mesh_nodes")
    (hpolicy : route.fallback_policy = .equivalent_read_only ∧
      route.fallback_interface = some .tmp_appv2)
    (hshows : ShowsController inventory s.1.service)
    (hsensitivity : route.sensitivity = .secret → config.allow_sensitive_reads = true) :
    let read := read_http_capability views config route.name include_passwords
    let hidden := ∃ e, Fails router read s e ∧
      e.isinstance [.ApiError, .TransportError, .ValueError] = true ∧
        FallbackEligible config inventory
    let run := (interpreted views config catalog
      (read_http_first config route include_passwords)).run (perform router) s
    (hidden → Conceals run.log run.raises) ∧ (¬ hidden → Unconcealed run.log run.raises) ∧
    ∀ e, ShowsFailure run.log e ↔ Fails router read s e := by
  have hattempt := read_http_capability_attempt views config hname include_passwords
  have hsurfaces := hattempt.surfaces router s
  have hunsent := hattempt.unsent router s
  have hkept := hattempt.keeps_devices router (I := ShowsController inventory)
    (fun _ _ hcache => ShowsController.of_cache hcache) hshows
  dsimp only
  unfold Fails
  rcases hread : (read_http_capability views config route.name include_passwords).run
    (perform router) s with ⟨outcome, s1, log⟩
  rw [hread] at hsurfaces hunsent hkept
  have hanswer : (read_http route.name include_passwords).interpret
      (read_step views config catalog) =
        attempt (read_http_capability views config route.name include_passwords) :=
    interpret_question _
  unfold read_http_first interpreted
  rw [interpret_bind, hanswer]
  cases outcome with
  | ok reading =>
    rw [run_bind_ok (run_attempt_ok hread)]
    have hsilent : ∀ e, ¬ ShowsFailure log e := fun e he => nomatch hsurfaces.eq_of_shows he
    have hlog : ∀ e, ¬ ShowsFailure (log ++ []) e := by simpa using hsilent
    exact ⟨fun ⟨e, he, _⟩ => absurd he (hsilent e), fun _ => unconcealed_of_silent hlog,
      fun e => iff_of_false (hlog e) (hsilent e)⟩
  | error error =>
    have hfailed : ∀ e, ShowsFailure log e → e = error := fun e he =>
      (Option.some.inj (hsurfaces.eq_of_shows he)).symm
    rw [run_bind_ok (run_attempt_error hread)]
    dsimp only
    split
    case isFalse huncaught =>
      refine ⟨fun ⟨e, he, h, _⟩ => ?_, fun _ e he => ?_, fun e => ?_⟩
      · exact absurd (hfailed e he ▸ h) huncaught
      · rw [interpret_raised, run_raised, after_log, List.append_nil] at he ⊢
        exact ⟨hsurfaces.eq_of_shows he, hunsent⟩
      · rw [interpret_raised, run_raised, after_log, List.append_nil]
    case isTrue hcaught =>
      obtain ⟨hsilent, hspeaks, hraises⟩ := run_read_fallback views config catalog router
        include_passwords error hpolicy hkept hsensitivity
      refine ⟨fun ⟨e, he, _, h⟩ => conceals_of_speaks he (hspeaks h), fun hnone e he => ?_,
        fun e => ?_⟩
      · rcases showsFailure_append.mp he with he | he
        · cases hfailed e he
          obtain ⟨hraised, hrest⟩ := hraises fun h => hnone ⟨error, he, hcaught, h⟩
          exact ⟨hraised, fun hsent => (sentOverTmp_append.mp hsent).elim hunsent hrest⟩
        · exact absurd he (hsilent e)
      · rw [after_log, showsFailure_append]
        exact or_iff_left (hsilent e)

theorem sensitive_of_checked {route : CapabilityRoute} (h : check_route config route = .ok ())
    (hsecret : route.sensitivity = .secret) : config.allow_sensitive_reads = true := by
  unfold check_route at h
  split at h
  case isTrue => cases h
  case isFalse hgate => exact not_not.mp fun hdisabled => hgate ⟨hsecret, hdisabled⟩

theorem route_of_checks {name : String} {include_passwords : Bool} {route : CapabilityRoute}
    (h : PassesChecks config name include_passwords route) :
    route ∈ CAPABILITY_ROUTES ∧ route.name = name := by
  refine ⟨List.mem_of_find?_eq_some h.found, ?_⟩
  simpa using List.find?_some h.found

theorem PassesChecks.unique {name : String} {include_passwords : Bool}
    {route route' : CapabilityRoute} (h : PassesChecks config name include_passwords route)
    (h' : PassesChecks config name include_passwords route') : route = route' :=
  Option.some.inj (h.found.symm.trans h'.found)

theorem resource_read_context_named {inventory : Inventory} {context : ResourceReadContext}
    (h : resource_read_context inventory = .ok context) :
    interface_named inventory.identity_interface = some context.interface := by
  unfold resource_read_context at h
  split at h
  · cases h
  case h_2 interface hnamed =>
    cases h
    exact hnamed

variable (views config catalog router) in
/-- How the route of a capability that HTTP answers first goes on. -/
theorem run_read_route {route : CapabilityRoute} (include_passwords : Bool)
    {inventory : Inventory} {s : Desk × ρ} (hprimary : route.primary_interface = .http_luci)
    (hpolicy : route.fallback_policy = .equivalent_read_only ∧
      route.fallback_interface = some .tmp_appv2)
    (hshows : ShowsController inventory s.1.service)
    (hsensitivity : route.sensitivity = .secret → config.allow_sensitive_reads = true) :
    let run := (interpreted views config catalog
      (read_route config route inventory include_passwords)).run (perform router) s
    (SelectsHttp config inventory → ∃ log, run = ((interpreted views config catalog
        (read_http_first config route include_passwords)).run (perform router) s).after log ∧
      (∀ e, ¬ ShowsFailure log e) ∧ ¬ SentOverTmp log) ∧
    (¬ SelectsHttp config inventory → ∀ e, ¬ ShowsFailure run.log e) := by
  obtain ⟨available, log, hrun, heligible, hsilent, hunsent⟩ :=
    run_tmp_fallback_available views config catalog router hshows hsensitivity
  have hnothing : (∀ e, ¬ ShowsFailure ([] : Log ρ) e) ∧ ¬ SentOverTmp ([] : Log ρ) :=
    ⟨not_showsFailure_nil, not_sentOverTmp_nil⟩
  dsimp only
  unfold read_route SelectsHttp
  rw [if_neg (by rw [hprimary]; decide)]
  cases hcontext : resource_read_context inventory with
  | error e =>
    unfold resource_read_context at hcontext
    split at hcontext
    case h_2 => cases hcontext
    case h_1 hnamed =>
      rw [hnamed]
      exact ⟨fun ⟨_, h, _⟩ => (nomatch h), fun _ => hnothing.1⟩
  | ok context =>
    rw [resource_read_context_named hcontext]
    unfold interpreted at hrun ⊢
    rw [interpret_bind, interpret_lift, run_bind_ok rfl, after_nil, interpret_bind]
    unfold selects_tmp
    by_cases htmp : context.interface = .tmp_appv2
    · rw [if_pos ⟨htmp, hpolicy.2⟩, run_bind_ok hrun]
      cases available with
      | false =>
        have hineligible : ¬ FallbackEligible config inventory := fun h => nomatch heligible.mpr h
        rw [if_neg Bool.false_ne_true]
        refine ⟨fun _ => ⟨log, rfl, hsilent, hunsent⟩, fun h => ?_⟩
        exact absurd ⟨_, rfl, fun heligible => hineligible heligible.2⟩ h
      | true =>
        rw [if_pos rfl]
        refine ⟨fun ⟨interface, hnamed, h⟩ => ?_, fun _ e he => ?_⟩
        · cases hnamed
          exact absurd ⟨htmp, heligible.mp rfl⟩ h
        · rcases showsFailure_append.mp he with he | he
          · exact hsilent e he
          · have hread : (read_tmp route.name include_passwords).interpret
                (read_step views config catalog) = _ := interpreted_read_tmp _ _
            unfold read_selected_tmp at he
            rw [interpret_bind, hread] at he
            have htmp := read_tmp_capability_attempt views config catalog route.name
              include_passwords .null
            refine silent_of_asks (htmp.asks.bind fun reading => ?_)
              (fun _ => Question.OverTmp.silent) router s e he
            exact Asks.pure _
    · rw [if_neg fun h => htmp h.1, interpret_pure, run_bind_ok (run_pure false s), after_nil,
        if_neg Bool.false_ne_true]
      refine ⟨fun _ => ⟨[], (after_nil _).symm, hnothing⟩, fun h => ?_⟩
      exact absurd ⟨_, rfl, fun heligible => htmp heligible.1⟩ h

/-- A route that only TMP answers asks nothing of HTTP. -/
theorem primary_tmp_silent {route : CapabilityRoute} {include_passwords : Bool}
    {inventory : Inventory} {s : Desk × ρ} (hprimary : route.primary_interface = .tmp_appv2)
    (e : PyError) :
    ¬ ShowsFailure ((interpreted views config catalog
      (read_route config route inventory include_passwords)).run (perform router) s).log e := by
  unfold read_route read_primary_tmp
  rw [if_pos hprimary]
  split
  · exact not_showsFailure_nil e
  · have hread : (read_tmp route.name include_passwords).interpret
        (read_step views config catalog) = _ := interpreted_read_tmp _ _
    unfold interpreted
    rw [interpret_bind, hread]
    have htmp := read_tmp_capability_attempt views config catalog route.name
      include_passwords .null
    refine silent_of_asks (htmp.asks.bind fun reading => ?_)
      (fun _ => Question.OverTmp.silent) router s e
    exact Asks.pure _

variable (views config catalog router) in
/-- `read_capability` after its inventory, where the log of the inventory shows no failure. -/
theorem route_unconcealed {name : String} {include_passwords : Bool} {route : CapabilityRoute}
    {inventory : Inventory} {s s1 : Desk × ρ} {log : Log ρ} (hname : name ≠ "mesh_nodes")
    (hchecks : PassesChecks config name include_passwords route)
    (hresolved : (device_inventory views config catalog).run (perform router) s =
      ⟨.ok inventory, s1, log⟩)
    (hsilent : ∀ e, ¬ ShowsFailure log e) :
    let run := (interpreted views config catalog
      (read_route config route inventory include_passwords)).run (perform router) s1
    (ReadHides views config catalog router name include_passwords s →
      Conceals (log ++ run.log) run.raises) ∧
    (¬ ReadHides views config catalog router name include_passwords s →
      Unconcealed (log ++ run.log) run.raises) := by
  obtain ⟨hlisted, hnamed⟩ := route_of_checks hchecks
  have hshows := shows_of_inventory hresolved
  have hsensitivity := sensitive_of_checked hchecks.checked
  have hreached : ∀ {s1' log' inventory'}, ReachesHttp views config catalog router name
      include_passwords s s1' log' inventory' → route.primary_interface = .http_luci ∧
        s1' = s1 ∧ log' = log ∧ inventory' = inventory := by
    intro s1' log' inventory' h
    obtain ⟨route', hchecks', hprimary⟩ := h.primary
    have hrun := hresolved.symm.trans h.resolved
    injection hrun with hinventory hstate hlog
    cases hchecks.unique hchecks'
    exact ⟨hprimary, hstate.symm, hlog.symm, (Except.ok.inj hinventory).symm⟩
  dsimp only
  by_cases hhttp : route.primary_interface = .http_luci ∧ SelectsHttp config inventory
  · obtain ⟨hprimary, hselects⟩ := hhttp
    have hpolicy := http_routes_fall_back route hlisted hprimary
    obtain ⟨prior, hrun, hprior, hunsent⟩ := (run_read_route views config catalog router
      include_passwords hprimary hpolicy hshows hsensitivity).1 hselects
    have hnodes : route.name ≠ "mesh_nodes" := by rwa [hnamed]
    obtain ⟨hconceals, hunconcealed, hshown⟩ := http_first_unconcealed views config catalog router
      include_passwords hnodes hpolicy hshows hsensitivity
    rw [hrun]
    rw [hnamed] at hshown hconceals hunconcealed
    have hfirst : ∀ e, ¬ ShowsFailure (log ++ prior) e := fun e he =>
      (showsFailure_append.mp he).elim (hsilent e) (hprior e)
    rw [after_log, ← List.append_assoc]
    constructor
    · rintro ⟨s1', log', inventory', hreach, e, he, hhidden⟩
      obtain ⟨-, rfl, rfl, rfl⟩ := hreached hreach
      rcases hhidden with hsent | ⟨hcaught, heligible⟩
      · refine ⟨e, showsFailure_append.mpr (.inr ((hshown e).mpr he)), .inl ?_⟩
        exact sentOverTmp_append.mpr (.inl (sentOverTmp_append.mpr (.inl hsent)))
      · exact (hconceals ⟨e, he, hcaught, heligible⟩).prepend _
    · intro hnone
      have hreach : ReachesHttp views config catalog router name include_passwords s s1 log
          inventory := ⟨hname, ⟨route, hchecks, hprimary⟩, hresolved, hselects⟩
      have hrest := hunconcealed fun ⟨e, he, hcaught, heligible⟩ =>
        hnone ⟨s1, log, inventory, hreach, e, he, .inr ⟨hcaught, heligible⟩⟩
      intro e he
      have hfailed := (showsFailure_append.mp he).resolve_left (hfirst e)
      obtain ⟨hraised, hrestunsent⟩ := hrest e hfailed
      refine ⟨hraised, fun hsent => ?_⟩
      rcases sentOverTmp_append.mp hsent with hsent | hsent
      · rcases sentOverTmp_append.mp hsent with hsent | hsent
        · exact hnone ⟨s1, log, inventory, hreach, e, (hshown e).mp hfailed, .inl hsent⟩
        · exact hunsent hsent
      · exact hrestunsent hsent
  · have hnever : ¬ ReadHides views config catalog router name include_passwords s := by
      rintro ⟨s1', log', inventory', hreach, _⟩
      obtain ⟨hprimary, rfl, rfl, rfl⟩ := hreached hreach
      exact hhttp ⟨hprimary, hreach.selected⟩
    refine ⟨fun h => absurd h hnever, fun _ => unconcealed_of_silent fun e he => ?_⟩
    refine (showsFailure_append.mp he).elim (hsilent e) ?_
    cases hprimary : route.primary_interface with
    | tmp_appv2 => exact primary_tmp_silent hprimary e
    | http_luci =>
      have hpolicy := http_routes_fall_back route hlisted hprimary
      exact (run_read_route views config catalog router include_passwords hprimary hpolicy hshows
        hsensitivity).2 (fun h => hhttp ⟨hprimary, h⟩) e

variable (views config catalog router) in
/-- `read_capability` passes its checks, and its inventory or its HTTP read hides a failure. -/
def CapabilityHides (name : String) (include_passwords : Bool) (s : Desk × ρ) : Prop :=
  (∃ route, PassesChecks config name include_passwords route) ∧
    (InventoryHides views config router false s ∨
      ReadHides views config catalog router name include_passwords s)

variable (views config catalog router) in
theorem capability_unconcealed (name : String) (include_passwords : Bool) (s : Desk × ρ) :
    let run := (read_capability views config catalog name include_passwords).run
      (perform router) s
    (CapabilityHides views config catalog router name include_passwords s →
      Conceals run.log run.raises) ∧
    (¬ CapabilityHides views config catalog router name include_passwords s →
      Unconcealed run.log run.raises) := by
  dsimp only
  by_cases hchecked : ∃ route, PassesChecks config name include_passwords route
  · obtain ⟨route, hchecks⟩ := hchecked
    obtain ⟨hhides, hshown⟩ := inventory_unconcealed views config catalog router false s
    rw [read_capability_eq hchecks]
    rcases hrun : (device_inventory views config catalog).run (perform router) s with
      ⟨outcome, s1, log⟩
    rw [hrun] at hhides hshown
    have hreached : ReadHides views config catalog router name include_passwords s →
        ∃ inventory, outcome = .ok inventory ∧ name ≠ "mesh_nodes" := by
      rintro ⟨s1', log', inventory, hreach, _⟩
      have hsame := hrun.symm.trans hreach.resolved
      injection hsame with houtcome _ _
      exact ⟨inventory, houtcome, hreach.capability⟩
    by_cases hinventory : InventoryHides views config router false s
    · have hconceals := hhides hinventory
      refine ⟨fun _ => ?_, fun h => absurd ⟨⟨route, hchecks⟩, .inl hinventory⟩ h⟩
      cases outcome with
      | error e =>
        rw [run_bind_raised hrun]
        exact hconceals
      | ok inventory =>
        rw [run_bind_ok hrun]
        exact hconceals.append _ _
    · have hunconcealed := hshown hinventory
      have hreads : CapabilityHides views config catalog router name include_passwords s →
          ReadHides views config catalog router name include_passwords s := fun h =>
        h.2.resolve_left hinventory
      cases outcome with
      | error e =>
        rw [run_bind_raised hrun]
        refine ⟨fun h => ?_, fun _ => hunconcealed⟩
        obtain ⟨_, hok, _⟩ := hreached (hreads h)
        cases hok
      | ok inventory =>
        rw [run_bind_ok hrun]
        by_cases hname : name = "mesh_nodes"
        · rw [if_pos hname]
          refine ⟨fun h => ?_, fun _ => unconcealed_of_silent fun e he => ?_⟩
          · obtain ⟨_, _, hother⟩ := hreached (hreads h)
            exact absurd hname hother
          · rw [run_pure, after_log, List.append_nil] at he
            exact hunconcealed.silent e he
        · rw [if_neg hname]
          obtain ⟨hconceals, hrest⟩ := route_unconcealed views config catalog router hname hchecks
            hrun hunconcealed.silent
          exact ⟨fun h => hconceals (hreads h), fun h => hrest fun hhides =>
            h ⟨⟨route, hchecks⟩, .inr hhides⟩⟩
  · obtain ⟨e, hraised⟩ := read_capability_checked views catalog
      fun route h => hchecked ⟨route, h⟩
    rw [hraised]
    refine ⟨fun h => absurd h.1 hchecked, fun _ => unconcealed_of_silent not_showsFailure_nil⟩

variable (views config catalog router) in
/-- The inventory and `read_capability` hide a failed authentication or authorization of an
HTTP attempt exactly where TMP may take its place, or has spoken before. -/
theorem fallback_conceals_exactly (s : Desk × ρ) :
    (∀ refresh,
      let run := (device_inventory views config catalog refresh).run (perform router) s
      Unconcealed run.log run.raises ↔ ¬ InventoryHides views config router refresh s) ∧
    ∀ name include_passwords,
      let run := (read_capability views config catalog name include_passwords).run
        (perform router) s
      Unconcealed run.log run.raises ↔
        ¬ CapabilityHides views config catalog router name include_passwords s := by
  constructor
  · intro refresh
    obtain ⟨hhides, hshown⟩ := inventory_unconcealed views config catalog router refresh s
    exact ⟨fun h hhidden => (hhides hhidden).not_unconcealed h, hshown⟩
  · intro name include_passwords
    obtain ⟨hhides, hshown⟩ :=
      capability_unconcealed views config catalog router name include_passwords s
    exact ⟨fun h hhidden => (hhides hhidden).not_unconcealed h, hshown⟩

end

/-! ## A router that forbids the login -/

/-- `get_str`, with the empty text where the field is none. -/
def get_str (data : JsonObject) (key : String) : String := ((get data key).asStr).getD ""

/-- The parsers, for rows of these fields whose MAC is in capitals. -/
def plain_views : Views := {
  device := fun row => .ok {
    mac := get_str row "mac"
    device_model := get_str row "device_model"
    role := get_str row "role"
    hardware_ver := get_str row "hardware_ver"
    software_ver := get_str row "software_ver" }
  client := fun row => .ok (.obj row)
  model := fun _ result => .ok (.obj result)
  http_view := fun _ _ value => .ok value
  tmp_view := fun _ _ value => .ok value }

/-- A service that may read over TMP, with credentials of the right form. -/
def bootstrap_config : ServerConfig := {
  password := "secret"
  tp_link_id := "owner@example.com"
  tmp_host_key_sha256 := "SHA256:47DEQpj8HBSa+/TImW+5JCeuQeRkm5NMpJWZG3hSuFU"
  allow_tmp_reads := true }

/-- What the login raises. -/
def forbidden : PyError := {
  cls := .TransportError
  message := "Failed to POST: HTTP 403"
  code := some 403 }

/-- The row of a controller with the exact profile. -/
def p9_row : JsonObject := [
  ("mac", .str "AA:BB:CC:DD:EE:01"),
  ("device_model", .str "P9"),
  ("role", .str "master"),
  ("hardware_ver", .str "2.0"),
  ("software_ver", .str "1.3.0 Build 20250804 Rel. 58832")]

/-- The answer to opcode 0x400F. -/
def device_list_payload : JsonObject :=
  [("error_code", .int 0), ("result", .obj [("device_list", .arr [.obj p9_row])])]

/-- A router whose TMP client is connected once it was opened, until it is closed. The other
requests are answered as `answer` says. -/
def connecting (answer : (request : Request) → request.Reply) : Router Bool where
  answer := fun request connected =>
    match request with
    | .tmp_connected => (connected, connected)
    | .tmp_open => (none, true)
    | .tmp_close => (none, false)
    | other => (answer other, connected)

/-- The login is forbidden, and TMP lists the devices. -/
def forbidding_answer : (request : Request) → request.Reply
  | .login => some forbidden
  | .logout => none
  | .http _ _ => .error forbidden
  | .bootstrap _ _ => .error forbidden
  | .binary _ => .error forbidden
  | .http_noop _ => fun _ => .error forbidden
  | .tmp_connected => false
  | .tmp_open => none
  | .tmp _ _ => .ok { loaded := .ok device_list_payload }
  | .tmp_close => none
  | .probe_host_key => .ok ""
  | .probe_tcp _ _ => .ok .connected

/-- A new service: its login is answered with HTTP status 403, it opens a TMP client, and the
inventory comes over TMP. -/
theorem a_forbidden_login_is_hidden :
    let run := (device_inventory plain_views bootstrap_config some_reads).run
      (perform (connecting forbidding_answer)) ({}, false)
    ShowsFailure run.log forbidden ∧ SentOverTmp run.log ∧ run.raises = none ∧
      ¬ Unconcealed run.log run.raises := by
  have hraises : ((device_inventory plain_views bootstrap_config some_reads).run
      (perform (connecting forbidding_answer)) ({}, false)).raises = none := by decide +kernel
  have hshown : ShowsFailure ((device_inventory plain_views bootstrap_config some_reads).run
      (perform (connecting forbidding_answer)) ({}, false)).log forbidden := by
    unfold ShowsFailure
    decide +kernel
  have hsent : SentOverTmp ((device_inventory plain_views bootstrap_config some_reads).run
      (perform (connecting forbidding_answer)) ({}, false)).log := by
    unfold SentOverTmp
    decide +kernel
  exact ⟨hshown, hsent, hraises, fun h => (h forbidden hshown).2 hsent⟩

end tplink_deco_api.surface
