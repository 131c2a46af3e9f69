-- The gate of the sensitive reads: with it closed no secret operation is asked,
-- so that no answer to one can be told from another, but for two ways around it.
import TplinkDeco.Surface.SingleSource
import TplinkDeco.Surface.WriteGate

open dialogue json

namespace tplink_deco_api.surface

open endpoint_catalog exceptions http_noop_verification service tmp_batches tmp_client Dialogue

variable {α β ρ : Type}

attribute [local irreducible] get_endpoint model_compatibility

/-! ## Secret operations -/

/-- The catalogue has the operation as secret. -/
def secret (o : Operation) : Bool := (classified o).any fun e => e.sensitivity = .secret

/-- The operations that the verifier of a setting calls. -/
def NOOP_OPERATIONS : List (String × List Operation) := [
  (BEAMFORMING_WRITE,
    [⟨"admin/wireless", "beamforming", "read"⟩, ⟨"admin/wireless", "beamforming", "write"⟩]),
  (IEEE80211R_WRITE,
    [⟨"admin/wireless", "ieee80211r", "read"⟩, ⟨"admin/wireless", "ieee80211r", "write"⟩]),
  (TIMESETTING_WRITE,
    [⟨"admin/device", "timesetting", "read"⟩, ⟨"admin/device", "timesetting", "write"⟩])]

theorem noop_operations_public : ∀ row ∈ NOOP_OPERATIONS, row.2.any secret = false := by
  decide +kernel

/-- The operations of the catalogue that a request asks for. The handshake of a session is not
one of them. -/
def Request.operations : Request → List Operation
  | .http o _ => [o]
  | .bootstrap o _ => [o]
  | .binary o => [o]
  | .http_noop operation => (NOOP_OPERATIONS.lookup operation).getD []
  | _ => []

/-- A request for an operation of secrets. -/
def Question.secret : Question → Bool
  | .send request => request.operations.any surface.secret
  | _ => false

/-- What the run asked of the secret operations. -/
abbrev disclosed (log : Log ρ) : Log ρ := picked Question.secret log

/-- A program that never asks for a secret. -/
abbrev Public (m : SurfaceM α) : Prop := m.Asks fun q => q.secret = false

theorem public_of_permits {o : Operation} (h : permits false o = true) : secret o = false := by
  unfold permits at h
  unfold secret
  cases hclass : classified o with
  | none => rfl
  | some e =>
    rw [hclass] at h
    simp only [Option.any_some, Bool.false_or, Bool.and_eq_true, decide_eq_true_eq] at h
    simp [h.2]

theorem noop_public (operation : String) : (Question.send (.http_noop operation)).secret = false := by
  show ((NOOP_OPERATIONS.lookup operation).getD []).any secret = false
  cases hrow : NOOP_OPERATIONS.lookup operation with
  | none => rfl
  | some operations =>
    obtain ⟨before, after, htable, -⟩ := List.lookup_eq_some_iff.mp hrow
    exact noop_operations_public (operation, operations) (by simp [htable])

theorem public_of_reads {catalog : TmpOpcodeCatalog} {m : SurfaceM α} (hm : Reads catalog false m) :
    Public m := by
  have hone : ∀ o, permits false o = true → [o].any secret = false := by
    intro o ho
    simp [public_of_permits ho]
  refine hm.mono fun q hq => ?_
  cases q with
  | desk => rfl
  | update f => rfl
  | send request =>
    cases request with
    | http o params => exact hone o hq
    | bootstrap o params => exact hone o hq
    | binary o => exact hone o hq
    | http_noop operation => exact hq.elim
    | _ => rfl

/-! ## Two routers -/

/-- They differ at most in their answers to secret operations. -/
def AgreesOffSecrets (router other : Router ρ) : Prop :=
  ∀ request : Request, request.operations.any secret = false →
    router.answer request = other.answer request

theorem perform_congr {router other : Router ρ} {request : Request}
    (h : router.answer request = other.answer request) :
    perform router (.send request) = perform other (.send request) := by
  funext ⟨d, r⟩
  show ((router.answer request r).1, (d, (router.answer request r).2)) = _
  rw [h]
  rfl

/-- From this state the run asks no secret operation, and it is the same run whatever the router
answers to those: the same result or error, and the same state. -/
structure Guarded (m : SurfaceM α) (router : Router ρ) (s : Desk × ρ) : Prop where
  unasked : disclosed (m.run (perform router) s).log = []
  untold : ∀ other, AgreesOffSecrets router other →
    m.run (perform other) s = m.run (perform router) s

/-- Of what is not asked, nothing can be told. -/
theorem guarded_of_unasked {m : SurfaceM α} {router : Router ρ} {s : Desk × ρ}
    (h : disclosed (m.run (perform router) s).log = []) : Guarded m router s where
  unasked := h
  untold other hother := by
    refine run_congr_of_log fun x hx => ?_
    have hpublic : x.question.secret = false := by
      simpa using List.filter_eq_nil_iff.mp h x hx
    cases hquestion : x.question with
    | desk => rfl
    | update f => rfl
    | send request =>
      rw [hquestion] at hpublic
      exact perform_congr (hother request hpublic)

theorem guarded_iff {m : SurfaceM α} {router : Router ρ} {s : Desk × ρ} :
    Guarded m router s ↔ disclosed (m.run (perform router) s).log = [] :=
  ⟨Guarded.unasked, guarded_of_unasked⟩

/-! ## The ways around the gate -/

variable (setup : Setup) (router : Router ρ)

/-- `configuration_resource` selects HTTP, and comes to the one read that no gate stands before. -/
def ReachesWan (s : Desk × ρ) : Prop :=
  let start := (configuration_start setup.views setup.config setup.catalog).run (perform router) s
  let operating_mode :=
    (http_operating_mode setup.views setup.config).run (perform router) start.state
  (∃ found, start.outcome = .ok found ∧ found.2.2.1.interface = .http_luci) ∧
    ∃ sections, operating_mode.outcome = .ok sections

/-- The checks of `invoke_mutation` let a secret operation through, and there is a session. -/
def InvokesSecret (name : String) (params : Option JsonObject)
    (confirmation plan_confirmation model : String) (s : Desk × ρ) : Prop :=
  (∃ e, check_invoke_mutation setup.config setup.float_repr name params confirmation
      plan_confirmation model = .ok e ∧ e.sensitivity = .secret) ∧
    ((get_client setup.config).run (perform router) s).outcome = .ok ()

/-- From this state the call asks a secret operation with the gate closed. -/
def PublicCall.Evades (s : Desk × ρ) : PublicCall → Prop
  | configuration_resource => ReachesWan setup router s
  | invoke_mutation name params confirmation plan_confirmation model =>
    InvokesSecret setup router name params confirmation plan_confirmation model s
  | _ => False

/-! ### `configuration_resource` -/

theorem http_wan_lan_discloses (views : Views) (s : Desk × ρ) :
    disclosed ((http_wan_lan views).run (perform router) s).log ≠ [] := by
  intro hnone
  have henvelope := (picked_bind_nil.mp (picked_bind_nil.mp (picked_bind_nil.mp
    (picked_bind_nil.mp hnone).1).1).1).1
  have hsecret : secret WAN_IPV4 = true := by decide +kernel
  unfold picked at henvelope
  rw [run_send, List.filter_eq_nil_iff] at henvelope
  refine henvelope _ List.mem_cons_self ?_
  show [WAN_IPV4].any secret = true
  rw [List.any_cons, hsecret, Bool.true_or]

theorem try_sections_log (name : String) (read : SurfaceM (List ResourceSection))
    (s : Desk × ρ) :
    disclosed ((try_sections name read).run (perform router) s).log = [] →
      disclosed (read.run (perform router) s).log = [] := by
  intro h
  have hlive := (picked_bind_nil.mp h).1
  unfold live at hlive
  rwa [run_trying] at hlive

variable {setup}

theorem gated_public (hgate : setup.config.allow_sensitive_reads = false) {m : SurfaceM α}
    (hm : Reads setup.catalog setup.config.allow_sensitive_reads m) : Public m :=
  public_of_reads (hgate ▸ hm)

theorem configuration_evades (hgate : setup.config.allow_sensitive_reads = false) (s : Desk × ρ) :
    disclosed ((configuration_resource setup.views setup.config setup.catalog).run (perform router)
      s).log = [] ↔ ¬ ReachesWan setup router s := by
  have hstart := gated_public hgate (configuration_start_reads setup.config setup.views)
  have hmode : Public (http_operating_mode setup.views setup.config) :=
    gated_public hgate (http_operating_mode_reads setup.config setup.views)
  unfold configuration_resource
  rw [picked_bind_nil]
  constructor
  · rintro ⟨-, hrest⟩
      ⟨⟨⟨controller, listed_over, context, internet⟩, hfound, hhttp⟩, sections, hmode⟩
    have hsections := (picked_bind_nil.mp (hrest _ hfound)).1
    unfold configuration_sections at hsections
    rw [if_pos hhttp] at hsections
    have hafter := (picked_bind_nil.mp hsections).2 sections hmode
    exact http_wan_lan_discloses router setup.views _
      (try_sections_log router _ _ _ (picked_bind_nil.mp hafter).1)
  · intro hreach
    refine ⟨hstart.picked_nil s, ?_⟩
    rintro ⟨controller, listed_over, context, internet⟩ hfound
    have hwireless := gated_public hgate (wireless_features_reads setup.config setup.views context)
    refine picked_bind_nil.mpr ⟨?_, fun sections _ => ?_⟩
    · unfold configuration_sections
      split
      case isTrue hhttp =>
        -- Before the ungated read come only public ones, one of which raises.
        refine picked_bind_nil.mpr ⟨hmode.picked_nil _, fun sections hsections => ?_⟩
        exact absurd ⟨⟨_, hfound, hhttp⟩, sections, hsections⟩ hreach
      case isFalse =>
        exact (gated_public hgate
          (tmp_configuration_reads setup.config setup.views context)).picked_nil _
    · exact (hwireless.bind fun _ => Asks.pure _).picked_nil _

/-! ### `invoke_mutation` -/

theorem call_discloses {e : EndpointSpec} {params : Option JsonObject} (s : Desk × ρ)
    (hsupported : e.generic_call_supported = true) (hvalid : e.validate_params params = .ok ()) :
    disclosed ((call e params).run (perform router) s).log = [] ↔ secret e.toOperation = false := by
  unfold EndpointSpec.generic_call_supported at hsupported
  rw [Bool.and_eq_true, decide_eq_true_eq, decide_eq_true_eq] at hsupported
  have hselected : e.request_params params = .ok (e.selected_params params) := by
    unfold EndpointSpec.request_params
    have hsame : e.validate_params (e.selected_params params) = e.validate_params params := by
      unfold EndpointSpec.validate_params EndpointSpec.missing_params EndpointSpec.selected_params
      rw [Option.or_assoc, Option.or_self]
    rw [hsame, hvalid]
    rfl
  have hauthentication : e.authentication ∈ [.plain, .encrypted] := by
    simpa [or_comm] using hsupported.1
  have hcall : call e params = request_envelope e.toOperation (e.selected_params params) := by
    unfold call
    rw [if_neg (by simpa using hsupported.2), hselected]
    exact if_neg (not_not.mpr hauthentication)
  rw [hcall]
  unfold request_envelope
  rw [run_bind_ok (run_send router _ s), after_log, run_lift]
  cases hsecret : secret e.toOperation <;>
    simp [picked, Question.secret, Request.operations, hsecret]

theorem call_of_checks {name confirmation plan_confirmation model : String}
    {params : Option JsonObject} {e : EndpointSpec}
    (h : check_invoke_mutation setup.config setup.float_repr name params confirmation
      plan_confirmation model = .ok e) :
    e ∈ ENDPOINT_CATALOG ∧ e.generic_call_supported = true ∧ e.validate_params params = .ok () := by
  unfold check_invoke_mutation at h
  cases hname : get_endpoint name with
  | error error =>
    rw [hname] at h
    cases h
  | ok found =>
    rw [hname] at h
    obtain ⟨hinvocation, h⟩ := ok_of_check h
    obtain ⟨hvalid, h⟩ := ok_of_check h
    obtain ⟨-, h⟩ := ok_of_check h
    cases h
    refine ⟨(mem_of_get_endpoint hname).1, ?_, hvalid⟩
    by_contra hsupported
    unfold check_invocation mutate_error at hinvocation
    rw [if_pos hsupported] at hinvocation
    split at hinvocation
    · cases hinvocation
    · split at hinvocation
      · cases hinvocation
      · split at hinvocation <;> cases hinvocation

theorem secret_of_mem {e : EndpointSpec} (he : e ∈ ENDPOINT_CATALOG) :
    secret e.toOperation = true ↔ e.sensitivity = .secret := by
  unfold secret
  rw [classified_of_mem he]
  simp

theorem invocation_evades (name : String) (params : Option JsonObject)
    (confirmation plan_confirmation model : String) (s : Desk × ρ) :
    disclosed ((invoke_mutation setup.config setup.float_repr name params confirmation
      plan_confirmation model).run (perform router) s).log = [] ↔
        ¬ InvokesSecret setup router name params confirmation plan_confirmation model s := by
  have hclient : Public (get_client setup.config) :=
    public_of_reads (get_client_asks setup.config : Reads setup.catalog false _)
  unfold invoke_mutation InvokesSecret
  rw [picked_bind_nil, run_lift]
  constructor
  · rintro ⟨-, hrest⟩ ⟨⟨e, hcheck, hsecret⟩, hsession⟩
    obtain ⟨he, hsupported, hvalid⟩ := call_of_checks hcheck
    have hcall := (picked_bind_nil.mp (hrest e hcheck)).2 () hsession
    rw [call_discloses router _ hsupported hvalid, (secret_of_mem he).mpr hsecret] at hcall
    cases hcall
  · intro hcloses
    refine ⟨rfl, fun e hcheck => picked_bind_nil.mpr ⟨hclient.picked_nil s, fun _ hsession => ?_⟩⟩
    obtain ⟨he, hsupported, hvalid⟩ := call_of_checks hcheck
    rw [call_discloses router _ hsupported hvalid]
    cases hsecret : secret e.toOperation with
    | false => rfl
    | true => exact absurd ⟨⟨e, hcheck, (secret_of_mem he).mp hsecret⟩, hsession⟩ hcloses

/-! ## Every method, and every run -/

theorem noop_verification_public (operation confirmation : String) :
    Public (verify_p9_http_noop setup.views setup.config setup.catalog operation confirmation) := by
  have hinventory : Reads setup.catalog false
      (device_inventory setup.views setup.config setup.catalog) :=
    device_inventory_reads setup.config setup.views _
  have hclient : Reads setup.catalog false (get_client setup.config) := get_client_asks setup.config
  refine (Asks.lift _).bind fun _ => Asks.bind ?_ fun _ => ?_
  · exact (public_of_reads hinventory).bind fun _ =>
      Asks.ite (fun _ => Asks.raised _) fun _ => Asks.pure _
  · refine Asks.bind (Asks.question rfl) fun d => Asks.ite (fun _ => Asks.raised _) fun _ => ?_
    refine (public_of_reads hclient).bind fun _ => ?_
    have hnoop : Public (send (.http_noop operation)) := Asks.question (noop_public operation)
    refine hnoop.bind fun answers => (Asks.lift _).bind fun _ => ?_
    have hlatch : Public set_latch := Asks.question rfl
    exact Asks.ite (fun _ => Asks.pure _) fun _ => hlatch.bind fun _ => Asks.pure _

theorem method_evades (hgate : setup.config.allow_sensitive_reads = false) (call : PublicCall)
    (s : Desk × ρ) :
    disclosed ((call.program setup).run (perform router) s).log = [] ↔
      ¬ call.Evades setup router s := by
  have hpublic : Public (call.program setup) → (call.Evades setup router s → False) →
      (disclosed ((call.program setup).run (perform router) s).log = [] ↔
        ¬ call.Evades setup router s) :=
    fun hm hnone => iff_of_true (hm.picked_nil s) hnone
  cases call with
  | configuration_resource => exact configuration_evades router hgate s
  | invoke_mutation name params confirmation plan_confirmation model =>
    exact invocation_evades router name params confirmation plan_confirmation model s
  | verify_p9_http_noop operation confirmation =>
    exact hpublic (noop_verification_public operation confirmation) id
  | verify_setting_noop name confirmation =>
    exact hpublic ((Asks.lift _).bind fun _ => noop_verification_public _ _) id
  | execute_semantic_mutation plan_id confirmation now =>
    have hclaim : Reads setup.catalog false (claim_plan setup.views setup.config setup.catalog
        plan_id confirmation now) := claim_plan_reads setup.config setup.views _ _ _
    refine hpublic ((public_of_reads hclaim).bind fun plan => ?_) id
    exact Asks.ite (fun _ => Asks.raised _) fun _ =>
      (Asks.lift _).bind fun _ => noop_verification_public _ _
  | _ => exact hpublic (gated_public hgate (method_reads setup trivial)) id

variable (setup)

/-- No call evades the gate in the state that the calls before it leave. -/
def NoneEvades : List PublicCall → Desk × ρ → Prop
  | [], _ => True
  | call :: calls, s => ¬ call.Evades setup router s ∧
      NoneEvades calls ((call.program setup).run (perform router) s).state

variable {setup}

theorem run_served (call : PublicCall) (s : Desk × ρ) :
    (attempt (call.program setup) >>= fun outcome =>
        (pure { call, outcome } : SurfaceM Served)).run (perform router) s =
      { (call.program setup).run (perform router) s with
        outcome := .ok { call, outcome := ((call.program setup).run (perform router) s).outcome } } := by
  have hattempt : (attempt (call.program setup)).run (perform router) s =
      { (call.program setup).run (perform router) s with
        outcome := .ok ((call.program setup).run (perform router) s).outcome } := by
    unfold attempt
    rw [run_trying]
    cases ((call.program setup).run (perform router) s).outcome <;> rfl
  rw [run_bind_ok hattempt, run_pure]
  unfold Run.after
  rw [List.append_nil]

/-- With the gate closed, a run discloses nothing exactly if none of its calls evades the gate.
By induction on the calls, each from the state before it. -/
theorem gate_holds_exactly (hgate : setup.config.allow_sensitive_reads = false)
    (calls : List PublicCall) (s : Desk × ρ) :
    Guarded (serve setup calls) router s ↔ NoneEvades setup router calls s := by
  rw [guarded_iff]
  unfold serve
  induction calls generalizing s with
  | nil => exact iff_of_true rfl trivial
  | cons call calls ih =>
    unfold Dialogue.each NoneEvades
    rw [picked_bind_nil, run_served, method_evades router hgate]
    refine and_congr_right fun _ => ?_
    rw [← ih]
    constructor
    · intro hrest
      exact (picked_bind_nil.mp (hrest _ rfl)).1
    · intro hrest served _
      exact picked_bind_nil.mpr ⟨hrest, fun _ _ => rfl⟩

/-- A service with the gate closed, and all else as its defaults have it. -/
def closed_setup : Setup := {
  config := { password := "secret" }
  views := plain_views
  catalog := status_reads
  profile := { availability := fun _ => .untested, asset_present := fun _ => false }
  float_repr := fun _ => "" }

theorem the_gate_holds_for_the_status :
    Guarded (serve closed_setup [.network_status_resource, .cloud_state]) (status_router plugged)
      ({}, false) :=
  (gate_holds_exactly (status_router plugged) rfl _ _).mpr ⟨id, id, trivial⟩

/-- Over HTTP the configuration reads the secret addresses of the WAN. -/
theorem the_configuration_evades_the_gate :
    closed_setup.config.allow_sensitive_reads = false ∧
      ¬ Guarded (serve closed_setup [.configuration_resource]) (status_router plugged) ({}, false) := by
  refine ⟨rfl, fun hguarded => ?_⟩
  have hread : (disclosed ((serve closed_setup [.configuration_resource]).run
      (perform (status_router plugged)) ({}, false)).log).isEmpty = false := by decide +kernel
  rw [hguarded.unasked] at hread
  cases hread

end tplink_deco_api.surface
