-- Who may write: each operation that is not a read is one request of
-- `invoke_mutation`, or the no-op verifier's, and TMP carries reads alone.
import TplinkDeco.Surface.Fallback
import TplinkDeco.Surface.MethodReads
import TplinkDeco.TmpProtocol.Negotiation

open dialogue json

namespace tplink_deco_api.surface

open endpoint_catalog exceptions http_noop_verification service tmp_batches tmp_client Dialogue
open tmp_protocol

variable {catalog : TmpOpcodeCatalog} {secrets : Bool} {α ρ : Type}

-- As in the reads: a lookup of a name that is not known stays as it is.
attribute [local irreducible] get_endpoint

/-! ## The writes of a run -/

/-- Anything over HTTP that the catalogue does not have as a read. -/
def Question.writes : Question → Bool
  | .send (.http o _) => !permits true o
  | .send (.bootstrap o _) => !permits true o
  | .send (.binary o) => !permits true o
  | .send (.http_noop _) => true
  | _ => false

/-- The opcodes that a request sends. Those of `tmp_open` are what `open_session` exchanges. -/
def Question.opcodes : Question → List Nat
  | .send .tmp_open => [TOKEN_ALLOCATE, COMPONENT_NEGOTIATE]
  | .send (.tmp opcode _) => [opcode]
  | _ => []

/-- Whatever the peer answers, the session that opens says no other opcode. -/
theorem tmp_open_spoken (session : TmpAppV2Session) :
    Says (Question.opcodes (.send .tmp_open)) session.stream (open_session session).2.stream :=
  open_session_spoken session

/-- Nor does the session that a TMP request is exchanged on. -/
theorem tmp_spoken (q : tmp_protocol.Request) (params : Json) (session : TmpAppV2Session) :
    Says (Question.opcodes (.send (.tmp q.opcode params))) session.stream
      (exchange q.opcode q.payload session).2.stream :=
  exchange_spoken q session

/-- Over TMP the question sends the negotiation, or what the catalogue has as a read. -/
def Question.ReadsOverTmp (catalog : TmpOpcodeCatalog) (q : Question) : Prop :=
  ∀ opcode ∈ q.opcodes, opcode = TOKEN_ALLOCATE ∨ opcode = COMPONENT_NEGOTIATE ∨
    ∃ o, get_tmp_opcode catalog opcode = some o ∧ o.safety = "read_only"

theorem Question.Permitted.silent {q : Question} (h : q.Permitted catalog secrets) :
    q.writes = false := by
  have hall := h.all
  cases q with
  | desk => rfl
  | update f => rfl
  | send request =>
    cases request with
    | http o params => exact congrArg (!·) hall
    | bootstrap o params => exact congrArg (!·) hall
    | binary o => exact congrArg (!·) hall
    | http_noop o => exact h.elim
    | _ => rfl

theorem Question.Permitted.over_tmp {q : Question} (h : q.Permitted catalog secrets) :
    q.ReadsOverTmp catalog := by
  intro opcode hopcode
  cases q with
  | desk => cases hopcode
  | update f => cases hopcode
  | send request =>
    cases request with
    | tmp_open =>
      rcases List.mem_cons.mp hopcode with rfl | hopcode
      · exact Or.inl rfl
      · exact Or.inr (Or.inl (List.mem_singleton.mp hopcode))
    | tmp code params =>
      cases List.mem_singleton.mp hopcode
      exact Or.inr (Or.inr h)
    | _ => cases hopcode

/-- A program that never writes. -/
abbrev Silent (m : SurfaceM α) : Prop := m.Asks fun q => q.writes = false

theorem reads_silent {m : SurfaceM α} (hm : Reads catalog true m) : Silent m :=
  hm.mono fun _ h => h.silent

theorem get_client_silent (catalog : TmpOpcodeCatalog) (config : ServerConfig) :
    Silent (get_client config) :=
  reads_silent (get_client_asks config : Reads catalog true _)

/-- What the run asked that may write. -/
abbrev written (log : Log ρ) : Log ρ := picked Question.writes log

/-- After a part that never writes, the writes are those of the rest. -/
theorem written_bind {β : Type} {m : SurfaceM α} (f : α → SurfaceM β) (hm : Silent m)
    (router : Router ρ) (s : Desk × ρ) :
    written ((m >>= f).run (perform router) s).log = [] ∨
      ∃ a s1, (m.run (perform router) s).outcome = .ok a ∧ (m.run (perform router) s).state = s1 ∧
        written ((m >>= f).run (perform router) s).log =
          written ((f a).run (perform router) s1).log :=
  hm.picked_bind s

theorem Reads.unwritten {m : SurfaceM α} (hm : Reads catalog secrets m) (router : Router ρ)
    (s : Desk × ρ) : written (m.run (perform router) s).log = [] :=
  (reads_silent (reads_all hm)).picked_nil s

/-! ## `invoke_mutation` -/

variable (config : ServerConfig) (float_repr : Option Rat → String)

/-- What stands behind a write of `invoke_mutation`: the gate of its safety class, both
confirmations, and the evidence for the model. -/
structure InvocationEvidence (name confirmation plan_confirmation : String) (e : EndpointSpec)
    (sent : Option JsonObject) : Prop where
  named : get_endpoint name = .ok e
  gate : safety_gate config e.safety = true
  confirmed : confirmation = name
  planned : plan_confirmation = confirmation_sha256 float_repr name (sent.getD [])
  tested : (mutation_compatibility name).mutation_tested = true
  general : (mutation_compatibility name).mutation_test_scope = "general"

variable {config float_repr} {name confirmation plan_confirmation model : String}
  {e : EndpointSpec} {params : Option JsonObject}

theorem gate_of_invocation (h : check_invocation config e name confirmation = .ok ()) :
    confirmation = name ∧ safety_gate config e.safety = true := by
  unfold check_invocation mutate_error at h
  split at h
  · cases h
  · split at h
    · cases h
    case isFalse hconfirmed =>
      split at h
      · cases h
      case isFalse hgate => exact ⟨not_not.mp hconfirmed, by simpa using hgate⟩

theorem evidence_of_plan
    (h : check_plan float_repr e name params plan_confirmation model = .ok ()) :
    plan_confirmation = (build_mutation_plan float_repr e params).confirmation_sha256 ∧
      (mutation_compatibility name).mutation_tested = true ∧
      (mutation_compatibility name).mutation_test_scope = "general" := by
  unfold check_plan model_compatibility mutate_error at h
  split at h
  · cases h
  · replace h : (if plan_confirmation ≠ _ then _ else _) = Except.ok () := h
    split at h
    · cases h
    case isFalse hplanned =>
      split at h
      · cases h
      case isFalse htested =>
        split at h
        · cases h
        case isFalse hgeneral =>
          exact ⟨not_not.mp hplanned, by simpa using htested, not_not.mp hgeneral⟩

theorem ok_of_check {x : Except PyError Unit} {y : Except PyError α} {a : α}
    (h : (x >>= fun _ => y) = .ok a) : x = .ok () ∧ y = .ok a := by
  cases x with
  | ok u => exact ⟨rfl, h⟩
  | error e => cases h

theorem evidence_of_checks
    (h : check_invoke_mutation config float_repr name params confirmation plan_confirmation model =
      .ok e) :
    InvocationEvidence config float_repr name confirmation plan_confirmation e
      (e.selected_params params) := by
  unfold check_invoke_mutation at h
  cases hname : get_endpoint name with
  | error error =>
    rw [hname] at h
    cases h
  | ok found =>
    rw [hname] at h
    obtain ⟨hinvocation, h⟩ := ok_of_check h
    obtain ⟨_, h⟩ := ok_of_check h
    obtain ⟨hplan, h⟩ := ok_of_check h
    cases h
    obtain ⟨hconfirmed, hgate⟩ := gate_of_invocation hinvocation
    obtain ⟨hplanned, htested, hgeneral⟩ := evidence_of_plan hplan
    have hsame : e.name = name := (mem_of_get_endpoint hname).2
    refine ⟨hname, hgate, hconfirmed, ?_, htested, hgeneral⟩
    rw [hplanned]
    unfold build_mutation_plan
    rw [hsame]

/-- `DecoClient.call` sends one request at most, with the selected parameters. -/
theorem run_call_log (e : EndpointSpec) (params : Option JsonObject) (router : Router ρ)
    (s : Desk × ρ) :
    ((call e params).run (perform router) s).log = [] ∨
      ∃ answer, ((call e params).run (perform router) s).log =
        [⟨s, .send (.http e.toOperation (e.selected_params params)), answer⟩] := by
  unfold call
  split
  case isTrue => exact Or.inl rfl
  case isFalse =>
    unfold EndpointSpec.request_params
    cases e.validate_params (e.selected_params params) with
    | error error => exact Or.inl rfl
    | ok u =>
      show (Dialogue.run _ (if e.authentication ∉ [.plain, .encrypted] then _ else _) s).log = [] ∨
        ∃ answer, (Dialogue.run _ (if e.authentication ∉ [.plain, .encrypted] then _ else _) s).log = _
      split
      case isTrue => exact Or.inl rfl
      case isFalse =>
        refine Or.inr ⟨(perform router (.send (.http e.toOperation _)) s).1, ?_⟩
        unfold request_envelope
        rw [run_bind_ok (run_send router _ s), after_log, run_lift]
        rfl

theorem invoke_mutation_written (catalog : TmpOpcodeCatalog) (router : Router ρ) (s : Desk × ρ) :
    written ((invoke_mutation config float_repr name params confirmation plan_confirmation
        model).run (perform router) s).log = [] ∨
      ∃ (e : EndpointSpec) (sent : Option JsonObject) (x : _),
        written ((invoke_mutation config float_repr name params confirmation plan_confirmation
          model).run (perform router) s).log = [x] ∧
        x.question = .send (.http e.toOperation sent) ∧
        InvocationEvidence config float_repr name confirmation plan_confirmation e sent := by
  unfold invoke_mutation
  rcases written_bind _ (Asks.lift _) router s with hnone | ⟨e, s1, hcheck, -, hlog⟩
  · exact Or.inl hnone
  · rw [run_lift] at hcheck
    have hevidence := evidence_of_checks hcheck
    rw [hlog]
    rcases written_bind (fun _ => call e params) (get_client_silent catalog config) router s1 with
      hnone | ⟨_, s2, -, -, hlog⟩
    · exact Or.inl hnone
    · rw [hlog]
      rcases run_call_log e params router s2 with hnone | ⟨answer, hsent⟩
      · exact Or.inl (by rw [hnone]; rfl)
      · rw [hsent]
        cases hwrites : (Question.send (.http e.toOperation (e.selected_params params))).writes with
        | false => exact Or.inl (List.filter_cons_of_neg (by simp [hwrites]))
        | true =>
          refine Or.inr ⟨e, e.selected_params params, ⟨s2, _, answer⟩, ?_, rfl, hevidence⟩
          exact List.filter_cons_of_pos hwrites

/-! ## The no-op verification -/

variable (config)

/-- The controller of the cached devices has the exact profile. -/
def ShowsExact (d : Desk) : Prop :=
  ∃ devices controller, d.service.device_cache = some devices ∧
    controller_device devices = .ok controller ∧ profile_match controller = .exact

/-- What stands behind a verification: both gates, the exact confirmation, and in the state before
it a controller with the exact profile and a clear latch. -/
structure NoopEvidence (operation confirmation : String) (d : Desk) : Prop where
  mutations : config.allow_mutations = true
  verification : config.allow_http_noop_verification = true
  confirmed : HTTP_NOOP_CONFIRMATIONS operation = some confirmation
  profile : ShowsExact d
  clear : d.service.http_mutation_latched = false

variable {config} {operation : String} (views : Views)

theorem gates_of_noop (h : check_p9_http_noop config operation confirmation = .ok ()) :
    HTTP_NOOP_CONFIRMATIONS operation = some confirmation ∧ config.allow_mutations = true ∧
      config.allow_http_noop_verification = true := by
  unfold check_p9_http_noop at h
  split at h
  case h_1 => cases h
  case h_2 expected hexpected =>
    unfold p9_noop_error at h
    dsimp only at h
    split at h
    · cases h
    case isFalse hconfirmed =>
      split at h
      · cases h
      case isFalse hmutations =>
        split at h
        · cases h
        case isFalse hverification =>
          rw [hexpected, not_not.mp hconfirmed]
          exact ⟨rfl, not_not.mp hmutations, not_not.mp hverification⟩

theorem exact_of_profile (router : Router ρ) {s : Desk × ρ}
    (h : ((require_exact_p9_profile views config catalog).run (perform router) s).outcome =
      .ok ()) :
    ShowsExact ((require_exact_p9_profile views config catalog).run (perform router) s).state.1 := by
  unfold require_exact_p9_profile at h ⊢
  obtain ⟨inventory, s1, log, hrun, hrest⟩ := ok_of_bind h
  rw [run_bind_ok hrun, after_state]
  split at hrest
  case isTrue => cases hrest
  case isFalse hexact =>
    rw [if_neg hexact, run_pure]
    obtain ⟨⟨devices, hcache, hcontroller⟩, hprofile⟩ := shows_of_inventory hrun
    exact ⟨devices, inventory.controller, hcache, hcontroller,
      hprofile.symm.trans (not_not.mp hexact)⟩

/-- A question that leaves the cached devices and the latch as they are. -/
def Question.KeepsNoop : Question → Prop
  | .update f => ∀ d, (f d).service.device_cache = d.service.device_cache ∧
      (f d).service.http_mutation_latched = d.service.http_mutation_latched
  | _ => True

theorem get_client_keeps (config : ServerConfig) : (get_client config).Asks Question.KeepsNoop := by
  refine Asks.ite (fun _ => Asks.raised _) fun _ => (Asks.question trivial).bind fun d => ?_
  refine Asks.ite (fun _ => Asks.pure _) fun _ => (Asks.question trivial).bind fun error => ?_
  cases error with
  | none => exact Asks.question fun d => ⟨rfl, rfl⟩
  | some e => exact Asks.bind (Asks.question fun d => ⟨rfl, rfl⟩) fun _ => Asks.raised _

theorem keeps_noop (router : Router ρ) {q : Question} (h : q.KeepsNoop) (s : Desk × ρ)
    (hs : ShowsExact s.1 ∧ s.1.service.http_mutation_latched = false) :
    ShowsExact (perform router q s).2.1 ∧
      (perform router q s).2.1.service.http_mutation_latched = false := by
  cases q with
  | desk => exact hs
  | send request => exact hs
  | update f =>
    obtain ⟨hcache, hlatch⟩ := h s.1
    refine ⟨?_, hlatch.trans hs.2⟩
    unfold ShowsExact
    rw [show (perform router (.update f) s).2.1 = f s.1 from rfl, hcache]
    exact hs.1

/-- After its one question to the router, the verifier asks for nothing. -/
theorem run_verifier_written (router : Router ρ) (s : Desk × ρ) :
    written ((run_verifier operation confirmation).run (perform router) s).log =
      [⟨s, .send (.http_noop operation), (router.answer (.http_noop operation) s.2).1⟩] := by
  have hrest : ∀ answers, (do
      let result ← Dialogue.lift (noop_outcome operation confirmation answers)
      if result.verified_noop then pure result
      else do
        set_latch
        pure result : SurfaceM HttpNoopVerificationResult).Asks fun q => q.writes = false :=
    fun answers => (Asks.lift _).bind fun _ =>
      Asks.ite (fun _ => Asks.pure _) fun _ => Asks.bind (Asks.question rfl) fun _ => Asks.pure _
  unfold run_verifier written picked
  rw [run_bind_ok (run_send router (.http_noop operation) s), after_log, List.filter_append]
  exact congrArg (_ :: ·) ((hrest _).picked_nil _)

theorem noop_section_written (catalog : TmpOpcodeCatalog) (router : Router ρ) {s : Desk × ρ}
    (hexact : ShowsExact s.1) :
    written ((noop_section config operation confirmation).run (perform router) s).log = [] ∨
      ∃ s1 answers, written ((noop_section config operation confirmation).run (perform router)
          s).log = [⟨s1, .send (.http_noop operation), answers⟩] ∧
        ShowsExact s1.1 ∧ s1.1.service.http_mutation_latched = false := by
  unfold noop_section
  rw [run_bind_ok (run_desk s)]
  split
  case isTrue => exact Or.inl rfl
  case isFalse hclear =>
    have hnow : ShowsExact s.1 ∧ s.1.service.http_mutation_latched = false :=
      ⟨hexact, by simpa using hclear⟩
    have hkept := (get_client_keeps config).keeps (fun _ hq s hs => keeps_noop router hq s hs) hnow
    rcases written_bind (fun _ => run_verifier operation confirmation)
      (get_client_silent catalog config) router s with hnone | ⟨_, s1, -, hstate, hlog⟩
    · exact Or.inl hnone
    · refine Or.inr ⟨s1, _, hlog.trans (run_verifier_written router s1), ?_⟩
      rw [← hstate]
      exact hkept

theorem verify_p9_http_noop_written (router : Router ρ) (s : Desk × ρ) :
    written ((verify_p9_http_noop views config catalog operation confirmation).run
        (perform router) s).log = [] ∨
      ∃ s1 answers, written ((verify_p9_http_noop views config catalog operation confirmation).run
          (perform router) s).log = [⟨s1, .send (.http_noop operation), answers⟩] ∧
        NoopEvidence config operation confirmation s1.1 := by
  have hprofile : Reads catalog true (require_exact_p9_profile views config catalog) :=
    (device_inventory_reads config views _).bind fun _ =>
      Asks.ite (fun _ => Asks.raised _) fun _ => Asks.pure _
  unfold verify_p9_http_noop
  rcases written_bind _ (Asks.lift _) router s with hnone | ⟨u, s1, hcheck, -, hlog⟩
  · exact Or.inl hnone
  · rw [run_lift] at hcheck
    obtain ⟨hconfirmed, hmutations, hverification⟩ := gates_of_noop hcheck
    rw [hlog]
    rcases written_bind (fun _ => noop_section config operation confirmation)
      (reads_silent hprofile) router s1 with hnone | ⟨_, s2, hok, hstate, hlog⟩
    · exact Or.inl hnone
    · have hexact := exact_of_profile views router hok
      rw [hstate] at hexact
      rw [hlog]
      rcases noop_section_written catalog router hexact with
        hnone | ⟨s3, answers, hone, hshows, hclear⟩
      · exact Or.inl hnone
      · exact Or.inr ⟨s3, answers, hone, hmutations, hverification, hconfirmed, hshows, hclear⟩

/-! ## Every method -/

/-- The confirmation that a call carries into the no-op verification. -/
def PublicCall.noop_confirmation : PublicCall → Option String
  | verify_p9_http_noop _ confirmation => some confirmation
  | verify_setting_noop _ confirmation => some confirmation
  | execute_semantic_mutation _ confirmation _ => some confirmation
  | _ => none

/-- Who may send the write `x`: `invoke_mutation`, for its one request; or a verification, for
the operation that it carries the confirmation of. -/
inductive Authorized (setup : Setup) (call : PublicCall) (x : Exchange Question Question.Answer
    (Desk × ρ)) : Prop where
  | invoked {name confirmation plan_confirmation model : String} {params sent : Option JsonObject}
      {e : EndpointSpec}
      (called : call = .invoke_mutation name params confirmation plan_confirmation model)
      (asked : x.question = .send (.http e.toOperation sent))
      (evidence : InvocationEvidence setup.config setup.float_repr name confirmation
        plan_confirmation e sent)
  | verified {operation confirmation : String}
      (called : call.noop_confirmation = some confirmation)
      (asked : x.question = .send (.http_noop operation))
      (evidence : NoopEvidence setup.config operation confirmation x.before.1)

/-- All writes of the run are one, and that one is authorized. -/
def WritesOnce (setup : Setup) (call : PublicCall) (log : Log ρ) : Prop :=
  written log = [] ∨ ∃ x, written log = [x] ∧ Authorized setup call x

variable (setup : Setup) (router : Router ρ)

/-- A verification that another method turns to, after what only reads. -/
theorem WritesOnce.noop {call : PublicCall} (hcall : call.noop_confirmation = some confirmation)
    (s : Desk × ρ) :
    WritesOnce setup call ((verify_p9_http_noop setup.views setup.config setup.catalog operation
      confirmation).run (perform router) s).log := by
  rcases verify_p9_http_noop_written setup.views router s with hnone | ⟨s1, answers, hone, hevidence⟩
  · exact Or.inl hnone
  · exact Or.inr ⟨_, hone, .verified hcall rfl hevidence⟩

theorem WritesOnce.bind {call : PublicCall} {β : Type} {m : SurfaceM α} {f : α → SurfaceM β}
    {s : Desk × ρ} (hm : Silent m)
    (hf : ∀ a s1, WritesOnce setup call ((f a).run (perform router) s1).log) :
    WritesOnce setup call ((m >>= f).run (perform router) s).log := by
  rcases written_bind f hm router s with hnone | ⟨a, s1, -, -, hlog⟩
  · exact Or.inl hnone
  · unfold WritesOnce
    rw [hlog]
    exact hf a s1

theorem setting_noop_writes_once {call : PublicCall} (name : String)
    (hcall : call.noop_confirmation = some confirmation) (s : Desk × ρ) :
    WritesOnce setup call ((verify_setting_noop setup.views setup.config setup.catalog name
      confirmation).run (perform router) s).log :=
  WritesOnce.bind setup router (Asks.lift _) fun _ s1 => WritesOnce.noop setup router hcall s1

theorem method_writes_once (call : PublicCall) (s : Desk × ρ) :
    WritesOnce setup call ((call.program setup).run (perform router) s).log := by
  by_cases hcall : call.OnlyReads
  · exact Or.inl ((method_reads setup hcall).unwritten router s)
  · cases call with
    | configuration_resource =>
      exact Or.inl ((configuration_resource_reads setup.config setup.views).unwritten router s)
    | execute_semantic_mutation plan_id confirmation now =>
      refine WritesOnce.bind setup router (reads_silent
        (claim_plan_reads setup.config setup.views plan_id confirmation now)) fun plan s1 => ?_
      split
      case isTrue => exact Or.inl rfl
      case isFalse => exact setting_noop_writes_once setup router plan.mutation rfl s1
    | verify_setting_noop name confirmation => exact setting_noop_writes_once setup router name rfl s
    | verify_p9_http_noop operation confirmation => exact WritesOnce.noop setup router rfl s
    | invoke_mutation name params confirmation plan_confirmation model =>
      rcases invoke_mutation_written setup.catalog router s with
        hnone | ⟨e, sent, x, hone, hasked, hevidence⟩
      · exact Or.inl hnone
      · exact Or.inr ⟨x, hone, .invoked rfl hasked hevidence⟩
    | _ => exact absurd trivial hcall

theorem call_over_tmp (catalog : TmpOpcodeCatalog) (e : EndpointSpec)
    (params : Option JsonObject) : (call e params).Asks (Question.ReadsOverTmp catalog) := by
  have hhttp : ∀ o sent, (Question.send (.http o sent)).ReadsOverTmp catalog :=
    fun o sent opcode hopcode => nomatch hopcode
  unfold call
  refine Asks.ite (fun _ => Asks.raised _) fun _ => (Asks.lift _).bind fun selected => ?_
  exact Asks.ite (fun _ => Asks.raised _) fun _ =>
    (Asks.question (hhttp _ _)).bind fun reply => Asks.lift reply

theorem reads_over_tmp {m : SurfaceM α} (hm : Reads catalog true m) :
    m.Asks (Question.ReadsOverTmp catalog) := hm.mono fun _ h => h.over_tmp

theorem noop_over_tmp (operation confirmation : String) :
    (verify_p9_http_noop setup.views setup.config setup.catalog operation confirmation).Asks
      (Question.ReadsOverTmp setup.catalog) := by
  have hprofile : Reads setup.catalog true
      (require_exact_p9_profile setup.views setup.config setup.catalog) :=
    (device_inventory_reads setup.config setup.views _).bind fun _ =>
      Asks.ite (fun _ => Asks.raised _) fun _ => Asks.pure _
  have hnoop : (Question.send (.http_noop operation)).ReadsOverTmp setup.catalog :=
    fun opcode hopcode => nomatch hopcode
  refine (Asks.lift _).bind fun _ => (reads_over_tmp hprofile).bind fun _ => ?_
  refine (reads_over_tmp desk_asks).bind fun d =>
    Asks.ite (fun _ => Asks.raised _) fun _ => ?_
  refine (reads_over_tmp (get_client_asks setup.config)).bind fun _ => ?_
  refine (Asks.question hnoop).bind fun answers => (Asks.lift _).bind fun result => ?_
  refine Asks.ite (fun _ => Asks.pure _) fun _ => ?_
  exact (reads_over_tmp (update_asks _)).bind fun _ => Asks.pure _

theorem method_over_tmp (call : PublicCall) :
    (call.program setup).Asks (Question.ReadsOverTmp setup.catalog) := by
  by_cases hcall : call.OnlyReads
  · exact reads_over_tmp (reads_all (method_reads setup hcall))
  · cases call with
    | configuration_resource =>
      exact reads_over_tmp (configuration_resource_reads setup.config setup.views)
    | execute_semantic_mutation plan_id confirmation now =>
      refine (reads_over_tmp
        (claim_plan_reads setup.config setup.views _ _ _)).bind fun plan => ?_
      exact Asks.ite (fun _ => Asks.raised _) fun _ =>
        (Asks.lift _).bind fun _ => noop_over_tmp setup _ _
    | verify_setting_noop name confirmation =>
      exact (Asks.lift _).bind fun _ => noop_over_tmp setup _ _
    | verify_p9_http_noop operation confirmation => exact noop_over_tmp setup _ _
    | invoke_mutation name params confirmation plan_confirmation model =>
      exact (Asks.lift _).bind fun e => (reads_over_tmp
        (get_client_asks setup.config)).bind fun _ => call_over_tmp setup.catalog e params
    | _ => exact absurd trivial hcall

/-- Whatever a method is called with, from whatever state and whatever the router answers: a
write is the only one of its call and authorized, and TMP carries only reads. -/
theorem writes_are_gated (call : PublicCall) (s : Desk × ρ) :
    ∀ x ∈ ((call.program setup).run (perform router) s).log,
      (x.question.writes = true →
        written ((call.program setup).run (perform router) s).log = [x] ∧
          Authorized setup call x) ∧
      x.question.ReadsOverTmp setup.catalog := by
  intro x hx
  refine ⟨fun hwrites => ?_, (method_over_tmp setup call).of_run s x hx⟩
  have hwritten : x ∈ written ((call.program setup).run (perform router) s).log :=
    List.mem_filter.mpr ⟨hx, hwrites⟩
  rcases method_writes_once setup router call s with hnone | ⟨y, hone, hauthorized⟩
  · rw [hnone] at hwritten
    cases hwritten
  · rw [hone] at hwritten
    cases List.mem_singleton.mp hwritten
    exact ⟨hone, hauthorized⟩

/-- A service that may verify the operations, and a router with an exact P9. -/
def verifying_setup : Setup := {
  config := { password := "secret", allow_mutations := true, allow_http_noop_verification := true }
  views := plain_views
  catalog := some_reads
  profile := { availability := fun _ => .untested, asset_present := fun _ => false }
  float_repr := fun _ => "" }

/-- A P9 whose settings are on, and stay so when they are written. -/
def verifying_answer : (request : Request) → request.Reply
  | .login => none
  | .http _ _ => .ok { error_code := 0, result := .obj [("device_list", .arr [.obj p9_row])] }
  | .http_noop _ => fun _ => .ok { error_code := 0, result := .obj [("enable", .bool true)] }
  | request => forbidding_answer request

/-- The verification of the beamforming, with its confirmation. -/
def beamforming_call : PublicCall := .verify_p9_http_noop BEAMFORMING_WRITE
  ("I authorize a P9 HTTP current-value no-op verification for admin.wireless.beamforming.write, " ++
    "with immediate post-read verification and rollback on mismatch.")

/-- The call on a new service. -/
def beamforming_run : Run Question Question.Answer PyError HttpNoopVerificationResult
    (Desk × Bool) :=
  (beamforming_call.program verifying_setup).run (perform (connecting verifying_answer)) ({}, false)

/-- The setting is written and found unchanged, and the verification that did it is the one write
of its call. -/
theorem the_beamforming_verification_is_gated :
    beamforming_run.outcome.map (fun result => (result.status, result.mutation_request_count)) =
        .ok ("verified_noop", 1) ∧
      ∃ x ∈ beamforming_run.log, x.question.writes = true ∧ written beamforming_run.log = [x] ∧
        Authorized verifying_setup beamforming_call x := by
  have hgated : ∀ x ∈ beamforming_run.log, (x.question.writes = true →
        written beamforming_run.log = [x] ∧ Authorized verifying_setup beamforming_call x) ∧
      x.question.ReadsOverTmp verifying_setup.catalog :=
    writes_are_gated verifying_setup (connecting verifying_answer) beamforming_call ({}, false)
  refine ⟨by decide +kernel, ?_⟩
  have hwritten : (written beamforming_run.log).isEmpty = false := by decide +kernel
  obtain ⟨x, hmem⟩ := List.isEmpty_eq_false_iff_exists_mem.mp hwritten
  obtain ⟨hx, hwrites⟩ := List.mem_filter.mp hmem
  exact ⟨x, hx, hwrites, (hgated x hx).1 hwrites⟩

end tplink_deco_api.surface
