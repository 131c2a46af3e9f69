-- What the HTTP reads and the TMP reads of the service do in every run: which
-- failures they pass on, and which of them send anything over TMP.
import TplinkDeco.Surface.Capabilities

open dialogue json

namespace tplink_deco_api.surface

open endpoint_catalog exceptions service tmp_batches tmp_client Dialogue

/-! ## What a log shows -/

/-- The router answers with HTTP status 401 or 403. -/
def refused (e : PyError) : Bool :=
  e.isinstance [.TransportError] && (e.code = some 401 || e.code = some 403)

/-- The handshake of the login is rejected. -/
def login_rejected (e : PyError) : Bool :=
  e.isinstance [.ApiError, .AuthenticationError] || refused e

/-- The failed authentication or authorization that an answer shows. -/
def auth_failure : (q : Question) → q.Answer → Option PyError
  | .send .login, some e => if login_rejected e then some e else none
  | .send (.http _ _), .error e => if refused e then some e else none
  | _, _ => none

theorem login_of_auth_failure {error e : PyError}
    (h : auth_failure (.send .login) (some error) = some e) :
    error = e ∧ login_rejected e = true := by
  change (if login_rejected error then some error else none) = some e at h
  split at h
  case isTrue hrejected =>
    cases h
    exact ⟨rfl, hrejected⟩
  case isFalse => cases h

theorem http_of_auth_failure {operation : Operation} {params : Option JsonObject}
    {error e : PyError}
    (h : auth_failure (.send (.http operation params)) (.error error) = some e) :
    error = e ∧ refused e = true := by
  change (if refused error then some error else none) = some e at h
  split at h
  case isTrue hrefused =>
    cases h
    exact ⟨rfl, hrefused⟩
  case isFalse => cases h

/-- A request that goes over TMP. -/
def Question.over_tmp : Question → Bool
  | .send .tmp_open => true
  | .send (.tmp _ _) => true
  | .send .tmp_close => true
  | _ => false

/-- Any question about TMP, be it only whether the client is connected. -/
def Question.about_tmp : Question → Bool
  | .send .tmp_connected => true
  | q => q.over_tmp

/-- The question leaves the device cache as it is. -/
def Question.KeepsDevices : Question → Prop
  | .update f => ∀ d, (f d).listed_over = d.listed_over ∧
      (f d).service.device_cache = d.service.device_cache ∧
      (f d).service.device_resolution = d.service.device_resolution
  | _ => True

variable {ρ α β : Type}

/-- What a run asked, with the state before each question and its answer. -/
abbrev Log (ρ : Type) := List (Exchange Question Question.Answer (Desk × ρ))

/-- A failed authentication or authorization is the error that the run raises. -/
def Surfaces (log : Log ρ) (raised : Option PyError) : Prop :=
  ∀ x ∈ log, ∀ e, auth_failure x.question x.answer = some e → raised = some e

theorem surfaces_composes : Composes (Surfaces (ρ := ρ)) where
  nil := fun _ hx => nomatch hx
  append := by
    intro first second raised hfirst hsecond x hx e he
    rcases List.mem_append.mp hx with hx | hx
    · cases hfirst x hx e he
    · exact hsecond x hx e he

/-! ## The HTTP programs -/

/-- A question of a read over HTTP: none of it is about TMP, and the devices stay. -/
def Question.OverHttp (q : Question) : Prop := q.about_tmp = false ∧ q.KeepsDevices

/-- A program that only speaks HTTP, leaves the devices alone, and hides no failure. -/
structure HttpAttempt (m : SurfaceM α) : Prop where
  asks : m.Asks Question.OverHttp
  surfaces : ∀ {ρ : Type} (router : Router ρ), m.Always (perform router) Surfaces

theorem HttpAttempt.pure (a : α) : HttpAttempt (pure a : SurfaceM α) where
  asks := Asks.pure a
  surfaces _ := Always.pure surfaces_composes a

theorem HttpAttempt.raised (e : PyError) : HttpAttempt (.raised e : SurfaceM α) where
  asks := Asks.raised e
  surfaces _ := Always.raised fun _ hx => nomatch hx

theorem HttpAttempt.lift (x : Except PyError α) : HttpAttempt (Dialogue.lift x) where
  asks := Asks.lift x
  surfaces _ := Always.lift surfaces_composes fun _ _ _ hx => nomatch hx

theorem HttpAttempt.bind {m : SurfaceM α} {f : α → SurfaceM β} (hm : HttpAttempt m)
    (hf : ∀ a, HttpAttempt (f a)) : HttpAttempt (m >>= f) where
  asks := hm.asks.bind fun a => (hf a).asks
  surfaces router := Always.bind surfaces_composes (hm.surfaces router) fun a =>
    (hf a).surfaces router

theorem HttpAttempt.ite {c : Prop} [Decidable c] {m n : SurfaceM α} (hm : HttpAttempt m)
    (hn : HttpAttempt n) : HttpAttempt (if c then m else n) := by
  split
  · exact hm
  · exact hn

theorem desk_attempt : HttpAttempt desk where
  asks := Asks.question ⟨rfl, trivial⟩
  surfaces _ := Always.question fun s x hx e he => by
    cases List.mem_singleton.mp hx
    cases he

theorem update_attempt {f : Desk → Desk} (hf : (Question.update f).KeepsDevices) :
    HttpAttempt (update f) where
  asks := Asks.question ⟨rfl, hf⟩
  surfaces _ := Always.question fun s x hx e he => by
    cases List.mem_singleton.mp hx
    cases he

theorem set_client_attempt (client : Option Bool) : HttpAttempt (set_client client) :=
  update_attempt fun _ => ⟨rfl, rfl, rfl⟩

theorem run_send (router : Router ρ) (request : Request) (s : Desk × ρ) :
    (send request).run (perform router) s =
      ⟨.ok (router.answer request s.2).1, (s.1, (router.answer request s.2).2),
        [⟨s, .send request, (router.answer request s.2).1⟩]⟩ := rfl

theorem run_attempt_ok {m : SurfaceM α} {router : Router ρ} {s s1 : Desk × ρ} {a : α}
    {log : Log ρ} (h : m.run (perform router) s = ⟨.ok a, s1, log⟩) :
    (attempt m).run (perform router) s = ⟨.ok (.ok a), s1, log⟩ := run_trying_ok h _

theorem run_attempt_error {m : SurfaceM α} {router : Router ρ} {s s1 : Desk × ρ} {e : PyError}
    {log : Log ρ} (h : m.run (perform router) s = ⟨.error e, s1, log⟩) :
    (attempt m).run (perform router) s = ⟨.ok (.error e), s1, log⟩ := run_trying_caught h rfl

theorem login_attempt : HttpAttempt login where
  asks := by
    unfold login
    refine (Asks.question ⟨rfl, trivial⟩).bind fun answer => ?_
    cases answer with
    | none => exact (set_client_attempt _).asks
    | some e => exact (set_client_attempt _).asks.bind fun _ => Asks.raised e
  surfaces router := by
    intro s x hx e he
    unfold login at hx ⊢
    rw [Dialogue.run_bind_ok (run_send router _ s)] at hx ⊢
    cases hanswer : (router.answer .login s.2).1 with
    | none =>
      rw [hanswer] at hx
      rcases List.mem_cons.mp hx with rfl | hx
      · cases he
      · cases List.mem_singleton.mp hx
        cases he
    | some error =>
      rw [hanswer] at hx
      rcases List.mem_cons.mp hx with rfl | hx
      · exact congrArg some (login_of_auth_failure he).1
      · cases List.mem_singleton.mp hx
        cases he

theorem request_envelope_attempt (operation : Operation) (params : Option JsonObject) :
    HttpAttempt (request_envelope operation params) where
  asks := (Asks.question ⟨rfl, trivial⟩).bind fun reply => Asks.lift reply
  surfaces router := by
    intro s x hx e he
    unfold request_envelope at hx ⊢
    rw [Dialogue.run_bind_ok (run_send router _ s), Dialogue.run_lift] at hx ⊢
    cases List.mem_singleton.mp hx
    cases hanswer : (router.answer (.http operation params) s.2).1 with
    | ok response =>
      rw [hanswer] at he
      cases he
    | error error =>
      rw [hanswer] at he
      exact congrArg some (http_of_auth_failure he).1

variable (views : Views) (config : ServerConfig)

theorem get_client_attempt : HttpAttempt (get_client config) := by
  unfold get_client
  split
  · exact .raised _
  · refine desk_attempt.bind fun d => ?_
    split
    · exact .pure _
    · exact login_attempt

theorem request_attempt (operation : Operation) (params : Option JsonObject) :
    HttpAttempt (request operation params) :=
  (request_envelope_attempt operation params).bind fun _ => .pure _

theorem get_result_attempt (operation : Operation) (params : Option JsonObject) :
    HttpAttempt (get_result operation params) :=
  (request_attempt operation params).bind fun _ => .pure _

theorem get_model_attempt (model : String) (operation : Operation)
    (params : Option JsonObject) : HttpAttempt (get_model views model operation params) :=
  (request_attempt operation params).bind fun _ => .lift _

theorem get_client_list_attempt (deco_mac : String) :
    HttpAttempt (get_client_list views deco_mac) :=
  (request_attempt _ _).bind fun _ => (HttpAttempt.lift _).bind fun _ => .pure _

theorem call_attempt (e : EndpointSpec) (params : Option JsonObject) :
    HttpAttempt (call e params) := by
  unfold call
  split
  · exact .raised _
  · refine (HttpAttempt.lift _).bind fun selected => ?_
    split
    · exact .raised _
    · exact request_envelope_attempt _ _

theorem call_result_attempt (operation : Operation) : HttpAttempt (call_result operation) := by
  unfold call_result call_operation
  refine HttpAttempt.bind ?_ fun _ => .pure _
  cases classified operation with
  | none => exact .raised _
  | some e => exact call_attempt e none

theorem call_object_attempt (name : String) (operation : Operation) :
    HttpAttempt (call_object name operation) := by
  refine (call_result_attempt operation).bind fun result => ?_
  cases result with
  | obj fields => exact .pure _
  | _ => exact .raised _

theorem read_http_device_inventory_attempt :
    HttpAttempt (read_http_device_inventory views config) :=
  (get_client_attempt config).bind fun _ =>
    ((request_attempt _ _).bind fun _ => .lift _).bind fun _ =>
      (HttpAttempt.lift _).bind fun _ => .pure _

theorem http_capability_attempt (name : String) : HttpAttempt (http_capability views name) := by
  unfold http_capability
  refine .ite (get_client_list_attempt views _) <| .ite (get_model_attempt views _ _ _) <|
    .ite (get_model_attempt views _ _ _) <| .ite (get_result_attempt _ _) <|
    .ite (get_result_attempt _ _) <| .ite (get_result_attempt _ _) <|
    .ite (get_result_attempt _ _) <| .ite (get_result_attempt _ _) <|
    .ite (call_object_attempt _ _) <| .ite (get_model_attempt views _ _ _) <|
    .ite (call_object_attempt _ _) <| .ite (call_object_attempt _ _) <|
    .ite (get_model_attempt views _ _ _) <| .ite (get_model_attempt views _ _ _) (.raised _)

theorem read_http_capability_attempt {name : String} (hname : name ≠ "mesh_nodes")
    (include_passwords : Bool) :
    HttpAttempt (read_http_capability views config name include_passwords) := by
  unfold read_http_capability
  rw [if_neg hname]
  exact (get_client_attempt config).bind fun _ => (http_capability_attempt views name).bind
    fun _ => (HttpAttempt.lift _).bind fun _ => .pure _

/-! ## The TMP programs -/

/-- The run sent something over TMP. -/
def SentOverTmp (log : Log ρ) : Prop := ∃ x ∈ log, x.question.over_tmp = true

/-- Unless something was sent over TMP, the run raises no error of a failed authentication. -/
def Quiet (log : Log ρ) (raised : Option PyError) : Prop :=
  SentOverTmp log ∨ ∀ e, raised = some e → login_rejected e = false

/-- Unless something was sent over TMP, the run raises an error, and none of a failed
authentication. -/
def Speaks (log : Log ρ) (raised : Option PyError) : Prop :=
  SentOverTmp log ∨ ∃ e, raised = some e ∧ login_rejected e = false

theorem SentOverTmp.append_left {first : Log ρ} (h : SentOverTmp first) (second : Log ρ) :
    SentOverTmp (first ++ second) :=
  h.imp fun _ hx => ⟨List.mem_append_left _ hx.1, hx.2⟩

theorem SentOverTmp.append_right {second : Log ρ} (h : SentOverTmp second) (first : Log ρ) :
    SentOverTmp (first ++ second) :=
  h.imp fun _ hx => ⟨List.mem_append_right _ hx.1, hx.2⟩

theorem Quiet.append_speaks {first second : Log ρ} {raised : Option PyError}
    (hfirst : Quiet first none) (hsecond : Speaks second raised) :
    Speaks (first ++ second) raised := by
  rcases hfirst with hsent | _
  · exact .inl (hsent.append_left second)
  rcases hsecond with hsent | hraised
  · exact .inl (hsent.append_right first)
  · exact .inr hraised

theorem quiet_composes : Composes (Quiet (ρ := ρ)) where
  nil := .inr fun _ h => nomatch h
  append := by
    intro first second raised hfirst hsecond
    rcases hfirst with hsent | _
    · exact .inl (hsent.append_left second)
    rcases hsecond with hsent | hquiet
    · exact .inl (hsent.append_right first)
    · exact .inr hquiet

theorem Speaks.quiet {log : Log ρ} {raised : Option PyError} (h : Speaks log raised) :
    Quiet log raised := by
  rcases h with hsent | ⟨e, hraised, he⟩
  · exact .inl hsent
  · refine .inr fun e' h => ?_
    cases hraised.symm.trans h
    exact he

/-- A question of a program that speaks TMP. -/
def Question.OverTmp (q : Question) : Prop :=
  (∀ a : q.Answer, auth_failure q a = none) ∧ q.KeepsDevices

/-- A program that only speaks TMP, leaves the devices alone, and ends with what it heard. -/
structure TmpAttempt (m : SurfaceM α) : Prop where
  asks : m.Asks Question.OverTmp
  speaks : ∀ {ρ : Type} (router : Router ρ), m.Always (perform router) Speaks

/-- The same, where it may end without anything sent. -/
structure TmpPreparation (m : SurfaceM α) : Prop where
  asks : m.Asks Question.OverTmp
  quiet : ∀ {ρ : Type} (router : Router ρ), m.Always (perform router) Quiet

theorem TmpPreparation.pure (a : α) : TmpPreparation (pure a : SurfaceM α) where
  asks := Asks.pure a
  quiet _ := Always.pure quiet_composes a

theorem TmpPreparation.lift {x : Except PyError α}
    (hx : ∀ e, x = .error e → login_rejected e = false) : TmpPreparation (Dialogue.lift x) where
  asks := Asks.lift x
  quiet _ := Always.lift quiet_composes fun e he => .inr fun e' h => by cases h; exact hx e he

theorem TmpPreparation.bind {m : SurfaceM α} {f : α → SurfaceM β} (hm : TmpPreparation m)
    (hf : ∀ a, TmpPreparation (f a)) : TmpPreparation (m >>= f) where
  asks := hm.asks.bind fun a => (hf a).asks
  quiet router := Always.bind quiet_composes (hm.quiet router) fun a => (hf a).quiet router

theorem TmpAttempt.preparation {m : SurfaceM α} (hm : TmpAttempt m) : TmpPreparation m where
  asks := hm.asks
  quiet router s := (hm.speaks router s).quiet

theorem TmpAttempt.raised {e : PyError} (he : login_rejected e = false) :
    TmpAttempt (.raised e : SurfaceM α) where
  asks := Asks.raised e
  speaks _ := Always.raised (.inr ⟨e, rfl, he⟩)

/-- Prepared, the rest of a program speaks. -/
theorem TmpPreparation.then {m : SurfaceM α} {f : α → SurfaceM β} (hm : TmpPreparation m)
    (hf : ∀ a, TmpAttempt (f a)) : TmpAttempt (m >>= f) where
  asks := hm.asks.bind fun a => (hf a).asks
  speaks router := (hm.quiet router).bind_of (fun a => (hf a).speaks router)
    (fun _ _ _ hfirst hrest => hfirst.append_speaks hrest)
    fun _ e h => h.imp_right fun hquiet => ⟨e, rfl, hquiet e rfl⟩

/-- Once it has spoken, what follows may end in any way. -/
theorem TmpAttempt.then {m : SurfaceM α} {f : α → SurfaceM β} (hm : TmpAttempt m)
    (hf : ∀ a, (f a).Asks Question.OverTmp) : TmpAttempt (m >>= f) where
  asks := hm.asks.bind hf
  speaks router := by
    have hany : ∀ a, (f a).Always (perform router) fun _ _ => True := fun _ _ => trivial
    refine (hm.speaks router).bind_of hany ?_ fun _ _ h => h
    intro first rest e hfirst _
    rcases hfirst with hsent | ⟨_, h, _⟩
    · exact .inl (hsent.append_left rest)
    · cases h

theorem tmp_question_attempt {request : Request}
    (h : (Question.send request).over_tmp = true) : TmpAttempt (send request) where
  asks := by
    refine Asks.question ⟨fun a => ?_, trivial⟩
    cases request with
    | tmp_open | tmp | tmp_close => rfl
    | _ => cases h
  speaks _ := Always.question fun s => .inl ⟨_, List.mem_singleton_self _, h⟩

theorem tmp_connected_preparation : TmpPreparation (send .tmp_connected) where
  asks := Asks.question ⟨fun _ => rfl, trivial⟩
  quiet _ := Always.question fun _ => .inr fun _ h => nomatch h

/-- `m` under an `except` clause, where a result of `m` stays. -/
theorem TmpAttempt.catching {m : SurfaceM α} (hm : TmpAttempt m) (catches : PyError → Bool)
    {rest : Except PyError α → SurfaceM α} (hok : ∀ a, rest (.ok a) = Pure.pure a)
    (hasks : ∀ e, (rest (.error e)).Asks Question.OverTmp)
    (hspeaks : ∀ e, login_rejected e = false → TmpAttempt (rest (.error e))) :
    TmpAttempt (m.trying catches >>= rest) where
  asks := (hm.asks.trying catches).bind fun outcome => by
    cases outcome with
    | ok a =>
      rw [hok]
      exact Asks.pure a
    | error e => exact hasks e
  speaks router := by
    intro s
    have hfirst := hm.speaks router s
    rcases hrun : m.run (perform router) s with ⟨outcome, s1, log⟩
    rw [hrun] at hfirst
    cases outcome with
    | ok a =>
      rw [run_bind_ok (run_trying_ok hrun catches), hok]
      rcases hfirst with hsent | ⟨_, h, _⟩
      · exact .inl (hsent.append_left _)
      · cases h
    | error e =>
      cases he : catches e with
      | false =>
        rw [run_bind_raised (run_trying_through hrun he)]
        exact hfirst
      | true =>
        rw [run_bind_ok (run_trying_caught hrun he)]
        rcases hfirst with hsent | ⟨_, h, hdeclared⟩
        · exact .inl (hsent.append_left _)
        · cases h
          rcases (hspeaks e hdeclared).speaks router s1 with hsent | hraised
          · exact .inl (hsent.append_right log)
          · exact .inr hraised

variable (catalog : TmpOpcodeCatalog)

theorem open_client_preparation : TmpPreparation open_client :=
  tmp_connected_preparation.bind fun connected => by
    split
    · exact .pure _
    · exact ((tmp_question_attempt rfl).then fun error => by
        cases error with
        | none => exact Asks.pure _
        | some e => exact Asks.raised e).preparation

theorem tmp_ssh_config_declared {require_host_key : Bool} {e : PyError}
    (h : tmp_ssh_config config require_host_key = .error e) : login_rejected e = false := by
  unfold tmp_ssh_config tplink_deco_api.tmp_ssh_config.TmpSshConfig.post_init at h
  split_ifs at h <;> cases h <;> rfl

theorem get_tmp_client_preparation : TmpPreparation (get_tmp_client config) :=
  tmp_connected_preparation.bind fun connected => by
    split
    · exact .pure _
    · exact (TmpPreparation.lift fun _ => tmp_ssh_config_declared config).bind fun _ =>
        open_client_preparation

theorem session_request_read_attempt (opcode : Nat) (params : Json) :
    TmpAttempt (session_request_read catalog opcode params) := by
  unfold session_request_read
  split
  · exact .raised rfl
  · split
    · exact .raised rfl
    · exact (tmp_question_attempt rfl).then fun reply => Asks.lift reply

theorem reraise_attempt {m : SurfaceM α} (hm : TmpAttempt m) {convert : PyError → PyError}
    (hconvert : ∀ e, login_rejected e = false → login_rejected (convert e) = false) :
    TmpAttempt (reraise convert m) :=
  hm.catching _ (fun _ => rfl) (fun _ => Asks.raised _) fun e he => .raised (hconvert e he)

theorem session_request_read_json_attempt (opcode : Nat) (params : Json) :
    TmpAttempt (session_request_read_json catalog opcode params) := by
  refine reraise_attempt ((session_request_read_attempt catalog opcode params).then
    fun response => Asks.lift _) fun e he => ?_
  unfold invalid_json
  split
  · rfl
  · exact he

theorem request_attempts_attempt {request : SurfaceM α} (hrequest : TmpAttempt request)
    (left : Nat) : TmpAttempt (request_attempts request left) := by
  induction left with
  | zero => exact .raised rfl
  | succ left ih =>
    have hsession : TmpAttempt (on_session request) :=
      tmp_connected_preparation.then fun connected => by
        split
        · exact hrequest
        · exact .raised rfl
    have hclose : ∀ e, TmpAttempt (do
        let error ← send .tmp_close
        raise_some error
        if left = 0 then (.raised e : SurfaceM α)
        else do
          open_client
          request_attempts request left) := fun e =>
      (tmp_question_attempt rfl).then fun error => by
        refine Asks.bind ?_ fun _ => ?_
        · cases error with
          | none => exact Asks.pure _
          | some e => exact Asks.raised e
        · split
          · exact Asks.raised e
          · exact open_client_preparation.asks.bind fun _ => ih.asks
    refine hsession.catching _ (fun _ => rfl) (fun e => ?_) fun e he => ?_
    · dsimp only
      split
      · exact Asks.raised e
      · exact (hclose e).asks
    · dsimp only
      split
      · exact .raised he
      · exact hclose e

theorem validate_tmp_read_params_declared {sets : List (List String)} {params : Json}
    {e : PyError} (h : validate_tmp_read_params sets params = .error e) :
    login_rejected e = false := by
  unfold validate_tmp_read_params at h
  split at h
  · cases h
  split at h
  · cases h
    rfl
  split at h
  · cases h
    rfl
  split at h
  · cases h
  · cases h
    rfl

theorem check_tmp_read_declared {opcode : Nat} {params : Json} {e : PyError}
    (h : check_tmp_read config catalog opcode params = .error e) : login_rejected e = false := by
  unfold check_tmp_read at h
  split at h
  · cases h
    rfl
  split at h
  · cases h
    rfl
  · split_ifs at h
    all_goals first
      | exact validate_tmp_read_params_declared h
      | (cases h; rfl)

theorem tmp_read_attempt (opcode : Nat) (params : Json) :
    TmpAttempt (tmp_read config catalog opcode params) :=
  (TmpPreparation.lift fun _ => check_tmp_read_declared config catalog).then fun _ =>
    (get_tmp_client_preparation config).then fun _ =>
      request_attempts_attempt (session_request_read_json_attempt catalog opcode params) 2

theorem read_tmp_device_inventory_attempt :
    TmpAttempt (read_tmp_device_inventory views config catalog) := by
  refine (tmp_read_attempt config catalog _ _).then fun payload => ?_
  split
  · exact Asks.raised _
  · exact (Asks.lift _).bind fun _ => (Asks.lift _).bind fun _ => Asks.pure _

theorem read_tmp_capability_attempt (name : String) (include_passwords : Bool)
    (params : Json) :
    TmpAttempt (read_tmp_capability views config catalog name include_passwords params) := by
  unfold read_tmp_capability
  split
  · exact .raised rfl
  · exact (tmp_read_attempt config catalog _ _).then fun _ =>
      (Asks.lift _).bind fun _ => Asks.pure _

end tplink_deco_api.surface
