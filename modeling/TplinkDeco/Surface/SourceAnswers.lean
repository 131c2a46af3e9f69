-- Over which interface the router gives a datum that both interfaces have: the
-- list of the devices, and the internet status.
import TplinkDeco.Surface.ClientQuestions
import TplinkDeco.Surface.Fallback
import TplinkDeco.Surface.Resources

open dialogue json

namespace tplink_deco_api.surface

open endpoint_catalog exceptions http_noop_verification service tmp_batches tmp_client Dialogue

/-! ## What an answer shows -/

/-- A datum that both interfaces give: the operation that asks for it over HTTP, the opcode that
does over TMP, and what the service reads in the answer to each. -/
structure Datum (α : Type) where
  operation : Operation
  opcode : Nat
  read_http : ApiResponse → Except PyError α
  read_tmp : JsonObject → Except PyError α

/-- The interface, where the service can read the answer. -/
def shown_over {α : Type} (interface : CapabilityInterface) :
    Except PyError α → Option CapabilityInterface
  | .ok _ => some interface
  | .error _ => none

/-- The interface over which this answer gives the datum. -/
def Datum.shown {α : Type} (datum : Datum α) :
    (q : Question) → q.Answer → Option CapabilityInterface
  | .send (.http operation _), reply =>
    if operation = datum.operation then shown_over .http_luci (reply.bind datum.read_http) else none
  | .send (.tmp opcode _), reply =>
    if opcode = datum.opcode then
      shown_over .tmp_appv2 (reply.bind fun response => response.loaded.bind datum.read_tmp)
    else none
  | _, _ => none

variable (views : Views) (config : ServerConfig) (catalog : TmpOpcodeCatalog)

/-- What `_validate_device_inventory` lets through of the rows of an answer. -/
def listed_devices (result : JsonObject) : Except PyError (List Device) := do
  let devices ← (list_of_objects result "device_list").mapM views.device
  validate_device_inventory devices
  .ok devices

/-- The devices of `_resolve_device_inventory`. -/
def device_datum : Datum (List Device) where
  operation := DEVICE_LIST
  opcode := 0x400F
  read_http response := listed_devices views response.result_object
  read_tmp payload :=
    match (get payload "result").asObj with
    | none => .error (value_error
        "Failed to resolve controller identity: TMP result is not an object")
    | some result => listed_devices views result

/-- The read of the internet status. -/
def INTERNET : Operation := ⟨"admin/network", "internet", "read"⟩

/-- The internet status of `read_capability`. -/
def internet_datum : Datum Reading where
  operation := INTERNET
  opcode := 0x400C
  read_http response := do
    let value ← views.model "InternetStatus" response.result_object
    let value ← views.http_view "internet_status" false value
    .ok { data := .view value, read_over := .http_luci }
  read_tmp payload := do
    let data ← tmp_capability_view views "internet_status" false payload
    .ok { data, read_over := .tmp_appv2 }

/-! ## Programs that ask for something else -/

variable {views config catalog} {α β : Type} {datum : Datum β}

/-- Whatever the answer, it does not show the datum. -/
def Datum.Hidden (datum : Datum β) (q : Question) : Prop := ∀ a : q.Answer, datum.shown q a = none

/-- A program that does not ask for the datum. -/
abbrev Datum.Unasked (datum : Datum β) (m : SurfaceM α) : Prop := m.Asks datum.Hidden

instance : Connects datum.Hidden where
  desk _ := rfl
  update _ _ := rfl
  login _ := rfl
  tmp_connected _ := rfl
  tmp_open _ := rfl
  tmp_close _ := rfl

theorem hidden_http {o : Operation} {params : Option JsonObject} (h : o ≠ datum.operation) :
    datum.Hidden (.send (.http o params)) := fun _ => if_neg h

theorem hidden_tmp {opcode : Nat} {params : Json} (h : opcode ≠ datum.opcode) :
    datum.Hidden (.send (.tmp opcode params)) := fun _ => if_neg h

/-! ## Programs that ask for it -/

/-- The program gives an answer, and what was shown is what `read` makes of it. -/
abbrev Datum.Answers (datum : Datum β) (interface : CapabilityInterface)
    (read : α → Except PyError β) (m : SurfaceM α) : Prop :=
  m.Tells datum.shown (fun a => shown_over interface (read a)) none

variable {interface : CapabilityInterface}

/-- What the service reads in the end is what was shown. -/
theorem Datum.Answers.read {read : α → Except PyError β} {m : SurfaceM α}
    (hm : datum.Answers interface read m) :
    (m >>= fun a => Dialogue.lift (read a)).Tells datum.shown (fun _ => some interface) none := by
  refine Tells.bind hm fun a => ?_
  cases read a with
  | ok b => exact Tells.pure rfl
  | error e => exact Tells.raised e

theorem after_unasked {m : SurfaceM α} {γ : Type} {f : α → SurfaceM γ}
    {told : γ → Option CapabilityInterface} (hm : datum.Unasked m)
    (hf : ∀ a, (f a).Tells datum.shown told none) : (m >>= f).Tells datum.shown told none :=
  Tells.bind hm.tells hf

theorem request_envelope_answers (params : Option JsonObject) :
    datum.Answers .http_luci datum.read_http (request_envelope datum.operation params) := by
  intro reply
  have hshown : datum.shown (.send (.http datum.operation params)) reply =
      shown_over .http_luci (reply.bind datum.read_http) := if_pos rfl
  rw [hshown]
  cases reply with
  | ok response => rfl
  | error e => rfl

theorem session_request_read_answers (params : Json) :
    datum.Answers .tmp_appv2 (fun response => response.loaded.bind datum.read_tmp)
      (session_request_read catalog datum.opcode params) := by
  unfold session_request_read
  cases get_tmp_opcode catalog datum.opcode with
  | none => exact Tells.raised _
  | some operation =>
    dsimp only
    split
    · exact Tells.raised _
    intro reply
    have hshown : datum.shown (.send (.tmp datum.opcode params)) reply =
        shown_over .tmp_appv2 (reply.bind fun response => response.loaded.bind datum.read_tmp) :=
      if_pos rfl
    rw [hshown]
    cases reply with
    | ok response => rfl
    | error e => rfl

theorem session_request_read_json_answers (params : Json) :
    datum.Answers .tmp_appv2 datum.read_tmp
      (session_request_read_json catalog datum.opcode params) := by
  have hread : datum.Answers .tmp_appv2 datum.read_tmp (do
      let response ← session_request_read catalog datum.opcode params
      Dialogue.lift response.loaded : SurfaceM JsonObject) := by
    refine Tells.bind (session_request_read_answers params) fun response => ?_
    show Tells _ _ (Dialogue.lift response.loaded) (shown_over _ (response.loaded.bind _))
    cases response.loaded with
    | ok payload => exact Tells.pure rfl
    | error e => exact Tells.raised e
  refine Tells.bind (hread.trying _) fun outcome => ?_
  cases outcome with
  | ok payload => exact Tells.pure rfl
  | error e => exact Tells.raised _

/-- By induction on the attempts that are left: one that fails has shown nothing. -/
theorem request_attempts_answers {read : α → Except PyError β} {request : SurfaceM α}
    (hrequest : datum.Answers interface read request) (left : Nat) :
    datum.Answers interface read (request_attempts request left) := by
  induction left with
  | zero => exact Tells.raised _
  | succ left ih =>
    have hsession : datum.Answers interface read (on_session request) := by
      refine after_unasked (Asks.question fun _ => rfl) fun connected => ?_
      split
      · exact hrequest
      · exact Tells.raised _
    refine Tells.bind (hsession.trying _) fun outcome => ?_
    cases outcome with
    | ok a => exact Tells.pure rfl
    | error e =>
      show Tells _ _ (if _ then _ else _) none
      split
      · exact Tells.raised e
      · refine after_unasked (Asks.question fun _ => rfl) fun error => ?_
        refine after_unasked (raise_some_asks error) fun _ => ?_
        split
        · exact Tells.raised e
        · exact after_unasked open_client_asks fun _ => ih

theorem tmp_read_answers (params : Json) :
    datum.Answers .tmp_appv2 datum.read_tmp (tmp_read config catalog datum.opcode params) :=
  after_unasked (Asks.lift _) fun _ => after_unasked (get_tmp_client_asks config) fun _ =>
    request_attempts_answers (session_request_read_json_answers params) 2

/-! ## The list of the devices -/

/-- The rows of an answer, parsed and validated. -/
theorem lift_listed_devices (result : JsonObject) :
    (Dialogue.lift (listed_devices views result) : SurfaceM (List Device)) = (do
      let devices ← Dialogue.lift ((list_of_objects result "device_list").mapM views.device)
      Dialogue.lift (validate_device_inventory devices)
      pure devices) := by
  unfold listed_devices
  rw [lift_bind]
  exact congrArg _ (funext fun devices => lift_bind _ _)

theorem read_http_devices_shown :
    (read_http_device_inventory views config).Tells (device_datum views).shown
      (fun _ => some .http_luci) none := by
  have hread : read_http_device_inventory views config = (do
      get_client config
      let response ← request_envelope DEVICE_LIST
      Dialogue.lift ((device_datum views).read_http response)) := by
    unfold read_http_device_inventory get_device_list request device_datum
    simp only [Dialogue.bind_assoc, lift_listed_devices]
    rfl
  rw [hread]
  exact after_unasked (get_client_asks config) fun _ => (request_envelope_answers none).read

theorem read_tmp_devices_shown :
    (read_tmp_device_inventory views config catalog).Tells (device_datum views).shown
      (fun _ => some .tmp_appv2) none := by
  have hread : read_tmp_device_inventory views config catalog = (do
      let payload ← tmp_read config catalog 0x400F
      Dialogue.lift ((device_datum views).read_tmp payload)) := by
    unfold read_tmp_device_inventory device_datum
    refine congrArg _ (funext fun payload => ?_)
    dsimp only
    cases (get payload "result").asObj with
    | none => rfl
    | some result => exact (lift_listed_devices result).symm
  rw [hread]
  exact Datum.Answers.read (tmp_read_answers .null)

/-- A resolution names the interface over which the router gave the devices. -/
theorem resolve_device_inventory_shown :
    (resolve_device_inventory views config catalog).Tells (device_datum views).shown
      (fun resolution => interface_named resolution.source_interface) none := by
  refine Tells.bind (read_http_devices_shown.trying _) fun outcome => ?_
  cases outcome with
  | ok devices => exact Tells.pure rfl
  | error primary_error =>
    show Tells _ _ (if _ then _ else _) none
    split
    · exact Tells.raised _
    · exact Tells.bind read_tmp_devices_shown fun devices => Tells.pure rfl

/-! ## The internet status -/

theorem http_capability_internet :
    http_capability views "internet_status" = get_internet_status views := by
  unfold http_capability
  rw [if_neg (by decide), if_pos rfl]

theorem read_http_internet_shown :
    (read_http_capability views config "internet_status").Tells (internet_datum views).shown
      (fun _ => some .http_luci) none := by
  have hread : read_http_capability views config "internet_status" = (do
      get_client config
      let response ← request_envelope INTERNET
      Dialogue.lift ((internet_datum views).read_http response)) := by
    unfold read_http_capability
    rw [if_neg (by decide), http_capability_internet]
    unfold get_internet_status get_model request internet_datum
    simp only [Dialogue.bind_assoc, lift_bind]
    rfl
  rw [hread]
  exact after_unasked (get_client_asks config) fun _ => (request_envelope_answers none).read

theorem read_tmp_internet_shown :
    (read_tmp_capability views config catalog "internet_status").Tells (internet_datum views).shown
      (fun _ => some .tmp_appv2) none := by
  have hread : read_tmp_capability views config catalog "internet_status" = (do
      let payload ← tmp_read config catalog 0x400C
      Dialogue.lift ((internet_datum views).read_tmp payload)) := by
    unfold read_tmp_capability internet_datum
    simp only [lift_bind]
    rfl
  rw [hread]
  exact Datum.Answers.read (tmp_read_answers .null)

/-! ## The sections -/

section

variable (views) in
/-- The question asks for neither datum. -/
def Elsewhere (q : Question) : Prop := (device_datum views).Hidden q ∧ (internet_datum views).Hidden q

instance : Connects (Elsewhere views) where
  desk := ⟨Connects.desk, Connects.desk⟩
  update f := ⟨Connects.update f, Connects.update f⟩
  login := ⟨Connects.login, Connects.login⟩
  tmp_connected := ⟨Connects.tmp_connected, Connects.tmp_connected⟩
  tmp_open := ⟨Connects.tmp_open, Connects.tmp_open⟩
  tmp_close := ⟨Connects.tmp_close, Connects.tmp_close⟩

theorem elsewhere_http {o : Operation} (h : o ∉ [DEVICE_LIST, INTERNET])
    (params : Option JsonObject) : Elsewhere views (.send (.http o params)) := by
  simp only [List.mem_cons, List.not_mem_nil, or_false, not_or] at h
  exact ⟨hidden_http h.1, hidden_http h.2⟩

theorem elsewhere_model {model : String} {o : Operation} {params : Option JsonObject}
    (h : o ∉ [DEVICE_LIST, INTERNET]) : (get_model views model o params).Asks (Elsewhere views) :=
  get_model_asks (elsewhere_http h params)

theorem elsewhere_result {o : Operation} {params : Option JsonObject}
    (h : o ∉ [DEVICE_LIST, INTERNET]) : (get_result o params).Asks (Elsewhere views) :=
  get_result_asks (elsewhere_http h params)

theorem elsewhere_call {o : Operation} (h : o ∉ [DEVICE_LIST, INTERNET]) :
    (call_result o).Asks (Elsewhere views) :=
  call_result_asks (elsewhere_http h)

theorem elsewhere_object {name : String} {o : Operation} (h : o ∉ [DEVICE_LIST, INTERNET]) :
    (call_object name o).Asks (Elsewhere views) :=
  call_object_asks (elsewhere_http h)

/-- The capabilities that ask for one of the two. -/
def datum_names : List String := ["mesh_nodes", "internet_status"]

theorem http_capability_elsewhere {name : String} (h : name ∉ datum_names) :
    (http_capability views name).Asks (Elsewhere views) := by
  have hname : name ≠ "internet_status" := fun hsame => h (hsame ▸ by decide)
  unfold http_capability
  refine .ite (fun _ => ?_) fun _ => ?_
  · exact (request_asks (elsewhere_http (by decide) _)).bind fun _ =>
      (Asks.lift _).bind fun _ => Asks.pure _
  refine .ite (fun hsame => absurd hsame hname) fun _ => ?_
  refine .ite (fun _ => elsewhere_model (by decide)) fun _ => ?_
  refine .ite (fun _ => elsewhere_result (by decide)) fun _ => ?_
  refine .ite (fun _ => elsewhere_result (by decide)) fun _ => ?_
  refine .ite (fun _ => elsewhere_result (by decide)) fun _ => ?_
  refine .ite (fun _ => elsewhere_result (by decide)) fun _ => ?_
  refine .ite (fun _ => elsewhere_result (by decide)) fun _ => ?_
  refine .ite (fun _ => elsewhere_object (by decide)) fun _ => ?_
  refine .ite (fun _ => elsewhere_model (by decide)) fun _ => ?_
  refine .ite (fun _ => elsewhere_object (by decide)) fun _ => ?_
  refine .ite (fun _ => elsewhere_object (by decide)) fun _ => ?_
  refine .ite (fun _ => elsewhere_model (by decide)) fun _ => ?_
  exact .ite (fun _ => elsewhere_model (by decide)) fun _ => Asks.raised _

theorem TMP_CAPABILITY_OPCODES_elsewhere : ∀ row ∈ TMP_CAPABILITY_OPCODES,
    row.2 = 0x400F ∨ row.2 = 0x400C → row.1 ∈ datum_names := by
  decide +kernel

theorem read_tmp_capability_elsewhere {name : String} (h : name ∉ datum_names)
    (include_passwords : Bool) (params : Json) :
    (read_tmp_capability views config catalog name include_passwords params).Asks
      (Elsewhere views) := by
  unfold read_tmp_capability
  cases hcode : TMP_CAPABILITY_OPCODES.lookup name with
  | none => exact Asks.raised _
  | some code =>
    obtain ⟨before, after, htable, -⟩ := List.lookup_eq_some_iff.mp hcode
    have hother : ¬ (code = 0x400F ∨ code = 0x400C) := fun hdatum =>
      h (TMP_CAPABILITY_OPCODES_elsewhere (name, code) (by simp [htable]) hdatum)
    refine Asks.bind ?_ fun _ => (Asks.lift _).bind fun _ => Asks.pure _
    exact tmp_read_asks config fun _ _ _ =>
      ⟨hidden_tmp (not_or.mp hother).1, hidden_tmp (not_or.mp hother).2⟩

/-- The fallback is decided from the cache. -/
theorem fallback_available_elsewhere (sensitivity : SensitivityLevel) :
    (interpreted views config catalog (service.tmp_fallback_available config sensitivity)).Asks
      (Elsewhere views) := by
  refine (fallback_available_asks config (Q := (· = .device_cache)) rfl _).interpret fun step h => ?_
  cases h
  exact desk_asks.bind fun _ => Asks.pure _

theorem read_resource_capability_elsewhere {name : String} (h : name ∉ datum_names)
    (context : ResourceReadContext) :
    (read_resource_capability views config catalog name context).Asks (Elsewhere views) := by
  have hname : name ≠ "mesh_nodes" := fun hsame => h (hsame ▸ by decide)
  unfold read_resource_capability
  cases get_capability_route name with
  | none => exact Asks.raised _
  | some route =>
    refine .ite (fun _ => Asks.raised _) fun _ => .ite (fun _ => ?_) fun _ => ?_
    · unfold read_http_capability
      rw [if_neg hname]
      exact (get_client_asks config).bind fun _ => (http_capability_elsewhere h).bind fun _ =>
        (Asks.lift _).bind fun _ => Asks.pure _
    · refine (fallback_available_elsewhere _).bind fun available => ?_
      exact .ite (fun _ => Asks.raised _) fun _ => read_tmp_capability_elsewhere h _ _

theorem try_sections_elsewhere {name : String} {read : SurfaceM (List ResourceSection)}
    (hread : read.Asks (Elsewhere views)) : (try_sections name read).Asks (Elsewhere views) := by
  refine (hread.trying _).bind fun outcome => ?_
  cases outcome with
  | ok available => exact Asks.pure _
  | error e => exact Asks.pure _

theorem capability_section_elsewhere {name capability : String} (h : capability ∉ datum_names)
    (context : ResourceReadContext) :
    (try_sections name (capability_section views config catalog name capability context)).Asks
      (Elsewhere views) :=
  try_sections_elsewhere ((read_resource_capability_elsewhere h context).bind fun _ => Asks.pure _)

theorem http_section_elsewhere {name : String} {read : SurfaceM Json}
    (hread : read.Asks (Elsewhere views)) :
    (try_sections name (http_section name read)).Asks (Elsewhere views) :=
  try_sections_elsewhere (hread.bind fun _ => Asks.pure _)

/-- What the network status reads after the internet status. -/
theorem status_sections_elsewhere (context : ResourceReadContext) :
    (performance_section views config context).Asks (Elsewhere views) ∧
      (status_capabilities views config catalog context).Asks (Elsewhere views) := by
  refine ⟨.ite (fun _ => ?_) fun _ => Asks.pure _, ?_⟩
  · exact (get_client_asks config).bind fun _ =>
      http_section_elsewhere (elsewhere_model (by decide))
  refine (capability_section_elsewhere (by decide) context).bind fun _ => ?_
  refine (capability_section_elsewhere (by decide) context).bind fun _ => ?_
  refine Asks.bind (.ite (fun _ => Asks.pure _) fun _ => ?_) fun _ => Asks.pure _
  refine Asks.bind (try_sections_elsewhere ?_) fun _ => Asks.pure _
  exact (read_resource_capability_elsewhere (by decide) context).bind fun _ => Asks.pure _

theorem network_features_elsewhere : network_features.Asks (Elsewhere views) := by
  refine (elsewhere_call (by decide)).bind fun _ => ?_
  refine (elsewhere_result (by decide)).bind fun _ => ?_
  refine (elsewhere_result (by decide)).bind fun _ => ?_
  refine (elsewhere_call (by decide)).bind fun _ => ?_
  exact (elsewhere_call (by decide)).bind fun _ => Asks.pure _

theorem http_configuration_elsewhere :
    (http_configuration views config).Asks (Elsewhere views) := by
  have hwan_lan : (http_wan_lan views).Asks (Elsewhere views) :=
    (elsewhere_model (by decide)).bind fun _ => (Asks.lift _).bind fun _ => Asks.pure _
  have hnickname : (read_nickname config).Asks (Elsewhere views) := by
    refine .ite (fun _ => Asks.pure _) fun _ => ?_
    exact (http_section_elsewhere (elsewhere_call (by decide))).bind fun _ => Asks.pure _
  refine Asks.bind ((get_client_asks config).bind fun _ => ?_) fun _ => ?_
  · exact http_section_elsewhere (elsewhere_model (by decide))
  refine (try_sections_elsewhere hwan_lan).bind fun _ => Asks.bind ?_ fun _ => Asks.pure _
  refine (http_section_elsewhere (elsewhere_result (by decide))).bind fun _ => ?_
  refine (http_section_elsewhere network_features_elsewhere).bind fun _ => ?_
  refine (http_section_elsewhere (elsewhere_model (by decide))).bind fun _ => ?_
  exact hnickname.bind fun _ => Asks.pure _

theorem tmp_configuration_elsewhere (context : ResourceReadContext) :
    (tmp_configuration views config catalog context).Asks (Elsewhere views) := by
  have hwan_lan : (tmp_wan_lan views config catalog context).Asks (Elsewhere views) := by
    refine (read_resource_capability_elsewhere (by decide) context).bind fun reading => ?_
    split
    · exact Asks.pure _
    · exact Asks.raised _
  exact (try_sections_elsewhere hwan_lan).bind fun _ =>
    .ite (fun _ => Asks.pure _) fun _ => Asks.pure _

/-- What the configuration reads after the internet status. -/
theorem configuration_sections_elsewhere (context : ResourceReadContext) :
    (configuration_sections views config catalog context).Asks (Elsewhere views) ∧
      (wireless_features views config catalog context).Asks (Elsewhere views) := by
  have hcapabilities : ∀ feature ∈ WIRELESS_FEATURE_CAPABILITIES, feature.2 ∉ datum_names := by
    decide
  refine ⟨.ite (fun _ => http_configuration_elsewhere) fun _ => tmp_configuration_elsewhere _, ?_⟩
  exact Asks.each fun feature hfeature => try_sections_elsewhere
    ((read_resource_capability_elsewhere (hcapabilities feature hfeature) context).bind
      fun _ => Asks.pure _)

end

end tplink_deco_api.surface
