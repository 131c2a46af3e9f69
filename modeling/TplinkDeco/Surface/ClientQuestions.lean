-- What the session, the HTTP client and the TMP client ask: beside the calls that
-- they are made for, only about their own connections.
import TplinkDeco.Surface.Capabilities

open dialogue json

namespace tplink_deco_api.surface

open endpoint_catalog exceptions service tmp_batches tmp_client Dialogue

/-- `P` holds of the questions about the service itself and about its two connections. -/
class Connects (P : Question → Prop) : Prop where
  desk : P .desk
  update : ∀ f, P (.update f)
  login : P (.send .login)
  tmp_connected : P (.send .tmp_connected)
  tmp_open : P (.send .tmp_open)
  tmp_close : P (.send .tmp_close)

variable {P : Question → Prop} {α : Type}

theorem send_asks (request : Request) (h : P (.send request)) : (send request).Asks P :=
  Asks.question h

theorem raise_some_asks (error : Option PyError) : (raise_some error).Asks P := by
  cases error with
  | none => exact Asks.pure ()
  | some e => exact Asks.raised e

theorem reraise_asks {convert : PyError → PyError} {m : SurfaceM α} (hm : m.Asks P) :
    (reraise convert m).Asks P := by
  refine (hm.trying _).bind fun outcome => ?_
  cases outcome with
  | ok a => exact Asks.pure a
  | error e => exact Asks.raised _

/-! ## The HTTP client -/

variable {o : Operation} {params : Option JsonObject}

theorem request_envelope_asks (ho : P (.send (.http o params))) :
    (request_envelope o params).Asks P :=
  (send_asks (.http o params) ho).bind fun reply => Asks.lift reply

theorem request_asks (ho : P (.send (.http o params))) : (request o params).Asks P :=
  (request_envelope_asks ho).bind fun _ => Asks.pure _

theorem get_result_asks (ho : P (.send (.http o params))) : (get_result o params).Asks P :=
  (request_asks ho).bind fun _ => Asks.pure _

theorem get_model_asks {views : Views} {model : String} (ho : P (.send (.http o params))) :
    (get_model views model o params).Asks P :=
  (request_asks ho).bind fun _ => Asks.lift _

theorem call_asks {e : EndpointSpec} (he : ∀ params, P (.send (.http e.toOperation params))) :
    (call e params).Asks P := by
  unfold call
  refine Asks.ite (fun _ => Asks.raised _) fun _ => (Asks.lift _).bind fun selected => ?_
  exact Asks.ite (fun _ => Asks.raised _) fun _ => request_envelope_asks (he selected)

theorem call_bootstrap_asks {e : EndpointSpec}
    (he : ∀ params, P (.send (.bootstrap e.toOperation params))) :
    (call_bootstrap e params).Asks P := by
  unfold call_bootstrap
  refine Asks.ite (fun _ => Asks.raised _) fun _ => (Asks.lift _).bind fun selected => ?_
  exact (send_asks (.bootstrap e.toOperation selected) (he selected)).bind
    fun reply => Asks.lift reply

theorem call_binary_asks {e : EndpointSpec} (he : P (.send (.binary e.toOperation))) :
    (call_binary e).Asks P := by
  unfold call_binary
  refine Asks.ite (fun _ => Asks.raised _) fun _ => (Asks.lift _).bind fun _ => ?_
  exact (send_asks (.binary e.toOperation) he).bind fun reply => Asks.lift reply

theorem call_result_asks (ho : ∀ params, P (.send (.http o params))) :
    (call_result o).Asks P := by
  unfold call_result call_operation
  refine Asks.bind ?_ fun _ => Asks.pure _
  cases hclass : classified o with
  | none => exact Asks.raised _
  | some e =>
    have hsame : e.toOperation = o := by simpa using List.find?_some hclass
    exact call_asks (hsame ▸ ho)

theorem call_object_asks {name : String} (ho : ∀ params, P (.send (.http o params))) :
    (call_object name o).Asks P := by
  refine (call_result_asks ho).bind fun result => ?_
  cases result with
  | obj fields => exact Asks.pure _
  | _ => exact Asks.raised _

/-! ## The connections -/

variable [hP : Connects P]

theorem desk_asks : desk.Asks P := Asks.question hP.desk

theorem update_asks (f : Desk → Desk) : (update f).Asks P := Asks.question (hP.update f)

theorem login_asks : login.Asks P := by
  refine (Asks.question hP.login).bind fun error => ?_
  cases error with
  | none => exact update_asks _
  | some e => exact (update_asks _).bind fun _ => Asks.raised e

variable (config : ServerConfig)

theorem get_client_asks : (get_client config).Asks P := by
  unfold get_client
  refine Asks.ite (fun _ => Asks.raised _) fun _ => desk_asks.bind fun d => ?_
  exact Asks.ite (fun _ => Asks.pure _) fun _ => login_asks

theorem with_relogin_asks (classes : List ExcClass) {m : SurfaceM α} (hm : m.Asks P) :
    (with_relogin config classes m).Asks P := by
  refine (get_client_asks config).bind fun _ => (hm.trying _).bind fun outcome => ?_
  cases outcome with
  | ok a => exact Asks.pure a
  | error e => exact (update_asks _).bind fun _ => (get_client_asks config).bind fun _ => hm

theorem open_client_asks : open_client.Asks P := by
  refine (Asks.question hP.tmp_connected).bind fun connected => ?_
  exact Asks.ite (fun _ => Asks.pure _) fun _ =>
    (Asks.question hP.tmp_open).bind fun error => raise_some_asks error

theorem get_tmp_client_asks : (get_tmp_client config).Asks P := by
  refine (Asks.question hP.tmp_connected).bind fun connected => ?_
  exact Asks.ite (fun _ => Asks.pure _) fun _ => (Asks.lift _).bind fun _ => open_client_asks

theorem on_session_asks {request : SurfaceM α} (hrequest : request.Asks P) :
    (on_session request).Asks P :=
  (Asks.question hP.tmp_connected).bind fun _ =>
    Asks.ite (fun _ => hrequest) fun _ => Asks.raised _

/-- By induction on the attempts that are left: each of them makes the same request. -/
theorem request_attempts_asks {request : SurfaceM α} (hrequest : request.Asks P) (left : Nat) :
    (request_attempts request left).Asks P := by
  induction left with
  | zero => exact Asks.raised _
  | succ left ih =>
    refine ((on_session_asks hrequest).trying _).bind fun outcome => ?_
    cases outcome with
    | ok a => exact Asks.pure a
    | error e =>
      refine Asks.ite (fun _ => Asks.raised _) fun _ => ?_
      refine (Asks.question hP.tmp_close).bind fun error => (raise_some_asks error).bind fun _ => ?_
      exact Asks.ite (fun _ => Asks.raised _) fun _ => open_client_asks.bind fun _ => ih

/-! ## The reads over TMP -/

section

variable {catalog : TmpOpcodeCatalog} {opcode : Nat} {tmp_params : Json}
  (htmp : ∀ o, get_tmp_opcode catalog opcode = some o → o.safety = "read_only" →
    P (.send (.tmp opcode tmp_params)))

include htmp

omit hP in
theorem session_request_read_asks :
    (session_request_read catalog opcode tmp_params).Asks P := by
  unfold session_request_read
  cases hopcode : get_tmp_opcode catalog opcode with
  | none => exact Asks.raised _
  | some operation =>
    refine Asks.ite (fun _ => Asks.raised _) fun hsafety => ?_
    exact (send_asks (.tmp opcode tmp_params) (htmp operation hopcode (not_not.mp hsafety))).bind
      fun reply => Asks.lift reply

theorem request_read_asks : (request_read catalog opcode tmp_params).Asks P :=
  request_attempts_asks (session_request_read_asks htmp) 2

theorem request_read_json_asks : (request_read_json catalog opcode tmp_params).Asks P :=
  request_attempts_asks (reraise_asks
    ((session_request_read_asks htmp).bind fun _ => Asks.lift _)) 2

theorem tmp_read_asks : (tmp_read config catalog opcode tmp_params).Asks P :=
  (Asks.lift _).bind fun _ => (get_tmp_client_asks config).bind fun _ =>
    request_read_json_asks htmp

end

/-! ## The device inventory -/

section

variable {catalog : TmpOpcodeCatalog} (views : Views)
  (hhttp : P (.send (.http DEVICE_LIST none)))

include hhttp

omit hP in
theorem get_device_list_asks : (get_device_list views).Asks P :=
  (request_asks hhttp).bind fun _ => Asks.lift _

theorem read_http_device_inventory_asks : (read_http_device_inventory views config).Asks P :=
  (get_client_asks config).bind fun _ => (get_device_list_asks views hhttp).bind fun _ =>
    (Asks.lift _).bind fun _ => Asks.pure _

variable (htmp : ∀ o, get_tmp_opcode catalog 0x400F = some o → o.safety = "read_only" →
  P (.send (.tmp 0x400F .null)))

include htmp

theorem resolve_device_inventory_asks :
    (resolve_device_inventory views config catalog).Asks P := by
  refine ((read_http_device_inventory_asks config views hhttp).trying _).bind fun outcome => ?_
  cases outcome with
  | ok devices => exact Asks.pure _
  | error e =>
    refine Asks.ite (fun _ => Asks.raised _) fun _ => Asks.bind ?_ fun _ => Asks.pure _
    refine (tmp_read_asks config htmp).bind fun payload => ?_
    split
    · exact Asks.raised _
    · exact (Asks.lift _).bind fun _ => (Asks.lift _).bind fun _ => Asks.pure _

theorem device_inventory_asks (refresh : Bool) :
    (device_inventory views config catalog refresh).Asks P := by
  refine Asks.bind (desk_asks.bind fun d => ?_) fun contacted => desk_asks.bind fun d => Asks.lift _
  exact Asks.ite (fun _ => (resolve_device_inventory_asks config views hhttp htmp).bind fun _ =>
    (update_asks _).bind fun _ => Asks.pure _) fun _ => Asks.pure _

end

/-! ## The steps of `read_capability` -/

section

variable {Q : ReadStep → Prop} (hcache : Q .device_cache)

include hcache

/-- The fallback is decided from the cache. -/
theorem fallback_available_asks (sensitivity : SensitivityLevel) :
    (service.tmp_fallback_available config sensitivity).Asks Q := by
  unfold service.tmp_fallback_available
  refine Asks.ite (fun _ => Asks.pure _) fun _ => (Asks.question hcache).bind fun devices => ?_
  cases devices with
  | none => exact Asks.pure _
  | some devices => exact (Asks.lift _).bind fun _ => Asks.pure _

/-- After the inventory, a route turns to the cache and to its own two readers. -/
theorem read_route_asks {route : CapabilityRoute} {include_passwords : Bool}
    (hhttp : Q (.read_http_capability route.name include_passwords))
    (htmp : Q (.read_tmp_capability route.name include_passwords)) (inventory : Inventory) :
    (read_route config route inventory include_passwords).Asks Q := by
  have hread : (read_tmp route.name include_passwords).Asks Q :=
    (Asks.question htmp).bind fun answer => Asks.lift answer
  have hfallback : ∀ e, (read_fallback config route include_passwords e).Asks Q := fun e =>
    Asks.ite (fun _ => Asks.raised _) fun _ =>
      (fallback_available_asks config hcache _).bind fun _ =>
        Asks.ite (fun _ => Asks.raised _) fun _ => hread.bind fun _ => Asks.pure _
  have hhttp_first : (read_http_first config route include_passwords).Asks Q := by
    refine Asks.bind (Asks.question hhttp) fun outcome => ?_
    cases outcome with
    | ok reading => exact Asks.pure _
    | error e => exact Asks.ite (fun _ => hfallback e) fun _ => Asks.raised _
  unfold read_route
  refine Asks.ite (fun _ => ?_) fun _ => (Asks.lift _).bind fun context => ?_
  · exact Asks.ite (fun _ => Asks.raised _) fun _ => hread.bind fun _ => Asks.pure _
  · refine Asks.bind (Asks.ite (fun _ => ?_) fun _ => Asks.pure _) fun selected => ?_
    · exact fallback_available_asks config hcache _
    · exact Asks.ite (fun _ => hread.bind fun _ => Asks.pure _) fun _ => hhttp_first

end

end tplink_deco_api.surface
