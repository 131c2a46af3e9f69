-- What the methods of the service ask of the outside, request by request: the
-- HTTP client with its session, and the TMP client with its connection.
import TplinkDeco.Http.EndpointCatalog
import TplinkDeco.Lib.Dialogue
import TplinkDeco.Service.CapabilityRouting
import TplinkDeco.TmpClient.Probes

open dialogue json

namespace tplink_deco_api.surface

open endpoint_catalog exceptions http_noop_verification service tmp_batches tmp_client tmp_protocol

/-! ## Requests and their answers -/

/-- A request to the router, or a look at the connection to it. -/
inductive Request where
  /-- The handshake of `DecoClient.login`. -/
  | login
  | logout
  /-- `DecoClient.request_envelope`. -/
  | http (operation : Operation) (params : Option JsonObject)
  /-- The POST of `call_bootstrap`, which takes no session. -/
  | bootstrap (operation : Operation) (params : Option JsonObject)
  /-- The POST of `call_binary`. -/
  | binary (operation : Operation)
  /-- All calls of the HTTP verifier for one setting. -/
  | http_noop (operation : String)
  | tmp_connected
  /-- SSH, the association, and the two opcodes of the negotiation. -/
  | tmp_open
  | tmp (opcode : Nat) (params : Json)
  | tmp_close
  /-- The SSH host key, without authentication. -/
  | probe_host_key
  /-- A TCP connection over which nothing is sent. -/
  | probe_tcp (host : String) (port : Nat)

/-- How an attempt to connect ends, as `_probe_tcp_service` tells it. -/
inductive TcpStatus where
  | connected
  | refused
  | timeout
  | unreachable
deriving DecidableEq, Repr

/-- What a request gives. A request without a result may only fail. -/
abbrev Request.Reply : Request → Type
  | .login => Option PyError
  | .logout => Option PyError
  | .http _ _ => Except PyError ApiResponse
  | .bootstrap _ _ => Except PyError ApiResponse
  | .binary _ => Except PyError (List UInt8)
  | .http_noop _ => Nat → Except PyError ApiResponse
  | .tmp_connected => Bool
  | .tmp_open => Option PyError
  | .tmp _ _ => Except PyError RawResponse
  | .tmp_close => Option PyError
  | .probe_host_key => Except PyError String
  | .probe_tcp _ _ => Except PyError TcpStatus

/-- The service, with the interface over which the cached devices were read. That is for
the reader only. -/
structure Desk where
  service : DecoService := {}
  listed_over : Option CapabilityInterface := none

/-- What a program asks: the state of the service, a change of it, or the router. -/
inductive Question where
  | desk
  | update (f : Desk → Desk)
  | send (request : Request)

/-- The answer to each. -/
abbrev Question.Answer : Question → Type
  | .desk => Desk
  | .update _ => Unit
  | .send request => request.Reply

/-- A program of the service. What it asks is answered by a run. -/
abbrev SurfaceM := Dialogue Question Question.Answer PyError

/-- A router, whose answers may depend on all that it was asked before. -/
structure Router (ρ : Type) where
  answer : (request : Request) → ρ → request.Reply × ρ

/-- The questions about the service are answered from its state, the others by the router. -/
def perform {ρ : Type} (router : Router ρ) : (i : Question) → Desk × ρ → i.Answer × (Desk × ρ)
  | .desk, (desk, r) => (desk, (desk, r))
  | .update f, (desk, r) => ((), (f desk, r))
  | .send request, (desk, r) =>
    ((router.answer request r).1, (desk, (router.answer request r).2))

/-- The state as it is. -/
def desk : SurfaceM Desk := Dialogue.question Question.desk

/-- Change the state. -/
def update (f : Desk → Desk) : SurfaceM Unit := Dialogue.question (Question.update f)

/-- Ask the router. -/
def send (request : Request) : SurfaceM request.Reply := Dialogue.question (Question.send request)

/-- Raise what came back, if an error did. -/
def raise_some (error : Option PyError) : SurfaceM Unit :=
  match error with
  | none => pure ()
  | some e => .raised e

/-! ## The HTTP client -/

variable (config : ServerConfig)

/-- Keep the client, with or without a session. -/
def set_client (client : Option Bool) : SurfaceM Unit :=
  update fun d => { d with service := { d.service with client } }

/-- Log in, and keep whether that gave a session. -/
def login : SurfaceM Unit := do
  match ← send .login with
  | none => set_client (some true)
  | some e => do
    set_client (some false)
    .raised e

/-- `_get_client`: log in if there is no session. -/
def get_client : SurfaceM Unit :=
  if config.password = "" then
    .raised (value_error "Failed to connect to Deco: DECO_PASSWORD is not configured")
  else do
    let d ← desk
    if d.service.client = some true then pure () else login

/-- Forget the session. -/
def invalidate_session : SurfaceM Unit := set_client (some false)

/-- The errors after which a new login may help. -/
def should_relogin (e : PyError) : Bool :=
  if e.isinstance [.TransportError] then e.code = some 401 || e.code = some 403
  else e.code = some (-1)

/-- `m`, and once more with a new session where the error asks for one. -/
def with_relogin {α : Type} (classes : List ExcClass) (m : SurfaceM α) : SurfaceM α := do
  get_client config
  match ← m.trying (fun e => e.isinstance classes && should_relogin e) with
  | .ok a => pure a
  | .error _ => do
    invalidate_session
    get_client config
    m

/-- One HTTP request, with its whole answer. -/
def request_envelope (operation : Operation) (params : Option JsonObject := none) :
    SurfaceM ApiResponse := do
  let reply ← send (.http operation params)
  Dialogue.lift reply

/-- `DecoClient.call`. -/
def call (e : EndpointSpec) (params : Option JsonObject := none) : SurfaceM ApiResponse :=
  if e.response_kind = .binary then
    .raised (value_error "Failed to call API: use call_binary() for a binary response")
  else do
    let selected ← Dialogue.lift (e.request_params params)
    if e.authentication ∉ [.plain, .encrypted] then
      .raised (value_error "Failed to call API: transport is not supported by the owner-session client")
    else request_envelope e.toOperation selected

/-- `client.call(get_endpoint(name))`, where the name is that of the operation. -/
def call_operation (operation : Operation) : SurfaceM ApiResponse :=
  match classified operation with
  | none => .raised (unknown_operation operation.name)
  | some e => call e

/-- `client.call_bootstrap`: a read that needs no session. -/
def call_bootstrap (e : EndpointSpec) (params : Option JsonObject) : SurfaceM ApiResponse :=
  if ¬ e.bootstrap_call_supported then
    .raised (value_error s!"Failed to call bootstrap API: {e.name} is not a supported plaintext login read")
  else do
    let selected ← Dialogue.lift (e.request_params params)
    let reply ← send (.bootstrap e.toOperation selected)
    Dialogue.lift reply

/-- Only the encrypted download has a body that `request_data` builds. -/
def binary_body (e : EndpointSpec) : Except PyError (Option JsonObject) :=
  if e.authentication = .encrypted then e.request_params none else .ok none

/-- `client.call_binary`: a download. -/
def call_binary (e : EndpointSpec) : SurfaceM (List UInt8) :=
  if ¬ e.binary_call_supported then
    .raised (value_error "Failed to download API response: endpoint is not binary")
  else do
    let _ ← Dialogue.lift (binary_body e)
    let reply ← send (.binary e.toOperation)
    Dialogue.lift reply

/-! ## The TMP client -/

/-- Open the TMP client, unless it is connected. -/
def open_client : SurfaceM Unit := do
  if ← send .tmp_connected then pure ()
  else do
    let error ← send .tmp_open
    raise_some error

/-- `_get_tmp_client`: the credentials are checked before a client is opened. -/
def get_tmp_client : SurfaceM Unit := do
  if ← send .tmp_connected then pure ()
  else do
    let _ ← Dialogue.lift (tmp_ssh_config config true)
    open_client

variable (catalog : TmpOpcodeCatalog)

/-- The entry of an opcode in the catalogue. -/
def get_tmp_opcode (code : Nat) : Option TmpOpcode := catalog.opcodes.find? (·.code = code)

/-- `session.request_read`. -/
def session_request_read (opcode : Nat) (params : Json) : SurfaceM RawResponse :=
  match get_tmp_opcode catalog opcode with
  | none => .raised (value_error s!"Failed to request TMP read: unknown opcode {hex_code opcode}")
  | some operation =>
    if operation.safety ≠ "read_only" then
      .raised (value_error
        s!"Failed to request TMP read: {operation.name} is classified {operation.safety}")
    else do
      let reply ← send (.tmp opcode params)
      Dialogue.lift reply

/-- Raise another error in the place of one. -/
def reraise {α : Type} (convert : PyError → PyError) (m : SurfaceM α) : SurfaceM α := do
  match ← m.trying fun _ => true with
  | .ok a => pure a
  | .error e => .raised (convert e)

/-- A TMP read whose answer has to be an object. -/
def session_request_read_json (opcode : Nat) (params : Json) : SurfaceM JsonObject :=
  reraise (invalid_json "Failed to parse TMP response: invalid JSON object") (do
    let response ← session_request_read catalog opcode params
    Dialogue.lift response.loaded)

/-- `request` on the session, which has to be connected. -/
def on_session {α : Type} (request : SurfaceM α) : SurfaceM α := do
  if ← send .tmp_connected then request else .raised not_connected

/-- The loop of `_request_with_reconnect`, with the attempts that are left. -/
def request_attempts {α : Type} (request : SurfaceM α) : Nat → SurfaceM α
  | 0 => .raised retry_exhausted
  | left + 1 => do
    match ← (on_session request).trying (·.isinstance [.TmpProtocolError, .TransportError]) with
    | .ok a => pure a
    | .error e =>
      if ¬ is_connection_failure e then .raised e
      else do
        let error ← send .tmp_close
        raise_some error
        if left = 0 then .raised e
        else do
          open_client
          request_attempts request left

/-- `DecoTmpClient.request_read`: once more after a lost connection. -/
def request_read (opcode : Nat) (params : Json) : SurfaceM RawResponse :=
  request_attempts (session_request_read catalog opcode params) 2

/-- `DecoTmpClient.request_read_json`. -/
def request_read_json (opcode : Nat) (params : Json) : SurfaceM JsonObject :=
  request_attempts (session_request_read_json catalog opcode params) 2

/-! ## `tmp_read` -/

/-- The refusal of a TMP read. -/
def tmp_read_error (message : String) : PyError :=
  permission_error s!"Failed to read TMP operation: {message}"

/-- The refusal of its parameters. -/
def tmp_value_error (message : String) : PyError :=
  value_error s!"Failed to read TMP operation: {message}"

/-- `value` is an `int`, and no `bool`. -/
def is_int (value : Json) : Bool := value.asInt.isSome

/-- The checks of single parameters in `_validate_tmp_read_params`: the name of the parameter,
what it has to be, and the text of the error. -/
def TMP_PARAMETER_CHECKS : List (String × (Json → Bool) × String) := [
  ("owner_id", fun v => (v.asStr.map fun s => decide (s ≠ "")).getD false,
    "owner_id must be a non-empty string"),
  ("start_time", is_int, "start_time must be an integer"),
  ("end_time", is_int, "end_time must be an integer"),
  ("page", is_int, "page must be an integer"),
  ("page_size", is_int, "page_size must be an integer"),
  ("version", fun v => (v.asInt.map fun n => decide (0 ≤ n)).getD false,
    "version must be a non-negative integer"),
  ("iot_client_list", fun v => (v.asArr.map fun items => items.all (·.asObj.isSome)).getD false,
    "iot_client_list must be an array of objects")]

/-- `frozenset(provided) == frozenset(allowed)`. -/
def same_keys (provided allowed : List String) : Bool :=
  provided.all (· ∈ allowed) && allowed.all (· ∈ provided)

/-- `_validate_tmp_read_params`: the keys are one of the sets that were confirmed. -/
def validate_tmp_read_params (confirmed_parameter_sets : List (List String)) (params : Json) :
    Except PyError Unit :=
  if confirmed_parameter_sets = [] then .ok ()
  else
    match params.asObj with
    | none => .error (tmp_value_error "parameters are required")
    | some fields =>
      if ¬ confirmed_parameter_sets.any (same_keys (fields.map Prod.fst)) then
        let expected := " or ".intercalate (confirmed_parameter_sets.map (",".intercalate ·))
        .error (tmp_value_error s!"parameter keys must exactly match {expected}")
      else
        match TMP_PARAMETER_CHECKS.find? fun (key, valid, _) =>
            (fields.lookup key).isSome && !valid (get fields key) with
        | none => .ok ()
        | some (_, _, message) => .error (tmp_value_error message)

/-- The gates of `tmp_read`. -/
def check_tmp_read (opcode : Nat) (params : Json) : Except PyError Unit :=
  if ¬ config.allow_tmp_reads then .error (tmp_read_error "DECO_ALLOW_TMP_READS is disabled")
  else
    match get_tmp_opcode catalog opcode with
    | none => .error (tmp_value_error s!"unknown opcode {hex_code opcode}")
    | some operation =>
      if operation.safety ≠ "read_only" then
        .error (tmp_read_error s!"{operation.name} is {operation.safety}")
      else if operation.sensitivity = .secret ∧ ¬ config.allow_sensitive_reads then
        .error (tmp_read_error "DECO_ALLOW_SENSITIVE_READS is disabled")
      else if operation.p9_observation ∈ [.rejected, .payload_rejected] then
        .error (tmp_read_error s!"{operation.name} is rejected by the P9 overlay")
      else if operation.p9_observation = .returned_binary then
        .error (tmp_read_error "use the binary TMP read operation for this opcode")
      else if operation.p9_observation = .untested ∧ ¬ config.allow_unverified_tmp_reads then
        .error (tmp_read_error "DECO_ALLOW_UNVERIFIED_TMP_READS is disabled")
      else validate_tmp_read_params operation.p9_confirmed_parameter_sets params

/-- `DecoService.tmp_read`: every check is made before the client is opened. -/
def tmp_read (opcode : Nat) (params : Json := .null) : SurfaceM JsonObject := do
  Dialogue.lift (check_tmp_read config catalog opcode params)
  get_tmp_client config
  request_read_json catalog opcode params

end tplink_deco_api.surface
