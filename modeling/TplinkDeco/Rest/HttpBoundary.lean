-- What stands between the network and the service: the settings that `server/config.py` accepts,
-- the middlewares and the routes of `rest/app.py`, and the bearer token. An ASGI application is a
-- function from one request to what it sends; what FastAPI and Starlette do is a parameter.
import TplinkDeco.Exceptions
import TplinkDeco.Lib.Paths
import TplinkDeco.Rest.RequestCapacity
import TplinkDeco.Service.DecoService

open json paths text

namespace tplink_deco_api.server.config

open exceptions

inductive McpTransport where
  | stdio
  | streamable_http
deriving DecidableEq

structure ServerConfig extends service.ServerConfig where
  allow_tmp_noop_verification : Bool := false
  transport : McpTransport := .stdio
  server_host : String := "127.0.0.1"
  server_port : Int := 8000
  mcp_path : String := "/mcp"
  mcp_public_url : String := ""
  bearer_token : String := ""
  allowed_hosts : List String := []
  allowed_origins : List String := []
  rest_enabled : Bool := false
  rest_prefix : String := "/api/v1"
  rest_expose_docs : Bool := false
  max_in_flight_requests : Int := 32

def RESERVED_HTTP_PATHS : List String :=
  ["/healthz", "/readyz", "/openapi.json", "/docs", "/redoc"]

def paths_overlap (left right : String) : Bool :=
  left = right || starts_with left (right ++ "/") || starts_with right (left ++ "/")

def refuse (failed : Bool) (message : String) : Except PyError Unit :=
  if failed then .error (value_error message) else .ok ()

/-- `not path.startswith("/") or path.endswith("/")`. -/
def malformed (path : String) : Bool := !starts_with path "/" || ends_with path "/"

def ServerConfig.validate_server (config : ServerConfig) : Except PyError Unit := do
  refuse config.allow_tmp_noop_verification <|
    "Failed to configure server: TMP writes are hard-disabled; " ++
      "DECO_ALLOW_TMP_NOOP_VERIFICATION is no longer supported"
  refuse (malformed config.rest_prefix)
    "Failed to configure server: DECO_REST_PREFIX must start with / and not end with /"
  refuse (malformed config.mcp_path)
    "Failed to configure server: DECO_MCP_PATH must start with / and not end with /"
  refuse (paths_overlap config.rest_prefix config.mcp_path)
    "Failed to configure server: DECO_REST_PREFIX and DECO_MCP_PATH must not overlap"
  refuse ([ config.rest_prefix, config.mcp_path].any fun configured_path =>
      RESERVED_HTTP_PATHS.any (paths_overlap configured_path))
    "Failed to configure server: REST and MCP paths must not overlap reserved HTTP routes"
  refuse (config.max_in_flight_requests ≤ 0)
    "Failed to configure server: DECO_SERVER_MAX_IN_FLIGHT_REQUESTS must be positive"
  if config.transport = .stdio then .ok ()
  else do
    refuse (config.server_host = "") "Failed to configure server: DECO_SERVER_HOST is required"
    refuse (¬ (1 ≤ config.server_port ∧ config.server_port ≤ 65535))
      "Failed to configure server: DECO_SERVER_PORT must be between 1 and 65535"
    refuse (¬ (starts_with config.mcp_public_url "http://" ∨
        starts_with config.mcp_public_url "https://"))
      "Failed to configure MCP: DECO_MCP_PUBLIC_URL must be an HTTP(S) URL"
    refuse (config.bearer_token.length < 32)
      "Failed to configure server: DECO_SERVER_BEARER_TOKEN must contain at least 32 characters"
    refuse (config.allowed_hosts = [])
      "Failed to configure server: DECO_SERVER_ALLOWED_HOSTS must contain at least one host"

end tplink_deco_api.server.config

namespace tplink_deco_api.rest.app

open exceptions server.config
open request_capacity_middleware (RequestCapacityMiddleware server_busy)

/-! ## Requests and what is sent -/

abbrev Headers := List (String × String)

/-- A scope whose root path is empty, with what `Headers(scope=scope).get` finds. -/
structure Scope where
  type : String
  method : String := ""
  path : String := ""
  header : String → Option String := fun _ => none
  request_id : String := ""

inductive Content where
  | text (text : String)
  | json (content : JsonObject)

/-- The route functions. Those of the REST router go by their `operation_id`. -/
inductive Operation where
  | health
  | readiness
  | openapi_schema
  | swagger_ui
  | redoc_ui
  | rest_operation (operation_id : String)
deriving DecidableEq

/-- A route function that runs, or a message that is sent. -/
inductive Event where
  | called (operation : Operation)
  | start (status : Nat) (headers : Headers)
  | body (content : Content)

/-- What an application does with a request: its events, and what it raised in the end. -/
structure Reply where
  events : List Event
  raised : Option PyError := none

abbrev ASGIApp := Scope → Reply

/-- The reply with its headers changed on their way out. -/
def Reply.map_headers (f : Headers → Headers) (reply : Reply) : Reply :=
  { reply with events := reply.events.map fun
    | .start status headers => .start status (f headers)
    | event => event }

structure Route where
  method : String
  template : String
  operation : Operation
  secured : Bool

structure HTTPException where
  status_code : Nat
  detail : String
  headers : Headers

/-! ## What FastAPI and Starlette do -/

/-- The parts of FastAPI and Starlette that the application is made of. -/
structure Framework where
  /-- `PlainTextResponse` and `JSONResponse`. -/
  response : Nat → Headers → Content → Reply
  /-- `headers[name] = value` and `headers.append(name, value)` of a `MutableHeaders`. -/
  set_header : String → String → Headers → Headers
  append_header : String → String → Headers → Headers
  /-- The outermost middleware, which answers what nobody has handled. -/
  server_error : ASGIApp → ASGIApp
  /-- `CORSMiddleware` with the origins that it allows. -/
  cors : List String → ASGIApp → ASGIApp
  /-- `HTTPBearer(auto_error=False)`. -/
  bearer_credentials : Scope → Option String
  /-- Whether a path matches the template of a route. -/
  matches_path : String → String → Bool
  /-- What is below the middlewares: the routes, with the dependency of those that are secured, the
  exception handlers and the MCP application mounted at its path. -/
  application : List Route → (Scope → Except HTTPException Unit) → (mcp_path : String) → ASGIApp

/-- A text of a template that stands for itself. -/
def literal (s : String) : Prop := '\x7b' ∉ s.toList

/-- An `Authorization` header of the bearer scheme. Newer releases strip the credentials. -/
def BearerHeader (authorization credentials : String) : Prop :=
  ∃ scheme rest, authorization = scheme ++ " " ++ rest ∧ lower scheme = "bearer" ∧
    (credentials = rest ∨ credentials = strip rest)

/-- What is documented of these parts. -/
structure Framework.Laws (framework : Framework) : Prop where
  /-- A response calls no route function. -/
  response_quiet : ∀ status headers content operation,
    .called operation ∉ (framework.response status headers content).events
  /-- A header that is set is found, and one that is appended is there beside the others. -/
  set_found : ∀ name value headers,
    (framework.set_header name value headers).lookup name = some value
  append_mem : ∀ name value headers, (name, value) ∈ framework.append_header name value headers
  append_keeps : ∀ name value headers other found, headers.lookup other = some found →
    (framework.append_header name value headers).lookup other = some found
  /-- The outermost middleware calls nothing by itself, raises again what was raised, and changes
  nothing where nothing was raised. -/
  server_error_called : ∀ app scope operation,
    .called operation ∈ (framework.server_error app scope).events →
      .called operation ∈ (app scope).events
  server_error_raised : ∀ app scope, (framework.server_error app scope).raised = (app scope).raised
  server_error_quiet : ∀ app scope, (app scope).raised = none →
    framework.server_error app scope = app scope
  /-- The CORS middleware answers by itself, or changes headers of its own on the way out. -/
  cors_wrapped : ∀ origins app scope,
    (∀ operation, .called operation ∉ (framework.cors origins app scope).events) ∨
      ∃ decorate : Headers → Headers,
        framework.cors origins app scope = (app scope).map_headers decorate ∧
        ∀ headers, (decorate headers).lookup "cache-control" = headers.lookup "cache-control"
  bearer_header : ∀ scope credentials, framework.bearer_credentials scope = some credentials →
    ∃ authorization, scope.header "authorization" = some authorization ∧
      BearerHeader authorization credentials
  /-- What stands before the parameters of a template starts the path. -/
  matches_start : ∀ base rest path, literal base →
    framework.matches_path (base ++ rest) path = true → starts_with path base = true
  /-- A template without parameters matches itself; a newline may end the path. -/
  matches_literal : ∀ template path, literal template →
    framework.matches_path template path = true → path = template ∨ path = template ++ "\n"
  /-- A route function runs for a request that one of its routes matches, and for a secured route
  only if the dependency has not raised. -/
  application_called : ∀ routes dependency mcp_path scope operation,
    .called operation ∈ (framework.application routes dependency mcp_path scope).events →
      scope.type = "http" ∧ ∃ route ∈ routes, route.operation = operation ∧
        route.method = scope.method ∧ framework.matches_path route.template scope.path = true ∧
        (route.secured = true → dependency scope = .ok ())

/-! ## The middlewares -/

def is_protected (prefixes : List String) (path : String) : Bool :=
  prefixes.any fun base => under base path

section

variable (framework : Framework)

def http_transport_security (allowed_hosts allowed_origins protected_prefixes : List String)
    (app : ASGIApp) : ASGIApp := fun scope =>
  if scope.type ∉ ["http", "websocket"] ∨ ¬ is_protected protected_prefixes scope.path then
    app scope
  else if (scope.header "host").getD "" ∉ allowed_hosts then
    framework.response 400 [] (.text "Invalid host header")
  else if (scope.header "origin").any (· ∉ allowed_origins) then
    framework.response 403 [] (.text "Invalid origin header")
  else app scope

/-- What the capacity middleware reads of the scope. -/
def Scope.capacity (scope : Scope) : request_capacity_middleware.Scope :=
  { type := scope.type, path := scope.path, request_id := scope.request_id }

/-- The middleware while `active` requests are in flight. -/
def request_capacity (middleware : RequestCapacityMiddleware) (active : Int) (app : ASGIApp) :
    ASGIApp := fun scope =>
  if ¬ middleware.counts scope.capacity then app scope
  else if middleware.max_in_flight ≤ active then
    let busy := server_busy scope.capacity
    framework.response busy.status_code busy.headers (.json busy.content)
  else app scope

def rest_cache_control (protected_prefixes : List String) (app : ASGIApp) : ASGIApp := fun scope =>
  if scope.type ≠ "http" ∨ ¬ is_protected protected_prefixes scope.path then app scope
  else (app scope).map_headers (framework.set_header "cache-control" "no-store")

/-- The identifier that the caller gave, where it is a short one, and a new one otherwise. -/
def request_identifier (scope : Scope) (uuid : String) : String :=
  let supplied := (scope.header "x-request-id").getD ""
  if 0 < supplied.length ∧ supplied.length ≤ 128 then supplied else uuid

def request_id (uuid : String) (app : ASGIApp) : ASGIApp := fun scope =>
  if scope.type ≠ "http" then app scope
  else
    let request_id := request_identifier scope uuid
    (app { scope with request_id }).map_headers (framework.append_header "x-request-id" request_id)

end

/-! ## The bearer token -/

/-- `StaticBearerAuthenticator.accepts`, which compares the bytes of the two tokens. -/
def accepts (bearer_token token : String) : Bool := encode token = encode bearer_token

/-- `_require_bearer`, with the credentials that the scheme has found. -/
def require_bearer (bearer_token : String) (credentials : Option String) :
    Except HTTPException Unit :=
  if credentials.any (accepts bearer_token) then .ok ()
  else .error {
    status_code := 401
    detail := "Bearer authentication is required"
    headers := [("www-authenticate", "Bearer")] }

/-! ## The routes -/

/-- The routes of `_create_rest_router`, in their order. -/
def REST_OPERATIONS : List (String × String × String) := [
  ("GET", "/service", "getServiceStatus"),
  ("GET", "/status", "getNetworkStatus"),
  ("GET", "/configuration", "getConfiguration"),
  ("GET", "/system/led", "getLedConfiguration"),
  ("GET", "/mesh", "getMesh"),
  ("GET", "/mesh/traffic", "getMeshTraffic"),
  ("GET", "/wireless/wps", "getWpsStatus"),
  ("GET", "/reports/monthly/settings", "getMonthlyReportSettings"),
  ("GET", "/reports/monthly", "getMonthlyReports"),
  ("GET", "/notifications", "getNotifications"),
  ("GET", "/speed-test/servers", "getSpeedTestServers"),
  ("GET", "/parental-controls", "getParentalControls"),
  ("GET", "/parental-controls/filter-levels", "getParentalControlFilterLevels"),
  ("GET", "/parental-controls/catalog", "getParentalControlCatalog"),
  ("GET", "/parental-controls/\x7bowner_id\x7d", "getParentalControlProfile"),
  ("GET", "/parental-controls/\x7bowner_id\x7d/insights", "getParentalControlInsights"),
  ("GET", "/parental-controls/\x7bowner_id\x7d/history", "getParentalControlHistory"),
  ("GET", "/access/permissions", "getAccessPermissions"),
  ("GET", "/clients", "getClients"),
  ("GET", "/traffic", "getTraffic"),
  ("GET", "/address-reservations", "getAddressReservations"),
  ("GET", "/network/lan", "getLanConfiguration"),
  ("GET", "/network/dhcp", "getDhcpConfiguration"),
  ("GET", "/network/qos", "getQos"),
  ("GET", "/network/vlan", "getVlanConfiguration"),
  ("GET", "/network/port-forwarding", "getPortForwarding"),
  ("GET", "/network/iptv", "getIptvConfiguration"),
  ("GET", "/network/sip-alg", "getSipAlg"),
  ("GET", "/network/mac-clone", "getMacClone"),
  ("GET", "/network/ipv4", "getIpv4Configuration"),
  ("GET", "/network/ipv6", "getIpv6Configuration"),
  ("GET", "/network/ipv6/firewall", "getIpv6Firewall"),
  ("GET", "/clients/ipv6", "getIpv6Clients"),
  ("GET", "/clients/\x7bmac\x7d", "getClient"),
  ("GET", "/log-types", "getLogTypes"),
  ("GET", "/logs/\x7bindex\x7d", "getSystemLogPage"),
  ("GET", "/capabilities", "getCapabilities"),
  ("GET", "/capabilities/\x7bname\x7d", "getCapability"),
  ("GET", "/wlan", "getWlan"),
  ("GET", "/cloud", "getCloud"),
  ("GET", "/mutations", "getMutations"),
  ("GET", "/mutations/\x7bname\x7d", "getMutation"),
  ("POST", "/mutation-preflights", "preflightMutation"),
  ("POST", "/mutation-plans", "createMutationPlan"),
  ("GET", "/mutation-plans/\x7bplan_id\x7d", "getMutationPlan"),
  ("POST", "/mutation-plans/\x7bplan_id\x7d/executions", "executeMutationPlan")]

def rest_routes ( rest_prefix : String) : List Route :=
  REST_OPERATIONS.map fun (method, path, operation_id) =>
    { method, template := rest_prefix ++ path, operation := .rest_operation operation_id,
      secured := true }

def routes (config : ServerConfig) : List Route :=
  [{ method := "GET", template := "/healthz", operation := .health, secured := false },
    { method := "GET", template := "/readyz", operation := .readiness, secured := false }] ++
  if ¬ config.rest_enabled then []
  else rest_routes config.rest_prefix ++
    { method := "GET", template := "/openapi.json", operation := .openapi_schema,
      secured := true } ::
    if ¬ config.rest_expose_docs then []
    else [
      { method := "GET", template := "/docs", operation := .swagger_ui, secured := true },
      { method := "GET", template := "/redoc", operation := .redoc_ui, secured := true }]

/-! ## The application -/

theorem refuse_ok {failed : Bool} {message : String} {done : Unit} :
    refuse failed message = .ok done ↔ failed = false := by
  cases failed with
  | true => exact iff_of_false nofun nofun
  | false => exact iff_of_true rfl rfl

/-- What `validate_server` has checked of the settings of an HTTP server. -/
structure Accepted (config : ServerConfig) : Prop where
  surfaces_apart : paths_overlap config.rest_prefix config.mcp_path = false
  reserved_apart : ∀ configured_path ∈ [ config.rest_prefix, config.mcp_path],
    ∀ reserved_path ∈ RESERVED_HTTP_PATHS, paths_overlap configured_path reserved_path = false
  max_in_flight_positive : 0 < config.max_in_flight_requests
  token_long : 32 ≤ config.bearer_token.length
  some_host : config.allowed_hosts ≠ []

theorem accepted_of_validate {config : ServerConfig} (htransport : config.transport ≠ .stdio)
    (h : config.validate_server = .ok ()) : Accepted config := by
  unfold ServerConfig.validate_server at h
  simp only [bind_eq_ok, refuse_ok, if_neg htransport] at h
  obtain ⟨_, -, _, -, _, -, _, hsurfaces, _, hreserved, _, hflight, _, -, _, -, _, -, _, htoken,
    hhosts⟩ := h
  exact {
    surfaces_apart := hsurfaces
    reserved_apart := by
      intro configured_path hconfigured reserved_path hmem
      have hnone := List.any_eq_false.mp hreserved configured_path hconfigured
      rw [Bool.not_eq_true, List.any_eq_false] at hnone
      exact Bool.eq_false_iff.mpr (hnone reserved_path hmem)
    max_in_flight_positive := not_le.mp (of_decide_eq_false hflight)
    token_long := not_lt.mp (of_decide_eq_false htoken)
    some_host := of_decide_eq_false hhosts }

/-- The application of `create_http_application`, with what was checked of its settings. -/
structure HttpApplication where
  framework : Framework
  config : ServerConfig
  streamable : config.transport = .streamable_http
  valid : config.validate_server = .ok ()

def create_http_application (framework : Framework) (config : ServerConfig) :
    Except PyError HttpApplication :=
  if hstreamable : config.transport = .streamable_http then
    match hvalid : config.validate_server with
    | .ok () => .ok { framework, config, streamable := hstreamable, valid := hvalid }
    | .error e => .error e
  else
    .error (value_error
      "Failed to configure server: DECO_MCP_TRANSPORT must be streamable-http")

/-- The prefixes of the private answers. -/
def private_prefixes (config : ServerConfig) : List String :=
  [ config.rest_prefix, "/openapi.json", "/docs", "/redoc"]

/-- The prefixes whose requests are counted. -/
def counted_prefixes (config : ServerConfig) : List String :=
  [ config.rest_prefix, config.mcp_path]

namespace HttpApplication

variable (application : HttpApplication)

theorem accepted : Accepted application.config :=
  accepted_of_validate (by rw [application.streamable]; exact nofun) application.valid

def capacity : RequestCapacityMiddleware where
  max_in_flight := application.config.max_in_flight_requests.toNat
  protected_prefixes := counted_prefixes application.config
  max_in_flight_positive := Int.lt_toNat.mpr application.accepted.max_in_flight_positive

/-- The routes, and the token that the secured ones ask for. -/
def router : ASGIApp :=
  application.framework.application (routes application.config)
    (fun scope => require_bearer application.config.bearer_token
      (application.framework.bearer_credentials scope))
    application.config.mcp_path

/-- The application below the request identifiers. The middleware that is added last is the
outermost one. -/
def below_request_id (active : Int) : ASGIApp :=
  application.framework.cors application.config.allowed_origins <|
  http_transport_security application.framework application.config.allowed_hosts
    application.config.allowed_origins (private_prefixes application.config) <|
  request_capacity application.framework application.capacity active <|
  rest_cache_control application.framework (private_prefixes application.config) <|
  application.router

/-- The application on one request, while `active` requests are in flight. -/
def serve (active : Int) (uuid : String) : ASGIApp :=
  application.framework.server_error <|
  request_id application.framework uuid <|
  application.below_request_id active

end HttpApplication

end tplink_deco_api.rest.app
