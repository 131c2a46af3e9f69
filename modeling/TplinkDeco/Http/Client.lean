-- The client of `client.py`: the login, the requests of a session and the logout, over the POST
-- of `auth/transport.py` with its cookie. What is outside the package is a parameter.
import TplinkDeco.Auth.NumericLiterals
import TplinkDeco.Auth.Protocol
import TplinkDeco.Auth.Redaction
import TplinkDeco.Lib.JsonReader
import TplinkDeco.Lib.Prog
import TplinkDeco.Models.Accessors
import TplinkDeco.Service.Transport

open json prog

namespace tplink_deco_api.client

open auth crypto endpoint_catalog exceptions models

/-- The libraries that the client calls: the text of a JSON value and the value of a text, the
MD5 hash of a text, the number of a hexadecimal text, the cipher, and the random numbers. -/
structure Libraries where
  dumps : JsonObject → String
  loads : String → Except PyError Json
  md5 : String → String
  from_hex : String → String → Except PyError RsaKey
  log2_floor : Nat → Nat
  cbc : Cbc
  undecodable : List UInt8 → String
  /-- The two texts that the `n`-th `generate_aes_pair` gives. -/
  aes_pair : Nat → String × String
  /-- The random bytes of the `n`-th encryption under RSA. -/
  padding : Nat → Tokens

/-! ## The envelope of a response -/

/-- What an answer of the router carries. -/
structure ApiResponse where
  error_code : Int
  result : Json
  data : Json
  message : String
  config_version : Json
  payload : JsonObject

/-- `a or b`, for numbers. -/
def or_int (a b : Int) : Int := if a ≠ 0 then a else b

/-- `a or b`, for texts. -/
def or_text (a b : String) : String := if a ≠ "" then a else b

/-- `ApiResponse.from_api`. -/
def ApiResponse.from_api (payload : JsonObject) : ApiResponse where
  error_code := or_int (get_int payload "error_code") (get_int payload "errorcode")
  result := get payload "result"
  data := get payload "data"
  message := or_text (get_str payload "msg") (get_str payload "message")
  config_version := get payload "config_version"
  payload

/-- `response.result_object()`: no fields where the result is no object. -/
def ApiResponse.result_object (response : ApiResponse) : JsonObject :=
  (response.result.asObj).getD []

/-- `ApiError`. -/
def api_error (error_code : Int) (message : String) : PyError where
  cls := .ApiError
  message := "Failed to call API: error_code=" ++ toString error_code ++
    if message = "" then "" else ", message=" ++ message
  code := some error_code

/-- `_check_error`: raise the error that the envelope reports. -/
def check_error (response : JsonObject) : Except PyError Unit :=
  let code := or_int (get_int response "error_code") (get_int response "errorcode")
  if code ≠ 0 then
    .error (api_error code (or_text (get_str response "msg") (get_str response "message")))
  else .ok ()

/-- `parse_plain_envelope`. -/
def parse_plain_envelope (raw : JsonObject) : Except PyError ApiResponse := do
  check_error raw
  return ApiResponse.from_api raw

section

variable (lib : Libraries)

/-- The envelope that the firmware has written in a decrypted text. -/
def parse_decrypted (decrypted_text : String) : Except PyError ApiResponse := do
  match ← lib.loads (normalize_numeric_literals decrypted_text) with
  | .obj decrypted => parse_plain_envelope decrypted
  | _ => .error (api_error (-1) "decrypted response is not an object")

/-- `parse_encrypted_response`: the data is decrypted before it is checked. -/
def parse_encrypted_response (raw : JsonObject) (keys : SessionKeys) :
    Except PyError ApiResponse :=
  match (get raw "data").asStr with
  | none => .error (api_error (-1) "missing encrypted response data")
  | some data_b64 =>
    if data_b64 = "" then .error (api_error (-1) "missing encrypted response data")
    else do
      let decrypted_text ← aes_decrypt lib.cbc lib.undecodable keys.aes_key keys.aes_iv data_b64
      parse_decrypted lib decrypted_text

end

/-! ## The URLs -/

/-- The endpoints whose bodies are not encrypted. -/
def PLAIN_ENDPOINTS : List String := [
  "/login?form=auth",
  "/login?form=keys",
  "/login?form=check_factory_default",
  "/login?form=default_info",
  "/admin/system?form=envar",
  "/admin/system?form=sysmode",
  "/admin/cloud?form=firmware",
  "/admin/isp?form=isp_upgrade",
  "/admin/firmware?form=config_multipart",
  "/admin/log_export?form=save_log"]

/-- `is_plain_endpoint`. -/
def is_plain_endpoint (path form : String) : Bool :=
  "/" ++ stripped '/' path ++ "?form=" ++ form ∈ PLAIN_ENDPOINTS

/-- The URL of one form of the login. -/
def login_url (host form : String) : String :=
  "https://" ++ host ++ "/cgi-bin/luci/;stok=/login?form=" ++ form

/-! ## The state of the client -/

/-- What a login has agreed on. -/
structure SessionContext where
  sign_key : RsaKey
  pwd_key : RsaKey
  keys : SessionKeys
  stok : String := ""

/-- A session with a token. -/
def SessionContext.is_authenticated (session : SessionContext) : Bool := session.stok ≠ ""

/-- The session without its token and its sequence number. -/
def SessionContext.invalidate (session : SessionContext) : SessionContext :=
  { session with stok := "", keys := { session.keys with seq := 0 } }

/-- The body of a POST: a value that `json.dumps` writes, or a form. -/
inductive Body where
  | json (data : JsonObject)
  | form (text : String)

/-- One request as it leaves the client. -/
structure Post where
  url : String
  cookie : Option String
  body : Body

/-- What `urlopen` gives: the headers, then how the bytes are read, and then the object that
`loads` finds in them. -/
structure HttpResponse where
  headers : List (String × String) := []
  body : Except PyError (Except PyError JsonObject)

/-- Whatever answers the POST of the client. It may go by all that came before. -/
structure Server (ρ : Type) where
  urlopen : Post → ρ → Except PyError HttpResponse × ρ

/-- What a client did, the last first. This is for the reader only. -/
inductive Event where
  /-- `login` has stored a session that has no token yet. -/
  | started (keys : SessionKeys) (sign_key : RsaKey)
  | granted (stok : String)
  | dropped
  | posted (post : Post)
  /-- `_capture_cookie` has found this cookie. -/
  | captured (cookie : String)

/-- The client, with the server behind it and the log. -/
structure DecoClient (ρ : Type) where
  session : Option SessionContext := none
  cookie : Option String := none
  /-- How many AES pairs were generated, and how many texts were encrypted under RSA. -/
  pairs : Nat := 0
  encryptions : Nat := 0
  server : ρ
  log : List Event := []

/-- A program of the client. -/
abbrev ClientM (ρ : Type) := Prog PyError (DecoClient ρ)

/-! ## The transport -/

/-- A digit of the session cookie. -/
def is_cookie_digit (c : Char) : Bool :=
  ('0' ≤ c && c ≤ '9') || ('a' ≤ c && c ≤ 'f')

/-- The first match of `sysauth=[a-f0-9]+`. -/
def search_cookie : List Char → Option String
  | [] => none
  | c :: cs =>
    let digits := ((c :: cs).drop 8).takeWhile is_cookie_digit
    if "sysauth=".toList.isPrefixOf (c :: cs) ∧ digits ≠ [] then
      some ("sysauth=" ++ String.ofList digits)
    else search_cookie cs

/-- `_capture_cookie`: the first `Set-Cookie` header with a match. -/
def capture_cookie (headers : List (String × String)) : Option String :=
  headers.findSome? fun (name, value) =>
    if text.lower name = "set-cookie" then search_cookie value.toList else none

section

variable {ρ : Type} (server : Server ρ)

/-- `urlopen`, with the cookie of the session. -/
def send (url : String) (body : Body) : ClientM ρ (Except PyError HttpResponse) := fun c =>
  let sent : Post := { url, cookie := c.cookie, body }
  let (response, after) := server.urlopen sent c.server
  (.ok response, { c with server := after, log := .posted sent :: c.log })

/-- Keep the cookie that an answer sets. -/
def set_cookie (headers : List (String × String)) : ClientM ρ Unit :=
  match capture_cookie headers with
  | none => pure ()
  | some cookie => fun c =>
    (.ok (), { c with cookie := some cookie, log := .captured cookie :: c.log })

/-- `_post`. -/
def post (url : String) (body : Body) : ClientM ρ JsonObject := do
  let safe_url := redact_session_token url
  match ← send server url body with
  | .error e => Prog.raise (transport.post_error safe_url e)
  | .ok response => do
    set_cookie response.headers
    let content ← Prog.lift (transport.request safe_url response.body)
    Prog.lift content

/-! ## `DecoClient` -/

variable (lib : Libraries) (host username password : String)

/-- Keep a session. -/
def set_session (session : SessionContext) : ClientM ρ Unit := fun c =>
  (.ok (), { c with
    session := some session
    log := .started session.keys session.sign_key :: c.log })

/-- `self._session.stok = stok`. -/
def grant (stok : String) : ClientM ρ Unit := fun c =>
  (.ok (), { c with
    session := c.session.map fun session => { session with stok }
    log := .granted stok :: c.log })

/-- `client.is_authenticated`. -/
def is_authenticated : ClientM ρ Bool := fun c =>
  (.ok ((c.session.map SessionContext.is_authenticated).getD false), c)

/-- `client.invalidate_session`: the token and the cookie go. -/
def invalidate_session : ClientM ρ Unit := fun c =>
  (.ok (), { c with
    session := c.session.map SessionContext.invalidate
    cookie := none
    log := .dropped :: c.log })

/-- The error of a request before a login. -/
def not_authenticated : PyError where
  cls := .AuthenticationError
  message := "Failed to send request: not authenticated, call login() first"

/-- `_require_auth`. -/
def require_auth : ClientM ρ SessionContext := fun c =>
  match c.session with
  | some session =>
    if session.is_authenticated then (.ok session, c) else (.raised not_authenticated, c)
  | none => (.raised not_authenticated, c)

/-- The next AES key and IV. -/
def generate_aes_pair : ClientM ρ (String × String) := fun c =>
  (.ok (lib.aes_pair c.pairs), { c with pairs := c.pairs + 1 })

/-- The random bytes of the next encryption. -/
def next_padding : ClientM ρ Tokens := fun c =>
  (.ok (lib.padding c.encryptions), { c with encryptions := c.encryptions + 1 })

/-- The password under the key of the router. -/
def encrypt_password (pwd_key : RsaKey) : ClientM ρ String := do
  let tokens ← next_padding lib
  let (digits, _) ← Prog.lift
    (rsa_encrypt lib.log2_floor pwd_key.n pwd_key.e (text.encode password) tokens 0)
  return String.ofList digits

/-- `build_payload`, with the next padding. -/
def signed_payload (keys : SessionKeys) (sign_key : RsaKey) (data : JsonObject) :
    ClientM ρ String := do
  let tokens ← next_padding lib
  Prog.lift (build_payload lib.log2_floor lib.cbc lib.dumps keys sign_key data tokens 0)

/-- What a login gives. -/
structure LoginResult where
  stok : String
  usr_lvl : Int

/-- The errors of a login. -/
def login_error (message : String) : PyError where
  cls := .AuthenticationError
  message := "Failed to login: " ++ message

/-- `get_int(result, "usrLvl", default=1)`. -/
def user_level (result : JsonObject) : Int :=
  match result.lookup "usrLvl" with
  | none => 1
  | some (.bool value) => if value then 1 else 0
  | some (.int value) => value
  | some (.str value) => (int_of_text value).getD 1
  | some _ => 1

/-- What the response to a login grants. -/
def login_result (response : ApiResponse) : Except PyError LoginResult :=
  let result := response.result_object
  let stok := get_str result "stok"
  if stok = "" then .error (login_error "missing stok in response")
  else .ok { stok, usr_lvl := user_level result }

/-- The body of the handshake. -/
def read_operation : JsonObject := [("operation", .str "read")]

/-- The body of the login. -/
def login_body (password_encrypted : String) : JsonObject :=
  [("operation", .str "login"), ("params", .obj [("password", .str password_encrypted)])]

/-- The two keys of the handshake. -/
def handshake_keys (auth_raw keys_raw : JsonObject) : Except PyError (RsaKey × RsaKey) :=
  match get_str_tuple (get_object auth_raw "result") "key",
    get_str_tuple (get_object keys_raw "result") "password" with
  | n :: e :: _, pwd_n :: pwd_e :: _ => do
    let sign_key ← lib.from_hex n e
    let pwd_key ← lib.from_hex pwd_n pwd_e
    return (sign_key, pwd_key)
  | _, _ => .error (login_error "RSA key handshake malformed")

/-- `DecoClient.login`: the keys of the router, the new session, and the token that the answer
brings. -/
def login : ClientM ρ LoginResult := do
  let auth_raw ← post server (login_url host "auth") (.json read_operation)
  let keys_raw ← post server (login_url host "keys") (.json read_operation)
  let (sign_key, pwd_key) ← Prog.lift (handshake_keys lib auth_raw keys_raw)
  let seq := get_int (get_object auth_raw "result") "seq"
  let (aes_key, aes_iv) ← generate_aes_pair lib
  let session_hash := lib.md5 (username ++ password)
  let keys : SessionKeys := { aes_key, aes_iv, session_hash, seq }
  -- the session is stored before the router has accepted the password
  set_session { sign_key, pwd_key, keys }
  let password_encrypted ← encrypt_password lib password pwd_key
  let payload ← signed_payload lib keys sign_key (login_body password_encrypted)
  let raw ← post server (login_url host "login") (.form payload)
  let response ← Prog.lift (parse_encrypted_response lib raw keys)
  let result ← Prog.lift (login_result response)
  grant result.stok
  return result

/-- What a request is sent with. -/
structure Request where
  path : String
  form : String
  data : JsonObject
  authentication : Option AuthenticationMode := none
  form_selector : Bool := true

/-- The value of an `AuthenticationMode`. -/
def mode_name : AuthenticationMode → String
  | .encrypted => "encrypted"
  | .plain => "plain"
  | .multipart => "multipart"
  | .download => "download"
  | .bootstrap => "bootstrap"
  | .group_key => "group_key"
  | .token => "token"

/-- The mode of a request: its own, or that of its endpoint. -/
def Request.selected_authentication (request : Request) : AuthenticationMode :=
  request.authentication.getD
    (if is_plain_endpoint request.path request.form then .plain else .encrypted)

/-- The error of a mode that is not for this client. -/
def unsupported (mode : AuthenticationMode) : PyError :=
  value_error ("Failed to call API: transport '" ++ mode_name mode ++
    "' is not supported by the owner-session client")

/-- The form in the URL, where the request has one. -/
def Request.selector (request : Request) : Option String :=
  if request.form_selector then some request.form else none

/-- `client.request_envelope`: send in the mode of the request, and check the answer. -/
def request_envelope (request : Request) : ClientM ρ ApiResponse := do
  let session ← require_auth
  let url := endpoint_url host session.stok request.path request.selector
  let mode := request.selected_authentication
  if mode = .plain then do
    let raw ← post server url (.json request.data)
    Prog.lift (parse_plain_envelope raw)
  else if mode ≠ .encrypted then Prog.raise (unsupported mode)
  else do
    let payload ← signed_payload lib session.keys session.sign_key request.data
    let raw ← post server url (.form payload)
    Prog.lift (parse_encrypted_response lib raw session.keys)

/-- The request that ends a session. -/
def logout_request : Request where
  path := "admin/system"
  form := "logout"
  data := [("operation", .str "write")]

/-- The router that has no logout. -/
def logout_unavailable (e : PyError) : Bool :=
  e.isinstance [.TransportError] && e.code = some 404

/-- `DecoClient.logout`: the session is over even if the request fails. -/
def logout : ClientM ρ Unit := do
  if ← is_authenticated then
    match ← (request_envelope server lib host logout_request).trying fun _ => true with
    | .ok _ => invalidate_session
    | .error e => do
      invalidate_session
      if logout_unavailable e then pure () else Prog.raise e
  else pure ()

end

/-! ## Libraries that are written out -/

mutual

/-- A value that the reader of JSON gives, as the models hold it. -/
def json_value : json_reader.Value (Option Rat) Empty → Json
  | .null => .null
  | .bool value => .bool value
  | .int value => .int value
  | .float value => .float value
  | .str points => .str (String.ofList (points.map Char.ofNat))
  | .arr items => .arr (json_items items)
  | .obj fields => .obj (json_fields fields)

def json_items : List (json_reader.Value (Option Rat) Empty) → List Json
  | [] => []
  | item :: items => json_value item :: json_items items

def json_fields : List (List Nat × json_reader.Value (Option Rat) Empty) → JsonObject
  | [] => []
  | (key, value) :: fields =>
    (String.ofList (key.map Char.ofNat), json_value value) :: json_fields fields

end

/-- `json.loads`, for texts without floats. -/
def loads (text : String) : Except PyError Json :=
  match (json_reader.loads (fun _ => none) text).map json_value with
  | some value => .ok value
  | none => .error (value_error "no JSON")

/-- What AES gives for these texts, under the key and the initial vector of `request_keys`. -/
def exchanged : List (String × String) := [
  ("\x7b\"operation\":\"login\",\"params\":\x7b\"password\":\"b4065a626991ff38ac3868fc\"\x7d\x7d",
    "aCc6TE2ZyhUTk4EyM3BLm8ybfkSEQlWo9+4zq7REfofy3WO/h6qp0yGluQXx8uzU4j2M9Eew" ++
      "rOiMxkcggkZTNWMpYtWL+ButwDqGregsBcM="),
  ("\x7b\"error_code\":0,\"result\":\x7b\"stok\":\"a1\"\x7d\x7d",
    "IpxBsaT8EBq1y6wjSx5E+3hQGjLN1SznWAhSZbJDIKfhPLSlaAFB+c4CO3o3ib99"),
  ("\x7b\"operation\":\"read\"\x7d", "fRWsWuU+ZK9hMddivIRSDu2X77PSFh50KGPf9hkkHag="),
  ("\x7b\"operation\":\"write\"\x7d", "iH5rUx9wi2Pe26IL4ubjpXpIUJ6pn/uKz+KlMeS4OgM="),
  ("\x7b\"error_code\":0,\"result\":\x7b\x7d\x7d", "IpxBsaT8EBq1y6wjSx5E+4ZBQVqy08HZ5z5UTLcfpl0=")]

/-- A text, padded. -/
def plain_bytes (plaintext : String) : List UInt8 := pkcs7_pad (text.encode plaintext)

/-- A ciphertext, without its Base64. -/
def cipher_bytes (ciphertext_b64 : String) : List UInt8 :=
  match base64.decode ciphertext_b64.toList with
  | .ok data => data
  | .error _ => []

/-- The plaintexts and the ciphertexts of the pairs change places. -/
def exchange (pairs : List (String × String)) : Equiv.Perm (List UInt8) :=
  (pairs.map fun (plain, cipher) => Equiv.swap (plain_bytes plain) (cipher_bytes cipher)).prod

/-- `int(text, 16)` for both texts of a key. -/
def from_hex (n e : String) : Except PyError RsaKey :=
  match hexadecimal.number n.toList, hexadecimal.number e.toList with
  | some n, some e => .ok ⟨n, e⟩
  | _, _ => .error (value_error "invalid literal for int() with base 16")

/-- The libraries under these texts, keys and random numbers. -/
def admin_libraries : Libraries where
  dumps data := dumps (fun _ => "") (.obj data)
  loads
  md5 _ := "91183e1cb4e46961f86a2ef6287927ad"
  from_hex
  log2_floor := nearest_log2
  cbc :=
    { pad := pkcs7_pad
      encrypt := fun _ _ data => .ok (exchange exchanged data)
      decrypt := fun _ _ data => .ok ((exchange exchanged).symm data) }
  undecodable _ := ""
  aes_pair _ := ("1234567890123456", "6543210987654321")
  padding _ := ones

end tplink_deco_api.client
