-- The encrypted channel between the client and a router that follows the protocol. The calls of
-- the client have the replies that they would have if they were handed to the router as they are.
import TplinkDeco.Http.SessionSafety

open json prog refinement

namespace tplink_deco_api.client

open auth crypto endpoint_catalog exceptions models Prog

/-! ## A router that follows the protocol -/

/-- The keys of a router, its sequence number, and what it does once a request is decrypted. -/
structure Firmware (ρ : Type) where
  sign_key : RsaKey
  pwd_key : RsaKey
  sign_d : Nat
  pwd_d : Nat
  sign_hex : String × String
  pwd_hex : String × String
  seq : ρ → Int
  /-- The value of a text of JSON. -/
  read : String → Option JsonObject
  /-- The text that answers a login with this hash and this password. -/
  login : String → String → ρ → String × ρ
  /-- The text that answers a request for a path with its form. -/
  serve : String → JsonObject → ρ → String × ρ

/-- What the router keeps of the last login that it accepted. -/
structure Opened where
  keys : SessionKeys
  stok : String

/-- The session that is open, and the state of the router. -/
structure FirmwareState (ρ : Type) where
  opened : Option Opened := none
  world : ρ

section

variable {ρ : Type} (lib : Libraries) (fw : Firmware ρ) (host : String)

/-- The keys of a signature over data of this length. -/
def signed_keys (seq : Int) (data_len : Nat) (sign : String) : Option SessionKeys := do
  let plain ← (decrypt fw.sign_key.n fw.sign_d sign.toList).bind text.decode
  match form.fields plain.toList with
  | some [("k", aes_key), ("i", aes_iv), ("h", session_hash), ("s", total)] =>
    if total = toString (seq + data_len) then some { aes_key, aes_iv, session_hash, seq } else none
  | _ => none

/-- The keys and the value of the body of a request. -/
def opened_request (seq : Int) (body : String) : Option (SessionKeys × JsonObject) :=
  match form.fields body.toList with
  | some [("sign", sign), ("data", data_b64)] => do
    let keys ← signed_keys fw seq data_b64.length sign
    let plain ← open_data lib.cbc keys.aes_key keys.aes_iv data_b64
    let data ← fw.read plain
    return (keys, data)
  | _ => none

/-- The password that the router reads. -/
def sent_password (data : JsonObject) : Option String := do
  let digits ← (get (get_object data "params") "password").asStr
  (decrypt fw.pwd_key.n fw.pwd_d digits.toList).bind text.decode

/-- The answer to what the router does not accept. -/
def refused : Except PyError HttpResponse :=
  .error { cls := .HTTPError, message := "Forbidden", code := some 403 }

/-- An answer with a JSON body. -/
def json_response (content : Except PyError JsonObject) : Except PyError HttpResponse :=
  .ok { body := .ok content }

/-- A response with this text, encrypted under the keys of the session. -/
def sealed (keys : SessionKeys) (plaintext : String) : Except PyError HttpResponse :=
  match aes_encrypt lib.cbc keys.aes_key keys.aes_iv plaintext with
  | .ok data_b64 => json_response (.ok [("data", .str data_b64)])
  | .error _ => refused

/-- `loads` of the bytes of a response. -/
def load_object (payload : String) : Except PyError JsonObject := do
  match ← lib.loads payload with
  | .obj parsed => .ok parsed
  | _ => .error (value_error "Failed to parse JSON: top level is not an object")

/-- What the text of a response to a login grants. -/
def granted (plaintext : String) : Except PyError LoginResult := do
  let response ← parse_decrypted lib plaintext
  login_result response

/-- The signature key and the sequence number. -/
def auth_answer (seq : Int) : JsonObject :=
  [("result", .obj [("key", .arr [.str fw.sign_hex.1, .str fw.sign_hex.2]), ("seq", .int seq)])]

/-- The password key. -/
def keys_answer : JsonObject :=
  [("result", .obj [("password", .arr [.str fw.pwd_hex.1, .str fw.pwd_hex.2])])]

/-- The router opens a session if it can read the login. -/
def accept_login (body : Body) (state : FirmwareState ρ) :
    Except PyError HttpResponse × FirmwareState ρ :=
  match body with
  | .json _ => (refused, state)
  | .form payload =>
    match opened_request lib fw (fw.seq state.world) payload with
    | none => (refused, state)
    | some (keys, data) =>
      match sent_password fw data with
      | none => (refused, state)
      | some password =>
        let (plaintext, world) := fw.login keys.session_hash password state.world
        let opened := (granted lib plaintext).toOption.map fun result =>
          { keys, stok := result.stok }
        (sealed lib keys plaintext, { opened, world })

/-- A request with the token of the open session. -/
def accept_request (session : Opened) (rest : String) (body : Body) (state : FirmwareState ρ) :
    Except PyError HttpResponse × FirmwareState ρ :=
  match body with
  | .json data =>
    let (plaintext, world) := fw.serve rest data state.world
    (json_response (load_object lib plaintext), { state with world })
  | .form payload =>
    match opened_request lib fw session.keys.seq payload with
    | none => (refused, state)
    | some (keys, data) =>
      if keys = session.keys then
        let (plaintext, world) := fw.serve rest data state.world
        (sealed lib keys plaintext, { state with world })
      else (refused, state)

/-- What the URLs of a session start with. -/
def session_url (stok : String) : String :=
  "https://" ++ host ++ "/cgi-bin/luci/;stok=" ++ stok ++ "/"

/-- The router answers a request: of the session that is open, or of a login. -/
def Firmware.urlopen (p : Post) (state : FirmwareState ρ) :
    Except PyError HttpResponse × FirmwareState ρ :=
  match state.opened.filter fun session =>
    text.starts_with p.url (session_url host session.stok) with
  | some session =>
    accept_request lib fw session (text.removeprefix p.url (session_url host session.stok)) p.body
      state
  | none =>
    if p.url = login_url host "auth" then
      (json_response (.ok (auth_answer fw (fw.seq state.world))), state)
    else if p.url = login_url host "keys" then (json_response (.ok (keys_answer fw)), state)
    else if p.url = login_url host "login" then accept_login lib fw p.body state
    else (refused, state)

/-! ## The channel without encryption -/

/-- The router without a channel: whether someone is logged in, and its state. -/
structure Direct (ρ : Type) where
  authenticated : Bool := false
  world : ρ

/-- An answer as an outcome. -/
def settled {α β : Type} (f : α → β) : Except PyError α → Outcome PyError β
  | .ok a => .ok (f a)
  | .error e => .raised e

/-- The path of a request, with its form. -/
def Request.rest (request : Request) : String :=
  match request.selector with
  | some form => stripped '/' request.path ++ "?form=" ++ form
  | none => stripped '/' request.path

/-- The envelope that is read in the text of a response. -/
def Request.parsed (request : Request) (plaintext : String) : Except PyError ApiResponse :=
  if request.selected_authentication = .plain then
    load_object lib plaintext >>= parse_plain_envelope
  else parse_decrypted lib plaintext

/-- The client can send it. -/
def Request.supported (request : Request) : Bool :=
  request.selected_authentication ∈ [.plain, .encrypted]

/-- The request reaches the router as it is. -/
def hand_over (request : Request) (s : Direct ρ) : Except PyError ApiResponse × Direct ρ :=
  if ¬ s.authenticated then (.error not_authenticated, s)
  else if ¬ request.supported then (.error (unsupported request.selected_authentication), s)
  else
    let (plaintext, world) := fw.serve request.rest request.data s.world
    (request.parsed lib plaintext, { s with world })

/-- The login reaches the router as it is. -/
def hand_over_login (username password : String) (s : Direct ρ) :
    Except PyError LoginResult × Direct ρ :=
  let (plaintext, world) := fw.login (lib.md5 (username ++ password)) password s.world
  let result := granted lib plaintext
  (result, { authenticated := result.toOption.isSome, world })

/-- What a call gives if the router gets the password and the requests as they are. -/
def direct_step (username password : String) (s : Direct ρ) :
    Call → Outcome PyError Answer × Direct ρ
  | .login =>
    let (result, s') := hand_over_login lib fw username password s
    (settled .granted result, s')
  | .request request =>
    let (response, s') := hand_over lib fw request s
    (settled .response response, s')
  | .invalidate_session => (.ok .done, { s with authenticated := false })
  | .logout =>
    if ¬ s.authenticated then (.ok .done, s)
    else
      let (response, s') := hand_over lib fw logout_request s
      match response with
      | .ok _ => (.ok .done, { s' with authenticated := false })
      | .error e =>
        (if logout_unavailable e then .ok .done else .raised e, { s' with authenticated := false })

end

/-! ## What the channel rests on -/

/-- A key whose blocks the other side reads. -/
structure Readable (lib : Libraries) (key : RsaKey) (d : Nat) : Prop where
  size : 12 ≤ byte_length key.n
  undoes : modular.Undoes key.n key.e d
  blocks : block_size lib.log2_floor key.n = byte_length key.n

/-- What is known of the libraries. -/
structure Libraries.Sound (lib : Libraries) : Prop where
  aes_pair : ∀ n, Digits16 (lib.aes_pair n).1 ∧ Digits16 (lib.aes_pair n).2
  md5 : ∀ s, hexadecimal.Digits (lib.md5 s).toList
  cbc : lib.cbc.Inverse
  cbc_length : ∀ key iv data enc, lib.cbc.encrypt key iv data = .ok enc → enc.length = data.length

/-- The keys of the router fit together, and the client can read them. -/
structure Firmware.Sound {ρ : Type} (lib : Libraries) (fw : Firmware ρ) : Prop where
  sign_hex : lib.from_hex fw.sign_hex.1 fw.sign_hex.2 = .ok fw.sign_key
  pwd_hex : lib.from_hex fw.pwd_hex.1 fw.pwd_hex.2 = .ok fw.pwd_key
  sign : Readable lib fw.sign_key fw.sign_d
  pwd : Readable lib fw.pwd_key fw.pwd_d
  seq : ∀ w, 0 ≤ fw.seq w
  read_login : ∀ digits, hexadecimal.Digits digits →
    fw.read (lib.dumps (login_body (String.ofList digits))) =
      some (login_body (String.ofList digits))
  read_logout : fw.read (lib.dumps logout_request.data) = some logout_request.data
  /-- A token is one part of the path of a URL. -/
  stok : ∀ hash password w result, granted lib (fw.login hash password w).1 = .ok result →
    '/' ∉ result.stok.toList

/-- The router reads the JSON of the request. -/
def Legible {ρ : Type} (lib : Libraries) (fw : Firmware ρ) : Call → Prop
  | .request request => fw.read (lib.dumps request.data) = some request.data
  | _ => True

/-! ## One message -/

section

variable {ρ : Type} {lib : Libraries} {fw : Firmware ρ} {host username password : String}

/-- The text of a signature is the body of a form. -/
theorem fields_sign_text {keys : SessionKeys} (h : keys.Valid) (data_len : Nat) :
    form.fields (sign_text keys data_len).toList =
      some [("k", keys.aes_key), ("i", keys.aes_iv), ("h", keys.session_hash),
        ("s", toString (keys.seq + data_len))] := by
  have hdigits : ∀ {s : String}, (∀ c ∈ s.toList, c.isDigit = true) →
      hexadecimal.Digits s.toList := by
    intro s hs c hc
    have hbounds := digit_bounds (hs c hc)
    unfold hexadecimal.value
    rw [if_pos ⟨hbounds.1, hbounds.2⟩]
    rfl
  have hsum : ∃ n : Nat, toString (keys.seq + data_len) = n.repr := by
    obtain ⟨n, hn⟩ := Int.eq_ofNat_of_zero_le (Int.add_nonneg h.seq (Int.natCast_nonneg data_len))
    rw [hn]
    exact ⟨n, rfl⟩
  obtain ⟨n, hn⟩ := hsum
  have hnumber : form.quote_plus (toString (keys.seq + data_len)) =
      (toString (keys.seq + data_len)).toList := by
    apply form.quote_plus_of_digits
    rw [hn]
    apply hdigits
    intro c hc
    rw [Nat.toList_repr] at hc
    exact Nat.isDigit_of_mem_toDigits (by decide) (by decide) hc
  have hnames : form.quote_plus "k" = "k".toList ∧ form.quote_plus "i" = "i".toList ∧
      form.quote_plus "h" = "h".toList ∧ form.quote_plus "s" = "s".toList := by
    decide +kernel
  have hbody : (sign_text keys data_len).toList = form.body [("k", keys.aes_key),
      ("i", keys.aes_iv), ("h", keys.session_hash), ("s", toString (keys.seq + data_len))] := by
    unfold form.body sign_text
    simp only [List.map_cons, List.map_nil, hnames, hnumber,
      form.quote_plus_of_digits (hdigits h.aes_key.2),
      form.quote_plus_of_digits (hdigits h.aes_iv.2),
      form.quote_plus_of_digits h.session_hash, String.toList_append]
    simp
  rw [hbody, form.fields_body (by simp)]

/-- A body that the client builds is opened as it was meant. -/
theorem opened_request_built (hlib : lib.Sound) (hfw : fw.Sound lib) {keys : SessionKeys}
    (hkeys : keys.Valid) {data : JsonObject} (hread : fw.read (lib.dumps data) = some data)
    (tokens : Tokens) :
    ∃ payload, build_payload lib.log2_floor lib.cbc lib.dumps keys fw.sign_key data tokens 0 =
        .ok payload ∧ opened_request lib fw keys.seq payload = some (keys, data) := by
  obtain ⟨payload, hbuilt, sign, data_b64, hfields, hdata, hsign⟩ :=
    round_trips_of_block_size hlib.cbc.correct hkeys hfw.sign.size hfw.sign.undoes
      hfw.sign.blocks tokens 0
  refine ⟨payload, hbuilt, ?_⟩
  have hsigned : signed_keys fw keys.seq data_b64.length sign = some keys := by
    unfold signed_keys
    rw [hsign]
    simp only [Option.bind_eq_bind, Option.bind_some, fields_sign_text hkeys, if_true]
  unfold opened_request
  rw [hfields]
  simp only [hsigned, Option.bind_eq_bind, Option.bind_some, hdata, hread]
  rfl

/-- The client reads the text that the router has encrypted. -/
theorem parse_sealed (hlib : lib.Sound) {keys : SessionKeys} (hkeys : keys.Valid)
    (plaintext : String) :
    ∃ raw, sealed lib keys plaintext = json_response (.ok raw) ∧
      parse_encrypted_response lib raw keys = parse_decrypted lib plaintext := by
  have hkey : (text.encode keys.aes_key).length ∈ [16, 24, 32] := by
    rw [hkeys.aes_key.length_encode]
    decide
  obtain ⟨enc, henc⟩ := hlib.cbc.encrypts _ _ _ hkey hkeys.aes_iv.length_encode
    (dvd_length_pkcs7_pad (text.encode plaintext))
  have hencrypted : aes_encrypt lib.cbc keys.aes_key keys.aes_iv plaintext =
      .ok (String.ofList (base64.encode enc)) := by
    rw [aes_encrypt, hlib.cbc.pads, henc]
    rfl
  have hne : String.ofList (base64.encode enc) ≠ "" := by
    intro hempty
    have hnil : base64.encode enc = [] := by
      rw [← String.toList_inj, String.toList_ofList] at hempty
      exact hempty
    have hback := base64.decode_encode enc
    have hnone : base64.decode [] = .ok [] := base64.decode_encode []
    rw [hnil, hnone] at hback
    have hlength := hlib.cbc_length _ _ _ _ henc
    rw [← Except.ok.inj hback, pkcs7_pad, List.length_append, List.length_replicate,
      List.length_nil] at hlength
    omega
  refine ⟨_, by rw [sealed, hencrypted], ?_⟩
  have hdata : (get [("data", Json.str (String.ofList (base64.encode enc)))] "data").asStr =
      some (String.ofList (base64.encode enc)) := rfl
  unfold parse_encrypted_response
  rw [hdata]
  simp only [if_neg hne, aes_decrypt_aes_encrypt hlib.cbc hencrypted]
  rfl

/-- The router reads the password that the client has encrypted. -/
theorem sent_password_encrypted (hfw : fw.Sound lib) (password : String) (tokens : Tokens) :
    ∃ digits calls, rsa_encrypt lib.log2_floor fw.pwd_key.n fw.pwd_key.e (text.encode password)
        tokens 0 = .ok (digits, calls) ∧ hexadecimal.Digits digits ∧
      sent_password fw (login_body (String.ofList digits)) = some password := by
  obtain ⟨digits, calls, hrun, hhex, hdecrypt⟩ := decrypt_rsa_encrypt (text.encode password)
    tokens 0 hfw.pwd.size hfw.pwd.undoes hfw.pwd.blocks
  refine ⟨digits, calls, hrun, hhex, ?_⟩
  have hdigits : (get (get_object (login_body (String.ofList digits)) "params") "password").asStr =
      some (String.ofList digits) := rfl
  unfold sent_password
  rw [hdigits]
  simp only [Option.bind_eq_bind, Option.bind_some, String.toList_ofList, hdecrypt,
    text.decode_encode]

/-! ## One request -/

/-- The client after a POST that this router has answered. -/
def DecoClient.answered (c : DecoClient (FirmwareState ρ)) (url : String) (body : Body)
    (state : FirmwareState ρ) : DecoClient (FirmwareState ρ) :=
  { c with server := state, log := .posted ⟨url, c.cookie, body⟩ :: c.log }

/-- The router of this firmware, as the client meets it. -/
def router (lib : Libraries) (fw : Firmware ρ) (host : String) : Server (FirmwareState ρ) :=
  ⟨fw.urlopen lib host⟩

theorem post_run {c : DecoClient (FirmwareState ρ)} {url : String} {body : Body}
    {content : Except PyError JsonObject} {state : FirmwareState ρ}
    (h : fw.urlopen lib host ⟨url, c.cookie, body⟩ c.server = (json_response content, state)) :
    post (router lib fw host) url body c = Prog.lift content (c.answered url body state) := by
  have hsend : send (router lib fw host) url body c =
      (.ok (json_response content), c.answered url body state) := by
    unfold send router
    dsimp only
    rw [h]
    rfl
  unfold post
  rw [bind_ok hsend]
  rfl

theorem endpoint_url_eq (stok : String) (request : Request) :
    endpoint_url host stok request.path request.selector =
      session_url host stok ++ request.rest := by
  unfold endpoint_url session_url Request.rest
  cases request.selector with
  | none => rfl
  | some form => simp only [String.append_assoc]

/-- A URL of the handshake is none of a session. -/
theorem login_url_not_in_session {stok : String} (hne : stok ≠ "") (hstok : '/' ∉ stok.toList)
    (form : String) : text.starts_with (login_url host form) (session_url host stok) = false := by
  unfold text.starts_with
  rw [decide_eq_false_iff_not]
  intro hprefix
  have hlogin : (login_url host form).toList =
      ("https://" ++ host ++ "/cgi-bin/luci/;stok=").toList ++ ("/login?form=" ++ form).toList := by
    rw [← String.toList_append]
    unfold login_url
    simp only [String.append_assoc]
    rfl
  have hsession : (session_url host stok).toList =
      ("https://" ++ host ++ "/cgi-bin/luci/;stok=").toList ++ (stok ++ "/").toList := by
    rw [← String.toList_append]
    unfold session_url
    simp only [String.append_assoc]
  rw [hlogin, hsession, List.prefix_append_right_inj] at hprefix
  obtain ⟨c, rest, hcons⟩ := List.exists_cons_of_ne_nil
    (show stok.toList ≠ [] from fun h => hne (String.toList_eq_nil_iff.mp h))
  rw [String.toList_append, hcons, List.cons_append, String.toList_append] at hprefix
  obtain ⟨hc, -⟩ := List.cons_prefix_cons.mp hprefix
  rw [hcons, hc] at hstok
  exact hstok List.mem_cons_self

/-- The client and the router hold the same session. -/
structure Agreed (fw : Firmware ρ) (c : DecoClient (FirmwareState ρ)) (session : SessionContext) :
    Prop where
  held : c.session = some session
  opened : c.server.opened = some ⟨session.keys, session.stok⟩
  sign_key : session.sign_key = fw.sign_key
  keys : session.keys.Valid
  stok : session.stok ≠ "" ∧ '/' ∉ session.stok.toList

/-- The state of the direct channel is that of the client and the router. -/
structure Related (fw : Firmware ρ) (c : DecoClient (FirmwareState ρ)) (s : Direct ρ) : Prop where
  world : c.server.world = s.world
  cookie : c.cookie = none
  opened : s.authenticated = true → ∃ session, Agreed fw c session
  closed : s.authenticated = false → ∀ session, c.session = some session → session.stok = ""
  tokens : ∀ o, c.server.opened = some o → o.stok ≠ "" ∧ '/' ∉ o.stok.toList

/-- The router takes a request with the token of its session. -/
theorem urlopen_in_session (lib : Libraries) (host : String)
    {c : DecoClient (FirmwareState ρ)} {session : SessionContext} (h : Agreed fw c session)
    (request : Request) (cookie : Option String) (body : Body) :
    fw.urlopen lib host
        ⟨endpoint_url host session.stok request.path request.selector, cookie, body⟩ c.server =
      accept_request lib fw ⟨session.keys, session.stok⟩ request.rest body c.server := by
  unfold Firmware.urlopen
  simp only [h.opened, endpoint_url_eq, Option.filter, text.starts_with_append, if_true,
    text.removeprefix_append]

theorem urlopen_handshake {c : DecoClient (FirmwareState ρ)} {s : Direct ρ} (h : Related fw c s)
    (form : String) (cookie : Option String) (body : Body) :
    c.server.opened.filter (fun session => text.starts_with
      (⟨login_url host form, cookie, body⟩ : Post).url (session_url host session.stok)) = none := by
  cases hopened : c.server.opened with
  | none => rfl
  | some o =>
    obtain ⟨hne, hstok⟩ := h.tokens o hopened
    simp [Option.filter, login_url_not_in_session hne hstok]

theorem require_auth_held {c : DecoClient (FirmwareState ρ)} {session : SessionContext}
    (h : Agreed fw c session) : require_auth c = (.ok session, c) := by
  have hauth : session.is_authenticated = true := decide_eq_true h.stok.1
  unfold require_auth
  rw [h.held]
  simp [hauth]

theorem require_auth_closed {c : DecoClient (FirmwareState ρ)}
    (h : ∀ session, c.session = some session → session.stok = "") :
    require_auth c = (.raised not_authenticated, c) := by
  unfold require_auth
  split
  · rename_i session hsession
    have hauth : session.is_authenticated = false := by
      unfold SessionContext.is_authenticated
      simp [h session hsession]
    simp [hauth]
  · rfl

theorem Related.padded {c : DecoClient (FirmwareState ρ)} {s : Direct ρ} (h : Related fw c s) :
    Related fw c.padded s where
  world := h.world
  cookie := h.cookie
  opened hauth := by
    obtain ⟨session, hagreed⟩ := h.opened hauth
    exact ⟨session, hagreed.held, hagreed.opened, hagreed.sign_key, hagreed.keys, hagreed.stok⟩
  closed := h.closed
  tokens := h.tokens

/-- A request changes what is behind the router, and the log of the client. -/
theorem Related.answered {c : DecoClient (FirmwareState ρ)} {s : Direct ρ} (h : Related fw c s)
    (url : String) (body : Body) (world : ρ) :
    Related fw (c.answered url body { c.server with world }) { s with world } where
  world := rfl
  cookie := h.cookie
  opened hauth := by
    obtain ⟨session, hagreed⟩ := h.opened hauth
    exact ⟨session, hagreed.held, hagreed.opened, hagreed.sign_key, hagreed.keys, hagreed.stok⟩
  closed := h.closed
  tokens := h.tokens

theorem lift_bind_run {α β σ : Type} (x : Except PyError α) (f : α → Except PyError β) (s : σ) :
    (Prog.lift x >>= fun a => Prog.lift (f a) : Prog PyError σ β) s =
      (settled id (x >>= f), s) := by
  cases x with
  | error e => rfl
  | ok a =>
    show (Prog.lift (f a) : Prog PyError σ β) s = (settled id (f a), s)
    cases f a <;> rfl

/-- A POST and the reading of its content. -/
theorem post_bind_run {α : Type} {c : DecoClient (FirmwareState ρ)} {url : String} {body : Body}
    {content : Except PyError JsonObject} {state : FirmwareState ρ}
    (h : fw.urlopen lib host ⟨url, c.cookie, body⟩ c.server = (json_response content, state))
    (f : JsonObject → Except PyError α) :
    (post (router lib fw host) url body >>= fun raw => Prog.lift (f raw)) c =
      (settled id (content >>= f), c.answered url body state) := by
  rw [← lift_bind_run, bind_run, post_run h, ← bind_run]

theorem request_plain_run {c : DecoClient (FirmwareState ρ)} {session : SessionContext}
    (h : Agreed fw c session) {request : Request}
    (hmode : request.selected_authentication = .plain) :
    request_envelope (router lib fw host) lib host request c =
      (settled id (request.parsed lib (fw.serve request.rest request.data c.server.world).1),
        c.answered (endpoint_url host session.stok request.path request.selector)
          (.json request.data)
          { c.server with world := (fw.serve request.rest request.data c.server.world).2 }) := by
  have hserved := urlopen_in_session lib host h request c.cookie (.json request.data)
  have hparsed : request.parsed lib = fun plaintext =>
      load_object lib plaintext >>= parse_plain_envelope := by
    funext plaintext
    unfold Request.parsed
    rw [if_pos hmode]
  unfold request_envelope
  rw [bind_ok (require_auth_held h), hparsed]
  simp only [hmode, if_true]
  exact post_bind_run hserved parse_plain_envelope

theorem request_encrypted_run (host : String) (hlib : lib.Sound) (hfw : fw.Sound lib)
    {c : DecoClient (FirmwareState ρ)} {session : SessionContext} (h : Agreed fw c session)
    {request : Request} (hread : fw.read (lib.dumps request.data) = some request.data)
    (hmode : request.selected_authentication = .encrypted) :
    ∃ payload, request_envelope (router lib fw host) lib host request c =
      (settled id (request.parsed lib (fw.serve request.rest request.data c.server.world).1),
        c.padded.answered (endpoint_url host session.stok request.path request.selector)
          (.form payload)
          { c.server with world := (fw.serve request.rest request.data c.server.world).2 }) := by
  obtain ⟨payload, hbuilt, hopened⟩ := opened_request_built hlib hfw h.keys hread
    (lib.padding c.encryptions)
  obtain ⟨raw, hsealed, hparse⟩ := parse_sealed hlib h.keys
    (fw.serve request.rest request.data c.server.world).1
  refine ⟨payload, ?_⟩
  have hserved := urlopen_in_session lib host h request c.cookie (.form payload)
  unfold accept_request at hserved
  simp only [hopened, if_true, hsealed] at hserved
  have hsigned : signed_payload lib session.keys session.sign_key request.data c =
      (.ok payload, c.padded) := by
    rw [signed_payload_run, h.sign_key, hbuilt]
    rfl
  have hparsed : request.parsed lib = parse_decrypted lib := by
    funext plaintext
    unfold Request.parsed
    rw [hmode, if_neg (by decide)]
  unfold request_envelope
  rw [bind_ok (require_auth_held h)]
  simp only [hmode]
  rw [if_neg (by decide), if_neg (by decide), bind_ok hsigned, hparsed, ← hparse]
  exact post_bind_run (c := c.padded) hserved fun raw =>
    parse_encrypted_response lib raw session.keys

theorem request_envelope_run (host : String) (hlib : lib.Sound) (hfw : fw.Sound lib)
    {c : DecoClient (FirmwareState ρ)} {s : Direct ρ} (h : Related fw c s) {request : Request}
    (hread : fw.read (lib.dumps request.data) = some request.data) :
    (request_envelope (router lib fw host) lib host request c).1 =
        settled id (hand_over lib fw request s).1 ∧
      Related fw (request_envelope (router lib fw host) lib host request c).2
        (hand_over lib fw request s).2 := by
  unfold hand_over
  by_cases hauth : s.authenticated = true
  · obtain ⟨session, hagreed⟩ := h.opened hauth
    rw [if_neg (not_not.mpr hauth)]
    by_cases hplain : request.selected_authentication = .plain
    · have hsupported : request.supported = true := by
        unfold Request.supported
        simp [hplain]
      rw [if_neg (not_not.mpr hsupported), request_plain_run hagreed hplain, h.world]
      exact ⟨rfl, h.answered _ _ _⟩
    · by_cases hencrypted : request.selected_authentication = .encrypted
      · have hsupported : request.supported = true := by
          unfold Request.supported
          simp [hencrypted]
        obtain ⟨payload, hrun⟩ := request_encrypted_run host hlib hfw hagreed hread
          hencrypted
        rw [if_neg (not_not.mpr hsupported), hrun, h.world]
        exact ⟨rfl, h.padded.answered _ _ _⟩
      · have hsupported : ¬ request.supported = true := by
          unfold Request.supported
          simp [hplain, hencrypted]
        have hrun : request_envelope (router lib fw host) lib host request c =
            (.raised (unsupported request.selected_authentication), c) := by
          unfold request_envelope
          rw [bind_ok (require_auth_held hagreed)]
          simp only [if_neg hplain, ne_eq, hencrypted, not_false_eq_true, if_true]
          rfl
        rw [if_pos hsupported, hrun]
        exact ⟨rfl, h⟩
  · have hclosed : s.authenticated = false := Bool.eq_false_iff.mpr hauth
    have hrun : request_envelope (router lib fw host) lib host request c =
        (.raised not_authenticated, c) := by
      unfold request_envelope
      rw [bind_raised (require_auth_closed (h.closed hclosed))]
    rw [if_pos hauth, hrun]
    exact ⟨rfl, h⟩

/-! ## The login -/

theorem Related.same_world {c : DecoClient (FirmwareState ρ)} {s : Direct ρ} (h : Related fw c s)
    (url : String) (body : Body) : Related fw (c.answered url body c.server) s := by
  have hworld : { s with world := c.server.world } = s := by rw [h.world]
  have hanswered := h.answered url body c.server.world
  rwa [hworld] at hanswered

theorem post_auth_run {c : DecoClient (FirmwareState ρ)} {s : Direct ρ} (h : Related fw c s) :
    post (router lib fw host) (login_url host "auth") (.json read_operation) c =
      (.ok (auth_answer fw (fw.seq s.world)),
        c.answered (login_url host "auth") (.json read_operation) c.server) := by
  have hserved : fw.urlopen lib host ⟨login_url host "auth", c.cookie, .json read_operation⟩
      c.server = (json_response (.ok (auth_answer fw (fw.seq s.world))), c.server) := by
    unfold Firmware.urlopen
    rw [urlopen_handshake h, if_pos rfl, h.world]
  rw [post_run hserved]
  rfl

theorem login_url_injective {form form' : String} (h : login_url host form = login_url host form') :
    form = form' := by
  unfold login_url at h
  exact String.append_right_inj _ |>.mp h

theorem post_keys_run {c : DecoClient (FirmwareState ρ)} {s : Direct ρ} (h : Related fw c s) :
    post (router lib fw host) (login_url host "keys") (.json read_operation) c =
      (.ok (keys_answer fw),
        c.answered (login_url host "keys") (.json read_operation) c.server) := by
  have hne : login_url host "keys" ≠ login_url host "auth" := fun heq =>
    absurd (login_url_injective heq) (by decide)
  have hserved : fw.urlopen lib host ⟨login_url host "keys", c.cookie, .json read_operation⟩
      c.server = (json_response (.ok (keys_answer fw)), c.server) := by
    unfold Firmware.urlopen
    rw [urlopen_handshake h]
    dsimp only
    rw [if_neg hne, if_pos rfl]
  rw [post_run hserved]
  rfl

/-- The keys and the number of the handshake are those of the router. -/
theorem handshake_keys_of_answers (hfw : fw.Sound lib) (seq : Int) :
    handshake_keys lib (auth_answer fw seq) (keys_answer fw) =
        .ok (fw.sign_key, fw.pwd_key) ∧
      get_int (get_object (auth_answer fw seq) "result") "seq" = seq := by
  have hkey : get_str_tuple (get_object (auth_answer fw seq) "result") "key" =
      [fw.sign_hex.1, fw.sign_hex.2] := rfl
  have hpassword : get_str_tuple (get_object (keys_answer fw) "result") "password" =
      [fw.pwd_hex.1, fw.pwd_hex.2] := rfl
  refine ⟨?_, rfl⟩
  unfold handshake_keys
  rw [hkey, hpassword]
  simp only [hfw.sign_hex, hfw.pwd_hex]
  rfl

/-- The keys that the client draws, with the number of the router. -/
def drawn_keys (lib : Libraries) (fw : Firmware ρ) (username password : String) (pairs : Nat)
    (w : ρ) : SessionKeys where
  aes_key := (lib.aes_pair pairs).1
  aes_iv := (lib.aes_pair pairs).2
  session_hash := lib.md5 (username ++ password)
  seq := fw.seq w

theorem drawn_keys_valid (hlib : lib.Sound) (hfw : fw.Sound lib) (pairs : Nat) (w : ρ) :
    (drawn_keys lib fw username password pairs w).Valid where
  aes_key := (hlib.aes_pair pairs).1
  aes_iv := (hlib.aes_pair pairs).2
  session_hash := hlib.md5 _
  seq := hfw.seq w

/-- What is left of the login when the router has answered it. -/
def finish_login (lib : Libraries) (keys : SessionKeys) (raw : JsonObject) :
    ClientM (FirmwareState ρ) LoginResult := do
  let response ← Prog.lift (parse_encrypted_response lib raw keys)
  let result ← Prog.lift (login_result response)
  grant result.stok
  return result

/-- A login grants a token. -/
theorem granted_stok {plaintext : String} {result : LoginResult}
    (h : granted lib plaintext = .ok result) : result.stok ≠ "" := by
  unfold granted at h
  cases hresponse : parse_decrypted lib plaintext with
  | error e =>
    rw [hresponse] at h
    cases h
  | ok response =>
    rw [hresponse] at h
    have hresult : login_result response = .ok result := h
    unfold login_result at hresult
    dsimp only at hresult
    split at hresult
    · cases hresult
    · rename_i hne
      rw [← Except.ok.inj hresult]
      exact hne

theorem finish_login_run {keys : SessionKeys} {raw : JsonObject} {plaintext : String}
    (h : parse_encrypted_response lib raw keys = parse_decrypted lib plaintext)
    (c : DecoClient (FirmwareState ρ)) :
    finish_login lib keys raw c = (settled id (granted lib plaintext),
      match granted lib plaintext with
      | .ok result => (grant result.stok c).2
      | .error _ => c) := by
  unfold finish_login granted
  rw [h]
  cases parse_decrypted lib plaintext with
  | error e => rfl
  | ok response =>
    have hgranted : (do
        let response ← (Except.ok response : Except PyError ApiResponse)
        login_result response) = login_result response := rfl
    rw [bind_ok (lift_ok response c), hgranted]
    cases login_result response with
    | error e => rfl
    | ok result => rfl

/-- What is left of the login when the session is stored. -/
def login_with_keys (lib : Libraries) (fw : Firmware ρ) (host password : String)
    (keys : SessionKeys) : ClientM (FirmwareState ρ) LoginResult := do
  let password_encrypted ← encrypt_password lib password fw.pwd_key
  let payload ← signed_payload lib keys fw.sign_key (login_body password_encrypted)
  let raw ← post (router lib fw host) (login_url host "login") (.form payload)
  finish_login lib keys raw

theorem login_with_keys_run (hlib : lib.Sound) (hfw : fw.Sound lib)
    {c : DecoClient (FirmwareState ρ)} {s : Direct ρ} (h : Related fw c s) (pairs : Nat)
    {keys : SessionKeys} (hkeys : keys = drawn_keys lib fw username password pairs s.world)
    (hsession : c.session = some { sign_key := fw.sign_key, pwd_key := fw.pwd_key, keys }) :
    (login_with_keys lib fw host password keys c).1 =
        settled id (hand_over_login lib fw username password s).1 ∧
      Related fw (login_with_keys lib fw host password keys c).2
        (hand_over_login lib fw username password s).2 := by
  have hvalid : keys.Valid := hkeys ▸ drawn_keys_valid hlib hfw pairs s.world
  obtain ⟨digits, calls, hrsa, hhex, hsent⟩ := sent_password_encrypted hfw password
    (lib.padding c.encryptions)
  obtain ⟨payload, hbuilt, hopened⟩ := opened_request_built hlib hfw hvalid
    (hfw.read_login digits hhex) (lib.padding c.padded.encryptions)
  obtain ⟨raw, hsealed, hparse⟩ := parse_sealed hlib hvalid
    (fw.login keys.session_hash password s.world).1
  have hlogin : fw.urlopen lib host ⟨login_url host "login", c.padded.padded.cookie,
      .form payload⟩ c.padded.padded.server = (json_response (.ok raw),
        { opened := (granted lib (fw.login keys.session_hash password s.world).1).toOption.map
            fun result => { keys, stok := result.stok }
          world := (fw.login keys.session_hash password s.world).2 }) := by
    have hauth : login_url host "login" ≠ login_url host "auth" := fun heq =>
      absurd (login_url_injective heq) (by decide)
    have hkeys_form : login_url host "login" ≠ login_url host "keys" := fun heq =>
      absurd (login_url_injective heq) (by decide)
    have hseq : fw.seq s.world = keys.seq := by rw [hkeys]; rfl
    have hworld : c.padded.padded.server.world = s.world := h.world
    unfold Firmware.urlopen
    rw [urlopen_handshake h.padded.padded]
    dsimp only
    rw [if_neg hauth, if_neg hkeys_form, if_pos rfl]
    unfold accept_login
    dsimp only
    rw [hworld, hseq, hopened]
    dsimp only
    rw [hsent]
    dsimp only
    rw [hsealed]
  have hencrypted : encrypt_password lib password fw.pwd_key c =
      (.ok (String.ofList digits), c.padded) := by
    rw [encrypt_password_run, hrsa]
    rfl
  have hsigned : signed_payload lib keys fw.sign_key (login_body (String.ofList digits)) c.padded =
      (.ok payload, c.padded.padded) := by
    rw [signed_payload_run, hbuilt]
    rfl
  have hposted := post_run hlogin
  rw [lift_ok] at hposted
  have hhash : keys.session_hash = lib.md5 (username ++ password) := by rw [hkeys]; rfl
  unfold login_with_keys hand_over_login
  rw [bind_ok hencrypted, bind_ok hsigned, bind_ok hposted, finish_login_run hparse, hhash]
  refine ⟨rfl, ?_⟩
  dsimp only
  cases hgranted : granted lib (fw.login (lib.md5 (username ++ password)) password s.world).1 with
  | error e =>
    exact
      { world := rfl
        cookie := h.cookie
        opened := fun hauth => nomatch hauth
        closed := fun _ session hheld => by
          rw [← Option.some.inj (hsession.symm.trans hheld)]
        tokens := fun _ hopen => nomatch hopen }
  | ok result =>
    have hstok : result.stok ≠ "" ∧ '/' ∉ result.stok.toList :=
      ⟨granted_stok hgranted, hfw.stok _ _ _ _ hgranted⟩
    exact
      { world := rfl
        cookie := h.cookie
        opened := fun _ => ⟨_,
          { held := congrArg (Option.map _) hsession
            opened := rfl
            sign_key := rfl
            keys := hvalid
            stok := hstok }⟩
        closed := fun hauth => nomatch hauth
        tokens := fun o hopen => by
          rw [← Option.some.inj hopen]
          exact hstok }

/-- A login gives up the session that the client has. -/
theorem Related.set_session {c : DecoClient (FirmwareState ρ)} {s : Direct ρ} (h : Related fw c s)
    (pairs : Nat) (keys : SessionKeys) (sign_key pwd_key : RsaKey) :
    Related fw (set_session { sign_key, pwd_key, keys } { c with pairs }).2
      { s with authenticated := false } where
  world := h.world
  cookie := h.cookie
  opened hauth := nomatch hauth
  closed _ session hheld := by rw [← Option.some.inj hheld]
  tokens := h.tokens

theorem login_run (host username password : String) (hlib : lib.Sound) (hfw : fw.Sound lib)
    {c : DecoClient (FirmwareState ρ)} {s : Direct ρ} (h : Related fw c s) :
    (login (router lib fw host) lib host username password c).1 =
        settled id (hand_over_login lib fw username password s).1 ∧
      Related fw (login (router lib fw host) lib host username password c).2
        (hand_over_login lib fw username password s).2 := by
  have h₁ := h.same_world (login_url host "auth") (.json read_operation)
  have h₂ := h₁.same_world (login_url host "keys") (.json read_operation)
  obtain ⟨hkeys, hseq⟩ := handshake_keys_of_answers hfw (fw.seq s.world)
  have h₃ := h₂.set_session (c.pairs + 1) (drawn_keys lib fw username password c.pairs s.world)
    fw.sign_key fw.pwd_key
  unfold login
  rw [bind_ok (post_auth_run h), bind_ok (post_keys_run h₁), hkeys, bind_ok (lift_ok _ _)]
  dsimp only
  rw [hseq]
  exact login_with_keys_run hlib hfw h₃ c.pairs rfl rfl

/-! ## Every run -/

/-- The answer of a call that runs to its end. -/
theorem settled_map {α β σ : Type} {m : Prog PyError σ α} {x : Except PyError α} {s : σ}
    (h : (m s).1 = settled id x) (f : α → β) :
    (m >>= fun a => pure (f a) : Prog PyError σ β) s = (settled f x, (m s).2) := by
  rw [bind_run]
  rcases hm : m s with ⟨r, s'⟩
  rw [hm] at h
  subst h
  cases x <;> rfl

/-- The logout drops the session on both sides of the channel. -/
theorem Related.invalidate {c : DecoClient (FirmwareState ρ)} {s : Direct ρ} (h : Related fw c s) :
    Related fw (invalidate_session c).2 { s with authenticated := false } where
  world := h.world
  cookie := rfl
  opened hauth := nomatch hauth
  closed _ session hheld := by
    obtain ⟨held, -, rfl⟩ := Option.map_eq_some_iff.mp hheld
    rfl
  tokens := h.tokens

theorem Related.is_authenticated {c : DecoClient (FirmwareState ρ)} {s : Direct ρ}
    (h : Related fw c s) :
    (is_authenticated : ClientM (FirmwareState ρ) Bool) c = (.ok s.authenticated, c) := by
  unfold client.is_authenticated
  congr 2
  cases hauth : s.authenticated with
  | true =>
    obtain ⟨session, hagreed⟩ := h.opened hauth
    rw [hagreed.held]
    exact decide_eq_true hagreed.stok.1
  | false =>
    cases hsession : c.session with
    | none => rfl
    | some session => simp [SessionContext.is_authenticated, h.closed hauth session hsession]

/-- How the logout ends when the request for it has ended so. -/
def logged_out : Except PyError ApiResponse → Except PyError Unit
  | .ok _ => .ok ()
  | .error e => if logout_unavailable e then .ok () else .error e

theorem logout_run (host : String) (hlib : lib.Sound) (hfw : fw.Sound lib)
    {c : DecoClient (FirmwareState ρ)} {s : Direct ρ} (h : Related fw c s)
    (hauth : s.authenticated = true) :
    logout (router lib fw host) lib host c =
      (settled id (logged_out (hand_over lib fw logout_request s).1),
        (invalidate_session (request_envelope (router lib fw host) lib host logout_request c).2).2)
      := by
  have hresult := (request_envelope_run host hlib hfw h hfw.read_logout).1
  unfold logout
  rw [bind_ok h.is_authenticated, if_pos hauth, bind_run]
  unfold trying
  rcases hrun : request_envelope (router lib fw host) lib host logout_request c with ⟨r, c'⟩
  rw [hrun] at hresult
  subst hresult
  cases (hand_over lib fw logout_request s).1 with
  | ok response => rfl
  | error e =>
    have hdropped : (invalidate_session c' : Outcome PyError Unit × DecoClient (FirmwareState ρ)) =
        (.ok (), (invalidate_session c').2) := rfl
    show (do
      invalidate_session
      if logout_unavailable e then pure () else Prog.raise e :
        ClientM (FirmwareState ρ) Unit) c' = _
    rw [bind_ok hdropped]
    unfold logged_out
    dsimp only
    split <;> rfl

theorem step_simulates (hlib : lib.Sound) (hfw : fw.Sound lib) :
    Simulates (step (router lib fw host) lib host username password)
      (direct_step lib fw username password) (Legible lib fw) (Related fw) := by
  intro c s call hlegible h
  cases call with
  | login =>
    obtain ⟨hresult, hrelated⟩ := login_run host username password hlib hfw h
    unfold step perform direct_step
    dsimp only
    rw [settled_map hresult]
    exact ⟨rfl, hrelated⟩
  | request request =>
    obtain ⟨hresult, hrelated⟩ := request_envelope_run host hlib hfw h hlegible
    unfold step perform direct_step
    dsimp only
    rw [settled_map hresult]
    exact ⟨rfl, hrelated⟩
  | invalidate_session => exact ⟨rfl, h.invalidate⟩
  | logout =>
    have hrelated := (request_envelope_run host hlib hfw h hfw.read_logout).2.invalidate
    unfold step perform direct_step
    dsimp only
    by_cases hauth : s.authenticated = true
    · rw [settled_map (congrArg Prod.fst (logout_run host hlib hfw h hauth)),
        logout_run host hlib hfw h hauth, if_neg (not_not.mpr hauth)]
      dsimp only
      cases (hand_over lib fw logout_request s).1 with
      | ok response => exact ⟨rfl, hrelated⟩
      | error e =>
        unfold logged_out
        dsimp only
        refine ⟨?_, hrelated⟩
        split <;> rfl
    · have hrun : logout (router lib fw host) lib host c = (.ok (), c) := by
        unfold logout
        rw [bind_ok h.is_authenticated, if_neg hauth]
        rfl
      rw [bind_ok hrun, if_pos hauth]
      exact ⟨rfl, h⟩

end

/-- With a router that follows the protocol, whatever calls are made, each has the answer that it
would have if the router got the password and the requests as they are, and does the same there. -/
theorem the_channel_is_transparent {ρ : Type} {lib : Libraries} {fw : Firmware ρ}
    (hlib : lib.Sound) (hfw : fw.Sound lib) (host username password : String) {calls : List Call}
    (hcalls : ∀ call ∈ calls, Legible lib fw call) (w : ρ) :
    let sent := run (step (router lib fw host) lib host username password) calls
      (new_client { world := w })
    let direct := run (direct_step lib fw username password) calls { world := w }
    sent.1 = direct.1 ∧ sent.2.server.world = direct.2.world := by
  have hstart : Related fw (new_client { world := w }) { world := w } :=
    { world := rfl
      cookie := rfl
      opened := fun hauth => nomatch hauth
      closed := fun _ _ hheld => nomatch hheld
      tokens := fun _ hopen => nomatch hopen }
  obtain ⟨hreplies, hrelated⟩ := (step_simulates hlib hfw).run hcalls hstart
  exact ⟨hreplies, hrelated.world⟩

/-! ## A client and a router -/

theorem length_exchange {pairs : List (String × String)}
    (h : ∀ pair ∈ pairs, (cipher_bytes pair.2).length = (plain_bytes pair.1).length)
    (data : List UInt8) : (exchange pairs data).length = data.length := by
  induction pairs with
  | nil => rfl
  | cons pair pairs ih =>
    have hpair := h pair List.mem_cons_self
    have hrest := ih fun other hother => h other (List.mem_cons_of_mem _ hother)
    show (Equiv.swap (plain_bytes pair.1) (cipher_bytes pair.2) (exchange pairs data)).length = _
    rw [Equiv.swap_apply_def]
    split
    · rename_i heq
      rw [← hrest, heq, hpair]
    · split
      · rename_i heq
        rw [← hrest, heq, hpair]
      · exact hrest

/-- A router whose user is logged in by any password. -/
def admin_firmware : Firmware (List String) where
  sign_key := plain_key
  pwd_key := plain_key
  sign_d := 5418832833323503982118633473
  pwd_d := 5418832833323503982118633473
  sign_hex := ("effffff07059afffffef66c5", "10001")
  pwd_hex := ("effffff07059afffffef66c5", "10001")
  seq _ := 1000
  read text := (loads text).toOption.bind Json.asObj
  login _ _ w := ("\x7b\"error_code\":0,\"result\":\x7b\"stok\":\"a1\"\x7d\x7d", w)
  serve rest _ w := ("\x7b\"error_code\":0,\"result\":\x7b\x7d\x7d", rest :: w)

theorem admin_libraries_sound : admin_libraries.Sound where
  aes_pair _ := ⟨request_keys_valid.aes_key, request_keys_valid.aes_iv⟩
  md5 _ := List.all_eq_true.mp (by decide : "91183e1cb4e46961f86a2ef6287927ad".toList.all
    fun c => (hexadecimal.value c).isSome)
  cbc :=
    { pads := fun _ => rfl
      encrypts := fun _ _ data _ _ _ => ⟨_, rfl⟩
      decrypts := fun _ _ data enc h => by
        rw [← Except.ok.inj h]
        exact congrArg Except.ok ((exchange exchanged).symm_apply_apply data) }
  cbc_length _ _ data enc h := by
    rw [← Except.ok.inj h]
    apply length_exchange
    have hlengths : exchanged.all (fun pair =>
        decide ((cipher_bytes pair.2).length = (plain_bytes pair.1).length)) = true := by
      decide +kernel
    exact fun pair hpair => of_decide_eq_true (List.all_eq_true.mp hlengths pair hpair)

theorem plain_key_readable :
    Readable admin_libraries plain_key 5418832833323503982118633473 where
  size := by decide
  undoes := undoes_plain_key
  blocks := by decide

/-! ### What the router reads -/

section

open json_reader

def no_blank : Blank := ⟨[], nofun⟩

/-- A field that is written without blanks. -/
def plain_field (key : List Char) (value : Doc Empty) (h : Quotable key) : Fields Empty :=
  .last no_blank (plain_pieces key h) no_blank no_blank value no_blank

/-- The same, before others. -/
def plain_fields (key : List Char) (value : Doc Empty) (fields : Fields Empty)
    (h : Quotable key) : Fields Empty :=
  .more no_blank (plain_pieces key h) no_blank no_blank value no_blank fields

/-- The body of a login, as it is written. -/
def login_doc (digits : List Char) (h : Quotable digits) : Doc Empty :=
  .obj (plain_fields "operation".toList
    (.str (plain_pieces "login".toList (quotable_of_all rfl)))
    (plain_field "params".toList (.obj (plain_field "password".toList
      (.str (plain_pieces digits h)) (quotable_of_all rfl))) (quotable_of_all rfl))
    (quotable_of_all rfl))

def operation_doc (operation : List Char) (h : Quotable operation) : Doc Empty :=
  .obj (plain_field "operation".toList (.str (plain_pieces operation h))
    (quotable_of_all rfl))

theorem read_doc (doc : Doc Empty) :
    admin_firmware.read (Document.text nofun ⟨no_blank, doc, no_blank⟩) =
      (json_value (doc.value fun _ => none)).asObj := by
  show (client.loads _).toOption.bind Json.asObj = _
  unfold client.loads
  rw [loads_text]
  rfl

theorem login_doc_value {digits : List Char} (h : Quotable digits) :
    json_value ((login_doc digits h).value fun _ => none) =
      .obj (login_body (String.ofList digits)) := by
  have hvalue : json_value ((login_doc digits h).value fun _ => none) = .obj
      [("operation", .str "login"), ("params", .obj [("password", .str (String.ofList
        ((string_points (plain_pieces digits h)).map Char.ofNat)))])] := by
    rfl
  rw [hvalue, plain_pieces_points]
  rfl

theorem quoted_quotable {cs : List Char} (h : ∀ c ∈ cs, escaped c = [c]) :
    quoted (String.ofList cs) = String.ofList ('"' :: (cs ++ ['"'])) := by
  have hcs : cs.flatMap escaped = cs := by
    induction cs with
    | nil => rfl
    | cons c cs ih =>
      rw [List.flatMap_cons, h c List.mem_cons_self,
        ih fun d hd => h d (List.mem_cons_of_mem _ hd)]
      rfl
  unfold quoted
  rw [String.toList_ofList, hcs]
  rfl

/-- A digit is written as it is. -/
theorem written_of_digit {c : Char} (h : (hexadecimal.value c).isSome) :
    (c ≠ '"' ∧ c ≠ '\\' ∧ 32 ≤ c.toNat) ∧ escaped c = [c] := by
  have hbounds := hexadecimal.digit_bounds h
  have hne : ∀ d : Char, d.toNat < 48 ∨ d.toNat = 92 → c ≠ d := by
    rintro d hd rfl
    omega
  refine ⟨⟨hne _ (by decide), hne _ (by decide), by omega⟩, ?_⟩
  unfold escaped
  rw [if_neg (hne _ (by decide)), if_neg (hne _ (by decide)), if_neg (hne _ (by decide)),
    if_neg (hne _ (by decide)), if_neg (hne _ (by decide)), if_neg (by omega), if_neg (by omega),
    if_pos (by omega)]

theorem login_doc_text {digits : List Char} (h : Quotable digits)
    (hescaped : ∀ c ∈ digits, escaped c = [c]) :
    admin_libraries.dumps (login_body (String.ofList digits)) =
      Document.text nofun ⟨no_blank, login_doc digits h, no_blank⟩ := by
  have hdumps : admin_libraries.dumps (login_body (String.ofList digits)) =
      "\x7b" ++ ",".intercalate [quoted "operation" ++ ":" ++ quoted "login",
        quoted "params" ++ ":" ++ ("\x7b" ++ ",".intercalate [quoted "password" ++ ":" ++
          quoted (String.ofList digits)] ++ "\x7d")] ++ "\x7d" := by
    have hkeys : "operation" ≤ "params" := by decide
    show dumps (fun _ => "") (.obj (login_body (String.ofList digits))) = _
    simp only [login_body, dumps, field_texts, object_text, List.insertionSort_cons,
      List.insertionSort_nil, List.orderedInsert_cons, List.orderedInsert_nil, List.map_cons,
      List.map_nil, hkeys, if_true]
  have hwords : quoted "operation" = "\"operation\"" ∧ quoted "login" = "\"login\"" ∧
      quoted "params" = "\"params\"" ∧ quoted "password" = "\"password\"" := by
    decide
  rw [hdumps, quoted_quotable hescaped]
  simp only [hwords]
  apply String.toList_inj.mp
  simp [Document.text, login_doc, plain_field, plain_fields, Doc.text, Fields.text, string_text,
    plain_pieces_text, no_blank, String.toList_append]

theorem admin_firmware_sound : admin_firmware.Sound admin_libraries where
  sign_hex := by decide +kernel
  pwd_hex := by decide +kernel
  sign := plain_key_readable
  pwd := plain_key_readable
  seq _ := (by decide : (0 : Int) ≤ 1000)
  read_login digits hdigits := by
    have hquotable : Quotable digits := fun c hc => (written_of_digit (hdigits c hc)).1
    rw [login_doc_text hquotable fun c hc => (written_of_digit (hdigits c hc)).2, read_doc,
      login_doc_value]
    rfl
  read_logout := by
    have htext : admin_libraries.dumps logout_request.data =
        Document.text nofun ⟨no_blank, operation_doc "write".toList (quotable_of_all rfl),
          no_blank⟩ := by
      decide +kernel
    rw [htext, read_doc]
    rfl
  stok _ _ _ result h := by
    have hstok : (granted admin_libraries
        "\x7b\"error_code\":0,\"result\":\x7b\"stok\":\"a1\"\x7d\x7d").toOption.map
          LoginResult.stok = some "a1" := by
      decide +kernel
    have hgranted : granted admin_libraries
        "\x7b\"error_code\":0,\"result\":\x7b\"stok\":\"a1\"\x7d\x7d" = .ok result := h
    rw [hgranted] at hstok
    rw [show result.stok = "a1" from Option.some.inj hstok]
    decide

/-- A login, a read and a logout. -/
theorem the_admin_reads_the_devices :
    let calls := [.login, .request read_devices, .logout]
    let sent := run (step (router admin_libraries admin_firmware "192.168.68.1") admin_libraries
      "192.168.68.1" "admin" "a") calls (new_client { world := [] })
    let direct := run (direct_step admin_libraries admin_firmware "admin" "a") calls { world := [] }
    sent.1 = direct.1 ∧ sent.2.server.world = direct.2.world := by
  apply the_channel_is_transparent admin_libraries_sound admin_firmware_sound
  have hread : Legible admin_libraries admin_firmware (.request read_devices) := by
    have htext : admin_libraries.dumps read_request =
        Document.text nofun ⟨no_blank, operation_doc "read".toList (quotable_of_all rfl),
          no_blank⟩ := by
      decide +kernel
    show admin_firmware.read (admin_libraries.dumps read_request) = some read_request
    rw [htext, read_doc]
    rfl
  intro call hcall
  simp only [List.mem_cons, List.not_mem_nil, or_false] at hcall
  rcases hcall with rfl | rfl | rfl
  · trivial
  · exact hread
  · trivial

end

end tplink_deco_api.client
