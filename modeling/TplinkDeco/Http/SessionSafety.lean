-- What a client sends over its life, whatever the router answers. Each request of a call carries
-- the token of the last login, what is encrypted is so under the keys of that login, and no token
-- outlives the logout.
import TplinkDeco.Http.Client
import TplinkDeco.Lib.Refinement

open json prog refinement

namespace tplink_deco_api.client

open auth crypto exceptions Prog

/-! ## The calls on one client -/

/-- What may be called on a client, with `request_envelope` for all that sends one request. -/
inductive Call where
  | login
  | logout
  | invalidate_session
  | request (request : Request)

/-- What a call returns. -/
inductive Answer where
  | granted (result : LoginResult)
  | response (response : ApiResponse)
  | done

/-- The request that a call sends within its session. -/
def Call.sends : Call → Option Request
  | .request envelope => some envelope
  | .logout => some logout_request
  | _ => none

section

variable {ρ : Type} (server : Server ρ) (lib : Libraries) (host username password : String)

/-- One call. -/
def perform : Call → ClientM ρ Answer
  | .login => do
    let result ← login server lib host username password
    return .granted result
  | .logout => do
    logout server lib host
    return .done
  | .invalidate_session => do
    invalidate_session
    return .done
  | .request request => do
    let response ← request_envelope server lib host request
    return .response response

/-- One call of a client, as a step of a run. -/
def step (c : DecoClient ρ) (call : Call) : Outcome PyError Answer × DecoClient ρ :=
  perform server lib host username password call c

end

/-! ## The rules of the log -/

/-- A request, or a cookie that came with its response. -/
def Event.quiet : Event → Prop
  | .posted _ => True
  | .captured _ => True
  | _ => False

/-- None of the events sends or starts anything. -/
def Quiet (events : List Event) : Prop := ∀ event ∈ events, event.quiet

/-- Since the last login began, with these keys, there were only requests. -/
def Started (past : List Event) (keys : SessionKeys) (sign_key : RsaKey) : Prop :=
  ∃ later older, past = later ++ .started keys sign_key :: older ∧ Quiet later

/-- The last login, with these keys, was granted this token, and nothing has dropped it. -/
def InForce (past : List Event) (keys : SessionKeys) (sign_key : RsaKey) (stok : String) : Prop :=
  ∃ later before, past = later ++ .granted stok :: before ∧ Quiet later ∧
    Started before keys sign_key

/-- The cookie has come since the session was last dropped. -/
def Fresh (past : List Event) (cookie : String) : Prop :=
  ∃ later older, past = later ++ .captured cookie :: older ∧ .dropped ∉ later

section

variable (lib : Libraries) (host password : String)

/-- The two reads of the handshake, and the login with the encrypted password. -/
def Handshake (past : List Event) (p : Post) : Prop :=
  (∃ form ∈ ["auth", "keys"], p.url = login_url host form ∧ p.body = .json read_operation) ∨
    p.url = login_url host "login" ∧ ∃ keys sign_key, ∃ pwd_key : RsaKey, ∃ digits calls tokens
      tokens' payload,
      Started past keys sign_key ∧
      rsa_encrypt lib.log2_floor pwd_key.n pwd_key.e (text.encode password) tokens 0 =
        .ok (digits, calls) ∧
      build_payload lib.log2_floor lib.cbc lib.dumps keys sign_key
        (login_body (String.ofList digits)) tokens' 0 = .ok payload ∧
      p.body = .form payload

/-- The body of a request: its data as they are where its transport is the plain one, and where
it is the encrypted one what is signed and encrypted under these keys. -/
def Request.Carried (lib : Libraries) (keys : SessionKeys) (sign_key : RsaKey) (request : Request) :
    Body → Prop
  | .json data => request.selected_authentication = .plain ∧ data = request.data
  | .form payload => request.selected_authentication = .encrypted ∧ ∃ tokens,
      build_payload lib.log2_floor lib.cbc lib.dumps keys sign_key request.data tokens 0 =
        .ok payload

/-- The request, with the token in force and under the keys of the login that granted it. -/
def InSession (past : List Event) (request : Request) (p : Post) : Prop :=
  ∃ keys sign_key stok, InForce past keys sign_key stok ∧ stok ≠ "" ∧
    p.url = endpoint_url host stok request.path request.selector ∧
      request.Carried lib keys sign_key p.body

/-- What the call may send: a login its handshake, and any other call the one request that it is
made for. -/
structure Allowed (call : Call) (past : List Event) (p : Post) : Prop where
  addressed : call = .login ∧ Handshake lib host password past p ∨
    ∃ request, call.sends = some request ∧ InSession lib host past request p
  cookie : ∀ cookie, p.cookie = some cookie → Fresh past cookie

/-- From the log `start` on, each request is one that the call may send after what was before. -/
inductive Kept (call : Call) (start : List Event) : List Event → Prop where
  | start : Kept call start start
  | posted {p : Post} {past : List Event} (allowed : Allowed lib host password call past p)
      (kept : Kept call start past) : Kept call start (.posted p :: past)
  | other {event : Event} {past : List Event} (other : ∀ p, event ≠ .posted p)
      (kept : Kept call start past) : Kept call start (event :: past)

/-- What the client holds is what its log says. -/
structure Sound {ρ : Type} (c : DecoClient ρ) : Prop where
  session : ∀ session, c.session = some session → session.stok ≠ "" →
    InForce c.log session.keys session.sign_key session.stok
  cookie : ∀ cookie, c.cookie = some cookie → Fresh c.log cookie

end

variable {lib : Libraries} {host username password : String}

variable {call : Call}

theorem Kept.trans {first second third : List Event}
    (h : Kept lib host password call second third)
    (h' : Kept lib host password call first second) : Kept lib host password call first third := by
  induction h with
  | start => exact h'
  | posted hallowed _ ih => exact .posted hallowed ih
  | other hother _ ih => exact .other hother ih

theorem Kept.one {past : List Event} {event : Event} (hother : ∀ p, event ≠ .posted p) :
    Kept lib host password call past (event :: past) := .other hother .start

/-- A request that came after the start of the log is allowed. -/
theorem Kept.allowed {start later past : List Event} {p : Post}
    (h : Kept lib host password call start (later ++ .posted p :: past))
    (hstart : start.length ≤ past.length) : Allowed lib host password call past p := by
  induction later with
  | nil =>
    cases h with
    | start => simp at hstart
    | posted hallowed _ => exact hallowed
    | other hother _ => exact absurd rfl (hother p)
  | cons event later ih =>
    cases h with
    | start =>
      simp only [List.cons_append, List.length_cons, List.length_append] at hstart
      omega
    | posted _ hkept => exact ih hkept
    | other _ hkept => exact ih hkept

/-! ## More requests -/

theorem Quiet.append {later later' : List Event} (h : Quiet later) (h' : Quiet later') :
    Quiet (later ++ later') := by
  intro event hevent
  rcases List.mem_append.mp hevent with hmem | hmem
  · exact h event hmem
  · exact h' event hmem

theorem Quiet.dropped_not_mem {later : List Event} (h : Quiet later) : .dropped ∉ later :=
  fun hmem => h _ hmem

theorem Started.quiet {past later : List Event} {keys : SessionKeys} {sign_key : RsaKey}
    (h : Started past keys sign_key) (hlater : Quiet later) :
    Started (later ++ past) keys sign_key := by
  obtain ⟨between, older, rfl, hbetween⟩ := h
  exact ⟨later ++ between, older, by rw [List.append_assoc], hlater.append hbetween⟩

theorem InForce.quiet {past later : List Event} {keys : SessionKeys} {sign_key : RsaKey}
    {stok : String} (h : InForce past keys sign_key stok) (hlater : Quiet later) :
    InForce (later ++ past) keys sign_key stok := by
  obtain ⟨between, before, rfl, hbetween, hstarted⟩ := h
  exact ⟨later ++ between, before, by rw [List.append_assoc], hlater.append hbetween, hstarted⟩

theorem Fresh.append {past later : List Event} {cookie : String} (h : Fresh past cookie)
    (hlater : .dropped ∉ later) : Fresh (later ++ past) cookie := by
  obtain ⟨between, older, rfl, hbetween⟩ := h
  refine ⟨later ++ between, older, by rw [List.append_assoc], ?_⟩
  rw [List.mem_append]
  exact fun hmem => hmem.elim hlater hbetween

theorem Fresh.cons {past : List Event} {cookie : String} (h : Fresh past cookie) {event : Event}
    (hevent : event ≠ .dropped) : Fresh (event :: past) cookie :=
  @Fresh.append past [event] cookie h fun hmem => hevent (List.mem_singleton.mp hmem).symm

section

variable {ρ : Type} {server : Server ρ}

/-- From `c` to `c'` there were only requests and their cookies, all of them allowed. -/
structure Grew (lib : Libraries) (host password : String) (call : Call) (c c' : DecoClient ρ) :
    Prop where
  sound : Sound c'
  session : c'.session = c.session
  log : ∃ later, c'.log = later ++ c.log ∧ Quiet later
  kept : Kept lib host password call c.log c'.log

theorem Grew.refl {c : DecoClient ρ} (h : Sound c) :
    Grew lib host password call c c := ⟨h, rfl, ⟨[], rfl, fun _ h => nomatch h⟩, .start⟩

theorem Grew.trans {c c' c'' : DecoClient ρ} (h : Grew lib host password call c c')
    (h' : Grew lib host password call c' c'') : Grew lib host password call c c'' := by
  obtain ⟨later, hlog, hquiet⟩ := h.log
  obtain ⟨later', hlog', hquiet'⟩ := h'.log
  refine ⟨h'.sound, h'.session.trans h.session,
    ⟨later' ++ later, ?_, hquiet'.append hquiet⟩, h'.kept.trans h.kept⟩
  rw [hlog', hlog, List.append_assoc]

/-- The random numbers leave the rest alone. -/
theorem Grew.of_same {c c' : DecoClient ρ} (h : Sound c)
    (hsession : c'.session = c.session) (hcookie : c'.cookie = c.cookie) (hlog : c'.log = c.log) :
    Grew lib host password call c c' := by
  refine ⟨⟨?_, ?_⟩, hsession, ⟨[], hlog, fun _ h => nomatch h⟩, hlog ▸ .start⟩
  · rw [hsession, hlog]
    exact h.session
  · rw [hcookie, hlog]
    exact h.cookie

theorem send_grew {c : DecoClient ρ} (h : Sound c) {url : String} {body : Body}
    (haddressed : call = .login ∧ Handshake lib host password c.log ⟨url, c.cookie, body⟩ ∨
      ∃ request, call.sends = some request ∧
        InSession lib host c.log request ⟨url, c.cookie, body⟩) :
    Grew lib host password call c (send server url body c).2 := by
  have hquiet : Quiet [Event.posted ⟨url, c.cookie, body⟩] := by
    intro event hevent
    obtain rfl := List.mem_singleton.mp hevent
    trivial
  refine ⟨⟨?_, ?_⟩, rfl, ⟨_, rfl, hquiet⟩,
    .posted ⟨haddressed, fun cookie hcookie => h.cookie cookie hcookie⟩ .start⟩
  · exact fun session hsession hstok => (h.session session hsession hstok).quiet hquiet
  · exact fun cookie hcookie => (h.cookie cookie hcookie).append hquiet.dropped_not_mem

theorem set_cookie_grew {c : DecoClient ρ} (h : Sound c)
    (headers : List (String × String)) :
    Grew lib host password call c (set_cookie headers c).2 := by
  unfold set_cookie
  cases capture_cookie headers with
  | none => exact Grew.refl h
  | some cookie =>
    have hquiet : Quiet [Event.captured cookie] := by
      intro event hevent
      obtain rfl := List.mem_singleton.mp hevent
      trivial
    refine ⟨⟨?_, ?_⟩, rfl, ⟨_, rfl, hquiet⟩, .one nofun⟩
    · exact fun session hsession hstok => (h.session session hsession hstok).quiet hquiet
    · intro other hother
      cases hother
      exact ⟨[], c.log, rfl, fun h => nomatch h⟩

/-- However a program ends, it has only sent what is allowed. -/
def Grows {α : Type} (lib : Libraries) (host password : String) (call : Call) (m : ClientM ρ α)
    (c : DecoClient ρ) : Prop := m.Ends c fun _ c' => Grew lib host password call c c'

theorem Grows.bind {α β : Type} {m : ClientM ρ α} {f : α → ClientM ρ β} {c : DecoClient ρ}
    (h : Grows lib host password call m c)
    (hf : ∀ a c', Grew lib host password call c c' → Grows lib host password call (f a) c') :
    Grows lib host password call (m >>= f) c := by
  apply Ends.bind h
  · exact fun a c' hgrew => (hf a c' hgrew).mono fun _ _ h' => hgrew.trans h'
  · exact fun _ _ hgrew => hgrew
  · exact fun _ hgrew => hgrew

theorem Grows.lift {α : Type} {x : Except PyError α} {c : DecoClient ρ}
    (h : Sound c) : Grows lib host password call (Prog.lift x) c :=
  Ends.lift (fun _ _ => Grew.refl h) fun _ _ => Grew.refl h

theorem post_grows {c : DecoClient ρ} (h : Sound c) {url : String} {body : Body}
    (haddressed : call = .login ∧ Handshake lib host password c.log ⟨url, c.cookie, body⟩ ∨
      ∃ request, call.sends = some request ∧
        InSession lib host c.log request ⟨url, c.cookie, body⟩) :
    Grows lib host password call (post server url body) c := by
  unfold post
  apply Grows.bind (send_grew h haddressed)
  intro response c' hgrew
  cases response with
  | error e => exact Grew.refl hgrew.sound
  | ok response =>
    apply Grows.bind (set_cookie_grew hgrew.sound response.headers)
    intro _ c'' hgrew'
    apply Grows.bind (Grows.lift hgrew'.sound)
    exact fun _ _ hgrew'' => Grows.lift hgrew''.sound

/-- The client after the random bytes of one encryption. -/
def DecoClient.padded (c : DecoClient ρ) : DecoClient ρ :=
  { c with encryptions := c.encryptions + 1 }

theorem padded_grew {c : DecoClient ρ} (h : Sound c) :
    Grew lib host password call c c.padded := Grew.of_same h rfl rfl rfl

theorem signed_payload_run (keys : SessionKeys) (sign_key : RsaKey) (data : JsonObject)
    (c : DecoClient ρ) : signed_payload lib keys sign_key data c =
      Prog.lift (build_payload lib.log2_floor lib.cbc lib.dumps keys sign_key data
        (lib.padding c.encryptions) 0) c.padded := rfl

theorem signed_payload_grows {c : DecoClient ρ} (h : Sound c)
    (keys : SessionKeys) (sign_key : RsaKey) (data : JsonObject) :
    (signed_payload lib keys sign_key data).Ends c fun r c' =>
      Grew lib host password call c c' ∧ ∀ payload, r = .ok payload → ∃ tokens,
        build_payload lib.log2_floor lib.cbc lib.dumps keys sign_key data tokens 0 =
          .ok payload := by
  unfold Ends
  rw [signed_payload_run]
  cases hbuilt : build_payload lib.log2_floor lib.cbc lib.dumps keys sign_key data
      (lib.padding c.encryptions) 0 with
  | error e => exact ⟨padded_grew h, fun _ h => nomatch h⟩
  | ok built =>
    refine ⟨padded_grew h, ?_⟩
    rintro _ ⟨rfl⟩
    exact ⟨_, hbuilt⟩

theorem encrypt_password_run (pwd_key : RsaKey) (c : DecoClient ρ) :
    encrypt_password lib password pwd_key c = (Prog.lift
      (rsa_encrypt lib.log2_floor pwd_key.n pwd_key.e (text.encode password)
        (lib.padding c.encryptions) 0) >>= fun pair => pure (String.ofList pair.1)) c.padded := rfl

theorem encrypt_password_grows {c : DecoClient ρ} (h : Sound c)
    (pwd_key : RsaKey) :
    (encrypt_password lib password pwd_key).Ends c fun r c' =>
      Grew lib host password call c c' ∧ ∀ encrypted, r = .ok encrypted → ∃ digits calls tokens,
        rsa_encrypt lib.log2_floor pwd_key.n pwd_key.e (text.encode password) tokens 0 =
          .ok (digits, calls) ∧ encrypted = String.ofList digits := by
  unfold Ends
  rw [encrypt_password_run]
  cases hrsa : rsa_encrypt lib.log2_floor pwd_key.n pwd_key.e (text.encode password)
      (lib.padding c.encryptions) 0 with
  | error e => exact ⟨padded_grew h, fun _ h => nomatch h⟩
  | ok pair =>
    refine ⟨padded_grew h, ?_⟩
    rintro _ ⟨rfl⟩
    exact ⟨pair.1, pair.2, _, hrsa, rfl⟩

/-! ## A request -/

theorem request_envelope_grows {c : DecoClient ρ} (h : Sound c) {request : Request}
    (hsends : call.sends = some request) :
    Grows lib host password call (request_envelope server lib host request) c := by
  unfold request_envelope
  apply Ends.bind (R := fun r c' => c' = c ∧ ∀ session, r = .ok session →
    InForce c.log session.keys session.sign_key session.stok ∧ session.stok ≠ "")
  · unfold Ends require_auth
    split
    · rename_i session hsession
      split
      · rename_i hauth
        refine ⟨rfl, ?_⟩
        rintro _ ⟨rfl⟩
        have hstok : session.stok ≠ "" := of_decide_eq_true hauth
        exact ⟨h.session session hsession hstok, hstok⟩
      · exact ⟨rfl, fun _ h => nomatch h⟩
    · exact ⟨rfl, fun _ h => nomatch h⟩
  · rintro session c₁ ⟨rfl, hsession⟩
    obtain ⟨hforce, hstok⟩ := hsession session rfl
    dsimp only
    split
    · rename_i hplain
      have hinside : InSession lib host c₁.log request
          ⟨endpoint_url host session.stok request.path request.selector, c₁.cookie,
            .json request.data⟩ :=
        ⟨session.keys, session.sign_key, session.stok, hforce, hstok, rfl, hplain, rfl⟩
      apply Grows.bind (post_grows h (.inr ⟨request, hsends, hinside⟩))
      exact fun _ _ hgrew => Grows.lift hgrew.sound
    · split
      · exact Grew.refl h
      · rename_i hencrypted
        apply Ends.bind (signed_payload_grows h session.keys session.sign_key request.data)
        · rintro payload c' ⟨hgrew, hpayload⟩
          obtain ⟨tokens, hbuilt⟩ := hpayload payload rfl
          obtain ⟨later, hlog, hquiet⟩ := hgrew.log
          have hinside : InSession lib host c'.log request
              ⟨endpoint_url host session.stok request.path request.selector, c'.cookie,
                .form payload⟩ := by
            refine ⟨session.keys, session.sign_key, session.stok, ?_, hstok, rfl,
              not_not.mp hencrypted, tokens, hbuilt⟩
            rw [hlog]
            exact hforce.quiet hquiet
          refine Ends.mono ?_ fun _ _ h' => hgrew.trans h'
          apply Grows.bind (post_grows hgrew.sound (.inr ⟨request, hsends, hinside⟩))
          exact fun _ _ hgrew' => Grows.lift hgrew'.sound
        · exact fun _ _ h => h.1
        · exact fun _ h => h.1
  · rintro _ _ ⟨rfl, -⟩
    exact Grew.refl h
  · rintro _ ⟨rfl, -⟩
    exact Grew.refl h

/-! ## Login and logout -/

theorem invalidate_session_sound (c : DecoClient ρ) :
    Sound (invalidate_session c).2 := by
  refine ⟨?_, fun _ h => nomatch h⟩
  intro session hsession hstok
  obtain ⟨held, -, rfl⟩ := Option.map_eq_some_iff.mp hsession
  exact absurd rfl hstok

/-- A session without a token goes before the login. -/
theorem set_session_sound {c : DecoClient ρ} (h : Sound c)
    {session : SessionContext} (hstok : session.stok = "") :
    Sound (set_session session c).2 := by
  refine ⟨?_, ?_⟩
  · intro other hother hne
    obtain rfl := Option.some.inj hother
    exact absurd hstok hne
  · intro cookie hcookie
    exact (h.cookie cookie hcookie).cons nofun

theorem grant_sound {c : DecoClient ρ} (h : Sound c) {session : SessionContext}
    (hsession : c.session = some session)
    (hstarted : Started c.log session.keys session.sign_key) (stok : String) :
    Sound (grant stok c).2 := by
  refine ⟨?_, ?_⟩
  · intro other hother _
    have hheld : (some { session with stok } : Option SessionContext) = some other := by
      rw [← hother]
      show _ = c.session.map _
      rw [hsession]
      rfl
    obtain rfl := Option.some.inj hheld
    exact ⟨[], c.log, rfl, fun _ h => (nomatch h), hstarted⟩
  · intro cookie hcookie
    exact (h.cookie cookie hcookie).cons nofun

/-- The client is sound again, and its log shows nothing that the call may not send. -/
structure Advances (lib : Libraries) (host password : String) (call : Call) (c c' : DecoClient ρ) :
    Prop where
  sound : Sound c'
  kept : Kept lib host password call c.log c'.log

theorem Grew.advances {c c' : DecoClient ρ} (h : Grew lib host password call c c') :
    Advances lib host password call c c' := ⟨h.sound, h.kept⟩

theorem Grew.then {c c' c'' : DecoClient ρ} (h : Grew lib host password call c c')
    (h' : Advances lib host password call c' c'') : Advances lib host password call c c'' :=
  ⟨h'.sound, h'.kept.trans h.kept⟩

/-- The part of the login from the stored session on. -/
theorem login_with_session {c₀ c : DecoClient ρ} (h : Sound c)
    (hbefore : Kept lib host password .login c₀.log c.log) (keys : SessionKeys)
    (sign_key pwd_key : RsaKey) (hsession : c.session = some { sign_key, pwd_key, keys })
    (hstarted : Started c.log keys sign_key) :
    (do
      let password_encrypted ← encrypt_password lib password pwd_key
      let payload ← signed_payload lib keys sign_key (login_body password_encrypted)
      let raw ← post server (login_url host "login") (.form payload)
      let response ← Prog.lift (parse_encrypted_response lib raw keys)
      let result ← Prog.lift (login_result response)
      grant result.stok
      return result : ClientM ρ LoginResult).Ends c fun _ c' =>
        Advances lib host password .login c₀ c' := by
  have hkeep : ∀ {c' : DecoClient ρ}, Grew lib host password .login c c' →
      c'.session = some { sign_key, pwd_key, keys } ∧ Started c'.log keys sign_key := by
    intro c' hgrew
    obtain ⟨later, hlog, hquiet⟩ := hgrew.log
    rw [hlog]
    exact ⟨hgrew.session.trans hsession, hstarted.quiet hquiet⟩
  have hends : ∀ {c' : DecoClient ρ}, Grew lib host password .login c c' →
      Advances lib host password .login c₀ c' := fun hgrew =>
    ⟨hgrew.sound, hgrew.kept.trans hbefore⟩
  apply Ends.bind (encrypt_password_grows h pwd_key)
  · rintro encrypted c₁ ⟨(hgrew₁ : Grew lib host password .login c c₁), hencrypted⟩
    obtain ⟨digits, calls, tokens, hrsa, rfl⟩ := hencrypted encrypted rfl
    apply Ends.bind (signed_payload_grows hgrew₁.sound keys sign_key _)
    · rintro payload c₂ ⟨(hgrew₂ : Grew lib host password .login c₁ c₂), hpayload⟩
      obtain ⟨tokens', hbuilt⟩ := hpayload payload rfl
      have hgrew := hgrew₁.trans hgrew₂
      have hlogin : Handshake lib host password c₂.log
          ⟨login_url host "login", c₂.cookie, .form payload⟩ :=
        Or.inr ⟨rfl, keys, sign_key, pwd_key, digits, calls, tokens, tokens', payload,
          (hkeep hgrew).2, hrsa, hbuilt, rfl⟩
      apply Ends.bind (post_grows hgrew.sound (.inl ⟨rfl, hlogin⟩))
      · intro raw c₃ hgrew₃
        have hall := hgrew.trans hgrew₃
        apply Ends.bind (Grows.lift hall.sound)
        · intro response c₄ hgrew₄
          apply Ends.bind (Grows.lift (hall.trans hgrew₄).sound)
          · intro result c₅ hgrew₅
            have hlast := (hall.trans hgrew₄).trans hgrew₅
            obtain ⟨hheld, hstart⟩ := hkeep hlast
            exact ⟨grant_sound hlast.sound hheld hstart _, .other nofun (hends hlast).kept⟩
          · exact fun _ _ h => hends ((hall.trans hgrew₄).trans h)
          · exact fun _ h => hends ((hall.trans hgrew₄).trans h)
        · exact fun _ _ h => hends (hall.trans h)
        · exact fun _ h => hends (hall.trans h)
      · exact fun _ _ h => hends (hgrew.trans h)
      · exact fun _ h => hends (hgrew.trans h)
    · exact fun _ _ h => hends (hgrew₁.trans h.1)
    · exact fun _ h => hends (hgrew₁.trans h.1)
  · exact fun _ _ h => hends h.1
  · exact fun _ h => hends h.1

theorem login_advances {c : DecoClient ρ} (h : Sound c) :
    (login server lib host username password).Ends c fun _ c' =>
      Advances lib host password .login c c' := by
  have hread : ∀ form ∈ ["auth", "keys"], ∀ {c : DecoClient ρ}, Sound c →
      Grows lib host password .login
        (post server (login_url host form) (.json read_operation)) c :=
    fun form hform _ h => post_grows h (.inl ⟨rfl, .inl ⟨form, hform, rfl, rfl⟩⟩)
  unfold login
  apply Ends.bind (hread "auth" (by decide) h)
  · intro auth_raw c₁ hgrew₁
    apply Ends.bind (hread "keys" (by decide) hgrew₁.sound)
    · intro keys_raw c₂ hgrew₂
      have hgrew := hgrew₁.trans hgrew₂
      apply Ends.bind (Grows.lift hgrew.sound)
      · rintro ⟨sign_key, pwd_key⟩ c₃ (hgrew₃ : Grew lib host password .login c₂ c₃)
        have hdrawn : Grew lib host password .login c₃ { c₃ with pairs := c₃.pairs + 1 } :=
          Grew.of_same hgrew₃.sound rfl rfl rfl
        have hkept := ((hgrew.trans hgrew₃).trans hdrawn).kept
        exact login_with_session (set_session_sound hdrawn.sound rfl) (.other nofun hkept) _
          sign_key pwd_key rfl ⟨[], _, rfl, fun _ h => nomatch h⟩
      · exact fun _ _ h => (hgrew.trans h).advances
      · exact fun _ h => (hgrew.trans h).advances
    · exact fun _ _ h => (hgrew₁.trans h).advances
    · exact fun _ h => (hgrew₁.trans h).advances
  · exact fun _ _ h => h.advances
  · exact fun _ h => h.advances

/-- No token and no cookie is held. -/
def Cleared (c : DecoClient ρ) : Prop :=
  c.cookie = none ∧ ∀ session, c.session = some session → session.stok = ""

theorem invalidate_session_cleared (c : DecoClient ρ) : Cleared (invalidate_session c).2 := by
  refine ⟨rfl, ?_⟩
  intro session hsession
  obtain ⟨held, -, rfl⟩ := Option.map_eq_some_iff.mp hsession
  rfl

theorem post_prompt (url : String) (body : Body) : Prompt (post server url body) := by
  have hsend : Prompt (send server url body) := by
    intro c h
    cases h
  unfold post
  apply hsend.bind
  intro response
  cases response with
  | error e => exact Prompt.raise _
  | ok response =>
    apply Prompt.bind
    · unfold set_cookie
      cases capture_cookie response.headers with
      | none => exact Prompt.pure ()
      | some cookie =>
        intro c h
        cases h
    · exact fun _ => (Prompt.lift _).bind fun content => Prompt.lift content

theorem request_envelope_prompt (server : Server ρ) (lib : Libraries) (host : String)
    (request : Request) :
    Prompt (request_envelope server lib host request) := by
  unfold request_envelope
  apply Prompt.bind
  · intro c
    unfold require_auth
    split
    · split <;> simp
    · simp
  · intro session
    apply Prompt.ite ((post_prompt _ _).bind fun _ => Prompt.lift _)
    apply Prompt.ite (Prompt.raise _)
    have hsigned : Prompt (signed_payload lib session.keys session.sign_key request.data :
        ClientM ρ String) := fun c => Prompt.lift _ c.padded
    exact hsigned.bind fun _ => (post_prompt _ _).bind fun _ => Prompt.lift _

/-- The logout ends with the session dropped, or there was no token to drop. -/
theorem logout_spec (server : Server ρ) (lib : Libraries) (host : String) (c : DecoClient ρ) :
    ((logout server lib host c).2 = c ∧
      ∀ session, c.session = some session → session.stok = "") ∨
    (logout server lib host c).2 =
      (invalidate_session (request_envelope server lib host logout_request c).2).2 := by
  have hasked : (is_authenticated : ClientM ρ Bool) c =
      (.ok ((c.session.map SessionContext.is_authenticated).getD false), c) := rfl
  unfold logout
  rw [bind_ok hasked]
  by_cases hauth : (c.session.map SessionContext.is_authenticated).getD false = true
  · right
    have hprompt := request_envelope_prompt server lib host
      logout_request c
    rw [if_pos hauth, bind_run]
    unfold trying
    rcases hrun : request_envelope server lib host logout_request c with ⟨r, c'⟩
    rw [hrun] at hprompt
    cases r with
    | ok response => rfl
    | raised e =>
      have hdropped : (invalidate_session c' : Outcome PyError Unit × DecoClient ρ) =
          (.ok (), (invalidate_session c').2) := rfl
      simp only [if_true]
      rw [bind_ok hdropped]
      split <;> rfl
    | waiting => exact absurd rfl hprompt
  · left
    rw [if_neg hauth]
    refine ⟨rfl, ?_⟩
    intro session hsession
    rw [hsession] at hauth
    simpa [SessionContext.is_authenticated] using hauth

/-! ## Every run -/

theorem step_advances {c : DecoClient ρ} (h : Sound c) (call : Call) :
    Advances lib host password call c (step server lib host username password c call).2 := by
  cases call with
  | login =>
    have hstate : (step server lib host username password c .login).2 =
        (login server lib host username password c).2 := map_after_state _ _ c
    rw [hstate]
    exact login_advances h
  | logout =>
    have hstate : (step server lib host username password c .logout).2 =
        (logout server lib host c).2 := pure_after_state _ _ c
    rw [hstate]
    rcases logout_spec server lib host c with ⟨heq, -⟩ | heq
    · rw [heq]
      exact ⟨h, .start⟩
    · have hgrew : Grew lib host password .logout c
          (request_envelope server lib host logout_request c).2 := request_envelope_grows h rfl
      rw [heq]
      exact hgrew.then ⟨invalidate_session_sound _, .one nofun⟩
  | invalidate_session => exact ⟨invalidate_session_sound c, .one nofun⟩
  | request request =>
    have hstate : (step server lib host username password c (.request request)).2 =
        (request_envelope server lib host request c).2 := map_after_state _ _ c
    have hgrew : Grew lib host password (.request request) c
        (request_envelope server lib host request c).2 := request_envelope_grows h rfl
    rw [hstate]
    exact hgrew.advances

end

/-- The client that `DecoClient()` makes. -/
def new_client {ρ : Type} (server : ρ) : DecoClient ρ := { server }

theorem new_client_sound {ρ : Type} (w : ρ) : Sound (new_client w) :=
  ⟨(fun _ h => nomatch h), fun _ h => nomatch h⟩

/-- Whatever the router answers, a call sends only what it is made for: a login the requests of
the handshake, and another call its own request, with the token of the last login, under the keys
of that login unless the transport of the request is the plain one, and with no cookie that came
before the session was last dropped. After a logout no token is held. -/
theorem every_request_is_in_its_session (lib : Libraries) (host username password : String)
    {ρ : Type} (server : Server ρ) (w : ρ) (calls : List Call) (call : Call) :
    let c := (run (step server lib host username password) calls (new_client w)).2
    (∀ later p past,
      (step server lib host username password c call).2.log = later ++ .posted p :: past →
        c.log.length ≤ past.length → Allowed lib host password call past p) ∧
    ∀ session, (step server lib host username password c .logout).2.session = some session →
      session.stok = "" := by
  have hsound : Sound (run (step server lib host username password) calls (new_client w)).2 := by
    refine invariant_run (fun c call h => ?_) calls (new_client_sound w)
    have hadvances : Advances lib host password call c
        (step server lib host username password c call).2 := step_advances h call
    exact hadvances.sound
  intro c
  constructor
  · intro later p past hlog hstart
    have hadvances : Advances lib host password call c
        (step server lib host username password c call).2 := step_advances hsound call
    exact (hlog ▸ hadvances.kept).allowed hstart
  · intro session hsession
    have hstate : (step server lib host username password c .logout).2 =
        (logout server lib host c).2 := pure_after_state _ _ c
    rw [hstate] at hsession
    rcases logout_spec server lib host c with ⟨heq, hnone⟩ | heq
    · exact hnone session (heq ▸ hsession)
    · exact (invalidate_session_cleared _).2 session (heq ▸ hsession)

/-- The read of the client list, which is sent encrypted. -/
def read_devices : Request where
  path := "admin/client"
  form := "client_list"
  data := read_request

/-- The read of the system mode, which is sent as it is. -/
def read_mode : Request where
  path := "admin/system"
  form := "sysmode"
  data := read_request

/-- A router that has these responses ready, and then none. -/
def scripted : Server (List HttpResponse) where
  urlopen _ responses :=
    match responses with
    | [] => (.error { cls := .HTTPError, message := "Forbidden", code := some 403 }, [])
    | response :: later => (.ok response, later)

/-- The handshake, the login with its cookie and the token `a1`, and two answers. -/
def a_session : List HttpResponse :=
  let rsa_key := .arr [.str "effffff07059afffffef66c5", .str "10001"]
  [ { body := .ok (.ok [("result", .obj [("key", rsa_key), ("seq", .int 1000)])]) },
    { body := .ok (.ok [("result", .obj [("password", rsa_key)])]) },
    { headers := [("Set-Cookie", "sysauth=0a1b; path=/")]
      body := .ok (.ok [("data", .str
        "IpxBsaT8EBq1y6wjSx5E+3hQGjLN1SznWAhSZbJDIKfhPLSlaAFB+c4CO3o3ib99")]) },
    { body := .ok (.ok [("error_code", .int 0)]) },
    { body := .ok (.ok [("data", .str
        "IpxBsaT8EBq1y6wjSx5E+4ZBQVqy08HZ5z5UTLcfpl0=")]) } ]

/-- The client of the administrator after these calls. -/
def after (calls : List Call) : DecoClient (List HttpResponse) :=
  (run (step scripted admin_libraries "192.168.68.1" "admin" "a") calls (new_client a_session)).2

theorem after_concat (calls : List Call) (call : Call) :
    after (calls ++ [call]) =
      (step scripted admin_libraries "192.168.68.1" "admin" "a" (after calls) call).2 := by
  unfold after
  rw [run_append]
  rfl

/-- The request that the client has sent last, and what was before it. -/
def last_sent {ρ : Type} (c : DecoClient ρ) : Option (Post × List Event) :=
  match c.log with
  | .posted p :: past => some (p, past)
  | _ => none

theorem log_of_last_sent {ρ : Type} {c : DecoClient ρ} {p : Post} {past : List Event}
    (h : last_sent c = some (p, past)) : c.log = .posted p :: past := by
  unfold last_sent at h
  split at h
  · rename_i p' past' hlog
    obtain ⟨rfl, rfl⟩ := Prod.mk.inj (Option.some.inj h)
    exact hlog
  · cases h

/-- What was sent last went to this URL with this cookie, after a log of at least this length. -/
def sent_last {ρ : Type} (c : DecoClient ρ) (url cookie : String) (start : Nat) : Bool :=
  (last_sent c).any fun (p, past) =>
    p.url = url && p.cookie = some cookie && start ≤ past.length

theorem of_sent_last {ρ : Type} {c : DecoClient ρ} {url cookie : String} {start : Nat}
    (h : sent_last c url cookie start = true) : ∃ p past, last_sent c = some (p, past) ∧
      p.url = url ∧ p.cookie = some cookie ∧ start ≤ past.length := by
  obtain ⟨⟨p, past⟩, hsent, hchecked⟩ := (Option.any_eq_true _ _).mp h
  simp only [Bool.and_eq_true, decide_eq_true_eq] at hchecked
  exact ⟨p, past, hsent, hchecked.1.1, hchecked.1.2, hchecked.2⟩

/-- After a login the two reads are sent with its token and its cookie, the one as it is and the
other under the keys of the login. -/
theorem the_reads_are_in_the_session :
    (∃ p past, last_sent (after [.login, .request read_mode]) = some (p, past) ∧
      p.url = "https://192.168.68.1/cgi-bin/luci/;stok=a1/admin/system?form=sysmode" ∧
      p.cookie = some "sysauth=0a1b" ∧
      Allowed admin_libraries "192.168.68.1" "a" (.request read_mode) past p) ∧
    ∃ p past, last_sent (after [.login, .request read_mode, .request read_devices]) =
        some (p, past) ∧
      p.url = "https://192.168.68.1/cgi-bin/luci/;stok=a1/admin/client?form=client_list" ∧
      p.cookie = some "sysauth=0a1b" ∧
      Allowed admin_libraries "192.168.68.1" "a" (.request read_devices) past p := by
  -- One evaluation, in which the two runs share their first calls.
  have hsent_last : sent_last (after [.login, .request read_mode])
        "https://192.168.68.1/cgi-bin/luci/;stok=a1/admin/system?form=sysmode" "sysauth=0a1b"
        (after [.login]).log.length = true ∧
      sent_last (after [.login, .request read_mode, .request read_devices])
        "https://192.168.68.1/cgi-bin/luci/;stok=a1/admin/client?form=client_list" "sysauth=0a1b"
        (after [.login, .request read_mode]).log.length = true := by
    decide +kernel
  obtain ⟨hmode, hdevices⟩ := hsent_last
  obtain ⟨p, past, hsent, hurl, hcookie, hstart⟩ := of_sent_last hmode
  obtain ⟨p', past', hsent', hurl', hcookie', hstart'⟩ := of_sent_last hdevices
  have hallowed : ∀ calls call p past, (after (calls ++ [call])).log = .posted p :: past →
      (after calls).log.length ≤ past.length →
        Allowed admin_libraries "192.168.68.1" "a" call past p := by
    intro calls call p past hlog hstart
    rw [after_concat] at hlog
    exact (every_request_is_in_its_session admin_libraries "192.168.68.1" "admin" "a" scripted
      a_session calls call).1 [] p past hlog hstart
  exact ⟨⟨p, past, hsent, hurl, hcookie,
      hallowed [.login] _ p past (log_of_last_sent hsent) hstart⟩,
    p', past', hsent', hurl', hcookie',
      hallowed [.login, .request read_mode] _ p' past' (log_of_last_sent hsent') hstart'⟩

end tplink_deco_api.client
