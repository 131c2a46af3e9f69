-- The stream of `tmp_ssh_stream.py` over a socket and the SSH library.
-- Whatever is at the other end of the connection answers each call as it likes.
import TplinkDeco.Exceptions
import TplinkDeco.Lib.Base64
import TplinkDeco.Lib.Prog
import TplinkDeco.Lib.Sha256
import TplinkDeco.TmpClient.SshConfig

open prog text

namespace tplink_deco_api.tmp_ssh_stream

open exceptions tmp_ssh_config

/-! ## The other end -/

/-- How `auth_password` ends: `bad_type` is a `BadAuthenticationType`, with what is allowed. -/
inductive PasswordAnswer where
  | accepted
  | bad_type (e : PyError) (allowed_types : List String)
  | failed (e : PyError)

/-- The socket, the SSH library and the router. A connection has a number, and so has a channel. -/
structure Peer (ρ : Type) where
  /-- `type(exc).__name__`: the SSH library has classes of its own. -/
  type_name : PyError → String
  create_connection : String → Int → ρ → Except PyError Unit × ρ
  /-- `paramiko.Transport(sock)`, with the `kex` of its options. -/
  transport : Nat → ρ → Except PyError (List String) × ρ
  start_client : Nat → List String → ρ → Except PyError Unit × ρ
  get_remote_server_key : Nat → ρ → Except PyError (List UInt8) × ρ
  auth_password : Nat → String → String → ρ → PasswordAnswer × ρ
  /-- The handler answers each prompt. -/
  auth_interactive : Nat → String → (List String → List String) → ρ → Except PyError Unit × ρ
  is_authenticated : Nat → ρ → Bool × ρ
  open_channel : Nat → String → Int → ρ → Except PyError Unit × ρ
  settimeout : Nat → ρ → Except PyError Unit × ρ
  channel_closed : Nat → ρ → Bool × ρ
  recv : Nat → Nat → ρ → Except PyError (List UInt8) × ρ
  sendall : Nat → List UInt8 → ρ → Except PyError Unit × ρ
  close_channel : Nat → ρ → Except PyError Unit × ρ
  close_transport : Nat → ρ → Except PyError Unit × ρ
  close_socket : Nat → ρ → Except PyError Unit × ρ

/-- What happened on a connection or a channel, the last first. This is for the reader only. -/
inductive Event where
  | connected (t : Nat)
  | started (t : Nat)
  | key (t : Nat) (key : List UInt8)
  /-- The user name and the password are handed to the library. -/
  | password (t : Nat) (username password : String)
  | authenticated (t : Nat)
  | channel (c t : Nat)
  | sent (c : Nat) (data : List UInt8)
  | closed_channel (c : Nat)
  | closed_transport (t : Nat)
  | closed_socket (t : Nat)

/-- A stream, with the number of connections and channels that it has made. -/
structure TmpSshStream (ρ : Type) where
  socket : Option Nat := none
  transport : Option Nat := none
  channel : Option Nat := none
  host_key_sha256 : String := ""
  connections : Nat := 0
  channels : Nat := 0
  peer : ρ
  log : List Event := []

/-- A program of the stream. Its state is the stream, with the peer and the log. -/
abbrev SshM (ρ : Type) := Prog PyError (TmpSshStream ρ)

section

variable {ρ : Type}

/-- Write into the log. -/
def note (event : Event) : SshM ρ Unit := fun s => (.ok (), { s with log := event :: s.log })

/-- One call of the SSH library or of the socket. -/
def ask {α : Type} (call : ρ → α × ρ) : SshM ρ α := fun s =>
  (.ok (call s.peer).1, { s with peer := (call s.peer).2 })

/-- One that may raise. -/
def attempt {α : Type} (call : ρ → Except PyError α × ρ) : SshM ρ α := do
  let answer ← ask call
  Prog.lift answer

/-! ## `TmpSshStream` -/

/-- The errors of the stream. -/
def transport_error (message : String) : PyError := { cls := .TransportError, message }

/-- `SHA256:` and the digest in Base64 without its padding. -/
def fingerprint (key : List UInt8) : String :=
  "SHA256:" ++ String.ofList
    ((base64.encode (sha256.digest key)).reverse.dropWhile (· = '=')).reverse

/-- The key exchanges that the stream offers. -/
def preferred : List String := ["diffie-hellman-group14-sha1", "diffie-hellman-group1-sha1"]

/-- `dict.fromkeys`: the first of each. -/
def fromkeys : List String → List String
  | [] => []
  | key :: keys => key :: (fromkeys keys).filter (· ≠ key)

/-- The key exchanges that are left, the preferred ones first. -/
def preferred_kex (existing : List String) : List String :=
  fromkeys ((preferred ++ existing).filter (· ∈ existing))

variable (peer : Peer ρ) (config : TmpSshConfig) (username : String)

/-- `TmpSshStream.connected`: there is a channel, and it is not closed. -/
def connected : SshM ρ Bool := fun s =>
  match s.channel with
  | none => (.ok false, s)
  | some c => (do return ! (← ask (peer.channel_closed c)) : SshM ρ Bool) s

/-- `self._channel` and the others, set to `None`. -/
def drop : SshM ρ (Option Nat × Option Nat × Option Nat) := fun s =>
  (.ok (s.channel, s.transport, s.socket),
    { s with channel := none, transport := none, socket := none })

/-- Close what is held. -/
def close_some (held : Option Nat) (call : Nat → ρ → Except PyError Unit × ρ)
    (event : Nat → Event) : SshM ρ Unit :=
  match held with
  | none => pure ()
  | some i => do
    attempt (call i)
    note (event i)

/-- `TmpSshStream.close`: everything is dropped before the first close. -/
def close : SshM ρ Unit := do
  let (channel, transport, socket) ← drop
  close_some channel peer.close_channel .closed_channel
  close_some transport peer.close_transport .closed_transport
  close_some socket peer.close_socket .closed_socket

/-- `self._socket = sock`. -/
def set_socket : SshM ρ Nat := fun s =>
  (.ok s.connections, { s with
    socket := some s.connections
    connections := s.connections + 1
    log := .connected s.connections :: s.log })

/-- Keep the transport that was made. -/
def set_transport (t : Nat) : SshM ρ Unit := fun s =>
  (.ok (), { s with transport := some t, log := .started t :: s.log })

/-- Keep the fingerprint of the key that the host showed. -/
def set_host_key (t : Nat) (key : List UInt8) : SshM ρ Unit := fun s =>
  (.ok (), { s with host_key_sha256 := fingerprint key, log := .key t key :: s.log })

/-- The part of `_start_client` that stands in its `try`. -/
def negotiate : SshM ρ Unit := do
  attempt (peer.create_connection config.host config.ssh_port)
  let t ← set_socket
  let existing ← attempt (peer.transport t)
  set_transport t
  attempt (peer.start_client t (preferred_kex existing))
  let key ← attempt (peer.get_remote_server_key t)
  set_host_key t key

/-- There is a transport already. -/
def has_transport : SshM ρ Bool := fun s => (.ok s.transport.isSome, s)

/-- `_start_client`: what is half made is closed after an error. -/
def start_client : SshM ρ Unit := do
  if ← has_transport then pure ()
  else
    match ← (negotiate peer config).trying (PyError.isinstance · [.OSError, .SSHException]) with
    | .ok () => pure ()
    | .error e => do
      close peer
      Prog.raise (transport_error ("Failed to negotiate TMP SSH: " ++ peer.type_name e))

/-- The error of a part that is not open. -/
def not_open (part : String) : PyError :=
  transport_error ("Failed to use TMP SSH: " ++ part ++ " is not open")

/-- `_require_transport`. -/
def require_transport : SshM ρ Nat := fun s =>
  match s.transport with
  | some t => (.ok t, s)
  | none => (.raised (not_open "transport"), s)

/-- `_require_channel`. -/
def require_channel : SshM ρ Nat := fun s =>
  match s.channel with
  | some c => (.ok c, s)
  | none => (.raised (not_open "channel"), s)

/-- The fingerprint that was kept. -/
def get_host_key : SshM ρ String := fun s => (.ok s.host_key_sha256, s)

/-- The fingerprint is the expected one, or none is expected. -/
def check_host_key : SshM ρ Unit := do
  let host_key_sha256 ← get_host_key
  if config.allow_unverified_host_key then pure ()
  else if config.host_key_sha256 = "" then
    Prog.raise (transport_error
      "Failed to open TMP SSH: expected host-key fingerprint is required")
  else if config.host_key_sha256 ≠ host_key_sha256 then
    Prog.raise (transport_error "Failed to open TMP SSH: host-key fingerprint does not match")
  else pure ()

/-- Send the password, over the transport whose key was checked. -/
def authenticate (t : Nat) : SshM ρ Unit := do
  note (.password t username config.password)
  match ← ask (peer.auth_password t username config.password) with
  | .accepted => pure ()
  | .failed e => Prog.raise e
  | .bad_type e allowed_types =>
    if "keyboard-interactive" ∉ allowed_types then Prog.raise e
    else
      attempt (peer.auth_interactive t username fun prompts => prompts.map fun _ => config.password)

/-- Keep the channel that was opened. -/
def set_channel (c : Nat) : SshM ρ Unit := fun s => (.ok (), { s with channel := some c })

/-- The next channel of a transport. -/
def new_channel (t : Nat) : SshM ρ Nat := fun s =>
  (.ok s.channels, { s with channels := s.channels + 1, log := .channel s.channels t :: s.log })

/-- The part of `open` that stands in its `try`. -/
def tunnel : SshM ρ Unit := do
  start_client peer config
  check_host_key config
  let t ← require_transport
  authenticate peer config username t
  if ¬ (← ask (peer.is_authenticated t)) then
    Prog.raise (transport_error "Failed to open TMP SSH: authentication failed")
  else do
    note (.authenticated t)
    attempt (peer.open_channel t config.destination_host config.destination_port)
    let c ← new_channel t
    attempt (peer.settimeout c)
    set_channel c

/-- `TmpSshStream.open`: a stream that is connected stays as it is. -/
def open_stream : SshM ρ Unit := do
  if ← connected peer then pure ()
  else
    match ← (tunnel peer config username).trying
      (PyError.isinstance · [.TransportError, .OSError, .SSHException]) with
    | .ok () => pure ()
    | .error e => do
      close peer
      if e.isinstance [.TransportError] then Prog.raise e
      else Prog.raise (transport_error ("Failed to open TMP SSH: " ++ peer.type_name e))

/-- The fingerprint, without a password. The `finally` clause closes the stream in any case. -/
def probe_host_key : SshM ρ String := do
  match ← (do
      start_client peer config
      get_host_key : SshM ρ String).trying fun _ => true with
  | .ok host_key_sha256 => do
    close peer
    return host_key_sha256
  | .error e => do
    close peer
    Prog.raise e

/-- The errors of the network come out as one error of the package. -/
def over_channel {α : Type} (failed : String) (m : SshM ρ α) : SshM ρ α := do
  match ← m.trying (PyError.isinstance · [.OSError, .SSHException]) with
  | .ok a => pure a
  | .error e => Prog.raise (transport_error (failed ++ peer.type_name e))

/-- `TmpSshStream.recv`. -/
def recv (size : Nat) : SshM ρ (List UInt8) :=
  over_channel peer "Failed to receive TMP data: " do
    let c ← require_channel
    attempt (peer.recv c size)

/-- `TmpSshStream.sendall`. -/
def sendall (data : List UInt8) : SshM ρ Unit :=
  over_channel peer "Failed to send TMP data: " do
    let c ← require_channel
    note (.sent c data)
    attempt (peer.sendall c data)

/-! ## The calls on one stream -/

/-- A call of the stream. -/
inductive Call where
  | open_stream
  | recv (size : Nat)
  | sendall (data : List UInt8)
  | close
  | probe_host_key

/-- What a call gives. -/
inductive Answer where
  | done
  | data (data : List UInt8)
  | fingerprint (host_key_sha256 : String)

/-- One call. -/
def perform : Call → SshM ρ Answer
  | .open_stream => do
    open_stream peer config username
    return .done
  | .recv size => do
    let data ← recv peer size
    return .data data
  | .sendall data => do
    sendall peer data
    return .done
  | .close => do
    close peer
    return .done
  | .probe_host_key => do
    let host_key_sha256 ← probe_host_key peer config
    return .fingerprint host_key_sha256

/-- One call on a stream, as a step of a run. -/
def step (s : TmpSshStream ρ) (call : Call) : Outcome PyError Answer × TmpSshStream ρ :=
  perform peer config username call s

end

end tplink_deco_api.tmp_ssh_stream
