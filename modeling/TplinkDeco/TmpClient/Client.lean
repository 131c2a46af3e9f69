-- The client of `tmp_client.py`, with the SSH stream and the session that it
-- opens, loses and opens again. What happens outside is given for each moment.
import TplinkDeco.Exceptions
import TplinkDeco.Lib.Json
import TplinkDeco.Lib.Prog
import TplinkDeco.Lib.Text
import TplinkDeco.TmpProtocol.Session

open bytes json prog text

namespace tplink_deco_api.tmp_client

open exceptions tmp_protocol

/-! ## The outside -/

/-- The bytes of a response, and the object that `loads` reads in them or its error. -/
structure RawResponse where
  content : Bytes := []
  loaded : Except PyError JsonObject := .ok []

/-- What the code meets when it turns to the outside once: which channels the remote end
has closed by then, and how the call that it makes ends. -/
structure Moment where
  channel_closes : Nat → Bool := fun _ => false
  stream_open : Option PyError := none
  session_open : Option PyError := none
  /-- The response of `_exchange`, as `loads` reads it. -/
  answer : Except PyError JsonObject := .ok []
  /-- The response to a request for the raw bytes, with what `loads` makes of them. -/
  raw : Except PyError RawResponse := .ok {}
  goodbye : Option PyError := none
  stream_close : Option PyError := none

/-- `operation.name` and `operation.safety` of an opcode of the catalogue. -/
structure TmpOpcodeSpec where
  name : String
  safety : String

/-- What each call of the layers below meets, and the catalogue. -/
structure Router where
  moments : Nat → Moment
  get_tmp_opcode : Nat → Option TmpOpcodeSpec

/-- The channel of a `TmpSshStream`. -/
inductive Channel where
  | absent
  | opened
  | closed
deriving DecidableEq

/-- A session, with the number of its stream. -/
structure Session where
  stream : Nat
  ready : Bool

/-- The client, the streams that it has made, and the time. The logs of the streams on
which `close` was called and of the mutation requests are for the reader only. -/
structure Client where
  stream : Option Nat := none
  session : Option Session := none
  channels : Nat → Channel := fun _ => .absent
  created : Nat := 0
  time : Nat := 0
  closed_streams : List Nat := []
  mutations : List (Nat × JsonObject) := []

/-- A program of the client. Its state is the client, with the log of what it did. -/
abbrev ClientM := Prog PyError Client

variable (router : Router)

/-- The next moment. A channel that the remote end has closed stays closed. -/
def next_moment : ClientM Moment := fun c =>
  (.ok (router.moments c.time), { c with
    time := c.time + 1
    channels := fun i =>
      if c.channels i = .opened ∧ (router.moments c.time).channel_closes i then .closed
      else c.channels i })

/-- Raise what came back, if an error did. -/
def raise_some (error : Option PyError) : ClientM Unit :=
  match error with
  | none => pure ()
  | some e => Prog.raise e

/-! ## `TmpSshStream` -/

/-- The SSH channel of one stream. -/
def set_channel (i : Nat) (channel : Channel) : ClientM Unit := fun c =>
  (.ok (), { c with channels := fun j => if j = i then channel else c.channels j })

/-- A stream that is not open. -/
def new_tmp_ssh_stream : ClientM Nat := fun c =>
  (.ok c.created, { c with created := c.created + 1 })

/-- `stream.connected`. -/
def stream_connected (i : Nat) : ClientM Bool := do
  let _ ← next_moment router
  fun c => (.ok (decide (c.channels i = .opened)), c)

/-- Note in the log that a stream was closed. -/
def note_closed (i : Nat) : ClientM Unit := fun c =>
  (.ok (), { c with closed_streams := i :: c.closed_streams })

/-- `stream.close()`. -/
def stream_close (i : Nat) : ClientM Unit := do
  note_closed i
  set_channel i .absent
  let m ← next_moment router
  raise_some m.stream_close

/-- The error in which an open wraps another. -/
def stream_open_failed (e : PyError) : PyError := {
  cls := .TransportError
  message := s!"Failed to open TMP SSH: {e.cls.name}" }

/-- `stream.open()`: a stream that is connected stays as it is. -/
def stream_open (i : Nat) : ClientM Unit := do
  if ← stream_connected router i then pure ()
  else do
    let m ← next_moment router
    match m.stream_open with
    | none => set_channel i .opened
    | some e =>
      if e.isinstance [.TransportError] then do
        stream_close router i
        Prog.raise e
      else if e.isinstance [.OSError, .SSHException] then do
        stream_close router i
        Prog.raise (stream_open_failed e)
      else Prog.raise e

/-! ## `TmpAppV2Session` -/

/-- `session.open()`: a session that is ready stays as it is. -/
def session_open (s : Session) : ClientM Session := do
  if s.ready then pure s
  else do
    let m ← next_moment router
    raise_some m.session_open
    pure { s with ready := true }

/-- `loads(self._exchange(opcode, payload))`. -/
def exchange_json : ClientM JsonObject := do
  let m ← next_moment router
  Prog.lift m.answer

/-- A payload that is no JSON is an error of the protocol. -/
def invalid_json (message : String) (e : PyError) : PyError :=
  if e.isinstance [.UnicodeDecodeError, .ValueError] then protocol_error message else e

/-- `except ... as exc: raise ... from exc`. -/
def reraise {α : Type} (convert : PyError → PyError) (m : ClientM α) : ClientM α := do
  match ← m.trying fun _ => true with
  | .ok a => pure a
  | .error e => Prog.raise (convert e)

/-- `session.request_read_json`. The guards of `request_read` stand inside its `try`. -/
def session_request_read_json (s : Session) (opcode : Nat) : ClientM JsonObject :=
  reraise (invalid_json "Failed to parse TMP response: invalid JSON object") (do
    if ¬ s.ready then
      Prog.raise (protocol_error "Failed to request TMP read: session is not ready")
    else
      match router.get_tmp_opcode opcode with
      | none =>
        Prog.raise (value_error s!"Failed to request TMP read: unknown opcode 0x{hex4 opcode}")
      | some operation =>
        if operation.safety ≠ "read_only" then
          Prog.raise (value_error
            s!"Failed to request TMP read: {operation.name} is classified {operation.safety}")
        else exchange_json router)

/-- `self._exchange(opcode, payload)`, for the raw bytes. -/
def exchange_raw : ClientM RawResponse := do
  let m ← next_moment router
  Prog.lift m.raw

/-- `session.request_read`. -/
def session_request_read (s : Session) (opcode : Nat) : ClientM RawResponse := do
  if ¬ s.ready then
    Prog.raise (protocol_error "Failed to request TMP read: session is not ready")
  else
    match router.get_tmp_opcode opcode with
    | none =>
      Prog.raise (value_error s!"Failed to request TMP read: unknown opcode 0x{hex4 opcode}")
    | some operation =>
      if operation.safety ≠ "read_only" then
        Prog.raise (value_error
          s!"Failed to request TMP read: {operation.name} is classified {operation.safety}")
      else exchange_raw router

/-- `session._request_mutation_json`. -/
def session_request_mutation_json (s : Session) (opcode : Nat) : ClientM JsonObject := do
  if ¬ s.ready then
    Prog.raise (protocol_error "Failed to request TMP mutation: session is not ready")
  else
    match router.get_tmp_opcode opcode with
    | none =>
      Prog.raise (value_error s!"Failed to request TMP mutation: unknown opcode 0x{hex4 opcode}")
    | some operation =>
      if operation.safety ≠ "mutation" then
        Prog.raise (value_error
          s!"Failed to request TMP mutation: {operation.name} is classified {operation.safety}")
      else
        reraise (invalid_json "Failed to parse TMP mutation response: invalid JSON object")
          (exchange_json router)

/-- `session.close()`: say goodbye, and close the stream whatever came of it. -/
def session_close (s : Session) : ClientM Unit := do
  let m ← next_moment router
  match m.goodbye with
  | none => stream_close router s.stream
  | some e =>
    if e.isinstance [.OSError, .TmpProtocolError, .TransportError] then
      stream_close router s.stream
    else Prog.raise e

/-! ## `DecoTmpClient` -/

/-- `session is not None and session.ready`. -/
def session_ready : Option Session → Bool
  | none => false
  | some s => s.ready

/-- `DecoTmpClient.connected`: there is a stream that is up, and its session is ready. -/
def connected : ClientM Bool := fun c =>
  match c.stream with
  | none => (.ok false, c)
  | some i =>
    (do
      let up ← stream_connected router i
      pure (up && session_ready c.session) : ClientM Bool) c

/-- Take over a stream and its session. -/
def adopt (i : Nat) (s : Session) : ClientM Unit := fun c =>
  (.ok (), { c with stream := some i, session := some s })

/-- `DecoTmpClient.open`: what was opened is closed again after an error. -/
def open_client : ClientM Unit := do
  if ← connected router then pure ()
  else do
    let i ← new_tmp_ssh_stream
    match ← (do
        stream_open router i
        session_open router { stream := i, ready := false }).trying fun _ => true with
    | .error e =>
      stream_close router i
      Prog.raise e
    | .ok s => adopt i s

/-- `session, self._session = self._session, None`, and the same for the stream. -/
def drop : ClientM (Option Session × Option Nat) := fun c =>
  (.ok (c.session, c.stream), { c with session := none, stream := none })

/-- `DecoTmpClient.close`: both are dropped before either is closed. -/
def close_client : ClientM Unit := do
  match ← drop with
  | (some s, _) => session_close router s
  | (none, some i) => stream_close router i
  | (none, none) => pure ()

/-- The error of a client that is not connected. -/
def not_connected : PyError := {
  cls := .RuntimeError
  message := "Failed to use TMP client: client is not connected" }

/-- `_require_session`. -/
def require_session : ClientM Session := do
  if ← connected router then
    fun c =>
      match c.session with
      | some s => (.ok s, c)
      | none => (.raised not_connected, c)
  else Prog.raise not_connected

/-- `_is_connection_failure`: the errors after which a read is repeated. -/
def is_connection_failure (e : PyError) : Bool :=
  e.isinstance [.TransportError] || contains "unexpected EOF" e.message

/-- The end of the retry loop, which no run reaches. -/
def retry_exhausted : PyError := {
  cls := .AssertionError
  message := "Failed to request TMP read: retry loop exhausted" }

/-- The loop of `_request_with_reconnect`, with the attempts that are left. -/
def request_attempts {α : Type} (request : Session → ClientM α) : Nat → ClientM α
  | 0 => Prog.raise retry_exhausted
  | left + 1 => do
    match ← (require_session router >>= request).trying
        (·.isinstance [.TmpProtocolError, .TransportError]) with
    | .ok a => pure a
    | .error e =>
      if ¬ is_connection_failure e then Prog.raise e
      else do
        close_client router
        if left = 0 then Prog.raise e
        else do
          open_client router
          request_attempts request left

/-- `_request_with_reconnect`: twice at most. -/
def request_with_reconnect {α : Type} (request : Session → ClientM α) : ClientM α :=
  request_attempts router request 2

/-- `DecoTmpClient.request_read_json`. -/
def request_read_json (opcode : Nat) : ClientM JsonObject :=
  request_with_reconnect router fun s => session_request_read_json router s opcode

/-- `DecoTmpClient.request_read`. -/
def request_read (opcode : Nat) : ClientM RawResponse :=
  request_with_reconnect router fun s => session_request_read router s opcode

/-- Note in the log that a mutation was asked for. -/
def note_mutation (opcode : Nat) (params : JsonObject) : ClientM Unit := fun c =>
  (.ok (), { c with mutations := c.mutations ++ [(opcode, params)] })

/-- `DecoTmpClient._request_mutation_json`: once, whatever happens. -/
def request_mutation_json (opcode : Nat) (params : JsonObject) : ClientM JsonObject := do
  note_mutation opcode params
  let s ← require_session router
  session_request_mutation_json router s opcode

end tplink_deco_api.tmp_client
