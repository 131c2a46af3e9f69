-- The session of `tmp_protocol.py`: association, and the exchange of one
-- request for one response.
import TplinkDeco.TmpProtocol.Message

open bytes dict prog segments

namespace tplink_deco_api.tmp_protocol

open exceptions

def TOKEN_ALLOCATE : Nat := 0x0001
def COMPONENT_NEGOTIATE : Nat := 0x4001

/-! ## The loop that polls the stream -/

/-- The errors that the loops of a session catch and retry. -/
def is_timeout (e : PyError) : Bool := e.isinstance [.TimeoutError]

/-- The `while` loop of `_associate` and of `_exchange`: before the deadline, read once and
treat what was read; a read that timed out is tried again. A turn that reads takes at least
one item of the stream, unless the run waits there. -/
def poll {α β ρ : Type} (read : StreamM α) (treat : ρ → α → StreamM (ρ ⊕ β))
    (timed_out : PyError) (deadline : Nat) : Nat → ρ → StreamM β
  | 0, _ => Prog.wait
  | turns + 1, state => do
    let now ← monotonic
    if now < deadline then do
      match ← read.trying is_timeout with
      | .error _ => poll read treat timed_out deadline turns state
      | .ok x =>
        match ← treat state x with
        | .inl state' => poll read treat timed_out deadline turns state'
        | .inr result => pure result
    else Prog.raise timed_out

/-- Turns enough for every item that the stream still holds. -/
def poll_all {α β ρ : Type} (read : StreamM α) (treat : ρ → α → StreamM (ρ ⊕ β))
    (timed_out : PyError) (deadline : Nat) (state : ρ) : StreamM β := fun w =>
  poll read treat timed_out deadline (w.items.length + 1) state w

/-! ## Association -/

def association_timed_out : PyError :=
  protocol_error "Failed to associate TMP session: response timed out"

/-- The body of the loop of `_associate`. -/
def treat_association (_ : Unit) (frame : Frame) : StreamM (Unit ⊕ Unit) := do
  if frame.control = HELLO then pure (.inl ())
  else if frame.control = ASSOCIATE_REFUSE then
    Prog.raise (protocol_error
      s!"Failed to associate TMP session: reason code {frame.reason}")
  else if frame.control = ASSOCIATE_ACCEPT then do
    sendall (← pack_frame ASSOCIATE_ACCEPT)
    sendall (← pack_frame HELLO)
    pure (.inr ())
  else pure (.inl ())

def associate (timeout : Nat) : StreamM Unit := do
  sendall (← pack_frame ASSOCIATE_REQUEST)
  let now ← monotonic
  poll_all read_frame treat_association association_timed_out (now + timeout) ()

/-! ## The exchange -/

/-- The variables of the loop of `_exchange`. The code sets the expected total and the
expected checksum together. -/
structure Reply where
  pull_sent : Bool
  chunks : Chunks := Dict.empty
  expected : Option (Nat × Nat) := none
  requested_offset : Nat := 0

def send_pull (opcode transaction_id offset : Nat) : StreamM Unit := do
  sendall (← pack_message opcode PULL transaction_id 0 0 offset)

/-- `{opcode:04X}`. -/
def hex4 (opcode : Nat) : String :=
  let digits := (Nat.toDigits 16 opcode).map Char.toUpper
  String.ofList (List.replicate (4 - digits.length) '0' ++ digits)

def exchange_error (message : String) : PyError :=
  protocol_error s!"Failed to request TMP operation: {message}"

/-- Check one data message and store its chunk. Gives the expected total and checksum with
the new variables. -/
def accept_chunk (reply : Reply) (m : Message) : Except PyError (Nat × Nat × Reply) :=
  if MAX_RESPONSE_SIZE < m.total_size then
    .error (exchange_error s!"response size {m.total_size} exceeds limit")
  else
    let expected := reply.expected.getD (m.total_size, m.payload_checksum)
    if m.total_size ≠ expected.1 ∨ m.payload_checksum ≠ expected.2 then
      .error (exchange_error "response metadata changed between chunks")
    else if m.total_size < m.offset + m.chunk.length then
      .error (exchange_error "response chunk exceeds declared size")
    else if (reply.chunks.get? m.offset).getD m.chunk ≠ m.chunk then
      .error (exchange_error "conflicting response chunk")
    else
      .ok (expected.1, expected.2, { reply with
        chunks := reply.chunks.set m.offset m.chunk, expected := some expected })

/-- The end of the loop of `_exchange`: the response, when its checksum is right. -/
def finish (expected_checksum : Nat) (response : Bytes) : Except PyError (Reply ⊕ Bytes) :=
  if checksum response ≠ expected_checksum then
    .error (exchange_error "response payload checksum mismatch")
  else .ok (.inr response)

/-- The turn after the acknowledgement: the response, or the next PULL. -/
def answer_or_pull (opcode transaction_id expected_total expected_checksum : Nat)
    (reply : Reply) : StreamM (Reply ⊕ Bytes) :=
  let contiguous := contiguous_size reply.chunks
  if expected_total = 0 then Prog.lift (finish expected_checksum [])
  else if expected_total ≤ contiguous then
    Prog.lift (finish expected_checksum ((join_sorted reply.chunks).take expected_total))
  else if contiguous ≠ reply.requested_offset then do
    send_pull opcode transaction_id contiguous
    pure (.inl { reply with requested_offset := contiguous })
  else pure (.inl reply)

/-- A data message of the exchange. -/
def treat_chunk (opcode transaction_id : Nat) (reply : Reply) (m : Message) :
    StreamM (Reply ⊕ Bytes) := do
  let (expected_total, expected_checksum, reply) ← Prog.lift (accept_chunk reply m)
  if m.flag = PUSH then
    sendall (← pack_message opcode PUSH_ACK transaction_id 0 0 (contiguous_size reply.chunks))
  answer_or_pull opcode transaction_id expected_total expected_checksum reply

/-- The body of the loop of `_exchange`. -/
def treat_message (opcode transaction_id payload_size : Nat) (reply : Reply) :
    Option Message → StreamM (Reply ⊕ Bytes)
  | none => pure (.inl reply)
  | some m =>
    if m.opcode ≠ opcode ∨ m.transaction_id ≠ transaction_id then pure (.inl reply)
    else if m.error ≠ 0 then
      Prog.raise (protocol_error
        s!"Failed to request TMP operation 0x{hex4 opcode}: AppV2 error {m.error}")
    else if m.flag = PUSH_ACK then
      if reply.pull_sent = false ∧ payload_size ≤ m.offset then do
        send_pull opcode transaction_id 0
        pure (.inl { reply with pull_sent := true })
      else pure (.inl reply)
    else if ¬ (m.flag = PUSH ∨ m.flag = PULL_ACK) then pure (.inl reply)
    else treat_chunk opcode transaction_id reply m

def exchange_timed_out (opcode : Nat) : PyError :=
  protocol_error s!"Failed to request TMP operation 0x{hex4 opcode}: response timed out"

/-- `_exchange` after its guards, with the transaction id that it drew. -/
def transact (timeout opcode transaction_id : Nat) (payload : Bytes) : StreamM Bytes := do
  sendall (← pack_message opcode PUSH transaction_id (checksum payload) payload.length 0 payload)
  if payload = [] then send_pull opcode transaction_id 0
  let now ← monotonic
  poll_all read_message (treat_message opcode transaction_id payload.length)
    (exchange_timed_out opcode) (now + timeout) { pull_sent := decide (payload = []) }

/-! ## The session -/

structure TmpAppV2Session where
  stream : Wire
  timeout : Nat
  next_transaction_id : Nat := 1
  ready : Bool := false

abbrev SessionM := Prog PyError TmpAppV2Session

def on_stream {α : Type} (m : StreamM α) : SessionM α := fun s =>
  ((m s.stream).1, { s with stream := (m s.stream).2 })

/-- `self._next_transaction_id & 0xFFFF`, and the increment. -/
def draw_transaction_id : SessionM Nat := fun s =>
  (.ok (s.next_transaction_id % 2 ^ 16),
    { s with next_transaction_id := s.next_transaction_id + 1 })

def exchange (opcode : Int) (payload : Bytes) : SessionM Bytes := do
  if ¬ (0 ≤ opcode ∧ opcode ≤ 0xFFFF) then
    Prog.raise {
      cls := .ValueError
      message := "Failed to request TMP operation: opcode must fit in 16 bits" }
  else if MAX_REQUEST_SIZE < payload.length then
    Prog.raise {
      cls := .ValueError
      message := s!"Failed to request TMP operation: payload exceeds {MAX_REQUEST_SIZE} bytes" }
  else do
    let transaction_id ← draw_transaction_id
    fun s => on_stream (transact s.timeout opcode.toNat transaction_id payload) s

/-- `TmpAppV2Session.open`. -/
def open_session : SessionM Unit := fun s =>
  if s.ready then (.ok (), s)
  else
    (do
      on_stream (associate s.timeout)
      let _ ← exchange TOKEN_ALLOCATE []
      let _ ← exchange COMPONENT_NEGOTIATE []
      fun s => (.ok (), { s with ready := true }) : SessionM Unit) s

end tplink_deco_api.tmp_protocol
