-- The frame layer of `tmp_protocol.py`: the stream that a session reads and
-- writes, and the functions that read and pack one frame.
import TplinkDeco.Exceptions
import TplinkDeco.Lib.Bytes
import TplinkDeco.Lib.Prog
import TplinkDeco.Lib.Segments

open bytes prog segments

namespace tplink_deco_api.tmp_protocol

open exceptions

abbrev Bytes := List UInt8

def ASSOCIATE_REQUEST : Nat := 1
def ASSOCIATE_ACCEPT : Nat := 2
def ASSOCIATE_REFUSE : Nat := 3
def HELLO : Nat := 4
def DATA : Nat := 5
def BYE : Nat := 6

def CRC_PLACEHOLDER : Nat := 0x5A6B7C8D
def MAX_REQUEST_SIZE : Nat := 8156
def MAX_RESPONSE_SIZE : Nat := 16 * 1024 * 1024

def GENERAL_HEADER : List Code := [.B, .B, .B, .B]
def TRANSFER_HEADER : List Code := [.H, .B, .B, .I, .I]

structure Frame where
  main_version : Nat
  secondary_version : Nat
  control : Nat
  reason : Nat
  transfer_flag : Nat
  transfer_error : Nat
  serial : Nat
  checksum : Nat
  payload : Bytes
deriving DecidableEq, Repr

/-! ## The stream -/

/-- One call of `_read_frame`: the bytes that it took off the stream, and how it ended. -/
structure FrameRead where
  taken : Bytes
  ended : Outcome PyError Frame
deriving DecidableEq, Repr

/-- A `TmpStream` with what the outside world will do: what each `recv` meets, what the
clock shows at each reading, which `sendall` fails, and the random serials. `sent` and
`reads` are the log of the run. No function of the code reads the log. -/
structure Wire where
  arrivals : List (Arrival PyError)
  clock : Nat → Nat
  send_errors : Nat → Option PyError := fun _ => none
  serials : Nat → UInt32 := fun _ => 0
  readings : Nat := 0
  drawn : Nat := 0
  sent : List Bytes := []
  reads : List FrameRead := []

abbrev StreamM := Prog PyError Wire

/-- What the stream still holds. -/
def Wire.items (w : Wire) : List (Item PyError) := itemsOf w.arrivals

/-- The bytes that the stream still holds. -/
def Wire.unread (w : Wire) : Bytes := bytesOf w.items

def recv (n : Nat) : StreamM Bytes := fun w =>
  match receive n w.arrivals with
  | (.bytes bs, rest) => (.ok bs, { w with arrivals := rest })
  | (.failed e, rest) => (.raised e, { w with arrivals := rest })
  | (.nothing, rest) => (.waiting, { w with arrivals := rest })

def sendall (data : Bytes) : StreamM Unit := fun w =>
  match w.send_errors w.sent.length with
  | none => (.ok (), { w with sent := w.sent ++ [data] })
  | some e => (.raised e, { w with sent := w.sent ++ [data] })

def monotonic : StreamM Nat := fun w =>
  (.ok (w.clock w.readings), { w with readings := w.readings + 1 })

/-- `secrets.randbits(32)`. -/
def randbits : StreamM Nat := fun w =>
  (.ok (w.serials w.drawn).toNat, { w with drawn := w.drawn + 1 })

/-! ## Helpers of the standard library -/

def struct_error : PyError := { cls := .StructError }

def protocol_error (message : String) : PyError := { cls := .TmpProtocolError, message }

/-- `{n:#x}`. -/
def hex (n : Nat) : String := "0x" ++ String.ofList (Nat.toDigits 16 n)

def struct_pack (fmt : List Code) (vs : List Nat) : Except PyError Bytes :=
  match pack fmt vs with
  | some bs => .ok bs
  | none => .error struct_error

def struct_unpack (fmt : List Code) (bs : Bytes) : Except PyError (List Nat) :=
  match unpack fmt bs with
  | some vs => .ok vs
  | none => .error struct_error

def checksum (data : Bytes) : Nat := (crc32 data).toNat

/-! ## Reading and packing a frame -/

def eof_error (got size : Nat) : PyError :=
  protocol_error s!"Failed to read TMP frame: unexpected EOF after {got} of {size} bytes"

/-- The loop of `_read_exact`. Each `recv` that gives no byte ends it, so a turn for each
missing byte is enough. -/
def read_exact_loop (size : Nat) : Nat → Bytes → StreamM Bytes
  | 0, result => pure result
  | turns + 1, result =>
    if result.length < size then do
      let chunk ← recv (size - result.length)
      if chunk = [] then Prog.raise (eof_error result.length size)
      else read_exact_loop size turns (result ++ chunk)
    else pure result

def read_exact (size : Nat) : StreamM Bytes := read_exact_loop size size []

/-- The tail of `_pack_frame` for a data frame, once the serial is drawn. -/
def pack_data_frame (general payload : Bytes) (transfer_flag transfer_error serial : Nat) :
    Except PyError Bytes := do
  let checksum_header ← struct_pack TRANSFER_HEADER
    [payload.length, transfer_flag, transfer_error, serial, CRC_PLACEHOLDER]
  let sum := checksum (general ++ checksum_header ++ payload)
  let transfer ← struct_pack TRANSFER_HEADER
    [payload.length, transfer_flag, transfer_error, serial, sum]
  pure (general ++ transfer ++ payload)

def pack_frame (control : Nat) (payload : Bytes := []) (main_version : Nat := 1)
    (secondary_version : Nat := 1) (reason : Nat := 0) (transfer_flag : Nat := 0)
    (transfer_error : Nat := 0) : StreamM Bytes := do
  let general ← Prog.lift
    (struct_pack GENERAL_HEADER [main_version, secondary_version, control, reason])
  if control ≠ DATA then
    if payload ≠ [] then
      Prog.raise (protocol_error "Failed to encode TMP frame: control frame has a payload")
    else pure general
  else do
    let serial ← randbits
    Prog.lift (pack_data_frame general payload transfer_flag transfer_error serial)

/-- The end of `_read_frame`, once the payload is there. -/
def check_frame (general_raw : Bytes) (main_version secondary_version control reason : Nat)
    (payload_size transfer_flag transfer_error serial received : Nat) (payload : Bytes) :
    Except PyError Frame := do
  let checksum_header ← struct_pack TRANSFER_HEADER
    [payload_size, transfer_flag, transfer_error, serial, CRC_PLACEHOLDER]
  let calculated := checksum (general_raw ++ checksum_header ++ payload)
  if calculated ≠ received then
    throw (protocol_error
      s!"Failed to read TMP frame: checksum mismatch ({hex received} != {hex calculated})")
  if transfer_error ≠ 0 then
    throw (protocol_error s!"Failed to read TMP frame: transfer error code {transfer_error}")
  pure { main_version, secondary_version, control, reason, transfer_flag, transfer_error, serial,
         checksum := received, payload }

/-- Note a call of `_read_frame` in the log of the wire. -/
def noting (m : StreamM Frame) : StreamM Frame := fun w =>
  match m w with
  | (r, w') =>
    (r, { w' with reads := w'.reads ++
      [{ taken := w.unread.take (w.unread.length - w'.unread.length), ended := r }] })

def read_frame : StreamM Frame := noting do
  let general_raw ← read_exact (calcsize GENERAL_HEADER)
  let [main_version, secondary_version, control, reason] ←
    Prog.lift (struct_unpack GENERAL_HEADER general_raw) | Prog.raise struct_error
  if control ≠ DATA then
    pure { main_version, secondary_version, control, reason, transfer_flag := 0,
           transfer_error := 0, serial := 0, checksum := 0, payload := [] }
  else do
    let transfer_raw ← read_exact (calcsize TRANSFER_HEADER)
    let [payload_size, transfer_flag, transfer_error, serial, received] ←
      Prog.lift (struct_unpack TRANSFER_HEADER transfer_raw) | Prog.raise struct_error
    if MAX_RESPONSE_SIZE < payload_size then
      Prog.raise (protocol_error
        s!"Failed to read TMP frame: payload size {payload_size} exceeds limit")
    else do
      let payload ← read_exact payload_size
      Prog.lift (check_frame general_raw main_version secondary_version control reason
        payload_size transfer_flag transfer_error serial received payload)

end tplink_deco_api.tmp_protocol
