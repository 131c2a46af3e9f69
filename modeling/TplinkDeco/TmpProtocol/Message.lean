-- The message layer of `tmp_protocol.py`: AppV2 messages inside data frames,
-- and the walk over the chunks of a response.
import TplinkDeco.TmpProtocol.Frame
import TplinkDeco.Lib.Dict
import Mathlib.Data.List.Sort

open bytes dict prog segments

namespace tplink_deco_api.tmp_protocol

open exceptions

def ACK : Nat := 1
def PUSH : Nat := 2
def PULL : Nat := 4
def PUSH_ACK : Nat := 3
def PULL_ACK : Nat := 5

example : PUSH_ACK = PUSH ||| ACK ∧ PULL_ACK = PULL ||| ACK := by decide

def BUSINESS_HEADER : List Code := [.B, .B]
def APPV2_HEADER : List Code := [.H, .B, .B, .H, .I, .I, .I]

/-- The size of the two headers of a message. -/
def HEADER_SIZE : Nat := calcsize BUSINESS_HEADER + calcsize APPV2_HEADER

structure Message where
  opcode : Nat
  flag : Nat
  error : Nat
  transaction_id : Nat
  payload_checksum : Nat
  total_size : Nat
  offset : Nat
  control : Nat
  chunk : Bytes
deriving DecidableEq, Repr

def pack_message (opcode flag transaction_id payload_checksum total_payload_size : Nat)
    (offset_or_ack_size : Nat) (chunk : Bytes := []) : StreamM Bytes := do
  let appv2 ← Prog.lift (struct_pack APPV2_HEADER
    [opcode, flag, 0, transaction_id, payload_checksum, total_payload_size, offset_or_ack_size])
  let business ← Prog.lift (struct_pack BUSINESS_HEADER [1, 2])
  pack_frame DATA (business ++ appv2 ++ chunk)

/-- The part of `_read_message` after the frame is read. -/
def message_of_frame (frame : Frame) : Except PyError (Option Message) :=
  if frame.control ≠ DATA then
    if frame.control = ASSOCIATE_REFUSE then
      .error (protocol_error s!"Failed to associate TMP session: reason code {frame.reason}")
    else .ok none
  else if frame.payload.length < HEADER_SIZE then
    .error (protocol_error "Failed to read AppV2 message: header is truncated")
  else
    match unpack BUSINESS_HEADER (frame.payload.take 2),
        unpack APPV2_HEADER ((frame.payload.take HEADER_SIZE).drop 2) with
    | some [first, second],
        some [opcode, flag, error, transaction_id, payload_checksum, total_size, offset] =>
      if (first, second) ≠ (1, 2) then
        .error (protocol_error
          s!"Failed to read AppV2 message: unsupported business header ({first}, {second})")
      else .ok (some {
        opcode, flag, error, transaction_id, payload_checksum, total_size, offset,
        control := frame.control, chunk := frame.payload.drop HEADER_SIZE })
    | _, _ => .error struct_error

def read_message : StreamM (Option Message) := do
  let frame ← read_frame
  Prog.lift (message_of_frame frame)

/-! ## The chunks of a response -/

abbrev Chunks := Dict Nat Bytes

/-- The loop of `_contiguous_size`. Each turn but the last one passes a chunk, so a turn
for each chunk is enough. -/
def contiguous_loop (chunks : Chunks) : Nat → Nat → Nat
  | 0, offset => offset
  | turns + 1, offset =>
    match chunks.get? offset with
    | none => offset
    | some [] => offset
    | some (b :: bs) => contiguous_loop chunks turns (offset + (b :: bs).length)

def contiguous_size (chunks : Chunks) : Nat := contiguous_loop chunks chunks.size 0

/-- `b"".join(chunks[index] for index in sorted(chunks))`. -/
def join_sorted (chunks : Chunks) : Bytes :=
  (chunks.keys.insertionSort (· ≤ ·)).flatMap fun index => (chunks.get? index).getD []

end tplink_deco_api.tmp_protocol
