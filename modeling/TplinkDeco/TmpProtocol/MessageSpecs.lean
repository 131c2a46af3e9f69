-- Which bytes carry which message. A frame that is no message raises a
-- protocol error and nothing else, and a message whose fields are in range can
-- always be packed and sent.
import TplinkDeco.TmpProtocol.FrameSpecs
import TplinkDeco.TmpProtocol.Message

open bytes prog segments

namespace tplink_deco_api.tmp_protocol

open exceptions

/-! ## Reading a message -/

/-- The bytes are one whole frame, and it holds this message. -/
def Carries (raw : Bytes) (m : Message) : Prop :=
  ∃ frame, Decodes raw (.ok frame) ∧ message_of_frame frame = .ok (some m)

/-- A data frame that starts with both headers holds a message. -/
theorem message_of_data {frame : Frame} {business appv2 chunk : Bytes}
    {opcode flag error transaction_id payload_checksum total_size offset : Nat}
    (hc : frame.control = DATA) (hp : frame.payload = business ++ appv2 ++ chunk)
    (hb : unpack BUSINESS_HEADER business = some [1, 2])
    (ha : unpack APPV2_HEADER appv2 =
      some [opcode, flag, error, transaction_id, payload_checksum, total_size, offset]) :
    message_of_frame frame = .ok (some {
      opcode, flag, error, transaction_id, payload_checksum, total_size, offset,
      control := DATA, chunk }) := by
  have hbl : business.length = 2 := unpack_length hb
  have hal : appv2.length = 18 := unpack_length ha
  have hlong : ¬ frame.payload.length < HEADER_SIZE := by
    rw [hp, List.length_append, List.length_append]
    have : HEADER_SIZE = 20 := by decide
    omega
  have htake : frame.payload.take HEADER_SIZE = business ++ appv2 := by
    rw [hp]
    exact List.take_left' (by rw [List.length_append, hbl, hal]; decide)
  have hdrop : frame.payload.drop HEADER_SIZE = chunk := by
    rw [hp]
    exact List.drop_left' (by rw [List.length_append, hbl, hal]; decide)
  have htwo : frame.payload.take 2 = business := by
    rw [hp, List.append_assoc]
    exact List.take_left' hbl
  unfold message_of_frame
  rw [htake, hdrop, htwo, List.drop_left' hbl, hb, ha]
  simp [hc, hlong]

/-- What came off the wire is long enough for its headers, so a message only fails with a
protocol error. -/
theorem message_of_frame_error {frame : Frame} {e : PyError}
    (h : message_of_frame frame = .error e) : e.cls = .TmpProtocolError := by
  unfold message_of_frame at h
  by_cases hc : frame.control ≠ DATA
  · simp only [hc, ne_eq, not_false_iff, if_true] at h
    split at h
    · cases h
      rfl
    · cases h
  · simp only [hc, if_false] at h
    split at h
    · cases h
      rfl
    rename_i hlong
    have hsize : HEADER_SIZE = 20 := by decide
    obtain ⟨vs, hvs, hvl⟩ := unpack_eq_some
      (show (frame.payload.take 2).length = calcsize BUSINESS_HEADER by
        rw [List.length_take, show calcsize BUSINESS_HEADER = 2 by decide]; omega)
    obtain ⟨us, hus, hul⟩ := unpack_eq_some
      (show ((frame.payload.take HEADER_SIZE).drop 2).length = calcsize APPV2_HEADER by
        rw [List.length_drop, List.length_take, show calcsize APPV2_HEADER = 18 by decide]; omega)
    rw [hvs, hus] at h
    match vs, us, hvl, hul with
    | [_, _], [_, _, _, _, _, _, _], _, _ =>
      simp only at h
      split at h
      · cases h
        rfl
      · cases h

/-! ## Sending a message -/

/-- The message that `_pack_message` packs from its arguments. -/
def outgoing (opcode flag transaction_id payload_checksum total_size offset : Nat)
    (chunk : Bytes) : Message :=
  { opcode, flag, error := 0, transaction_id, payload_checksum, total_size, offset,
    control := DATA, chunk }

/-- Every field of a message to send fits in its place. -/
structure Message.InRange (m : Message) : Prop where
  opcode : m.opcode < 256 ^ 2
  flag : m.flag < 256
  transaction_id : m.transaction_id < 256 ^ 2
  payload_checksum : m.payload_checksum < 256 ^ 4
  total_size : m.total_size < 256 ^ 4
  offset : m.offset < 256 ^ 4
  chunk : m.chunk.length ≤ 65515

theorem valid_data {payload : Bytes} (h : payload.length ≤ 65535) :
    FrameArgs.Valid { control := DATA, payload } where
  control := show DATA < 256 by decide
  main_version := show 1 < 256 by decide
  secondary_version := show 1 < 256 by decide
  reason := show 0 < 256 by decide
  transfer_flag := show 0 < 256 by decide
  payload := h
  no_payload := fun hn => absurd rfl hn

/-- No `struct.pack` of a message in range fails, and the bytes carry the message. -/
theorem pack_message_carries {opcode flag transaction_id payload_checksum total_size offset : Nat}
    {chunk : Bytes}
    (h : (outgoing opcode flag transaction_id payload_checksum total_size offset chunk).InRange)
    (w : Wire) :
    ∃ raw, pack_message opcode flag transaction_id payload_checksum total_size offset chunk w =
        (.ok raw, { w with drawn := w.drawn + 1 }) ∧
      Carries raw (outgoing opcode flag transaction_id payload_checksum total_size offset
        chunk) := by
  obtain ⟨appv2, ha, hap⟩ := struct_pack_ok APPV2_HEADER
    [opcode, flag, 0, transaction_id, payload_checksum, total_size, offset]
    ⟨h.opcode, h.flag, by decide, h.transaction_id, h.payload_checksum, h.total_size, h.offset,
      trivial⟩
  obtain ⟨business, hb, hbp⟩ := struct_pack_ok BUSINESS_HEADER [1, 2]
    ⟨by decide, by decide, trivial⟩
  have hal : appv2.length = 18 := pack_length hap
  have hbl : business.length = 2 := pack_length hbp
  have hchunk : chunk.length ≤ 65515 := h.chunk
  obtain ⟨raw, frame, hraw, hd, hm⟩ := pack_decodes
    { control := DATA, payload := business ++ appv2 ++ chunk }
    (valid_data (by simp only [List.length_append]; omega)) w
  obtain ⟨-, -, hcontrol, -, hpayload, -⟩ := hm
  refine ⟨raw, ?_, frame, hd, ?_⟩
  · unfold pack_message
    rw [ha, Prog.bind_ok (Prog.lift_ok _ _), hb, Prog.bind_ok (Prog.lift_ok _ _)]
    exact hraw
  · exact message_of_data hcontrol hpayload (unpack_pack hbp) (unpack_pack hap)

/-- The wire after a message went out. -/
def Wire.sending (w : Wire) (raw : Bytes) : Wire :=
  { w with drawn := w.drawn + 1, sent := w.sent ++ [raw] }

/-- One message goes out. After that the stream may refuse it. -/
theorem sending_run {opcode flag transaction_id payload_checksum total_size offset : Nat}
    {chunk : Bytes}
    (h : (outgoing opcode flag transaction_id payload_checksum total_size offset chunk).InRange)
    (w : Wire) :
    ∃ raw, Carries raw (outgoing opcode flag transaction_id payload_checksum total_size offset
        chunk) ∧
      ∀ {β : Type} (f : Unit → StreamM β),
        (pack_message opcode flag transaction_id payload_checksum total_size offset chunk >>=
          fun raw => sendall raw >>= f) w =
        match w.send_errors w.sent.length with
        | none => f () (w.sending raw)
        | some e => (.raised e, w.sending raw) := by
  obtain ⟨raw, hpack, hcarries⟩ := pack_message_carries h w
  refine ⟨raw, hcarries, fun f => ?_⟩
  rw [Prog.bind_ok hpack]
  cases he : w.send_errors w.sent.length with
  | none =>
    have hsend : sendall raw { w with drawn := w.drawn + 1 } = (.ok (), w.sending raw) := by
      simp [sendall, Wire.sending, he]
    rw [Prog.bind_ok hsend]
  | some e =>
    have hsend : sendall raw { w with drawn := w.drawn + 1 } = (.raised e, w.sending raw) := by
      simp [sendall, Wire.sending, he]
    rw [Prog.bind_raised hsend]

theorem sending_ends {β : Type} {opcode flag transaction_id payload_checksum total_size : Nat}
    {offset : Nat} {chunk : Bytes} {f : Unit → StreamM β} {w : Wire}
    {Q : Outcome PyError β → Wire → Prop}
    (h : (outgoing opcode flag transaction_id payload_checksum total_size offset chunk).InRange)
    (hok : ∀ raw, Carries raw (outgoing opcode flag transaction_id payload_checksum total_size
      offset chunk) → w.send_errors w.sent.length = none → (f ()).Ends (w.sending raw) Q)
    (hraised : ∀ raw e, Carries raw (outgoing opcode flag transaction_id payload_checksum
      total_size offset chunk) → w.send_errors w.sent.length = some e →
      Q (.raised e) (w.sending raw)) :
    (pack_message opcode flag transaction_id payload_checksum total_size offset chunk >>=
      fun raw => sendall raw >>= f).Ends w Q := by
  obtain ⟨raw, hcarries, hrun⟩ := sending_run h w
  unfold Prog.Ends
  rw [hrun f]
  cases he : w.send_errors w.sent.length with
  | none => exact hok raw hcarries he
  | some e => exact hraised raw e hcarries he

end tplink_deco_api.tmp_protocol
