-- What the frame functions do to the stream. A read depends on the items of
-- the stream alone; a whole frame at the head of the stream is taken whole,
-- whatever it holds.
import TplinkDeco.TmpProtocol.Frame

open bytes prog segments

namespace tplink_deco_api.tmp_protocol

open exceptions

/-! ## `recv` -/

theorem recv_bytes {n : Nat} {w : Wire} {bs : Bytes} {rest : List (Arrival PyError)}
    (h : receive n w.arrivals = (.bytes bs, rest)) :
    recv n w = (.ok bs, { w with arrivals := rest }) := by
  simp only [recv, h]

theorem recv_failed {n : Nat} {w : Wire} {e : PyError} {rest : List (Arrival PyError)}
    (h : receive n w.arrivals = (.failed e, rest)) :
    recv n w = (.raised e, { w with arrivals := rest }) := by
  simp only [recv, h]

theorem recv_nothing {n : Nat} {w : Wire} {rest : List (Arrival PyError)}
    (h : receive n w.arrivals = (.nothing, rest)) :
    recv n w = (.waiting, { w with arrivals := rest }) := by
  simp only [recv, h]

/-! ## `_read_exact` -/

/-- How `_read_exact` ends, from the block that the stream gives it. -/
def exactOutcome (size : Nat) (result : Bytes) :
    Bytes × Taken PyError × List (Item PyError) → Outcome PyError Bytes
  | (bs, .full, _) => .ok (result ++ bs)
  | (bs, .eof, _) => .raised (eof_error (result ++ bs).length size)
  | (_, .failed e, _) => .raised e
  | (_, .nothing, _) => .waiting

theorem exactOutcome_append (size : Nat) (result bs : Bytes)
    (r : Bytes × Taken PyError × List (Item PyError)) :
    exactOutcome size (result ++ bs) r = exactOutcome size result (bs ++ r.1, r.2) := by
  obtain ⟨cs, t, rest⟩ := r
  cases t <;> simp [exactOutcome]

theorem read_exact_loop_run (size turns : Nat) (result : Bytes) (w : Wire)
    (h : size - result.length ≤ turns) :
    ∃ rest, itemsOf rest = (takeBlock (size - result.length) w.items).2.2 ∧
      read_exact_loop size turns result w =
        (exactOutcome size result (takeBlock (size - result.length) w.items),
          { w with arrivals := rest }) := by
  induction turns generalizing result w with
  | zero =>
    have h0 : size - result.length = 0 := by omega
    refine ⟨w.arrivals, ?_, ?_⟩
    · rw [h0, takeBlock_zero]
      rfl
    · rw [h0, takeBlock_zero]
      simp [read_exact_loop, exactOutcome]
  | succ turns ih =>
    unfold read_exact_loop
    by_cases hlt : result.length < size
    · simp only [hlt, if_true]
      have hpos : 0 < size - result.length := by omega
      obtain ⟨k, hk⟩ : ∃ k, size - result.length = k + 1 := ⟨size - result.length - 1, by omega⟩
      rcases receive_cases hpos w.arrivals with ⟨hr, hn⟩ | ⟨e, rest, hr, hi⟩ | ⟨rest, hr, hi⟩ |
        ⟨bs, rest, hr, hne, hle, hi⟩
      · refine ⟨[], ?_, ?_⟩
        · simp [Wire.items, hn, hk, takeBlock]
        · rw [Prog.bind_waiting (recv_nothing hr)]
          simp [Wire.items, hn, hk, takeBlock, exactOutcome]
      · refine ⟨rest, ?_, ?_⟩
        · simp [Wire.items, hi, hk, takeBlock]
        · rw [Prog.bind_raised (recv_failed hr)]
          simp [Wire.items, hi, hk, takeBlock, exactOutcome]
      · refine ⟨rest, ?_, ?_⟩
        · simp [Wire.items, hi, hk, takeBlock]
        · rw [Prog.bind_ok (recv_bytes hr)]
          simp [Wire.items, hi, hk, takeBlock, exactOutcome]
      · have hlen : 0 < bs.length := List.length_pos_iff.mpr hne
        have hrest : size - (result ++ bs).length ≤ turns := by
          rw [List.length_append]
          omega
        obtain ⟨rest', hi', hrun⟩ := ih (result ++ bs) { w with arrivals := rest } hrest
        have hblock : takeBlock (size - result.length) w.items =
            (bs ++ (takeBlock (size - (result ++ bs).length) (itemsOf rest)).1,
              (takeBlock (size - (result ++ bs).length) (itemsOf rest)).2) := by
          have hsum : size - result.length = bs.length + (size - (result ++ bs).length) := by
            rw [List.length_append]
            omega
          rw [hsum, takeBlock_add, Wire.items, hi, takeBlock_append]
        refine ⟨rest', by rw [hblock]; exact hi', ?_⟩
        rw [Prog.bind_ok (recv_bytes hr)]
        simp only [hne, if_false]
        rw [hrun, hblock, exactOutcome_append]
        rfl
    · have h0 : size - result.length = 0 := by omega
      refine ⟨w.arrivals, ?_, ?_⟩
      · rw [h0, takeBlock_zero]
        rfl
      · rw [h0, takeBlock_zero]
        simp [hlt, exactOutcome]

/-- `_read_exact` reads one block of the stream, however the stream is cut. -/
theorem read_exact_run (size : Nat) (w : Wire) :
    ∃ rest, itemsOf rest = (takeBlock size w.items).2.2 ∧
      read_exact size w =
        (exactOutcome size [] (takeBlock size w.items), { w with arrivals := rest }) := by
  simpa [read_exact] using read_exact_loop_run size size [] w (by simp)

theorem read_exact_ok {w : Wire} {bs : Bytes} {is : List (Item PyError)} {size : Nat}
    (h : w.items = bs.map .byte ++ is) (hs : bs.length = size) :
    ∃ rest, itemsOf rest = is ∧ read_exact size w = (.ok bs, { w with arrivals := rest }) := by
  subst hs
  obtain ⟨rest, hi, hrun⟩ := read_exact_run bs.length w
  rw [h, takeBlock_append] at hi hrun
  exact ⟨rest, hi, by simpa [exactOutcome] using hrun⟩

/-- The stream ends before the block does. -/
theorem read_exact_eof (size : Nat) {w : Wire} {bs : Bytes} {is : List (Item PyError)}
    (h : w.items = bs.map .byte ++ .eof :: is) (hs : bs.length < size) :
    ∃ rest, itemsOf rest = is ∧
      read_exact size w = (.raised (eof_error bs.length size), { w with arrivals := rest }) := by
  obtain ⟨rest, hi, hrun⟩ := read_exact_run size w
  obtain ⟨k, hk⟩ : ∃ k, size - bs.length = k + 1 := ⟨size - bs.length - 1, by omega⟩
  rw [h, takeBlock_short bs size _ hs, hk] at hi hrun
  exact ⟨rest, by simpa [takeBlock] using hi, by simpa [takeBlock, exactOutcome] using hrun⟩

/-! ## Whole frames -/

/-- How `_read_frame` ends on a frame that came whole. -/
def outcomeOf {α : Type} : Except PyError α → Outcome PyError α
  | .ok a => .ok a
  | .error e => .raised e

/-- The bytes of one frame, delimited by its own headers, and what `_read_frame` makes of
them. Nothing is asked of the checksum or of the payload. -/
inductive Decodes : Bytes → Except PyError Frame → Prop
  | control {general : Bytes} {main_version secondary_version control reason : Nat}
      (hg : unpack GENERAL_HEADER general =
        some [main_version, secondary_version, control, reason])
      (hc : control ≠ DATA) :
      Decodes general (.ok {
        main_version, secondary_version, control, reason, transfer_flag := 0,
        transfer_error := 0, serial := 0, checksum := 0, payload := [] })
  | data {general transfer payload : Bytes}
      {main_version secondary_version reason size flag error serial sum : Nat}
      (hg : unpack GENERAL_HEADER general = some [main_version, secondary_version, DATA, reason])
      (ht : unpack TRANSFER_HEADER transfer = some [size, flag, error, serial, sum])
      (hp : payload.length = size) :
      Decodes (general ++ (transfer ++ payload))
        (check_frame general main_version secondary_version DATA reason size flag error serial
          sum payload)

theorem unpack_length {fmt : List Code} {bs : Bytes} {vs : List Nat}
    (h : unpack fmt bs = some vs) : bs.length = calcsize fmt := pack_length (pack_unpack h).2

/-- A payload size has 16 bits, so it never exceeds the limit. -/
theorem payload_size_le {transfer : Bytes} {size flag error serial sum : Nat}
    (h : unpack TRANSFER_HEADER transfer = some [size, flag, error, serial, sum]) :
    size ≤ MAX_RESPONSE_SIZE := by
  have := (pack_unpack h).1.1
  simp only [Code.size] at this
  unfold MAX_RESPONSE_SIZE
  omega

theorem struct_unpack_some {fmt : List Code} {bs : Bytes} {vs : List Nat}
    (h : unpack fmt bs = some vs) : struct_unpack fmt bs = .ok vs := by
  simp [struct_unpack, h]

theorem lift_run {α : Type} (x : Except PyError α) (w : Wire) :
    (Prog.lift x : StreamM α) w = (outcomeOf x, w) := by
  cases x <;> rfl

/-- What `noting` adds to a call that only took bytes. -/
theorem noting_run {m : StreamM Frame} {w : Wire} {r : Outcome PyError Frame} {taken : Bytes}
    {rest : List (Arrival PyError)} (h : m w = (r, { w with arrivals := rest }))
    (hu : w.unread = taken ++ bytesOf (itemsOf rest)) :
    noting m w = (r, { w with
      arrivals := rest, reads := w.reads ++ [{ taken, ended := r }] }) := by
  have htake : w.unread.take (w.unread.length - (bytesOf (itemsOf rest)).length) = taken := by
    rw [hu, List.length_append, Nat.add_sub_cancel, List.take_left]
  unfold noting
  rw [h]
  simp only [Wire.unread, Wire.items] at htake ⊢
  rw [htake]

theorem noting_raised {m : StreamM Frame} {w : Wire} (e : PyError) (h : (m w).1 = .raised e) :
    ∃ w', noting m w = (.raised e, w') := by
  unfold noting
  rcases hm : m w with ⟨r, w'⟩
  rw [hm] at h
  exact ⟨_, by rw [← h]⟩

/-- A frame at the head of the stream is taken whole, and decoded. -/
theorem read_frame_decodes {w : Wire} {raw : Bytes} {x : Except PyError Frame}
    {is : List (Item PyError)} (hd : Decodes raw x) (h : w.items = raw.map .byte ++ is) :
    ∃ rest, itemsOf rest = is ∧
      read_frame w = (outcomeOf x, { w with
        arrivals := rest, reads := w.reads ++ [{ taken := raw, ended := outcomeOf x }] }) := by
  have hunread : w.unread = raw ++ bytesOf is := by
    rw [Wire.unread, h, bytesOf_append, bytesOf_map_byte]
  cases hd with
  | control hg hc =>
    obtain ⟨rest, hi, hrun⟩ := read_exact_ok h (unpack_length hg)
    refine ⟨rest, hi, noting_run ?_ (by rw [hi]; exact hunread)⟩
    rw [Prog.bind_ok hrun, struct_unpack_some hg, Prog.bind_ok (Prog.lift_ok _ _)]
    simp only [hc, ne_eq, not_false_iff, if_true]
    rfl
  | @data general transfer payload _ _ _ _ _ _ _ _ hg ht hp =>
    rw [List.map_append, List.append_assoc] at h
    obtain ⟨rest1, hi1, hrun1⟩ := read_exact_ok h (unpack_length hg)
    have h1 : ({ w with arrivals := rest1 } : Wire).items =
        transfer.map .byte ++ (payload.map .byte ++ is) := by
      rw [Wire.items, hi1, List.map_append, List.append_assoc]
    obtain ⟨rest2, hi2, hrun2⟩ := read_exact_ok h1 (unpack_length ht)
    obtain ⟨rest3, hi3, hrun3⟩ :=
      read_exact_ok (w := { w with arrivals := rest2 }) (show Wire.items _ = _ from hi2) hp
    refine ⟨rest3, hi3, noting_run ?_ (by rw [hi3]; exact hunread)⟩
    have hsize := Nat.not_lt.mpr (payload_size_le ht)
    rw [Prog.bind_ok hrun1, struct_unpack_some hg, Prog.bind_ok (Prog.lift_ok _ _)]
    simp only [ne_eq, not_true, if_false]
    rw [Prog.bind_ok hrun2, struct_unpack_some ht, Prog.bind_ok (Prog.lift_ok _ _)]
    simp only [hsize, if_false]
    rw [Prog.bind_ok hrun3, lift_run]

/-- The decoder of one frame that came whole. -/
def decode_frame (raw : Bytes) : Option (Except PyError Frame) :=
  let general := raw.take (calcsize GENERAL_HEADER)
  let transfer := (raw.drop (calcsize GENERAL_HEADER)).take (calcsize TRANSFER_HEADER)
  let payload := (raw.drop (calcsize GENERAL_HEADER)).drop (calcsize TRANSFER_HEADER)
  match unpack GENERAL_HEADER general with
  | some [main_version, secondary_version, control, reason] =>
    if control ≠ DATA then
      if raw = general then
        some (.ok {
          main_version, secondary_version, control, reason, transfer_flag := 0,
          transfer_error := 0, serial := 0, checksum := 0, payload := [] })
      else none
    else
      match unpack TRANSFER_HEADER transfer with
      | some [size, flag, error, serial, sum] =>
        if payload.length = size then
          some (check_frame general main_version secondary_version DATA reason size flag error
            serial sum payload)
        else none
      | _ => none
  | _ => none

theorem Decodes.decode_frame {raw : Bytes} {x : Except PyError Frame} (h : Decodes raw x) :
    decode_frame raw = some x := by
  unfold tmp_protocol.decode_frame
  cases h with
  | control hg hc =>
    have hlen := unpack_length hg
    rw [List.take_of_length_le hlen.le]
    simp [hg, hc]
  | data hg ht hp =>
    rw [List.take_left' (unpack_length hg), List.drop_left' (unpack_length hg),
      List.take_left' (unpack_length ht), List.drop_left' (unpack_length ht)]
    simp [hg, ht, hp]

theorem decodes_of_decode_frame {raw : Bytes} {x : Except PyError Frame}
    (h : decode_frame raw = some x) : Decodes raw x := by
  unfold decode_frame at h
  simp only at h
  split at h
  · rename_i hg
    split at h
    · rename_i hc
      split at h
      · rename_i hraw
        cases h
        rw [← hraw] at hg
        exact .control hg hc
      · cases h
    · rename_i hc
      have hc : _ = DATA := not_not.mp hc
      subst hc
      split at h
      · rename_i ht
        split at h
        · rename_i hp
          cases h
          have hd := Decodes.data hg ht hp
          rwa [List.take_append_drop, List.take_append_drop] at hd
        · cases h
      · cases h
  · cases h

theorem Decodes.ne_nil {raw : Bytes} {x : Except PyError Frame} (h : Decodes raw x) :
    raw ≠ [] := by
  rintro rfl
  have hnone : tmp_protocol.decode_frame [] = none := by decide
  rw [h.decode_frame] at hnone
  cases hnone

/-- The bytes of a frame say what it decodes to. -/
theorem Decodes.unique {raw : Bytes} {x y : Except PyError Frame} (hx : Decodes raw x)
    (hy : Decodes raw y) : x = y :=
  Option.some.inj (hx.decode_frame.symm.trans hy.decode_frame)

/-- A frame that the end of the stream cuts short is a protocol error. -/
theorem read_frame_truncated {w : Wire} {raw cut : Bytes} {x : Except PyError Frame}
    {is : List (Item PyError)} (hd : Decodes raw x) (hpre : cut <+: raw)
    (hlt : cut.length < raw.length) (h : w.items = cut.map .byte ++ .eof :: is) :
    ∃ got size w', read_frame w = (.raised (eof_error got size), w') := by
  have hshort : cut.length < 4 → ∃ got size w', read_frame w =
      (.raised (eof_error got size), w') := by
    intro h4
    obtain ⟨rest, -, hrun⟩ := read_exact_eof (calcsize GENERAL_HEADER) h h4
    refine ⟨_, _, noting_raised (eof_error cut.length 4) ?_⟩
    rw [Prog.bind_raised hrun]
    rfl
  cases hd with
  | control hg hc =>
    rw [unpack_length hg] at hlt
    exact hshort hlt
  | @data general transfer payload _ _ _ _ _ _ _ _ hg ht hp =>
    by_cases h4 : cut.length < 4
    · exact hshort h4
    subst hp
    have hgl : general.length = 4 := unpack_length hg
    have htl : transfer.length = 12 := unpack_length ht
    obtain ⟨cut1, rfl⟩ := List.prefix_of_prefix_length_le (List.prefix_append general _) hpre
      (by omega)
    rw [List.prefix_append_right_inj] at hpre
    rw [List.map_append, List.append_assoc] at h
    obtain ⟨rest1, hi1, hrun1⟩ := read_exact_ok h (unpack_length hg)
    simp only [List.length_append] at hlt
    by_cases h12 : cut1.length < 12
    · obtain ⟨rest2, -, hrun2⟩ := read_exact_eof (calcsize TRANSFER_HEADER)
        (w := { w with arrivals := rest1 }) (show Wire.items _ = _ from hi1) h12
      refine ⟨_, _, noting_raised (eof_error cut1.length 12) ?_⟩
      rw [Prog.bind_ok hrun1, struct_unpack_some hg, Prog.bind_ok (Prog.lift_ok _ _)]
      simp only [ne_eq, not_true, if_false]
      rw [Prog.bind_raised hrun2]
      rfl
    · obtain ⟨cut2, rfl⟩ := List.prefix_of_prefix_length_le (List.prefix_append transfer _) hpre
        (by omega)
      rw [List.length_append] at hlt
      have h1 : ({ w with arrivals := rest1 } : Wire).items =
          transfer.map .byte ++ (cut2.map .byte ++ .eof :: is) := by
        rw [Wire.items, hi1, List.map_append, List.append_assoc]
      obtain ⟨rest2, hi2, hrun2⟩ := read_exact_ok h1 (unpack_length ht)
      obtain ⟨rest3, -, hrun3⟩ := read_exact_eof payload.length
        (w := { w with arrivals := rest2 }) (show Wire.items _ = _ from hi2) (by omega)
      have hsize := Nat.not_lt.mpr (payload_size_le ht)
      refine ⟨_, _, noting_raised (eof_error cut2.length payload.length) ?_⟩
      rw [Prog.bind_ok hrun1, struct_unpack_some hg, Prog.bind_ok (Prog.lift_ok _ _)]
      simp only [ne_eq, not_true, if_false]
      rw [Prog.bind_ok hrun2, struct_unpack_some ht, Prog.bind_ok (Prog.lift_ok _ _)]
      simp only [hsize, if_false]
      rw [Prog.bind_raised hrun3]

/-! ## Packing -/

/-- The arguments of `_pack_frame`, with no transfer error. -/
structure FrameArgs where
  control : Nat
  payload : Bytes := []
  main_version : Nat := 1
  secondary_version : Nat := 1
  reason : Nat := 0
  transfer_flag : Nat := 0

/-- The header fields are bytes, a payload has a size of 16 bits, and only a data frame
has one. -/
structure FrameArgs.Valid (a : FrameArgs) : Prop where
  control : a.control < 256
  main_version : a.main_version < 256
  secondary_version : a.secondary_version < 256
  reason : a.reason < 256
  transfer_flag : a.transfer_flag < 256
  payload : a.payload.length ≤ 65535
  no_payload : a.control ≠ DATA → a.payload = []

def FrameArgs.pack (a : FrameArgs) : StreamM Bytes :=
  pack_frame a.control a.payload a.main_version a.secondary_version a.reason a.transfer_flag 0

/-- The frame holds what was packed. A control frame has no flag and no serial. -/
def FrameArgs.Matches (a : FrameArgs) (serial : UInt32) (f : Frame) : Prop :=
  f.main_version = a.main_version ∧ f.secondary_version = a.secondary_version ∧
    f.control = a.control ∧ f.reason = a.reason ∧ f.payload = a.payload ∧ f.transfer_error = 0 ∧
    (a.control = DATA → f.transfer_flag = a.transfer_flag ∧ f.serial = serial.toNat) ∧
    (a.control ≠ DATA → f.transfer_flag = 0 ∧ f.serial = 0)

theorem struct_pack_ok (fmt : List Code) (vs : List Nat) (h : Fits fmt vs) :
    ∃ bs, struct_pack fmt vs = .ok bs ∧ pack fmt vs = some bs := by
  obtain ⟨bs, hbs⟩ := pack_eq_some fmt vs h
  exact ⟨bs, by simp [struct_pack, hbs], hbs⟩

theorem checksum_lt (data : Bytes) : checksum data < 256 ^ 4 := (crc32 data).toNat_lt

/-- A data frame packs to bytes that decode to it. -/
theorem pack_data_frame_decodes {general payload : Bytes}
    {main_version secondary_version reason flag : Nat} (serial : UInt32)
    (hg : unpack GENERAL_HEADER general = some [main_version, secondary_version, DATA, reason])
    (hp : payload.length ≤ 65535) (hf : flag < 256) :
    ∃ raw sum, pack_data_frame general payload flag 0 serial.toNat = .ok raw ∧
      Decodes raw (.ok {
        main_version, secondary_version, control := DATA, reason, transfer_flag := flag,
        transfer_error := 0, serial := serial.toNat, checksum := sum, payload }) := by
  have hs : serial.toNat < 256 ^ 4 := serial.toNat_lt
  obtain ⟨header, hh, hhp⟩ := struct_pack_ok TRANSFER_HEADER
    [payload.length, flag, 0, serial.toNat, CRC_PLACEHOLDER]
    ⟨by simp only [Code.size]; omega, by simpa [Code.size] using hf, by decide, hs, by decide,
      trivial⟩
  obtain ⟨transfer, ht, htp⟩ := struct_pack_ok TRANSFER_HEADER
    [payload.length, flag, 0, serial.toNat, checksum (general ++ header ++ payload)]
    ⟨by simp only [Code.size]; omega, by simpa [Code.size] using hf, by decide, hs,
      checksum_lt _, trivial⟩
  refine ⟨general ++ (transfer ++ payload), checksum (general ++ header ++ payload), ?_, ?_⟩
  · unfold pack_data_frame
    simp only [hh, bind, Except.bind]
    rw [ht]
    simp [pure, Except.pure]
  · have hd := Decodes.data hg (unpack_pack htp) (Eq.refl payload.length)
    have hc : check_frame general main_version secondary_version DATA reason payload.length flag 0
        serial.toNat (checksum (general ++ header ++ payload)) payload = .ok {
          main_version, secondary_version, control := DATA, reason, transfer_flag := flag,
          transfer_error := 0, serial := serial.toNat,
          checksum := checksum (general ++ header ++ payload), payload } := by
      simp [check_frame, hh, bind, Except.bind, pure, Except.pure]
    rwa [hc] at hd

/-- `_pack_frame` packs valid arguments, and the bytes decode to a frame that matches. -/
theorem pack_decodes (a : FrameArgs) (h : a.Valid) (w : Wire) :
    ∃ raw f, a.pack w =
        (.ok raw, { w with drawn := w.drawn + if a.control = DATA then 1 else 0 }) ∧
      Decodes raw (.ok f) ∧ a.Matches (w.serials w.drawn) f := by
  obtain ⟨general, hg, hgp⟩ := struct_pack_ok GENERAL_HEADER
    [a.main_version, a.secondary_version, a.control, a.reason]
    ⟨h.main_version, h.secondary_version, h.control, h.reason, trivial⟩
  have hgu := unpack_pack hgp
  unfold FrameArgs.pack pack_frame
  rw [hg, Prog.bind_ok (Prog.lift_ok _ _)]
  by_cases hc : a.control = DATA
  · rw [hc] at hgu
    obtain ⟨raw, sum, hraw, hd⟩ := pack_data_frame_decodes (w.serials w.drawn) hgu h.payload
      h.transfer_flag
    refine ⟨raw, _, ?_, hd, ?_⟩
    · simp only [hc, ne_eq, not_true, if_false, if_true]
      rw [Prog.bind_ok (show randbits w = _ from rfl), hraw, Prog.lift_ok]
    · exact ⟨rfl, rfl, hc.symm, rfl, rfl, rfl, fun _ => ⟨rfl, rfl⟩, fun hn => absurd hc hn⟩
  · refine ⟨general, _, ?_, Decodes.control hgu hc, ?_⟩
    · simp [hc, h.no_payload hc]
    · exact ⟨rfl, rfl, rfl, rfl, (h.no_payload hc).symm, rfl, fun hd => absurd hd hc,
        fun _ => ⟨rfl, rfl⟩⟩

/-! ## Any stream -/

theorem unread_of_suffix {w : Wire} {rest : List (Arrival PyError)}
    (h : itemsOf rest <:+ w.items) :
    w.unread = w.unread.take (w.unread.length - (bytesOf (itemsOf rest)).length) ++
      bytesOf (itemsOf rest) := by
  obtain ⟨front, hfront⟩ := h
  rw [Wire.unread, ← hfront, bytesOf_append, List.length_append, Nat.add_sub_cancel,
    List.take_left]

/-- The error of a read: of the protocol, or one that `recv` raised after some bytes. -/
def ReadError (w : Wire) (e : PyError) (is : List (Item PyError)) : Prop :=
  e.cls = .TmpProtocolError ∨ ∃ bs : Bytes, w.items = bs.map .byte ++ .fail e :: is

theorem ReadError.mem {w : Wire} {e : PyError} {is : List (Item PyError)}
    (h : ReadError w e is) : e.cls = .TmpProtocolError ∨ .fail e ∈ w.items := by
  rcases h with h | ⟨bs, h⟩
  · exact Or.inl h
  · exact Or.inr (by rw [h]; simp)

/-- The bytes that were read before the error came first on the stream. -/
theorem ReadError.after {w : Wire} {rest : List (Arrival PyError)} {e : PyError} {bs : Bytes}
    {is : List (Item PyError)} (hw : w.items = bs.map .byte ++ itemsOf rest)
    (h : ReadError { w with arrivals := rest } e is) : ReadError w e is := by
  rcases h with h | ⟨more, h⟩
  · exact Or.inl h
  · refine Or.inr ⟨bs ++ more, ?_⟩
    rw [hw, show itemsOf rest = _ from h, List.map_append, List.append_assoc]

theorem read_exact_ends (size : Nat) (w : Wire) :
    (read_exact size).Ends w fun r w' => ∃ rest, w' = { w with arrivals := rest } ∧
      itemsOf rest <:+ w.items ∧
      (0 < size → r ≠ .waiting → (itemsOf rest).length < w.items.length) ∧
      (∀ bs, r = .ok bs → bs.length = size ∧ w.items = bs.map .byte ++ itemsOf rest) ∧
      ∀ e, r = .raised e → ReadError w e (itemsOf rest) := by
  obtain ⟨rest, hi, hrun⟩ := read_exact_run size w
  unfold Prog.Ends
  rw [hrun]
  refine ⟨rest, rfl, hi ▸ takeBlock_suffix size w.items, ?_, ?_, ?_⟩
  · intro hpos hr
    rw [hi]
    refine takeBlock_shorter hpos ?_
    intro hnil
    obtain ⟨k, rfl⟩ : ∃ k, size = k + 1 := ⟨size - 1, by omega⟩
    simp [hnil, takeBlock, exactOutcome] at hr
  · intro bs hbs
    rcases hb : takeBlock size w.items with ⟨cs, t, is⟩
    rw [hb] at hbs hi
    cases t <;> simp only [exactOutcome, List.nil_append, reduceCtorEq, Outcome.ok.injEq] at hbs
    subst hbs
    rw [hi]
    exact takeBlock_full_length hb
  · intro e he
    rcases hb : takeBlock size w.items with ⟨cs, t, is⟩
    rw [hb] at he hi
    cases t with
    | full => simp [exactOutcome] at he
    | nothing => simp [exactOutcome] at he
    | eof =>
      simp only [exactOutcome, Outcome.raised.injEq] at he
      exact Or.inl (he ▸ rfl)
    | failed e' =>
      simp only [exactOutcome, Outcome.raised.injEq] at he
      rw [hi]
      exact Or.inr ⟨cs, he ▸ (takeBlock_failed hb).2⟩

theorem unpack_four (fmt : List Code) {bs : Bytes} (hf : fmt.length = 4)
    (h : bs.length = calcsize fmt) : ∃ a b c d, unpack fmt bs = some [a, b, c, d] := by
  obtain ⟨vs, hvs, hlen⟩ := unpack_eq_some h
  rw [hf] at hlen
  match vs, hlen with
  | [a, b, c, d], _ => exact ⟨a, b, c, d, hvs⟩

theorem unpack_five (fmt : List Code) {bs : Bytes} (hf : fmt.length = 5)
    (h : bs.length = calcsize fmt) : ∃ a b c d e, unpack fmt bs = some [a, b, c, d, e] := by
  obtain ⟨vs, hvs, hlen⟩ := unpack_eq_some h
  rw [hf] at hlen
  match vs, hlen with
  | [a, b, c, d, e], _ => exact ⟨a, b, c, d, e, hvs⟩

/-- What came off the wire packs again, so the check of a frame only raises protocol
errors. -/
theorem check_frame_error {general transfer payload : Bytes}
    {main_version secondary_version control reason size flag error serial sum : Nat} {e : PyError}
    (ht : unpack TRANSFER_HEADER transfer = some [size, flag, error, serial, sum])
    (h : check_frame general main_version secondary_version control reason size flag error serial
      sum payload = .error e) : e.cls = .TmpProtocolError := by
  obtain ⟨h1, h2, h3, h4, -, -⟩ := (pack_unpack ht).1
  obtain ⟨header, hpack⟩ := pack_eq_some TRANSFER_HEADER
    [size, flag, error, serial, CRC_PLACEHOLDER] ⟨h1, h2, h3, h4, by decide, trivial⟩
  unfold check_frame struct_pack at h
  simp only [hpack, bind, Except.bind, pure, Except.pure, throw, throwThe,
    MonadExceptOf.throw] at h
  split at h
  · cases h
    rfl
  · split at h
    · cases h
      rfl
    · cases h

/-- What one call of `_read_frame` does to any stream. -/
structure FrameTaken (w : Wire) (r : Outcome PyError Frame) (w' : Wire) : Prop where
  wire : ∃ rest taken, w' = { w with
      arrivals := rest, reads := w.reads ++ [{ taken, ended := r }] } ∧
    w.unread = taken ++ bytesOf (itemsOf rest)
  suffix : w'.items <:+ w.items
  shorter : r ≠ .waiting → w'.items.length < w.items.length
  error : ∀ e, r = .raised e → ReadError w e w'.items

/-- The wire after a part of a frame read: only items came off the front of the stream. -/
structure Shrunk (w : Wire) {α : Type} (r : Outcome PyError α) (w' : Wire) : Prop where
  wire : ∃ rest, w' = { w with arrivals := rest }
  suffix : w'.items <:+ w.items
  shorter : r ≠ .waiting → w'.items.length < w.items.length
  bytes : ∀ a, r = .ok a → ∃ bs : Bytes, w.items = bs.map .byte ++ w'.items
  error : ∀ e, r = .raised e → ReadError w e w'.items

/-- The last bytes of a frame came, and they may be wrong. -/
theorem Shrunk.done {w w' : Wire} {α β : Type} {a : α} {r : Outcome PyError β}
    (h : Shrunk w (.ok a) w') (he : ∀ e, r = .raised e → e.cls = .TmpProtocolError) :
    Shrunk w r w' :=
  ⟨h.wire, h.suffix, fun _ => h.shorter (by simp), fun _ _ => h.bytes a rfl,
    fun e hr => Or.inl (he e hr)⟩

/-- A read that does not end well ends the whole frame in the same way. -/
theorem Shrunk.raised {w w' : Wire} {α β : Type} {e : PyError}
    (h : Shrunk w (.raised e : Outcome PyError α) w') :
    Shrunk w (.raised e : Outcome PyError β) w' := by
  refine ⟨h.wire, h.suffix, fun _ => h.shorter (by simp), by simp, fun e' he' => h.error e' ?_⟩
  cases he'
  rfl

theorem Shrunk.waiting {w w' : Wire} {α β : Type}
    (h : Shrunk w (.waiting : Outcome PyError α) w') :
    Shrunk w (.waiting : Outcome PyError β) w' :=
  ⟨h.wire, h.suffix, by simp, by simp, by simp⟩

theorem noting_ends {m : StreamM Frame} {w : Wire} (h : m.Ends w (Shrunk w)) :
    (noting m).Ends w (FrameTaken w) := by
  obtain ⟨⟨rest, hw⟩, hs, hlt, -, he⟩ := h
  unfold Prog.Ends noting
  rcases hm : m w with ⟨r, w'⟩
  rw [hm] at hw hs hlt he
  simp only at hw hs hlt he
  subst hw
  exact ⟨⟨rest, _, rfl, unread_of_suffix hs⟩, hs, hlt, he⟩

/-- The first block of a frame. -/
theorem read_exact_shrunk {size : Nat} (hpos : 0 < size) (w : Wire) :
    (read_exact size).Ends w fun r w' => Shrunk w r w' ∧ ∀ bs, r = .ok bs → bs.length = size := by
  apply (read_exact_ends size w).mono
  rintro r w' ⟨rest, rfl, hs, hlt, hok, he⟩
  exact ⟨⟨⟨rest, rfl⟩, hs, hlt hpos, fun bs hbs => ⟨bs, (hok bs hbs).2⟩, he⟩,
    fun bs hbs => (hok bs hbs).1⟩

/-- One more block after a part of a frame. -/
theorem Shrunk.read_exact {w w' : Wire} {α : Type} {a : α} (h : Shrunk w (.ok a) w')
    (size : Nat) :
    (read_exact size).Ends w' fun r w'' => Shrunk w r w'' ∧ ∀ bs, r = .ok bs → bs.length = size := by
  obtain ⟨⟨rest, rfl⟩, hs, hlt, hbytes, -⟩ := h
  obtain ⟨front, hfront⟩ := hbytes a rfl
  apply (read_exact_ends size _).mono
  rintro r w'' ⟨rest', rfl, hs', -, hok, he⟩
  refine ⟨⟨⟨rest', rfl⟩, hs'.trans hs, fun _ => ?_, fun bs hbs => ?_,
    fun e hr => (he e hr).after hfront⟩, fun bs hbs => (hok bs hbs).1⟩
  · exact Nat.lt_of_le_of_lt hs'.length_le (hlt (by simp))
  · refine ⟨front ++ bs, ?_⟩
    rw [hfront, show Wire.items _ = itemsOf rest from rfl,
      show itemsOf rest = _ from (hok bs hbs).2, List.map_append, List.append_assoc]
    rfl

theorem read_frame_ends (w : Wire) : read_frame.Ends w (FrameTaken w) := by
  unfold read_frame
  refine noting_ends (Prog.Ends.bind (read_exact_shrunk (by decide) w) ?_ ?_ ?_)
  · rintro general_raw w1 ⟨h1, hlen⟩
    obtain ⟨mv, sv, control, reason, hg⟩ := unpack_four GENERAL_HEADER rfl (hlen _ rfl)
    rw [struct_unpack_some hg]
    apply Prog.Ends.bind_lift_ok
    by_cases hc : control ≠ DATA
    · simp only [hc, if_true, ne_eq, not_false_iff]
      exact h1.done (by simp)
    · simp only [hc, if_false]
      refine Prog.Ends.bind (h1.read_exact (calcsize TRANSFER_HEADER)) ?_ ?_ ?_
      · rintro transfer_raw w2 ⟨h2, hlen2⟩
        obtain ⟨size, flag, error, serial, sum, ht⟩ :=
          unpack_five TRANSFER_HEADER rfl (hlen2 _ rfl)
        rw [struct_unpack_some ht]
        apply Prog.Ends.bind_lift_ok
        simp only [Nat.not_lt.mpr (payload_size_le ht), if_false]
        refine Prog.Ends.bind (h2.read_exact size) ?_ ?_ ?_
        · rintro payload w3 ⟨h3, -⟩
          refine Prog.Ends.lift (fun _ _ => h3.done (by simp)) (fun e he => h3.done ?_)
          rintro e' ⟨⟩
          exact check_frame_error ht he
        · rintro e w3 ⟨h3, -⟩
          exact h3.raised
        · rintro w3 ⟨h3, -⟩
          exact h3.waiting
      · rintro e w2 ⟨h2, -⟩
        exact h2.raised
      · rintro w2 ⟨h2, -⟩
        exact h2.waiting
  · rintro e w1 ⟨h1, -⟩
    exact h1.raised
  · rintro w1 ⟨h1, -⟩
    exact h1.waiting

end tplink_deco_api.tmp_protocol
