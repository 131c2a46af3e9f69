-- The laws of the frame codec: what `_pack_frame` packs is read back by
-- `_read_frame`, however the bytes arrive, and a stream that ends early gives
-- the frames that came whole and then an error.
import TplinkDeco.TmpProtocol.FrameSpecs

open bytes prog segments

namespace tplink_deco_api.tmp_protocol

open exceptions

/-! ## Many frames -/

/-- `_read_frame`, called again and again. -/
def read_frames : Nat → StreamM (List Frame)
  | 0 => pure []
  | n + 1 => do
    let frame ← read_frame
    let frames ← read_frames n
    pure (frame :: frames)

/-- Frames that stand whole at the head of the stream are read back in order, and nothing
after them is taken. -/
theorem read_frames_decodes (rs : List (Bytes × Frame)) {w : Wire} {is : List (Item PyError)}
    (hd : ∀ r ∈ rs, Decodes r.1 (.ok r.2))
    (h : w.items = (rs.map Prod.fst).flatten.map .byte ++ is) :
    ∃ w', read_frames rs.length w = (.ok (rs.map Prod.snd), w') ∧ w'.items = is := by
  induction rs generalizing w with
  | nil => exact ⟨w, rfl, h⟩
  | cons r rs ih =>
    rw [List.map_cons, List.flatten_cons, List.map_append, List.append_assoc] at h
    obtain ⟨rest, hi, hrun⟩ := read_frame_decodes (hd r List.mem_cons_self) h
    obtain ⟨w', hrest, hi'⟩ := ih (fun r' hr' => hd r' (List.mem_cons_of_mem r hr'))
      (show Wire.items { w with arrivals := rest, reads := _ } = _ from hi)
    refine ⟨w', ?_, hi'⟩
    rw [List.length_cons, read_frames, Prog.bind_ok hrun, Prog.bind_ok hrest]
    rfl

/-- A frame of the sender: valid arguments, the serial that was drawn for it, and the bytes
that `_pack_frame` gave. -/
structure PackedFrame where
  args : FrameArgs
  valid : args.Valid
  serial : UInt32
  raw : Bytes
  packed : ∃ w w', w.serials w.drawn = serial ∧ args.pack w = (.ok raw, w')

/-- The bytes that the sender puts on the stream. -/
def streamOf (fs : List PackedFrame) : Bytes := (fs.map PackedFrame.raw).flatten

theorem PackedFrame.decodes (f : PackedFrame) :
    ∃ frame, Decodes f.raw (.ok frame) ∧ f.args.Matches f.serial frame := by
  obtain ⟨w, w', hserial, hpack⟩ := f.packed
  obtain ⟨raw, frame, hraw, hd, hm⟩ := pack_decodes f.args f.valid w
  rw [hpack] at hraw
  cases hraw
  rw [hserial] at hm
  exact ⟨frame, hd, hm⟩

/-- The frames of the sender, with what each one decodes to. -/
theorem exists_decoded (fs : List PackedFrame) :
    ∃ rs : List (Bytes × Frame), rs.map Prod.fst = fs.map PackedFrame.raw ∧
      (∀ r ∈ rs, Decodes r.1 (.ok r.2)) ∧
      List.Forall₂ (fun f frame => f.args.Matches f.serial frame) fs (rs.map Prod.snd) := by
  induction fs with
  | nil => exact ⟨[], rfl, by simp, .nil⟩
  | cons f fs ih =>
    obtain ⟨rs, hraw, hd, hm⟩ := ih
    obtain ⟨frame, hf, hfm⟩ := f.decodes
    refine ⟨(f.raw, frame) :: rs, by simp [hraw], ?_, .cons hfm hm⟩
    intro r hr
    rcases List.mem_cons.mp hr with rfl | hr
    · exact hf
    · exact hd r hr

/-- The stream as `recv` meets it when the bytes come in the given segments. -/
theorem items_of_segments {w : Wire} {segs : List Bytes} {more : List (Arrival PyError)}
    (hne : ∀ s ∈ segs, s ≠ []) (h : w.arrivals = segs.map .data ++ more) :
    w.items = segs.flatten.map .byte ++ itemsOf more := by
  have hsegs : itemsOf (segs.map .data : List (Arrival PyError)) = segs.flatten.map .byte := by
    clear h
    induction segs with
    | nil => rfl
    | cons s segs ih =>
      rw [List.map_cons, itemsOf_data (hne s List.mem_cons_self),
        ih fun t ht => hne t (List.mem_cons_of_mem s ht)]
      simp
  rw [Wire.items, h, itemsOf, List.flatMap_append]
  exact congrArg (· ++ itemsOf more) hsegs

/-- Where a stream that ends early is cut: so many frames came whole, and the next one
not. -/
theorem exists_cut (fs : List PackedFrame) (n : Nat) (h : n < (streamOf fs).length) :
    ∃ k f, fs[k]? = some f ∧ (streamOf (fs.take k)).length ≤ n ∧
      n < (streamOf (fs.take k)).length + f.raw.length := by
  induction fs generalizing n with
  | nil => simp [streamOf] at h
  | cons f fs ih =>
    by_cases hf : n < f.raw.length
    · exact ⟨0, f, rfl, by simp [streamOf], by simpa [streamOf] using hf⟩
    · have hs : (streamOf (f :: fs)).length = f.raw.length + (streamOf fs).length := by
        simp [streamOf]
      obtain ⟨k, g, hg, hle, hlt⟩ := ih (n - f.raw.length) (by omega)
      have ht : (streamOf ((f :: fs).take (k + 1))).length =
          f.raw.length + (streamOf (fs.take k)).length := by
        simp [streamOf]
      exact ⟨k + 1, g, hg, by omega, by omega⟩

/-! ## The laws -/

theorem read_back (fs : List PackedFrame) {w : Wire} {is : List (Item PyError)}
    (h : w.items = (streamOf fs).map .byte ++ is) :
    ∃ frames w', read_frames fs.length w = (.ok frames, w') ∧
      List.Forall₂ (fun f frame => f.args.Matches f.serial frame) fs frames ∧ w'.items = is := by
  obtain ⟨rs, hraw, hd, hm⟩ := exists_decoded fs
  rw [streamOf, ← hraw] at h
  obtain ⟨w', hrun, hi⟩ := read_frames_decodes rs hd h
  have hlen : rs.length = fs.length := by simpa using congrArg List.length hraw
  exact ⟨rs.map Prod.snd, w', hlen ▸ hrun, hm, hi⟩

/-- The packed frames come back in order from their bytes, however `recv` cuts them, and
the bytes after them stay. When the stream ends early, the frames that came whole come
back, and the next read is a protocol error. -/
theorem packed_frames_come_back_in_order (fs : List PackedFrame) :
    (∀ (w : Wire) (segs : List Bytes) (more : List (Arrival PyError)),
      (∀ s ∈ segs, s ≠ []) → segs.flatten = streamOf fs →
      w.arrivals = segs.map .data ++ more →
      ∃ frames w', read_frames fs.length w = (.ok frames, w') ∧
        List.Forall₂ (fun f frame => f.args.Matches f.serial frame) fs frames ∧
        w'.items = itemsOf more) ∧
    (∀ (w : Wire) (segs : List Bytes) (more : List (Arrival PyError)),
      (∀ s ∈ segs, s ≠ []) → segs.flatten <+: streamOf fs → segs.flatten ≠ streamOf fs →
      w.arrivals = segs.map .data ++ .data [] :: more →
      ∃ k f frames w', fs[k]? = some f ∧
        (streamOf (fs.take k)).length ≤ segs.flatten.length ∧
        segs.flatten.length < (streamOf (fs.take k)).length + f.raw.length ∧
        read_frames k w = (.ok frames, w') ∧
        List.Forall₂ (fun f frame => f.args.Matches f.serial frame) (fs.take k) frames ∧
        ∃ e w'', read_frame w' = (.raised e, w'') ∧ e.cls = .TmpProtocolError) := by
  refine ⟨?_, ?_⟩
  · intro w segs more hne hs hw
    have hi := items_of_segments hne hw
    rw [hs] at hi
    exact read_back fs hi
  · intro w segs more hne hpre hproper hw
    have hi := items_of_segments hne hw
    have hshort : segs.flatten.length < (streamOf fs).length := by
      rcases Nat.lt_or_ge segs.flatten.length (streamOf fs).length with h | h
      · exact h
      · exact absurd (hpre.eq_of_length_le h) hproper
    obtain ⟨k, f, hk, hle, hlt⟩ := exists_cut fs segs.flatten.length hshort
    -- The whole frames before the cut, and the part of the next frame after them.
    have hsplit : streamOf fs = streamOf (fs.take k) ++ (f.raw ++ streamOf (fs.drop (k + 1))) := by
      have hfs : fs = fs.take k ++ f :: fs.drop (k + 1) := by
        obtain ⟨hlen, rfl⟩ := List.getElem?_eq_some_iff.mp hk
        rw [← List.drop_eq_getElem_cons hlen, List.take_append_drop]
      conv_lhs => rw [hfs]
      simp [streamOf]
    obtain ⟨part, hpart⟩ := List.prefix_of_prefix_length_le
      (hsplit ▸ List.prefix_append _ _ : streamOf (fs.take k) <+: streamOf fs) hpre hle
    rw [hsplit, ← hpart, List.prefix_append_right_inj] at hpre
    rw [← hpart, List.length_append] at hlt
    have hpartlt : part.length < f.raw.length := by omega
    have hpartpre : part <+: f.raw :=
      List.prefix_of_prefix_length_le hpre (List.prefix_append _ _) (by omega)
    rw [← hpart, List.map_append, List.append_assoc, itemsOf_eof] at hi
    obtain ⟨frames, w', hrun, hm, hi'⟩ := read_back (fs.take k) hi
    obtain ⟨frame, hd, -⟩ := f.decodes
    obtain ⟨got, size, w'', htrunc⟩ := read_frame_truncated hd hpartpre hpartlt hi'
    have hklen : (fs.take k).length = k := by
      rw [List.length_take]
      have := (List.getElem?_eq_some_iff.mp hk).1
      omega
    exact ⟨k, f, frames, w', hk, hle, by rw [← hpart, List.length_append]; omega,
      hklen ▸ hrun, hm, eof_error got size, w'', htrunc, rfl⟩

/-- One HELLO frame, as a session sends it. -/
def hello : PackedFrame where
  args := { control := HELLO }
  valid := ⟨by decide, by decide, by decide, by decide, by decide, by decide, fun _ => rfl⟩
  serial := 0
  raw := [1, 1, 4, 0]
  packed := ⟨{ arrivals := [], clock := fun _ => 0 }, _, rfl, rfl⟩

/-- A stream that draws the serial 7. -/
def quiet_wire : Wire where
  arrivals := []
  clock _ := 0
  serials _ := 7

/-- A data frame, which has a serial and a checksum. -/
def greeting_args : FrameArgs where
  control := DATA
  payload := [104, 105]
  transfer_flag := 1

theorem greeting_packed : (greeting_args.pack quiet_wire).1 =
    .ok [1, 1, 5, 0, 0, 2, 1, 0, 0, 0, 0, 7, 89, 81, 106, 58, 104, 105] := by
  decide +kernel

def greeting : PackedFrame where
  args := greeting_args
  valid := ⟨by decide, by decide, by decide, by decide, by decide, by decide,
    fun h => absurd rfl h⟩
  serial := 7
  raw := [1, 1, 5, 0, 0, 2, 1, 0, 0, 0, 0, 7, 89, 81, 106, 58, 104, 105]
  packed := ⟨quiet_wire, (greeting_args.pack quiet_wire).2, rfl, by rw [← greeting_packed]⟩

/-- The two frames come back from segments that are cut inside of the first and of the second one,
and the first alone where the stream ends inside of the second. -/
theorem the_frames_come_back :
    (∃ frames w', read_frames 2 {
        arrivals := [.data [1], .data [1, 4, 0, 1, 1, 5, 0, 0, 2, 1, 0, 0, 0, 0, 7, 89],
          .data [81, 106, 58, 104, 105]]
        clock := fun _ => 0 } = (.ok frames, w') ∧
      List.Forall₂ (fun f frame => f.args.Matches f.serial frame) [hello, greeting] frames ∧
      w'.items = []) ∧
    ∃ (k : Nat) (f : PackedFrame) (frames : List Frame) (w' : Wire),
      [hello, greeting][k]? = some f ∧
      (streamOf ([hello, greeting].take k)).length ≤ 21 ∧
      21 < (streamOf ([hello, greeting].take k)).length + f.raw.length ∧
      read_frames k {
        arrivals := [.data [1, 1, 4, 0, 1, 1, 5, 0, 0, 2, 1, 0, 0, 0, 0, 7, 89, 81, 106, 58, 104],
          .data []]
        clock := fun _ => 0 } = (.ok frames, w') ∧
      List.Forall₂ (fun f frame => f.args.Matches f.serial frame) ([hello, greeting].take k)
        frames ∧
      ∃ e w'', read_frame w' = (.raised e, w'') ∧ e.cls = .TmpProtocolError :=
  ⟨(packed_frames_come_back_in_order [hello, greeting]).1 _
      [[1], [1, 4, 0, 1, 1, 5, 0, 0, 2, 1, 0, 0, 0, 0, 7, 89], [81, 106, 58, 104, 105]] []
      (by decide) rfl rfl,
    (packed_frames_come_back_in_order [hello, greeting]).2 _
      [[1, 1, 4, 0, 1, 1, 5, 0, 0, 2, 1, 0, 0, 0, 0, 7, 89, 81, 106, 58, 104]] [] (by decide)
      (by decide) (by decide) rfl⟩

end tplink_deco_api.tmp_protocol
