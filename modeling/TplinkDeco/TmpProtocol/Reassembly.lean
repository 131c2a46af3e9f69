-- The completeness of an exchange. A router that answers with all pieces of a
-- payload, in any order, more than once, and among other traffic, gets the
-- payload through.
import TplinkDeco.TmpProtocol.ExchangeSafety
import TplinkDeco.TmpProtocol.FrameCodec

open bytes dict prog segments

namespace tplink_deco_api.tmp_protocol

open exceptions

/-! ## What the router delivers -/

/-- A frame of the router, and what `_read_message` makes of it. -/
structure Delivery where
  raw : Bytes
  message : Option Message
  whole : ∃ frame, Decodes raw (.ok frame) ∧ message_of_frame frame = .ok message

/-- The message of one frame that came whole. -/
def decode_message (raw : Bytes) : Option (Option Message) :=
  match decode_frame raw with
  | some (.ok frame) =>
    match message_of_frame frame with
    | .ok message => some message
    | .error _ => none
  | _ => none

theorem whole_of_decode {raw : Bytes} {message : Option Message}
    (h : decode_message raw = some message) :
    ∃ frame, Decodes raw (.ok frame) ∧ message_of_frame frame = .ok message := by
  unfold decode_message at h
  split at h
  · rename_i frame hd
    split at h
    · rename_i message' hm
      cases h
      exact ⟨frame, decodes_of_decode_frame hd, hm⟩
    · cases h
  · cases h

/-- Traffic that brings no chunk: a control frame, a message of another exchange, or a
message of this one with a flag that brings none. -/
def IsNoise (opcode transaction_id : Nat) : Option Message → Prop
  | none => True
  | some m => m.opcode ≠ opcode ∨ m.transaction_id ≠ transaction_id ∨
      m.error = 0 ∧ m.flag ≠ PUSH ∧ m.flag ≠ PULL_ACK

/-- A data message that brings one piece of the payload. -/
structure Brings (opcode transaction_id : Nat) (payload : Bytes) (placement : List (Nat × Bytes))
    (m : Message) : Prop where
  data : IsData opcode transaction_id m
  total_size : m.total_size = payload.length
  payload_checksum : m.payload_checksum = checksum payload
  piece : (m.offset, m.chunk) ∈ placement

/-- An answer to the exchange: a split of the response, and frames that bring each piece at
least once. -/
structure Answer (opcode transaction_id : Nat) where
  response : Bytes
  fits : response.length ≤ MAX_RESPONSE_SIZE
  split : Split response
  deliveries : List Delivery
  known : ∀ d ∈ deliveries, IsNoise opcode transaction_id d.message ∨
    ∃ m, d.message = some m ∧ Brings opcode transaction_id response (placed 0 split.pieces) m
  brought : ∀ offset piece, (offset, piece) ∈ placed 0 split.pieces →
    ∃ d ∈ deliveries, ∃ m, d.message = some m ∧
      Brings opcode transaction_id response (placed 0 split.pieces) m ∧
      m.offset = offset ∧ m.chunk = piece

/-- From now on all readings of the clock come before the deadline, and no send fails. -/
structure Calm (deadline : Nat) (w : Wire) : Prop where
  clock : ∀ k, w.readings ≤ k → w.clock k < deadline
  sends : ∀ k, w.sent.length ≤ k → w.send_errors k = none

theorem Calm.ticking {deadline : Nat} {w : Wire} (h : Calm deadline w) :
    Calm deadline w.ticking :=
  ⟨fun k hk => h.clock k (Nat.le_of_succ_le hk), h.sends⟩

theorem Calm.sending {deadline : Nat} {w : Wire} {raw : Bytes} (h : Calm deadline w) :
    Calm deadline (w.sending raw) := by
  refine ⟨h.clock, fun k hk => h.sends k ?_⟩
  simp only [Wire.sending, List.length_append, List.length_singleton] at hk
  omega

/-! ## One turn -/

/-- A message that goes out on a calm wire leaves what the stream holds. -/
theorem sending_calm {opcode flag transaction_id offset deadline : Nat} {w : Wire}
    (h : (outgoing opcode flag transaction_id 0 0 offset []).InRange) (hc : Calm deadline w) :
    ∃ w', Calm deadline w' ∧ w'.items = w.items ∧ ∀ {β : Type} (f : Unit → StreamM β),
      (pack_message opcode flag transaction_id 0 0 offset >>= fun raw => sendall raw >>= f) w =
        f () w' := by
  obtain ⟨raw, -, hrun⟩ := sending_run h w
  refine ⟨w.sending raw, hc.sending, rfl, fun f => ?_⟩
  rw [hrun f, hc.sends _ (Nat.le_refl _)]

/-- The pieces of a split are unique in their places and stay inside the payload. -/
theorem Split.unique {payload : Bytes} (s : Split payload) {offset : Nat} {a b : Bytes}
    (ha : (offset, a) ∈ placed 0 s.pieces) (hb : (offset, b) ∈ placed 0 s.pieces) : a = b := by
  have hne := s.nonempty
  by_cases h : payload = []
  · rw [if_pos h] at hne
    rw [hne] at ha hb
    simp only [placed, List.mem_singleton, Prod.mk.injEq] at ha hb
    exact ha.2.trans hb.2.symm
  · rw [if_neg h] at hne
    exact mem_placed_unique hne ha hb

theorem Split.inside {payload : Bytes} (s : Split payload) {offset : Nat} {piece : Bytes}
    (h : (offset, piece) ∈ placed 0 s.pieces) : offset + piece.length ≤ payload.length := by
  have := (placed_inside h).2
  rw [s.whole] at this
  omega

section

variable {opcode transaction_id deadline : Nat} {payload : Bytes} {s : Split payload}

/-- The variables of the loop hold pieces of the payload, but not yet all of them. -/
structure Collecting (s : Split payload) (reply : Reply) : Prop where
  only : Only reply.chunks (placed 0 s.pieces)
  expected : ∀ e, reply.expected = some e → e = (payload.length, checksum payload)
  missing : ¬ Complete reply.chunks (placed 0 s.pieces)

/-- After a turn the exchange gave the payload, or it goes on with the chunks that it had
and the one that came. -/
def Progressed (opcode transaction_id : Nat) (s : Split payload) (deadline : Nat)
    (is : List (Item PyError)) (reply : Reply) (m : Option Message) :
    Outcome PyError (Reply ⊕ Bytes) × Wire → Prop
  | (.ok (.inr response), _) => response = payload
  | (.ok (.inl reply'), w') => Collecting s reply' ∧ Calm deadline w' ∧ w'.items = is ∧
      (∀ offset piece, reply.chunks.get? offset = some piece →
        reply'.chunks.get? offset = some piece) ∧
      ∀ m', m = some m' → Brings opcode transaction_id payload (placed 0 s.pieces) m' →
        reply'.chunks.get? m'.offset = some m'.chunk
  | _ => False

theorem finish_payload (payload : Bytes) :
    finish (checksum payload) payload = .ok (.inr payload) := by
  simp [finish]

/-- With all pieces there the answer is the payload. Else the loop goes on. -/
theorem answer_or_pull_progress {reply : Reply} {w : Wire} (ho : opcode ≤ 0xFFFF)
    (ht : transaction_id < 2 ^ 16) (hfits : payload.length ≤ MAX_RESPONSE_SIZE)
    (honly : Only reply.chunks (placed 0 s.pieces))
    (hexp : reply.expected = some (payload.length, checksum payload)) (hc : Calm deadline w) :
    match answer_or_pull opcode transaction_id payload.length (checksum payload) reply w with
    | (.ok (.inr response), _) => response = payload
    | (.ok (.inl reply'), w') => Collecting s reply' ∧ Calm deadline w' ∧ w'.items = w.items ∧
        reply'.chunks = reply.chunks
    | _ => False := by
  unfold answer_or_pull
  by_cases h0 : payload.length = 0
  · have hnil : payload = [] := List.eq_nil_of_length_eq_zero h0
    subst hnil
    simp only [List.length_nil, if_true]
    rw [finish_payload]
    rfl
  have hne : ∀ piece ∈ s.pieces, piece ≠ [] := by
    have := s.nonempty
    rwa [if_neg (by rintro rfl; exact h0 rfl)] at this
  have hiff := le_contiguous_size_iff hne honly
  rw [s.whole] at hiff
  simp only [h0, if_false]
  by_cases hall : payload.length ≤ contiguous_size reply.chunks
  · simp only [hall, if_true]
    rw [join_sorted_complete hne honly (hiff.mp hall), s.whole, List.take_length, finish_payload]
    rfl
  simp only [hall, if_false]
  have hcollecting : Collecting s reply := by
    refine ⟨honly, ?_, fun hcomplete => hall (hiff.mpr hcomplete)⟩
    intro e he
    rw [hexp] at he
    exact (Option.some.inj he).symm
  by_cases hmore : contiguous_size reply.chunks ≠ reply.requested_offset
  · simp only [hmore, ne_eq, not_false_iff, if_true]
    have hrange : (outgoing opcode PULL transaction_id 0 0 (contiguous_size reply.chunks)
        []).InRange := outgoing_inRange ho (by decide) ht (by omega)
    obtain ⟨w', hc', hi', hrun⟩ := sending_calm hrange hc
    rw [send_pull_bind, hrun]
    exact ⟨⟨hcollecting.only, hcollecting.expected, hcollecting.missing⟩, hc', hi', rfl⟩
  · simp only [hmore, if_false]
    exact ⟨hcollecting, hc, rfl, rfl⟩

/-- A piece is accepted, and it stays. -/
theorem accept_piece {reply : Reply} {m : Message} (hfits : payload.length ≤ MAX_RESPONSE_SIZE)
    (h : Collecting s reply)
    (hm : Brings opcode transaction_id payload (placed 0 s.pieces) m) :
    ∃ reply', accept_chunk reply m = .ok (payload.length, checksum payload, reply') ∧
      Only reply'.chunks (placed 0 s.pieces) ∧
      reply'.expected = some (payload.length, checksum payload) ∧
      reply'.chunks.get? m.offset = some m.chunk ∧
      ∀ offset piece, reply.chunks.get? offset = some piece →
        reply'.chunks.get? offset = some piece := by
  refine ⟨_, accept_chunk_ok.mpr ⟨hm.total_size.symm, hm.payload_checksum.symm, ?_, ?_, ?_, ?_,
    rfl⟩, ?_, ?_, ?_, ?_⟩
  · rw [hm.total_size]
    exact hfits
  · intro e he
    rw [h.expected e he, hm.total_size, hm.payload_checksum]
  · rw [hm.total_size]
    exact s.inside hm.piece
  · intro previous hp
    exact s.unique (h.only m.offset previous hp) hm.piece
  · intro offset chunk hchunk
    simp only [Dict.get?_set] at hchunk
    split at hchunk
    · rename_i heq
      cases hchunk
      rw [heq]
      exact hm.piece
    · exact h.only offset chunk hchunk
  · simp only [hm.total_size, hm.payload_checksum]
  · simp
  · intro offset piece hp
    by_cases heq : offset = m.offset
    · subst heq
      simp [s.unique (h.only m.offset piece hp) hm.piece]
    · simpa [Dict.get?_set, heq] using hp

theorem treat_chunk_progress {reply : Reply} {m : Message} {w : Wire} (ho : opcode ≤ 0xFFFF)
    (ht : transaction_id < 2 ^ 16) (hfits : payload.length ≤ MAX_RESPONSE_SIZE)
    (h : Collecting s reply) (hc : Calm deadline w)
    (hm : Brings opcode transaction_id payload (placed 0 s.pieces) m) :
    Progressed opcode transaction_id s deadline w.items reply
      (some m) (treat_chunk opcode transaction_id reply m w) := by
  obtain ⟨reply', hacc, honly, hexp, hnew, hold⟩ := accept_piece hfits h hm
  -- Whatever happens after the chunk is stored, it stays stored.
  have hdone : ∀ w', Calm deadline w' → w'.items = w.items →
      Progressed opcode transaction_id s deadline w.items reply
        (some m)
        (answer_or_pull opcode transaction_id payload.length (checksum payload) reply' w') := by
    intro w' hc' hi'
    have hnext := answer_or_pull_progress ho ht hfits honly hexp hc'
    rcases hrun : answer_or_pull opcode transaction_id payload.length (checksum payload) reply' w'
      with ⟨(reply'' | response) | e | _, w''⟩ <;> rw [hrun] at hnext
    · obtain ⟨hcol, hc'', hi'', hchunks⟩ := hnext
      refine ⟨hcol, hc'', hi''.trans hi', ?_, ?_⟩
      · intro offset piece hp
        rw [hchunks]
        exact hold offset piece hp
      · rintro m' ⟨⟩ -
        rw [hchunks]
        exact hnew
    · exact hnext
    · exact hnext
    · exact hnext
  unfold treat_chunk
  rw [hacc, Prog.bind_ok (Prog.lift_ok _ _)]
  by_cases hpush : m.flag = PUSH
  · simp only [hpush, if_true]
    have hinside : Inside reply'.chunks payload.length :=
      fun offset chunk hchunk => s.inside (honly offset chunk hchunk)
    have hrange : (outgoing opcode PUSH_ACK transaction_id 0 0 (contiguous_size reply'.chunks)
        []).InRange :=
      outgoing_inRange ho (by decide) ht (Nat.le_trans (contiguous_size_le hinside) hfits)
    obtain ⟨w', hc', hi', hrun⟩ := sending_calm hrange hc
    rw [hrun]
    exact hdone w' hc' hi'
  · simp only [hpush, if_false]
    exact hdone w hc rfl

/-- Noise changes no chunk. -/
theorem treat_noise_progress {reply : Reply} {m : Option Message} {w : Wire} {payload_size : Nat}
    (ho : opcode ≤ 0xFFFF) (ht : transaction_id < 2 ^ 16) (h : Collecting s reply)
    (hc : Calm deadline w) (hm : IsNoise opcode transaction_id m) :
    Progressed opcode transaction_id s deadline w.items reply m
      (treat_message opcode transaction_id payload_size reply m w) := by
  -- Noise is no data message, so it brings no piece.
  have hnot : ∀ m', m = some m' →
      Brings opcode transaction_id payload (placed 0 s.pieces) m' → False := by
    rintro m' rfl hb
    obtain ⟨h1, h2, -, h4⟩ := hb.data
    rcases hm with hm | hm | ⟨-, hm1, hm2⟩
    · exact hm h1
    · exact hm h2
    · exact h4.elim hm1 hm2
  have hskip : Progressed opcode transaction_id s deadline w.items reply m
      ((pure (Sum.inl reply) : StreamM (Reply ⊕ Bytes)) w) :=
    ⟨h, hc, rfl, fun _ _ hp => hp, fun m' hm' hb => (hnot m' hm' hb).elim⟩
  cases m with
  | none => exact hskip
  | some m =>
    unfold treat_message
    simp only
    by_cases hown : m.opcode ≠ opcode ∨ m.transaction_id ≠ transaction_id
    · simp only [hown, if_true]
      exact hskip
    simp only [hown, if_false]
    obtain ⟨herr, hpush, hpull⟩ : m.error = 0 ∧ m.flag ≠ PUSH ∧ m.flag ≠ PULL_ACK := by
      rcases hm with hm | hm | hm
      · exact absurd (Or.inl hm) hown
      · exact absurd (Or.inr hm) hown
      · exact hm
    simp only [herr, ne_eq, not_true, if_false]
    by_cases hack : m.flag = PUSH_ACK
    · simp only [hack, if_true]
      by_cases hsend : reply.pull_sent = false ∧ payload_size ≤ m.offset
      · simp only [hsend, and_self, if_true]
        have hrange : (outgoing opcode PULL transaction_id 0 0 0 []).InRange :=
          outgoing_inRange ho (by decide) ht (Nat.zero_le _)
        obtain ⟨w', hc', hi', hrun⟩ := sending_calm hrange hc
        rw [send_pull_bind, hrun]
        exact ⟨⟨h.only, h.expected, h.missing⟩, hc', hi', fun _ _ hp => hp,
          fun m' hm' hb => (hnot m' hm' hb).elim⟩
      · simp only [hsend, if_false]
        exact hskip
    simp only [hack, hpush, hpull, or_self, not_false_iff, if_false, if_true]
    exact hskip

/-- A piece is treated as a data message. -/
theorem treat_piece {reply : Reply} {m : Message} {payload_size : Nat}
    (hm : Brings opcode transaction_id payload (placed 0 s.pieces) m) :
    treat_message opcode transaction_id payload_size reply (some m) =
      treat_chunk opcode transaction_id reply m := by
  obtain ⟨h1, h2, h3, h4⟩ := hm.data
  have hack : m.flag ≠ PUSH_ACK := by
    intro hack
    rw [hack] at h4
    exact absurd h4 (by decide)
  unfold treat_message
  simp [h1, h2, h3, h4, hack]

/-! ## The whole exchange -/

theorem read_delivery (d : Delivery) {w : Wire} {is : List (Item PyError)}
    (h : w.items = d.raw.map .byte ++ is) :
    ∃ rest read, itemsOf rest = is ∧ read_message w =
      (.ok d.message, { w with arrivals := rest, reads := w.reads ++ [read] }) := by
  obtain ⟨frame, hd, hm⟩ := d.whole
  obtain ⟨rest, hi, hrun⟩ := read_frame_decodes hd h
  refine ⟨rest, { taken := d.raw, ended := .ok frame }, hi, ?_⟩
  unfold read_message
  rw [Prog.bind_ok hrun, hm]
  rfl

/-- As long as a piece is missing, the frames that bring it are still to come, and the loop
gets there. -/
theorem poll_collects {payload_size : Nat} (ho : opcode ≤ 0xFFFF) (ht : transaction_id < 2 ^ 16)
    (hfits : payload.length ≤ MAX_RESPONSE_SIZE) (timed_out : PyError)
    {is : List (Item PyError)} (deliveries : List Delivery)
    (hknown : ∀ d ∈ deliveries, IsNoise opcode transaction_id d.message ∨
      ∃ m, d.message = some m ∧ Brings opcode transaction_id payload (placed 0 s.pieces) m)
    (turns : Nat) (reply : Reply) (w : Wire) (hturns : deliveries.length ≤ turns)
    (hleft : ∀ offset piece, (offset, piece) ∈ placed 0 s.pieces →
      reply.chunks.get? offset = some piece ∨ ∃ d ∈ deliveries, ∃ m, d.message = some m ∧
        Brings opcode transaction_id payload (placed 0 s.pieces) m ∧
        m.offset = offset ∧ m.chunk = piece)
    (h : Collecting s reply) (hc : Calm deadline w)
    (hi : w.items = (deliveries.map Delivery.raw).flatten.map .byte ++ is) :
    (poll read_message (treat_message opcode transaction_id payload_size) timed_out deadline turns
      reply w).1 = .ok payload := by
  induction deliveries generalizing turns reply w with
  | nil =>
    refine (h.missing fun offset piece hm => ?_).elim
    rcases hleft offset piece hm with hp | ⟨d, hd, -⟩
    · exact hp
    · cases hd
  | cons d deliveries ih =>
    obtain ⟨turns, rfl⟩ : ∃ n, turns = n + 1 :=
      ⟨turns - 1, by rw [List.length_cons] at hturns; omega⟩
    rw [List.map_cons, List.flatten_cons, List.map_append, List.append_assoc] at hi
    obtain ⟨rest, read, hi', hread⟩ := read_delivery d ((ticking_items w).trans hi)
    rw [poll_turn turns reply (hc.clock w.readings (Nat.le_refl _)), hread]
    simp only
    have hc' : Calm deadline { w.ticking with
        arrivals := rest, reads := w.ticking.reads ++ [read] } := ⟨hc.ticking.clock, hc.sends⟩
    have hprog : Progressed opcode transaction_id s deadline (itemsOf rest) reply d.message
        (treat_message opcode transaction_id payload_size reply d.message
          { w.ticking with arrivals := rest, reads := w.ticking.reads ++ [read] }) := by
      rcases hknown d List.mem_cons_self with hnoise | ⟨m, hm, hb⟩
      · exact treat_noise_progress ho ht h hc' hnoise
      · rw [hm, treat_piece hb]
        exact treat_chunk_progress ho ht hfits h hc' hb
    rcases hrun : treat_message opcode transaction_id payload_size reply d.message
      { w.ticking with arrivals := rest, reads := w.ticking.reads ++ [read] }
      with ⟨(reply' | response) | e | _, w'⟩ <;> rw [hrun] at hprog
    · obtain ⟨hcol, hc'', hi'', hold, hnew⟩ := hprog
      refine ih (fun d' hd' => hknown d' (List.mem_cons_of_mem d hd')) turns reply' w'
        (Nat.le_of_succ_le_succ hturns) ?_ hcol hc'' (hi''.trans hi')
      intro offset piece hp
      rcases hleft offset piece hp with hthere | ⟨d', hd', m, hm, hb, rfl, rfl⟩
      · exact Or.inl (hold offset piece hthere)
      · rcases List.mem_cons.mp hd' with rfl | hd'
        · exact Or.inl (hnew m hm hb)
        · exact Or.inr ⟨d', hd', m, hm, hb, rfl, rfl⟩
    · rw [show response = payload from hprog]
    · exact hprog.elim
    · exact hprog.elim

end

theorem Split.pieces_ne_nil {payload : Bytes} (s : Split payload) : s.pieces ≠ [] := by
  intro hnil
  have hempty : payload = [] := by
    rw [← s.whole, hnil]
    rfl
  have hne := s.nonempty
  rw [if_pos hempty, hnil] at hne
  cases hne

/-- Nothing was collected yet, and a split has at least one piece. -/
theorem Collecting.start {payload : Bytes} (s : Split payload) (pull_sent : Bool) :
    Collecting s { pull_sent } := by
  refine ⟨?_, ?_, ?_⟩
  · intro offset chunk h
    cases h
  · intro e h
    cases h
  · intro hcomplete
    obtain ⟨piece, pieces, hp⟩ := List.exists_cons_of_ne_nil s.pieces_ne_nil
    have := hcomplete 0 piece (by rw [hp]; exact List.mem_cons_self)
    cases this

theorem transact_answer {opcode transaction_id timeout : Nat} {payload : Bytes}
    (ho : opcode ≤ 0xFFFF) (ht : transaction_id < 2 ^ 16)
    (hp : payload.length ≤ MAX_REQUEST_SIZE) (a : Answer opcode transaction_id) {w : Wire}
    {is : List (Item PyError)}
    (hi : w.items = (a.deliveries.map Delivery.raw).flatten.map .byte ++ is)
    (hc : Calm (w.clock w.readings + timeout) w.ticking) :
    (transact timeout opcode transaction_id payload w).1 = .ok a.response := by
  have hlen : a.deliveries.length ≤ w.items.length + 1 := by
    rw [hi, List.length_append, List.length_map]
    have : ∀ ds : List Delivery, ds.length ≤ (ds.map Delivery.raw).flatten.length := by
      intro ds
      induction ds with
      | nil => exact Nat.le_refl _
      | cons d ds ih =>
        obtain ⟨frame, hd, -⟩ := d.whole
        have := List.length_pos_iff.mpr hd.ne_nil
        simp only [List.map_cons, List.flatten_cons, List.length_append, List.length_cons]
        omega
    have := this a.deliveries
    omega
  have hloop : ∀ w', Calm (w.clock w.readings + timeout) w'.ticking → w'.items = w.items →
      w'.clock = w.clock → w'.readings = w.readings →
      ((monotonic >>= fun now =>
        poll_all read_message (treat_message opcode transaction_id payload.length)
          (exchange_timed_out opcode) (now + timeout) { pull_sent := decide (payload = []) }) w').1 =
        .ok a.response := by
    intro w' hc' hi' hclock hreadings
    rw [Prog.bind_ok (monotonic_run w'),
      hclock, hreadings]
    unfold poll_all
    refine poll_collects ho ht a.fits _ a.deliveries a.known _ _ w'.ticking ?_ ?_
      (Collecting.start a.split _) hc' (hi'.trans hi)
    · rw [show w'.ticking.items = w.items from hi']
      exact hlen
    · exact fun offset piece hm => Or.inr (a.brought offset piece hm)
  unfold transact
  obtain ⟨raw, -, hrun⟩ := sending_run (request_inRange ho ht hp) w
  have hsend : w.send_errors w.sent.length = none := hc.sends w.sent.length (Nat.le_refl _)
  rw [hrun, hsend]
  have hsent : Calm (w.clock w.readings + timeout) (w.sending raw).ticking := hc.sending
  by_cases hempty : payload = []
  · simp only [hempty, if_true]
    have hrange : (outgoing opcode PULL transaction_id 0 0 0 []).InRange :=
      outgoing_inRange ho (by decide) ht (Nat.zero_le _)
    obtain ⟨raw', -, hrun'⟩ := sending_run hrange (w.sending raw)
    have hsend' : (w.sending raw).send_errors (w.sending raw).sent.length = none :=
      hsent.sends (w.sending raw).sent.length (Nat.le_refl _)
    rw [send_pull_bind, hrun', hsend']
    simpa [hempty] using hloop ((w.sending raw).sending raw') hsent.sending rfl rfl rfl
  · simp only [hempty, if_false]
    simpa [hempty] using hloop _ hsent rfl rfl rfl

/-- An answer that comes whole before the deadline comes back, however the stream cuts it. -/
theorem every_answer_comes_back (q : Request) (s : TmpAppV2Session)
    (a : Answer q.opcode (s.next_transaction_id % 2 ^ 16)) (segs : List Bytes)
    (more : List (Arrival PyError)) (hne : ∀ seg ∈ segs, seg ≠ [])
    (hsegs : segs.flatten = (a.deliveries.map Delivery.raw).flatten)
    (hw : s.stream.arrivals = segs.map .data ++ more)
    (hclock : ∀ k, s.stream.readings < k →
      s.stream.clock k < s.stream.clock s.stream.readings + s.timeout)
    (hsends : ∀ k, s.stream.sent.length ≤ k → s.stream.send_errors k = none) :
    (exchange q.opcode q.payload s).1 = .ok a.response := by
  rw [exchange_run]
  apply transact_answer q.opcode_fits (Nat.mod_lt s.next_transaction_id (by decide))
    q.payload_fits a
  · rw [items_of_segments hne hw, hsegs]
  · exact ⟨fun k hk => hclock k hk, hsends⟩

/-- The second byte of `hi`, pulled. -/
def second_piece : Delivery where
  raw := [1, 1, 5, 0, 0, 21, 0, 0, 0, 0, 0, 0, 86, 115, 138, 20, 1, 2, 64, 20, 5, 0, 0, 1, 216,
    147, 42, 172, 0, 0, 0, 2, 0, 0, 0, 1, 105]
  message := some {
    opcode := 0x4014, flag := PULL_ACK, error := 0, transaction_id := 1,
    payload_checksum := 3633523372, total_size := 2, offset := 1, control := DATA, chunk := [105] }
  whole := whole_of_decode (by decide +kernel)

/-- The first byte of `hi`, pushed. -/
def first_piece : Delivery where
  raw := [1, 1, 5, 0, 0, 21, 0, 0, 0, 0, 0, 0, 24, 253, 247, 136, 1, 2, 64, 20, 2, 0, 0, 1, 216,
    147, 42, 172, 0, 0, 0, 2, 0, 0, 0, 0, 104]
  message := some {
    opcode := 0x4014, flag := PUSH, error := 0, transaction_id := 1,
    payload_checksum := 3633523372, total_size := 2, offset := 0, control := DATA, chunk := [104] }
  whole := whole_of_decode (by decide +kernel)

/-- The response `hi`, its second byte before the first one. -/
def hi : Answer 0x4014 1 where
  response := [104, 105]
  fits := by decide
  split := ⟨[[104], [105]], rfl, by decide⟩
  deliveries := [second_piece, first_piece]
  known := by
    intro d hd
    refine Or.inr ?_
    rcases List.mem_cons.mp hd with rfl | hd
    · exact ⟨_, rfl, ⟨by decide, rfl, by decide +kernel, by decide⟩⟩
    · rw [List.mem_singleton.mp hd]
      exact ⟨_, rfl, ⟨by decide, rfl, by decide +kernel, by decide⟩⟩
  brought := by
    intro offset piece hm
    rcases List.mem_cons.mp hm with heq | hm
    · cases heq
      exact ⟨first_piece, by simp, _, rfl, ⟨by decide, rfl, by decide +kernel, by decide⟩, rfl, rfl⟩
    · cases List.mem_singleton.mp hm
      exact ⟨second_piece, by simp, _, rfl, ⟨by decide, rfl, by decide +kernel, by decide⟩, rfl,
        rfl⟩

theorem hi_comes_back :
    (exchange 0x4014 [123, 125] {
      stream := {
        arrivals := [.data second_piece.raw, .data first_piece.raw]
        clock := fun _ => 0 }
      timeout := 8 }).1 = .ok [104, 105] :=
  every_answer_comes_back ⟨0x4014, [123, 125], by decide, by decide⟩
    { stream := {
        arrivals := [.data second_piece.raw, .data first_piece.raw]
        clock := fun _ => 0 }
      timeout := 8 }
    hi [second_piece.raw, first_piece.raw] [] (by decide) rfl rfl
    (fun _ _ => show 0 < 8 by decide) (fun _ _ => rfl)

end tplink_deco_api.tmp_protocol
