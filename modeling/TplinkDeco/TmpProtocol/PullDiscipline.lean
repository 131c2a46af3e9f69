-- The PULL requests of an exchange. Each asks for more than the one before, unless
-- the router acknowledges the request only after it has begun to respond.
import TplinkDeco.TmpProtocol.Reassembly

open bytes dict prog segments

namespace tplink_deco_api.tmp_protocol

open exceptions

/-! ## What goes out and what comes in -/

/-- The offset that a frame asks for, if it is a PULL. -/
def pull_offset (raw : Bytes) : Option Nat :=
  match decode_message raw with
  | some (some m) => if m.flag = PULL then some m.offset else none
  | _ => none

/-- The offsets of the PULL requests, in the order in which they went out. -/
def pulls (out : List Bytes) : List Nat := out.filterMap pull_offset

theorem pull_offset_of_carries {raw : Bytes} {m : Message} (h : Carries raw m) :
    pull_offset raw = if m.flag = PULL then some m.offset else none := by
  obtain ⟨frame, hd, hm⟩ := h
  unfold pull_offset decode_message
  simp only [hd.decode_frame, hm]

theorem pulls_append_pull (out : List Bytes) {raw : Bytes} {m : Message} (h : Carries raw m)
    (hflag : m.flag = PULL) : pulls (out ++ [raw]) = pulls out ++ [m.offset] := by
  unfold pulls
  rw [List.filterMap_append]
  simp [pull_offset_of_carries h, hflag]

theorem pulls_append_other (out : List Bytes) {raw : Bytes} {m : Message} (h : Carries raw m)
    (hflag : m.flag ≠ PULL) : pulls (out ++ [raw]) = pulls out := by
  unfold pulls
  rw [List.filterMap_append]
  simp [pull_offset_of_carries h, hflag]

/-- The messages among the reads of the log. -/
def messages (heard : List FrameRead) : List Message := heard.filterMap FrameRead.message?

theorem messages_append (heard : List FrameRead) (read : FrameRead) :
    messages (heard ++ [read]) = messages heard ++ read.message?.toList := by
  unfold messages
  rw [List.filterMap_append]
  cases h : read.message? <;> simp [h]

section

variable (opcode transaction_id : Nat) (payload : Bytes)

/-- The message acknowledges the whole request. -/
def Acknowledges (m : Message) : Prop :=
  m.opcode = opcode ∧ m.transaction_id = transaction_id ∧ m.error = 0 ∧ m.flag = PUSH_ACK ∧
    payload.length ≤ m.offset

def Acked (ms : List Message) : Prop := ∃ m ∈ ms, Acknowledges opcode transaction_id payload m

/-- Bytes of the beginning of the response have come in. -/
def Begun (ms : List Message) : Prop :=
  ∃ m ∈ ms, IsData opcode transaction_id m ∧ m.offset = 0 ∧ m.chunk ≠ []

/-- The first acknowledgement of the request comes after the response has begun. -/
def LateAck (ms : List Message) : Prop :=
  payload ≠ [] ∧ ∃ before m after, ms = before ++ m :: after ∧
    Acknowledges opcode transaction_id payload m ∧ ¬ Acked opcode transaction_id payload before ∧
      Begun opcode transaction_id before

end

variable {opcode transaction_id : Nat} {payload : Bytes}

theorem acked_append {ms : List Message} {m : Message} :
    Acked opcode transaction_id payload (ms ++ [m]) ↔
      Acked opcode transaction_id payload ms ∨ Acknowledges opcode transaction_id payload m := by
  unfold Acked
  simp [or_and_right, exists_or]

theorem begun_append {ms : List Message} {m : Message} :
    Begun opcode transaction_id (ms ++ [m]) ↔
      Begun opcode transaction_id ms ∨
        IsData opcode transaction_id m ∧ m.offset = 0 ∧ m.chunk ≠ [] := by
  unfold Begun
  simp [or_and_right, exists_or]

theorem LateAck.acked {ms : List Message} (h : LateAck opcode transaction_id payload ms) :
    Acked opcode transaction_id payload ms := by
  obtain ⟨-, before, m, after, rfl, hm, -, -⟩ := h
  exact ⟨m, by simp, hm⟩

theorem lateAck_append {ms : List Message} {m : Message} :
    LateAck opcode transaction_id payload (ms ++ [m]) ↔
      LateAck opcode transaction_id payload ms ∨
        payload ≠ [] ∧ Acknowledges opcode transaction_id payload m ∧
          ¬ Acked opcode transaction_id payload ms ∧ Begun opcode transaction_id ms := by
  constructor
  · rintro ⟨hne, before, ack, after, hms, hack, hfirst, hbegun⟩
    rcases List.eq_nil_or_concat after with rfl | ⟨after, last, rfl⟩
    · obtain ⟨rfl, hlast⟩ := List.append_inj' hms rfl
      cases hlast
      exact Or.inr ⟨hne, hack, hfirst, hbegun⟩
    · rw [List.concat_eq_append, ← List.cons_append, ← List.append_assoc] at hms
      obtain ⟨rfl, -⟩ := List.append_inj' hms rfl
      exact Or.inl ⟨hne, before, ack, after, rfl, hack, hfirst, hbegun⟩
  · rintro (⟨hne, before, ack, after, rfl, hrest⟩ | ⟨hne, hack, hfirst, hbegun⟩)
    · exact ⟨hne, before, ack, after ++ [m], by simp, hrest⟩
    · exact ⟨hne, ms, m, [], rfl, hack, hfirst, hbegun⟩

theorem not_acknowledges_of_data {m : Message} (h : IsData opcode transaction_id m) :
    ¬ Acknowledges opcode transaction_id payload m := by
  rintro ⟨-, -, -, hack, -⟩
  have hflag := h.2.2.2
  rw [hack] at hflag
  exact absurd hflag (by decide)

/-! ## The invariant -/

/-- The variables of the loop, what came in, and what went out. -/
structure Pulled (opcode transaction_id : Nat) (payload : Bytes) (ms : List Message)
    (out : List Bytes) (reply : Reply) : Prop where
  requested : reply.requested_offset ≤ contiguous_size reply.chunks
  acked : reply.pull_sent = true ↔ payload = [] ∨ Acked opcode transaction_id payload ms
  begun : Begun opcode transaction_id ms ↔ 0 < contiguous_size reply.chunks
  ordered : (pulls out).Pairwise (· < ·) ↔ ¬ LateAck opcode transaction_id payload ms
  bounded : ∀ offset ∈ pulls out, offset ≤ reply.requested_offset
  last : 0 < reply.requested_offset → reply.requested_offset ∈ pulls out
  unsent : reply.pull_sent = false → 0 ∉ pulls out

/-- At the end of a turn the exchange has asked for all that it lacks. -/
structure Pulling (opcode transaction_id : Nat) (payload : Bytes) (ms : List Message)
    (out : List Bytes) (reply : Reply) : Prop extends
    Pulled opcode transaction_id payload ms out reply where
  level : reply.requested_offset = contiguous_size reply.chunks

theorem pairwise_append_one {offsets : List Nat} {offset : Nat} :
    (offsets ++ [offset]).Pairwise (· < ·) ↔
      offsets.Pairwise (· < ·) ∧ ∀ o ∈ offsets, o < offset := by
  rw [List.pairwise_append]
  simp

section

variable {ms : List Message} {out : List Bytes} {reply : Reply} {m : Message}

/-- A message that is neither changes nothing. -/
theorem Pulling.skip (h : Pulling opcode transaction_id payload ms out reply)
    (hack : reply.pull_sent = false → ¬ Acknowledges opcode transaction_id payload m)
    (hdata : ¬ IsData opcode transaction_id m) :
    Pulling opcode transaction_id payload (ms ++ [m]) out reply where
  requested := h.requested
  level := h.level
  acked := by
    rw [h.acked, acked_append]
    constructor
    · exact Or.imp_right Or.inl
    · rintro (hempty | hacked | hm)
      · exact Or.inl hempty
      · exact Or.inr hacked
      · by_contra hnone
        have hunsent : reply.pull_sent = false := by
          cases hsent : reply.pull_sent with
          | false => rfl
          | true => exact absurd (h.acked.mp hsent) hnone
        exact hack hunsent hm
  begun := by
    rw [begun_append, ← h.begun]
    exact or_iff_left fun hm => hdata hm.1
  ordered := by
    rw [h.ordered, lateAck_append]
    refine not_congr (or_iff_left ?_).symm
    rintro ⟨hne, hm, hfirst, -⟩
    cases hsent : reply.pull_sent with
    | false => exact hack hsent hm
    | true => exact (h.acked.mp hsent).elim hne hfirst
  bounded := h.bounded
  last := h.last
  unsent := h.unsent

/-- Before the first PULL for the beginning there is none at all, or one for more. -/
theorem Pulling.pulls_eq_nil_iff (h : Pulling opcode transaction_id payload ms out reply)
    (hunsent : reply.pull_sent = false) : pulls out = [] ↔ ¬ Begun opcode transaction_id ms := by
  rw [h.begun, ← h.level]
  constructor
  · intro hnone hpos
    have hmem := h.last hpos
    rw [hnone] at hmem
    cases hmem
  · intro hzero
    rw [List.eq_nil_iff_forall_not_mem]
    intro offset hmem
    have hle := h.bounded offset hmem
    obtain rfl : offset = 0 := by omega
    exact h.unsent hunsent hmem

/-- The acknowledgement of the request, and the PULL for the beginning of the response. -/
theorem Pulling.acknowledge {raw : Bytes} {pull : Message}
    (h : Pulling opcode transaction_id payload ms out reply)
    (hunsent : reply.pull_sent = false) (hack : Acknowledges opcode transaction_id payload m)
    (hraw : Carries raw pull) (hflag : pull.flag = PULL) (hoffset : pull.offset = 0) :
    Pulling opcode transaction_id payload (ms ++ [m]) (out ++ [raw])
      { reply with pull_sent := true } := by
  have hnone : ¬ (payload = [] ∨ Acked opcode transaction_id payload ms) := by
    rw [← h.acked, hunsent]
    exact Bool.false_ne_true
  have hempty := h.pulls_eq_nil_iff hunsent
  have hpulls := pulls_append_pull out hraw hflag
  rw [hoffset] at hpulls
  have hdata : ¬ IsData opcode transaction_id m := fun hm => not_acknowledges_of_data hm hack
  have hlate : ¬ LateAck opcode transaction_id payload ms := fun hlate => hnone (Or.inr hlate.acked)
  refine ⟨⟨h.requested, ?_, ?_, ?_, ?_, ?_, fun hfalse => nomatch hfalse⟩, h.level⟩
  · exact iff_of_true rfl (Or.inr (acked_append.mpr (Or.inr hack)))
  · rw [begun_append, ← h.begun]
    exact or_iff_left fun hm => hdata hm.1
  · rw [hpulls, pairwise_append_one, lateAck_append]
    constructor
    · rintro ⟨-, hlt⟩ (hlate' | ⟨-, -, -, hbegun⟩)
      · exact hlate hlate'
      · refine absurd hbegun (hempty.mp ?_)
        rw [List.eq_nil_iff_forall_not_mem]
        exact fun offset hmem => absurd (hlt offset hmem) (Nat.not_lt_zero offset)
    · intro hnever
      refine ⟨h.ordered.mpr hlate, ?_⟩
      have hbegun : ¬ Begun opcode transaction_id ms := fun hbegun => hnever (Or.inr
        ⟨fun hpayload => hnone (Or.inl hpayload), hack, fun hacked => hnone (Or.inr hacked),
          hbegun⟩)
      rw [hempty.mpr hbegun]
      simp
  · rw [hpulls]
    intro offset hmem
    rcases List.mem_append.mp hmem with hmem | hmem
    · exact h.bounded offset hmem
    · rw [List.mem_singleton.mp hmem]
      exact Nat.zero_le _
  · rw [hpulls]
    exact fun hpos => List.mem_append_left _ (h.last hpos)

/-- A chunk is stored. Nothing went out for it yet. -/
theorem Pulling.store {reply' : Reply} (h : Pulling opcode transaction_id payload ms out reply)
    (hm : IsData opcode transaction_id m) (ha : Accepted reply m reply') :
    Pulled opcode transaction_id payload (ms ++ [m]) out reply' := by
  have hstored := ha.stored
  subst hstored
  have hack : ¬ Acknowledges opcode transaction_id payload m := not_acknowledges_of_data hm
  refine ⟨?_, ?_, ?_, ?_, h.bounded, h.last, h.unsent⟩
  · exact h.requested.trans (contiguous_size_set_le ha.same)
  · rw [acked_append, or_iff_left hack]
    exact h.acked
  · show _ ↔ 0 < contiguous_size (reply.chunks.set m.offset m.chunk)
    rw [begun_append, h.begun, contiguous_size_pos_iff, contiguous_size_pos_iff]
    constructor
    · rintro (⟨chunk, hc, hne⟩ | ⟨-, hzero, hne⟩)
      · refine ⟨chunk, ?_, hne⟩
        rw [Dict.get?_set]
        split
        · rename_i heq
          rw [← heq] at ha
          exact congrArg some (ha.same chunk (by rwa [← heq])).symm
        · exact hc
      · exact ⟨m.chunk, by rw [hzero]; simp, hne⟩
    · rintro ⟨chunk, hc, hne⟩
      rw [Dict.get?_set] at hc
      split at hc
      · rename_i heq
        cases hc
        exact Or.inr ⟨hm, heq.symm, hne⟩
      · exact Or.inl ⟨chunk, hc, hne⟩
  · rw [lateAck_append, or_iff_left fun hlate => hack hlate.2.1]
    exact h.ordered

theorem Pulled.other {raw : Bytes} {sent : Message}
    (h : Pulled opcode transaction_id payload ms out reply) (hraw : Carries raw sent)
    (hflag : sent.flag ≠ PULL) : Pulled opcode transaction_id payload ms (out ++ [raw]) reply := by
  have hpulls := pulls_append_other out hraw hflag
  exact ⟨h.requested, h.acked, h.begun, hpulls ▸ h.ordered, hpulls ▸ h.bounded, hpulls ▸ h.last,
    hpulls ▸ h.unsent⟩

/-- A PULL for the rest: it asks for more than any before it. -/
theorem Pulled.pull {raw : Bytes} {sent : Message}
    (h : Pulled opcode transaction_id payload ms out reply) (hraw : Carries raw sent)
    (hflag : sent.flag = PULL) (hoffset : sent.offset = contiguous_size reply.chunks)
    (hmore : contiguous_size reply.chunks ≠ reply.requested_offset) :
    Pulling opcode transaction_id payload ms (out ++ [raw])
      { reply with requested_offset := contiguous_size reply.chunks } := by
  have hgrows : reply.requested_offset < contiguous_size reply.chunks := by
    have := h.requested
    omega
  have hpulls := pulls_append_pull out hraw hflag
  rw [hoffset] at hpulls
  refine ⟨⟨Nat.le_refl _, h.acked, h.begun, ?_, ?_, ?_, ?_⟩, rfl⟩
  · rw [hpulls, pairwise_append_one, h.ordered]
    exact and_iff_left fun offset hmem => Nat.lt_of_le_of_lt (h.bounded offset hmem) hgrows
  · rw [hpulls]
    intro offset hmem
    rcases List.mem_append.mp hmem with hmem | hmem
    · exact (h.bounded offset hmem).trans hgrows.le
    · exact (List.mem_singleton.mp hmem).le
  · rw [hpulls]
    exact fun _ => List.mem_append_right _ (List.mem_singleton_self _)
  · rw [hpulls]
    intro hunsent hmem
    rcases List.mem_append.mp hmem with hmem | hmem
    · exact h.unsent hunsent hmem
    · have := List.mem_singleton.mp hmem
      omega

end

/-! ## One turn -/

section

variable {w₀ w : Wire} {ms : List Message} {out : List Bytes} {reply : Reply}

/-- The wire of an exchange that started on `w₀`, with what came in and what went out since. -/
structure Logged (w₀ : Wire) (ms : List Message) (out : List Bytes) (w : Wire) : Prop where
  reads : ∃ heard, w.reads = w₀.reads ++ heard ∧ messages heard = ms
  sent : w.sent = w₀.sent ++ out

theorem Logged.sending (h : Logged w₀ ms out w) (raw : Bytes) :
    Logged w₀ ms (out ++ [raw]) (w.sending raw) where
  reads := h.reads
  sent := by simp [Wire.sending, h.sent]

/-- The invariant of the loop. The chunks stay inside a size that fits. -/
def Pulls (opcode transaction_id : Nat) (payload : Bytes) (w₀ : Wire) (reply : Reply) (w : Wire) :
    Prop :=
  ∃ ms out, Logged w₀ ms out w ∧ Pulling opcode transaction_id payload ms out reply ∧
    Inside reply.chunks MAX_RESPONSE_SIZE

/-- How the log of an exchange ends. -/
def Disciplined (opcode transaction_id : Nat) (payload : Bytes) (w₀ : Wire)
    (_ : Outcome PyError Bytes) (w : Wire) : Prop :=
  ∃ ms out, Logged w₀ ms out w ∧
    ((pulls out).Pairwise (· < ·) ↔ ¬ LateAck opcode transaction_id payload ms)

/-- A message goes out, whether or not the stream takes it. -/
theorem Logged.send_ends {β : Type} {flag offset : Nat} {f : Unit → StreamM β}
    {Q : Outcome PyError β → Wire → Prop} (h : Logged w₀ ms out w) (ho : opcode ≤ 0xFFFF)
    (ht : transaction_id < 2 ^ 16) (hf : flag < 256) (hlimit : offset ≤ MAX_RESPONSE_SIZE)
    (hok : ∀ raw w', Carries raw (outgoing opcode flag transaction_id 0 0 offset []) →
      Logged w₀ ms (out ++ [raw]) w' → (f ()).Ends w' Q)
    (hraised : ∀ raw w' e, Carries raw (outgoing opcode flag transaction_id 0 0 offset []) →
      Logged w₀ ms (out ++ [raw]) w' → Q (.raised e) w') :
    (pack_message opcode flag transaction_id 0 0 offset >>= fun raw => sendall raw >>= f).Ends
      w Q :=
  sending_ends (outgoing_inRange ho hf ht hlimit)
    (fun raw hcarries _ => hok raw _ hcarries (h.sending raw))
    fun raw e hcarries _ => hraised raw _ e hcarries (h.sending raw)

theorem answer_or_pull_pulls {total sum : Nat} (ho : opcode ≤ 0xFFFF) (ht : transaction_id < 2 ^ 16)
    (hw : Logged w₀ ms out w) (h : Pulled opcode transaction_id payload ms out reply)
    (hinside : Inside reply.chunks MAX_RESPONSE_SIZE) :
    (answer_or_pull opcode transaction_id total sum reply).Ends w
      (Turned (Pulls opcode transaction_id payload w₀)
        (Disciplined opcode transaction_id payload w₀)) := by
  have hfinish : ∀ response, (Prog.lift (finish sum response)).Ends w
      (Turned (Pulls opcode transaction_id payload w₀)
        (Disciplined opcode transaction_id payload w₀)) := by
    intro response
    apply Prog.Ends.lift
    · intro x hx
      obtain ⟨rfl, -⟩ := finish_ok hx
      exact ⟨ms, out, hw, h.ordered⟩
    · intro e _
      exact ⟨ms, out, hw, h.ordered⟩
  unfold answer_or_pull
  by_cases h0 : total = 0
  · simp only [h0, if_true]
    exact hfinish []
  by_cases hall : total ≤ contiguous_size reply.chunks
  · simp only [h0, hall, if_false, if_true]
    exact hfinish _
  simp only [h0, hall, if_false]
  by_cases hmore : contiguous_size reply.chunks ≠ reply.requested_offset
  · simp only [hmore, ne_eq, not_false_iff, if_true]
    rw [send_pull_bind]
    refine hw.send_ends ho ht (by decide) (contiguous_size_le hinside) (fun raw w' hraw hw' => ?_)
      fun raw w' e hraw hw' => ?_
    · exact Prog.Ends.pure ⟨ms, out ++ [raw], hw', h.pull hraw rfl rfl hmore, hinside⟩
    · exact ⟨ms, out ++ [raw], hw', (h.pull hraw rfl rfl hmore).ordered⟩
  · simp only [hmore, if_false]
    exact Prog.Ends.pure ⟨ms, out, hw, ⟨h, (not_not.mp hmore).symm⟩, hinside⟩

theorem treat_chunk_pulls {m : Message} (ho : opcode ≤ 0xFFFF) (ht : transaction_id < 2 ^ 16)
    (hw : Logged w₀ (ms ++ [m]) out w) (h : Pulling opcode transaction_id payload ms out reply)
    (hinside : Inside reply.chunks MAX_RESPONSE_SIZE) (hm : IsData opcode transaction_id m) :
    (treat_chunk opcode transaction_id reply m).Ends w
      (Turned (Pulls opcode transaction_id payload w₀)
        (Disciplined opcode transaction_id payload w₀)) := by
  unfold treat_chunk
  cases hacc : accept_chunk reply m with
  | error e =>
    refine ⟨ms ++ [m], out, hw, ?_⟩
    rw [lateAck_append, or_iff_left fun hlate => not_acknowledges_of_data hm hlate.2.1]
    exact h.ordered
  | ok accepted =>
    obtain ⟨total, sum, reply'⟩ := accepted
    obtain ⟨-, -, ha⟩ := accept_chunk_ok.mp hacc
    have h' := h.store hm ha
    have hinside' : Inside reply'.chunks MAX_RESPONSE_SIZE := by
      rw [ha.stored]
      intro offset chunk hc
      rw [Dict.get?_set] at hc
      split at hc
      · rename_i heq
        cases hc
        rw [heq]
        exact ha.inside.trans ha.limit
      · exact hinside offset chunk hc
    apply Prog.Ends.bind_lift_ok
    by_cases hpush : m.flag = PUSH
    · simp only [hpush, if_true]
      have hother : PUSH_ACK ≠ PULL := by decide
      refine hw.send_ends ho ht (by decide) (contiguous_size_le hinside')
        (fun raw w' hraw hw' => ?_) fun raw w' e hraw hw' => ?_
      · exact answer_or_pull_pulls ho ht hw' (h'.other hraw hother) hinside'
      · exact ⟨ms ++ [m], out ++ [raw], hw', (h'.other hraw hother).ordered⟩
    · simp only [hpush, if_false]
      exact answer_or_pull_pulls ho ht hw h' hinside'

theorem treat_message_pulls {m : Message} (ho : opcode ≤ 0xFFFF) (ht : transaction_id < 2 ^ 16)
    (hw : Logged w₀ (ms ++ [m]) out w) (h : Pulling opcode transaction_id payload ms out reply)
    (hinside : Inside reply.chunks MAX_RESPONSE_SIZE) :
    (treat_message opcode transaction_id payload.length reply (some m)).Ends w
      (Turned (Pulls opcode transaction_id payload w₀)
        (Disciplined opcode transaction_id payload w₀)) := by
  have hskip : (reply.pull_sent = false → ¬ Acknowledges opcode transaction_id payload m) →
      ¬ IsData opcode transaction_id m →
        Pulling opcode transaction_id payload (ms ++ [m]) out reply :=
    fun hack hdata => h.skip hack hdata
  unfold treat_message
  simp only
  by_cases hown : m.opcode ≠ opcode ∨ m.transaction_id ≠ transaction_id
  · simp only [hown, if_true]
    refine Prog.Ends.pure ⟨ms ++ [m], out, hw, hskip (fun _ hack => ?_) fun hdata => ?_, hinside⟩
    · exact hown.elim (fun hn => hn hack.1) fun hn => hn hack.2.1
    · exact hown.elim (fun hn => hn hdata.1) fun hn => hn hdata.2.1
  simp only [hown, if_false]
  by_cases herr : m.error ≠ 0
  · simp only [herr, ne_eq, not_false_iff, if_true]
    exact ⟨ms ++ [m], out, hw, (hskip (fun _ hack => herr hack.2.2.1)
      fun hdata => herr hdata.2.2.1).ordered⟩
  simp only [herr, if_false]
  by_cases hack : m.flag = PUSH_ACK
  · have hdata : ¬ IsData opcode transaction_id m := by
      intro hdata
      have hflag := hdata.2.2.2
      rw [hack] at hflag
      exact absurd hflag (by decide)
    simp only [hack, if_true]
    by_cases hpull : reply.pull_sent = false ∧ payload.length ≤ m.offset
    · simp only [hpull, and_self, if_true]
      have hacknowledges : Acknowledges opcode transaction_id payload m := by
        refine ⟨?_, ?_, by omega, hack, hpull.2⟩ <;> by_contra hn
        · exact hown (Or.inl hn)
        · exact hown (Or.inr hn)
      rw [send_pull_bind]
      refine hw.send_ends ho ht (by decide) (Nat.zero_le _) (fun raw w' hraw hw' => ?_)
        fun raw w' e hraw hw' => ?_
      · exact Prog.Ends.pure ⟨ms ++ [m], out ++ [raw], hw',
          h.acknowledge hpull.1 hacknowledges hraw rfl rfl, hinside⟩
      · exact ⟨ms ++ [m], out ++ [raw], hw',
          (h.acknowledge hpull.1 hacknowledges hraw rfl rfl).ordered⟩
    · simp only [hpull, if_false]
      refine Prog.Ends.pure ⟨ms ++ [m], out, hw, hskip (fun hunsent hm => ?_) hdata, hinside⟩
      exact hpull ⟨hunsent, hm.2.2.2.2⟩
  simp only [hack, if_false]
  by_cases hflag : m.flag = PUSH ∨ m.flag = PULL_ACK
  · simp only [hflag, not_true, if_false]
    have hm : IsData opcode transaction_id m := by
      refine ⟨?_, ?_, by omega, hflag⟩ <;> by_contra hn
      · exact hown (Or.inl hn)
      · exact hown (Or.inr hn)
    exact treat_chunk_pulls ho ht hw h hinside hm
  · simp only [hflag, not_false_iff, if_true]
    exact Prog.Ends.pure ⟨ms ++ [m], out, hw, hskip (fun _ hm => hack hm.2.2.2.1)
      fun hdata => hflag hdata.2.2.2, hinside⟩

end

/-! ## The whole exchange -/

theorem Logged.reading {w₀ w : Wire} {ms : List Message} {out : List Bytes}
    (rest : List (Arrival PyError)) (read : FrameRead) (h : Logged w₀ ms out w) :
    Logged w₀ (ms ++ read.message?.toList) out
      { w with arrivals := rest, reads := w.reads ++ [read] } where
  reads := by
    obtain ⟨heard, hreads, rfl⟩ := h.reads
    exact ⟨heard ++ [read], by simp [hreads], messages_append heard read⟩
  sent := h.sent

theorem Logged.ticking {w₀ w : Wire} {ms : List Message} {out : List Bytes}
    (h : Logged w₀ ms out w) : Logged w₀ ms out w.ticking := ⟨h.reads, h.sent⟩

theorem exchange_loop_pulls {w₀ : Wire} (ho : opcode ≤ 0xFFFF) (ht : transaction_id < 2 ^ 16)
    (timed_out : PyError) (deadline turns : Nat) (reply : Reply) (w : Wire)
    (h : Pulls opcode transaction_id payload w₀ reply w) :
    (poll read_message (treat_message opcode transaction_id payload.length) timed_out deadline
      turns reply).Ends w (Disciplined opcode transaction_id payload w₀) := by
  apply poll_ends (I := Pulls opcode transaction_id payload w₀) _ _ turns reply w h
  · rintro reply w ⟨ms, out, hw, hp, hinside⟩
    apply (read_message_ends w.ticking).mono
    rintro r w' ⟨⟨rest, read, rfl, hmsg⟩, -, -⟩
    have hw' := hw.ticking.reading rest read
    rw [hmsg] at hw'
    cases r with
    | ok m =>
      cases m with
      | none =>
        rw [Option.toList_none, List.append_nil] at hw'
        exact ⟨ms, out, hw', hp, hinside⟩
      | some m => exact treat_message_pulls ho ht hw' hp hinside
    | raised e =>
      rw [Option.toList_none, List.append_nil] at hw'
      unfold AfterRead
      by_cases hto : is_timeout e
      · simp only [hto, if_true]
        exact ⟨ms, out, hw', hp, hinside⟩
      · simp only [hto]
        exact ⟨ms, out, hw', hp.ordered⟩
    | waiting =>
      rw [Option.toList_none, List.append_nil] at hw'
      exact ⟨ms, out, hw', hp.ordered⟩
  · rintro reply w ⟨ms, out, hw, hp, -⟩
    exact ⟨⟨ms, out, hw.ticking, hp.ordered⟩, ms, out, hw, hp.ordered⟩

theorem Pulling.start (out : List Bytes) (pull_sent : Bool)
    (hsent : pull_sent = true ↔ payload = [])
    (hpulls : pulls out = if payload = [] then [0] else []) :
    Pulling opcode transaction_id payload [] out { pull_sent } := by
  have hnot : ¬ LateAck opcode transaction_id payload [] := fun hlate => by
    obtain ⟨m, hm, -⟩ := hlate.acked
    cases hm
  have hzero : contiguous_size Dict.empty = 0 := rfl
  refine ⟨⟨Nat.zero_le _, ?_, ?_, ?_, ?_, fun hpos => absurd hpos (Nat.lt_irrefl 0), ?_⟩, rfl⟩
  · simp [hsent, Acked]
  · show _ ↔ 0 < contiguous_size Dict.empty
    rw [hzero]
    simp [Begun]
  · rw [hpulls, iff_true_right hnot]
    split <;> simp
  · rw [hpulls]
    split <;> simp
  · show pull_sent = false → _
    intro hunsent
    have hne : payload ≠ [] := fun hempty => by
      rw [hsent.mpr hempty] at hunsent
      cases hunsent
    rw [hpulls, if_neg hne]
    exact List.not_mem_nil

theorem transact_pulls (w₀ : Wire) (ho : opcode ≤ 0xFFFF) (ht : transaction_id < 2 ^ 16)
    (hp : payload.length ≤ MAX_REQUEST_SIZE) (timeout : Nat) :
    (transact timeout opcode transaction_id payload).Ends w₀
      (Disciplined opcode transaction_id payload w₀) := by
  have hstart : Logged w₀ [] [] w₀ := ⟨⟨[], by simp, rfl⟩, by simp⟩
  have hinside : Inside Dict.empty MAX_RESPONSE_SIZE := fun _ _ hc => nomatch hc
  have hloop : ∀ w out, Logged w₀ [] out w → (pulls out = if payload = [] then [0] else []) →
      Prog.Ends (monotonic >>= fun now =>
        poll_all read_message (treat_message opcode transaction_id payload.length)
          (exchange_timed_out opcode) (now + timeout) { pull_sent := decide (payload = []) }) w
        (Disciplined opcode transaction_id payload w₀) := by
    intro w out hw hout
    unfold Prog.Ends
    rw [Prog.bind_ok (monotonic_run w)]
    exact exchange_loop_pulls ho ht _ _ _ _ _
      ⟨[], out, hw.ticking, Pulling.start out _ (by simp) hout, hinside⟩
  have hdone : ∀ w out, Logged w₀ [] out w → (pulls out = if payload = [] then [0] else []) →
      ∀ r, Disciplined opcode transaction_id payload w₀ r w := by
    intro w out hw hout r
    exact ⟨[], out, hw, (Pulling.start out (decide (payload = [])) (by simp) hout).ordered⟩
  have hrequest : PUSH ≠ PULL := by decide
  unfold transact
  apply sending_ends (request_inRange ho ht hp)
  · intro raw hcarries _
    have hsent := hstart.sending raw
    have hnone : pulls ([] ++ [raw]) = [] := pulls_append_other [] hcarries hrequest
    by_cases hempty : payload = []
    · simp only [hempty, if_true]
      rw [send_pull_bind]
      have hone : ∀ raw', Carries raw' (outgoing opcode PULL transaction_id 0 0 0 []) →
          pulls ([] ++ [raw] ++ [raw']) = if payload = [] then [0] else [] := by
        intro raw' hraw'
        rw [pulls_append_pull _ hraw' rfl, hnone, if_pos hempty]
        rfl
      refine hsent.send_ends ho ht (by decide) (Nat.zero_le _) (fun raw' w' hraw' hw' => ?_)
        fun raw' w' e hraw' hw' => ?_
      · simpa [hempty] using hloop w' _ hw' (hone raw' hraw')
      · exact hempty ▸ hdone w' _ hw' (hone raw' hraw') _
    · simp only [hempty, if_false]
      have hout : pulls ([] ++ [raw]) = if payload = [] then [0] else [] := by
        rw [hnone, if_neg hempty]
      simpa [hempty] using hloop _ _ hsent hout
  · intro raw e hcarries _
    refine ⟨[], [] ++ [raw], hstart.sending raw, ?_⟩
    rw [pulls_append_other [] hcarries hrequest]
    refine iff_of_true List.Pairwise.nil fun hlate => ?_
    obtain ⟨m, hm, -⟩ := hlate.acked
    cases hm

/-- Whatever comes in, the offsets of the PULL requests grow strictly exactly if the request is
not acknowledged for the first time after the response has begun. -/
theorem pulls_grow_exactly (q : Request) (s : TmpAppV2Session) :
    ∃ heard out : List _,
      (exchange q.opcode q.payload s).2.stream.reads = s.stream.reads ++ heard ∧
      (exchange q.opcode q.payload s).2.stream.sent = s.stream.sent ++ out ∧
      ((pulls out).Pairwise (· < ·) ↔
        ¬ LateAck q.opcode (s.next_transaction_id % 2 ^ 16) q.payload (messages heard)) := by
  rw [exchange_run]
  obtain ⟨ms, out, ⟨⟨heard, hreads, rfl⟩, hsent⟩, hordered⟩ :=
    transact_pulls s.stream q.opcode_fits (Nat.mod_lt s.next_transaction_id (by decide))
      q.payload_fits s.timeout
  exact ⟨heard, out, hreads, hsent, hordered⟩

/-- A session whose router responds before it acknowledges the request. -/
def hasty : TmpAppV2Session where
  stream := {
    arrivals := [.data first_piece.raw, .data [1, 1, 5, 0, 0, 20, 0, 0, 0, 0, 0, 0, 49, 49, 242, 51,
      1, 2, 64, 20, 3, 0, 0, 1, 0, 0, 0, 0, 0, 0, 0, 0, 0, 0, 0, 2]]
    clock := fun _ => 0 }
  timeout := 8

/-- The second PULL asks again for the byte that has come already. -/
theorem a_late_acknowledgement_asks_again :
    pulls (exchange 0x4014 [123, 125] hasty).2.stream.sent = [1, 0] ∧
      ¬ (pulls (exchange 0x4014 [123, 125] hasty).2.stream.sent).Pairwise (· < ·) := by
  have hpulls : pulls (exchange 0x4014 [123, 125] hasty).2.stream.sent = [1, 0] := by decide +kernel
  rw [hpulls]
  exact ⟨rfl, by decide⟩

end tplink_deco_api.tmp_protocol
