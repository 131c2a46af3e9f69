-- The safety of an exchange against any peer. Whatever the stream delivers, a
-- response that comes back is one that the router declared, everything that is
-- sent stays in range, and the exchange itself raises protocol errors only.
import TplinkDeco.TmpProtocol.Chunks
import TplinkDeco.TmpProtocol.SessionSpecs

open bytes dict prog segments

namespace tplink_deco_api.tmp_protocol

open exceptions

/-- What the guards of `_exchange` let through. -/
structure Request where
  opcode : Nat
  payload : Bytes
  opcode_fits : opcode ≤ 0xFFFF
  payload_fits : payload.length ≤ MAX_REQUEST_SIZE

/-! ## What was heard -/

/-- A data message of the exchange: its tag, no error, and a flag that brings a chunk. -/
def IsData (opcode transaction_id : Nat) (m : Message) : Prop :=
  m.opcode = opcode ∧ m.transaction_id = transaction_id ∧ m.error = 0 ∧
    (m.flag = PUSH ∨ m.flag = PULL_ACK)

instance (opcode transaction_id : Nat) : DecidablePred (IsData opcode transaction_id) :=
  fun m => inferInstanceAs (Decidable (m.opcode = opcode ∧ m.transaction_id = transaction_id ∧
    m.error = 0 ∧ (m.flag = PUSH ∨ m.flag = PULL_ACK)))

/-- The data messages of the exchange among the reads of the log. -/
def data_messages (opcode transaction_id : Nat) (heard : List FrameRead) : List Message :=
  (heard.filterMap FrameRead.message?).filter (IsData opcode transaction_id ·)

/-- What one more read adds to the data messages. -/
def data_of (opcode transaction_id : Nat) (m : Option Message) : List Message :=
  m.toList.filter (IsData opcode transaction_id ·)

theorem data_messages_append (opcode transaction_id : Nat) (heard : List FrameRead)
    (read : FrameRead) :
    data_messages opcode transaction_id (heard ++ [read]) =
      data_messages opcode transaction_id heard ++
        data_of opcode transaction_id read.message? := by
  unfold data_messages data_of
  rw [List.filterMap_append, List.filter_append]
  cases h : read.message? <;> simp [h]

/-! ## The promises of an exchange -/

/-- The response is one that the data messages declared: all of them gave its size and its
checksum, and its bytes are theirs. -/
def Truthful (data : List Message) (response : Bytes) : Prop :=
  data ≠ [] ∧ response.length ≤ MAX_RESPONSE_SIZE ∧
    (∀ m ∈ data, m.total_size = response.length ∧ m.payload_checksum = checksum response) ∧
    ∃ used : List Message, (∀ m ∈ used, m ∈ data) ∧
      response = (used.flatMap Message.chunk).take response.length

/-- A message that the exchange sends: in range, and with an offset inside the size that the
first data message declared. -/
def MaySend (opcode transaction_id : Nat) (data : List Message) (raw : Bytes) : Prop :=
  ∃ m, Carries raw m ∧ m.InRange ∧ m.opcode = opcode ∧ m.transaction_id = transaction_id ∧
    (m.offset = 0 ∨ ∃ first, data.head? = some first ∧ m.offset ≤ first.total_size)

/-- An error of the protocol, or one that a call of the stream raised. -/
def ExchangeError (w : Wire) (e : PyError) : Prop :=
  e.cls = .TmpProtocolError ∨ (.fail e ∈ w.items ∧ is_timeout e = false) ∨
    ∃ k, w.send_errors k = some e

section

variable (opcode transaction_id : Nat) (w₀ : Wire)

/-- The wire of an exchange that started on `w₀` and has made these reads since. -/
structure Exchanging (heard : List FrameRead) (w : Wire) : Prop where
  reads : w.reads = w₀.reads ++ heard
  suffix : w.items <:+ w₀.items
  send_errors : w.send_errors = w₀.send_errors
  sent : ∃ out, w.sent = w₀.sent ++ out ∧
    ∀ raw ∈ out, MaySend opcode transaction_id (data_messages opcode transaction_id heard) raw

/-- What the variables of the loop owe to the data messages. -/
structure Backed (data : List Message) (reply : Reply) : Prop where
  silent : reply.expected = none → data = []
  declared : ∀ total sum, reply.expected = some (total, sum) →
    data ≠ [] ∧ total ≤ MAX_RESPONSE_SIZE ∧
      ∀ m ∈ data, m.total_size = total ∧ m.payload_checksum = sum
  chunks : ∀ offset chunk, reply.chunks.get? offset = some chunk →
    ∃ m ∈ data, m.offset = offset ∧ m.chunk = chunk ∧ offset + chunk.length ≤ m.total_size

/-- The invariant of the loop. -/
def Listening (reply : Reply) (w : Wire) : Prop :=
  ∃ heard, Exchanging opcode transaction_id w₀ heard w ∧
    Backed (data_messages opcode transaction_id heard) reply

/-- How an exchange ends. -/
def Exchanged (r : Outcome PyError Bytes) (w : Wire) : Prop :=
  ∃ heard, Exchanging opcode transaction_id w₀ heard w ∧
    (∀ response, r = .ok response →
      Truthful (data_messages opcode transaction_id heard) response) ∧
    ∀ e, r = .raised e → ExchangeError w₀ e

end

/-! ## One turn -/

section

variable {opcode transaction_id : Nat} {w₀ w : Wire} {heard : List FrameRead}

theorem Exchanging.ticking (h : Exchanging opcode transaction_id w₀ heard w) :
    Exchanging opcode transaction_id w₀ heard w.ticking :=
  ⟨h.reads, h.suffix, h.send_errors, h.sent⟩

theorem Exchanging.sending {raw : Bytes} (h : Exchanging opcode transaction_id w₀ heard w)
    (hr : MaySend opcode transaction_id (data_messages opcode transaction_id heard) raw) :
    Exchanging opcode transaction_id w₀ heard (w.sending raw) := by
  obtain ⟨out, hout, hmay⟩ := h.sent
  refine ⟨h.reads, h.suffix, h.send_errors, out ++ [raw], ?_, ?_⟩
  · simp [Wire.sending, hout]
  · intro raw' hmem
    rcases List.mem_append.mp hmem with hmem | hmem
    · exact hmay raw' hmem
    · rw [List.mem_singleton.mp hmem]
      exact hr

/-- Data messages that come later leave the first one first. -/
theorem MaySend.append {data more : List Message} {raw : Bytes}
    (h : MaySend opcode transaction_id data raw) :
    MaySend opcode transaction_id (data ++ more) raw := by
  obtain ⟨m, hc, hr, ho, ht, hoff⟩ := h
  refine ⟨m, hc, hr, ho, ht, hoff.imp_right ?_⟩
  rintro ⟨first, hf, hle⟩
  exact ⟨first, by simp [hf], hle⟩

theorem Exchanging.reading {rest : List (Arrival PyError)} (read : FrameRead)
    (h : Exchanging opcode transaction_id w₀ heard w) (hs : itemsOf rest <:+ w.items) :
    Exchanging opcode transaction_id w₀ (heard ++ [read])
      { w with arrivals := rest, reads := w.reads ++ [read] } := by
  obtain ⟨out, hout, hmay⟩ := h.sent
  refine ⟨by simp [h.reads], hs.trans h.suffix, h.send_errors, out, hout, ?_⟩
  intro raw hmem
  rw [data_messages_append]
  exact (hmay raw hmem).append

/-- A stored chunk is one more chunk that a data message brought. -/
theorem Backed.accept {data : List Message} {reply reply' : Reply} {m : Message}
    (h : Backed data reply) (ha : Accepted reply m reply') : Backed (data ++ [m]) reply' := by
  have hstored := ha.stored
  subst hstored
  refine ⟨by simp, ?_, ?_⟩
  · intro total sum hexp
    simp only [Option.some.injEq, Prod.mk.injEq] at hexp
    obtain ⟨rfl, rfl⟩ := hexp
    refine ⟨by simp, ha.limit, ?_⟩
    intro m' hm'
    rcases List.mem_append.mp hm' with hm' | hm'
    · cases he : reply.expected with
      | none =>
        rw [h.silent he] at hm'
        cases hm'
      | some expected =>
        have := ha.agreed expected he
        subst this
        exact (h.declared _ _ he).2.2 m' hm'
    · rw [List.mem_singleton.mp hm']
      exact ⟨rfl, rfl⟩
  · intro offset chunk hc
    rw [Dict.get?_set] at hc
    split at hc
    · rename_i heq
      cases hc
      subst heq
      exact ⟨m, by simp, rfl, rfl, ha.inside⟩
    · obtain ⟨m', hm', hrest⟩ := h.chunks offset chunk hc
      exact ⟨m', by simp [hm'], hrest⟩

/-- The chunks lie inside the declared size. -/
theorem Backed.inside {data : List Message} {reply : Reply} {total sum : Nat}
    (h : Backed data reply) (he : reply.expected = some (total, sum)) :
    Inside reply.chunks total := by
  intro offset chunk hc
  obtain ⟨m, hm, -, -, hle⟩ := h.chunks offset chunk hc
  rwa [((h.declared total sum he).2.2 m hm).1] at hle

/-- The stored chunks, in any order, are chunks of data messages. -/
theorem Backed.used {data : List Message} {reply : Reply} (h : Backed data reply)
    (offsets : List Nat) :
    ∃ used : List Message, (∀ m ∈ used, m ∈ data) ∧
      offsets.flatMap (fun offset => (reply.chunks.get? offset).getD []) =
        used.flatMap Message.chunk := by
  induction offsets with
  | nil => exact ⟨[], by simp, rfl⟩
  | cons offset offsets ih =>
    obtain ⟨used, hmem, heq⟩ := ih
    cases hc : reply.chunks.get? offset with
    | none => exact ⟨used, hmem, by simp [hc, heq]⟩
    | some chunk =>
      obtain ⟨m, hm, -, hchunk, -⟩ := h.chunks offset chunk hc
      refine ⟨m :: used, ?_, by simp [hc, heq, hchunk]⟩
      intro m' hm'
      rcases List.mem_cons.mp hm' with rfl | hm'
      · exact hm
      · exact hmem m' hm'

theorem outgoing_inRange {opcode flag transaction_id offset : Nat} (ho : opcode ≤ 0xFFFF)
    (hf : flag < 256) (ht : transaction_id < 2 ^ 16) (hoff : offset ≤ MAX_RESPONSE_SIZE) :
    (outgoing opcode flag transaction_id 0 0 offset []).InRange := by
  unfold MAX_RESPONSE_SIZE at hoff
  refine ⟨?_, hf, ?_, Nat.zero_lt_succ _, Nat.zero_lt_succ _, ?_, Nat.zero_le _⟩
  · show opcode < 256 ^ 2
    omega
  · show transaction_id < 256 ^ 2
    omega
  · show offset < 256 ^ 4
    omega

variable {payload_size : Nat}

/-- An acknowledgement or a PULL goes out, and then the exchange goes on. -/
theorem Exchanging.send_ends {β : Type} {flag offset : Nat} {f : Unit → StreamM β}
    {Q : Outcome PyError β → Wire → Prop} (h : Exchanging opcode transaction_id w₀ heard w)
    (ho : opcode ≤ 0xFFFF) (ht : transaction_id < 2 ^ 16) (hf : flag < 256)
    (hlimit : offset ≤ MAX_RESPONSE_SIZE)
    (hoff : offset = 0 ∨ ∃ first, (data_messages opcode transaction_id heard).head? = some first ∧
      offset ≤ first.total_size)
    (hok : ∀ w', Exchanging opcode transaction_id w₀ heard w' → (f ()).Ends w' Q)
    (hraised : ∀ w' e, Exchanging opcode transaction_id w₀ heard w' → ExchangeError w₀ e →
      Q (.raised e) w') :
    (pack_message opcode flag transaction_id 0 0 offset >>= fun raw => sendall raw >>= f).Ends
      w Q := by
  have hrange := outgoing_inRange ho hf ht hlimit
  apply sending_ends hrange
  · intro raw hcarries _
    exact hok _ (h.sending ⟨_, hcarries, hrange, rfl, rfl, hoff⟩)
  · intro raw e hcarries he
    refine hraised _ e (h.sending ⟨_, hcarries, hrange, rfl, rfl, hoff⟩) ?_
    rw [h.send_errors] at he
    exact Or.inr (Or.inr ⟨_, he⟩)

theorem send_pull_bind {β : Type} (offset : Nat) (f : Unit → StreamM β) :
    send_pull opcode transaction_id offset >>= f =
      pack_message opcode PULL transaction_id 0 0 offset >>= fun raw => sendall raw >>= f :=
  Prog.bind_assoc _ _ _

/-- The response is made of the chunks that the data messages brought. -/
theorem Backed.truthful {data : List Message} {reply : Reply} {total sum : Nat} {response : Bytes}
    (h : Backed data reply) (he : reply.expected = some (total, sum))
    (hr : total = 0 ∧ response = [] ∨ total ≤ contiguous_size reply.chunks ∧
      response = (join_sorted reply.chunks).take total)
    (hsum : checksum response = sum) : Truthful data response := by
  obtain ⟨hne, hlimit, hall⟩ := h.declared total sum he
  rcases hr with ⟨rfl, rfl⟩ | ⟨hle, rfl⟩
  · exact ⟨hne, Nat.zero_le _, fun m hm => ⟨(hall m hm).1, (hall m hm).2.trans hsum.symm⟩,
      [], by simp, rfl⟩
  · have hlen : ((join_sorted reply.chunks).take total).length = total := by
      rw [List.length_take]
      have := contiguous_size_le_join reply.chunks
      omega
    obtain ⟨used, hmem, heq⟩ := h.used (reply.chunks.keys.insertionSort (· ≤ ·))
    refine ⟨hne, by rw [hlen]; exact hlimit, fun m hm => ?_, used, hmem, ?_⟩
    · exact ⟨(hall m hm).1.trans hlen.symm, (hall m hm).2.trans hsum.symm⟩
    · rw [hlen, ← heq]
      rfl

theorem exchanged_of_error {e : PyError} (h : Exchanging opcode transaction_id w₀ heard w)
    (he : ExchangeError w₀ e) : Exchanged opcode transaction_id w₀ (.raised e) w := by
  refine ⟨heard, h, by simp, ?_⟩
  rintro e' ⟨⟩
  exact he

theorem answer_or_pull_ends {reply : Reply} {total sum : Nat} (ho : opcode ≤ 0xFFFF)
    (ht : transaction_id < 2 ^ 16) (h : Exchanging opcode transaction_id w₀ heard w)
    (hb : Backed (data_messages opcode transaction_id heard) reply)
    (he : reply.expected = some (total, sum)) :
    (answer_or_pull opcode transaction_id total sum reply).Ends w
      (Turned (Listening opcode transaction_id w₀) (Exchanged opcode transaction_id w₀)) := by
  have hfinish : ∀ response,
      (total = 0 ∧ response = [] ∨ total ≤ contiguous_size reply.chunks ∧
        response = (join_sorted reply.chunks).take total) →
      (Prog.lift (finish sum response)).Ends w
        (Turned (Listening opcode transaction_id w₀) (Exchanged opcode transaction_id w₀)) := by
    intro response hr
    apply Prog.Ends.lift
    · intro x hx
      obtain ⟨rfl, hsum⟩ := finish_ok hx
      refine ⟨heard, h, ?_, by simp⟩
      rintro response' ⟨⟩
      exact hb.truthful he hr hsum
    · intro e hx
      exact exchanged_of_error h (Or.inl (finish_error hx))
  unfold answer_or_pull
  by_cases h0 : total = 0
  · simp only [h0, if_true]
    exact hfinish [] (Or.inl ⟨h0, rfl⟩)
  by_cases hall : total ≤ contiguous_size reply.chunks
  · simp only [h0, hall, if_false, if_true]
    exact hfinish _ (Or.inr ⟨hall, rfl⟩)
  simp only [h0, hall, if_false]
  by_cases hmore : contiguous_size reply.chunks ≠ reply.requested_offset
  · simp only [hmore, ne_eq, not_false_iff, if_true]
    obtain ⟨hne, hlimit, hdecl⟩ := hb.declared total sum he
    obtain ⟨first, rest, hfirst⟩ := List.exists_cons_of_ne_nil hne
    rw [send_pull_bind]
    refine h.send_ends ho ht (by decide) ?_ (Or.inr ⟨first, by rw [hfirst]; rfl, ?_⟩)
      (fun w' h' => ?_) (fun w' e h' hx => exchanged_of_error h' hx)
    · omega
    · have := (hdecl first (by rw [hfirst]; simp)).1
      omega
    · exact Prog.Ends.pure ⟨heard, h', hb.silent, hb.declared, hb.chunks⟩
  · simp only [hmore, if_false]
    exact Prog.Ends.pure ⟨heard, h, hb⟩

theorem treat_chunk_ends {reply : Reply} {m : Message} {before : List Message}
    (ho : opcode ≤ 0xFFFF) (ht : transaction_id < 2 ^ 16)
    (h : Exchanging opcode transaction_id w₀ heard w) (hb : Backed before reply)
    (hheard : data_messages opcode transaction_id heard = before ++ [m]) :
    (treat_chunk opcode transaction_id reply m).Ends w
      (Turned (Listening opcode transaction_id w₀) (Exchanged opcode transaction_id w₀)) := by
  unfold treat_chunk
  cases hacc : accept_chunk reply m with
  | error e =>
    exact exchanged_of_error h (Or.inl (accept_chunk_error hacc))
  | ok accepted =>
    obtain ⟨total, sum, reply'⟩ := accepted
    obtain ⟨-, -, ha⟩ := accept_chunk_ok.mp hacc
    have hb' : Backed (data_messages opcode transaction_id heard) reply' := by
      rw [hheard]
      exact hb.accept ha
    have he : reply'.expected = some (total, sum) := by
      obtain ⟨rfl, rfl, ha⟩ := accept_chunk_ok.mp hacc
      rw [ha.stored]
    apply Prog.Ends.bind_lift_ok
    by_cases hpush : m.flag = PUSH
    · simp only [hpush, if_true]
      obtain ⟨hne, hlimit, hdecl⟩ := hb'.declared total sum he
      obtain ⟨first, rest, hfirst⟩ := List.exists_cons_of_ne_nil hne
      have hle := contiguous_size_le (hb'.inside he)
      refine h.send_ends ho ht (by decide) (by omega) (Or.inr ⟨first, by rw [hfirst]; rfl, ?_⟩)
        (fun w' h' => answer_or_pull_ends ho ht h' hb' he)
        (fun w' e h' hx => exchanged_of_error h' hx)
      have := (hdecl first (by rw [hfirst]; simp)).1
      omega
    · simp only [hpush, if_false]
      exact answer_or_pull_ends ho ht h hb' he

/-- A turn that treats a message keeps the invariant, or it ends the exchange well. -/
theorem treat_message_ends {reply : Reply} {m : Option Message} {before : List Message}
    (ho : opcode ≤ 0xFFFF) (ht : transaction_id < 2 ^ 16)
    (h : Exchanging opcode transaction_id w₀ heard w) (hb : Backed before reply)
    (hheard : data_messages opcode transaction_id heard =
      before ++ data_of opcode transaction_id m) :
    (treat_message opcode transaction_id payload_size reply m).Ends w
      (Turned (Listening opcode transaction_id w₀) (Exchanged opcode transaction_id w₀)) := by
  -- A message that is no data message leaves the variables as they are.
  have hskip : data_of opcode transaction_id m = [] → (pure (Sum.inl reply) :
      StreamM (Reply ⊕ Bytes)).Ends w (Turned (Listening opcode transaction_id w₀)
        (Exchanged opcode transaction_id w₀)) := by
    intro hnone
    rw [hnone, List.append_nil] at hheard
    exact Prog.Ends.pure ⟨heard, h, hheard ▸ hb⟩
  cases m with
  | none => exact hskip rfl
  | some m =>
    have hdata : ¬ IsData opcode transaction_id m → data_of opcode transaction_id (some m) = [] := by
      intro hm
      simp [data_of, hm]
    unfold treat_message
    simp only
    by_cases hown : m.opcode ≠ opcode ∨ m.transaction_id ≠ transaction_id
    · simp only [hown, if_true]
      exact hskip (hdata fun hm => hown.elim (fun hn => hn hm.1) fun hn => hn hm.2.1)
    simp only [hown, if_false]
    by_cases herr : m.error ≠ 0
    · simp only [herr, ne_eq, not_false_iff, if_true]
      exact exchanged_of_error h (Or.inl rfl)
    simp only [herr, if_false]
    by_cases hack : m.flag = PUSH_ACK
    · have hnone : data_of opcode transaction_id (some m) = [] := by
        refine hdata fun hm => ?_
        have := hm.2.2.2
        rw [hack] at this
        exact absurd this (by decide)
      simp only [hack, if_true]
      by_cases hpull : reply.pull_sent = false ∧ payload_size ≤ m.offset
      · simp only [hpull, and_self, if_true]
        rw [send_pull_bind]
        refine h.send_ends ho ht (by decide) (Nat.zero_le _) (Or.inl rfl) (fun w' h' => ?_)
          (fun w' e h' hx => exchanged_of_error h' hx)
        rw [hnone, List.append_nil] at hheard
        rw [← hheard] at hb
        exact Prog.Ends.pure ⟨heard, h', hb.silent, hb.declared, hb.chunks⟩
      · simp only [hpull, if_false]
        exact hskip hnone
    simp only [hack, if_false]
    by_cases hflag : m.flag = PUSH ∨ m.flag = PULL_ACK
    · simp only [hflag, not_true, if_false]
      have hm : IsData opcode transaction_id m := by
        refine ⟨?_, ?_, by omega, hflag⟩ <;> by_contra hn
        · exact hown (Or.inl hn)
        · exact hown (Or.inr hn)
      refine treat_chunk_ends ho ht h hb ?_
      rw [hheard]
      simp [data_of, hm]
    · simp only [hflag, not_false_iff, if_true]
      exact hskip (hdata fun hm => hflag hm.2.2.2)

end

/-! ## The whole exchange -/

theorem Backed.start (data : List Message) (h : data = []) (pull_sent : Bool) :
    Backed data { pull_sent } :=
  ⟨fun _ => h, by simp, by simp⟩

theorem exchange_loop_ends {opcode transaction_id payload_size : Nat} {w₀ : Wire}
    (ho : opcode ≤ 0xFFFF) (ht : transaction_id < 2 ^ 16) (timed_out : PyError)
    (htimed : timed_out.cls = .TmpProtocolError) (deadline turns : Nat) (reply : Reply) (w : Wire)
    (h : Listening opcode transaction_id w₀ reply w) :
    (poll read_message (treat_message opcode transaction_id payload_size) timed_out deadline turns
      reply).Ends w (Exchanged opcode transaction_id w₀) := by
  apply poll_ends (I := Listening opcode transaction_id w₀) _ _ turns reply w h
  · rintro reply w ⟨heard, hx, hb⟩
    apply (read_message_ends w.ticking).mono
    rintro r w' ⟨⟨rest, read, rfl, hmsg⟩, hs, herr⟩
    have hx' := Exchanging.reading read hx.ticking hs
    have hdata := data_messages_append opcode transaction_id heard read
    rw [hmsg] at hdata
    cases r with
    | ok m => exact treat_message_ends ho ht hx' hb hdata
    | raised e =>
      have hnone : data_messages opcode transaction_id (heard ++ [read]) =
          data_messages opcode transaction_id heard := by
        rw [hdata]
        exact List.append_nil _
      unfold AfterRead
      by_cases hto : is_timeout e
      · simp only [hto, if_true]
        exact ⟨_, hx', hnone ▸ hb⟩
      · simp only [hto]
        refine exchanged_of_error hx' ?_
        rcases (herr e rfl).mem with he | he
        · exact Or.inl he
        · exact Or.inr (Or.inl ⟨hx.suffix.subset he, by simpa using hto⟩)
    | waiting => exact ⟨_, hx', by simp, by simp⟩
  · rintro reply w ⟨heard, hx, hb⟩
    exact ⟨exchanged_of_error hx.ticking (Or.inl htimed), heard, hx, by simp, by simp⟩

theorem Exchanging.start (opcode transaction_id : Nat) (w₀ : Wire) :
    Exchanging opcode transaction_id w₀ [] w₀ :=
  ⟨by simp, List.suffix_refl _, rfl, [], by simp, by simp⟩

/-- The request fits, with its payload as the chunk. -/
theorem request_inRange {opcode transaction_id : Nat} {payload : Bytes} (ho : opcode ≤ 0xFFFF)
    (ht : transaction_id < 2 ^ 16) (hp : payload.length ≤ MAX_REQUEST_SIZE) :
    (outgoing opcode PUSH transaction_id (checksum payload) payload.length 0 payload).InRange := by
  unfold MAX_REQUEST_SIZE at hp
  refine ⟨?_, show PUSH < 256 by decide, ?_, checksum_lt payload, ?_, Nat.zero_lt_succ _, ?_⟩
  · show opcode < 256 ^ 2
    omega
  · show transaction_id < 256 ^ 2
    omega
  · show payload.length < 256 ^ 4
    omega
  · show payload.length ≤ 65515
    omega

theorem transact_ends {opcode transaction_id : Nat} {payload : Bytes} (w₀ : Wire)
    (ho : opcode ≤ 0xFFFF) (ht : transaction_id < 2 ^ 16) (hp : payload.length ≤ MAX_REQUEST_SIZE)
    (timeout : Nat) :
    (transact timeout opcode transaction_id payload).Ends w₀
      (Exchanged opcode transaction_id w₀) := by
  have hrange := request_inRange ho ht hp
  have hstart := Exchanging.start opcode transaction_id w₀
  have hloop : ∀ w, Exchanging opcode transaction_id w₀ [] w →
      Prog.Ends (monotonic >>= fun now =>
        poll_all read_message (treat_message opcode transaction_id payload.length)
          (exchange_timed_out opcode) (now + timeout) { pull_sent := decide (payload = []) }) w
        (Exchanged opcode transaction_id w₀) := by
    intro w hw
    unfold Prog.Ends
    rw [Prog.bind_ok (monotonic_run w)]
    exact exchange_loop_ends ho ht _ rfl _ _ _ _ ⟨[], hw.ticking, Backed.start _ rfl _⟩
  unfold transact
  apply sending_ends hrange
  · intro raw hcarries _
    have hsent := hstart.sending ⟨_, hcarries, hrange, rfl, rfl, Or.inl rfl⟩
    by_cases hempty : payload = []
    · simp only [hempty, if_true]
      rw [send_pull_bind]
      refine hsent.send_ends ho ht (by decide) (Nat.zero_le _) (Or.inl rfl) (fun w' h' => ?_)
        (fun w' e h' hx => exchanged_of_error h' hx)
      simpa [hempty] using hloop w' h'
    · simp only [hempty, if_false]
      simpa [hempty] using hloop _ hsent
  · intro raw e hcarries he
    exact exchanged_of_error (hstart.sending ⟨_, hcarries, hrange, rfl, rfl, Or.inl rfl⟩)
      (Or.inr (Or.inr ⟨_, he⟩))

/-- Past its guards, an exchange draws its transaction id and runs on the stream. -/
theorem exchange_run (q : Request) (s : TmpAppV2Session) :
    exchange q.opcode q.payload s =
      ((transact s.timeout q.opcode (s.next_transaction_id % 2 ^ 16) q.payload s.stream).1,
        { s with
          next_transaction_id := s.next_transaction_id + 1
          stream := (transact s.timeout q.opcode (s.next_transaction_id % 2 ^ 16) q.payload
            s.stream).2 }) := by
  have ho := q.opcode_fits
  have hguard : (0 : Int) ≤ q.opcode ∧ (q.opcode : Int) ≤ 0xFFFF := by omega
  unfold exchange
  simp only [hguard, and_self, not_true, if_false, Nat.not_lt.mpr q.payload_fits]
  rfl

/-- Whatever the peer sends: a response is a truthful one, every message that goes out is in
range, and an error is one of the protocol or of the stream. -/
theorem no_peer_makes_an_exchange_lie (q : Request) (s : TmpAppV2Session) :
    ∃ heard out : List _,
      (exchange q.opcode q.payload s).2.stream.reads = s.stream.reads ++ heard ∧
      (exchange q.opcode q.payload s).2.stream.sent = s.stream.sent ++ out ∧
      (∀ response, (exchange q.opcode q.payload s).1 = .ok response →
        Truthful (data_messages q.opcode (s.next_transaction_id % 2 ^ 16) heard) response) ∧
      (∀ raw ∈ out, MaySend q.opcode (s.next_transaction_id % 2 ^ 16)
        (data_messages q.opcode (s.next_transaction_id % 2 ^ 16) heard) raw) ∧
      ∀ e, (exchange q.opcode q.payload s).1 = .raised e → ExchangeError s.stream e := by
  rw [exchange_run]
  obtain ⟨heard, hx, hok, herr⟩ := transact_ends s.stream q.opcode_fits
    (Nat.mod_lt s.next_transaction_id (by decide)) q.payload_fits s.timeout
  obtain ⟨out, hout, hmay⟩ := hx.sent
  exact ⟨heard, out, hx.reads, hout, hok, hmay, herr⟩

end tplink_deco_api.tmp_protocol
