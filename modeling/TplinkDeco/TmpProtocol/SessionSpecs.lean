-- The rules for the loops of a session: what one turn keeps, a whole loop
-- keeps. And what one turn of a loop reads and accepts.
import TplinkDeco.TmpProtocol.MessageSpecs
import TplinkDeco.TmpProtocol.Session

open bytes dict prog segments

namespace tplink_deco_api.tmp_protocol

open exceptions

/-! ## The loop -/

/-- After a turn the loop goes on from a state that the invariant allows, or it ends. -/
def Turned {β ρ : Type} (I : ρ → Wire → Prop) (Q : Outcome PyError β → Wire → Prop) :
    Outcome PyError (ρ ⊕ β) → Wire → Prop
  | .ok (.inl state), w => I state w
  | .ok (.inr result), w => Q (.ok result) w
  | .raised e, w => Q (.raised e) w
  | .waiting, w => Q .waiting w

/-- One turn after the clock was read: read, and treat what was read. -/
def AfterRead {α β ρ : Type} (treat : ρ → α → StreamM (ρ ⊕ β)) (I : ρ → Wire → Prop)
    (Q : Outcome PyError β → Wire → Prop) (state : ρ) : Outcome PyError α → Wire → Prop
  | .ok x, w => (treat state x).Ends w (Turned I Q)
  | .raised e, w => if is_timeout e then I state w else Q (.raised e) w
  | .waiting, w => Q .waiting w

/-- The wire after a reading of the clock. -/
def Wire.ticking (w : Wire) : Wire := { w with readings := w.readings + 1 }

theorem monotonic_run (w : Wire) : monotonic w = (.ok (w.clock w.readings), w.ticking) := rfl

@[simp] theorem ticking_items (w : Wire) : w.ticking.items = w.items := rfl

@[simp] theorem ticking_reads (w : Wire) : w.ticking.reads = w.reads := rfl

/-- The rule for the loop: a turn keeps the invariant or ends the loop as it should. -/
theorem poll_ends {α β ρ : Type} {read : StreamM α} {treat : ρ → α → StreamM (ρ ⊕ β)}
    {timed_out : PyError} {deadline : Nat} {I : ρ → Wire → Prop}
    {Q : Outcome PyError β → Wire → Prop}
    (hturn : ∀ state w, I state w → read.Ends w.ticking (AfterRead treat I Q state))
    (hstop : ∀ state w, I state w → Q (.raised timed_out) w.ticking ∧ Q .waiting w)
    (turns : Nat) (state : ρ) (w : Wire) (h : I state w) :
    (poll read treat timed_out deadline turns state).Ends w Q := by
  induction turns generalizing state w with
  | zero => exact Prog.Ends.wait (hstop state w h).2
  | succ turns ih =>
    unfold poll Prog.Ends
    rw [Prog.bind_ok (monotonic_run w)]
    by_cases hnow : w.clock w.readings < deadline
    · simp only [hnow, if_true]
      apply Prog.Ends.bind (Prog.Ends.trying (hturn state w h) (fun x w' hx => ?_)
        (fun e w' hc he => ?_) (fun e w' hc he => ?_) (fun w' hw => ?_)
        (Q := fun r w' => match r with
          | .ok (.ok x) => (treat state x).Ends w' (Turned I Q)
          | .ok (.error _) => I state w'
          | .raised e => Q (.raised e) w'
          | .waiting => Q .waiting w'))
      · rintro (e | x) w' hr
        · exact ih state w' hr
        · refine Prog.Ends.bind hr ?_ (fun e w'' he => he) (fun w'' hw => hw)
          rintro (state' | result) w'' hr'
          · exact ih state' w'' hr'
          · exact Prog.Ends.pure hr'
      · exact fun e w' he => he
      · exact fun w' hw => hw
      · exact hx
      · simpa [AfterRead, hc] using he
      · simpa [AfterRead, hc] using he
      · exact hw
    · simp only [hnow, if_false]
      exact Prog.Ends.raise (hstop state w h).1

/-- What the clock, each read and each treatment keep of the wire, the loop keeps. -/
theorem poll_keeps {α β ρ : Type} {read : StreamM α} {treat : ρ → α → StreamM (ρ ⊕ β)}
    {timed_out : PyError} {deadline : Nat} {I : Wire → Prop} (htick : ∀ w, I w → I w.ticking)
    (hread : ∀ w, I w → read.Ends w fun _ w' => I w')
    (htreat : ∀ state x w, I w → (treat state x).Ends w fun _ w' => I w')
    (turns : Nat) (state : ρ) (w : Wire) (h : I w) :
    (poll read treat timed_out deadline turns state).Ends w fun _ w' => I w' := by
  apply poll_ends (I := fun _ w => I w) _ (fun _ w hw => ⟨htick w hw, hw⟩) turns state w h
  intro state w hw
  apply (hread w.ticking (htick w hw)).mono
  intro r w' hw'
  cases r with
  | ok x =>
    have hturned : (treat state x).Ends w' (Turned (fun _ w => I w) fun _ w => I w) := by
      apply (htreat state x w' hw').mono
      rintro ((_ | _) | _ | _) w'' h''
      · exact h''
      · exact h''
      · exact h''
      · exact h''
    exact hturned
  | raised e =>
    show if is_timeout e then I w' else I w'
    rwa [ite_self]
  | waiting => exact hw'

/-- One turn of the loop before the deadline. -/
theorem poll_turn {α β ρ : Type} {read : StreamM α} {treat : ρ → α → StreamM (ρ ⊕ β)}
    {timed_out : PyError} {deadline : Nat} (turns : Nat) (state : ρ) {w : Wire}
    (hnow : w.clock w.readings < deadline) :
    poll read treat timed_out deadline (turns + 1) state w =
      match read w.ticking with
      | (.ok x, w') =>
        match treat state x w' with
        | (.ok (.inl state'), w'') => poll read treat timed_out deadline turns state' w''
        | (.ok (.inr result), w'') => (.ok result, w'')
        | (.raised e, w'') => (.raised e, w'')
        | (.waiting, w'') => (.waiting, w'')
      | (.raised e, w') =>
        if is_timeout e then poll read treat timed_out deadline turns state w' else (.raised e, w')
      | (.waiting, w') => (.waiting, w') := by
  rw [poll, Prog.bind_ok (monotonic_run w)]
  simp only [hnow, if_true, Prog.bind_run, Prog.trying]
  rcases read w.ticking with ⟨x | e | _, w'⟩
  · simp only [Prog.bind_run]
    rcases treat state x w' with ⟨(_ | _) | e | _, w''⟩ <;> rfl
  · cases h : is_timeout e <;> simp [h]
  · rfl

/-! ## One turn -/

/-- The message that a read of a frame gave, if it gave one. -/
def FrameRead.message? (r : FrameRead) : Option Message :=
  match r.ended with
  | .ok frame =>
    match message_of_frame frame with
    | .ok m => m
    | .error _ => none
  | _ => none

/-- What one call of `_read_message` does to any stream. -/
structure MessageTaken (w : Wire) (r : Outcome PyError (Option Message)) (w' : Wire) : Prop where
  wire : ∃ rest read, w' = { w with arrivals := rest, reads := w.reads ++ [read] } ∧
    read.message? = match r with
      | .ok m => m
      | _ => none
  suffix : w'.items <:+ w.items
  error : ∀ e, r = .raised e → ReadError w e w'.items

theorem read_message_ends (w : Wire) : read_message.Ends w (MessageTaken w) := by
  unfold read_message
  apply Prog.Ends.bind (read_frame_ends w)
  · rintro frame w' ⟨⟨rest, taken, rfl, -⟩, hs, -, -⟩
    apply Prog.Ends.lift
    · intro m hm
      exact ⟨⟨rest, _, rfl, by simp [FrameRead.message?, hm]⟩, hs, by simp⟩
    · intro e he
      refine ⟨⟨rest, _, rfl, by simp [FrameRead.message?, he]⟩, hs, ?_⟩
      rintro e' ⟨⟩
      exact Or.inl (message_of_frame_error he)
  · rintro e w' ⟨⟨rest, taken, rfl, -⟩, hs, -, herr⟩
    refine ⟨⟨rest, _, rfl, by simp [FrameRead.message?]⟩, hs, ?_⟩
    rintro e' ⟨⟩
    exact herr e rfl
  · rintro w' ⟨⟨rest, taken, rfl, -⟩, hs, -, -⟩
    exact ⟨⟨rest, _, rfl, by simp [FrameRead.message?]⟩, hs, by simp⟩

/-- What a chunk must meet to be stored, and what is stored. -/
structure Accepted (reply : Reply) (m : Message) (reply' : Reply) : Prop where
  limit : m.total_size ≤ MAX_RESPONSE_SIZE
  agreed : ∀ expected, reply.expected = some expected →
    expected = (m.total_size, m.payload_checksum)
  inside : m.offset + m.chunk.length ≤ m.total_size
  same : ∀ previous, reply.chunks.get? m.offset = some previous → previous = m.chunk
  stored : reply' = { reply with
    chunks := reply.chunks.set m.offset m.chunk
    expected := some (m.total_size, m.payload_checksum) }

theorem accept_chunk_ok {reply reply' : Reply} {m : Message} {total sum : Nat} :
    accept_chunk reply m = .ok (total, sum, reply') ↔
      total = m.total_size ∧ sum = m.payload_checksum ∧ Accepted reply m reply' := by
  unfold accept_chunk
  constructor
  · intro h
    split at h
    · cases h
    rename_i hlimit
    simp only at h
    split at h
    · cases h
    rename_i hagreed
    split at h
    · cases h
    rename_i hinside
    split at h
    · cases h
    rename_i hsame
    have hexp : reply.expected.getD (m.total_size, m.payload_checksum) =
        (m.total_size, m.payload_checksum) := by
      apply Prod.ext
      · simp only
        omega
      · simp only
        omega
    rw [hexp] at h
    simp only [Except.ok.injEq, Prod.mk.injEq] at h
    obtain ⟨rfl, rfl, rfl⟩ := h
    refine ⟨rfl, rfl, by omega, ?_, by omega, ?_, rfl⟩
    · intro expected he
      rw [he] at hexp
      exact hexp
    · intro previous hp
      simpa [hp] using hsame
  · rintro ⟨rfl, rfl, hlimit, hagreed, hinside, hsame, rfl⟩
    have hexp : reply.expected.getD (m.total_size, m.payload_checksum) =
        (m.total_size, m.payload_checksum) := by
      cases he : reply.expected with
      | none => rfl
      | some expected => exact hagreed expected he
    have hprev : (reply.chunks.get? m.offset).getD m.chunk = m.chunk := by
      cases hp : reply.chunks.get? m.offset with
      | none => rfl
      | some previous => exact hsame previous hp
    simp [hexp, hprev, Nat.not_lt.mpr hlimit, Nat.not_lt.mpr hinside]

theorem accept_chunk_error {reply : Reply} {m : Message} {e : PyError}
    (h : accept_chunk reply m = .error e) : e.cls = .TmpProtocolError := by
  unfold accept_chunk at h
  simp only at h
  split at h
  · cases h
    rfl
  split at h
  · cases h
    rfl
  split at h
  · cases h
    rfl
  split at h
  · cases h
    rfl
  · cases h

theorem finish_error {sum : Nat} {response : Bytes} {e : PyError}
    (h : finish sum response = .error e) : e.cls = .TmpProtocolError := by
  unfold finish at h
  split at h
  · cases h
    rfl
  · cases h

theorem finish_ok {sum : Nat} {response : Bytes} {x : Reply ⊕ Bytes}
    (h : finish sum response = .ok x) : x = .inr response ∧ checksum response = sum := by
  unfold finish at h
  split at h
  · cases h
  · rename_i hsum
    cases h
    exact ⟨rfl, by simpa using hsum⟩

/-! ## Programs that only send -/

/-- A program that packs and sends, and does not read. -/
inductive Sends : {α : Type} → StreamM α → Prop
  | pure {α : Type} (a : α) : Sends (Pure.pure a)
  | raise {α : Type} (e : PyError) : Sends (Prog.raise e : StreamM α)
  | lift {α : Type} (x : Except PyError α) : Sends (Prog.lift x)
  | sendall (data : Bytes) : Sends (sendall data)
  | randbits : Sends randbits
  | bind {α β : Type} {m : StreamM α} {f : α → StreamM β} (hm : Sends m)
      (hf : ∀ a, Sends (f a)) : Sends (m >>= f)

theorem Sends.ite {α : Type} {c : Prop} [Decidable c] {m n : StreamM α} (hm : Sends m)
    (hn : Sends n) : Sends (if c then m else n) := by
  by_cases h : c
  · rwa [if_pos h]
  · rwa [if_neg h]

/-- What a program that only sends leaves alone. -/
structure SendsOnly (w w' : Wire) : Prop where
  arrivals : w'.arrivals = w.arrivals
  clock : w'.clock = w.clock
  readings : w'.readings = w.readings
  reads : w'.reads = w.reads

theorem SendsOnly.items {w w' : Wire} (h : SendsOnly w w') : w'.items = w.items := by
  rw [Wire.items, h.arrivals, Wire.items]

theorem Sends.ends {α : Type} {m : StreamM α} (h : Sends m) (w : Wire) :
    m.Ends w fun _ w' => SendsOnly w w' := by
  induction h generalizing w with
  | pure a => exact ⟨rfl, rfl, rfl, rfl⟩
  | raise e => exact ⟨rfl, rfl, rfl, rfl⟩
  | lift x => cases x <;> exact ⟨rfl, rfl, rfl, rfl⟩
  | sendall data =>
    unfold Prog.Ends tmp_protocol.sendall
    split
    · exact ⟨rfl, rfl, rfl, rfl⟩
    · exact ⟨rfl, rfl, rfl, rfl⟩
  | randbits => exact ⟨rfl, rfl, rfl, rfl⟩
  | bind hm hf ihm ihf =>
    apply Prog.Ends.bind (ihm w)
    · intro a w' h
      apply (ihf a w').mono
      intro _ w'' h'
      exact ⟨h'.arrivals.trans h.arrivals, h'.clock.trans h.clock, h'.readings.trans h.readings,
        h'.reads.trans h.reads⟩
    · exact fun _ _ h => h
    · exact fun _ h => h

theorem sends_pack_frame (control : Nat) (payload : Bytes) :
    Sends (pack_frame control payload) := by
  unfold pack_frame
  apply Sends.bind (Sends.lift _)
  intro general
  apply Sends.ite
  · exact Sends.ite (Sends.raise _) (Sends.pure _)
  · exact Sends.bind Sends.randbits fun serial => Sends.lift _

theorem sends_pack_message (opcode flag transaction_id payload_checksum total_size offset : Nat)
    (chunk : Bytes) :
    Sends (pack_message opcode flag transaction_id payload_checksum total_size offset chunk) := by
  unfold pack_message
  apply Sends.bind (Sends.lift _)
  intro appv2
  apply Sends.bind (Sends.lift _)
  intro business
  exact sends_pack_frame _ _

theorem sends_send_pull (opcode transaction_id offset : Nat) :
    Sends (send_pull opcode transaction_id offset) :=
  Sends.bind (sends_pack_message _ _ _ _ _ _ _) fun _ => Sends.sendall _

theorem sends_treat_association (u : Unit) (frame : Frame) : Sends (treat_association u frame) := by
  unfold treat_association
  apply Sends.ite (Sends.pure _)
  apply Sends.ite (Sends.raise _)
  apply Sends.ite _ (Sends.pure _)
  apply Sends.bind (sends_pack_frame _ _)
  intro accept
  apply Sends.bind (Sends.sendall _)
  intro _
  apply Sends.bind (sends_pack_frame _ _)
  intro hello
  exact Sends.bind (Sends.sendall _) fun _ => Sends.pure _

theorem sends_answer_or_pull (opcode transaction_id total sum : Nat) (reply : Reply) :
    Sends (answer_or_pull opcode transaction_id total sum reply) := by
  unfold answer_or_pull
  apply Sends.ite (Sends.lift _)
  apply Sends.ite (Sends.lift _)
  apply Sends.ite _ (Sends.pure _)
  exact Sends.bind (sends_send_pull _ _ _) fun _ => Sends.pure _

theorem sends_treat_chunk (opcode transaction_id : Nat) (reply : Reply) (m : Message) :
    Sends (treat_chunk opcode transaction_id reply m) := by
  unfold treat_chunk
  apply Sends.bind (Sends.lift _)
  rintro ⟨total, sum, reply'⟩
  apply Sends.ite
  · apply Sends.bind (sends_pack_message _ _ _ _ _ _ _)
    intro raw
    exact Sends.bind (Sends.sendall _) fun _ => sends_answer_or_pull _ _ _ _ _
  · exact sends_answer_or_pull _ _ _ _ _

theorem sends_treat_message (opcode transaction_id payload_size : Nat) (reply : Reply)
    (m : Option Message) : Sends (treat_message opcode transaction_id payload_size reply m) := by
  cases m with
  | none => exact Sends.pure _
  | some m =>
    unfold treat_message
    apply Sends.ite (Sends.pure _)
    apply Sends.ite (Sends.raise _)
    apply Sends.ite
    · apply Sends.ite _ (Sends.pure _)
      exact Sends.bind (sends_send_pull _ _ _) fun _ => Sends.pure _
    · exact Sends.ite (Sends.pure _) (sends_treat_chunk _ _ _ _)

end tplink_deco_api.tmp_protocol
