-- What a session says while it opens: the frames of the association, which carry
-- no message, and the messages of its two exchanges.
import TplinkDeco.TmpProtocol.ExchangeSafety

open bytes prog segments

namespace tplink_deco_api.tmp_protocol

open exceptions

/-! ## What was said -/

/-- Every message that went out since `w₀` has one of these opcodes. -/
def Says (opcodes : List Nat) (w₀ w : Wire) : Prop :=
  ∃ out, w.sent = w₀.sent ++ out ∧ ∀ raw ∈ out, ∀ m, Carries raw m → m.opcode ∈ opcodes

variable {opcodes : List Nat} {w₀ w w' : Wire}

theorem Says.refl (opcodes : List Nat) (w : Wire) : Says opcodes w w :=
  ⟨[], (List.append_nil _).symm, fun _ h => nomatch h⟩

theorem Says.trans (h : Says opcodes w₀ w) (h' : Says opcodes w w') : Says opcodes w₀ w' := by
  obtain ⟨out, hout, hsaid⟩ := h
  obtain ⟨out', hout', hsaid'⟩ := h'
  refine ⟨out ++ out', by rw [hout', hout, List.append_assoc], ?_⟩
  intro raw hraw
  exact (List.mem_append.mp hraw).elim (hsaid raw) (hsaid' raw)

/-- A wire that sent nothing more. -/
theorem Says.of_sent (h : Says opcodes w₀ w) (hsent : w'.sent = w.sent) : Says opcodes w₀ w' := by
  obtain ⟨out, hout, hsaid⟩ := h
  exact ⟨out, hsent.trans hout, hsaid⟩

theorem Says.mono {more : List Nat} (h : Says opcodes w₀ w) (hmore : opcodes ⊆ more) :
    Says more w₀ w := by
  obtain ⟨out, hout, hsaid⟩ := h
  exact ⟨out, hout, fun raw hraw m hm => hmore (hsaid raw hraw m hm)⟩

theorem Carries.unique {raw : Bytes} {m m' : Message} (h : Carries raw m) (h' : Carries raw m') :
    m = m' := by
  obtain ⟨frame, hframe, hm⟩ := h
  obtain ⟨frame', hframe', hm'⟩ := h'
  obtain rfl := Except.ok.inj (hframe.unique hframe')
  exact Option.some.inj (Except.ok.inj (hm.symm.trans hm'))

/-! ## Association -/

/-- A control frame carries no message. -/
theorem pack_control_ends {control : Nat} (hfits : control < 256) (hcontrol : control ≠ DATA)
    (w : Wire) : (pack_frame control).Ends w fun r w' =>
      w'.sent = w.sent ∧ ∀ raw, r = .ok raw → ∀ m, ¬ Carries raw m := by
  obtain ⟨raw, f, hpack, hdecodes, hmatches⟩ := pack_decodes { control } {
    control := hfits
    main_version := show 1 < 256 by decide
    secondary_version := show 1 < 256 by decide
    reason := show 0 < 256 by decide
    transfer_flag := show 0 < 256 by decide
    payload := Nat.zero_le _
    no_payload := fun _ => rfl } w
  obtain ⟨-, -, hc, -⟩ := hmatches
  unfold Prog.Ends
  rw [show pack_frame control [] 1 1 0 0 0 w = _ from hpack]
  refine ⟨rfl, ?_⟩
  rintro raw' hraw m ⟨frame, hframe, hm⟩
  cases hraw
  obtain rfl := Except.ok.inj (hdecodes.unique hframe)
  have hnot : f.control ≠ DATA := hc ▸ hcontrol
  unfold message_of_frame at hm
  rw [if_pos hnot] at hm
  split at hm
  · cases hm
  · cases hm

/-- A control frame goes out, and the rest says what it says. -/
theorem Says.control {β : Type} {control : Nat} (hfits : control < 256) (hcontrol : control ≠ DATA)
    {f : Unit → StreamM β} (h : Says opcodes w₀ w)
    (hf : ∀ w', Says opcodes w₀ w' → (f ()).Ends w' fun _ w'' => Says opcodes w₀ w'') :
    (pack_frame control >>= fun raw => sendall raw >>= f).Ends w fun _ w' =>
      Says opcodes w₀ w' := by
  apply Prog.Ends.bind (pack_control_ends hfits hcontrol w)
  · rintro raw w' ⟨hsent, hmute⟩
    have hsaid : (sendall raw).Ends w' fun _ w'' => Says opcodes w₀ w'' := by
      have hout : Says opcodes w' { w' with sent := w'.sent ++ [raw] } := by
        refine ⟨[raw], rfl, fun raw' hraw m hm => ?_⟩
        rw [List.mem_singleton.mp hraw] at hm
        exact absurd hm (hmute raw rfl m)
      unfold Prog.Ends sendall
      split
      · exact (h.of_sent hsent).trans hout
      · exact (h.of_sent hsent).trans hout
    exact Prog.Ends.bind hsaid (fun _ => hf) (fun _ _ h => h) fun _ h => h
  · exact fun e w' hr => h.of_sent hr.1
  · exact fun w' hr => h.of_sent hr.1

theorem treat_association_spoken (u : Unit) (frame : Frame) (h : Says opcodes w₀ w) :
    (treat_association u frame).Ends w fun _ w' => Says opcodes w₀ w' := by
  unfold treat_association
  split
  · exact Prog.Ends.pure h
  · split
    · exact Prog.Ends.raise h
    · split
      · refine h.control (by decide) (by decide) fun w' h' => ?_
        exact h'.control (by decide) (by decide) fun w'' h'' => Prog.Ends.pure h''
      · exact Prog.Ends.pure h

theorem associate_spoken (timeout : Nat) (h : Says opcodes w₀ w) :
    (associate timeout).Ends w fun _ w' => Says opcodes w₀ w' := by
  unfold associate
  refine h.control (by decide) (by decide) fun w' h' => ?_
  unfold Prog.Ends
  rw [Prog.bind_ok (monotonic_run w')]
  refine poll_keeps (I := Says opcodes w₀) (fun _ h => h.of_sent rfl) (fun w hw => ?_)
    (fun _ _ _ hw => treat_association_spoken _ _ hw) _ _ _ (h'.of_sent rfl)
  apply (read_frame_ends w).mono
  rintro r w'' ⟨⟨rest, taken, rfl, -⟩, -⟩
  exact hw.of_sent rfl

/-! ## The session -/

/-- An exchange says what its opcode is. -/
theorem exchange_spoken (q : Request) (s : TmpAppV2Session) :
    Says [q.opcode] s.stream (exchange q.opcode q.payload s).2.stream := by
  obtain ⟨heard, hx, -⟩ := transact_ends s.stream q.opcode_fits
    (Nat.mod_lt s.next_transaction_id (by decide)) q.payload_fits s.timeout
  obtain ⟨out, hout, hmay⟩ := hx.sent
  rw [exchange_run]
  refine ⟨out, hout, fun raw hraw m hm => List.mem_singleton.mpr ?_⟩
  obtain ⟨sent, hcarries, -, hopcode, -⟩ := hmay raw hraw
  rw [hm.unique hcarries, hopcode]

/-- From `s` to `s'` the session said no more than an opening does. -/
abbrev SaidOpening (s s' : TmpAppV2Session) : Prop :=
  Says [TOKEN_ALLOCATE, COMPONENT_NEGOTIATE] s.stream s'.stream

/-- Whatever the peer answers, an opening says the token allocation and the negotiation. -/
theorem open_session_spoken (s : TmpAppV2Session) :
    SaidOpening s (open_session s).2 := by
  have hexchange : ∀ q : Request, q.opcode ∈ [TOKEN_ALLOCATE, COMPONENT_NEGOTIATE] →
      ∀ s', SaidOpening s s' →
        (exchange q.opcode q.payload).Ends s' fun _ s'' => SaidOpening s s'' :=
    fun q hq s' h => h.trans ((exchange_spoken q s').mono fun _ h => List.mem_singleton.mp h ▸ hq)
  unfold open_session
  split
  · exact Says.refl _ _
  · have hassociate : (on_stream (associate s.timeout)).Ends s fun _ s' =>
        Says [TOKEN_ALLOCATE, COMPONENT_NEGOTIATE] s.stream s'.stream :=
      associate_spoken s.timeout (Says.refl _ _)
    have hallocate := hexchange ⟨TOKEN_ALLOCATE, [], by decide, by decide⟩ (by simp)
    have hnegotiate := hexchange ⟨COMPONENT_NEGOTIATE, [], by decide, by decide⟩ (by simp)
    refine Prog.Ends.bind (Q := fun _ s' => SaidOpening s s') hassociate (fun _ s' h => ?_)
      (fun _ _ h => h) fun _ h => h
    refine Prog.Ends.bind (hallocate s' h) (fun _ s' h => ?_) (fun _ _ h => h) fun _ h => h
    refine Prog.Ends.bind (hnegotiate s' h) (fun _ s' h => ?_) (fun _ _ h => h) fun _ h => h
    exact h

end tplink_deco_api.tmp_protocol
