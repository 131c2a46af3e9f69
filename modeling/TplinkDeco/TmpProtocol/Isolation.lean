-- The isolation of the exchanges of one session. As long as the stream breaks
-- between frames only, every exchange leaves the stream at a frame boundary,
-- and its response comes from frames that answer this very exchange.
import TplinkDeco.TmpProtocol.ExchangeSafety

open bytes dict prog segments

namespace tplink_deco_api.tmp_protocol

open exceptions

/-! ## The stream of the router -/

/-- A frame of the router, whatever it holds, and the call of the run that it answers. -/
structure RouterFrame where
  raw : Bytes
  decoded : Except PyError Frame
  whole : Decodes raw decoded
  answers : Nat

/-- The message in the frame, if there is one. -/
def RouterFrame.message (f : RouterFrame) : Option Message :=
  match f.decoded with
  | .ok frame =>
    match message_of_frame frame with
    | .ok m => m
    | .error _ => none
  | .error _ => none

/-- What a read meets at a frame boundary: a frame, an error of `recv`, or the end. -/
inductive Event where
  | frame (f : RouterFrame)
  | interrupted (e : PyError)
  | ended

def Event.items : Event → List (Item PyError)
  | .frame f => f.raw.map .byte
  | .interrupted e => [.fail e]
  | .ended => [.eof]

/-- The stream holds these events, and stands at the boundary before them. -/
def At (events : List Event) (w : Wire) : Prop := w.items = events.flatMap Event.items

/-! ## One read -/

theorem read_frame_interrupted {w : Wire} {e : PyError} {is : List (Item PyError)}
    (h : w.items = .fail e :: is) :
    ∃ rest, itemsOf rest = is ∧ read_frame w = (.raised e, { w with
      arrivals := rest, reads := w.reads ++ [{ taken := [], ended := .raised e }] }) := by
  obtain ⟨rest, hi, hrun⟩ := read_exact_run (calcsize GENERAL_HEADER) w
  rw [h, show calcsize GENERAL_HEADER = 3 + 1 from rfl] at hi hrun
  refine ⟨rest, hi, noting_run ?_ ?_⟩
  · rw [show calcsize GENERAL_HEADER = 3 + 1 from rfl, Prog.bind_raised hrun]
  · rw [Wire.unread, h, hi]
    rfl

theorem read_frame_ended {w : Wire} {is : List (Item PyError)} (h : w.items = .eof :: is) :
    ∃ rest e, itemsOf rest = is ∧ read_frame w = (.raised e, { w with
      arrivals := rest, reads := w.reads ++ [{ taken := [], ended := .raised e }] }) := by
  obtain ⟨rest, hi, hrun⟩ := read_exact_run (calcsize GENERAL_HEADER) w
  rw [h, show calcsize GENERAL_HEADER = 3 + 1 from rfl] at hi hrun
  refine ⟨rest, eof_error 0 4, hi, noting_run ?_ ?_⟩
  · rw [show calcsize GENERAL_HEADER = 3 + 1 from rfl, Prog.bind_raised hrun]
    rfl
  · rw [Wire.unread, h, hi]
    rfl

theorem read_frame_waits {w : Wire} (h : w.items = []) :
    ∃ rest, itemsOf rest = [] ∧ read_frame w = (.waiting, { w with
      arrivals := rest, reads := w.reads ++ [{ taken := [], ended := .waiting }] }) := by
  obtain ⟨rest, hi, hrun⟩ := read_exact_run (calcsize GENERAL_HEADER) w
  rw [h, show calcsize GENERAL_HEADER = 3 + 1 from rfl] at hi hrun
  refine ⟨rest, hi, noting_run ?_ ?_⟩
  · rw [show calcsize GENERAL_HEADER = 3 + 1 from rfl, Prog.bind_waiting hrun]
  · rw [Wire.unread, h, hi]
    rfl

/-- A read from a boundary ends at a boundary, and what it heard is the frame it met. -/
theorem read_frame_at {events : List Event} {w : Wire} (h : At events w) :
    read_frame.Ends w fun _ w' => ∃ rest read, rest <:+ events ∧ At rest w' ∧
      w'.reads = w.reads ++ [read] ∧
      ∀ m, read.message? = some m → ∃ f, .frame f ∈ events ∧ f.message = some m := by
  cases events with
  | nil =>
    obtain ⟨rest, hi, hrun⟩ := read_frame_waits h
    unfold Prog.Ends
    rw [hrun]
    exact ⟨[], _, List.suffix_refl _, hi, rfl, by simp [FrameRead.message?]⟩
  | cons event events =>
    have hsuffix : events <:+ event :: events := List.suffix_cons _ _
    unfold At at h
    rw [List.flatMap_cons] at h
    cases event with
    | frame f =>
      obtain ⟨rest, hi, hrun⟩ := read_frame_decodes f.whole h
      unfold Prog.Ends
      rw [hrun]
      refine ⟨events, _, hsuffix, hi, rfl, ?_⟩
      intro m hm
      refine ⟨f, List.mem_cons_self, ?_⟩
      unfold FrameRead.message? at hm
      unfold RouterFrame.message
      rcases hf : f.decoded with e | frame
      · rw [hf] at hm
        cases hm
      · rw [hf] at hm
        exact hm
    | interrupted e =>
      obtain ⟨rest, hi, hrun⟩ := read_frame_interrupted h
      unfold Prog.Ends
      rw [hrun]
      exact ⟨events, _, hsuffix, hi, rfl, by simp [FrameRead.message?]⟩
    | ended =>
      obtain ⟨rest, e, hi, hrun⟩ := read_frame_ended h
      unfold Prog.Ends
      rw [hrun]
      exact ⟨events, _, hsuffix, hi, rfl, by simp [FrameRead.message?]⟩

/-! ## One exchange -/

/-- The stream of a run that started on `w₀` before these events: it stands at a later
boundary, and every message that was heard came in one of the frames. -/
def Aligned (events : List Event) (w₀ w : Wire) : Prop :=
  ∃ rest heard, rest <:+ events ∧ At rest w ∧ w.reads = w₀.reads ++ heard ∧
    ∀ read ∈ heard, ∀ m, read.message? = some m → ∃ f, .frame f ∈ events ∧ f.message = some m

theorem Aligned.same {events : List Event} {w₀ w w' : Wire} (h : Aligned events w₀ w)
    (ha : w'.arrivals = w.arrivals) (hr : w'.reads = w.reads) : Aligned events w₀ w' := by
  obtain ⟨rest, heard, hs, hat, hreads, hheard⟩ := h
  refine ⟨rest, heard, hs, ?_, hr.trans hreads, hheard⟩
  unfold At Wire.items
  rw [ha]
  exact hat

theorem Aligned.read {events : List Event} {w₀ w : Wire} (h : Aligned events w₀ w) :
    read_message.Ends w fun _ w' => Aligned events w₀ w' := by
  obtain ⟨rest, heard, hs, hat, hreads, hheard⟩ := h
  have hnext : ∀ w', (∃ rest' read, rest' <:+ rest ∧ At rest' w' ∧ w'.reads = w.reads ++ [read] ∧
      ∀ m, read.message? = some m → ∃ f, .frame f ∈ rest ∧ f.message = some m) →
      Aligned events w₀ w' := by
    rintro w' ⟨rest', read, hs', hat', hread, hm⟩
    refine ⟨rest', heard ++ [read], hs'.trans hs, hat', ?_, ?_⟩
    · rw [hread, hreads, List.append_assoc]
    · intro x hx m hxm
      rcases List.mem_append.mp hx with hx | hx
      · exact hheard x hx m hxm
      · rw [List.mem_singleton.mp hx] at hxm
        obtain ⟨f, hf, hfm⟩ := hm m hxm
        exact ⟨f, hs.subset hf, hfm⟩
  unfold read_message
  apply Prog.Ends.bind (read_frame_at hat)
  · intro frame w' hw'
    exact Prog.Ends.lift (fun _ _ => hnext w' hw') fun _ _ => hnext w' hw'
  · exact fun _ w' hw' => hnext w' hw'
  · exact fun w' hw' => hnext w' hw'

theorem poll_aligned {events : List Event} {w₀ : Wire} (opcode transaction_id payload_size : Nat)
    (timed_out : PyError) (deadline turns : Nat) (reply : Reply) (w : Wire)
    (h : Aligned events w₀ w) :
    (poll read_message (treat_message opcode transaction_id payload_size) timed_out deadline turns
      reply).Ends w fun _ w' => Aligned events w₀ w' := by
  refine poll_keeps (fun w' hw' => hw'.same rfl rfl) (fun w' hw' => hw'.read) ?_ turns reply w h
  intro reply m w' hw'
  exact ((sends_treat_message _ _ _ reply m).ends w').mono fun _ _ hs =>
    hw'.same hs.arrivals hs.reads

theorem transact_aligned {events : List Event} {w₀ : Wire} (timeout opcode transaction_id : Nat)
    (payload : Bytes) (h : At events w₀) :
    (transact timeout opcode transaction_id payload).Ends w₀ fun _ w' => Aligned events w₀ w' := by
  have hstart : Aligned events w₀ w₀ := ⟨events, [], List.suffix_refl _, h, by simp, by simp⟩
  have hsends : ∀ {α β : Type} {m : StreamM α} {f : α → StreamM β}, Sends m →
      (∀ a w, Aligned events w₀ w → (f a).Ends w fun _ w' => Aligned events w₀ w') →
      ∀ w, Aligned events w₀ w → (m >>= f).Ends w fun _ w' => Aligned events w₀ w' := by
    intro α β m f hm hf w hw
    exact Prog.Ends.bind ((hm.ends w).mono fun _ _ hs => hw.same hs.arrivals hs.reads)
      (fun a w' hw' => hf a w' hw') (fun _ _ hw' => hw') fun _ hw' => hw'
  have hloop : ∀ reply w, Aligned events w₀ w → Prog.Ends (monotonic >>= fun now =>
      poll_all read_message (treat_message opcode transaction_id payload.length)
        (exchange_timed_out opcode) (now + timeout) reply) w fun _ w' => Aligned events w₀ w' := by
    intro reply w hw
    unfold Prog.Ends
    rw [Prog.bind_ok (monotonic_run w)]
    exact poll_aligned _ _ _ _ _ _ _ _ (hw.same rfl rfl)
  unfold transact
  apply hsends (sends_pack_message _ _ _ _ _ _ _) _ w₀ hstart
  intro raw w hw
  apply hsends (Sends.sendall raw) _ w hw
  intro _ w hw
  by_cases hempty : payload = []
  · simp only [hempty, if_true] at hloop ⊢
    exact hsends (sends_send_pull _ _ _) (fun _ w hw => hloop _ w hw) w hw
  · simp only [hempty, if_false] at hloop ⊢
    exact hloop _ w hw

/-! ## The run of a session -/

/-- A call of `_exchange`. -/
structure Call where
  opcode : Int
  payload : Bytes

/-- The guards of `_exchange`. -/
def Call.passes (c : Call) : Prop :=
  (0 ≤ c.opcode ∧ c.opcode ≤ 0xFFFF) ∧ c.payload.length ≤ MAX_REQUEST_SIZE

instance (c : Call) : Decidable c.passes :=
  inferInstanceAs (Decidable ((0 ≤ c.opcode ∧ c.opcode ≤ 0xFFFF) ∧
    c.payload.length ≤ MAX_REQUEST_SIZE))

def Call.run (c : Call) : SessionM Bytes := exchange c.opcode c.payload

/-- The calls one after the other, whatever each of them raised: the outcome of each, and
the session after it. A call that waits is the last one. -/
def run_calls : List Call → TmpAppV2Session → List (Outcome PyError Bytes × TmpAppV2Session)
  | [], _ => []
  | c :: cs, s =>
    c.run s ::
      match (c.run s).1 with
      | .waiting => []
      | _ => run_calls cs (c.run s).2

/-- How many transaction ids the calls before call `k` drew. -/
def drawn (cs : List Call) (k : Nat) : Nat := ((cs.take k).filter (·.passes)).length

/-- The chunk that a frame brings. -/
def RouterFrame.chunk (f : RouterFrame) : Bytes :=
  match f.message with
  | some m => m.chunk
  | none => []

/-- A response that is made of data messages which the router sent with this tag. -/
def MadeOf (events : List Event) (opcode transaction_id : Nat) (used : List RouterFrame)
    (response : Bytes) : Prop :=
  (∀ f ∈ used, .frame f ∈ events ∧ ∃ m, f.message = some m ∧ IsData opcode transaction_id m) ∧
    response = (used.flatMap RouterFrame.chunk).take response.length

theorem Truthful.madeOf {events : List Event} {opcode transaction_id : Nat}
    {heard : List FrameRead} {response : Bytes}
    (h : Truthful (data_messages opcode transaction_id heard) response)
    (hheard : ∀ read ∈ heard, ∀ m, read.message? = some m →
      ∃ f, .frame f ∈ events ∧ f.message = some m) :
    ∃ used, MadeOf events opcode transaction_id used response := by
  obtain ⟨-, -, -, used, hused, hresponse⟩ := h
  have hframes : ∀ ms : List Message, (∀ m ∈ ms, m ∈ data_messages opcode transaction_id heard) →
      ∃ fs : List RouterFrame, (∀ f ∈ fs, .frame f ∈ events ∧
        ∃ m, f.message = some m ∧ IsData opcode transaction_id m) ∧
        ms.flatMap Message.chunk = fs.flatMap RouterFrame.chunk := by
    intro ms
    induction ms with
    | nil => exact fun _ => ⟨[], by simp, rfl⟩
    | cons m ms ih =>
      intro hms
      obtain ⟨fs, hfs, hchunks⟩ := ih fun m' hm' => hms m' (List.mem_cons_of_mem m hm')
      obtain ⟨hmem, hdata⟩ := List.mem_filter.mp (hms m List.mem_cons_self)
      obtain ⟨read, hread, hm⟩ := List.mem_filterMap.mp hmem
      obtain ⟨f, hf, hfm⟩ := hheard read hread m hm
      refine ⟨f :: fs, ?_, ?_⟩
      · intro f' hf'
        rcases List.mem_cons.mp hf' with rfl | hf'
        · exact ⟨hf, m, hfm, by simpa using hdata⟩
        · exact hfs f' hf'
      · rw [List.flatMap_cons, List.flatMap_cons, hchunks]
        simp [RouterFrame.chunk, hfm]
  obtain ⟨fs, hfs, hchunks⟩ := hframes used hused
  exact ⟨fs, hfs, hchunks ▸ hresponse⟩

/-- One call: the guards may stop it, and then nothing happens. Else it draws an id, and it
leaves the stream at a boundary. -/
theorem call_isolated {events : List Event} (c : Call) (s : TmpAppV2Session)
    (h : At events s.stream) :
    (∃ rest, rest <:+ events ∧ At rest (c.run s).2.stream) ∧
      (c.run s).2.next_transaction_id = s.next_transaction_id + (if c.passes then 1 else 0) ∧
      ∀ response, (c.run s).1 = .ok response → c.passes ∧
        ∃ used, MadeOf events c.opcode.toNat (s.next_transaction_id % 2 ^ 16) used response := by
  by_cases hp : c.passes
  · obtain ⟨opcode, payload⟩ := c
    obtain ⟨⟨hpos, hmax⟩, hlen⟩ := id hp
    obtain ⟨n, rfl⟩ := Int.eq_ofNat_of_zero_le hpos
    have hfits : n ≤ 0xFFFF := Int.ofNat_le.mp hmax
    obtain ⟨heard, hx, hok, -⟩ := transact_ends s.stream hfits
      (Nat.mod_lt s.next_transaction_id (by decide)) hlen s.timeout
    obtain ⟨rest, heard', hs, hat, hreads, hheard⟩ := transact_aligned s.timeout n
      (s.next_transaction_id % 2 ^ 16) payload h
    have hsame : heard' = heard := List.append_cancel_left (hreads.symm.trans hx.reads)
    subst hsame
    rw [show Call.run ⟨n, payload⟩ s = _ from exchange_run ⟨n, payload, hfits, hlen⟩ s]
    exact ⟨⟨rest, hs, hat⟩, by simp [hp], fun response hr => ⟨hp, (hok response hr).madeOf hheard⟩⟩
  · -- A call that the guards stop raises `ValueError`.
    have hrun : ∃ e, c.run s = (.raised e, s) := by
      unfold Call.run exchange
      by_cases ho : 0 ≤ c.opcode ∧ c.opcode ≤ 0xFFFF
      · have hlong : MAX_REQUEST_SIZE < c.payload.length := by
          by_contra hn
          exact hp ⟨ho, Nat.not_lt.mp hn⟩
        simp [ho, hlong]
      · simp [ho]
    obtain ⟨e, hrun⟩ := hrun
    rw [hrun]
    exact ⟨⟨events, List.suffix_refl _, h⟩, by simp [hp], by simp⟩

theorem drawn_succ (c : Call) (cs : List Call) (k : Nat) :
    drawn (c :: cs) (k + 1) = (if c.passes then 1 else 0) + drawn cs k := by
  unfold drawn
  rw [List.take_succ_cons]
  by_cases h : c.passes
  · rw [List.filter_cons_of_pos (by simpa using h), if_pos h, List.length_cons, Nat.add_comm]
  · rw [List.filter_cons_of_neg (by simpa using h), if_neg h, Nat.zero_add]

theorem drawn_le (cs : List Call) (k : Nat) : drawn cs k ≤ cs.length :=
  Nat.le_trans (List.length_filter_le _ _) (List.length_take_le' k cs)

/-- A call that passes its guards uses its id up. -/
theorem drawn_lt {cs : List Call} {i k : Nat} {c : Call} (h : cs[i]? = some c) (hp : c.passes)
    (hik : i < k) : drawn cs i < drawn cs k := by
  induction cs generalizing i k with
  | nil => cases h
  | cons d cs ih =>
    obtain ⟨k, rfl⟩ : ∃ j, k = j + 1 := ⟨k - 1, by omega⟩
    rw [drawn_succ]
    cases i with
    | zero =>
      cases h
      rw [if_pos hp]
      have hzero : drawn (c :: cs) 0 = 0 := rfl
      omega
    | succ i =>
      have := ih h (show i < k by omega)
      rw [drawn_succ]
      omega

/-- Every call of a run is isolated, with the id that is its own. -/
theorem run_isolated {events : List Event} (cs : List Call) (s : TmpAppV2Session)
    (h : At events s.stream) (k : Nat) (r : Outcome PyError Bytes × TmpAppV2Session)
    (hk : (run_calls cs s)[k]? = some r) :
    ∃ c, cs[k]? = some c ∧ (∃ rest, rest <:+ events ∧ At rest r.2.stream) ∧
      ∀ response, r.1 = .ok response → c.passes ∧ ∃ used, MadeOf events c.opcode.toNat
        ((s.next_transaction_id + drawn cs k) % 2 ^ 16) used response := by
  induction cs generalizing events s k with
  | nil => cases hk
  | cons c cs ih =>
    obtain ⟨⟨rest, hs, hat⟩, hid, hok⟩ := call_isolated c s h
    cases k with
    | zero =>
      cases hk
      exact ⟨c, rfl, ⟨rest, hs, hat⟩, hok⟩
    | succ k =>
      unfold run_calls at hk
      rw [List.getElem?_cons_succ] at hk
      split at hk
      · cases hk
      · obtain ⟨d, hd, ⟨rest', hs', hat'⟩, hok'⟩ := ih (c.run s).2 hat k hk
        refine ⟨d, hd, ⟨rest', hs'.trans hs, hat'⟩, ?_⟩
        intro response hr
        obtain ⟨hpass, used, hused, hmade⟩ := hok' response hr
        refine ⟨hpass, used, ?_, hmade⟩
        rw [hid, Nat.add_assoc, ← drawn_succ] at hused
        intro f hf
        exact ⟨hs.subset (hused f hf).1, (hused f hf).2⟩

/-! ## The law -/

/-- The router tags each answer with the opcode and the transaction id of the call that it
answers, a call that did go out. -/
def Tagged (events : List Event) (cs : List Call) (first_id : Nat) : Prop :=
  ∀ f m, .frame f ∈ events → f.message = some m →
    ∃ c, cs[f.answers]? = some c ∧ c.passes ∧ m.opcode = c.opcode.toNat ∧
      m.transaction_id = (first_id + drawn cs f.answers) % 2 ^ 16

/-- In a run of fewer than 2 ^ 16 calls, whatever each of them raises, every call leaves the
stream at a frame boundary, and its response is made of frames that answer this call. -/
theorem exchanges_of_a_session_are_isolated (events : List Event) (cs : List Call)
    (s : TmpAppV2Session) (h : At events s.stream) (hcs : cs.length < 2 ^ 16)
    (htag : Tagged events cs s.next_transaction_id) (k : Nat)
    (r : Outcome PyError Bytes × TmpAppV2Session) (hk : (run_calls cs s)[k]? = some r) :
    (∃ rest, rest <:+ events ∧ At rest r.2.stream) ∧
      ∀ response, r.1 = .ok response → ∃ used : List RouterFrame,
        (∀ f ∈ used, .frame f ∈ events ∧ f.answers = k) ∧
          response = (used.flatMap RouterFrame.chunk).take response.length := by
  obtain ⟨c, hc, hat, hok⟩ := run_isolated cs s h k r hk
  refine ⟨hat, fun response hr => ?_⟩
  obtain ⟨hpass, used, hused, hmade⟩ := hok response hr
  refine ⟨used, fun f hf => ?_, hmade⟩
  obtain ⟨hevent, m, hm, -, hid, -⟩ := hused f hf
  refine ⟨hevent, ?_⟩
  obtain ⟨d, hd, hdpass, -, hid'⟩ := htag f m hevent hm
  -- Two calls that went out have ids that differ by less than 2 ^ 16.
  have hle := drawn_le cs k
  have hle' := drawn_le cs f.answers
  rcases Nat.lt_trichotomy f.answers k with hlt | heq | hlt
  · have := drawn_lt hd hdpass hlt
    omega
  · exact heq
  · have := drawn_lt hc hpass hlt
    omega

/-- A frame of the router, decoded. -/
def router_frame (raw : Bytes) (answers : Nat) (h : (decode_frame raw).isSome = true) :
    RouterFrame :=
  ⟨raw, (decode_frame raw).get h, decodes_of_decode_frame (Option.some_get h).symm, answers⟩

/-- The answer `h` to the first call, in one pushed message. -/
def pushed : RouterFrame :=
  router_frame [1, 1, 5, 0, 0, 21, 0, 0, 0, 0, 0, 0, 12, 44, 103, 200, 1, 2, 64, 20, 2, 0, 0, 1,
    145, 107, 6, 231, 0, 0, 0, 1, 0, 0, 0, 0, 104] 0 (by decide +kernel)

/-- The answer `i` to the second call. -/
def pushed_next : RouterFrame :=
  router_frame [1, 1, 5, 0, 0, 21, 0, 0, 0, 0, 0, 0, 80, 138, 82, 100, 1, 2, 64, 20, 2, 0, 0, 2,
    230, 108, 54, 113, 0, 0, 0, 1, 0, 0, 0, 0, 105] 1 (by decide +kernel)

/-- The first answer comes late, after a broken connection, and before the second one. -/
def late_events : List Event :=
  [.interrupted { cls := .ConnectionError }, .frame pushed, .frame pushed_next]

def pushed_late : TmpAppV2Session where
  stream := {
    arrivals := [.fail { cls := .ConnectionError }, .data pushed.raw, .data pushed_next.raw]
    clock := fun _ => 0 }
  timeout := 8

def two_calls : List Call := [⟨0x4014, [123, 125]⟩, ⟨0x4014, [123, 125]⟩]

theorem late_answers_tagged : Tagged late_events two_calls pushed_late.next_transaction_id := by
  intro f m hf hm
  have hframe : f = pushed ∨ f = pushed_next := by simpa [late_events] using hf
  have hmessage : pushed.message = some {
      opcode := 0x4014, flag := PUSH, error := 0, transaction_id := 1
      payload_checksum := 2439710439, total_size := 1, offset := 0, control := DATA
      chunk := [104] } := by decide +kernel
  have hnext : pushed_next.message = some {
      opcode := 0x4014, flag := PUSH, error := 0, transaction_id := 2
      payload_checksum := 3865851505, total_size := 1, offset := 0, control := DATA
      chunk := [105] } := by decide +kernel
  rcases hframe with rfl | rfl
  · rw [hmessage] at hm
    cases hm
    exact ⟨⟨0x4014, [123, 125]⟩, rfl, by decide, rfl, by decide +kernel⟩
  · rw [hnext] at hm
    cases hm
    exact ⟨⟨0x4014, [123, 125]⟩, rfl, by decide, rfl, by decide +kernel⟩

/-- The first call fails, and the second one passes over the answer that is not its own. -/
theorem the_second_call_gets_its_answer :
    ((run_calls two_calls pushed_late).map fun r => r.1) =
        [.raised { cls := .ConnectionError }, .ok [105]] ∧
      ∃ used : List RouterFrame,
        (∀ f ∈ used, Event.frame f ∈ late_events ∧ f.answers = 1) ∧
          [105] = (used.flatMap RouterFrame.chunk).take 1 := by
  have hat : At late_events pushed_late.stream := by
    unfold At
    decide +kernel
  have hresults : ((run_calls two_calls pushed_late).map fun r => r.1) =
      [.raised { cls := .ConnectionError }, .ok [105]] := by
    decide +kernel
  have hsecond : (run_calls two_calls pushed_late)[1]?.map (fun r => r.1) = some (.ok [105]) := by
    rw [← List.getElem?_map, hresults]
    rfl
  obtain ⟨r, hr, hok⟩ := Option.map_eq_some_iff.mp hsecond
  exact ⟨hresults, (exchanges_of_a_session_are_isolated late_events two_calls pushed_late hat
    (by decide) late_answers_tagged 1 r hr).2 [105] hok⟩

end tplink_deco_api.tmp_protocol
