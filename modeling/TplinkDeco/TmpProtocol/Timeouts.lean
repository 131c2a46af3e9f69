-- Timeouts of `recv`. Both loops of a session try a read again after a timeout,
-- and that changes nothing as long as the timeout comes between two frames. A
-- timeout inside a frame loses the bytes that the frame had given.
import TplinkDeco.TmpProtocol.ExchangeSafety

open bytes dict prog segments

namespace tplink_deco_api.tmp_protocol

open exceptions

/-! ## The stream without its timeouts -/

def is_kept (e : PyError) : Bool := !is_timeout e

/-- The same bytes and errors, delivered without any timeout. -/
def Wire.without_timeouts (w : Wire) : Wire :=
  { w with arrivals := w.arrivals.filter (Arrival.kept is_kept) }

/-- A timeout ended the read. -/
def FrameRead.timed_out (read : FrameRead) : Bool :=
  match read.ended with
  | .raised e => is_timeout e
  | _ => false

/-- The reads that no timeout ended: the frames, and the errors of frames. -/
def completed (reads : List FrameRead) : List FrameRead := reads.filter (!·.timed_out)

theorem completed_append (reads more : List FrameRead) :
    completed (reads ++ more) = completed reads ++ completed more := List.filter_append _ _

/-- `s` is `t` without the timeouts that are still to come, and with the same past. -/
structure Stripped (s t : Wire) : Prop where
  items : s.items = t.items.filter (Item.kept is_kept)
  send_errors : s.send_errors = t.send_errors
  serials : s.serials = t.serials
  drawn : s.drawn = t.drawn
  sent : s.sent = t.sent
  reads : completed s.reads = completed t.reads

theorem stripped_without_timeouts (w : Wire) : Stripped w.without_timeouts w :=
  ⟨itemsOf_filter is_kept w.arrivals, rfl, rfl, rfl, rfl, rfl⟩

theorem Stripped.unread {s t : Wire} (h : Stripped s t) : s.unread = t.unread := by
  rw [Wire.unread, h.items, bytesOf_filter]
  rfl

/-- The errors that the loops retry. -/
abbrev TimedOut (e : PyError) : Prop := is_timeout e = true

theorem is_timeout_of_protocol {e : PyError} (h : e.cls = .TmpProtocolError) :
    is_timeout e = false := by
  unfold is_timeout PyError.isinstance
  rw [h]
  decide

/-! ## The frame reader -/

theorem sim_read_exact (size : Nat) :
    Prog.Sim TimedOut Stripped (read_exact size) (read_exact size) := by
  intro s t h
  obtain ⟨rest, hi, hrun⟩ := read_exact_run size s
  obtain ⟨rest', hi', hrun'⟩ := read_exact_run size t
  rw [hrun, hrun']
  rw [h.items] at hi hrun ⊢
  rcases takeBlock_filter is_kept size t.items with ⟨e, he, hk⟩ | hsame
  · refine Or.inl ⟨e, ?_, by simpa [is_kept] using hk⟩
    rcases hb : takeBlock size t.items with ⟨bs, taken, is⟩
    rw [hb] at he
    subst he
    rfl
  · refine Or.inr ⟨?_, ?_⟩
    · rw [hsame]
      rcases hb : takeBlock size t.items with ⟨bs, taken, is⟩
      cases taken <;> rfl
    · refine ⟨?_, h.send_errors, h.serials, h.drawn, h.sent, h.reads⟩
      show itemsOf rest = (itemsOf rest').filter _
      rw [hi, hi', hsame]

theorem sim_noting {m : StreamM Frame} (h : Prog.Sim TimedOut Stripped m m) :
    Prog.Sim TimedOut Stripped (noting m) (noting m) := by
  intro s t hst
  have hm := h s t hst
  unfold noting
  rcases hs : m s with ⟨r, s'⟩
  rcases ht : m t with ⟨r', t'⟩
  rw [hs, ht] at hm
  rcases hm with ⟨e, he, hto⟩ | ⟨rfl, h'⟩
  · exact Or.inl ⟨e, he, hto⟩
  · refine Or.inr ⟨rfl, h'.items, h'.send_errors, h'.serials, h'.drawn, h'.sent, ?_⟩
    rw [completed_append, completed_append, h'.reads, hst.unread, h'.unread]

theorem sim_read_frame : Prog.Sim TimedOut Stripped read_frame read_frame := by
  unfold read_frame
  apply sim_noting
  apply Prog.Sim.bind (sim_read_exact _)
  intro general_raw
  apply Prog.Sim.bind (Prog.Sim.lift _)
  intro general
  split
  · apply Prog.Sim.ite (Prog.Sim.pure _)
    apply Prog.Sim.bind (sim_read_exact _)
    intro transfer_raw
    apply Prog.Sim.bind (Prog.Sim.lift _)
    intro transfer
    split
    · apply Prog.Sim.ite (Prog.Sim.raise _)
      exact Prog.Sim.bind (sim_read_exact _) fun payload => Prog.Sim.lift _
    · exact Prog.Sim.raise _
  · exact Prog.Sim.raise _

theorem sim_read_message : Prog.Sim TimedOut Stripped read_message read_message :=
  Prog.Sim.bind sim_read_frame fun _ => Prog.Sim.lift _

/-! ## What the session sends -/

/-- A program that only sends runs in the same way on both wires. -/
theorem Sends.sim {bad : PyError → Prop} {α : Type} {m : StreamM α} (h : Sends m) :
    Prog.Sim bad Stripped m m := by
  induction h with
  | pure a => exact Prog.Sim.pure a
  | raise e => exact Prog.Sim.raise e
  | lift x => exact Prog.Sim.lift x
  | sendall data =>
    intro s t h
    refine Or.inr ?_
    unfold tmp_protocol.sendall
    rw [h.send_errors, h.sent]
    split
    · exact ⟨rfl, h.items, rfl, h.serials, h.drawn, rfl, h.reads⟩
    · exact ⟨rfl, h.items, rfl, h.serials, h.drawn, rfl, h.reads⟩
  | randbits =>
    intro s t h
    refine Or.inr ⟨?_, h.items, h.send_errors, h.serials, ?_, h.sent, h.reads⟩
    · simp only [tmp_protocol.randbits, h.serials, h.drawn]
    · simp only [tmp_protocol.randbits, h.drawn]
  | bind hm hf ihm ihf => exact Prog.Sim.bind ihm ihf

/-! ## Readers and treatments of a loop -/

/-- What one read of the loop does: it takes bytes off the stream, and the log notes them. -/
structure Took {α : Type} (w : Wire) (r : Outcome PyError α) (w' : Wire) : Prop where
  wire : ∃ rest read, w' = { w with arrivals := rest, reads := w.reads ++ [read] } ∧
    w.unread = read.taken ++ w'.unread ∧ (read.timed_out = true ↔ ∃ e, r = .raised e ∧ TimedOut e)
  suffix : w'.items <:+ w.items
  shorter : r ≠ .waiting → w'.items.length < w.items.length
  error : ∀ e, r = .raised e → ReadError w e w'.items

theorem read_frame_took (w : Wire) : read_frame.Ends w (Took w) := by
  apply (read_frame_ends w).mono
  rintro r w' ⟨⟨rest, taken, rfl, hu⟩, hs, hlt, he⟩
  refine ⟨⟨rest, _, rfl, hu, ?_⟩, hs, hlt, he⟩
  cases r <;> simp [FrameRead.timed_out]

theorem read_message_took (w : Wire) : read_message.Ends w (Took w) := by
  unfold read_message
  apply Prog.Ends.bind (read_frame_took w)
  · rintro frame w' ⟨⟨rest, read, rfl, hu, hto⟩, hs, hlt, -⟩
    have hno : read.timed_out = false := by
      simpa using hto
    apply Prog.Ends.lift
    · intro m _
      exact ⟨⟨rest, read, rfl, hu, by simp [hno]⟩, hs, fun _ => hlt (by simp), by simp⟩
    · intro e he
      have hcls := message_of_frame_error he
      refine ⟨⟨rest, read, rfl, hu, ?_⟩, hs, fun _ => hlt (by simp), ?_⟩
      · simp [hno, is_timeout_of_protocol hcls]
      · rintro e' ⟨⟩
        exact Or.inl hcls
  · rintro e w' ⟨⟨rest, read, rfl, hu, hto⟩, hs, hlt, he⟩
    exact ⟨⟨rest, read, rfl, hu, by simpa using hto⟩, hs, fun _ => hlt (by simp), by simpa using he⟩
  · rintro w' ⟨⟨rest, read, rfl, hu, hto⟩, hs, hlt, he⟩
    exact ⟨⟨rest, read, rfl, hu, by simpa using hto⟩, hs, by simp, by simp⟩

/-- A read that timed out took the bytes that stood before the timeout on the stream. -/
theorem Took.at_timeout {α : Type} {w w' : Wire} {e : PyError}
    (h : Took w (.raised e : Outcome PyError α) w') (hto : TimedOut e) :
    ∃ read, w'.reads = w.reads ++ [read] ∧
      w.items = read.taken.map Item.byte ++ .fail e :: w'.items := by
  obtain ⟨rest, read, hw, hu, -⟩ := h.wire
  refine ⟨read, by rw [hw], ?_⟩
  rcases h.error e rfl with hcls | ⟨bs, hbs⟩
  · simp [TimedOut, is_timeout_of_protocol hcls] at hto
  · rw [Wire.unread, hbs, bytesOf_append, bytesOf_map_byte, bytesOf_fail] at hu
    rw [hbs, List.append_cancel_right hu]

/-- A timeout that came before the first byte of a frame took nothing but itself. -/
theorem Took.between {α : Type} {w w' : Wire} {e : PyError}
    (h : Took w (.raised e : Outcome PyError α) w') (hto : TimedOut e)
    (hnone : ∀ read, w'.reads = w.reads ++ [read] → read.taken = []) :
    w.items = .fail e :: w'.items := by
  obtain ⟨read, hreads, hitems⟩ := h.at_timeout hto
  rw [hitems, hnone read hreads]
  rfl

/-- A read that a loop can make. -/
structure Reader {α : Type} (read : StreamM α) : Prop where
  sim : Prog.Sim TimedOut Stripped read read
  took : ∀ w, read.Ends w (Took w)

theorem reader_read_frame : Reader read_frame := ⟨sim_read_frame, read_frame_took⟩

theorem reader_read_message : Reader read_message := ⟨sim_read_message, read_message_took⟩

/-! ## What a loop takes -/

/-- The bytes that are gone from the stream are those that the log notes, and a read timed
out only where a timeout stood. -/
structure Conserves (w : Wire) (heard : List FrameRead) (w' : Wire) : Prop where
  reads : w'.reads = w.reads ++ heard
  unread : w.unread = (heard.map FrameRead.taken).flatten ++ w'.unread
  suffix : w'.items <:+ w.items
  timeouts : ∀ read ∈ heard, read.timed_out = true → ∃ e, TimedOut e ∧ .fail e ∈ w.items

theorem Conserves.refl (w : Wire) : Conserves w [] w :=
  ⟨by simp, rfl, List.suffix_refl _, by simp⟩

theorem Conserves.same {w w' w'' : Wire} {heard : List FrameRead} (h : Conserves w heard w')
    (ha : w''.arrivals = w'.arrivals) (hr : w''.reads = w'.reads) : Conserves w heard w'' := by
  have hi : w''.items = w'.items := by rw [Wire.items, ha, Wire.items]
  refine ⟨hr.trans h.reads, ?_, ?_, h.timeouts⟩
  · rw [h.unread, Wire.unread, Wire.unread, hi]
  · rw [hi]
    exact h.suffix

theorem Conserves.took {α : Type} {w w' w'' : Wire} {heard : List FrameRead}
    {r : Outcome PyError α} (h : Conserves w heard w') (ht : Took w' r w'') :
    ∃ read, Conserves w (heard ++ [read]) w'' := by
  obtain ⟨rest, read, hw, hu, hto⟩ := ht.wire
  refine ⟨read, ?_, ?_, ht.suffix.trans h.suffix, ?_⟩
  · rw [hw, ← List.append_assoc, ← h.reads]
  · rw [h.unread, hu]
    simp
  · intro x hx hxto
    rcases List.mem_append.mp hx with hx | hx
    · exact h.timeouts x hx hxto
    · rw [List.mem_singleton.mp hx] at hxto
      obtain ⟨e, rfl, he⟩ := hto.mp hxto
      rcases (ht.error e rfl).mem with hcls | hmem
      · simp [TimedOut, is_timeout_of_protocol hcls] at he
      · exact ⟨e, he, h.suffix.subset hmem⟩

section

variable {α β ρ : Type} {read : StreamM α} {treat : ρ → α → StreamM (ρ ⊕ β)} {timed_out : PyError}
  {deadline : Nat}

theorem poll_conserves (hr : Reader read) (ht : ∀ state x, Sends (treat state x)) (turns : Nat)
    (state : ρ) (w : Wire) :
    (poll read treat timed_out deadline turns state).Ends w
      fun _ w' => ∃ heard, Conserves w heard w' := by
  refine poll_keeps ?_ ?_ ?_ turns state w ⟨[], Conserves.refl w⟩
  · rintro w' ⟨heard, h⟩
    exact ⟨heard, h.same rfl rfl⟩
  · rintro w' ⟨heard, h⟩
    apply (hr.took w').mono
    intro r w'' htook
    obtain ⟨entry, h'⟩ := h.took htook
    exact ⟨_, h'⟩
  · rintro state x w' ⟨heard, h⟩
    apply ((ht state x).ends w').mono
    intro r w'' hs
    exact ⟨heard, h.same hs.arrivals hs.reads⟩

/-- Every timeout that the loop met came between two frames: the read that it ended had
taken no byte. -/
def Lossless (w w' : Wire) : Prop :=
  ∀ read ∈ w'.reads.drop w.reads.length, read.timed_out = true → read.taken = []

/-- The reads of a run are its first read and those of the rest of the run. -/
theorem Lossless.step {w w' w'' : Wire} {read : FrameRead} (h : Lossless w w'')
    (hread : w'.reads = w.reads ++ [read]) (hlater : w'.reads <+: w''.reads) :
    (read.timed_out = true → read.taken = []) ∧ Lossless w' w'' := by
  obtain ⟨later, hlater⟩ := hlater
  have hdrop : w''.reads.drop w.reads.length = read :: later := by
    rw [← hlater, hread, List.append_assoc, List.drop_left]
    rfl
  have hdrop' : w''.reads.drop w'.reads.length = later := by
    rw [← hlater, List.drop_left]
  unfold Lossless at h ⊢
  rw [hdrop] at h
  rw [hdrop']
  exact ⟨h read List.mem_cons_self, fun x hx => h x (List.mem_cons_of_mem read hx)⟩

/-- The rest of a loop only adds to the log of the reads. -/
theorem poll_adds_reads (hr : Reader read) (ht : ∀ state x, Sends (treat state x)) (turns : Nat)
    (state : ρ) (w : Wire) :
    w.reads <+: (poll read treat timed_out deadline turns state w).2.reads := by
  obtain ⟨heard, hcons⟩ : ∃ heard, Conserves w heard
      (poll read treat timed_out deadline turns state w).2 := poll_conserves hr ht turns state w
  exact ⟨heard, hcons.reads.symm⟩

/-- From here on, each reading of the clock comes before the deadline. -/
def Early (deadline : Nat) (w : Wire) : Prop := ∀ k, w.readings ≤ k → w.clock k < deadline

theorem Early.took {w w' : Wire} {r : Outcome PyError α} (h : Early deadline w)
    (htook : Took w.ticking r w') : Early deadline w' := by
  obtain ⟨rest, entry, rfl, -, -⟩ := htook.wire
  intro k hk
  exact h k (Nat.le_of_succ_le hk)

theorem Early.sends {w w' : Wire} (h : Early deadline w) (hs : SendsOnly w w') :
    Early deadline w' := by
  unfold Early
  rw [hs.readings, hs.clock]
  exact h

theorem Stripped.ticking {s t : Wire} (h : Stripped s t) : Stripped s.ticking t.ticking :=
  ⟨h.items, h.send_errors, h.serials, h.drawn, h.sent, h.reads⟩

/-- A timeout before the first byte of a frame leaves the other wire where it is. -/
theorem Stripped.retry {s t t' : Wire} {e : PyError} {entry : FrameRead} (h : Stripped s t)
    (htook : Took t.ticking (.raised e : Outcome PyError α) t') (he : TimedOut e)
    (hreads : t'.reads = t.reads ++ [entry]) (htimed : entry.timed_out = true)
    (htaken : entry.taken = []) : Stripped s t' := by
  have hitems : t.ticking.items = .fail e :: t'.items := by
    apply htook.between he
    intro other hother
    rw [ticking_reads, hreads] at hother
    cases List.append_cancel_left hother
    exact htaken
  obtain ⟨rest, read, hw, -, -⟩ := htook.wire
  constructor
  · rw [h.items, ← ticking_items t, hitems]
    exact List.filter_cons_of_neg (by simp [Item.kept, is_kept, he])
  · rw [h.send_errors, hw]
    rfl
  · rw [h.serials, hw]
    rfl
  · rw [h.drawn, hw]
    rfl
  · rw [h.sent, hw]
    rfl
  · rw [h.reads, hreads, completed_append]
    simp [completed, htimed]

/-- When no timeout splits a frame, the loop runs as it does without the timeouts. -/
theorem poll_stripped (hr : Reader read) (ht : ∀ state x, Sends (treat state x))
    (n m : Nat) (state : ρ) (s t : Wire) (hn : t.items.length < n) (hm : s.items.length < m)
    (hst : Stripped s t) (hs : Early deadline s) (hc : Early deadline t)
    (hl : Lossless t (poll read treat timed_out deadline n state t).2) :
    (poll read treat timed_out deadline m state s).1 =
        (poll read treat timed_out deadline n state t).1 ∧
      Stripped (poll read treat timed_out deadline m state s).2
        (poll read treat timed_out deadline n state t).2 := by
  induction n generalizing m state s t with
  | zero => exact absurd hn (Nat.not_lt_zero _)
  | succ n ih =>
    have hsim := hr.sim s.ticking t.ticking hst.ticking
    have hturn : poll read treat timed_out deadline (n + 1) state t = _ :=
      poll_turn n state (hc t.readings (Nat.le_refl _))
    rcases hread : read t.ticking with ⟨r, t'⟩
    have htook := (hr.took t.ticking).of_run hread
    rw [hread] at hsim hturn
    obtain ⟨rest, entry, ht', -, hto⟩ := htook.wire
    have hreads : t'.reads = t.reads ++ [entry] := by
      rw [ht']
      rfl
    by_cases hretry : ∃ e, r = .raised e ∧ TimedOut e
    · -- The read timed out before the first byte: only the timeout itself is gone.
      obtain ⟨e, rfl, he⟩ := hretry
      have htimed := hto.mpr ⟨e, rfl, he⟩
      simp only [he, if_true] at hturn
      rw [hturn] at hl ⊢
      obtain ⟨htaken, hl'⟩ := hl.step hreads (poll_adds_reads hr ht n state t')
      refine ih m state s t' ?_ hm (hst.retry htook he hreads htimed (htaken htimed)) hs
        (hc.took htook) hl'
      have := htook.shorter (by simp)
      exact Nat.lt_of_lt_of_le this (Nat.le_of_lt_succ hn)
    · obtain ⟨m, rfl⟩ : ∃ k, m = k + 1 := ⟨m - 1, by omega⟩
      have hturn' : poll read treat timed_out deadline (m + 1) state s = _ :=
        poll_turn m state (hs s.readings (Nat.le_refl _))
      rcases hread' : read s.ticking with ⟨r', s'⟩
      have htook' := (hr.took s.ticking).of_run hread'
      rw [hread'] at hsim hturn'
      obtain ⟨rfl, hst''⟩ : r' = r ∧ Stripped s' t' :=
        hsim.resolve_left fun ⟨e, hr', he⟩ => hretry ⟨e, hr', he⟩
      rw [hturn] at hl ⊢
      rw [hturn']
      cases r' with
      | waiting => exact ⟨rfl, hst''⟩
      | raised e =>
        have he : is_timeout e = false := by
          simpa using fun he => hretry ⟨e, rfl, he⟩
        simp only [he, Bool.false_eq_true, if_false]
        exact ⟨trivial, hst''⟩
      | ok x =>
        have htreat : Prog.Sim (fun _ => False) Stripped (treat state x) (treat state x) :=
          (ht state x).sim
        have htreat := htreat s' t' hst''
        rcases htt : treat state x t' with ⟨o, t''⟩
        rcases hts : treat state x s' with ⟨o', s''⟩
        have hsendt := ((ht state x).ends t').of_run htt
        have hsends := ((ht state x).ends s').of_run hts
        rw [htt, hts] at htreat
        obtain ⟨rfl, hst3⟩ : o' = o ∧ Stripped s'' t'' :=
          htreat.resolve_left fun ⟨_, _, hbad⟩ => hbad
        simp only [htt, hts] at hl ⊢
        rcases o' with (state' | result) | e | _
        · simp only at hl ⊢
          have hreads' : t''.reads = t.reads ++ [entry] := hsendt.reads.trans hreads
          obtain ⟨-, hl'⟩ := hl.step hreads' (poll_adds_reads hr ht n state' t'')
          refine ih m state' s'' t'' ?_ ?_ hst3 ((hs.took htook').sends hsends)
            ((hc.took htook).sends hsendt) hl'
          · rw [hsendt.items]
            exact Nat.lt_of_lt_of_le (htook.shorter (by simp)) (Nat.le_of_lt_succ hn)
          · rw [hsends.items]
            exact Nat.lt_of_lt_of_le (htook'.shorter (by simp)) (Nat.le_of_lt_succ hm)
        · exact ⟨rfl, hst3⟩
        · exact ⟨rfl, hst3⟩
        · exact ⟨rfl, hst3⟩

end

/-! ## Both runs of a program -/

/-- The two runs give the same outcome, sent the same bytes, read the same frames from the
same bytes, and leave the same bytes to read. -/
structure SameRun {α : Type} (run run' : Outcome PyError α × Wire) : Prop where
  outcome : run.1 = run'.1
  sent : run.2.sent = run'.2.sent
  frames : completed run.2.reads = completed run'.2.reads
  unread : run.2.unread = run'.2.unread

/-- From the next reading of the clock on, the deadline does not pass. -/
def InTime (timeout : Nat) (w : Wire) : Prop :=
  ∀ k, w.readings < k → w.clock k < w.clock w.readings + timeout

/-- The wire `t` of a run and the wire `s` of the run without timeouts, at the same point. -/
structure Beside (timeout : Nat) (s t : Wire) : Prop where
  stripped : Stripped s t
  clock : s.clock = t.clock
  readings : s.readings = t.readings
  reads : s.reads = t.reads
  inTime : InTime timeout t

/-- The run is the same without the timeouts exactly when no timeout splits a frame. -/
def Transparent {α : Type} (timeout : Nat) (m : StreamM α) : Prop :=
  ∀ s t, Beside timeout s t → (SameRun (m t) (m s) ↔ Lossless t (m t).2)

theorem Beside.sends {timeout : Nat} {s t s' t' : Wire} (h : Beside timeout s t)
    (hst : Stripped s' t') (hs : SendsOnly s s') (ht : SendsOnly t t') : Beside timeout s' t' := by
  refine ⟨hst, ?_, ?_, ?_, ?_⟩
  · rw [hs.clock, ht.clock, h.clock]
  · rw [hs.readings, ht.readings, h.readings]
  · rw [hs.reads, ht.reads, h.reads]
  · unfold InTime
    rw [ht.readings, ht.clock]
    exact h.inTime

theorem lossless_of_reads {w w' : Wire} (h : w'.reads = w.reads) : Lossless w w' := by
  unfold Lossless
  rw [h, List.drop_length]
  simp

theorem sameRun_of_stripped {α : Type} {r : Outcome PyError α} {s t : Wire} (h : Stripped s t) :
    SameRun (r, t) (r, s) :=
  ⟨rfl, h.sent.symm, h.reads.symm, h.unread.symm⟩

/-- What is sent before a loop changes nothing for the loop. -/
theorem Transparent.bind {α β : Type} {timeout : Nat} {m : StreamM α} {f : α → StreamM β}
    (hm : Sends m) (hf : ∀ a, Transparent timeout (f a)) : Transparent timeout (m >>= f) := by
  intro s t h
  have hsim : Prog.Sim (fun _ => False) Stripped m m := hm.sim
  have hsim := hsim s t h.stripped
  rcases hmt : m t with ⟨r, t'⟩
  rcases hms : m s with ⟨r', s'⟩
  have ht := (hm.ends t).of_run hmt
  have hs := (hm.ends s).of_run hms
  rw [hmt, hms] at hsim
  obtain ⟨rfl, hst⟩ : r' = r ∧ Stripped s' t' := hsim.resolve_left fun ⟨_, _, hbad⟩ => hbad
  have hdone : ∀ o : Outcome PyError β, SameRun (o, t') (o, s') ↔ Lossless t t' := fun o =>
    ⟨fun _ => lossless_of_reads ht.reads, fun _ => sameRun_of_stripped hst⟩
  cases r' with
  | ok a =>
    rw [Prog.bind_ok hmt, Prog.bind_ok hms, hf a s' t' (h.sends hst hs ht)]
    unfold Lossless
    rw [ht.reads]
  | raised e =>
    rw [Prog.bind_raised hmt, Prog.bind_raised hms]
    exact hdone (.raised e)
  | waiting =>
    rw [Prog.bind_waiting hmt, Prog.bind_waiting hms]
    exact hdone .waiting

/-! ## Counting the bytes -/

theorem length_taken_completed (reads : List FrameRead) :
    ((completed reads).map FrameRead.taken).flatten.length ≤
      (reads.map FrameRead.taken).flatten.length ∧
    (((completed reads).map FrameRead.taken).flatten.length =
      (reads.map FrameRead.taken).flatten.length →
      ∀ read ∈ reads, read.timed_out = true → read.taken = []) := by
  induction reads with
  | nil => simp [completed]
  | cons read reads ih =>
    obtain ⟨hle, heq⟩ := ih
    unfold completed at *
    by_cases hto : read.timed_out = true
    · rw [List.filter_cons_of_neg (by simp [hto])]
      simp only [List.map_cons, List.flatten_cons, List.length_append]
      refine ⟨by omega, fun hlen => ?_⟩
      intro x hx hxto
      rcases List.mem_cons.mp hx with rfl | hx
      · exact List.eq_nil_of_length_eq_zero (by omega)
      · exact heq (by omega) x hx hxto
    · rw [List.filter_cons_of_pos (by simp [hto])]
      simp only [List.map_cons, List.flatten_cons, List.length_append]
      refine ⟨by omega, fun hlen => ?_⟩
      intro x hx hxto
      rcases List.mem_cons.mp hx with rfl | hx
      · exact absurd hxto hto
      · exact heq (by omega) x hx hxto

/-- Runs that read the same frames and leave the same bytes lost no byte. -/
theorem lossless_of_sameRun {α : Type} {s t s' t' : Wire} {r : Outcome PyError α}
    {heard heard' : List FrameRead} (hst : Stripped s t) (hr : s.reads = t.reads)
    (ht : Conserves t heard t') (hs : Conserves s heard' s') (h : SameRun (r, t') (r, s')) :
    Lossless t t' := by
  have hnone : completed heard' = heard' := by
    refine List.filter_eq_self.mpr ?_
    intro read hread
    cases hto : read.timed_out with
    | false => rfl
    | true =>
      obtain ⟨e, he, hmem⟩ := hs.timeouts read hread hto
      rw [hst.items] at hmem
      have := (List.mem_filter.mp hmem).2
      simp only [Item.kept, is_kept, Bool.not_eq_true'] at this
      rw [TimedOut, this] at he
      cases he
  have hsame : completed heard = heard' := by
    have hframes := h.frames
    simp only [ht.reads, hs.reads, completed_append, hr, hnone] at hframes
    exact List.append_cancel_left hframes
  have hbytes : ((completed heard).map FrameRead.taken).flatten.length =
      (heard.map FrameRead.taken).flatten.length := by
    have hunread := h.unread
    simp only at hunread
    have hstart : t.unread = s.unread := hst.unread.symm
    rw [ht.unread, hs.unread, hunread] at hstart
    rw [hsame, List.append_cancel_right hstart]
  unfold Lossless
  rw [ht.reads, List.drop_left]
  exact (length_taken_completed heard).2 hbytes

/-! ## The loops of a session -/

theorem transparent_poll {α β ρ : Type} {read : StreamM α} {treat : ρ → α → StreamM (ρ ⊕ β)}
    (hr : Reader read) (ht : ∀ state x, Sends (treat state x)) (timed_out : PyError)
    (timeout : Nat) (state : ρ) :
    Transparent timeout (monotonic >>= fun now =>
      poll_all read treat timed_out (now + timeout) state) := by
  intro s t h
  have hclock : s.clock s.readings = t.clock t.readings := by rw [h.clock, h.readings]
  rw [Prog.bind_ok (monotonic_run t),
    Prog.bind_ok (monotonic_run s), hclock]
  unfold poll_all
  have hst := h.stripped.ticking
  constructor
  · intro hsame
    obtain ⟨heard, hcons⟩ : ∃ heard, Conserves t.ticking heard (poll read treat timed_out
        (t.clock t.readings + timeout) (t.ticking.items.length + 1) state t.ticking).2 :=
      poll_conserves hr ht _ state t.ticking
    obtain ⟨heard', hcons'⟩ : ∃ heard, Conserves s.ticking heard (poll read treat timed_out
        (t.clock t.readings + timeout) (s.ticking.items.length + 1) state s.ticking).2 :=
      poll_conserves hr ht _ state s.ticking
    have hl : Lossless t.ticking (poll read treat timed_out (t.clock t.readings + timeout)
        (t.ticking.items.length + 1) state t.ticking).2 :=
      lossless_of_sameRun (r := (.waiting : Outcome PyError β)) hst h.reads hcons hcons'
        ⟨rfl, hsame.sent, hsame.frames, hsame.unread⟩
    exact hl
  · intro hl
    have hc : Early (t.clock t.readings + timeout) t.ticking := fun k hk => h.inTime k hk
    have hs : Early (t.clock t.readings + timeout) s.ticking := by
      intro k hk
      rw [show s.ticking.clock = t.clock from h.clock]
      rw [show s.ticking.readings = t.ticking.readings by rw [Wire.ticking, Wire.ticking, h.readings]]
        at hk
      exact hc k hk
    obtain ⟨hout, hst'⟩ := poll_stripped hr ht (t.ticking.items.length + 1)
      (s.ticking.items.length + 1) state s.ticking t.ticking (Nat.lt_succ_self _)
      (Nat.lt_succ_self _) hst hs hc hl
    exact ⟨hout.symm, hst'.sent.symm, hst'.reads.symm, hst'.unread.symm⟩

theorem transparent_associate (timeout : Nat) : Transparent timeout (associate timeout) := by
  unfold associate
  apply Transparent.bind (sends_pack_frame _ _)
  intro request
  apply Transparent.bind (Sends.sendall _)
  intro _
  exact transparent_poll reader_read_frame sends_treat_association _ _ _

theorem transparent_transact (timeout opcode transaction_id : Nat) (payload : Bytes) :
    Transparent timeout (transact timeout opcode transaction_id payload) := by
  have hloop := transparent_poll reader_read_message
    (sends_treat_message opcode transaction_id payload.length) (exchange_timed_out opcode) timeout
    { pull_sent := decide (payload = []) }
  unfold transact
  apply Transparent.bind (sends_pack_message _ _ _ _ _ _ _)
  intro request
  apply Transparent.bind (Sends.sendall _)
  intro _
  by_cases hempty : payload = []
  · simp only [hempty, if_true] at hloop ⊢
    exact Transparent.bind (sends_send_pull _ _ _) fun _ => hloop
  · simp only [hempty, if_false] at hloop ⊢
    exact hloop

theorem Beside.start {timeout : Nat} {w : Wire} (h : InTime timeout w) :
    Beside timeout w.without_timeouts w :=
  ⟨stripped_without_timeouts w, rfl, rfl, rfl, h⟩

/-- The outcome of a call of the session, and the wire after it. -/
def on_wire {α : Type} (run : Outcome PyError α × TmpAppV2Session) : Outcome PyError α × Wire :=
  (run.1, run.2.stream)

/-- An association and an exchange run as they do without the timeouts exactly when no
timeout comes after the first byte of a frame. -/
theorem only_a_timeout_inside_a_frame_is_felt (timeout : Nat) (w : Wire) (q : Request)
    (s : TmpAppV2Session) (hw : InTime timeout w) (hs : InTime s.timeout s.stream) :
    (SameRun (associate timeout w) (associate timeout w.without_timeouts) ↔
      Lossless w (associate timeout w).2) ∧
    (SameRun (on_wire (exchange q.opcode q.payload s))
        (on_wire (exchange q.opcode q.payload { s with stream := s.stream.without_timeouts })) ↔
      Lossless s.stream (exchange q.opcode q.payload s).2.stream) := by
  refine ⟨transparent_associate timeout _ _ (Beside.start hw), ?_⟩
  rw [exchange_run, exchange_run]
  exact transparent_transact s.timeout _ _ _ _ _ (Beside.start hs)

/-- ACCEPT, after a timeout. -/
def late_accept : Wire where
  arrivals := [.fail { cls := .TimeoutError }, .data [1, 1, 2, 0]]
  clock := fun _ => 0

theorem a_late_accept_is_not_felt :
    SameRun (associate 8 late_accept) (associate 8 late_accept.without_timeouts) ∧
      SameRun (on_wire (exchange 1 [] { stream := late_accept, timeout := 8 }))
        (on_wire (exchange 1 [] { stream := late_accept.without_timeouts, timeout := 8 })) := by
  have h := only_a_timeout_inside_a_frame_is_felt 8 late_accept ⟨1, [], by decide, by decide⟩
    { stream := late_accept, timeout := 8 } (fun _ _ => show 0 < 8 by decide)
    (fun _ _ => show 0 < 8 by decide)
  refine ⟨h.1.mpr ?_, h.2.mpr ?_⟩
  · unfold Lossless
    decide +kernel
  · unfold Lossless
    decide +kernel

/-- ACCEPT, with a timeout after its second byte. -/
def split_accept : Wire where
  arrivals := [.data [1, 1], .fail { cls := .TimeoutError }, .data [2, 0], .data []]
  clock := fun _ => 0

/-- The association fails, and it succeeds on the same bytes without the timeout. -/
theorem a_split_accept_is_lost :
    InTime 8 split_accept ∧ (associate 8 split_accept).1 = .raised (eof_error 2 4) ∧
      (associate 8 split_accept.without_timeouts).1 = .ok () ∧
      ¬ SameRun (associate 8 split_accept) (associate 8 split_accept.without_timeouts) := by
  have h : (associate 8 split_accept).1 = .raised (eof_error 2 4) := by
    decide +kernel
  have h' : (associate 8 split_accept.without_timeouts).1 = .ok () := by decide +kernel
  refine ⟨fun k _ => show 0 < 8 by decide, h, h', fun hsame => ?_⟩
  have hsplit := h.symm.trans (hsame.outcome.trans h')
  cases hsplit

end tplink_deco_api.tmp_protocol
